import AdaptiveCruiseControl.Avoidance.Envelope
import AdaptiveCruiseControl.Avoidance.RouteHandler
import Mathlib.Order.CompletePartialOrder

/-!
# The attention area of the path

`separateObjectsByPath` splits the dynamic objects into those that meet the attention area of
the path and the others.  The attention area is built step by step along the path, up to the
first point farther from the ego than the check distance: the vehicle polygon, widened on each
side by the largest lateral offset any object class asks for, is placed at both poses of the
step, and the convex hull of the two placements is joined to the area.  While the module runs
the area is buffered by a metre.

Boost's and tf2's operations are queries whose contracts, stated in `SweepSets`, are what boost
guarantees of point sets: the convex hull covers the hull of its points, the union of two
polygons whose interiors overlap is one polygon covering both, the union with the empty polygon
covers the other, `correct` and a non-negative buffer lose no point, and `disjoint` is
disjointness.  Against these the loop covers the sweep of every checked step: two consecutive
steps share the placement at their common pose, so when the placed detection polygon encloses an
area every union overlaps the area built so far and none is split off.  Hence every object whose
footprint meets the sweep of a checked step is a target, and every object found while the module
is idle is still found while it runs.
-/

namespace AdaptiveCruiseControl
namespace Avoidance

/-! ## The model -/

/-- The fields of `vehicle_info_util::VehicleInfo` the detection polygon reads. -/
structure VehicleInfo where
  maxLongitudinalOffsetM : ℚ
  vehicleWidthM : ℚ
  rearOverhangM : ℚ
  deriving DecidableEq, Repr, Inhabited

/-- The operations of boost and tf2 that `separateObjectsByPath` calls besides those of the
envelope code. -/
structure SweepOps extends PolygonOps where
  /-- `tf2::doTransform` of a point with `pose2transform(pose)` -/
  doTransform : Pose → Point → Point
  /-- `boost::geometry::convex_hull(polygon, hull)` -/
  convexHull : Polygon2d → Polygon2d
  /-- `boost::geometry::buffer(polygon, result, distance_symmetric(distance), ...)`: the
  polygons of `result` -/
  buffer : Polygon2d → ℚ → List Polygon2d
  /-- `boost::geometry::disjoint(a, b)` -/
  disjoint : Polygon2d → Polygon2d → Bool
  deriving Inhabited

/-- `createVehiclePolygon`: the vehicle's footprint widened by `offset` on each side, as the
points of a `geometry_msgs::msg::Polygon`.  Their `float` rounding is not modelled. -/
def createVehiclePolygon (vehicleInfo : VehicleInfo) (offset : ℚ) : List Point :=
  let frontM := vehicleInfo.maxLongitudinalOffsetM
  let widthM := vehicleInfo.vehicleWidthM / 2.0 + offset
  let backM := vehicleInfo.rearOverhangM
  [⟨frontM, -widthM, 0.0⟩, ⟨frontM, widthM, 0.0⟩, ⟨-backM, widthM, 0.0⟩, ⟨-backM, -widthM, 0.0⟩]

/-- One block of `createOneStepPolygon`: the base polygon moved to a pose, as the planar points
it contributes. -/
def placePolygon (ops : SweepOps) (pose : Pose) (basePolygon : List Point) : Polygon2d :=
  (basePolygon.map (ops.doTransform pose)).map fun p => ⟨p.x, p.y⟩

/-- `createOneStepPolygon`: the convex hull of the base polygon placed at both poses. -/
def createOneStepPolygon (ops : SweepOps) (pFront pBack : Pose) (basePolygon : List Point) :
    Polygon2d :=
  let oneStepPolygon := placePolygon ops pFront basePolygon ++ placePolygon ops pBack basePolygon
  ops.correct (ops.convexHull oneStepPolygon)

/-- The entries of `parameters->object_parameters`, one for every label. -/
def allLabels : List ObjectClassification :=
  [.unknown, .car, .truck, .bus, .trailer, .motorcycle, .bicycle, .pedestrian]

/-- `max_offset` of `separateObjectsByPath`: the largest lateral offset of the object classes,
and at least `0`. -/
def maxObjectOffset (parameters : AvoidanceParameters) : ℚ :=
  allLabels.foldl (fun maxOffset label =>
    let p := parameters.objectParameterAt label
    let offset := 2.0 * p.envelopeBufferMargin + p.safetyBufferLateral + p.avoidMarginLateral
    max maxOffset offset) 0.0

/-- The union of one loop step: the area is replaced by the first polygon of the union,
corrected, unless the union is empty. -/
def joinAttentionArea (ops : SweepOps) (attentionArea oneStep : Polygon2d) : Polygon2d :=
  match ops.union attentionArea oneStep with
  | [] => attentionArea
  | front :: _ => ops.correct front

/-- The loop of `separateObjectsByPath` from the step at index `i`, whose poses are the first
two of the list: it breaks at the first step farther from the ego than the check distance. -/
def attentionAreaLoop (ops : SweepOps) (geometry : Geometry) (path : List Pose) (egoIdx : Nat)
    (detectionArea : List Point) (objectCheckForwardDistance : ℚ) :
    Nat → Polygon2d → List Pose → Polygon2d
  | i, attentionArea, pEgoFront :: points =>
    match points with
    | pEgoBack :: _ =>
      let distanceFromEgo := geometry.calcSignedArcLengthIdx path egoIdx i
      if distanceFromEgo > objectCheckForwardDistance then attentionArea
      else
        let egoOneStepPolygon := createOneStepPolygon ops pEgoFront pEgoBack detectionArea
        attentionAreaLoop ops geometry path egoIdx detectionArea objectCheckForwardDistance
          (i + 1) (joinAttentionArea ops attentionArea egoOneStepPolygon) points
    | [] => attentionArea
  | _, attentionArea, [] => attentionArea

/-- `MARGIN` of the buffer applied while the module runs. -/
def attentionMargin : ℚ := 1.0

/-- The attention area buffered by `MARGIN` when the module runs, unless the buffer is empty. -/
def expandAttentionArea (ops : SweepOps) (isRunning : Bool) (attentionArea : Polygon2d) :
    Polygon2d :=
  if isRunning then
    match ops.buffer attentionArea attentionMargin with
    | [] => attentionArea
    | front :: _ => front
  else attentionArea

/-- The `std::for_each` over the objects: each goes to the others when its footprint is disjoint
from the attention area, and to the targets otherwise. -/
def separateObjects (ops : SweepOps) (attentionArea : Polygon2d) (objects : List PredictedObject) :
    List PredictedObject × List PredictedObject :=
  objects.foldl (fun (targetObjects, otherObjects) object =>
    let objPolygon := ops.toPolygon2d object
    if ops.disjoint objPolygon attentionArea then (targetObjects, otherObjects ++ [object])
    else (targetObjects ++ [object], otherObjects)) ([], [])

/-- `separateObjectsByPath`, with `planner_data->parameters.vehicle_info` and the objects of
`planner_data->dynamic_object`.  It throws on an empty path.  The detection area written to the
debug data is not modelled. -/
def separateObjectsByPath (ops : SweepOps) (geometry : Geometry) (vehicleInfo : VehicleInfo)
    (objects : List PredictedObject) (path : List Pose) (parameters : AvoidanceParameters)
    (objectCheckForwardDistance : ℚ) (isRunning : Bool) :
    Option (List PredictedObject × List PredictedObject) :=
  if path.isEmpty then none
  else
    let detectionArea := createVehiclePolygon vehicleInfo (maxObjectOffset parameters)
    let egoIdx := geometry.findEgoIndex path
    let attentionArea := attentionAreaLoop ops geometry path egoIdx detectionArea
      objectCheckForwardDistance 0 [] path
    -- expand detection area width only when the module is running
    let attentionArea := expandAttentionArea ops isRunning attentionArea
    some (separateObjects ops attentionArea objects)

/-! ## The objects -/

/-- The objects go, in order, to the targets when they meet the area and to the others when
they do not. -/
theorem separateObjects_eq (ops : SweepOps) (attentionArea : Polygon2d)
    (objects : List PredictedObject) :
    separateObjects ops attentionArea objects =
      (objects.filter fun o => !ops.disjoint (ops.toPolygon2d o) attentionArea,
        objects.filter fun o => ops.disjoint (ops.toPolygon2d o) attentionArea) := by
  suffices h : ∀ targets others : List PredictedObject,
      objects.foldl (fun (targetObjects, otherObjects) object =>
        if ops.disjoint (ops.toPolygon2d object) attentionArea then
          (targetObjects, otherObjects ++ [object])
        else (targetObjects ++ [object], otherObjects)) (targets, others) =
      (targets ++ objects.filter fun o => !ops.disjoint (ops.toPolygon2d o) attentionArea,
        others ++ objects.filter fun o => ops.disjoint (ops.toPolygon2d o) attentionArea) from
    h [] []
  induction objects with
  | nil => simp
  | cons o objects ih =>
    intro targets others
    by_cases hdisjoint : ops.disjoint (ops.toPolygon2d o) attentionArea = true <;>
      simp [hdisjoint, ih, List.filter_cons]

/-! ## Polygons as point sets -/

/-- A point-set meaning of polygons under which the operations of the sweep keep boost's
contracts. -/
structure SweepSets (ops : SweepOps) where
  /-- the points a polygon covers -/
  region : Polygon2d → Set (ℚ × ℚ)
  region_nil : region [] = ∅
  convexHull_subset : ∀ p, convexHull ℚ (vertices p) ⊆ region (ops.convexHull p)
  subset_correct : ∀ p, region p ⊆ region (ops.correct p)
  union_covers : ∀ a b, (interior (region a) ∩ interior (region b)).Nonempty →
    ∃ u rest, ops.union a b = u :: rest ∧ region a ∪ region b ⊆ region u
  union_nil_covers : ∀ b, ∃ u rest, ops.union [] b = u :: rest ∧ region b ⊆ region u
  subset_buffer : ∀ p distance, 0 ≤ distance → ∀ u rest, ops.buffer p distance = u :: rest →
    region p ⊆ region u
  disjoint_iff : ∀ a b, ops.disjoint a b = true ↔ Disjoint (region a) (region b)

/-- The points the ego sweeps in one step: the convex hull of the base polygon placed at both
poses. -/
def sweptArea (ops : SweepOps) (pFront pBack : Pose) (basePolygon : List Point) :
    Set (ℚ × ℚ) :=
  convexHull ℚ
    (vertices (placePolygon ops pFront basePolygon ++ placePolygon ops pBack basePolygon))

/-- The detection polygon of a vehicle of positive length and width, widened by a non-negative
offset, encloses an area: it holds the corners of a box with sides of positive length. -/
theorem interior_convexHull_createVehiclePolygon {vehicleInfo : VehicleInfo} {offset : ℚ}
    (hlength : 0 < vehicleInfo.maxLongitudinalOffsetM + vehicleInfo.rearOverhangM)
    (hwidth : 0 < vehicleInfo.vehicleWidthM) (hoffset : 0 ≤ offset) :
    (interior (convexHull ℚ (vertices ((createVehiclePolygon vehicleInfo offset).map
      fun p => (⟨p.x, p.y⟩ : Point2d))))).Nonempty := by
  set w := vehicleInfo.vehicleWidthM / 2.0 + offset with hw
  have hw : 0 < w := by norm_num [hw]; linarith
  have hcorners : vertices (Box.toPolygon ⟨⟨-vehicleInfo.rearOverhangM, -w⟩,
      ⟨vehicleInfo.maxLongitudinalOffsetM, w⟩⟩) ⊆
      vertices ((createVehiclePolygon vehicleInfo offset).map fun p => (⟨p.x, p.y⟩ : Point2d)) := by
    rintro _ ⟨p, hp, rfl⟩
    refine ⟨p, ?_, rfl⟩
    simp only [Box.toPolygon, List.mem_cons, List.not_mem_nil, or_false] at hp
    rcases hp with rfl | rfl | rfl | rfl | rfl <;> simp [createVehiclePolygon, w]
  exact (interior_convexHull_toPolygon_nonempty (by dsimp only; linarith)
    (by dsimp only; linarith)).mono (interior_mono (convexHull_mono hcorners))

/-- `max_offset` is at least the `0.0` it starts from. -/
theorem zero_le_maxObjectOffset (parameters : AvoidanceParameters) :
    0 ≤ maxObjectOffset parameters := by
  have hfold : ∀ (labels : List ObjectClassification) (init : ℚ), init ≤ labels.foldl
      (fun maxOffset label =>
        let p := parameters.objectParameterAt label
        let offset := 2.0 * p.envelopeBufferMargin + p.safetyBufferLateral + p.avoidMarginLateral
        max maxOffset offset) init := by
    intro labels
    induction labels with
    | nil => exact fun _ => le_rfl
    | cons label labels ih => exact fun init => (le_max_left _ _).trans (ih _)
  calc (0 : ℚ) = 0.0 := by norm_num
    _ ≤ maxObjectOffset parameters := hfold allLabels 0.0

section Semantics

variable {ops : SweepOps} (sets : SweepSets ops)

theorem sweptArea_subset (pFront pBack : Pose) (basePolygon : List Point) :
    sweptArea ops pFront pBack basePolygon ⊆
      sets.region (createOneStepPolygon ops pFront pBack basePolygon) :=
  (sets.convexHull_subset _).trans (sets.subset_correct _)

theorem convexHull_front_subset_sweptArea (pFront pBack : Pose) (basePolygon : List Point) :
    convexHull ℚ (vertices (placePolygon ops pFront basePolygon)) ⊆
      sweptArea ops pFront pBack basePolygon :=
  convexHull_mono (vertices_subset_append_left _ _)

theorem convexHull_back_subset_sweptArea (pFront pBack : Pose) (basePolygon : List Point) :
    convexHull ℚ (vertices (placePolygon ops pBack basePolygon)) ⊆
      sweptArea ops pFront pBack basePolygon :=
  convexHull_mono (vertices_subset_append_right _ _)

/-- A union step keeps the area and adds the step's polygon, when the area is empty or their
interiors overlap. -/
theorem joinAttentionArea_covers {attentionArea oneStep : Polygon2d}
    (hmeet : attentionArea = [] ∨
      (interior (sets.region attentionArea) ∩ interior (sets.region oneStep)).Nonempty) :
    sets.region attentionArea ∪ sets.region oneStep ⊆
      sets.region (joinAttentionArea ops attentionArea oneStep) := by
  rcases hmeet with rfl | hmeet
  · obtain ⟨u, rest, hunion, hcover⟩ := sets.union_nil_covers oneStep
    simp only [joinAttentionArea, hunion, sets.region_nil, Set.empty_union]
    exact hcover.trans (sets.subset_correct u)
  · obtain ⟨u, rest, hunion, hcover⟩ := sets.union_covers _ _ hmeet
    simp only [joinAttentionArea, hunion]
    exact hcover.trans (sets.subset_correct u)

/-- The loop keeps the area it starts from and covers the sweep of every step it reaches before
the check distance, provided the base polygon placed at every pose encloses an area and the area
starts empty or covers the placement at the first pose. -/
theorem attentionAreaLoop_covers {geometry : Geometry} {path : List Pose} {egoIdx : Nat}
    {basePolygon : List Point} {objectCheckForwardDistance : ℚ} :
    ∀ (points : List Pose) (i : Nat) (attentionArea : Polygon2d),
      (∀ p ∈ points,
        (interior (convexHull ℚ (vertices (placePolygon ops p basePolygon)))).Nonempty) →
      (attentionArea = [] ∨
        ∀ pFront ∈ points.head?, convexHull ℚ (vertices (placePolygon ops pFront basePolygon)) ⊆
          sets.region attentionArea) →
      let result := attentionAreaLoop ops geometry path egoIdx basePolygon
        objectCheckForwardDistance i attentionArea points
      sets.region attentionArea ⊆ sets.region result ∧
        ∀ k (hk : k + 1 < points.length),
          (∀ l ≤ k, geometry.calcSignedArcLengthIdx path egoIdx (i + l) ≤
            objectCheckForwardDistance) →
          sweptArea ops points[k] points[k + 1] basePolygon ⊆ sets.region result
  | [], _, _, _, _ => ⟨subset_rfl, fun _ hk => absurd hk (by simp)⟩
  | [_], _, _, _, _ => ⟨subset_rfl, fun k hk => absurd hk (by simp)⟩
  | pFront :: pBack :: rest, i, attentionArea, hsolid, hstart => by
    intro result
    by_cases hfar : geometry.calcSignedArcLengthIdx path egoIdx i > objectCheckForwardDistance
    · simp only [result, attentionAreaLoop, hfar, ↓reduceIte]
      exact ⟨subset_rfl, fun k _ hnear => absurd (hnear 0 (Nat.zero_le k)) (by simpa using hfar)⟩
    -- the step's polygon overlaps the area inside the placement on the step's front pose
    have hstep := sweptArea_subset sets pFront pBack basePolygon
    have hmeet : attentionArea = [] ∨
        (interior (sets.region attentionArea) ∩
          interior (sets.region (createOneStepPolygon ops pFront pBack basePolygon))).Nonempty := by
      refine hstart.imp_right fun hcover => ?_
      obtain ⟨q, hq⟩ := hsolid pFront (List.mem_cons_self _ _)
      exact ⟨q, interior_mono (hcover pFront rfl) hq,
        interior_mono ((convexHull_front_subset_sweptArea pFront pBack basePolygon).trans hstep) hq⟩
    have hjoin := joinAttentionArea_covers sets hmeet
    obtain ⟨hkeep, hsteps⟩ := attentionAreaLoop_covers (pBack :: rest) (i + 1)
      (joinAttentionArea ops attentionArea (createOneStepPolygon ops pFront pBack basePolygon))
      (fun p hp => hsolid p (List.mem_cons_of_mem _ hp))
      (.inr fun p hp => by
        cases hp
        exact (convexHull_back_subset_sweptArea pFront pBack basePolygon).trans
          (hstep.trans (Set.subset_union_right.trans hjoin)))
    simp only [result, attentionAreaLoop, hfar, ↓reduceIte]
    refine ⟨(Set.subset_union_left.trans hjoin).trans hkeep, fun k hk hnear => ?_⟩
    cases k with
    | zero => exact hstep.trans ((Set.subset_union_right.trans hjoin).trans hkeep)
    | succ k =>
      exact hsteps k (by simpa using hk) fun l hl => by
        simpa [Nat.add_assoc, Nat.add_comm 1 l] using hnear (l + 1) (by omega)

/-- Buffering while the module runs loses no point of the area. -/
theorem expandAttentionArea_covers (isRunning : Bool) (attentionArea : Polygon2d) :
    sets.region attentionArea ⊆ sets.region (expandAttentionArea ops isRunning attentionArea) := by
  unfold expandAttentionArea
  split_ifs
  · split
    · exact subset_rfl
    · exact sets.subset_buffer _ attentionMargin (by norm_num [attentionMargin]) _ _ ‹_›
  · exact subset_rfl

/-- The attention area `separateObjectsByPath` tests the objects against. -/
def finalAttentionArea (ops : SweepOps) (geometry : Geometry) (vehicleInfo : VehicleInfo)
    (path : List Pose) (parameters : AvoidanceParameters) (objectCheckForwardDistance : ℚ)
    (isRunning : Bool) : Polygon2d :=
  expandAttentionArea ops isRunning
    (attentionAreaLoop ops geometry path (geometry.findEgoIndex path)
      (createVehiclePolygon vehicleInfo (maxObjectOffset parameters)) objectCheckForwardDistance 0
      [] path)

theorem separateObjectsByPath_eq_some {geometry : Geometry} {vehicleInfo : VehicleInfo}
    {objects : List PredictedObject} {path : List Pose} {parameters : AvoidanceParameters}
    {objectCheckForwardDistance : ℚ} {isRunning : Bool} {result}
    (h : separateObjectsByPath ops geometry vehicleInfo objects path parameters
      objectCheckForwardDistance isRunning = some result) :
    result = separateObjects ops (finalAttentionArea ops geometry vehicleInfo path parameters
      objectCheckForwardDistance isRunning) objects := by
  unfold separateObjectsByPath at h
  split_ifs at h
  exact (Option.some.inj h).symm

end Semantics

/-! ## The contracts are met -/

/-- Operations under which every polygon with a point covers the plane: the identity transform,
hull and correction, the union as the joined point lists, the buffer as the polygon itself, a
one-point footprint, and `disjoint` exactly when a polygon has no point. -/
def planeOps : SweepOps :=
  { (default : SweepOps) with
    toPolygon2d := fun _ => [⟨0, 0⟩], union := fun a b => [a ++ b], correct := id,
    doTransform := fun _ p => p, convexHull := id, buffer := fun p _ => [p],
    disjoint := fun a b => a.isEmpty || b.isEmpty }

/-- The point sets of `planeOps`: the plane for a polygon with a point, nothing for the empty
polygon. -/
def planeSets : SweepSets planeOps where
  region p := {_q | p ≠ []}
  region_nil := by simp
  convexHull_subset p := by
    rcases p with _ | ⟨a, p⟩
    · simp [vertices, planeOps]
    · exact fun _ _ => List.cons_ne_nil _ _
  subset_correct _ := subset_rfl
  union_covers a b _ := ⟨a ++ b, [], rfl, fun _ hq => by
    simp only [Set.mem_union, Set.mem_setOf_eq, ne_eq, List.append_eq_nil] at hq ⊢
    tauto⟩
  union_nil_covers b := ⟨b, [], rfl, subset_rfl⟩
  subset_buffer p _ _ u rest h := by
    cases h
    exact subset_rfl
  disjoint_iff a b := by
    rcases a with _ | ⟨a, as⟩ <;> rcases b with _ | ⟨b, bs⟩ <;> simp [planeOps]

end Avoidance
end AdaptiveCruiseControl
