import AdaptiveCruiseControl.Avoidance.Types
import Mathlib.Analysis.Convex.Hull
import Mathlib.Analysis.Convex.Segment
import Mathlib.Data.List.Chain
import Mathlib.Analysis.Normed.Module.Basic
import Mathlib.Analysis.Normed.Group.AddTorsor
import Mathlib.Topology.Instances.Rat

/-!
# The envelope polygon of an object

`createEnvelopePolygon` boxes a polygon in the frame of the closest path pose: it moves the
polygon into that frame, takes its bounding box there, moves the box back and expands it by a
buffer.  `fillObjectEnvelopePolygon` keeps the envelope of an object's registered entry when the
fresh envelope lies within it, and otherwise re-boxes the union of the two.

Polygons are read as point sets.  Boost's operations are queries here whose contracts, stated in
`PointSets`, are what boost guarantees of point sets: `within` is inclusion, the union of two
polygons whose interiors overlap is one polygon covering both, `correct` and a non-negative
expansion lose no point, a polygon lies in the convex hull of its vertices, and a rectangle
covers that hull.  Polygons that only touch, at a corner or along an edge, may come back from
`union_` as two polygons, of which the code keeps the first, so the contract says nothing of
them.  Against these the boxing is proved: the box of a polygon in any frame holds the
polygon's vertices, so the re-boxed polygon covers the polygon.  Hence an envelope whose interior
overlaps the registered one's is replaced by one containing it, and over cycles whose footprints
overlap in their interiors the envelope never shrinks.
-/

namespace AdaptiveCruiseControl
namespace Avoidance

/-! ## Frames of path poses -/

/-- The yaw of a pose as its cosine and sine, `tf2::getYaw` followed by
`createQuaternionFromRPY(0, 0, yaw)`. -/
structure Yaw where
  cos : ℚ
  sin : ℚ
  unit : cos ^ 2 + sin ^ 2 = 1

instance : Inhabited Yaw := ⟨⟨1, 0, by norm_num⟩⟩

/-- The planar part of `pose2transform(pose_2d)`: the pose's position and its yaw. -/
structure Frame where
  x : ℚ
  y : ℚ
  yaw : Yaw

/-- `tf2::doTransform` with the frame's transform, in the plane. -/
def Frame.apply (f : Frame) (p : Point2d) : Point2d :=
  ⟨f.yaw.cos * p.x - f.yaw.sin * p.y + f.x, f.yaw.sin * p.x + f.yaw.cos * p.y + f.y⟩

/-- `tf2::doTransform` with `tf.inverse()`, whose rotation is the transpose of the frame's. -/
def Frame.applyInverse (f : Frame) (p : Point2d) : Point2d :=
  ⟨f.yaw.cos * (p.x - f.x) + f.yaw.sin * (p.y - f.y),
    -f.yaw.sin * (p.x - f.x) + f.yaw.cos * (p.y - f.y)⟩

/-! ## Boxes -/

/-- A `bg::model::box<Point2d>`. -/
structure Box where
  minCorner : Point2d
  maxCorner : Point2d

/-- `bg::expand(box, point)`. -/
def Box.expand (b : Box) (p : Point2d) : Box :=
  ⟨⟨min b.minCorner.x p.x, min b.minCorner.y p.y⟩,
    ⟨max b.maxCorner.x p.x, max b.maxCorner.y p.y⟩⟩

/-- `bg::return_envelope<Box>(polygon)`: the inverted box expanded by every point, which for the
values a double holds is the box of the first point expanded by the others. -/
def returnEnvelope : Polygon2d → Box
  | [] => ⟨⟨doubleMax, doubleMax⟩, ⟨-doubleMax, -doubleMax⟩⟩
  | p :: ps => ps.foldl Box.expand ⟨p, p⟩

/-- `bg::convert(box, polygon)`: the closed clockwise ring of the box's corners. -/
def Box.toPolygon (b : Box) : Polygon2d :=
  [⟨b.minCorner.x, b.minCorner.y⟩, ⟨b.minCorner.x, b.maxCorner.y⟩,
    ⟨b.maxCorner.x, b.maxCorner.y⟩, ⟨b.maxCorner.x, b.minCorner.y⟩,
    ⟨b.minCorner.x, b.minCorner.y⟩]

/-! ## The polygon operations -/

/-- The operations of boost, tf2 and `tier4_autoware_utils` the envelope code calls. -/
structure PolygonOps where
  /-- `tier4_autoware_utils::toPolygon2d(object)`: the object's footprint -/
  toPolygon2d : PredictedObject → Polygon2d
  /-- `tf2::getYaw(orientation)` -/
  getYaw : Quaternion → Yaw
  /-- `boost::geometry::within(a, b)` -/
  within : Polygon2d → Polygon2d → Bool
  /-- `boost::geometry::union_(a, b, unions)`: the polygons of `unions` -/
  union : Polygon2d → Polygon2d → List Polygon2d
  /-- `boost::geometry::correct(polygon)` -/
  correct : Polygon2d → Polygon2d
  /-- `tier4_autoware_utils::expandPolygon(polygon, offset)` -/
  expandPolygon : Polygon2d → ℚ → Polygon2d
  deriving Inhabited

/-- `createEnvelopePolygon(object_polygon, closest_pose, envelope_buffer)`.  The ROS polygons in
between hold `float` coordinates; their rounding is not modelled. -/
def createEnvelopePolygon (ops : PolygonOps) (objectPolygon : Polygon2d) (closestPose : Pose)
    (envelopeBuffer : ℚ) : Polygon2d :=
  let geometryTf : Frame :=
    ⟨closestPose.position.x, closestPose.position.y, ops.getYaw closestPose.orientation⟩
  let outRosPolygon := objectPolygon.map geometryTf.applyInverse
  let envelopeBox := returnEnvelope outRosPolygon
  let envelopePoly := envelopeBox.toPolygon
  let envelopeRosPolygon := envelopePoly.map geometryTf.apply
  ops.expandPolygon envelopeRosPolygon envelopeBuffer

/-- `createEnvelopePolygon(object_data, closest_pose, envelope_buffer)`: the envelope of the
object's footprint. -/
def createEnvelopePolygonOfObject (ops : PolygonOps) (objectData : ObjectData)
    (closestPose : Pose) (envelopeBuffer : ℚ) : Polygon2d :=
  createEnvelopePolygon ops (ops.toPolygon2d objectData.object) closestPose envelopeBuffer

/-- `envelope_buffer_margin` of `fillObjectEnvelopePolygon`: the margin of the object's class
scaled by its distance factor. -/
def envelopeBufferMargin (parameters : AvoidanceParameters) (objectData : ObjectData) : ℚ :=
  (parameters.objectParameterAt objectData.object.label).envelopeBufferMargin *
    objectData.distanceFactor

/-- `fillObjectEnvelopePolygon`. -/
def fillObjectEnvelopePolygon (ops : PolygonOps) (objectData : ObjectData)
    (registeredObjects : List ObjectData) (closestPose : Pose) (parameters : AvoidanceParameters) :
    ObjectData :=
  let envelopeBufferMargin := envelopeBufferMargin parameters objectData
  match findSameId registeredObjects objectData with
  | none =>
    { objectData with
      envelopePoly :=
        createEnvelopePolygonOfObject ops objectData closestPose envelopeBufferMargin }
  | some sameIdObj =>
    let envelopePoly :=
      createEnvelopePolygonOfObject ops objectData closestPose envelopeBufferMargin
    if ops.within envelopePoly sameIdObj.envelopePoly then
      { objectData with envelopePoly := sameIdObj.envelopePoly }
    else
      match ops.union envelopePoly sameIdObj.envelopePoly with
      | [] =>
        { objectData with
          envelopePoly :=
            createEnvelopePolygonOfObject ops objectData closestPose envelopeBufferMargin }
      | front :: _ =>
        { objectData with
          envelopePoly := createEnvelopePolygon ops (ops.correct front) closestPose 0.0 }

/-! ## Polygons as point sets -/

/-- A point as a vector of the plane. -/
def Point2d.toPair (p : Point2d) : ℚ × ℚ := (p.x, p.y)

/-- The vertices of a polygon as points of the plane. -/
def vertices (polygon : Polygon2d) : Set (ℚ × ℚ) := {q | ∃ p ∈ polygon, p.toPair = q}

/-- A point-set meaning of polygons under which the operations keep boost's contracts. -/
structure PointSets (ops : PolygonOps) where
  /-- the points a polygon covers -/
  region : Polygon2d → Set (ℚ × ℚ)
  within_subset : ∀ a b, ops.within a b = true → region a ⊆ region b
  union_covers : ∀ a b, (interior (region a) ∩ interior (region b)).Nonempty →
    ∃ u rest, ops.union a b = u :: rest ∧ region a ∪ region b ⊆ region u
  subset_correct : ∀ p, region p ⊆ region (ops.correct p)
  subset_expandPolygon : ∀ p offset, 0 ≤ offset →
    region p ⊆ region (ops.expandPolygon p offset)
  subset_convexHull : ∀ p, region p ⊆ convexHull ℚ (vertices p)
  /-- a box moved by a frame is a rectangle, which covers the hull of its corners -/
  convexHull_subset_box : ∀ (f : Frame) (b : Box),
    convexHull ℚ (vertices (b.toPolygon.map f.apply)) ⊆ region (b.toPolygon.map f.apply)

/-! ## The box of a polygon in a frame covers it -/

/-- The points a box holds. -/
def Box.Contains (b : Box) (p : Point2d) : Prop :=
  b.minCorner.x ≤ p.x ∧ p.x ≤ b.maxCorner.x ∧
    b.minCorner.y ≤ p.y ∧ p.y ≤ b.maxCorner.y

/-- Expanding a box by points keeps what it held and holds the points. -/
theorem contains_foldl_expand (ps : Polygon2d) (b : Box) :
    (∀ p, b.Contains p → (ps.foldl Box.expand b).Contains p) ∧
      ∀ p ∈ ps, (ps.foldl Box.expand b).Contains p := by
  induction ps generalizing b with
  | nil => simp
  | cons q ps ih =>
    have hkeep : ∀ p, b.Contains p → (b.expand q).Contains p := by
      rintro p ⟨h1, h2, h3, h4⟩
      exact ⟨min_le_of_left_le h1, le_max_of_le_left h2, min_le_of_left_le h3,
        le_max_of_le_left h4⟩
    have hnew : (b.expand q).Contains q :=
      ⟨min_le_right _ _, le_max_right _ _, min_le_right _ _, le_max_right _ _⟩
    refine ⟨fun p hp => (ih _).1 p (hkeep p hp), ?_⟩
    simp only [List.mem_cons, forall_eq_or_imp, List.foldl_cons]
    exact ⟨(ih _).1 q hnew, (ih _).2⟩

/-- The envelope of a polygon holds all its points. -/
theorem returnEnvelope_contains {polygon : Polygon2d} {p : Point2d} (hp : p ∈ polygon) :
    (returnEnvelope polygon).Contains p := by
  cases polygon with
  | nil => cases hp
  | cons q ps =>
    rcases List.mem_cons.mp hp with rfl | hp
    · exact (contains_foldl_expand ps _).1 p ⟨le_rfl, le_rfl, le_rfl, le_rfl⟩
    · exact (contains_foldl_expand ps _).2 p hp

/-- A point a box holds lies in the convex hull of the box's corners: on a segment between two
points of its two horizontal sides. -/
theorem mem_convexHull_toPolygon {b : Box} {p : Point2d} (hp : b.Contains p) :
    p.toPair ∈ convexHull ℚ (vertices b.toPolygon) := by
  obtain ⟨h1, h2, h3, h4⟩ := hp
  have hconvex := convex_convexHull ℚ (vertices b.toPolygon)
  have hcorner : ∀ x y, (⟨x, y⟩ : Point2d) ∈ b.toPolygon →
      (x, y) ∈ convexHull ℚ (vertices b.toPolygon) :=
    fun x y hq => subset_convexHull ℚ _ ⟨⟨x, y⟩, hq, rfl⟩
  have hside : ∀ y, (b.minCorner.x, y) ∈ convexHull ℚ (vertices b.toPolygon) →
      (b.maxCorner.x, y) ∈ convexHull ℚ (vertices b.toPolygon) →
      (p.x, y) ∈ convexHull ℚ (vertices b.toPolygon) := fun y hmin hmax => by
    refine hconvex.segment_subset hmin hmax ?_
    rw [← Prod.image_mk_segment_left, segment_eq_uIcc]
    exact ⟨p.x, Set.Icc_subset_uIcc ⟨h1, h2⟩, rfl⟩
  have hbottom := hside b.minCorner.y (hcorner _ _ (by simp [Box.toPolygon]))
    (hcorner _ _ (by simp [Box.toPolygon]))
  have htop := hside b.maxCorner.y (hcorner _ _ (by simp [Box.toPolygon]))
    (hcorner _ _ (by simp [Box.toPolygon]))
  refine hconvex.segment_subset hbottom htop ?_
  rw [← Prod.image_mk_segment_right, segment_eq_uIcc]
  exact ⟨p.y, Set.Icc_subset_uIcc ⟨h3, h4⟩, rfl⟩

/-- A box with sides of positive length is solid: the hull of its corners has an interior. -/
theorem interior_convexHull_toPolygon_nonempty {b : Box} (hx : b.minCorner.x < b.maxCorner.x)
    (hy : b.minCorner.y < b.maxCorner.y) :
    (interior (convexHull ℚ (vertices b.toPolygon))).Nonempty := by
  have hbox : Set.Ioo b.minCorner.x b.maxCorner.x ×ˢ Set.Ioo b.minCorner.y b.maxCorner.y ⊆
      convexHull ℚ (vertices b.toPolygon) := fun q hq =>
    mem_convexHull_toPolygon (p := ⟨q.1, q.2⟩) ⟨hq.1.1.le, hq.1.2.le, hq.2.1.le, hq.2.2.le⟩
  exact ⟨((b.minCorner.x + b.maxCorner.x) / 2, (b.minCorner.y + b.maxCorner.y) / 2),
    interior_maximal hbox (isOpen_Ioo.prod isOpen_Ioo)
      ⟨⟨by linarith, by linarith⟩, by linarith, by linarith⟩⟩

/-- A frame's transform as an affine map of the plane. -/
def Frame.toAffineMap (f : Frame) : (ℚ × ℚ) →ᵃ[ℚ] ℚ × ℚ :=
  (LinearMap.prod
      (f.yaw.cos • LinearMap.fst ℚ ℚ ℚ - f.yaw.sin • LinearMap.snd ℚ ℚ ℚ)
      (f.yaw.sin • LinearMap.fst ℚ ℚ ℚ + f.yaw.cos • LinearMap.snd ℚ ℚ ℚ)).toAffineMap +
    AffineMap.const ℚ (ℚ × ℚ) (f.x, f.y)

theorem Frame.toPair_apply (f : Frame) (p : Point2d) :
    (f.apply p).toPair = f.toAffineMap p.toPair := by
  simp [Frame.apply, Frame.toAffineMap, Point2d.toPair]

/-- The inverse transform is undone by the transform, the rotation being orthonormal. -/
theorem Frame.apply_applyInverse (f : Frame) (p : Point2d) : f.apply (f.applyInverse p) = p := by
  have hunit := f.yaw.unit
  obtain ⟨x, y⟩ := p
  simp only [Frame.apply, Frame.applyInverse, Point2d.mk.injEq]
  constructor
  · linear_combination (x - f.x) * hunit
  · linear_combination (y - f.y) * hunit

theorem vertices_map_apply (f : Frame) (polygon : Polygon2d) :
    vertices (polygon.map f.apply) = f.toAffineMap '' vertices polygon := by
  ext q
  simp only [vertices, List.mem_map, Set.mem_setOf_eq, Set.mem_image]
  constructor
  · rintro ⟨_, ⟨p, hp, rfl⟩, rfl⟩
    exact ⟨p.toPair, ⟨p, hp, rfl⟩, (f.toPair_apply p).symm⟩
  · rintro ⟨_, ⟨p, hp, rfl⟩, rfl⟩
    exact ⟨f.apply p, ⟨p, hp, rfl⟩, f.toPair_apply p⟩

/-- The box of a polygon taken in any frame and moved back covers the convex hull of the
polygon's vertices. -/
theorem convexHull_subset_reboxed (f : Frame) (polygon : Polygon2d) :
    convexHull ℚ (vertices polygon) ⊆
      convexHull ℚ (vertices ((returnEnvelope (polygon.map f.applyInverse)).toPolygon.map
        f.apply)) := by
  refine convexHull_min ?_ (convex_convexHull ℚ _)
  rintro _ ⟨p, hp, rfl⟩
  have hbox := mem_convexHull_toPolygon
    (returnEnvelope_contains (List.mem_map_of_mem f.applyInverse hp))
  rw [vertices_map_apply, ← AffineMap.image_convexHull, ← f.apply_applyInverse p,
    f.toPair_apply]
  exact Set.mem_image_of_mem _ hbox

/-- The envelope code writes only the envelope. -/
theorem fillObjectEnvelopePolygon_eq_objectId (ops : PolygonOps) (objectData : ObjectData)
    (registeredObjects : List ObjectData) (closestPose : Pose) (parameters : AvoidanceParameters) :
    (fillObjectEnvelopePolygon ops objectData registeredObjects closestPose parameters).objectId =
      objectData.objectId := by
  unfold fillObjectEnvelopePolygon
  split
  · rfl
  · dsimp only
    split_ifs
    · rfl
    · split <;> rfl

section Semantics

variable {ops : PolygonOps} (sets : PointSets ops)

/-- A non-negatively buffered envelope covers the polygon it boxes. -/
theorem region_subset_createEnvelopePolygon (polygon : Polygon2d) (closestPose : Pose)
    {envelopeBuffer : ℚ} (hbuffer : 0 ≤ envelopeBuffer) :
    sets.region polygon ⊆
      sets.region (createEnvelopePolygon ops polygon closestPose envelopeBuffer) :=
  calc sets.region polygon
      ⊆ convexHull ℚ (vertices polygon) := sets.subset_convexHull polygon
    _ ⊆ _ := convexHull_subset_reboxed _ polygon
    _ ⊆ _ := sets.convexHull_subset_box _ _
    _ ⊆ _ := sets.subset_expandPolygon _ _ hbuffer

/-- The envelope assigned to an object with a registered entry covers the registered envelope and
the fresh one whenever their interiors overlap. -/
theorem fillObjectEnvelopePolygon_covers {objectData sameIdObj : ObjectData}
    {registeredObjects : List ObjectData} {closestPose : Pose} {parameters : AvoidanceParameters}
    (hfind : findSameId registeredObjects objectData = some sameIdObj)
    (hmeet : (interior (sets.region (createEnvelopePolygonOfObject ops objectData closestPose
      (envelopeBufferMargin parameters objectData))) ∩
        interior (sets.region sameIdObj.envelopePoly)).Nonempty) :
    sets.region (createEnvelopePolygonOfObject ops objectData closestPose
        (envelopeBufferMargin parameters objectData)) ∪ sets.region sameIdObj.envelopePoly ⊆
      sets.region (fillObjectEnvelopePolygon ops objectData registeredObjects closestPose
        parameters).envelopePoly := by
  simp only [fillObjectEnvelopePolygon, hfind]
  split_ifs with hwithin
  · exact Set.union_subset (sets.within_subset _ _ hwithin) subset_rfl
  · obtain ⟨u, rest, hunion, hcover⟩ := sets.union_covers _ _ hmeet
    rw [hunion]
    exact hcover.trans ((sets.subset_correct u).trans
      (region_subset_createEnvelopePolygon sets _ _ (by norm_num)))

/-- Without a registered entry the fresh envelope is assigned. -/
theorem fillObjectEnvelopePolygon_of_none {objectData : ObjectData}
    {registeredObjects : List ObjectData} {closestPose : Pose} {parameters : AvoidanceParameters}
    (hfind : findSameId registeredObjects objectData = none) :
    (fillObjectEnvelopePolygon ops objectData registeredObjects closestPose
        parameters).envelopePoly =
      createEnvelopePolygonOfObject ops objectData closestPose
        (envelopeBufferMargin parameters objectData) := by
  simp only [fillObjectEnvelopePolygon, hfind]

/-! ## The envelope over planning cycles -/

/-- Planning cycles of `fillObjectEnvelopePolygon` on one object, each given the object data and
the closest path pose of its cycle and the previous cycle's result as the registered entry of the
object. -/
def envelopeRun (ops : PolygonOps) (parameters : AvoidanceParameters) :
    Option ObjectData → List (ObjectData × Pose) → List ObjectData
  | _, [] => []
  | registered, (objectData, closestPose) :: rest =>
    let filled := fillObjectEnvelopePolygon ops objectData registered.toList closestPose parameters
    filled :: envelopeRun ops parameters (some filled) rest

/-- The interiors of the footprints of two cycles overlap. -/
def FootprintsOverlap (previous current : ObjectData × Pose) : Prop :=
  (interior (sets.region (ops.toPolygon2d previous.1.object)) ∩
    interior (sets.region (ops.toPolygon2d current.1.object))).Nonempty

/-- The envelope of one cycle covers the next one's. -/
def EnvelopeGrows (previous current : ObjectData) : Prop :=
  sets.region previous.envelopePoly ⊆ sets.region current.envelopePoly

/-- One cycle: the assigned envelope covers the footprint, and covers the registered entry of the
object when their interiors overlap. -/
theorem fillObjectEnvelopePolygon_step {parameters : AvoidanceParameters}
    {objectData : ObjectData} {registered : Option ObjectData} (closestPose : Pose)
    (hreg : ∀ r ∈ registered, r.objectId = objectData.objectId)
    (hbuffer : 0 ≤ envelopeBufferMargin parameters objectData)
    (hmeet : ∀ r ∈ registered, (interior (sets.region (ops.toPolygon2d objectData.object)) ∩
      interior (sets.region r.envelopePoly)).Nonempty) :
    let filled := fillObjectEnvelopePolygon ops objectData registered.toList closestPose parameters
    sets.region (ops.toPolygon2d objectData.object) ⊆ sets.region filled.envelopePoly ∧
      ∀ r ∈ registered, EnvelopeGrows sets r filled := by
  have hfresh := region_subset_createEnvelopePolygon sets (ops.toPolygon2d objectData.object)
    closestPose hbuffer
  rcases registered with _ | r
  · -- first detection: the fresh envelope is assigned
    refine ⟨?_, fun _ h => nomatch h⟩
    rw [fillObjectEnvelopePolygon_of_none
      (show findSameId (none : Option ObjectData).toList objectData = none from rfl)]
    exact hfresh
  · -- the fresh envelope meets the registered one, and the new envelope covers both
    obtain ⟨q, hq, hqr⟩ := hmeet r rfl
    have hcovers := fillObjectEnvelopePolygon_covers sets (findSameId_toList hreg)
      ⟨q, interior_mono hfresh hq, hqr⟩
    exact ⟨hfresh.trans (Set.subset_union_left.trans hcovers),
      fun _ h => by cases h; exact Set.subset_union_right.trans hcovers⟩

/-- Over cycles with non-negative buffers whose footprints overlap, the envelope never shrinks
and covers the footprint of its cycle, from a registered entry that the first footprint overlaps.
-/
theorem envelopeRun_grows {parameters : AvoidanceParameters} {id : UUID}
    (registered : Option ObjectData) (cycles : List (ObjectData × Pose))
    (hid : ∀ c ∈ cycles, c.1.objectId = id) (hreg : ∀ r ∈ registered, r.objectId = id)
    (hbuffer : ∀ c ∈ cycles, 0 ≤ envelopeBufferMargin parameters c.1)
    (hoverlap : cycles.Chain' (FootprintsOverlap sets))
    (hmeet : ∀ r ∈ registered, ∀ c ∈ cycles.head?,
      (interior (sets.region (ops.toPolygon2d c.1.object)) ∩
        interior (sets.region r.envelopePoly)).Nonempty) :
    (registered.toList ++ envelopeRun ops parameters registered cycles).Chain'
        (EnvelopeGrows sets) ∧
      List.Forall₂ (fun c filled => sets.region (ops.toPolygon2d c.1.object) ⊆
        sets.region filled.envelopePoly) cycles (envelopeRun ops parameters registered cycles) := by
  induction cycles generalizing registered with
  | nil => cases registered <;> simp [envelopeRun]
  | cons cycle rest ih =>
    obtain ⟨objectData, closestPose⟩ := cycle
    simp only [List.mem_cons, forall_eq_or_imp] at hid hbuffer
    obtain ⟨hnext, hoverlap⟩ := List.chain'_cons'.mp hoverlap
    obtain ⟨hfootprint, hgrows⟩ := fillObjectEnvelopePolygon_step sets closestPose
      (fun r hr => (hreg r hr).trans hid.1.symm) hbuffer.1
      fun r hr => hmeet r hr (objectData, closestPose) rfl
    obtain ⟨hchain, hforall⟩ := ih
      (some (fillObjectEnvelopePolygon ops objectData registered.toList closestPose parameters))
      hid.2 (fun r hr => by cases hr; rw [fillObjectEnvelopePolygon_eq_objectId]; exact hid.1)
      hbuffer.2 hoverlap fun r hr c hc => by
        cases hr
        obtain ⟨q, hq, hq'⟩ := hnext c hc
        exact ⟨q, hq', interior_mono hfootprint hq⟩
    exact ⟨chain'_toList_append hgrows hchain, .cons hfootprint hforall⟩

end Semantics

/-! ## The contracts are met by convex hulls -/

/-- Operations under which the convex hulls of the vertices keep boost's contracts: the unit
square as every footprint, no containment reported, the union as the joined vertex lists, and
everything else left as it is. -/
def hullOps : PolygonOps :=
  { (default : PolygonOps) with
    toPolygon2d := fun _ => Box.toPolygon ⟨⟨0, 0⟩, ⟨1, 1⟩⟩, within := fun _ _ => false,
    union := fun a b => [a ++ b],
    correct := id, expandPolygon := fun p _ => p }

theorem vertices_subset_append_left (a b : Polygon2d) : vertices a ⊆ vertices (a ++ b) :=
  fun _ ⟨p, hp, hq⟩ => ⟨p, List.mem_append_left b hp, hq⟩

theorem vertices_subset_append_right (a b : Polygon2d) : vertices b ⊆ vertices (a ++ b) :=
  fun _ ⟨p, hp, hq⟩ => ⟨p, List.mem_append_right a hp, hq⟩

/-- The convex hulls of the vertices as the point sets of `hullOps`. -/
def hullPointSets : PointSets hullOps where
  region polygon := convexHull ℚ (vertices polygon)
  within_subset _ _ h := nomatch h
  union_covers a b _ := ⟨a ++ b, [], rfl, Set.union_subset
    (convexHull_mono (vertices_subset_append_left a b))
    (convexHull_mono (vertices_subset_append_right a b))⟩
  subset_correct _ := subset_rfl
  subset_expandPolygon _ _ _ := subset_rfl
  subset_convexHull _ := subset_rfl
  convexHull_subset_box _ _ := subset_rfl

end Avoidance
end AdaptiveCruiseControl
