import AdaptiveCruiseControl.Avoidance.Envelope
import AdaptiveCruiseControl.Avoidance.RoadShoulder

/-!
# The obstacles cut out of the drivable area

`generateObstaclePolygonsForDrivableArea` hands the drivable-area expansion one obstacle for each
object the path does not avoid by shifting: the objects that are not avoidable when the behavior
planner updates the path, and every object when it does not.  Only objects with an avoid margin
count.  The obstacle is the object's envelope polygon expanded by the avoid margin less the
envelope buffer and half the vehicle width, on the side the object's lateral position gives.

Under boost's contract for `expandPolygon` (`PointSets`), each obstacle covers the whole envelope
of its object as soon as the margin covers the envelope buffer and half the vehicle width; every
margin `calcAvoidMargin` computes does, when the envelope buffer is within the lateral safety
buffer.  With clipping enabled the obstacles are then, one for one and in order, the envelopes
of the objects left to avoid: none is dropped or cut out twice, and nothing else is cut out.
-/

namespace AdaptiveCruiseControl
namespace Avoidance

/-- A `DrivableAreaInfo::Obstacle`: the object's pose, the polygon to cut out, and its side. -/
structure Obstacle where
  pose : Pose
  poly : Polygon2d
  isLeft : Bool
  deriving DecidableEq, Inhabited

/-- The loop body of `generateObstaclePolygonsForDrivableArea` for one object: nothing for an
avoidable object while the behavior planner updates the path, nothing without an avoid margin,
and otherwise the expanded envelope. -/
def obstacleOf (ops : PolygonOps) (parameters : AvoidanceParameters) (disablePathUpdate : Bool)
    (vehicleWidth : ℚ) (object : ObjectData) : Option Obstacle :=
  if !disablePathUpdate && object.isAvoidable then none
  else
    match object.avoidMargin with
    | none => none
    | some avoidMargin =>
      let objectParameter := parameters.objectParameterAt object.object.label
      let diffPolyBuffer :=
        avoidMargin - objectParameter.envelopeBufferMargin - vehicleWidth / 2.0
      let objPoly := ops.expandPolygon object.envelopePoly diffPolyBuffer
      let isLeft := decide (0 < object.lateral)
      some ⟨object.object.pose, objPoly, isLeft⟩

/-- `generateObstaclePolygonsForDrivableArea`.  `enableBoundClipping` and `disablePathUpdate`
are the parameters `enable_bound_clipping` and `disable_path_update`. -/
def generateObstaclePolygonsForDrivableArea (ops : PolygonOps) (objects : List ObjectData)
    (parameters : AvoidanceParameters) (enableBoundClipping disablePathUpdate : Bool)
    (vehicleWidth : ℚ) : List Obstacle :=
  if objects.isEmpty || !enableBoundClipping then []
  else objects.filterMap (obstacleOf ops parameters disablePathUpdate vehicleWidth)

section Obstacles

variable {ops : PolygonOps} {parameters : AvoidanceParameters} {disablePathUpdate : Bool}
  {vehicleWidth : ℚ}

theorem obstacleOf_eq_some {object : ObjectData} {obstacle : Obstacle} :
    obstacleOf ops parameters disablePathUpdate vehicleWidth object = some obstacle ↔
      (disablePathUpdate = true ∨ object.isAvoidable = false) ∧
      ∃ avoidMargin, object.avoidMargin = some avoidMargin ∧
        obstacle = ⟨object.object.pose, ops.expandPolygon object.envelopePoly
          (avoidMargin - (parameters.objectParameterAt object.object.label).envelopeBufferMargin -
            vehicleWidth / 2.0), decide (0 < object.lateral)⟩ := by
  unfold obstacleOf
  cases disablePathUpdate <;> cases object.isAvoidable <;> cases object.avoidMargin <;>
    simp [eq_comm]

/-- An object yields an obstacle exactly when the path does not avoid it and it has a margin. -/
theorem obstacleOf_isSome (object : ObjectData) :
    (obstacleOf ops parameters disablePathUpdate vehicleWidth object).isSome =
      ((disablePathUpdate || !object.isAvoidable) && object.avoidMargin.isSome) := by
  unfold obstacleOf
  cases disablePathUpdate <;> cases object.isAvoidable <;> cases object.avoidMargin <;> rfl

/-- With clipping enabled, the obstacles are the objects' loop bodies, clipping off nothing. -/
theorem generateObstaclePolygonsForDrivableArea_true (objects : List ObjectData) :
    generateObstaclePolygonsForDrivableArea ops objects parameters true disablePathUpdate
        vehicleWidth =
      objects.filterMap (obstacleOf ops parameters disablePathUpdate vehicleWidth) := by
  cases objects <;> rfl

/-- A margin from `calcAvoidMargin` covers the envelope buffer and half the vehicle width when
the envelope buffer is within the lateral safety buffer. -/
theorem envelopeBufferMargin_add_le_of_calcAvoidMargin {objectParameter : ObjectParameter}
    {o : ObjectData} (hbuf : 0 ≤ objectParameter.safetyBufferLateral)
    (hmargin : 0 ≤ objectParameter.avoidMarginLateral) (hdf : 1 ≤ o.distanceFactor)
    (hsoft : parameters.hardRoadShoulderMargin ≤ parameters.softRoadShoulderMargin)
    (henvelope : objectParameter.envelopeBufferMargin ≤ objectParameter.safetyBufferLateral)
    {m : ℚ} (h : calcAvoidMargin parameters objectParameter o vehicleWidth = some m) :
    objectParameter.envelopeBufferMargin + vehicleWidth / 2.0 ≤ m := by
  have hmin := (calcAvoidMargin_bounds hbuf hmargin hdf hsoft h).1
  unfold minAvoidMargin at hmin
  norm_num at hmin ⊢
  linarith

/-- With clipping enabled, the obstacles are, one for one and in order, the objects the path does
not avoid that have an avoid margin, each at its object's pose and on its side.  Each covers its
object's whole envelope when the margin is the one `calcAvoidMargin` computes for the object,
with non-negative lateral buffers, an envelope buffer within the lateral safety buffer, a
distance factor of at least one, and a soft road shoulder margin no smaller than the hard one. -/
theorem generateObstaclePolygonsForDrivableArea_spec (sets : PointSets ops)
    (objects : List ObjectData) :
    List.Forall₂ (fun o obstacle =>
        obstacle.pose = o.object.pose ∧ obstacle.isLeft = decide (0 < o.lateral) ∧
        let objectParameter := parameters.objectParameterAt o.object.label
        (0 ≤ objectParameter.safetyBufferLateral → 0 ≤ objectParameter.avoidMarginLateral →
          objectParameter.envelopeBufferMargin ≤ objectParameter.safetyBufferLateral →
          1 ≤ o.distanceFactor →
          parameters.hardRoadShoulderMargin ≤ parameters.softRoadShoulderMargin →
          o.avoidMargin = calcAvoidMargin parameters objectParameter o vehicleWidth →
          sets.region o.envelopePoly ⊆ sets.region obstacle.poly))
      (objects.filter fun o => (disablePathUpdate || !o.isAvoidable) && o.avoidMargin.isSome)
      (generateObstaclePolygonsForDrivableArea ops objects parameters true disablePathUpdate
        vehicleWidth) := by
  rw [generateObstaclePolygonsForDrivableArea_true]
  induction objects with
  | nil => exact .nil
  | cons o objects ih =>
    rw [List.filterMap_cons, List.filter_cons, ← obstacleOf_isSome]
    cases hof : obstacleOf ops parameters disablePathUpdate vehicleWidth o with
    | none => simpa using ih
    | some obstacle =>
      obtain ⟨-, m, hm, rfl⟩ := obstacleOf_eq_some.mp hof
      refine .cons ⟨rfl, rfl, fun hbuf hlateral henvelope hdf hsoft hcalc => ?_⟩ (by simpa using ih)
      -- the margin covers the envelope buffer and half the vehicle width, so the expansion grows
      have hcover := envelopeBufferMargin_add_le_of_calcAvoidMargin hbuf hlateral hdf hsoft
        henvelope (hcalc.symm.trans hm)
      exact sets.subset_expandPolygon _ _ (by linarith)

end Obstacles

end Avoidance
end AdaptiveCruiseControl
