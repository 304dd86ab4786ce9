import AdaptiveCruiseControl.Avoidance.RouteHandler

/-!
# The objects the safety check looks at

`getSafetyCheckTargetObjects` collects the objects whose predicted paths the safety check tests
against the shifted path.  It looks in three groups of lanes: the lanes right of the ego's lanes,
the lanes left of them, and the current lanes.  The flags `check_shift_side_lane` and
`check_other_side_lane` choose the right and left groups relative to the shift direction, and
`check_current_lane` the third.  In each group it takes the other objects and the unavoidable
target objects, as `check_other_object` and `check_unavoidable_object` allow, whose centroid
lies in one of the group's lanes.  `getAdjacentLane` gives the side groups: the right neighbours
of the lanes ahead of and behind the ego together with the first right opposite lane of each,
or their left neighbours.

The lane queries and the functions of `utils::path_safety_checker` are not under src/; they are
fields of the structures below.  What `transform` builds, an `ExtendedPredictedObject`, is only
passed on, so its type is a parameter.
-/

namespace AdaptiveCruiseControl
namespace Avoidance

/-- The parameters of the safety check that `AvoidanceParameters` does not carry. -/
structure SafetyCheckParameters where
  safetyCheckBackwardDistance : ℚ
  checkShiftSideLane : Bool
  checkOtherSideLane : Bool
  checkUnavoidableObject : Bool
  checkOtherObject : Bool
  checkCurrentLane : Bool
  /-- `ego_predicted_path_params.time_horizon_for_front_object` -/
  timeHorizonForFrontObject : ℚ
  /-- `ego_predicted_path_params.time_horizon_for_rear_object` -/
  timeHorizonForRearObject : ℚ
  /-- `ego_predicted_path_params.time_resolution` -/
  timeResolution : ℚ
  deriving DecidableEq, Repr, Inhabited

/-- The queries of `route_handler::RouteHandler` that `getAdjacentLane` makes beyond those of
`RouteHandler`. -/
structure LaneQueries where
  getLeftLanelet : Lanelet → Option Lanelet
  getRightLanelet : Lanelet → Option Lanelet
  getRightOppositeLanelets : Lanelet → List Lanelet
  /-- `getLaneletSequence(lanelet, pose, backward_distance, forward_distance)` -/
  getLaneletSequence : Lanelet → Pose → ℚ → ℚ → List Lanelet
  deriving Inhabited

/-- The functions of `utils::path_safety_checker` the collection calls; `ε` stands for
`ExtendedPredictedObject`. -/
structure PathSafetyChecker (ε : Type) where
  isCentroidWithinLanelet : PredictedObject → Lanelet → Bool
  /-- `separateObjectsByLanelets(objects, lanelets, condition)`: the targets and the others -/
  separateObjectsByLanelets : List PredictedObject → List Lanelet →
    (PredictedObject → Lanelet → Bool) → List PredictedObject × List PredictedObject
  /-- `transform(object, time_horizon, time_resolution)` -/
  transform : PredictedObject → ℚ → ℚ → ε

/-- `getAdjacentLane`: for each lane of the sequence around the ego, its left neighbour for a
left shift, and its right neighbour and first right opposite lane for a right shift; nothing when
the ego is off the route. -/
def getAdjacentLane (plannerData : PlannerData) (lanes : LaneQueries)
    (parameters : AvoidanceParameters) (safetyParameters : SafetyCheckParameters)
    (isRightShift : Bool) : List Lanelet :=
  let forwardDistance := parameters.objectCheckMaxForwardDistance
  let backwardDistance := safetyParameters.safetyCheckBackwardDistance
  let vehiclePose := plannerData.egoPose
  match plannerData.routeHandler.getClosestLaneletWithinRoute vehiclePose with
  | none => []
  | some currentLane =>
    let egoSucceedingLanes :=
      lanes.getLaneletSequence currentLane vehiclePose backwardDistance forwardDistance
    egoSucceedingLanes.flatMap fun lane =>
      (if !isRightShift then (lanes.getLeftLanelet lane).toList else []) ++
      (if isRightShift then (lanes.getRightLanelet lane).toList else []) ++
      (if isRightShift then (lanes.getRightOppositeLanelets lane).head?.toList else [])

/-- One lane group of `getSafetyCheckTargetObjects`: the other objects and then the unavoidable
objects that `separateObjectsByLanelets` finds in `checkLanes`, as the flags allow, each
transformed. -/
def laneTargets {ε : Type} (checker : PathSafetyChecker ε) (p : SafetyCheckParameters)
    (timeHorizon : ℚ) (otherObjects unavoidableObjects : List ObjectData)
    (checkLanes : List Lanelet) : List ε :=
  let append := fun objects : List PredictedObject =>
    objects.map fun object => checker.transform object timeHorizon p.timeResolution
  let toPredictedObjects := fun objects : List ObjectData => objects.map ObjectData.object
  (if p.checkOtherObject then
    append (checker.separateObjectsByLanelets (toPredictedObjects otherObjects) checkLanes
      checker.isCentroidWithinLanelet).1
  else []) ++
  (if p.checkUnavoidableObject then
    append (checker.separateObjectsByLanelets (toPredictedObjects unavoidableObjects) checkLanes
      checker.isCentroidWithinLanelet).1
  else [])

/-- `getSafetyCheckTargetObjects`: the targets of the right lanes, then of the left lanes, then
of the current lanes, each group as its flag selects. -/
def getSafetyCheckTargetObjects {ε : Type} (checker : PathSafetyChecker ε)
    (data : AvoidancePlanningData) (plannerData : PlannerData) (lanes : LaneQueries)
    (parameters : AvoidanceParameters) (p : SafetyCheckParameters) (isRightShift : Bool) :
    List ε :=
  let checkRightLanes :=
    (isRightShift && p.checkShiftSideLane) || (!isRightShift && p.checkOtherSideLane)
  let checkLeftLanes :=
    (!isRightShift && p.checkShiftSideLane) || (isRightShift && p.checkOtherSideLane)
  let timeHorizon := max p.timeHorizonForFrontObject p.timeHorizonForRearObject
  let unavoidableObjects := data.targetObjects.filter fun object => !object.isAvoidable
  let targets := laneTargets checker p timeHorizon data.otherObjects unavoidableObjects
  (if checkRightLanes then targets (getAdjacentLane plannerData lanes parameters p true)
    else []) ++
  (if checkLeftLanes then targets (getAdjacentLane plannerData lanes parameters p false)
    else []) ++
  (if p.checkCurrentLane then targets data.currentLanelets else [])

end Avoidance
end AdaptiveCruiseControl
