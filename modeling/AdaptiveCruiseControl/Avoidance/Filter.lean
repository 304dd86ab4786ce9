import AdaptiveCruiseControl.Avoidance.RoadShoulder
import AdaptiveCruiseControl.Avoidance.Arclength
import Mathlib.Data.List.Rotate

/-!
# Filtering the avoidance targets

`filterTargetObjects` walks the detected objects once.  Each object leaves the loop body by one
of its exits: appended to `target_objects`, appended to `other_objects` with the reason of the
gate it failed, or, when the route has no lanelet close to the object, by a bare `continue` that
appends it nowhere.

The body is cut where the code's scope changes: `filterObject` holds the gates on the object
type, its motion and its longitudinal position, `filterOnLanelet` the distance to the road
shoulder, the avoid margin and the shift gates, and `filterVehicle` the forced avoidance of a
stopped vehicle, the centre-line gate and the parking check.  One inversion lemma per stage says
what a target has passed; together they give every gate for every admitted object, whichever of
the three admissions it took.
-/

namespace AdaptiveCruiseControl
namespace Avoidance

/-! ## Reason codes

Modelled from the spec: the constants of `tier4_planning_msgs::msg::AvoidanceDebugFactor` are not
under src/; each is modelled as its own name. -/

/-- `AvoidanceDebugFactor::OBJECT_IS_NOT_TYPE`. -/
def objectIsNotType : String := "OBJECT_IS_NOT_TYPE"

/-- `AvoidanceDebugFactor::MOVING_OBJECT`. -/
def movingObject : String := "MOVING_OBJECT"

/-- `AvoidanceDebugFactor::OBJECT_IS_BEHIND_THRESHOLD`. -/
def objectIsBehindThreshold : String := "OBJECT_IS_BEHIND_THRESHOLD"

/-- `AvoidanceDebugFactor::OBJECT_IS_IN_FRONT_THRESHOLD`. -/
def objectIsInFrontThreshold : String := "OBJECT_IS_IN_FRONT_THRESHOLD"

/-- `AvoidanceDebugFactor::OBJECT_BEHIND_PATH_GOAL`. -/
def objectBehindPathGoal : String := "OBJECT_BEHIND_PATH_GOAL"

/-- `AvoidanceDebugFactor::TOO_NEAR_TO_CENTERLINE`. -/
def tooNearToCenterline : String := "TOO_NEAR_TO_CENTERLINE"

/-- `AvoidanceDebugFactor::NOT_PARKING_OBJECT`. -/
def notParkingObject : String := "NOT_PARKING_OBJECT"

/-! ## The helpers of the loop -/

/-- `fillLongitudinalAndLengthByClosestEnvelopeFootprint`: the least arclength from the ego to a
point of the envelope, and the spread of those arclengths, folded from the sentinels
`std::numeric_limits<double>::max()` and `lowest()`.  For an empty envelope the code computes
`lowest() - max()`, which overflows to `-inf`; the model gives the finite `-2 * max()` there.
The envelopes the module builds are boxes, never empty. -/
def fillLongitudinalAndLengthByClosestEnvelopeFootprint (geometry : Geometry) (path : List Pose)
    (egoPos : Point) (obj : ObjectData) : ObjectData :=
  let arcLengths :=
    obj.envelopePoly.map fun p => geometry.calcSignedArcLength path egoPos ⟨p.x, p.y, 0⟩
  let minDistance := arcLengths.foldl min doubleMax
  let maxDistance := arcLengths.foldl max (-doubleMax)
  { obj with longitudinal := minDistance, length := maxDistance - minDistance }

/-- `isWithinCrosswalk`: the object stands within `2.0` of a crosswalk conflicting with its
overhang lanelet. -/
def isWithinCrosswalk (rh : RouteHandler) (geometry : Geometry) (object : ObjectData) : Bool :=
  (rh.conflictingInGraph object.overhangLanelet).any fun crosswalk =>
    geometry.distancePointLanelet object.object.pose.position crosswalk < 2.0

/-- `dist_to_goal`: the arclength from the ego to the end of the rough path when the last current
lanelet lies in the goal section, `doubleMax` otherwise.  The arclength throws on an empty
path. -/
def distToGoal (rh : RouteHandler) (geometry : Geometry) (lastLanelet : Lanelet)
    (pathPoints : List Pose) : Option ℚ :=
  if rh.isInGoalRouteSection lastLanelet then
    if pathPoints.isEmpty then none
    else some (geometry.calcSignedArcLengthIdx pathPoints (geometry.findEgoIndex pathPoints)
      (pathPoints.length - 1))
  else some doubleMax

/-- The loop extending `extend_lanelets` by the first next lanelet while the lane ahead of the
ego is shorter than the forward path length; `rclcpp::ok()` holds for the first `okTicks`
rounds. -/
def extendLaneletsLoop (rh : RouteHandler) (geometry : Geometry) (egoPose : Pose)
    (forwardPathLength : ℚ) : Nat → List Lanelet → List Lanelet
  | 0, extendLanelets => extendLanelets
  | okTicks + 1, extendLanelets =>
    let laneLength := (extendLanelets.map geometry.getLaneletLength2d).sum
    let arclength := geometry.getArcCoordinates extendLanelets egoPose
    match extendLanelets.getLast? with
    | none => extendLanelets
    | some back =>
      match rh.getNextLanelets back with
      | [] => extendLanelets
      | nextLanelet :: _ =>
        if laneLength - arclength.length < forwardPathLength then
          extendLaneletsLoop rh geometry egoPose forwardPathLength okTicks
            (extendLanelets ++ [nextLanelet])
        else extendLanelets

/-- The locals `filterTargetObjects` computes before its loop. -/
structure FilterContext where
  rh : RouteHandler
  geometry : Geometry
  parameters : AvoidanceParameters
  pathPoints : List Pose
  egoPose : Pose
  vehicleWidth : ℚ
  distToGoal : ℚ
  extendLanelets : List Lanelet
  now : ℚ

/-- The context of the loop, with `lastLanelet = data.current_lanelets.back()`. -/
def filterContext (plannerData : PlannerData) (parameters : AvoidanceParameters)
    (data : AvoidancePlanningData) (lastLanelet : Lanelet) (now : ℚ) (okTicks : Nat) :
    Option FilterContext :=
  let rh := plannerData.routeHandler
  let geometry := plannerData.geometry
  (distToGoal rh geometry lastLanelet data.referencePathRough).map fun distToGoal =>
    { rh, geometry, parameters, distToGoal, now
      pathPoints := data.referencePathRough
      egoPose := plannerData.egoPose
      vehicleWidth := plannerData.vehicleWidth
      extendLanelets := extendLaneletsLoop rh geometry plannerData.egoPose
        plannerData.forwardPathLength okTicks data.currentLanelets }

/-- Where the loop body leaves an object, with the fields the body wrote into it. -/
inductive FilterOutcome
  | target (o : ObjectData)
  | other (o : ObjectData)
  /-- the bare `continue` after a failed `getClosestLaneletWithinRoute` -/
  | dropped (o : ObjectData)

/-- The object as the loop leaves it in `objects`. -/
def FilterOutcome.object : FilterOutcome → ObjectData
  | target o | other o | dropped o => o

/-- The object appended to `target_objects`, if any. -/
def FilterOutcome.target? : FilterOutcome → Option ObjectData
  | target o => some o
  | _ => none

/-- The object appended to `other_objects`, if any. -/
def FilterOutcome.other? : FilterOutcome → Option ObjectData
  | other o => some o
  | _ => none

/-- The admission of a target: the object is marked seen now and keeps the avoid margin. -/
def admitTarget (ctx : FilterContext) (o : ObjectData) (avoidMargin : Option ℚ) : FilterOutcome :=
  .target { o with lastSeen := ctx.now, avoidMargin }

/-! ## The three stages of the loop body -/

/-- The reason an object lies outside the target area, if it does: behind or too far ahead of the
ego, beyond the path goal, or too near to it. -/
def areaRejection (parameters : AvoidanceParameters) (distToGoal : ℚ) (o : ObjectData) :
    Option String :=
  if o.longitudinal < -parameters.objectCheckBackwardDistance then some objectIsBehindThreshold
  else if o.longitudinal > parameters.objectCheckMaxForwardDistance then
    some objectIsInFrontThreshold
  else if o.longitudinal > distToGoal then some objectBehindPathGoal
  else if o.longitudinal + o.length / 2 + parameters.objectCheckGoalDistance > distToGoal then
    some "TooNearToGoal"
  else none

/-- The reason the shift to the avoid margin is rejected, if it is: a shift towards the object,
or one below the execution threshold. -/
def shiftRejection (parameters : AvoidanceParameters) (o : ObjectData) : Option ℚ → Option String
  | none => none
  | some avoidMargin =>
    let shiftLength := calcShiftLength (isOnRight o) o.overhangDist avoidMargin
    if !isShiftNecessary (isOnRight o) shiftLength then some "NotNeedAvoidance"
    else if |shiftLength| < parameters.lateralExecutionThreshold then
      some "LessThanExecutionThreshold"
    else none

/-- The check of a vehicle stopped longer than the force-avoidance threshold: the distance to
the next stop factor, and whether it stopped for a traffic light or a crosswalk ahead. -/
def checkStoppedVehicle (ctx : FilterContext) (o : ObjectData) : ℚ × Bool :=
  let parameters := ctx.parameters
  -- check traffic light
  let toTrafficLight :=
    ctx.geometry.getDistanceToNextTrafficLight o.object.pose ctx.extendLanelets
  let notParkedObject :=
    decide (toTrafficLight < parameters.objectIgnoreSectionTrafficLightInFrontDistance)
  -- check crosswalk
  let toCrosswalk :=
    ctx.geometry.getDistanceToCrosswalk ctx.egoPose ctx.extendLanelets - o.longitudinal
  let stopForCrosswalk :=
    decide (toCrosswalk < parameters.objectIgnoreSectionCrosswalkInFrontDistance) &&
      decide (toCrosswalk > -1.0 * parameters.objectIgnoreSectionCrosswalkBehindDistance)
  (min toTrafficLight toCrosswalk, notParkedObject || stopForCrosswalk)

/-- The lambda giving `object_shiftable_distance` on one side: from the centre line to the outer
bound of the outermost lanelet on that side, preferring a road shoulder sharing the bound, less
half the object's width, plus the minimum shoulder width when the outermost road lanelet is not a
road shoulder.  Reading a missing subtype throws. -/
def objectShiftableDistance (rh : RouteHandler) (geometry : Geometry)
    (parameters : AvoidanceParameters) (overhangLanelet : Lanelet) (centerlinePoint : Point)
    (o : ObjectData) (isLeft : Bool) : Option ℚ := do
  let bound (ll : Lanelet) := if isLeft then ll.leftBound else ll.rightBound
  let mostRoadLanelet :=
    if isLeft then rh.getMostLeftLanelet overhangLanelet else rh.getMostRightLanelet overhangLanelet
  let candidates := rh.findUsages (bound mostRoadLanelet)
  let subType ← mostRoadLanelet.attribute "subtype"
  let mostLanelet ← candidates.foldlM (fun most ll => do
    let candidateSubType ← ll.attribute "subtype"
    pure (if candidateSubType = "road_shoulder" then ll else most)) mostRoadLanelet
  let centerToBoundary := geometry.distance2d (bound mostLanelet) centerlinePoint
  let shiftableDistance := centerToBoundary - 0.5 * o.object.shapeDimensionsY
  pure (if subType ≠ "road_shoulder" then
    shiftableDistance + parameters.objectCheckMinRoadShoulderWidth else shiftableDistance)

/-- The parking check of an object inside the ego lane: the signed lateral offset of its centroid
from the centre line over its shiftable distance, positive towards the object's side, must exceed
`object_check_shiftable_ratio`. -/
def parkingCheck (ctx : FilterContext) (o : ObjectData) (overhangLanelet : Lanelet) :
    Option (ObjectData × Bool) := do
  let centerlinePose := ctx.geometry.getClosestCenterPose overhangLanelet o.object.pose.position
  let isLeft := !isOnRight o
  let shiftableDistance ← objectShiftableDistance ctx.rh ctx.geometry ctx.parameters
    overhangLanelet centerlinePose.position o isLeft
  let arcCoordinates :=
    ctx.geometry.toArcCoordinates overhangLanelet.centerline ⟨o.centroid.x, o.centroid.y, 0⟩
  let shiftableRatio :=
    if isLeft then arcCoordinates.distance / shiftableDistance
    else -1.0 * arcCoordinates.distance / shiftableDistance
  pure ({ o with shiftableRatio }, decide (shiftableRatio > ctx.parameters.objectCheckShiftableRatio))

/-- Whether the lanelet's `turn_direction` marks it as part of an intersection, where no vehicle
is taken as parked. -/
def isIntersectionLane (overhangLanelet : Lanelet) : Bool :=
  let turnDirection := overhangLanelet.attributeOr "turn_direction" "else"
  turnDirection == "right" || turnDirection == "left" || turnDirection == "straight"

/-- The checks of a vehicle that is not force-avoided: the centre-line gate, then the parking
check of a vehicle inside the ego lane outside intersections; a vehicle outside the ego lane is a
target whether parked or not. -/
def filterParkedVehicle (ctx : FilterContext) (o : ObjectData) (overhangLanelet : Lanelet)
    (avoidMargin : Option ℚ) : Option FilterOutcome :=
  -- Object is on center line -> ignore.
  if |o.lateral| < ctx.parameters.thresholdDistanceObjectIsOnCenter then
    some (.other { o with reason := tooNearToCenterline })
  else if !ctx.geometry.within o.centroid overhangLanelet then
    some (admitTarget ctx o avoidMargin)
  else if isIntersectionLane overhangLanelet then
    some (.other { o with reason := notParkingObject })
  else
    (parkingCheck ctx o overhangLanelet).map fun (o, isParked) =>
      if isParked then admitTarget ctx o avoidMargin
      else .other { o with reason := notParkingObject }

/-- The checks of a vehicle: a vehicle stopped longer than the force-avoidance threshold, and not
for a traffic light or a crosswalk ahead, is a target; any other goes through
`filterParkedVehicle`. -/
def filterVehicle (ctx : FilterContext) (o : ObjectData) (overhangLanelet : Lanelet)
    (avoidMargin : Option ℚ) : Option FilterOutcome :=
  let parameters := ctx.parameters
  if o.stopTime > parameters.thresholdTimeForceAvoidanceForStoppedVehicle &&
      parameters.enableForceAvoidanceForStoppedVehicle then
    -- force avoidance for stopped vehicle
    let (toStopFactorDistance, notParkedObject) := checkStoppedVehicle ctx o
    let o := { o with toStopFactorDistance }
    if !notParkedObject then some (admitTarget ctx o avoidMargin)
    else filterParkedVehicle ctx o overhangLanelet avoidMargin
  else filterParkedVehicle ctx o overhangLanelet avoidMargin

/-- The block run for a lanelet with an id: the overhang lanelet is recorded and
`to_road_shoulder_distance` becomes the extended distance to the shoulder. -/
def fillRoadShoulderDistance (ctx : FilterContext) (o : ObjectData) (overhangLanelet : Lanelet) :
    Option ObjectData :=
  let o := { o with overhangLanelet }
  let (toRoadShoulderDistance, targetLine) :=
    roadShoulderDistance ctx.rh ctx.geometry ctx.parameters o overhangLanelet
  (extendToRoadShoulderDistanceWithPolygon ctx.rh ctx.geometry targetLine toRoadShoulderDistance
    overhangLanelet o.overhangPose.position ctx.parameters.useHatchedRoadMarkings
    ctx.parameters.useIntersectionAreas).map fun toRoadShoulderDistance =>
      { o with toRoadShoulderDistance }

/-- The body after the lanelet lookup: the distance to the shoulder, the avoid margin and its
shift gates, then the crosswalk check of a non-vehicle or the checks of a vehicle. -/
def filterOnLanelet (ctx : FilterContext) (o : ObjectData) (overhangLanelet : Lanelet) :
    Option FilterOutcome :=
  (if overhangLanelet.id ≠ 0 then fillRoadShoulderDistance ctx o overhangLanelet else some o).bind
    fun o =>
      -- calculate avoid_margin dynamically
      let objectParameter := ctx.parameters.objectParameterAt o.object.label
      let avoidMargin := calcAvoidMargin ctx.parameters objectParameter o ctx.vehicleWidth
      match shiftRejection ctx.parameters o avoidMargin with
      | some reason => some (.other { o with reason })
      | none =>
        -- for non vehicle type object
        if !isVehicleTypeObject o then
          if isWithinCrosswalk ctx.rh ctx.geometry o then
            some (.other { o with reason := "CrosswalkUser" })
          else some (admitTarget ctx o avoidMargin)
        else filterVehicle ctx o overhangLanelet avoidMargin

/-- The loop body of `filterTargetObjects` for one object.  It throws when the rough path is
empty. -/
def filterObject (ctx : FilterContext) (o : ObjectData) : Option FilterOutcome := do
  let objectClosestIndex ← findNearestIndex ctx.pathPoints o.object.pose.position
  let objectClosestPose ← ctx.pathPoints[objectClosestIndex]?
  if !isTargetObjectType o.object ctx.parameters then
    pure (.other { o with reason := objectIsNotType })
  else if o.moveTime >
      ((ctx.parameters.objectParameterAt o.object.label).movingTimeThreshold : WithTop ℚ) then
    pure (.other { o with reason := movingObject })
  else
    let o := fillLongitudinalAndLengthByClosestEnvelopeFootprint ctx.geometry ctx.pathPoints
      ctx.egoPose.position o
    match areaRejection ctx.parameters ctx.distToGoal o with
    | some reason => pure (.other { o with reason })
    | none =>
      match ctx.rh.getClosestLaneletWithinRoute objectClosestPose with
      | none => pure (.dropped o)
      | some overhangLanelet => filterOnLanelet ctx o overhangLanelet

/-- `filterTargetObjects`, with the clock reading `now` and `rclcpp::ok()` holding for `okTicks`
rounds of the lanelet extension.  It returns the objects as the loop leaves them and the planning
data with the appended targets and others. -/
def filterTargetObjects (objects : List ObjectData) (data : AvoidancePlanningData)
    (plannerData : PlannerData) (parameters : AvoidanceParameters) (now : ℚ) (okTicks : Nat) :
    Option (List ObjectData × AvoidancePlanningData) :=
  match data.currentLanelets.getLast? with
  | none => some (objects, data)
  | some lastLanelet => do
    let ctx ← filterContext plannerData parameters data lastLanelet now okTicks
    let outcomes ← objects.mapM (filterObject ctx)
    pure (outcomes.map FilterOutcome.object,
      { data with
        targetObjects := data.targetObjects ++ outcomes.filterMap FilterOutcome.target?
        otherObjects := data.otherObjects ++ outcomes.filterMap FilterOutcome.other? })

/-! ## What each stage admits -/

section Stages

variable {ctx : FilterContext} {o o' : ObjectData} {overhangLanelet : Lanelet}
  {avoidMargin : Option ℚ}

theorem areaRejection_eq_none_iff {parameters : AvoidanceParameters} {distToGoal : ℚ} :
    areaRejection parameters distToGoal o = none ↔
      -parameters.objectCheckBackwardDistance ≤ o.longitudinal ∧
        o.longitudinal ≤ parameters.objectCheckMaxForwardDistance ∧
          o.longitudinal ≤ distToGoal ∧
            o.longitudinal + o.length / 2 + parameters.objectCheckGoalDistance ≤ distToGoal := by
  unfold areaRejection
  split_ifs <;> simp_all [not_lt]

theorem shiftRejection_eq_none_iff {parameters : AvoidanceParameters} :
    shiftRejection parameters o avoidMargin = none ↔ ∀ m, avoidMargin = some m →
      isShiftNecessary (isOnRight o) (calcShiftLength (isOnRight o) o.overhangDist m) = true ∧
        parameters.lateralExecutionThreshold ≤
          |calcShiftLength (isOnRight o) o.overhangDist m| := by
  cases avoidMargin with
  | none => simp [shiftRejection]
  | some m =>
    simp only [shiftRejection, Option.some.injEq, forall_eq']
    split_ifs <;> simp_all

/-- The parking check writes only the shiftable ratio. -/
theorem parkingCheck_object {isParked : Bool}
    (h : parkingCheck ctx o overhangLanelet = some (o', isParked)) :
    ∃ shiftableRatio, o' = { o with shiftableRatio } := by
  simp only [parkingCheck, Option.bind_eq_bind, Option.bind_eq_some, Option.some.injEq,
    Prod.mk.injEq] at h
  obtain ⟨_, _, rfl, -⟩ := h
  exact ⟨_, rfl⟩

/-- A vehicle not force-avoided is admitted off the centre line, with at most its shiftable
ratio written. -/
theorem filterParkedVehicle_target
    (h : filterParkedVehicle ctx o overhangLanelet avoidMargin = some (.target o')) :
    ctx.parameters.thresholdDistanceObjectIsOnCenter ≤ |o.lateral| ∧
      ∃ shiftableRatio, o' = { o with shiftableRatio, lastSeen := ctx.now, avoidMargin } := by
  unfold filterParkedVehicle admitTarget at h
  split_ifs at h with hcenter hwithin hintersection
  · cases h
  · cases h
    exact ⟨not_lt.mp hcenter, _, rfl⟩
  · cases h
  · obtain ⟨⟨o₂, isParked⟩, hparking, h⟩ := Option.map_eq_some'.mp h
    obtain ⟨shiftableRatio, rfl⟩ := parkingCheck_object hparking
    cases isParked
    · cases h
    · cases h
      exact ⟨not_lt.mp hcenter, shiftableRatio, rfl⟩

/-- A vehicle is admitted either as a stopped vehicle under forced avoidance or off the centre
line; on the way the body writes at most the stop-factor distance and the shiftable ratio. -/
theorem filterVehicle_target
    (h : filterVehicle ctx o overhangLanelet avoidMargin = some (.target o')) :
    ∃ toStopFactorDistance shiftableRatio,
      o' = { o with toStopFactorDistance, shiftableRatio, lastSeen := ctx.now, avoidMargin } ∧
        ((ctx.parameters.enableForceAvoidanceForStoppedVehicle = true ∧
            ctx.parameters.thresholdTimeForceAvoidanceForStoppedVehicle < o.stopTime) ∨
          ctx.parameters.thresholdDistanceObjectIsOnCenter ≤ |o.lateral|) := by
  unfold filterVehicle at h
  dsimp only at h
  split_ifs at h with hforce hstopped
  · simp only [Bool.and_eq_true, decide_eq_true_eq] at hforce
    simp only [admitTarget, Option.some.injEq, FilterOutcome.target.injEq] at h
    exact ⟨_, _, h.symm, .inl ⟨hforce.2, hforce.1⟩⟩
  all_goals
    obtain ⟨hcenter, shiftableRatio, rfl⟩ := filterParkedVehicle_target h
    exact ⟨_, shiftableRatio, rfl, .inr hcenter⟩

/-- The shoulder block writes only the overhang lanelet and the distance to the shoulder. -/
theorem fillRoadShoulderDistance_object {o₁ : ObjectData}
    (h : fillRoadShoulderDistance ctx o overhangLanelet = some o₁) :
    ∃ toRoadShoulderDistance, o₁ = { o with overhangLanelet, toRoadShoulderDistance } := by
  obtain ⟨_, -, rfl⟩ := Option.map_eq_some'.mp h
  exact ⟨_, rfl⟩

/-- An object admitted after the lanelet lookup passed the shift gates for its margin, and the
crosswalk check or the vehicle checks; on the way the body writes at most the overhang lanelet,
the distances to the shoulder and to the stop factor, and the shiftable ratio. -/
theorem filterOnLanelet_target (h : filterOnLanelet ctx o overhangLanelet = some (.target o')) :
    (∃ (lanelet : Lanelet) (shoulder stopFactor ratio : ℚ) (margin : Option ℚ),
      o' = { o with
        overhangLanelet := lanelet, toRoadShoulderDistance := shoulder,
        toStopFactorDistance := stopFactor, shiftableRatio := ratio,
        lastSeen := ctx.now, avoidMargin := margin }) ∧
    shiftRejection ctx.parameters o' o'.avoidMargin = none ∧
    (isVehicleTypeObject o' = false → isWithinCrosswalk ctx.rh ctx.geometry o' = false) ∧
    (isVehicleTypeObject o' = true →
      (ctx.parameters.enableForceAvoidanceForStoppedVehicle = true ∧
          ctx.parameters.thresholdTimeForceAvoidanceForStoppedVehicle < o'.stopTime) ∨
        ctx.parameters.thresholdDistanceObjectIsOnCenter ≤ |o'.lateral|) := by
  obtain ⟨o₁, hfill, h⟩ := Option.bind_eq_some.mp h
  obtain ⟨lanelet, toRoadShoulderDistance, rfl⟩ :
      ∃ lanelet toRoadShoulderDistance,
        o₁ = { o with overhangLanelet := lanelet, toRoadShoulderDistance } := by
    split_ifs at hfill
    · exact ⟨_, fillRoadShoulderDistance_object hfill⟩
    · cases hfill
      exact ⟨_, _, rfl⟩
  dsimp only at h
  split at h
  · cases h
  · rename_i hshift
    split_ifs at h with hvehicle hcrosswalk
    · cases h
    · cases h
      simp only [Bool.not_eq_true'] at hvehicle
      exact ⟨⟨_, _, _, _, _, rfl⟩, hshift, fun _ => by simpa using hcrosswalk,
        fun h => absurd (hvehicle.symm.trans h) (by decide)⟩
    · simp only [Bool.not_eq_true', Bool.not_eq_false] at hvehicle
      obtain ⟨toStopFactorDistance, shiftableRatio, rfl, hgate⟩ := filterVehicle_target h
      exact ⟨⟨_, _, _, _, _, rfl⟩, hshift,
        fun h => absurd (hvehicle.symm.trans h) (by decide), fun _ => hgate⟩

/-- An admitted object is of a target type, not moving, inside the target area, and admitted on a
lanelet of the route. -/
theorem filterObject_target (h : filterObject ctx o = some (.target o')) :
    isTargetObjectType o.object ctx.parameters = true ∧
      o.moveTime ≤ ((ctx.parameters.objectParameterAt o.object.label).movingTimeThreshold :
        WithTop ℚ) ∧
      ∃ overhangLanelet,
        let o₀ := fillLongitudinalAndLengthByClosestEnvelopeFootprint ctx.geometry ctx.pathPoints
          ctx.egoPose.position o
        areaRejection ctx.parameters ctx.distToGoal o₀ = none ∧
          filterOnLanelet ctx o₀ overhangLanelet = some (.target o') := by
  simp only [filterObject, Option.bind_eq_bind, Option.bind_eq_some] at h
  obtain ⟨_, -, objectClosestPose, -, h⟩ := h
  split_ifs at h with htype hmoving
  · cases h
  · cases h
  · simp only [Bool.not_eq_true', Bool.not_eq_false] at htype
    refine ⟨htype, not_lt.mp hmoving, ?_⟩
    split at h
    · cases h
    · rename_i harea
      split at h
      · cases h
      · exact ⟨_, harea, h⟩

end Stages

/-! ## Every target passes every gate -/

/-- The gates an object admitted as a target has passed, whichever admission it took. -/
structure AdmittedTarget (ctx : FilterContext) (o : ObjectData) : Prop where
  isTarget : isTargetObjectType o.object ctx.parameters = true
  notMoving :
    o.moveTime ≤ ((ctx.parameters.objectParameterAt o.object.label).movingTimeThreshold : WithTop ℚ)
  notBehind : -ctx.parameters.objectCheckBackwardDistance ≤ o.longitudinal
  notTooFar : o.longitudinal ≤ ctx.parameters.objectCheckMaxForwardDistance
  notNearGoal :
    o.longitudinal + o.length / 2 + ctx.parameters.objectCheckGoalDistance ≤ ctx.distToGoal
  shiftExecutable : ∀ m, o.avoidMargin = some m →
    isShiftNecessary (isOnRight o) (calcShiftLength (isOnRight o) o.overhangDist m) = true ∧
      ctx.parameters.lateralExecutionThreshold ≤ |calcShiftLength (isOnRight o) o.overhangDist m|
  notCrosswalkUser : isVehicleTypeObject o = false → isWithinCrosswalk ctx.rh ctx.geometry o = false
  stoppedOrOffCenter : isVehicleTypeObject o = true →
    (ctx.parameters.enableForceAvoidanceForStoppedVehicle = true ∧
        ctx.parameters.thresholdTimeForceAvoidanceForStoppedVehicle < o.stopTime) ∨
      ctx.parameters.thresholdDistanceObjectIsOnCenter ≤ |o.lateral|

section Admitted

variable {ctx : FilterContext} {o o' : ObjectData}

theorem filterObject_admitted (h : filterObject ctx o = some (.target o')) :
    AdmittedTarget ctx o' := by
  obtain ⟨htype, hmoving, _, harea, h⟩ := filterObject_target h
  obtain ⟨⟨_, _, _, _, _, rfl⟩, hshift, hcrosswalk, hvehicle⟩ := filterOnLanelet_target h
  obtain ⟨hbehind, hfront, -, hgoal⟩ := areaRejection_eq_none_iff.mp harea
  exact ⟨htype, hmoving, hbehind, hfront, hgoal, shiftRejection_eq_none_iff.mp hshift, hcrosswalk,
    hvehicle⟩

/-- With a positive execution threshold, the shift to an admitted object's margin points away
from it: to the left of an object on the right, to the right of one on the left. -/
theorem AdmittedTarget.shift_sign (ha : AdmittedTarget ctx o)
    (hthr : 0 < ctx.parameters.lateralExecutionThreshold) {m : ℚ} (hm : o.avoidMargin = some m) :
    (isOnRight o = true → 0 < calcShiftLength (isOnRight o) o.overhangDist m) ∧
      (isOnRight o = false → calcShiftLength (isOnRight o) o.overhangDist m < 0) := by
  obtain ⟨hnecessary, habs⟩ := ha.shiftExecutable m hm
  generalize isOnRight o = onRight at hnecessary habs ⊢
  generalize calcShiftLength onRight o.overhangDist m = shiftLength at hnecessary habs ⊢
  rw [isShiftNecessary_iff] at hnecessary
  cases onRight
  · simp only [Bool.false_eq_true, ↓reduceIte] at hnecessary
    rw [abs_of_nonpos hnecessary] at habs
    exact ⟨nofun, fun _ => by linarith⟩
  · simp only [↓reduceIte] at hnecessary
    rw [abs_of_nonneg hnecessary] at habs
    exact ⟨fun _ => by linarith, nofun⟩

end Admitted

/-- Each result of a successful `mapM` in `Option` is the image of an argument. -/
theorem exists_of_mem_mapM_eq_some {α β : Type} {f : α → Option β} :
    ∀ {l : List α} {l' : List β}, l.mapM f = some l' → ∀ b ∈ l', ∃ a ∈ l, f a = some b
  | [], _, h => by
    simp only [List.mapM_nil, Option.pure_def, Option.some.injEq] at h
    simp [← h]
  | a :: l, _, h => by
    simp only [List.mapM_cons, Option.bind_eq_bind, Option.bind_eq_some, Option.pure_def,
      Option.some.injEq] at h
    obtain ⟨b, hb, bs, hbs, rfl⟩ := h
    rintro b' (_ | ⟨_, hb'⟩)
    · exact ⟨a, List.mem_cons_self _ _, hb⟩
    · obtain ⟨a', ha', hfa'⟩ := exists_of_mem_mapM_eq_some hbs b' hb'
      exact ⟨a', List.mem_cons_of_mem _ ha', hfa'⟩

/-- A successful call returns its arguments when there is no current lanelet; otherwise it
appends, object by object, the outcome of the loop body under the context of the call. -/
theorem filterTargetObjects_eq_some {objects : List ObjectData} {data : AvoidancePlanningData}
    {plannerData : PlannerData} {parameters : AvoidanceParameters} {now : ℚ} {okTicks : Nat}
    {result : List ObjectData × AvoidancePlanningData}
    (h : filterTargetObjects objects data plannerData parameters now okTicks = some result) :
    result = (objects, data) ∨
      ∃ (lastLanelet : Lanelet) (ctx : FilterContext) (outcomes : List FilterOutcome),
        data.currentLanelets.getLast? = some lastLanelet ∧
        filterContext plannerData parameters data lastLanelet now okTicks = some ctx ∧
        (∀ outcome ∈ outcomes, ∃ o ∈ objects, filterObject ctx o = some outcome) ∧
        result.2.targetObjects = data.targetObjects ++ outcomes.filterMap FilterOutcome.target? ∧
        result.2.otherObjects = data.otherObjects ++ outcomes.filterMap FilterOutcome.other? := by
  unfold filterTargetObjects at h
  split at h
  · exact .inl (Option.some.inj h).symm
  · rename_i lastLanelet hlast
    simp only [Option.bind_eq_bind, Option.bind_eq_some, Option.pure_def,
      Option.some.injEq] at h
    obtain ⟨ctx, hctx, outcomes, houtcomes, rfl⟩ := h
    exact .inr ⟨lastLanelet, ctx, outcomes, hlast, hctx,
      exists_of_mem_mapM_eq_some houtcomes, rfl, rfl⟩

theorem filterTargetObjects_targets_admitted (objects : List ObjectData)
    (data : AvoidancePlanningData) (plannerData : PlannerData) (parameters : AvoidanceParameters)
    (now : ℚ) (okTicks : Nat) (lastLanelet : Lanelet) (ctx : FilterContext)
    (result : List ObjectData × AvoidancePlanningData)
    (hlast : data.currentLanelets.getLast? = some lastLanelet)
    (hctx : filterContext plannerData parameters data lastLanelet now okTicks = some ctx)
    (h : filterTargetObjects objects data plannerData parameters now okTicks = some result) :
    ∃ appended, result.2.targetObjects = data.targetObjects ++ appended ∧
      ∀ o ∈ appended, AdmittedTarget ctx o ∧
        (0 < ctx.parameters.lateralExecutionThreshold → ∀ m, o.avoidMargin = some m →
          (isOnRight o = true → 0 < calcShiftLength (isOnRight o) o.overhangDist m) ∧
            (isOnRight o = false → calcShiftLength (isOnRight o) o.overhangDist m < 0)) := by
  obtain rfl | ⟨lastLanelet', ctx', outcomes, hlast', hctx', houtcomes, htargets, -⟩ :=
    filterTargetObjects_eq_some h
  · exact ⟨[], by simp, by simp⟩
  obtain rfl : lastLanelet' = lastLanelet := Option.some.inj (hlast'.symm.trans hlast)
  obtain rfl : ctx' = ctx := Option.some.inj (hctx'.symm.trans hctx)
  refine ⟨_, htargets, fun o ho => ?_⟩
  obtain ⟨outcome, hmem, htarget⟩ := List.mem_filterMap.mp ho
  obtain ⟨_, -, hobject⟩ := houtcomes outcome hmem
  cases outcome <;> simp only [FilterOutcome.target?, Option.some.injEq, reduceCtorEq] at htarget
  subst htarget
  have ha := filterObject_admitted hobject
  exact ⟨ha, fun hthr _ hm => ha.shift_sign hthr hm⟩

/-! ## Every ignored object carries a reason -/

section Reasons

variable {ctx : FilterContext} {o o' : ObjectData} {overhangLanelet : Lanelet}
  {avoidMargin : Option ℚ} {reason : String}

theorem areaRejection_ne_empty {parameters : AvoidanceParameters} {distToGoal : ℚ}
    (h : areaRejection parameters distToGoal o = some reason) : reason ≠ "" := by
  unfold areaRejection at h
  split_ifs at h <;> cases h <;> decide

theorem shiftRejection_ne_empty {parameters : AvoidanceParameters}
    (h : shiftRejection parameters o avoidMargin = some reason) : reason ≠ "" := by
  cases avoidMargin with
  | none => cases h
  | some m =>
    simp only [shiftRejection] at h
    split_ifs at h <;> cases h <;> decide

theorem filterParkedVehicle_other
    (h : filterParkedVehicle ctx o overhangLanelet avoidMargin = some (.other o')) :
    o'.reason ≠ "" := by
  unfold filterParkedVehicle admitTarget at h
  split_ifs at h
  · cases h; dsimp only; decide
  · cases h
  · cases h; dsimp only; decide
  · obtain ⟨⟨_, isParked⟩, -, h⟩ := Option.map_eq_some'.mp h
    cases isParked
    · cases h; dsimp only; decide
    · cases h

theorem filterVehicle_other
    (h : filterVehicle ctx o overhangLanelet avoidMargin = some (.other o')) :
    o'.reason ≠ "" := by
  unfold filterVehicle at h
  dsimp only at h
  split_ifs at h
  · cases h
  all_goals exact filterParkedVehicle_other h

theorem filterOnLanelet_other (h : filterOnLanelet ctx o overhangLanelet = some (.other o')) :
    o'.reason ≠ "" := by
  obtain ⟨_, -, h⟩ := Option.bind_eq_some.mp h
  dsimp only at h
  split at h
  · cases h
    exact shiftRejection_ne_empty ‹_›
  · split_ifs at h
    · cases h; dsimp only; decide
    · cases h
    · exact filterVehicle_other h

theorem filterObject_other (h : filterObject ctx o = some (.other o')) : o'.reason ≠ "" := by
  simp only [filterObject, Option.bind_eq_bind, Option.bind_eq_some] at h
  obtain ⟨_, -, _, -, h⟩ := h
  split_ifs at h
  · cases h; dsimp only; decide
  · cases h; dsimp only; decide
  · split at h
    · cases h
      exact areaRejection_ne_empty ‹_›
    · split at h
      · cases h
      · exact filterOnLanelet_other h

end Reasons

/-- Every object `filterTargetObjects` appends to the others carries a non-empty reason. -/
theorem filterTargetObjects_others_have_reason {objects : List ObjectData}
    {data : AvoidancePlanningData} {plannerData : PlannerData} {parameters : AvoidanceParameters}
    {now : ℚ} {okTicks : Nat} {result : List ObjectData × AvoidancePlanningData}
    (h : filterTargetObjects objects data plannerData parameters now okTicks = some result) :
    ∃ appended, result.2.otherObjects = data.otherObjects ++ appended ∧
      ∀ o ∈ appended, o.reason ≠ "" := by
  obtain rfl | ⟨-, ctx, outcomes, -, -, houtcomes, -, hothers⟩ := filterTargetObjects_eq_some h
  · exact ⟨[], by simp, by simp⟩
  refine ⟨_, hothers, fun o ho => ?_⟩
  obtain ⟨outcome, hmem, hother⟩ := List.mem_filterMap.mp ho
  obtain ⟨_, -, hobject⟩ := houtcomes outcome hmem
  cases outcome <;> simp only [FilterOutcome.other?, Option.some.injEq, reduceCtorEq] at hother
  subst hother
  exact filterObject_other hobject

/-- A pedestrian on a one-point path, on a route lanelet without an id, away from crosswalks: it
is admitted, and the theorem applies to the run. -/
theorem filterTargetObjects_admits_pedestrian :
    let origin : Pose := { position := ⟨0, 0, 0⟩, orientation := default }
    let pedestrian : ObjectData :=
      { (default : ObjectData) with
        object := { (default : PredictedObject) with label := .pedestrian, pose := origin }
        lateral := 0, overhangDist := 0, distanceFactor := 0, toRoadShoulderDistance := 0
        moveTime := 0, envelopePoly := [⟨0, 0⟩] }
    let data : AvoidancePlanningData :=
      { currentLanelets := [default], referencePathRough := [origin], referencePath := [],
        arclengthFromEgo := [], targetObjects := [], otherObjects := [] }
    let parameters := AvoidanceParameters.uniform
      { isTarget := true, movingSpeedThreshold := 0, movingTimeThreshold := 0,
        envelopeBufferMargin := 0, safetyBufferLateral := 0, avoidMarginLateral := 0 }
    let plannerData : PlannerData :=
      { routeHandler := { (default : RouteHandler) with
          isInGoalRouteSection := fun _ => false
          getClosestLaneletWithinRoute := fun _ => some { (default : Lanelet) with id := 0 }
          conflictingInGraph := fun _ => [] }
        geometry := { (default : Geometry) with calcSignedArcLength := fun _ _ _ => 0 }
        egoPose := origin, vehicleWidth := 0, forwardPathLength := 0 }
    ∃ ctx result,
      (data.currentLanelets.getLast? = some default ∧
        filterContext plannerData parameters data default 0 0 = some ctx ∧
        filterTargetObjects [pedestrian] data plannerData parameters 0 0 = some result) ∧
      result.2.targetObjects.length = 1 ∧
      ∃ appended, result.2.targetObjects = data.targetObjects ++ appended ∧
        ∀ o ∈ appended, AdmittedTarget ctx o ∧
          (0 < ctx.parameters.lateralExecutionThreshold → ∀ m, o.avoidMargin = some m →
            (isOnRight o = true → 0 < calcShiftLength (isOnRight o) o.overhangDist m) ∧
              (isOnRight o = false → calcShiftLength (isOnRight o) o.overhangDist m < 0)) := by
  intro origin pedestrian data parameters plannerData
  have hrun : (filterTargetObjects [pedestrian] data plannerData parameters 0 0).map
      (fun result => result.2.targetObjects.length) = some 1 := by
    norm_num [filterTargetObjects, filterContext, distToGoal, extendLaneletsLoop, filterObject,
      findNearestIndex, findNearestIndexLoop, calcSquaredDistance2d, isTargetObjectType,
      AvoidanceParameters.uniform, AvoidanceParameters.objectParameterAt, doubleMax,
      fillLongitudinalAndLengthByClosestEnvelopeFootprint, areaRejection, filterOnLanelet,
      calcAvoidMargin, hardLateralDistanceLimit, softLateralDistanceLimit, minAvoidMargin,
      maxAvoidMargin, shiftRejection, calcShiftLength, isShiftNecessary, isOnRight,
      isVehicleTypeObject, isWithinCrosswalk, admitTarget, FilterOutcome.target?,
      List.filterMap_cons, List.mapM.loop, origin,
      pedestrian, data, parameters, plannerData]
  obtain ⟨result, hresult, hlength⟩ := Option.map_eq_some'.mp hrun
  exact ⟨_, result, ⟨rfl, rfl, hresult⟩, hlength,
    filterTargetObjects_targets_admitted [pedestrian] data plannerData parameters 0 0 default _
      result rfl rfl hresult⟩

/-- Every object appended to the others carries a non-empty reason; yet a pedestrian for which
the route has no close lanelet leaves the loop by the bare `continue`: it is appended to neither
list. -/
theorem filterTargetObjects_drops_object :
    (∀ (objects : List ObjectData) (data : AvoidancePlanningData) (plannerData : PlannerData)
        (parameters : AvoidanceParameters) (now : ℚ) (okTicks : Nat)
        (result : List ObjectData × AvoidancePlanningData),
      filterTargetObjects objects data plannerData parameters now okTicks = some result →
      ∃ appended, result.2.otherObjects = data.otherObjects ++ appended ∧
        ∀ o ∈ appended, o.reason ≠ "") ∧
    let origin : Pose := { position := ⟨0, 0, 0⟩, orientation := default }
    let pedestrian : ObjectData :=
      { (default : ObjectData) with
        object := { (default : PredictedObject) with label := .pedestrian, pose := origin }
        moveTime := 0, envelopePoly := [⟨0, 0⟩] }
    let data : AvoidancePlanningData :=
      { currentLanelets := [default], referencePathRough := [origin], referencePath := [],
        arclengthFromEgo := [], targetObjects := [], otherObjects := [] }
    let parameters := AvoidanceParameters.uniform
      { isTarget := true, movingSpeedThreshold := 0, movingTimeThreshold := 0,
        envelopeBufferMargin := 0, safetyBufferLateral := 0, avoidMarginLateral := 0 }
    let plannerData : PlannerData :=
      { routeHandler := { (default : RouteHandler) with
          isInGoalRouteSection := fun _ => false, getClosestLaneletWithinRoute := fun _ => none }
        geometry := { (default : Geometry) with calcSignedArcLength := fun _ _ _ => 0 }
        egoPose := origin, vehicleWidth := 0, forwardPathLength := 0 }
    (filterTargetObjects [pedestrian] data plannerData parameters 0 0).map
      (fun result => (result.2.targetObjects, result.2.otherObjects)) = some ([], []) := by
  refine ⟨fun _ _ _ _ _ _ _ h => filterTargetObjects_others_have_reason h, ?_⟩
  norm_num [filterTargetObjects, filterContext, distToGoal, extendLaneletsLoop, filterObject,
    findNearestIndex, findNearestIndexLoop, calcSquaredDistance2d, isTargetObjectType,
    AvoidanceParameters.uniform, AvoidanceParameters.objectParameterAt, doubleMax,
    fillLongitudinalAndLengthByClosestEnvelopeFootprint, areaRejection, FilterOutcome.target?,
    FilterOutcome.other?, List.mapM.loop]

/-- A vehicle whose envelope touches the shoulder line next to a hatched road marking, inside the
ego lane and exactly as wide as its shiftable space: the ray is stretched by `100 / 0` and the
shiftable ratio divides by `0`.  The ratio, `1` on entry, is overwritten by the parking check. -/
theorem filterObject_reaches_zero_divisors :
    let origin : Pose := { position := ⟨0, 0, 0⟩, orientation := default }
    let line : LineString := ⟨0, [⟨0, 1, 0⟩]⟩
    let hatched : Polygon3d := ⟨7, [⟨0, 1, 0⟩, ⟨1, 1, 0⟩, ⟨1, 2, 0⟩]⟩
    let lanelet : Lanelet := { (default : Lanelet) with id := 1, attributes := [] }
    let shoulder : Lanelet :=
      { (default : Lanelet) with id := 2, attributes := [("subtype", "road_shoulder")] }
    let car : ObjectData :=
      { (default : ObjectData) with
        object := { (default : PredictedObject) with
          label := .car, pose := origin, shapeDimensionsY := 0 }
        lateral := 0, overhangDist := 0, distanceFactor := 0, moveTime := 0, stopTime := 0
        envelopePoly := [⟨0, 0⟩], overhangPose := origin, centroid := ⟨0, 0⟩, shiftableRatio := 1 }
    let parameters : AvoidanceParameters :=
      { AvoidanceParameters.uniform
          { isTarget := true, movingSpeedThreshold := 0, movingTimeThreshold := 0,
            envelopeBufferMargin := 0, safetyBufferLateral := 0, avoidMarginLateral := 0 } with
        useHatchedRoadMarkings := true }
    let rh : RouteHandler :=
      { (default : RouteHandler) with
        getClosestLaneletWithinRoute := fun _ => some lanelet
        getFurthestLinestring := fun _ _ _ _ => (line, line)
        getPreviousLaneletsWithinRoute := fun _ => none
        getNextLaneletWithinRoute := fun _ => none
        getPolygonByPoint := fun _ _ => some hatched
        getMostLeftLanelet := fun _ => shoulder
        findUsages := fun _ => [] }
    let geometry : Geometry :=
      { (default : Geometry) with
        calcSignedArcLength := fun _ _ _ => 0
        distancePolygonLine := fun _ _ => 0
        toArcCoordinates := fun _ _ => ⟨0, 0⟩
        fromArcCoordinates := fun _ _ => ⟨0, 1, 0⟩
        intersect := fun _ _ _ _ => none
        within := fun _ _ => true
        getClosestCenterPose := fun _ _ => origin
        distance2d := fun _ _ => 0 }
    let ctx : FilterContext :=
      { rh, geometry, parameters, pathPoints := [origin], egoPose := origin, vehicleWidth := 0
        distToGoal := doubleMax, extendLanelets := [], now := 0 }
    roadShoulderDistance rh geometry parameters car lanelet = (0, line) ∧
      expandablePolygons rh line lanelet true false = some [hatched] ∧
      objectShiftableDistance rh geometry parameters lanelet origin.position car true = some 0 ∧
      (filterObject ctx car).map (fun outcome => outcome.object.shiftableRatio) = some 0 := by
  have hright : ¬"else" = "right" := by decide
  have hleft : ¬"else" = "left" := by decide
  have hstraight : ¬"else" = "straight" := by decide
  norm_num [hright, hleft, hstraight, roadShoulderDistance, updateRoadToShoulderDistance,
    isOnRight, doubleMax,
    expandablePolygons, Lanelet.attributeOr, objectShiftableDistance, Lanelet.attribute,
    filterObject, findNearestIndex, findNearestIndexLoop, calcSquaredDistance2d,
    isTargetObjectType, AvoidanceParameters.uniform, AvoidanceParameters.objectParameterAt,
    fillLongitudinalAndLengthByClosestEnvelopeFootprint, areaRejection, filterOnLanelet,
    fillRoadShoulderDistance, extendToRoadShoulderDistanceWithPolygon, intersectDistVec,
    calcAvoidMargin, hardLateralDistanceLimit, softLateralDistanceLimit, minAvoidMargin,
    maxAvoidMargin, shiftRejection, calcShiftLength, isShiftNecessary, isVehicleTypeObject,
    filterVehicle, filterParkedVehicle, isIntersectionLane, parkingCheck, FilterOutcome.object,
    List.rotate, List.filterMap_cons]

end Avoidance
end AdaptiveCruiseControl
