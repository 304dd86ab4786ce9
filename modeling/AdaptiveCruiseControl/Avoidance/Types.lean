import Mathlib.Algebra.Order.Ring.Rat
import Mathlib.Order.WithBot
import Mathlib.Tactic.Linarith
import Mathlib.Tactic.Ring

/-!
# Data model of the avoidance utilities

The planner computes in doubles.  They are modelled as rationals: every finite double is a
rational, and the properties studied here are about the comparisons and the arithmetic the code
performs, not about rounding.  The one non-finite value the code writes on purpose,
`move_time = infinity` for a moving object seen for the first time, is kept through
`WithTop ℚ`.  Clock readings (`rclcpp::Time`) are seconds, also rationals.

The records keep the message and struct fields that the modelled functions read or write.
-/

namespace AdaptiveCruiseControl
namespace Avoidance

/-! ## Geometry messages -/

/-- A `geometry_msgs::msg::Point`. -/
structure Point where
  x : ℚ
  y : ℚ
  z : ℚ
  deriving DecidableEq, Repr, Inhabited

/-- A `geometry_msgs::msg::Quaternion`. -/
structure Quaternion where
  x : ℚ
  y : ℚ
  z : ℚ
  w : ℚ
  deriving DecidableEq, Repr, Inhabited

/-- A `geometry_msgs::msg::Pose`. -/
structure Pose where
  position : Point
  orientation : Quaternion
  deriving DecidableEq, Repr, Inhabited

/-- A boost point of `tier4_autoware_utils::Point2d`. -/
structure Point2d where
  x : ℚ
  y : ℚ
  deriving DecidableEq, Repr, Inhabited

/-- A `tier4_autoware_utils::Polygon2d`, as the points of its outer ring. -/
abbrev Polygon2d := List Point2d

/-- `tier4_autoware_utils::calcSquaredDistance2d`.  Comparisons of `calcDistance2d` against a
positive bound are decided on this square, since the square root is monotone. -/
def calcSquaredDistance2d (p q : Point) : ℚ := (p.x - q.x) ^ 2 + (p.y - q.y) ^ 2

/-- `std::numeric_limits<double>::max()`. -/
def doubleMax : ℚ := (2 ^ 53 - 1) * 2 ^ 971

/-! ## Lanelet map -/

/-- A `lanelet::ConstLineString3d`. -/
structure LineString where
  id : Int
  points : List Point
  deriving DecidableEq, Repr, Inhabited

/-- A `lanelet::ConstLanelet`: its id, its attributes and the line strings the code reads. -/
structure Lanelet where
  id : Int
  attributes : List (String × String)
  leftBound : LineString
  rightBound : LineString
  centerline : LineString
  deriving DecidableEq, Repr, Inhabited

/-- `ConstLanelet::attributeOr(key, default)`. -/
def Lanelet.attributeOr (ll : Lanelet) (key default : String) : String :=
  (ll.attributes.lookup key).getD default

/-- `ConstLanelet::attribute(key)`, which throws when the attribute is missing. -/
def Lanelet.attribute (ll : Lanelet) (key : String) : Option String :=
  ll.attributes.lookup key

/-- A `lanelet::Polygon3d` of the map's polygon layer. -/
structure Polygon3d where
  id : Int
  points : List Point
  deriving DecidableEq, Repr, Inhabited

/-! ## Perceived objects -/

/-- A `unique_identifier_msgs::msg::UUID`: sixteen bytes, only ever compared for equality. -/
abbrev UUID := BitVec 128

/-- The labels of `autoware_auto_perception_msgs::msg::ObjectClassification`. -/
inductive ObjectClassification
  | unknown
  | car
  | truck
  | bus
  | trailer
  | motorcycle
  | bicycle
  | pedestrian
  deriving DecidableEq, Repr, Inhabited

/-- The fields of a `PredictedObject` that the avoidance utilities read.  `label` is
`utils::getHighestProbLabel(object.classification)`, the only way the code reads the
classification. -/
structure PredictedObject where
  objectId : UUID
  label : ObjectClassification
  /-- `kinematics.initial_pose_with_covariance.pose` -/
  pose : Pose
  /-- `kinematics.initial_twist_with_covariance.twist.linear` -/
  twistLinearX : ℚ
  twistLinearY : ℚ
  shapeDimensionsY : ℚ
  deriving DecidableEq, Repr, Inhabited

/-- An `ObjectData`: one tracked obstacle together with what the planner derived for it. -/
structure ObjectData where
  object : PredictedObject
  lateral : ℚ
  longitudinal : ℚ
  length : ℚ
  overhangDist : ℚ
  shiftableRatio : ℚ
  distanceFactor : ℚ
  lastSeen : ℚ
  lostTime : ℚ
  lastStop : ℚ
  moveTime : WithTop ℚ
  lastMove : ℚ
  stopTime : ℚ
  overhangLanelet : Lanelet
  overhangPose : Pose
  envelopePoly : Polygon2d
  centroid : Point2d
  toRoadShoulderDistance : ℚ
  toStopFactorDistance : ℚ
  toStopLine : ℚ
  avoidRequired : Bool
  isAvoidable : Bool
  isStoppable : Bool
  reason : String
  avoidMargin : Option ℚ
  deriving DecidableEq, Inhabited

/-- The object id the registries are keyed by, `o.object.object_id`. -/
def ObjectData.objectId (o : ObjectData) : UUID := o.object.objectId

/-- The predicate of the registries' `std::find_if`: an entry with the object's id. -/
def sameIdAs (objectData o : ObjectData) : Bool := o.objectId == objectData.objectId

/-- `std::find_if` over a registry for the entry with the object's id. -/
def findSameId (registered : List ObjectData) (objectData : ObjectData) : Option ObjectData :=
  registered.find? (sameIdAs objectData)

/-! Planning cycles on one object hand each cycle the previous cycle's result, or none, as the
registry; the two lemmas below are what every such run uses of it. -/

/-- The registered entry a cycle receives, when it is the previous result for the object. -/
theorem findSameId_toList {objectData : ObjectData} {previous : Option ObjectData}
    (hid : ∀ p ∈ previous, p.objectId = objectData.objectId) :
    findSameId previous.toList objectData = previous := by
  rcases previous with _ | p
  · rfl
  · simp [findSameId, sameIdAs, hid p rfl]

/-- The results of a run chain on from the registered entry when it relates to the first one. -/
theorem chain'_toList_append {α : Type} {R : α → α → Prop} {registered : Option α} {x : α}
    {l : List α} (hstep : ∀ r ∈ registered, R r x) (hchain : (x :: l).Chain' R) :
    (registered.toList ++ x :: l).Chain' R := by
  rcases registered with _ | r
  · exact hchain
  · exact List.Chain.cons (hstep r rfl) hchain

/-- `isOnRight`: the object's centre lies right of the path. -/
def isOnRight (obj : ObjectData) : Bool := obj.lateral < 0

/-! ## Parameters -/

/-- The per-class `ObjectParameter` of the avoidance module. -/
structure ObjectParameter where
  isTarget : Bool
  movingSpeedThreshold : ℚ
  movingTimeThreshold : ℚ
  envelopeBufferMargin : ℚ
  safetyBufferLateral : ℚ
  avoidMarginLateral : ℚ
  deriving DecidableEq, Repr, Inhabited

/-- The `AvoidanceParameters` the modelled functions read.  The map `object_parameters` holds
an entry for every label (`complete`), so `object_parameters.at(label)` never throws. -/
structure AvoidanceParameters where
  objectParameters : ObjectClassification → Option ObjectParameter
  complete : ∀ l, (objectParameters l).isSome
  objectCheckBackwardDistance : ℚ
  objectCheckMaxForwardDistance : ℚ
  objectCheckGoalDistance : ℚ
  useAdjacentLane : Bool
  useOppositeLane : Bool
  useHatchedRoadMarkings : Bool
  useIntersectionAreas : Bool
  softRoadShoulderMargin : ℚ
  hardRoadShoulderMargin : ℚ
  lateralExecutionThreshold : ℚ
  thresholdTimeForceAvoidanceForStoppedVehicle : ℚ
  enableForceAvoidanceForStoppedVehicle : Bool
  objectIgnoreSectionTrafficLightInFrontDistance : ℚ
  objectIgnoreSectionCrosswalkInFrontDistance : ℚ
  objectIgnoreSectionCrosswalkBehindDistance : ℚ
  thresholdDistanceObjectIsOnCenter : ℚ
  objectCheckShiftableRatio : ℚ
  objectCheckMinRoadShoulderWidth : ℚ
  hysteresisFactorExpandRate : ℚ
  policyDeceleration : String
  objectLastSeenThreshold : ℚ

/-- `parameters->object_parameters.at(label)`. -/
def AvoidanceParameters.objectParameterAt (p : AvoidanceParameters)
    (l : ObjectClassification) : ObjectParameter :=
  (p.objectParameters l).get (p.complete l)

/-- Parameters with the same `ObjectParameter` for every class, and zero or `false` in every
other field. -/
def AvoidanceParameters.uniform (objectParameter : ObjectParameter) : AvoidanceParameters where
  objectParameters := fun _ => some objectParameter
  complete := fun _ => rfl
  objectCheckBackwardDistance := 0
  objectCheckMaxForwardDistance := 0
  objectCheckGoalDistance := 0
  useAdjacentLane := false
  useOppositeLane := false
  useHatchedRoadMarkings := false
  useIntersectionAreas := false
  softRoadShoulderMargin := 0
  hardRoadShoulderMargin := 0
  lateralExecutionThreshold := 0
  thresholdTimeForceAvoidanceForStoppedVehicle := 0
  enableForceAvoidanceForStoppedVehicle := false
  objectIgnoreSectionTrafficLightInFrontDistance := 0
  objectIgnoreSectionCrosswalkInFrontDistance := 0
  objectIgnoreSectionCrosswalkBehindDistance := 0
  thresholdDistanceObjectIsOnCenter := 0
  objectCheckShiftableRatio := 0
  objectCheckMinRoadShoulderWidth := 0
  hysteresisFactorExpandRate := 0
  policyDeceleration := ""
  objectLastSeenThreshold := 0

@[simp] theorem AvoidanceParameters.uniform_objectParameterAt (objectParameter : ObjectParameter)
    (l : ObjectClassification) :
    (AvoidanceParameters.uniform objectParameter).objectParameterAt l = objectParameter := rfl

/-! ## Shift lines and planning data -/

/-- An `AvoidLine`.  The C++ fields `start` and `end` are `startPose` and `endPose` here. -/
structure AvoidLine where
  id : Nat
  object : ObjectData
  parentIds : List Nat
  startPose : Pose
  endPose : Pose
  startIdx : Nat
  endIdx : Nat
  startShiftLength : ℚ
  endShiftLength : ℚ
  startLongitudinal : ℚ
  endLongitudinal : ℚ
  deriving DecidableEq, Inhabited

/-- The parts of `AvoidancePlanningData` the modelled functions read or fill.  Path points are
represented by their poses. -/
structure AvoidancePlanningData where
  currentLanelets : List Lanelet
  referencePathRough : List Pose
  referencePath : List Pose
  arclengthFromEgo : List ℚ
  targetObjects : List ObjectData
  otherObjects : List ObjectData
  deriving DecidableEq, Inhabited

end Avoidance
end AdaptiveCruiseControl
