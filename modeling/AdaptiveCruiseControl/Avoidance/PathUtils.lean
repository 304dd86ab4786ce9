import AdaptiveCruiseControl.Avoidance.Arclength
import AdaptiveCruiseControl.Avoidance.SafetyCheck
import Mathlib.Data.Int.Log
import Mathlib.Data.Rat.Floor

/-!
# Path and lane helpers

The helpers of the avoidance utilities that edit a path or pick lanes.  `insertDecelPoint` caps
the velocity of a path from a point `offset` ahead of a source point on; `toShiftedPath` starts a
shifted path with no shift; `setStartData` and `setEndData` fill the ends of a shift line and
`fillAdditionalInfo` the indices and arclengths of one line; `getCurrentLanesFromPath` finds the
lanes around the start of a path and `getTargetLanelets` the lanes beside a route.

The motion utilities and the lanelet queries are fields of the structures below.  Velocities are
`float`s in the path, and `insertVelocity` takes the requested velocity as a `float`: the double
is rounded to the nearest `float` (`toFloat`) before it is compared, so the cap is the rounded
value.
-/

namespace AdaptiveCruiseControl
namespace Avoidance

/-- A `PathPointWithLaneId`: the pose and the velocity of its `point`, and its lane ids. -/
structure PathPointWithLaneId where
  pose : Pose
  longitudinalVelocityMps : ℚ
  laneIds : List Int
  deriving DecidableEq, Inhabited

/-- The motion utilities `insertDecelPoint` calls. -/
structure MotionUtils where
  /-- `calcLongitudinalOffsetPoint(points, p_src, offset)` -/
  calcLongitudinalOffsetPoint : List PathPointWithLaneId → Point → ℚ → Option Point
  /-- `findNearestSegmentIndex(points, point)` -/
  findNearestSegmentIndex : List PathPointWithLaneId → Point → Nat
  /-- `insertTargetPoint(seg_idx, point, points)`: the index of the inserted point, if any, and
  the points it leaves -/
  insertTargetPoint :
    Nat → Point → List PathPointWithLaneId → Option Nat × List PathPointWithLaneId

/-! ## Floats -/

/-- `FLT_MAX`, the largest finite `float`. -/
def floatMax : ℚ := (2 ^ 24 - 1) * 2 ^ 104

/-- Rounding to the nearest integer, ties to even. -/
def roundHalfEvenInt (q : ℚ) : ℤ :=
  let n := ⌊q⌋
  if q - n < 1 / 2 then n
  else if 1 / 2 < q - n then n + 1
  else if n % 2 = 0 then n else n + 1

/-- The conversion of a `double` to `float` in the default rounding mode: the nearest point of the
binary32 grid (24 significant bits, down to the subnormal step `2 ^ -149`), ties to even; `none`
where the result overflows to an infinity, which a rational cannot hold. -/
def toFloat (x : ℚ) : Option ℚ :=
  let quantum : ℚ := 2 ^ (max (-126) (Int.log 2 |x|) - 23)
  let rounded : ℚ := roundHalfEvenInt (x / quantum) * quantum
  if floatMax < |rounded| then none else some rounded

/-! ## The deceleration point -/

/-- The lambda `insertVelocity` of `insertDecelPoint`, given the `float` `v`: from `insertIdx` on,
each velocity becomes the smaller of itself and `v`. -/
def insertVelocity (insertIdx : Nat) (v : ℚ) (points : List PathPointWithLaneId) :
    List PathPointWithLaneId :=
  points.mapIdx fun i point =>
    if insertIdx ≤ i then
      { point with longitudinalVelocityMps := min point.longitudinalVelocityMps v }
    else point

/-- `insertDecelPoint`: the path and `p_out` it leaves, or `none` where `path.points.at` throws.
A request without a decel point, or whose insertion fails, returns early.  The velocity is
converted to `float` for `insertVelocity`; a velocity that rounds beyond the `float` range, whose
conversion the C++ standard leaves undefined (IEEE hardware gives an infinity), is `none` too. -/
def insertDecelPoint (utils : MotionUtils) (pSrc : Point) (offset velocity : ℚ)
    (path : List PathPointWithLaneId) (pOut : Option Pose) :
    Option (List PathPointWithLaneId × Option Pose) :=
  match utils.calcLongitudinalOffsetPoint path pSrc offset with
  | none => some (path, pOut)
  | some decelPoint =>
    let segIdx := utils.findNearestSegmentIndex path decelPoint
    let inserted := utils.insertTargetPoint segIdx decelPoint path
    match inserted.1 with
    | none => some (inserted.2, pOut)
    | some insertIdx =>
      (toFloat velocity).bind fun v =>
        let path := insertVelocity insertIdx v inserted.2
        path[insertIdx]?.map fun point => (path, some point.pose)

/-! ## Shifted paths and shift lines -/

/-- A `ShiftedPath`: the path and the shift of each of its points. -/
structure ShiftedPath where
  path : List PathPointWithLaneId
  shiftLength : List ℚ
  deriving DecidableEq, Inhabited

/-- `toShiftedPath`: the path with a zero shift at every point. -/
def toShiftedPath (path : List PathPointWithLaneId) : ShiftedPath :=
  ⟨path, List.replicate path.length 0⟩

/-- `setEndData`. -/
def setEndData (ap : AvoidLine) (length : ℚ) (end_ : Pose) (endIdx : Nat) (endDist : ℚ) :
    AvoidLine :=
  { ap with endShiftLength := length, endPose := end_, endIdx, endLongitudinal := endDist }

/-- `setStartData`. -/
def setStartData (ap : AvoidLine) (startShiftLength : ℚ) (start : Pose) (startIdx : Nat)
    (startDist : ℚ) : AvoidLine :=
  { ap with startShiftLength, startPose := start, startIdx, startLongitudinal := startDist }

/-- `fillAdditionalInfo`: `fillAdditionalInfoFromPoint` on the one-line array of the line. -/
def fillAdditionalInfo (data : AvoidancePlanningData) (line : AvoidLine) : Option AvoidLine := do
  let ret ← fillAdditionalInfoFromPoint data [line]
  ret.head?

/-- `createPoint32`; the `float` rounding of its coordinates is not modelled. -/
def createPoint32 (x y z : ℚ) : Point := ⟨x, y, z⟩

/-- `toMsg`: the outer ring of a polygon at height `z`. -/
def toMsg (polygon : Polygon2d) (z : ℚ) : List Point :=
  polygon.map fun p => createPoint32 p.x p.y z

/-! ## Lanes -/

/-- The lanelet queries of `getCurrentLanesFromPath` and `getTargetLanelets` beyond
`LaneQueries`. -/
structure LaneletUtils where
  /-- `route_handler->getLaneletsFromId(id)` -/
  getLaneletsFromId : Int → Lanelet
  /-- `route_handler->getLaneletSequence(lanelet, backward_length, forward_length)` -/
  getLaneletSequence : Lanelet → ℚ → ℚ → List Lanelet
  /-- `lanelet::utils::getExpandedLanelet(lanelet, left_offset, right_offset)` -/
  getExpandedLanelet : Lanelet → ℚ → ℚ → Lanelet

/-- `getCurrentLanesFromPath`: the lane sequence around the first lane of the first path point;
`none` where it throws on an empty path or an empty lane id list. -/
def getCurrentLanesFromPath (utils : LaneletUtils) (path : List PathPointWithLaneId)
    (backwardPathLength forwardPathLength : ℚ) : Option (List Lanelet) := do
  let front ← path.head?
  let startId ← front.laneIds.head?
  let startLane := utils.getLaneletsFromId startId
  pure (utils.getLaneletSequence startLane backwardPathLength forwardPathLength)

/-- `getTargetLanelets`: for each route lanelet, its left and right neighbours, its first right
opposite lanelet, and itself expanded by the offset of each side that has no neighbour. -/
def getTargetLanelets (lanes : LaneQueries) (utils : LaneletUtils) (routeLanelets : List Lanelet)
    (leftOffset rightOffset : ℚ) : List Lanelet :=
  routeLanelets.flatMap fun lane =>
    let lOffset := if (lanes.getLeftLanelet lane).isSome then 0 else leftOffset
    let rOffset := if (lanes.getRightLanelet lane).isSome then 0 else rightOffset
    (lanes.getLeftLanelet lane).toList ++ (lanes.getRightLanelet lane).toList ++
      (lanes.getRightOppositeLanelets lane).head?.toList ++
      [utils.getExpandedLanelet lane lOffset rOffset]

end Avoidance
end AdaptiveCruiseControl
