import AdaptiveCruiseControl.Avoidance.RouteHandler

/-!
# Expanding the drivable lanes around a lanelet

`generateExpandDrivableLanes` widens the lanes the ego may use around a lanelet: it sweeps the
neighbours that share a line string, looks for lanes branching from the same previous lanelet
whose end meets the current edge (up to three times per side), sweeps again from the new edges,
and finally adds the lanelet itself to the middle lanes unless it is an edge.

In the branch search `edge_lane` is a reference to the member `left_lane` or `right_lane`.  The
member is overwritten with the found lane before `edge_lane` is read again, so the lane pushed
into `middle_lanes` is the new edge, not the old one: a lane can be both an edge and a middle
lane.
-/

namespace AdaptiveCruiseControl
namespace Avoidance

/-- `DrivableLanes`. -/
structure DrivableLanes where
  rightLane : Lanelet
  leftLane : Lanelet
  middleLanes : List Lanelet
  deriving DecidableEq, Inhabited

/-- `isEndPointsConnected`: the back of the right lane's left bound meets the back of the left
lane's right bound, within `1e-5` (decided on squares).  A bound without points, whose `back()`
the code may not take, counts as unconnected. -/
def isEndPointsConnected (leftLane rightLane : Lanelet) : Bool :=
  match rightLane.leftBound.points.getLast?, leftLane.rightBound.points.getLast? with
  | some leftBackPoint, some rightBackPoint =>
    calcSquaredDistance2d rightBackPoint leftBackPoint < (1e-5) ^ 2
  | _, _ => false

/-- `pushUniqueVector`: despite its name, it appends without removing duplicates. -/
def pushUniqueVector {α : Type} (baseVector additionalVector : List α) : List α :=
  baseVector ++ additionalVector

/-- The lambda `update_left_lanelets`: the leftmost shared-line-string neighbour becomes the left
edge, the others are appended to the middle lanes. -/
def updateLeftLanelets (rh : RouteHandler) (useOppositeLane : Bool) (lanes : DrivableLanes)
    (targetLane : Lanelet) : DrivableLanes :=
  let allLeftLanelets := rh.getAllLeftSharedLinestringLanelets targetLane useOppositeLane
  match allLeftLanelets.getLast? with
  | none => lanes
  | some leftmost =>
    { lanes with
      leftLane := leftmost
      middleLanes := pushUniqueVector lanes.middleLanes allLeftLanelets.dropLast }

/-- The lambda `update_right_lanelets`. -/
def updateRightLanelets (rh : RouteHandler) (useOppositeLane : Bool) (lanes : DrivableLanes)
    (targetLane : Lanelet) : DrivableLanes :=
  let allRightLanelets := rh.getAllRightSharedLinestringLanelets targetLane useOppositeLane
  match allRightLanelets.getLast? with
  | none => lanes
  | some rightmost =>
    { lanes with
      rightLane := rightmost
      middleLanes := pushUniqueVector lanes.middleLanes allRightLanelets.dropLast }

/-- The lambda `get_next_lanes_from_same_previous_lane`. -/
def getNextLanesFromSamePreviousLane (rh : RouteHandler) (lane : Lanelet) : List Lanelet :=
  match rh.getPreviousLaneletsWithinRoute lane with
  | none => []
  | some prevLanes =>
    prevLanes.foldl (fun nextLanes prevLane => pushUniqueVector nextLanes (rh.getNextLanelets prevLane))
      []

/-- The lambda `update_drivable_lanes`: the first branching lane whose end meets the edge becomes
the edge.  It returns whether an edge moved. -/
def updateDrivableLanes (lanes : DrivableLanes) (isLeft : Bool) :
    List Lanelet → DrivableLanes × Bool
  | [] => (lanes, false)
  | nextLane :: rest =>
    let edgeLane := if isLeft then lanes.leftLane else lanes.rightLane
    if nextLane.id == edgeLane.id then updateDrivableLanes lanes isLeft rest
    else
      let leftLane := if isLeft then nextLane else edgeLane
      let rightLane := if isLeft then edgeLane else nextLane
      if !isEndPointsConnected leftLane rightLane then updateDrivableLanes lanes isLeft rest
      else
        let lanes :=
          if isLeft then { lanes with leftLane := nextLane } else { lanes with rightLane := nextLane }
        -- `edge_lane` refers to the member assigned just above: it now reads `next_lane`
        let edgeLane := if isLeft then lanes.leftLane else lanes.rightLane
        let hasSameLane := lanes.middleLanes.any fun lane => lane.id == edgeLane.id
        let otherEdge := if isLeft then lanes.rightLane else lanes.leftLane
        if !hasSameLane && otherEdge.id != edgeLane.id then
          ({ lanes with middleLanes := lanes.middleLanes ++ [edgeLane] }, true)
        else (lanes, true)

/-- The lambda `expand_drivable_area_recursively`, with at most `n` rounds. -/
def expandDrivableAreaRecursively (nextLanes : List Lanelet) (isLeft : Bool) :
    Nat → DrivableLanes → DrivableLanes
  | 0, lanes => lanes
  | n + 1, lanes =>
    let (lanes, isUpdateKept) := updateDrivableLanes lanes isLeft nextLanes
    if !isUpdateKept then lanes else expandDrivableAreaRecursively nextLanes isLeft n lanes

/-- `max_recursive_search_num`. -/
def maxRecursiveSearchNum : Nat := 3

/-- `generateExpandDrivableLanes`. -/
def generateExpandDrivableLanes (lanelet : Lanelet) (rh : RouteHandler)
    (parameters : AvoidanceParameters) : DrivableLanes :=
  let lanes : DrivableLanes := { rightLane := lanelet, leftLane := lanelet, middleLanes := [] }
  if !parameters.useAdjacentLane then lanes
  else
    -- 1. get left/right side lanes
    let lanes := updateLeftLanelets rh parameters.useOppositeLane lanes lanelet
    let lanes := updateRightLanelets rh parameters.useOppositeLane lanes lanelet
    -- 2. look for lanes from the same previous lane whose end meets the edge
    let nextLanesForRight := getNextLanesFromSamePreviousLane rh lanes.rightLane
    let nextLanesForLeft := getNextLanesFromSamePreviousLane rh lanes.leftLane
    let lanes := expandDrivableAreaRecursively nextLanesForRight false maxRecursiveSearchNum lanes
    let lanes := expandDrivableAreaRecursively nextLanesForLeft true maxRecursiveSearchNum lanes
    -- 3. update again for new left/right lanes
    let lanes := updateLeftLanelets rh parameters.useOppositeLane lanes lanes.leftLane
    let lanes := updateRightLanelets rh parameters.useOppositeLane lanes lanes.rightLane
    -- 4. compensate that current_lane is in either of left_lane, right_lane or middle_lanes
    if lanes.leftLane.id != lanelet.id && lanes.rightLane.id != lanelet.id then
      { lanes with middleLanes := lanes.middleLanes ++ [lanelet] }
    else lanes

/-- A lane `2` branching from the same previous lane `3` as the current lane `1`, with its left
end meeting the right end of lane `1`: it becomes the right edge and is also pushed into the
middle lanes. -/
theorem generateExpandDrivableLanes_edge_in_middle :
    let bound (y : ℚ) : LineString := ⟨0, [⟨0, y, 0⟩]⟩
    let current : Lanelet :=
      { (default : Lanelet) with id := 1, leftBound := bound 5, rightBound := bound 0 }
    let branch : Lanelet :=
      { (default : Lanelet) with id := 2, leftBound := bound 0, rightBound := bound (-5) }
    let previous : Lanelet := { (default : Lanelet) with id := 3 }
    let rh : RouteHandler :=
      { (default : RouteHandler) with
        getPreviousLaneletsWithinRoute := fun l => if l.id = 1 then some [previous] else none
        getNextLanelets := fun l => if l.id = 3 then [current, branch] else [] }
    let lanes := generateExpandDrivableLanes current rh
      { AvoidanceParameters.uniform default with useAdjacentLane := true }
    lanes.leftLane = current ∧ lanes.rightLane = branch ∧ lanes.middleLanes = [branch] := by
  intro bound current branch previous rh lanes
  have hc : isEndPointsConnected current branch = true := by
    norm_num [isEndPointsConnected, current, branch, bound, calcSquaredDistance2d]
  have hn : isEndPointsConnected branch current = false := by
    norm_num [isEndPointsConnected, current, branch, bound, calcSquaredDistance2d]
  have hnext : getNextLanesFromSamePreviousLane rh current = [current, branch] := by
    simp [getNextLanesFromSamePreviousLane, rh, current, previous, pushUniqueVector]
  have hleft : ∀ l b, rh.getAllLeftSharedLinestringLanelets l b = [] := fun _ _ => rfl
  have hright : ∀ l b, rh.getAllRightSharedLinestringLanelets l b = [] := fun _ _ => rfl
  have hcid : current.id = 1 := rfl
  have hbid : branch.id = 2 := rfl
  simp only [lanes]
  clear_value rh branch current
  simp [generateExpandDrivableLanes, updateLeftLanelets, updateRightLanelets, hnext,
    expandDrivableAreaRecursively, maxRecursiveSearchNum, updateDrivableLanes, hc, hn, hleft,
    hright, hcid, hbid]

end Avoidance
end AdaptiveCruiseControl
