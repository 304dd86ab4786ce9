import AdaptiveCruiseControl.Avoidance.RouteHandler
import AdaptiveCruiseControl.Avoidance.Shift

/-!
# The distance to the road shoulder and the avoid margin

For an object on a lanelet of the route, `filterTargetObjects` measures the distance from the
object's envelope to the furthest line string on its side, over the overhang lanelet, its first
previous lanelet and its next lanelet.  `extendToRoadShoulderDistanceWithPolygon` then widens
that distance through the hatched road markings met by the line and the intersection area of the
lanelet, along a ray from the overhang point scaled by `100 / to_road_shoulder_distance`.

The avoid margin is chosen from that distance in three steps: none when even the hard shoulder
margin leaves less than the minimum margin, the minimum when only the soft margin does, and
otherwise the soft limit capped by the maximum margin.  Under the parameter relations the code
assumes (a non-negative buffer and margin, a distance factor of at least one, a soft margin no
smaller than the hard one) the margin lies between its bounds, keeps the hard shoulder margin,
and grows with the distance.
-/

namespace AdaptiveCruiseControl
namespace Avoidance

/-! ## The distance to the road shoulder -/

/-- The lambda `update_road_to_shoulder_distance`: the furthest line string of a lanelet on the
object's side replaces the target line when the envelope is closer to it. -/
def updateRoadToShoulderDistance (rh : RouteHandler) (geometry : Geometry)
    (getRight getLeft getOpposite : Bool) (o : ObjectData) (acc : ℚ × LineString)
    (targetLanelet : Lanelet) : ℚ × LineString :=
  let lines := rh.getFurthestLinestring targetLanelet getRight getLeft getOpposite
  let line := if isOnRight o then lines.2 else lines.1
  let d := geometry.distancePolygonLine o.envelopePoly line
  if d < acc.1 then (d, line) else acc

/-- The distance to the road shoulder and the target line before the polygon extension: the
update over the overhang lanelet, the first previous lanelet and the next lanelet within the
route, from `doubleMax` and an empty line.  The route handler reports previous lanelets only
when there are some. -/
def roadShoulderDistance (rh : RouteHandler) (geometry : Geometry)
    (parameters : AvoidanceParameters) (o : ObjectData) (overhangLanelet : Lanelet) :
    ℚ × LineString :=
  let getLeft := isOnRight o && parameters.useAdjacentLane
  let getRight := !isOnRight o && parameters.useAdjacentLane
  let update := updateRoadToShoulderDistance rh geometry getRight getLeft
    parameters.useOppositeLane o
  -- current lanelet
  let acc := update (doubleMax, default) overhangLanelet
  -- previous lanelet
  let acc :=
    match rh.getPreviousLaneletsWithinRoute overhangLanelet with
    | some (previousLanelet :: _) => update acc previousLanelet
    | _ => acc
  -- next lanelet
  match rh.getNextLaneletWithinRoute overhangLanelet with
  | some nextLanelet => update acc nextLanelet
  | none => acc

/-- `std::atoi`: optional blanks, an optional sign and the leading digits; `0` when there are
none. -/
def atoi (s : String) : Int :=
  let cs := s.toList.dropWhile Char.isWhitespace
  let (negative, cs) :=
    match cs with
    | '-' :: rest => (true, rest)
    | '+' :: rest => (false, rest)
    | rest => (false, rest)
  let n : Nat := (cs.takeWhile Char.isDigit).foldl (fun n c => 10 * n + (c.toNat - 48)) 0
  if negative then -n else n

/-- The polygons `extendToRoadShoulderDistanceWithPolygon` extends through: the hatched road
markings at the points of the target line, without repeating an id, then the intersection area
named by the lanelet, whose lookup throws for an unknown id. -/
def expandablePolygons (rh : RouteHandler) (targetLine : LineString) (overhangLanelet : Lanelet)
    (useHatchedRoadMarkings useIntersectionAreas : Bool) : Option (List Polygon3d) :=
  let hatched :=
    if useHatchedRoadMarkings then
      targetLine.points.foldl (fun expandable point =>
        match rh.getPolygonByPoint point "hatched_road_markings" with
        | some candidate =>
          if expandable.any (fun polygon => polygon.id == candidate.id) then expandable
          else expandable ++ [candidate]
        | none => expandable) []
    else []
  let areaIdStr := overhangLanelet.attributeOr "intersection_area" "else"
  if useIntersectionAreas && areaIdStr != "else" then
    (rh.polygonLayerGet (atoi areaIdStr)).map fun area => hatched ++ [area]
  else some hatched

/-- The distances from the overhang point to the crossings of the ray with the edges
`(polygon[i], polygon[(i + 1) % size])` of a polygon, flattened to the ground. -/
def intersectDistVec (geometry : Geometry) (overhangPos latOffsetOverhangPos : Point)
    (polygon : Polygon3d) : List ℚ :=
  let flat : List Point := polygon.points.map fun p => ⟨p.x, p.y, 0⟩
  (flat.zip (flat.rotate 1)).filterMap fun edge =>
    (geometry.intersect overhangPos latOffsetOverhangPos edge.1 edge.2).map
      fun intersectPos => geometry.calcDistance2d intersectPos overhangPos

/-- `extendToRoadShoulderDistanceWithPolygon`.  The ray runs from the overhang point through the
closest point of the target line, stretched by `100 / to_road_shoulder_distance`; the distance
becomes the furthest crossing with an expandable polygon when that is further. -/
def extendToRoadShoulderDistanceWithPolygon (rh : RouteHandler) (geometry : Geometry)
    (targetLine : LineString) (toRoadShoulderDistance : ℚ) (overhangLanelet : Lanelet)
    (overhangPos : Point) (useHatchedRoadMarkings useIntersectionAreas : Bool) : Option ℚ := do
  let polygons ← expandablePolygons rh targetLine overhangLanelet useHatchedRoadMarkings
    useIntersectionAreas
  if polygons.isEmpty then return toRoadShoulderDistance
  let arcCoordinates := geometry.toArcCoordinates targetLine overhangPos
  let closestTargetLinePoint :=
    geometry.fromArcCoordinates targetLine { arcCoordinates with distance := 0 }
  let ratio := 100 / toRoadShoulderDistance
  let latOffsetOverhangPos : Point :=
    ⟨closestTargetLinePoint.x + (closestTargetLinePoint.x - overhangPos.x) * ratio,
      closestTargetLinePoint.y + (closestTargetLinePoint.y - overhangPos.y) * ratio, 0⟩
  pure (polygons.foldl (fun updated polygon =>
    match (intersectDistVec geometry overhangPos latOffsetOverhangPos polygon).max? with
    | some farthest => max updated farthest
    | none => updated) toRoadShoulderDistance)

/-! ## The avoid margin -/

/-- `max_avoid_margin`. -/
def maxAvoidMargin (objectParameter : ObjectParameter) (o : ObjectData) (vehicleWidth : ℚ) : ℚ :=
  objectParameter.safetyBufferLateral * o.distanceFactor + objectParameter.avoidMarginLateral +
    0.5 * vehicleWidth

/-- `min_avoid_margin`. -/
def minAvoidMargin (objectParameter : ObjectParameter) (vehicleWidth : ℚ) : ℚ :=
  objectParameter.safetyBufferLateral + 0.5 * vehicleWidth

/-- `soft_lateral_distance_limit`. -/
def softLateralDistanceLimit (parameters : AvoidanceParameters) (o : ObjectData)
    (vehicleWidth : ℚ) : ℚ :=
  o.toRoadShoulderDistance - parameters.softRoadShoulderMargin - 0.5 * vehicleWidth

/-- `hard_lateral_distance_limit`. -/
def hardLateralDistanceLimit (parameters : AvoidanceParameters) (o : ObjectData)
    (vehicleWidth : ℚ) : ℚ :=
  o.toRoadShoulderDistance - parameters.hardRoadShoulderMargin - 0.5 * vehicleWidth

/-- The lambda `avoid_margin` of `filterTargetObjects`. -/
def calcAvoidMargin (parameters : AvoidanceParameters) (objectParameter : ObjectParameter)
    (o : ObjectData) (vehicleWidth : ℚ) : Option ℚ :=
  -- Step1. check avoidable or not.
  if hardLateralDistanceLimit parameters o vehicleWidth < minAvoidMargin objectParameter vehicleWidth
  then none
  -- Step2. check if it should expand road shoulder margin.
  else if softLateralDistanceLimit parameters o vehicleWidth <
      minAvoidMargin objectParameter vehicleWidth then
    some (minAvoidMargin objectParameter vehicleWidth)
  -- Step3. nominal case. avoid margin is limited by soft constraint.
  else
    some (min (softLateralDistanceLimit parameters o vehicleWidth)
      (maxAvoidMargin objectParameter o vehicleWidth))

section AvoidMargin

variable {parameters : AvoidanceParameters} {objectParameter : ObjectParameter} {o : ObjectData}
  {vehicleWidth : ℚ}

theorem calcAvoidMargin_eq_none_iff :
    calcAvoidMargin parameters objectParameter o vehicleWidth = none ↔
      hardLateralDistanceLimit parameters o vehicleWidth <
        minAvoidMargin objectParameter vehicleWidth := by
  unfold calcAvoidMargin
  split_ifs with h <;> simp [h]

/-- A non-negative buffer and margin with a distance factor of at least one keep the minimum
margin below the maximum. -/
theorem minAvoidMargin_le_maxAvoidMargin (hbuf : 0 ≤ objectParameter.safetyBufferLateral)
    (hmargin : 0 ≤ objectParameter.avoidMarginLateral) (hdf : 1 ≤ o.distanceFactor) :
    minAvoidMargin objectParameter vehicleWidth ≤ maxAvoidMargin objectParameter o vehicleWidth := by
  unfold minAvoidMargin maxAvoidMargin
  nlinarith

theorem softLateralDistanceLimit_le_hard
    (hsoft : parameters.hardRoadShoulderMargin ≤ parameters.softRoadShoulderMargin) :
    softLateralDistanceLimit parameters o vehicleWidth ≤
      hardLateralDistanceLimit parameters o vehicleWidth := by
  unfold softLateralDistanceLimit hardLateralDistanceLimit
  linarith

/-- Every margin lies between the two bounds and keeps the hard shoulder margin. -/
theorem calcAvoidMargin_bounds (hbuf : 0 ≤ objectParameter.safetyBufferLateral)
    (hmargin : 0 ≤ objectParameter.avoidMarginLateral) (hdf : 1 ≤ o.distanceFactor)
    (hsoft : parameters.hardRoadShoulderMargin ≤ parameters.softRoadShoulderMargin) {m : ℚ}
    (h : calcAvoidMargin parameters objectParameter o vehicleWidth = some m) :
    minAvoidMargin objectParameter vehicleWidth ≤ m ∧
      m ≤ maxAvoidMargin objectParameter o vehicleWidth ∧
        m ≤ hardLateralDistanceLimit parameters o vehicleWidth := by
  have hle : minAvoidMargin objectParameter vehicleWidth ≤
      maxAvoidMargin objectParameter o vehicleWidth :=
    minAvoidMargin_le_maxAvoidMargin hbuf hmargin hdf
  have hlim : softLateralDistanceLimit parameters o vehicleWidth ≤
      hardLateralDistanceLimit parameters o vehicleWidth :=
    softLateralDistanceLimit_le_hard hsoft
  unfold calcAvoidMargin at h
  split_ifs at h with hhard hsoftLim <;> cases h
  · exact ⟨le_rfl, hle, not_lt.mp hhard⟩
  · exact ⟨le_min (not_lt.mp hsoftLim) hle, min_le_right _ _, (min_le_left _ _).trans hlim⟩

/-- When the minimum margin is below the maximum, the three steps select the minimum margin
clamped to the soft limit and the maximum margin. -/
theorem calcAvoidMargin_eq_clamp
    (hle : minAvoidMargin objectParameter vehicleWidth ≤ maxAvoidMargin objectParameter o vehicleWidth) :
    calcAvoidMargin parameters objectParameter o vehicleWidth =
      if hardLateralDistanceLimit parameters o vehicleWidth <
          minAvoidMargin objectParameter vehicleWidth then none
      else some (max (minAvoidMargin objectParameter vehicleWidth)
        (min (softLateralDistanceLimit parameters o vehicleWidth)
          (maxAvoidMargin objectParameter o vehicleWidth))) := by
  unfold calcAvoidMargin
  split_ifs with hhard hsoftLim
  · rfl
  · exact congrArg some (max_eq_left ((min_le_left _ _).trans hsoftLim.le)).symm
  · exact congrArg some (max_eq_right (le_min (not_lt.mp hsoftLim) hle)).symm

/-- A larger distance to the shoulder never removes a margin and never makes it smaller. -/
theorem calcAvoidMargin_mono (hbuf : 0 ≤ objectParameter.safetyBufferLateral)
    (hmargin : 0 ≤ objectParameter.avoidMarginLateral) (hdf : 1 ≤ o.distanceFactor) {d d' m : ℚ}
    (hd : d ≤ d')
    (h : calcAvoidMargin parameters objectParameter { o with toRoadShoulderDistance := d }
      vehicleWidth = some m) :
    ∃ m', calcAvoidMargin parameters objectParameter { o with toRoadShoulderDistance := d' }
      vehicleWidth = some m' ∧ m ≤ m' := by
  have hle : ∀ d : ℚ, minAvoidMargin objectParameter vehicleWidth ≤
      maxAvoidMargin objectParameter { o with toRoadShoulderDistance := d } vehicleWidth :=
    fun _ => minAvoidMargin_le_maxAvoidMargin hbuf hmargin hdf
  rw [calcAvoidMargin_eq_clamp (hle d)] at h
  rw [calcAvoidMargin_eq_clamp (hle d')]
  simp only [hardLateralDistanceLimit, softLateralDistanceLimit] at h ⊢
  split_ifs at h with hhard
  cases h
  rw [if_neg (by linarith)]
  exact ⟨_, rfl, max_le_max le_rfl (min_le_min_right _ (by linarith))⟩

end AvoidMargin

/-- What the avoid margin guarantees for one object: it is absent exactly when the hard limit is
below the minimum margin, it lies between the two margins and keeps the hard shoulder margin,
and it grows with the distance to the shoulder. -/
structure AvoidMarginSound (parameters : AvoidanceParameters) (objectParameter : ObjectParameter)
    (o : ObjectData) (vehicleWidth : ℚ) : Prop where
  eq_none_iff : calcAvoidMargin parameters objectParameter o vehicleWidth = none ↔
    hardLateralDistanceLimit parameters o vehicleWidth < minAvoidMargin objectParameter vehicleWidth
  bounds : ∀ m, calcAvoidMargin parameters objectParameter o vehicleWidth = some m →
    minAvoidMargin objectParameter vehicleWidth ≤ m ∧
      m ≤ maxAvoidMargin objectParameter o vehicleWidth ∧
        m ≤ hardLateralDistanceLimit parameters o vehicleWidth
  mono : ∀ d d' m, d ≤ d' →
    calcAvoidMargin parameters objectParameter { o with toRoadShoulderDistance := d } vehicleWidth =
      some m →
    ∃ m', calcAvoidMargin parameters objectParameter { o with toRoadShoulderDistance := d' }
      vehicleWidth = some m' ∧ m ≤ m'

theorem calcAvoidMargin_sound (parameters : AvoidanceParameters)
    (objectParameter : ObjectParameter) (o : ObjectData) (vehicleWidth : ℚ)
    (hbuf : 0 ≤ objectParameter.safetyBufferLateral)
    (hmargin : 0 ≤ objectParameter.avoidMarginLateral) (hdf : 1 ≤ o.distanceFactor)
    (hsoft : parameters.hardRoadShoulderMargin ≤ parameters.softRoadShoulderMargin) :
    AvoidMarginSound parameters objectParameter o vehicleWidth where
  eq_none_iff := calcAvoidMargin_eq_none_iff
  bounds _ h := calcAvoidMargin_bounds hbuf hmargin hdf hsoft h
  mono _ _ _ hd h := calcAvoidMargin_mono hbuf hmargin hdf hd h

/-- A buffer of `1`, a margin of `1/2`, a distance factor of `2` and shoulder margins `1` and
`1/2`. -/
theorem calcAvoidMargin_sound_unit_buffer :
    let objectParameter : ObjectParameter :=
      { (default : ObjectParameter) with safetyBufferLateral := 1, avoidMarginLateral := 1 / 2 }
    let parameters : AvoidanceParameters :=
      { AvoidanceParameters.uniform objectParameter with
        softRoadShoulderMargin := 1, hardRoadShoulderMargin := 1 / 2 }
    let o : ObjectData := { (default : ObjectData) with distanceFactor := 2 }
    (0 ≤ objectParameter.safetyBufferLateral ∧ 0 ≤ objectParameter.avoidMarginLateral ∧
      1 ≤ o.distanceFactor ∧ parameters.hardRoadShoulderMargin ≤ parameters.softRoadShoulderMargin) ∧
    AvoidMarginSound parameters objectParameter o 2 :=
  ⟨by norm_num, calcAvoidMargin_sound _ _ _ 2 (by norm_num) (by norm_num) (by norm_num)
    (by norm_num)⟩

end Avoidance
end AdaptiveCruiseControl
