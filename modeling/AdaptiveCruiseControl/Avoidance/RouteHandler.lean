import AdaptiveCruiseControl.Avoidance.Types
import Mathlib.Data.List.Monad

/-!
# The map, route and geometry queries

The avoidance utilities read the lanelet map, the route and the ego state through
`route_handler::RouteHandler`, through lanelet2 and boost geometry, and through a few motion
utilities.  None of these are under src/; each query is a field here, an arbitrary function, so
that every result about the utilities holds for every map, route and geometry.  A query that
reports failure through a `bool` and an out parameter returns an `Option`.
-/

namespace AdaptiveCruiseControl
namespace Avoidance

/-- lanelet2's `ArcCoordinates`: the length along a line string and the signed distance from
it. -/
structure ArcCoordinates where
  length : ℚ
  distance : ℚ
  deriving DecidableEq, Repr, Inhabited

/-- The queries of `route_handler::RouteHandler` and of the lanelet map layers. -/
structure RouteHandler where
  isInGoalRouteSection : Lanelet → Bool
  getNextLanelets : Lanelet → List Lanelet
  getClosestLaneletWithinRoute : Pose → Option Lanelet
  getPreviousLaneletsWithinRoute : Lanelet → Option (List Lanelet)
  getNextLaneletWithinRoute : Lanelet → Option Lanelet
  /-- `getFurthestLinestring(lanelet, is_right, is_left, is_opposite, true)`: the front and the
  back of the two line strings it returns. -/
  getFurthestLinestring : Lanelet → Bool → Bool → Bool → LineString × LineString
  getMostLeftLanelet : Lanelet → Lanelet
  getMostRightLanelet : Lanelet → Lanelet
  /-- `getAllLeftSharedLinestringLanelets(lane, include_opposite, invert_opposite = true)` -/
  getAllLeftSharedLinestringLanelets : Lanelet → Bool → List Lanelet
  /-- `getAllRightSharedLinestringLanelets(lane, include_opposite, invert_opposite = true)` -/
  getAllRightSharedLinestringLanelets : Lanelet → Bool → List Lanelet
  /-- `getLaneletMapPtr()->laneletLayer.findUsages(bound)` -/
  findUsages : LineString → List Lanelet
  /-- `getLaneletMapPtr()->polygonLayer.get(id)`, which throws for an unknown id -/
  polygonLayerGet : Int → Option Polygon3d
  /-- `getOverallGraphPtr()->conflictingInGraph(lanelet, PEDESTRIAN_GRAPH_ID)` -/
  conflictingInGraph : Lanelet → List Lanelet
  /-- `utils::getPolygonByPoint(rh, point, type)` -/
  getPolygonByPoint : Point → String → Option Polygon3d
  deriving Inhabited

/-- The geometric primitives of lanelet2, boost and the motion and planner utilities. -/
structure Geometry where
  /-- `lanelet::utils::getLaneletLength2d(lanelet)`: the length of the 2D centerline -/
  getLaneletLength2d : Lanelet → ℚ
  /-- `boost::geometry::comparable_distance(lanelet.polygon2d(), point)` -/
  distanceToLanelet : Lanelet → Point → ℚ
  /-- `lanelet::geometry::toArcCoordinates(line, point)` -/
  toArcCoordinates : LineString → Point → ArcCoordinates
  /-- `lanelet::geometry::fromArcCoordinates(line, arc_coordinates)` -/
  fromArcCoordinates : LineString → ArcCoordinates → Point
  /-- `boost::geometry::distance(polygon, line)` -/
  distancePolygonLine : Polygon2d → LineString → ℚ
  /-- `boost::geometry::distance(point, polygon)` for a lanelet's polygon -/
  distancePointLanelet : Point → Lanelet → ℚ
  /-- `lanelet::geometry::distance2d(line, point)` -/
  distance2d : LineString → Point → ℚ
  /-- `boost::geometry::within(point, lanelet.polygon2d())` -/
  within : Point2d → Lanelet → Bool
  /-- `lanelet::utils::getClosestCenterPose(lanelet, point)` -/
  getClosestCenterPose : Lanelet → Point → Pose
  /-- `tier4_autoware_utils::intersect(p1, p2, p3, p4)` -/
  intersect : Point → Point → Point → Point → Option Point
  /-- `tier4_autoware_utils::calcDistance2d(p, q)` -/
  calcDistance2d : Point → Point → ℚ
  /-- `motion_utils::calcSignedArcLength(path, from, to)` between two points -/
  calcSignedArcLength : List Pose → Point → Point → ℚ
  /-- `motion_utils::calcSignedArcLength(path, from_idx, to_idx)` -/
  calcSignedArcLengthIdx : List Pose → Nat → Nat → ℚ
  /-- `planner_data->findEgoIndex(path)` -/
  findEgoIndex : List Pose → Nat
  /-- `lanelet::utils::getArcCoordinates(lanelets, pose)` -/
  getArcCoordinates : List Lanelet → Pose → ArcCoordinates
  /-- `utils::getDistanceToNextTrafficLight(pose, lanelets)` -/
  getDistanceToNextTrafficLight : Pose → List Lanelet → ℚ
  /-- `utils::getDistanceToCrosswalk(pose, lanelets, overall_graph)` -/
  getDistanceToCrosswalk : Pose → List Lanelet → ℚ
  deriving Inhabited

/-- The `PlannerData` the utilities read: the route handler, the ego pose and the planner
parameters `vehicle_width` and `forward_path_length`. -/
structure PlannerData where
  routeHandler : RouteHandler
  geometry : Geometry
  egoPose : Pose
  vehicleWidth : ℚ
  forwardPathLength : ℚ
  deriving Inhabited

end Avoidance
end AdaptiveCruiseControl
