import AdaptiveCruiseControl.Avoidance.Types
import AdaptiveCruiseControl.Avoidance.Shift
import AdaptiveCruiseControl.Avoidance.Necessity
import AdaptiveCruiseControl.Avoidance.MovingTime
import AdaptiveCruiseControl.Avoidance.Registry
import AdaptiveCruiseControl.Avoidance.Arclength
import AdaptiveCruiseControl.Avoidance.RouteHandler
import AdaptiveCruiseControl.Avoidance.DrivableLanes
import AdaptiveCruiseControl.Avoidance.RoadShoulder
import AdaptiveCruiseControl.Avoidance.Filter
import AdaptiveCruiseControl.Avoidance.ShiftLine
import AdaptiveCruiseControl.Avoidance.Stoppable
import AdaptiveCruiseControl.Avoidance.ExtendLanelets
import AdaptiveCruiseControl.Avoidance.Envelope
import AdaptiveCruiseControl.Avoidance.AttentionArea
import AdaptiveCruiseControl.Avoidance.FirstNearest
import AdaptiveCruiseControl.Avoidance.Overhang
import AdaptiveCruiseControl.Avoidance.Obstacles
import AdaptiveCruiseControl.Avoidance.SafetyCheck
import AdaptiveCruiseControl.Avoidance.PathUtils
import AdaptiveCruiseControl.Avoidance.RtcStatus
import AdaptiveCruiseControl.NdtScanMatcher.Oscillation
import AdaptiveCruiseControl.NdtScanMatcher.StateMap
import AdaptiveCruiseControl.NdtScanMatcher.Node
import AdaptiveCruiseControl.NdtScanMatcher.Diagnostics
import AdaptiveCruiseControl.NdtScanMatcher.AlignPose
import AdaptiveCruiseControl.NdtScanMatcher.Marker
