import AdaptiveCruiseControl.NdtScanMatcher.StateMap
import AdaptiveCruiseControl.NdtScanMatcher.Oscillation

/-!
# The NDT scan matcher node

`NDTScanMatcher` aligns each LiDAR scan with the map, starting from a pose interpolated from the
initial poses it buffers, and keeps the outcome in its state map for the diagnostics.  The node
is modelled as a state machine: its state, and one step for each callback and service that
touches the state map, the pose buffer, the activation flag or the count of skipped scans.

The map modules, the alignment, the pose interpolation and the publishers are not modelled.
What they hand a step (whether a map is loaded, whether interpolation succeeded, the result of
the alignment and its execution time) is part of the event, so every result holds whatever they
do.  The buffer's `pop_old_pose` is a function the results are quantified over.

Between callbacks the map is consistent: its `skipping_publish_num` is the node's count of
consecutive scans that did not converge, and the entries the diagnostics read hold what
`std::to_string` writes.  Each write keeps this as soon as the value written is what its key
needs (`Consistent.set`), and every run from the state the constructor leaves stays consistent.
-/

namespace AdaptiveCruiseControl
namespace NdtScanMatcher

open Avoidance (Pose)

/-! ## State and parameters -/

/-- `ConvergedParamType`, cast from the integer parameter `converged_param_type`; `unknown`
stands for any other value. -/
inductive ConvergedParamType
  | transformProbability
  | nearestVoxelTransformationLikelihood
  | unknown
  deriving DecidableEq, Repr, Inhabited

/-- The parameters of the node that the modelled code reads. -/
structure NodeParameters where
  convergedParamType : ConvergedParamType
  convergedParamTransformProbability : ℚ
  convergedParamNearestVoxelTransformationLikelihood : ℚ
  lidarTopicTimeoutSec : ℚ
  criticalUpperBoundExeTimeMs : Int
  /-- `ndt_ptr_->getMaximumIterations()`, the parameter `max_iterations` -/
  maxIterations : Int
  deriving DecidableEq, Repr, Inhabited

/-- The fields of `pclomp::NdtResult` that the scan callback reads. -/
structure NdtResult where
  transformationArray : List Pose
  iterationNum : Int
  transformProbability : ℚ
  nearestVoxelTransformationLikelihood : ℚ
  deriving DecidableEq, Repr, Inhabited

/-- What one call of `callback_sensor_points` receives, or obtains from outside the node. -/
structure SensorScan where
  /-- `sensor_points_msg_in_sensor_frame->data.empty()` -/
  dataEmpty : Bool
  /-- the stamp of the scan, in seconds -/
  sensorRosTime : ℚ
  /-- `(this->now() - sensor_ros_time).seconds()` -/
  lidarTopicDelayTimeSec : ℚ
  /-- `interpolator.is_success()` -/
  interpolationSuccess : Bool
  /-- `ndt_ptr_->getInputTarget() != nullptr`: a map is loaded -/
  hasMap : Bool
  /-- `ndt_ptr_->getResult()` after `align` -/
  ndtResult : NdtResult
  /-- `exe_time`, in milliseconds -/
  exeTime : ℚ
  deriving DecidableEq, Repr, Inhabited

/-- The parts of the node's state the modelled callbacks read or write. -/
structure NodeState where
  statePtr : StateMap
  isActivated : Bool
  /-- the stamps of `initial_pose_msg_ptr_array_`, in seconds -/
  initialPoseStamps : List ℚ
  /-- whether `ndt_ptr_` has an input source: set by the first scan with points -/
  hasInputSource : Bool
  /-- the function-local static `skipping_publish_num` of `callback_sensor_points` -/
  skippingPublishNum : Nat
  deriving DecidableEq, Repr, Inhabited

/-- The state the constructor leaves. -/
def NodeState.initial : NodeState where
  statePtr := StateMap.set "state" "Initializing" []
  isActivated := false
  initialPoseStamps := []
  hasInputSource := false
  skippingPublishNum := 0

/-! ## Validations -/

/-- `oscillation_threshold_`, set to `10` by the constructor. -/
def oscillationThreshold : ℚ := 10

/-- `inversion_vector_threshold_`, a `float` set to `-0.9` by the constructor: the `float`
nearest `-0.9`, `-7549747 / 2 ^ 23`. -/
def inversionVectorThreshold : ℚ := -7549747 / 8388608

/-- `validate_num_iteration`. -/
def validateNumIteration (iterNum maxIterNum : Int) : Bool := iterNum < maxIterNum

/-- `validate_score`. -/
def validateScore (score scoreThreshold : ℚ) : Bool := score > scoreThreshold

/-- `validate_converged_param`: the score the parameter names must exceed its threshold; an
unknown type never converges. -/
def validateConvergedParam (parameters : NodeParameters)
    (transformProbability nearestVoxelTransformationLikelihood : ℚ) : Bool :=
  match parameters.convergedParamType with
  | .transformProbability =>
    validateScore transformProbability parameters.convergedParamTransformProbability
  | .nearestVoxelTransformationLikelihood =>
    validateScore nearestVoxelTransformationLikelihood
      parameters.convergedParamNearestVoxelTransformationLikelihood
  | .unknown => false

/-- `is_converged` of `callback_sensor_points`. -/
def isConverged (parameters : NodeParameters) (r : NdtResult) : Bool :=
  validateNumIteration r.iterationNum parameters.maxIterations &&
    validateConvergedParam parameters r.transformProbability r.nearestVoxelTransformationLikelihood

/-- `is_local_optimal_solution_oscillation` of `callback_sensor_points`: checked only when the
iteration limit was reached. -/
def isLocalOptimalSolutionOscillation (parameters : NodeParameters) (r : NdtResult) : Bool :=
  !validateNumIteration r.iterationNum parameters.maxIterations &&
    validateLocalOptimalSolutionOscillation r.transformationArray oscillationThreshold
      inversionVectorThreshold

/-! ## Callbacks and services -/

/-- `callback_initial_pose` on a message with the given stamp.  A message older than the front of
the buffer, as after a restart of a recording, clears the buffer first.  The transform into the
map frame changes the pose, not its stamp. -/
def callbackInitialPose (stamp : ℚ) (s : NodeState) : NodeState :=
  if !s.isActivated then s
  else
    let kept := match s.initialPoseStamps with
      | front :: _ => if front > stamp then [] else s.initialPoseStamps
      | [] => []
    { s with initialPoseStamps := kept ++ [stamp] }

/-- The entries `callback_sensor_points` writes after an alignment, in its order. -/
def writeAlignment (r : NdtResult) (skippingPublishNum : Nat) (oscillation : Bool) (exeTime : ℚ)
    (statePtr : StateMap) : StateMap :=
  statePtr
  |> StateMap.set "transform_probability" (toStringDouble r.transformProbability)
  |> StateMap.set "nearest_voxel_transformation_likelihood"
    (toStringDouble r.nearestVoxelTransformationLikelihood)
  |> StateMap.set "iteration_num" (toStringInt r.iterationNum)
  |> StateMap.set "skipping_publish_num" (toStringSizeT skippingPublishNum)
  |> StateMap.set "is_local_optimal_solution_oscillation" (if oscillation then "1" else "0")
  |> StateMap.set "execution_time" (toStringDouble exeTime)

/-- `callback_sensor_points`.  A scan with points records its delay and becomes the input
source; it is aligned only when the node is active, holds two initial poses, interpolates one
and has a map.  An aligned scan resets the count of skipped scans when it converged and
increments it otherwise. -/
def callbackSensorPoints (parameters : NodeParameters) (popOldPose : List ℚ → ℚ → List ℚ)
    (scan : SensorScan) (s : NodeState) : NodeState :=
  if scan.dataEmpty then s
  else
    let s := { s with
      statePtr := StateMap.set "lidar_topic_delay_time_sec"
        (toStringDouble scan.lidarTopicDelayTimeSec) s.statePtr
      hasInputSource := true }
    if !s.isActivated then s
    else if s.initialPoseStamps.length ≤ 1 then s
    else if !scan.interpolationSuccess then s
    else
      let s := { s with initialPoseStamps := popOldPose s.initialPoseStamps scan.sensorRosTime }
      if !scan.hasMap then s
      else
        let statePtr := s.statePtr |> StateMap.set "state" "Aligning"
          |> StateMap.set "state" "Sleeping"
        let skippingPublishNum :=
          if isConverged parameters scan.ndtResult then 0 else s.skippingPublishNum + 1
        { s with
          statePtr := writeAlignment scan.ndtResult skippingPublishNum
            (isLocalOptimalSolutionOscillation parameters scan.ndtResult) scan.exeTime statePtr
          skippingPublishNum }

/-- `service_trigger_node`: activation clears the pose buffer, deactivation reports
`Initializing`. -/
def serviceTriggerNode (data : Bool) (s : NodeState) : NodeState :=
  if data then { s with isActivated := true, initialPoseStamps := [] }
  else { s with isActivated := false, statePtr := StateMap.set "state" "Initializing" s.statePtr }

/-- `service_ndt_align`, given whether a map is loaded: with a map and an input source it aligns
the requested pose, reporting `Aligning` and then `Sleeping`.  The response is not modelled. -/
def serviceNdtAlign (hasMap : Bool) (s : NodeState) : NodeState :=
  if !hasMap then s
  else if !s.hasInputSource then s
  else { s with statePtr := s.statePtr |> StateMap.set "state" "Aligning"
    |> StateMap.set "state" "Sleeping" }

/-- The callbacks and services of the node that touch the modelled state. -/
inductive Event
  | initialPose (stamp : ℚ)
  | sensorPoints (scan : SensorScan)
  | triggerNode (data : Bool)
  | ndtAlign (hasMap : Bool)
  deriving DecidableEq, Repr

/-- One callback or service. -/
def step (parameters : NodeParameters) (popOldPose : List ℚ → ℚ → List ℚ) (s : NodeState) :
    Event → NodeState
  | .initialPose stamp => callbackInitialPose stamp s
  | .sensorPoints scan => callbackSensorPoints parameters popOldPose scan s
  | .triggerNode data => serviceTriggerNode data s
  | .ndtAlign hasMap => serviceNdtAlign hasMap s

/-- The state after a sequence of callbacks and services. -/
def run (parameters : NodeParameters) (popOldPose : List ℚ → ℚ → List ℚ) (s : NodeState)
    (events : List Event) : NodeState :=
  events.foldl (step parameters popOldPose) s

/-! ## What an aligned scan writes -/

/-- The guards of `callback_sensor_points` that lead to an alignment. -/
structure Aligns (s : NodeState) (scan : SensorScan) : Prop where
  dataEmpty : scan.dataEmpty = false
  isActivated : s.isActivated = true
  initialPoses : 1 < s.initialPoseStamps.length
  interpolationSuccess : scan.interpolationSuccess = true
  hasMap : scan.hasMap = true

theorem find?_writeAlignment (r : NdtResult) (n : Nat) (oscillation : Bool) (exeTime : ℚ)
    (statePtr : StateMap) (key : String) :
    (writeAlignment r n oscillation exeTime statePtr).find? key =
      if key = "execution_time" then some (toStringDouble exeTime)
      else if key = "is_local_optimal_solution_oscillation" then
        some (if oscillation then "1" else "0")
      else if key = "skipping_publish_num" then some (toStringSizeT n)
      else if key = "iteration_num" then some (toStringInt r.iterationNum)
      else if key = "nearest_voxel_transformation_likelihood" then
        some (toStringDouble r.nearestVoxelTransformationLikelihood)
      else if key = "transform_probability" then some (toStringDouble r.transformProbability)
      else statePtr.find? key := by
  simp only [writeAlignment, StateMap.find?_set]

/-- The state after an aligned scan. -/
theorem callbackSensorPoints_of_aligns {parameters : NodeParameters}
    {popOldPose : List ℚ → ℚ → List ℚ} {scan : SensorScan} {s : NodeState}
    (h : Aligns s scan) :
    callbackSensorPoints parameters popOldPose scan s =
      { statePtr := writeAlignment scan.ndtResult
          (if isConverged parameters scan.ndtResult then 0 else s.skippingPublishNum + 1)
          (isLocalOptimalSolutionOscillation parameters scan.ndtResult) scan.exeTime
          (StateMap.set "state" "Sleeping" (StateMap.set "state" "Aligning"
            (StateMap.set "lidar_topic_delay_time_sec"
              (toStringDouble scan.lidarTopicDelayTimeSec) s.statePtr)))
        isActivated := s.isActivated
        initialPoseStamps := popOldPose s.initialPoseStamps scan.sensorRosTime
        hasInputSource := true
        skippingPublishNum :=
          if isConverged parameters scan.ndtResult then 0 else s.skippingPublishNum + 1 } := by
  simp [callbackSensorPoints, h.dataEmpty, h.isActivated, not_le.mpr h.initialPoses,
    h.interpolationSuccess, h.hasMap]

/-! ## Consistency -/

/-- The entry of `key`, if any, is a double written by `std::to_string`. -/
def WrittenDouble (statePtr : StateMap) (key : String) : Prop :=
  ∀ v ∈ statePtr.find? key, ∃ x, v = toStringDouble x

/-- What the diagnostics need of the value `value` of `key`, with `n` scans skipped: a double
written by `std::to_string` for the delay, the score and the execution time, the count for
`skipping_publish_num`, and a flag for the oscillation.  The other keys, the state among them,
are free. -/
def EntryOk (n : Nat) (key value : String) : Prop :=
  (key = "lidar_topic_delay_time_sec" ∨ key = "nearest_voxel_transformation_likelihood" ∨
      key = "execution_time" → ∃ x, value = toStringDouble x) ∧
    (key = "skipping_publish_num" → value = toStringSizeT n) ∧
    (key = "is_local_optimal_solution_oscillation" → value = "0" ∨ value = "1")

/-- What the callbacks keep true of the map between callbacks, with the count of skipped scans:
every entry is what the diagnostics need of its key. -/
structure Consistent (statePtr : StateMap) (skippingPublishNum : Nat) : Prop where
  entryOk : ∀ key value, statePtr.find? key = some value → EntryOk skippingPublishNum key value

section Consistent

variable {statePtr : StateMap} {n : Nat}

theorem Consistent.writtenDouble (h : Consistent statePtr n) {key : String}
    (hkey : key = "lidar_topic_delay_time_sec" ∨ key = "nearest_voxel_transformation_likelihood" ∨
      key = "execution_time") : WrittenDouble statePtr key :=
  fun v hv => (h.entryOk key v hv).1 hkey

theorem Consistent.skippingPublishNum (h : Consistent statePtr n) :
    ∀ v ∈ statePtr.find? "skipping_publish_num", v = toStringSizeT n :=
  fun v hv => (h.entryOk _ v hv).2.1 rfl

theorem Consistent.oscillation (h : Consistent statePtr n) :
    ∀ v ∈ statePtr.find? "is_local_optimal_solution_oscillation", v = "0" ∨ v = "1" :=
  fun v hv => (h.entryOk _ v hv).2.2 rfl

/-- One write keeps the map consistent when the value written is what its key needs; the count
may change only with a write of `skipping_publish_num`. -/
theorem Consistent.set (h : Consistent statePtr n) (key value : String) {n' : Nat}
    (hok : EntryOk n' key value) (hcount : key = "skipping_publish_num" ∨ n' = n) :
    Consistent (StateMap.set key value statePtr) n' := by
  refine ⟨fun k v hk => ?_⟩
  rw [StateMap.find?_set] at hk
  split_ifs at hk with hkey
  · cases hk
    exact hkey ▸ hok
  · obtain ⟨hdouble, hn, hflag⟩ := h.entryOk k v hk
    refine ⟨hdouble, fun hk' => ?_, hflag⟩
    rcases hcount with rfl | rfl
    · exact absurd hk' hkey
    · exact hn hk'

/-- Consistency reads only the entries of the five keys the diagnostics check: a map that agrees
with a consistent one there is consistent. -/
theorem Consistent.of_find?_eq (h : Consistent statePtr n) {statePtr' : StateMap}
    (hagree : ∀ key, key = "lidar_topic_delay_time_sec" ∨
      key = "nearest_voxel_transformation_likelihood" ∨ key = "execution_time" ∨
      key = "skipping_publish_num" ∨ key = "is_local_optimal_solution_oscillation" →
      statePtr'.find? key = statePtr.find? key) :
    Consistent statePtr' n := by
  refine ⟨fun k v hk => ?_⟩
  by_cases hkey : k = "lidar_topic_delay_time_sec" ∨
      k = "nearest_voxel_transformation_likelihood" ∨ k = "execution_time" ∨
      k = "skipping_publish_num" ∨ k = "is_local_optimal_solution_oscillation"
  · exact h.entryOk k v (hagree k hkey ▸ hk)
  · -- any value is what the diagnostics need of another key
    simp only [not_or] at hkey
    exact ⟨fun h => absurd h (by simpa only [not_or] using ⟨hkey.1, hkey.2.1, hkey.2.2.1⟩),
      fun h => absurd h hkey.2.2.2.1, fun h => absurd h hkey.2.2.2.2⟩

end Consistent

/-- The empty map holds no entry to check. -/
theorem consistent_nil (n : Nat) : Consistent [] n := ⟨fun _ _ h => nomatch h⟩

theorem consistent_initial : Consistent NodeState.initial.statePtr 0 :=
  (consistent_nil 0).set "state" "Initializing" (by simp [EntryOk]) (.inr rfl)

/-- The entries an alignment writes keep the map consistent, with the count written. -/
theorem Consistent.writeAlignment {statePtr : StateMap} {n : Nat} (h : Consistent statePtr n)
    (r : NdtResult) (n' : Nat) (oscillation : Bool) (exeTime : ℚ) :
    Consistent (writeAlignment r n' oscillation exeTime statePtr) n' :=
  (((((h.set _ _ (by simp [EntryOk]) (.inr rfl)).set _ _ (by simp [EntryOk]) (.inr rfl)).set _ _
    (by simp [EntryOk]) (.inr rfl)).set _ _ (by simp [EntryOk]) (.inl rfl)).set _ _
    (by cases oscillation <;> simp [EntryOk]) (.inr rfl)).set _ _ (by simp [EntryOk]) (.inr rfl)

/-- An aligned scan leaves a consistent map whatever the map before: it writes every entry the
diagnostics read. -/
theorem consistent_of_aligns (parameters : NodeParameters) (popOldPose : List ℚ → ℚ → List ℚ)
    {s : NodeState} {scan : SensorScan} (h : Aligns s scan) :
    Consistent (callbackSensorPoints parameters popOldPose scan s).statePtr
      (callbackSensorPoints parameters popOldPose scan s).skippingPublishNum := by
  rw [callbackSensorPoints_of_aligns h]
  -- every entry the diagnostics read is written, so the map before does not matter
  have hwritten := ((((consistent_nil 0).set "lidar_topic_delay_time_sec"
    (toStringDouble scan.lidarTopicDelayTimeSec) (by simp [EntryOk]) (.inr rfl)).set "state"
    "Aligning" (by simp [EntryOk]) (.inr rfl)).set "state" "Sleeping" (by simp [EntryOk])
    (.inr rfl)).writeAlignment scan.ndtResult
      (if isConverged parameters scan.ndtResult then 0 else s.skippingPublishNum + 1)
      (isLocalOptimalSolutionOscillation parameters scan.ndtResult) scan.exeTime
  refine hwritten.of_find?_eq fun key hkey => ?_
  rcases hkey with rfl | rfl | rfl | rfl | rfl <;> simp [find?_writeAlignment, StateMap.find?_set]

/-- Every callback and service keeps the map consistent. -/
theorem step_consistent (parameters : NodeParameters) (popOldPose : List ℚ → ℚ → List ℚ)
    {s : NodeState} (h : Consistent s.statePtr s.skippingPublishNum) (e : Event) :
    Consistent (step parameters popOldPose s e).statePtr
      (step parameters popOldPose s e).skippingPublishNum := by
  cases e with
  | initialPose stamp =>
    simp only [step, callbackInitialPose]
    split_ifs <;> exact h
  | sensorPoints scan =>
    have hdelay := h.set "lidar_topic_delay_time_sec" (toStringDouble scan.lidarTopicDelayTimeSec)
      (by simp [EntryOk]) (.inr rfl)
    simp only [step, callbackSensorPoints]
    -- the count written does not matter: every count is consistent with the entries written
    generalize (if isConverged parameters scan.ndtResult = true then 0
      else s.skippingPublishNum + 1) = n'
    split_ifs
    · exact h
    all_goals first
      | exact hdelay
      | exact ((hdelay.set "state" "Aligning" (by simp [EntryOk]) (.inr rfl)).set "state"
          "Sleeping" (by simp [EntryOk]) (.inr rfl)).writeAlignment _ _ _ _
  | triggerNode data =>
    simp only [step, serviceTriggerNode]
    split_ifs
    · exact h
    · exact h.set "state" "Initializing" (by simp [EntryOk]) (.inr rfl)
  | ndtAlign hasMap =>
    simp only [step, serviceNdtAlign]
    split_ifs
    · exact h
    · exact h
    · exact (h.set "state" "Aligning" (by simp [EntryOk]) (.inr rfl)).set "state" "Sleeping"
        (by simp [EntryOk]) (.inr rfl)

/-- What holds of a state and is kept by every event of a run holds after the run. -/
theorem run_invariant (parameters : NodeParameters) (popOldPose : List ℚ → ℚ → List ℚ)
    {P : NodeState → Prop} {events : List Event} {s : NodeState} (hs : P s)
    (hstep : ∀ s, ∀ e ∈ events, P s → P (step parameters popOldPose s e)) :
    P (run parameters popOldPose s events) := by
  induction events generalizing s with
  | nil => exact hs
  | cons e events ih =>
    exact ih (hstep s e (List.mem_cons_self e events) hs)
      fun s e he => hstep s e (List.mem_cons_of_mem _ he)

/-- Every run from the state the constructor leaves keeps the map consistent. -/
theorem run_consistent (parameters : NodeParameters) (popOldPose : List ℚ → ℚ → List ℚ)
    (events : List Event) :
    Consistent (run parameters popOldPose NodeState.initial events).statePtr
      (run parameters popOldPose NodeState.initial events).skippingPublishNum :=
  run_invariant parameters popOldPose (P := fun s => Consistent s.statePtr s.skippingPublishNum)
    consistent_initial fun _ e _ h => step_consistent parameters popOldPose h e

end NdtScanMatcher
end AdaptiveCruiseControl
