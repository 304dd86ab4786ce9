import AdaptiveCruiseControl.NdtScanMatcher.Node

/-!
# The diagnostics of the NDT scan matcher

A thread of the node, `timer_diagnostic`, publishes a diagnostic status every 10 ms, made from
the state map: its entries as key-value pairs, and a level and a message from a sequence of
checks.  A check that fires sets the level and appends to the message, so the last check that
fires decides the level.  The initialising state, a late scan, two to four skipped scans, a low
score and a long execution report WARN; five skipped scans or more report ERROR; an oscillation
of the optimiser sets OK and replaces the message.

On a consistent map the thread reads every entry back, unless the count of skipped scans has
reached `2 ^ 31`: then `std::stoi` throws `std::out_of_range` and the thread ends.  After an
aligned scan the level is ERROR exactly when five scans or more were skipped and neither a low
score, a long execution nor an oscillation overrides it.  So a run whose scans all score below
the threshold never reports ERROR, however many of them are skipped.

The thread reads the map without a lock while the callbacks write it; the model evaluates the
diagnostics between callbacks.
-/

namespace AdaptiveCruiseControl
namespace NdtScanMatcher

/-! ## The status -/

/-- The levels of `diagnostic_msgs::msg::DiagnosticStatus` the node reports. -/
inductive DiagnosticLevel
  | ok
  | warn
  | error
  deriving DecidableEq, Repr

/-- A `diagnostic_msgs::msg::DiagnosticStatus`, with `values` as key-value pairs. -/
structure DiagnosticStatus where
  level : DiagnosticLevel
  name : String
  message : String
  hardwareId : String
  values : List (String × String)
  deriving DecidableEq, Repr

/-- One check of `timer_diagnostic` on an entry of the map: when `key` is present and its value,
read by `read`, satisfies `cond`, the level becomes `level` and `text value` is appended to the
message.  A value `read` cannot convert throws. -/
def checkValue {α : Type} (read : String → Option α) (cond : α → Bool) (key : String)
    (level : DiagnosticLevel) (text : String → String) (statePtr : StateMap)
    (status : DiagnosticStatus) : Option DiagnosticStatus :=
  match statePtr.find? key with
  | none => some status
  | some value => (read value).map fun v =>
    if cond v then { status with level, message := status.message ++ text value } else status

/-- The last check of `timer_diagnostic`: an oscillation sets the level to OK and replaces the
message. -/
def checkOscillation (statePtr : StateMap) (status : DiagnosticStatus) :
    Option DiagnosticStatus :=
  match statePtr.find? "is_local_optimal_solution_oscillation" with
  | none => some status
  | some value => (stoi value).map fun flag =>
    if flag ≠ 0 then
      { status with level := .ok, message := "local optimal solution oscillation occurred" }
    else status

/-- One pass of the loop of `timer_diagnostic`: the status published for the map, or `none` when
`std::stod` or `std::stoi` throws. -/
def timerDiagnostic (parameters : NodeParameters) (statePtr : StateMap) :
    Option DiagnosticStatus := do
  let status : DiagnosticStatus :=
    { level := .ok, name := "ndt_scan_matcher", message := "", hardwareId := "",
      values := statePtr }
  let status ← checkValue some (fun state => state == "Initializing") "state" .warn
    (fun _ => "Initializing State. ") statePtr status
  let status ← checkValue stod (fun delay => decide (delay > parameters.lidarTopicTimeoutSec))
    "lidar_topic_delay_time_sec" .warn (fun _ => "lidar_topic_delay_time_sec exceed limit. ")
    statePtr status
  let status ← checkValue stoi (fun num => decide (num > 1 ∧ num < 5)) "skipping_publish_num"
    .warn (fun _ => "skipping_publish_num > 1. ") statePtr status
  let status ← checkValue stoi (fun num => decide (num ≥ 5)) "skipping_publish_num" .error
    (fun _ => "skipping_publish_num exceed limit. ") statePtr status
  let status ← checkValue stod
    (fun score => decide (score < parameters.convergedParamNearestVoxelTransformationLikelihood))
    "nearest_voxel_transformation_likelihood" .warn (fun _ => "NDT score is unreliably low. ")
    statePtr status
  let status ← checkValue stod
    (fun time => decide (time ≥ (parameters.criticalUpperBoundExeTimeMs : ℚ))) "execution_time"
    .warn (fun value => "NDT exe time is too long. (took " ++ value ++ " [ms])") statePtr status
  checkOscillation statePtr status

/-! ## One check -/

section Check

variable {α : Type} {read : String → Option α} {cond : α → Bool} {key : String}
  {level : DiagnosticLevel} {text : String → String} {statePtr : StateMap}
  {status status' : DiagnosticStatus}

/-- A check whose entry is absent or readable goes through. -/
theorem checkValue_isSome (hread : ∀ value ∈ statePtr.find? key, (read value).isSome) :
    (checkValue read cond key level text statePtr status).isSome := by
  unfold checkValue
  split
  · rfl
  · rename_i value hfind
    simpa using hread value hfind

theorem checkValue_eq_none {value : String} (hfind : statePtr.find? key = some value)
    (hread : read value = none) : checkValue read cond key level text statePtr status = none := by
  simp [checkValue, hfind, hread]

theorem eq_of_checkValue_of_find?_eq_none
    (h : checkValue read cond key level text statePtr status = some status')
    (hfind : statePtr.find? key = none) : status' = status := by
  simpa [checkValue, hfind] using h.symm

/-- A present entry that reads as `v` decides the level by `cond v`. -/
theorem level_of_checkValue_of_read
    (h : checkValue read cond key level text statePtr status = some status') {value : String}
    {v : α} (hfind : statePtr.find? key = some value) (hread : read value = some v) :
    status'.level = if cond v then level else status.level := by
  simp only [checkValue, hfind, hread, Option.map_some', Option.some.injEq] at h
  subst h
  split_ifs <;> rfl

/-- The level after a check is the check's level or the level before. -/
theorem level_of_checkValue
    (h : checkValue read cond key level text statePtr status = some status') :
    status'.level = level ∨ status'.level = status.level := by
  unfold checkValue at h
  split at h
  · cases h
    exact .inr rfl
  · obtain ⟨v, -, rfl⟩ := Option.map_eq_some'.mp h
    split_ifs
    · exact .inl rfl
    · exact .inr rfl

theorem checkOscillation_isSome
    (hread : ∀ value ∈ statePtr.find? "is_local_optimal_solution_oscillation",
      (stoi value).isSome) :
    (checkOscillation statePtr status).isSome := by
  unfold checkOscillation
  split
  · rfl
  · rename_i value hfind
    simpa using hread value hfind

theorem level_of_checkOscillation (h : checkOscillation statePtr status = some status') :
    status'.level = .ok ∨ status'.level = status.level := by
  unfold checkOscillation at h
  split at h
  · cases h
    exact .inr rfl
  · obtain ⟨v, -, rfl⟩ := Option.map_eq_some'.mp h
    split_ifs
    · exact .inl rfl
    · exact .inr rfl

theorem level_of_checkOscillation_of_read (h : checkOscillation statePtr status = some status')
    {value : String} {flag : Int}
    (hfind : statePtr.find? "is_local_optimal_solution_oscillation" = some value)
    (hread : stoi value = some flag) :
    status'.level = if flag ≠ 0 then .ok else status.level := by
  simp only [checkOscillation, hfind, hread, Option.map_some', Option.some.injEq] at h
  subst h
  split_ifs <;> rfl

end Check

/-! ## The whole pass -/

/-- The statuses after each check of a pass that goes through. -/
theorem timerDiagnostic_eq_some {parameters : NodeParameters} {statePtr : StateMap}
    {status : DiagnosticStatus} (h : timerDiagnostic parameters statePtr = some status) :
    ∃ s₁, checkValue some (fun state => state == "Initializing") "state" .warn
        (fun _ => "Initializing State. ") statePtr
        { level := .ok, name := "ndt_scan_matcher", message := "", hardwareId := "",
          values := statePtr } = some s₁ ∧
    ∃ s₂, checkValue stod (fun delay => decide (delay > parameters.lidarTopicTimeoutSec))
        "lidar_topic_delay_time_sec" .warn (fun _ => "lidar_topic_delay_time_sec exceed limit. ")
        statePtr s₁ = some s₂ ∧
    ∃ s₃, checkValue stoi (fun num => decide (num > 1 ∧ num < 5)) "skipping_publish_num" .warn
        (fun _ => "skipping_publish_num > 1. ") statePtr s₂ = some s₃ ∧
    ∃ s₄, checkValue stoi (fun num => decide (num ≥ 5)) "skipping_publish_num" .error
        (fun _ => "skipping_publish_num exceed limit. ") statePtr s₃ = some s₄ ∧
    ∃ s₅, checkValue stod
        (fun score =>
          decide (score < parameters.convergedParamNearestVoxelTransformationLikelihood))
        "nearest_voxel_transformation_likelihood" .warn (fun _ => "NDT score is unreliably low. ")
        statePtr s₄ = some s₅ ∧
    ∃ s₆, checkValue stod
        (fun time => decide (time ≥ (parameters.criticalUpperBoundExeTimeMs : ℚ))) "execution_time"
        .warn (fun value => "NDT exe time is too long. (took " ++ value ++ " [ms])") statePtr s₅ =
        some s₆ ∧
      checkOscillation statePtr s₆ = some status := by
  simpa only [timerDiagnostic, Option.bind_eq_bind, Option.bind_eq_some] using h

theorem isSome_bind_of {o : Option DiagnosticStatus}
    {f : DiagnosticStatus → Option DiagnosticStatus}
    (ho : o.isSome) (hf : ∀ a, (f a).isSome) : (o.bind f).isSome := by
  obtain ⟨a, rfl⟩ := Option.isSome_iff_exists.mp ho
  exact hf a

/-- On a consistent map the pass goes through exactly when the count of skipped scans is absent
or below `2 ^ 31`. -/
theorem timerDiagnostic_isSome_iff {parameters : NodeParameters} {statePtr : StateMap} {n : Nat}
    (h : Consistent statePtr n) :
    (timerDiagnostic parameters statePtr).isSome ↔
      statePtr.find? "skipping_publish_num" = none ∨ n < 2 ^ 31 := by
  have hdouble : ∀ {key}, WrittenDouble statePtr key → ∀ value ∈ statePtr.find? key,
      (stod value).isSome := fun hkey value hvalue => by
    obtain ⟨x, rfl⟩ := hkey value hvalue
    simp [stod_toStringDouble]
  constructor
  · -- from `2 ^ 31` on the first check of the count throws
    intro hpass
    by_contra hthrow
    push_neg at hthrow
    obtain ⟨value, hvalue⟩ := Option.ne_none_iff_exists'.mp hthrow.1
    have hstoi : stoi value = none := by
      rw [h.skippingPublishNum value hvalue, stoi_toStringSizeT, if_neg (not_lt.mpr hthrow.2)]
    obtain ⟨status, hstatus⟩ := Option.isSome_iff_exists.mp hpass
    obtain ⟨s₁, -, s₂, -, s₃, h₃, -⟩ := timerDiagnostic_eq_some hstatus
    rw [checkValue_eq_none hvalue hstoi] at h₃
    cases h₃
  · intro hcount
    have hcount : ∀ value ∈ statePtr.find? "skipping_publish_num", (stoi value).isSome := by
      intro value hvalue
      rcases hcount with hnone | hn
      · simp [hnone] at hvalue
      · rw [h.skippingPublishNum value hvalue, stoi_toStringSizeT, if_pos hn]
        rfl
    have hflag : ∀ value ∈ statePtr.find? "is_local_optimal_solution_oscillation",
        (stoi value).isSome := fun value hvalue => by
      rcases h.oscillation value hvalue with rfl | rfl <;> decide
    simp only [timerDiagnostic, Option.bind_eq_bind]
    exact isSome_bind_of (checkValue_isSome fun _ _ => rfl) fun _ =>
      isSome_bind_of (checkValue_isSome (hdouble (h.writtenDouble (.inl rfl)))) fun _ =>
      isSome_bind_of (checkValue_isSome hcount) fun _ =>
      isSome_bind_of (checkValue_isSome hcount) fun _ =>
      isSome_bind_of (checkValue_isSome (hdouble (h.writtenDouble (.inr (.inl rfl))))) fun _ =>
      isSome_bind_of (checkValue_isSome (hdouble (h.writtenDouble (.inr (.inr rfl))))) fun _ =>
      checkOscillation_isSome hflag

/-- The diagnostic thread reads the map of every run back, unless a count of `2 ^ 31` skipped
scans is reported: then `std::stoi` throws. -/
theorem run_timerDiagnostic_isSome_iff (parameters : NodeParameters)
    (popOldPose : List ℚ → ℚ → List ℚ) (events : List Event) :
    (timerDiagnostic parameters (run parameters popOldPose .initial events).statePtr).isSome ↔
      (run parameters popOldPose .initial events).statePtr.find? "skipping_publish_num" = none ∨
        (run parameters popOldPose .initial events).skippingPublishNum < 2 ^ 31 :=
  timerDiagnostic_isSome_iff (run_consistent parameters popOldPose events)

/-- After an aligned scan the level is ERROR exactly when five scans or more in a row were
skipped, the score does not round below its threshold, the execution is not too long and the
optimiser did not oscillate. -/
theorem timerDiagnostic_error_iff_of_aligns {parameters : NodeParameters}
    {popOldPose : List ℚ → ℚ → List ℚ} {s : NodeState} {scan : SensorScan} (h : Aligns s scan)
    (hcount : (callbackSensorPoints parameters popOldPose scan s).skippingPublishNum < 2 ^ 31) :
    ∃ status,
      timerDiagnostic parameters (callbackSensorPoints parameters popOldPose scan s).statePtr =
        some status ∧
      (status.level = .error ↔
        5 ≤ (callbackSensorPoints parameters popOldPose scan s).skippingPublishNum ∧
        ¬roundSixDecimals scan.ndtResult.nearestVoxelTransformationLikelihood <
          parameters.convergedParamNearestVoxelTransformationLikelihood ∧
        ¬(parameters.criticalUpperBoundExeTimeMs : ℚ) ≤ roundSixDecimals scan.exeTime ∧
        isLocalOptimalSolutionOscillation parameters scan.ndtResult = false) := by
  obtain ⟨status, hstatus⟩ := Option.isSome_iff_exists.mp
    ((timerDiagnostic_isSome_iff (consistent_of_aligns parameters popOldPose h)).mpr (.inr hcount))
  refine ⟨status, hstatus, ?_⟩
  rw [callbackSensorPoints_of_aligns h] at hcount hstatus ⊢
  obtain ⟨s₁, h₁, s₂, h₂, s₃, h₃, s₄, h₄, s₅, h₅, s₆, h₆, h₇⟩ := timerDiagnostic_eq_some hstatus
  have hnum := stoi_toStringSizeT
    (if isConverged parameters scan.ndtResult then 0 else s.skippingPublishNum + 1)
  rw [if_pos hcount] at hnum
  have hflag : stoi (if isLocalOptimalSolutionOscillation parameters scan.ndtResult then "1"
      else "0") = some (if isLocalOptimalSolutionOscillation parameters scan.ndtResult then 1
      else 0) := by
    split_ifs <;> rfl
  rw [level_of_checkOscillation_of_read h₇ (by simp [find?_writeAlignment]) hflag,
    level_of_checkValue_of_read h₆ (by simp [find?_writeAlignment])
      (stod_toStringDouble scan.exeTime),
    level_of_checkValue_of_read h₅ (by simp [find?_writeAlignment])
      (stod_toStringDouble scan.ndtResult.nearestVoxelTransformationLikelihood),
    level_of_checkValue_of_read h₄ (by simp [find?_writeAlignment]) hnum,
    level_of_checkValue_of_read h₃ (by simp [find?_writeAlignment]) hnum,
    level_of_checkValue_of_read h₂ (by simp [find?_writeAlignment])
      (stod_toStringDouble scan.lidarTopicDelayTimeSec),
    level_of_checkValue_of_read h₁ (by simp [find?_writeAlignment])
      (show some "Sleeping" = some "Sleeping" from rfl)]
  have hsleep : ("Sleeping" == "Initializing") = false := by decide
  clear h₁ h₂ h₃ h₄ h₅ h₆ h₇ hstatus hnum hflag hcount h
  dsimp only
  generalize isLocalOptimalSolutionOscillation parameters scan.ndtResult = oscillation
  generalize (if isConverged parameters scan.ndtResult then 0 else s.skippingPublishNum + 1) = n
  have hfive : ((n : Int) ≥ 5) ↔ 5 ≤ n := by omega
  cases oscillation with
  | true => simp -- an oscillation sets OK
  | false =>
    -- ERROR when the count check fires and no later check does
    simp [ite_eq_iff, hfive, hsleep]
    tauto

/-- The fifth skipped scan in a row, at the iteration limit with a good score. -/
theorem timerDiagnostic_error_iff_of_aligns_fifth_skip :
    let parameters : NodeParameters :=
      { convergedParamType := .nearestVoxelTransformationLikelihood,
        convergedParamTransformProbability := 3,
        convergedParamNearestVoxelTransformationLikelihood := 2, lidarTopicTimeoutSec := 1,
        criticalUpperBoundExeTimeMs := 100, maxIterations := 30 }
    let s : NodeState := { NodeState.initial with
      isActivated := true, initialPoseStamps := [0, 1], skippingPublishNum := 4 }
    let scan : SensorScan :=
      { dataEmpty := false, sensorRosTime := 1, lidarTopicDelayTimeSec := 0,
        interpolationSuccess := true, hasMap := true, exeTime := 10,
        ndtResult :=
          { transformationArray := [], iterationNum := 30, transformProbability := 3,
            nearestVoxelTransformationLikelihood := 3 } }
    Aligns s scan ∧
      (callbackSensorPoints parameters (fun stamps _ => stamps) scan s).skippingPublishNum <
        2 ^ 31 ∧
      ∃ status, timerDiagnostic parameters
          (callbackSensorPoints parameters (fun stamps _ => stamps) scan s).statePtr = some status ∧
        (status.level = .error ↔
          5 ≤ (callbackSensorPoints parameters (fun stamps _ => stamps) scan s).skippingPublishNum ∧
          ¬roundSixDecimals scan.ndtResult.nearestVoxelTransformationLikelihood <
            parameters.convergedParamNearestVoxelTransformationLikelihood ∧
          ¬(parameters.criticalUpperBoundExeTimeMs : ℚ) ≤ roundSixDecimals scan.exeTime ∧
          isLocalOptimalSolutionOscillation parameters scan.ndtResult = false) := by
  dsimp only
  have haligns : Aligns { NodeState.initial with
      isActivated := true, initialPoseStamps := [0, 1], skippingPublishNum := 4 }
      { dataEmpty := false, sensorRosTime := 1, lidarTopicDelayTimeSec := 0,
        interpolationSuccess := true, hasMap := true, exeTime := 10,
        ndtResult :=
          { transformationArray := [], iterationNum := 30, transformProbability := 3,
            nearestVoxelTransformationLikelihood := 3 } } := ⟨rfl, rfl, by decide, rfl, rfl⟩
  have hcount := (by decide : (callbackSensorPoints
    { convergedParamType := .nearestVoxelTransformationLikelihood,
      convergedParamTransformProbability := 3,
      convergedParamNearestVoxelTransformationLikelihood := 2, lidarTopicTimeoutSec := 1,
      criticalUpperBoundExeTimeMs := 100, maxIterations := 30 } (fun stamps _ => stamps)
    { dataEmpty := false, sensorRosTime := 1, lidarTopicDelayTimeSec := 0,
      interpolationSuccess := true, hasMap := true, exeTime := 10,
      ndtResult :=
        { transformationArray := [], iterationNum := 30, transformProbability := 3,
          nearestVoxelTransformationLikelihood := 3 } }
    { NodeState.initial with
      isActivated := true, initialPoseStamps := [0, 1], skippingPublishNum := 4 }).skippingPublishNum <
        2 ^ 31)
  exact ⟨haligns, hcount, timerDiagnostic_error_iff_of_aligns haligns hcount⟩

/-! ## Low scores hide the error -/

/-- The count of skipped scans is absent, or the score written last rounds below
`threshold`. -/
def LowScoreReported (threshold : ℚ) (statePtr : StateMap) : Prop :=
  statePtr.find? "skipping_publish_num" = none ∨
    ∃ x, roundSixDecimals x < threshold ∧
      statePtr.find? "nearest_voxel_transformation_likelihood" = some (toStringDouble x)

theorem LowScoreReported.set {threshold : ℚ} {statePtr : StateMap}
    (h : LowScoreReported threshold statePtr) (key value : String)
    (hcount : "skipping_publish_num" ≠ key)
    (hscore : "nearest_voxel_transformation_likelihood" ≠ key) :
    LowScoreReported threshold (StateMap.set key value statePtr) := by
  simpa [LowScoreReported, StateMap.find?_set_of_ne hcount, StateMap.find?_set_of_ne hscore]
    using h

/-- A callback keeps a low score reported when the scan it aligns, if any, scores low. -/
theorem step_lowScoreReported {parameters : NodeParameters} {popOldPose : List ℚ → ℚ → List ℚ}
    {s : NodeState} {e : Event}
    (hlow : ∀ scan, e = .sensorPoints scan → roundSixDecimals
      scan.ndtResult.nearestVoxelTransformationLikelihood <
        parameters.convergedParamNearestVoxelTransformationLikelihood)
    (h : LowScoreReported parameters.convergedParamNearestVoxelTransformationLikelihood
      s.statePtr) :
    LowScoreReported parameters.convergedParamNearestVoxelTransformationLikelihood
      (step parameters popOldPose s e).statePtr := by
  cases e with
  | initialPose stamp =>
    simp only [step, callbackInitialPose]
    split_ifs <;> exact h
  | sensorPoints scan =>
    have hdelay := h.set "lidar_topic_delay_time_sec" (toStringDouble scan.lidarTopicDelayTimeSec)
      (by decide) (by decide)
    simp only [step, callbackSensorPoints]
    generalize (if isConverged parameters scan.ndtResult = true then 0
      else s.skippingPublishNum + 1) = n'
    split_ifs
    · exact h
    all_goals first
      | exact hdelay
      | exact .inr ⟨_, hlow scan rfl, by simp [find?_writeAlignment]⟩
  | triggerNode data =>
    simp only [step, serviceTriggerNode]
    split_ifs
    · exact h
    · exact h.set "state" _ (by decide) (by decide)
  | ndtAlign hasMap =>
    simp only [step, serviceNdtAlign]
    split_ifs
    · exact h
    · exact h
    · exact (h.set "state" _ (by decide) (by decide)).set "state" _ (by decide) (by decide)

/-- With the score reported low, no pass of the diagnostics reports ERROR: the score's WARN comes
after the count's ERROR. -/
theorem timerDiagnostic_ne_error_of_lowScoreReported {parameters : NodeParameters}
    {statePtr : StateMap} {status : DiagnosticStatus}
    (h : LowScoreReported parameters.convergedParamNearestVoxelTransformationLikelihood statePtr)
    (hpass : timerDiagnostic parameters statePtr = some status) : status.level ≠ .error := by
  obtain ⟨s₁, h₁, s₂, h₂, s₃, h₃, s₄, h₄, s₅, h₅, s₆, h₆, h₇⟩ := timerDiagnostic_eq_some hpass
  have hkeep : ∀ {a b : DiagnosticStatus} {l : DiagnosticLevel}, l ≠ .error →
      (b.level = l ∨ b.level = a.level) → a.level ≠ .error → b.level ≠ .error := by
    rintro a b l hl (hb | hb) ha <;> rw [hb] <;> assumption
  have h₅' : s₅.level ≠ .error := by
    rcases h with hcount | ⟨x, hx, hscore⟩
    · -- without a count no check reports ERROR
      have h₃' := hkeep (by decide) (level_of_checkValue h₃) <|
        hkeep (by decide) (level_of_checkValue h₂) <|
        hkeep (by decide) (level_of_checkValue h₁) (by simp)
      exact hkeep (by decide) (level_of_checkValue h₅)
        (eq_of_checkValue_of_find?_eq_none h₄ hcount ▸ h₃')
    · -- the low score sets WARN
      rw [level_of_checkValue_of_read h₅ hscore (stod_toStringDouble x),
        if_pos (decide_eq_true hx)]
      decide
  exact hkeep (by decide) (level_of_checkOscillation h₇) <|
    hkeep (by decide) (level_of_checkValue h₆) h₅'

/-- A run in which every scan scores below the threshold never reports ERROR, however many scans
in a row it skips. -/
theorem run_timerDiagnostic_ne_error_of_low_scores (parameters : NodeParameters)
    (popOldPose : List ℚ → ℚ → List ℚ) {events : List Event}
    (hlow : ∀ scan, .sensorPoints scan ∈ events → roundSixDecimals
      scan.ndtResult.nearestVoxelTransformationLikelihood <
        parameters.convergedParamNearestVoxelTransformationLikelihood)
    {status : DiagnosticStatus}
    (h : timerDiagnostic parameters (run parameters popOldPose .initial events).statePtr =
      some status) :
    status.level ≠ .error :=
  timerDiagnostic_ne_error_of_lowScoreReported
    (run_invariant parameters popOldPose
      (P := fun s => LowScoreReported
        parameters.convergedParamNearestVoxelTransformationLikelihood s.statePtr)
      (.inl (by simp [NodeState.initial]))
      fun _ e he hs => step_lowScoreReported (fun scan hscan => hlow scan (hscan ▸ he)) hs) h

/-- Five scans in a row that score `1` against a threshold of `2`: five skipped scans, and no
ERROR. -/
theorem run_timerDiagnostic_ne_error_of_low_scores_five_skips :
    let parameters : NodeParameters :=
      { convergedParamType := .nearestVoxelTransformationLikelihood,
        convergedParamTransformProbability := 3,
        convergedParamNearestVoxelTransformationLikelihood := 2, lidarTopicTimeoutSec := 1,
        criticalUpperBoundExeTimeMs := 100, maxIterations := 30 }
    let scan : SensorScan :=
      { dataEmpty := false, sensorRosTime := 1, lidarTopicDelayTimeSec := 0,
        interpolationSuccess := true, hasMap := true, exeTime := 10,
        ndtResult :=
          { transformationArray := [], iterationNum := 5, transformProbability := 3,
            nearestVoxelTransformationLikelihood := 1 } }
    let events : List Event := [.triggerNode true, .initialPose 0, .initialPose 1,
      .sensorPoints scan, .sensorPoints scan, .sensorPoints scan, .sensorPoints scan,
      .sensorPoints scan]
    (run parameters (fun stamps _ => stamps) .initial events).skippingPublishNum = 5 ∧
      (∀ scan', .sensorPoints scan' ∈ events → roundSixDecimals
        scan'.ndtResult.nearestVoxelTransformationLikelihood <
          parameters.convergedParamNearestVoxelTransformationLikelihood) ∧
      ∃ status, timerDiagnostic parameters
          (run parameters (fun stamps _ => stamps) .initial events).statePtr = some status ∧
        status.level ≠ .error := by
  intro parameters scan events
  have hcount : (run parameters (fun stamps _ => stamps) .initial events).skippingPublishNum = 5 :=
    by decide
  have hlow : ∀ scan', .sensorPoints scan' ∈ events → roundSixDecimals
      scan'.ndtResult.nearestVoxelTransformationLikelihood <
        parameters.convergedParamNearestVoxelTransformationLikelihood := by
    intro scan' hscan
    simp only [events, List.mem_cons, Event.sensorPoints.injEq, reduceCtorEq, false_or,
      List.not_mem_nil, or_false, or_self] at hscan
    subst hscan
    norm_num [scan, parameters, roundSixDecimals, roundHalfEven]
  obtain ⟨status, hstatus⟩ := Option.isSome_iff_exists.mp
    ((timerDiagnostic_isSome_iff (run_consistent parameters _ events)).mpr
      (.inr (by rw [hcount]; norm_num)))
  exact ⟨hcount, hlow, status, hstatus,
    run_timerDiagnostic_ne_error_of_low_scores parameters _ hlow hstatus⟩

end NdtScanMatcher
end AdaptiveCruiseControl
