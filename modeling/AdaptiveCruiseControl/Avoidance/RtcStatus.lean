import AdaptiveCruiseControl.Avoidance.Types
import Mathlib.Data.List.Nodup
import Mathlib.Tactic.NormNum

/-!
# The cooperation requests of the avoidance module

The avoidance module asks for the approval of each avoidance through a request to cooperate
(RTC): one `RTCInterface` for shifts to the left and one for shifts to the right, each a registry
of statuses keyed by a uuid.  `updateCandidateRTCStatus` files the candidate path under the uuid
of its side and makes it the candidate, `removeCandidateRTCStatus` withdraws the candidate,
`removePreviousRTCStatusLeft` and `removePreviousRTCStatusRight` withdraw a side's own request,
and `updateRegisteredRTCStatus` refreshes the request of every approved shift line and reports
the shifts the ego has not passed to the steering factor interface.

`RTCInterface` is not under src/.  Its operations are the fields of `RtcInterface`, and the
results hold for every implementation that keeps one status per uuid
(`RtcInterface.Registry`); `listRtc` is one.  Under that contract a candidate filed and then
withdrawn leaves every other status as it was, with one exception: `removeCandidateRTCStatus`
looks on the left first, so a right candidate whose uuid is also registered on the left is
withdrawn there instead.  No run of the module's calls reaches that exception when the two
sides' uuids differ and approved shift lines are filed under their own side: neither interface
ever holds the other side's uuid (`SidesApart`).  The steering factor interface is not under
src/ either; the model records its calls.

`getOriginalShiftLineUniqueId` hands out ids from a post-incremented `uint64_t`: successive ids
are distinct for exactly `2 ^ 64` calls.
-/

namespace AdaptiveCruiseControl
namespace Avoidance

/-- The keys `"left"` and `"right"` of `rtc_interface_ptr_map_` and `uuid_map_`. -/
inductive Side
  | left
  | right
  deriving DecidableEq, Repr

/-- What an `RTCInterface` keeps of one request: whether it is safe, the distances to the start
and to the finish of the path change, and the stamp of its last update. -/
structure CooperateStatus where
  safe : Bool
  startDistance : ℚ
  finishDistance : ℚ
  stamp : ℚ
  deriving DecidableEq, Repr

/-- The operations of `RTCInterface` the module calls, on an interface state `ρ`. -/
structure RtcInterface (ρ : Type) where
  /-- `isRegistered(uuid)` -/
  isRegistered : ρ → UUID → Bool
  /-- `updateCooperateStatus(uuid, safe, start_distance, finish_distance, stamp)` -/
  updateCooperateStatus : ρ → UUID → Bool → ℚ → ℚ → ℚ → ρ
  /-- `removeCooperateStatus(uuid)` -/
  removeCooperateStatus : ρ → UUID → ρ
  /-- the status registered under a uuid, which the interface publishes -/
  statusOf : ρ → UUID → Option CooperateStatus

/-- The contract of `RTCInterface`: a registry of one status per uuid, which an update writes and
a removal erases, touching no other uuid. -/
structure RtcInterface.Registry {ρ : Type} (rtc : RtcInterface ρ) : Prop where
  isRegistered_eq : ∀ r u, rtc.isRegistered r u = (rtc.statusOf r u).isSome
  statusOf_update : ∀ r u safe startDistance finishDistance stamp u',
    rtc.statusOf (rtc.updateCooperateStatus r u safe startDistance finishDistance stamp) u' =
      if u' = u then some ⟨safe, startDistance, finishDistance, stamp⟩ else rtc.statusOf r u'
  statusOf_remove : ∀ r u u',
    rtc.statusOf (rtc.removeCooperateStatus r u) u' = if u' = u then none else rtc.statusOf r u'

/-- A registry as a list of uuids with their statuses, the latest update first. -/
def listRtc : RtcInterface (List (UUID × CooperateStatus)) where
  isRegistered r u := (r.lookup u).isSome
  updateCooperateStatus r u safe startDistance finishDistance stamp :=
    (u, ⟨safe, startDistance, finishDistance, stamp⟩) :: r.filter fun entry => entry.1 != u
  removeCooperateStatus r u := r.filter fun entry => entry.1 != u
  statusOf r u := r.lookup u

theorem lookup_cons_eq (k u : UUID) (b : CooperateStatus) (r : List (UUID × CooperateStatus)) :
    ((k, b) :: r).lookup u = if u = k then some b else r.lookup u := by
  by_cases h : u = k
  · simp [h]
  · simp [List.lookup_cons, beq_eq_false_iff_ne.mpr h, h]

theorem lookup_filter_fst_ne (r : List (UUID × CooperateStatus)) (u u' : UUID) :
    (r.filter fun entry => entry.1 != u).lookup u' = if u' = u then none else r.lookup u' := by
  induction r with
  | nil => simp
  | cons entry r ih =>
    obtain ⟨k, b⟩ := entry
    by_cases hk : k = u
    · subst hk
      simp only [List.filter_cons, bne_self_eq_false, Bool.false_eq_true, if_false, ih,
        lookup_cons_eq]
      split_ifs <;> rfl
    · simp only [List.filter_cons, bne_iff_ne, ne_eq, hk, not_false_eq_true, decide_True,
        if_true, lookup_cons_eq, ih]
      split_ifs with hk' hu <;> first | rfl | exact absurd (hk'.symm.trans hu) hk

theorem listRtc_registry : listRtc.Registry where
  isRegistered_eq _ _ := rfl
  statusOf_update r u _ _ _ _ u' := by
    simp only [listRtc, lookup_cons_eq, lookup_filter_fst_ne]
    split_ifs <;> rfl
  statusOf_remove r u u' := lookup_filter_fst_ne r u u'

/-! ## The module's requests -/

/-- The members of `AvoidanceModule` the requests touch. -/
structure RtcState (ρ : Type) where
  /-- `rtc_interface_ptr_map_` -/
  rtcInterface : Side → ρ
  /-- `candidate_uuid_` -/
  candidateUuid : UUID

/-- The state with the interface of one side changed by `f`. -/
def RtcState.updateSide {ρ : Type} (s : RtcState ρ) (side : Side) (f : ρ → ρ) : RtcState ρ :=
  { s with rtcInterface := Function.update s.rtcInterface side (f (s.rtcInterface side)) }

@[simp] theorem RtcState.updateSide_rtcInterface {ρ : Type} (s : RtcState ρ) (side : Side)
    (f : ρ → ρ) (side' : Side) :
    (s.updateSide side f).rtcInterface side' =
      if side' = side then f (s.rtcInterface side) else s.rtcInterface side' := by
  simp only [updateSide, Function.update_apply]

@[simp] theorem RtcState.updateSide_candidateUuid {ρ : Type} (s : RtcState ρ) (side : Side)
    (f : ρ → ρ) : (s.updateSide side f).candidateUuid = s.candidateUuid := rfl

/-- What `updateCandidateRTCStatus` reads of a `CandidateOutput`. -/
structure CandidateOutput where
  lateralShift : ℚ
  startDistanceToPathChange : ℚ
  finishDistanceToPathChange : ℚ
  deriving DecidableEq, Repr

section Requests

variable {ρ : Type} (rtc : RtcInterface ρ) (uuidMap : Side → UUID)

/-- A branch of `updateCandidateRTCStatus`: the request of `side` is updated with the
candidate's distances and becomes the candidate. -/
def updateCandidateOn (isExecutionReady : Bool) (now : ℚ) (candidate : CandidateOutput)
    (side : Side) (s : RtcState ρ) : RtcState ρ :=
  { s.updateSide side fun r => rtc.updateCooperateStatus r (uuidMap side) isExecutionReady
      candidate.startDistanceToPathChange candidate.finishDistanceToPathChange now with
    candidateUuid := uuidMap side }

/-- `updateCandidateRTCStatus`, with `isExecutionReady()` and `clock_->now()` as arguments.  A
zero shift only logs its direction as unknown. -/
def updateCandidateRTCStatus (isExecutionReady : Bool) (now : ℚ) (candidate : CandidateOutput)
    (s : RtcState ρ) : RtcState ρ :=
  if candidate.lateralShift > 0.0 then
    updateCandidateOn rtc uuidMap isExecutionReady now candidate .left s
  else if candidate.lateralShift < 0.0 then
    updateCandidateOn rtc uuidMap isExecutionReady now candidate .right s
  else s

/-- `removeCandidateRTCStatus`: the candidate is withdrawn from the left interface when it is
registered there, and otherwise from the right one when it is registered there. -/
def removeCandidateRTCStatus (s : RtcState ρ) : RtcState ρ :=
  if rtc.isRegistered (s.rtcInterface .left) s.candidateUuid then
    s.updateSide .left fun r => rtc.removeCooperateStatus r s.candidateUuid
  else if rtc.isRegistered (s.rtcInterface .right) s.candidateUuid then
    s.updateSide .right fun r => rtc.removeCooperateStatus r s.candidateUuid
  else s

/-- `removePreviousRTCStatusLeft` and `removePreviousRTCStatusRight` on one side: the side's own
request is withdrawn when it is registered. -/
def removePreviousRTCStatus (side : Side) (s : RtcState ρ) : RtcState ρ :=
  if rtc.isRegistered (s.rtcInterface side) (uuidMap side) then
    s.updateSide side fun r => rtc.removeCooperateStatus r (uuidMap side)
  else s

/-- `removePreviousRTCStatusLeft`. -/
def removePreviousRTCStatusLeft : RtcState ρ → RtcState ρ :=
  removePreviousRTCStatus rtc uuidMap .left

/-- `removePreviousRTCStatusRight`. -/
def removePreviousRTCStatusRight : RtcState ρ → RtcState ρ :=
  removePreviousRTCStatus rtc uuidMap .right

variable {rtc} {uuidMap}

/-- Withdrawing the candidate of `side` right after filing it: the side's own uuid loses its
status and nothing else changes, provided that for a right candidate the left interface, where
`removeCandidateRTCStatus` looks first, does not hold the right uuid. -/
theorem statusOf_removeCandidateRTCStatus_updateCandidateOn (hrtc : rtc.Registry)
    {isExecutionReady : Bool} {now : ℚ} {candidate : CandidateOutput} {s : RtcState ρ}
    {side : Side}
    (hleft : side = .right → rtc.isRegistered (s.rtcInterface .left) (uuidMap .right) = false)
    (side' : Side) (u : UUID) :
    rtc.statusOf ((removeCandidateRTCStatus rtc
        (updateCandidateOn rtc uuidMap isExecutionReady now candidate side s)).rtcInterface side')
        u =
      if side' = side ∧ u = uuidMap side then none else rtc.statusOf (s.rtcInterface side') u := by
  have hcandidate : (updateCandidateOn rtc uuidMap isExecutionReady now candidate side
      s).candidateUuid = uuidMap side := rfl
  have hfiled : rtc.isRegistered ((updateCandidateOn rtc uuidMap isExecutionReady now candidate
      side s).rtcInterface side) (uuidMap side) = true := by
    simp [updateCandidateOn, hrtc.isRegistered_eq, hrtc.statusOf_update]
  cases side with
  | left =>
    rw [removeCandidateRTCStatus, hcandidate, if_pos hfiled]
    cases side' <;> by_cases hu : u = uuidMap .left <;>
      simp [updateCandidateOn, hrtc.statusOf_remove, hrtc.statusOf_update, hu]
  | right =>
    -- the left interface, looked at first, does not hold the right uuid
    have hnot : rtc.isRegistered ((updateCandidateOn rtc uuidMap isExecutionReady now candidate
        .right s).rtcInterface .left) (uuidMap .right) = false := by
      simpa [updateCandidateOn] using hleft rfl
    rw [removeCandidateRTCStatus, hcandidate, hnot, if_neg Bool.false_ne_true, if_pos hfiled]
    cases side' <;> by_cases hu : u = uuidMap .right <;>
      simp [updateCandidateOn, hrtc.statusOf_remove, hrtc.statusOf_update, hu]

/-- A non-zero shift files the candidate on the side of its sign. -/
theorem updateCandidateRTCStatus_of_ne_zero {isExecutionReady : Bool} {now : ℚ}
    {candidate : CandidateOutput} {s : RtcState ρ} (hshift : candidate.lateralShift ≠ 0) :
    updateCandidateRTCStatus rtc uuidMap isExecutionReady now candidate s =
      updateCandidateOn rtc uuidMap isExecutionReady now candidate
        (if 0 < candidate.lateralShift then .left else .right) s := by
  unfold updateCandidateRTCStatus
  rcases lt_or_gt_of_ne hshift with hneg | hpos
  · rw [if_neg (by norm_num; linarith), if_pos (by norm_num; linarith), if_neg (by linarith)]
  · rw [if_pos (by norm_num; linarith), if_pos hpos]

@[simp] theorem removeCandidateRTCStatus_candidateUuid (s : RtcState ρ) :
    (removeCandidateRTCStatus rtc s).candidateUuid = s.candidateUuid := by
  unfold removeCandidateRTCStatus
  split_ifs <;> rfl

/-- A candidate filed for a non-zero shift and then withdrawn: it was the request of the shift's
side, and of all the statuses on either side only that request's is gone.  A right shift needs
the right uuid not to be registered on the left, where `removeCandidateRTCStatus` looks first. -/
theorem removeCandidateRTCStatus_withdraws_candidate (hrtc : rtc.Registry)
    {isExecutionReady : Bool} {now : ℚ} {candidate : CandidateOutput} {s : RtcState ρ}
    (hshift : candidate.lateralShift ≠ 0)
    (hleft : candidate.lateralShift < 0 →
      rtc.isRegistered (s.rtcInterface .left) (uuidMap .right) = false) :
    let side := if 0 < candidate.lateralShift then Side.left else Side.right
    let s' := removeCandidateRTCStatus rtc
      (updateCandidateRTCStatus rtc uuidMap isExecutionReady now candidate s)
    s'.candidateUuid = uuidMap side ∧
      ∀ side' u, rtc.statusOf (s'.rtcInterface side') u =
        if side' = side ∧ u = uuidMap side then none
        else rtc.statusOf (s.rtcInterface side') u := by
  intro side s'
  have hside : side = .right → rtc.isRegistered (s.rtcInterface .left) (uuidMap .right) =
      false := fun h => hleft (by
    simp only [side] at h
    split_ifs at h with hpos
    exact lt_of_le_of_ne (not_lt.mp hpos) hshift)
  simp only [s', updateCandidateRTCStatus_of_ne_zero hshift,
    removeCandidateRTCStatus_candidateUuid]
  exact ⟨rfl, statusOf_removeCandidateRTCStatus_updateCandidateOn hrtc hside⟩

/-- A right candidate filed on empty interfaces and withdrawn again. -/
theorem removeCandidateRTCStatus_withdraws_candidate_right :
    let uuidMap : Side → UUID := fun side => match side with
      | .left => 1
      | .right => 2
    let candidate : CandidateOutput := ⟨-1, 0, 5⟩
    let s : RtcState (List (UUID × CooperateStatus)) := ⟨fun _ => [], 0⟩
    listRtc.Registry ∧ candidate.lateralShift ≠ 0 ∧
    (candidate.lateralShift < 0 →
      listRtc.isRegistered (s.rtcInterface .left) (uuidMap .right) = false) ∧
    let side := if 0 < candidate.lateralShift then Side.left else Side.right
    let s' := removeCandidateRTCStatus listRtc
      (updateCandidateRTCStatus listRtc uuidMap true 0 candidate s)
    s'.candidateUuid = uuidMap side ∧
      ∀ side' u, listRtc.statusOf (s'.rtcInterface side') u =
        if side' = side ∧ u = uuidMap side then none
        else listRtc.statusOf (s.rtcInterface side') u := by
  intro uuidMap candidate s
  have hshift : candidate.lateralShift ≠ 0 := by norm_num [candidate]
  exact ⟨listRtc_registry, hshift, fun _ => rfl,
    removeCandidateRTCStatus_withdraws_candidate listRtc_registry hshift fun _ => rfl⟩

end Requests

/-! ## Approved shift lines -/

/-- What `updateRegisteredRTCStatus` reads of a `RegisteredShiftLine`. -/
structure RegisteredShiftLine where
  uuid : UUID
  startPose : Pose
  finishPose : Pose
  deriving DecidableEq, Repr

/-- A call of `steering_factor_interface_ptr_->updateSteeringFactor` with the behavior
`AVOIDANCE_PATH_CHANGE` and the status `TURNING`: the poses, the distances and the direction. -/
structure SteeringFactorCall where
  pose : Pose × Pose
  distance : ℚ × ℚ
  direction : Side
  deriving DecidableEq, Repr

section Registered

variable {ρ : Type} (rtc : RtcInterface ρ)

/-- The loop of `updateRegisteredRTCStatus` over the shift lines of one side, where
`arcLength p` is `calcSignedArcLength(path.points, ego_position, p)`: each request is refreshed
as safe, with the distances to the start and the finish of its shift, and a shift whose finish
the ego has not passed by a millimetre is reported to the steering factor interface. -/
def updateRegisteredSide (arcLength : Point → ℚ) (now : ℚ) (side : Side) :
    List RegisteredShiftLine → ρ → ρ × List SteeringFactorCall
  | [], r => (r, [])
  | shift :: shifts, r =>
    let startDistance := arcLength shift.startPose.position
    let finishDistance := arcLength shift.finishPose.position
    let rest := updateRegisteredSide arcLength now side shifts
      (rtc.updateCooperateStatus r shift.uuid true startDistance finishDistance now)
    (rest.1, if finishDistance > -1.0e-03 then
        ⟨(shift.startPose, shift.finishPose), (startDistance, finishDistance), side⟩ :: rest.2
      else rest.2)

/-- `updateRegisteredRTCStatus`, with `left_shift_array_` and `right_shift_array_` as
`shiftArray .left` and `shiftArray .right`: the left loop on the left interface, then the right
loop on the right one.  The steering factor calls are returned in the order they are made. -/
def updateRegisteredRTCStatus (arcLength : Point → ℚ) (now : ℚ)
    (shiftArray : Side → List RegisteredShiftLine) (s : RtcState ρ) :
    RtcState ρ × List SteeringFactorCall :=
  let update := fun side =>
    updateRegisteredSide rtc arcLength now side (shiftArray side) (s.rtcInterface side)
  ({ s with rtcInterface := fun side => (update side).1 }, (update .left).2 ++ (update .right).2)

variable {rtc}

/-- After the loop of one side every uuid holds the status of its last shift line, and a uuid
with no shift line keeps its status. -/
theorem statusOf_updateRegisteredSide (hrtc : rtc.Registry) (arcLength : Point → ℚ) (now : ℚ)
    (side : Side) (shifts : List RegisteredShiftLine) (r : ρ) (u : UUID) :
    rtc.statusOf (updateRegisteredSide rtc arcLength now side shifts r).1 u =
      ((shifts.reverse.find? fun shift => shift.uuid == u).map fun shift =>
        (⟨true, arcLength shift.startPose.position, arcLength shift.finishPose.position, now⟩ :
          CooperateStatus)).or (rtc.statusOf r u) := by
  induction shifts generalizing r with
  | nil => rfl
  | cons shift shifts ih =>
    simp only [updateRegisteredSide, ih, List.reverse_cons, List.find?_append, Option.map_or']
    cases shifts.reverse.find? fun shift => shift.uuid == u with
    | some last => rfl
    | none =>
      by_cases h : shift.uuid = u
      · subst h
        simp [hrtc.statusOf_update]
      · simp [hrtc.statusOf_update, h, Ne.symm h]

end Registered

/-! ## Runs of requests -/

/-- The other key of `rtc_interface_ptr_map_`. -/
def Side.other : Side → Side
  | .left => .right
  | .right => .left

/-- The calls of the avoidance module that touch its requests. -/
inductive RtcEvent
  | updateCandidate (isExecutionReady : Bool) (now : ℚ) (candidate : CandidateOutput)
  | removeCandidate
  | removePrevious (side : Side)
  | updateRegistered (arcLength : Point → ℚ) (now : ℚ)
      (shiftArray : Side → List RegisteredShiftLine)

/-- How approved shift lines are filed, which is not under src/: a shift line of one side never
carries the other side's uuid. -/
def RtcEvent.KeepsSides (uuidMap : Side → UUID) : RtcEvent → Prop
  | .updateRegistered _ _ shiftArray =>
    ∀ side, ∀ shift ∈ shiftArray side, shift.uuid ≠ uuidMap side.other
  | _ => True

section Runs

variable {ρ : Type} (rtc : RtcInterface ρ) (uuidMap : Side → UUID)

/-- One call of the module on its requests. -/
def rtcStep (s : RtcState ρ) : RtcEvent → RtcState ρ
  | .updateCandidate isExecutionReady now candidate =>
    updateCandidateRTCStatus rtc uuidMap isExecutionReady now candidate s
  | .removeCandidate => removeCandidateRTCStatus rtc s
  | .removePrevious .left => removePreviousRTCStatusLeft rtc uuidMap s
  | .removePrevious .right => removePreviousRTCStatusRight rtc uuidMap s
  | .updateRegistered arcLength now shiftArray =>
    (updateRegisteredRTCStatus rtc arcLength now shiftArray s).1

/-- The calls of a run, in order. -/
def rtcRun (s : RtcState ρ) (events : List RtcEvent) : RtcState ρ :=
  events.foldl (rtcStep rtc uuidMap) s

/-- No interface holds a status under the other side's uuid. -/
def SidesApart (s : RtcState ρ) : Prop :=
  ∀ side, rtc.statusOf (s.rtcInterface side) (uuidMap side.other) = none

variable {rtc} {uuidMap}

theorem SidesApart.updateSide_remove (hrtc : rtc.Registry) {s : RtcState ρ}
    (hs : SidesApart rtc uuidMap s) (side : Side) (u : UUID) :
    SidesApart rtc uuidMap (s.updateSide side fun r => rtc.removeCooperateStatus r u) := by
  intro side'
  rw [RtcState.updateSide_rtcInterface]
  split_ifs with h
  · subst h
    rw [hrtc.statusOf_remove, hs side']
    split_ifs <;> rfl
  · exact hs side'

theorem SidesApart.updateCandidateOn (hrtc : rtc.Registry)
    (huuid : uuidMap .left ≠ uuidMap .right) {s : RtcState ρ} (hs : SidesApart rtc uuidMap s)
    (isExecutionReady : Bool) (now : ℚ) (candidate : CandidateOutput) (side : Side) :
    SidesApart rtc uuidMap
      (updateCandidateOn rtc uuidMap isExecutionReady now candidate side s) := by
  intro side'
  simp only [Avoidance.updateCandidateOn, RtcState.updateSide_rtcInterface]
  split_ifs with h
  · subst h
    rw [hrtc.statusOf_update, if_neg (by cases side' <;> simp [Side.other, huuid, Ne.symm huuid]),
      hs side']
  · exact hs side'

/-- Every call keeps the sides apart when the uuids of the sides differ. -/
theorem SidesApart.rtcStep (hrtc : rtc.Registry) (huuid : uuidMap .left ≠ uuidMap .right)
    {s : RtcState ρ} (hs : SidesApart rtc uuidMap s) {e : RtcEvent}
    (he : e.KeepsSides uuidMap) : SidesApart rtc uuidMap (rtcStep rtc uuidMap s e) := by
  cases e with
  | updateCandidate isExecutionReady now candidate =>
    simp only [Avoidance.rtcStep, updateCandidateRTCStatus]
    split_ifs
    · exact hs.updateCandidateOn hrtc huuid _ _ _ _
    · exact hs.updateCandidateOn hrtc huuid _ _ _ _
    · exact hs
  | removeCandidate =>
    simp only [Avoidance.rtcStep, removeCandidateRTCStatus]
    split_ifs
    · exact hs.updateSide_remove hrtc _ _
    · exact hs.updateSide_remove hrtc _ _
    · exact hs
  | removePrevious side =>
    cases side <;>
      simp only [Avoidance.rtcStep, removePreviousRTCStatusLeft, removePreviousRTCStatusRight,
        removePreviousRTCStatus] <;>
      split_ifs
    all_goals first | exact hs | exact hs.updateSide_remove hrtc _ _
  | updateRegistered arcLength now shiftArray =>
    -- no approved shift line carries the other side's uuid
    intro side
    simp only [Avoidance.rtcStep, updateRegisteredRTCStatus]
    rw [statusOf_updateRegisteredSide hrtc, hs side, List.find?_eq_none.mpr fun shift hmem =>
      by simpa using he side shift (List.mem_reverse.mp hmem)]
    rfl

theorem SidesApart.rtcRun (hrtc : rtc.Registry) (huuid : uuidMap .left ≠ uuidMap .right)
    {s : RtcState ρ} (hs : SidesApart rtc uuidMap s) {events : List RtcEvent}
    (hevents : ∀ e ∈ events, e.KeepsSides uuidMap) :
    SidesApart rtc uuidMap (rtcRun rtc uuidMap s events) := by
  induction events generalizing s with
  | nil => exact hs
  | cons e events ih =>
    exact ih (hs.rtcStep hrtc huuid (hevents e (.head _))) fun e' he' =>
      hevents e' (.tail _ he')

/-- After any run of the module's calls from interfaces that hold no status under the other
side's uuid, neither interface holds the other side's uuid, so filing the candidate of a
non-zero shift and withdrawing it removes exactly that request: the left interface, where
`removeCandidateRTCStatus` looks first, never holds the right uuid.  The uuids of the two sides
differ, and approved shift lines are filed under their own side. -/
theorem rtcRun_withdraws_candidate (hrtc : rtc.Registry)
    (huuid : uuidMap .left ≠ uuidMap .right) {s : RtcState ρ} (hs : SidesApart rtc uuidMap s)
    {events : List RtcEvent} (hevents : ∀ e ∈ events, e.KeepsSides uuidMap)
    {isExecutionReady : Bool} {now : ℚ} {candidate : CandidateOutput}
    (hshift : candidate.lateralShift ≠ 0) :
    let s₀ := rtcRun rtc uuidMap s events
    let side := if 0 < candidate.lateralShift then Side.left else Side.right
    let s' := removeCandidateRTCStatus rtc
      (updateCandidateRTCStatus rtc uuidMap isExecutionReady now candidate s₀)
    SidesApart rtc uuidMap s₀ ∧ s'.candidateUuid = uuidMap side ∧
      ∀ side' u, rtc.statusOf (s'.rtcInterface side') u =
        if side' = side ∧ u = uuidMap side then none
        else rtc.statusOf (s₀.rtcInterface side') u := by
  intro s₀ side s'
  have hapart : SidesApart rtc uuidMap s₀ := hs.rtcRun hrtc huuid hevents
  have hleft : rtc.isRegistered (s₀.rtcInterface .left) (uuidMap .right) = false := by
    rw [hrtc.isRegistered_eq, show rtc.statusOf (s₀.rtcInterface .left) (uuidMap .right) = none
      from hapart .left]
    rfl
  simp only [s', updateCandidateRTCStatus_of_ne_zero hshift,
    removeCandidateRTCStatus_candidateUuid]
  exact ⟨hapart, rfl, statusOf_removeCandidateRTCStatus_updateCandidateOn hrtc fun _ => hleft⟩

/-- A left candidate filed, one approved left shift line refreshed and the left request
withdrawn; then a right candidate filed and withdrawn. -/
theorem rtcRun_withdraws_candidate_after_three_calls :
    let uuidMap : Side → UUID := fun side => match side with
      | .left => 1
      | .right => 2
    let s : RtcState (List (UUID × CooperateStatus)) := ⟨fun _ => [], 0⟩
    let events : List RtcEvent :=
      [.updateCandidate true 0 ⟨1, 0, 5⟩,
        .updateRegistered Point.x 0 (fun side => match side with
          | .left => [⟨1, default, default⟩]
          | .right => []),
        .removePrevious .left]
    let candidate : CandidateOutput := ⟨-1, 0, 5⟩
    listRtc.Registry ∧ uuidMap .left ≠ uuidMap .right ∧ SidesApart listRtc uuidMap s ∧
    (∀ e ∈ events, e.KeepsSides uuidMap) ∧ candidate.lateralShift ≠ 0 ∧
    let s₀ := rtcRun listRtc uuidMap s events
    let side := if 0 < candidate.lateralShift then Side.left else Side.right
    let s' := removeCandidateRTCStatus listRtc
      (updateCandidateRTCStatus listRtc uuidMap true 0 candidate s₀)
    SidesApart listRtc uuidMap s₀ ∧ s'.candidateUuid = uuidMap side ∧
      ∀ side' u, listRtc.statusOf (s'.rtcInterface side') u =
        if side' = side ∧ u = uuidMap side then none
        else listRtc.statusOf (s₀.rtcInterface side') u := by
  intro uuidMap s events candidate
  have huuid : uuidMap .left ≠ uuidMap .right := by decide
  have hs : SidesApart listRtc uuidMap s := fun _ => rfl
  have hevents : ∀ e ∈ events, e.KeepsSides uuidMap := by
    intro e he
    simp only [events, List.mem_cons, List.mem_singleton, List.not_mem_nil, or_false] at he
    rcases he with rfl | rfl | rfl
    · trivial
    · intro side
      cases side <;> simp [Side.other, uuidMap]
    · trivial
  have hshift : candidate.lateralShift ≠ 0 := by norm_num [candidate]
  exact ⟨listRtc_registry, huuid, hs, hevents, hshift,
    rtcRun_withdraws_candidate listRtc_registry huuid hs hevents hshift⟩

end Runs

/-! ## Unique ids -/

/-- `getOriginalShiftLineUniqueId`: the id `original_unique_id++` returns, and the counter after
the call, which wraps at `2 ^ 64`. -/
def getOriginalShiftLineUniqueId (originalUniqueId : UInt64) : UInt64 × UInt64 :=
  (originalUniqueId, originalUniqueId + 1)

/-- The ids of `k` successive calls from a counter at `originalUniqueId`. -/
def uniqueIds : Nat → UInt64 → List UInt64
  | 0, _ => []
  | k + 1, originalUniqueId =>
    (getOriginalShiftLineUniqueId originalUniqueId).1 ::
      uniqueIds k (getOriginalShiftLineUniqueId originalUniqueId).2

theorem toNat_add_one (c : UInt64) : (c + 1).toNat = (c.toNat + 1) % 2 ^ 64 := by
  rw [UInt64.add_def]
  show (c.toBitVec + 1#64).toNat = _
  rw [BitVec.toNat_add]
  rfl

theorem map_toNat_uniqueIds (k : Nat) (c : UInt64) :
    (uniqueIds k c).map UInt64.toNat = (List.range k).map fun i => (c.toNat + i) % 2 ^ 64 := by
  induction k generalizing c with
  | zero => rfl
  | succ k ih =>
    have hc : c.toNat < 2 ^ 64 := c.toNat_lt_size
    simp only [uniqueIds, getOriginalShiftLineUniqueId, List.map_cons, ih, toNat_add_one,
      List.range_succ_eq_map, List.map_map]
    congr 1
    · omega
    · exact List.map_congr_left fun i _ => by simp only [Function.comp_apply]; omega

/-- Successive calls of `getOriginalShiftLineUniqueId` return distinct ids for exactly `2 ^ 64`
calls: the next call wraps around to the first id. -/
theorem nodup_uniqueIds_iff (k : Nat) (originalUniqueId : UInt64) :
    (uniqueIds k originalUniqueId).Nodup ↔ k ≤ 2 ^ 64 := by
  rw [← List.nodup_map_iff fun _ _ => UInt64.toNat.inj, map_toNat_uniqueIds]
  constructor
  · intro h
    by_contra hk
    -- the first call and the call `2 ^ 64` later return the same id
    have hwrap := List.inj_on_of_nodup_map h (List.mem_range.mpr (show 0 < k by omega))
      (List.mem_range.mpr (show 2 ^ 64 < k by omega)) (by omega)
    omega
  · intro hk
    exact (List.nodup_range k).map_on fun i hi j hj hij => by
      rw [List.mem_range] at hi hj
      omega

end Avoidance
end AdaptiveCruiseControl
