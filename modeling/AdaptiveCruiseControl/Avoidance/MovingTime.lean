import AdaptiveCruiseControl.Avoidance.Types

/-!
# Moving and stopping time

`fillObjectMovingTime` keeps a registry of stopped objects.  An object seen stopped for the
first time is entered with `last_move` set to the current time, and later stopped observations
report `stop_time = now - last_move`.  A moving observation of a registered object reports
`move_time = now - last_stop`, and removes the entry only once that time exceeds
`moving_time_threshold`.

So `last_move` is written only when the entry is created: a move shorter than the threshold
leaves the entry as it was, and the stopping time keeps counting from the first stop after the
object was last counted as moving.  Both the bound and the count across a short move are
`movingTimeRun_stopTime_le` below.
-/

namespace AdaptiveCruiseControl
namespace Avoidance

/-- `std::hypot(x, y) > threshold`, decided on squares. -/
def hypotGt (x y threshold : ℚ) : Bool := threshold < 0 || threshold ^ 2 < x ^ 2 + y ^ 2

/-- `*it = f(*it)` for the first element `it` that `std::find_if` finds. -/
def updateFirst {α : Type} (p : α → Bool) (f : α → α) : List α → List α
  | [] => []
  | a :: as => if p a then f a :: as else a :: updateFirst p f as

/-- `is_faster_than_threshold` of `fillObjectMovingTime`. -/
def isFasterThanThreshold (objectData : ObjectData) (parameters : AvoidanceParameters) : Bool :=
  hypotGt objectData.object.twistLinearX objectData.object.twistLinearY
    (parameters.objectParameterAt objectData.object.label).movingSpeedThreshold

/-- `fillObjectMovingTime`: the object with its timers filled, and the stopped-object registry
after the call.  `now` is the clock reading of the call. -/
def fillObjectMovingTime (objectData : ObjectData) (stoppedObjects : List ObjectData)
    (parameters : AvoidanceParameters) (now : ℚ) : ObjectData × List ObjectData :=
  let objectParameter := parameters.objectParameterAt objectData.object.label
  if !isFasterThanThreshold objectData parameters then
    let objectData := { objectData with lastStop := now, moveTime := 0 }
    match findSameId stoppedObjects objectData with
    | none =>
      let objectData := { objectData with stopTime := 0, lastMove := now }
      (objectData, stoppedObjects ++ [objectData])
    | some sameIdObj =>
      ({ objectData with stopTime := now - sameIdObj.lastMove },
        updateFirst (sameIdAs objectData)
          (fun s => { s with stopTime := now - s.lastMove, lastStop := now, moveTime := 0 })
          stoppedObjects)
  else
    match findSameId stoppedObjects objectData with
    | none => ({ objectData with moveTime := ⊤, stopTime := 0, lastMove := now }, stoppedObjects)
    | some sameIdObj =>
      let objectData :=
        { objectData with
          lastStop := sameIdObj.lastStop, moveTime := ((now - sameIdObj.lastStop : ℚ) : WithTop ℚ),
          stopTime := 0 }
      (objectData,
        if objectData.moveTime > (objectParameter.movingTimeThreshold : WithTop ℚ) then
          stoppedObjects.eraseP (sameIdAs objectData)
        else stoppedObjects)

/-! ## Registry lemmas -/

section Registry

variable {α : Type} {p : α → Bool} {f : α → α}

theorem mem_updateFirst {a : α} {l : List α} (h : a ∈ updateFirst p f l) :
    a ∈ l ∨ ∃ b ∈ l, a = f b := by
  induction l with
  | nil => simp [updateFirst] at h
  | cons b l ih =>
    unfold updateFirst at h
    split at h <;> simp only [List.mem_cons] at h
    · rcases h with rfl | h
      · exact .inr ⟨b, List.mem_cons_self _ _, rfl⟩
      · exact .inl (List.mem_cons_of_mem _ h)
    · rcases h with rfl | h
      · exact .inl (List.mem_cons_self _ _)
      · rcases ih h with h | ⟨c, hc, rfl⟩
        · exact .inl (List.mem_cons_of_mem _ h)
        · exact .inr ⟨c, List.mem_cons_of_mem _ hc, rfl⟩

theorem countP_updateFirst (hf : ∀ a, p (f a) = p a) (l : List α) :
    (updateFirst p f l).countP p = l.countP p := by
  induction l with
  | nil => rfl
  | cons b l ih =>
    unfold updateFirst
    split <;> simp_all [List.countP_cons]

/-- Erasing the first match leaves none when there was at most one. -/
theorem countP_eraseP_eq_zero {l : List α} (h : l.countP p ≤ 1) : (l.eraseP p).countP p = 0 := by
  induction l with
  | nil => rfl
  | cons b l ih =>
    by_cases hb : p b
    · simp only [List.eraseP_cons_of_pos hb]
      simp only [List.countP_cons, hb, ↓reduceIte] at h
      omega
    · simp only [List.eraseP_cons_of_neg hb, List.countP_cons, hb] at h ⊢
      simpa using ih (by simpa using h)

end Registry

theorem findSameId_eq_none_iff {stoppedObjects : List ObjectData} {objectData : ObjectData} :
    findSameId stoppedObjects objectData = none ↔
      stoppedObjects.countP (sameIdAs objectData) = 0 := by
  simp [findSameId, List.countP_eq_zero]

theorem mem_of_findSameId_eq_some {stoppedObjects : List ObjectData} {objectData s : ObjectData}
    (h : findSameId stoppedObjects objectData = some s) :
    s ∈ stoppedObjects ∧ s.objectId = objectData.objectId := by
  have hmem := List.mem_of_find?_eq_some h
  have hid := List.find?_some h
  simp only [sameIdAs, beq_iff_eq] at hid
  exact ⟨hmem, hid⟩

/-! ## The branches of one call -/

/-- The object was counted as moving: it was observed faster than `moving_speed_threshold`, and
the reported `move_time` exceeds `moving_time_threshold`, as `filterTargetObjects` tests it. -/
def CountedAsMoving (parameters : AvoidanceParameters) (objectData : ObjectData) : Prop :=
  isFasterThanThreshold objectData parameters = true ∧
    objectData.moveTime > ((parameters.objectParameterAt objectData.object.label).movingTimeThreshold
      : WithTop ℚ)

/-- Everything one call can do to the stopping time and to the registry entries of the object. -/
theorem fillObjectMovingTime_cases (objectData : ObjectData) (stoppedObjects : List ObjectData)
    (parameters : AvoidanceParameters) (now : ℚ) :
    let r := fillObjectMovingTime objectData stoppedObjects parameters now
    -- stopped, first seen: entered with `last_move = now`
    (isFasterThanThreshold objectData parameters = false ∧ ¬CountedAsMoving parameters r.1 ∧
        findSameId stoppedObjects objectData = none ∧
        r.1.stopTime = 0 ∧ r.1.lastMove = now ∧ r.2 = stoppedObjects ++ [r.1]) ∨
    -- stopped, registered: the entry keeps its `last_move`
    (isFasterThanThreshold objectData parameters = false ∧ ¬CountedAsMoving parameters r.1 ∧
        ∃ s, findSameId stoppedObjects objectData = some s ∧
        r.1.stopTime = now - s.lastMove ∧
        r.2 = updateFirst (sameIdAs objectData)
          (fun s => { s with stopTime := now - s.lastMove, lastStop := now, moveTime := 0 })
          stoppedObjects) ∨
    -- moving: no stopping time; a counted move leaves no entry of the object
    (isFasterThanThreshold objectData parameters = true ∧ r.1.stopTime = 0 ∧
      ((findSameId stoppedObjects objectData = none ∧ r.2 = stoppedObjects) ∨
        (CountedAsMoving parameters r.1 ∧ r.2 = stoppedObjects.eraseP (sameIdAs objectData)) ∨
        (¬CountedAsMoving parameters r.1 ∧ r.2 = stoppedObjects))) := by
  intro r
  unfold r fillObjectMovingTime
  by_cases hfast : isFasterThanThreshold objectData parameters = true
  · simp only [hfast, Bool.not_true, Bool.false_eq_true, ↓reduceIte]
    refine .inr (.inr ⟨trivial, ?_, ?_⟩)
    · split <;> rfl
    · split
      · exact .inl ⟨‹_›, rfl⟩
      · split
        · exact .inr (.inl ⟨⟨hfast, ‹_›⟩, rfl⟩)
        · exact .inr (.inr ⟨fun h => ‹¬_› h.2, rfl⟩)
  · have hnot : ∀ o : ObjectData, isFasterThanThreshold o parameters =
        isFasterThanThreshold objectData parameters → ¬CountedAsMoving parameters o :=
      fun o ho h => hfast (ho ▸ h.1)
    simp only [Bool.not_eq_true] at hfast
    simp only [hfast, Bool.not_false, ↓reduceIte]
    rw [show findSameId stoppedObjects { objectData with lastStop := now, moveTime := 0 } =
      findSameId stoppedObjects objectData from rfl]
    split
    · exact .inl ⟨trivial, hnot _ rfl, ‹_›, rfl, rfl, rfl⟩
    · exact .inr (.inl ⟨trivial, hnot _ rfl, _, ‹_›, rfl, rfl⟩)

@[simp] theorem fillObjectMovingTime_object (objectData : ObjectData)
    (stoppedObjects : List ObjectData) (parameters : AvoidanceParameters) (now : ℚ) :
    (fillObjectMovingTime objectData stoppedObjects parameters now).1.object =
      objectData.object := by
  unfold fillObjectMovingTime
  dsimp only
  split <;> split <;> rfl

/-! ## Invariants of the registry -/

section Invariants

variable {parameters : AvoidanceParameters} {objectData : ObjectData}
  {stoppedObjects : List ObjectData} {now : ℚ}

/-- Every registry entry of the object was entered at or after time `b`. -/
def EnteredSince (id : UUID) (b : ℚ) (stoppedObjects : List ObjectData) : Prop :=
  ∀ s ∈ stoppedObjects, s.objectId = id → b ≤ s.lastMove

/-- A call keeps at most one registry entry of the object. -/
theorem fillObjectMovingTime_countP_le_one (h : stoppedObjects.countP (sameIdAs objectData) ≤ 1) :
    (fillObjectMovingTime objectData stoppedObjects parameters now).2.countP
      (sameIdAs objectData) ≤ 1 := by
  rcases fillObjectMovingTime_cases objectData stoppedObjects parameters now with
    ⟨-, -, hnone, -, -, hreg⟩ | ⟨-, -, s, -, -, hreg⟩ |
      ⟨-, -, ⟨-, hreg⟩ | ⟨-, hreg⟩ | ⟨-, hreg⟩⟩ <;>
    rw [hreg]
  · rw [findSameId_eq_none_iff] at hnone
    rw [List.countP_append, hnone, Nat.zero_add]
    exact List.countP_le_length _
  · rw [countP_updateFirst]
    · exact h
    · intro a
      rfl
  · exact h
  · rw [countP_eraseP_eq_zero h]
    omega
  · exact h

/-- A call reports a stopping time of at most `now - b`, and keeps every entry of the object
entered at or after `b`. -/
theorem fillObjectMovingTime_stopTime_le {b : ℚ} (hb : b ≤ now)
    (hS : EnteredSince objectData.objectId b stoppedObjects) :
    (fillObjectMovingTime objectData stoppedObjects parameters now).1.stopTime ≤ now - b ∧
      EnteredSince objectData.objectId b
        (fillObjectMovingTime objectData stoppedObjects parameters now).2 := by
  have hzero : (0 : ℚ) ≤ now - b := sub_nonneg.mpr hb
  rcases fillObjectMovingTime_cases objectData stoppedObjects parameters now with
    ⟨-, -, -, hstop, hmove, hreg⟩ | ⟨-, -, s, hs, hstop, hreg⟩ |
      ⟨-, hstop, ⟨-, hreg⟩ | ⟨-, hreg⟩ | ⟨-, hreg⟩⟩ <;>
    rw [hstop, hreg]
  · refine ⟨hzero, fun s hs hid => ?_⟩
    rcases List.mem_append.mp hs with hs | hs
    · exact hS s hs hid
    · rw [List.mem_singleton.mp hs, hmove]
      exact hb
  · obtain ⟨hmem, hid⟩ := mem_of_findSameId_eq_some hs
    refine ⟨sub_le_sub_left (hS s hmem hid) now, fun s' hs' hid' => ?_⟩
    rcases mem_updateFirst hs' with hs' | ⟨a, ha, rfl⟩
    · exact hS s' hs' hid'
    · exact hS a ha hid'
  · exact ⟨hzero, hS⟩
  · exact ⟨hzero, fun s hs => hS s (List.mem_of_mem_eraseP hs)⟩
  · exact ⟨hzero, hS⟩

/-- A counted move leaves no registry entry of the object. -/
theorem fillObjectMovingTime_countP_eq_zero
    (h : stoppedObjects.countP (sameIdAs objectData) ≤ 1)
    (hc : CountedAsMoving parameters
      (fillObjectMovingTime objectData stoppedObjects parameters now).1) :
    (fillObjectMovingTime objectData stoppedObjects parameters now).2.countP
      (sameIdAs objectData) = 0 := by
  rcases fillObjectMovingTime_cases objectData stoppedObjects parameters now with
    ⟨-, hn, -⟩ | ⟨-, hn, -⟩ | ⟨-, -, ⟨hnone, hreg⟩ | ⟨-, hreg⟩ | ⟨hn, -⟩⟩
  · exact absurd hc hn
  · exact absurd hc hn
  · rwa [hreg, ← findSameId_eq_none_iff]
  · rw [hreg]
    exact countP_eraseP_eq_zero h
  · exact absurd hc hn

end Invariants

/-! ## A short move keeps the entry -/

section ShortMove

variable {parameters : AvoidanceParameters} {objectData : ObjectData}
  {stoppedObjects : List ObjectData} {now : ℚ}

theorem find?_updateFirst {α : Type} {p : α → Bool} {f : α → α} (hf : ∀ a, p (f a) = p a)
    (l : List α) : (updateFirst p f l).find? p = (l.find? p).map f := by
  induction l with
  | nil => rfl
  | cons a as ih =>
    by_cases ha : p a = true
    · simp [updateFirst, ha, hf]
    · simp [updateFirst, ha, ih]

theorem findSameId_congr {l : List ObjectData} {o o' : ObjectData}
    (h : o'.objectId = o.objectId) : findSameId l o' = findSameId l o := by
  unfold findSameId sameIdAs
  rw [h]

@[simp] theorem isFasterThanThreshold_fillObjectMovingTime :
    isFasterThanThreshold (fillObjectMovingTime objectData stoppedObjects parameters now).1
      parameters = isFasterThanThreshold objectData parameters := by
  simp only [isFasterThanThreshold, fillObjectMovingTime_object]

/-- A stopped observation leaves an entry of the object whose `last_move` lies the reported
stopping time before the call. -/
theorem findSameId_fillObjectMovingTime_of_stopped (stoppedObjects : List ObjectData) (now : ℚ)
    (hstop : isFasterThanThreshold objectData parameters = false) :
    let r := fillObjectMovingTime objectData stoppedObjects parameters now
    ∃ e, findSameId r.2 objectData = some e ∧ e.lastMove = now - r.1.stopTime := by
  intro r
  rcases fillObjectMovingTime_cases objectData stoppedObjects parameters now with
    ⟨-, -, hnone, hzero, hmove, hreg⟩ | ⟨-, -, s, hs, hstopTime, hreg⟩ | ⟨hfast, -⟩
  · -- first seen: the entry appended is the only one of the object
    refine ⟨r.1, ?_, by rw [hmove, hzero, sub_zero]⟩
    simp only [findSameId] at hnone ⊢
    simp [hreg, List.find?_append, hnone, sameIdAs, r, ObjectData.objectId]
  · -- registered: the entry is refreshed and keeps its `last_move`
    refine ⟨{ s with stopTime := now - s.lastMove, lastStop := now, moveTime := 0 }, ?_, ?_⟩
    · simp only [findSameId] at hs ⊢
      rw [hreg, find?_updateFirst, hs]
      · rfl
      · intro a
        rfl
    · rw [hstopTime, sub_sub_cancel]
  · exact absurd hfast (by simp [hstop])

/-- A move that does not exceed `moving_time_threshold` leaves the registry as it was. -/
theorem fillObjectMovingTime_registry_of_short_move
    (hfast : isFasterThanThreshold objectData parameters = true)
    (hshort : ¬CountedAsMoving parameters
      (fillObjectMovingTime objectData stoppedObjects parameters now).1) :
    (fillObjectMovingTime objectData stoppedObjects parameters now).2 = stoppedObjects := by
  rcases fillObjectMovingTime_cases objectData stoppedObjects parameters now with
    ⟨hstop, -⟩ | ⟨hstop, -⟩ | ⟨-, -, ⟨-, hreg⟩ | ⟨hcounted, -⟩ | ⟨-, hreg⟩⟩
  · simp [hstop] at hfast
  · simp [hstop] at hfast
  · exact hreg
  · exact absurd hcounted hshort
  · exact hreg

/-- A stopped observation of a registered object counts its stopping time from the entry's
`last_move`. -/
theorem fillObjectMovingTime_stopTime_of_registered (now : ℚ)
    (hstop : isFasterThanThreshold objectData parameters = false) {e : ObjectData}
    (hfind : findSameId stoppedObjects objectData = some e) :
    (fillObjectMovingTime objectData stoppedObjects parameters now).1.stopTime =
      now - e.lastMove := by
  rcases fillObjectMovingTime_cases objectData stoppedObjects parameters now with
    ⟨-, -, hnone, -⟩ | ⟨-, -, s, hs, hstopTime, -⟩ | ⟨hfast, -⟩
  · simp [hfind] at hnone
  · rw [hstopTime, Option.some.inj (hs.symm.trans hfind)]
  · simp [hstop] at hfast

end ShortMove

/-! ## Runs of calls on one object -/

/-- Calls of `fillObjectMovingTime`, each an observation with the clock reading of the call.
The reported objects are paired with the clock readings. -/
def movingTimeRun (parameters : AvoidanceParameters) :
    List ObjectData → List (ObjectData × ℚ) → List (ℚ × ObjectData)
  | _, [] => []
  | stoppedObjects, (objectData, now) :: calls =>
    let r := fillObjectMovingTime objectData stoppedObjects parameters now
    (now, r.1) :: movingTimeRun parameters r.2 calls

theorem sameIdAs_eq_of_objectId {objectData : ObjectData} {id : UUID}
    (h : objectData.objectId = id) : sameIdAs objectData = fun s => s.objectId == id := by
  subst h
  rfl

/-- Once every entry of the object was entered at or after `b`, every later report of the
object has a stopping time of at most its clock reading minus `b`. -/
theorem movingTimeRun_stopTime_le_of_enteredSince {parameters : AvoidanceParameters} {id : UUID}
    {b : ℚ} (stoppedObjects : List ObjectData) (calls : List (ObjectData × ℚ))
    (hcalls : ∀ c ∈ calls, c.1.objectId = id ∧ b ≤ c.2)
    (hS : EnteredSince id b stoppedObjects) :
    ∀ r ∈ movingTimeRun parameters stoppedObjects calls, r.2.stopTime ≤ r.1 - b := by
  induction calls generalizing stoppedObjects with
  | nil => simp [movingTimeRun]
  | cons c calls ih =>
    obtain ⟨objectData, now⟩ := c
    simp only [List.mem_cons, forall_eq_or_imp] at hcalls
    obtain ⟨⟨hid, hb⟩, hcalls⟩ := hcalls
    subst hid
    have hstep := @fillObjectMovingTime_stopTime_le parameters _ _ _ _ hb hS
    simp only [movingTimeRun, List.mem_cons, forall_eq_or_imp]
    exact ⟨hstep.1, ih _ hcalls hstep.2⟩

/-- Over any run of calls on one object at non-decreasing clock values, the stopping time
reported at `tk` is at most `tk - tm` for every earlier call at `tm` that counted the object as
moving. -/
theorem movingTimeRun_stopTime_le_of_counted {parameters : AvoidanceParameters} (id : UUID)
    (stoppedObjects : List ObjectData) (calls : List (ObjectData × ℚ))
    (hid : ∀ c ∈ calls, c.1.objectId = id) (htime : (calls.map Prod.snd).Pairwise (· ≤ ·))
    (hone : stoppedObjects.countP (fun s => s.objectId == id) ≤ 1)
    {tm tk : ℚ} {om ok : ObjectData}
    (hsub : List.Sublist [(tm, om), (tk, ok)] (movingTimeRun parameters stoppedObjects calls))
    (hmoving : CountedAsMoving parameters om) :
    ok.stopTime ≤ tk - tm := by
  induction calls generalizing stoppedObjects with
  | nil => simp [movingTimeRun] at hsub
  | cons c calls ih =>
    obtain ⟨objectData, now⟩ := c
    simp only [List.mem_cons, forall_eq_or_imp] at hid
    simp only [List.map_cons, List.pairwise_cons, List.mem_map, Prod.exists, exists_eq_right,
      forall_exists_index] at htime
    have hsame := sameIdAs_eq_of_objectId hid.1
    simp only [movingTimeRun, List.sublist_cons_iff] at hsub
    rcases hsub with hsub | ⟨rest, hrest, hsub⟩
    · refine ih _ hid.2 htime.2 ?_ hsub
      rw [← hsame]
      exact fillObjectMovingTime_countP_le_one (hsame ▸ hone)
    · simp only [List.cons.injEq, Prod.mk.injEq] at hrest
      obtain ⟨⟨rfl, rfl⟩, rfl⟩ := hrest
      have hempty := fillObjectMovingTime_countP_eq_zero (hsame ▸ hone) hmoving
      rw [List.countP_eq_zero] at hempty
      refine movingTimeRun_stopTime_le_of_enteredSince _ calls
        (fun c hc => ⟨hid.2 c hc, htime.1 c.2 c.1 hc⟩) (fun s hs hs' => ?_) (tk, ok)
        (hsub.subset (List.mem_singleton_self _))
      exact absurd (by simp [sameIdAs, hs', hid.1]) (hempty s hs)

/-- Across three consecutive calls on one object, stopped, moving no longer than
`moving_time_threshold`, and stopped again, the stopping time keeps counting: the short move
leaves the entry and its `last_move`. -/
theorem movingTimeRun_stopTime_across_short_move {parameters : AvoidanceParameters} {id : UUID}
    (stoppedObjects : List ObjectData) (calls : List (ObjectData × ℚ))
    (hid : ∀ c ∈ calls, c.1.objectId = id) {t₁ t₂ t₃ : ℚ} {o₁ o₂ o₃ : ObjectData}
    (hsegment : [(t₁, o₁), (t₂, o₂), (t₃, o₃)] <:+: movingTimeRun parameters stoppedObjects calls)
    (hstop₁ : isFasterThanThreshold o₁ parameters = false)
    (hfast₂ : isFasterThanThreshold o₂ parameters = true) (hshort : ¬CountedAsMoving parameters o₂)
    (hstop₃ : isFasterThanThreshold o₃ parameters = false) :
    o₃.stopTime = o₁.stopTime + (t₃ - t₁) := by
  induction calls generalizing stoppedObjects with
  | nil => simp [movingTimeRun] at hsegment
  | cons c calls ih =>
    simp only [List.mem_cons, forall_eq_or_imp] at hid
    rcases List.infix_cons_iff.mp hsegment with hprefix | hsegment
    · -- the three reports are those of this call and the next two
      obtain ⟨d₁, n₁⟩ := c
      rcases calls with _ | ⟨⟨d₂, n₂⟩, _ | ⟨⟨d₃, n₃⟩, rest⟩⟩
      · simp [movingTimeRun] at hprefix
      · simp [movingTimeRun] at hprefix
      simp only [movingTimeRun, List.cons_prefix_cons, Prod.mk.injEq] at hprefix
      obtain ⟨⟨rfl, rfl⟩, ⟨rfl, rfl⟩, ⟨rfl, rfl⟩, -⟩ := hprefix
      simp only [List.mem_cons, forall_eq_or_imp] at hid
      simp only [isFasterThanThreshold_fillObjectMovingTime] at hstop₁ hfast₂ hstop₃
      obtain ⟨e, he, hlast⟩ := findSameId_fillObjectMovingTime_of_stopped stoppedObjects t₁ hstop₁
      have hfind : findSameId (fillObjectMovingTime d₂
          (fillObjectMovingTime d₁ stoppedObjects parameters t₁).2 parameters t₂).2 d₃ =
          some e := by
        rw [fillObjectMovingTime_registry_of_short_move hfast₂ hshort,
          findSameId_congr (hid.2.2.1.trans hid.1.symm), he]
      rw [fillObjectMovingTime_stopTime_of_registered t₃ hstop₃ hfind, hlast]
      ring
    · exact ih _ hid.2 hsegment

/-- Over any run of calls on one object at non-decreasing clock values, the stopping time
reported at `tk` is at most `tk - tm` for every earlier call at `tm` that counted the object as
moving.  A move that does not exceed `moving_time_threshold` resets nothing: across a stopped
call, such a move and a stopped call again, the stopping time grows by the time between the two
stopped calls. -/
theorem movingTimeRun_stopTime_le {parameters : AvoidanceParameters} (id : UUID)
    (stoppedObjects : List ObjectData) (calls : List (ObjectData × ℚ))
    (hid : ∀ c ∈ calls, c.1.objectId = id) (htime : (calls.map Prod.snd).Pairwise (· ≤ ·))
    (hone : stoppedObjects.countP (fun s => s.objectId == id) ≤ 1) :
    let reports := movingTimeRun parameters stoppedObjects calls
    (∀ (tm tk : ℚ) (om ok : ObjectData), List.Sublist [(tm, om), (tk, ok)] reports →
      CountedAsMoving parameters om → ok.stopTime ≤ tk - tm) ∧
    ∀ (t₁ t₂ t₃ : ℚ) (o₁ o₂ o₃ : ObjectData), [(t₁, o₁), (t₂, o₂), (t₃, o₃)] <:+: reports →
      isFasterThanThreshold o₁ parameters = false → isFasterThanThreshold o₂ parameters = true →
      ¬CountedAsMoving parameters o₂ → isFasterThanThreshold o₃ parameters = false →
      o₃.stopTime = o₁.stopTime + (t₃ - t₁) :=
  ⟨fun _ _ _ _ hsub hmoving =>
      movingTimeRun_stopTime_le_of_counted id stoppedObjects calls hid htime hone hsub hmoving,
    fun _ _ _ _ _ _ hsegment hstop₁ hfast₂ hshort hstop₃ =>
      movingTimeRun_stopTime_across_short_move stoppedObjects calls hid hsegment hstop₁ hfast₂
        hshort hstop₃⟩

/-- An object first seen moving and then stopped: its stopping time is bounded by the time since
the moving call. -/
theorem movingTimeRun_stopTime_le_after_first_seen_moving :
    let parameters := AvoidanceParameters.uniform
      { (default : ObjectParameter) with movingSpeedThreshold := 1, movingTimeThreshold := 5 }
    let observed (vx : ℚ) : ObjectData :=
      { (default : ObjectData) with
        object := { (default : PredictedObject) with twistLinearX := vx, twistLinearY := 0 } }
    let first := fillObjectMovingTime (observed 2) [] parameters 0
    (fillObjectMovingTime (observed 0) first.2 parameters 1).1.stopTime ≤ 1 - 0 := by
  intro parameters observed first
  refine (movingTimeRun_stopTime_le (observed 0).objectId [] [(observed 2, 0), (observed 0, 1)]
    ?_ (by simp) (by simp)).1 _ _ _ _ (List.Sublist.refl _) ?_
  · intro c hc
    simp only [List.mem_cons, List.mem_singleton, List.not_mem_nil, or_false] at hc
    rcases hc with rfl | rfl <;> rfl
  · norm_num [CountedAsMoving, first, observed, parameters, fillObjectMovingTime,
      isFasterThanThreshold, hypotGt, findSameId, WithTop.lt_top_iff_ne_top]

/-- The original bound fails: a stopped object that moves for one second, shorter than its
five-second `moving_time_threshold`, and stops again reports two seconds of stopping at `t = 2`,
more than the one second since it was last observed faster than `moving_speed_threshold`. -/
theorem movingTimeRun_short_move_keeps_stop_time :
    let parameters := AvoidanceParameters.uniform
      { (default : ObjectParameter) with movingSpeedThreshold := 1, movingTimeThreshold := 5 }
    let observed (vx : ℚ) : ObjectData :=
      { (default : ObjectData) with
        object := { (default : PredictedObject) with twistLinearX := vx, twistLinearY := 0 } }
    isFasterThanThreshold (observed 2) parameters = true ∧
      (movingTimeRun parameters [] [(observed 0, 0), (observed 2, 1), (observed 0, 2)]).map
        (fun r => (r.1, r.2.stopTime)) = [(0, 0), (1, 0), (2, 2)] ∧ (2 : ℚ) - 1 < 2 := by
  norm_num [movingTimeRun, fillObjectMovingTime, isFasterThanThreshold, hypotGt, findSameId,
    sameIdAs, ObjectData.objectId, updateFirst]

end Avoidance
end AdaptiveCruiseControl
