import AdaptiveCruiseControl.Avoidance.Types
import Mathlib.Data.List.Chain

/-!
# The stoppable judgement

`fillObjectStoppableJudge` decides whether the ego can still stop before an object.  Under the
`reliable` deceleration policy every object is stoppable.  Otherwise an object that needs no
avoidance is not stoppable, one whose stop line lies beyond the feasible stop distance is, and in
between the judgement of the registered entry of the object is kept.

So outside the `reliable` policy the judgement is a latch over planning cycles that each receive
the previous cycle's result as the registered entry: it is false wherever avoidance is not
required, it rises only in a cycle whose stop line lies beyond the feasible stop distance, and
once risen it holds for as long as avoidance stays required, however close the stop line comes.
-/

namespace AdaptiveCruiseControl
namespace Avoidance

/-- `fillObjectStoppableJudge`. -/
def fillObjectStoppableJudge (objectData : ObjectData) (registeredObjects : List ObjectData)
    (feasibleStopDistance : ℚ) (parameters : AvoidanceParameters) : ObjectData :=
  if parameters.policyDeceleration == "reliable" then { objectData with isStoppable := true }
  else if !objectData.avoidRequired then { objectData with isStoppable := false }
  else
    let sameIdObj := findSameId registeredObjects objectData
    let isStoppable : Bool := objectData.toStopLine > feasibleStopDistance
    if isStoppable then { objectData with isStoppable := true }
    else
      match sameIdObj with
      | none => { objectData with isStoppable := false }
      | some sameIdObj => { objectData with isStoppable := sameIdObj.isStoppable }

section Judge

variable {objectData : ObjectData} {registeredObjects : List ObjectData}
  {feasibleStopDistance : ℚ} {parameters : AvoidanceParameters}

/-- Outside the `reliable` policy the judgement writes one field: avoidance is required, and
either the stop line lies beyond the feasible stop distance or the registered entry is
stoppable. -/
theorem fillObjectStoppableJudge_eq (hpolicy : parameters.policyDeceleration ≠ "reliable") :
    fillObjectStoppableJudge objectData registeredObjects feasibleStopDistance parameters =
      { objectData with
        isStoppable := objectData.avoidRequired &&
          (decide (feasibleStopDistance < objectData.toStopLine) ||
            (findSameId registeredObjects objectData).any (·.isStoppable)) } := by
  unfold fillObjectStoppableJudge
  rw [if_neg (by simpa using hpolicy)]
  cases objectData.avoidRequired
  · rfl
  · by_cases hroom : feasibleStopDistance < objectData.toStopLine
    · simp [hroom]
    · cases findSameId registeredObjects objectData <;> simp [hroom]

end Judge

/-! ## The latch over planning cycles -/

/-- Planning cycles of `fillObjectStoppableJudge` on one object, each given the object data and
the feasible stop distance of its cycle and the previous cycle's result as the registered entry
of the object. -/
def stoppableRun (parameters : AvoidanceParameters) :
    Option ObjectData → List (ObjectData × ℚ) → List ObjectData
  | _, [] => []
  | registered, (objectData, feasibleStopDistance) :: rest =>
    let judged :=
      fillObjectStoppableJudge objectData registered.toList feasibleStopDistance parameters
    judged :: stoppableRun parameters (some judged) rest

/-- The step of the latch: a stoppable result stays stoppable in the next cycle when that cycle
still requires avoidance. -/
def StoppableLatch (previous current : ObjectData) : Prop :=
  previous.isStoppable = true → current.avoidRequired = true → current.isStoppable = true

/-- Along a chain of latch steps, a stoppable result stays stoppable through every following
stretch of cycles that require avoidance. -/
theorem isStoppable_of_chain {l pre mid post : List ObjectData} {judged : ObjectData}
    (hchain : l.Chain' StoppableLatch) (hsplit : l = pre ++ judged :: mid ++ post)
    (hjudged : judged.isStoppable = true) (hmid : ∀ m ∈ mid, m.avoidRequired = true) :
    ∀ m ∈ mid, m.isStoppable = true := by
  subst hsplit
  have htail : (judged :: (mid ++ post)).Chain' StoppableLatch := by
    rw [List.append_assoc, List.cons_append] at hchain
    exact (List.chain'_append.mp hchain).2.1
  clear hchain
  induction mid generalizing judged with
  | nil => simp
  | cons m mid ih =>
    simp only [List.cons_append, List.chain'_cons] at htail
    simp only [List.mem_cons, forall_eq_or_imp] at hmid ⊢
    have hm : m.isStoppable = true := htail.1 hjudged hmid.1
    exact ⟨hm, ih hm hmid.2 htail.2⟩

section Run

variable {parameters : AvoidanceParameters}

/-- One cycle: the judgement writes only `is_stoppable`, is false without required avoidance,
rises only with room to stop, and latches a stoppable registered entry while avoidance stays
required. -/
theorem fillObjectStoppableJudge_step (hpolicy : parameters.policyDeceleration ≠ "reliable")
    (objectData : ObjectData) (feasibleStopDistance : ℚ) {registered : Option ObjectData}
    (hreg : ∀ r ∈ registered, r.objectId = objectData.objectId) :
    let judged :=
      fillObjectStoppableJudge objectData registered.toList feasibleStopDistance parameters
    judged = { objectData with isStoppable := judged.isStoppable } ∧
      (objectData.avoidRequired = false → judged.isStoppable = false) ∧
      (judged.isStoppable = true → (∀ p ∈ registered, p.isStoppable = false) →
        feasibleStopDistance < objectData.toStopLine) ∧
      ∀ p ∈ registered, StoppableLatch p judged := by
  simp only [fillObjectStoppableJudge_eq hpolicy, findSameId_toList hreg, StoppableLatch]
  refine ⟨trivial, fun hnot => by simp [hnot], fun hs hprev => ?_, fun p hp hprev hnow => ?_⟩
  · rcases registered with _ | previous
    · simp at hs
      exact hs.2
    · simp [hprev previous rfl] at hs
      exact hs.2
  · simp [Option.mem_def.mp hp, hprev, hnow]

/-- What each cycle of a run guarantees: the judgement is false without required avoidance and
rises only with room to stop, and consecutive results are latch steps. -/
theorem stoppableRun_judged (hpolicy : parameters.policyDeceleration ≠ "reliable")
    (registered : Option ObjectData) (cycles : List (ObjectData × ℚ)) (id : UUID)
    (hid : ∀ c ∈ cycles, c.1.objectId = id) (hreg : ∀ r ∈ registered, r.objectId = id) :
    List.Forall₂ (fun (cycle : ObjectData × ℚ) (judged : Option ObjectData × ObjectData) =>
        judged.2 = { cycle.1 with isStoppable := judged.2.isStoppable } ∧
        (cycle.1.avoidRequired = false → judged.2.isStoppable = false) ∧
        (judged.2.isStoppable = true → (∀ p ∈ judged.1, p.isStoppable = false) →
          cycle.2 < cycle.1.toStopLine))
      cycles ((registered :: (stoppableRun parameters registered cycles).map some).zip
        (stoppableRun parameters registered cycles)) ∧
      (registered.toList ++ stoppableRun parameters registered cycles).Chain' StoppableLatch := by
  induction cycles generalizing registered with
  | nil => cases registered <;> simp [stoppableRun]
  | cons cycle rest ih =>
    obtain ⟨objectData, feasibleStopDistance⟩ := cycle
    simp only [List.mem_cons, forall_eq_or_imp] at hid
    obtain ⟨hframe, hnot, hroom, hlatch⟩ := fillObjectStoppableJudge_step hpolicy objectData
      feasibleStopDistance fun r hr => (hreg r hr).trans hid.1.symm
    obtain ⟨hforall, hchain⟩ := ih
      (some (fillObjectStoppableJudge objectData registered.toList feasibleStopDistance parameters))
      hid.2 (fun r hr => by cases hr; rw [fillObjectStoppableJudge_eq hpolicy]; exact hid.1)
    simp only [stoppableRun, List.map_cons, List.zip_cons_cons]
    exact ⟨.cons ⟨hframe, hnot, hroom⟩ hforall, chain'_toList_append hlatch hchain⟩

/-- Over any run on one object outside the `reliable` policy, where each cycle receives the
previous cycle's result as the registered entry: each result is its cycle's object data with only
`is_stoppable` written, so it keeps the cycle's `avoid_required`; no cycle without required
avoidance is stoppable, a cycle becomes stoppable only where its stop line lies beyond its
feasible stop distance, and a stoppable result stays stoppable through every following stretch of
cycles that require avoidance.  The registered entry of the first cycle is any earlier result for
the object, or none. -/
theorem stoppableRun_latch (hpolicy : parameters.policyDeceleration ≠ "reliable")
    (registered : Option ObjectData) (cycles : List (ObjectData × ℚ)) (id : UUID)
    (hid : ∀ c ∈ cycles, c.1.objectId = id) (hreg : ∀ r ∈ registered, r.objectId = id) :
    let results := stoppableRun parameters registered cycles
    List.Forall₂ (fun (cycle : ObjectData × ℚ) (judged : Option ObjectData × ObjectData) =>
        judged.2 = { cycle.1 with isStoppable := judged.2.isStoppable } ∧
        (cycle.1.avoidRequired = false → judged.2.isStoppable = false) ∧
        (judged.2.isStoppable = true → (∀ p ∈ judged.1, p.isStoppable = false) →
          cycle.2 < cycle.1.toStopLine))
      cycles ((registered :: results.map some).zip results) ∧
    ∀ pre judged mid post, registered.toList ++ results = pre ++ judged :: mid ++ post →
      judged.isStoppable = true → (∀ m ∈ mid, m.avoidRequired = true) →
      ∀ m ∈ mid, m.isStoppable = true :=
  have h := stoppableRun_judged hpolicy registered cycles id hid hreg
  ⟨h.1, fun _ _ _ _ hsplit => isStoppable_of_chain h.2 hsplit⟩

/-- Two cycles of one object requiring avoidance: stoppable while the stop line lies beyond the
feasible stop distance, and still stoppable once it no longer does. -/
theorem stoppableRun_latch_two_cycles :
    let parameters := AvoidanceParameters.uniform default
    let cycles : List (ObjectData × ℚ) :=
      [({ (default : ObjectData) with avoidRequired := true, toStopLine := 10 }, 5),
       ({ (default : ObjectData) with avoidRequired := true, toStopLine := 1 }, 5)]
    let results := stoppableRun parameters none cycles
    List.Forall₂ (fun (cycle : ObjectData × ℚ) (judged : Option ObjectData × ObjectData) =>
        judged.2 = { cycle.1 with isStoppable := judged.2.isStoppable } ∧
        (cycle.1.avoidRequired = false → judged.2.isStoppable = false) ∧
        (judged.2.isStoppable = true → (∀ p ∈ judged.1, p.isStoppable = false) →
          cycle.2 < cycle.1.toStopLine))
      cycles ((none :: results.map some).zip results) ∧
    ∀ pre judged mid post, results = pre ++ judged :: mid ++ post →
      judged.isStoppable = true → (∀ m ∈ mid, m.avoidRequired = true) →
      ∀ m ∈ mid, m.isStoppable = true := by
  intro parameters cycles results
  refine stoppableRun_latch (show parameters.policyDeceleration ≠ "reliable" by decide) none
    cycles (default : ObjectData).objectId ?_ (by simp)
  intro c hc
  simp only [cycles, List.mem_cons, List.mem_singleton, List.not_mem_nil, or_false] at hc
  rcases hc with rfl | rfl <;> rfl

end Run

end Avoidance
end AdaptiveCruiseControl
