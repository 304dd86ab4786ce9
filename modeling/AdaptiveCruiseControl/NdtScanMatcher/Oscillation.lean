import AdaptiveCruiseControl.Avoidance.Types
import Mathlib.Data.List.Infix

/-!
# Oscillation of the NDT optimisation

When the NDT scan matcher stops at its iteration limit, `callback_sensor_points` asks
`validate_local_optimal_solution_oscillation` whether the optimiser oscillated around a local
optimum.  From the third pose of the optimisation on, each step is a reversal when it points
against the previous step, as measured by the dot product with the normalised previous step.  The
loop counts consecutive pairs of reversals and reports an oscillation when the count exceeds
`oscillation_threshold`.

The count at the `k`-th reversal of a run of reversals is `k - 2`, and a step that is not a
reversal resets it.  So the validation holds exactly when the reversal flags contain a block of
`L ≥ 2` consecutive reversals with `L - 2 > oscillation_threshold`.  The loop is first shown to
be a loop over the flags, which is then characterised by induction over the flags with the
length of the trailing run of reversals as the invariant.
-/

namespace AdaptiveCruiseControl
namespace NdtScanMatcher

open Avoidance (Point Pose)

/-! ## The validation -/

/-- `point_to_vector3d(a) - point_to_vector3d(b)`. -/
def sub (a b : Point) : Point := ⟨a.x - b.x, a.y - b.y, a.z - b.z⟩

/-- `Eigen::Vector3d::dot`. -/
def dot (a b : Point) : ℚ := a.x * b.x + a.y * b.y + a.z * b.z

/-- `prev_vec.normalized().dot(current_vec) < inversion_vector_threshold`.  Eigen leaves a zero
vector unchanged by `normalized` and divides any other by its norm, so the comparison is
`dot < threshold * ‖prev_vec‖`, decided on squares. -/
def isReversal (prevVec currentVec : Point) (inversionVectorThreshold : ℚ) : Bool :=
  let squaredNorm := dot prevVec prevVec
  let d := dot prevVec currentVec
  if squaredNorm = 0 then 0 < inversionVectorThreshold
  else if inversionVectorThreshold ≤ 0 then
    d < 0 ∧ inversionVectorThreshold ^ 2 * squaredNorm < d ^ 2
  else d ≤ 0 ∨ d ^ 2 < inversionVectorThreshold ^ 2 * squaredNorm

/-- The loop of `validate_local_optimal_solution_oscillation` from the step whose poses are the
first three of the list, with `prev_oscillation` and `oscillation_cnt`.  The `float` cast of the
count is exact below `2 ^ 24`. -/
def oscillationLoop (oscillationThreshold inversionVectorThreshold : ℚ) :
    Bool → Nat → List Point → Bool
  | prevOscillation, oscillationCnt, prevPrevPose :: poses =>
    match poses with
    | prevPose :: currentPose :: _ =>
      let currentVec := sub currentPose prevPose
      let prevVec := sub prevPose prevPrevPose
      let oscillation := isReversal prevVec currentVec inversionVectorThreshold
      if prevOscillation && oscillation then
        if (oscillationCnt : ℚ) > oscillationThreshold then true
        else
          oscillationLoop oscillationThreshold inversionVectorThreshold oscillation
            (oscillationCnt + 1) poses
      else oscillationLoop oscillationThreshold inversionVectorThreshold oscillation 0 poses
    | _ => false
  | _, _, [] => false

/-- `validate_local_optimal_solution_oscillation`. -/
def validateLocalOptimalSolutionOscillation (resultPoseMsgArray : List Pose)
    (oscillationThreshold inversionVectorThreshold : ℚ) : Bool :=
  oscillationLoop oscillationThreshold inversionVectorThreshold false 0
    (resultPoseMsgArray.map (·.position))

/-! ## The reversal flags -/

/-- The reversal flags of the steps from the third pose on. -/
def reversalFlags (inversionVectorThreshold : ℚ) : List Point → List Bool
  | prevPrevPose :: poses =>
    match poses with
    | prevPose :: currentPose :: _ =>
      isReversal (sub prevPose prevPrevPose) (sub currentPose prevPose) inversionVectorThreshold ::
        reversalFlags inversionVectorThreshold poses
    | _ => []
  | [] => []

/-- The loop over the flags: the count of consecutive reversal pairs, reset by a step that is
not a reversal. -/
def countLoop (oscillationThreshold : ℚ) : Bool → Nat → List Bool → Bool
  | prevOscillation, oscillationCnt, oscillation :: flags =>
    if prevOscillation && oscillation then
      if (oscillationCnt : ℚ) > oscillationThreshold then true
      else countLoop oscillationThreshold oscillation (oscillationCnt + 1) flags
    else countLoop oscillationThreshold oscillation 0 flags
  | _, _, [] => false

/-- The loop over the poses is the loop over their reversal flags. -/
theorem oscillationLoop_eq (oscillationThreshold inversionVectorThreshold : ℚ)
    (prevOscillation : Bool) (oscillationCnt : Nat) (poses : List Point) :
    oscillationLoop oscillationThreshold inversionVectorThreshold prevOscillation oscillationCnt
        poses =
      countLoop oscillationThreshold prevOscillation oscillationCnt
        (reversalFlags inversionVectorThreshold poses) := by
  induction poses generalizing prevOscillation oscillationCnt with
  | nil => rfl
  | cons prevPrevPose poses ih =>
    match poses, ih with
    | [], _ => rfl
    | [_], _ => rfl
    | prevPose :: currentPose :: rest, ih =>
      rw [oscillationLoop, reversalFlags]
      simp only [countLoop, ih]

/-! ## Blocks of reversals -/

/-- A block of reversals lies on one side of a step that is not a reversal. -/
theorem replicate_infix_of_infix_append_false {L : Nat} {xs ys : List Bool}
    (h : List.replicate L true <:+: xs ++ false :: ys) :
    List.replicate L true <:+: xs ∨ List.replicate L true <:+: ys := by
  have hfalse : false ∉ List.replicate L true := by simp [List.mem_replicate]
  obtain ⟨s, t, hst⟩ := h
  rcases List.append_eq_append_iff.mp hst with ⟨c, hxs, -⟩ | ⟨c, hsl, hys⟩
  · -- the block ends before the end of `xs`
    exact .inl ⟨s, c, hxs.symm⟩
  rcases c with _ | ⟨c0, c'⟩
  · -- the block ends with `xs`
    exact .inl ⟨s, [], by simpa using hsl⟩
  -- the block ends past the `false`, so it starts past it
  obtain ⟨rfl, rfl⟩ : false = c0 ∧ ys = c' ++ t := by simpa using hys
  rcases List.append_eq_append_iff.mp hsl with ⟨d, -, hl⟩ | ⟨_ | ⟨d0, d'⟩, -, hd⟩
  · simp [hl] at hfalse
  · rw [List.nil_append] at hd
    simp [← hd] at hfalse
  · obtain ⟨-, rfl⟩ : false = d0 ∧ c' = d' ++ List.replicate L true := by simpa using hd
    exact .inr ⟨d', t, rfl⟩

/-- The trailing run of reversals the loop state stands for: none before a reversal, and
`oscillation_cnt + 1` after one. -/
def trailingRun (prevOscillation : Bool) (oscillationCnt : Nat) : Nat :=
  if prevOscillation then oscillationCnt + 1 else 0

/-- A block of reversals long enough to count as an oscillation. -/
def HasOscillationBlock (oscillationThreshold : ℚ) (flags : List Bool) : Prop :=
  ∃ L : Nat, 2 ≤ L ∧ oscillationThreshold < L - 2 ∧ List.replicate L true <:+: flags

/-- A block within the trailing run is as long as the run. -/
theorem not_hasOscillationBlock_replicate {oscillationThreshold : ℚ} {r : Nat}
    (hr : 2 ≤ r → (r : ℚ) - 2 ≤ oscillationThreshold) :
    ¬HasOscillationBlock oscillationThreshold (List.replicate r true) := by
  rintro ⟨L, hL, hθ, hsegment⟩
  have hle : L ≤ r := by simpa using hsegment.length_le
  have hLr : (L : ℚ) ≤ r := by exact_mod_cast hle
  linarith [hr (hL.trans hle)]

/-- The loop over the flags reports an oscillation exactly when the flags, after the trailing
run the loop state stands for, contain a long enough block, provided the trailing run itself is
not one. -/
theorem countLoop_iff (oscillationThreshold : ℚ) (flags : List Bool) (prevOscillation : Bool)
    (oscillationCnt : Nat)
    (hrun : 2 ≤ trailingRun prevOscillation oscillationCnt →
      (trailingRun prevOscillation oscillationCnt : ℚ) - 2 ≤ oscillationThreshold) :
    countLoop oscillationThreshold prevOscillation oscillationCnt flags = true ↔
      HasOscillationBlock oscillationThreshold
        (List.replicate (trailingRun prevOscillation oscillationCnt) true ++ flags) := by
  induction flags generalizing prevOscillation oscillationCnt with
  | nil =>
    simpa [countLoop] using not_hasOscillationBlock_replicate hrun
  | cons oscillation flags ih =>
    by_cases hpair : prevOscillation && oscillation
    · obtain ⟨rfl, rfl⟩ : prevOscillation = true ∧ oscillation = true := by simpa using hpair
      have hflags : List.replicate (trailingRun true oscillationCnt) true ++ true :: flags =
          List.replicate (trailingRun true (oscillationCnt + 1)) true ++ flags := by
        simp [trailingRun, List.replicate_succ']
      rw [hflags]
      by_cases hcnt : (oscillationCnt : ℚ) > oscillationThreshold
      · simp only [countLoop, Bool.and_self, ↓reduceIte, hcnt, true_iff]
        refine ⟨oscillationCnt + 2, by omega, by push_cast; linarith, ?_⟩
        exact (List.prefix_append _ _).isInfix
      · simp only [countLoop, Bool.and_self, ↓reduceIte, hcnt]
        exact ih true (oscillationCnt + 1) fun _ => by
          simp only [trailingRun, ↓reduceIte]; push_cast; linarith [not_lt.mp hcnt]
    · simp only [countLoop, hpair, ↓reduceIte, Bool.false_eq_true]
      rw [ih oscillation 0 (by cases oscillation <;> simp [trailingRun])]
      cases oscillation
      · simp only [trailingRun, Bool.false_eq_true, ↓reduceIte, List.replicate_zero,
          List.nil_append]
        constructor
        · rintro ⟨L, hL, hθ, hsegment⟩
          exact ⟨L, hL, hθ,
            hsegment.trans ((List.suffix_cons _ _).trans (List.suffix_append _ _)).isInfix⟩
        · rintro ⟨L, hL, hθ, hsegment⟩
          rcases replicate_infix_of_infix_append_false hsegment with hin | hin
          · exact absurd ⟨L, hL, hθ, hin⟩ (not_hasOscillationBlock_replicate hrun)
          · exact ⟨L, hL, hθ, by simpa [trailingRun] using hin⟩
      · have hprev : prevOscillation = false := by simpa using hpair
        simp [trailingRun, hprev]

end NdtScanMatcher
end AdaptiveCruiseControl
