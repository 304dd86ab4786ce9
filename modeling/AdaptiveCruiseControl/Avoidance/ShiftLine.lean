import AdaptiveCruiseControl.Avoidance.Types
import Mathlib.Data.List.Sort

/-!
# Shift lines: parent ids and interpolation

A shift line records the ids of the lines it was built from.  `concatParentIds` and
`calcParentIds` collect ids through a `std::set`, modelled as the ascending list of its elements
(`setInsert`).

`lerpShiftLengthOnArc` reads the shift a line prescribes at an arclength: zero outside the line,
and inside it a convex combination of the start and end shift lengths, so it never leaves the
range between them.

`combineRawShiftLinesWithUniqueCheck` appends to the base lines the added lines that no base line
of the same object is similar to.  Similarity is reflexive, so combining the same added lines a
second time appends nothing.
-/

namespace AdaptiveCruiseControl
namespace Avoidance

/-! ## Ids collected through a set -/

/-- `std::set<size_t>::insert` on the ascending list of the set's elements. -/
def setInsert (s : List Nat) (x : Nat) : List Nat :=
  if x ∈ s then s else s.orderedInsert (· ≤ ·) x

/-- `concatParentIds`: the ids of both vectors, ascending and each once. -/
def concatParentIds (ids1 ids2 : List Nat) : List Nat :=
  let idSet := ids1.foldl setInsert []
  ids2.foldl setInsert idSet

/-- The overlap test of `calcParentIds`: the closed longitudinal intervals of the two lines
meet. -/
def hasOverlap (al line : AvoidLine) : Bool :=
  !(al.endLongitudinal < line.startLongitudinal || line.endLongitudinal < al.startLongitudinal)

/-- `calcParentIds`: the ids of the lines of `lines1` overlapping `lines2`, ascending and each
once. -/
def calcParentIds (lines1 : List AvoidLine) (lines2 : AvoidLine) : List Nat :=
  lines1.foldl (fun ids al => if !hasOverlap al lines2 then ids else setInsert ids al.id) []

/-! ## Interpolating the shift along a line -/

/-- Modelled from the spec: `AvoidLine::getRelativeLongitudinal` is not under src/.  The length
of the line's longitudinal interval. -/
def AvoidLine.getRelativeLongitudinal (ap : AvoidLine) : ℚ :=
  ap.endLongitudinal - ap.startLongitudinal

/-- `lerpShiftLengthOnArc`: the shift of the line at an arclength, linear from the start shift
length to the end one over `[start_longitudinal, end_longitudinal)`, a step for a line shorter
than `1.0e-5`, and zero outside the line. -/
def lerpShiftLengthOnArc (arc : ℚ) (ap : AvoidLine) : ℚ :=
  if ap.startLongitudinal ≤ arc ∧ arc < ap.endLongitudinal then
    if |ap.getRelativeLongitudinal| < 1.0e-5 then ap.endShiftLength
    else
      let startWeight := (ap.endLongitudinal - arc) / ap.getRelativeLongitudinal
      startWeight * ap.startShiftLength + (1.0 - startWeight) * ap.endShiftLength
  else 0

section Lerp

variable {arc : ℚ} {ap : AvoidLine}

theorem lerpShiftLengthOnArc_of_not_mem
    (h : ¬(ap.startLongitudinal ≤ arc ∧ arc < ap.endLongitudinal)) :
    lerpShiftLengthOnArc arc ap = 0 := by
  simp [lerpShiftLengthOnArc, h]

/-- At the start of a line longer than `1.0e-5` the shift is the start shift length. -/
theorem lerpShiftLengthOnArc_start (hlen : 1.0e-5 ≤ ap.getRelativeLongitudinal) :
    lerpShiftLengthOnArc ap.startLongitudinal ap = ap.startShiftLength := by
  have hpos : 0 < ap.getRelativeLongitudinal := lt_of_lt_of_le (by norm_num) hlen
  have hlt : ap.startLongitudinal < ap.endLongitudinal := by
    unfold AvoidLine.getRelativeLongitudinal at hpos; linarith
  have hweight : (ap.endLongitudinal - ap.startLongitudinal) / ap.getRelativeLongitudinal = 1 :=
    div_self hpos.ne'
  simp only [lerpShiftLengthOnArc, le_refl, hlt, and_self, ↓reduceIte, abs_of_pos hpos,
    not_lt.mpr hlen, hweight]
  ring

/-- Inside the line the shift lies between the start and the end shift lengths. -/
theorem lerpShiftLengthOnArc_mem_range
    (h : ap.startLongitudinal ≤ arc ∧ arc < ap.endLongitudinal) :
    min ap.startShiftLength ap.endShiftLength ≤ lerpShiftLengthOnArc arc ap ∧
      lerpShiftLengthOnArc arc ap ≤ max ap.startShiftLength ap.endShiftLength := by
  have hpos : 0 < ap.getRelativeLongitudinal := by
    unfold AvoidLine.getRelativeLongitudinal; linarith [h.1, h.2]
  simp only [lerpShiftLengthOnArc, h, and_self, ↓reduceIte]
  split_ifs
  · exact ⟨min_le_right _ _, le_max_right _ _⟩
  · set w := (ap.endLongitudinal - arc) / ap.getRelativeLongitudinal
    have hw0 : 0 ≤ w := div_nonneg (by linarith [h.2]) hpos.le
    have hw1' : w ≤ 1 := (div_le_one₀ hpos).mpr
      (by unfold AvoidLine.getRelativeLongitudinal; linarith [h.1])
    have hw1 : 0 ≤ 1.0 - w := by norm_num; exact hw1'
    constructor
    · calc min ap.startShiftLength ap.endShiftLength
          = w * min ap.startShiftLength ap.endShiftLength +
              (1.0 - w) * min ap.startShiftLength ap.endShiftLength := by ring
        _ ≤ w * ap.startShiftLength + (1.0 - w) * ap.endShiftLength :=
          add_le_add (mul_le_mul_of_nonneg_left (min_le_left _ _) hw0)
            (mul_le_mul_of_nonneg_left (min_le_right _ _) hw1)
    · calc w * ap.startShiftLength + (1.0 - w) * ap.endShiftLength
          ≤ w * max ap.startShiftLength ap.endShiftLength +
              (1.0 - w) * max ap.startShiftLength ap.endShiftLength :=
          add_le_add (mul_le_mul_of_nonneg_left (le_max_left _ _) hw0)
            (mul_le_mul_of_nonneg_left (le_max_right _ _) hw1)
        _ = max ap.startShiftLength ap.endShiftLength := by ring

end Lerp

/-- The shift a line prescribes: zero outside the half-open interval
`[start_longitudinal, end_longitudinal)`, so zero at the line's end; the start shift length at
the start of a line at least `1.0e-5` long; and between the start and the end shift lengths
inside the line. -/
theorem lerpShiftLengthOnArc_spec (ap : AvoidLine) :
    (∀ arc, ¬(ap.startLongitudinal ≤ arc ∧ arc < ap.endLongitudinal) →
      lerpShiftLengthOnArc arc ap = 0) ∧
    (1.0e-5 ≤ ap.getRelativeLongitudinal →
      lerpShiftLengthOnArc ap.startLongitudinal ap = ap.startShiftLength) ∧
    ∀ arc, ap.startLongitudinal ≤ arc ∧ arc < ap.endLongitudinal →
      min ap.startShiftLength ap.endShiftLength ≤ lerpShiftLengthOnArc arc ap ∧
        lerpShiftLengthOnArc arc ap ≤ max ap.startShiftLength ap.endShiftLength :=
  ⟨fun _ => lerpShiftLengthOnArc_of_not_mem, lerpShiftLengthOnArc_start,
    fun _ => lerpShiftLengthOnArc_mem_range⟩


/-! ## Combining raw shift lines without duplicates -/

/-- The lambda `isSimilar` of `combineRawShiftLinesWithUniqueCheck`: the lines start and end
within `1.0` of each other, and their end shift lengths differ by at most `0.5`.  The distances
are compared through their squares, and `1.0` is its own square. -/
def isSimilar (a b : AvoidLine) : Bool :=
  if calcSquaredDistance2d a.startPose.position b.startPose.position > 1.0 then false
  else if calcSquaredDistance2d a.endPose.position b.endPose.position > 1.0 then false
  else if |a.endShiftLength - b.endShiftLength| > 0.5 then false
  else true

/-- The lambda `hasSameObjectId`. -/
def hasSameObjectId (a b : AvoidLine) : Bool := a.object.objectId == b.object.objectId

/-- `combineRawShiftLinesWithUniqueCheck`: the base lines, then every added line that no base
line of the same object is similar to.  The inner loop's `break` only ends the search early, so
it is the `any` of the base lines. -/
def combineRawShiftLinesWithUniqueCheck (baseLines addedLines : List AvoidLine) :
    List AvoidLine :=
  addedLines.foldl (fun combined addedLine =>
    let skip := baseLines.any fun baseLine =>
      hasSameObjectId addedLine baseLine && isSimilar addedLine baseLine
    if !skip then combined ++ [addedLine] else combined) baseLines

theorem isSimilar_iff {a b : AvoidLine} :
    isSimilar a b = true ↔
      calcSquaredDistance2d a.startPose.position b.startPose.position ≤ 1.0 ∧
        calcSquaredDistance2d a.endPose.position b.endPose.position ≤ 1.0 ∧
        |a.endShiftLength - b.endShiftLength| ≤ 0.5 := by
  unfold isSimilar
  split_ifs with hstart hend hshift <;>
    simp only [Bool.false_eq_true, false_iff, true_iff, not_and, not_le]
  · exact fun h => absurd h (not_le.mpr hstart)
  · exact fun _ h => absurd h (not_le.mpr hend)
  · exact fun _ _ => hshift
  · exact ⟨not_lt.mp hstart, not_lt.mp hend, not_lt.mp hshift⟩

/-- Every line is similar to itself. -/
theorem isSimilar_self (a : AvoidLine) : isSimilar a a = true := by
  rw [isSimilar_iff]
  norm_num [calcSquaredDistance2d]

/-- The combined lines are the base lines followed by the added lines no base line duplicates. -/
theorem combineRawShiftLinesWithUniqueCheck_eq (baseLines addedLines : List AvoidLine) :
    combineRawShiftLinesWithUniqueCheck baseLines addedLines =
      baseLines ++ addedLines.filter fun addedLine => !baseLines.any fun baseLine =>
        hasSameObjectId addedLine baseLine && isSimilar addedLine baseLine := by
  unfold combineRawShiftLinesWithUniqueCheck
  induction addedLines using List.reverseRecOn with
  | nil => simp
  | append_singleton addedLines addedLine ih =>
    rw [List.foldl_append, ih, List.foldl_cons, List.foldl_nil, List.filter_append]
    cases hskip : baseLines.any (fun baseLine =>
      hasSameObjectId addedLine baseLine && isSimilar addedLine baseLine) <;>
      simp [hskip]

/-- Each added line is kept exactly when no base line of the same object lies within `1.0` of it
at the start and at the end and within `0.5` of its end shift length; the base lines come first,
unchanged.  Combining the same added lines once more changes nothing: a kept line now duplicates
itself, and a skipped one still meets the base line it duplicated. -/
theorem combineRawShiftLinesWithUniqueCheck_idempotent (baseLines addedLines : List AvoidLine) :
    combineRawShiftLinesWithUniqueCheck baseLines addedLines =
        baseLines ++ addedLines.filter (fun addedLine => decide (¬∃ baseLine ∈ baseLines,
          addedLine.object.objectId = baseLine.object.objectId ∧
            calcSquaredDistance2d addedLine.startPose.position baseLine.startPose.position ≤ 1.0 ∧
            calcSquaredDistance2d addedLine.endPose.position baseLine.endPose.position ≤ 1.0 ∧
            |addedLine.endShiftLength - baseLine.endShiftLength| ≤ 0.5)) ∧
      combineRawShiftLinesWithUniqueCheck
          (combineRawShiftLinesWithUniqueCheck baseLines addedLines) addedLines =
        combineRawShiftLinesWithUniqueCheck baseLines addedLines := by
  constructor
  · rw [combineRawShiftLinesWithUniqueCheck_eq]
    congr 2
    funext addedLine
    rw [Bool.eq_iff_iff]
    simp [List.any_eq_false, hasSameObjectId, isSimilar_iff]
  · set combined := combineRawShiftLinesWithUniqueCheck baseLines addedLines with hcombined
    have hdup : ∀ addedLine ∈ addedLines, (combined.any fun baseLine =>
        hasSameObjectId addedLine baseLine && isSimilar addedLine baseLine) = true := by
      intro addedLine hadded
      rw [hcombined, combineRawShiftLinesWithUniqueCheck_eq, List.any_append, Bool.or_eq_true]
      by_cases hbase : (baseLines.any fun baseLine =>
          hasSameObjectId addedLine baseLine && isSimilar addedLine baseLine) = true
      · exact .inl hbase
      · refine .inr (List.any_eq_true.mpr
          ⟨addedLine, List.mem_filter.mpr ⟨hadded, ?_⟩, ?_⟩)
        · simpa using hbase
        · simp [hasSameObjectId, isSimilar_self]
    rw [combineRawShiftLinesWithUniqueCheck_eq combined,
      List.filter_eq_nil_iff.mpr fun addedLine hadded => by simpa using hdup addedLine hadded,
      List.append_nil]

end Avoidance
end AdaptiveCruiseControl
