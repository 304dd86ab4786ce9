import AdaptiveCruiseControl.Avoidance.Types

/-!
# Resyncing shift lines with the reference path

An `AvoidLine` carries its end points twice: as poses with their path indices, and as
longitudinal positions along the path.  `fillAdditionalInfoFromPoint` derives the longitudinal
positions from the poses through a nearest-index lookup, and
`fillAdditionalInfoFromLongitudinal` derives indices and poses from the longitudinal positions
through `findPathIndexFromArclength`, the first index whose arclength is strictly greater than
the target.

At an exact grid value the strict comparison selects the next point: on a strictly increasing
table, `findPathIndexFromArclength arc arc[i] = i + 1` below the last index.  A line resynced
through both directions therefore moves one point along the path.

On any non-empty table, sorted or not, the search is monotone in the target and stays within the
table: the first entry above a larger target is also above a smaller one.  A path with as many
points as the table is therefore never indexed past its end, and a line keeps its indices in the
order of its longitudinal positions.
-/

namespace AdaptiveCruiseControl
namespace Avoidance

/-- The loop of `findNearestIndex` at index `i`, with the best index and squared distance found
so far. -/
def findNearestIndexLoop (point : Point) (i minIdx : Nat) (minDist : ℚ) : List Pose → Nat
  | [] => minIdx
  | p :: ps =>
    let dist := calcSquaredDistance2d p.position point
    if dist < minDist then findNearestIndexLoop point (i + 1) i dist ps
    else findNearestIndexLoop point (i + 1) minIdx minDist ps

/-- Modelled from the spec: `motion_utils::findNearestIndex` is not under src/.  The
nearest-index lookup: the first path point of least squared planar distance to the point, or
`none` (it throws) on an empty path. -/
def findNearestIndex (points : List Pose) (point : Point) : Option Nat :=
  if points.isEmpty then none else some (findNearestIndexLoop point 0 0 doubleMax points)

/-- `findPathIndexFromArclength`: the first index whose arclength exceeds the target, the last
index when there is none, and `0` for an empty table. -/
def findPathIndexFromArclength (pathArclengthArr : List ℚ) (targetArc : ℚ) : Nat :=
  if pathArclengthArr.isEmpty then 0
  else
    match pathArclengthArr.findIdx? (fun arc => arc > targetArc) with
    | some i => i
    | none => pathArclengthArr.length - 1

/-- `fillAdditionalInfoFromPoint`: the indices of the nearest path points and their arclengths.
It throws when the path is empty or the arclength table is shorter than the path. -/
def fillAdditionalInfoFromPoint (data : AvoidancePlanningData) (lines : List AvoidLine) :
    Option (List AvoidLine) :=
  if lines.isEmpty then some lines
  else
    lines.mapM fun sl => do
      let startIdx ← findNearestIndex data.referencePath sl.startPose.position
      let startLongitudinal ← data.arclengthFromEgo[startIdx]?
      let endIdx ← findNearestIndex data.referencePath sl.endPose.position
      let endLongitudinal ← data.arclengthFromEgo[endIdx]?
      pure { sl with startIdx, startLongitudinal, endIdx, endLongitudinal }

/-- `fillAdditionalInfoFromLongitudinal` for one line: the indices found from the arclengths and
the path poses at them.  It throws when an index lies past the path. -/
def fillAdditionalInfoFromLongitudinalLine (data : AvoidancePlanningData) (line : AvoidLine) :
    Option AvoidLine := do
  let startIdx := findPathIndexFromArclength data.arclengthFromEgo line.startLongitudinal
  let startPose ← data.referencePath[startIdx]?
  let endIdx := findPathIndexFromArclength data.arclengthFromEgo line.endLongitudinal
  let endPose ← data.referencePath[endIdx]?
  pure { line with startIdx, startPose, endIdx, endPose }

/-- `fillAdditionalInfoFromLongitudinal` for an array of lines. -/
def fillAdditionalInfoFromLongitudinal (data : AvoidancePlanningData) (lines : List AvoidLine) :
    Option (List AvoidLine) :=
  lines.mapM (fillAdditionalInfoFromLongitudinalLine data)

/-! ## Exact grid values -/

/-- On a strictly increasing table an exact grid value below the last entry is mapped to the next
index. -/
theorem findPathIndexFromArclength_getElem {arc : List ℚ} (hsorted : arc.Pairwise (· < ·))
    {i : Nat} (hi : i + 1 < arc.length) :
    findPathIndexFromArclength arc (arc.get ⟨i, by omega⟩) = i + 1 := by
  have hlt := List.pairwise_iff_getElem.mp hsorted
  have hne : arc.isEmpty = false := by
    cases arc with
    | nil => simp at hi
    | cons _ _ => rfl
  have hfind : arc.findIdx? (fun a => a > arc.get ⟨i, by omega⟩) = some (i + 1) := by
    rw [List.findIdx?_eq_some_iff_getElem]
    refine ⟨hi, by simpa using hlt i (i + 1) (by omega) hi (by omega), fun j hj => ?_⟩
    simp only [List.get_eq_getElem, gt_iff_lt, decide_eq_true_eq, not_lt]
    rcases Nat.lt_succ_iff_lt_or_eq.mp hj with hj | rfl
    · exact (hlt j i (by omega) (by omega) hj).le
    · exact le_rfl
  rw [findPathIndexFromArclength, if_neg (by simp [hne]), hfind]

/-- On a three-point path with arclengths `0, 1, 2`, a line from the first to the second point
is resynced to the second and third points. -/
theorem fillAdditionalInfo_resync_moves_line :
    let pose (x : ℚ) : Pose := { position := ⟨x, 0, 0⟩, orientation := default }
    let data : AvoidancePlanningData :=
      { (default : AvoidancePlanningData) with
        referencePath := [pose 0, pose 1, pose 2], arclengthFromEgo := [0, 1, 2] }
    let line : AvoidLine := { (default : AvoidLine) with startPose := pose 0, endPose := pose 1 }
    findPathIndexFromArclength [0, 1, 2] 0 = 1 ∧
      ((fillAdditionalInfoFromPoint data [line]).bind
        (fillAdditionalInfoFromLongitudinal data)).map
          (List.map fun l => (l.startIdx, l.startPose, l.endIdx, l.endPose)) =
        some [(1, pose 1, 2, pose 2)] := by
  refine ⟨findPathIndexFromArclength_getElem (by norm_num : ([0, 1, 2] : List ℚ).Pairwise (· < ·))
    (by decide : 0 + 1 < 3), ?_⟩
  norm_num [findPathIndexFromArclength, fillAdditionalInfoFromPoint,
    fillAdditionalInfoFromLongitudinal, fillAdditionalInfoFromLongitudinalLine, findNearestIndex,
    findNearestIndexLoop, calcSquaredDistance2d, doubleMax, List.mapM.loop]

/-! ## A monotone search within the table -/

section Search

variable {arc : List ℚ}

/-- On a non-empty table the search returns an index of the table. -/
theorem findPathIndexFromArclength_lt_length (harc : arc ≠ []) (targetArc : ℚ) :
    findPathIndexFromArclength arc targetArc < arc.length := by
  have hpos : 0 < arc.length := List.length_pos.mpr harc
  unfold findPathIndexFromArclength
  rw [if_neg (by simpa using harc)]
  split
  · next i hi => exact (List.findIdx?_eq_some_iff_getElem.mp hi).1
  · omega

/-- A larger target is found no earlier, whether the table is sorted or not: the first entry
exceeding the larger target also exceeds the smaller one. -/
theorem findPathIndexFromArclength_mono {t1 t2 : ℚ} (ht : t1 ≤ t2) :
    findPathIndexFromArclength arc t1 ≤ findPathIndexFromArclength arc t2 := by
  by_cases harc : arc = []
  · simp [findPathIndexFromArclength, harc]
  have hlt := findPathIndexFromArclength_lt_length harc t1
  have hne : arc.isEmpty = false := by simpa using harc
  unfold findPathIndexFromArclength at hlt ⊢
  simp only [hne, Bool.false_eq_true, ↓reduceIte] at hlt ⊢
  cases h2 : arc.findIdx? (fun arc => arc > t2) with
  | none => show _ ≤ arc.length - 1; omega
  | some i =>
    obtain ⟨hi, hpi, -⟩ := List.findIdx?_eq_some_iff_getElem.mp h2
    have hp1 : arc[i] > t1 := lt_of_le_of_lt ht (by simpa using hpi)
    cases h1 : arc.findIdx? (fun arc => arc > t1) with
    | none => simpa [hp1] using List.findIdx?_eq_none_iff.mp h1 _ (List.getElem_mem hi)
    | some j =>
      obtain ⟨_, _, hmin⟩ := List.findIdx?_eq_some_iff_getElem.mp h1
      show j ≤ i
      by_contra hij
      exact hmin i (by omega) (by simpa using hp1)

/-- With a path as long as a non-empty table, filling one line from its longitudinal positions
succeeds, at the indices the search finds. -/
theorem fillAdditionalInfoFromLongitudinalLine_eq {data : AvoidancePlanningData}
    (harc : data.arclengthFromEgo ≠ [])
    (hlen : data.referencePath.length = data.arclengthFromEgo.length) (line : AvoidLine) :
    ∃ filled, fillAdditionalInfoFromLongitudinalLine data line = some filled ∧
      filled.startIdx = findPathIndexFromArclength data.arclengthFromEgo line.startLongitudinal ∧
      filled.endIdx = findPathIndexFromArclength data.arclengthFromEgo line.endLongitudinal := by
  have hs := findPathIndexFromArclength_lt_length harc line.startLongitudinal
  have he := findPathIndexFromArclength_lt_length harc line.endLongitudinal
  rw [← hlen] at hs he
  simp only [fillAdditionalInfoFromLongitudinalLine, List.getElem?_eq_getElem hs,
    List.getElem?_eq_getElem he]
  exact ⟨_, rfl, rfl, rfl⟩

end Search

/-- On a non-empty arclength table, sorted or not, the search is monotone in the target and
returns an index of the table.  Filling lines from their longitudinal positions on a path with as
many points as the table therefore never indexes past the path, and keeps the indices of a line
in the order of its longitudinal positions. -/
theorem findPathIndexFromArclength_mono_within (arc : List ℚ) (harc : arc ≠ []) :
    (∀ t1 t2 : ℚ, t1 ≤ t2 →
      findPathIndexFromArclength arc t1 ≤ findPathIndexFromArclength arc t2 ∧
        findPathIndexFromArclength arc t2 < arc.length) ∧
    ∀ (data : AvoidancePlanningData) (lines : List AvoidLine), data.arclengthFromEgo = arc →
      data.referencePath.length = arc.length →
      ∃ filled, fillAdditionalInfoFromLongitudinal data lines = some filled ∧
        List.Forall₂ (fun line filledLine =>
          filledLine.startIdx < data.referencePath.length ∧
            filledLine.endIdx < data.referencePath.length ∧
            (line.startLongitudinal ≤ line.endLongitudinal →
              filledLine.startIdx ≤ filledLine.endIdx)) lines filled := by
  refine ⟨fun t1 t2 ht => ⟨findPathIndexFromArclength_mono ht,
    findPathIndexFromArclength_lt_length harc t2⟩, fun data lines hdata hlen => ?_⟩
  subst hdata
  induction lines with
  | nil => exact ⟨[], rfl, .nil⟩
  | cons line lines ih =>
    obtain ⟨rest, hrest, hforall⟩ := ih
    obtain ⟨filled, hfill, hs, he⟩ := fillAdditionalInfoFromLongitudinalLine_eq harc hlen line
    refine ⟨filled :: rest, ?_, .cons ⟨?_, ?_, fun hle => ?_⟩ hforall⟩
    · simp only [fillAdditionalInfoFromLongitudinal] at hrest ⊢
      rw [List.mapM_cons, hfill, hrest]
      rfl
    · exact hs ▸ hlen ▸ findPathIndexFromArclength_lt_length harc _
    · exact he ▸ hlen ▸ findPathIndexFromArclength_lt_length harc _
    · exact hs ▸ he ▸ findPathIndexFromArclength_mono hle

/-- An unsorted table of three entries. -/
theorem findPathIndexFromArclength_mono_within_unsorted :
    ([2, 0, 1] : List ℚ) ≠ [] ∧
      ∀ t1 t2 : ℚ, t1 ≤ t2 →
        findPathIndexFromArclength [2, 0, 1] t1 ≤ findPathIndexFromArclength [2, 0, 1] t2 ∧
          findPathIndexFromArclength [2, 0, 1] t2 < 3 :=
  ⟨List.cons_ne_nil _ _,
    (findPathIndexFromArclength_mono_within [2, 0, 1] (List.cons_ne_nil _ _)).1⟩

end Avoidance
end AdaptiveCruiseControl
