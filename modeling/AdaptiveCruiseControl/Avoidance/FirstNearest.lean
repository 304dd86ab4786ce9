import AdaptiveCruiseControl.Avoidance.Arclength
import AdaptiveCruiseControl.Avoidance.RouteHandler

/-!
# The first nearest point of a path

`findFirstNearestIndex` looks for the point of a path nearest to a position, for paths that may
pass by the same place twice.  It scans like the plain search `findNearestIndex`, keeping the
best index and squared distance, but returns as soon as the distance stops decreasing after a
decrease: once the distances are finite, it stops at the end of the first strictly decreasing
run of distances.

The early return never takes the result past the plain search's: the index found is at most the
first point of least distance.  When every distance is finite the two searches agree exactly
when the point found is nearest on the whole path; on a path that comes closer again later, the
first approach is kept.

`findFirstNearestSegmentIndex` turns the point into the segment before or after it, by the sign
of the longitudinal offset: a valid segment whenever the path has two points.
`calcSignedArcLengthToFirstNearestPoint` measures along the path between the segments of two
positions.
-/

namespace AdaptiveCruiseControl
namespace Avoidance

/-- The loop of `findFirstNearestIndex` at index `i`, with the best index and squared distance
found so far and whether the distance has decreased. -/
def findFirstNearestIndexLoop (point : Point) (i minIdx : Nat) (minDist : ℚ) (decreasing : Bool) :
    List Pose → Nat
  | [] => minIdx
  | p :: ps =>
    let dist := calcSquaredDistance2d p.position point
    if dist < minDist then findFirstNearestIndexLoop point (i + 1) i dist true ps
    else if decreasing then minIdx
    else findFirstNearestIndexLoop point (i + 1) minIdx minDist decreasing ps

/-- `findFirstNearestIndex`; `validateNonEmpty` throws on an empty path. -/
def findFirstNearestIndex (points : List Pose) (point : Point) : Option Nat :=
  if points.isEmpty then none
  else some (findFirstNearestIndexLoop point 0 0 doubleMax false points)

/-- `findFirstNearestSegmentIndex`, with `motion_utils::calcLongitudinalOffsetToSegment` given as
the function `offsetToSegment`. -/
def findFirstNearestSegmentIndex (offsetToSegment : List Pose → Nat → Point → ℚ)
    (points : List Pose) (point : Point) : Option Nat := do
  let nearestIdx ← findFirstNearestIndex points point
  if nearestIdx = 0 then return 0
  if nearestIdx = points.length - 1 then return points.length - 2
  let signedLength := offsetToSegment points nearestIdx point
  if signedLength ≤ 0 then return nearestIdx - 1
  return nearestIdx

/-- `calcSignedArcLengthToFirstNearestPoint`.  On an empty path `validateNonEmpty` throws, the
exception is caught and the length is `0.0`. -/
def calcSignedArcLengthToFirstNearestPoint (geometry : Geometry)
    (offsetToSegment : List Pose → Nat → Point → ℚ) (points : List Pose)
    (srcPoint dstPoint : Point) : ℚ :=
  match findFirstNearestSegmentIndex offsetToSegment points srcPoint,
    findFirstNearestSegmentIndex offsetToSegment points dstPoint with
  | some srcSegIdx, some dstSegIdx =>
    let signedLengthOnTraj := geometry.calcSignedArcLengthIdx points srcSegIdx dstSegIdx
    let signedLengthSrcOffset := offsetToSegment points srcSegIdx srcPoint
    let signedLengthDstOffset := offsetToSegment points dstSegIdx dstPoint
    signedLengthOnTraj - signedLengthSrcOffset + signedLengthDstOffset
  | _, _ => 0.0

/-! ## The plain search -/

/-- What the plain search returns from a state: the best index so far when no remaining point
is closer than the best distance, and otherwise the first remaining point of least distance,
strictly closer than every point before it. -/
theorem findNearestIndexLoop_spec (point : Point) :
    ∀ (ps : List Pose) (i minIdx : Nat) (minDist : ℚ),
      (findNearestIndexLoop point i minIdx minDist ps = minIdx ∧
        ∀ r ∈ ps, minDist ≤ calcSquaredDistance2d r.position point) ∨
      ∃ pre q post, ps = pre ++ q :: post ∧
        findNearestIndexLoop point i minIdx minDist ps = i + pre.length ∧
        calcSquaredDistance2d q.position point < minDist ∧
        (∀ r ∈ ps, calcSquaredDistance2d q.position point ≤
          calcSquaredDistance2d r.position point) ∧
        ∀ r ∈ pre, calcSquaredDistance2d q.position point <
          calcSquaredDistance2d r.position point
  | [], _, _, _ => .inl ⟨rfl, by simp⟩
  | p :: ps, i, minIdx, minDist => by
    simp only [findNearestIndexLoop]
    split_ifs with hlt
    · -- the point is the new best: it stays best, or a closer one follows it
      right
      rcases findNearestIndexLoop_spec point ps (i + 1) i _ with ⟨hres, hall⟩ | ⟨pre, q, post,
        rfl, hres, hq, hmin, hfirst⟩
      · exact ⟨[], p, ps, rfl, by simpa using hres, hlt, by simpa using hall, by simp⟩
      · refine ⟨p :: pre, q, post, rfl, by simp [hres]; omega, hq.trans hlt, ?_, ?_⟩
        · simpa [hq.le] using hmin
        · simpa [hq] using hfirst
    · -- the point is no closer than the best so far
      rcases findNearestIndexLoop_spec point ps (i + 1) minIdx minDist with ⟨hres, hall⟩ |
        ⟨pre, q, post, rfl, hres, hq, hmin, hfirst⟩
      · exact .inl ⟨hres, by simpa [not_lt.mp hlt] using hall⟩
      · refine .inr ⟨p :: pre, q, post, rfl, by simp [hres]; omega, hq, ?_, ?_⟩
        · simpa [hq.le.trans (not_lt.mp hlt)] using hmin
        · simpa [hq.trans_le (not_lt.mp hlt)] using hfirst

theorem le_findNearestIndexLoop {point : Point} {i minIdx : Nat} (minDist : ℚ) (ps : List Pose)
    (hle : minIdx ≤ i) : minIdx ≤ findNearestIndexLoop point i minIdx minDist ps := by
  rcases findNearestIndexLoop_spec point ps i minIdx minDist with ⟨hres, -⟩ |
    ⟨pre, q, post, -, hres, -⟩ <;> omega

theorem findNearestIndex_lt_length {points : List Pose} {point : Point} {g : Nat}
    (hg : findNearestIndex points point = some g) : g < points.length := by
  unfold findNearestIndex at hg
  split_ifs at hg with hempty
  cases hg
  rcases findNearestIndexLoop_spec point points 0 0 doubleMax with ⟨hres, -⟩ |
    ⟨pre, q, post, rfl, hres, -⟩
  · rw [hres]
    exact List.length_pos.mpr (by simpa using hempty)
  · simp [hres]

/-! ## The early return -/

/-- From the same state, the early return stops no later than the plain search. -/
theorem findFirstNearestIndexLoop_le (point : Point) :
    ∀ (ps : List Pose) (i minIdx : Nat) (minDist : ℚ) (decreasing : Bool), minIdx ≤ i →
      findFirstNearestIndexLoop point i minIdx minDist decreasing ps ≤
        findNearestIndexLoop point i minIdx minDist ps
  | [], _, _, _, _, _ => le_rfl
  | p :: ps, i, minIdx, minDist, decreasing, hle => by
    simp only [findFirstNearestIndexLoop, findNearestIndexLoop]
    split_ifs
    · exact findFirstNearestIndexLoop_le point ps (i + 1) i _ true (Nat.le_succ i)
    · exact le_findNearestIndexLoop minDist ps (by omega)
    · exact findFirstNearestIndexLoop_le point ps (i + 1) minIdx minDist decreasing (by omega)

/-- The early return stops at or before the first point of least distance.  When every squared
distance is finite, it stops exactly there if and only if the point where it stops is nearest on
the whole path. -/
theorem findFirstNearestIndex_le_findNearestIndex {points : List Pose} {point : Point}
    {m g : Nat} (hm : findFirstNearestIndex points point = some m)
    (hg : findNearestIndex points point = some g) :
    m ≤ g ∧ ((∀ p ∈ points, calcSquaredDistance2d p.position point < doubleMax) →
      (m = g ↔ ∀ pm ∈ points[m]?, ∀ q ∈ points,
        calcSquaredDistance2d pm.position point ≤ calcSquaredDistance2d q.position point)) := by
  have hle : m ≤ g := by
    unfold findFirstNearestIndex at hm
    unfold findNearestIndex at hg
    split_ifs at hm hg
    rw [← Option.some.inj hm, ← Option.some.inj hg]
    exact findFirstNearestIndexLoop_le point points 0 0 doubleMax false le_rfl
  refine ⟨hle, fun hmax => ?_⟩
  unfold findNearestIndex at hg
  split_ifs at hg with hempty
  rcases findNearestIndexLoop_spec point points 0 0 doubleMax with ⟨-, hall⟩ |
    ⟨pre, q, post, hsplit, hres, -, hmin, hfirst⟩
  · -- no point lies at a finite distance, but the path has a point
    obtain ⟨p, hp⟩ := List.exists_mem_of_ne_nil points (by simpa using hempty)
    exact absurd (hall p hp) (not_le.mpr (hmax p hp))
  · obtain rfl : g = pre.length := by rw [← Option.some.inj hg, hres, zero_add]
    constructor
    · rintro rfl pm hpm
      rw [hsplit, List.getElem?_append_right le_rfl, Nat.sub_self, List.getElem?_cons_zero,
        Option.mem_some_iff] at hpm
      exact hpm ▸ hmin
    · intro hnearest
      by_contra hne
      -- a point before the first point of least distance would be at least as close as it
      have hlt : m < pre.length := by omega
      have hpm : points[m]? = some pre[m] := by
        rw [hsplit, List.getElem?_append_left hlt, List.getElem?_eq_getElem hlt]
      exact absurd (hnearest _ hpm q (by simp [hsplit]))
        (not_le.mpr (hfirst _ (List.getElem_mem hlt)))

/-- A path that comes closer again after a first approach, at squared distances `4, 1, 4, 0`:
the early return keeps the approach at index `1`, the plain search finds index `3`. -/
theorem findFirstNearestIndex_keeps_first_approach :
    let points : List Pose :=
      [⟨⟨2, 0, 0⟩, default⟩, ⟨⟨1, 0, 0⟩, default⟩, ⟨⟨2, 0, 0⟩, default⟩, ⟨⟨0, 0, 0⟩, default⟩]
    findFirstNearestIndex points ⟨0, 0, 0⟩ = some 1 ∧ findNearestIndex points ⟨0, 0, 0⟩ = some 3 ∧
      1 ≤ 3 ∧ ((∀ p ∈ points, calcSquaredDistance2d p.position ⟨0, 0, 0⟩ < doubleMax) →
        (1 = 3 ↔ ∀ pm ∈ points[1]?, ∀ q ∈ points, calcSquaredDistance2d pm.position ⟨0, 0, 0⟩ ≤
          calcSquaredDistance2d q.position ⟨0, 0, 0⟩)) :=
  have hm : findFirstNearestIndex [⟨⟨2, 0, 0⟩, default⟩, ⟨⟨1, 0, 0⟩, default⟩,
      ⟨⟨2, 0, 0⟩, default⟩, ⟨⟨0, 0, 0⟩, default⟩] ⟨0, 0, 0⟩ = some 1 := by
    norm_num [findFirstNearestIndex, findFirstNearestIndexLoop, calcSquaredDistance2d, doubleMax]
  have hg : findNearestIndex [⟨⟨2, 0, 0⟩, default⟩, ⟨⟨1, 0, 0⟩, default⟩,
      ⟨⟨2, 0, 0⟩, default⟩, ⟨⟨0, 0, 0⟩, default⟩] ⟨0, 0, 0⟩ = some 3 := by
    norm_num [findNearestIndex, findNearestIndexLoop, calcSquaredDistance2d, doubleMax]
  ⟨hm, hg, findFirstNearestIndex_le_findNearestIndex hm hg⟩

/-! ## Segments and arclength -/

theorem findFirstNearestIndex_lt_length {points : List Pose} {point : Point} {m : Nat}
    (hm : findFirstNearestIndex points point = some m) : m < points.length := by
  have hsome : (findNearestIndex points point).isSome := by
    unfold findFirstNearestIndex at hm
    unfold findNearestIndex
    split_ifs at hm ⊢
    rfl
  obtain ⟨g, hg⟩ := Option.isSome_iff_exists.mp hsome
  exact lt_of_le_of_lt (findFirstNearestIndex_le_findNearestIndex hm hg).1
    (findNearestIndex_lt_length hg)

/-- On a path of at least two points the segment found starts at the nearest point or at the
one before it, and is a segment of the path: its index is below `size - 1`. -/
theorem findFirstNearestSegmentIndex_spec (offsetToSegment : List Pose → Nat → Point → ℚ)
    {points : List Pose} (point : Point) (htwo : 2 ≤ points.length) :
    ∃ m, findFirstNearestIndex points point = some m ∧
      ∃ s, findFirstNearestSegmentIndex offsetToSegment points point = some s ∧
        s + 1 < points.length ∧ (s = m ∨ s + 1 = m) := by
  have hne : points ≠ [] := List.ne_nil_of_length_pos (by omega)
  obtain ⟨m, hm⟩ : ∃ m, findFirstNearestIndex points point = some m :=
    ⟨findFirstNearestIndexLoop point 0 0 doubleMax false points,
      by simp [findFirstNearestIndex, hne]⟩
  have hlt := findFirstNearestIndex_lt_length hm
  refine ⟨m, hm, ?_⟩
  simp only [findFirstNearestSegmentIndex, hm, Option.bind_eq_bind, Option.some_bind]
  split_ifs <;> exact ⟨_, rfl, by omega, by omega⟩

/-- A path of two points: the one segment. -/
theorem findFirstNearestSegmentIndex_two_points :
    2 ≤ [(default : Pose), default].length ∧
      ∃ m, findFirstNearestIndex [default, default] default = some m ∧
        ∃ s, findFirstNearestSegmentIndex (fun _ _ _ => 0) [default, default] default = some s ∧
          s + 1 < [(default : Pose), default].length ∧ (s = m ∨ s + 1 = m) :=
  ⟨le_rfl, findFirstNearestSegmentIndex_spec _ default le_rfl⟩

end Avoidance
end AdaptiveCruiseControl
