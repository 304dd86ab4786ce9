import AdaptiveCruiseControl.Avoidance.FirstNearest
import AdaptiveCruiseControl.Avoidance.Shift
import Mathlib.Algebra.Order.Group.MinMax

/-!
# The overhang of an object's envelope

`calcEnvelopeOverhangDistance` walks the outer ring of an object's envelope polygon, measures the
lateral deviation of each vertex from the path pose nearest to it, and keeps the deviation that
reaches furthest towards the path: the largest one for an object right of the path, the smallest
one for an object on its left, starting from `-100` and `100`.  The vertex of the first deviation
that improves on the running value is written to `overhang_pose`.

The left side is the right side with every deviation negated (`overhangLoop_left`), so the loop
is specified once, on the right: its result is reached, by the starting value or by a vertex, and
no vertex lies beyond it; the pose is the first vertex that reaches it.  The shift that
`calcShiftLength` derives from the overhang then clears every vertex of the envelope by the
avoid margin, up to the `1e-3` below which a shift is dropped.

`calcLateralDeviation` turns the pose's quaternion into a heading, which is not rational: it is
a parameter every result is quantified over.
-/

namespace AdaptiveCruiseControl
namespace Avoidance

/-- `tier4_autoware_utils::createPoint(x, y, z)`. -/
def createPoint (x y z : ℚ) : Point := ⟨x, y, z⟩

/-- The lateral deviation of an envelope vertex from the path pose nearest to it, as the loop of
`calcEnvelopeOverhangDistance` computes it; `none` where `findNearestIndex` throws. -/
def lateralDeviationAt (calcLateralDeviation : Pose → Point → ℚ) (path : List Pose)
    (p : Point2d) : Option ℚ := do
  let point := createPoint p.x p.y 0
  let idx ← findNearestIndex path point
  let base ← path[idx]?
  pure (calcLateralDeviation base point)

/-- The loop of `calcEnvelopeOverhangDistance` over the remaining vertices, with the overhang
and the overhang pose so far.  `overhang_pose_on_right` keeps the larger deviation and
`overhang_pose_on_left` the smaller; each moves the pose to the vertex only when its deviation
is strictly beyond the running value. -/
def overhangLoop (lateralOf : Point2d → Option ℚ) (onRight : Bool) :
    Polygon2d → ℚ → Point → Option (ℚ × Point)
  | [], largestOverhang, overhangPose => some (largestOverhang, overhangPose)
  | p :: ps, largestOverhang, overhangPose => do
    let point := createPoint p.x p.y 0
    let lateral ← lateralOf p
    if onRight then
      overhangLoop lateralOf onRight ps (max largestOverhang lateral)
        (if lateral > largestOverhang then point else overhangPose)
    else
      overhangLoop lateralOf onRight ps (min largestOverhang lateral)
        (if lateral < largestOverhang then point else overhangPose)

/-- `calcEnvelopeOverhangDistance`: the overhang of the object's envelope, and the
`overhang_pose` the C++ writes through its reference argument; `none` where the loop throws. -/
def calcEnvelopeOverhangDistance (calcLateralDeviation : Pose → Point → ℚ)
    (objectData : ObjectData) (path : List Pose) (overhangPose : Point) :
    Option (ℚ × Point) :=
  overhangLoop (lateralDeviationAt calcLateralDeviation path) (isOnRight objectData)
    objectData.envelopePoly (if isOnRight objectData then -100 else 100) overhangPose

/-- On a path with a point every vertex has a deviation. -/
theorem lateralDeviationAt_isSome (calcLateralDeviation : Pose → Point → ℚ) {path : List Pose}
    (hpath : path ≠ []) (p : Point2d) :
    (lateralDeviationAt calcLateralDeviation path p).isSome := by
  have hidx : (findNearestIndex path (createPoint p.x p.y 0)).isSome := by
    simp [findNearestIndex, hpath]
  obtain ⟨idx, hidx⟩ := Option.isSome_iff_exists.mp hidx
  simp [lateralDeviationAt, hidx, List.getElem?_eq_getElem (findNearestIndex_lt_length hidx)]

/-! ## The loop -/

/-- The left side is the right side with every deviation and the running value negated. -/
theorem overhangLoop_left (lateralOf : Point2d → Option ℚ) (ps : Polygon2d) (largest : ℚ)
    (pose : Point) :
    overhangLoop lateralOf false ps largest pose =
      (overhangLoop (fun p => (lateralOf p).map Neg.neg) true ps (-largest) pose).map
        fun r => (-r.1, r.2) := by
  induction ps generalizing largest pose with
  | nil => simp [overhangLoop]
  | cons p ps ih =>
    cases hp : lateralOf p with
    | none => simp [overhangLoop, hp]
    | some lateral =>
      simp only [overhangLoop, hp, Option.bind_eq_bind, Option.some_bind, Option.map_some',
        Bool.false_eq_true, if_false, if_true, ih, max_neg_neg, gt_iff_lt, neg_lt_neg_iff]

/-- The right-side loop returns a value reached either by the starting value, with the pose
unchanged, or by a first vertex strictly beyond the starting value and every vertex before it;
neither the starting value nor any vertex lies beyond it. -/
theorem overhangLoop_right_spec {lateralOf : Point2d → Option ℚ} {lat : Point2d → ℚ}
    {ps : Polygon2d} (hlat : ∀ p ∈ ps, lateralOf p = some (lat p)) (largest : ℚ) (pose : Point) :
    ∃ r pose', overhangLoop lateralOf true ps largest pose = some (r, pose') ∧
      largest ≤ r ∧ (∀ p ∈ ps, lat p ≤ r) ∧
      ((r = largest ∧ pose' = pose) ∨
        ∃ pre p post, ps = pre ++ p :: post ∧ largest < r ∧ r = lat p ∧
          pose' = createPoint p.x p.y 0 ∧ ∀ q ∈ pre, lat q < r) := by
  induction ps generalizing largest pose with
  | nil => exact ⟨largest, pose, rfl, le_rfl, by simp, .inl ⟨rfl, rfl⟩⟩
  | cons p ps ih =>
    obtain ⟨r, pose', hloop, hle, hall, hreach⟩ :=
      ih (fun q hq => hlat q (List.mem_cons_of_mem p hq)) (max largest (lat p))
        (if lat p > largest then createPoint p.x p.y 0 else pose)
    refine ⟨r, pose', ?_, (le_max_left _ _).trans hle, ?_, ?_⟩
    · simpa [overhangLoop, hlat p (List.mem_cons_self p ps)] using hloop
    · simpa using ⟨(le_max_right _ _).trans hle, hall⟩
    rcases hreach with ⟨rfl, rfl⟩ | ⟨pre, q, post, rfl, hlt, rfl, rfl, hpre⟩
    · -- nothing after `p` goes beyond the value `p` leaves
      by_cases hp : lat p > largest
      · exact .inr ⟨[], p, ps, rfl, lt_max_of_lt_right hp, max_eq_right hp.le, if_pos hp, by simp⟩
      · exact .inl ⟨max_eq_left (not_lt.mp hp), if_neg hp⟩
    · -- a later vertex goes beyond it, and so beyond `p`
      obtain ⟨hlarge, hp⟩ := max_lt_iff.mp hlt
      exact .inr ⟨p :: pre, q, post, rfl, hlarge, rfl, rfl, by simpa using ⟨hp, hpre⟩⟩

/-- The loop on either side: its value is reached by the starting value, with the pose
unchanged, or by a first vertex strictly beyond the starting value and every vertex before it,
and no vertex lies beyond it. -/
theorem overhangLoop_spec (onRight : Bool) {lateralOf : Point2d → Option ℚ} {lat : Point2d → ℚ}
    {ps : Polygon2d} (hlat : ∀ p ∈ ps, lateralOf p = some (lat p)) (largest : ℚ) (pose : Point) :
    ∃ r pose', overhangLoop lateralOf onRight ps largest pose = some (r, pose') ∧
      (∀ p ∈ ps, if onRight then lat p ≤ r else r ≤ lat p) ∧
      ((r = largest ∧ pose' = pose) ∨
        ∃ pre p post, ps = pre ++ p :: post ∧ (if onRight then largest < r else r < largest) ∧
          r = lat p ∧ pose' = createPoint p.x p.y 0 ∧
          ∀ q ∈ pre, if onRight then lat q < r else r < lat q) := by
  cases onRight with
  | true =>
    obtain ⟨r, pose', hloop, -, hall, hreach⟩ := overhangLoop_right_spec hlat largest pose
    exact ⟨r, pose', hloop, by simpa using hall, by simpa using hreach⟩
  | false =>
    have hneg : ∀ p ∈ ps, (lateralOf p).map Neg.neg = some (-lat p) := fun p hp => by
      simp [hlat p hp]
    obtain ⟨r, pose', hloop, -, hall, hreach⟩ := overhangLoop_right_spec hneg (-largest) pose
    refine ⟨-r, pose', by simp [overhangLoop_left, hloop], fun p hp => ?_, ?_⟩
    · simpa [neg_le] using hall p hp
    rcases hreach with ⟨rfl, rfl⟩ | ⟨pre, p, post, hsplit, hlt, rfl, hpose, hpre⟩
    · exact .inl ⟨neg_neg largest, rfl⟩
    · exact .inr ⟨pre, p, post, hsplit, by simpa [neg_lt] using hlt, neg_neg (lat p), hpose,
        fun q hq => by simpa [neg_lt] using hpre q hq⟩

/-! ## The shift clears the envelope -/

/-- A shift away from an object on the right passes left of every point at or right of the
overhang by the avoid margin, less the `1e-3` below which the shift is dropped. -/
theorem calcShiftLength_sub_ge_of_le {lateral overhang : ℚ} (avoidMargin : ℚ)
    (h : lateral ≤ overhang) :
    avoidMargin - 1 / 1000 ≤ calcShiftLength true overhang avoidMargin - lateral := by
  have hdrop : (1e-3 : ℚ) = 1 / 1000 := by norm_num
  simp only [calcShiftLength, if_true, hdrop]
  split_ifs
  · linarith
  · linarith [le_abs_self (overhang + avoidMargin)]

/-- The same on the left, by the reflection `calcShiftLength_neg`. -/
theorem sub_calcShiftLength_ge_of_le {lateral overhang : ℚ} (avoidMargin : ℚ)
    (h : overhang ≤ lateral) :
    avoidMargin - 1 / 1000 ≤ lateral - calcShiftLength false overhang avoidMargin := by
  have hright := calcShiftLength_sub_ge_of_le avoidMargin (neg_le_neg h)
  have hneg := calcShiftLength_neg true (-overhang) avoidMargin
  simp only [Bool.not_true, neg_neg] at hneg
  linarith

/-! ## The overhang -/

section Overhang

variable (calcLateralDeviation : Pose → Point → ℚ) (objectData : ObjectData) {path : List Pose}

/-- On a path with a point the overhang is returned.  No vertex of the envelope lies beyond it
on the object's side, and it is either the starting value `∓100`, with `overhang_pose`
unchanged, or the deviation of the first vertex that goes beyond the starting value and every
vertex before it, which becomes the new `overhang_pose`. -/
theorem calcEnvelopeOverhangDistance_spec (hpath : path ≠ []) (overhangPose : Point) :
    ∃ overhang pose',
      calcEnvelopeOverhangDistance calcLateralDeviation objectData path overhangPose =
        some (overhang, pose') ∧
      (∀ p ∈ objectData.envelopePoly, ∀ lateral ∈ lateralDeviationAt calcLateralDeviation path p,
        if isOnRight objectData then lateral ≤ overhang else overhang ≤ lateral) ∧
      ((overhang = (if isOnRight objectData then -100 else 100) ∧ pose' = overhangPose) ∨
        ∃ pre p post, objectData.envelopePoly = pre ++ p :: post ∧
          (if isOnRight objectData then -100 < overhang else overhang < 100) ∧
          lateralDeviationAt calcLateralDeviation path p = some overhang ∧
          pose' = createPoint p.x p.y 0 ∧
          ∀ q ∈ pre, ∀ lateral ∈ lateralDeviationAt calcLateralDeviation path q,
            if isOnRight objectData then lateral < overhang else overhang < lateral) := by
  have hlat := fun p => (Option.some_get (lateralDeviationAt_isSome calcLateralDeviation hpath p))
  obtain ⟨r, pose', hloop, hall, hreach⟩ := overhangLoop_spec (isOnRight objectData)
    (fun p _ => (hlat p).symm) (if isOnRight objectData then -100 else 100) overhangPose
  refine ⟨r, pose', hloop, fun p hp lateral hl => ?_, ?_⟩
  · rw [← hlat p, Option.mem_some_iff] at hl
    exact hl ▸ hall p hp
  rcases hreach with hstart | ⟨pre, p, post, hsplit, hlt, rfl, hpose, hpre⟩
  · exact .inl hstart
  · refine .inr ⟨pre, p, post, hsplit, by split_ifs at hlt ⊢ <;> exact hlt,
      (hlat p).symm, hpose, fun q hq lateral hl => ?_⟩
    rw [← hlat q, Option.mem_some_iff] at hl
    exact hl ▸ hpre q hq

/-- An object right of a path along the `x` axis, with vertices at `y = -3` and `y = -1`. -/
theorem calcEnvelopeOverhangDistance_spec_beside_axis :
    let calcLateralDeviation : Pose → Point → ℚ := fun base point => point.y - base.position.y
    let objectData : ObjectData :=
      { (default : ObjectData) with lateral := -2, envelopePoly := [⟨0, -3⟩, ⟨1, -1⟩] }
    let path : List Pose := [default]
    path ≠ [] ∧
    ∃ overhang pose',
      calcEnvelopeOverhangDistance calcLateralDeviation objectData path default =
        some (overhang, pose') ∧
      (∀ p ∈ objectData.envelopePoly, ∀ lateral ∈ lateralDeviationAt calcLateralDeviation path p,
        if isOnRight objectData then lateral ≤ overhang else overhang ≤ lateral) ∧
      ((overhang = (if isOnRight objectData then -100 else 100) ∧ pose' = default) ∨
        ∃ pre p post, objectData.envelopePoly = pre ++ p :: post ∧
          (if isOnRight objectData then -100 < overhang else overhang < 100) ∧
          lateralDeviationAt calcLateralDeviation path p = some overhang ∧
          pose' = createPoint p.x p.y 0 ∧
          ∀ q ∈ pre, ∀ lateral ∈ lateralDeviationAt calcLateralDeviation path q,
            if isOnRight objectData then lateral < overhang else overhang < lateral) :=
  ⟨by simp, calcEnvelopeOverhangDistance_spec _ _ (by simp) _⟩

/-- The shift `calcShiftLength` derives from the overhang clears every vertex of the envelope by
the avoid margin, less the `1e-3` below which a shift is dropped: the shifted path passes left of
every vertex of an object on the right, and right of every vertex of one on the left. -/
theorem calcShiftLength_clears_envelope (hpath : path ≠ []) (overhangPose : Point)
    (avoidMargin : ℚ) :
    ∃ overhang pose',
      calcEnvelopeOverhangDistance calcLateralDeviation objectData path overhangPose =
        some (overhang, pose') ∧
      ∀ p ∈ objectData.envelopePoly, ∀ lateral ∈ lateralDeviationAt calcLateralDeviation path p,
        avoidMargin - 1 / 1000 ≤
          if isOnRight objectData then
            calcShiftLength (isOnRight objectData) overhang avoidMargin - lateral
          else lateral - calcShiftLength (isOnRight objectData) overhang avoidMargin := by
  have hlat := fun p => (Option.some_get (lateralDeviationAt_isSome calcLateralDeviation hpath p))
  obtain ⟨r, pose', hloop, hall, -⟩ := overhangLoop_spec (isOnRight objectData)
    (fun p _ => (hlat p).symm) (if isOnRight objectData then -100 else 100) overhangPose
  refine ⟨r, pose', hloop, fun p hp lateral hl => ?_⟩
  rw [← hlat p, Option.mem_some_iff] at hl
  have hbeyond := hl ▸ hall p hp
  split_ifs at hbeyond ⊢ with hside
  · rw [hside]
    exact calcShiftLength_sub_ge_of_le avoidMargin hbeyond
  · rw [Bool.not_eq_true] at hside
    rw [hside]
    exact sub_calcShiftLength_ge_of_le avoidMargin hbeyond

/-- The same object, with an avoid margin of `1`. -/
theorem calcShiftLength_clears_envelope_beside_axis :
    let calcLateralDeviation : Pose → Point → ℚ := fun base point => point.y - base.position.y
    let objectData : ObjectData :=
      { (default : ObjectData) with lateral := -2, envelopePoly := [⟨0, -3⟩, ⟨1, -1⟩] }
    let path : List Pose := [default]
    path ≠ [] ∧
    ∃ overhang pose',
      calcEnvelopeOverhangDistance calcLateralDeviation objectData path default =
        some (overhang, pose') ∧
      ∀ p ∈ objectData.envelopePoly, ∀ lateral ∈ lateralDeviationAt calcLateralDeviation path p,
        1 - 1 / 1000 ≤
          if isOnRight objectData then calcShiftLength (isOnRight objectData) overhang 1 - lateral
          else lateral - calcShiftLength (isOnRight objectData) overhang 1 :=
  ⟨by simp, calcShiftLength_clears_envelope _ _ (by simp) _ 1⟩

end Overhang

end Avoidance
end AdaptiveCruiseControl
