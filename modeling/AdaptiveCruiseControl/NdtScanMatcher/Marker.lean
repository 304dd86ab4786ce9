import AdaptiveCruiseControl.Avoidance.Types
import Mathlib.Data.List.Range

/-!
# The iteration markers of the NDT scan matcher

After each aligned scan `publish_marker` publishes one arrow marker for each pose of the
alignment's transformation array, with ids counted from `0`, and then markers with an empty pose
while the counter is below `getMaximumIterations() + 2`.  A marker published under an id already
shown replaces the old one, so the filling markers are how the arrows of an earlier, longer
alignment are cleared (the source's note: delete old marker).

The markers of one call have the ids `0` to `max n (getMaximumIterations() + 2) - 1` for `n`
poses, the `n` arrows first, coloured by the incremented counter.  So every id a call published is
published again by every later call exactly when the call had at most
`getMaximumIterations() + 2` poses: the arrows of a longer array would outlive it.

`exchange_color_crc` is not under src/; the color it computes is a parameter.  The stamp, frame,
namespace, type, action and scale are the same for every marker and are left out.
-/

namespace AdaptiveCruiseControl
namespace NdtScanMatcher

open Avoidance (Pose)

/-- What differs between the markers of `publish_marker`: the id, the pose and the color. -/
structure Marker (γ : Type) where
  id : Int
  pose : Pose
  color : γ
  deriving DecidableEq, Repr

section Markers

variable {γ : Type} (exchangeColorCrc : ℚ → γ)

/-- The first loop of `publish_marker`, from the counter `i`: each pose gets the id `i`, and the
color of the counter after `i++`. -/
def poseMarkers : Int → List Pose → List (Marker γ)
  | _, [] => []
  | i, pose :: poses =>
    ⟨i, pose, exchangeColorCrc ((1.0 * ((i + 1 : Int) : ℚ)) / 15.0)⟩ ::
      poseMarkers (i + 1) poses

/-- The second loop of `publish_marker`, from the counter `i` with `k` rounds left before it
reaches `getMaximumIterations() + 2`: each marker gets the id `i` and an empty pose. -/
def fillMarkers : Nat → Int → List (Marker γ)
  | 0, _ => []
  | k + 1, i => ⟨i, default, exchangeColorCrc 0⟩ :: fillMarkers k (i + 1)

/-- `publish_marker`, given `getMaximumIterations()`: the markers it publishes, in order.  After
the `n` poses the loop `for (; i < getMaximumIterations() + 2;)` runs
`(getMaximumIterations() + 2 - n).toNat` rounds. -/
def publishMarker (maximumIterations : Int) (poseArray : List Pose) : List (Marker γ) :=
  poseMarkers exchangeColorCrc 0 poseArray ++
    fillMarkers exchangeColorCrc (maximumIterations + 2 - poseArray.length).toNat
      poseArray.length

theorem getElem?_poseMarkers (i : Int) (poses : List Pose) (j : Nat) :
    (poseMarkers exchangeColorCrc i poses)[j]? = poses[j]?.map fun pose =>
      ⟨i + j, pose, exchangeColorCrc ((1.0 * ((i + j + 1 : Int) : ℚ)) / 15.0)⟩ := by
  induction poses generalizing i j with
  | nil => rfl
  | cons pose poses ih =>
    cases j with
    | zero => simp [poseMarkers]
    | succ j =>
      have hid : i + 1 + (j : Int) = i + ((j + 1 : Nat) : Int) := by push_cast; ring
      simp only [poseMarkers, List.getElem?_cons_succ, ih, hid]

theorem getElem?_fillMarkers (k : Nat) (i : Int) (j : Nat) :
    (fillMarkers exchangeColorCrc k i)[j]? =
      if j < k then some ⟨i + j, default, exchangeColorCrc 0⟩ else none := by
  induction k generalizing i j with
  | zero => simp [fillMarkers]
  | succ k ih =>
    cases j with
    | zero => simp [fillMarkers]
    | succ j =>
      simp only [fillMarkers, List.getElem?_cons_succ, ih, Nat.succ_lt_succ_iff]
      split_ifs
      · congr 2
        push_cast
        ring
      · rfl

@[simp] theorem length_poseMarkers (i : Int) (poses : List Pose) :
    (poseMarkers exchangeColorCrc i poses).length = poses.length := by
  induction poses generalizing i <;> simp [poseMarkers, *]

/-- Marker `j` of a call: the `j`-th pose, coloured by `j + 1`, while there are poses; then an
empty pose up to id `getMaximumIterations() + 1`; and no marker beyond. -/
theorem getElem?_publishMarker (maximumIterations : Int) (poses : List Pose) (j : Nat) :
    (publishMarker exchangeColorCrc maximumIterations poses)[j]? =
      if h : j < poses.length then
        some ⟨j, poses[j], exchangeColorCrc ((1.0 * ((j + 1 : Int) : ℚ)) / 15.0)⟩
      else if j < (maximumIterations + 2).toNat then some ⟨j, default, exchangeColorCrc 0⟩
      else none := by
  unfold publishMarker
  split_ifs with hpose hfill
  · rw [List.getElem?_append_left (by simpa using hpose), getElem?_poseMarkers,
      List.getElem?_eq_getElem hpose]
    simp
  all_goals
    rw [List.getElem?_append_right (by simpa using hpose), getElem?_fillMarkers,
      length_poseMarkers]
  · rw [if_pos (by omega)]
    congr 2
    omega
  · rw [if_neg (by omega)]

/-- The ids of a call are `0` to `max n (getMaximumIterations() + 2) - 1` for `n` poses. -/
theorem map_id_publishMarker (maximumIterations : Int) (poses : List Pose) :
    (publishMarker exchangeColorCrc maximumIterations poses).map Marker.id =
      (List.range (max poses.length (maximumIterations + 2).toNat)).map fun j : Nat =>
        (j : Int) := by
  refine List.ext_getElem? fun j => ?_
  rw [List.getElem?_map, List.getElem?_map, getElem?_publishMarker]
  split_ifs with hpose hfill
  · rw [List.getElem?_range (by omega)]
    rfl
  · rw [List.getElem?_range (by omega)]
    rfl
  · rw [List.getElem?_eq_none (by simp; omega)]
    rfl

/-- Every id an earlier call published is published again by every later call exactly when the
earlier call had at most `getMaximumIterations() + 2` poses: the filling markers then overwrite
all its arrows, and otherwise its last arrow outlives a later call with fewer poses. -/
theorem publishMarker_republishes_iff (maximumIterations : Int) (poses : List Pose) :
    (∀ poses' : List Pose, ∀ m ∈ publishMarker exchangeColorCrc maximumIterations poses,
      ∃ m' ∈ publishMarker exchangeColorCrc maximumIterations poses', m'.id = m.id) ↔
      poses.length ≤ (maximumIterations + 2).toNat := by
  have hids : ∀ (poses : List Pose) (x : Int),
      (∃ m ∈ publishMarker exchangeColorCrc maximumIterations poses, m.id = x) ↔
        ∃ j : Nat, j < max poses.length (maximumIterations + 2).toNat ∧ (j : Int) = x := by
    intro poses x
    rw [← List.mem_map (f := Marker.id), map_id_publishMarker]
    simp
  constructor
  · intro hall
    by_contra hlong
    -- the last arrow of the longer call is not among the markers of a call with no pose
    obtain ⟨m, hm, hid⟩ := (hids poses (poses.length - 1 : Nat)).mpr ⟨_, by omega, rfl⟩
    obtain ⟨j, hj, hjid⟩ := (hids [] m.id).mp (hall [] m hm)
    simp only [List.length_nil] at hj
    omega
  · intro hshort poses' m hm
    obtain ⟨j, hj, hjid⟩ := (hids poses m.id).mp ⟨m, hm, rfl⟩
    exact (hids poses' m.id).mpr ⟨j, by omega, hjid⟩

end Markers

end NdtScanMatcher
end AdaptiveCruiseControl
