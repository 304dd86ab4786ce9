import AdaptiveCruiseControl.Avoidance.Filter
import Mathlib.Data.Finset.Max
import Mathlib.Algebra.Order.Archimedean.Basic

/-!
# The lanelet-extension loop ends on every finite map

Before its loop over the objects, `filterTargetObjects` extends the current lanelets by the first
next lanelet while the lane ahead of the ego, the length of the lanelets less the arc length of the
ego along them, is shorter than the forward path length.  The loop is guarded by `rclcpp::ok()`.

It ends by its own `break` on every finite map whose lanelets have positive length, loop courses
included.  The arc length of the ego is the length of the lanelets before the first lanelet closest
to the ego, plus the projection of the ego on that lanelet.  Appending a lanelet that is not
strictly closer than every lanelet before it leaves the arc length alone and lengthens the lane
ahead by the new lanelet's length.  Appending one that is strictly closer moves the arc length onto
it, which can happen only as often as there are lanelets in the map strictly closer than the
closest one so far.  So the count of such lanelets, and between two moves the lane ahead measured
in multiples of the shortest lanelet, bound the number of rounds.
-/

namespace AdaptiveCruiseControl
namespace Avoidance

/-! ## The arc length along a lanelet sequence -/

/-- The scan of `getArcCoordinates` along a lanelet sequence. -/
structure ArcScan where
  /-- the length of the lanelets scanned -/
  passed : ℚ
  /-- the least distance to the pose of a lanelet scanned -/
  minDistance : WithTop ℚ
  /-- the arc length of the pose at the first lanelet of least distance -/
  length : ℚ

/-- One lanelet of the scan: a lanelet strictly closer than every lanelet before it takes over as
the closest one, and the arc length becomes the length passed plus the pose's projection on its
centerline. -/
def arcScanStep (geometry : Geometry) (point : Point) (scan : ArcScan) (lanelet : Lanelet) :
    ArcScan :=
  let distance := geometry.distanceToLanelet lanelet point
  if (distance : WithTop ℚ) < scan.minDistance then
    { passed := scan.passed + geometry.getLaneletLength2d lanelet, minDistance := distance
      length := scan.passed + (geometry.toArcCoordinates lanelet.centerline point).length }
  else { scan with passed := scan.passed + geometry.getLaneletLength2d lanelet }

/-- The scan of a whole lanelet sequence. -/
def arcScan (geometry : Geometry) (point : Point) (lanelets : List Lanelet) : ArcScan :=
  lanelets.foldl (arcScanStep geometry point) ⟨0, ⊤, 0⟩

/-- Modelled from the spec: `lanelet::utils::getArcCoordinates` is not under src/.  The arc
length of a pose along a lanelet sequence: the length of the lanelets before the first lanelet of
least distance to the pose, plus the arc length of the pose's projection on that lanelet's
centerline. -/
def laneletSequenceArcLength (geometry : Geometry) (lanelets : List Lanelet) (pose : Pose) : ℚ :=
  (arcScan geometry pose.position lanelets).length

section Scan

variable {geometry : Geometry} {point : Point}

@[simp] theorem arcScan_append_singleton (lanelets : List Lanelet) (lanelet : Lanelet) :
    arcScan geometry point (lanelets ++ [lanelet]) =
      arcScanStep geometry point (arcScan geometry point lanelets) lanelet :=
  List.foldl_concat _ _ _ _

@[simp] theorem arcScanStep_passed (scan : ArcScan) (lanelet : Lanelet) :
    (arcScanStep geometry point scan lanelet).passed =
      scan.passed + geometry.getLaneletLength2d lanelet := by
  simp only [arcScanStep]
  split <;> rfl

/-- The scan passes the whole length of the sequence. -/
theorem arcScan_passed (lanelets : List Lanelet) :
    (arcScan geometry point lanelets).passed = (lanelets.map geometry.getLaneletLength2d).sum := by
  induction lanelets using List.reverseRecOn with
  | nil => rfl
  | append_singleton lanelets lanelet ih =>
    rw [arcScan_append_singleton, arcScanStep_passed, ih, List.map_append, List.sum_append,
      List.map_singleton, List.sum_singleton]

/-- What one lanelet does to the scan: either it is strictly closer than every lanelet before it,
and the lane ahead becomes its length less the projection on it, or the closest lanelet stays and
the lane ahead grows by its length. -/
theorem arcScanStep_cases (geometry : Geometry) (point : Point) (scan : ArcScan)
    (lanelet : Lanelet) :
    let next := arcScanStep geometry point scan lanelet
    let distance := geometry.distanceToLanelet lanelet point
    ((distance : WithTop ℚ) < scan.minDistance ∧ next.minDistance = distance ∧
        next.passed - next.length = geometry.getLaneletLength2d lanelet -
          (geometry.toArcCoordinates lanelet.centerline point).length) ∨
      (next.minDistance = scan.minDistance ∧
        next.passed - next.length =
          scan.passed - scan.length + geometry.getLaneletLength2d lanelet) := by
  intro next distance
  simp only [next, distance, arcScanStep]
  split_ifs with hcloser
  · exact .inl ⟨hcloser, rfl, by ring⟩
  · exact .inr ⟨rfl, by ring⟩

end Scan

/-! ## One round of the loop -/

/-- The lanelet one round of the loop appends, or none when the loop breaks. -/
def extendRound (rh : RouteHandler) (geometry : Geometry) (egoPose : Pose)
    (forwardPathLength : ℚ) (extendLanelets : List Lanelet) : Option Lanelet :=
  match extendLanelets.getLast? with
  | none => none
  | some back =>
    match rh.getNextLanelets back with
    | [] => none
    | nextLanelet :: _ =>
      if (extendLanelets.map geometry.getLaneletLength2d).sum -
          (geometry.getArcCoordinates extendLanelets egoPose).length < forwardPathLength
      then some nextLanelet else none

section Round

variable {rh : RouteHandler} {geometry : Geometry} {egoPose : Pose} {forwardPathLength : ℚ}

theorem extendLaneletsLoop_succ (okTicks : Nat) (extendLanelets : List Lanelet) :
    extendLaneletsLoop rh geometry egoPose forwardPathLength (okTicks + 1) extendLanelets =
      match extendRound rh geometry egoPose forwardPathLength extendLanelets with
      | none => extendLanelets
      | some nextLanelet =>
        extendLaneletsLoop rh geometry egoPose forwardPathLength okTicks
          (extendLanelets ++ [nextLanelet]) := by
  unfold extendRound
  cases hback : extendLanelets.getLast? with
  | none => simp [extendLaneletsLoop, hback]
  | some back =>
    cases hnext : rh.getNextLanelets back with
    | nil => simp [extendLaneletsLoop, hback, hnext]
    | cons nextLanelet rest =>
      by_cases hshort : (extendLanelets.map geometry.getLaneletLength2d).sum -
          (geometry.getArcCoordinates extendLanelets egoPose).length < forwardPathLength <;>
        simp [extendLaneletsLoop, hback, hnext, hshort]

/-- A round that appends takes the first next lanelet of the last one, while the lane ahead is
shorter than the forward path length. -/
theorem extendRound_eq_some {extendLanelets : List Lanelet} {nextLanelet : Lanelet}
    (h : extendRound rh geometry egoPose forwardPathLength extendLanelets = some nextLanelet) :
    (∃ back ∈ extendLanelets, nextLanelet ∈ rh.getNextLanelets back) ∧
      (extendLanelets.map geometry.getLaneletLength2d).sum -
        (geometry.getArcCoordinates extendLanelets egoPose).length < forwardPathLength := by
  unfold extendRound at h
  split at h
  · cases h
  · next back hback =>
    split at h
    · cases h
    · next first rest hnext =>
      split_ifs at h with hshort
      cases h
      exact ⟨⟨back, List.mem_of_getLast?_eq_some hback, hnext ▸ List.mem_cons_self _ _⟩,
        hshort⟩

/-- The loop from these lanelets ends by its own `break`: past some number of rounds, more
rounds of `rclcpp::ok()` change nothing. -/
def ExtendSettles (rh : RouteHandler) (geometry : Geometry) (egoPose : Pose)
    (forwardPathLength : ℚ) (extendLanelets : List Lanelet) : Prop :=
  ∃ n, ∀ okTicks, n ≤ okTicks →
    extendLaneletsLoop rh geometry egoPose forwardPathLength okTicks extendLanelets =
      extendLaneletsLoop rh geometry egoPose forwardPathLength n extendLanelets

theorem extendSettles_of_round_none {extendLanelets : List Lanelet}
    (h : extendRound rh geometry egoPose forwardPathLength extendLanelets = none) :
    ExtendSettles rh geometry egoPose forwardPathLength extendLanelets := by
  refine ⟨0, fun okTicks _ => ?_⟩
  cases okTicks with
  | zero => rfl
  | succ okTicks => rw [extendLaneletsLoop_succ, h]; rfl

theorem extendSettles_of_round_some {extendLanelets : List Lanelet} {nextLanelet : Lanelet}
    (h : extendRound rh geometry egoPose forwardPathLength extendLanelets = some nextLanelet)
    (hnext : ExtendSettles rh geometry egoPose forwardPathLength
      (extendLanelets ++ [nextLanelet])) :
    ExtendSettles rh geometry egoPose forwardPathLength extendLanelets := by
  obtain ⟨n, hn⟩ := hnext
  refine ⟨n + 1, fun okTicks hle => ?_⟩
  obtain ⟨okTicks, rfl⟩ : ∃ k, okTicks = k + 1 := ⟨okTicks - 1, by omega⟩
  rw [extendLaneletsLoop_succ, extendLaneletsLoop_succ, h]
  exact hn okTicks (by omega)

end Round

/-! ## The measure -/

section Measure

variable {rh : RouteHandler} {geometry : Geometry} {egoPose : Pose} {forwardPathLength : ℚ}
  {map : List Lanelet}

/-- The lanelets of the map strictly closer to the point than a distance: each could still take
over as the closest lanelet. -/
def closerLanelets (geometry : Geometry) (point : Point) (map : List Lanelet)
    (distance : WithTop ℚ) : Nat :=
  map.countP fun lanelet => (geometry.distanceToLanelet lanelet point : WithTop ℚ) < distance

/-- A lanelet of the map that takes over as the closest one lowers the count. -/
theorem closerLanelets_lt {point : Point} {lanelet : Lanelet} {distance : WithTop ℚ}
    (hmem : lanelet ∈ map)
    (hcloser : (geometry.distanceToLanelet lanelet point : WithTop ℚ) < distance) :
    closerLanelets geometry point map (geometry.distanceToLanelet lanelet point) <
      closerLanelets geometry point map distance := by
  unfold closerLanelets
  rw [List.countP_eq_length_filter, List.countP_eq_length_filter]
  have hsub : (map.filter fun l => (geometry.distanceToLanelet l point : WithTop ℚ) <
      geometry.distanceToLanelet lanelet point).Sublist
        (map.filter fun l => (geometry.distanceToLanelet l point : WithTop ℚ) < distance) :=
    map.monotone_filter_right fun l hl => by
      simp only [decide_eq_true_eq] at hl ⊢
      exact hl.trans hcloser
  refine lt_of_le_of_ne hsub.length_le fun hlen => ?_
  have hin : lanelet ∈ map.filter fun l =>
      (geometry.distanceToLanelet l point : WithTop ℚ) < distance :=
    List.mem_filter.mpr ⟨hmem, decide_eq_true hcloser⟩
  rw [← hsub.eq_of_length hlen] at hin
  simp at hin

/-- The lane ahead of the ego along the lanelets, as the loop computes it. -/
def laneAhead (geometry : Geometry) (egoPose : Pose) (extendLanelets : List Lanelet) : ℚ :=
  (extendLanelets.map geometry.getLaneletLength2d).sum -
    (geometry.getArcCoordinates extendLanelets egoPose).length

variable (harc : ∀ lanelets, (geometry.getArcCoordinates lanelets egoPose).length =
  laneletSequenceArcLength geometry lanelets egoPose)
include harc

theorem laneAhead_eq (extendLanelets : List Lanelet) :
    laneAhead geometry egoPose extendLanelets =
      (arcScan geometry egoPose.position extendLanelets).passed -
        (arcScan geometry egoPose.position extendLanelets).length := by
  rw [laneAhead, harc, arcScan_passed, laneletSequenceArcLength]

/-- A round that appends a lanelet of the map either lowers the count of closer lanelets and
leaves a lane ahead of the new lanelet's length less the projection on it, or keeps the count
and lengthens the lane ahead by the new lanelet's length. -/
theorem laneAhead_append (extendLanelets : List Lanelet) {nextLanelet : Lanelet}
    (hmem : nextLanelet ∈ map) :
    (closerLanelets geometry egoPose.position map
          (arcScan geometry egoPose.position (extendLanelets ++ [nextLanelet])).minDistance <
        closerLanelets geometry egoPose.position map
          (arcScan geometry egoPose.position extendLanelets).minDistance ∧
      laneAhead geometry egoPose (extendLanelets ++ [nextLanelet]) =
        geometry.getLaneletLength2d nextLanelet -
          (geometry.toArcCoordinates nextLanelet.centerline egoPose.position).length) ∨
    (closerLanelets geometry egoPose.position map
          (arcScan geometry egoPose.position (extendLanelets ++ [nextLanelet])).minDistance =
        closerLanelets geometry egoPose.position map
          (arcScan geometry egoPose.position extendLanelets).minDistance ∧
      laneAhead geometry egoPose (extendLanelets ++ [nextLanelet]) =
        laneAhead geometry egoPose extendLanelets + geometry.getLaneletLength2d nextLanelet) := by
  simp only [laneAhead_eq harc, arcScan_append_singleton]
  rcases arcScanStep_cases geometry egoPose.position
    (arcScan geometry egoPose.position extendLanelets) nextLanelet with
    ⟨hcloser, hmin, hahead⟩ | ⟨hmin, hahead⟩
  · exact .inl ⟨hmin ▸ closerLanelets_lt hmem hcloser, hahead⟩
  · exact .inr ⟨by rw [hmin], hahead⟩

/-- From lanelets of a map closed under the successors, with at most `n` lanelets closer than the
closest one, and a lane ahead within `j` shortest lanelets of the forward path length, the loop
ends by its own `break`.  Right after a lanelet takes over as the closest one the lane ahead is
within `J` shortest lanelets, so `n * (J + 1) + j` bounds the rounds left. -/
theorem extendSettles_of_bound (hnext : ∀ l ∈ map, ∀ l' ∈ rh.getNextLanelets l, l' ∈ map)
    {m : ℚ} (hmle : ∀ l ∈ map, m ≤ geometry.getLaneletLength2d l) {J : Nat}
    (hJ : ∀ l ∈ map, forwardPathLength ≤ geometry.getLaneletLength2d l -
      (geometry.toArcCoordinates l.centerline egoPose.position).length + J * m) (μ : Nat) :
    ∀ (n j : Nat) (extendLanelets : List Lanelet), n * (J + 1) + j = μ →
      (∀ l ∈ extendLanelets, l ∈ map) →
      closerLanelets geometry egoPose.position map
        (arcScan geometry egoPose.position extendLanelets).minDistance ≤ n →
      forwardPathLength ≤ laneAhead geometry egoPose extendLanelets + j * m →
      ExtendSettles rh geometry egoPose forwardPathLength extendLanelets := by
  induction μ using Nat.strong_induction_on with
  | _ μ ih =>
    intro n j extendLanelets hμ hmap hcount hahead
    cases hround : extendRound rh geometry egoPose forwardPathLength extendLanelets with
    | none => exact extendSettles_of_round_none hround
    | some nextLanelet =>
      obtain ⟨⟨back, hback, hnextLanelet⟩, hshort⟩ := extendRound_eq_some hround
      have hmem : nextLanelet ∈ map := hnext back (hmap back hback) nextLanelet hnextLanelet
      have hmap' : ∀ l ∈ extendLanelets ++ [nextLanelet], l ∈ map := fun l hl =>
        (List.mem_append.mp hl).elim (hmap l) fun h => List.mem_singleton.mp h ▸ hmem
      refine extendSettles_of_round_some hround ?_
      rcases laneAhead_append harc extendLanelets hmem with
        ⟨hlower, hreset⟩ | ⟨hsame, hlonger⟩
      · -- the new lanelet takes over as the closest one: one closer lanelet fewer
        obtain ⟨n, rfl⟩ : ∃ n', n = n' + 1 := ⟨n - 1, by omega⟩
        have hsucc : (n + 1) * (J + 1) = n * (J + 1) + (J + 1) := Nat.succ_mul n (J + 1)
        exact ih _ (by omega) n J _ rfl hmap' (by omega) (hreset ▸ hJ nextLanelet hmem)
      · -- the closest lanelet stays: the lane ahead grows by a lanelet of the map
        have hlen := hmle nextLanelet hmem
        obtain ⟨j, rfl⟩ : ∃ j', j = j' + 1 := ⟨j - 1, by
          rcases j with _ | j
          · simp only [laneAhead] at hshort hahead; push_cast at hahead; linarith
          · omega⟩
        exact ih _ (by omega) n j _ rfl hmap' (hsame ▸ hcount) (by
          rw [hlonger]; push_cast at hahead; linarith)

end Measure

/-- A function on the lanelets of a non-empty finite map takes its least value on one of them. -/
theorem exists_min_on_map {map : List Lanelet} (hmap : map ≠ []) (f : Lanelet → ℚ) :
    ∃ l ∈ map, ∀ l' ∈ map, f l ≤ f l' := by
  obtain ⟨l, hl, hmin⟩ := map.toFinset.exists_min_image f
    ⟨_, List.mem_toFinset.mpr (List.getLast_mem hmap)⟩
  exact ⟨l, List.mem_toFinset.mp hl, fun l' hl' => hmin l' (List.mem_toFinset.mpr hl')⟩

/-- On every finite lanelet map closed under the successors whose lanelets have positive length,
cycles included, and for every ego pose, the extension loop started from lanelets of the map ends
by its own `break`: past some number of rounds, more rounds of `rclcpp::ok()` change nothing.  The
arc length of the ego is the length of the lanelets before the first lanelet closest to it plus
its projection on that lanelet. -/
theorem extendLaneletsLoop_terminates (rh : RouteHandler) (geometry : Geometry) (egoPose : Pose)
    (forwardPathLength : ℚ) (map currentLanelets : List Lanelet)
    (hcurrent : ∀ l ∈ currentLanelets, l ∈ map)
    (hnext : ∀ l ∈ map, ∀ l' ∈ rh.getNextLanelets l, l' ∈ map)
    (hlength : ∀ l ∈ map, 0 < geometry.getLaneletLength2d l)
    (harc : ∀ lanelets, (geometry.getArcCoordinates lanelets egoPose).length =
      laneletSequenceArcLength geometry lanelets egoPose) :
    ∃ n, ∀ okTicks, n ≤ okTicks →
      extendLaneletsLoop rh geometry egoPose forwardPathLength okTicks currentLanelets =
        extendLaneletsLoop rh geometry egoPose forwardPathLength n currentLanelets := by
  by_cases hmap : map = []
  · subst hmap
    have hempty : currentLanelets = [] :=
      List.eq_nil_iff_forall_not_mem.mpr fun l hl => List.not_mem_nil l (hcurrent l hl)
    subst hempty
    exact extendSettles_of_round_none rfl
  -- the shortest lanelet of the map
  obtain ⟨shortest, hshortest, hmle⟩ := exists_min_on_map hmap geometry.getLaneletLength2d
  set m := geometry.getLaneletLength2d shortest
  have hm : 0 < m := hlength shortest hshortest
  -- the least lane ahead right after a lanelet takes over as the closest one
  obtain ⟨lowest, hlowest, hlowestle⟩ := exists_min_on_map hmap fun l =>
    geometry.getLaneletLength2d l - (geometry.toArcCoordinates l.centerline egoPose.position).length
  obtain ⟨J, hJ⟩ := exists_nat_ge ((forwardPathLength - (geometry.getLaneletLength2d lowest -
    (geometry.toArcCoordinates lowest.centerline egoPose.position).length)) / m)
  obtain ⟨j, hj⟩ := exists_nat_ge
    ((forwardPathLength - laneAhead geometry egoPose currentLanelets) / m)
  rw [div_le_iff₀ hm] at hJ hj
  have hreset : ∀ l ∈ map, forwardPathLength ≤ geometry.getLaneletLength2d l -
      (geometry.toArcCoordinates l.centerline egoPose.position).length + J * m := fun l hl => by
    linarith [hlowestle l hl]
  exact extendSettles_of_bound harc hnext hmle hreset _ _ j currentLanelets rfl hcurrent le_rfl
    (by linarith)

/-- A loop course: one lanelet of length one, its own successor. -/
theorem extendLaneletsLoop_terminates_on_loop_course :
    let course : Lanelet := default
    let rh : RouteHandler := { (default : RouteHandler) with getNextLanelets := fun _ => [course] }
    let lengths : Geometry := { (default : Geometry) with getLaneletLength2d := fun _ => 1 }
    let geometry : Geometry :=
      { lengths with
        getArcCoordinates := fun lanelets pose => ⟨laneletSequenceArcLength lengths lanelets pose, 0⟩ }
    ((∀ l ∈ [course], l ∈ [course]) ∧ (∀ l ∈ [course], ∀ l' ∈ rh.getNextLanelets l, l' ∈ [course]) ∧
      (∀ l ∈ [course], 0 < geometry.getLaneletLength2d l) ∧
      ∀ lanelets, (geometry.getArcCoordinates lanelets default).length =
        laneletSequenceArcLength geometry lanelets default) ∧
    ∃ n, ∀ okTicks, n ≤ okTicks →
      extendLaneletsLoop rh geometry default 100 okTicks [course] =
        extendLaneletsLoop rh geometry default 100 n [course] := by
  intro course rh lengths geometry
  have hcurrent : ∀ l ∈ [course], l ∈ [course] := fun _ h => h
  have hnext : ∀ l ∈ [course], ∀ l' ∈ rh.getNextLanelets l, l' ∈ [course] :=
    fun _ _ _ h => h
  have hlength : ∀ l ∈ [course], 0 < geometry.getLaneletLength2d l := fun _ _ => one_pos
  have harc : ∀ lanelets, (geometry.getArcCoordinates lanelets default).length =
      laneletSequenceArcLength geometry lanelets default := fun _ => rfl
  exact ⟨⟨hcurrent, hnext, hlength, harc⟩,
    extendLaneletsLoop_terminates rh geometry default 100 [course] [course] hcurrent hnext hlength
      harc⟩

end Avoidance
end AdaptiveCruiseControl
