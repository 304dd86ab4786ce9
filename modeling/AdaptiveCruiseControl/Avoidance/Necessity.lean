import AdaptiveCruiseControl.Avoidance.Shift
import Mathlib.Data.List.Chain

/-!
# Avoidance necessity with hysteresis

`fillAvoidanceNecessity` decides whether the ego must avoid an object: whether the object's
overhang lies within a safety margin of the path.  Once the registered entry of the object
requires avoidance, the margin is widened by `hysteresis_factor_expand_rate`, so that the
decision does not flip on noise.

The check compares the absolute overhang for an object on the right and the signed overhang
for one on the left.  For an object reaching far across the centerline the two sides disagree,
so the decision is not symmetric about the centerline, unlike `calcShiftLength` and
`isShiftNecessary`.
-/

namespace AdaptiveCruiseControl
namespace Avoidance

/-- `safety_margin` of `fillAvoidanceNecessity`. -/
def necessitySafetyMargin (objectData : ObjectData) (vehicleWidth : ℚ)
    (parameters : AvoidanceParameters) : ℚ :=
  0.5 * vehicleWidth +
    (parameters.objectParameterAt objectData.object.label).safetyBufferLateral *
      objectData.distanceFactor

/-- The lambda `check_necessity` of `fillAvoidanceNecessity`. -/
def checkNecessity (objectData : ObjectData) (safetyMargin hysteresisFactor : ℚ) : Bool :=
  (isOnRight objectData && |objectData.overhangDist| < safetyMargin * hysteresisFactor) ||
    (!isOnRight objectData && objectData.overhangDist < safetyMargin * hysteresisFactor)

/-- `fillAvoidanceNecessity`. -/
def fillAvoidanceNecessity (objectData : ObjectData) (registeredObjects : List ObjectData)
    (vehicleWidth : ℚ) (parameters : AvoidanceParameters) : ObjectData :=
  let safetyMargin := necessitySafetyMargin objectData vehicleWidth parameters
  match findSameId registeredObjects objectData with
  -- First time
  | none => { objectData with avoidRequired := checkNecessity objectData safetyMargin 1 }
  | some sameIdObj =>
    -- FALSE -> FALSE or FALSE -> TRUE
    if !sameIdObj.avoidRequired then
      { objectData with avoidRequired := checkNecessity objectData safetyMargin 1 }
    -- TRUE -> ? (check with hysteresis factor)
    else
      { objectData with
        avoidRequired :=
          checkNecessity objectData safetyMargin parameters.hysteresisFactorExpandRate }

/-- The factor `fillAvoidanceNecessity` applies to the margin: the expand rate when the
registered entry requires avoidance, one otherwise. -/
def hysteresisFactor (registered : Option ObjectData) (parameters : AvoidanceParameters) : ℚ :=
  match registered with
  | some sameIdObj => if sameIdObj.avoidRequired then parameters.hysteresisFactorExpandRate else 1
  | none => 1

/-- `fillAvoidanceNecessity` writes one field: the check at the factor the registry selects. -/
theorem fillAvoidanceNecessity_eq (objectData : ObjectData) (registeredObjects : List ObjectData)
    (vehicleWidth : ℚ) (parameters : AvoidanceParameters) :
    fillAvoidanceNecessity objectData registeredObjects vehicleWidth parameters =
      { objectData with
        avoidRequired := checkNecessity objectData
          (necessitySafetyMargin objectData vehicleWidth parameters)
          (hysteresisFactor (findSameId registeredObjects objectData) parameters) } := by
  unfold fillAvoidanceNecessity hysteresisFactor
  rcases findSameId registeredObjects objectData with _ | sameIdObj
  · rfl
  · cases h : sameIdObj.avoidRequired <;> simp [h]

@[simp] theorem checkNecessity_avoidRequired_update (objectData : ObjectData) (b : Bool)
    (safetyMargin hysteresisFactor : ℚ) :
    checkNecessity { objectData with avoidRequired := b } safetyMargin hysteresisFactor =
      checkNecessity objectData safetyMargin hysteresisFactor := rfl

@[simp] theorem necessitySafetyMargin_avoidRequired_update (objectData : ObjectData) (b : Bool)
    (vehicleWidth : ℚ) (parameters : AvoidanceParameters) :
    necessitySafetyMargin { objectData with avoidRequired := b } vehicleWidth parameters =
      necessitySafetyMargin objectData vehicleWidth parameters := rfl

/-- Widening the margin never withdraws a required avoidance. -/
theorem checkNecessity_mono {objectData : ObjectData} {safetyMargin h₁ h₂ : ℚ}
    (hm : 0 ≤ safetyMargin) (hh : h₁ ≤ h₂)
    (hc : checkNecessity objectData safetyMargin h₁ = true) :
    checkNecessity objectData safetyMargin h₂ = true := by
  have hwide : safetyMargin * h₁ ≤ safetyMargin * h₂ := mul_le_mul_of_nonneg_left hh hm
  unfold checkNecessity at *
  cases h : isOnRight objectData <;> simp only [h, Bool.true_and, Bool.false_and, Bool.not_true,
    Bool.not_false, Bool.or_false, Bool.false_or, decide_eq_true_eq] at hc ⊢ <;> linarith

theorem necessitySafetyMargin_nonneg {objectData : ObjectData} {vehicleWidth : ℚ}
    {parameters : AvoidanceParameters} (hw : 0 ≤ vehicleWidth)
    (hbuf : 0 ≤ (parameters.objectParameterAt objectData.object.label).safetyBufferLateral)
    (hdf : 0 ≤ objectData.distanceFactor) :
    0 ≤ necessitySafetyMargin objectData vehicleWidth parameters := by
  have := mul_nonneg hbuf hdf
  unfold necessitySafetyMargin
  linarith

theorem one_le_hysteresisFactor (registered : Option ObjectData) {parameters : AvoidanceParameters}
    (hrate : 1 ≤ parameters.hysteresisFactorExpandRate) :
    1 ≤ hysteresisFactor registered parameters := by
  rcases registered with _ | sameIdObj
  · exact le_rfl
  · by_cases h : sameIdObj.avoidRequired <;> simp [hysteresisFactor, h, hrate]

/-! ## Mirror symmetry fails for objects reaching across the centerline -/

/-- The shift and its verdict are mirror symmetric for every object off the centerline; yet an
object right of the path whose envelope reaches 10 m left of the centerline needs no avoidance
under a 2 m margin, while its mirror image on the left does. -/
theorem fillAvoidanceNecessity_mirror_disagrees :
    (∀ o : ObjectData, o.lateral ≠ 0 → ∀ avoidMargin : ℚ,
      calcShiftLength (isOnRight o.mirror) o.mirror.overhangDist avoidMargin =
          -calcShiftLength (isOnRight o) o.overhangDist avoidMargin ∧
        isShiftNecessary (isOnRight o.mirror)
            (calcShiftLength (isOnRight o.mirror) o.mirror.overhangDist avoidMargin) =
          isShiftNecessary (isOnRight o)
            (calcShiftLength (isOnRight o) o.overhangDist avoidMargin)) ∧
    let objectData : ObjectData :=
      { (default : ObjectData) with lateral := -1, overhangDist := 10, distanceFactor := 1 }
    let parameters :=
      AvoidanceParameters.uniform { (default : ObjectParameter) with safetyBufferLateral := 1 }
    (fillAvoidanceNecessity objectData [] 2 parameters).avoidRequired = false ∧
      (fillAvoidanceNecessity objectData.mirror [] 2 parameters).avoidRequired = true := by
  refine ⟨fun o h avoidMargin =>
    ⟨calcShiftLength_mirror h avoidMargin, isShiftNecessary_mirror h avoidMargin⟩, ?_⟩
  norm_num [fillAvoidanceNecessity_eq, checkNecessity, necessitySafetyMargin, isOnRight,
    ObjectData.mirror, findSameId, hysteresisFactor]

/-! ## Hysteresis over planning cycles -/

section Hysteresis

variable {vehicleWidth : ℚ} {parameters : AvoidanceParameters}

/-- What hysteresis allows between the results of two consecutive cycles: a rise only where
the unexpanded check holds, a fall only where the expanded check fails. -/
def HysteresisStep (vehicleWidth : ℚ) (parameters : AvoidanceParameters)
    (previous current : ObjectData) : Prop :=
  (previous.avoidRequired = false → current.avoidRequired = true →
      checkNecessity current (necessitySafetyMargin current vehicleWidth parameters) 1 = true) ∧
  (previous.avoidRequired = true → current.avoidRequired = false →
      checkNecessity current (necessitySafetyMargin current vehicleWidth parameters)
        parameters.hysteresisFactorExpandRate = false)

/-- One cycle that receives the previous result of the same object as its registered entry. -/
theorem hysteresisStep_fillAvoidanceNecessity {previous : ObjectData} (objectData : ObjectData)
    (hid : previous.objectId = objectData.objectId) :
    HysteresisStep vehicleWidth parameters previous
      (fillAvoidanceNecessity objectData [previous] vehicleWidth parameters) := by
  have hfind : findSameId [previous] objectData = some previous := by
    simp [findSameId, sameIdAs, hid]
  rw [fillAvoidanceNecessity_eq, hfind]
  constructor
  · intro hprev hnow
    simpa [hysteresisFactor, hprev] using hnow
  · intro hprev hnow
    simpa [hysteresisFactor, hprev] using hnow

/-- Planning cycles of `fillAvoidanceNecessity` on one object, each receiving the previous
cycle's result as the registered entry of the object. -/
def necessityRun (vehicleWidth : ℚ) (parameters : AvoidanceParameters) :
    Option ObjectData → List ObjectData → List ObjectData
  | _, [] => []
  | registered, objectData :: rest =>
    let filled := fillAvoidanceNecessity objectData registered.toList vehicleWidth parameters
    filled :: necessityRun vehicleWidth parameters (some filled) rest

/-- Over any run on one object, hysteresis never drops a needed avoidance, raises
`avoid_required` only where the unexpanded check holds, and lowers it only where the check
expanded by `hysteresis_factor_expand_rate` fails.  The registered entry of the first cycle
is any earlier result for the object, or none. -/
theorem necessityRun_hysteresis (registered : Option ObjectData) (cycles : List ObjectData)
    (id : UUID) (hrate : 1 ≤ parameters.hysteresisFactorExpandRate) (hw : 0 ≤ vehicleWidth)
    (hbuf : ∀ l, 0 ≤ (parameters.objectParameterAt l).safetyBufferLateral)
    (hdf : ∀ o ∈ cycles, 0 ≤ o.distanceFactor) (hid : ∀ o ∈ cycles, o.objectId = id)
    (hreg : ∀ r ∈ registered, r.objectId = id) :
    let results := necessityRun vehicleWidth parameters registered cycles
    (∀ o ∈ results, checkNecessity o (necessitySafetyMargin o vehicleWidth parameters) 1 = true →
        o.avoidRequired = true) ∧
      List.Chain' (HysteresisStep vehicleWidth parameters) (registered.toList ++ results) := by
  induction cycles generalizing registered with
  | nil => cases registered <;> simp [necessityRun, List.chain'_singleton]
  | cons objectData rest ih =>
    simp only [List.mem_cons, forall_eq_or_imp] at hdf hid
    have hnext := ih (some (fillAvoidanceNecessity objectData registered.toList vehicleWidth
      parameters)) hdf.2 hid.2
      (fun r hr => by cases hr; rw [fillAvoidanceNecessity_eq]; exact hid.1)
    refine ⟨?_, ?_⟩
    · simp only [necessityRun, List.mem_cons, forall_eq_or_imp]
      refine ⟨fun hc => ?_, hnext.1⟩
      rw [fillAvoidanceNecessity_eq] at hc ⊢
      simp only [checkNecessity_avoidRequired_update,
        necessitySafetyMargin_avoidRequired_update] at hc ⊢
      exact checkNecessity_mono
        (necessitySafetyMargin_nonneg hw (hbuf _) hdf.1) (one_le_hysteresisFactor _ hrate) hc
    · refine chain'_toList_append (fun previous hprev => ?_) hnext.2
      cases hprev
      exact hysteresisStep_fillAvoidanceNecessity objectData ((hreg previous rfl).trans hid.1.symm)

/-- Two cycles of one object moving into the path, under an expand rate of two. -/
theorem necessityRun_hysteresis_two_cycles :
    let parameters : AvoidanceParameters :=
      { AvoidanceParameters.uniform { (default : ObjectParameter) with safetyBufferLateral := 1 }
        with hysteresisFactorExpandRate := 2 }
    let results := necessityRun 2 parameters none
      [{ (default : ObjectData) with overhangDist := 3, distanceFactor := 1 },
       { (default : ObjectData) with overhangDist := 1, distanceFactor := 1 }]
    (∀ o ∈ results, checkNecessity o (necessitySafetyMargin o 2 parameters) 1 = true →
        o.avoidRequired = true) ∧
      List.Chain' (HysteresisStep 2 parameters) results := by
  intro parameters results
  refine necessityRun_hysteresis none _ (default : ObjectData).objectId
    (show (1 : ℚ) ≤ 2 by norm_num) (by norm_num) (fun _ => show (0 : ℚ) ≤ 1 by norm_num)
    ?_ ?_ (by simp)
  all_goals
    intro o ho
    simp only [List.mem_cons, List.mem_singleton, List.not_mem_nil, or_false] at ho
    rcases ho with rfl | rfl
  all_goals rfl

end Hysteresis

end Avoidance
end AdaptiveCruiseControl
