import AdaptiveCruiseControl.Avoidance.Types

/-!
# Shift length and the side of an object

`calcShiftLength` turns an object's overhang and an avoid margin into the lateral shift of the
path, and `isShiftNecessary` rejects a shift towards the object.  Both read the object's side
only through `isOnRight`, and both are odd under the reflection of the scene about the path
centerline: reflecting an object negates the shift it asks for and keeps the verdict.

`isSameDirectionShift` reads the sign bit of the shift with `std::signbit`, modelled as
`shiftLength < 0`.  The two differ only at `-0.0`, which a rational cannot represent;
`calcShiftLength` never returns it, since it writes the literal `0.0` for every shift of at most
`1e-3`.
-/

namespace AdaptiveCruiseControl
namespace Avoidance

/-- `calcShiftLength`: the shift that clears the overhang by the margin; shifts of at most
`1e-3` are rounded to zero. -/
def calcShiftLength (isObjectOnRight : Bool) (overhangDist avoidMargin : ℚ) : ℚ :=
  let shiftLength :=
    if isObjectOnRight then overhangDist + avoidMargin else overhangDist - avoidMargin
  if |shiftLength| > 1e-3 then shiftLength else 0

/-- `isShiftNecessary`: the shift does not move the path towards the object. -/
def isShiftNecessary (isObjectOnRight : Bool) (shiftLength : ℚ) : Bool :=
  if isObjectOnRight && shiftLength < 0 then false
  else if !isObjectOnRight && shiftLength > 0 then false
  else true

/-- `isTargetObjectType`: the object's class has parameters and they mark it as a target. -/
def isTargetObjectType (object : PredictedObject) (parameters : AvoidanceParameters) : Bool :=
  match parameters.objectParameters object.label with
  | none => false
  | some objectParameter => objectParameter.isTarget

/-- `isVehicleTypeObject`: every class but unknown objects, pedestrians and bicycles. -/
def isVehicleTypeObject (object : ObjectData) : Bool :=
  match object.object.label with
  | .unknown => false
  | .pedestrian => false
  | .bicycle => false
  | _ => true

theorem isShiftNecessary_iff (isObjectOnRight : Bool) (shiftLength : ℚ) :
    isShiftNecessary isObjectOnRight shiftLength = true ↔
      if isObjectOnRight then 0 ≤ shiftLength else shiftLength ≤ 0 := by
  cases isObjectOnRight <;> simp [isShiftNecessary, not_lt]

/-! ## Reflection about the centerline -/

/-- The reflection of an object about the path centerline: its lateral position and its
overhang change sign, everything else stays. -/
def ObjectData.mirror (o : ObjectData) : ObjectData :=
  { o with lateral := -o.lateral, overhangDist := -o.overhangDist }

@[simp] theorem ObjectData.mirror_overhangDist (o : ObjectData) :
    o.mirror.overhangDist = -o.overhangDist := rfl

@[simp] theorem ObjectData.mirror_objectId (o : ObjectData) :
    o.mirror.objectId = o.objectId := rfl

/-- An object off the centerline changes side under the reflection. -/
theorem isOnRight_mirror {o : ObjectData} (h : o.lateral ≠ 0) :
    isOnRight o.mirror = !isOnRight o := by
  rcases lt_or_gt_of_ne h with hl | hl
  · simp [isOnRight, ObjectData.mirror, hl, hl.le, not_lt.mpr hl.le]
  · simp [isOnRight, ObjectData.mirror, hl, not_lt.mpr hl.le]

/-- Reflecting the side and the overhang negates the shift. -/
theorem calcShiftLength_neg (isObjectOnRight : Bool) (overhangDist avoidMargin : ℚ) :
    calcShiftLength (!isObjectOnRight) (-overhangDist) avoidMargin =
      -calcShiftLength isObjectOnRight overhangDist avoidMargin := by
  have hodd : ∀ s : ℚ, (if |-s| > 1e-3 then -s else 0) = -(if |s| > 1e-3 then s else 0) := by
    intro s
    rw [abs_neg]
    split <;> simp
  cases isObjectOnRight
  · simp only [calcShiftLength, Bool.not_false, Bool.false_eq_true, ↓reduceIte]
    rw [show -overhangDist + avoidMargin = -(overhangDist - avoidMargin) by ring, hodd]
  · simp only [calcShiftLength, Bool.not_true, Bool.false_eq_true, ↓reduceIte]
    rw [show -overhangDist - avoidMargin = -(overhangDist + avoidMargin) by ring, hodd]

/-- Reflecting the side and the shift keeps the verdict of `isShiftNecessary`. -/
theorem isShiftNecessary_neg (isObjectOnRight : Bool) (shiftLength : ℚ) :
    isShiftNecessary (!isObjectOnRight) (-shiftLength) =
      isShiftNecessary isObjectOnRight shiftLength := by
  cases isObjectOnRight <;> simp [isShiftNecessary, neg_pos, neg_lt_zero]

/-- The shift an object off the centerline asks for is odd under the reflection. -/
theorem calcShiftLength_mirror {o : ObjectData} (h : o.lateral ≠ 0) (avoidMargin : ℚ) :
    calcShiftLength (isOnRight o.mirror) o.mirror.overhangDist avoidMargin =
      -calcShiftLength (isOnRight o) o.overhangDist avoidMargin := by
  rw [isOnRight_mirror h, ObjectData.mirror_overhangDist, calcShiftLength_neg]

/-- The reflected object's shift is necessary exactly when the original one is. -/
theorem isShiftNecessary_mirror {o : ObjectData} (h : o.lateral ≠ 0) (avoidMargin : ℚ) :
    isShiftNecessary (isOnRight o.mirror)
        (calcShiftLength (isOnRight o.mirror) o.mirror.overhangDist avoidMargin) =
      isShiftNecessary (isOnRight o)
        (calcShiftLength (isOnRight o) o.overhangDist avoidMargin) := by
  rw [calcShiftLength_mirror h, isOnRight_mirror h, isShiftNecessary_neg]

/-! ## Same direction -/

/-- `isSameDirectionShift`: the object's side agrees with the sign bit of the shift, read as
`shiftLength < 0` (see the module note on `-0.0`). -/
def isSameDirectionShift (isObjectOnRight : Bool) (shiftLength : ℚ) : Bool :=
  isObjectOnRight == decide (shiftLength < 0)

end Avoidance
end AdaptiveCruiseControl
