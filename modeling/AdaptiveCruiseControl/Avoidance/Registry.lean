import AdaptiveCruiseControl.Avoidance.Types

/-!
# Registered objects

`updateRegisteredObject` keeps the objects of earlier planning cycles.  A backward loop over the
registry overwrites each entry with the detection of the same id or, failing that, with the
first detection within `POS_THR` of its position, and erases the entries lost for longer than
`object_last_seen_threshold`.  A second loop appends the detections whose id is not registered
yet.  `compensateDetectionLost` then re-inserts the registered objects that are missing from the
current detections.

The position fallback overwrites an entry with a detection of another id without checking that
this id is free: two entries can end up with one id.  `compensateDetectionLost` checks each
re-inserted object against the growing detection list: it re-inserts, in registry order, one
entry for every id that is registered but neither detected nor ignored, and never repeats an id.
-/

namespace AdaptiveCruiseControl
namespace Avoidance

/-- `POS_THR` of `updateRegisteredObject`. -/
def posThr : ℚ := 1.5

/-- The lambda `updateIfDetectedNow`: the detection that overwrites a registered object, by id
first, then the first one within `POS_THR` of its position (`calcDistance2d < POS_THR`, decided
on squares). -/
def updateIfDetectedNow (nowObjects : List ObjectData) (registeredObject : ObjectData) :
    Option ObjectData :=
  match findSameId nowObjects registeredObject with
  | some sameIdObj => some sameIdObj
  | none =>
    nowObjects.find? fun o =>
      calcSquaredDistance2d registeredObject.object.pose.position o.object.pose.position <
        posThr ^ 2

/-- The body of the backward loop before the erase test: a detected entry is overwritten and
marked seen, a lost one counts its lost time. -/
def refreshRegisteredObject (nowObjects : List ObjectData) (now : ℚ) (r : ObjectData) :
    ObjectData :=
  match updateIfDetectedNow nowObjects r with
  | some detected => { detected with lastSeen := now, lostTime := 0 }
  | none => { r with lostTime := now - r.lastSeen }

/-- The backward loop at index `i`: refresh the entry, and erase it when it has been lost for
longer than the threshold. -/
def checkRegisteredAt (nowObjects : List ObjectData) (threshold now : ℚ) (i : Nat)
    (registeredObjects : List ObjectData) : List ObjectData :=
  match registeredObjects[i]? with
  | none => registeredObjects
  | some r =>
    let r := refreshRegisteredObject nowObjects now r
    if r.lostTime > threshold then registeredObjects.eraseIdx i else registeredObjects.set i r

/-- `for (int i = size - 1; i >= 0; --i)`: `checkRegisteredLoop n` visits `n - 1` down to `0`. -/
def checkRegisteredLoop (nowObjects : List ObjectData) (threshold now : ℚ) :
    Nat → List ObjectData → List ObjectData
  | 0, registeredObjects => registeredObjects
  | i + 1, registeredObjects =>
    checkRegisteredLoop nowObjects threshold now i
      (checkRegisteredAt nowObjects threshold now i registeredObjects)

/-- The lambda `isAlreadyRegistered`. -/
def isAlreadyRegistered (registeredObjects : List ObjectData) (id : UUID) : Bool :=
  registeredObjects.any fun o => o.objectId == id

/-- `updateRegisteredObject`, with the clock reading `now` of the call. -/
def updateRegisteredObject (registeredObjects nowObjects : List ObjectData)
    (parameters : AvoidanceParameters) (now : ℚ) : List ObjectData :=
  let registeredObjects :=
    checkRegisteredLoop nowObjects parameters.objectLastSeenThreshold now
      registeredObjects.length registeredObjects
  -- check now_objects, add it if it has new object id
  nowObjects.foldl (fun registeredObjects nowObj =>
    if !isAlreadyRegistered registeredObjects nowObj.objectId then registeredObjects ++ [nowObj]
    else registeredObjects) registeredObjects

/-- `compensateDetectionLost`: the detections of this cycle, followed by the registered objects
that are neither detected nor ignored. -/
def compensateDetectionLost (registeredObjects nowObjects otherObjects : List ObjectData) :
    List ObjectData :=
  registeredObjects.foldl (fun nowObjects registered =>
    if !nowObjects.any (fun o => o.objectId == registered.objectId) &&
        !otherObjects.any (fun o => o.objectId == registered.objectId) then
      nowObjects ++ [registered]
    else nowObjects) nowObjects

/-! ## Re-inserting lost objects repeats no id -/

/-- The test of the loop body: neither a detected nor an ignored object has the id. -/
theorem lost_iff {nowObjects otherObjects : List ObjectData} {id : UUID} :
    (!nowObjects.any (fun o => o.objectId == id) &&
        !otherObjects.any (fun o => o.objectId == id)) = true ↔
      id ∉ nowObjects.map ObjectData.objectId ∧ id ∉ otherObjects.map ObjectData.objectId := by
  simp

/-- `compensateDetectionLost` appends to the detections exactly the registered objects that are
lost: the appended objects are registry entries, in registry order, whose ids are neither
detected nor ignored; every registry entry whose id is neither has its id appended; and no id is
appended twice. -/
theorem compensateDetectionLost_eq_append (registeredObjects nowObjects otherObjects :
    List ObjectData) :
    ∃ added, compensateDetectionLost registeredObjects nowObjects otherObjects =
      nowObjects ++ added ∧ added.Sublist registeredObjects ∧
      (∀ a ∈ added, a.objectId ∉ nowObjects.map ObjectData.objectId ∧
        a.objectId ∉ otherObjects.map ObjectData.objectId) ∧
      (∀ r ∈ registeredObjects, r.objectId ∉ nowObjects.map ObjectData.objectId →
        r.objectId ∉ otherObjects.map ObjectData.objectId →
        r.objectId ∈ added.map ObjectData.objectId) ∧
      (added.map ObjectData.objectId).Nodup := by
  unfold compensateDetectionLost
  induction registeredObjects generalizing nowObjects with
  | nil => exact ⟨[], by simp⟩
  | cons r rs ih =>
    simp only [List.foldl_cons]
    split
    · -- `r` is lost: it is appended, and the rest is compensated against the longer list
      rename_i hlost
      obtain ⟨hnow, hother⟩ := lost_iff.mp hlost
      obtain ⟨added, heq, hsub, hfresh, hall, hnodup⟩ := ih (nowObjects ++ [r])
      have hfresh' : ∀ a ∈ added, a.objectId ∉ nowObjects.map ObjectData.objectId ∧
          a.objectId ≠ r.objectId ∧ a.objectId ∉ otherObjects.map ObjectData.objectId :=
        fun a ha => by simpa [not_or, and_assoc] using hfresh a ha
      refine ⟨r :: added, by rw [heq]; simp, hsub.cons₂ r, ?_, fun r' hr' hn ho => ?_, ?_⟩
      · simp only [List.mem_cons, forall_eq_or_imp]
        exact ⟨⟨hnow, hother⟩, fun a ha => ⟨(hfresh' a ha).1, (hfresh' a ha).2.2⟩⟩
      · rcases List.mem_cons.mp hr' with rfl | hr'
        · exact List.mem_cons_self _ _
        by_cases hid : r'.objectId = r.objectId
        · simp [hid]
        · exact List.mem_cons_of_mem _ (hall r' hr' (by simpa [hid] using hn) ho)
      · refine List.nodup_cons.mpr ⟨fun hmem => ?_, hnodup⟩
        obtain ⟨a, ha, hid⟩ := List.mem_map.mp hmem
        exact (hfresh' a ha).2.1 hid
    · -- `r` is detected or ignored: nothing is appended for it
      rename_i hkept
      obtain ⟨added, heq, hsub, hfresh, hall, hnodup⟩ := ih nowObjects
      refine ⟨added, heq, hsub.cons r, hfresh, fun r' hr' hn ho => ?_, hnodup⟩
      rcases List.mem_cons.mp hr' with rfl | hr'
      · exact absurd (lost_iff.mpr ⟨hn, ho⟩) hkept
      · exact hall r' hr' hn ho

/-! ## The position fallback duplicates ids -/

/-- A registry with ids `1` and `2` and one detection with id `1` standing where the entry `2`
was: the entry `2` is overwritten by the position fallback and the entry `1` by id, so the
registry ends with id `1` twice. -/
theorem updateRegisteredObject_duplicates_id :
    let objectAt (id : UUID) (x : ℚ) : ObjectData :=
      { (default : ObjectData) with
        object := { (default : PredictedObject) with
          objectId := id, pose := { position := ⟨x, 0, 0⟩, orientation := default } } }
    (updateRegisteredObject [objectAt 1 0, objectAt 2 10] [objectAt 1 10]
      (AvoidanceParameters.uniform default) 0).map ObjectData.objectId = [1, 1] := by
  have h12 : ¬(1 : UUID) = 2 := by decide
  have h21 : ¬(2 : UUID) = 1 := by decide
  norm_num [h12, h21, updateRegisteredObject, checkRegisteredLoop, checkRegisteredAt,
    refreshRegisteredObject, updateIfDetectedNow, findSameId, sameIdAs, ObjectData.objectId,
    calcSquaredDistance2d, posThr, isAlreadyRegistered, AvoidanceParameters.uniform]

end Avoidance
end AdaptiveCruiseControl
