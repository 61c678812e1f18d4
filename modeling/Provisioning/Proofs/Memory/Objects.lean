import Provisioning.Memory.Directory
import Provisioning.Proofs.Attributes
import Provisioning.Proofs.Memory.Entities
import Provisioning.Proofs.Propagation.Frame
set_option autoImplicit false

/-!
# The objects of a resource in memory

A call to the resource is noted and otherwise puts objects into the table or takes them out of it.  Whatever these
three do not disturb is left alone by every call; in particular, every object stays filed under its own identifier.
-/

namespace Provisioning.Memory.Directory

variable {α : Type}

/-- The frame of what the elementary changes to a resource do not disturb. -/
structure Undisturbed (frame : Frame Directory) : Prop where
  record : ∀ directory call, frame.Rel directory (directory.record call)
  insert : ∀ directory object, frame.Rel directory (directory.insertObject object)
  erase : ∀ (directory : Directory) uid,
    frame.Rel directory { directory with objects := directory.objects.erase uid }

namespace Undisturbed

variable {frame : Frame Directory}

theorem keeps_write (h : Undisturbed frame) (call : String) {operation : Effect Directory ConnectorError α}
    (hoperation : frame.Keeps operation) : frame.Keeps (write call operation) := by
  intro directory
  have hrecord := h.record directory call
  unfold write
  dsimp only
  split
  · exact hrecord
  · exact frame.trans hrecord (hoperation _)

theorem keeps_create (h : Undisturbed frame) (uidAttribute objectClass : String) (attributes : Attributes) :
    frame.Keeps (create uidAttribute objectClass attributes) := by
  unfold create
  split
  · exact Frame.keeps_fail _
  · refine h.keeps_write _ fun directory => ?_
    split
    · exact frame.refl directory
    · exact h.insert directory _

theorem keeps_update (h : Undisturbed frame) (uidAttribute : String) (uid : Uid) (attributes : Attributes) :
    frame.Keeps (update uidAttribute uid attributes) := by
  refine h.keeps_write _ fun directory => ?_
  dsimp only
  split
  · exact frame.refl directory
  · exact frame.trans (h.erase directory uid) (h.insert _ _)

theorem keeps_delete (h : Undisturbed frame) (uid : Uid) : frame.Keeps (delete uid) := by
  refine h.keeps_write _ fun directory => ?_
  split
  · exact h.erase directory uid
  · exact frame.refl directory

theorem keeps_authenticate (h : Undisturbed frame) (username password : String) :
    frame.Keeps (authenticate username password) := by
  intro directory
  have hrecord := h.record directory ("authenticate " ++ username)
  unfold authenticate
  dsimp only
  split
  · split <;> exact hrecord
  · exact hrecord

theorem keeps_sync (h : Undisturbed frame) (token : Option SyncToken) : frame.Keeps (sync token) := by
  intro directory
  have hrecord := h.record directory ("sync " ++ token.getD "-")
  unfold sync
  dsimp only
  split
  · exact hrecord
  · split <;> exact hrecord

/-- Every call leaves alone what the elementary changes do not disturb. -/
theorem keeps_connector (h : Undisturbed frame) (name uidAttribute : String) :
    (connector name uidAttribute).Keeps frame where
  authenticate _ username password := h.keeps_authenticate username password
  create objectClass attributes _ := h.keeps_create uidAttribute objectClass attributes
  update _ uid attributes _ := h.keeps_update uidAttribute uid attributes
  delete _ uid _ := h.keeps_delete uid
  sync _ token _ := h.keeps_sync token
  latestToken _ directory := h.record directory _
  getObject _ _ _ := frame.refl
  search _ _ _ directory := h.record directory _
  schemaNames _ _ := frame.refl
  objectClasses := frame.refl
  validate := Frame.keeps_ok ()
  test := Frame.keeps_ok ()

end Undisturbed

/-! ## Identifiers -/

/-- Every object is filed under its own identifier. -/
def Keyed (directory : Directory) : Prop :=
  ∀ (uid : Uid) (object : RemoteObject), directory.objects[uid]? = some object → object.uid = uid

theorem keyed_empty : Keyed {} := by
  intro uid object hget
  rw [Std.ExtTreeMap.getElem?_empty] at hget
  cases hget

/-- The frame of what leaves the objects filed under their identifiers. -/
def filing : Frame Directory where
  Rel before after := before.Keyed → after.Keyed
  refl _ h := h
  trans h h' hkeyed := h' (h hkeyed)

theorem undisturbed_filing : Undisturbed filing where
  record _ _ h := h
  insert directory object h := by
    intro uid found hget
    rw [insertObject, Std.ExtTreeMap.getElem?_insert] at hget
    split at hget
    · rename_i heq
      cases hget
      exact Std.LawfulEqCmp.compare_eq_iff_eq.mp heq
    · exact h uid found hget
  erase directory uid h := by
    intro other found hget
    rw [Std.ExtTreeMap.getElem?_erase] at hget
    split at hget
    · cases hget
    · exact h other found hget

/-- No call files an object under another identifier than its own. -/
theorem connector_keeps_filing (name uidAttribute : String) : (connector name uidAttribute).Keeps filing :=
  undisturbed_filing.keeps_connector name uidAttribute

theorem mem_objectsOf {directory : Directory} {objectClass : String} {object : RemoteObject} :
    object ∈ directory.objectsOf objectClass ↔
      (∃ uid : Uid, directory.objects[uid]? = some object) ∧ object.objectClass = objectClass := by
  simp [objectsOf, values_eq_map_toList, Std.ExtTreeMap.mem_toList_iff_getElem?_eq_some]

/-- No two of the objects that a search lists have the same identifier. -/
theorem Keyed.pairwise_objectsOf {directory : Directory} (h : directory.Keyed) (objectClass : String) :
    (directory.objectsOf objectClass).Pairwise fun object other => object.uid ≠ other.uid := by
  rw [objectsOf, values_eq_map_toList]
  refine List.Pairwise.filter _ (List.pairwise_map.mpr ?_)
  have hdistinct := Std.ExtTreeMap.distinct_keys_toList (t := directory.objects)
  refine hdistinct.imp_of_mem fun {pair other} hpair hother hne huid => ?_
  have hfiled := h pair.1 pair.2 (Std.ExtTreeMap.mem_toList_iff_getElem?_eq_some.mp hpair)
  have hfiled' := h other.1 other.2 (Std.ExtTreeMap.mem_toList_iff_getElem?_eq_some.mp hother)
  exact hne (Std.LawfulEqCmp.compare_eq_iff_eq.mpr (hfiled.symm.trans (huid.trans hfiled')))

/-! ## What writes come to -/

section Writes

variable {uidAttribute : String} {directory : Directory} {object : RemoteObject} {attributes : Attributes}

/-- An object that was updated is as the same update leaves it. -/
theorem updated_updated (uidAttribute : String) (object : RemoteObject) (attributes : Attributes) :
    updated uidAttribute (updated uidAttribute object attributes) attributes =
      updated uidAttribute object attributes := by
  simp only [updated, Attributes.overlay_idempotent]
  cases (object.attributes.overlay attributes).firstText? uidAttribute <;> rfl

/-- An object that was created is as an update with the same attributes leaves it. -/
theorem updated_created {uid : Uid} {objectClass : String} (h : attributes.firstText? uidAttribute = some uid) :
    updated uidAttribute { uid, objectClass, attributes } attributes = { uid, objectClass, attributes } := by
  simp only [updated, Attributes.overlay_self, h, Option.getD_some]

/-- Taking an object out and putting it back leaves all objects as they are. -/
theorem insert_erase_objects {objects : Std.ExtTreeMap Uid RemoteObject} {uid : Uid} (h : objects[uid]? = some object) :
    (objects.erase uid).insert uid object = objects := by
  apply Std.ExtTreeMap.ext_getElem?
  intro other
  rw [Std.ExtTreeMap.getElem?_insert, Std.ExtTreeMap.getElem?_erase]
  split
  · rename_i heq
    rw [← Std.LawfulEqCmp.compare_eq_iff_eq.mp heq, h]
  · rfl

/-- A creation that succeeds puts an object in place that has the attributes, under the identifier among them. -/
theorem of_create_ok {objectClass : String} (h : (create uidAttribute objectClass attributes directory).1.isOk = true) :
    ∃ uid, attributes.firstText? uidAttribute = some uid ∧ directory.failingWrites = none ∧
      (create uidAttribute objectClass attributes directory).2 =
        (directory.record ("create " ++ uid)).insertObject { uid, objectClass, attributes } := by
  unfold create at h ⊢
  cases huid : attributes.firstText? uidAttribute with
  | none =>
    rw [huid] at h
    cases h
  | some uid =>
    cases hworks : directory.failingWrites with
    | some message =>
      simp only [huid, write, record, hworks] at h
      cases h
    | none =>
      simp only [huid, write, record, hworks] at h ⊢
      split at h
      · cases h
      · rename_i hfree
        exact ⟨uid, rfl, trivial, by rw [if_neg hfree]⟩

/-- A creation under an identifier that is taken fails, as does one without identifier, and changes no object. -/
theorem create_taken (objectClass : String)
    (h : ∀ uid, attributes.firstText? uidAttribute = some uid → directory.objects.contains uid = true) :
    (create uidAttribute objectClass attributes directory).1.isOk = false ∧
      (create uidAttribute objectClass attributes directory).2.objects = directory.objects := by
  unfold create
  cases huid : attributes.firstText? uidAttribute with
  | none => exact ⟨rfl, rfl⟩
  | some uid =>
    have htaken := h uid huid
    cases hworks : directory.failingWrites with
    | some message => simp only [write, record, hworks, Except.isOk, Except.toBool, and_self]
    | none => simp only [write, record, hworks, htaken, if_true, Except.isOk, Except.toBool, and_self]

/-- An update that succeeds puts the updated object in the place of the present one. -/
theorem of_update_ok {uid : Uid} (h : (update uidAttribute uid attributes directory).1.isOk = true) :
    ∃ object, directory.objects[uid]? = some object ∧ directory.failingWrites = none ∧
      let object' := updated uidAttribute object attributes
      (update uidAttribute uid attributes directory).2 =
        { directory.record ("update " ++ uid) with
          objects := (directory.objects.erase uid).insert object'.uid object' } := by
  unfold update at h ⊢
  cases hworks : directory.failingWrites with
  | some message =>
    simp only [write, record, hworks] at h
    cases h
  | none =>
    simp only [write, record, hworks] at h ⊢
    cases hobject : directory.objects[uid]? with
    | none =>
      simp only [hobject] at h
      cases h
    | some object => exact ⟨object, rfl, trivial, rfl⟩

/-- A deletion that succeeds takes the object out. -/
theorem of_delete_ok {uid : Uid} (h : (delete uid directory).1.isOk = true) :
    (delete uid directory).2.objects = directory.objects.erase uid := by
  unfold delete at h ⊢
  cases hworks : directory.failingWrites with
  | some message =>
    simp only [write, record, hworks] at h
    cases h
  | none =>
    simp only [write, record, hworks] at h ⊢
    split at h
    · rename_i hfound
      rw [if_pos hfound]
    · cases h

/-- An update of an object that is as the update leaves it succeeds and leaves all objects as they are. -/
theorem update_settled (hworks : directory.failingWrites = none)
    (hobject : directory.objects[object.uid]? = some object)
    (hsettled : updated uidAttribute object attributes = object) :
    (update uidAttribute object.uid attributes directory).1.isOk = true ∧
      (update uidAttribute object.uid attributes directory).2.objects = directory.objects := by
  simp only [update, write, record, hworks, hobject, hsettled, insert_erase_objects hobject, and_true]
  rfl

end Writes

end Provisioning.Memory.Directory
