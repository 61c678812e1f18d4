import Provisioning.Proofs.Mapping.Identity
import Provisioning.Proofs.Memory.Objects
import Provisioning.Proofs.Propagation.AbsentObject
set_option autoImplicit false

/-!
# Carrying out a task again

A task that succeeded may be carried out once more, and finds the resource as it left it.  On a resource in memory it
changes no object then.  A deletion finds nothing left to delete and succeeds.  A task that created or updated an
object meets that object again, and succeeds by updating it to what it is already, where updates are enabled.
-/

namespace Provisioning

open Propagation

variable {σ : Type}

/-! ## A task at a resource in memory -/

namespace Propagation.Task

open Memory

/-- How a task ends at a resource in memory, and what it leaves there. -/
def carriedOut (task : Task) (uidAttribute : String) (directory : Directory) : Status × Directory :=
  match task.choose directory.objects[task.probeUid]? with
  | .error outcome => (outcome.status, directory)
  | .ok write =>
    if directory.enabled.contains write.capability then
      let sent := task.send (Directory.connector task.resource uidAttribute) {} write directory
      (if sent.1.isOk then .success else .failure, sent.2)
    else (.notAttempted, directory)

variable {task : Task} {uidAttribute : String} {directory : Directory}

/-- A write to a part of the world is the write to the resource there. -/
theorem send_within (task : Task) (label uidAttribute : String) (lens : Lens σ Directory) (options : ReadOptions)
    (write : Write) :
    task.send ((Directory.connector label uidAttribute).within lens) options write =
      lens.zoom (task.send (Directory.connector task.resource uidAttribute) {} write) := by
  cases write <;> rfl

/-- A task that is carried out at a resource in memory does there what it is to do. -/
theorem execute_within {registry : Registry σ} {resource : Resource σ} {mapping : Mapping} {label : String}
    {lens : Lens σ Directory} (hlookup : registry.lookup task.resource task.subjectType = .ok (resource, mapping))
    (hconnector : resource.connector = (Directory.connector label uidAttribute).within lens) (hstores : lens.Stores)
    (s : σ) :
    let executed := task.execute registry s
    (executed.1.status, lens.get executed.2) = task.carriedOut uidAttribute (lens.get s) := by
  have hprobe : resource.connector.probe task.objectClass task.probeUid (mapping.readOptions .propagation) s =
      (.ok (lens.get s).objects[task.probeUid]?, lens.set (lens.get s) s) := by
    rw [hconnector]
    rfl
  have hget : lens.get (lens.set (lens.get s) s) = lens.get s := hstores _ _
  have hsupports : ∀ capability, resource.connector.supports capability (lens.set (lens.get s) s) =
      (lens.get s).enabled.contains capability := by
    intro capability
    rw [hconnector]
    exact congrArg (fun directory : Directory => directory.enabled.contains capability) hget
  simp only [execute, prepare, hlookup, hprobe, carriedOut, bind_apply]
  cases task.choose (lens.get s).objects[task.probeUid]? with
  | error outcome => exact Prod.ext rfl hget
  | ok write =>
    simp only [hsupports]
    split
    · simp only [finish, hconnector, send_within, Lens.zoom_apply, hget]
      cases hsent : task.send (Directory.connector task.resource uidAttribute) {} write (lens.get s) with
      | mk answer after =>
        cases answer <;> exact Prod.ext rfl (hstores _ _)
    · exact Prod.ext rfl hget

/-- A write is sent where it is enabled, and the task succeeds if it is taken. -/
theorem carriedOut_of_choose (uidAttribute : String) {write : Write}
    (hchoose : task.choose directory.objects[task.probeUid]? = .ok write) :
    let sent := task.send (Directory.connector task.resource uidAttribute) {} write directory
    let enabled := directory.enabled.contains write.capability
    ((task.carriedOut uidAttribute directory).1 = .success ↔ enabled = true ∧ sent.1.isOk = true) ∧
      (task.carriedOut uidAttribute directory).2 = if enabled then sent.2 else directory := by
  simp only [carriedOut, hchoose]
  split <;> rename_i henabled
  · simp only [henabled, true_and, and_true]
    split <;> rename_i hok
    · exact iff_of_true rfl hok
    · exact iff_of_false (fun hstatus => nomatch hstatus) hok
  · simp only [henabled, false_and, and_true, reduceCtorEq]

/-! ## Once more -/

/-- A resource as a task leaves it that created or updated an object there: another update by the task leaves the
object as it is, another creation would have the same identifier, and if this is not the identifier that the task
looks for, there is nothing under that one. -/
structure Left (task : Task) (uidAttribute : String) (directory : Directory) (object : RemoteObject) : Prop where
  found : directory.objects[object.uid]? = some object
  works : directory.failingWrites = none
  updated : Directory.updated uidAttribute object task.attributes = object
  created : ∀ uid, task.attributes.firstText? uidAttribute = some uid → uid = object.uid
  probed : task.probeUid = object.uid ∨ directory.objects[task.probeUid]? = none

/-- The operations that leave an object behind. -/
def Writes (task : Task) : Prop := task.operation = .create ∨ task.operation = .update

theorem choose_none (h : task.Writes) : task.choose none = .ok .create := by
  rcases h with h | h <;> simp only [choose, h]

theorem choose_some (h : task.Writes) (object : RemoteObject) : task.choose (some object) = .ok (.update object) := by
  rcases h with h | h <;> simp only [choose, h]

theorem left_of_create {uid : Uid} {call : String} {after : Directory}
    (habsent : directory.objects[task.probeUid]? = none)
    (huid : task.attributes.firstText? uidAttribute = some uid) (hworks : directory.failingWrites = none)
    (hafter : after =
      (directory.record call).insertObject { uid, objectClass := task.objectClass, attributes := task.attributes }) :
    task.Left uidAttribute after { uid, objectClass := task.objectClass, attributes := task.attributes } := by
  subst hafter
  refine ⟨Std.ExtTreeMap.getElem?_insert_self, hworks, Directory.updated_created huid, fun other hother => ?_, ?_⟩
  · exact Option.some.inj (hother.symm.trans huid)
  · by_cases hsame : uid = task.probeUid
    · exact .inl hsame.symm
    · refine .inr ?_
      simp only [Directory.insertObject, Directory.record, Std.ExtTreeMap.getElem?_insert,
        Std.LawfulEqCmp.compare_eq_iff_eq, hsame, if_false, habsent]

theorem left_of_update {object : RemoteObject} {call : String} {after : Directory}
    (huid : object.uid = task.probeUid) (hworks : directory.failingWrites = none)
    (hafter :
      let object' := Directory.updated uidAttribute object task.attributes
      after = { directory.record call with
        objects := (directory.objects.erase object.uid).insert object'.uid object' }) :
    task.Left uidAttribute after (Directory.updated uidAttribute object task.attributes) := by
  subst hafter
  refine ⟨Std.ExtTreeMap.getElem?_insert_self, hworks, Directory.updated_updated _ _ _, fun other hother => ?_, ?_⟩
  · simp only [Directory.updated, Attributes.firstText?_overlay hother, Option.getD_some]
  · by_cases hsame : (Directory.updated uidAttribute object task.attributes).uid = task.probeUid
    · exact .inl hsame.symm
    · refine .inr ?_
      simp only [Std.ExtTreeMap.getElem?_insert, Std.ExtTreeMap.getElem?_erase, Std.LawfulEqCmp.compare_eq_iff_eq,
        hsame, huid, if_false, if_true]

/-- A task that succeeds by writing leaves its object. -/
theorem left_of_carriedOut (hwrites : task.Writes) (hkeyed : directory.Keyed)
    (h : (task.carriedOut uidAttribute directory).1 = .success) :
    ∃ object, task.Left uidAttribute (task.carriedOut uidAttribute directory).2 object := by
  cases hbefore : directory.objects[task.probeUid]? with
  | none =>
    obtain ⟨hsuccess, hafter⟩ := carriedOut_of_choose uidAttribute (hbefore ▸ choose_none hwrites)
    obtain ⟨henabled, hok⟩ := hsuccess.mp h
    rw [send, Effect.isOk_mapOk] at hok
    obtain ⟨uid, huid, hworks, hcreated⟩ := Directory.of_create_ok hok
    rw [hafter, if_pos henabled]
    exact ⟨_, left_of_create hbefore huid hworks hcreated⟩
  | some object =>
    obtain ⟨hsuccess, hafter⟩ := carriedOut_of_choose uidAttribute (hbefore ▸ choose_some hwrites object)
    obtain ⟨henabled, hok⟩ := hsuccess.mp h
    rw [send, Effect.isOk_mapOk] at hok
    obtain ⟨found, hfound, hworks, hupdated⟩ := Directory.of_update_ok hok
    -- The object that is updated is the one that was probed, since it is filed under its own identifier.
    have huid : object.uid = task.probeUid := hkeyed task.probeUid object hbefore
    rw [huid, hbefore] at hfound
    cases hfound
    rw [hafter, if_pos henabled]
    exact ⟨_, left_of_update huid hworks hupdated⟩

/-- What a task has left is the same after the task is carried out once more; and the task succeeds if it finds its
object and may update it. -/
theorem Left.again {object : RemoteObject} (hwrites : task.Writes) (h : task.Left uidAttribute directory object) :
    (task.carriedOut uidAttribute directory).2.objects = directory.objects ∧
      ((task.carriedOut uidAttribute directory).1 = .success ↔
        directory.enabled.contains .update = true ∧ directory.objects.contains task.probeUid = true) := by
  rcases h.probed with hprobe | hprobe
  · -- The task meets its object, and an update is what is left to do.
    have hbefore : directory.objects[task.probeUid]? = some object := hprobe ▸ h.found
    obtain ⟨hsuccess, hafter⟩ := carriedOut_of_choose uidAttribute (hbefore ▸ choose_some hwrites object)
    obtain ⟨hok, hobjects⟩ := Directory.update_settled h.works h.found h.updated
    constructor
    · rw [hafter]
      split
      · exact hobjects
      · rfl
    · rw [hsuccess, send, Effect.isOk_mapOk, Std.ExtTreeMap.contains_eq_isSome_getElem?, hbefore]
      exact and_congr_right fun _ => iff_of_true hok rfl
  · -- The object is somewhere else, so the task tries to create it, and meets it there.
    have htaken : ∀ uid, task.attributes.firstText? uidAttribute = some uid →
        directory.objects.contains uid = true := by
      intro uid huid
      rw [h.created uid huid, Std.ExtTreeMap.contains_eq_isSome_getElem?, h.found]
      rfl
    obtain ⟨hsuccess, hafter⟩ := carriedOut_of_choose uidAttribute (hprobe ▸ choose_none hwrites)
    obtain ⟨hfailed, hobjects⟩ := Directory.create_taken task.objectClass htaken
    constructor
    · rw [hafter]
      split
      · exact hobjects
      · rfl
    · rw [hsuccess, send, Effect.isOk_mapOk, Std.ExtTreeMap.contains_eq_isSome_getElem?, hprobe]
      exact iff_of_false (fun hok => Bool.false_ne_true (hfailed.symm.trans hok.2)) fun hfound =>
        Bool.false_ne_true hfound.2

/-- A task that deletes an object has nothing to do where there is none. -/
theorem carriedOut_of_gone (hdelete : task.operation = .delete) (hgone : directory.objects[task.probeUid]? = none) :
    task.carriedOut uidAttribute directory = (.success, directory) := by
  simp only [carriedOut, hgone, choose, hdelete]

theorem gone_of_carriedOut (hdelete : task.operation = .delete) (hkeyed : directory.Keyed)
    (h : (task.carriedOut uidAttribute directory).1 = .success) :
    (task.carriedOut uidAttribute directory).2.objects[task.probeUid]? = none := by
  cases hbefore : directory.objects[task.probeUid]? with
  | none => rw [carriedOut_of_gone hdelete hbefore, hbefore]
  | some object =>
    have hchoose : task.choose directory.objects[task.probeUid]? = .ok (.delete object) := by
      simp only [choose, hdelete, hbefore]
    obtain ⟨hsuccess, hafter⟩ := carriedOut_of_choose uidAttribute hchoose
    obtain ⟨henabled, hok⟩ := hsuccess.mp h
    have huid : object.uid = task.probeUid := hkeyed task.probeUid object hbefore
    rw [hafter, if_pos henabled]
    simp only [send, Directory.connector] at hok ⊢
    rw [Directory.of_delete_ok hok, huid, Std.ExtTreeMap.getElem?_erase_self]

/-- A task that succeeded changes no object when it is carried out once more.  It succeeds again, unless it has an
object to write and finds none to update, or may not update it. -/
theorem carriedOut_again (hkeyed : directory.Keyed) (h : (task.carriedOut uidAttribute directory).1 = .success) :
    let left := (task.carriedOut uidAttribute directory).2
    let again := task.carriedOut uidAttribute left
    again.2.objects = left.objects ∧
      (again.1 = .success ↔
        (task.Writes → left.enabled.contains .update = true ∧ left.objects.contains task.probeUid = true)) := by
  intro left again
  by_cases hwrites : task.Writes
  · obtain ⟨object, hleft⟩ := left_of_carriedOut hwrites hkeyed h
    obtain ⟨hobjects, hsuccess⟩ := hleft.again hwrites
    exact ⟨hobjects, hsuccess.trans ⟨fun h _ => h, fun h => h hwrites⟩⟩
  · have hagain : again = (.success, left) := by
      cases hoperation : task.operation with
      | create => exact absurd (.inl hoperation) hwrites
      | update => exact absurd (.inr hoperation) hwrites
      | delete => exact carriedOut_of_gone hoperation (gone_of_carriedOut hoperation hkeyed h)
      | none => simp only [again, carriedOut, choose, hoperation]
    rw [hagain]
    exact ⟨rfl, iff_of_true rfl fun h => absurd h hwrites⟩

/-- What carries an account id is left under it. -/
theorem Left.contains {object : RemoteObject} (h : task.Left uidAttribute directory object)
    (hcarried : task.attributes.firstText? uidAttribute = some task.accountId) :
    directory.objects.contains task.accountId = true := by
  rw [h.created task.accountId hcarried, Std.ExtTreeMap.contains_eq_isSome_getElem?, h.found]
  rfl

end Propagation.Task

/-! ## Planned tasks -/

/-- Every resource is in memory, in a part of the world of its own, and identifies its objects by the attribute that
is mapped as account id. -/
structure Registry.InMemory (part : (resource : String) → Lens σ Memory.Directory) (registry : Registry σ) : Prop where
  stores : ∀ name, (part name).Stores
  connector : ∀ (name : String) (resource : Resource σ), registry.resources[name]? = some resource →
    ∃ label uidAttribute,
      resource.connector = (Memory.Directory.connector label uidAttribute).within (part name) ∧
        ∀ t mapping, resource.mappings.get t = some mapping → mapping.accountId.external = uidAttribute

namespace Propagation

variable {registry : Registry σ} {task : Task}

/-- A planned task that is not to delete carries its account id, if that is sent at all. -/
theorem Planned.carries (hnamed : registry.Named) (h : Planned registry task) {target : Resource σ} {mapping : Mapping}
    (hlookup : registry.lookup task.resource task.subjectType = .ok (target, mapping)) (hsends : mapping.SendsAccountId)
    (hwrites : task.operation ≠ .delete) :
    task.attributes.firstText? mapping.accountId.external = some task.accountId := by
  obtain ⟨entity, change, resource, htask⟩ := h.exists_task?
  obtain ⟨planned, plannedMapping, accountId, hplanned, haccount, rfl⟩ := task?_eq_some_iff.mp htask
  dsimp only at hlookup hwrites ⊢
  rw [hnamed.lookup hplanned, hplanned] at hlookup
  cases hlookup
  rw [Change.firstText?_attributes hwrites, hsends.identifies.firstText?_writeAttributes, haccount]

theorem Planned.writes (h : Planned registry task) (hdelete : task.operation ≠ .delete) : task.Writes := by
  obtain ⟨entity, change, resource, htask⟩ := h.exists_task?
  obtain ⟨-, -, -, -, hoperation, -⟩ := task?_eq_some htask
  rw [hoperation] at hdelete
  cases change with
  | created => exact .inl hoperation
  | changed before affected => exact .inr hoperation
  | removed => exact absurd rfl hdelete

namespace Executor

variable {executor : Executor σ} {part : (resource : String) → Lens σ Memory.Directory}

/-- A task that succeeds is carried out, at a resource that is known and mapped. -/
theorem exists_of_run_success {s : σ} (h : (executor.run task s).1.status = .success) :
    executor.dryRun = false ∧
      ∃ target mapping, executor.registry.lookup task.resource task.subjectType = .ok (target, mapping) := by
  unfold run prepare at h
  cases hlive : executor.dryRun with
  | true =>
    rw [hlive] at h
    cases h
  | false =>
    refine ⟨rfl, ?_⟩
    cases hlookup : executor.registry.lookup task.resource task.subjectType with
    | ok found => exact ⟨found.1, found.2, rfl⟩
    | error error =>
      simp only [hlive, Bool.false_eq_true, if_false, bind_apply, Task.prepare, hlookup] at h
      cases h

/-- Where all resources are in memory, a task is carried out at the one that it goes to. -/
theorem run_within (hmemory : executor.registry.InMemory part) (hlive : executor.dryRun = false)
    {target : Resource σ} {mapping : Mapping}
    (hlookup : executor.registry.lookup task.resource task.subjectType = .ok (target, mapping)) (s : σ) :
    ((executor.run task s).1.status, (part task.resource).get (executor.run task s).2) =
      task.carriedOut mapping.accountId.external ((part task.resource).get s) := by
  obtain ⟨hget, hmapping⟩ := Registry.lookup_eq_ok_iff.mp hlookup
  obtain ⟨label, uidAttribute, hconnector, hidentifies⟩ :=
    hmemory.connector task.resource target (Registry.get_eq_ok_iff.mp hget)
  have hrun : executor.run task = task.execute executor.registry := by
    simp only [run, prepare, hlive, Task.execute, Bool.false_eq_true, if_false]
  rw [hrun, hidentifies _ _ (Resource.mapping_eq_ok_iff.mp hmapping)]
  exact Task.execute_within hlookup hconnector (hmemory.stores _) s

/-- A planned task that succeeded is carried out once more, with nothing else changed.  It leaves all objects on its
resource as they are.  If it is to delete, it succeeds again.  Otherwise, unless it renames its object, it succeeds
exactly if the resource takes updates and the object was left under the account id; and that it was, wherever the
account id is sent and nothing else in its place. -/
theorem run_again (hnamed : executor.registry.Named) (hmemory : executor.registry.InMemory part)
    (hplanned : Planned executor.registry task) {s : σ} (hkeyed : ((part task.resource).get s).Keyed)
    (hsuccess : (executor.run task s).1.status = .success) :
    let once := executor.run task s
    let again := executor.run task once.2
    let left := (part task.resource).get once.2
    ((part task.resource).get again.2).objects = left.objects ∧
      (task.operation = .delete → again.1.status = .success) ∧
      (task.operation ≠ .delete → task.oldAccountId = none →
        (again.1.status = .success ↔
          left.enabled.contains .update = true ∧ left.objects.contains task.accountId = true) ∧
        ∀ target mapping, executor.registry.lookup task.resource task.subjectType = .ok (target, mapping) →
          mapping.SendsAccountId → left.objects.contains task.accountId = true) := by
  obtain ⟨hlive, target, mapping, hlookup⟩ := exists_of_run_success hsuccess
  have hrun := run_within hmemory hlive hlookup
  intro once again left
  obtain ⟨hstatus, hafter⟩ := Prod.ext_iff.mp (hrun s)
  obtain ⟨hstatus', hafter'⟩ := Prod.ext_iff.mp (hrun once.2)
  dsimp only at hstatus hafter hstatus' hafter'
  obtain ⟨hobjects, hrepeats⟩ := Task.carriedOut_again hkeyed (hstatus.symm.trans hsuccess)
  rw [← hafter, ← hafter'] at hobjects
  rw [← hafter, ← hstatus'] at hrepeats
  refine ⟨hobjects, fun hdelete => hrepeats.mpr fun hwrites => ?_, fun hdelete hname => ?_⟩
  · rcases hwrites with h | h <;> cases hdelete.symm.trans h
  have hwrites : task.Writes := hplanned.writes hdelete
  have hprobe : task.probeUid = task.accountId := by rw [Task.probeUid, hname, Option.getD_none]
  rw [hprobe] at hrepeats
  refine ⟨hrepeats.trans ⟨fun h => h hwrites, fun h _ => h⟩, fun target' mapping' hlookup' hsends => ?_⟩
  cases hlookup.symm.trans hlookup'
  obtain ⟨object, hleft⟩ := Task.left_of_carriedOut hwrites hkeyed (hstatus.symm.trans hsuccess)
  rw [← hafter] at hleft
  exact hleft.contains (hplanned.carries hnamed hlookup hsends hdelete)

/-- The outcomes of a task that is carried out twice in a row. -/
def twice (executor : Executor σ) (task : Task) (s : σ) : List Status :=
  let once := executor.run task s
  [once.1.status, (executor.run task once.2).1.status]

end Executor

/-! ## A resource in memory -/

/-- The registry of a resource in memory. -/
def roster : Registry Memory.Premises :=
  Memory.Premises.registry ((Memory.Directory.connector "directory" "uid").within Memory.Premises.directoryLens)

theorem roster_inMemory : roster.InMemory fun _ => Memory.Premises.directoryLens where
  stores _ _ _ := rfl
  connector name resource hget := by
    rw [roster, Memory.Premises.getElem?_registry] at hget
    split at hget
    · cases hget
      refine ⟨"directory", "uid", rfl, fun t mapping hmapping => ?_⟩
      cases t <;> cases hmapping
      rfl
    · cases hget

/-- A user who is to get an account. -/
def newcomer : Entity := { id := 1, name := "ann", resources := {"directory"} }

theorem exists_task_of_newcomer : ∃ task ∈ createTasks roster newcomer ∅,
    (task.operation = .create ∧ task.oldAccountId = none ∧ task.resource = "directory" ∧ task.subjectType = .user) ∧
      let once := Executor.run { registry := roster } task {}
      once.1.status = .success ∧ once.2.directory.enabled.contains .update = true := by
  decide +kernel

/-- The account is created, and then met again. -/
theorem newcomer_created_twice : ∃ task ∈ createTasks roster newcomer ∅,
    let executor : Executor Memory.Premises := { registry := roster }
    let once := executor.run task {}
    let again := executor.run task once.2
    once.1.status = .success ∧ again.1.status = .success ∧
      again.2.directory.objects = once.2.directory.objects := by
  obtain ⟨task, hmem, ⟨hcreate, hname, hresource, htype⟩, hsuccess, hupdates⟩ := exists_task_of_newcomer
  obtain ⟨target, hlookup⟩ :
      ∃ target, roster.lookup task.resource task.subjectType = .ok (target, Memory.Premises.userMapping) := by
    rw [hresource, htype]
    exact ⟨_, Memory.Premises.lookup_registry⟩
  have hsends : Memory.Premises.userMapping.SendsAccountId := by
    simp only [Mapping.SendsAccountId]
    decide
  obtain ⟨hobjects, -, hwritten⟩ :=
    Executor.run_again (Memory.Premises.registry_named _) roster_inMemory (.created newcomer ∅ hmem)
      Memory.Directory.keyed_empty hsuccess
  obtain ⟨hagain, hleft⟩ := hwritten (fun hdelete => nomatch hcreate.symm.trans hdelete) hname
  exact ⟨task, hmem, hsuccess, hagain.mpr ⟨hupdates, hleft target _ hlookup hsends⟩, hobjects⟩

/-! ## Resources of contacts -/

/-- The mapping of users by their name, in the place of which a nickname is sent. -/
def nicknameMapping : Mapping :=
  Mapping.ofItems "contacts" "contact"
    [{ external := "uid", target := .username, accountId := true },
     { external := "uid", internal := "nickname", target := .plain }]

/-- The registry of the contacts by their nicknames. -/
def nicknameRegistry : Registry Memory.Directory :=
  Registry.insert {} { contacts with mappings := (PerSubject.const none).set .user (some nicknameMapping) }

/-- A contact with a nickname. -/
def nicknamed : Entity :=
  { id := 1, name := "ann", plain := Attributes.ofPairs [("nickname", [.text "nan"])], resources := {"contacts"} }

/-- The resource with one contact. -/
def oneContact : Memory.Directory :=
  Memory.Directory.insertObject {}
    { uid := "ann", objectClass := "contact", attributes := Attributes.ofPairs [("uid", [.text "ann"])] }

/-- Not every task that succeeded succeeds again: one that created an object may not be allowed to update it, one that
renamed an object does not find it any more, and one that sent something else as identifier never finds its object. -/
theorem succeeded_once_only :
    let executor : Executor Memory.Directory := { registry := contactRegistry }
    let nicknames : Executor Memory.Directory := { registry := nicknameRegistry }
    let linked := stranger.link "contacts"
    let renamed : Entity := { linked with name := "bea" }
    (createTasks contactRegistry linked ∅).map (fun task => executor.twice task { enabled := [.create] }) =
        [[.success, .notAttempted]] ∧
      (updateTasks contactRegistry linked renamed {Entity.nameAttribute} ∅).map
          (fun task => executor.twice task oneContact) =
        [[.success, .failure]] ∧
      (createTasks nicknameRegistry nicknamed ∅).map (fun task => nicknames.twice task {}) =
        [[.success, .failure]] := by
  decide +kernel

end Propagation

end Provisioning
