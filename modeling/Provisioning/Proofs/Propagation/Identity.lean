import Provisioning.Proofs.Propagation.Coverage
import Provisioning.Proofs.Propagation.Retry
set_option autoImplicit false

/-!
# Tasks and the account ids that they write

A task names the account id under which its object is looked for, and what it writes should make the object known by
it.  Whether it does depends on the mapping: all tasks that write through a mapping carry their account ids if the last
item propagated to the external name of the account id reads the same place.  Through any other mapping some entity
is written without its account id, whatever has changed.
-/

namespace Provisioning

variable {σ : Type}

namespace Memory.Directory

/-- An object that was created with an identifier among its attributes is found by a probe for it. -/
theorem probe_created {uidAttribute objectClass : String} {attributes : Attributes} {directory : Directory} {uid : Uid}
    (huid : attributes.firstText? uidAttribute = some uid) (name : String) (options readOptions : ReadOptions)
    (h : ((connector name uidAttribute).create objectClass attributes options directory).1.isOk = true) :
    ((connector name uidAttribute).probe objectClass uid readOptions
        ((connector name uidAttribute).create objectClass attributes options directory).2).1 =
      .ok (some { uid, objectClass, attributes }) := by
  obtain ⟨uid', huid', -, hafter⟩ := of_create_ok h
  cases huid.symm.trans huid'
  have hprobe : ∀ after : Directory,
      ((connector name uidAttribute).probe objectClass uid readOptions after).1 = .ok after.objects[uid]? :=
    fun _ => rfl
  have hcreated : ((connector name uidAttribute).create objectClass attributes options directory).2 =
      (directory.record ("create " ++ uid)).insertObject { uid, objectClass, attributes } := hafter
  rw [hprobe, hcreated, insertObject, Std.ExtTreeMap.getElem?_insert_self]

end Memory.Directory

namespace Propagation

variable {registry : Registry σ} {entity : Entity} {task : Task} {mapping : Mapping}

/-- A task that writes an entity: planned for its creation, or an update planned for a change that led to it. -/
inductive Writing (registry : Registry σ) (entity : Entity) (task : Task) : Prop
  | created (excluded : NameSet) (h : task ∈ createTasks registry entity excluded)
  | changed (before : Entity) (affected excluded : NameSet)
      (h : task ∈ updateTasks registry before entity affected excluded) (hupdate : task.operation = .update)

theorem Writing.exists_task? (h : Writing registry entity task) :
    ∃ change resource, change.operation ≠ .delete ∧ task? registry entity change resource = some task := by
  cases h with
  | created excluded h =>
    obtain ⟨resource, -, htask⟩ := mem_tasksFor.mp h
    exact ⟨.created, resource, by decide, htask⟩
  | changed before affected excluded h hupdate =>
    obtain ⟨resource, -, htask⟩ := task?_of_mem_updateTasks h hupdate
    exact ⟨.changed before affected, resource, by simp [Change.operation], htask⟩

/-- The task writes its account id, under the external name that the mapping has for it. -/
def Task.Identified (task : Task) (mapping : Mapping) : Prop :=
  task.attributes.firstText? mapping.accountId.external = some task.accountId

/-- Whether a task writes its account id is settled by the full write of its entity. -/
theorem identified_iff {change : Change} (hwrites : change.operation ≠ .delete) {resource : String}
    {target : Resource σ} (hlookup : registry.lookup resource entity.subjectType = .ok (target, mapping))
    (htask : task? registry entity change resource = some task) :
    task.Identified mapping ↔
      (mapping.writeAttributes entity).firstText? mapping.accountId.external = mapping.accountIdOf? entity := by
  obtain ⟨target', mapping', accountId, hlookup', haccount, rfl⟩ := task?_eq_some_iff.mp htask
  cases hlookup.symm.trans hlookup'
  rw [Task.Identified, Change.firstText?_attributes hwrites, haccount]

/-- Whatever writes an entity through such a mapping carries the account id. -/
theorem Writing.identified (hnamed : registry.Named) (h : Writing registry entity task) {target : Resource σ}
    (hlookup : registry.lookup task.resource task.subjectType = .ok (target, mapping)) (hmapping : mapping.Identifies) :
    task.Identified mapping := by
  obtain ⟨change, resource, hwrites, htask⟩ := h.exists_task?
  obtain ⟨planned, plannedMapping, accountId, hplanned, -, heq⟩ := task?_eq_some_iff.mp htask
  have hname : task.resource = resource := by rw [heq]; exact hnamed.lookup hplanned
  have htype : task.subjectType = entity.subjectType := by rw [heq]
  rw [hname, htype] at hlookup
  exact (identified_iff hwrites hlookup htask).mpr (hmapping.firstText?_writeAttributes entity)

/-- Through any other mapping some entity is written without its account id, whatever the change. -/
theorem exists_unidentified (hnamed : registry.Named) {name : String} {t : SubjectType} {target : Resource σ}
    (hlookup : registry.lookup name t = .ok (target, mapping)) (hmapping : ¬mapping.Identifies) :
    ∃ entity : Entity, entity.subjectType = t ∧ entity.resources = {name} ∧
      ∀ change : Change, change.operation ≠ .delete →
        ∃ task, task? registry entity change name = some task ∧ task.resource = name ∧ ¬task.Identified mapping := by
  obtain ⟨entity, htype, hlinks, uid, haccount, hmissing⟩ :=
    Mapping.exists_not_identified hmapping { subjectType := t, resources := {name} }
  dsimp only at htype hlinks
  subst htype
  refine ⟨entity, rfl, hlinks, fun change hwrites => ?_⟩
  have hsome : (registry.accountIdOn? name entity).isSome := by
    simp only [Registry.accountIdOn?, hlookup, haccount, Option.isSome_some]
  obtain ⟨task, htask⟩ : ∃ task, task? registry entity change name = some task :=
    Option.isSome_iff_exists.mp (isSome_task?_iff.mpr hsome)
  obtain ⟨target', mapping', hlookup', hname, -⟩ := task?_eq_some htask
  refine ⟨task, htask, hname.trans (hnamed.lookup hlookup'), ?_⟩
  rw [identified_iff hwrites hlookup htask, haccount]
  exact hmissing

/-- Tasks that write an entity through a mapping carry its account id exactly if the mapping has the account id in its
writes: if so, all of them do, and an object that one of them creates in memory is found under this id.  If not, there
is an entity of which no task does, be it created or updated. -/
theorem writes_identified_as_mapped (hnamed : registry.Named) {name : String} {t : SubjectType} {target : Resource σ}
    (hlookup : registry.lookup name t = .ok (target, mapping)) :
    (mapping.Identifies →
      ∀ entity task, Writing registry entity task → task.resource = name → task.subjectType = t →
        task.Identified mapping ∧
          ∀ (label : String) (options : ReadOptions) (directory : Memory.Directory),
            let connector := Memory.Directory.connector label mapping.accountId.external
            let created := connector.create task.objectClass task.attributes options directory
            created.1.isOk = true →
              (connector.probe task.objectClass task.accountId options created.2).1 =
                .ok (some { uid := task.accountId, objectClass := task.objectClass, attributes := task.attributes })) ∧
      (¬mapping.Identifies →
        ∃ entity : Entity, entity.subjectType = t ∧ entity.resources = {name} ∧
          (∃ task ∈ createTasks registry entity ∅, task.resource = name ∧ ¬task.Identified mapping) ∧
            ∀ before affected, ∃ task ∈ updateTasks registry before entity affected ∅,
              task.resource = name ∧ task.operation = .update ∧ ¬task.Identified mapping) := by
  constructor
  · rintro hmapping entity task hwriting rfl rfl
    have hidentified := hwriting.identified hnamed hlookup hmapping
    exact ⟨hidentified, fun label options directory hok =>
      Memory.Directory.probe_created hidentified label options options hok⟩
  · intro hmapping
    obtain ⟨entity, htype, hlinks, hunidentified⟩ := exists_unidentified hnamed hlookup hmapping
    have hlinked : name ∈ entity.resources \ ∅ := by
      simp [hlinks]
    refine ⟨entity, htype, hlinks, ?_, fun before affected => ?_⟩
    · obtain ⟨task, htask, hname, hmissing⟩ := hunidentified .created (by decide)
      exact ⟨task, mem_tasksFor.mpr ⟨name, hlinked, htask⟩, hname, hmissing⟩
    · obtain ⟨task, htask, hname, hmissing⟩ := hunidentified (.changed before affected) (by simp [Change.operation])
      obtain ⟨hmem, hupdate⟩ := mem_updates_iff.mpr (mem_tasksFor.mpr ⟨name, hlinked, htask⟩)
      exact ⟨task, hmem, hname, hupdate, hmissing⟩

/-! ## Contacts and their account ids -/

theorem contactMapping_identifies : contactMapping.Identifies := by
  have hsends : contactMapping.SendsAccountId := by
    simp only [Mapping.SendsAccountId]
    decide
  exact hsends.identifies

theorem lookup_nicknameRegistry : ∃ target, nicknameRegistry.lookup "contacts" .user = .ok (target, nicknameMapping) :=
  ⟨_, Registry.lookup_eq_ok_iff.mpr
    ⟨Registry.get_eq_ok_iff.mpr (Std.ExtTreeMap.getElem?_insert_self (k := "contacts")), rfl⟩⟩

/-- Contacts that are known by their names are written with these.  Where a nickname is sent in the place of the name,
some contact is written without its account id. -/
theorem contacts_identified :
    (∀ entity task, Writing contactRegistry entity task → task.resource = "contacts" → task.subjectType = .user →
        task.Identified contactMapping) ∧
      ∃ entity : Entity, entity.resources = {"contacts"} ∧
        ∃ task ∈ createTasks nicknameRegistry entity ∅, task.resource = "contacts" ∧
          ¬task.Identified nicknameMapping := by
  constructor
  · have hnamed : contactRegistry.Named := Registry.named_empty.insert _
    have hwritten := (writes_identified_as_mapped hnamed lookup_contactRegistry).1 contactMapping_identifies
    exact fun entity task hwriting hname htype => (hwritten entity task hwriting hname htype).1
  · have hnamed : nicknameRegistry.Named := Registry.named_empty.insert _
    have hmapping : ¬nicknameMapping.Identifies := fun hidentifies =>
      absurd (hidentifies.firstText?_writeAttributes nicknamed) (by decide +kernel)
    obtain ⟨target, hlookup⟩ := lookup_nicknameRegistry
    obtain ⟨entity, -, hlinks, hcreated, -⟩ := (writes_identified_as_mapped hnamed hlookup).2 hmapping
    exact ⟨entity, hlinks, hcreated⟩

/-- The mapping of users by their name, which is read and never sent. -/
def silentMapping : Mapping :=
  Mapping.ofItems "contacts" "contact"
    [{ external := "uid", target := .username, accountId := true, purpose := .synchronization }]

/-- The registry of the contacts by names that are never sent. -/
def silentRegistry : Registry Memory.Directory :=
  Registry.insert {} { contacts with mappings := (PerSubject.const none).set .user (some silentMapping) }

/-- The entity "ann", linked to the contacts. -/
def linkedStranger : Entity := stranger.link "contacts"

/-- The account id of a task, and what the task writes. -/
def Task.written (task : Task) : Uid × List (String × List Value) := (task.accountId, task.attributes.toList)

/-- The account id is not always sent, neither to create nor to update: an item that is only read sends nothing, and
another one may send something else in its place. -/
theorem account_id_not_sent :
    (createTasks silentRegistry linkedStranger ∅).map Task.written = [("ann", [])] ∧
      (updateTasks silentRegistry linkedStranger linkedStranger {Entity.nameAttribute} ∅).map Task.written =
        [("ann", [])] ∧
      (createTasks nicknameRegistry nicknamed ∅).map Task.written = [("ann", [("uid", [.text "nan"])])] ∧
      (updateTasks nicknameRegistry nicknamed nicknamed ∅ ∅).map Task.written =
        [("ann", [("uid", [.text "nan"])])] := by
  refine ⟨?_, ?_, ?_, ?_⟩ <;> decide +kernel

end Propagation

end Provisioning
