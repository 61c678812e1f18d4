import Provisioning.Proofs.Propagation.IncrementalWrite
set_option autoImplicit false

/-!
# Updates of absent objects

What a task writes is settled before its probe.  An update task that finds no object creates one, and creates it
with the attributes that were meant for an update: those that the change touched.  The object gets all the
attributes of the entity only if the change happens to touch every one of them.
-/

namespace Provisioning

variable {σ : Type}

namespace Mapping

/-- The write of a change is a full write exactly if every attribute of the full write has to be carried. -/
theorem changedWriteAttributes_eq_iff {mapping : Mapping} {entity : Entity} {affected : NameSet} :
    mapping.changedWriteAttributes entity affected = mapping.writeAttributes entity ↔
      ∀ external ∈ mapping.writeAttributes entity, mapping.carries affected external = true := by
  constructor
  · intro heq external hmem
    rw [← heq, changedWriteAttributes, Std.ExtTreeMap.mem_filter] at hmem
    obtain ⟨hfull, hcarries⟩ := hmem
    rwa [Std.ExtTreeMap.getKey_eq hfull] at hcarries
  · intro hall
    apply Std.ExtTreeMap.ext_getElem?
    intro external
    rw [changedWriteAttributes, Std.ExtTreeMap.getElem?_filter']
    cases hfull : (mapping.writeAttributes entity)[external]? with
    | none => rfl
    | some values =>
      have hmem : external ∈ mapping.writeAttributes entity := by
        rw [Std.ExtTreeMap.mem_iff_isSome_getElem?, hfull]
        rfl
      rw [hall external hmem]
      rfl

end Mapping

namespace Propagation

variable {registry : Registry σ} {task : Task} {found : Resource σ} {mapping : Mapping} {s s' : σ}

/-- A task that is to create or to update, and whose probe finds no object, creates one with what it carries. -/
theorem Task.execute_of_absent (hoperation : task.operation = .create ∨ task.operation = .update)
    (hlookup : registry.lookup task.resource task.subjectType = .ok (found, mapping))
    (hprobe : found.connector.probe task.objectClass task.probeUid (mapping.readOptions .propagation) s =
      (.ok none, s'))
    (hsupports : found.connector.supports .create s' = true) :
    let created := found.connector.create task.objectClass task.attributes (mapping.readOptions .propagation) s'
    let executed := task.execute registry s
    executed.2 = created.2 ∧ executed.1.executed = .create ∧
      (executed.1.status = .success ↔ ∃ uid, created.1 = .ok uid) := by
  have hchoose : task.choose none = .ok .create := by
    rcases hoperation with h | h <;> simp only [choose, h]
  have hprepare : task.prepare registry s =
      (.pending found.connector (mapping.readOptions .propagation) .create, s') := by
    simp only [prepare, hlookup, hprobe, hchoose, Write.capability, hsupports, if_true]
  intro created executed
  have hexecuted : executed = task.finish (.pending found.connector (mapping.readOptions .propagation) .create) s' := by
    simp only [executed, execute, bind_apply, hprepare]
  simp only [hexecuted, finish, send, Effect.mapOk]
  cases hcreated : created with
  | mk answer after => cases answer <;> simp [created] at hcreated <;> simp [hcreated, Except.map, Write.operation]

/-- A task for a new entity carries the full write, so whatever it creates is complete. -/
theorem createTasks_carry_full_write (registry : Registry σ) (entity : Entity) (excluded : NameSet) :
    ∀ task ∈ createTasks registry entity excluded, task.operation = .create ∧
      ∃ resource ∈ entity.resources \ excluded, ∃ target mapping,
        registry.lookup resource entity.subjectType = .ok (target, mapping) ∧ task.resource = target.name ∧
          task.attributes = mapping.writeAttributes entity := by
  intro task hmem
  obtain ⟨resource, hresource, htask⟩ := mem_tasksFor.mp hmem
  obtain ⟨target, mapping, hlookup, hname, hoperation, hattributes⟩ := task?_eq_some htask
  exact ⟨hoperation, resource, hresource, target, mapping, hlookup, hname, hattributes⟩

/-- An update task whose probe finds no object creates one with the write of the change.  That is the full write
exactly if the change has to carry every attribute of the full write; otherwise the object lacks the others. -/
theorem updateTasks_create_with_changed_write (registry : Registry σ) (before after : Entity)
    (affected excluded : NameSet) :
    ∀ task ∈ updateTasks registry before after affected excluded, task.operation = .update →
      ∃ resource ∈ after.resources \ excluded, ∃ target mapping,
        registry.lookup resource after.subjectType = .ok (target, mapping) ∧ task.resource = target.name ∧
          (∀ (found : Resource σ) (foundMapping : Mapping) (s s' : σ),
            registry.lookup task.resource task.subjectType = .ok (found, foundMapping) →
              let options := foundMapping.readOptions .propagation
              found.connector.probe task.objectClass task.probeUid options s = (.ok none, s') →
                found.connector.supports .create s' = true →
                  let attributes := mapping.changedWriteAttributes after affected
                  let created := found.connector.create task.objectClass attributes options s'
                  let executed := task.execute registry s
                  executed.2 = created.2 ∧ executed.1.executed = .create ∧
                    (executed.1.status = .success ↔ ∃ uid, created.1 = .ok uid)) ∧
            (mapping.changedWriteAttributes after affected = mapping.writeAttributes after ↔
              ∀ external ∈ mapping.writeAttributes after, mapping.carries affected external = true) := by
  intro task hmem hupdate
  obtain ⟨resource, hresource, htask⟩ := task?_of_mem_updateTasks hmem hupdate
  obtain ⟨target, mapping, hlookup, hname, -, hattributes⟩ := task?_eq_some htask
  refine ⟨resource, hresource, target, mapping, hlookup, hname, ?_, Mapping.changedWriteAttributes_eq_iff⟩
  intro found foundMapping s s' hfound options hprobe hsupports
  have hexecute := Task.execute_of_absent (.inr hupdate) hfound hprobe hsupports
  rw [hattributes] at hexecute
  exact hexecute

/-! ## A resource of contacts -/

/-- The mapping of users by their name and their mail address. -/
def contactMapping : Mapping :=
  Mapping.ofItems "contacts" "contact"
    [{ external := "uid", target := .username, accountId := true },
     { external := "mail", internal := "mail", target := .plain }]

/-- The resource that holds the contacts. -/
def contacts : Resource Memory.Directory where
  name := "contacts"
  connector := Memory.Directory.connector "contacts" "uid"
  primary := false
  priority := 0
  mode := .sync
  mappings := (PerSubject.const none).set .user (some contactMapping)

/-- The registry of that resource alone. -/
def contactRegistry : Registry Memory.Directory := Registry.insert {} contacts

theorem lookup_contactRegistry : contactRegistry.lookup "contacts" .user = .ok (contacts, contactMapping) :=
  Registry.lookup_eq_ok_iff.mpr
    ⟨Registry.get_eq_ok_iff.mpr (Std.ExtTreeMap.getElem?_insert_self (k := "contacts")), rfl⟩

/-- A user with a mail address who is not a contact yet. -/
def stranger : Entity := { id := 1, name := "ann", plain := Attributes.ofPairs [("mail", [.text "ann@x"])] }

/-- The task that makes the user a contact.  Linking a resource touches no attribute. -/
theorem exists_task_of_linked : ∃ task ∈ updateTasks contactRegistry stranger (stranger.link "contacts") ∅ ∅,
    task.operation = .update ∧ task.resource = "contacts" ∧ task.subjectType = .user ∧
      task.objectClass = "contact" := by
  decide +kernel

theorem linked_contact_created_with_changed_write :
    let after := stranger.link "contacts"
    ∃ task ∈ updateTasks contactRegistry stranger after ∅ ∅, task.operation = .update ∧
      let options := contactMapping.readOptions .propagation
      let attributes := contactMapping.changedWriteAttributes after ∅
      let created := contacts.connector.create "contact" attributes options {}
      let executed := task.execute contactRegistry {}
      executed.2 = created.2 ∧ executed.1.executed = .create ∧
        (executed.1.status = .success ↔ ∃ uid, created.1 = .ok uid) ∧
          (attributes = contactMapping.writeAttributes after ↔
            ∀ external ∈ contactMapping.writeAttributes after, contactMapping.carries ∅ external = true) := by
  obtain ⟨task, hmem, hupdate, hname, htype, hclass⟩ := exists_task_of_linked
  obtain ⟨resource, hresource, target, mapping, hlookup, htarget, hcreated, hcomplete⟩ :=
    updateTasks_create_with_changed_write contactRegistry stranger (stranger.link "contacts") ∅ ∅ task hmem hupdate
  have hcompare : compare "contacts" resource = .eq := by
    simpa [Entity.link, stranger] using hresource
  cases Std.LawfulEqCmp.compare_eq_iff_eq.mp hcompare
  cases hlookup.symm.trans lookup_contactRegistry
  refine ⟨task, hmem, hupdate, ?_⟩
  obtain ⟨hworld, hexecuted, hsuccess⟩ :=
    hcreated contacts contactMapping {} {} (hname ▸ htype ▸ lookup_contactRegistry) rfl rfl
  rw [hclass] at hworld hsuccess
  exact ⟨hworld, hexecuted, hsuccess, hcomplete⟩

/-- The contact that the user becomes lacks the mail address. -/
theorem linked_contact_incomplete :
    let after := stranger.link "contacts"
    ∃ task ∈ updateTasks contactRegistry stranger after ∅ ∅, task.operation = .update ∧
      let executed := task.execute contactRegistry {}
      executed.1.status = .success ∧ executed.1.executed = .create ∧
        ∃ object, executed.2.objects["ann"]? = some object ∧
          object.attributes["mail"]? = none ∧
            (contactMapping.writeAttributes after)["mail"]? = some [.text "ann@x"] := by
  decide +kernel

end Propagation

end Provisioning
