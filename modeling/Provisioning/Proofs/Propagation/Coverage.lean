import Provisioning.Proofs.Propagation.AbsentObject
set_option autoImplicit false

/-!
# Which resources a change reaches

An entity can be propagated to a resource if it has an account id there: the resource is known, maps the type of the
entity, and the entity has a value for what is mapped as account id.  The tasks of a changed entity are one update for
each resource of this kind to which the entity is linked, and one deletion for each to which it was linked before.
-/

namespace Provisioning

variable {σ : Type}

/-- The account id of an entity on a resource, if the entity can be propagated there. -/
def Registry.accountIdOn? (registry : Registry σ) (resource : String) (entity : Entity) : Option Uid :=
  match registry.lookup resource entity.subjectType with
  | .error _ => none
  | .ok (_, mapping) => mapping.accountIdOf? entity

namespace Propagation

variable {registry : Registry σ} {entity before after : Entity} {change : Change} {resource : String}
  {resources affected excluded : NameSet} {task : Task}

/-! ## Tasks of one kind -/

theorem isSome_task?_iff :
    (task? registry entity change resource).isSome ↔ (registry.accountIdOn? resource entity).isSome := by
  unfold task? Registry.accountIdOn?
  cases registry.lookup resource entity.subjectType with
  | error error => rfl
  | ok found => simp only [Option.isSome_map]

/-- A task carries the account id that its entity has on the resource. -/
theorem accountIdOn?_of_task? (h : task? registry entity change resource = some task) :
    registry.accountIdOn? resource entity = some task.accountId := by
  obtain ⟨target, mapping, accountId, hlookup, haccount, rfl⟩ := task?_eq_some_iff.mp h
  simp only [Registry.accountIdOn?, hlookup, haccount]

/-- Among the given resources, those have a task on which the entity has an account id. -/
theorem exists_mem_tasksFor_iff (h : registry.Named) :
    (∃ task ∈ tasksFor registry entity change resources, task.resource = resource) ↔
      resource ∈ resources ∧ (registry.accountIdOn? resource entity).isSome := by
  constructor
  · rintro ⟨task, hmem, rfl⟩
    obtain ⟨hresource, htask⟩ := (mem_tasksFor_iff h).mp hmem
    exact ⟨hresource, isSome_task?_iff.mp (Option.isSome_of_eq_some htask)⟩
  · rintro ⟨hresource, hsome⟩
    obtain ⟨task, htask⟩ : ∃ task, task? registry entity change resource = some task :=
      Option.isSome_iff_exists.mp (isSome_task?_iff.mpr hsome)
    obtain ⟨target, mapping, hlookup, hname, -⟩ := task?_eq_some htask
    exact ⟨task, mem_tasksFor.mpr ⟨resource, hresource, htask⟩, hname.trans (h.lookup hlookup)⟩

/-! ## Updates and deletions -/

/-- An update of an entity of the same type as before carries the account id from before where it differs. -/
theorem oldAccountId_of_task? (htype : before.subjectType = after.subjectType)
    (h : task? registry after (.changed before affected) resource = some task) (old : Uid) :
    task.oldAccountId = some old ↔
      registry.accountIdOn? resource before = some old ∧ old ≠ task.accountId := by
  obtain ⟨target, mapping, accountId, hlookup, haccount, rfl⟩ := task?_eq_some_iff.mp h
  simp only [Registry.accountIdOn?, htype, hlookup, Change.oldAccountId?, Option.filter_eq_some_iff, bne_iff_ne]

/-- The tasks of a change from one entity to another reach every resource as they should. -/
structure Covers (registry : Registry σ) (before after : Entity) (excluded : NameSet) (tasks : List Task) : Prop where
  onePerResource : OnePerResource tasks
  spared : ∀ task ∈ tasks, task.resource ∉ excluded
  operation : ∀ task ∈ tasks, task.operation = .update ∨ task.operation = .delete
  /-- Updated is where the entity is linked. -/
  updated_iff : ∀ resource, (∃ task ∈ tasks, task.resource = resource ∧ task.operation = .update) ↔
    resource ∈ after.resources ∧ resource ∉ excluded ∧ (registry.accountIdOn? resource after).isSome
  /-- Deleted is where the entity was linked and is no more. -/
  deleted_iff : ∀ resource, (∃ task ∈ tasks, task.resource = resource ∧ task.operation = .delete) ↔
    (resource ∈ before.resources ∧ resource ∉ after.resources) ∧ resource ∉ excluded ∧
      (registry.accountIdOn? resource before).isSome
  update : ∀ task ∈ tasks, task.operation = .update →
    registry.accountIdOn? task.resource after = some task.accountId ∧
      ∀ old, task.oldAccountId = some old ↔
        registry.accountIdOn? task.resource before = some old ∧ old ≠ task.accountId
  deletion : ∀ task ∈ tasks, task.operation = .delete →
    registry.accountIdOn? task.resource before = some task.accountId ∧ task.oldAccountId = none ∧
      task.attributes = ∅

/-- The tasks of a changed entity are one for each resource at most, and none for an excluded one.  They update the
entity where it is linked and delete it from where it was linked before, each under the account id of its side. -/
theorem updateTasks_cover (hnamed : registry.Named) (htype : before.subjectType = after.subjectType)
    (affected excluded : NameSet) :
    Covers registry before after excluded (updateTasks registry before after affected excluded) := by
  have hupdate : ∀ {task}, task ∈ updateTasks registry before after affected excluded → task.operation = .update →
      task.resource ∈ after.resources \ excluded ∧
        task? registry after (.changed before affected) task.resource = some task :=
    fun hmem hoperation => (mem_tasksFor_iff hnamed).mp (mem_updates_iff.mp ⟨hmem, hoperation⟩)
  have hdeletion : ∀ {task}, task ∈ updateTasks registry before after affected excluded → task.operation = .delete →
      task.resource ∈ (before.resources \ after.resources) \ excluded ∧
        task? registry before .removed task.resource = some task :=
    fun hmem hoperation => (mem_tasksFor_iff hnamed).mp (mem_deletions_iff.mp ⟨hmem, hoperation⟩)
  have hoperation : ∀ task ∈ updateTasks registry before after affected excluded,
      task.operation = .update ∨ task.operation = .delete := by
    intro task hmem
    rcases List.mem_append.mp hmem with hmem | hmem
    · exact .inl (operation_of_mem_tasksFor hmem)
    · exact .inr (operation_of_mem_tasksFor hmem)
  constructor
  · exact (Plan.changed before after affected excluded).onePerResource hnamed
  · intro task hmem
    rcases hoperation task hmem with h | h
    · exact (Std.ExtTreeSet.mem_diff_iff.mp (hupdate hmem h).1).2
    · exact (Std.ExtTreeSet.mem_diff_iff.mp (hdeletion hmem h).1).2
  · exact hoperation
  · intro resource
    rw [← and_assoc, ← Std.ExtTreeSet.mem_diff_iff, ← exists_mem_tasksFor_iff hnamed]
    refine exists_congr fun task => ?_
    rw [← mem_updates_iff, and_assoc, and_comm (a := task.operation = _)]
  · intro resource
    rw [← and_assoc, ← Std.ExtTreeSet.mem_diff_iff, ← Std.ExtTreeSet.mem_diff_iff, ← exists_mem_tasksFor_iff hnamed]
    refine exists_congr fun task => ?_
    rw [← mem_deletions_iff, and_assoc, and_comm (a := task.operation = _)]
  · intro task hmem h
    obtain ⟨-, htask⟩ := hupdate hmem h
    exact ⟨accountIdOn?_of_task? htask, oldAccountId_of_task? htype htask⟩
  · intro task hmem h
    obtain ⟨-, htask⟩ := hdeletion hmem h
    refine ⟨accountIdOn?_of_task? htask, ?_⟩
    obtain ⟨target, mapping, accountId, -, -, heq⟩ := task?_eq_some_iff.mp htask
    rw [heq]
    exact ⟨rfl, rfl⟩

/-! ## Two resources -/

/-- The registry of the contacts and of a payroll. -/
def staffRegistry : Registry Memory.Directory := contactRegistry.insert { contacts with name := "payroll" }

/-- A user who is renamed and taken off the payroll is updated among the contacts and deleted from the payroll, there
under the new name and here under the old one. -/
theorem leaver_covered :
    let before : Entity := { id := 1, name := "ann", resources := {"contacts", "payroll"} }
    let after : Entity := { before with name := "bea", resources := {"contacts"} }
    let tasks := updateTasks staffRegistry before after {Entity.nameAttribute} ∅
    Covers staffRegistry before after ∅ tasks ∧
      tasks.map (fun task => (task.resource, task.operation, task.accountId, task.oldAccountId)) =
        [("contacts", .update, "bea", some "ann"), ("payroll", .delete, "ann", none)] := by
  intro before after tasks
  have hnamed : staffRegistry.Named := (Registry.named_empty.insert _).insert _
  have htype : before.subjectType = after.subjectType := rfl
  exact ⟨updateTasks_cover hnamed htype _ ∅, by decide +kernel⟩

end Propagation

end Provisioning
