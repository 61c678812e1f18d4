import Provisioning.Propagation.Plan
import Provisioning.Proofs.Mapping.WriteSet
import Provisioning.Proofs.Resource
set_option autoImplicit false

/-!
# What is planned

Every task goes to one of the resources that it was planned for, to which the entity has an account id by the mapping
of that resource.  Among several resources each gets one task at most.
-/

namespace Provisioning.Propagation

variable {σ : Type} {registry : Registry σ} {entity : Entity} {change : Change} {resource : String}
  {resources : NameSet} {task : Task}

theorem mem_tasksFor :
    task ∈ tasksFor registry entity change resources ↔
      ∃ resource ∈ resources, task? registry entity change resource = some task := by
  rw [tasksFor, List.mem_filterMap]
  simp only [Std.ExtTreeSet.mem_toList]

/-- A task is drawn up from a resource of the registry and its mapping of the entity, with the account id that this
mapping gives to the entity. -/
theorem task?_eq_some_iff :
    task? registry entity change resource = some task ↔
      ∃ target mapping accountId, registry.lookup resource entity.subjectType = .ok (target, mapping) ∧
        mapping.accountIdOf? entity = some accountId ∧
          task =
            { subjectType := entity.subjectType
              subjectId := entity.id
              subjectName := entity.name
              resource := target.name
              objectClass := mapping.objectClass
              operation := change.operation
              accountId
              oldAccountId := change.oldAccountId? mapping accountId
              attributes := change.attributes mapping entity
              mode := target.mode
              primary := target.primary
              priority := target.priority } := by
  unfold task?
  constructor
  · intro h
    split at h
    · cases h
    · rename_i target mapping hlookup
      obtain ⟨accountId, haccount, rfl⟩ := Option.map_eq_some_iff.mp h
      exact ⟨target, mapping, accountId, hlookup, haccount, rfl⟩
  · rintro ⟨target, mapping, accountId, hlookup, haccount, rfl⟩
    simp only [hlookup, haccount, Option.map_some]

/-- Whatever a task writes, it has under the external name of the account id what a full write has there. -/
theorem Change.firstText?_attributes {mapping : Mapping} (hwrites : change.operation ≠ .delete) :
    (change.attributes mapping entity).firstText? mapping.accountId.external =
      (mapping.writeAttributes entity).firstText? mapping.accountId.external := by
  cases change with
  | created => rfl
  | changed before affected =>
    rw [attributes, Attributes.firstText?, Mapping.changedWriteAttributes, Std.ExtTreeMap.getElem?_filter',
      mapping.carries_accountId affected, Attributes.firstText?]
    cases (mapping.writeAttributes entity)[mapping.accountId.external]? <;> rfl
  | removed => exact absurd rfl hwrites

/-- A task writes to a resource of the registry, by the mapping of that resource. -/
theorem task?_eq_some (h : task? registry entity change resource = some task) :
    ∃ target mapping, registry.lookup resource entity.subjectType = .ok (target, mapping) ∧
      task.resource = target.name ∧ task.operation = change.operation ∧
        task.attributes = change.attributes mapping entity := by
  obtain ⟨target, mapping, _, hlookup, -, rfl⟩ := task?_eq_some_iff.mp h
  exact ⟨target, mapping, hlookup, rfl, rfl, rfl⟩

/-- If resources are registered under their names, tasks go to the resources that they were planned for. -/
theorem mem_tasksFor_iff (h : registry.Named) :
    task ∈ tasksFor registry entity change resources ↔
      task.resource ∈ resources ∧ task? registry entity change task.resource = some task := by
  rw [mem_tasksFor]
  constructor
  · rintro ⟨resource, hresource, htask⟩
    obtain ⟨target, mapping, hlookup, hname, -⟩ := task?_eq_some htask
    rw [hname, h.lookup hlookup]
    exact ⟨hresource, htask⟩
  · exact fun htask => ⟨_, htask⟩

theorem resource_of_mem_tasksFor (h : registry.Named) (hmem : task ∈ tasksFor registry entity change resources) :
    task.resource ∈ resources := ((mem_tasksFor_iff h).mp hmem).1

theorem operation_of_mem_tasksFor (h : task ∈ tasksFor registry entity change resources) :
    task.operation = change.operation := by
  obtain ⟨resource, -, htask⟩ := mem_tasksFor.mp h
  obtain ⟨-, -, -, -, hoperation, -⟩ := task?_eq_some htask
  exact hoperation

section Updates

variable {before after : Entity} {affected excluded : NameSet}

/-- The update tasks of a change are those for the resources to which the entity is linked after it. -/
theorem mem_updates_iff :
    task ∈ updateTasks registry before after affected excluded ∧ task.operation = .update ↔
      task ∈ tasksFor registry after (.changed before affected) (after.resources \ excluded) := by
  rw [updateTasks, List.mem_append]
  constructor
  · rintro ⟨hmem | hmem, hupdate⟩
    · exact hmem
    · cases hupdate.symm.trans (operation_of_mem_tasksFor hmem)
  · exact fun hmem => ⟨.inl hmem, operation_of_mem_tasksFor hmem⟩

/-- The delete tasks of a change are those for the resources to which the entity was linked only before it. -/
theorem mem_deletions_iff :
    task ∈ updateTasks registry before after affected excluded ∧ task.operation = .delete ↔
      task ∈ tasksFor registry before .removed ((before.resources \ after.resources) \ excluded) := by
  rw [updateTasks, List.mem_append]
  constructor
  · rintro ⟨hmem | hmem, hdelete⟩
    · cases hdelete.symm.trans (operation_of_mem_tasksFor hmem)
    · exact hmem
  · exact fun hmem => ⟨.inr hmem, operation_of_mem_tasksFor hmem⟩

end Updates

/-- For one resource there is one task at most. -/
theorem tasksFor_singleton (registry : Registry σ) (entity : Entity) (change : Change) (resource : String) :
    tasksFor registry entity change {resource} = (task? registry entity change resource).toList := by
  have hlist : ({resource} : NameSet).toList = [resource] := rfl
  rw [tasksFor, hlist]
  cases htask : task? registry entity change resource <;> simp [htask]

/-- A task that was planned for some change of an entity. -/
inductive Planned (registry : Registry σ) (task : Task) : Prop
  | created (entity : Entity) (excluded : NameSet) (h : task ∈ createTasks registry entity excluded)
  | changed (before after : Entity) (affected excluded : NameSet)
      (h : task ∈ updateTasks registry before after affected excluded)
  | removed (entity : Entity) (excluded : NameSet) (h : task ∈ deleteTasks registry entity excluded)
  | deprovisioned (entity : Entity) (resources : NameSet) (h : task ∈ deprovisionTasks registry entity resources)

theorem Planned.exists_task? (h : Planned registry task) :
    ∃ entity change resource, task? registry entity change resource = some task := by
  have hmem : ∃ entity change resources, task ∈ tasksFor registry entity change resources := by
    cases h with
    | created entity excluded h => exact ⟨_, _, _, h⟩
    | changed before after affected excluded h =>
      rcases List.mem_append.mp h with h | h <;> exact ⟨_, _, _, h⟩
    | removed entity excluded h => exact ⟨_, _, _, h⟩
    | deprovisioned entity resources h => exact ⟨_, _, _, h⟩
  obtain ⟨entity, change, resources, hmem⟩ := hmem
  obtain ⟨resource, -, htask⟩ := mem_tasksFor.mp hmem
  exact ⟨entity, change, resource, htask⟩

/-! ## One task for a resource -/

/-- Among the tasks, each resource has one at most. -/
def OnePerResource (tasks : List Task) : Prop := (tasks.map Task.resource).Nodup

/-- The tasks that are planned for some change of an entity. -/
inductive Plan (registry : Registry σ) : List Task → Prop
  | created (entity : Entity) (excluded : NameSet) : Plan registry (createTasks registry entity excluded)
  | changed (before after : Entity) (affected excluded : NameSet) :
    Plan registry (updateTasks registry before after affected excluded)
  | removed (entity : Entity) (excluded : NameSet) : Plan registry (deleteTasks registry entity excluded)
  | deprovisioned (entity : Entity) (resources : NameSet) :
    Plan registry (deprovisionTasks registry entity resources)

/-- The tasks go to some of the resources that they were planned for, in their order. -/
theorem sublist_of_tasksFor (h : registry.Named) (entity : Entity) (change : Change) (resources : NameSet) :
    ((tasksFor registry entity change resources).map Task.resource).Sublist resources.toList := by
  unfold tasksFor
  induction resources.toList with
  | nil => exact .slnil
  | cons resource rest ih =>
    rw [List.filterMap_cons]
    cases htask : task? registry entity change resource with
    | none => exact ih.cons resource
    | some task =>
      obtain ⟨target, mapping, hlookup, hname, -⟩ := task?_eq_some htask
      rw [List.map_cons, hname, h.lookup hlookup]
      exact ih.cons_cons resource

theorem onePerResource_tasksFor (h : registry.Named) (entity : Entity) (change : Change) (resources : NameSet) :
    OnePerResource (tasksFor registry entity change resources) := by
  have hdistinct : resources.toList.Nodup := by
    refine (Std.ExtTreeSet.distinct_toList (t := resources)).imp fun hne heq => ?_
    exact hne (Std.LawfulEqCmp.compare_eq_iff_eq.mpr heq)
  exact hdistinct.sublist (sublist_of_tasksFor h entity change resources)

/-- Whatever the change, a plan has one task for a resource at most: what is updated is still linked, and what is
deleted is not. -/
theorem Plan.onePerResource (hnamed : registry.Named) {tasks : List Task} (h : Plan registry tasks) :
    OnePerResource tasks := by
  cases h with
  | created entity excluded => exact onePerResource_tasksFor hnamed _ _ _
  | removed entity excluded => exact onePerResource_tasksFor hnamed _ _ _
  | deprovisioned entity resources => exact onePerResource_tasksFor hnamed _ _ _
  | changed before after affected excluded =>
    unfold OnePerResource updateTasks
    rw [List.map_append]
    refine List.nodup_append.mpr ⟨onePerResource_tasksFor hnamed _ _ _, onePerResource_tasksFor hnamed _ _ _, ?_⟩
    intro updated hupdated deleted hdeleted hsame
    obtain ⟨task, htask, rfl⟩ := List.mem_map.mp hupdated
    obtain ⟨other, hother, rfl⟩ := List.mem_map.mp hdeleted
    have hlinked := resource_of_mem_tasksFor hnamed htask
    have hunlinked := resource_of_mem_tasksFor hnamed hother
    rw [hsame] at hlinked
    simp only [Std.ExtTreeSet.mem_diff_iff] at hlinked hunlinked
    exact hunlinked.1.2 hlinked.1

end Provisioning.Propagation
