import Provisioning.Mapping.WriteSet
import Provisioning.Propagation.Task
set_option autoImplicit false

/-!
# Planning propagation

Which tasks a change of a local entity gives rise to.  A linked resource gets a task when it is known, maps the
entity's type, and the entity has an account id on it; a resource that the change unlinked gets a delete task.
-/

namespace Provisioning.Propagation

variable {σ : Type}

/-- What a task is for: a new entity, an entity changed in the affected attributes, or an entity to remove. -/
inductive Change where
  | created
  | changed (before : Entity) (affected : NameSet)
  | removed

namespace Change

/-- The operation that a change asks for. -/
def operation : Change → Operation
  | created => .create
  | changed .. => .update
  | removed => .delete

/-- The account id before the change, where it differs from the present one. -/
def oldAccountId? (change : Change) (mapping : Mapping) (accountId : Uid) : Option Uid :=
  match change with
  | changed before _ => (mapping.accountIdOf? before).filter (· != accountId)
  | created | removed => none

/-- What a task for the change writes. -/
def attributes (change : Change) (mapping : Mapping) (entity : Entity) : Attributes :=
  match change with
  | created => mapping.writeAttributes entity
  | changed _ affected => mapping.changedWriteAttributes entity affected
  | removed => ∅

end Change

/-- The task that carries a change of an entity to a resource, if the resource can take it. -/
def task? (registry : Registry σ) (entity : Entity) (change : Change) (resource : String) : Option Task :=
  match registry.lookup resource entity.subjectType with
  | .error _ => none
  | .ok (target, mapping) =>
    (mapping.accountIdOf? entity).map fun accountId =>
      { subjectType := entity.subjectType
        subjectId := entity.id
        subjectName := entity.name
        resource := target.name
        objectClass := mapping.objectClass
        operation := change.operation
        accountId
        oldAccountId := change.oldAccountId? mapping accountId
        attributes := change.attributes mapping entity
        mode := target.mode
        primary := target.primary
        priority := target.priority }

/-- The tasks that carry a change of an entity to the given resources, in their order. -/
def tasksFor (registry : Registry σ) (entity : Entity) (change : Change) (resources : NameSet) : List Task :=
  resources.toList.filterMap (task? registry entity change)

/-- Tasks for a new entity: one for each resource to which it is linked. -/
def createTasks (registry : Registry σ) (entity : Entity) (excluded : NameSet) : List Task :=
  tasksFor registry entity .created (entity.resources \ excluded)

/-- Tasks for a changed entity: updates for the resources to which it is linked, then deletions for those from
which the change unlinked it.  `affected` names the local attributes that the change touched. -/
def updateTasks (registry : Registry σ) (before after : Entity) (affected excluded : NameSet) : List Task :=
  tasksFor registry after (.changed before affected) (after.resources \ excluded)
    ++ tasksFor registry before .removed ((before.resources \ after.resources) \ excluded)

/-- Tasks for a removed entity: one for each resource to which it is linked. -/
def deleteTasks (registry : Registry σ) (entity : Entity) (excluded : NameSet) : List Task :=
  tasksFor registry entity .removed (entity.resources \ excluded)

/-- Deletions on exactly the given resources, whether the entity is linked to them or not. -/
def deprovisionTasks (registry : Registry σ) (entity : Entity) (resources : NameSet) : List Task :=
  tasksFor registry entity .removed resources

end Provisioning.Propagation
