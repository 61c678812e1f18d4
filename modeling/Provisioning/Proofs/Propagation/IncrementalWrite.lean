import Provisioning.Proofs.Mapping.WriteSet
import Provisioning.Proofs.Memory.Premises
import Provisioning.Proofs.Propagation.Plan
set_option autoImplicit false

/-!
# Incremental writes

An update task carries only what its change may have touched.  On a resource in memory it leaves the object as a
full write would have left it.
-/

namespace Provisioning

variable {σ : Type}

namespace Memory.Directory

/-- Unless writes fail, an update of a present object succeeds and puts the attributes over those of the object. -/
theorem update_spec (uidAttribute : String) {uid : Uid} {object : RemoteObject} {directory : Directory}
    (hworks : directory.failingWrites = none) (hobject : directory.objects[uid]? = some object)
    (attributes : Attributes) :
    let updated := update uidAttribute uid attributes directory
    ∃ uid' object', updated.1 = .ok uid' ∧ updated.2.objects[uid']? = some object' ∧
      object'.attributes = object.attributes.overlay attributes := by
  have hrecorded : (directory.record ("update " ++ uid)).failingWrites = none := hworks
  have hfound : (directory.record ("update " ++ uid)).objects[uid]? = some object := hobject
  simp only [update, write, hrecorded, hfound]
  exact ⟨_, _, rfl, Std.ExtTreeMap.getElem?_insert_self, rfl⟩

end Memory.Directory

namespace Propagation

/-- An update task of a change is drawn up for one of the resources to which the entity is linked after it. -/
theorem task?_of_mem_updateTasks {registry : Registry σ} {before after : Entity} {affected excluded : NameSet}
    {task : Task} (hmem : task ∈ updateTasks registry before after affected excluded)
    (hupdate : task.operation = .update) :
    ∃ resource ∈ after.resources \ excluded,
      task? registry after (.changed before affected) resource = some task :=
  mem_tasksFor.mp (mem_updates_iff.mp ⟨hmem, hupdate⟩)

/-- Incremental writes agree with full writes.  Put over the full write from before a change, the write of the
change gives the full write after it, whatever becomes of the derived attributes.  So an object in memory that
holds the former holds the latter once an update task of the change has been applied to it. -/
theorem updateTasks_agree_with_full_write (registry : Registry σ) (before : Entity) (patch : Patch)
    (derived : Attributes) (excluded : NameSet) :
    let after : Entity := { patch.apply before with derived }
    let affected := patch.affected before
    (∀ mapping : Mapping,
      (mapping.writeAttributes before).overlay (mapping.changedWriteAttributes after affected) =
        mapping.writeAttributes after) ∧
      ∀ task ∈ updateTasks registry before after affected excluded, task.operation = .update →
        ∃ resource ∈ after.resources \ excluded, ∃ target mapping,
          registry.lookup resource after.subjectType = .ok (target, mapping) ∧ task.resource = target.name ∧
            ∀ (name uidAttribute : String) (uid : Uid) (options : ReadOptions) (object : RemoteObject)
              (directory : Memory.Directory),
              directory.failingWrites = none → directory.objects[uid]? = some object →
                object.attributes = mapping.writeAttributes before →
                  let connector := Memory.Directory.connector name uidAttribute
                  let updated := connector.update task.objectClass uid task.attributes options directory
                  ∃ uid' object', updated.1 = .ok uid' ∧ updated.2.objects[uid']? = some object' ∧
                    object'.attributes = mapping.writeAttributes after := by
  intro after affected
  refine ⟨fun mapping => mapping.overlay_changedWriteAttributes before patch derived, fun task hmem hupdate => ?_⟩
  obtain ⟨resource, hresource, htask⟩ := task?_of_mem_updateTasks hmem hupdate
  obtain ⟨target, mapping, hlookup, hname, -, hattributes⟩ := task?_eq_some htask
  refine ⟨resource, hresource, target, mapping, hlookup, hname, ?_⟩
  intro name uidAttribute uid options object directory hworks hobject hbefore
  obtain ⟨uid', object', hok, hfound, hmerged⟩ :=
    Memory.Directory.update_spec uidAttribute hworks hobject task.attributes
  refine ⟨uid', object', hok, hfound, ?_⟩
  rw [hmerged, hbefore, hattributes]
  exact mapping.overlay_changedWriteAttributes before patch derived

/-- A user is renamed whose object is there as it was written before. -/
theorem updateTasks_agree_with_full_write_on_rename :
    let connector := Memory.Directory.connector "directory" "uid"
    let registry := Memory.Premises.registry (connector.within Memory.Premises.directoryLens)
    let mapping := Memory.Premises.userMapping
    let before : Entity := { name := "ann", resources := {"directory"} }
    let patch : Patch := { name := some "bea" }
    let after : Entity := { patch.apply before with derived := ∅ }
    let object : RemoteObject :=
      { uid := "ann", objectClass := "account", attributes := mapping.writeAttributes before }
    let directory : Memory.Directory := Memory.Directory.insertObject {} object
    ∃ task ∈ updateTasks registry before after (patch.affected before) ∅, task.operation = .update ∧
      ∃ uid' object', let updated := connector.update task.objectClass "ann" task.attributes {} directory
        updated.1 = .ok uid' ∧ updated.2.objects[uid']? = some object' ∧
          object'.attributes = mapping.writeAttributes after := by
  intro connector registry mapping before patch after object directory
  have hlinked : "directory" ∈ after.resources \ ∅ := by
    simp [after, patch, before, Patch.apply]
  have hlookup : registry.lookup "directory" after.subjectType = .ok (_, mapping) := Memory.Premises.lookup_registry
  obtain ⟨task, htask⟩ :
      ∃ task, task? registry after (.changed before (patch.affected before)) "directory" = some task := by
    rw [task?, hlookup]
    exact ⟨_, rfl⟩
  have hmem : task ∈ updateTasks registry before after (patch.affected before) ∅ :=
    List.mem_append_left _ (mem_tasksFor.mpr ⟨"directory", hlinked, htask⟩)
  obtain ⟨-, -, -, -, hoperation, -⟩ := task?_eq_some htask
  obtain ⟨resource, -, target, found, hfound, -, hagrees⟩ :=
    (updateTasks_agree_with_full_write registry before patch ∅ ∅).2 task hmem hoperation
  obtain ⟨-, rfl⟩ := Memory.Premises.eq_of_lookup hfound
  refine ⟨task, hmem, hoperation, ?_⟩
  exact hagrees "directory" "uid" "ann" {} object directory rfl Std.ExtTreeMap.getElem?_insert_self rfl

end Propagation

end Provisioning
