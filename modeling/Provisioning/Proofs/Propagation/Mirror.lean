import Mathlib.Data.List.Forall2
import Provisioning.Connector.Call
import Provisioning.Propagation.Execute
import Provisioning.Propagation.Plan
import Provisioning.Proofs.Effect.Beside
import Provisioning.Proofs.Resource
set_option autoImplicit false

/-!
# Two propagations side by side

Resources may be reached through other connectors, which lead to another world.  The same tasks are planned then.  If
these connectors answer probes and writes as the first ones do, in worlds that stay related, then carrying out tasks
has the same outcomes as well, in whatever order it is done.
-/

namespace Provisioning

variable {σ τ ρ : Type}

namespace Connector

/-- Two connectors of the same capabilities that answer probes and writes alike. -/
structure Mirrors (R : σ → τ → Prop) (left : Connector σ) (right : Connector τ) : Prop where
  supports : ∀ capability s t, R s t → left.supports capability s = right.supports capability t
  create : ∀ c a o, Alike R (left.create c a o) (right.create c a o)
  update : ∀ c u a o, Alike R (left.update c u a o) (right.update c u a o)
  delete : ∀ c u o, Alike R (left.delete c u o) (right.delete c u o)
  getObject : ∀ c u o, Alike R (left.getObject c u o) (right.getObject c u o)

theorem Mirrors.probe {R : σ → τ → Prop} {left : Connector σ} {right : Connector τ} (h : left.Mirrors R right)
    (objectClass : String) (uid : Uid) (options : ReadOptions) :
    Alike R (left.probe objectClass uid options) (right.probe objectClass uid options) := by
  intro s t hrel
  obtain ⟨hanswer, hafter⟩ := h.getObject objectClass uid options s t hrel
  simp only [Connector.probe]
  generalize left.getObject objectClass uid options s = read at hanswer hafter ⊢
  generalize right.getObject objectClass uid options t = read' at hanswer hafter ⊢
  obtain ⟨answer, s'⟩ := read
  obtain ⟨answer', t'⟩ := read'
  cases hanswer
  cases answer with
  | ok found => exact ⟨rfl, hafter⟩
  | error error => cases error <;> exact ⟨rfl, hafter⟩

/-- If noting calls leaves the world related, a connector is mirrored by the one that notes them. -/
theorem Mirrors.observed {R : σ → τ → Prop} {left : Connector σ} {right : Connector τ} (h : left.Mirrors R right)
    {note : Call → τ → τ} (hnote : ∀ call s t, R s t → R s (note call t)) : left.Mirrors R (right.observed note) where
  supports := h.supports
  create c a o s t hrel := h.create c a o s _ (hnote _ s t hrel)
  update c u a o s t hrel := h.update c u a o s _ (hnote _ s t hrel)
  delete c u o s t hrel := h.delete c u o s _ (hnote _ s t hrel)
  getObject c u o s t hrel := h.getObject c u o s _ (hnote _ s t hrel)

/-- A connector to a part of the world with something beside it mirrors the connector to that part. -/
theorem mirrors_within (connector : Connector σ) :
    connector.Mirrors Beside (connector.within (Lens.first : Lens (σ × ρ) σ)) where
  supports _ _ _ hrel := hrel ▸ rfl
  create _ _ _ := alike_within _
  update _ _ _ _ := alike_within _
  delete _ _ _ := alike_within _
  getObject _ _ _ := alike_within _

end Connector

/-! ## Lists side by side -/

section Lists

variable {α β : Type} {R : α → β → Prop} {left : List α} {right : List β}

theorem rel_getElem? (h : List.Forall₂ R left right) (index : Nat) : Option.Rel R left[index]? right[index]? := by
  induction h generalizing index with
  | nil => exact .none
  | cons hhead _ ih =>
    cases index with
    | zero => exact .some hhead
    | succ index => exact ih index

theorem forall₂_set (h : List.Forall₂ R left right) {a : α} {b : β} (hnew : R a b) (index : Nat) :
    List.Forall₂ R (left.set index a) (right.set index b) := by
  induction h generalizing index with
  | nil => exact .nil
  | cons hhead htail ih =>
    cases index with
    | zero => exact .cons hnew htail
    | succ index => exact .cons hhead (ih index)

theorem forall₂_eraseIdx (h : List.Forall₂ R left right) (index : Nat) :
    List.Forall₂ R (left.eraseIdx index) (right.eraseIdx index) := by
  induction h generalizing index with
  | nil => exact .nil
  | cons hhead htail ih =>
    cases index with
    | zero => exact htail
    | succ index => exact .cons hhead (ih index)

end Lists

namespace Propagation

variable {R : σ → τ → Prop} {change : String → Connector σ → Connector τ}

/-! ## Planning -/

theorem task?_through (registry : Registry σ) (entity : Entity) (asked : Change) (resource : String) :
    task? (registry.through change) entity asked resource = task? registry entity asked resource := by
  unfold task?
  rw [Registry.lookup_through]
  cases registry.lookup resource entity.subjectType <;> rfl

theorem tasksFor_through (registry : Registry σ) (entity : Entity) (asked : Change) (resources : NameSet) :
    tasksFor (registry.through change) entity asked resources = tasksFor registry entity asked resources := by
  simp only [tasksFor, funext (task?_through registry entity asked)]

/-! ## One task -/

/-- What is left of two tasks after their probes: the same outcome, or the same write to connectors that mirror each
other. -/
inductive Prepared.Mirrors (R : σ → τ → Prop) : Prepared σ → Prepared τ → Prop
  | settled (outcome : Outcome) : Mirrors R (.settled outcome) (.settled outcome)
  | pending {left : Connector σ} {right : Connector τ} (h : left.Mirrors R right) (options : ReadOptions)
      (write : Write) : Mirrors R (.pending left options write) (.pending right options write)

theorem Task.mirrors_send {left : Connector σ} {right : Connector τ} (h : left.Mirrors R right) (task : Task)
    (options : ReadOptions) (write : Write) :
    Alike R (task.send left options write) (task.send right options write) := by
  cases write with
  | create => exact (h.create _ _ _).mapOk _
  | update object => exact (h.update _ _ _ _).mapOk _
  | delete object => exact h.delete _ _ _

theorem Task.mirrors_finish (task : Task) {left : Prepared σ} {right : Prepared τ} (h : left.Mirrors R right) :
    Alike R (task.finish left) (task.finish right) := by
  cases h with
  | settled outcome => exact alike_pure outcome
  | pending h options write =>
    intro s t hrel
    obtain ⟨hanswer, hafter⟩ := task.mirrors_send h options write s t hrel
    simp only [Task.finish]
    generalize task.send _ options write s = sent at hanswer hafter ⊢
    generalize task.send _ options write t = sent' at hanswer hafter ⊢
    obtain ⟨answer, s'⟩ := sent
    obtain ⟨answer', t'⟩ := sent'
    cases hanswer
    cases answer <;> exact ⟨rfl, hafter⟩

/-- Where the two connectors of its resource mirror each other, a task finds the same and is left with the same to
write. -/
theorem Task.mirrors_prepare (change : String → Connector σ → Connector τ) (registry : Registry σ) (task : Task)
    (h : ∀ resource mapping, registry.lookup task.resource task.subjectType = .ok (resource, mapping) →
      Connector.Mirrors R resource.connector (change task.resource resource.connector)) {s : σ} {t : τ}
    (hrel : R s t) :
    Prepared.Mirrors R (task.prepare registry s).1 (task.prepare (registry.through change) t).1 ∧
      R (task.prepare registry s).2 (task.prepare (registry.through change) t).2 := by
  simp only [Task.prepare, Registry.lookup_through]
  cases hlookup : registry.lookup task.resource task.subjectType with
  | error error => exact ⟨.settled _, hrel⟩
  | ok found =>
    obtain ⟨resource, mapping⟩ := found
    have hconnector := h resource mapping hlookup
    obtain ⟨hanswer, hafter⟩ :=
      hconnector.probe task.objectClass task.probeUid (mapping.readOptions .propagation) s t hrel
    simp only [Except.map, Resource.through]
    generalize resource.connector.probe task.objectClass task.probeUid _ s = probed at hanswer hafter ⊢
    generalize (change task.resource resource.connector).probe task.objectClass task.probeUid _ t = probed'
      at hanswer hafter ⊢
    obtain ⟨answer, s'⟩ := probed
    obtain ⟨answer', t'⟩ := probed'
    cases hanswer
    cases answer with
    | error error => exact ⟨.settled _, hafter⟩
    | ok before =>
      dsimp only
      cases task.choose before with
      | error outcome => exact ⟨.settled _, hafter⟩
      | ok write =>
        dsimp only
        rw [hconnector.supports write.capability s' t' hafter]
        split
        · exact ⟨.pending hconnector _ _, hafter⟩
        · exact ⟨.settled _, hafter⟩

section Change

variable (h : ∀ name connector, Connector.Mirrors R connector (change name connector))

include h

namespace Executor

omit h in
/-- The executor that reaches every resource through another connector. -/
def through (change : String → Connector σ → Connector τ) (executor : Executor σ) : Executor τ where
  registry := executor.registry.through change
  parallel := executor.parallel
  dryRun := executor.dryRun
  turns := executor.turns

variable (executor : Executor σ)

theorem mirrors_prepare (task : Task) {s : σ} {t : τ} (hrel : R s t) :
    Prepared.Mirrors R (executor.prepare task s).1 ((executor.through change).prepare task t).1 ∧
      R (executor.prepare task s).2 ((executor.through change).prepare task t).2 := by
  unfold prepare through
  cases executor.dryRun with
  | true => exact ⟨.settled _, hrel⟩
  | false =>
    exact task.mirrors_prepare change executor.registry (fun resource _ _ => h task.resource resource.connector) hrel

theorem mirrors_run (task : Task) : Alike R (executor.run task) ((executor.through change).run task) := by
  intro s t hrel
  obtain ⟨hprepared, hafter⟩ := mirrors_prepare h executor task hrel
  exact task.mirrors_finish hprepared _ _ hafter

/-! ## Several tasks -/

theorem mirrors_runInOrder (tasks : List Task) :
    Alike R (executor.runInOrder tasks) ((executor.through change).runInOrder tasks) := by
  induction tasks with
  | nil => exact alike_pure _
  | cons task rest ih => exact (mirrors_run h executor task).bind fun _ => ih.bind fun _ => alike_pure _

omit h in
/-- Two jobs of one task, both on their way to the probe or both past it. -/
structure Job.Mirrors (R : σ → τ → Prop) (left : Job σ) (right : Job τ) : Prop where
  task : left.task = right.task
  prepared : Option.Rel (Prepared.Mirrors R) left.prepared right.prepared

theorem mirrors_runInterleaved (steps turn : Nat) {jobs : List (Job σ)} {jobs' : List (Job τ)}
    (hjobs : List.Forall₂ (Job.Mirrors R) jobs jobs') :
    Alike R (executor.runInterleaved steps turn jobs) ((executor.through change).runInterleaved steps turn jobs') := by
  induction steps generalizing turn jobs jobs' with
  | zero => exact alike_pure _
  | succ steps ih =>
    have hturns : (executor.through change).turns = executor.turns := rfl
    simp only [runInterleaved, hturns, hjobs.length_eq]
    generalize executor.turns turn % jobs'.length = index
    have hjob := rel_getElem? hjobs index
    generalize jobs[index]? = job at hjob ⊢
    generalize jobs'[index]? = job' at hjob ⊢
    cases hjob with
    | none => exact alike_pure _
    | @some job job' hjob =>
      obtain ⟨task, prepared⟩ := job
      obtain ⟨task', prepared'⟩ := job'
      obtain ⟨rfl, hprepared⟩ := hjob
      cases hprepared with
      | none =>
        intro s t hrel
        obtain ⟨hprobed, hafter⟩ := mirrors_prepare h executor task hrel
        exact ih _ (forall₂_set hjobs ⟨rfl, .some hprobed⟩ index) _ _ hafter
      | some hprepared =>
        refine (task.mirrors_finish hprepared).bind fun outcome => ?_
        exact (ih _ (forall₂_eraseIdx hjobs index)).bind fun _ => alike_pure _

theorem mirrors_runSecondary (tasks : List Task) :
    Alike R (executor.runSecondary tasks) ((executor.through change).runSecondary tasks) := by
  have hparallel : (executor.through change).parallel = executor.parallel := rfl
  unfold runSecondary
  rw [hparallel]
  refine Alike.ite (fun _ => mirrors_runInterleaved h executor _ _ ?_) fun _ => mirrors_runInOrder h executor tasks
  rw [List.forall₂_map_left_iff, List.forall₂_map_right_iff]
  exact List.forall₂_same.mpr fun task _ => ⟨rfl, .none⟩

theorem mirrors_runPrimary (secondary tasks : List Task) :
    Alike R (executor.runPrimary secondary tasks) ((executor.through change).runPrimary secondary tasks) := by
  induction tasks with
  | nil => exact (mirrors_runSecondary h executor secondary).bind fun _ => alike_pure _
  | cons task rest ih =>
    refine (mirrors_run h executor task).bind fun outcome => Alike.ite (fun _ => alike_pure _) fun _ => ?_
    exact ih.bind fun _ => alike_pure _

/-- Carrying out the tasks of a change through connectors that mirror the first ones has the same outcomes. -/
theorem mirrors_execute (tasks : List Task) :
    Alike R (executor.execute tasks) ((executor.through change).execute tasks) :=
  mirrors_runPrimary h executor _ _

end Executor

end Change

end Propagation

end Provisioning
