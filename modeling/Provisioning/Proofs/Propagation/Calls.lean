import Provisioning.Proofs.Propagation.Frame
import Provisioning.Proofs.Propagation.Mirror
set_option autoImplicit false

/-!
# Calls of a propagation

The calls that a propagation makes, probes and writes, can be written down beside the world.  They all go to the
resources of its tasks.  A task alone makes at most one probe and, after it, the one write that the probe led to.
-/

namespace Provisioning

variable {σ β : Type}

/-- A call to the connector of a resource. -/
structure RemoteCall where
  resource : String
  call : Call
  deriving DecidableEq

/-- Add a note of every call to a resource to those beside the world, before it is made. -/
def Connector.logged (note : RemoteCall → β) (resource : String) (connector : Connector σ) :
    Connector (σ × List β) :=
  (connector.within Lens.first).observed fun call pair => (pair.1, pair.2 ++ [note ⟨resource, call⟩])

theorem Connector.mirrors_logged (note : RemoteCall → β) (resource : String) (connector : Connector σ) :
    connector.Mirrors Beside (connector.logged note resource) :=
  connector.mirrors_within.observed fun _ _ _ hrel => hrel

/-- A probe leaves behind what reading the object leaves. -/
theorem Connector.probe_world (connector : Connector σ) (objectClass : String) (uid : Uid) (options : ReadOptions)
    (s : σ) : (connector.probe objectClass uid options s).2 = (connector.getObject objectClass uid options s).2 := by
  unfold probe
  split <;> rename_i heq
  · rw [heq]
  · rfl

/-- The frame of what adds nothing to the notes but some calls to resources with a property. -/
def Frame.calling (note : RemoteCall → β) (P : String → Prop) : Frame (σ × List β) where
  Rel s t := ∃ calls : List RemoteCall, t.2 = s.2 ++ calls.map note ∧ ∀ call ∈ calls, P call.resource
  refl s := ⟨[], (List.append_nil _).symm, fun _ hmem => nomatch hmem⟩
  trans := by
    rintro s t u ⟨calls, hcalls, hall⟩ ⟨later, hlater, hall'⟩
    refine ⟨calls ++ later, ?_, List.forall_mem_append.mpr ⟨hall, hall'⟩⟩
    rw [hlater, hcalls, List.map_append, List.append_assoc]

theorem Connector.logged_serves (note : RemoteCall → β) {P : String → Prop} {resource : String} (h : P resource)
    (connector : Connector σ) : (connector.logged note resource).Serves (Frame.calling note P) where
  create _ _ _ _ := ⟨[_], rfl, List.forall_mem_singleton.mpr h⟩
  update _ _ _ _ _ := ⟨[_], rfl, List.forall_mem_singleton.mpr h⟩
  delete _ _ _ _ := ⟨[_], rfl, List.forall_mem_singleton.mpr h⟩
  getObject _ _ _ _ := ⟨[_], rfl, List.forall_mem_singleton.mpr h⟩

namespace Propagation

/-- The probe of a task. -/
def Task.probeCall (task : Task) (options : ReadOptions) : RemoteCall :=
  ⟨task.resource, .getObject task.objectClass task.probeUid options⟩

/-- A write of a task. -/
def Task.writeCall (task : Task) (options : ReadOptions) : Write → RemoteCall
  | .create => ⟨task.resource, .create task.objectClass task.attributes options⟩
  | .update object => ⟨task.resource, .update task.objectClass object.uid task.attributes options⟩
  | .delete object => ⟨task.resource, .delete task.objectClass object.uid options⟩

/-- The calls of one task: none, its probe, or its probe and the write for what that found. -/
inductive Task.Visits (task : Task) : List RemoteCall → Prop
  | none : Visits task []
  | probed (options : ReadOptions) : Visits task [task.probeCall options]
  | written (options : ReadOptions) (before : Option RemoteObject) (write : Write)
      (h : task.choose before = .ok write) : Visits task [task.probeCall options, task.writeCall options write]

theorem Task.Visits.resource_eq {task : Task} {calls : List RemoteCall} (h : task.Visits calls) :
    ∀ call ∈ calls, call.resource = task.resource := by
  have hwrite : ∀ options write, (task.writeCall options write).resource = task.resource := by
    intro options write
    cases write <;> rfl
  cases h with
  | none => exact fun _ hmem => nomatch hmem
  | probed options => exact List.forall_mem_singleton.mpr rfl
  | written options before write =>
    exact List.forall_mem_cons.mpr ⟨rfl, List.forall_mem_singleton.mpr (hwrite options write)⟩

/-- A task that is to delete writes nothing else. -/
theorem Task.choose_of_delete {task : Task} (hoperation : task.operation = .delete) {before : Option RemoteObject}
    {write : Write} (h : task.choose before = .ok write) : ∃ object, before = some object ∧ write = .delete object := by
  simp only [choose, hoperation] at h
  cases before with
  | none => cases h
  | some object =>
    cases h
    exact ⟨object, rfl, rfl⟩

/-- The calls of some tasks: each goes to the resource of one of them, and a single task makes its own. -/
structure Sent (tasks : List Task) (calls : List RemoteCall) : Prop where
  addressed : ∀ call ∈ calls, ∃ task ∈ tasks, task.resource = call.resource
  visits : ∀ task, tasks = [task] → task.Visits calls

theorem Sent.eq_nil {calls : List RemoteCall} (h : Sent [] calls) : calls = [] := by
  refine List.eq_nil_iff_forall_not_mem.mpr fun call hmem => ?_
  obtain ⟨_, hnone, -⟩ := h.addressed call hmem
  cases hnone

theorem sent_nil (tasks : List Task) : Sent tasks [] where
  addressed _ hmem := nomatch hmem
  visits _ _ := .none

namespace Executor

/-- One task is carried out in the same way, whether or not it is primary and tasks are interleaved. -/
theorem execute_singleton (executor : Executor σ) (task : Task) (s : σ) :
    (executor.execute [task] s).2 = (executor.run task s).2 := by
  unfold execute
  cases hprimary : task.primary with
  | true =>
    simp only [List.filter_cons, hprimary, List.filter_nil, sortByPriority, List.foldr, insertByPriority, if_true,
      Bool.not_true, Bool.false_eq_true, if_false, runPrimary, bind_apply]
    split
    · rfl
    · cases hparallel : executor.parallel <;> simp [runSecondary, runInOrder, runInterleaved, hparallel]
  | false =>
    simp only [List.filter_cons, hprimary, List.filter_nil, sortByPriority, List.foldr, Bool.not_false,
      Bool.false_eq_true, if_false, if_true, runPrimary, bind_apply, pure_apply]
    cases hparallel : executor.parallel <;>
      simp [runSecondary, runInOrder, runInterleaved, hparallel, run, Nat.mod_one]

end Executor

variable (note : RemoteCall → β) (task : Task)

/-- What is left of a task, and its calls so far: the outcome is known, or its probe led to a write. -/
def Prepared.Follows (prior : List β) (prepared : Prepared (σ × List β)) (notes : List β) : Prop :=
  (∃ outcome calls, prepared = .settled outcome ∧ notes = prior ++ calls.map note ∧ task.Visits calls) ∨
    ∃ (connector : Connector σ) (options : ReadOptions) (before : Option RemoteObject) (write : Write),
      prepared = .pending (connector.logged note task.resource) options write ∧
        notes = prior ++ [note (task.probeCall options)] ∧ task.choose before = .ok write

theorem Prepared.follows_of_settled (prior : List β) (outcome : Outcome) :
    Prepared.Follows note task prior (.settled outcome : Prepared (σ × List β)) prior :=
  .inl ⟨outcome, [], rfl, (List.append_nil _).symm, .none⟩

theorem Task.prepare_follows (registry : Registry σ) (pair : σ × List β) :
    let prepared := task.prepare (registry.through (Connector.logged note)) pair
    prepared.1.Follows note task pair.2 prepared.2.2 := by
  simp only [Task.prepare, Registry.lookup_through]
  cases registry.lookup task.resource task.subjectType with
  | error error => exact Prepared.follows_of_settled note task pair.2 _
  | ok found =>
    obtain ⟨resource, mapping⟩ := found
    simp only [Except.map, Resource.through]
    have hprobed := (resource.connector.logged note task.resource).probe_world task.objectClass task.probeUid
      (mapping.readOptions .propagation) pair
    generalize Connector.probe _ task.objectClass task.probeUid _ pair = probed at hprobed ⊢
    obtain ⟨answer, pair'⟩ := probed
    have hnoted : pair'.2 = pair.2 ++ [note (task.probeCall (mapping.readOptions .propagation))] :=
      congrArg Prod.snd hprobed
    have hsettled : ∀ outcome, Prepared.Follows note task pair.2 (.settled outcome : Prepared (σ × List β)) pair'.2 :=
      fun outcome => .inl ⟨outcome, [_], rfl, hnoted, .probed _⟩
    cases answer with
    | error error => exact hsettled _
    | ok before =>
      cases hchoose : task.choose before with
      | error outcome =>
        simp only [hchoose]
        exact hsettled outcome
      | ok write =>
        simp only [hchoose]
        split
        · exact .inr ⟨resource.connector, _, before, write, rfl, hnoted, hchoose⟩
        · exact hsettled _

theorem Task.finish_visits {prior : List β} {prepared : Prepared (σ × List β)} {pair : σ × List β}
    (h : prepared.Follows note task prior pair.2) :
    ∃ calls, (task.finish prepared pair).2.2 = prior ++ calls.map note ∧ task.Visits calls := by
  rcases h with ⟨outcome, calls, rfl, hnotes, hvisits⟩ | ⟨connector, options, before, write, rfl, hnotes, hchoose⟩
  · exact ⟨calls, hnotes, hvisits⟩
  · refine ⟨_, ?_, .written options before write hchoose⟩
    have hsent : (task.send (connector.logged note task.resource) options write pair).2.2 =
        pair.2 ++ [note (task.writeCall options write)] := by
      cases write <;> rfl
    have hfinish : (task.finish (.pending (connector.logged note task.resource) options write) pair).2 =
        (task.send (connector.logged note task.resource) options write pair).2 := by
      simp only [Task.finish]
      split <;> rename_i heq <;> rw [heq]
    rw [hfinish, hsent, hnotes, List.append_assoc]
    rfl

namespace Executor

variable (executor : Executor σ)

theorem run_visits (pair : σ × List β) :
    ∃ calls, ((executor.through (Connector.logged note)).run task pair).2.2 = pair.2 ++ calls.map note ∧
      task.Visits calls := by
  unfold run
  rw [bind_apply]
  refine Task.finish_visits note task ?_
  unfold prepare through
  cases executor.dryRun with
  | true => exact Prepared.follows_of_settled note task pair.2 _
  | false => exact Task.prepare_follows note task executor.registry pair

theorem serves_logged (tasks : List Task) :
    (executor.through (Connector.logged note)).Serves
      (Frame.calling note fun name => ∃ task ∈ tasks, task.resource = name) tasks := by
  intro task hmem
  exact Registry.serves_through fun resource _ => resource.connector.logged_serves note ⟨task, hmem, rfl⟩

/-- Carrying out tasks adds their calls to the notes. -/
theorem execute_sent (tasks : List Task) (pair : σ × List β) :
    ∃ calls, ((executor.through (Connector.logged note)).execute tasks pair).2.2 = pair.2 ++ calls.map note ∧
      Sent tasks calls := by
  by_cases hone : ∃ task, tasks = [task]
  · obtain ⟨task, rfl⟩ := hone
    obtain ⟨calls, hcalls, hvisits⟩ := run_visits note task executor pair
    refine ⟨calls, (congrArg Prod.snd (execute_singleton _ task pair)).trans hcalls, fun call hmem => ?_, ?_⟩
    · exact ⟨task, List.mem_singleton_self task, (hvisits.resource_eq call hmem).symm⟩
    · rintro _ ⟨⟩
      exact hvisits
  · obtain ⟨calls, hcalls, hall⟩ := keeps_execute (serves_logged note executor tasks) pair
    exact ⟨calls, hcalls, hall, fun task heq => absurd ⟨task, heq⟩ hone⟩

end Executor

end Propagation

end Provisioning
