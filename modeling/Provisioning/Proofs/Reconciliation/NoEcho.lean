import Provisioning.Proofs.Propagation.Plan
import Provisioning.Proofs.Reconciliation.LocalFirst
set_option autoImplicit false

/-!
# No echo

What comes from a resource is not sent back to it.  An update, a new entity that is not linked and a removal are
propagated to the other resources only, and links are changed without any propagation.  Where the remote object is to
be removed, it is probed and deleted, and nothing else is called.  Only an assigned entity is written back to the
resource that it came from.
-/

namespace Provisioning.Reconciliation

open Propagation

variable {σ : Type}

/-! ## Calls in the chronicle -/

/-- The call of an entry, if it is one. -/
def Entry.call? : Entry → Option RemoteCall
  | .called call => some call
  | .replied _ | .audited _ | .notified _ | .stored .. => none

/-- The calls of the chronicle. -/
def RunState.calls (s : RunState (σ × List Entry)) : List RemoteCall := s.world.2.filterMap Entry.call?

theorem RunState.calls_eq (s : RunState (σ × List Entry)) : s.calls = s.deeds.filterMap Entry.call? := by
  have hcall : ∀ entry : Entry, (if entry.isDeed then entry.call? else none) = entry.call? := by
    intro entry
    cases entry <;> rfl
  simp only [calls, deeds, List.filterMap_filter, hcall]

theorem Chapter.calls {s t : RunState (σ × List Entry)} {deeds : List Entry} {reports : List Propagation.Report}
    (h : Chapter s t deeds reports) : t.calls = s.calls ++ deeds.filterMap Entry.call? := by
  rw [RunState.calls_eq, RunState.calls_eq, h.deeds, List.filterMap_append]

theorem Adds.calls_grow {P : List Entry → List Propagation.Report → Prop} {s t : RunState (σ × List Entry)}
    (h : Adds P s t) : s.calls <+: t.calls := by
  obtain ⟨_, _, hchapter, -⟩ := h
  exact ⟨_, hchapter.calls.symm⟩

theorem filterMap_called (calls : List RemoteCall) : (calls.map Entry.called).filterMap Entry.call? = calls := by
  rw [List.filterMap_map]
  exact List.filterMap_some

/-! ## Calls of a course -/

/-- The calls that remove an object from a resource: none, a probe that may have found nothing, or a probe and the
deletion of what it found. -/
inductive Removal (resource : String) : List RemoteCall → Prop
  | none : Removal resource []
  | probed (objectClass : String) (uid : Uid) (options : ReadOptions) :
      Removal resource [⟨resource, .getObject objectClass uid options⟩]
  | deleted (objectClass : String) (uid found : Uid) (options : ReadOptions) :
      Removal resource [⟨resource, .getObject objectClass uid options⟩, ⟨resource, .delete objectClass found options⟩]

namespace Session

/-- The calls that an encounter makes at most, as the rule for its subject has it. -/
def Spares (session : Session σ) (subject : Subject) (calls : List RemoteCall) : Prop :=
  let own := session.task.resource
  match subject with
  | .unknown .assign => session.task.unmatching = .assign
  | .unknown .create => session.task.unmatching = .provision ∧ ∀ call ∈ calls, call.resource ≠ own
  | .gone _ => ∀ call ∈ calls, call.resource ≠ own
  | .present _ =>
    match session.task.matching with
    | .update => ∀ call ∈ calls, call.resource ≠ own
    | .deprovision | .unassign => Removal own calls
    | .ignore | .link | .unlink => calls = []

variable {session : Session σ} {world : σ} {subject : Subject} {calls : List RemoteCall} {tasks : List Task}

/-- The rule by which an unknown object is received. -/
theorem unmatching_of_newHook {hook : NewHook} (h : session.newHook? = some hook) :
    session.task.unmatching =
      match hook with
      | .assign => .assign
      | .create => .provision := by
  unfold newHook? at h
  split at h
  · cases hrule : session.task.unmatching <;> rw [hrule] at h <;> cases h <;> rfl
  · cases h

theorem spares_nil (hhook : ∀ hook, subject = .unknown hook → session.newHook? = some hook) :
    session.Spares subject [] := by
  have hnone : ∀ call ∈ ([] : List RemoteCall), call.resource ≠ session.task.resource := List.forall_mem_nil _
  cases subject with
  | unknown hook =>
    have hrule := unmatching_of_newHook (hhook hook rfl)
    cases hook with
    | assign => exact hrule
    | create => exact ⟨hrule, hnone⟩
  | gone id => exact hnone
  | present id =>
    cases hrule : session.task.matching <;> simp only [Spares, hrule]
    case update => exact hnone
    case deprovision | unassign => exact .none

/-- The resource that is reconciled gets an object created or updated for an assigned entity only. -/
theorem Spares.assigned (h : session.Spares subject calls) {call : RemoteCall} (hmem : call ∈ calls)
    (hown : call.resource = session.task.resource)
    (hmethod : call.call.method = .create ∨ call.call.method = .update) :
    subject = .unknown .assign ∧ session.task.unmatching = .assign := by
  cases subject with
  | unknown hook =>
    cases hook with
    | assign => exact ⟨rfl, h⟩
    | create => exact absurd hown (h.2 call hmem)
  | gone id => exact absurd hown (h call hmem)
  | present id =>
    unfold Spares at h
    cases hrule : session.task.matching <;> simp only [hrule] at h
    case update => exact absurd hown (h call hmem)
    case ignore | link | unlink => exact absurd hmem (h ▸ List.not_mem_nil)
    case deprovision | unassign =>
      cases h <;> simp only [List.not_mem_nil, List.mem_cons, or_false] at hmem
      case probed => simp [hmem, Call.method] at hmethod
      case deleted => rcases hmem with rfl | rfl <;> simp [Call.method] at hmethod

theorem elsewhere_of_sent (h : Sent tasks calls) (htasks : ∀ task ∈ tasks, task.resource ≠ session.task.resource) :
    ∀ call ∈ calls, call.resource ≠ session.task.resource := by
  intro call hmem
  obtain ⟨task, htask, hresource⟩ := h.addressed call hmem
  exact hresource ▸ htasks task htask

section Named

variable (hnamed : session.engine.registry.Named)

include hnamed

/-- Tasks for all but the resource that is reconciled go elsewhere. -/
theorem elsewhere_of_mem_tasksFor {entity : Entity} {change : Change} {resources : NameSet} {task : Task}
    (hmem : task ∈ tasksFor session.engine.registry entity change (resources \ session.ownResource)) :
    task.resource ≠ session.task.resource := by
  have hresource := resource_of_mem_tasksFor hnamed hmem
  rintro heq
  rw [heq, Std.ExtTreeSet.mem_diff_iff] at hresource
  exact hresource.2 (by simp [ownResource])

theorem removal_of_sent {entity : Entity}
    (h : Sent (deprovisionTasks session.engine.registry entity session.ownResource) calls) :
    Removal session.task.resource calls := by
  rw [deprovisionTasks, ownResource, tasksFor_singleton] at h
  cases htask : task? session.engine.registry entity .removed session.task.resource with
  | none =>
    rw [htask] at h
    rw [h.eq_nil]
    exact .none
  | some task =>
    rw [htask] at h
    obtain ⟨target, mapping, hlookup, hname, hoperation, -⟩ := task?_eq_some htask
    have hresource : task.resource = session.task.resource := hname.trans (hnamed.lookup hlookup)
    rw [← hresource]
    cases h.visits task rfl with
    | none => exact .none
    | probed options => exact .probed task.objectClass task.probeUid options
    | written options before write hchoose =>
      obtain ⟨object, -, rfl⟩ := Task.choose_of_delete hoperation hchoose
      exact .deleted task.objectClass task.probeUid object.uid options

theorem received_spares {hook : NewHook} {entity : Entity} {report : WorkflowReport}
    (hhook : session.newHook? = some hook) (hplans : session.Plans entity report (.unknown hook) tasks)
    (hsent : Sent tasks calls) : session.Spares (.unknown hook) calls := by
  have hrule := unmatching_of_newHook hhook
  cases hook with
  | assign => exact hrule
  | create =>
    cases hplans
    exact ⟨hrule, elsewhere_of_sent hsent fun task hmem => elsewhere_of_mem_tasksFor hnamed hmem⟩

theorem matched_spares {id : Nat} {entity : Entity} {report : WorkflowReport}
    (hplans : session.Plans entity report (.present id) tasks) (hsent : Sent tasks calls) :
    session.Spares (.present id) calls := by
  unfold Plans at hplans
  cases hrule : session.task.matching with
  | ignore | deprovision =>
    rw [hrule] at hplans
    cases hplans
  | update =>
    rw [hrule] at hplans
    obtain ⟨after, rfl⟩ := hplans
    simp only [Spares, hrule]
    refine elsewhere_of_sent hsent fun task hmem => ?_
    rcases List.mem_append.mp hmem with hmem' | hmem' <;> exact elsewhere_of_mem_tasksFor hnamed hmem'
  | unassign =>
    rw [hrule] at hplans
    cases hplans
    simp only [Spares, hrule]
    exact removal_of_sent hnamed hsent
  | link | unlink =>
    rw [hrule] at hplans
    cases hplans
    simp only [Spares, hrule]
    exact hsent.eq_nil

/-- An encounter that takes its course spares the resource that is reconciled. -/
theorem Course.spares (hhook : ∀ hook, subject = .unknown hook → session.newHook? = some hook) {deeds : List Entry}
    {reports : List Propagation.Report} (h : session.Course world subject deeds reports) :
    session.Spares subject (deeds.filterMap Entry.call?) := by
  cases h with
  | idle => exact spares_nil hhook
  | refused => exact spares_nil hhook
  | @granted entity request tasks calls _ _ report hplans hsent =>
    rw [List.filterMap_cons_none rfl, filterMap_called]
    cases subject with
    | unknown hook => exact received_spares hnamed (hhook hook rfl) hplans hsent
    | gone id =>
      cases hplans
      exact elsewhere_of_sent hsent fun task hmem => elsewhere_of_mem_tasksFor hnamed hmem
    | present id => exact matched_spares hnamed hplans hsent
  | @deprovisioned id entity calls hsubject hrule _ hsent =>
    subst hsubject
    rw [filterMap_called]
    simp only [Spares, hrule]
    exact removal_of_sent hnamed hsent

end Named

/-! ## Encounters -/

/-- An object is received as unknown only by the rule for it. -/
theorem newHook_of_mem_subjects {delta : Delta} {ids : List Nat} {hook : NewHook}
    (hmem : .unknown hook ∈ session.subjects delta ids) : session.newHook? = some hook := by
  unfold subjects at hmem
  split at hmem
  · obtain ⟨found, hfound, heq⟩ := List.mem_map.mp hmem
    cases heq
    exact Option.mem_toList.mp hfound
  · split at hmem
    · obtain ⟨_, -, heq⟩ := List.mem_map.mp hmem
      cases heq
    · cases hmem
  · split at hmem
    · obtain ⟨_, -, heq⟩ := List.mem_map.mp hmem
      cases heq
    · cases hmem

/-- Whatever a delta meets, the resource that it came from is spared.  The chronicle of handling a delta, which leaves
the handling as it is, has the calls of its encounters and no others.  Each encounter is with a subject of the delta,
as it is correlated, and makes no more calls than the rule for this subject allows; an unknown object that is ignored
is no subject at all.  In particular, only an assigned entity creates or updates an object there. -/
theorem handle_echoes_nothing (session : Session σ) (hnamed : session.engine.registry.Named) (delta : Delta)
    (s : RunState σ) :
    let handled := session.handle delta s
    let chronicled := session.chronicled.handle delta (s.beside [])
    let encounters := session.chronicled.encounters delta (s.beside [])
    (handled.1 = chronicled.1 ∧ RunState.Mirrors Beside Eq handled.2 chronicled.2) ∧
      chronicled.2.calls = encounters.flatMap (fun encounter => encounter.appends RunState.calls) ∧
      ∀ encounter ∈ encounters,
        (∃ ids, (session.correlate delta s).1 = .ok ids ∧ encounter.subject ∈ session.subjects delta ids) ∧
          session.Spares encounter.subject (encounter.appends RunState.calls) ∧
          ∀ call ∈ encounter.appends RunState.calls, call.resource = session.task.resource →
            call.call.method = .create ∨ call.call.method = .update →
              encounter.subject = .unknown .assign ∧ session.task.unmatching = .assign := by
  intro handled chronicled encounters
  have hcalls := session.chronicled.handle_appended RunState.calls
    (fun delta s => (Chapter.of_idling (session.idling_correlate delta s)).calls.trans (List.append_nil _))
    (fun delta subject s => (session.meet_course delta subject s).calls_grow) delta (s.beside [])
  refine ⟨session.handle_twin Entry.observer delta s [], hcalls, fun encounter hmem => ?_⟩
  obtain ⟨ids, hcorrelated, hsubject⟩ := subject_of_mem_encounters hmem
  have hsame := ((session.mirrors_twin Entry.observer).correlate delta s (s.beside []) ⟨rfl, rfl, rfl, rfl⟩).1
  obtain ⟨hsession, hdelta⟩ := session_of_mem_encounters hmem
  obtain ⟨deeds, _, hchapter, hcourse⟩ := session.meet_course delta encounter.subject encounter.before
  have hstep : encounter.step = session.chronicled.meet delta encounter.subject := by
    rw [Encounter.step, hsession, hdelta]
  have hspares : session.Spares encounter.subject (encounter.appends RunState.calls) := by
    rw [encounter.appends_eq RunState.calls (hstep ▸ hchapter.calls)]
    exact hcourse.spares hnamed fun hook heq => newHook_of_mem_subjects (heq ▸ hsubject)
  exact ⟨⟨ids, hsame.trans hcorrelated, hsubject⟩, hspares, fun call hcall => hspares.assigned hcall⟩

end Session

end Provisioning.Reconciliation

/-! ## All systems in memory -/

namespace Provisioning.Memory.Premises

open Reconciliation

/-- The session that unassigns every user whose account turns up. -/
def unassigning : Session Premises where
  engine := engine (registry plainConnector)
  task := { readEveryone with matching := .unassign }
  resource := resource plainConnector
  mapping := userMapping

/-- The account of a user is looked up and deleted, and nothing else is called. -/
theorem unassigning_spares_directory :
    let before : RunState (Premises × List Entry) := RunState.beside { world := staff } []
    let delta := (account "ada").toDelta "account"
    let chronicled := unassigning.chronicled.handle delta before
    let encounters := unassigning.chronicled.encounters delta before
    chronicled.2.calls.map (fun call => (call.resource, call.call.method)) =
        [("directory", .getObject), ("directory", .delete)] ∧
      chronicled.2.calls = encounters.flatMap (fun encounter => encounter.appends RunState.calls) ∧
      ∀ encounter ∈ encounters, unassigning.Spares encounter.subject (encounter.appends RunState.calls) := by
  intro before delta chronicled encounters
  obtain ⟨-, hcalls, hencounters⟩ :=
    unassigning.handle_echoes_nothing (registry_named plainConnector) delta { world := staff }
  exact ⟨by decide +kernel, hcalls, fun encounter hmem => (hencounters encounter hmem).2.1⟩

end Provisioning.Memory.Premises
