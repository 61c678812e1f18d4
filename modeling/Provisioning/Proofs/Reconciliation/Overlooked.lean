import Provisioning.Proofs.Reconciliation.Encounters
import Provisioning.Proofs.Reconciliation.Idempotence
set_option autoImplicit false

/-!
# What a run overlooks

Two failures of the repository are passed over, whatever their kind: a delta that cannot be correlated meets
nothing, and a correlated entity that cannot be read is left out.  Neither aborts the run or leaves a result.
-/

namespace Provisioning

open Memory

variable {σ : Type}

namespace Reconciliation

namespace Session

variable {session : Session σ} {delta : Delta} {s : RunState σ} {error : SyncError}

/-- A delta that cannot be correlated meets nothing, and the run goes on. -/
theorem handle_of_uncorrelated (h : (session.correlate delta s).1 = .error error) :
    session.handle delta s = (.ok (), (session.correlate delta s).2) ∧ session.encounters delta s = [] := by
  rw [handle_eq_forEach_meet]
  unfold encounters
  generalize session.correlate delta s = correlated at h ⊢
  obtain ⟨answer, s'⟩ := correlated
  subst h
  exact ⟨rfl, rfl⟩

/-- Meeting an entity that cannot be read does nothing beyond trying to, and the run goes on. -/
theorem meet_of_unreadable {subject : Subject} {id : Nat} (hid : subject.id? = some id)
    (h : (session.engine.repository.find session.task.subjectType id s.world).1 = .error error) :
    session.meet delta subject s =
      (.ok (), { s with world := (session.engine.repository.find session.task.subjectType id s.world).2 }) := by
  cases subject with
  | unknown hook => cases hid
  | present id =>
    cases hid
    simp only [meet, visit, load, bind_apply, onWorld_apply, h, pure_apply]
  | gone id =>
    cases hid
    simp only [meet, load, bind_apply, onWorld_apply, h, pure_apply]

end Session

theorem Encounter.recorded_of_unreadable {encounter : Encounter σ} {id : Nat} {error : SyncError}
    (hid : encounter.subject.id? = some id)
    (h : (encounter.session.engine.repository.find encounter.session.task.subjectType id encounter.before.world).1 =
      .error error) :
    (encounter.step encounter.before).1 = .ok () ∧ encounter.recorded = [] := by
  have hstep : encounter.step encounter.before = _ := Session.meet_of_unreadable hid h
  refine ⟨congrArg Prod.fst hstep, encounter.appends_eq RunState.results ?_⟩
  rw [hstep, List.append_nil]

/-- The results of a run are those that its encounters record, delta by delta.  A delta whose correlation fails has
no encounter, and an encounter whose entity cannot be read records nothing; the run goes on after both. -/
theorem Engine.start_overlooks_failed_reads {engine : Engine σ} {task : SyncTask} {resource : Resource σ}
    {mapping : Mapping} (hlookup : engine.registry.lookup task.resource task.subjectType = .ok (resource, mapping))
    (world : σ) :
    let session : Session σ := { engine, task, resource, mapping }
    let finished := engine.start task world
    let deliveries := session.deliveries { world }
    finished.2.received = deliveries.map Prod.fst ∧
      finished.2.results = deliveries.flatMap (fun (delta, before) =>
        (session.encounters delta before).flatMap Encounter.recorded) ∧
      (∀ summary, finished.1 = .ok summary → summary.results = finished.2.results) ∧
      ∀ (delta : Delta) (before : RunState σ), (delta, before) ∈ deliveries →
        (∀ error, (session.correlate delta before).1 = .error error →
          (session.handle delta before).1 = .ok () ∧ session.encounters delta before = []) ∧
        ∀ encounter ∈ session.encounters delta before, ∀ (id : Nat) (error : SyncError),
          encounter.subject.id? = some id →
            (engine.repository.find task.subjectType id encounter.before.world).1 = .error error →
              (encounter.step encounter.before).1 = .ok () ∧ encounter.recorded = [] := by
  intro session finished deliveries
  obtain ⟨hfinished, -⟩ := Engine.start_ok hlookup world
  refine ⟨?_, ?_, fun summary hsummary => (Engine.start_summary hsummary).1, fun delta before _ => ⟨?_, ?_⟩⟩
  · rw [hfinished]
    exact (session.phases_handledInTurn world).received
  · have hresults := session.collects_results.phases_appended { world }
    rw [hfinished, hresults, List.nil_append]
  · intro error hfailed
    obtain ⟨hhandled, hnothing⟩ := Session.handle_of_uncorrelated hfailed
    exact ⟨congrArg Prod.fst hhandled, hnothing⟩
  · intro encounter hencounter id error hid hfailed
    obtain ⟨hsession, -⟩ := Session.session_of_mem_encounters hencounter
    exact Encounter.recorded_of_unreadable hid (by rw [hsession]; exact hfailed)

end Reconciliation

end Provisioning

/-! ## A repository that is down -/

namespace Provisioning.Memory.Premises

open Reconciliation

/-- The repository of the premises, except that searches fail. -/
def unsearchable : Repository Premises :=
  { repository with search := fun _ _ => Effect.fail (.other "database down") }

/-- The repository of the premises, except that no entity can be read. -/
def unreadable : Repository Premises :=
  { repository with find := fun _ _ => Effect.fail (.other "database down") }

/-- The engine of the premises over a repository. -/
def engineOver (repository : Repository Premises) : Engine Premises :=
  { engine (registry plainConnector) with repository, correlation := Correlation.byAccountId repository }

/-- A user who is known already, and a change to her account. -/
def changed : Premises :=
  { staff with directory := ({} : Directory).pushDelta ((account "ada").toDelta "account") }

/-- The task that imports changes. -/
def importChanges : SyncTask := { name := "import", resource := "directory", subjectType := .user }

theorem unsearchable_run_overlooks :
    ((engineOver unsearchable).start importChanges changed).1.isOk = true ∧
      ((engineOver unsearchable).start importChanges changed).2.results = [] := by
  have hlookup : (engineOver unsearchable).registry.lookup importChanges.resource importChanges.subjectType =
      .ok (resource plainConnector, userMapping) := lookup_registry
  obtain ⟨-, hresults, -, hoverlooked⟩ := Engine.start_overlooks_failed_reads hlookup changed
  refine ⟨by decide +kernel, hresults.trans (List.flatMap_eq_nil_iff.mpr ?_)⟩
  rintro ⟨delta, before⟩ hdelivery
  obtain ⟨-, hnothing⟩ := (hoverlooked delta before hdelivery).1 (.other "database down") rfl
  exact List.flatMap_eq_nil_iff.mpr fun encounter hencounter => by simp [hnothing] at hencounter

/-- The results that a run reports and the token that it stores. -/
def outcome (repository : Repository Premises) : Option (List Result) × Option String :=
  let run := (engineOver repository).run importChanges changed
  (run.1.toOption.map Summary.results, run.2.tokens["import"]?)

/-- The change is consumed and the token moves past it, and nothing tells of the failure. -/
theorem failed_reads_overlooked :
    outcome unsearchable = (some [], some "1") ∧ outcome unreadable = (some [], some "1") := by
  decide +kernel

end Provisioning.Memory.Premises
