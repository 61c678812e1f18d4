import Provisioning.Correlation
import Provisioning.Propagation.Execute
import Provisioning.Propagation.Plan
import Provisioning.Reconciliation.Event
import Provisioning.Reconciliation.Hooks
import Provisioning.Relay
import Provisioning.Token.Store
import Provisioning.Workflow
set_option autoImplicit false

/-!
# The reconciliation engine

The systems that a run works with, what one run knows throughout, and what it builds up while it proceeds.
-/

namespace Provisioning.Reconciliation

/-- The systems and switches that reconciliation works with. -/
structure Engine (σ : Type) where
  registry : Registry σ
  repository : Repository σ
  workflow : Workflow σ
  correlation : Correlation σ
  tokens : TokenStore σ
  audit : Sink σ := Sink.drop
  notifications : Sink σ := Sink.drop
  /-- The registered hooks, in the order in which they are called. -/
  hooks : List (Hooks σ) := []
  /-- Whether propagation to resources that are not primary is interleaved. -/
  parallel : Bool := false
  /-- Whether every run only pretends. -/
  dryRun : Bool := false
  /-- How many deltas are buffered between the connector and the engine. -/
  capacity : Nat := 64
  /-- Which side of the buffer moves when both can. -/
  turns : Nat → Relay.Side := fun _ => .sender
  /-- Which of the unfinished tasks of one propagation takes the next step when they are interleaved.  The propagations
  of a run are told apart by the number of tasks that were handled before them. -/
  interleaving : Nat → Nat → Nat := fun _ _ => 0

/-- How the engine propagates after a number of tasks were handled. -/
def Engine.executor {σ : Type} (engine : Engine σ) (handled : Nat) : Propagation.Executor σ :=
  { registry := engine.registry, parallel := engine.parallel, turns := engine.interleaving handled }

/-- What one run builds up. -/
structure RunState (σ : Type) where
  world : σ
  /-- The deltas handed over so far. -/
  received : List Delta := []
  /-- The results recorded so far. -/
  results : List Result := []
  /-- What became of the propagation so far. -/
  propagation : List Propagation.Report := []

/-- A step of a run. -/
abbrev Step (σ α : Type) : Type := StateM (RunState σ) α

/-- What one run knows throughout. -/
structure Session (σ : Type) where
  engine : Engine σ
  task : SyncTask
  resource : Resource σ
  mapping : Mapping

namespace Session

variable {σ α : Type}

/-- Whether the run only pretends. -/
def dryRun (session : Session σ) : Bool := session.engine.dryRun || session.task.dryRun

/-- Operate on the world of a run. -/
def onWorld (operation : StateM σ α) : Step σ α := fun s =>
  let (a, world) := operation s.world
  (a, { s with world })

/-- What hooks see of the run. -/
def profile (session : Session σ) (s : RunState σ) : Profile σ :=
  { task := session.task
    dryRun := session.dryRun
    connector := session.resource.connector
    hookCount := session.engine.hooks.length
    results := s.results
    propagation := s.propagation }

/-- A successful result of the run. -/
def result (session : Session σ) (operation : Operation) (id : Nat) (name : String) : Result :=
  { operation, subjectType := session.task.subjectType, id, name }

/-! ## Recording -/

/-- Record a result and offer it to the side channels.  A run that only pretends sends no notifications. -/
def record (session : Session σ) (result : Result) : Step σ Unit := do
  let event : Event := { task := session.task.name, resource := session.task.resource, result }
  let _ ← onWorld (session.engine.audit event)
  unless session.dryRun do
    let _ ← onWorld (session.engine.notifications event)
  modify fun s => { s with results := s.results ++ [result] }

/-- Carry out propagation tasks and keep what became of them.  A failed primary resource does not change the
local result. -/
def propagate (session : Session σ) (tasks : List Propagation.Task) : Step σ Unit := do
  unless tasks.isEmpty do
    let executor := session.engine.executor (← get).propagation.length
    let execution ← onWorld (executor.execute tasks)
    modify fun s => { s with propagation := s.propagation ++ execution.handled.map Propagation.Handled.report }

/-! ## Hooks -/

/-- Turn the failure of a hook into an error of the run. -/
def hookError (hook : Hook) (failure : Failure) : SyncError := .hook hook failure.message

/-- Run the hooks before a new entity, one after the other; the first failure ends them.  Returns the delta and
the entity as they were left. -/
def beforeNew (session : Session σ) (hook : NewHook) :
    List (Hooks σ) → Delta → Entity → Step σ (Except SyncError Delta × Entity)
  | [], delta, entity => pure (.ok delta, entity)
  | hooks :: rest, delta, entity => do
    match ← onWorld (hooks.beforeNew hook (session.profile (← get)) delta entity) with
    | (.error failure, entity') => pure (.error (hookError (.beforeNew hook) failure), entity')
    | (.ok delta', entity') => session.beforeNew hook rest delta' entity'

/-- Run the hooks before an existing entity, one after the other; the first failure ends them. -/
def beforeExisting (session : Session σ) (hook : ExistingHook) (entity : Entity) :
    List (Hooks σ) → Delta → Step σ (Except SyncError Delta)
  | [], delta => Effect.ok delta
  | hooks :: rest, delta => fun s =>
    match onWorld (hooks.beforeExisting hook (session.profile s) delta entity) s with
    | (.error failure, s') => (.error (hookError (.beforeExisting hook) failure), s')
    | (.ok delta', s') => session.beforeExisting hook entity rest delta' s'

/-- Run all the hooks after an action; the first failure is returned, but keeps none of the others from running. -/
def runAfter (session : Session σ) (delta : Delta) (entity : Entity) (result : Result) :
    List (Hooks σ) → Step σ (Option SyncError)
  | [] => pure none
  | hooks :: rest => do
    let answer ← onWorld (hooks.after (session.profile (← get)) delta entity result)
    let later ← session.runAfter delta entity result rest
    match answer with
    | .error failure => pure (some (hookError .after failure))
    | .ok () => pure later

/-- Run a hook that is called once per run for every extension; the first failure ends the run. -/
def runOnce (session : Session σ) (hook : Hook) (call : Hooks σ → Profile σ → Effect σ Failure Unit) :
    List (Hooks σ) → Step σ (Except SyncError Unit)
  | [] => Effect.ok ()
  | hooks :: rest => fun s =>
    match onWorld (call hooks (session.profile s)) s with
    | (.error failure, s') => (.error (hookError hook failure), s')
    | (.ok (), s') => session.runOnce hook call rest s'

/-- A hook before an action failed: the task says whether that aborts the run or is recorded as a failure. -/
def hookFailed (session : Session σ) (error : SyncError) (result : Result) : Step σ (Except SyncError Unit) :=
  match session.task.hookScope with
  | .run => Effect.fail error
  | .delta => fun s => (.ok (), (session.record (result.failed error.message) s).2)

/-- Run the hooks after an action, then record its result.  A failed hook aborts the run if the task says so. -/
def finish (session : Session σ) (delta : Delta) (entity : Entity) (result : Result) :
    Step σ (Except SyncError Unit) := do
  let failed ← session.runAfter delta entity result session.engine.hooks
  session.record result
  match failed, session.task.hookScope with
  | some error, .run => pure (.error error)
  | _, _ => pure (.ok ())

end Session

end Provisioning.Reconciliation
