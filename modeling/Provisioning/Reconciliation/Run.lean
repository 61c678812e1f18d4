import Provisioning.Reconciliation.Handle
import Provisioning.Reconciliation.Report
set_option autoImplicit false

/-!
# Runs

A run pulls the deltas of a resource and handles them strictly in order.  The token that marks the end of the
changes is taken before the pull, so that changes made while the run is in progress are seen by the next one, and
it is kept only when everything else has succeeded.

What makes a run fail: a missing resource or mapping, a failed connector, an unusable token store, and a failed
hook where the task says so.  An error of handling wins over one of the connector.
-/

namespace Provisioning.Reconciliation

variable {σ : Type}

/-- What a finished run hands back. -/
structure Summary where
  task : String
  /-- One result for each handled entity, in the order of handling. -/
  results : List Result
  propagation : List Propagation.Report
  report : String
  /-- The token that was kept at the end. -/
  persistedToken : Option SyncToken
  deriving DecidableEq, Inhabited

namespace Session

/-- Where a run takes up the changes, and the token that marks their present end. -/
structure Position where
  stored : Option SyncToken := none
  latest : Option SyncToken := none
  deriving DecidableEq, Inhabited

/-- Find out where to take up the changes; reading every object needs no position. -/
def locate (session : Session σ) : Step σ (Except SyncError Position) := do
  if session.task.full then pure (.ok {})
  else
    match ← onWorld (session.engine.tokens.load session.task.name) with
    | .error _ => pure (.error (.other "failed to load sync token"))
    | .ok stored =>
      match ← onWorld (session.resource.connector.latestToken session.mapping.objectClass) with
      | .error error => pure (.error (.connector error))
      | .ok latest => pure (.ok { stored, latest })

/-- Let the connector send its changes, or every object. -/
def pull (session : Session σ) (stored : Option SyncToken) : Step σ Emission :=
  let connector := session.resource.connector
  let options := session.mapping.readOptions .synchronization
  onWorld
    (if session.task.full then connector.allObjects session.mapping.objectClass options
     else connector.sync session.mapping.objectClass stored options)

/-- Take over one delta and handle it. -/
def receive (session : Session σ) (delta : Delta) : Step σ (Except SyncError Unit) := do
  modify fun s => { s with received := s.received ++ [delta] }
  session.handle delta

/-- Handle what the connector sends, through the buffer.  If handling aborts, the run fails with that error,
whatever the connector reports. -/
def consume (session : Session σ) (emission : Emission) : Step σ (Except SyncError Unit) := do
  match ← Relay.run session.receive session.engine.capacity session.engine.turns emission.deltas with
  | .error error => pure (.error error)
  | .ok () => pure (emission.outcome.mapError .connector)

/-- Keep the token for the next run, unless the run only pretends. -/
def persist (session : Session σ) (latest : Option SyncToken) : Step σ (Except SyncError (Option SyncToken)) := do
  match latest with
  | none => pure (.ok none)
  | some token =>
    if session.dryRun then pure (.ok none)
    else
      match ← onWorld (session.engine.tokens.store session.task.name token) with
      | .error _ => pure (.error (.other "failed to persist sync token"))
      | .ok () => pure (.ok (some token))

/-- The phases of a run; returns the token that was kept. -/
def phases (session : Session σ) : Step σ (Except SyncError (Option SyncToken)) :=
  Effect.andThen (session.runOnce .beforeAll Hooks.beforeAll session.engine.hooks) fun _ =>
  Effect.andThen session.locate fun position =>
  Effect.andThen (fun s =>
    let (emission, s') := session.pull position.stored s
    session.consume emission s') fun _ =>
  Effect.andThen (session.runOnce .afterAll Hooks.afterAll session.engine.hooks) fun _ =>
  session.persist position.latest

/-- What a finished run hands back. -/
def summary (session : Session σ) (s : RunState σ) (persistedToken : Option SyncToken) : Summary :=
  { task := session.task.name
    results := s.results
    propagation := s.propagation
    report := Report.render session.task.subjectType session.dryRun s.results session.task.trace
    persistedToken }

end Session

namespace Engine

/-- Run one sync task; returns what the run hands back and all that it built up. -/
def start (engine : Engine σ) (task : SyncTask) (world : σ) : Except SyncError Summary × RunState σ :=
  match engine.registry.lookup task.resource task.subjectType with
  | .error error => (.error (.mapping error), { world })
  | .ok (resource, mapping) =>
    let session : Session σ := { engine, task, resource, mapping }
    match session.phases { world } with
    | (.error error, s) => (.error error, s)
    | (.ok token, s) => (.ok (session.summary s token), s)

/-- Run one sync task. -/
def run (engine : Engine σ) (task : SyncTask) : Effect σ SyncError Summary := fun world =>
  let (answer, s) := engine.start task world
  (answer, s.world)

end Engine

end Provisioning.Reconciliation
