import Provisioning.Reconciliation.Run
import Provisioning.Settings.Basic
import Provisioning.Simulation.Extension
set_option autoImplicit false

/-!
# Runs in a scripted world

A stage holds what stays the same while a scripted world changes: the settings and the registry over the world's
connectors.  On it single calls and whole runs are made, and the world is looked at between them.
-/

namespace Provisioning.Simulation

open Reconciliation

/-! ## Looking at the world -/

namespace World

/-- Forget what was noted so far, and keep everything else. -/
def forgetNotes (world : World) : World :=
  { world with
    endpoints := world.endpoints.map fun _ endpoint =>
      { endpoint with trace := [], directory := { endpoint.directory with calls := [] } }
    office := { world.office with requests := { world.office.requests with calls := [], patches := [] } }
    audit := { world.audit with events := [] }
    notifications := { world.notifications with events := [] } }

/-- Every entity, by type and then by id. -/
def allEntities (world : World) : List Entity := SubjectType.all.flatMap world.office.entities.all

/-- Store an entity without a request to the workflow; returns the stored copy. -/
def insertEntity (entity : Entity) (world : World) : Entity × World :=
  let (stored, entities) := world.office.entities.insert entity
  (stored, { world with office := { world.office with entities } })

end World

/-- Every object of a resource, by class and then by identifier. -/
def Endpoint.allObjects (endpoint : Endpoint) : List RemoteObject :=
  endpoint.directory.objectClasses.toList.flatMap endpoint.directory.objectsOf

/-- What a receiver gets that leaves after some deltas: those deltas, and how sending ends. -/
def receiveSome (limit : Option Nat) (emission : Emission) : List Delta × Except ConnectorError Unit :=
  match limit with
  | none => (emission.deltas, emission.outcome)
  | some n =>
    if n < emission.deltas.length then (emission.deltas.take n, .error .channelClosed)
    else (emission.deltas, emission.outcome)

/-! ## Stages -/

/-- What stays the same while the world changes. -/
structure Stage where
  settings : Settings
  connectors : Std.ExtTreeMap String (Connector World)
  registry : Registry World
  /-- Whether tokens are kept in the file. -/
  durable : Bool

/-- How deltas are correlated in a run. -/
inductive CorrelationRule where
  | byAccountId
  /-- Every delta correlates to the same entities. -/
  | fixed (ids : List Nat)
  | fails (error : SyncError)
  deriving DecidableEq

/-- The correlation of a rule. -/
def CorrelationRule.correlation : CorrelationRule → Correlation World
  | byAccountId => Correlation.byAccountId World.repository
  | fixed ids => fun _ _ => Effect.ok ids
  | fails error => fun _ _ => Effect.fail error

/-- How a run is set up. -/
structure RunSetup where
  /-- Whether switches and the place of the tokens come from the settings. -/
  configured : Bool := false
  dryRun : Bool := false
  parallel : Bool := false
  /-- Whether no side channel is connected. -/
  silent : Bool := false
  capacity : Option Nat := none
  correlation : CorrelationRule := .byAccountId
  extensions : List Extension := []

namespace Stage

/-- Bind the configured resources to the world; `uidAttributes` names the identifying attribute of each resource
that is there. -/
def build (settings : Settings) (uidAttributes : List (String × String)) (durable : Bool) :
    Except MappingError Stage :=
  let connectors := Std.ExtTreeMap.ofList (uidAttributes.map fun (name, attr) => (name, World.connector name attr))
  match Registry.ofSettings settings.resources connectors with
  | .error error => .error error
  | .ok registry => .ok { settings, connectors, registry, durable }

/-- The connector of a name. -/
def connector? (stage : Stage) (name : String) : Option (Connector World) := stage.connectors[name]?

/-- Where the stage keeps tokens. -/
def tokens (stage : Stage) : TokenStore World := if stage.durable then World.fileTokens else World.memoryTokens

/-- The last stored token of every configured sync task. -/
def storedTokens (stage : Stage) (world : World) : List (String × Except Failure (Option SyncToken)) :=
  stage.settings.tasks.map fun task => (task.name, (stage.tokens.load task.name world).1)

/-- An engine of the world; a buffer holds at least one delta. -/
def engine (stage : Stage) (setup : RunSetup) : Engine World :=
  let configured := setup.configured
  { registry := stage.registry
    repository := World.repository
    workflow := World.workflow
    correlation := setup.correlation.correlation
    tokens := if configured then World.fileTokens else stage.tokens
    audit := if setup.silent then Sink.drop else World.auditSink
    notifications := if setup.silent then Sink.drop else World.notificationsSink
    hooks := setup.extensions.mapIdx Extension.hooks
    parallel := if configured then stage.settings.enabled .parallelPropagation else setup.parallel
    dryRun := if configured then stage.settings.enabled .dryRun else setup.dryRun
    capacity := max 1 (setup.capacity.getD (if configured then stage.settings.capacity else 64)) }

/-- Run a sync task. -/
def run (stage : Stage) (setup : RunSetup) (task : SyncTask) : Effect World SyncError Summary := fun world =>
  (stage.engine setup).run task { world with hookNotes := setup.extensions.map fun _ => [] }

end Stage

end Provisioning.Simulation
