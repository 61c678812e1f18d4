import Provisioning.Proofs.Reconciliation.Accounting
set_option autoImplicit false

/-!
# Deeds

What a run does to the systems around it, beyond reading: it asks the workflow, probes and writes on resources,
sends notifications and stores tokens.  `Engine.noting` is an engine that notes each of these before it is done.
Where noting makes no difference, whatever is noted and wherever, nothing of the kind is done.
-/

namespace Provisioning

open Reconciliation

variable {σ : Type}

/-- Something that a run does to a system around it, beyond reading. -/
inductive Deed where
  /-- A request to the workflow. -/
  | requested (request : Workflow.Request)
  /-- A probe or a write on a resource. -/
  | called (resource : String) (call : Call)
  | notified (event : Event)
  | stored (task : String) (token : SyncToken)

/-- Note probes and writes before they are made. -/
def Connector.noting (note : Call → σ → σ) (connector : Connector σ) : Connector σ :=
  connector.observed fun call s =>
    match call with
    | .create .. | .update .. | .delete .. | .getObject .. => note call s
    | _ => s

/-- Note the requests to a workflow before they are made. -/
def Workflow.noted (note : Request → σ → σ) (workflow : Workflow σ) : Workflow σ where
  create entity s := workflow.create entity (note (.create entity) s)
  update t id patch s := workflow.update t id patch (note (.update t id patch) s)
  delete t id s := workflow.delete t id (note (.delete t id) s)

/-- The engine that notes its deeds before it does them. -/
def Reconciliation.Engine.noting (note : Deed → σ → σ) (engine : Engine σ) : Engine σ :=
  { engine with
    registry := engine.registry.through fun resource => Connector.noting fun call => note (.called resource call)
    workflow := engine.workflow.noted fun request => note (.requested request)
    notifications := fun event s => engine.notifications event (note (.notified event) s)
    tokens :=
      { engine.tokens with store := fun task token s => engine.tokens.store task token (note (.stored task token) s) } }

/-- The session in which the engine notes its deeds, and the resource those of the hooks too. -/
def Reconciliation.Session.noting (note : Deed → σ → σ) (session : Session σ) : Session σ :=
  { session with
    engine := session.engine.noting note
    resource := session.resource.through (Connector.noting fun call => note (.called session.task.resource call)) }

/-- A profile that shows another connector. -/
def Reconciliation.Profile.through (change : Connector σ → Connector σ) (profile : Profile σ) : Profile σ :=
  { profile with connector := change profile.connector }

/-- The hooks do alike when the connector that they are shown is changed. -/
structure Reconciliation.Hooks.Overlooks (change : Connector σ → Connector σ) (hooks : Hooks σ) : Prop where
  beforeAll : ∀ profile, hooks.beforeAll (profile.through change) = hooks.beforeAll profile
  beforeNew : ∀ hook profile, hooks.beforeNew hook (profile.through change) = hooks.beforeNew hook profile
  beforeExisting : ∀ hook profile,
    hooks.beforeExisting hook (profile.through change) = hooks.beforeExisting hook profile
  after : ∀ profile, hooks.after (profile.through change) = hooks.after profile
  afterAll : ∀ profile, hooks.afterAll (profile.through change) = hooks.afterAll profile

end Provisioning
