import Provisioning.Connector.Basic
import Provisioning.Failure
import Provisioning.Reconciliation.Hook
import Provisioning.Reconciliation.Policy
import Provisioning.Reconciliation.Result
set_option autoImplicit false

/-!
# Hooks

Extensions that are called around every action of a run, in the order in which they are registered.  A hook before
an action receives the delta as the previous one left it and returns the delta that the next one, and in the end
the action, works with.  Before an entity is created it may change the entity as well.
-/

namespace Provisioning.Reconciliation

/-- What a hook sees of the run. -/
structure Profile (σ : Type) where
  task : SyncTask
  dryRun : Bool
  /-- The connector of the resource that is being reconciled. -/
  connector : Connector σ
  /-- How many hooks are registered. -/
  hookCount : Nat
  /-- The results recorded so far. -/
  results : List Result
  /-- What became of the propagation that the run gave rise to so far. -/
  propagation : List Propagation.Report

/-- One extension.  Every hook does nothing unless it is given. -/
structure Hooks (σ : Type) where
  /-- Called once before the first delta. -/
  beforeAll : Profile σ → Effect σ Failure Unit := fun _ => Effect.ok ()
  /-- Called before an entity is created; returns the delta and, also when it fails, the entity. -/
  beforeNew : NewHook → Profile σ → Delta → Entity → StateM σ (Except Failure Delta × Entity) :=
    fun _ _ delta entity => pure (.ok delta, entity)
  /-- Called before something is done with an existing entity. -/
  beforeExisting : ExistingHook → Profile σ → Delta → Entity → Effect σ Failure Delta :=
    fun _ _ delta _ => Effect.ok delta
  /-- Called after an action, with its result. -/
  after : Profile σ → Delta → Entity → Result → Effect σ Failure Unit := fun _ _ _ _ => Effect.ok ()
  /-- Called once after the last delta. -/
  afterAll : Profile σ → Effect σ Failure Unit := fun _ => Effect.ok ()

end Provisioning.Reconciliation
