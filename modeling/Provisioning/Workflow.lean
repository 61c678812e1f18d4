import Provisioning.Effect
import Provisioning.Entity.Patch
import Provisioning.Reconciliation.Error
set_option autoImplicit false

/-!
# Workflows

The contract to whatever creates, changes and removes local entities on request.
-/

namespace Provisioning

/-- What a workflow reports about a request that it granted. -/
structure WorkflowReport where
  id : Nat
  name : String
  /-- The local attributes that the request changed. -/
  affected : NameSet
  deriving DecidableEq, Inhabited

/-- Requests for the life cycle of local entities. -/
structure Workflow (σ : Type) where
  create : Entity → Effect σ SyncError WorkflowReport
  update : SubjectType → (id : Nat) → Patch → Effect σ SyncError WorkflowReport
  delete : SubjectType → (id : Nat) → Effect σ SyncError WorkflowReport

/-- A workflow that lives in a part of a larger world. -/
def Workflow.within {σ τ : Type} (lens : Lens σ τ) (workflow : Workflow τ) : Workflow σ where
  create entity := lens.zoom (workflow.create entity)
  update t id patch := lens.zoom (workflow.update t id patch)
  delete t id := lens.zoom (workflow.delete t id)

end Provisioning
