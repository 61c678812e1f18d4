import Provisioning.Delta
import Provisioning.Repository
set_option autoImplicit false

/-!
# Correlation

Which local entities a delta is about.  The usual rule looks for the mapped account id, under the identifier that
the object had before a rename.
-/

namespace Provisioning

/-- The local ids to which a delta correlates, in a stable order. -/
abbrev Correlation (σ : Type) : Type := Delta → Mapping → Effect σ SyncError (List Nat)

/-- The condition that an entity's account id is the delta's identifier. -/
def Mapping.accountCondition (mapping : Mapping) (delta : Delta) : Condition :=
  { target := mapping.accountId.target
    name := mapping.accountId.internal
    value := .text delta.correlationUid }

/-- Correlate on the mapped account id. -/
def Correlation.byAccountId {σ : Type} (repository : Repository σ) : Correlation σ := fun delta mapping =>
  repository.search mapping.subjectType (mapping.accountCondition delta)

end Provisioning
