import Provisioning.Effect
import Provisioning.Mapping.Basic
import Provisioning.Reconciliation.Error
set_option autoImplicit false

/-!
# Repositories

The contract to the storage of local entities.
-/

namespace Provisioning

/-- An equality condition on one place of a local entity. -/
structure Condition where
  target : Mapping.Target
  /-- The local attribute name; not used for the name of the entity. -/
  name : String
  value : Value
  deriving DecidableEq

/-- Read and write access to stored entities. -/
structure Repository (σ : Type) where
  /-- The entity of an id. -/
  find : SubjectType → (id : Nat) → Effect σ SyncError (Option Entity)
  /-- The ids of all entities that fulfil the condition, in ascending order. -/
  search : SubjectType → Condition → Effect σ SyncError (List Nat)
  /-- Store an entity and return the stored copy; id 0 asks for a new id. -/
  save : Entity → Effect σ SyncError Entity
  /-- Remove an entity. -/
  delete : SubjectType → (id : Nat) → Effect σ SyncError Unit

/-- A repository that lives in a part of a larger world. -/
def Repository.within {σ τ : Type} (lens : Lens σ τ) (repository : Repository τ) : Repository σ where
  find t id := lens.zoom (repository.find t id)
  search t condition := lens.zoom (repository.search t condition)
  save entity := lens.zoom (repository.save entity)
  delete t id := lens.zoom (repository.delete t id)

end Provisioning
