import Provisioning.Entity.SubjectType
import Provisioning.Operation
set_option autoImplicit false

/-!
# Results

What came of one delta for one local entity.
-/

namespace Provisioning.Reconciliation

/-- Whether the local operation worked. -/
inductive ResultStatus where
  | success
  | failure
  deriving DecidableEq, Repr, Inhabited

/-- The outcome of one delta for one local entity. -/
structure Result where
  operation : Operation
  status : ResultStatus := .success
  subjectType : SubjectType
  /-- The local id; 0 for an entity that was not, or only seemingly, created. -/
  id : Nat
  name : String
  /-- Why the operation failed. -/
  message : Option String := none
  deriving DecidableEq, Repr, Inhabited

/-- The failure of what the result stands for. -/
def Result.failed (result : Result) (message : String) : Result :=
  { result with status := .failure, message := some message }

end Provisioning.Reconciliation
