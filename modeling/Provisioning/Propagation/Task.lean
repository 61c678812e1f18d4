import Provisioning.Operation
import Provisioning.Resource.Registry
set_option autoImplicit false

/-!
# Propagation tasks

One write to one resource for one change of a local entity, what came of it, and what the caller gets to see.
-/

namespace Provisioning.Propagation

/-- One write to one resource. -/
structure Task where
  subjectType : SubjectType
  subjectId : Nat
  subjectName : String
  /-- The target resource. -/
  resource : String
  objectClass : String
  operation : Operation
  /-- The remote identifier after the change. -/
  accountId : Uid
  /-- The remote identifier before the change, if the change renames the object. -/
  oldAccountId : Option Uid := none
  /-- What is written. -/
  attributes : Attributes := ∅
  mode : PropagationMode := .sync
  primary : Bool := false
  priority : Nat := 0
  deriving DecidableEq, Inhabited

/-- How a task ended. -/
inductive Status where
  /-- The resource accepted the write, or none was needed. -/
  | success
  /-- The resource rejected the write or could not be reached. -/
  | failure
  /-- Nothing was sent to the resource. -/
  | notAttempted
  deriving DecidableEq, Repr, Inhabited

/-- The word for a status. -/
def Status.word : Status → String
  | success => "SUCCESS"
  | failure => "FAILURE"
  | notAttempted => "NOT_ATTEMPTED"

/-- What happened when a task was handled. -/
structure Outcome where
  status : Status
  /-- The operation that was sent, as chosen after the probe. -/
  executed : Operation
  /-- Whether the resource was asked for anything. -/
  attempted : Bool
  /-- Why the task failed or was skipped. -/
  message : Option String
  /-- The remote object before the write, if there was one. -/
  before : Option RemoteObject
  deriving DecidableEq, Inhabited

/-- The outcome of a task that never reached the resource. -/
def Outcome.notAttempted (message : String) : Outcome :=
  { status := .notAttempted, executed := .none, attempted := false, message := some message, before := none }

/-- What the caller sees of a handled task. -/
structure Report where
  resource : String
  status : Status
  message : Option String
  deriving DecidableEq, Inhabited

/-- A task that was handled, with its outcome. -/
structure Handled where
  task : Task
  outcome : Outcome
  deriving DecidableEq, Inhabited

/-- What the caller sees of a handled task. -/
def Handled.report (handled : Handled) : Report :=
  { resource := handled.task.resource, status := handled.outcome.status, message := handled.outcome.message }

end Provisioning.Propagation

namespace Provisioning

/-- A failure of propagation that the caller has to know about. -/
inductive PropagationError where
  /-- A primary resource that the caller waits for failed, so nothing later was attempted. -/
  | primaryFailed (resource message : String)
  deriving DecidableEq, Repr

/-- The text of an error. -/
def PropagationError.message : PropagationError → String
  | primaryFailed resource detail => "propagation to primary resource `" ++ resource ++ "` failed: " ++ detail

end Provisioning
