import Provisioning.Connector.Error
import Provisioning.Mapping.Error
import Provisioning.Propagation.Task
import Provisioning.Reconciliation.Hook
set_option autoImplicit false

/-!
# Errors of reconciliation

Everything that can go wrong while deltas are reconciled.  Some errors concern only the entity at hand and mean
that it is skipped; they leave no failed result.
-/

namespace Provisioning

/-- An error of reconciliation. -/
inductive SyncError where
  | connector (error : ConnectorError)
  /-- Several local entities match where at most one may. -/
  | correlationAmbiguity (uid : Uid) (ids : List Nat)
  /-- The entity has vanished. -/
  | notFound (subjectType : SubjectType) (id : Nat)
  /-- The acting principal may not touch the entity. -/
  | unauthorized (principal reason : String)
  | mapping (error : MappingError)
  | propagation (error : PropagationError)
  /-- The workflow rejected a request. -/
  | workflow (detail : String)
  /-- A hook failed. -/
  | hook (moment : Reconciliation.Hook) (detail : String)
  | other (detail : String)
  deriving DecidableEq

namespace SyncError

/-- Whether an error only skips the entity at hand. -/
def isSkippable : SyncError → Bool
  | correlationAmbiguity .. | notFound .. | unauthorized .. => true
  | _ => false

/-- The text of an error. -/
def message : SyncError → String
  | connector error => error.message
  | correlationAmbiguity uid ids =>
    "uid `" ++ uid ++ "` matches more than one local entity: [" ++ ", ".intercalate (ids.map toString) ++ "]"
  | notFound t id => s!"{t.word} {id} not found"
  | unauthorized principal reason => "`" ++ principal ++ "` is not authorized: " ++ reason
  | mapping error => error.message
  | propagation error => error.message
  | workflow detail => "workflow failed: " ++ detail
  | hook moment detail => "sync action hook `" ++ Keyword.word moment ++ "` failed: " ++ detail
  | other detail => detail

end SyncError

end Provisioning
