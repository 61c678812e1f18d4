import Provisioning.Attributes
set_option autoImplicit false

/-!
# Deltas

A delta reports one change to one object of a resource, together with a snapshot of its attributes.
-/

namespace Provisioning

/-- The identifier of an object on a resource. -/
abbrev Uid := String

/-- An opaque position in a resource's stream of changes. -/
abbrev SyncToken := String

/-- What a delta reports. -/
inductive DeltaKind where
  | createOrUpdate
  | delete
  deriving DecidableEq, Repr, Inhabited

/-- A change to one remote object. -/
structure Delta where
  uid : Uid
  /-- The identifier before a rename. -/
  previousUid : Option Uid := none
  kind : DeltaKind := .createOrUpdate
  objectClass : String
  /-- The snapshot after the change; empty for a deletion. -/
  attributes : Attributes := ∅
  deriving DecidableEq, Inhabited

namespace Delta

/-- The identifier under which the changed object is known locally: the one before a rename. -/
def correlationUid (delta : Delta) : Uid := delta.previousUid.getD delta.uid

end Delta

/-- An object as read from a resource. -/
structure RemoteObject where
  uid : Uid
  objectClass : String
  attributes : Attributes := ∅
  deriving DecidableEq, Inhabited

/-- Report an object as created or updated. -/
def RemoteObject.toDelta (object : RemoteObject) (objectClass : String) : Delta :=
  { uid := object.uid, objectClass, attributes := object.attributes }

end Provisioning
