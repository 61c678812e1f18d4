import Provisioning.Connector.Error
import Provisioning.Connector.Filter
import Provisioning.Delta
import Provisioning.Effect
import Provisioning.Mapping.Basic
set_option autoImplicit false

/-!
# Connectors

A connector is the uniform contract to one resource.  It is a record of operations on a world `σ`, so whatever is
shown for every connector holds for every behaviour a resource can have.  Reads of a missing object return
`none`; a resource may also fail with `objectNotFound`, which the probe counts as absent.
-/

namespace Provisioning

/-- An operation that a connector may have enabled. -/
inductive Capability where
  | authenticate
  | create
  | update
  | delete
  | search
  | sync
  deriving DecidableEq, Repr, Inhabited

namespace Capability

instance : Keyword Capability where
  all := [authenticate, create, update, delete, search, sync]
  word
    | authenticate => "authenticate"
    | create => "create"
    | update => "update"
    | delete => "delete"
    | search => "search"
    | sync => "sync"

end Capability

/-- What a connector sends when its changes are pulled: deltas in order, and how the pull ends once the last of
them has been sent. -/
structure Emission where
  deltas : List Delta
  outcome : Except ConnectorError Unit

/-- An emission that fails before the first delta. -/
def Emission.failed (error : ConnectorError) : Emission := ⟨[], .error error⟩

/-- A uniform interface to one resource. -/
structure Connector (σ : Type) where
  name : String
  /-- Whether an operation is enabled. -/
  supports : Capability → σ → Bool
  /-- Check the credentials of an account. -/
  authenticate : (objectClass username password : String) → Effect σ ConnectorError Uid
  /-- Create an object. -/
  create : (objectClass : String) → Attributes → ReadOptions → Effect σ ConnectorError Uid
  /-- Replace the given attributes of an object, whose identifier may change. -/
  update : (objectClass : String) → Uid → Attributes → ReadOptions → Effect σ ConnectorError Uid
  /-- Delete an object. -/
  delete : (objectClass : String) → Uid → ReadOptions → Effect σ ConnectorError Unit
  /-- Send every change after the token. -/
  sync : (objectClass : String) → Option SyncToken → ReadOptions → StateM σ Emission
  /-- The token that marks the present end of the changes. -/
  latestToken : (objectClass : String) → Effect σ ConnectorError (Option SyncToken)
  /-- Read one object. -/
  getObject : (objectClass : String) → Uid → ReadOptions → Effect σ ConnectorError (Option RemoteObject)
  /-- Search objects; without a filter all of them. -/
  search : (objectClass : String) → Option Filter → ReadOptions → Effect σ ConnectorError (List RemoteObject)
  /-- The attribute names that the resource knows for an object class, special ones on request. -/
  schemaNames : (objectClass : String) → (special : Bool) → Effect σ ConnectorError NameSet
  /-- The object classes of the resource. -/
  objectClasses : Effect σ ConnectorError NameSet
  /-- Check the configuration without touching the resource. -/
  validate : Effect σ ConnectorError Unit
  /-- Check that the resource can be reached. -/
  test : Effect σ ConnectorError Unit

namespace Connector

variable {σ τ : Type}

/-- Read an object to find out whether it exists; a resource that reports it as not found counts as absent. -/
def probe (connector : Connector σ) (objectClass : String) (uid : Uid) (options : ReadOptions) :
    Effect σ ConnectorError (Option RemoteObject) := fun s =>
  match connector.getObject objectClass uid options s with
  | (.error (.objectNotFound _), s') => (.ok none, s')
  | answer => answer

/-- Send every object as created or updated. -/
def allObjects (connector : Connector σ) (objectClass : String) (options : ReadOptions) : StateM σ Emission := do
  match ← connector.search objectClass none options with
  | .error error => pure (.failed error)
  | .ok objects => pure ⟨objects.map fun object => object.toDelta objectClass, .ok ()⟩

/-- Read one attribute of an object. -/
def objectAttribute (connector : Connector σ) (objectClass : String) (uid : Uid) (name : String) :
    Effect σ ConnectorError (Option (List Value)) :=
  (connector.getObject objectClass uid { attributes := {name} }).mapOk fun found =>
    found.bind fun object => object.attributes[name]?

/-- Read the requested attributes of an object; none if it is absent. -/
def objectAttributes (connector : Connector σ) (objectClass : String) (uid : Uid) (options : ReadOptions) :
    Effect σ ConnectorError Attributes :=
  (connector.getObject objectClass uid options).mapOk fun found =>
    (found.map RemoteObject.attributes).getD ∅

/-- A connector to a resource that lives in a part of a larger world. -/
def within (lens : Lens σ τ) (connector : Connector τ) : Connector σ where
  name := connector.name
  supports capability s := connector.supports capability (lens.get s)
  authenticate objectClass username password := lens.zoom (connector.authenticate objectClass username password)
  create objectClass attributes options := lens.zoom (connector.create objectClass attributes options)
  update objectClass uid attributes options := lens.zoom (connector.update objectClass uid attributes options)
  delete objectClass uid options := lens.zoom (connector.delete objectClass uid options)
  sync objectClass token options := lens.zoom (connector.sync objectClass token options)
  latestToken objectClass := lens.zoom (connector.latestToken objectClass)
  getObject objectClass uid options := lens.zoom (connector.getObject objectClass uid options)
  search objectClass filter options := lens.zoom (connector.search objectClass filter options)
  schemaNames objectClass special := lens.zoom (connector.schemaNames objectClass special)
  objectClasses := lens.zoom connector.objectClasses
  validate := lens.zoom connector.validate
  test := lens.zoom connector.test

end Connector

end Provisioning
