import Provisioning.Connector.Basic
set_option autoImplicit false

/-!
# Calls to connectors

The calls that reach a resource, as values.  `Connector.observed` notes each of them before it is made, and
`Connector.guarded` lets chosen ones fail without reaching the resource.
-/

namespace Provisioning

/-- The operations of a connector that reach the resource. -/
inductive Method where
  | authenticate
  | create
  | update
  | delete
  | sync
  | latestToken
  | getObject
  | search
  deriving DecidableEq, Repr

instance : Keyword Method where
  all := [.authenticate, .create, .update, .delete, .sync, .latestToken, .getObject, .search]
  word
    | .authenticate => "authenticate"
    | .create => "create"
    | .update => "update"
    | .delete => "delete"
    | .sync => "sync"
    | .latestToken => "get_latest_sync_token"
    | .getObject => "get_object"
    | .search => "search"

/-- A call to a connector, with its arguments. -/
inductive Call where
  | authenticate (objectClass username password : String)
  | create (objectClass : String) (attributes : Attributes) (options : ReadOptions)
  | update (objectClass : String) (uid : Uid) (attributes : Attributes) (options : ReadOptions)
  | delete (objectClass : String) (uid : Uid) (options : ReadOptions)
  | sync (objectClass : String) (token : Option SyncToken) (options : ReadOptions)
  | latestToken (objectClass : String)
  | getObject (objectClass : String) (uid : Uid) (options : ReadOptions)
  | search (objectClass : String) (options : ReadOptions)
  deriving DecidableEq

namespace Call

/-- The operation that is called. -/
def method : Call → Method
  | authenticate .. => .authenticate
  | create .. => .create
  | update .. => .update
  | delete .. => .delete
  | sync .. => .sync
  | latestToken .. => .latestToken
  | getObject .. => .getObject
  | search .. => .search

end Call

namespace Connector

variable {σ : Type}

/-- Run `before` with each call, then make the call; if `before` fails, the call fails with its error and does
not reach the resource. -/
def intercepted (before : Call → Effect σ ConnectorError Unit) (connector : Connector σ) : Connector σ :=
  { connector with
    authenticate := fun objectClass username password =>
      (before (.authenticate objectClass username password)).andThen fun _ =>
        connector.authenticate objectClass username password
    create := fun objectClass attributes options =>
      (before (.create objectClass attributes options)).andThen fun _ =>
        connector.create objectClass attributes options
    update := fun objectClass uid attributes options =>
      (before (.update objectClass uid attributes options)).andThen fun _ =>
        connector.update objectClass uid attributes options
    delete := fun objectClass uid options =>
      (before (.delete objectClass uid options)).andThen fun _ =>
        connector.delete objectClass uid options
    sync := fun objectClass token options => do
      match ← before (.sync objectClass token options) with
      | .error error => pure (.failed error)
      | .ok () => connector.sync objectClass token options
    latestToken := fun objectClass => (before (.latestToken objectClass)).andThen fun _ =>
        connector.latestToken objectClass
    getObject := fun objectClass uid options =>
      (before (.getObject objectClass uid options)).andThen fun _ =>
        connector.getObject objectClass uid options
    search := fun objectClass filter options =>
      (before (.search objectClass options)).andThen fun _ =>
        connector.search objectClass filter options }

/-- Note each call in the world before it is made. -/
def observed (note : Call → σ → σ) (connector : Connector σ) : Connector σ :=
  connector.intercepted fun call s => (.ok (), note call s)

/-- Let the calls for which the world holds a fault fail with it. -/
def guarded (fault : Call → σ → Option ConnectorError) (connector : Connector σ) : Connector σ :=
  connector.intercepted fun call s =>
    match fault call s with
    | some error => (.error error, s)
    | none => (.ok (), s)

end Connector

end Provisioning
