import Provisioning.Connector.Basic
import Provisioning.Text.Numeral
set_option autoImplicit false

/-!
# A resource in memory

A table of objects and a log of changes.  The token of a position in the log is its number, so that pulling after
the token `n` sends every change but the first `n`.
-/

namespace Provisioning.Memory

/-- The state of a resource in memory. -/
structure Directory where
  /-- The enabled operations. -/
  enabled : List Capability := Keyword.all
  /-- Objects by identifier. -/
  objects : Std.ExtTreeMap Uid RemoteObject := ∅
  /-- The log of changes. -/
  changes : List Delta := []
  /-- The text with which every write fails, if it does. -/
  failingWrites : Option String := none
  /-- Every call, in order. -/
  calls : List String := []
  deriving Inhabited

namespace Directory

/-- Put an object on the resource, in the place of one with the same identifier. -/
def insertObject (directory : Directory) (object : RemoteObject) : Directory :=
  { directory with objects := directory.objects.insert object.uid object }

/-- Append a change to the log. -/
def pushDelta (directory : Directory) (delta : Delta) : Directory :=
  { directory with changes := directory.changes ++ [delta] }

/-- Note a call. -/
def record (directory : Directory) (call : String) : Directory :=
  { directory with calls := directory.calls ++ [call] }

/-- Whether a noted call is a write. -/
def isWriteCall (call : String) : Bool :=
  call.startsWith "create " || call.startsWith "update " || call.startsWith "delete "

/-- The writes among the noted calls. -/
def writes (directory : Directory) : List String := directory.calls.filter isWriteCall

/-- The objects of a class, by identifier. -/
def objectsOf (directory : Directory) (objectClass : String) : List RemoteObject :=
  directory.objects.values.filter fun object => object.objectClass == objectClass

/-- Note a write and, unless writes fail, go on with it. -/
def write {α : Type} (call : String) (operation : Effect Directory ConnectorError α) :
    Effect Directory ConnectorError α := fun directory =>
  let noted := directory.record call
  match noted.failingWrites with
  | some message => (.error (.operationFailed message), noted)
  | none => operation noted

/-- Check the password of the account. -/
def authenticate (username password : String) : Effect Directory ConnectorError Uid := fun directory =>
  let noted := directory.record ("authenticate " ++ username)
  match noted.objects[username]? with
  | some object =>
    if object.attributes.firstText? Entity.passwordAttribute = some password then (.ok object.uid, noted)
    else (.error (.authenticationFailed username), noted)
  | none => (.error (.authenticationFailed username), noted)

/-- Create an object under the first value of the identifying attribute. -/
def create (uidAttribute objectClass : String) (attributes : Attributes) : Effect Directory ConnectorError Uid :=
  match attributes.firstText? uidAttribute with
  | none => Effect.fail (.invalidConfiguration ("missing `" ++ uidAttribute ++ "`"))
  | some uid => write ("create " ++ uid) fun directory =>
      if directory.objects.contains uid then (.error (.alreadyExists uid), directory)
      else (.ok uid, directory.insertObject { uid, objectClass, attributes })

/-- The object after an update: it takes the identifier that the identifying attribute now holds. -/
def updated (uidAttribute : String) (object : RemoteObject) (attributes : Attributes) : RemoteObject :=
  let merged := object.attributes.overlay attributes
  { object with uid := (merged.firstText? uidAttribute).getD object.uid, attributes := merged }

/-- Replace attributes of an object. -/
def update (uidAttribute : String) (uid : Uid) (attributes : Attributes) : Effect Directory ConnectorError Uid :=
  write ("update " ++ uid) fun directory =>
    match directory.objects[uid]? with
    | none => (.error (.objectNotFound uid), directory)
    | some object =>
      let object' := updated uidAttribute object attributes
      (.ok object'.uid, { directory with objects := (directory.objects.erase uid).insert object'.uid object' })

/-- Delete an object. -/
def delete (uid : Uid) : Effect Directory ConnectorError Unit :=
  write ("delete " ++ uid) fun directory =>
    if directory.objects.contains uid then (.ok (), { directory with objects := directory.objects.erase uid })
    else (.error (.objectNotFound uid), directory)

/-- Send the changes after a token. -/
def sync (token : Option SyncToken) : StateM Directory Emission := fun directory =>
  let noted := directory.record ("sync " ++ token.getD "-")
  match token with
  | none => (⟨noted.changes, .ok ()⟩, noted)
  | some token =>
    match Text.word? token with
    | some n => (⟨noted.changes.drop n, .ok ()⟩, noted)
    | none => (.failed (.invalidConfiguration ("bad sync token `" ++ token ++ "`")), noted)

/-- The token after every change so far. -/
def latestToken : Effect Directory ConnectorError (Option SyncToken) := fun directory =>
  let noted := directory.record "get_latest_sync_token"
  (.ok (some (toString noted.changes.length)), noted)

/-- Search the objects of a class. -/
def search (objectClass : String) (filter : Option Filter) : Effect Directory ConnectorError (List RemoteObject) :=
  fun directory =>
    let noted := directory.record "search"
    (.ok ((noted.objectsOf objectClass).filter fun object =>
      match filter with
      | some filter => filter.matches object.attributes
      | none => true), noted)

/-- The attribute names that occur on objects of a class; special ones start with two underscores. -/
def schemaNames (directory : Directory) (objectClass : String) (special : Bool) : NameSet :=
  NameSet.ofList (((directory.objectsOf objectClass).flatMap fun object => object.attributes.keys).filter
    fun name => special || !name.startsWith "__")

/-- The object classes that occur. -/
def objectClasses (directory : Directory) : NameSet :=
  NameSet.ofList (directory.objects.values.map RemoteObject.objectClass)

/-- The connector to a resource in memory.  Created objects take the first value of `uidAttribute` as their
identifier. -/
def connector (name uidAttribute : String) : Connector Directory where
  name := name
  supports capability directory := directory.enabled.contains capability
  authenticate _ username password := authenticate username password
  create objectClass attributes _ := create uidAttribute objectClass attributes
  update _ uid attributes _ := update uidAttribute uid attributes
  delete _ uid _ := delete uid
  sync _ token _ := sync token
  latestToken _ := latestToken
  getObject _ uid _ := fun directory => (.ok directory.objects[uid]?, directory)
  search objectClass filter _ := search objectClass filter
  schemaNames objectClass special := fun directory => (.ok (directory.schemaNames objectClass special), directory)
  objectClasses := fun directory => (.ok directory.objectClasses, directory)
  validate := Effect.ok ()
  test := Effect.ok ()

end Directory

end Provisioning.Memory
