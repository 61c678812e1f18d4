import Provisioning.Connector.Call
import Provisioning.Memory.Directory
import Provisioning.Memory.Inbox
import Provisioning.Memory.Requests
import Provisioning.Memory.Tokens
import Provisioning.Token.File
set_option autoImplicit false

/-!
# A scripted world

Every system that the library works with, in memory, with a trace of the calls and with faults that can be set:
resources that refuse calls, a workflow that refuses requests or reports something else than it did, a repository
that loses entities, side channels that are unavailable.
-/

namespace Provisioning.Simulation

open Memory Reconciliation

/-! ## Resources -/

/-- A resource in memory with its trace and its faults. -/
structure Endpoint where
  directory : Directory := {}
  /-- Every call, in order. -/
  trace : List Call := []
  /-- The errors with which calls fail. -/
  faults : List (Method × ConnectorError) := []
  /-- Whether the latest token is withheld. -/
  tokenHidden : Bool := false
  deriving Inhabited

namespace Endpoint

/-- The resource itself. -/
def directoryLens : Lens Endpoint Directory where
  get endpoint := endpoint.directory
  set directory endpoint := { endpoint with directory }

/-- Note a call. -/
def note (call : Call) (endpoint : Endpoint) : Endpoint := { endpoint with trace := endpoint.trace ++ [call] }

/-- The error with which a call fails, if it does. -/
def fault? (call : Call) (endpoint : Endpoint) : Option ConnectorError := endpoint.faults.lookup call.method

/-- Set the error with which the calls of a method fail, or let them work again. -/
def setFault (method : Method) (error : Option ConnectorError) (endpoint : Endpoint) : Endpoint :=
  let others := endpoint.faults.filter fun (m, _) => m != method
  { endpoint with faults := (error.map fun e => (method, e)).toList ++ others }

/-- Withhold the latest token after it was asked for. -/
def hideToken (connector : Connector Endpoint) : Connector Endpoint :=
  { connector with
    latestToken := fun objectClass endpoint =>
      match connector.latestToken objectClass endpoint with
      | (.ok token, endpoint') => (.ok (if endpoint'.tokenHidden then none else token), endpoint')
      | answer => answer }

/-- The connector: a call is noted, then fails if a fault is set, and else reaches the resource. -/
def connector (name uidAttribute : String) : Connector Endpoint :=
  hideToken (((Directory.connector name uidAttribute).within directoryLens |>.guarded fault?).observed note)

end Endpoint

/-! ## The world -/

/-- What the repository answers to a read. -/
inductive FindAnswer where
  /-- What is stored. -/
  | stored
  | absent
  | fails (error : SyncError)
  deriving DecidableEq

/-- The requests of a workflow. -/
inductive Request where
  | create
  | update
  | delete
  deriving DecidableEq

instance : Keyword Request where
  all := [.create, .update, .delete]
  word
    | .create => "create"
    | .update => "update"
    | .delete => "delete"

/-- What a scripted hook noted. -/
inductive HookNote where
  /-- A call with what it is about. -/
  | called (text : String)
  /-- A call with all that the hook saw. -/
  | seen (hook : Hook) (subject : String) (dryRun : Bool) (results propagation : Nat) (delta : Option Delta)
      (result : Option Result)
  /-- A diagnostic text. -/
  | text (content : String)
  deriving DecidableEq

/-- Every system that the library works with. -/
structure World where
  endpoints : Std.ExtTreeMap String Endpoint := ∅
  office : Office := {}
  /-- The errors with which requests to the workflow fail. -/
  requestFaults : List (Request × SyncError) := []
  /-- The name that the workflow reports instead of the right one. -/
  reportedName : Option String := none
  /-- The affected attributes that the workflow reports instead of the right ones. -/
  reportedAffected : Option NameSet := none
  /-- The answers to the next reads of the repository. -/
  finds : List FindAnswer := []
  /-- The error with which searches of the repository fail. -/
  searchFault : Option SyncError := none
  audit : Inbox := {}
  notifications : Inbox := {}
  tokens : TokenTable := ∅
  tokenFile : FilePlace := .vacant
  /-- What each extension noted in the present run. -/
  hookNotes : List (List HookNote) := []
  deriving Inhabited

namespace World

/-- The resource of a name. -/
def endpointLens (name : String) : Lens World Endpoint where
  get world := world.endpoints[name]?.getD {}
  set endpoint world := { world with endpoints := world.endpoints.insert name endpoint }

/-- Change the resource of a name. -/
def modifyEndpoint (name : String) (change : Endpoint → Endpoint) (world : World) : World :=
  { world with endpoints := world.endpoints.modify name change }

/-- Change what is stored on the resource of a name. -/
def modifyDirectory (name : String) (change : Directory → Directory) (world : World) : World :=
  world.modifyEndpoint name fun endpoint => { endpoint with directory := change endpoint.directory }

/-- The world in which nothing has happened yet on the resources of the given names. -/
def ofConnectors (names : List String) : World :=
  { endpoints := Std.ExtTreeMap.ofList (names.map fun name => (name, ({} : Endpoint))) }

/-- Set the error with which requests of a kind fail, or let them work again. -/
def setRequestFault (kind : Request) (error : Option SyncError) (world : World) : World :=
  let others := world.requestFaults.filter fun (k, _) => k != kind
  { world with requestFaults := (error.map fun e => (kind, e)).toList ++ others }

/-- The workflow and its repository. -/
def officeLens : Lens World Office where
  get world := world.office
  set office world := { world with office }

/-- The audit log. -/
def auditLens : Lens World Inbox where
  get world := world.audit
  set audit world := { world with audit }

/-- The notifications. -/
def notificationsLens : Lens World Inbox where
  get world := world.notifications
  set notifications world := { world with notifications }

/-- The token store in memory. -/
def tokensLens : Lens World TokenTable where
  get world := world.tokens
  set tokens world := { world with tokens }

/-- The token file. -/
def tokenFileLens : Lens World FilePlace where
  get world := world.tokenFile
  set tokenFile world := { world with tokenFile }

/-- What one extension noted. -/
def notesLens (index : Nat) : Lens World (List HookNote) where
  get world := world.hookNotes.getD index []
  set notes world := { world with hookNotes := world.hookNotes.set index notes }

/-- The connector to the resource of a name. -/
def connector (name uidAttribute : String) : Connector World :=
  (Endpoint.connector name uidAttribute).within (endpointLens name)

/-- The repository: a read takes the next scripted answer. -/
def repository : Repository World :=
  let stored := (Entities.repository.within Office.entitiesLens).within officeLens
  { stored with
    find := fun t id world =>
      let world' := { world with finds := world.finds.tail }
      match world.finds.head?.getD .stored with
      | .stored => stored.find t id world'
      | .absent => (.ok none, world')
      | .fails error => (.error error, world')
    search := fun t condition world =>
      match world.searchFault with
      | some error => (.error error, world)
      | none => stored.search t condition world }

/-- Replace what the workflow reports. -/
def alterReport (world : World) (report : WorkflowReport) : WorkflowReport :=
  { report with name := world.reportedName.getD report.name
                affected := world.reportedAffected.getD report.affected }

/-- Make a request to the workflow, unless a fault is set for it. -/
def request (kind : Request) (operation : Effect World SyncError WorkflowReport) :
    Effect World SyncError WorkflowReport := fun world =>
  match world.requestFaults.lookup kind with
  | some error => (.error error, world)
  | none => operation.mapOk world.alterReport world

/-- The workflow. -/
def workflow : Workflow World :=
  let office := Office.workflow.within officeLens
  { create := fun entity => request .create (office.create entity)
    update := fun t id patch => request .update (office.update t id patch)
    delete := fun t id => request .delete (office.delete t id) }

/-- The audit log as a side channel. -/
def auditSink : Sink World := fun event => auditLens.zoom (Inbox.sink event)

/-- The notifications as a side channel. -/
def notificationsSink : Sink World := fun event => notificationsLens.zoom (Inbox.sink event)

/-- The token store in memory. -/
def memoryTokens : TokenStore World := Memory.tokenStore.within tokensLens

/-- The token store in a file. -/
def fileTokens : TokenStore World := TokenFile.tokenStore.within tokenFileLens

end World

end Provisioning.Simulation
