import Provisioning.Memory.Entities
import Provisioning.Workflow
set_option autoImplicit false

/-!
# A workflow in memory

Every request is noted and then applied at once to a repository in memory, unless requests are set to fail.
-/

namespace Provisioning.Memory

/-- The requests made to a workflow. -/
structure Requests where
  /-- Every request, in order. -/
  calls : List String := []
  /-- Every patch, in order. -/
  patches : List Patch := []
  /-- The text with which every request fails, if it does. -/
  failing : Option String := none
  deriving DecidableEq, Inhabited

/-- A workflow together with the repository that it works on. -/
structure Office where
  entities : Entities := {}
  requests : Requests := {}
  deriving DecidableEq, Inhabited

namespace Office

/-- The repository of the workflow. -/
def entitiesLens : Lens Office Entities where
  get office := office.entities
  set entities office := { office with entities }

/-- Note a request and, unless requests fail, go on with it. -/
def request {α : Type} (call : String) (operation : Effect Office SyncError α) : Effect Office SyncError α :=
  fun office =>
    let noted := { office with requests := { office.requests with calls := office.requests.calls ++ [call] } }
    match office.requests.failing with
    | some message => (.error (.workflow message), noted)
    | none => operation noted

/-- Note a patch. -/
def notePatch (office : Office) (patch : Patch) : Office :=
  { office with requests := { office.requests with patches := office.requests.patches ++ [patch] } }

/-- Store an entity. -/
def save (office : Office) (entity : Entity) : Entity × Office :=
  let (stored, entities) := office.entities.insert entity
  (stored, { office with entities })

/-- Store a new entity. -/
def create (entity : Entity) : Effect Office SyncError WorkflowReport :=
  request ("create " ++ entity.name) fun office =>
    let (stored, office') := office.save entity
    (.ok { id := stored.id, name := stored.name, affected := entity.plain.names ∪ entity.virtuals.names }, office')

/-- Apply a patch to a stored entity. -/
def update (t : SubjectType) (id : Nat) (patch : Patch) : Effect Office SyncError WorkflowReport :=
  request ("update " ++ toString id) fun office =>
    let noted := office.notePatch patch
    match noted.entities.get? t id with
    | none => (.error (.notFound t id), noted)
    | some entity =>
      let (stored, office') := noted.save (patch.apply entity)
      (.ok { id := stored.id, name := stored.name, affected := patch.affected entity }, office')

/-- Remove a stored entity. -/
def delete (t : SubjectType) (id : Nat) : Effect Office SyncError WorkflowReport :=
  request ("delete " ++ toString id) fun office =>
    match office.entities.get? t id with
    | none => (.error (.notFound t id), office)
    | some entity =>
      (.ok { id, name := entity.name, affected := ∅ }, { office with entities := office.entities.erase t id })

/-- The workflow in memory. -/
def workflow : Workflow Office where
  create := create
  update := update
  delete := delete

end Office

end Provisioning.Memory
