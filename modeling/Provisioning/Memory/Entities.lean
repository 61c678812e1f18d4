import Provisioning.Repository
set_option autoImplicit false

/-!
# A repository in memory

Entities in one table per subject type.  An entity that comes without an id gets the number after the last one
handed out.
-/

namespace Provisioning.Memory

/-- The state of a repository in memory. -/
structure Entities where
  /-- Entities by type and id. -/
  tables : PerSubject (Std.ExtTreeMap Nat Entity) := .const ∅
  /-- The last id handed out. -/
  lastId : Nat := 0
  deriving DecidableEq, Inhabited

namespace Entities

/-- The entity of an id. -/
def get? (entities : Entities) (t : SubjectType) (id : Nat) : Option Entity := (entities.tables.get t)[id]?

/-- Every entity of a type, in ascending order of ids. -/
def all (entities : Entities) (t : SubjectType) : List Entity := (entities.tables.get t).values

/-- Store an entity under its own id. -/
def put (entities : Entities) (entity : Entity) : Entities :=
  { entities with
    tables := entities.tables.set entity.subjectType
      ((entities.tables.get entity.subjectType).insert entity.id entity) }

/-- Hand out an id to an entity that has none. -/
def number (entities : Entities) (entity : Entity) : Entities × Entity :=
  if entity.id = 0 then
    ({ entities with lastId := entities.lastId + 1 }, { entity with id := entities.lastId + 1 })
  else (entities, entity)

/-- Store an entity; returns the stored copy. -/
def insert (entities : Entities) (entity : Entity) : Entity × Entities :=
  let (entities', numbered) := entities.number entity
  (numbered, entities'.put numbered)

/-- Remove an entity. -/
def erase (entities : Entities) (t : SubjectType) (id : Nat) : Entities :=
  { entities with tables := entities.tables.set t ((entities.tables.get t).erase id) }

/-- Whether an entity fulfils a condition.  Passwords cannot be searched for. -/
def fulfils (entity : Entity) (condition : Condition) : Bool :=
  match condition.target with
  | .username => condition.value.asText? == some entity.name
  | .password => false
  | .plain => entity.plain.holds condition.name condition.value
  | .derived => entity.derived.holds condition.name condition.value
  | .virtual => entity.virtuals.holds condition.name condition.value

/-- The ids of the entities that fulfil a condition. -/
def search (entities : Entities) (t : SubjectType) (condition : Condition) : List Nat :=
  ((entities.all t).filter fun entity => fulfils entity condition).map Entity.id

/-- Remove an entity that is there. -/
def delete (t : SubjectType) (id : Nat) : Effect Entities SyncError Unit := fun entities =>
  match entities.get? t id with
  | some _ => (.ok (), entities.erase t id)
  | none => (.error (.notFound t id), entities)

/-- The repository in memory. -/
def repository : Repository Entities where
  find t id := fun entities => (.ok (entities.get? t id), entities)
  search t condition := fun entities => (.ok (entities.search t condition), entities)
  save entity := fun entities =>
    let (stored, entities') := entities.insert entity
    (.ok stored, entities')
  delete := delete

end Entities

end Provisioning.Memory
