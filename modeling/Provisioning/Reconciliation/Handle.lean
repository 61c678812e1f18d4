import Provisioning.Mapping.Snapshot
import Provisioning.Reconciliation.Engine
set_option autoImplicit false

/-!
# Handling a delta

A delta is correlated to local entities, several matches are narrowed down by the conflict policy, and the rule of
the task is applied to each of them.  Every action has the same frame: hooks before it, the local request, then
propagation, hooks after it, and the recorded result.  Only a failed hook can abort the run.
-/

namespace Provisioning.Reconciliation.Session

variable {σ α : Type}

/-- Handle the members of a list one after the other, until one aborts the run. -/
def forEach (handle : α → Step σ (Except SyncError Unit)) : List α → Step σ (Except SyncError Unit)
  | [] => Effect.ok ()
  | a :: rest => Effect.andThen (handle a) fun _ => forEach handle rest

/-- The resource that is being reconciled, as a set. -/
def ownResource (session : Session σ) : NameSet := {session.task.resource}

/-- The result of a local request.  A granted one is followed up, a skippable error leaves no result, any other
error makes the result a failure. -/
def settle (base : Result) (followUp : WorkflowReport → Step σ Result) :
    Except SyncError WorkflowReport → Step σ (Option Result)
  | .ok report => do pure (some (← followUp report))
  | .error error => pure (if error.isSkippable then none else some (base.failed error.message))

/-- The frame of an action on an existing entity.  `act` is left out when the run only pretends. -/
def actOn (session : Session σ) (hook : ExistingHook) (base : Result) (delta : Delta) (entity : Entity)
    (act : Delta → Step σ (Option Result)) : Step σ (Except SyncError Unit) := do
  match ← session.beforeExisting hook entity session.engine.hooks delta with
  | .error error => session.hookFailed error base
  | .ok delta' =>
    if session.dryRun then session.finish delta' entity base
    else
      match ← act delta' with
      | none => pure (.ok ())
      | some result => session.finish delta' entity result

/-! ## Existing entities -/

/-- The entity after an update: as the repository holds it, or a patched copy if it cannot be read again. -/
def reread (session : Session σ) (entity : Entity) (patch : Patch) : Step σ Entity := do
  match ← onWorld (session.engine.repository.find session.task.subjectType entity.id) with
  | .ok (some after) => pure after
  | _ => pure (patch.apply entity)

/-- Apply what the snapshot changes and propagate it. -/
def update (session : Session σ) (entity : Entity) (base : Result) (delta : Delta) :
    Step σ (Option Result) := do
  let patch := session.mapping.diff entity delta.attributes
  if patch.isEmpty then pure (some base)
  else
    let answer ← onWorld (session.engine.workflow.update session.task.subjectType entity.id patch)
    settle base (fun report => do
      let after ← session.reread entity patch
      session.propagate
        (Propagation.updateTasks session.engine.registry entity after report.affected session.ownResource)
      pure (session.result .update report.id report.name)) answer

/-- Remove the remote object. -/
def deprovision (session : Session σ) (entity : Entity) (base : Result) : Step σ Result := do
  session.propagate (Propagation.deprovisionTasks session.engine.registry entity session.ownResource)
  pure base

/-- Remove the link and then the remote object. -/
def unassign (session : Session σ) (entity : Entity) (base : Result) : Step σ (Option Result) := do
  let patch := Patch.unlink session.task.resource
  let answer ← onWorld (session.engine.workflow.update session.task.subjectType entity.id patch)
  settle base (fun _ => session.deprovision entity base) answer

/-- Change the links without propagating. -/
def relink (session : Session σ) (entity : Entity) (patch : Patch) (base : Result) :
    Step σ (Option Result) := do
  let answer ← onWorld (session.engine.workflow.update session.task.subjectType entity.id patch)
  settle base (fun _ => pure base) answer

/-- Remove the entity, then its objects on the other resources. -/
def remove (session : Session σ) (entity : Entity) (id : Nat) (base : Result) :
    Step σ (Option Result) := do
  let answer ← onWorld (session.engine.workflow.delete session.task.subjectType id)
  settle base (fun _ => do
    session.propagate (Propagation.deleteTasks session.engine.registry entity session.ownResource)
    pure base) answer

/-- Read a correlated entity; one that cannot be read is passed over. -/
def load (session : Session σ) (id : Nat) : Step σ (Option Entity) := do
  match ← onWorld (session.engine.repository.find session.task.subjectType id) with
  | .ok found => pure found
  | .error _ => pure none

/-- Apply the matching rule to one entity. -/
def applyRule (session : Session σ) (delta : Delta) (entity : Entity) : Step σ (Except SyncError Unit) :=
  let base (operation : Operation) := session.result operation entity.id entity.name
  match session.task.matching with
  | .ignore => do
    session.record (base .none)
    pure (.ok ())
  | .update =>
    session.actOn .update (base .update) delta entity fun delta' => session.update entity (base .update) delta'
  | .deprovision =>
    session.actOn .deprovision (base .delete) delta entity fun _ =>
      some <$> session.deprovision entity (base .delete)
  | .unassign =>
    session.actOn .unassign (base .delete) delta entity fun _ => session.unassign entity (base .delete)
  | .link =>
    session.actOn .link (base .none) delta entity fun _ =>
      session.relink entity (Patch.link session.task.resource) (base .none)
  | .unlink =>
    session.actOn .unlink (base .none) delta entity fun _ =>
      session.relink entity (Patch.unlink session.task.resource) (base .none)

/-- A create-or-update delta that correlates to local entities. -/
def handleMatched (session : Session σ) (delta : Delta) (ids : List Nat) : Step σ (Except SyncError Unit) :=
  if session.task.mayUpdate then
    forEach (fun id => do
      match ← session.load id with
      | none => pure (.ok ())
      | some entity => session.applyRule delta entity) ids
  else Effect.ok ()

/-- A delete delta that correlates to local entities. -/
def handleDeleted (session : Session σ) (delta : Delta) (ids : List Nat) : Step σ (Except SyncError Unit) :=
  if session.task.mayDelete then
    forEach (fun id => do
      match ← session.load id with
      | none => pure (.ok ())
      | some entity =>
        let base := session.result .delete id entity.name
        session.actOn .delete base delta entity fun _ => session.remove entity id base) ids
  else Effect.ok ()

/-! ## New entities -/

/-- The entity that a delta describes.  One without a name takes the identifier; an assigned one is linked. -/
def newEntity (session : Session σ) (hook : NewHook) (delta : Delta) : Entity :=
  let entity := session.mapping.toEntity delta.attributes
  let entity := if entity.name.isEmpty then { entity with name := delta.uid } else entity
  match hook with
  | .create => entity
  | .assign => entity.link session.task.resource

/-- The resources that learn nothing of a new entity.  An assigned one is also written back to the resource that
it came from, where the object exists already and is updated. -/
def excludedFor (session : Session σ) : NewHook → NameSet
  | .create => session.ownResource
  | .assign => ∅

/-- Create an entity and propagate it. -/
def create (session : Session σ) (hook : NewHook) (delta : Delta) : Step σ (Except SyncError Unit) := do
  let (answer, entity) ← session.beforeNew hook session.engine.hooks delta (session.newEntity hook delta)
  let base := session.result .create 0 entity.name
  match answer with
  | .error error => session.hookFailed error base
  | .ok delta' =>
    if session.dryRun then session.finish delta' entity base
    else
      match ← onWorld (session.engine.workflow.create entity) with
      | .ok report =>
        let created := { entity with id := report.id, name := report.name }
        session.propagate
          (Propagation.createTasks session.engine.registry created (session.excludedFor hook))
        session.finish delta' created (session.result .create report.id report.name)
      | .error error =>
        if error.isSkippable then pure (.ok ()) else session.finish delta' entity (base.failed error.message)

/-- A create-or-update delta without a local match. -/
def handleUnmatched (session : Session σ) (delta : Delta) : Step σ (Except SyncError Unit) :=
  if session.task.mayCreate then
    match session.task.unmatching with
    | .ignore => Effect.ok ()
    | .assign => session.create .assign delta
    | .provision => session.create .create delta
  else Effect.ok ()

/-! ## Dispatch -/

/-- The local entities that a delta is about, narrowed down by the conflict policy. -/
def correlate (session : Session σ) (delta : Delta) : Step σ (Except SyncError (List Nat)) := do
  match ← onWorld (session.engine.correlation delta session.mapping) with
  | .error error => pure (.error error)
  | .ok ids => pure (session.task.conflicts.resolve delta.correlationUid ids)

/-- Handle one delta.  A delta that cannot be correlated is passed over; an error aborts the run. -/
def handle (session : Session σ) (delta : Delta) : Step σ (Except SyncError Unit) := do
  match ← session.correlate delta with
  | .error _ => pure (.ok ())
  | .ok ids =>
    match delta.kind, ids with
    | .createOrUpdate, [] => session.handleUnmatched delta
    | .createOrUpdate, ids => session.handleMatched delta ids
    | .delete, ids => session.handleDeleted delta ids

end Provisioning.Reconciliation.Session
