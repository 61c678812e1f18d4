import Provisioning.Proofs.Propagation.Calls
import Provisioning.Proofs.Reconciliation.Mirror
set_option autoImplicit false

/-!
# A session and its twin

What a session does can be written down while it happens: which hooks it calls, what it asks of the workflow, its calls
to resources, the events it offers and the tokens it stores.  An observer says what of this is written down, and as
what.  For every observer a session has a twin that does so beside its world.  Nobody reads the notes there, so the twin
goes the way of the session itself.  What hooks do on their own is not written down, and neither is reading.
-/

namespace Provisioning

open Reconciliation

variable {σ τ ρ β : Type}

/-- The registry of resources in a part of a larger world. -/
def Registry.within (lens : Lens σ τ) (registry : Registry τ) : Registry σ :=
  registry.through fun _ => Connector.within lens

/-- A registry that reaches only a part of the world keeps every frame that leaves this part out of account. -/
theorem Registry.keeps_within {lens : Lens σ τ} {frame : Frame σ} (hcarries : lens.Carries Frame.anything frame)
    (registry : Registry τ) : (registry.within lens).Keeps frame := by
  intro name resource hget
  rw [Registry.within, getElem?_through] at hget
  obtain ⟨resource, -, rfl⟩ := Option.map_eq_some_iff.mp hget
  exact resource.connector.keeps_anything.within hcarries

/-! ## Observers -/

/-- A request to a workflow. -/
inductive Workflow.Request where
  | create (entity : Entity)
  | update (subjectType : SubjectType) (id : Nat) (patch : Patch)
  | delete (subjectType : SubjectType) (id : Nat)

namespace Reconciliation

/-- What is noted of the things that a session does, and as what.  Of what is left out, nothing is noted. -/
structure Observer (β : Type) where
  /-- The hook of an extension before an action: the number of the extension, the delta that it is given, its answer. -/
  before : Option (Nat → Hook → Delta → Except Failure Delta → β) := none
  /-- The hook of an extension after an action, with its answer. -/
  after : Option (Nat → Except Failure Unit → β) := none
  /-- A request to the workflow, with its answer. -/
  requested : Option (Workflow.Request → Except SyncError WorkflowReport → β) := none
  /-- A call to the connector of a resource. -/
  called : Option (RemoteCall → β) := none
  audited : Option (Event → β) := none
  notified : Option (Event → β) := none
  stored : Option (String → SyncToken → β) := none

end Reconciliation

/-! ## Something beside the world -/

namespace Reconciliation

/-- The moment of a run, with something beside its world. -/
def RunState.beside (s : RunState σ) (aside : ρ) : RunState (σ × ρ) := { s with world := (s.world, aside) }

/-- A profile that shows the connector to another world. -/
def Profile.showing (connector : Connector τ) (profile : Profile σ) : Profile τ := { profile with connector }

/-- An extension with something beside its world.  It is shown the connector to its own world. -/
def Hooks.beside (connector : Connector σ) (hooks : Hooks σ) : Hooks (σ × ρ) where
  beforeAll profile := Lens.first.zoom (hooks.beforeAll (profile.showing connector))
  beforeNew hook profile delta entity :=
    Lens.first.zoom (hooks.beforeNew hook (profile.showing connector) delta entity)
  beforeExisting hook profile delta entity :=
    Lens.first.zoom (hooks.beforeExisting hook (profile.showing connector) delta entity)
  after profile delta entity result := Lens.first.zoom (hooks.after (profile.showing connector) delta entity result)
  afterAll profile := Lens.first.zoom (hooks.afterAll (profile.showing connector))

/-- The engine with something beside its world, and with the given hooks there. -/
def Engine.beside (hooks : List (Hooks (σ × ρ))) (engine : Engine σ) : Engine (σ × ρ) where
  registry := engine.registry.within Lens.first
  repository := engine.repository.within Lens.first
  workflow := engine.workflow.within Lens.first
  correlation delta mapping := Lens.first.zoom (engine.correlation delta mapping)
  tokens := engine.tokens.within Lens.first
  audit event := Lens.first.zoom (engine.audit event)
  notifications event := Lens.first.zoom (engine.notifications event)
  hooks := hooks
  parallel := engine.parallel
  dryRun := engine.dryRun
  capacity := engine.capacity
  turns := engine.turns
  interleaving := engine.interleaving

end Reconciliation

/-! ## Notes beside the world -/

/-- A connector whose calls are noted, if notes of them are to be taken. -/
def Connector.twin (note : Option (RemoteCall → β)) (resource : String) (connector : Connector σ) :
    Connector (σ × List β) :=
  match note with
  | none => connector.within Lens.first
  | some note => connector.logged note resource

/-- A workflow whose requests are noted, if notes of them are to be taken. -/
def Workflow.twin (note : Option (Request → Except SyncError WorkflowReport → β)) (workflow : Workflow σ) :
    Workflow (σ × List β) where
  create entity := notedIf (note.map fun note => note (.create entity)) (workflow.create entity)
  update t id patch := notedIf (note.map fun note => note (.update t id patch)) (workflow.update t id patch)
  delete t id := notedIf (note.map fun note => note (.delete t id)) (workflow.delete t id)

namespace Reconciliation

/-- An extension whose calls around actions are noted under its number. -/
def Hooks.twin (observer : Observer β) (connector : Connector σ) (extension : Nat) (hooks : Hooks σ) :
    Hooks (σ × List β) :=
  { hooks.beside connector with
    beforeNew := fun hook profile delta entity =>
      notedIf (observer.before.map fun note answer => note extension (.beforeNew hook) delta answer.1)
        (hooks.beforeNew hook (profile.showing connector) delta entity)
    beforeExisting := fun hook profile delta entity =>
      notedIf (observer.before.map fun note => note extension (.beforeExisting hook) delta)
        (hooks.beforeExisting hook (profile.showing connector) delta entity)
    after := fun profile delta entity result =>
      notedIf (observer.after.map fun note => note extension)
        (hooks.after (profile.showing connector) delta entity result) }

/-- Extensions that are numbered in the order in which they are registered. -/
def Hooks.twins (observer : Observer β) (connector : Connector σ) : Nat → List (Hooks σ) → List (Hooks (σ × List β))
  | _, [] => []
  | extension, hooks :: rest =>
    hooks.twin observer connector extension :: Hooks.twins observer connector (extension + 1) rest

/-- The engine with notes beside its world. -/
def Engine.twin (observer : Observer β) (connector : Connector σ) (engine : Engine σ) : Engine (σ × List β) :=
  { engine.beside (Hooks.twins observer connector 0 engine.hooks) with
    registry := engine.registry.through (Connector.twin observer.called)
    workflow := engine.workflow.twin observer.requested
    tokens :=
      { engine.tokens.within Lens.first with
        store := fun task token =>
          notedIf (observer.stored.map fun note _ => note task token) (engine.tokens.store task token) }
    audit := fun event => notedIf (observer.audited.map fun note _ => note event) (engine.audit event)
    notifications := fun event =>
      notedIf (observer.notified.map fun note _ => note event) (engine.notifications event) }

/-- The session with notes beside its world. -/
def Session.twin (observer : Observer β) (session : Session σ) : Session (σ × List β) where
  engine := session.engine.twin observer session.resource.connector
  task := session.task
  resource := session.resource.through (Connector.within Lens.first)
  mapping := session.mapping

end Reconciliation

/-! ## The twin goes the same way -/

theorem Connector.mirrors_twin (note : Option (RemoteCall → β)) (resource : String) (connector : Connector σ) :
    connector.Mirrors Beside (connector.twin note resource) := by
  cases note with
  | none => exact connector.mirrors_within
  | some note => exact connector.mirrors_logged note resource

namespace Reconciliation

variable {observer : Observer β}

theorem Hooks.length_twins (observer : Observer β) (connector : Connector σ) (extension : Nat)
    (hooks : List (Hooks σ)) : (twins observer connector extension hooks).length = hooks.length := by
  induction hooks generalizing extension with
  | nil => rfl
  | cons one rest ih => rw [twins, List.length_cons, ih, List.length_cons]

theorem Hooks.of_mem_twins {connector : Connector σ} {extension : Nat} {hooks : List (Hooks σ)}
    {one : Hooks (σ × List β)} (h : one ∈ twins observer connector extension hooks) :
    ∃ number, ∃ hooks' ∈ hooks, one = hooks'.twin observer connector number := by
  induction hooks generalizing extension with
  | nil => cases h
  | cons first rest ih =>
    cases h with
    | head => exact ⟨extension, first, List.mem_cons_self, rfl⟩
    | tail _ hrest =>
      obtain ⟨number, hooks', hmem, rfl⟩ := ih hrest
      exact ⟨number, hooks', List.mem_cons_of_mem _ hmem, rfl⟩

/-- Of hooks that are not noted, the twins only have something beside their world. -/
theorem Hooks.twins_of_unnoted (hbefore : observer.before = none) (hafter : observer.after = none)
    (connector : Connector σ) (extension : Nat) (hooks : List (Hooks σ)) :
    twins observer connector extension hooks = hooks.map (Hooks.beside connector) := by
  induction hooks generalizing extension with
  | nil => rfl
  | cons one rest ih =>
    have hone : one.twin observer connector extension = one.beside connector := by
      simp only [Hooks.twin, hbefore, hafter]
      rfl
    rw [twins, ih, hone, List.map_cons]

namespace Session

theorem tasksFor_twin (observer : Observer β) (session : Session σ) (entity : Entity) (change : Propagation.Change)
    (resources : NameSet) :
    Propagation.tasksFor (session.twin observer).engine.registry entity change resources =
      Propagation.tasksFor session.engine.registry entity change resources :=
  Propagation.tasksFor_through _ entity change resources

section Profiles

variable {session : Session σ} {twin : Session (σ × ρ)} (htask : twin.task = session.task)
  (hdry : twin.dryRun = session.dryRun) (hcount : twin.engine.hooks.length = session.engine.hooks.length)

include htask hdry hcount

/-- Hooks are shown the same of a session with something beside its world. -/
theorem showing_profile {s : RunState σ} {t : RunState (σ × ρ)} (hrel : RunState.Mirrors Beside Eq s t) :
    (twin.profile t).showing session.resource.connector = session.profile s := by
  simp only [Profile.showing, profile, htask, hdry, hcount, hrel.results, hrel.propagation]

/-- An extension does alike with something beside its world, in a session that it takes for its own. -/
theorem hooks_mirror_beside (hooks : Hooks σ) :
    hooks.Mirrors Beside Eq session twin (hooks.beside session.resource.connector) where
  beforeAll _ _ hrel := showing_profile htask hdry hcount hrel ▸ alike_within _
  beforeNew _ _ _ _ _ hrel := showing_profile htask hdry hcount hrel ▸ alike_within _
  beforeExisting _ _ _ _ _ hrel := showing_profile htask hdry hcount hrel ▸ alike_within _
  after _ _ _ _ _ hrel := showing_profile htask hdry hcount hrel ▸ alike_within _
  afterAll _ _ hrel := showing_profile htask hdry hcount hrel ▸ alike_within _

end Profiles

variable {session : Session σ}

theorem showing_profile_twin {s : RunState σ} {t : RunState (σ × List β)} (hrel : RunState.Mirrors Beside Eq s t) :
    ((session.twin observer).profile t).showing session.resource.connector = session.profile s :=
  showing_profile rfl rfl (Hooks.length_twins _ _ _ _) hrel

theorem hooks_mirror_twin (extension : Nat) (hooks : Hooks σ) :
    hooks.Mirrors Beside Eq session (session.twin observer)
      (hooks.twin observer session.resource.connector extension) where
  beforeAll _ _ hrel := showing_profile_twin hrel ▸ alike_within _
  beforeNew _ _ _ _ _ hrel := showing_profile_twin hrel ▸ alike_notedIf _ _
  beforeExisting _ _ _ _ _ hrel := showing_profile_twin hrel ▸ alike_notedIf _ _
  after _ _ _ _ _ hrel := showing_profile_twin hrel ▸ alike_notedIf _ _
  afterAll _ _ hrel := showing_profile_twin hrel ▸ alike_within _

theorem hooks_mirror_twins (extension : Nat) (hooks : List (Hooks σ)) :
    List.Forall₂ (Hooks.Mirrors Beside Eq session (session.twin observer)) hooks
      (Hooks.twins observer session.resource.connector extension hooks) := by
  induction hooks generalizing extension with
  | nil => exact .nil
  | cons one rest ih => exact .cons (hooks_mirror_twin extension one) (ih (extension + 1))

/-- The twin of a session does what the session does, whatever is noted. -/
theorem mirrors_twin (observer : Observer β) (session : Session σ) :
    session.Mirrors Beside Eq (session.twin observer) where
  task := rfl
  mapping := rfl
  dryRun := rfl
  find _ _ := alike_within _
  correlation _ _ := alike_within _
  loadToken _ := alike_within _
  latestToken _ := alike_within _
  sync _ _ _ := alike_within _
  search _ _ _ := alike_within _
  audit _ := (alike_notedIf _ _).abreast
  hooks := hooks_mirror_twins 0 session.engine.hooks
  acts _ :=
    { create := fun _ => alike_notedIf _ _
      update := fun _ _ _ => alike_notedIf _ _
      delete := fun _ _ => alike_notedIf _ _
      notifications := fun _ => (alike_notedIf _ _).abreast
      tasksFor := fun entity change resources => (session.tasksFor_twin observer entity change resources).symm
      propagate := abreast_propagate (Connector.mirrors_twin observer.called) fun _ => rfl
      store := fun _ _ => alike_notedIf _ _ }

/-- The twin of a session handles a delta alike. -/
theorem handle_twin (observer : Observer β) (session : Session σ) (delta : Delta) (s : RunState σ) (notes : List β) :
    let handled := session.handle delta s
    let twin := (session.twin observer).handle delta (s.beside notes)
    handled.1 = twin.1 ∧ RunState.Mirrors Beside Eq handled.2 twin.2 :=
  (session.mirrors_twin observer).handle delta s (s.beside notes) ⟨rfl, rfl, rfl, rfl⟩

/-- The twin of a session goes through its phases alike. -/
theorem phases_twin (observer : Observer β) (session : Session σ) (s : RunState σ) (notes : List β) :
    let finished := session.phases s
    let twin := (session.twin observer).phases (s.beside notes)
    finished.1 = twin.1 ∧ RunState.Mirrors Beside Eq finished.2 twin.2 :=
  (session.mirrors_twin observer).phases s (s.beside notes) ⟨rfl, rfl, rfl, rfl⟩

end Session

end Reconciliation

end Provisioning
