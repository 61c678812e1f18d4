import Provisioning.Proofs.Reconciliation.Twin
set_option autoImplicit false

/-!
# Minutes of hooks

Which hooks a run calls around its actions, and how each of these calls ends, can be written down while it happens.
The twin of a session that does so shows that hooks taking minutes are nothing special: any session has one.
-/

namespace Provisioning

open Reconciliation

variable {σ α ε : Type}

/-- The failure that an answer tells of. -/
def Effect.failure? : Except ε α → Option ε
  | .ok _ => none
  | .error e => some e

namespace Reconciliation

/-! ## Minutes -/

/-- A call of a hook, and the failure that it ended with. -/
structure HookCall where
  hook : Hook
  failure : Option Failure
  deriving DecidableEq

/-- The error that a call gives rise to. -/
def HookCall.error? (call : HookCall) : Option SyncError := call.failure.map (Session.hookError call.hook)

/-- The first failure among some calls. -/
def firstFailure (calls : List HookCall) : Option SyncError := calls.findSome? HookCall.error?

theorem firstFailure_append (calls later : List HookCall) :
    firstFailure (calls ++ later) = (firstFailure calls).or (firstFailure later) := List.findSome?_append

theorem firstFailure_singleton (hook : Hook) (failure : Option Failure) :
    firstFailure [⟨hook, failure⟩] = failure.map (Session.hookError hook) := by
  cases failure <;> rfl

/-- What the first failure is: the error of a hook that was called and failed. -/
theorem exists_of_firstFailure {calls : List HookCall} {error : SyncError} (h : firstFailure calls = some error) :
    ∃ call ∈ calls, ∃ failure, call.failure = some failure ∧ error = .hook call.hook failure.message := by
  obtain ⟨call, hmem, herror⟩ := List.exists_of_findSome?_eq_some h
  obtain ⟨failure, hfailure, heq⟩ := Option.map_eq_some_iff.mp herror
  exact ⟨call, hmem, failure, hfailure, heq.symm⟩

theorem firstFailure_eq_none_iff {calls : List HookCall} :
    firstFailure calls = none ↔ ∀ call ∈ calls, call.failure = none := by
  simp only [firstFailure, List.findSome?_eq_none_iff, HookCall.error?, Option.map_eq_none_iff]

/-- Whatever part of the run the hooks are shown, each of their calls around an action is added to the minutes. -/
structure Hooks.Notes (minutes : σ → List HookCall) (session : Session σ) (hooks : Hooks σ) : Prop where
  beforeNew : ∀ (hook : NewHook) (delta : Delta) (entity : Entity) (s : RunState σ) (world : σ),
    let called := hooks.beforeNew hook (session.profile s) delta entity world
    minutes called.2 = minutes world ++ [⟨.beforeNew hook, Effect.failure? called.1.1⟩]
  beforeExisting : ∀ (hook : ExistingHook) (delta : Delta) (entity : Entity) (s : RunState σ) (world : σ),
    let called := hooks.beforeExisting hook (session.profile s) delta entity world
    minutes called.2 = minutes world ++ [⟨.beforeExisting hook, Effect.failure? called.1⟩]
  after : ∀ (delta : Delta) (entity : Entity) (result : Result) (s : RunState σ) (world : σ),
    let called := hooks.after (session.profile s) delta entity result world
    minutes called.2 = minutes world ++ [⟨.after, Effect.failure? called.1⟩]

/-- The session without its hooks. -/
def Session.unhooked (session : Session σ) : Session σ := { session with engine := { session.engine with hooks := [] } }

theorem Session.unhooked_eq {session : Session σ} (h : session.engine.hooks = []) : session.unhooked = session := by
  unfold unhooked
  rw [← h]

/-- The hooks of the session take minutes, and nothing else touches them. -/
structure Session.Minutes (minutes : σ → List HookCall) (session : Session σ) : Prop where
  unhooked : session.unhooked.Keeps (Frame.unchanged minutes)
  hooks : ∀ hooks ∈ session.engine.hooks, hooks.Notes minutes session

/-! ## Minutes beside the world -/

/-- The observer who takes minutes of the hooks around actions. -/
def HookCall.observer : Observer HookCall where
  before := some fun _ hook _ answer => ⟨hook, Effect.failure? answer⟩
  after := some fun _ answer => ⟨.after, Effect.failure? answer⟩

/-- The session with minutes beside its world. -/
abbrev Session.minuted (session : Session σ) : Session (σ × List HookCall) := session.twin HookCall.observer

theorem Hooks.twin_notes (connector : Connector σ) (extension : Nat) (hooks : Hooks σ)
    (session : Session (σ × List HookCall)) :
    (hooks.twin HookCall.observer connector extension).Notes Prod.snd session where
  beforeNew _ _ _ _ _ := rfl
  beforeExisting _ _ _ _ _ := rfl
  after _ _ _ _ _ := rfl

/-- In the twin of a session, the hooks take minutes and nothing else touches them. -/
theorem Session.minuted_minutes (session : Session σ) : session.minuted.Minutes Prod.snd where
  unhooked :=
    { registry := session.engine.registry.keeps_within Lens.first_carries
      audit := fun _ => Lens.first_carries.keeps_zoom fun _ => trivial
      notifications := fun _ => Lens.first_carries.keeps_zoom fun _ => trivial
      find := fun _ _ => Lens.first_carries.keeps_zoom fun _ => trivial
      create := fun _ => Lens.first_carries.keeps_zoom fun _ => trivial
      update := fun _ _ _ => Lens.first_carries.keeps_zoom fun _ => trivial
      delete := fun _ _ => Lens.first_carries.keeps_zoom fun _ => trivial
      correlation := fun _ _ => Lens.first_carries.keeps_zoom fun _ => trivial
      hooks := fun _ hmem => absurd hmem List.not_mem_nil
      connector := session.resource.connector.keeps_anything.within Lens.first_carries }
  hooks hooks hmem := by
    obtain ⟨extension, hooks, -, rfl⟩ := Hooks.of_mem_twins hmem
    exact hooks.twin_notes _ _ _

end Reconciliation

end Provisioning
