import Provisioning.Proofs.Reconciliation.Stream
set_option autoImplicit false

/-!
# What makes a run fail

Once a run has found its resource and its mapping, it fails with nothing but the error of a connector, of a hook or of
the token store.  So a run fails for want of a mapping exactly if it does not get to its first phase.
-/

namespace Provisioning

/-! ## Kinds of errors -/

namespace Effect

variable {σ ε α β : Type} {kind : ε → Prop}

/-- Every error of the operation is of the kind. -/
def FailsAs (kind : ε → Prop) (effect : Effect σ ε α) : Prop :=
  ∀ s error, (effect s).1 = .error error → kind error

theorem failsAs_ok (a : α) : FailsAs kind (ok a : Effect σ ε α) := by
  intro s error herror
  cases herror

theorem failsAs_fail {e : ε} (h : kind e) : FailsAs kind (fail e : Effect σ ε α) := by
  intro s error herror
  cases herror
  exact h

/-- Only what comes last can fail. -/
theorem failsAs_bind {operation : StateM σ β} {next : β → StateM σ (Except ε α)}
    (h : ∀ b, FailsAs kind (next b)) : FailsAs kind (operation >>= next : StateM σ (Except ε α)) :=
  fun s error herror => h (operation s).1 (operation s).2 error herror

theorem FailsAs.andThen {effect : Effect σ ε α} {next : α → Effect σ ε β} (h : FailsAs kind effect)
    (hnext : ∀ a, FailsAs kind (next a)) : FailsAs kind (effect.andThen next) := by
  intro s error herror
  rw [andThen_apply] at herror
  cases hanswer : (effect s).1 with
  | ok a =>
    rw [hanswer] at herror
    exact hnext a _ error herror
  | error error' =>
    rw [hanswer] at herror
    cases herror
    exact h s error hanswer

end Effect

open Effect

/-- The error can end a run that has found its resource and its mapping. -/
def SyncError.Fatal : SyncError → Prop
  | .connector _ | .hook .. | .other _ => True
  | _ => False

namespace Reconciliation

variable {σ α : Type}

namespace Session

variable {session : Session σ}

theorem failsAs_forEach {kind : SyncError → Prop} {handle : α → Step σ (Except SyncError Unit)}
    (h : ∀ a, FailsAs kind (handle a)) (items : List α) : FailsAs kind (forEach handle items) := by
  induction items with
  | nil => exact failsAs_ok ()
  | cons a rest ih => exact (h a).andThen fun _ => ih

theorem fatal_runOnce (hook : Hook) (call : Hooks σ → Profile σ → Effect σ Failure Unit)
    (hooks : List (Hooks σ)) :
    FailsAs SyncError.Fatal (session.runOnce hook call hooks) := by
  induction hooks with
  | nil => exact failsAs_ok ()
  | cons one rest ih =>
    intro s error herror
    unfold runOnce at herror
    split at herror
    · cases herror
      trivial
    · exact ih _ error herror

theorem fatal_locate : FailsAs SyncError.Fatal session.locate := by
  unfold locate
  split
  · exact failsAs_ok ({} : Position)
  · refine failsAs_bind fun loaded => ?_
    cases loaded with
    | error _ => exact failsAs_fail trivial
    | ok stored =>
      refine failsAs_bind fun asked => ?_
      cases asked with
      | error error => exact failsAs_fail trivial
      | ok latest => exact failsAs_ok (⟨stored, latest⟩ : Position)

theorem fatal_consume (emission : Emission) : FailsAs SyncError.Fatal (session.consume emission) := by
  intro s error herror
  rw [consume_eq] at herror
  dsimp only at herror
  cases hhandled : (forEach session.receive emission.deltas s).1 with
  | error handling =>
    rw [hhandled] at herror
    cases herror
    refine failsAs_forEach (fun delta s error herror => ?_) emission.deltas s error hhandled
    obtain ⟨hook, detail, rfl⟩ := receive_error herror
    trivial
  | ok _ =>
    rw [hhandled] at herror
    cases houtcome : emission.outcome with
    | ok _ =>
      rw [houtcome] at herror
      cases herror
    | error failure =>
      rw [houtcome] at herror
      cases herror
      trivial

theorem fatal_persist (latest : Option SyncToken) : FailsAs SyncError.Fatal (session.persist latest) := by
  unfold persist
  cases latest with
  | none => exact failsAs_ok none
  | some token =>
    dsimp only
    split
    · exact failsAs_ok none
    · refine failsAs_bind fun stored => ?_
      cases stored with
      | error _ => exact failsAs_fail trivial
      | ok _ => exact failsAs_ok (some token)

/-- The phases of a run fail with fatal errors alone. -/
theorem fatal_phases (session : Session σ) : FailsAs SyncError.Fatal session.phases := by
  refine (fatal_runOnce _ _ _).andThen fun _ => fatal_locate.andThen fun position => ?_
  refine FailsAs.andThen (fun s => fatal_consume _ _) fun _ => ?_
  exact (fatal_runOnce _ _ _).andThen fun _ => fatal_persist position.latest

end Session

namespace Engine

variable {engine : Engine σ} {task : SyncTask} {world : σ}

/-- A run fails for want of a mapping exactly if its resource or its mapping is not found. -/
theorem run_mapping_error_iff {error : MappingError} :
    (engine.run task world).1 = .error (.mapping error) ↔
      engine.registry.lookup task.resource task.subjectType = .error error := by
  change (engine.start task world).1 = .error (.mapping error) ↔ _
  cases hlookup : engine.registry.lookup task.resource task.subjectType with
  | error error' => simp only [start_error hlookup, Except.error.injEq, SyncError.mapping.injEq]
  | ok found =>
    refine ⟨fun herror => ?_, fun herror => by cases herror⟩
    rw [start_eq hlookup] at herror
    cases hphases : (Session.phases { engine, task, resource := found.1, mapping := found.2 } { world }).1 with
    | ok token => simp only [hphases, Except.map, reduceCtorEq] at herror
    | error fatal =>
      have hfatal := Session.fatal_phases _ _ fatal hphases
      simp only [hphases, Except.map, Except.error.injEq] at herror
      subst herror
      exact hfatal.elim

end Engine

end Reconciliation

end Provisioning
