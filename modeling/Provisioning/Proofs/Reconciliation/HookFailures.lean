import Provisioning.Proofs.Memory.Premises
import Provisioning.Proofs.Reconciliation.Encounters
import Provisioning.Proofs.Reconciliation.Minutes
set_option autoImplicit false

/-!
# Failures of hooks

Nothing but a failed hook aborts the handling of a delta, and even that only where the task lets hooks abort the
run.  The hooks that are called take minutes: each call is written down with its failure.  Handling a delta then
fails with the first failure in the minutes, if the task heeds it, and else goes on to the end.
-/

namespace Provisioning

open Reconciliation

variable {σ α β : Type}

namespace Reconciliation.Session

/-- The failure that the task lets abort the run. -/
def heeded (session : Session σ) (failure : Option SyncError) : Option SyncError :=
  match session.task.hookScope with
  | .run => failure
  | .delta => none

variable {session : Session σ}

@[simp] theorem heeded_none : session.heeded none = none := by
  unfold heeded
  cases session.task.hookScope <;> rfl

theorem heeded_or (failure later : Option SyncError) :
    session.heeded (failure.or later) = (session.heeded failure).or (session.heeded later) := by
  unfold heeded
  cases session.task.hookScope <;> rfl

/-! ## What a step makes of the failures of hooks -/

/-- The calls of a step are what it adds to the minutes, wherever these are taken. -/
def Calls (session : Session σ) (step : Step σ α) (s : RunState σ) (calls : List HookCall) : Prop :=
  ∀ minutes, session.Minutes minutes → minutes (step s).2.world = minutes s.world ++ calls

/-- The answer of a step fits the first failure of a hook, be it a `past` one or one of its own calls. -/
def Leads (session : Session σ) (past : Option SyncError) (fits : Option SyncError → α → Prop) (step : Step σ α) :
    Prop :=
  ∀ s, ∃ calls, session.Calls step s calls ∧ fits (past.or (firstFailure calls)) (step s).1

variable {past : Option SyncError} {fits : Option SyncError → α → Prop} {step : Step σ α}

/-- A step without calls answers on account of the past failure. -/
theorem leads_of_recording
    (hkeeps : ∀ minutes, session.Minutes minutes → (Frame.unchanged minutes).recording.Keeps step)
    (hfits : ∀ s, fits past (step s).1) : session.Leads past fits step := by
  intro s
  refine ⟨[], fun minutes hminutes => ?_, ?_⟩
  · rw [List.append_nil]
    exact (hkeeps minutes hminutes s).1
  · rw [firstFailure, List.findSome?_nil, Option.or_none]
    exact hfits s

theorem leads_pure {a : α} (h : fits past a) : session.Leads past fits (pure a) :=
  leads_of_recording (fun _ _ => Frame.keeps_pure a) fun _ => h

/-- A step without calls, whatever it answers, leaves the past failure as it is. -/
theorem leads_aside (hkeeps : ∀ minutes, session.Minutes minutes → (Frame.unchanged minutes).aside.Keeps step) :
    session.Leads past (fun failure _ => failure = past) step :=
  leads_of_recording (fun minutes hminutes => keeps_recording (hkeeps minutes hminutes)) fun _ => rfl

/-- What follows a step is led by the failure that its answer fits. -/
theorem Leads.bind {next : α → Step σ β} {fits' : Option SyncError → β → Prop} (h : session.Leads past fits step)
    (hnext : ∀ a failure, fits failure a → session.Leads failure fits' (next a)) :
    session.Leads past fits' (step >>= next) := by
  intro s
  obtain ⟨calls, hcalls, hfits⟩ := h s
  obtain ⟨later, hlater, hfits'⟩ := hnext _ _ hfits (step s).2
  refine ⟨calls ++ later, fun minutes hminutes => ?_, ?_⟩
  · rw [bind_apply, hlater minutes hminutes, hcalls minutes hminutes, List.append_assoc]
  · rw [firstFailure_append, ← Option.or_assoc]
    exact hfits'

/-- An earlier failure comes before those of the step. -/
theorem Leads.following (h : session.Leads none fits step) (past : Option SyncError) :
    session.Leads past (fun failure a => ∃ later, fits later a ∧ failure = past.or later) step := by
  intro s
  obtain ⟨calls, hcalls, hfits⟩ := h s
  exact ⟨calls, hcalls, firstFailure calls, hfits, rfl⟩

/-- One call of a hook that takes minutes. -/
theorem leads_call {operation : StateM σ α} (hook : Hook) (ends : α → Option Failure)
    (h : ∀ minutes, session.Minutes minutes → ∀ world,
      minutes (operation world).2 = minutes world ++ [⟨hook, ends (operation world).1⟩]) :
    session.Leads none (fun failure a => failure = (ends a).map (hookError hook)) (onWorld operation) := by
  intro s
  refine ⟨[⟨hook, ends (operation s.world).1⟩], fun minutes hminutes => h minutes hminutes s.world, ?_⟩
  rw [Option.none_or, firstFailure_singleton]
  rfl

/-! ## Hooks -/

theorem beforeExisting_cons (hook : ExistingHook) (entity : Entity) (one : Hooks σ) (rest : List (Hooks σ))
    (delta : Delta) :
    session.beforeExisting hook entity (one :: rest) delta = (do
      match ← onWorld (one.beforeExisting hook (session.profile (← get)) delta entity) with
      | .error failure => pure (.error (hookError (.beforeExisting hook) failure))
      | .ok delta' => session.beforeExisting hook entity rest delta') := by
  funext s
  simp only [beforeExisting, bind_apply, get_apply]
  generalize onWorld _ s = called
  obtain ⟨answer, s'⟩ := called
  cases answer <;> rfl

section Hooks

variable {hooks : List (Hooks σ)} (hmem : ∀ one ∈ hooks, one ∈ session.engine.hooks)

include hmem

theorem leads_beforeNew (hook : NewHook) (delta : Delta) (entity : Entity) :
    session.Leads none (fun failure answer => failure = Effect.failure? answer.1)
      (session.beforeNew hook hooks delta entity) := by
  induction hooks generalizing delta entity with
  | nil => exact leads_pure rfl
  | cons one rest ih =>
    unfold beforeNew
    refine (leads_aside fun _ _ => Frame.keeps_get).bind fun s _ hfailure => hfailure ▸ ?_
    refine (leads_call (.beforeNew hook) (fun answer => Effect.failure? answer.1) fun _ hminutes world => ?_).bind ?_
    · exact (hminutes.hooks one (hmem one List.mem_cons_self)).beforeNew hook delta entity s world
    · rintro ⟨answer, entity'⟩ failure rfl
      cases answer with
      | error failure => exact leads_pure rfl
      | ok delta' => exact ih (fun other hother => hmem other (List.mem_cons_of_mem one hother)) delta' entity'

theorem leads_beforeExisting (hook : ExistingHook) (entity : Entity) (delta : Delta) :
    session.Leads none (fun failure answer => failure = Effect.failure? answer)
      (session.beforeExisting hook entity hooks delta) := by
  induction hooks generalizing delta with
  | nil => exact leads_pure rfl
  | cons one rest ih =>
    rw [beforeExisting_cons]
    refine (leads_aside fun _ _ => Frame.keeps_get).bind fun s _ hfailure => hfailure ▸ ?_
    refine (leads_call (.beforeExisting hook) Effect.failure? fun minutes hminutes world => ?_).bind ?_
    · exact (hminutes.hooks one (hmem one List.mem_cons_self)).beforeExisting hook delta entity s world
    · rintro answer failure rfl
      cases answer with
      | error failure => exact leads_pure rfl
      | ok delta' => exact ih (fun other hother => hmem other (List.mem_cons_of_mem one hother)) delta'

/-- All the hooks after an action are called; the answer is the first failure among them. -/
theorem leads_runAfter (delta : Delta) (entity : Entity) (result : Result) :
    session.Leads none (fun failure answer => failure = answer) (session.runAfter delta entity result hooks) := by
  induction hooks with
  | nil => exact leads_pure rfl
  | cons one rest ih =>
    unfold runAfter
    refine (leads_aside fun _ _ => Frame.keeps_get).bind fun s _ hfailure => hfailure ▸ ?_
    refine (leads_call .after Effect.failure? fun minutes hminutes world => ?_).bind fun answer failure hanswer => ?_
    · exact (hminutes.hooks one (hmem one List.mem_cons_self)).after delta entity result s world
    · have hrest := ih fun other hother => hmem other (List.mem_cons_of_mem one hother)
      refine (hrest.following failure).bind ?_
      rintro later both ⟨_, rfl, rfl⟩
      subst hanswer
      cases answer <;> exact leads_pure rfl

end Hooks

/-! ## Actions -/

/-- The answer of a step that may abort the run fits the failure that the task heeds. -/
def Heeds (session : Session σ) (failure : Option SyncError) (answer : Except SyncError Unit) : Prop :=
  Effect.failure? answer = session.heeded failure

theorem heeds_ok : session.Heeds none (.ok ()) := heeded_none.symm

theorem leads_hookFailed (error : SyncError) (result : Result) :
    session.Leads (some error) session.Heeds (session.hookFailed error result) := by
  refine leads_of_recording (fun minutes hminutes => ?_) fun s => ?_
  · exact (keeps_hookFailed hminutes.unhooked.toQuiet error result :)
  · unfold hookFailed Heeds heeded
    cases session.task.hookScope <;> rfl

theorem leads_finish (delta : Delta) (entity : Entity) (result : Result) :
    session.Leads none session.Heeds (session.finish delta entity result) := by
  refine (leads_runAfter (fun _ hmem => hmem) delta entity result).bind ?_
  rintro _ failed rfl
  have hrecord : session.Leads failed (fun failure _ => failure = failed) (session.record result) :=
    leads_of_recording (fun _ hminutes => (keeps_record hminutes.unhooked.toQuiet result :)) fun _ => rfl
  refine hrecord.bind ?_
  rintro _ failed rfl
  refine leads_of_recording (fun minutes _ => ?_) fun s => ?_
  · split <;> exact Frame.keeps_pure _
  · unfold Heeds heeded
    cases failed <;> cases session.task.hookScope <;> rfl

theorem leads_actOn (hook : ExistingHook) (base : Result) (delta : Delta) (entity : Entity)
    {act : Delta → Step σ (Option Result)}
    (hact : ∀ delta minutes, session.Minutes minutes → (Frame.unchanged minutes).aside.Keeps (act delta)) :
    session.Leads none session.Heeds (session.actOn hook base delta entity act) := by
  refine (leads_beforeExisting (fun _ hmem => hmem) hook entity delta).bind ?_
  rintro answer _ rfl
  cases answer with
  | error error => exact leads_hookFailed error base
  | ok delta' =>
    dsimp only
    split
    · exact leads_finish delta' entity base
    · refine (leads_aside (hact delta')).bind ?_
      rintro outcome _ rfl
      cases outcome with
      | none => exact leads_pure heeds_ok
      | some result => exact leads_finish delta' entity result

theorem leads_applyRule (delta : Delta) (entity : Entity) :
    session.Leads none session.Heeds (session.applyRule delta entity) := by
  unfold applyRule
  dsimp only
  split
  · refine leads_of_recording (fun minutes hminutes => ?_) fun _ => heeds_ok
    have hrecord := keeps_record hminutes.unhooked.toQuiet (session.result .none entity.id entity.name)
    exact hrecord.bind fun _ => Frame.keeps_pure _
  · exact leads_actOn _ _ _ _ fun delta' _ hminutes => (keeps_update hminutes.unhooked entity _ delta' :)
  · exact leads_actOn _ _ _ _ fun _ _ hminutes =>
      ((keeps_deprovision hminutes.unhooked.toQuiet entity _).map some :)
  · exact leads_actOn _ _ _ _ fun _ _ hminutes => (keeps_unassign hminutes.unhooked entity _ :)
  · exact leads_actOn _ _ _ _ fun _ _ hminutes => (keeps_relink hminutes.unhooked entity _ _ :)
  · exact leads_actOn _ _ _ _ fun _ _ hminutes => (keeps_relink hminutes.unhooked entity _ _ :)

theorem leads_create (hook : NewHook) (delta : Delta) :
    session.Leads none session.Heeds (session.create hook delta) := by
  refine (leads_beforeNew (fun _ hmem => hmem) hook delta _).bind ?_
  rintro ⟨answer, entity⟩ _ rfl
  cases answer with
  | error error => exact leads_hookFailed error _
  | ok delta' =>
    dsimp only
    split
    · exact leads_finish delta' entity _
    · refine (leads_aside fun _ hminutes => keeps_onWorld (hminutes.unhooked.create entity)).bind ?_
      rintro answer _ rfl
      cases answer with
      | ok report =>
        refine (leads_aside fun _ hminutes => (keeps_propagate hminutes.unhooked.toQuiet _ :)).bind ?_
        rintro _ _ rfl
        exact leads_finish delta' _ _
      | error error =>
        dsimp only
        split
        · exact leads_pure heeds_ok
        · exact leads_finish delta' entity _

/-! ## Deltas -/

theorem leads_load (id : Nat) : session.Leads none (fun failure _ => failure = none) (session.load id) :=
  leads_aside fun _ hminutes => (keeps_load hminutes.unhooked.attends id :)

theorem leads_meet (delta : Delta) (subject : Subject) :
    session.Leads none session.Heeds (session.meet delta subject) := by
  cases subject with
  | unknown hook => exact leads_create hook delta
  | present id =>
    refine (leads_load id).bind ?_
    rintro found _ rfl
    cases found with
    | none => exact leads_pure heeds_ok
    | some entity => exact leads_applyRule delta entity
  | gone id =>
    refine (leads_load id).bind ?_
    rintro found _ rfl
    cases found with
    | none => exact leads_pure heeds_ok
    | some entity =>
      exact leads_actOn _ _ _ _ fun _ _ hminutes => (keeps_remove hminutes.unhooked entity id _ :)

/-- A step that is gone on from only if it succeeds.  An error of it is the failure that the task heeds, and after a
success no failure has been heeded yet. -/
theorem Leads.andThen {first : Step σ (Except SyncError Unit)} {next : Unit → Step σ (Except SyncError Unit)}
    (h : session.Leads none session.Heeds first) (hnext : ∀ a, session.Leads none session.Heeds (next a)) :
    session.Leads none session.Heeds (Effect.andThen first next) := by
  intro s
  obtain ⟨calls, hcalls, hheeds⟩ := h s
  unfold Calls
  simp only [Effect.andThen_apply]
  cases hanswer : (first s).1 with
  | error error =>
    rw [hanswer] at hheeds
    exact ⟨calls, hcalls, hheeds⟩
  | ok a =>
    rw [hanswer, Option.none_or] at hheeds
    obtain ⟨later, hlater, hnextHeeds⟩ := hnext a (first s).2
    refine ⟨calls ++ later, fun minutes hminutes => ?_, ?_⟩
    · rw [hlater minutes hminutes, hcalls minutes hminutes, List.append_assoc]
    · have hunheeded : none = session.heeded (firstFailure calls) := hheeds
      rw [Option.none_or, firstFailure_append, Heeds, heeded_or, ← hunheeded, Option.none_or]
      exact hnextHeeds

theorem leads_forEach {handle : α → Step σ (Except SyncError Unit)}
    (h : ∀ a, session.Leads none session.Heeds (handle a)) (items : List α) :
    session.Leads none session.Heeds (forEach handle items) := by
  induction items with
  | nil => exact leads_pure heeds_ok
  | cons a rest ih => exact (h a).andThen fun _ => ih

/-- Meet the subjects of a delta, if it could be correlated. -/
def meetAll (session : Session σ) (delta : Delta) : Except SyncError (List Nat) → Step σ (Except SyncError Unit)
  | .error _ => Effect.ok ()
  | .ok ids => forEach (session.meet delta) (session.subjects delta ids)

theorem handle_eq_meetAll (delta : Delta) :
    session.handle delta = session.correlate delta >>= session.meetAll delta := by
  funext s
  rw [handle_eq_forEach_meet, bind_apply]
  obtain ⟨answer, s'⟩ := session.correlate delta s
  cases answer <;> rfl

theorem leads_handle (delta : Delta) : session.Leads none session.Heeds (session.handle delta) := by
  rw [handle_eq_meetAll]
  refine (leads_aside fun _ hminutes => (keeps_correlate hminutes.unhooked.attends delta :)).bind ?_
  rintro answer _ rfl
  cases answer with
  | error error => exact leads_pure heeds_ok
  | ok ids => exact leads_forEach (leads_meet delta) _

/-! ## What fails, and what does not -/

theorem Heeds.of_error {failure : Option SyncError} {error : SyncError} (h : session.Heeds failure (.error error)) :
    session.task.hookScope = .run ∧ failure = some error := by
  unfold Heeds heeded at h
  cases hscope : session.task.hookScope with
  | run =>
    rw [hscope] at h
    exact ⟨rfl, h.symm⟩
  | delta =>
    rw [hscope] at h
    cases h

theorem Heeds.of_ok {failure : Option SyncError} (h : session.Heeds failure (.ok ()))
    (hscope : session.task.hookScope = .run) : failure = none := by
  unfold Heeds heeded at h
  rw [hscope] at h
  exact h.symm

/-- What the task does not let hooks abort goes on to the end. -/
theorem ok_of_leads {step : Step σ (Except SyncError Unit)} (h : session.Leads none session.Heeds step)
    (hscope : session.task.hookScope = .delta) (s : RunState σ) : (step s).1 = .ok () := by
  obtain ⟨calls, -, hheeds⟩ := h s
  cases hanswer : (step s).1 with
  | ok _ => rfl
  | error error =>
    rw [hanswer] at hheeds
    cases hscope.symm.trans hheeds.of_error.1

/-- An answer that fits the first failure among some calls is an error exactly if the task lets hooks abort the run and
one of the calls failed, and then it is this first failure. -/
theorem Heeds.error_iff {calls : List HookCall} {answer : Except SyncError Unit}
    (h : session.Heeds (firstFailure calls) answer) :
    ((∃ error, answer = .error error) ↔ session.task.hookScope = .run ∧ ∃ call ∈ calls, call.failure ≠ none) ∧
      ∀ error, answer = .error error → firstFailure calls = some error ∧ ∃ hook detail, error = .hook hook detail := by
  cases answer with
  | error error =>
    obtain ⟨hscope, hfirst⟩ := h.of_error
    obtain ⟨call, hmem, failure, hfailure, rfl⟩ := exists_of_firstFailure hfirst
    have hfailed : call.failure ≠ none := by
      rw [hfailure]
      exact Option.some_ne_none failure
    refine ⟨⟨fun _ => ⟨hscope, call, hmem, hfailed⟩, fun _ => ⟨_, rfl⟩⟩, fun other hother => ?_⟩
    cases hother
    exact ⟨hfirst, call.hook, failure.message, rfl⟩
  | ok _ =>
    refine ⟨⟨?_, ?_⟩, ?_⟩
    · rintro ⟨_, herror⟩
      cases herror
    · rintro ⟨hscope, call, hmem, hfailed⟩
      exact absurd (firstFailure_eq_none_iff.mp (h.of_ok hscope) call hmem) hfailed
    · intro _ herror
      cases herror

/-- Handling a delta fails with nothing but the error of a hook. -/
theorem hook_of_handle_error {delta : Delta} {s : RunState σ} {error : SyncError}
    (h : (session.handle delta s).1 = .error error) : ∃ hook detail, error = .hook hook detail := by
  obtain ⟨calls, -, hheeds⟩ := leads_handle delta s
  rw [Option.none_or, h] at hheeds
  exact (hheeds.error_iff.2 error rfl).2

/-- Handling a delta goes the same way with minutes of its hooks, and by these it fails exactly if the task lets hooks
abort the run and a hook that was called failed, and then with the first of these failures.  To handle a delta is to
meet its subjects, once it is correlated.  If the task lets no hook abort the run, every delta of a stream is handled,
and every subject of a delta met, whatever fails on the way. -/
theorem handle_isolates_failures (session : Session σ) (delta : Delta) (s : RunState σ) :
    let handled := session.handle delta s
    let minuted := session.minuted.handle delta (s.beside [])
    let calls := minuted.2.world.2
    (minuted.1 = handled.1 ∧ minuted.2.world.1 = handled.2.world) ∧
      ((∃ error, handled.1 = .error error) ↔
        session.task.hookScope = .run ∧ ∃ call ∈ calls, call.failure ≠ none) ∧
      (∀ error, handled.1 = .error error →
        firstFailure calls = some error ∧ ∃ hook detail, error = .hook hook detail) ∧
      (handled =
        match session.correlate delta s with
        | (.error _, s') => (.ok (), s')
        | (.ok ids, s') => forEach (session.meet delta) (session.subjects delta ids) s') ∧
      (session.task.hookScope = .delta →
        (∀ deltas, (trail session.receive deltas s).map Prod.fst = deltas) ∧
        ∀ ids s', session.correlate delta s = (.ok ids, s') →
          (trail (session.meet delta) (session.subjects delta ids) s').map Prod.fst = session.subjects delta ids) := by
  intro handled minuted calls
  obtain ⟨hsame, hafter⟩ := session.handle_twin HookCall.observer delta s []
  have hleads : session.minuted.Leads none session.minuted.Heeds (session.minuted.handle delta) := leads_handle delta
  obtain ⟨_, hcalls, hheeds⟩ := hleads (s.beside [])
  have hall : calls = [] ++ _ := hcalls Prod.snd session.minuted_minutes
  rw [List.nil_append] at hall
  have hanswer : minuted.1 = handled.1 := hsame.symm
  rw [Option.none_or, ← hall, hanswer] at hheeds
  have hown : session.Heeds (firstFailure calls) handled.1 := hheeds
  obtain ⟨hfails, hfirst⟩ := hown.error_iff
  refine ⟨⟨hanswer, hafter.world⟩, hfails, hfirst, handle_eq_forEach_meet session delta s, fun hscope =>
    ⟨fun deltas => ?_, fun ids s' _ => ?_⟩⟩
  · refine (forEach_of_trail_ok fun pair _ => ?_).2
    exact ok_of_leads (leads_handle pair.1) hscope _
  · refine (forEach_of_trail_ok fun pair _ => ?_).2
    exact ok_of_leads (leads_meet delta pair.1) hscope pair.2

end Reconciliation.Session

/-- An extension that lets no newcomer in aborts the run, if it may, and the minutes tell why. -/
example :
    let doorkeeper : Hooks Memory.Premises :=
      { beforeNew := fun _ _ _ entity => pure (.error ⟨["no admission"]⟩, entity) }
    let resource := Memory.Premises.resource ((Memory.Directory.connector "directory" "uid").within
      Memory.Premises.directoryLens)
    let session : Session Memory.Premises :=
      { engine := { Memory.Premises.engine (Registry.insert {} resource) with hooks := [doorkeeper] }
        task := { name := "import", resource := "directory", subjectType := .user, hookScope := .run }
        resource
        mapping := Memory.Premises.userMapping }
    let handled := session.minuted.handle { uid := "bob", objectClass := "account" } { world := ({}, []) }
    handled.1 = .error (.hook (.beforeNew .create) "no admission") ∧
      handled.2.world.2 = [⟨.beforeNew .create, some ⟨["no admission"]⟩⟩] := by
  decide +kernel

end Provisioning
