import Mathlib.Data.List.Chain
import Provisioning.Proofs.Reconciliation.Pull
set_option autoImplicit false

/-!
# Encounters

Handling a delta comes down to encounters: the delta meets the correlated entities one after the other, or an
object that is not known yet.  Nothing but an encounter records a result.  So what a run records is what its
encounters record, in their order, and the same goes for every other list that only encounters append to.
-/

namespace Provisioning

variable {σ α β : Type}

/-! ## What is appended to a list -/

/-- The frame of what only appends to a list. -/
def Frame.appending (part : σ → List β) : Frame σ where
  Rel s t := part s <+: part t
  refl _ := List.prefix_rfl
  trans h h' := h.trans h'

/-- What an operation appends to a list. -/
def appended (part : σ → List β) (operation : StateM σ α) (s : σ) : List β :=
  (part (operation s).2).drop (part s).length

theorem appended_eq {part : σ → List β} {operation : StateM σ α} {s : σ} {new : List β}
    (h : part (operation s).2 = part s ++ new) : appended part operation s = new := by
  rw [appended, h, List.drop_left]

theorem Frame.Keeps.append_appended {part : σ → List β} {operation : StateM σ α}
    (h : (Frame.appending part).Keeps operation) (s : σ) :
    part (operation s).2 = part s ++ appended part operation s := by
  obtain ⟨new, hnew⟩ := h s
  rw [appended_eq hnew.symm, hnew]

namespace Effect

variable {ε γ : Type}

/-- What comes of an operation that succeeded; nothing comes of one that failed. -/
def onSuccess (answered : Except ε α × σ) (gives : α → σ → List β) : List β :=
  match answered with
  | (.ok a, s) => gives a s
  | (.error _, _) => []

theorem exists_of_mem_onSuccess {answered : Except ε α × σ} {gives : α → σ → List β} {b : β}
    (h : b ∈ onSuccess answered gives) : ∃ a, answered.1 = .ok a ∧ b ∈ gives a answered.2 := by
  obtain ⟨answer, s⟩ := answered
  cases answer with
  | ok a => exact ⟨a, rfl, h⟩
  | error error => cases h

theorem flatMap_onSuccess (answered : Except ε α × σ) (gives : α → σ → List β) (f : β → List γ) :
    (onSuccess answered gives).flatMap f = onSuccess answered fun a s => (gives a s).flatMap f := by
  obtain ⟨answer, s⟩ := answered
  cases answer <;> rfl

variable {part : σ → List β} {first : Effect σ ε α} {next : α → Effect σ ε γ} {gives : α → σ → List β}

theorem andThen_appended (hfirst : (Frame.appending part).Keeps first)
    (hnext : ∀ a s, part (next a s).2 = part s ++ gives a s) (s : σ) :
    part (first.andThen next s).2 = part s ++ (appended part first s ++ onSuccess (first s) gives) := by
  have happended := hfirst.append_appended s
  simp only [andThen, onSuccess]
  generalize appended part first s = new at happended ⊢
  generalize first s = answered at happended ⊢
  obtain ⟨answer, s'⟩ := answered
  cases answer with
  | error error => simpa using happended
  | ok a => rw [hnext, happended, List.append_assoc]

theorem andThen_of_unchanged (hfirst : (Frame.unchanged part).Keeps first)
    (hnext : ∀ a s, part (next a s).2 = part s ++ gives a s) (s : σ) :
    part (first.andThen next s).2 = part s ++ onSuccess (first s) gives := by
  have hsame : ∀ s, part (first s).2 = part s ++ [] := fun s => (hfirst s).trans (List.append_nil _).symm
  have hboth := andThen_appended (fun s => ⟨[], (hsame s).symm⟩) hnext s
  rwa [appended_eq (hsame s), List.nil_append] at hboth

theorem andThen_unchanged (hnext : ∀ a, (Frame.unchanged part).Keeps (next a)) (s : σ) :
    part (first.andThen next s).2 = part (first s).2 := by
  simp only [andThen]
  generalize first s = answered
  obtain ⟨answer, s'⟩ := answered
  cases answer with
  | error error => rfl
  | ok a => exact hnext a s'

end Effect

namespace Reconciliation

/-! ## The items of a loop -/

namespace Session

/-- The items that a loop handles, each with the state in which it is handled. -/
def trail (handle : α → Step σ (Except SyncError Unit)) : List α → RunState σ → List (α × RunState σ)
  | [], _ => []
  | a :: rest, s => (a, s) :: Effect.onSuccess (handle a s) fun _ => trail handle rest

/-- A loop appends what its steps append, one after the other. -/
theorem forEach_appended {part : RunState σ → List β} {handle : α → Step σ (Except SyncError Unit)}
    (h : ∀ a, (Frame.appending part).Keeps (handle a)) (items : List α) (s : RunState σ) :
    part (forEach handle items s).2 =
      part s ++ (trail handle items s).flatMap fun pair => appended part (handle pair.1) pair.2 := by
  induction items generalizing s with
  | nil => exact (List.append_nil _).symm
  | cons a rest ih =>
    simp only [trail, List.flatMap_cons, Effect.flatMap_onSuccess]
    exact Effect.andThen_appended (h a) (fun _ => ih) s

theorem trail_cons_ok {handle : α → Step σ (Except SyncError Unit)} {a : α} {s s' : RunState σ} {answer : Unit}
    (h : handle a s = (.ok answer, s')) (rest : List α) :
    trail handle (a :: rest) s = (a, s) :: trail handle rest s' := by
  simp only [trail, h, Effect.onSuccess]

theorem trail_cons_error {handle : α → Step σ (Except SyncError Unit)} {a : α} {s s' : RunState σ} {error : SyncError}
    (h : handle a s = (.error error, s')) (rest : List α) : trail handle (a :: rest) s = [(a, s)] := by
  simp only [trail, h, Effect.onSuccess]

theorem fst_mem_of_mem_trail {handle : α → Step σ (Except SyncError Unit)} {items : List α} {s : RunState σ}
    {pair : α × RunState σ} (h : pair ∈ trail handle items s) : pair.1 ∈ items := by
  induction items generalizing s with
  | nil => cases h
  | cons a rest ih =>
    rcases List.mem_cons.mp h with rfl | hrest
    · exact List.mem_cons_self
    · unfold Effect.onSuccess at hrest
      split at hrest
      · exact List.mem_cons_of_mem a (ih hrest)
      · cases hrest

/-- A loop goes on from where handling an item leaves it, unless that fails. -/
theorem isChain_trail (handle : α → Step σ (Except SyncError Unit)) (items : List α) (s : RunState σ) :
    (trail handle items s).IsChain fun earlier later => handle earlier.1 earlier.2 = (.ok (), later.2) := by
  induction items generalizing s with
  | nil => exact .nil
  | cons a rest ih =>
    cases hhandle : handle a s with
    | mk answer s' =>
      cases answer with
      | error error =>
        rw [trail_cons_error hhandle]
        exact .singleton _
      | ok _ =>
        rw [trail_cons_ok hhandle]
        refine List.isChain_cons.mpr ⟨fun next hnext => ?_, ih s'⟩
        cases rest with
        | nil => cases hnext
        | cons b rest =>
          cases hnext
          exact hhandle

/-- A loop in which nothing fails handles all of its items. -/
theorem forEach_of_trail_ok {handle : α → Step σ (Except SyncError Unit)} {items : List α} {s : RunState σ}
    (h : ∀ pair ∈ trail handle items s, (handle pair.1 pair.2).1 = .ok ()) :
    (forEach handle items s).1 = .ok () ∧ (trail handle items s).map Prod.fst = items := by
  induction items generalizing s with
  | nil => exact ⟨rfl, rfl⟩
  | cons a rest ih =>
    cases hhandle : handle a s with
    | mk answer s' =>
      have hok := h (a, s) List.mem_cons_self
      rw [hhandle] at hok
      cases hok
      rw [trail_cons_ok hhandle] at h ⊢
      obtain ⟨hrest, hitems⟩ := ih fun pair hmem => h pair (List.mem_cons_of_mem _ hmem)
      rw [forEach, Effect.andThen_apply, hhandle]
      exact ⟨hrest, congrArg (a :: ·) hitems⟩

/-- A loop ends with the item of which handling fails; the items after it are not handled. -/
theorem forEach_of_trail_error {handle : α → Step σ (Except SyncError Unit)} {items : List α} {s reached : RunState σ}
    {k : Nat} {a : α} {error : SyncError} (hreached : (trail handle items s)[k]? = some (a, reached))
    (herror : (handle a reached).1 = .error error) :
    forEach handle items s = (.error error, (handle a reached).2) ∧
      (trail handle items s).map Prod.fst = items.take (k + 1) := by
  induction items generalizing s k with
  | nil => cases hreached
  | cons first rest ih =>
    cases hhandle : handle first s with
    | mk answer s' =>
      cases answer with
      | error failure =>
        rw [trail_cons_error hhandle] at hreached ⊢
        obtain rfl : k = 0 := by
          have hlength := (List.getElem?_eq_some_iff.mp hreached).1
          rw [List.length_singleton] at hlength
          omega
        cases hreached
        rw [hhandle] at herror ⊢
        cases herror
        rw [forEach, Effect.andThen_apply, hhandle]
        exact ⟨rfl, rfl⟩
      | ok _ =>
        rw [trail_cons_ok hhandle] at hreached ⊢
        cases k with
        | zero =>
          cases hreached
          rw [hhandle] at herror
          cases herror
        | succ k =>
          obtain ⟨hrest, hitems⟩ := ih hreached
          rw [forEach, Effect.andThen_apply, hhandle]
          exact ⟨hrest, congrArg (first :: ·) hitems⟩

/-- A loop fails if handling one of its items does. -/
theorem forEach_error_of_mem_trail {handle : α → Step σ (Except SyncError Unit)} {items : List α} {s : RunState σ}
    {pair : α × RunState σ} (h : pair ∈ trail handle items s) {error : SyncError}
    (herror : (handle pair.1 pair.2).1 = .error error) : (forEach handle items s).1 = .error error := by
  obtain ⟨k, hk⟩ := List.mem_iff_getElem?.mp h
  exact congrArg Prod.fst (forEach_of_trail_error hk herror).1

/-- What each step of a loop keeps holds at every one of them, and after the loop. -/
theorem forEach_invariant {P : RunState σ → Prop} {handle : α → Step σ (Except SyncError Unit)} {items : List α}
    {s : RunState σ} (hstart : P s) (hstep : ∀ pair ∈ trail handle items s, P pair.2 → P (handle pair.1 pair.2).2) :
    (∀ pair ∈ trail handle items s, P pair.2) ∧ P (forEach handle items s).2 := by
  induction items generalizing s with
  | nil => exact ⟨fun _ hmem => (nomatch hmem), hstart⟩
  | cons a rest ih =>
    have hfirst := hstep (a, s) List.mem_cons_self hstart
    cases hhandle : handle a s with
    | mk answer s' =>
      rw [hhandle] at hfirst
      rw [forEach, Effect.andThen_apply, hhandle]
      cases answer with
      | error error =>
        rw [trail_cons_error hhandle]
        exact ⟨List.forall_mem_singleton.mpr hstart, hfirst⟩
      | ok _ =>
        rw [trail_cons_ok hhandle] at hstep ⊢
        obtain ⟨hrest, hend⟩ := ih hfirst fun pair hmem => hstep pair (List.mem_cons_of_mem _ hmem)
        exact ⟨List.forall_mem_cons.mpr ⟨hstart, hrest⟩, hend⟩

/-- Loops that do the same at every step do the same. -/
theorem forEach_congr {handle handle' : α → Step σ (Except SyncError Unit)} {items : List α} {s : RunState σ}
    (h : ∀ pair ∈ trail handle items s, handle' pair.1 pair.2 = handle pair.1 pair.2) :
    forEach handle' items s = forEach handle items s := by
  induction items generalizing s with
  | nil => rfl
  | cons a rest ih =>
    have hfirst : handle' a s = handle a s := h (a, s) List.mem_cons_self
    rw [forEach, forEach, Effect.andThen_apply, Effect.andThen_apply, hfirst]
    cases hhandle : handle a s with
    | mk answer s' =>
      cases answer with
      | error error => rfl
      | ok _ =>
        rw [trail_cons_ok hhandle] at h
        exact ih fun pair hmem => h pair (List.mem_cons_of_mem _ hmem)

theorem forEach_map (handle : β → Step σ (Except SyncError Unit)) (f : α → β) (items : List α) :
    forEach handle (items.map f) = forEach (fun a => handle (f a)) items := by
  induction items with
  | nil => rfl
  | cons a rest ih => rw [List.map_cons, forEach, ih, forEach]

theorem forEach_singleton (handle : α → Step σ (Except SyncError Unit)) (a : α) : forEach handle [a] = handle a := by
  funext s
  simp only [forEach, Effect.andThen]
  obtain ⟨answer, s'⟩ := handle a s
  cases answer <;> rfl

end Session

/-! ## What a delta meets -/

/-- What a delta meets. -/
inductive Subject where
  /-- An object that matches no entity and is received. -/
  | unknown (hook : NewHook)
  /-- An entity whose object was created or updated. -/
  | present (id : Nat)
  /-- An entity whose object was deleted. -/
  | gone (id : Nat)
  deriving DecidableEq, Repr

/-- The id of the entity that a delta meets, if it meets one. -/
def Subject.id? : Subject → Option Nat
  | .unknown _ => none
  | .present id | .gone id => some id

namespace Session

/-- Handle one of the matches. -/
def visit (session : Session σ) (delta : Delta) (id : Nat) : Step σ (Except SyncError Unit) := do
  match ← session.load id with
  | none => pure (.ok ())
  | some entity => session.applyRule delta entity

/-- What is done when a delta meets a subject. -/
def meet (session : Session σ) (delta : Delta) : Subject → Step σ (Except SyncError Unit)
  | .unknown hook => session.create hook delta
  | .present id => session.visit delta id
  | .gone id => do
    match ← session.load id with
    | none => pure (.ok ())
    | some entity =>
      let base := session.result .delete id entity.name
      session.actOn .delete base delta entity fun _ => session.remove entity id base

/-- How an unknown object is received, if it is. -/
def newHook? (session : Session σ) : Option NewHook :=
  if session.task.mayCreate then
    match session.task.unmatching with
    | .ignore => none
    | .assign => some .assign
    | .provision => some .create
  else none

/-- What a delta that is correlated to some ids meets. -/
def subjects (session : Session σ) (delta : Delta) (ids : List Nat) : List Subject :=
  match delta.kind, ids with
  | .createOrUpdate, [] => session.newHook?.toList.map .unknown
  | .createOrUpdate, ids => if session.task.mayUpdate then ids.map .present else []
  | .delete, ids => if session.task.mayDelete then ids.map .gone else []

/-- A delta meets nothing, one unknown object, or the entities that it is correlated to, all in the same way. -/
theorem subjects_cases (session : Session σ) (delta : Delta) (ids : List Nat) :
    session.subjects delta ids = [] ∨ (∃ hook, session.subjects delta ids = [.unknown hook]) ∨
      ∃ subject : Nat → Subject, (∀ id, (subject id).id? = some id) ∧
        session.subjects delta ids = ids.map subject := by
  unfold subjects
  split
  · cases session.newHook? with
    | none => exact .inl rfl
    | some hook => exact .inr (.inl ⟨hook, rfl⟩)
  · split
    · exact .inr (.inr ⟨.present, fun _ => rfl, rfl⟩)
    · exact .inl rfl
  · split
    · exact .inr (.inr ⟨.gone, fun _ => rfl, rfl⟩)
    · exact .inl rfl

theorem handleUnmatched_eq (session : Session σ) (delta : Delta) :
    session.handleUnmatched delta =
      match session.newHook? with
      | none => Effect.ok ()
      | some hook => session.create hook delta := by
  unfold handleUnmatched newHook?
  split
  · cases session.task.unmatching <;> rfl
  · rfl

theorem handleMatched_eq (session : Session σ) (delta : Delta) (ids : List Nat) :
    session.handleMatched delta ids =
      if session.task.mayUpdate then forEach (session.visit delta) ids else Effect.ok () := rfl

/-- Handling a delta is meeting its subjects, if it can be correlated. -/
theorem handle_eq_forEach_meet (session : Session σ) (delta : Delta) (s : RunState σ) :
    session.handle delta s =
      match session.correlate delta s with
      | (.error _, s') => (.ok (), s')
      | (.ok ids, s') => forEach (session.meet delta) (session.subjects delta ids) s' := by
  unfold handle
  rw [bind_apply]
  obtain ⟨answer, s'⟩ := session.correlate delta s
  cases answer with
  | error error => rfl
  | ok ids =>
    cases hkind : delta.kind with
    | createOrUpdate =>
      cases ids with
      | nil =>
        simp only [subjects, hkind, handleUnmatched_eq]
        cases session.newHook? with
        | none => rfl
        | some hook => exact (congrFun (forEach_singleton (session.meet delta) (.unknown hook)) s').symm
      | cons id rest =>
        simp only [subjects, hkind, handleMatched_eq]
        split
        · rw [forEach_map]
          rfl
        · rfl
    | delete =>
      simp only [subjects, hkind, handleDeleted]
      split
      · rw [forEach_map]
        rfl
      · rfl

end Session

/-- A delta meets a subject, in a state of a run. -/
structure Encounter (σ : Type) where
  session : Session σ
  delta : Delta
  subject : Subject
  before : RunState σ

namespace Encounter

/-- What is done in an encounter. -/
def step (encounter : Encounter σ) : Step σ (Except SyncError Unit) :=
  encounter.session.meet encounter.delta encounter.subject

/-- What an encounter appends to a list. -/
def appends (encounter : Encounter σ) (part : RunState σ → List β) : List β :=
  appended part encounter.step encounter.before

theorem appends_eq (encounter : Encounter σ) (part : RunState σ → List β) {new : List β}
    (h : part (encounter.step encounter.before).2 = part encounter.before ++ new) : encounter.appends part = new :=
  appended_eq h

/-- The results that an encounter records. -/
def recorded (encounter : Encounter σ) : List Result := encounter.appends RunState.results

end Encounter

namespace Session

/-- The encounters that the handling of a delta leads to. -/
def encounters (session : Session σ) (delta : Delta) (s : RunState σ) : List (Encounter σ) :=
  Effect.onSuccess (session.correlate delta s) fun ids s' =>
    (trail (session.meet delta) (session.subjects delta ids) s').map fun (subject, before) =>
      { session, delta, subject, before }

theorem session_of_mem_encounters {session : Session σ} {delta : Delta} {s : RunState σ} {encounter : Encounter σ}
    (h : encounter ∈ session.encounters delta s) :
    encounter.session = session ∧ encounter.delta = delta := by
  unfold encounters Effect.onSuccess at h
  split at h
  · obtain ⟨pair, -, rfl⟩ := List.mem_map.mp h
    exact ⟨rfl, rfl⟩
  · cases h

/-- A delta that leads to an encounter was correlated, and the encounter is with one of its subjects. -/
theorem subject_of_mem_encounters {session : Session σ} {delta : Delta} {s : RunState σ} {encounter : Encounter σ}
    (h : encounter ∈ session.encounters delta s) :
    ∃ ids, (session.correlate delta s).1 = .ok ids ∧ encounter.subject ∈ session.subjects delta ids := by
  unfold encounters Effect.onSuccess at h
  split at h
  · rename_i ids s' hcorrelated
    obtain ⟨pair, hpair, rfl⟩ := List.mem_map.mp h
    exact ⟨ids, congrArg Prod.fst hcorrelated, fst_mem_of_mem_trail hpair⟩
  · cases h

/-- The deltas that a run hands over, each with the state in which it is handled. -/
def deliveries (session : Session σ) (s : RunState σ) : List (Delta × RunState σ) :=
  Effect.onSuccess (session.runOnce .beforeAll Hooks.beforeAll session.engine.hooks s) fun _ opened =>
    Effect.onSuccess (session.locate opened) fun position located =>
      let pulled := session.pull position.stored located
      (trail session.receive pulled.1.deltas pulled.2).map fun (delta, before) =>
        (delta, { before with received := before.received ++ [delta] })

/-! ## Lists that only the handling of deltas appends to -/

/-- Whatever a run does apart from handling deltas leaves the list as it is, and handling one appends what it
gives. -/
structure Collects (session : Session σ) (part : RunState σ → List β) (gives : Delta → RunState σ → List β) : Prop where
  opening : (Frame.unchanged part).Keeps (session.runOnce .beforeAll Hooks.beforeAll session.engine.hooks)
  locate : (Frame.unchanged part).Keeps session.locate
  pull : ∀ stored, (Frame.unchanged part).Keeps (session.pull stored)
  receive : ∀ (delta : Delta) (s : RunState σ), part (session.receive delta s).2 =
    part s ++ gives delta { s with received := s.received ++ [delta] }
  closing : (Frame.unchanged part).Keeps (session.runOnce .afterAll Hooks.afterAll session.engine.hooks)
  persist : ∀ latest, (Frame.unchanged part).Keeps (session.persist latest)

variable {session : Session σ} {frame : Frame σ} {part : RunState σ → List β} {gives : Delta → RunState σ → List β}

theorem Collects.of_aside (h : session.Attends frame) (hload : ∀ task, frame.Keeps (session.engine.tokens.load task))
    (hstore : ∀ task token, frame.Keeps (session.engine.tokens.store task token))
    (haside : ∀ {s t}, frame.aside.Rel s t → part t = part s)
    (hreceive : ∀ (delta : Delta) (s : RunState σ), part (session.receive delta s).2 =
      part s ++ gives delta { s with received := s.received ++ [delta] }) : session.Collects part gives where
  opening := (keeps_runOnce _ _ _ fun one hone _ => (h.hooks one hone).beforeAll _ h.connector).mono haside
  locate := (keeps_locate h.connector hload).mono haside
  pull stored := (keeps_pull h.connector stored).mono haside
  receive := hreceive
  closing := (keeps_runOnce _ _ _ fun one hone _ => (h.hooks one hone).afterAll _ h.connector).mono haside
  persist latest := (keeps_persist hstore latest).mono haside

theorem Collects.consume_appended (h : session.Collects part gives) (emission : Emission) (s : RunState σ) :
    part (session.consume emission s).2 = part s ++ (trail session.receive emission.deltas s).flatMap
      fun (delta, before) => gives delta { before with received := before.received ++ [delta] } := by
  have hreceive : ∀ delta, (Frame.appending part).Keeps (session.receive delta) := fun delta s =>
    ⟨_, (h.receive delta s).symm⟩
  have hreceived := fun (delta : Delta) (s : RunState σ) => appended_eq (h.receive delta s)
  simp only [consume_eq, forEach_appended hreceive, hreceived]

/-- A run appends what the deltas that it hands over give. -/
theorem Collects.phases_appended (h : session.Collects part gives) (s : RunState σ) :
    part (session.phases s).2 = part s ++ (session.deliveries s).flatMap fun (delta, before) => gives delta before := by
  simp only [deliveries, Effect.flatMap_onSuccess]
  refine Effect.andThen_of_unchanged h.opening (fun _ opened => ?_) s
  refine Effect.andThen_of_unchanged h.locate (fun position located => ?_) opened
  -- What is left of the run after the deltas are handled appends nothing.
  have hrest : (Frame.unchanged part).Keeps
      (Effect.andThen (session.runOnce .afterAll Hooks.afterAll session.engine.hooks) fun _ =>
        session.persist position.latest) := h.closing.andThen fun _ => h.persist position.latest
  have hpulled : part (session.pull position.stored located).2 = part located := h.pull position.stored located
  have hconsumed := h.consume_appended (session.pull position.stored located).1 (session.pull position.stored located).2
  rw [hpulled] at hconsumed
  rw [List.flatMap_map]
  exact (Effect.andThen_unchanged (fun _ => hrest) located).trans hconsumed

/-! ## Lists that only encounters append to -/

/-- If correlation leaves the list as it is, handling a delta appends what its encounters append. -/
theorem handle_appended (session : Session σ) (part : RunState σ → List β)
    (hcorrelate : ∀ delta, (Frame.unchanged part).Keeps (session.correlate delta))
    (hmeet : ∀ delta subject, (Frame.appending part).Keeps (session.meet delta subject)) (delta : Delta)
    (s : RunState σ) :
    part (session.handle delta s).2 =
      part s ++ (session.encounters delta s).flatMap fun encounter => encounter.appends part := by
  have hcorrelated : part (session.correlate delta s).2 = part s := hcorrelate delta s
  rw [handle_eq_forEach_meet]
  unfold encounters
  generalize session.correlate delta s = correlated at hcorrelated ⊢
  obtain ⟨answer, s'⟩ := correlated
  cases answer with
  | error error => exact hcorrelated.trans (List.append_nil _).symm
  | ok ids =>
    simp only [Effect.onSuccess, forEach_appended (hmeet delta), List.flatMap_map]
    exact congrArg (· ++ _) hcorrelated

theorem receive_appended (part : RunState σ → List β)
    (hreceived : ∀ (s : RunState σ) (received : List Delta), part { s with received } = part s)
    (hcorrelate : ∀ delta, (Frame.unchanged part).Keeps (session.correlate delta))
    (hmeet : ∀ delta subject, (Frame.appending part).Keeps (session.meet delta subject)) (delta : Delta)
    (s : RunState σ) :
    part (session.receive delta s).2 = part s ++
      (session.encounters delta { s with received := s.received ++ [delta] }).flatMap
        fun encounter => encounter.appends part := by
  rw [receive_eq, session.handle_appended part hcorrelate hmeet, hreceived]

theorem keeps_meet (h : session.Keeps frame) (delta : Delta) (subject : Subject) :
    frame.recording.Keeps (session.meet delta subject) := by
  cases subject with
  | unknown hook => exact keeps_create h hook delta
  | present id =>
    refine (keeps_recording (keeps_load h.attends id)).bind fun found => ?_
    cases found with
    | none => exact Frame.keeps_pure _
    | some entity => exact keeps_applyRule h delta entity
  | gone id =>
    refine (keeps_recording (keeps_load h.attends id)).bind fun found => ?_
    cases found with
    | none => exact Frame.keeps_pure _
    | some entity => exact keeps_actOn h.attends _ _ _ _ fun _ => keeps_remove h entity id _

/-- Nothing but an encounter records a result. -/
theorem handle_results (session : Session σ) (delta : Delta) (s : RunState σ) :
    (session.handle delta s).2.results =
      s.results ++ (session.encounters delta s).flatMap Encounter.recorded := by
  have hkeeps := session.keeps_anything
  refine session.handle_appended RunState.results (fun delta => ?_) (fun delta subject => ?_) delta s
  · exact (keeps_correlate hkeeps.attends delta).mono fun hrel => hrel.2.2
  · exact (keeps_meet hkeeps delta subject).mono fun hrel => hrel.2.2

/-- A run records the results of its encounters. -/
theorem collects_results (session : Session σ) : session.Collects RunState.results
    fun delta before => (session.encounters delta before).flatMap Encounter.recorded := by
  refine .of_aside session.keeps_anything.attends (fun _ _ => trivial) (fun _ _ _ => trivial) (fun hrel => hrel.2.2) ?_
  exact fun delta s => session.handle_results delta { s with received := s.received ++ [delta] }

/-- What is received is what is handed over. -/
theorem collects_received (session : Session σ) : session.Collects RunState.received fun delta _ => [delta] := by
  have hkeeps := session.keeps_anything
  refine .of_aside hkeeps.attends (fun _ _ => trivial) (fun _ _ _ => trivial) (fun hrel => hrel.2.1) ?_
  exact fun delta s => (receive_received hkeeps delta s).1

/-! ## One delta after the other -/

/-- A delta is taken over where handling the one before it leaves the run. -/
def Follows (session : Session σ) (earlier later : Delta × RunState σ) : Prop :=
  ∃ left, session.handle earlier.1 earlier.2 = (.ok (), left) ∧
    later.2 = { left with received := left.received ++ [later.1] }

/-- Deltas are handled one after the other, and what is received and recorded in the end is what they and their
handling give. -/
structure HandledInTurn (session : Session σ) (deliveries : List (Delta × RunState σ)) (finished : RunState σ) :
    Prop where
  chained : deliveries.IsChain session.Follows
  received : finished.received = deliveries.map Prod.fst
  results : finished.results =
    deliveries.flatMap fun (delta, before) => appended RunState.results (session.handle delta) before

theorem isChain_deliveries (session : Session σ) (s : RunState σ) :
    (session.deliveries s).IsChain session.Follows := by
  unfold deliveries
  generalize session.runOnce .beforeAll Hooks.beforeAll session.engine.hooks s = opening
  obtain ⟨answer, opened⟩ := opening
  cases answer with
  | error error => exact .nil
  | ok _ =>
    dsimp only [Effect.onSuccess]
    generalize session.locate opened = locating
    obtain ⟨answer, located⟩ := locating
    cases answer with
    | error error => exact .nil
    | ok position =>
      refine List.isChain_map_of_isChain _ (fun earlier later hhandled => ?_) (isChain_trail session.receive _ _)
      exact ⟨later.2, hhandled, rfl⟩

/-- A run handles its deliveries one after the other, and records nothing besides. -/
theorem phases_handledInTurn (session : Session σ) (world : σ) :
    session.HandledInTurn (session.deliveries { world }) (session.phases { world }).2 where
  chained := session.isChain_deliveries { world }
  received := by
    rw [session.collects_received.phases_appended, List.nil_append, List.map_eq_flatMap]
  results := by
    rw [session.collects_results.phases_appended, List.nil_append]
    refine congrArg (fun gives => (session.deliveries { world }).flatMap gives) (funext fun (delta, before) => ?_)
    exact (appended_eq (session.handle_results delta before)).symm

/-! ## Invariants -/

section Invariants

variable {P : RunState σ → Prop} {delta : Delta} {s : RunState σ}

/-- If correlation keeps it, what every encounter of a delta keeps holds in all of them, and after the delta. -/
theorem handle_invariant (hcorrelate : P (session.correlate delta s).2)
    (hstep : ∀ encounter ∈ session.encounters delta s, P encounter.before → P (encounter.step encounter.before).2) :
    (∀ encounter ∈ session.encounters delta s, P encounter.before) ∧ P (session.handle delta s).2 := by
  rw [handle_eq_forEach_meet]
  unfold encounters at hstep ⊢
  generalize session.correlate delta s = correlated at hcorrelate hstep ⊢
  obtain ⟨answer, s'⟩ := correlated
  cases answer with
  | error error => exact ⟨fun _ hmem => (nomatch hmem), hcorrelate⟩
  | ok ids =>
    simp only [Effect.onSuccess, List.forall_mem_map] at hstep ⊢
    exact forEach_invariant hcorrelate hstep

/-- If it is kept beside them, what every encounter keeps holds in all of those of an emission, and after it. -/
theorem consume_invariant (hcorrelate : ∀ delta s, P s → P (session.correlate delta s).2)
    (hreceived : ∀ (s : RunState σ) (received : List Delta), P s → P { s with received }) {emission : Emission}
    (hstart : P s)
    (hstep : ∀ pair ∈ trail session.receive emission.deltas s,
      ∀ encounter ∈ session.encounters pair.1 { pair.2 with received := pair.2.received ++ [pair.1] },
        P encounter.before → P (encounter.step encounter.before).2) :
    (∀ pair ∈ trail session.receive emission.deltas s,
      ∀ encounter ∈ session.encounters pair.1 { pair.2 with received := pair.2.received ++ [pair.1] },
        P encounter.before) ∧ P (session.consume emission s).2 := by
  have hhandled : ∀ pair ∈ trail session.receive emission.deltas s, P pair.2 →
      (∀ encounter ∈ session.encounters pair.1 { pair.2 with received := pair.2.received ++ [pair.1] },
        P encounter.before) ∧ P (session.receive pair.1 pair.2).2 := fun pair hmem hbefore =>
    handle_invariant (hcorrelate pair.1 _ (hreceived pair.2 _ hbefore)) (hstep pair hmem)
  rw [consume_eq]
  obtain ⟨hall, hend⟩ := forEach_invariant hstart fun pair hmem hbefore => (hhandled pair hmem hbefore).2
  exact ⟨fun pair hmem => (hhandled pair hmem (hall pair hmem)).1, hend⟩

/-- If it is kept beside them, what every encounter of a run keeps holds in all of them, and at the end of the run. -/
theorem phases_invariant (h : session.Attends frame) (hload : ∀ task, frame.Keeps (session.engine.tokens.load task))
    (hstore : ∀ task token, frame.Keeps (session.engine.tokens.store task token))
    (haside : ∀ {s t : RunState σ}, frame.Rel s.world t.world → P s → P t) (hstart : P s)
    (hstep : ∀ handed ∈ session.deliveries s, ∀ encounter ∈ session.encounters handed.1 handed.2,
      P encounter.before → P (encounter.step encounter.before).2) :
    (∀ handed ∈ session.deliveries s, ∀ encounter ∈ session.encounters handed.1 handed.2, P encounter.before) ∧
      P (session.phases s).2 := by
  have hkept : ∀ {α : Type} {step : Step σ α}, frame.aside.Keeps step → ∀ {s : RunState σ}, P s → P (step s).2 := by
    intro α step hstep s hbefore
    exact haside (hstep s).1 hbefore
  have hopened := hkept (keeps_runOnce .beforeAll Hooks.beforeAll session.engine.hooks
    fun one hone _ => (h.hooks one hone).beforeAll _ h.connector) hstart
  unfold deliveries at hstep ⊢
  rw [phases, Effect.andThen_apply]
  generalize session.runOnce .beforeAll Hooks.beforeAll session.engine.hooks s = opening at hopened hstep ⊢
  obtain ⟨answer, opened⟩ := opening
  cases answer with
  | error error => exact ⟨fun _ hmem => (nomatch hmem), hopened⟩
  | ok _ =>
    have hlocated := hkept (keeps_locate h.connector hload) hopened
    dsimp only [Effect.onSuccess] at hstep ⊢
    rw [Effect.andThen_apply]
    generalize session.locate opened = locating at hlocated hstep ⊢
    obtain ⟨answer, located⟩ := locating
    cases answer with
    | error error => exact ⟨fun _ hmem => (nomatch hmem), hlocated⟩
    | ok position =>
      simp only [List.forall_mem_map] at hstep ⊢
      rw [Effect.andThen_apply]
      have hpulled : P (session.pull position.stored located).2 :=
        hkept (keeps_pull h.connector position.stored) hlocated
      obtain ⟨hall, hconsumed⟩ := consume_invariant (P := P) (fun delta _ => hkept (keeps_correlate h delta))
        (fun _ _ => haside (frame.refl _)) hpulled hstep
      refine ⟨hall, ?_⟩
      -- What is left of the run after the deltas are handled is kept as well.
      have hrest := (keeps_runOnce .afterAll Hooks.afterAll session.engine.hooks
        fun one hone _ => (h.hooks one hone).afterAll _ h.connector).andThen
          fun _ => keeps_persist hstore position.latest
      split
      · exact hkept hrest hconsumed
      · exact hconsumed

end Invariants

end Session

namespace Engine

variable {engine : Engine σ} {task : SyncTask} {resource : Resource σ} {mapping : Mapping} {world : σ}

/-- The deltas that a run hands over, each with the state in which it is handled; none if its resource or its
mapping is missing. -/
def deliveries (engine : Engine σ) (task : SyncTask) (world : σ) : List (Delta × RunState σ) :=
  match engine.registry.lookup task.resource task.subjectType with
  | .error _ => []
  | .ok (resource, mapping) => Session.deliveries { engine, task, resource, mapping } { world }

/-- What a run receives is what it hands over. -/
theorem start_received (engine : Engine σ) (task : SyncTask) (world : σ) :
    (engine.start task world).2.received = (engine.deliveries task world).map Prod.fst := by
  unfold deliveries
  cases hlookup : engine.registry.lookup task.resource task.subjectType with
  | error error =>
    rw [start_error hlookup]
    rfl
  | ok found =>
    rw [(start_ok hlookup world).1]
    exact (Session.phases_handledInTurn _ world).received

/-- A run handles its deltas one after the other. -/
theorem start_handledInTurn
    (hlookup : engine.registry.lookup task.resource task.subjectType = .ok (resource, mapping)) (world : σ) :
    Session.HandledInTurn { engine, task, resource, mapping } (engine.deliveries task world)
      (engine.start task world).2 := by
  simp only [deliveries, hlookup, (start_ok hlookup world).1]
  exact Session.phases_handledInTurn _ world

/-- The encounters that a run leads to; none if its resource or its mapping is missing. -/
def encounters (engine : Engine σ) (task : SyncTask) (world : σ) : List (Encounter σ) :=
  match engine.registry.lookup task.resource task.subjectType with
  | .error _ => []
  | .ok (resource, mapping) =>
    let session : Session σ := { engine, task, resource, mapping }
    (session.deliveries { world }).flatMap fun (delta, before) => session.encounters delta before

theorem encounters_of_error {error : MappingError}
    (hlookup : engine.registry.lookup task.resource task.subjectType = .error error) (world : σ) :
    engine.encounters task world = [] := by
  simp only [encounters, hlookup]

theorem mem_encounters (hlookup : engine.registry.lookup task.resource task.subjectType = .ok (resource, mapping))
    {encounter : Encounter σ} :
    let session : Session σ := { engine, task, resource, mapping }
    encounter ∈ engine.encounters task world ↔
      ∃ handed ∈ session.deliveries { world }, encounter ∈ session.encounters handed.1 handed.2 := by
  simp only [encounters, hlookup, List.mem_flatMap]

/-- A run meets what it has received, in the session of its resource and its mapping. -/
theorem of_mem_encounters {encounter : Encounter σ} (h : encounter ∈ engine.encounters task world) :
    ∃ resource mapping, engine.registry.lookup task.resource task.subjectType = .ok (resource, mapping) ∧
      encounter.session = { engine, task, resource, mapping } ∧
        encounter.delta ∈ (engine.start task world).2.received := by
  cases hlookup : engine.registry.lookup task.resource task.subjectType with
  | error error =>
    rw [encounters_of_error hlookup] at h
    cases h
  | ok found =>
    obtain ⟨resource, mapping⟩ := found
    obtain ⟨handed, hhanded, hmem⟩ := (mem_encounters hlookup).mp h
    obtain ⟨hsession, hdelta⟩ := Session.session_of_mem_encounters hmem
    refine ⟨resource, mapping, rfl, hsession, ?_⟩
    rw [(start_handledInTurn hlookup world).received, hdelta]
    simp only [deliveries, hlookup]
    exact List.mem_map_of_mem hhanded

/-- If it is kept beside them, what every encounter of a run keeps holds in all of them, and at the end of the run. -/
theorem start_invariant {frame : Frame σ} {P : RunState σ → Prop}
    (h : ∀ resource mapping, engine.registry.lookup task.resource task.subjectType = .ok (resource, mapping) →
      Session.Attends frame { engine, task, resource, mapping })
    (hload : ∀ task, frame.Keeps (engine.tokens.load task))
    (hstore : ∀ task token, frame.Keeps (engine.tokens.store task token))
    (haside : ∀ {s t : RunState σ}, frame.Rel s.world t.world → P s → P t) (hstart : P { world })
    (hstep : ∀ encounter ∈ engine.encounters task world, P encounter.before → P (encounter.step encounter.before).2) :
    (∀ encounter ∈ engine.encounters task world, P encounter.before) ∧ P (engine.start task world).2 := by
  cases hlookup : engine.registry.lookup task.resource task.subjectType with
  | error error =>
    rw [encounters_of_error hlookup, start_error hlookup]
    exact ⟨fun _ hmem => (nomatch hmem), hstart⟩
  | ok found =>
    obtain ⟨resource, mapping⟩ := found
    rw [(start_ok hlookup world).1]
    obtain ⟨hall, hend⟩ := Session.phases_invariant (h resource mapping hlookup) hload hstore haside hstart
      fun handed hhanded encounter hmem => hstep encounter ((mem_encounters hlookup).mpr ⟨handed, hhanded, hmem⟩)
    refine ⟨fun encounter hencounter => ?_, hend⟩
    obtain ⟨handed, hhanded, hmem⟩ := (mem_encounters hlookup).mp hencounter
    exact hall handed hhanded encounter hmem

end Engine

end Reconciliation

end Provisioning
