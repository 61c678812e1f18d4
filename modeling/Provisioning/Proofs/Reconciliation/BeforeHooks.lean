import Provisioning.Proofs.Reconciliation.LocalEffect
import Provisioning.Proofs.Reconciliation.Transcript
set_option autoImplicit false

/-!
# Hooks before an action

The extensions are asked one after the other before an action, and each passes a delta on to the next.  One that fails
stops the action: no other hook is called and nothing of the action is done, only the failure is recorded or the run
aborted.  If none fails, the action works with the delta that the last one returned.
-/

namespace Provisioning.Reconciliation

open Workflow

variable {σ α β : Type}

/-! ## Passing a delta on -/

/-- The calls of the hooks before an action, and what comes of them.  The extensions that are left are called in their
order, from the one of a number on, and each is given the delta that the one before it returned.  One that fails is the
last one that is called. -/
inductive Handed (hook : Hook) :
    (extension : Nat) → Delta → (left : Nat) → List Happening → Except SyncError Delta → Prop
  | finished (extension : Nat) (delta : Delta) : Handed hook extension delta 0 [] (.ok delta)
  | failed (extension : Nat) (delta : Delta) (left : Nat) (failure : Failure) :
      Handed hook extension delta (left + 1) [.before extension hook delta (.error failure)]
        (.error (Session.hookError hook failure))
  | passed {extension left : Nat} {delta delta' : Delta} {calls : List Happening} {answer : Except SyncError Delta}
      (h : Handed hook (extension + 1) delta' left calls answer) :
      Handed hook extension delta (left + 1) (.before extension hook delta (.ok delta') :: calls) answer

/-! ## What follows the hooks -/

/-- What happens after the hooks before an action: no such hook is called any more, and these requests are made. -/
structure Sequel (requests : List Request) (happenings : List Happening) : Prop where
  later : ∀ happening ∈ happenings, happening.isBefore = false
  requests : happenings.filterMap Happening.request? = requests

theorem Sequel.nil : Sequel [] [] := ⟨fun _ hmem => (nomatch hmem), rfl⟩

theorem Sequel.append {requests requests' : List Request} {happenings happenings' : List Happening}
    (h : Sequel requests happenings) (h' : Sequel requests' happenings') :
    Sequel (requests ++ requests') (happenings ++ happenings') where
  later := List.forall_mem_append.mpr ⟨h.later, h'.later⟩
  requests := by rw [List.filterMap_append, h.requests, h'.requests]

/-- The frame of what writes down neither a hook before an action nor a request. -/
def sequel : Frame (σ × List Happening) where
  Rel s t := ∃ happenings, t.2 = s.2 ++ happenings ∧ Sequel [] happenings
  refl s := ⟨[], (List.append_nil _).symm, .nil⟩
  trans := by
    rintro s t u ⟨happenings, ht, h⟩ ⟨later, hu, h'⟩
    exact ⟨happenings ++ later, by rw [hu, ht, List.append_assoc], h.append h'⟩

theorem sequel_noted {note : α → Happening} (h : ∀ a, (note a).isBefore = false ∧ (note a).request? = none)
    (operation : StateM σ α) : sequel.Keeps (noted note operation) := by
  intro s
  obtain ⟨hlater, hrequest⟩ := h (operation s.1).1
  refine ⟨[note (operation s.1).1], rfl, List.forall_mem_singleton.mpr hlater, ?_⟩
  rw [List.filterMap_cons, hrequest, List.filterMap_nil]

theorem first_carries_sequel : (Lens.first : Lens (σ × List Happening) σ).Carries Frame.anything sequel :=
  fun s _ _ => sequel.refl s

theorem connector_keeps_sequel (resource : String) (connector : Connector σ) :
    (connector.logged .called resource).Keeps sequel := by
  unfold Connector.logged Connector.observed
  refine (connector.keeps_anything.within first_carries_sequel).intercepted fun call s => ?_
  exact ⟨[.called ⟨resource, call⟩], rfl, List.forall_mem_singleton.mpr rfl, rfl⟩

/-- What happens from one moment to another, and what is recorded. -/
structure Passage (s t : RunState (σ × List Happening)) (happenings : List Happening) (results : List Result) :
    Prop where
  happenings : t.happenings = s.happenings ++ happenings
  results : t.results = s.results ++ results

section Passages

variable {s t u : RunState (σ × List Happening)} {happenings happenings' : List Happening}
  {results results' : List Result}

theorem passage_of_same (hhappenings : t.happenings = s.happenings) (hresults : t.results = s.results) :
    Passage s t [] [] :=
  ⟨hhappenings.trans (List.append_nil _).symm, hresults.trans (List.append_nil _).symm⟩

theorem Passage.trans (h : Passage s t happenings results) (h' : Passage t u happenings' results') :
    Passage s u (happenings ++ happenings') (results ++ results') := by
  refine ⟨?_, ?_⟩
  · rw [h'.happenings, h.happenings, List.append_assoc]
  · rw [h'.results, h.results, List.append_assoc]

end Passages

/-- A step makes some requests, and calls no hook before an action. -/
def Makes (requests : List Request) (step : Step (σ × List Happening) α) : Prop :=
  ∀ s, ∃ happenings results, Passage s (step s).2 happenings results ∧ Sequel requests happenings

section Makes

variable {requests requests' : List Request} {step : Step (σ × List Happening) α}

theorem makes_nothing (h : sequel.recording.Keeps step) : Makes [] step := by
  intro s
  obtain ⟨⟨happenings, hnew, hsequel⟩, -, results, hresults⟩ := h s
  exact ⟨happenings, results, ⟨hnew, hresults.symm⟩, hsequel⟩

theorem Makes.bind {next : α → Step (σ × List Happening) β} (h : Makes requests step)
    (hnext : ∀ a, Makes requests' (next a)) : Makes (requests ++ requests') (step >>= next) := by
  intro s
  obtain ⟨happenings, results, hpassage, hsequel⟩ := h s
  obtain ⟨later, results', hpassage', hsequel'⟩ := hnext (step s).1 (step s).2
  exact ⟨_, _, hpassage.trans hpassage', hsequel.append hsequel'⟩

theorem makes_request (request : Request) (ask : Effect σ SyncError WorkflowReport) :
    Makes [request] (Session.onWorld (noted (fun _ => .requested request) ask)) :=
  fun _ => ⟨[.requested request], [], ⟨rfl, (List.append_nil _).symm⟩, List.forall_mem_singleton.mpr rfl, rfl⟩

end Makes

namespace Session

variable {session : Session σ} {connector : Connector σ}

theorem sequel_quiet (session : Session σ) : session.transcribed.engine.Quiet sequel where
  registry name resource hget := by
    rw [show session.transcribed.engine.registry = session.engine.registry.through (Connector.logged .called) from rfl,
      Registry.getElem?_through] at hget
    obtain ⟨resource, -, rfl⟩ := Option.map_eq_some_iff.mp hget
    exact connector_keeps_sequel name resource.connector
  audit _ := sequel_noted (fun _ => ⟨rfl, rfl⟩) _
  notifications _ := sequel_noted (fun _ => ⟨rfl, rfl⟩) _

theorem sequel_runAfter (session : Session σ) (delta : Delta) (entity : Entity) (result : Result) :
    sequel.aside.Keeps (session.transcribed.runAfter delta entity result session.transcribed.engine.hooks) := by
  refine steps_runAfter fun one hone s => ?_
  obtain ⟨extension, hooks, -, rfl⟩ := Hooks.of_mem_twins hone
  exact keeps_onWorld (sequel_noted (fun _ => ⟨rfl, rfl⟩) _)

theorem sequel_finish (session : Session σ) (delta : Delta) (entity : Entity) (result : Result) :
    sequel.recording.Keeps (session.transcribed.finish delta entity result) :=
  steps_finish (keeps_recording (session.sequel_runAfter delta entity result))
    (keeps_record session.sequel_quiet result)

theorem sequel_reread (session : Session σ) (entity : Entity) (patch : Patch) :
    sequel.aside.Keeps (session.transcribed.reread entity patch) :=
  steps_reread (fun _ _ => keeps_onWorld (first_carries_sequel.keeps_zoom fun _ => trivial)) entity patch

/-! ## The actions -/

/-- What is requested for a subject and its entity, given the delta that the action works with. -/
def requests (session : Session σ) (entity : Entity) (delta : Delta) : Subject → List Request
  | .unknown _ => [.create entity]
  | .gone id => [.delete session.task.subjectType id]
  | .present _ =>
    let patched (patch : Patch) : Request := .update session.task.subjectType entity.id patch
    match session.task.matching with
    | .update =>
      let patch := session.mapping.diff entity delta.attributes
      if patch.isEmpty then [] else [patched patch]
    | .link => [patched (Patch.link session.task.resource)]
    | .unlink | .unassign => [patched (Patch.unlink session.task.resource)]
    | .ignore | .deprovision => []

/-- A request is made and settled, and nothing else is requested. -/
theorem makes_settled (request : Request) (ask : Effect σ SyncError WorkflowReport) (base : Result)
    {followUp : WorkflowReport → Step (σ × List Happening) Result}
    (hfollowUp : ∀ report, sequel.aside.Keeps (followUp report)) :
    Makes [request] (onWorld (noted (fun _ => .requested request) ask) >>= settle base followUp) :=
  (makes_request request ask).bind fun answer => makes_nothing (keeps_recording (keeps_settle base hfollowUp answer))

theorem makes_update (session : Session σ) (entity : Entity) (base : Result) (delta : Delta) :
    let patch := session.mapping.diff entity delta.attributes
    Makes (if patch.isEmpty then [] else [.update session.task.subjectType entity.id patch])
      (session.transcribed.update entity base delta) := by
  intro patch
  have hpatch : session.transcribed.mapping.diff entity delta.attributes = patch := rfl
  unfold update
  simp only [hpatch]
  split
  · exact makes_nothing (Frame.keeps_pure _)
  · refine makes_settled _ _ base fun report => ?_
    refine (session.sequel_reread entity patch).bind fun after => ?_
    exact (keeps_propagate session.sequel_quiet _).bind fun _ => Frame.keeps_pure _

/-- The twin of a session takes the same measure for a subject, and makes the requests for it. -/
theorem measure?_transcribed (session : Session σ) (entity : Entity) (subject : Subject) :
    match session.measure? entity subject with
    | none => session.transcribed.measure? entity subject = none
    | some measure => ∃ act,
        session.transcribed.measure? entity subject = some { hook := measure.hook, base := measure.base, act } ∧
          ∀ delta, Makes (session.requests entity delta subject) (act delta) := by
  have hmatching : session.transcribed.task.matching = session.task.matching := rfl
  cases subject with
  | unknown hook => rfl
  | gone id =>
    refine ⟨_, rfl, fun delta => makes_settled _ _ _ fun report => ?_⟩
    exact (keeps_propagate session.sequel_quiet _).bind fun _ => Frame.keeps_pure _
  | present id =>
    simp only [measure?, hmatching, requests]
    cases session.task.matching
    case ignore => rfl
    case update => exact ⟨_, rfl, fun delta => session.makes_update entity _ delta⟩
    case deprovision =>
      refine ⟨_, rfl, fun _ => makes_nothing (keeps_recording ?_)⟩
      exact (keeps_deprovision session.sequel_quiet entity _).map some
    case unassign =>
      exact ⟨_, rfl, fun _ => makes_settled _ _ _ fun _ => keeps_deprovision session.sequel_quiet entity _⟩
    all_goals exact ⟨_, rfl, fun _ => makes_settled _ _ _ fun _ => Frame.keeps_pure _⟩

/-! ## The hooks -/

/-- The hooks before something is done with an existing entity are called as they should be. -/
theorem handed_beforeExisting (twin : Session (σ × List Happening)) (connector : Connector σ) (hook : ExistingHook)
    (entity : Entity) (hooks : List (Hooks σ)) (extension : Nat) (delta : Delta) (s : RunState (σ × List Happening)) :
    let called := twin.beforeExisting hook entity (Hooks.twins Happening.observer connector extension hooks) delta s
    ∃ calls, Passage s called.2 calls [] ∧
      Handed (.beforeExisting hook) extension delta hooks.length calls called.1 := by
  induction hooks generalizing extension delta s with
  | nil => exact ⟨[], passage_of_same rfl rfl, .finished extension delta⟩
  | cons one rest ih =>
    let asked := one.beforeExisting hook ((twin.profile s).showing connector) delta entity s.world.1
    let s' : RunState (σ × List Happening) :=
      { s with world := (asked.2, s.world.2 ++ [.before extension (.beforeExisting hook) delta asked.1]) }
    have hpassage : Passage s s' [.before extension (.beforeExisting hook) delta asked.1] [] :=
      ⟨rfl, (List.append_nil _).symm⟩
    have hcalled : onWorld ((one.twin Happening.observer connector extension).beforeExisting hook (twin.profile s)
        delta entity) s = (asked.1, s') := rfl
    simp only [Hooks.twins, beforeExisting, hcalled]
    cases hanswer : asked.1 with
    | error failure =>
      rw [hanswer] at hpassage
      exact ⟨_, hpassage, .failed extension delta rest.length failure⟩
    | ok delta' =>
      rw [hanswer] at hpassage
      obtain ⟨calls, hrest, hhanded⟩ := ih (extension + 1) delta' s'
      exact ⟨_, hpassage.trans hrest, .passed hhanded⟩

/-- The hooks before a new entity is created are called as they should be. -/
theorem handed_beforeNew (twin : Session (σ × List Happening)) (connector : Connector σ) (hook : NewHook)
    (hooks : List (Hooks σ)) (extension : Nat) (delta : Delta) (entity : Entity) (s : RunState (σ × List Happening)) :
    let called := twin.beforeNew hook (Hooks.twins Happening.observer connector extension hooks) delta entity s
    ∃ calls, Passage s called.2 calls [] ∧ Handed (.beforeNew hook) extension delta hooks.length calls called.1.1 := by
  induction hooks generalizing extension delta entity s with
  | nil => exact ⟨[], passage_of_same rfl rfl, .finished extension delta⟩
  | cons one rest ih =>
    let asked := one.beforeNew hook ((twin.profile s).showing connector) delta entity s.world.1
    let s' : RunState (σ × List Happening) :=
      { s with world := (asked.2, s.world.2 ++ [.before extension (.beforeNew hook) delta asked.1.1]) }
    have hpassage : Passage s s' [.before extension (.beforeNew hook) delta asked.1.1] [] :=
      ⟨rfl, (List.append_nil _).symm⟩
    have hcalled : onWorld ((one.twin Happening.observer connector extension).beforeNew hook (twin.profile s)
        delta entity) s = (asked.1, s') := rfl
    simp only [Hooks.twins, beforeNew, bind_apply, get_apply, hcalled]
    cases hanswer : asked.1 with
    | mk answer entity' =>
      rw [hanswer] at hpassage
      cases answer with
      | error failure => exact ⟨_, hpassage, .failed extension delta rest.length failure⟩
      | ok delta' =>
        obtain ⟨calls, hrest, hhanded⟩ := ih (extension + 1) delta' entity' s'
        exact ⟨_, hpassage.trans hrest, .passed hhanded⟩

/-! ## Encounters -/

/-- The hook that is called when a delta meets a subject, the entity at hand and the result that the action starts
from.  A new entity is taken as the hooks left it. -/
inductive Faces (session : Session σ) (world : σ) : Subject → Hook → Entity → Result → Prop
  | unknown (hook : NewHook) (entity : Entity) :
      Faces session world (.unknown hook) (.beforeNew hook) entity (session.result .create 0 entity.name)
  | known {subject : Subject} {id : Nat} {entity : Entity} {measure : Measure σ} (hid : subject.id? = some id)
      (hfound : (session.engine.repository.find session.task.subjectType id world).1 = .ok (some entity))
      (hmeasure : session.measure? entity subject = some measure) :
      Faces session world subject (.beforeExisting measure.hook) entity measure.base

/-- What happens when a result is recorded. -/
def announcement (session : Session σ) (result : Result) : List Happening :=
  let event : Event := { task := session.task.name, resource := session.task.resource, result }
  .audited event :: if session.dryRun then [] else [.notified event]

/-- What happens when a delta meets a subject, what is recorded and what is answered. -/
inductive Scene (session : Session σ) (world : σ) (delta : Delta) (subject : Subject) :
    List Happening → List Result → Except SyncError Unit → Prop
  /-- The entity cannot be read, and it is passed over. -/
  | missing {id : Nat} (hid : subject.id? = some id)
      (hmissing : ∀ entity,
        (session.engine.repository.find session.task.subjectType id world).1 ≠ .ok (some entity)) :
      Scene session world delta subject [] [] (.ok ())
  /-- The entity is to be ignored, which is recorded. -/
  | ignored {id : Nat} {entity : Entity} (hid : subject.id? = some id)
      (hfound : (session.engine.repository.find session.task.subjectType id world).1 = .ok (some entity))
      (hmeasure : session.measure? entity subject = none) :
      Scene session world delta subject (session.announcement (session.result .none entity.id entity.name))
        [session.result .none entity.id entity.name] (.ok ())
  /-- A hook fails, and that is recorded. -/
  | failed {hook : Hook} {entity : Entity} {base : Result} {calls : List Happening} {error : SyncError}
      (hfaces : session.Faces world subject hook entity base)
      (hcalls : Handed hook 0 delta session.engine.hooks.length calls (.error error))
      (hscope : session.task.hookScope = .delta) :
      Scene session world delta subject (calls ++ session.announcement (base.failed error.message))
        [base.failed error.message] (.ok ())
  /-- A hook fails, and that aborts the run. -/
  | aborted {hook : Hook} {entity : Entity} {base : Result} {calls : List Happening} {error : SyncError}
      (hfaces : session.Faces world subject hook entity base)
      (hcalls : Handed hook 0 delta session.engine.hooks.length calls (.error error))
      (hscope : session.task.hookScope = .run) :
      Scene session world delta subject calls [] (.error error)
  /-- The hooks are all called, and the action works with the delta that they leave. -/
  | passed {hook : Hook} {entity : Entity} {base : Result} {calls happenings : List Happening} {delta' : Delta}
      {results : List Result} {answer : Except SyncError Unit} (hfaces : session.Faces world subject hook entity base)
      (hcalls : Handed hook 0 delta session.engine.hooks.length calls (.ok delta'))
      (hsequel : Sequel (if session.dryRun then [] else session.requests entity delta' subject) happenings) :
      Scene session world delta subject (calls ++ happenings) results answer

section Encounters

variable {delta : Delta} {entity : Entity} {s : RunState (σ × List Happening)}

theorem record_passage (session : Session σ) (result : Result) (s : RunState (σ × List Happening)) :
    Passage s (session.transcribed.record result s).2 (session.announcement result) [result] := by
  have hdry : session.transcribed.dryRun = session.dryRun := rfl
  refine ⟨?_, record_results _ result s⟩
  unfold announcement record
  simp only [bind_apply, hdry]
  split
  · rfl
  · exact List.append_assoc _ [_] [_]

/-- If a hook before an action fails, this is all that happens. -/
theorem hookFailed_scene {world : σ} {subject : Subject} {hook : Hook} {base : Result} {calls : List Happening}
    {error : SyncError} {s' : RunState (σ × List Happening)} (hfaces : session.Faces world subject hook entity base)
    (hcalls : Handed hook 0 delta session.engine.hooks.length calls (.error error)) (hpassage : Passage s s' calls []) :
    let failed := session.transcribed.hookFailed error base s'
    ∃ happenings results, Passage s failed.2 happenings results ∧
      session.Scene world delta subject happenings results failed.1 := by
  have hscope : session.transcribed.task.hookScope = session.task.hookScope := rfl
  unfold hookFailed
  rw [hscope]
  cases hkind : session.task.hookScope with
  | delta =>
    exact ⟨_, _, hpassage.trans (session.record_passage (base.failed error.message) s'), .failed hfaces hcalls hkind⟩
  | run => exact ⟨_, _, hpassage, .aborted hfaces hcalls hkind⟩

/-- If the hooks before an action pass, what follows makes the requests of the action. -/
theorem passed_scene {world : σ} {subject : Subject} {hook : Hook} {base : Result} {calls : List Happening}
    {delta' : Delta} {s' : RunState (σ × List Happening)} {step : Step (σ × List Happening) (Except SyncError Unit)}
    (hfaces : session.Faces world subject hook entity base)
    (hcalls : Handed hook 0 delta session.engine.hooks.length calls (.ok delta')) (hpassage : Passage s s' calls [])
    (hmakes : Makes (if session.dryRun then [] else session.requests entity delta' subject) step) :
    ∃ happenings results, Passage s (step s').2 happenings results ∧
      session.Scene world delta subject happenings results (step s').1 := by
  obtain ⟨happenings, results, hstep, hsequel⟩ := hmakes s'
  exact ⟨_, _, hpassage.trans hstep, .passed hfaces hcalls hsequel⟩

theorem actOn_scene {world : σ} {subject : Subject} {id : Nat} {measure : Measure σ} (hid : subject.id? = some id)
    (hfound : (session.engine.repository.find session.task.subjectType id world).1 = .ok (some entity))
    (hmeasure : session.measure? entity subject = some measure)
    (act : Delta → Step (σ × List Happening) (Option Result))
    (hact : ∀ delta, Makes (session.requests entity delta subject) (act delta)) (delta : Delta)
    (s : RunState (σ × List Happening)) :
    let met := session.transcribed.actOn measure.hook measure.base delta entity act s
    ∃ happenings results, Passage s met.2 happenings results ∧
      session.Scene world delta subject happenings results met.1 := by
  have hdry : session.transcribed.dryRun = session.dryRun := rfl
  have hfaces : session.Faces world subject (.beforeExisting measure.hook) entity measure.base :=
    .known hid hfound hmeasure
  obtain ⟨calls, hpassage, hcalls⟩ := handed_beforeExisting session.transcribed session.resource.connector measure.hook
    entity session.engine.hooks 0 delta s
  have hhooks : session.transcribed.engine.hooks =
      Hooks.twins Happening.observer session.resource.connector 0 session.engine.hooks := rfl
  simp only [actOn, bind_apply, hhooks, hdry]
  generalize session.transcribed.beforeExisting measure.hook entity _ delta s = called at hpassage hcalls ⊢
  obtain ⟨answer, s'⟩ := called
  cases answer with
  | error error => exact hookFailed_scene hfaces hcalls hpassage
  | ok delta' =>
    refine passed_scene hfaces hcalls hpassage ?_
    split
    · exact makes_nothing (session.sequel_finish delta' entity measure.base)
    · rw [← List.append_nil (session.requests entity delta' subject)]
      refine (hact delta').bind fun outcome => makes_nothing ?_
      cases outcome with
      | none => exact Frame.keeps_pure _
      | some result => exact session.sequel_finish delta' entity result

theorem create_scene (hook : NewHook) (delta : Delta) (world : σ) (s : RunState (σ × List Happening)) :
    let met := session.transcribed.create hook delta s
    ∃ happenings results, Passage s met.2 happenings results ∧
      session.Scene world delta (.unknown hook) happenings results met.1 := by
  have hdry : session.transcribed.dryRun = session.dryRun := rfl
  have hresult : session.transcribed.result = session.result := rfl
  have hhooks : session.transcribed.engine.hooks =
      Hooks.twins Happening.observer session.resource.connector 0 session.engine.hooks := rfl
  obtain ⟨calls, hpassage, hcalls⟩ := handed_beforeNew session.transcribed session.resource.connector hook
    session.engine.hooks 0 delta (session.transcribed.newEntity hook delta) s
  simp only [create, bind_apply, hhooks, hdry, hresult]
  generalize session.transcribed.beforeNew hook _ delta _ s = called at hpassage hcalls ⊢
  obtain ⟨⟨answer, entity⟩, s'⟩ := called
  have hfaces : session.Faces world (.unknown hook) (.beforeNew hook) entity (session.result .create 0 entity.name) :=
    .unknown hook entity
  cases answer with
  | error error => exact hookFailed_scene hfaces hcalls hpassage
  | ok delta' =>
    refine passed_scene hfaces hcalls hpassage ?_
    split
    · exact makes_nothing (session.sequel_finish delta' entity _)
    · refine (makes_request (.create entity) (session.engine.workflow.create entity)).bind fun answer => ?_
      refine makes_nothing ?_
      cases answer with
      | ok report =>
        exact (keeps_recording (keeps_propagate session.sequel_quiet _)).bind fun _ => session.sequel_finish delta' _ _
      | error error =>
        exact Frame.Keeps.ite (fun _ => Frame.keeps_pure _) fun _ => session.sequel_finish delta' entity _

/-- Reading an entity is nothing that happens. -/
theorem load_passage (session : Session σ) (id : Nat) (s : RunState (σ × List Happening)) :
    ((session.transcribed.load id s).1 =
      match (session.engine.repository.find session.task.subjectType id s.world.1).1 with
      | .ok found => found
      | .error _ => none) ∧ Passage s (session.transcribed.load id s).2 [] [] := by
  have hkeeps : (Frame.unchanged Prod.snd).aside.Keeps (session.transcribed.load id) :=
    steps_load (fun _ _ => keeps_onWorld (Lens.first_carries.keeps_zoom fun _ => trivial)) id
  have hfound : (onWorld (session.transcribed.engine.repository.find session.transcribed.task.subjectType id) s).1 =
      (session.engine.repository.find session.task.subjectType id s.world.1).1 := rfl
  obtain ⟨hhappenings, -, hresults⟩ := hkeeps s
  refine ⟨?_, passage_of_same hhappenings hresults⟩
  simp only [load, bind_apply, hfound]
  cases (session.engine.repository.find session.task.subjectType id s.world.1).1 <;> rfl

/-- Whatever a delta meets, the hooks before the action decide whether there is one. -/
theorem meet_scene (session : Session σ) (delta : Delta) (subject : Subject) (s : RunState (σ × List Happening)) :
    let met := session.transcribed.meet delta subject s
    ∃ happenings results, Passage s met.2 happenings results ∧
      session.Scene s.world.1 delta subject happenings results met.1 := by
  cases hid : subject.id? with
  | none =>
    cases subject with
    | unknown hook => exact create_scene hook delta s.world.1 s
    | present id | gone id => cases hid
  | some id =>
    obtain ⟨hread, hidle⟩ := session.load_passage id s
    rw [meet_eq_treat _ hid, hread]
    cases hfound : (session.engine.repository.find session.task.subjectType id s.world.1).1 with
    | error error => exact ⟨[], [], hidle, .missing hid fun entity hsome => by rw [hfound] at hsome; cases hsome⟩
    | ok found =>
      cases found with
      | none => exact ⟨[], [], hidle, .missing hid fun entity hsome => by rw [hfound] at hsome; cases hsome⟩
      | some entity =>
        have hmeasures := session.measure?_transcribed entity subject
        cases hmeasure : session.measure? entity subject with
        | none =>
          rw [hmeasure] at hmeasures
          dsimp only
          rw [treat_of_none hmeasures]
          exact ⟨_, _, hidle.trans (session.record_passage _ _), .ignored hid hfound hmeasure⟩
        | some measure =>
          rw [hmeasure] at hmeasures
          obtain ⟨act, htaken, hact⟩ := hmeasures
          dsimp only
          rw [treat_of_some htaken]
          obtain ⟨happenings, results, hpassage, hscene⟩ :=
            actOn_scene hid hfound hmeasure act hact delta (session.transcribed.load id s).2
          exact ⟨_, _, hidle.trans hpassage, hscene⟩

end Encounters

/-! ## Deltas -/

/-- Handling a delta fails with the error of an encounter that fails. -/
theorem handle_error_of_encounter {session : Session σ} {delta : Delta} {s : RunState σ} {encounter : Encounter σ}
    (h : encounter ∈ session.encounters delta s) {error : SyncError}
    (herror : (encounter.step encounter.before).1 = .error error) : (session.handle delta s).1 = .error error := by
  obtain ⟨ids, hids, h⟩ := Effect.exists_of_mem_onSuccess h
  obtain ⟨pair, hpair, rfl⟩ := List.mem_map.mp h
  rw [handle_eq_forEach_meet]
  generalize session.correlate delta s = correlated at hids hpair ⊢
  obtain ⟨answer, s'⟩ := correlated
  cases hids
  exact forEach_error_of_mem_trail hpair herror

/-- A run fails with the error of a delta that it hands over. -/
theorem start_error_of_delivery {session : Session σ} {delta : Delta} {s : RunState σ} {world : σ}
    (hlookup : session.engine.registry.lookup session.task.resource session.task.subjectType =
      .ok (session.resource, session.mapping))
    (h : (delta, s) ∈ session.deliveries { world }) {error : SyncError}
    (herror : (session.handle delta s).1 = .error error) :
    (session.engine.start session.task world).1 = .error error := by
  suffices hphases : (session.phases { world }).1 = .error error by
    rw [Engine.start_eq hlookup]
    exact congrArg (Except.map _) hphases
  obtain ⟨_, hopened, h⟩ := Effect.exists_of_mem_onSuccess h
  obtain ⟨position, hlocated, h⟩ := Effect.exists_of_mem_onSuccess h
  obtain ⟨⟨delivered, before⟩, hpair, heq⟩ := List.mem_map.mp h
  obtain ⟨rfl, rfl⟩ : delivered = delta ∧ { before with received := before.received ++ [delivered] } = s :=
    Prod.mk.inj heq
  have hloop : (forEach session.receive _ _).1 = .error error := forEach_error_of_mem_trail hpair herror
  simp only [phases, Effect.andThen_apply, hopened, hlocated]
  generalize session.pull position.stored _ = pulled at hloop ⊢
  obtain ⟨emission, opened⟩ := pulled
  simp only [consume_eq, hloop]

/-- The hooks before an action are called in the order in which they are registered, and the delta is passed on from
each of them to the next.  If one fails, nothing more happens in the encounter than that its failure is recorded, and
not even that if failures abort the run; then the run fails with the error of the hook.  If none fails, the requests
that are made follow the delta that the last one returned.  Every encounter of a delta starts with the delta as it was
received. -/
theorem handle_stops_at_failed_hook (session : Session σ) (delta : Delta) (s : RunState σ) :
    let handled := session.handle delta s
    let twin := session.transcribed.handle delta (s.beside [])
    let encounters := session.transcribed.encounters delta (s.beside [])
    (handled.1 = twin.1 ∧ RunState.Mirrors Beside Eq handled.2 twin.2) ∧
      twin.2.happenings = encounters.flatMap (fun encounter => encounter.appends RunState.happenings) ∧
      handled.2.results = s.results ++ encounters.flatMap Encounter.recorded ∧
      (∀ encounter ∈ encounters, session.Scene encounter.before.world.1 delta encounter.subject
        (encounter.appends RunState.happenings) encounter.recorded (encounter.step encounter.before).1) ∧
      (∀ encounter ∈ encounters, ∀ error,
        (encounter.step encounter.before).1 = .error error → handled.1 = .error error) ∧
      ∀ world, session.engine.registry.lookup session.task.resource session.task.subjectType =
          .ok (session.resource, session.mapping) → (delta, s) ∈ session.deliveries { world } →
        ∀ error, handled.1 = .error error → (session.engine.start session.task world).1 = .error error := by
  intro handled twin encounters
  have hmirrors := session.handle_twin Happening.observer delta s []
  have hcorrelate : ∀ delta, (Frame.unchanged Prod.snd).aside.Keeps (session.transcribed.correlate delta) :=
    steps_correlate fun _ _ => keeps_onWorld (Lens.first_carries.keeps_zoom fun _ => trivial)
  have hhappenings := session.transcribed.handle_appended RunState.happenings (fun delta s => (hcorrelate delta s).1)
    (fun delta subject s => by
      obtain ⟨happenings, _, hpassage, -⟩ := session.meet_scene delta subject s
      exact ⟨happenings, hpassage.happenings.symm⟩) delta (s.beside [])
  have hresults := session.transcribed.handle_appended RunState.results (fun delta s => (hcorrelate delta s).2.2)
    (fun delta subject s => by
      obtain ⟨_, results, hpassage, -⟩ := session.meet_scene delta subject s
      exact ⟨results, hpassage.results.symm⟩) delta (s.beside [])
  refine ⟨hmirrors, hhappenings, hmirrors.2.results.trans hresults, fun encounter hmem => ?_,
    fun encounter hmem error herror => ?_,
    fun world hlookup hdelivered error => start_error_of_delivery hlookup hdelivered⟩
  · obtain ⟨hsession, hdelta⟩ := session_of_mem_encounters hmem
    obtain ⟨happenings, results, hpassage, hscene⟩ := session.meet_scene delta encounter.subject encounter.before
    have hstep : encounter.step = session.transcribed.meet delta encounter.subject := by
      rw [Encounter.step, hsession, hdelta]
    rw [Encounter.recorded, encounter.appends_eq RunState.happenings (hstep ▸ hpassage.happenings),
      encounter.appends_eq RunState.results (hstep ▸ hpassage.results), hstep]
    exact hscene
  · exact hmirrors.1.trans (handle_error_of_encounter hmem herror)

end Session

end Provisioning.Reconciliation

/-! ## A rename that is stopped -/

namespace Provisioning.Memory.Premises

open Reconciliation

/-- An extension that lets no one know of a former name. -/
def discreet : Hooks Premises where
  beforeExisting _ _ delta _ := Effect.ok { delta with previousUid := none }

/-- An extension that lets no entity be updated. -/
def custodian : Hooks Premises where
  beforeExisting _ _ _ _ := Effect.fail ⟨["nothing is to change"]⟩

/-- The session that imports users, with both of these. -/
def guardedImport : Session Premises := attended [discreet, custodian]

/-- The second extension is given what the first one returned, and of the update nothing is left but its failure. -/
theorem rename_stopped :
    let session := guardedImport
    let handled := session.handle rename { world := staff }
    let encounters := session.transcribed.encounters rename (RunState.beside { world := staff } [])
    let concealed := { rename with previousUid := none }
    handled.1 = .ok () ∧
      handled.2.results.map Result.message =
        [some "sync action hook `before_update` failed: nothing is to change"] ∧
      (∀ encounter ∈ encounters, session.Scene encounter.before.world.1 rename encounter.subject
        (encounter.appends RunState.happenings) encounter.recorded (encounter.step encounter.before).1) ∧
      (encounters.flatMap fun encounter => encounter.appends RunState.happenings).map (fun
        | .before extension hook given answer => some (extension, hook, given, answer)
        | _ => none) =
        [some (0, .beforeExisting .update, rename, .ok concealed),
          some (1, .beforeExisting .update, concealed, .error ⟨["nothing is to change"]⟩), none, none] := by
  intro session handled encounters concealed
  obtain ⟨-, hhappenings, -, hscenes, -, -⟩ := Session.handle_stops_at_failed_hook session rename { world := staff }
  refine ⟨by decide +kernel, by decide +kernel, hscenes, ?_⟩
  rw [← hhappenings]
  decide +kernel

end Provisioning.Memory.Premises
