import Provisioning.Proofs.Reconciliation.Chronicle
import Provisioning.Proofs.Reconciliation.Stream
set_option autoImplicit false

/-!
# Indifference to propagation

What becomes of a propagation is only reported.  Two runs over resources that answer probes and writes differently,
or can do different things, handle the same deltas in the same way: they make the same requests, which are answered
alike, audit and notify of the same results, and keep the same token.  They part only in what the resources hold and
in what is reported of the propagation.
-/

namespace Provisioning

open Reconciliation

variable {σ τ α : Type}

/-! ## Other answers -/

/-- The connector with the capabilities of another one, and with its answers to probes and writes. -/
def Connector.answering (connector answers : Connector σ) : Connector σ :=
  { connector with
    supports := answers.supports
    create := answers.create
    update := answers.update
    delete := answers.delete
    getObject := answers.getObject }

theorem Connector.answering_serves {frame : Frame σ} (connector : Connector σ) {answers : Connector σ}
    (h : answers.Serves frame) : (connector.answering answers).Serves frame :=
  ⟨h.create, h.update, h.delete, h.getObject⟩

namespace Reconciliation

/-- The engine over resources that answer otherwise. -/
def Engine.answering (answers : (resource : String) → Connector σ) (engine : Engine σ) : Engine σ :=
  { engine with registry := engine.registry.through fun name connector => connector.answering (answers name) }

/-- The session over resources that answer otherwise. -/
def Session.answering (answers : (resource : String) → Connector σ) (session : Session σ) : Session σ :=
  { session with
    engine := session.engine.answering answers
    resource := session.resource.through fun connector => connector.answering (answers session.task.resource) }

/-! ## What is local -/

/-- The profile of a run over resources that answer otherwise, with what became of the propagation there. -/
def Profile.answering (answers : Connector σ) (propagation : List Propagation.Report) (profile : Profile σ) :
    Profile σ :=
  { profile with connector := profile.connector.answering answers, propagation }

/-- Hooks that look neither at how the connector answers probes and writes nor at what became of the propagation. -/
structure Hooks.Blind (hooks : Hooks σ) : Prop where
  beforeAll : ∀ answers propagation profile,
    hooks.beforeAll (profile.answering answers propagation) = hooks.beforeAll profile
  beforeNew : ∀ answers propagation hook profile,
    hooks.beforeNew hook (profile.answering answers propagation) = hooks.beforeNew hook profile
  beforeExisting : ∀ answers propagation hook profile,
    hooks.beforeExisting hook (profile.answering answers propagation) = hooks.beforeExisting hook profile
  after : ∀ answers propagation profile, hooks.after (profile.answering answers propagation) = hooks.after profile
  afterAll : ∀ answers propagation profile,
    hooks.afterAll (profile.answering answers propagation) = hooks.afterAll profile

/-- Hooks that work on the local part of the world, whatever became of the propagation. -/
structure Hooks.Local (view : σ → τ) (hooks : Hooks σ) : Prop extends hooks.Blind where
  localAll : ∀ profile, Confined view (hooks.beforeAll profile)
  localNew : ∀ hook profile delta entity, Confined view (hooks.beforeNew hook profile delta entity)
  localExisting : ∀ hook profile delta entity, Confined view (hooks.beforeExisting hook profile delta entity)
  localAfter : ∀ profile delta entity result, Confined view (hooks.after profile delta entity result)
  localAfterAll : ∀ profile, Confined view (hooks.afterAll profile)

/-- Beside its resources, an engine works on the local part of the world. -/
structure Engine.Local (view : σ → τ) (engine : Engine σ) : Prop where
  find : ∀ t id, Confined view (engine.repository.find t id)
  create : ∀ entity, Confined view (engine.workflow.create entity)
  update : ∀ t id patch, Confined view (engine.workflow.update t id patch)
  delete : ∀ t id, Confined view (engine.workflow.delete t id)
  correlation : ∀ delta mapping, Confined view (engine.correlation delta mapping)
  store : ∀ task token, Confined view (engine.tokens.store task token)
  audit : ∀ event, Confined view (engine.audit event)
  notifications : ∀ event, Confined view (engine.notifications event)
  hooks : ∀ hooks ∈ engine.hooks, hooks.Local view

/-- The resources of an engine leave the local part of the world alone. -/
def Engine.Remote (view : σ → τ) (engine : Engine σ) : Prop :=
  ∀ name, engine.registry.Serves (Frame.unchanged view) name

theorem Engine.Remote.answering {view : σ → τ} {answers : (resource : String) → Connector σ}
    (h : ∀ name, (answers name).Serves (Frame.unchanged view)) (engine : Engine σ) :
    (engine.answering answers).Remote view := fun name =>
  Registry.serves_through fun resource _ => resource.connector.answering_serves (h name)

/-- What a run hands back, but for what is reported of the propagation. -/
def Summary.inward (summary : Summary) : Summary := { summary with propagation := [] }

/-! ## The local part of a chronicle -/

/-- Everything but probes and writes. -/
def Entry.isLocal : Entry → Bool
  | .called _ => false
  | .replied _ | .audited _ | .notified _ | .stored .. => true

/-- The local part of a world and of the chronicle beside it. -/
def inland (view : σ → τ) (pair : σ × List Entry) : τ × List Entry := (view pair.1, pair.2.filter Entry.isLocal)

section Inland

variable {view : σ → τ} {operation : StateM σ α}

theorem confined_zoom (h : Confined view operation) : Confined (inland view) (Lens.first.zoom operation) := by
  intro s t hsame
  obtain ⟨hview, hchronicle⟩ := Prod.ext_iff.mp hsame
  obtain ⟨hanswer, hafter⟩ := h s.1 t.1 hview
  exact ⟨hanswer, Prod.ext hafter hchronicle⟩

theorem confined_noted (h : Confined view operation) (note : α → Entry) :
    Confined (inland view) (noted note operation) := by
  intro s t hsame
  obtain ⟨hview, hchronicle⟩ := Prod.ext_iff.mp hsame
  obtain ⟨hanswer, hafter⟩ := h s.1 t.1 hview
  refine ⟨hanswer, Prod.ext hafter ?_⟩
  simp only [inland] at hchronicle
  simp only [inland, noted, hanswer, List.filter_append, hchronicle]

/-- A call is nothing local, nor is what it leaves behind. -/
theorem unchanged_of_called (h : (Frame.unchanged view).Keeps operation) (call : RemoteCall) :
    (Frame.unchanged (inland view)).Keeps (noted (fun _ => .called call) operation) := by
  intro s
  refine Prod.ext (h s.1) ?_
  simp only [inland, noted, List.filter_append]
  exact List.append_nil _

theorem logged_serves_inland {connector : Connector σ} (h : connector.Serves (Frame.unchanged view))
    (resource : String) : (connector.logged .called resource).Serves (Frame.unchanged (inland view)) where
  create c a o := unchanged_of_called (h.create c a o) _
  update c u a o := unchanged_of_called (h.update c u a o) _
  delete c u o := unchanged_of_called (h.delete c u o) _
  getObject c u o := unchanged_of_called (h.getObject c u o) _

end Inland

namespace Session

variable {view : σ → τ} {session : Session σ} {answers : (resource : String) → Connector σ}

theorem keeps_propagate_inland (session : Session σ) (h : session.engine.Remote view)
    (tasks : List Propagation.Task) :
    (Frame.unchanged (inland view)).aside.Keeps (session.chronicled.propagate tasks) := by
  refine propagate_keeps_of_serves fun _ task _ => Registry.serves_through fun resource hget => ?_
  exact logged_serves_inland (h task.resource resource hget) task.resource

/-- Two propagations leave the local part of the world as it is, whatever becomes of them. -/
theorem abreast_propagate_inland {left right : Session σ} (hleft : left.engine.Remote view)
    (hright : right.engine.Remote view) (tasks : List Propagation.Task) :
    Abreast (RunState.Mirrors (Same (inland view)) fun _ _ => True) (left.chronicled.propagate tasks)
      (right.chronicled.propagate tasks) := by
  intro s t hrel
  obtain ⟨hworld, hreceived, hresults⟩ := left.keeps_propagate_inland hleft tasks s
  obtain ⟨hworld', hreceived', hresults'⟩ := right.keeps_propagate_inland hright tasks t
  refine ⟨?_, ?_, ?_, trivial⟩
  · exact (hworld.trans hrel.world).trans hworld'.symm
  · exact (hreceived.trans hrel.received).trans hreceived'.symm
  · exact (hresults.trans hrel.results).trans hresults'.symm

/-! ## Up to the pull -/

/-- Hooks are shown a connector that answers otherwise, and what became of another propagation. -/
theorem profile_answering {s t : RunState (σ × List Entry)} (hresults : s.results = t.results) :
    ((session.answering answers).chronicled.profile t).showing (session.answering answers).resource.connector =
      ((session.chronicled.profile s).showing session.resource.connector).answering (answers session.task.resource)
        t.propagation := by
  have hcount : (session.answering answers).chronicled.engine.hooks.length = session.chronicled.engine.hooks.length :=
    (Hooks.length_twins _ _ _ _).trans (Hooks.length_twins _ _ _ _).symm
  simp only [Profile.showing, Profile.answering, profile, hcount, hresults]
  rfl

/-- Before anything is propagated, there is no difference at all. -/
theorem approach_answering (hblind : ∀ hooks ∈ session.engine.hooks, hooks.Blind) :
    (session.answering answers).chronicled.approach = session.chronicled.approach := by
  have honce : (session.answering answers).chronicled.runOnce .beforeAll Hooks.beforeAll
      (session.answering answers).chronicled.engine.hooks =
        session.chronicled.runOnce .beforeAll Hooks.beforeAll session.chronicled.engine.hooks := by
    rw [hooks_chronicled, hooks_chronicled]
    refine (eq_of_alike (Corresponds.runOnce _ _ _ ?_)).symm
    refine List.forall₂_map_left_iff.mpr (List.forall₂_map_right_iff.mpr (List.forall₂_same.mpr fun hooks hmem => ?_))
    intro s t hrel
    obtain rfl := hrel.eq
    simp only [Hooks.beside, profile_answering rfl, (hblind hooks hmem).beforeAll]
    exact alike_self _
  have hlocate : (session.answering answers).chronicled.locate = session.chronicled.locate := rfl
  have hpull : (session.answering answers).chronicled.pull = session.chronicled.pull := rfl
  simp only [approach, honce, hlocate, hpull]

/-! ## From the pull on -/

theorem hooks_mirror_answering {hooks : Hooks σ} (h : hooks.Local view) :
    Hooks.Mirrors (Same (inland view)) (fun _ _ => True) session.chronicled (session.answering answers).chronicled
      (hooks.beside session.resource.connector) (hooks.beside (session.answering answers).resource.connector) := by
  constructor
  all_goals
    intros
    simp only [Hooks.beside, profile_answering (RunState.Mirrors.results ‹_›)]
  case beforeAll => exact h.beforeAll .. ▸ confined_zoom (h.localAll _)
  case beforeNew => exact h.beforeNew .. ▸ confined_zoom (h.localNew _ _ _ _)
  case beforeExisting => exact h.beforeExisting .. ▸ confined_zoom (h.localExisting _ _ _ _)
  case after => exact h.after .. ▸ confined_zoom (h.localAfter _ _ _ _)
  case afterAll => exact h.afterAll .. ▸ confined_zoom (h.localAfterAll _)

theorem corresponds_answering (hlocal : session.engine.Local view) (hremote : session.engine.Remote view)
    (hother : (session.engine.answering answers).Remote view) :
    session.chronicled.Corresponds (Same (inland view)) (fun _ _ => True) (session.answering answers).chronicled where
  task := rfl
  mapping := rfl
  dryRun := rfl
  find t id := confined_zoom (hlocal.find t id)
  correlation delta mapping := confined_zoom (hlocal.correlation delta mapping)
  audit event := (confined_noted (hlocal.audit event) _).abreast
  hooks := by
    rw [hooks_chronicled, hooks_chronicled]
    exact List.forall₂_map_left_iff.mpr <| List.forall₂_map_right_iff.mpr <| List.forall₂_same.mpr fun hooks hmem =>
      hooks_mirror_answering (hlocal.hooks hooks hmem)
  acts _ :=
    { create := fun entity => confined_noted (hlocal.create entity) _
      update := fun t id patch => confined_noted (hlocal.update t id patch) _
      delete := fun t id => confined_noted (hlocal.delete t id) _
      notifications := fun event => (confined_noted (hlocal.notifications event) _).abreast
      tasksFor := fun entity change resources => by
        rw [tasksFor_twin, tasksFor_twin]
        exact (Propagation.tasksFor_through _ entity change resources).symm
      propagate := abreast_propagate_inland hremote hother
      store := fun task token => confined_noted (hlocal.store task token) _ }

/-- Sessions over resources that answer differently go through their phases alike, but for what is reported of the
propagation. -/
theorem phases_answering (hlocal : session.engine.Local view) (hremote : session.engine.Remote view)
    (hother : (session.engine.answering answers).Remote view) (s : RunState (σ × List Entry)) :
    let finished := session.chronicled.phases s
    let other := (session.answering answers).chronicled.phases s
    finished.1 = other.1 ∧ RunState.Mirrors (Same (inland view)) (fun _ _ => True) finished.2 other.2 := by
  have hcorresponds := corresponds_answering hlocal hremote hother
  have happroach : (session.answering answers).chronicled.approach = session.chronicled.approach :=
    approach_answering fun hooks hmem => (hlocal.hooks hooks hmem).toBlind
  intro finished other
  -- Up to the pull the two are one and the same, so that they pull the same; from there on they only correspond.
  simp only [finished, other, phases_eq_approach, happroach, Effect.andThen_apply _ _ s]
  cases (session.chronicled.approach s).1 with
  | error error => exact ⟨rfl, rfl, rfl, rfl, trivial⟩
  | ok found =>
    obtain ⟨position, emission⟩ := found
    refine Alike.andThen (hcorresponds.consume emission) (fun _ => ?_) _ _ ⟨rfl, rfl, rfl, trivial⟩
    refine (Corresponds.runOnce _ _ _ (hcorresponds.hooks.imp fun _ _ hone => hone.afterAll)).andThen fun _ => ?_
    exact hcorresponds.persist position.latest

/-- What a session comes to, and the local part of its chronicle, are the same over resources that answer
differently. -/
theorem phases_indifferent (hlocal : session.engine.Local view) (hremote : session.engine.Remote view)
    (hother : (session.engine.answering answers).Remote view) (s : RunState σ) :
    let finished := session.phases s
    let other := (session.answering answers).phases s
    finished.1 = other.1 ∧ RunState.Mirrors (Same view) (fun _ _ => True) finished.2 other.2 ∧
      (session.chronicled.phases (s.beside [])).2.world.2.filter Entry.isLocal =
        ((session.answering answers).chronicled.phases (s.beside [])).2.world.2.filter Entry.isLocal := by
  intro finished other
  obtain ⟨hanswer, hafter⟩ := session.phases_twin Entry.observer s []
  obtain ⟨hanswer', hafter'⟩ := (session.answering answers).phases_twin Entry.observer s []
  obtain ⟨hsame, htwins⟩ := phases_answering hlocal hremote hother (s.beside [])
  obtain ⟨hview, hchronicle⟩ := Prod.ext_iff.mp htwins.world
  refine ⟨(hanswer.trans hsame).trans hanswer'.symm, ⟨?_, ?_, ?_, trivial⟩, hchronicle⟩
  · calc view finished.2.world
        = view (session.chronicled.phases (s.beside [])).2.world.1 := congrArg view hafter.world.symm
      _ = view ((session.answering answers).chronicled.phases (s.beside [])).2.world.1 := hview
      _ = view other.2.world := congrArg view hafter'.world
  · exact (hafter.received.trans htwins.received).trans hafter'.received.symm
  · exact (hafter.results.trans htwins.results).trans hafter'.results.symm

/-- Sessions that came to the same results hand back the same, whatever is reported of the propagation. -/
theorem back_answering {s t : RunState σ} (hresults : s.results = t.results)
    (answer : Except SyncError (Option SyncToken)) :
    (answer.map (session.summary s)).map Summary.inward =
      (answer.map ((session.answering answers).summary t)).map Summary.inward := by
  cases answer with
  | error error => rfl
  | ok token =>
    simp only [Except.map, summary, hresults]
    rfl

end Session

namespace Engine

variable {view : σ → τ}

/-- Runs over resources that answer probes and writes differently and can do different things, be they primary or not:
where everything else works on the local part of the world, and the resources leave that part alone, they take over
the same deltas and end in the same way, with equal results and reports, the same token kept, and the same local part
of the world.  On the way, they make the same requests with the same answers, and audit, notify of and store the same.
Only what is reported of the propagation may differ. -/
theorem start_indifferent {engine : Engine σ} (hlocal : engine.Local view) (hremote : engine.Remote view)
    (answers : (resource : String) → Connector σ) (hanswers : ∀ name, (answers name).Serves (Frame.unchanged view))
    (task : SyncTask) (world : σ) :
    let run := engine.start task world
    let other := (engine.answering answers).start task world
    run.1.map Summary.inward = other.1.map Summary.inward ∧
      run.2.received = other.2.received ∧ run.2.results = other.2.results ∧ view run.2.world = view other.2.world ∧
      (engine.chronicle task world).filter Entry.isLocal =
        ((engine.answering answers).chronicle task world).filter Entry.isLocal := by
  cases hlookup : engine.registry.lookup task.resource task.subjectType with
  | error error =>
    have hother : (engine.answering answers).registry.lookup task.resource task.subjectType = .error error :=
      Registry.lookup_through.trans (congrArg _ hlookup)
    simp only [chronicle, start_error hlookup, start_error hother, hlookup, hother, and_self]
  | ok found =>
    let session : Session σ := { engine, task, resource := found.1, mapping := found.2 }
    have hother : (engine.answering answers).registry.lookup task.resource task.subjectType =
        .ok ((session.answering answers).resource, found.2) :=
      Registry.lookup_through.trans (congrArg _ hlookup)
    obtain ⟨hanswer, hafter, hchronicle⟩ :=
      session.phases_indifferent hlocal hremote (Remote.answering hanswers engine) { world }
    rw [start_eq hlookup, start_eq hother]
    refine ⟨?_, hafter.received, hafter.results, hafter.world, ?_⟩
    · exact (Session.back_answering hafter.results _).trans (congrArg _ (congrArg _ hanswer))
    · simp only [chronicle, hlookup, hother]
      exact hchronicle

end Engine

end Reconciliation

/-! ## All systems in memory -/

namespace Memory.Premises

/-- What is local there: the workflow with its repository, and the token store. -/
def inhouse (premises : Premises) : Office × TokenTable := (premises.office, premises.tokens)

theorem confined_office {α : Type} (operation : StateM Office α) : Confined inhouse (officeLens.zoom operation) := by
  intro s t hsame
  obtain ⟨hoffice, htokens⟩ := Prod.ext_iff.mp hsame
  simp only [inhouse] at hoffice htokens
  simp only [Same, inhouse, Lens.zoom_apply, officeLens, hoffice, htokens, and_self]

theorem confined_tokens {α : Type} (operation : StateM TokenTable α) :
    Confined inhouse (tokensLens.zoom operation) := by
  intro s t hsame
  obtain ⟨hoffice, htokens⟩ := Prod.ext_iff.mp hsame
  simp only [inhouse] at hoffice htokens
  simp only [Same, inhouse, Lens.zoom_apply, tokensLens, hoffice, htokens, and_self]

/-- An extension that objects to more than one result. -/
def auditor : Hooks Premises where
  after profile _ _ _ := if profile.results.isEmpty then Effect.ok () else Effect.fail ⟨["enough"]⟩

theorem auditor_local : auditor.Local inhouse where
  beforeAll _ _ _ := rfl
  beforeNew _ _ _ _ := rfl
  beforeExisting _ _ _ _ := rfl
  after _ _ _ := rfl
  afterAll _ _ _ := rfl
  localAll _ := alike_ok _
  localNew _ _ _ _ := alike_pure _
  localExisting _ _ _ _ := alike_ok _
  localAfter _ _ _ _ := .ite (fun _ => alike_ok _) fun _ => alike_fail _
  localAfterAll _ := alike_ok _

/-- The resource, on the outcome of which everything depends. -/
def leading : Registry Premises := Registry.insert {} { resource plainConnector with primary := true }

/-- The engine over that resource, with the extension. -/
def supervised : Engine Premises := { engine leading with hooks := [auditor] }

theorem supervised_local : supervised.Local inhouse where
  find _ _ := confined_office _
  create _ := confined_office _
  update _ _ _ := confined_office _
  delete _ _ := confined_office _
  correlation _ _ := confined_office _
  store _ _ := confined_tokens _
  audit _ := alike_ok _
  notifications _ := alike_ok _
  hooks hooks hmem := by
    cases List.mem_singleton.mp hmem
    exact auditor_local

theorem supervised_remote : supervised.Remote inhouse := by
  have hcarries : directoryLens.Carries Frame.anything (Frame.unchanged inhouse) := fun _ _ _ => rfl
  have hregistry : leading.Keeps (Frame.unchanged inhouse) :=
    Registry.keeps_empty.insert ((Connector.keeps_anything _).within hcarries)
  exact hregistry.serves

/-- A resource that cannot be reached for any probe and refuses every write. -/
def unreachable : Connector Premises :=
  { plainConnector with
    supports := fun _ _ => false
    create := fun _ _ _ => Effect.fail (.operationFailed "down")
    update := fun _ _ _ _ => Effect.fail (.operationFailed "down")
    delete := fun _ _ _ => Effect.fail (.operationFailed "down")
    getObject := fun _ _ _ => Effect.fail (.operationFailed "down") }

theorem unreachable_serves : unreachable.Serves (Frame.unchanged inhouse) where
  create _ _ _ := Frame.keeps_fail _
  update _ _ _ _ := Frame.keeps_fail _
  delete _ _ _ := Frame.keeps_fail _
  getObject _ _ _ := Frame.keeps_fail _

/-- The task that reads every user in and assigns the new ones. -/
def enrolment : SyncTask := { readEveryone with unmatching := .assign }

/-- One user is known, and another one is assigned, whether or not the resource takes the write. -/
theorem enrolment_indifferent :
    let run := supervised.start enrolment staff
    let other := (supervised.answering fun _ => unreachable).start enrolment staff
    run.2.propagation.map Propagation.Report.status = [.success] ∧
      other.2.propagation.map Propagation.Report.status = [.failure] ∧
      run.2.results.map Result.operation = [.update, .create] ∧
      run.1.map Summary.inward = other.1.map Summary.inward ∧ inhouse run.2.world = inhouse other.2.world := by
  intro run other
  obtain ⟨hanswer, -, -, hlocal, -⟩ :=
    Engine.start_indifferent supervised_local supervised_remote (fun _ => unreachable) (fun _ => unreachable_serves)
      enrolment staff
  refine ⟨by decide +kernel, by decide +kernel, by decide +kernel, hanswer, ?_⟩
  simp only [run, other]
  exact hlocal

end Memory.Premises

end Provisioning
