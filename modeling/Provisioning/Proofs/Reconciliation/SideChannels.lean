import Provisioning.Proofs.Reconciliation.Chronicle
import Provisioning.Proofs.Reconciliation.Measures
set_option autoImplicit false

/-!
# Side channels

The audit log and the notifications may fail as they like.  They are offered an event for each recorded result, in
step with the results and also in a run that is aborted, and nothing else of a run depends on what they answer.
-/

namespace Provisioning

open Reconciliation

variable {σ ρ α : Type}

namespace Reconciliation

/-! ## Side channels beside the world -/

/-- The two side channels of an engine. -/
structure SideChannels (ρ : Type) where
  audit : Sink ρ
  notifications : Sink ρ

/-- What the side channels were offered. -/
structure Offers where
  audited : List Event := []
  notified : List Event := []

/-- Offer more events; a run that only pretends offers them to the audit log alone. -/
def Offers.add (dryRun : Bool) (offers : Offers) (events : List Event) : Offers where
  audited := offers.audited ++ events
  notified := offers.notified ++ if dryRun then [] else events

theorem Offers.add_nil (dryRun : Bool) (offers : Offers) : offers.add dryRun [] = offers := by
  cases dryRun <;> simp [add]

theorem Offers.add_add (dryRun : Bool) (offers : Offers) (events later : List Event) :
    (offers.add dryRun events).add dryRun later = offers.add dryRun (events ++ later) := by
  cases dryRun <;> simp [add]

/-- Side channels of which it is noted what they are offered, whether they take it or fail. -/
def SideChannels.overheard (channels : SideChannels ρ) : SideChannels (ρ × Offers) where
  audit event := fun (aside, offers) =>
    let answered := channels.audit event aside
    (answered.1, answered.2, { offers with audited := offers.audited ++ [event] })
  notifications event := fun (aside, offers) =>
    let answered := channels.notifications event aside
    (answered.1, answered.2, { offers with notified := offers.notified ++ [event] })

/-- The engine whose side channels take every event and do nothing with it. -/
def Engine.silenced (engine : Engine σ) : Engine σ := { engine with audit := Sink.drop, notifications := Sink.drop }

/-- The session whose side channels take every event and do nothing with it. -/
def Session.silenced (session : Session σ) : Session σ := { session with engine := session.engine.silenced }

/-- The engine with other side channels, which work beside its world.  The hooks of a task are shown the connector to
their own world. -/
def Engine.announcing (task : SyncTask) (channels : SideChannels ρ) (engine : Engine σ) : Engine (σ × ρ) :=
  { engine.beside
      (match engine.registry.lookup task.resource task.subjectType with
      | .error _ => []
      | .ok (resource, _) => engine.hooks.map (Hooks.beside resource.connector)) with
    audit := fun event => Lens.second.zoom (channels.audit event)
    notifications := fun event => Lens.second.zoom (channels.notifications event) }

/-- The event of a result. -/
def SyncTask.event (task : SyncTask) (result : Result) : Event :=
  { task := task.name, resource := task.resource, result }

/-! ## Results and offers -/

namespace Session

/-- As many events are offered as results are recorded, and of these results. -/
def tally (session : Session σ) (offers : σ → Offers) : Frame (RunState σ) where
  Rel s t := ∃ results, t.results = s.results ++ results ∧
    offers t.world = (offers s.world).add session.dryRun (results.map session.task.event)
  refl s := ⟨[], (List.append_nil _).symm, (Offers.add_nil _ _).symm⟩
  trans := by
    rintro s t u ⟨results, hresults, hoffers⟩ ⟨later, hlater, hoffers'⟩
    refine ⟨results ++ later, ?_, ?_⟩
    · rw [hlater, hresults, List.append_assoc]
    · rw [hoffers', hoffers, Offers.add_add, List.map_append]

/-- It is noted what the side channels are offered, and nothing else touches the notes. -/
structure Announces (offers : σ → Offers) (session : Session σ) : Prop where
  silent : session.silenced.Keeps (Frame.unchanged offers)
  audit : ∀ event world, offers (session.engine.audit event world).2 =
    { offers world with audited := (offers world).audited ++ [event] }
  notifications : ∀ event world, offers (session.engine.notifications event world).2 =
    { offers world with notified := (offers world).notified ++ [event] }
  load : ∀ task, (Frame.unchanged offers).Keeps (session.engine.tokens.load task)
  store : ∀ task token, (Frame.unchanged offers).Keeps (session.engine.tokens.store task token)

variable {session : Session σ} {offers : σ → Offers}

theorem tally_of_aside {step : Step σ α} (h : (Frame.unchanged offers).aside.Keeps step) :
    (session.tally offers).Keeps step :=
  h.mono fun hrel => ⟨[], hrel.2.2.trans (List.append_nil _).symm, hrel.1.trans (Offers.add_nil _ _).symm⟩

namespace Announces

variable (h : session.Announces offers)

include h

theorem record (result : Result) : (session.tally offers).Keeps (session.record result) := by
  intro s
  refine ⟨[result], record_results session result s, ?_⟩
  unfold Session.record
  simp only [bind_apply]
  split <;> rename_i hdry
  · simp only [hdry, Offers.add, if_true, List.append_nil]
    exact h.audit _ s.world
  · simp only [bind_apply]
    refine (h.notifications _ _).trans ?_
    rw [onWorld_apply, h.audit, Bool.eq_false_iff.mpr hdry]
    rfl

theorem connector : session.resource.connector.Keeps (Frame.unchanged offers) := h.silent.connector

theorem hooks : ∀ one ∈ session.engine.hooks, one.Keeps (Frame.unchanged offers) := h.silent.hooks

theorem hookFailed (error : SyncError) (result : Result) :
    (session.tally offers).Keeps (session.hookFailed error result) := steps_hookFailed h.record error result

theorem finish (delta : Delta) (entity : Entity) (result : Result) :
    (session.tally offers).Keeps (session.finish delta entity result) :=
  steps_finish (tally_of_aside (keeps_runAfter h.connector delta entity result _ h.hooks))
    (h.record result)

theorem create (hook : NewHook) (delta : Delta) : (session.tally offers).Keeps (session.create hook delta) :=
  steps_create (fun entity => tally_of_aside (keeps_beforeNew h.connector hook _ h.hooks delta entity))
    h.hookFailed (fun entity => tally_of_aside (keeps_onWorld (h.silent.create entity)))
    (fun tasks => tally_of_aside (keeps_propagate h.silent.toQuiet tasks)) h.finish

theorem treat (delta : Delta) (subject : Subject) (entity : Entity) :
    (session.tally offers).Keeps (session.treat delta subject entity) := by
  cases hmeasure : session.measure? entity subject with
  | none =>
    intro s
    rw [treat_of_none hmeasure]
    exact h.record _ s
  | some measure =>
    rw [treat_of_some hmeasure]
    have hact : ∀ delta, (Frame.unchanged offers).aside.Keeps (measure.act delta) := keeps_measure h.silent hmeasure
    exact steps_actOn
      (tally_of_aside (keeps_beforeExisting h.connector measure.hook entity _ h.hooks delta))
      (fun error => h.hookFailed error measure.base) (fun delta => tally_of_aside (hact delta))
      fun delta result => h.finish delta entity result

theorem meet (delta : Delta) (subject : Subject) : (session.tally offers).Keeps (session.meet delta subject) := by
  cases hid : subject.id? with
  | none =>
    cases subject with
    | unknown hook => exact h.create hook delta
    | present id | gone id => cases hid
  | some id =>
    have hload : (Frame.unchanged offers).aside.Keeps (session.load id) := keeps_load h.silent.attends id
    intro s
    have hloaded : (session.tally offers).Rel s (session.load id s).2 := tally_of_aside hload s
    rw [meet_eq_treat session hid]
    split
    · exact hloaded
    · exact (session.tally offers).trans hloaded (h.treat delta subject _ _)

/-- Handling a delta offers an event for each result that it records. -/
theorem handle (delta : Delta) : (session.tally offers).Keeps (session.handle delta) := by
  intro s
  have hcorrelate : (Frame.unchanged offers).aside.Keeps (session.correlate delta) :=
    keeps_correlate h.silent.attends delta
  have hcorrelated : (session.tally offers).Rel s (session.correlate delta s).2 := tally_of_aside hcorrelate s
  rw [handle_eq_forEach_meet]
  generalize session.correlate delta s = correlated at hcorrelated ⊢
  obtain ⟨answer, s'⟩ := correlated
  cases answer with
  | error error => exact hcorrelated
  | ok ids => exact (session.tally offers).trans hcorrelated (steps_forEach (h.meet delta) _ s')

/-- So do the phases of a run, wherever they end. -/
theorem phases : (session.tally offers).Keeps session.phases := by
  have honce : ∀ (hook : Hook) (call : Hooks σ → Profile σ → Effect σ Failure Unit),
      (∀ one ∈ session.engine.hooks, ∀ s, (Frame.unchanged offers).Keeps (call one (session.profile s))) →
        (session.tally offers).Keeps (session.runOnce hook call session.engine.hooks) := fun hook call hcall =>
    tally_of_aside (keeps_runOnce hook call _ hcall)
  refine steps_phases (steps_gather ?_ ?_ (fun stored => ?_) fun delta s => ?_) ?_ fun latest => ?_
  · exact honce _ _ fun one hone _ => (h.hooks one hone).beforeAll _ h.connector
  · exact tally_of_aside (keeps_locate h.connector h.load)
  · exact tally_of_aside (keeps_pull h.connector stored)
  · exact h.handle delta { s with received := s.received ++ [delta] }
  · exact honce _ _ fun one hone _ => (h.hooks one hone).afterAll _ h.connector
  · exact tally_of_aside (keeps_persist h.store latest)

end Announces

end Session

/-! ## The world beside the side channels -/

/-- An extension with something beside its world leaves that alone. -/
theorem Hooks.keeps_beside {frame : Frame (σ × ρ)} (hfirst : Lens.first.Carries Frame.anything frame)
    (connector : Connector σ) (hooks : Hooks σ) : (hooks.beside connector).Keeps frame where
  beforeAll _ _ := hfirst.keeps_zoom fun _ => trivial
  beforeNew _ _ _ _ _ := hfirst.keeps_zoom fun _ => trivial
  beforeExisting _ _ _ _ _ := hfirst.keeps_zoom fun _ => trivial
  after _ _ _ _ _ := hfirst.keeps_zoom fun _ => trivial
  afterAll _ _ := hfirst.keeps_zoom fun _ => trivial

namespace Engine

variable {engine : Engine σ} {task : SyncTask} {resource : Resource σ} {mapping : Mapping}

theorem lookup_announcing (engine : Engine σ) (task : SyncTask) (channels : SideChannels ρ) :
    (engine.announcing task channels).registry.lookup task.resource task.subjectType =
      (engine.registry.lookup task.resource task.subjectType).map fun found =>
        (found.1.through (Connector.within Lens.first), found.2) := Registry.lookup_through

theorem hooks_announcing (hlookup : engine.registry.lookup task.resource task.subjectType = .ok (resource, mapping))
    (channels : SideChannels ρ) :
    (engine.announcing task channels).hooks = engine.hooks.map (Hooks.beside resource.connector) := by
  simp only [announcing, hlookup]
  rfl

/-- Whatever side channels work beside its world, the engine goes the way that it goes if they take every event. -/
theorem mirrors_announcing (engine : Engine σ) (task : SyncTask) (channels : SideChannels ρ) :
    Engine.Mirrors Beside Eq task engine.silenced (engine.announcing task channels) := by
  have htwin := engine.lookup_announcing task channels
  cases hlookup : engine.registry.lookup task.resource task.subjectType with
  | error error =>
    rw [hlookup] at htwin
    exact .unmapped error hlookup htwin
  | ok found =>
    obtain ⟨resource, mapping⟩ := found
    rw [hlookup] at htwin
    have hhooks := hooks_announcing hlookup channels
    refine .mapped resource _ mapping hlookup htwin ?_
    exact {
      task := rfl
      mapping := rfl
      dryRun := rfl
      find := fun _ _ => alike_within _
      correlation := fun _ _ => alike_within _
      loadToken := fun _ => alike_within _
      latestToken := fun _ => alike_within _
      sync := fun _ _ _ => alike_within _
      search := fun _ _ _ => alike_within _
      audit := fun _ _ _ hrel => hrel
      hooks := by
        rw [hhooks]
        refine List.forall₂_map_right_iff.mpr (List.forall₂_same.mpr fun hooks _ => ?_)
        exact Session.hooks_mirror_beside rfl rfl (by rw [hhooks, List.length_map]; rfl) hooks
      acts := fun _ =>
        { create := fun _ => alike_within _
          update := fun _ _ _ => alike_within _
          delete := fun _ _ => alike_within _
          notifications := fun _ _ _ hrel => hrel
          tasksFor := fun entity change resources => (Propagation.tasksFor_through _ entity change resources).symm
          propagate := Session.abreast_propagate (fun _ connector => connector.mirrors_within) fun _ => rfl
          store := fun _ _ => alike_within _ } }

/-- Overheard side channels beside the world note what they are offered, and nothing else reaches the notes. -/
theorem announces_overheard
    (hlookup : engine.registry.lookup task.resource task.subjectType = .ok (resource, mapping))
    (channels : SideChannels ρ) :
    Session.Announces (fun world : σ × ρ × Offers => world.2.2)
      { engine := engine.announcing task channels.overheard, task,
        resource := resource.through (Connector.within Lens.first), mapping } := by
  have hfirst : (Lens.first : Lens (σ × ρ × Offers) σ).Carries Frame.anything
      (Frame.unchanged fun world => world.2.2) := fun _ _ _ => rfl
  have hsilent : Session.Keeps (Frame.unchanged fun world : σ × ρ × Offers => world.2.2) (Session.silenced
      { engine := engine.announcing task channels.overheard, task,
        resource := resource.through (Connector.within Lens.first), mapping }) :=
    { registry := engine.registry.keeps_within hfirst
      audit := fun _ => Frame.keeps_ok ()
      notifications := fun _ => Frame.keeps_ok ()
      find := fun _ _ => hfirst.keeps_zoom fun _ => trivial
      create := fun _ => hfirst.keeps_zoom fun _ => trivial
      update := fun _ _ _ => hfirst.keeps_zoom fun _ => trivial
      delete := fun _ _ => hfirst.keeps_zoom fun _ => trivial
      correlation := fun _ _ => hfirst.keeps_zoom fun _ => trivial
      hooks := fun one hone => by
        have hmem : one ∈ (engine.announcing task channels.overheard).hooks := hone
        rw [hooks_announcing hlookup] at hmem
        obtain ⟨hooks, -, rfl⟩ := List.mem_map.mp hmem
        exact hooks.keeps_beside hfirst resource.connector
      connector := resource.connector.keeps_anything.within hfirst }
  exact {
    silent := hsilent
    audit := fun _ _ => rfl
    notifications := fun _ _ => rfl
    load := fun _ => hfirst.keeps_zoom fun _ => trivial
    store := fun _ _ => hfirst.keeps_zoom fun _ => trivial }

/-- Side channels are offered the results as they are recorded, each once and in their order, also in a run that is
aborted; a run that only pretends offers nothing to the notifications.  Whether they take or fail what they are offered,
the run answers, records and hands over the same, and it leaves the same world, as if they took everything. -/
theorem start_indifferent_to_side_channels (engine : Engine σ) (task : SyncTask) (channels : SideChannels ρ)
    (world : σ) (aside : ρ) :
    let silent := engine.silenced.start task world
    let announced := (engine.announcing task channels.overheard).start task (world, aside, {})
    let offers := announced.2.world.2.2
    offers.audited = announced.2.results.map task.event ∧
      offers.notified = (if engine.dryRun || task.dryRun then [] else announced.2.results.map task.event) ∧
      announced.1 = silent.1 ∧ announced.2.world.1 = silent.2.world ∧ announced.2.received = silent.2.received ∧
      announced.2.results = silent.2.results ∧ announced.2.propagation = silent.2.propagation := by
  intro silent announced offers
  obtain ⟨hanswer, hafter⟩ := (engine.mirrors_announcing task channels.overheard).start (t := (world, aside, {})) rfl
  have hoffers : offers = Offers.add (engine.dryRun || task.dryRun) {} (announced.2.results.map task.event) := by
    have htwin := engine.lookup_announcing task channels.overheard
    cases hlookup : engine.registry.lookup task.resource task.subjectType with
    | error error =>
      rw [hlookup] at htwin
      simp only [offers, announced, start_error htwin]
      exact (Offers.add_nil _ _).symm
    | ok found =>
      obtain ⟨resource, mapping⟩ := found
      rw [hlookup] at htwin
      obtain ⟨results, hresults, htallied⟩ :=
        (announces_overheard hlookup channels).phases { world := (world, aside, {}) }
      simp only [offers, announced, start_eq htwin, hresults]
      exact htallied
  refine ⟨?_, ?_, hanswer.symm, hafter.world, hafter.received.symm, hafter.results.symm, hafter.propagation.symm⟩
  · rw [hoffers]
    rfl
  · rw [hoffers]
    rfl

end Engine

end Reconciliation

end Provisioning
