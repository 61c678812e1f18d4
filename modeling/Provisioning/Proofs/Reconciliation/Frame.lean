import Provisioning.Reconciliation.Run
import Provisioning.Proofs.Propagation.Frame
set_option autoImplicit false

/-!
# Frames of reconciliation

A run reaches the world through the systems of its engine and through nothing else.  A frame that all of them
keep is therefore kept by the handling of every delta, whatever it correlates to, whatever the rules of the task
say and wherever a hook or a request fails.  Handling also leaves the list of received deltas as it is, and only
adds to the list of results.
-/

namespace Provisioning

variable {σ τ α β : Type}

namespace Reconciliation

/-- Every hook keeps the frame, provided that the connector it is shown does. -/
structure Hooks.Keeps (frame : Frame σ) (hooks : Hooks σ) : Prop where
  beforeAll : ∀ profile : Profile σ, profile.connector.Keeps frame → frame.Keeps (hooks.beforeAll profile)
  beforeNew : ∀ (hook : NewHook) (profile : Profile σ) (delta : Delta) (entity : Entity),
    profile.connector.Keeps frame → frame.Keeps (hooks.beforeNew hook profile delta entity)
  beforeExisting : ∀ (hook : ExistingHook) (profile : Profile σ) (delta : Delta) (entity : Entity),
    profile.connector.Keeps frame → frame.Keeps (hooks.beforeExisting hook profile delta entity)
  after : ∀ (profile : Profile σ) (delta : Delta) (entity : Entity) (result : Result),
    profile.connector.Keeps frame → frame.Keeps (hooks.after profile delta entity result)
  afterAll : ∀ profile : Profile σ, profile.connector.Keeps frame → frame.Keeps (hooks.afterAll profile)

/-- What the engine sends out, by propagation and to the side channels, keeps the frame. -/
structure Engine.Quiet (frame : Frame σ) (engine : Engine σ) : Prop where
  registry : engine.registry.Keeps frame
  audit : ∀ event, frame.Keeps (engine.audit event)
  notifications : ∀ event, frame.Keeps (engine.notifications event)

/-- What the engine reads, what it sends out and its hooks keep the frame: every system beside the workflow and
the token store. -/
structure Engine.Attends (frame : Frame σ) (engine : Engine σ) : Prop extends engine.Quiet frame where
  find : ∀ t id, frame.Keeps (engine.repository.find t id)
  correlation : ∀ delta mapping, frame.Keeps (engine.correlation delta mapping)
  hooks : ∀ hooks ∈ engine.hooks, hooks.Keeps frame

/-- Every system of the engine beside the token store keeps the frame. -/
structure Engine.Keeps (frame : Frame σ) (engine : Engine σ) : Prop extends engine.Quiet frame where
  find : ∀ t id, frame.Keeps (engine.repository.find t id)
  create : ∀ entity, frame.Keeps (engine.workflow.create entity)
  update : ∀ t id patch, frame.Keeps (engine.workflow.update t id patch)
  delete : ∀ t id, frame.Keeps (engine.workflow.delete t id)
  correlation : ∀ delta mapping, frame.Keeps (engine.correlation delta mapping)
  hooks : ∀ hooks ∈ engine.hooks, hooks.Keeps frame

/-- Every system that a run works with beside the workflow and the token store keeps the frame. -/
structure Session.Attends (frame : Frame σ) (session : Session σ) : Prop extends session.engine.Attends frame where
  connector : session.resource.connector.Keeps frame

/-- Every system that a run works with beside the token store keeps the frame. -/
structure Session.Keeps (frame : Frame σ) (session : Session σ) : Prop extends session.engine.Keeps frame where
  connector : session.resource.connector.Keeps frame

theorem Session.Keeps.attends {frame : Frame σ} {session : Session σ} (h : session.Keeps frame) :
    session.Attends frame :=
  ⟨⟨h.toQuiet, h.find, h.correlation, h.hooks⟩, h.connector⟩

/-- Every session keeps the frame that allows everything. -/
theorem Session.keeps_anything (session : Session σ) : session.Keeps Frame.anything where
  registry _ resource _ := resource.connector.keeps_anything
  audit _ _ := trivial
  notifications _ _ := trivial
  find _ _ _ := trivial
  create _ _ := trivial
  update _ _ _ _ := trivial
  delete _ _ _ := trivial
  correlation _ _ _ := trivial
  hooks _ _ :=
    { beforeAll := fun _ _ _ => trivial
      beforeNew := fun _ _ _ _ _ _ => trivial
      beforeExisting := fun _ _ _ _ _ _ => trivial
      after := fun _ _ _ _ _ _ => trivial
      afterAll := fun _ _ _ => trivial }
  connector := session.resource.connector.keeps_anything

end Reconciliation

open Reconciliation

/-- The frame of a step of a run that takes over no delta and records no result. -/
def Frame.aside (frame : Frame σ) : Frame (RunState σ) where
  Rel s t := frame.Rel s.world t.world ∧ t.received = s.received ∧ t.results = s.results
  refl _ := ⟨frame.refl _, rfl, rfl⟩
  trans h h' := ⟨frame.trans h.1 h'.1, h'.2.1.trans h.2.1, h'.2.2.trans h.2.2⟩

/-- The frame of a step of a run that takes over no delta and only adds results. -/
def Frame.recording (frame : Frame σ) : Frame (RunState σ) where
  Rel s t := frame.Rel s.world t.world ∧ t.received = s.received ∧ s.results <+: t.results
  refl _ := ⟨frame.refl _, rfl, List.prefix_rfl⟩
  trans h h' := ⟨frame.trans h.1 h'.1, h'.2.1.trans h.2.1, h.2.2.trans h'.2.2⟩

/-- The frame of a step of a run that takes over no delta. -/
def Frame.onRun (frame : Frame σ) : Frame (RunState σ) where
  Rel s t := frame.Rel s.world t.world ∧ t.received = s.received
  refl _ := ⟨frame.refl _, rfl⟩
  trans h h' := ⟨frame.trans h.1 h'.1, h'.2.trans h.2⟩

/-- The frame of a step of a run, whatever it takes over. -/
def Frame.onWorlds (frame : Frame σ) : Frame (RunState σ) where
  Rel s t := frame.Rel s.world t.world
  refl _ := frame.refl _
  trans := frame.trans

namespace Reconciliation.Session

variable {frame : Frame σ}

theorem keeps_recording {step : Step σ α} (h : frame.aside.Keeps step) : frame.recording.Keeps step :=
  h.mono fun hrel => ⟨hrel.1, hrel.2.1, hrel.2.2 ▸ List.prefix_rfl⟩

theorem keeps_onRun {step : Step σ α} (h : frame.aside.Keeps step) : frame.onRun.Keeps step :=
  h.mono fun hrel => ⟨hrel.1, hrel.2.1⟩

theorem keeps_onWorlds {step : Step σ α} (h : frame.onRun.Keeps step) : frame.onWorlds.Keeps step :=
  h.mono fun hrel => hrel.1

@[simp] theorem onWorld_apply (operation : StateM σ α) (s : RunState σ) :
    onWorld operation s = ((operation s.world).1, { s with world := (operation s.world).2 }) := rfl

theorem keeps_onWorld {operation : StateM σ α} (h : frame.Keeps operation) :
    frame.aside.Keeps (onWorld operation) :=
  fun s => ⟨h s.world, rfl, rfl⟩

variable {session : Session σ}

/-! ## Steps of a run -/

section Steps

variable {steps : Frame (RunState σ)} {hooks : List (Hooks σ)}

theorem steps_forEach {handle : α → Step σ (Except SyncError Unit)} (h : ∀ a, steps.Keeps (handle a))
    (items : List α) : steps.Keeps (forEach handle items) := by
  induction items with
  | nil => exact Frame.keeps_ok _
  | cons a rest ih => exact (h a).andThen fun _ => ih

theorem steps_beforeNew {hook : NewHook}
    (h : ∀ one ∈ hooks, ∀ s delta entity,
      steps.Keeps (onWorld (one.beforeNew hook (session.profile s) delta entity))) (delta : Delta) (entity : Entity) :
    steps.Keeps (session.beforeNew hook hooks delta entity) := by
  induction hooks generalizing delta entity with
  | nil => exact Frame.keeps_pure _
  | cons one rest ih =>
    unfold beforeNew
    refine Frame.keeps_get.bind fun s => (h one List.mem_cons_self s delta entity).bind fun answer => ?_
    split
    · exact Frame.keeps_pure _
    · exact ih (fun other hother => h other (List.mem_cons_of_mem _ hother)) _ _

theorem steps_beforeExisting {hook : ExistingHook} {entity : Entity}
    (h : ∀ one ∈ hooks, ∀ s delta, steps.Keeps (onWorld (one.beforeExisting hook (session.profile s) delta entity)))
    (delta : Delta) : steps.Keeps (session.beforeExisting hook entity hooks delta) := by
  induction hooks generalizing delta with
  | nil => exact Frame.keeps_ok _
  | cons one rest ih =>
    intro s
    have hone := h one List.mem_cons_self s delta s
    unfold beforeExisting
    split <;> rename_i heq <;> rw [heq] at hone
    · exact hone
    · exact steps.trans hone (ih (fun other hother => h other (List.mem_cons_of_mem _ hother)) _ _)

theorem steps_runAfter {delta : Delta} {entity : Entity} {result : Result}
    (h : ∀ one ∈ hooks, ∀ s, steps.Keeps (onWorld (one.after (session.profile s) delta entity result))) :
    steps.Keeps (session.runAfter delta entity result hooks) := by
  induction hooks with
  | nil => exact Frame.keeps_pure _
  | cons one rest ih =>
    unfold runAfter
    refine Frame.keeps_get.bind fun s => (h one List.mem_cons_self s).bind fun answer => ?_
    refine (ih fun other hother => h other (List.mem_cons_of_mem _ hother)).bind fun _ => ?_
    split <;> exact Frame.keeps_pure _

theorem steps_record
    (haudit : ∀ event, steps.Keeps (onWorld (session.engine.audit event)))
    (hnotifications : ∀ event, steps.Keeps (onWorld (session.engine.notifications event)))
    (hpush : ∀ result, steps.Keeps (modify fun s => { s with results := s.results ++ [result] } : Step σ PUnit))
    (result : Result) : steps.Keeps (session.record result) := by
  refine (haudit _).bind fun _ => Frame.Keeps.ite (fun _ => hpush result) fun _ => ?_
  exact (hnotifications _).bind fun _ => hpush result

theorem steps_hookFailed (hrecord : ∀ result, steps.Keeps (session.record result)) (error : SyncError)
    (result : Result) : steps.Keeps (session.hookFailed error result) := by
  unfold hookFailed
  split
  · exact Frame.keeps_fail _
  · exact fun s => hrecord (result.failed error.message) s

theorem steps_finish {delta : Delta} {entity : Entity} {result : Result}
    (hafter : steps.Keeps (session.runAfter delta entity result session.engine.hooks))
    (hrecord : steps.Keeps (session.record result)) : steps.Keeps (session.finish delta entity result) := by
  refine hafter.bind fun failed => hrecord.bind fun _ => ?_
  split <;> exact Frame.keeps_pure _

theorem steps_actOn {hook : ExistingHook} {base : Result} {delta : Delta} {entity : Entity}
    {act : Delta → Step σ (Option Result)}
    (hbefore : steps.Keeps (session.beforeExisting hook entity session.engine.hooks delta))
    (hfailed : ∀ error, steps.Keeps (session.hookFailed error base)) (hact : ∀ delta, steps.Keeps (act delta))
    (hfinish : ∀ delta result, steps.Keeps (session.finish delta entity result)) :
    steps.Keeps (session.actOn hook base delta entity act) := by
  refine hbefore.bind fun answer => ?_
  cases answer with
  | error error => exact hfailed error
  | ok delta' =>
    refine Frame.Keeps.ite (fun _ => hfinish delta' base) fun _ => (hact delta').bind fun outcome => ?_
    cases outcome with
    | none => exact Frame.keeps_pure _
    | some result => exact hfinish delta' result

theorem steps_create {hook : NewHook} {delta : Delta}
    (hbefore : ∀ entity, steps.Keeps (session.beforeNew hook session.engine.hooks delta entity))
    (hfailed : ∀ error result, steps.Keeps (session.hookFailed error result))
    (hcreate : ∀ entity, steps.Keeps (onWorld (session.engine.workflow.create entity)))
    (hpropagate : ∀ tasks, steps.Keeps (session.propagate tasks))
    (hfinish : ∀ delta entity result, steps.Keeps (session.finish delta entity result)) :
    steps.Keeps (session.create hook delta) := by
  refine (hbefore _).bind fun (answer, entity) => ?_
  cases answer with
  | error error => exact hfailed error _
  | ok delta' =>
    refine Frame.Keeps.ite (fun _ => hfinish delta' entity _) fun _ => (hcreate entity).bind fun answer => ?_
    cases answer with
    | ok report => exact (hpropagate _).bind fun _ => hfinish delta' _ _
    | error error => exact Frame.Keeps.ite (fun _ => Frame.keeps_pure _) fun _ => hfinish delta' entity _

theorem steps_reread (hfind : ∀ t id, steps.Keeps (onWorld (session.engine.repository.find t id))) (entity : Entity)
    (patch : Patch) : steps.Keeps (session.reread entity patch) := by
  refine (hfind _ _).bind fun answer => ?_
  split <;> exact Frame.keeps_pure _

theorem steps_load (hfind : ∀ t id, steps.Keeps (onWorld (session.engine.repository.find t id))) (id : Nat) :
    steps.Keeps (session.load id) := by
  refine (hfind _ _).bind fun answer => ?_
  split <;> exact Frame.keeps_pure _

theorem steps_correlate
    (hcorrelation : ∀ delta mapping, steps.Keeps (onWorld (session.engine.correlation delta mapping))) (delta : Delta) :
    steps.Keeps (session.correlate delta) := by
  refine (hcorrelation _ _).bind fun answer => ?_
  cases answer <;> exact Frame.keeps_pure _

end Steps

/-! ## Recording -/

theorem keeps_record (h : session.engine.Quiet frame) (result : Result) :
    frame.recording.Keeps (session.record result) :=
  steps_record (fun _ => keeps_recording (keeps_onWorld (h.audit _)))
    (fun _ => keeps_recording (keeps_onWorld (h.notifications _)))
    (fun _ _ => ⟨frame.refl _, rfl, List.prefix_append _ _⟩) result

/-- Recording adds the result and nothing else to the results. -/
theorem record_results (session : Session σ) (result : Result) (s : RunState σ) :
    (session.record result s).2.results = s.results ++ [result] := by
  unfold record
  simp only [bind_apply]
  split <;> rfl

theorem propagate_keeps_of_serves {tasks : List Propagation.Task}
    (h : ∀ handled, (session.engine.executor handled).Serves frame tasks) :
    frame.aside.Keeps (session.propagate tasks) := by
  refine Frame.Keeps.ite (fun _ => Frame.keeps_pure _) fun _ => Frame.keeps_get.bind fun s => ?_
  refine (keeps_onWorld (Propagation.Executor.keeps_execute (h _))).bind fun _ => fun s => ?_
  exact ⟨frame.refl _, rfl, rfl⟩

theorem keeps_propagate (h : session.engine.Quiet frame) (tasks : List Propagation.Task) :
    frame.aside.Keeps (session.propagate tasks) :=
  propagate_keeps_of_serves fun _ task _ => h.registry.serves task.resource

/-! ## Hooks -/

theorem keeps_beforeNew (hconnector : session.resource.connector.Keeps frame) (hook : NewHook)
    (hooks : List (Hooks σ)) (h : ∀ one ∈ hooks, one.Keeps frame) (delta : Delta) (entity : Entity) :
    frame.aside.Keeps (session.beforeNew hook hooks delta entity) :=
  steps_beforeNew (fun one hone _ delta entity => keeps_onWorld ((h one hone).beforeNew hook _ delta entity hconnector))
    delta entity

theorem keeps_beforeExisting (hconnector : session.resource.connector.Keeps frame) (hook : ExistingHook)
    (entity : Entity) (hooks : List (Hooks σ)) (h : ∀ one ∈ hooks, one.Keeps frame) (delta : Delta) :
    frame.aside.Keeps (session.beforeExisting hook entity hooks delta) :=
  steps_beforeExisting
    (fun one hone _ delta => keeps_onWorld ((h one hone).beforeExisting hook _ delta entity hconnector)) delta

theorem keeps_runAfter (hconnector : session.resource.connector.Keeps frame) (delta : Delta) (entity : Entity)
    (result : Result) (hooks : List (Hooks σ)) (h : ∀ one ∈ hooks, one.Keeps frame) :
    frame.aside.Keeps (session.runAfter delta entity result hooks) :=
  steps_runAfter fun one hone _ => keeps_onWorld ((h one hone).after _ delta entity result hconnector)

/-- The hooks before an action record no result. -/
theorem beforeNew_results (session : Session σ) (hook : NewHook) (delta : Delta) (entity : Entity) (s : RunState σ) :
    (session.beforeNew hook session.engine.hooks delta entity s).2.results = s.results :=
  (keeps_beforeNew session.keeps_anything.connector hook _ session.keeps_anything.hooks delta entity s).2.2

theorem beforeExisting_results (session : Session σ) (hook : ExistingHook) (entity : Entity) (delta : Delta)
    (s : RunState σ) : (session.beforeExisting hook entity session.engine.hooks delta s).2.results = s.results :=
  (keeps_beforeExisting session.keeps_anything.connector hook entity _ session.keeps_anything.hooks delta s).2.2

/-- Neither do those after it. -/
theorem runAfter_results (session : Session σ) (delta : Delta) (entity : Entity) (result : Result) (s : RunState σ) :
    (session.runAfter delta entity result session.engine.hooks s).2.results = s.results :=
  (keeps_runAfter session.keeps_anything.connector delta entity result _ session.keeps_anything.hooks s).2.2

theorem keeps_runOnce (hook : Hook) (call : Hooks σ → Profile σ → Effect σ Failure Unit)
    (hooks : List (Hooks σ))
    (h : ∀ one ∈ hooks, ∀ s : RunState σ, frame.Keeps (call one (session.profile s))) :
    frame.aside.Keeps (session.runOnce hook call hooks) := by
  induction hooks with
  | nil => exact Frame.keeps_ok _
  | cons one rest ih =>
    intro s
    have hone := keeps_onWorld (h one List.mem_cons_self s) s
    unfold runOnce
    split <;> rename_i heq <;> rw [heq] at hone
    · exact hone
    · exact frame.aside.trans hone
        (ih (fun other hother => h other (List.mem_cons_of_mem _ hother)) _)

theorem keeps_hookFailed (h : session.engine.Quiet frame) (error : SyncError) (result : Result) :
    frame.recording.Keeps (session.hookFailed error result) :=
  steps_hookFailed (keeps_record h) error result

theorem keeps_finish (h : session.Attends frame)
    (delta : Delta) (entity : Entity) (result : Result) :
    frame.recording.Keeps (session.finish delta entity result) :=
  steps_finish (keeps_recording (keeps_runAfter h.connector delta entity result _ h.hooks))
    (keeps_record h.toQuiet result)

/-! ## Actions -/

theorem keeps_settle (base : Result) {followUp : WorkflowReport → Step σ Result}
    (h : ∀ report, frame.aside.Keeps (followUp report)) (answer : Except SyncError WorkflowReport) :
    frame.aside.Keeps (settle base followUp answer) := by
  cases answer with
  | ok report => exact (h report).bind fun _ => Frame.keeps_pure _
  | error error => exact Frame.keeps_pure _

theorem keeps_actOn (h : session.Attends frame)
    (hook : ExistingHook) (base : Result) (delta : Delta) (entity : Entity)
    {act : Delta → Step σ (Option Result)} (hact : ∀ delta, frame.aside.Keeps (act delta)) :
    frame.recording.Keeps (session.actOn hook base delta entity act) :=
  steps_actOn (keeps_recording (keeps_beforeExisting h.connector hook entity _ h.hooks delta))
    (fun error => keeps_hookFailed h.toQuiet error base) (fun delta => keeps_recording (hact delta))
    fun delta result => keeps_finish h delta entity result

theorem keeps_reread (h : session.Attends frame) (entity : Entity) (patch : Patch) :
    frame.aside.Keeps (session.reread entity patch) :=
  steps_reread (fun _ _ => keeps_onWorld (h.find _ _)) entity patch

theorem keeps_update (h : session.Keeps frame)
    (entity : Entity) (base : Result) (delta : Delta) :
    frame.aside.Keeps (session.update entity base delta) := by
  refine Frame.Keeps.ite (fun _ => Frame.keeps_pure _) fun _ => ?_
  refine (keeps_onWorld (h.update _ _ _)).bind fun answer => keeps_settle base (fun report => ?_) answer
  refine (keeps_reread h.attends entity _).bind fun after => ?_
  exact (keeps_propagate h.toQuiet _).bind fun _ => Frame.keeps_pure _

theorem keeps_deprovision (h : session.engine.Quiet frame) (entity : Entity) (base : Result) :
    frame.aside.Keeps (session.deprovision entity base) :=
  (keeps_propagate h _).bind fun _ => Frame.keeps_pure _

theorem keeps_unassign (h : session.Keeps frame)
    (entity : Entity) (base : Result) : frame.aside.Keeps (session.unassign entity base) :=
  (keeps_onWorld (h.update _ _ _)).bind fun answer =>
    keeps_settle base (fun _ => keeps_deprovision h.toQuiet entity base) answer

theorem keeps_relink (h : session.Keeps frame) (entity : Entity) (patch : Patch) (base : Result) :
    frame.aside.Keeps (session.relink entity patch base) :=
  (keeps_onWorld (h.update _ _ _)).bind fun answer =>
    keeps_settle base (fun _ => Frame.keeps_pure _) answer

theorem keeps_remove (h : session.Keeps frame)
    (entity : Entity) (id : Nat) (base : Result) : frame.aside.Keeps (session.remove entity id base) :=
  (keeps_onWorld (h.delete _ _)).bind fun answer =>
    keeps_settle base (fun _ => (keeps_propagate h.toQuiet _).bind fun _ => Frame.keeps_pure _) answer

theorem keeps_load (h : session.Attends frame) (id : Nat) : frame.aside.Keeps (session.load id) :=
  steps_load (fun _ _ => keeps_onWorld (h.find _ _)) id

/-! ## Deltas -/

theorem keeps_applyRule (h : session.Keeps frame) (delta : Delta)
    (entity : Entity) : frame.recording.Keeps (session.applyRule delta entity) := by
  unfold applyRule
  dsimp only
  split
  · exact (keeps_record h.toQuiet _).bind fun _ => Frame.keeps_pure _
  · exact keeps_actOn h.attends _ _ _ _ fun delta' => keeps_update h entity _ delta'
  · exact keeps_actOn h.attends _ _ _ _ fun _ => (keeps_deprovision h.toQuiet entity _).map some
  · exact keeps_actOn h.attends _ _ _ _ fun _ => keeps_unassign h entity _
  · exact keeps_actOn h.attends _ _ _ _ fun _ => keeps_relink h entity _ _
  · exact keeps_actOn h.attends _ _ _ _ fun _ => keeps_relink h entity _ _

theorem keeps_handleMatched (h : session.Keeps frame) (delta : Delta)
    (ids : List Nat) : frame.recording.Keeps (session.handleMatched delta ids) := by
  refine Frame.Keeps.ite (fun _ => steps_forEach (fun id => ?_) ids) fun _ => Frame.keeps_ok _
  refine (keeps_recording (keeps_load h.attends id)).bind fun found => ?_
  cases found with
  | none => exact Frame.keeps_pure _
  | some entity => exact keeps_applyRule h delta entity

theorem keeps_handleDeleted (h : session.Keeps frame) (delta : Delta)
    (ids : List Nat) : frame.recording.Keeps (session.handleDeleted delta ids) := by
  refine Frame.Keeps.ite (fun _ => steps_forEach (fun id => ?_) ids) fun _ => Frame.keeps_ok _
  refine (keeps_recording (keeps_load h.attends id)).bind fun found => ?_
  cases found with
  | none => exact Frame.keeps_pure _
  | some entity => exact keeps_actOn h.attends _ _ _ _ fun _ => keeps_remove h entity id _

theorem keeps_create (h : session.Keeps frame) (hook : NewHook)
    (delta : Delta) : frame.recording.Keeps (session.create hook delta) :=
  steps_create (fun entity => keeps_recording (keeps_beforeNew h.connector hook _ h.hooks delta entity))
    (fun error result => keeps_hookFailed h.toQuiet error result)
    (fun entity => keeps_recording (keeps_onWorld (h.create entity)))
    (fun tasks => keeps_recording (keeps_propagate h.toQuiet tasks))
    fun delta entity result => keeps_finish h.attends delta entity result

theorem keeps_handleUnmatched (h : session.Keeps frame) (delta : Delta) :
    frame.recording.Keeps (session.handleUnmatched delta) := by
  refine Frame.Keeps.ite (fun _ => ?_) fun _ => Frame.keeps_ok _
  split
  · exact Frame.keeps_ok _
  · exact keeps_create h .assign delta
  · exact keeps_create h .create delta

theorem keeps_correlate (h : session.Attends frame) (delta : Delta) :
    frame.aside.Keeps (session.correlate delta) :=
  steps_correlate (fun _ _ => keeps_onWorld (h.correlation _ _)) delta

/-- Handling a delta keeps every frame that the systems of the engine keep. -/
theorem keeps_handle (h : session.Keeps frame) (delta : Delta) :
    frame.recording.Keeps (session.handle delta) := by
  refine (keeps_recording (keeps_correlate h.attends delta)).bind fun answer => ?_
  cases answer with
  | error error => exact Frame.keeps_pure _
  | ok ids =>
    dsimp only
    split
    · exact keeps_handleUnmatched h delta
    · exact keeps_handleMatched h delta _
    · exact keeps_handleDeleted h delta _

/-! ## The start and the end of a run -/

theorem keeps_locate (hconnector : session.resource.connector.Keeps frame)
    (hload : ∀ task, frame.Keeps (session.engine.tokens.load task)) : frame.aside.Keeps session.locate := by
  refine Frame.Keeps.ite (fun _ => Frame.keeps_pure _) fun _ => ?_
  refine (keeps_onWorld (hload _)).bind fun answer => ?_
  cases answer with
  | error failure => exact Frame.keeps_pure _
  | ok stored =>
    refine (keeps_onWorld (hconnector.latestToken _)).bind fun answer => ?_
    cases answer <;> exact Frame.keeps_pure _

theorem keeps_pull (hconnector : session.resource.connector.Keeps frame) (stored : Option SyncToken) :
    frame.aside.Keeps (session.pull stored) := by
  unfold pull
  split
  · exact keeps_onWorld (hconnector.allObjects _ _)
  · exact keeps_onWorld (hconnector.sync _ _ _)

theorem keeps_persist (hstore : ∀ task token, frame.Keeps (session.engine.tokens.store task token))
    (latest : Option SyncToken) : frame.aside.Keeps (session.persist latest) := by
  cases latest with
  | none => exact Frame.keeps_pure _
  | some token =>
    refine Frame.Keeps.ite (fun _ => Frame.keeps_pure _) fun _ => (keeps_onWorld (hstore _ _)).bind fun answer => ?_
    cases answer <;> exact Frame.keeps_pure _

end Reconciliation.Session

end Provisioning
