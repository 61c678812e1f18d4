import Provisioning.Proofs.Propagation.Mirror
import Provisioning.Proofs.Reconciliation.Pull
set_option autoImplicit false

/-!
# Two runs side by side

Two sessions mirror each other when the systems that they work with are alike under a relation between their
worlds.  Everything a run does is put together from what these systems do, so the two runs hand over the same
deltas, record the same results and give the same answer.  Only the systems that a run makes use of are compared:
one that merely pretends asks for no requests, sends nothing out and stores nothing.
-/

namespace Provisioning.Reconciliation

variable {σ τ α : Type}

/-- Moments of two runs that have received and recorded the same.  `R` relates their worlds, and `P` what they know
of the propagation so far. -/
structure RunState.Mirrors (R : σ → τ → Prop) (P : List Propagation.Report → List Propagation.Report → Prop)
    (s : RunState σ) (t : RunState τ) : Prop where
  world : R s.world t.world
  received : s.received = t.received
  results : s.results = t.results
  propagation : P s.propagation t.propagation

/-- Two extensions that do alike whenever they are called at moments that mirror each other. -/
structure Hooks.Mirrors (R : σ → τ → Prop) (P : List Propagation.Report → List Propagation.Report → Prop)
    (left : Session σ) (right : Session τ) (hooks : Hooks σ) (hooks' : Hooks τ) : Prop where
  beforeAll : ∀ s t, RunState.Mirrors R P s t →
    Alike R (hooks.beforeAll (left.profile s)) (hooks'.beforeAll (right.profile t))
  beforeNew : ∀ (hook : NewHook) (delta : Delta) (entity : Entity) s t, RunState.Mirrors R P s t →
    Alike R (hooks.beforeNew hook (left.profile s) delta entity) (hooks'.beforeNew hook (right.profile t) delta entity)
  beforeExisting : ∀ (hook : ExistingHook) (delta : Delta) (entity : Entity) s t, RunState.Mirrors R P s t →
    Alike R (hooks.beforeExisting hook (left.profile s) delta entity)
      (hooks'.beforeExisting hook (right.profile t) delta entity)
  after : ∀ (delta : Delta) (entity : Entity) (result : Result) s t, RunState.Mirrors R P s t →
    Alike R (hooks.after (left.profile s) delta entity result) (hooks'.after (right.profile t) delta entity result)
  afterAll : ∀ s t, RunState.Mirrors R P s t →
    Alike R (hooks.afterAll (left.profile s)) (hooks'.afterAll (right.profile t))

/-- Two sessions whose requests, notifications, propagation and stored tokens are alike. -/
structure Session.ActsLike (R : σ → τ → Prop) (P : List Propagation.Report → List Propagation.Report → Prop)
    (left : Session σ) (right : Session τ) : Prop where
  create : ∀ entity, Alike R (left.engine.workflow.create entity) (right.engine.workflow.create entity)
  update : ∀ t id patch, Alike R (left.engine.workflow.update t id patch) (right.engine.workflow.update t id patch)
  delete : ∀ t id, Alike R (left.engine.workflow.delete t id) (right.engine.workflow.delete t id)
  notifications : ∀ event, Abreast R (left.engine.notifications event) (right.engine.notifications event)
  tasksFor : ∀ entity change resources, Propagation.tasksFor left.engine.registry entity change resources =
    Propagation.tasksFor right.engine.registry entity change resources
  propagate : ∀ tasks, Abreast (RunState.Mirrors R P) (left.propagate tasks) (right.propagate tasks)
  store : ∀ task token, Alike R (left.engine.tokens.store task token) (right.engine.tokens.store task token)

/-- Two sessions of one task whose reads for a delta, audits and hooks are alike; unless they only pretend, they act
alike as well. -/
structure Session.Corresponds (R : σ → τ → Prop) (P : List Propagation.Report → List Propagation.Report → Prop)
    (left : Session σ) (right : Session τ) : Prop where
  task : right.task = left.task
  mapping : right.mapping = left.mapping
  dryRun : right.dryRun = left.dryRun
  find : ∀ t id, Alike R (left.engine.repository.find t id) (right.engine.repository.find t id)
  correlation : ∀ delta mapping,
    Alike R (left.engine.correlation delta mapping) (right.engine.correlation delta mapping)
  audit : ∀ event, Abreast R (left.engine.audit event) (right.engine.audit event)
  hooks : List.Forall₂ (Hooks.Mirrors R P left right) left.engine.hooks right.engine.hooks
  acts : left.dryRun = false → left.ActsLike R P right

/-- Two sessions that correspond, and find and pull alike what there is to handle. -/
structure Session.Mirrors (R : σ → τ → Prop) (P : List Propagation.Report → List Propagation.Report → Prop)
    (left : Session σ) (right : Session τ) : Prop extends left.Corresponds R P right where
  loadToken : ∀ task, Alike R (left.engine.tokens.load task) (right.engine.tokens.load task)
  latestToken : ∀ c, Alike R (left.resource.connector.latestToken c) (right.resource.connector.latestToken c)
  sync : ∀ c t o, Alike R (left.resource.connector.sync c t o) (right.resource.connector.sync c t o)
  search : ∀ c f o, Alike R (left.resource.connector.search c f o) (right.resource.connector.search c f o)

namespace Session

variable {R : σ → τ → Prop} {P : List Propagation.Report → List Propagation.Report → Prop}

theorem alike_onWorld {operation : StateM σ α} {operation' : StateM τ α} (h : Alike R operation operation') :
    Alike (RunState.Mirrors R P) (onWorld operation) (onWorld operation') := by
  intro s t hrel
  obtain ⟨hanswer, hworld⟩ := h _ _ hrel.world
  exact ⟨hanswer, hworld, hrel.received, hrel.results, hrel.propagation⟩

theorem abreast_onWorld {operation : StateM σ α} {operation' : StateM τ α} (h : Abreast R operation operation') :
    Abreast (RunState.Mirrors R P) (onWorld operation) (onWorld operation') :=
  fun _ _ hrel => ⟨h _ _ hrel.world, hrel.received, hrel.results, hrel.propagation⟩

theorem alike_forEach {Q : RunState σ → RunState τ → Prop} {handle : α → Step σ (Except SyncError Unit)}
    {handle' : α → Step τ (Except SyncError Unit)} (h : ∀ a, Alike Q (handle a) (handle' a)) (items : List α) :
    Alike Q (forEach handle items) (forEach handle' items) := by
  induction items with
  | nil => exact alike_ok ()
  | cons a rest ih => exact (h a).andThen fun _ => ih

variable {left : Session σ} {right : Session τ}

/-- Propagation through connectors that mirror those of a session is known to have gone the same way. -/
theorem abreast_propagate {change : String → Connector σ → Connector τ}
    (h : ∀ name connector, Connector.Mirrors R connector (change name connector))
    (hexecutor : ∀ handled, right.engine.executor handled = (left.engine.executor handled).through change)
    (tasks : List Propagation.Task) :
    Abreast (RunState.Mirrors R Eq) (left.propagate tasks) (right.propagate tasks) := by
  unfold propagate
  refine (Alike.ite (fun _ => alike_pure ()) fun _ => alike_get_bind fun s t hrel => ?_).abreast
  rw [hexecutor, hrel.propagation]
  refine (alike_onWorld (Propagation.Executor.mirrors_execute h _ tasks)).bind fun execution s t hrel => ?_
  refine ⟨rfl, hrel.world, hrel.received, hrel.results, ?_⟩
  exact congrArg (· ++ execution.handled.map Propagation.Handled.report) hrel.propagation

/-! ## The hooks of two sessions -/

section Hooks

variable {Q : RunState σ → RunState τ → Prop} {hooks : List (Hooks σ)} {hooks' : List (Hooks τ)} {delta : Delta}

theorem alike_beforeNew {hook : NewHook}
    (h : List.Forall₂ (fun one other => ∀ delta entity s t, Q s t →
      Alike Q (onWorld (one.beforeNew hook (left.profile s) delta entity))
        (onWorld (other.beforeNew hook (right.profile t) delta entity))) hooks hooks') (delta : Delta)
    (entity : Entity) :
    Alike Q (left.beforeNew hook hooks delta entity) (right.beforeNew hook hooks' delta entity) := by
  induction h generalizing delta entity with
  | nil => exact alike_pure _
  | cons hone _ ih =>
    unfold Session.beforeNew
    refine alike_get_bind fun s t hrel => (hone delta entity s t hrel).bind fun answer => ?_
    obtain ⟨answer, entity'⟩ := answer
    cases answer with
    | error failure => exact alike_pure _
    | ok delta' => exact ih delta' entity'

theorem alike_beforeExisting {hook : ExistingHook} {entity : Entity}
    (h : List.Forall₂ (fun one other => ∀ delta s t, Q s t →
      Alike Q (onWorld (one.beforeExisting hook (left.profile s) delta entity))
        (onWorld (other.beforeExisting hook (right.profile t) delta entity))) hooks hooks') (delta : Delta) :
    Alike Q (left.beforeExisting hook entity hooks delta) (right.beforeExisting hook entity hooks' delta) := by
  induction h generalizing delta with
  | nil => exact alike_ok _
  | cons hone _ ih =>
    intro s t hrel
    obtain ⟨hanswer, hafter⟩ := hone delta s t hrel s t hrel
    unfold Session.beforeExisting
    generalize onWorld _ s = called at hanswer hafter ⊢
    generalize onWorld _ t = called' at hanswer hafter ⊢
    obtain ⟨answer, s'⟩ := called
    obtain ⟨answer', t'⟩ := called'
    cases hanswer
    cases answer with
    | error failure => exact ⟨rfl, hafter⟩
    | ok delta' => exact ih delta' s' t' hafter

/-- The hooks after an action may be shown different entities and results of it. -/
theorem alike_runAfter {entity entity' : Entity} {result result' : Result}
    (h : List.Forall₂ (fun one other => ∀ s t, Q s t →
      Alike Q (onWorld (one.after (left.profile s) delta entity result))
        (onWorld (other.after (right.profile t) delta entity' result'))) hooks hooks') :
    Alike Q (left.runAfter delta entity result hooks) (right.runAfter delta entity' result' hooks') := by
  induction h with
  | nil => exact alike_pure _
  | cons hone _ ih =>
    unfold Session.runAfter
    refine alike_get_bind fun s t hrel => (hone s t hrel).bind fun answer => ih.bind fun later => ?_
    cases answer <;> exact alike_pure _

end Hooks

namespace Corresponds

/-! ## Recording -/

theorem result_eq (h : left.Corresponds R P right) : right.result = left.result := by
  funext operation id name
  simp only [result, h.task]

theorem ownResource_eq (h : left.Corresponds R P right) : right.ownResource = left.ownResource := by
  simp only [ownResource, h.task]

theorem record (h : left.Corresponds R P right) (result : Result) :
    Alike (RunState.Mirrors R P) (left.record result) (right.record result) := by
  have hpush : Alike (RunState.Mirrors R P)
      (modify fun s => { s with results := s.results ++ [result] } : Step σ PUnit)
      (modify fun s => { s with results := s.results ++ [result] } : Step τ PUnit) :=
    fun s t hrel => ⟨rfl, hrel.world, hrel.received, congrArg (· ++ [result]) hrel.results, hrel.propagation⟩
  unfold Session.record
  rw [h.task, h.dryRun]
  refine (abreast_onWorld (h.audit _)).bind (Alike.ite (fun _ => hpush) fun hlive => ?_)
  have hacts := h.acts (Bool.eq_false_iff.mpr hlive)
  exact (abreast_onWorld (hacts.notifications _)).bind hpush

/-! ## Hooks -/

theorem beforeNew (hook : NewHook) {hooks : List (Hooks σ)} {hooks' : List (Hooks τ)}
    (h : List.Forall₂ (Hooks.Mirrors R P left right) hooks hooks') (delta : Delta) (entity : Entity) :
    Alike (RunState.Mirrors R P) (left.beforeNew hook hooks delta entity)
      (right.beforeNew hook hooks' delta entity) :=
  alike_beforeNew (h.imp fun _ _ hone delta entity s t hrel =>
    alike_onWorld (hone.beforeNew hook delta entity s t hrel)) delta entity

theorem beforeExisting (hook : ExistingHook) (entity : Entity) {hooks : List (Hooks σ)} {hooks' : List (Hooks τ)}
    (h : List.Forall₂ (Hooks.Mirrors R P left right) hooks hooks') (delta : Delta) :
    Alike (RunState.Mirrors R P) (left.beforeExisting hook entity hooks delta)
      (right.beforeExisting hook entity hooks' delta) :=
  alike_beforeExisting (h.imp fun _ _ hone delta s t hrel =>
    alike_onWorld (hone.beforeExisting hook delta entity s t hrel)) delta

theorem runAfter (delta : Delta) (entity : Entity) (result : Result) {hooks : List (Hooks σ)}
    {hooks' : List (Hooks τ)} (h : List.Forall₂ (Hooks.Mirrors R P left right) hooks hooks') :
    Alike (RunState.Mirrors R P) (left.runAfter delta entity result hooks)
      (right.runAfter delta entity result hooks') :=
  alike_runAfter (h.imp fun _ _ hone s t hrel => alike_onWorld (hone.after delta entity result s t hrel))

theorem runOnce (hook : Hook) (call : Hooks σ → Profile σ → Effect σ Failure Unit)
    (call' : Hooks τ → Profile τ → Effect τ Failure Unit) {hooks : List (Hooks σ)} {hooks' : List (Hooks τ)}
    (h : List.Forall₂ (fun one other => ∀ s t, RunState.Mirrors R P s t →
      Alike R (call one (left.profile s)) (call' other (right.profile t))) hooks hooks') :
    Alike (RunState.Mirrors R P) (left.runOnce hook call hooks) (right.runOnce hook call' hooks') := by
  induction h with
  | nil => exact alike_ok _
  | cons hone _ ih =>
    intro s t hrel
    obtain ⟨hanswer, hafter⟩ := alike_onWorld (hone s t hrel) s t hrel
    unfold Session.runOnce
    generalize onWorld _ s = called at hanswer hafter ⊢
    generalize onWorld _ t = called' at hanswer hafter ⊢
    obtain ⟨answer, s'⟩ := called
    obtain ⟨answer', t'⟩ := called'
    cases hanswer
    cases answer with
    | error failure => exact ⟨rfl, hafter⟩
    | ok _ => exact ih s' t' hafter

variable (h : left.Corresponds R P right)

include h

theorem hookFailed (error : SyncError) (result : Result) :
    Alike (RunState.Mirrors R P) (left.hookFailed error result) (right.hookFailed error result) := by
  unfold Session.hookFailed
  rw [h.task]
  cases left.task.hookScope with
  | run => exact alike_fail error
  | delta => exact fun s t hrel => ⟨rfl, (h.record _ s t hrel).2⟩

theorem finish (delta : Delta) (entity : Entity) (result : Result) :
    Alike (RunState.Mirrors R P) (left.finish delta entity result) (right.finish delta entity result) := by
  unfold Session.finish
  rw [h.task]
  refine (runAfter delta entity result h.hooks).bind fun failed => (h.record result).bind fun _ => ?_
  split <;> exact alike_pure _

/-! ## Actions -/

/-- The frames of like actions are alike; the actions count only if the sessions do more than pretend. -/
theorem actOn (hook : ExistingHook) (base : Result) (delta : Delta) (entity : Entity)
    {act : Delta → Step σ (Option Result)} {act' : Delta → Step τ (Option Result)}
    (hact : left.dryRun = false → ∀ delta, Alike (RunState.Mirrors R P) (act delta) (act' delta)) :
    Alike (RunState.Mirrors R P) (left.actOn hook base delta entity act) (right.actOn hook base delta entity act') := by
  unfold Session.actOn
  rw [h.dryRun]
  refine (beforeExisting hook entity h.hooks delta).bind fun answer => ?_
  cases answer with
  | error error => exact h.hookFailed error base
  | ok delta' =>
    refine Alike.ite (fun _ => h.finish delta' entity base) fun hlive => ?_
    refine (hact (Bool.eq_false_iff.mpr hlive) delta').bind fun outcome => ?_
    cases outcome with
    | none => exact alike_pure _
    | some result => exact h.finish delta' entity result

omit h in
theorem settle (base : Result) {followUp : WorkflowReport → Step σ Result} {followUp' : WorkflowReport → Step τ Result}
    (hfollowUp : ∀ report, Alike (RunState.Mirrors R P) (followUp report) (followUp' report))
    (answer : Except SyncError WorkflowReport) :
    Alike (RunState.Mirrors R P) (Session.settle base followUp answer) (Session.settle base followUp' answer) := by
  cases answer with
  | ok report => exact (hfollowUp report).bind fun _ => alike_pure _
  | error error => exact alike_pure _

theorem reread (entity : Entity) (patch : Patch) :
    Alike (RunState.Mirrors R P) (left.reread entity patch) (right.reread entity patch) := by
  unfold Session.reread
  rw [h.task]
  refine (alike_onWorld (h.find _ _)).bind fun answer => ?_
  split <;> exact alike_pure _

theorem update (hacts : left.ActsLike R P right) (entity : Entity) (base : Result) (delta : Delta) :
    Alike (RunState.Mirrors R P) (left.update entity base delta) (right.update entity base delta) := by
  unfold Session.update Propagation.updateTasks
  simp only [h.mapping, h.task, h.ownResource_eq, h.result_eq, ← hacts.tasksFor]
  refine Alike.ite (fun _ => alike_pure _) fun _ => ?_
  refine (alike_onWorld (hacts.update _ _ _)).bind fun answer => settle base (fun report => ?_) answer
  refine (h.reread entity _).bind fun after => ?_
  exact (hacts.propagate _).bind (alike_pure _)

theorem deprovision (hacts : left.ActsLike R P right) (entity : Entity) (base : Result) :
    Alike (RunState.Mirrors R P) (left.deprovision entity base) (right.deprovision entity base) := by
  unfold Session.deprovision Propagation.deprovisionTasks
  rw [h.ownResource_eq, ← hacts.tasksFor]
  exact (hacts.propagate _).bind (alike_pure _)

theorem unassign (hacts : left.ActsLike R P right) (entity : Entity) (base : Result) :
    Alike (RunState.Mirrors R P) (left.unassign entity base) (right.unassign entity base) := by
  unfold Session.unassign
  rw [h.task]
  refine (alike_onWorld (hacts.update _ _ _)).bind fun answer => ?_
  exact settle base (fun _ => h.deprovision hacts entity base) answer

theorem relink (hacts : left.ActsLike R P right) (entity : Entity) (patch : Patch) (base : Result) :
    Alike (RunState.Mirrors R P) (left.relink entity patch base) (right.relink entity patch base) := by
  unfold Session.relink
  rw [h.task]
  refine (alike_onWorld (hacts.update _ _ _)).bind fun answer => ?_
  exact settle base (fun _ => alike_pure _) answer

theorem remove (hacts : left.ActsLike R P right) (entity : Entity) (id : Nat) (base : Result) :
    Alike (RunState.Mirrors R P) (left.remove entity id base) (right.remove entity id base) := by
  unfold Session.remove Propagation.deleteTasks
  rw [h.task, h.ownResource_eq, ← hacts.tasksFor]
  refine (alike_onWorld (hacts.delete _ _)).bind fun answer => settle base (fun _ => ?_) answer
  exact (hacts.propagate _).bind (alike_pure _)

theorem load (id : Nat) : Alike (RunState.Mirrors R P) (left.load id) (right.load id) := by
  unfold Session.load
  rw [h.task]
  refine (alike_onWorld (h.find _ _)).bind fun answer => ?_
  cases answer <;> exact alike_pure _

/-! ## Deltas -/

theorem applyRule (delta : Delta) (entity : Entity) :
    Alike (RunState.Mirrors R P) (left.applyRule delta entity) (right.applyRule delta entity) := by
  unfold Session.applyRule
  simp only [h.task, h.result_eq]
  cases left.task.matching with
  | ignore => exact (h.record _).bind fun _ => alike_pure _
  | update => exact h.actOn _ _ _ _ fun hlive delta' => h.update (h.acts hlive) entity _ delta'
  | deprovision => exact h.actOn _ _ _ _ fun hlive _ => (h.deprovision (h.acts hlive) entity _).map some
  | unassign => exact h.actOn _ _ _ _ fun hlive _ => h.unassign (h.acts hlive) entity _
  | link => exact h.actOn _ _ _ _ fun hlive _ => h.relink (h.acts hlive) entity _ _
  | unlink => exact h.actOn _ _ _ _ fun hlive _ => h.relink (h.acts hlive) entity _ _

theorem handleMatched (delta : Delta) (ids : List Nat) :
    Alike (RunState.Mirrors R P) (left.handleMatched delta ids) (right.handleMatched delta ids) := by
  unfold Session.handleMatched
  rw [h.task]
  refine Alike.ite (fun _ => alike_forEach (fun id => ?_) ids) fun _ => alike_ok ()
  refine (h.load id).bind fun found => ?_
  cases found with
  | none => exact alike_pure _
  | some entity => exact h.applyRule delta entity

theorem handleDeleted (delta : Delta) (ids : List Nat) :
    Alike (RunState.Mirrors R P) (left.handleDeleted delta ids) (right.handleDeleted delta ids) := by
  unfold Session.handleDeleted
  rw [h.task, h.result_eq]
  refine Alike.ite (fun _ => alike_forEach (fun id => ?_) ids) fun _ => alike_ok ()
  refine (h.load id).bind fun found => ?_
  cases found with
  | none => exact alike_pure _
  | some entity => exact h.actOn _ _ _ _ fun hlive _ => h.remove (h.acts hlive) entity id _

theorem create (hook : NewHook) (delta : Delta) :
    Alike (RunState.Mirrors R P) (left.create hook delta) (right.create hook delta) := by
  have hentity : right.newEntity hook delta = left.newEntity hook delta := by
    simp only [newEntity, h.mapping, h.task]
  have hexcluded : right.excludedFor hook = left.excludedFor hook := by
    cases hook <;> simp only [excludedFor, h.ownResource_eq]
  unfold Session.create Propagation.createTasks
  rw [hentity, hexcluded, h.result_eq, h.dryRun]
  refine (beforeNew hook h.hooks delta _).bind fun answer => ?_
  obtain ⟨answer, entity⟩ := answer
  cases answer with
  | error error => exact h.hookFailed error _
  | ok delta' =>
    refine Alike.ite (fun _ => h.finish delta' entity _) fun hlive => ?_
    have hacts := h.acts (Bool.eq_false_iff.mpr hlive)
    refine (alike_onWorld (hacts.create entity)).bind fun answer => ?_
    cases answer with
    | ok report =>
      dsimp only
      rw [← hacts.tasksFor]
      exact (hacts.propagate _).bind (h.finish delta' _ _)
    | error error => exact Alike.ite (fun _ => alike_pure _) fun _ => h.finish delta' entity _

theorem handleUnmatched (delta : Delta) :
    Alike (RunState.Mirrors R P) (left.handleUnmatched delta) (right.handleUnmatched delta) := by
  unfold Session.handleUnmatched
  rw [h.task]
  refine Alike.ite (fun _ => ?_) fun _ => alike_ok ()
  cases left.task.unmatching with
  | ignore => exact alike_ok ()
  | assign => exact h.create .assign delta
  | provision => exact h.create .create delta

theorem correlate (delta : Delta) :
    Alike (RunState.Mirrors R P) (left.correlate delta) (right.correlate delta) := by
  unfold Session.correlate
  rw [h.mapping, h.task]
  refine (alike_onWorld (h.correlation _ _)).bind fun answer => ?_
  cases answer <;> exact alike_pure _

/-- Two sessions that correspond handle a delta alike. -/
theorem handle (delta : Delta) : Alike (RunState.Mirrors R P) (left.handle delta) (right.handle delta) := by
  refine (h.correlate delta).bind fun answer => ?_
  cases answer with
  | error error => exact alike_pure _
  | ok ids =>
    dsimp only
    split
    · exact h.handleUnmatched delta
    · exact h.handleMatched delta _
    · exact h.handleDeleted delta _

/-! ## Runs -/

theorem receive (delta : Delta) : Alike (RunState.Mirrors R P) (left.receive delta) (right.receive delta) := by
  intro s t hrel
  rw [receive_eq, receive_eq]
  refine h.handle delta _ _ ⟨hrel.world, ?_, hrel.results, hrel.propagation⟩
  exact congrArg (· ++ [delta]) hrel.received

theorem consume (emission : Emission) :
    Alike (RunState.Mirrors R P) (left.consume emission) (right.consume emission) := by
  intro s t hrel
  obtain ⟨hanswer, hafter⟩ := alike_forEach h.receive emission.deltas s t hrel
  simp only [consume_eq, hanswer, true_and]
  exact hafter

theorem persist (latest : Option SyncToken) :
    Alike (RunState.Mirrors R P) (left.persist latest) (right.persist latest) := by
  unfold Session.persist
  rw [h.task, h.dryRun]
  cases latest with
  | none => exact alike_pure _
  | some token =>
    refine Alike.ite (fun _ => alike_pure _) fun hlive => ?_
    have hacts := h.acts (Bool.eq_false_iff.mpr hlive)
    refine (alike_onWorld (hacts.store _ _)).bind fun answer => ?_
    cases answer <;> exact alike_pure _

end Corresponds

namespace Mirrors

variable (h : left.Mirrors R P right)

include h

theorem locate : Alike (RunState.Mirrors R P) left.locate right.locate := by
  unfold Session.locate
  rw [h.task, h.mapping]
  refine Alike.ite (fun _ => alike_pure _) fun _ => ?_
  refine (alike_onWorld (h.loadToken _)).bind fun answer => ?_
  cases answer with
  | error failure => exact alike_pure _
  | ok stored =>
    refine (alike_onWorld (h.latestToken _)).bind fun answer => ?_
    cases answer <;> exact alike_pure _

theorem pull (stored : Option SyncToken) :
    Alike (RunState.Mirrors R P) (left.pull stored) (right.pull stored) := by
  unfold Session.pull
  rw [h.task, h.mapping]
  cases left.task.full with
  | true => exact alike_onWorld ((h.search _ _ _).bind fun answer => by cases answer <;> exact alike_pure _)
  | false => exact alike_onWorld (h.sync _ _ _)

/-- Two sessions that mirror each other go through their phases alike. -/
theorem phases : Alike (RunState.Mirrors R P) left.phases right.phases := by
  refine (Corresponds.runOnce _ _ _ (h.hooks.imp fun _ _ hone => hone.beforeAll)).andThen fun _ => ?_
  refine h.locate.andThen fun position => ?_
  refine Alike.andThen ((h.pull position.stored).bind fun emission => h.consume emission) fun _ => ?_
  refine (Corresponds.runOnce _ _ _ (h.hooks.imp fun _ _ hone => hone.afterAll)).andThen fun _ => ?_
  exact h.persist position.latest

end Mirrors

/-- Sessions that mirror each other hand back the same at moments that mirror each other, if these agree in what
they know of the propagation. -/
theorem Mirrors.summary_eq {s : RunState σ} {t : RunState τ} (h : left.Mirrors R Eq right)
    (hrel : RunState.Mirrors R Eq s t) (token : Option SyncToken) : left.summary s token = right.summary t token := by
  simp only [summary, h.task, h.dryRun, hrel.results, hrel.propagation]

end Session

namespace Engine

/-- Two engines that find the same fault with a task, or run it in sessions that mirror each other. -/
inductive Mirrors (R : σ → τ → Prop) (P : List Propagation.Report → List Propagation.Report → Prop) (task : SyncTask)
    (left : Engine σ) (right : Engine τ) : Prop where
  | unmapped (error : MappingError) (hleft : left.registry.lookup task.resource task.subjectType = .error error)
      (hright : right.registry.lookup task.resource task.subjectType = .error error)
  | mapped (resource : Resource σ) (resource' : Resource τ) (mapping : Mapping)
      (hleft : left.registry.lookup task.resource task.subjectType = .ok (resource, mapping))
      (hright : right.registry.lookup task.resource task.subjectType = .ok (resource', mapping))
      (h : Session.Mirrors R P { engine := left, task, resource, mapping }
        { engine := right, task, resource := resource', mapping })

/-- Two engines that mirror each other, down to what they know of the propagation, start a task alike. -/
theorem Mirrors.start {R : σ → τ → Prop} {task : SyncTask} {left : Engine σ} {right : Engine τ}
    (h : left.Mirrors R Eq task right) {s : σ} {t : τ} (hrel : R s t) :
    (left.start task s).1 = (right.start task t).1 ∧
      RunState.Mirrors R Eq (left.start task s).2 (right.start task t).2 := by
  cases h with
  | unmapped error hleft hright =>
    rw [start_error hleft, start_error hright]
    exact ⟨rfl, hrel, rfl, rfl, rfl⟩
  | mapped resource resource' mapping hleft hright h =>
    obtain ⟨hanswer, hafter⟩ := h.phases { world := s } { world := t } ⟨hrel, rfl, rfl, rfl⟩
    rw [start_eq hleft, start_eq hright]
    simp only [hanswer, funext (h.summary_eq hafter), true_and]
    exact hafter

/-- Two engines that mirror each other, down to what they know of the propagation, run a task alike. -/
theorem Mirrors.run {R : σ → τ → Prop} {task : SyncTask} {left : Engine σ} {right : Engine τ}
    (h : left.Mirrors R Eq task right) : Alike R (left.run task) (right.run task) :=
  fun _ _ hrel => ⟨(h.start hrel).1, (h.start hrel).2.world⟩

end Engine

end Provisioning.Reconciliation
