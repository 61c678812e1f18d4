import Provisioning.Proofs.Reconciliation.DryRun
import Provisioning.Proofs.Reconciliation.HookFailures
import Provisioning.Proofs.Reconciliation.Overlooked
import Provisioning.Proofs.Relay
set_option autoImplicit false

/-!
# The stream of deltas

The connector sends and the engine handles at the same time, through a buffer.  What a run takes over, what it makes
of it and how it ends are the same for every capacity of the buffer and every order in which the two proceed.
-/

namespace Provisioning.Reconciliation

variable {σ : Type}

/-! ## The buffer -/

theorem RunState.Mirrors.refl (s : RunState σ) : RunState.Mirrors Eq Eq s s := ⟨rfl, rfl, rfl, rfl⟩

theorem RunState.Mirrors.eq {s t : RunState σ} (h : RunState.Mirrors Eq Eq s t) : s = t := by
  obtain ⟨world, received, results, propagation⟩ := s
  obtain ⟨rfl, rfl, rfl, rfl⟩ := h
  rfl

theorem eq_of_alike {α : Type} {step step' : Step σ α} (h : Alike (RunState.Mirrors Eq Eq) step step') :
    step = step' := by
  funext s
  obtain ⟨hanswer, hafter⟩ := h s s (.refl s)
  exact Prod.ext hanswer hafter.eq

/-- The engine with another buffer, on which the sides take other turns. -/
def Engine.rebuffered (engine : Engine σ) (capacity : Nat) (turns : Nat → Relay.Side) : Engine σ :=
  { engine with capacity, turns }

namespace Session

/-- The session with another buffer. -/
def rebuffered (session : Session σ) (capacity : Nat) (turns : Nat → Relay.Side) : Session σ :=
  { session with engine := session.engine.rebuffered capacity turns }

variable {session : Session σ} {capacity : Nat} {turns : Nat → Relay.Side}

/-- Nothing but the relaying of deltas knows of the buffer. -/
theorem mirrors_rebuffered : session.Mirrors Eq Eq (session.rebuffered capacity turns) where
  task := rfl
  mapping := rfl
  dryRun := rfl
  find _ _ := alike_self _
  correlation _ _ := alike_self _
  loadToken _ := alike_self _
  latestToken _ := alike_self _
  sync _ _ _ := alike_self _
  search _ _ _ := alike_self _
  audit event := (alike_self (session.engine.audit event)).abreast
  hooks := List.forall₂_same.mpr fun hooks _ => by
    constructor
    case beforeAll | afterAll =>
      intro s t hrel
      obtain rfl := hrel.eq
      exact alike_self _
    case beforeNew | beforeExisting =>
      intro hook delta entity s t hrel
      obtain rfl := hrel.eq
      exact alike_self _
    case after =>
      intro delta entity result s t hrel
      obtain rfl := hrel.eq
      exact alike_self _
  acts _ :=
    { create := fun _ => alike_self _
      update := fun _ _ _ => alike_self _
      delete := fun _ _ => alike_self _
      notifications := fun event => (alike_self (session.engine.notifications event)).abreast
      tasksFor := fun _ _ _ => rfl
      propagate := fun tasks s t hrel => by
        obtain rfl := hrel.eq
        exact .refl _
      store := fun _ _ => alike_self _ }

theorem phases_rebuffered : (session.rebuffered capacity turns).phases = session.phases := by
  have hmirrors : session.Mirrors Eq Eq (session.rebuffered capacity turns) := mirrors_rebuffered
  exact (eq_of_alike hmirrors.phases).symm

end Session

theorem Engine.start_rebuffered (engine : Engine σ) (capacity : Nat) (turns : Nat → Relay.Side) (task : SyncTask) :
    (engine.rebuffered capacity turns).start task = engine.start task := by
  funext world
  cases hlookup : engine.registry.lookup task.resource task.subjectType with
  | error error =>
    have hrebuffered : (engine.rebuffered capacity turns).registry.lookup task.resource task.subjectType =
        .error error := hlookup
    rw [start_error hlookup, start_error hrebuffered]
  | ok found =>
    let session : Session σ := { engine, task, resource := found.1, mapping := found.2 }
    have hphases : (session.rebuffered capacity turns).phases = session.phases := Session.phases_rebuffered
    have hrebuffered : (engine.rebuffered capacity turns).registry.lookup task.resource task.subjectType =
        .ok found := hlookup
    simp only [Session.rebuffered, session] at hphases
    simp only [start, hlookup, hrebuffered, hphases]
    rfl

/-! ## What is handled -/

namespace Session

variable {session : Session σ}

/-- A run takes over the deltas that it handles, in the order in which it handles them. -/
theorem consume_received_eq (session : Session σ) (emission : Emission) (s : RunState σ) :
    (session.consume emission s).2.received =
      s.received ++ (trail session.receive emission.deltas s).map Prod.fst := by
  have hreceived : ∀ (delta : Delta) (s : RunState σ),
      (session.receive delta s).2.received = s.received ++ [delta] := fun delta s =>
    (receive_received session.keeps_anything delta s).1
  have happending : ∀ delta, (Frame.appending RunState.received).Keeps (session.receive delta) := fun delta s =>
    ⟨[delta], (hreceived delta s).symm⟩
  have happended := fun (delta : Delta) (s : RunState σ) => appended_eq (hreceived delta s)
  simp only [consume_eq, forEach_appended happending, happended, List.map_eq_flatMap]

/-- If no handling aborts, the whole stream is handled, and what the connector reports counts afterwards. -/
theorem consume_of_trail_ok {emission : Emission} {s : RunState σ}
    (h : ∀ pair ∈ trail session.receive emission.deltas s, (session.receive pair.1 pair.2).1 = .ok ()) :
    (session.consume emission s).1 = emission.outcome.mapError .connector ∧
      (session.consume emission s).2.received = s.received ++ emission.deltas := by
  obtain ⟨hok, hall⟩ := forEach_of_trail_ok h
  rw [consume_received_eq, hall]
  refine ⟨?_, rfl⟩
  simp only [consume_eq, hok]

/-- If the handling of a delta aborts, it is the last one that is handled, and its error counts. -/
theorem consume_of_trail_error {emission : Emission} {s reached : RunState σ} {k : Nat} {delta : Delta}
    {error : SyncError} (hreached : (trail session.receive emission.deltas s)[k]? = some (delta, reached))
    (herror : (session.receive delta reached).1 = .error error) :
    (session.consume emission s).1 = .error error ∧
      (session.consume emission s).2.received = s.received ++ emission.deltas.take (k + 1) := by
  obtain ⟨hlast, htaken⟩ := forEach_of_trail_error hreached herror
  rw [consume_received_eq, htaken]
  refine ⟨?_, rfl⟩
  simp only [consume_eq, hlast]

/-- Only a hook can abort the handling of a delta. -/
theorem receive_error {delta : Delta} {s : RunState σ} {error : SyncError}
    (h : (session.receive delta s).1 = .error error) : ∃ hook detail, error = .hook hook detail := by
  have hleads : session.Leads none session.Heeds (session.handle delta) := leads_handle delta
  rw [receive_eq] at h
  obtain ⟨calls, -, hheeds⟩ := hleads { s with received := s.received ++ [delta] }
  rw [h] at hheeds
  obtain ⟨-, hfirst⟩ := Heeds.of_error hheeds
  rw [Option.none_or] at hfirst
  obtain ⟨call, -, failure, -, rfl⟩ := exists_of_firstFailure hfirst
  exact ⟨call.hook, failure.message, rfl⟩

/-! ## Runs -/

/-- The part of a run before the first delta is handled. -/
def approach (session : Session σ) : Step σ (Except SyncError (Position × Emission)) :=
  Effect.andThen (session.runOnce .beforeAll Hooks.beforeAll session.engine.hooks) fun _ =>
  Effect.andThen session.locate fun position s =>
    let (emission, s') := session.pull position.stored s
    (.ok (position, emission), s')

theorem phases_eq_approach (session : Session σ) :
    session.phases = Effect.andThen session.approach fun (position, emission) =>
      Effect.andThen (session.consume emission) fun _ =>
      Effect.andThen (session.runOnce .afterAll Hooks.afterAll session.engine.hooks) fun _ =>
      session.persist position.latest := by
  simp only [approach, Effect.andThen_assoc]
  rfl

/-- Nothing is taken over before the pull. -/
theorem approach_received (session : Session σ) (s : RunState σ) : (session.approach s).2.received = s.received := by
  have hkeeps : (Frame.anything : Frame σ).onRun.Keeps session.approach := by
    have hsession := session.keeps_anything
    refine (keeps_onRun (keeps_runOnce _ _ _ fun one hone _ => ?_)).andThen fun _ => ?_
    · exact (hsession.hooks one hone).beforeAll _ hsession.connector
    · refine (keeps_onRun (keeps_locate hsession.connector fun _ _ => trivial)).andThen fun position => ?_
      exact keeps_onRun (keeps_pull hsession.connector position.stored)
  exact (hkeeps s).2

end Session

namespace Engine

variable {engine : Engine σ} {task : SyncTask} {resource : Resource σ} {mapping : Mapping} {world : σ}
  {position : Session.Position} {emission : Emission} {s : RunState σ}

/-- A run that gets to its pull ends with the error that the stream comes to, if any. -/
theorem start_of_consume_error
    (hlookup : engine.registry.lookup task.resource task.subjectType = .ok (resource, mapping))
    (happroach : Session.approach { engine, task, resource, mapping } { world } = (.ok (position, emission), s))
    {error : SyncError} (herror : (Session.consume { engine, task, resource, mapping } emission s).1 = .error error) :
    engine.start task world =
      (.error error, (Session.consume { engine, task, resource, mapping } emission s).2) := by
  simp only [start, hlookup, Session.phases_eq_approach, Effect.andThen_apply, happroach, herror]

/-- From the pull on a run handles the stream, and whatever the capacity of the buffer is and whichever side moves
when both can, it inevitably comes to the same end.  Unless handling a delta aborts it, the run takes over all that
was sent, in that order, and fails only then if the connector does.  Handling that aborts ends it: nothing that was
sent later is taken over, and the run fails with the error of the hook, whatever the connector reports. -/
theorem start_streams
    (hlookup : engine.registry.lookup task.resource task.subjectType = .ok (resource, mapping))
    (happroach : Session.approach { engine, task, resource, mapping } { world } = (.ok (position, emission), s)) :
    let session : Session σ := { engine, task, resource, mapping }
    let handled := Session.trail session.receive emission.deltas s
    let consumed := session.consume emission s
    (∀ capacity turns, 0 < capacity →
      Relay.Inevitable (Relay.Move session.receive capacity emission.outcome)
          (fun m => m.state = consumed.2 ∧ m.joined? = some consumed.1) (Relay.Moment.first s emission.deltas) ∧
        (engine.rebuffered capacity turns).start task world = engine.start task world) ∧
    ((∀ pair ∈ handled, (session.receive pair.1 pair.2).1 = .ok ()) →
      consumed.2.received = emission.deltas ∧ consumed.1 = emission.outcome.mapError .connector ∧
        ∀ error, emission.outcome = .error error →
          engine.start task world = (.error (.connector error), consumed.2)) ∧
    ∀ k delta reached error, handled[k]? = some (delta, reached) → (session.receive delta reached).1 = .error error →
      consumed.2.received = emission.deltas.take (k + 1) ∧ (∃ hook detail, error = .hook hook detail) ∧
        engine.start task world = (.error error, consumed.2) := by
  intro session handled consumed
  have hfresh : s.received = [] := by
    have hreceived := session.approach_received { world }
    rwa [happroach] at hreceived
  refine ⟨fun capacity turns hcapacity => ?_, fun hok => ?_, fun k delta reached error hreached herror => ?_⟩
  · refine ⟨?_, congrFun (engine.start_rebuffered capacity turns task) world⟩
    simp only [consumed, Session.consume_eq]
    exact Relay.inevitable_end session.receive hcapacity emission.outcome emission.deltas s
  · obtain ⟨hanswer, hreceived⟩ := Session.consume_of_trail_ok hok
    rw [hfresh, List.nil_append] at hreceived
    refine ⟨hreceived, hanswer, fun error houtcome => start_of_consume_error hlookup happroach ?_⟩
    rw [hanswer, houtcome]
    rfl
  · obtain ⟨hanswer, hreceived⟩ := Session.consume_of_trail_error hreached herror
    rw [hfresh, List.nil_append] at hreceived
    exact ⟨hreceived, Session.receive_error herror, start_of_consume_error hlookup happroach hanswer⟩

end Engine

end Provisioning.Reconciliation

/-! ## All systems in memory -/

namespace Provisioning.Memory.Premises

open Reconciliation

/-- The import of changes that a hook can abort. -/
def strictImport : SyncTask := { importChanges with hookScope := .run }

/-- Changes of a user who is known, of one who is not, and of the first one again. -/
def eventful : Premises :=
  { staff with
    directory := ["ada", "bob", "ada"].foldl
      (fun directory uid => directory.pushDelta ((account uid).toDelta "account")) {} }

/-- The import at work. -/
def importingStrictly : Session Premises where
  engine := guarded
  task := strictImport
  resource := resource plainConnector
  mapping := userMapping

/-- The import pulls the three changes, and the handling of the second one fails. -/
theorem importingStrictly_refuses :
    ∃ position emission s, importingStrictly.approach { world := eventful } = (.ok (position, emission), s) ∧
      emission.deltas = eventful.directory.changes ∧
        ((Session.trail importingStrictly.receive emission.deltas s)[1]?.map fun pair =>
          (importingStrictly.receive pair.1 pair.2).1.isOk) = some false :=
  ⟨_, _, _, rfl, rfl, by decide +kernel⟩

/-- The second change is refused; the third one is not taken over any more, however large the buffer is. -/
theorem start_streams_up_to_refusal :
    let finished := guarded.start strictImport eventful
    finished.2.received = eventful.directory.changes.take 2 ∧
      (∃ hook detail, finished.1 = .error (.hook hook detail)) ∧
      ∀ capacity turns, 0 < capacity → (guarded.rebuffered capacity turns).start strictImport eventful = finished := by
  intro finished
  have hlookup : guarded.registry.lookup strictImport.resource strictImport.subjectType =
      .ok (resource plainConnector, userMapping) := lookup_registry
  obtain ⟨position, emission, s, happroach, hdeltas, hsecond⟩ := importingStrictly_refuses
  obtain ⟨⟨delta, reached⟩, hreached, hfailed⟩ := Option.map_eq_some_iff.mp hsecond
  obtain ⟨hsame, -, habort⟩ := Engine.start_streams hlookup happroach
  cases hanswer : (importingStrictly.receive delta reached).1 with
  | ok _ =>
    rw [hanswer] at hfailed
    cases hfailed
  | error error =>
    obtain ⟨hreceived, ⟨hook, detail, rfl⟩, hfinished⟩ := habort 1 delta reached error hreached hanswer
    rw [hdeltas] at hreceived
    refine ⟨?_, ⟨hook, detail, congrArg Prod.fst hfinished⟩, fun capacity turns hcapacity => ?_⟩
    · simp only [finished, hfinished]
      exact hreceived
    · exact (hsame capacity turns hcapacity).2

end Provisioning.Memory.Premises
