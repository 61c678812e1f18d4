import Provisioning.Proofs.Reconciliation.Frame
set_option autoImplicit false

/-!
# Pulling and handling

However the two sides of the buffer take turns, the deltas are handled in the order in which they were sent.  So
what a run receives is an initial part of what the connector sends, and all of it unless handling a delta aborts
the run.  `gather` is the part of a run up to that point.
-/

namespace Provisioning

variable {σ α : Type}

open Reconciliation

namespace Relay

/-- Whatever the capacity and the turns are, relaying is handling in order.  The induction is on the moves that
are left: an item that is unsent still takes two of them, a buffered one takes one. -/
theorem moves_eq_forEach (handle : α → Step σ (Except SyncError Unit)) (capacity : Nat) (turns : Nat → Side)
    (steps turn : Nat) (unsent buffer : List α) (hsteps : 2 * unsent.length + buffer.length ≤ steps) :
    moves handle capacity turns steps turn unsent buffer = Session.forEach handle (buffer ++ unsent) := by
  induction steps generalizing turn unsent buffer with
  | zero =>
    have hunsent : unsent = [] := List.length_eq_zero_iff.mp (by omega)
    have hbuffer : buffer = [] := List.length_eq_zero_iff.mp (by omega)
    subst hunsent hbuffer
    rfl
  | succ steps ih =>
    cases unsent with
    | nil =>
      cases buffer with
      | nil => rfl
      | cons head tail =>
        simp only [List.length_nil, List.length_cons] at hsteps
        simp only [moves, List.append_nil, Session.forEach]
        rw [ih _ [] tail (by simp only [List.length_nil]; omega), List.append_nil]
    | cons item rest =>
      simp only [List.length_cons] at hsteps
      cases buffer with
      | nil =>
        simp only [moves]
        exact ih _ rest [item] (by simp only [List.length_cons, List.length_nil]; omega)
      | cons head tail =>
        simp only [List.length_cons] at hsteps
        simp only [moves]
        split
        · rw [ih _ rest _ (by simp only [List.length_append, List.length_cons, List.length_nil]; omega)]
          simp
        · rw [ih _ (item :: rest) tail (by simp only [List.length_cons]; omega)]
          rfl

/-- Relaying items through a buffer is handling them in order. -/
theorem run_eq_forEach (handle : α → Step σ (Except SyncError Unit)) (capacity : Nat) (turns : Nat → Side)
    (items : List α) : run handle capacity turns items = Session.forEach handle items :=
  moves_eq_forEach handle capacity turns _ 0 items [] (by simp)

end Relay

namespace Reconciliation.Session

variable {frame : Frame σ} {session : Session σ}

/-! ## What is received -/

theorem receive_eq (session : Session σ) (delta : Delta) (s : RunState σ) :
    session.receive delta s = session.handle delta { s with received := s.received ++ [delta] } := rfl

theorem receive_received (h : session.Keeps frame) (delta : Delta) (s : RunState σ) :
    (session.receive delta s).2.received = s.received ++ [delta]
      ∧ frame.Rel s.world (session.receive delta s).2.world := by
  have hhandle := keeps_handle h delta { s with received := s.received ++ [delta] }
  exact ⟨hhandle.2.1, hhandle.1⟩

/-- Deltas are taken over from the first on, and all of them unless handling one aborts. -/
theorem forEach_receive (h : session.Keeps frame) (deltas : List Delta) (s : RunState σ) :
    let after := forEach session.receive deltas s
    frame.Rel s.world after.2.world ∧
      ∃ taken, taken <+: deltas ∧ after.2.received = s.received ++ taken
        ∧ (after.1 = .ok () → taken = deltas) := by
  induction deltas generalizing s with
  | nil => exact ⟨frame.refl _, [], List.prefix_rfl, (List.append_nil _).symm, fun _ => rfl⟩
  | cons delta rest ih =>
    obtain ⟨hreceived, hrel⟩ := receive_received h delta s
    simp only [forEach, Effect.andThen]
    split <;> rename_i heq <;> rw [heq] at hreceived hrel
    · rename_i s'
      obtain ⟨hrest, taken, hprefix, htaken, hall⟩ := ih s'
      refine ⟨frame.trans hrel hrest, delta :: taken, ?_, ?_, fun hok => ?_⟩
      · exact (List.prefix_cons_inj delta).mpr hprefix
      · rw [htaken, hreceived, List.append_assoc, List.singleton_append]
      · rw [hall hok]
    · refine ⟨hrel, [delta], ?_, hreceived, fun hok => ?_⟩
      · exact (List.prefix_cons_inj delta).mpr List.nil_prefix
      · cases hok

theorem consume_eq (session : Session σ) (emission : Emission) (s : RunState σ) :
    session.consume emission s =
      let handled := forEach session.receive emission.deltas s
      (match handled.1 with
        | .error error => .error error
        | .ok () => emission.outcome.mapError .connector, handled.2) := by
  unfold consume
  rw [Relay.run_eq_forEach]
  cases hhandled : forEach session.receive emission.deltas s with
  | mk answer s' =>
    simp only [bind, StateT.bind, hhandled]
    cases answer <;> rfl

/-- A pull succeeds when every delta was handled and the connector had no failure to report. -/
theorem consume_received (h : session.Keeps frame) (emission : Emission) (s : RunState σ) :
    let after := session.consume emission s
    frame.Rel s.world after.2.world ∧
      ∃ taken, taken <+: emission.deltas ∧ after.2.received = s.received ++ taken
        ∧ (after.1 = .ok () → taken = emission.deltas ∧ emission.outcome = .ok ()) := by
  obtain ⟨hrel, taken, hprefix, htaken, hall⟩ := forEach_receive h emission.deltas s
  rw [consume_eq]
  refine ⟨hrel, taken, hprefix, htaken, fun hok => ?_⟩
  dsimp only at hok
  split at hok
  · cases hok
  · rename_i hhandled
    refine ⟨hall hhandled, ?_⟩
    cases houtcome : emission.outcome with
    | error error =>
      rw [houtcome] at hok
      cases hok
    | ok _ => rfl

/-! ## The phases of a run -/

/-- The part of a run that ends when the last delta has been handled; returns where the changes were taken up. -/
def gather (session : Session σ) : Step σ (Except SyncError Position) :=
  Effect.andThen (session.runOnce .beforeAll Hooks.beforeAll session.engine.hooks) fun _ =>
  Effect.andThen session.locate fun position =>
  Effect.andThen (fun s =>
    let (emission, s') := session.pull position.stored s
    session.consume emission s') fun _ =>
  Effect.ok position

section Steps

variable {steps : Frame (RunState σ)}

theorem steps_consume (hreceive : ∀ delta, steps.Keeps (session.receive delta)) (emission : Emission) :
    steps.Keeps (session.consume emission) := by
  intro s
  rw [consume_eq]
  exact steps_forEach hreceive emission.deltas s

theorem steps_gather (hopening : steps.Keeps (session.runOnce .beforeAll Hooks.beforeAll session.engine.hooks))
    (hlocate : steps.Keeps session.locate) (hpull : ∀ stored, steps.Keeps (session.pull stored))
    (hreceive : ∀ delta, steps.Keeps (session.receive delta)) : steps.Keeps session.gather := by
  refine hopening.andThen fun _ => hlocate.andThen fun position => ?_
  refine Frame.Keeps.andThen (fun s => ?_) fun _ => Frame.keeps_ok _
  exact steps.trans (hpull position.stored s) (steps_consume hreceive _ _)

end Steps

theorem keeps_gather (h : session.Keeps frame) (hload : ∀ task, frame.Keeps (session.engine.tokens.load task)) :
    frame.onWorlds.Keeps session.gather :=
  steps_gather
    (keeps_onWorlds (keeps_onRun (keeps_runOnce _ _ _ fun one hone _ => (h.hooks one hone).beforeAll _ h.connector)))
    (keeps_onWorlds (keeps_onRun (keeps_locate h.connector hload)))
    (fun stored => keeps_onWorlds (keeps_onRun (keeps_pull h.connector stored)))
    fun delta s => (receive_received h delta s).2

/-- A full run captures no token. -/
theorem gather_full (hfull : session.task.full = true) {s : RunState σ} {position : Position}
    (hok : (session.gather s).1 = .ok position) : position.latest = none := by
  simp only [gather, Effect.andThen_eq_ok_iff] at hok
  obtain ⟨-, -, located, hlocated, -, -, hposition⟩ := hok
  cases hposition
  simp only [locate, hfull, if_true, pure_apply, Except.ok.injEq] at hlocated
  exact hlocated ▸ rfl

/-- After the last delta only the closing hooks and the token are left. -/
theorem phases_eq_gather (session : Session σ) :
    session.phases = Effect.andThen session.gather fun position =>
      Effect.andThen (session.runOnce .afterAll Hooks.afterAll session.engine.hooks) fun _ =>
        session.persist position.latest := by
  simp only [gather, Effect.andThen_assoc, Effect.ok_andThen]
  rfl

theorem steps_phases {steps : Frame (RunState σ)} (hgather : steps.Keeps session.gather)
    (hclosing : steps.Keeps (session.runOnce .afterAll Hooks.afterAll session.engine.hooks))
    (hpersist : ∀ latest, steps.Keeps (session.persist latest)) : steps.Keeps session.phases := by
  rw [phases_eq_gather]
  exact hgather.andThen fun position => hclosing.andThen fun _ => hpersist position.latest

end Reconciliation.Session

/-! ## Runs -/

namespace Reconciliation.Engine

variable {engine : Engine σ} {task : SyncTask} {resource : Resource σ} {mapping : Mapping}

theorem start_error {error : MappingError}
    (hlookup : engine.registry.lookup task.resource task.subjectType = .error error) (s : σ) :
    engine.start task s = (.error (.mapping error), { world := s }) := by
  simp only [start, hlookup]

/-- A run goes through its phases, and hands back what it has recorded if they succeed. -/
theorem start_eq (hlookup : engine.registry.lookup task.resource task.subjectType = .ok (resource, mapping)) (s : σ) :
    let session : Session σ := { engine, task, resource, mapping }
    let finished := session.phases { world := s }
    engine.start task s = (finished.1.map (session.summary finished.2), finished.2) := by
  simp only [start, hlookup]
  split <;> rename_i heq <;> rw [heq] <;> rfl

theorem start_ok (hlookup : engine.registry.lookup task.resource task.subjectType = .ok (resource, mapping)) (s : σ) :
    let finished := Session.phases { engine, task, resource, mapping } { world := s }
    (engine.start task s).2 = finished.2 ∧ (engine.start task s).1.isOk = finished.1.isOk := by
  intro finished
  rw [start_eq hlookup]
  refine ⟨rfl, ?_⟩
  simp only [finished]
  cases (Session.phases { engine, task, resource, mapping } { world := s }).1 <;> rfl

/-- A run that succeeds hands back and reports the results that it has recorded. -/
theorem start_summary {s : σ} {summary : Summary} (h : (engine.start task s).1 = .ok summary) :
    let recorded := (engine.start task s).2.results
    summary.results = recorded ∧
      summary.report =
        Report.render task.subjectType (engine.dryRun || task.dryRun) recorded task.trace := by
  intro recorded
  simp only [recorded]
  cases hlookup : engine.registry.lookup task.resource task.subjectType with
  | error error =>
    rw [start_error hlookup] at h
    cases h
  | ok found =>
    obtain ⟨resource, mapping⟩ := found
    simp only [start, hlookup] at h ⊢
    generalize Session.phases { engine, task, resource, mapping } { world := s } = finished at h ⊢
    obtain ⟨answer, s'⟩ := finished
    cases answer with
    | error error => cases h
    | ok token =>
      cases h
      exact ⟨rfl, rfl⟩

end Reconciliation.Engine

end Provisioning
