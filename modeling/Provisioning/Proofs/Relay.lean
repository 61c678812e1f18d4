import Provisioning.Proofs.Reconciliation.Pull
set_option autoImplicit false

/-!
# Interleavings of a sender and a receiver

The two sides of a buffer run side by side.  The sender waits while the buffer is full, the receiver while it is
empty, and while an item is being handled the sender may go on.  When handling fails the receiver goes away with what
is buffered, and nothing can be sent any more.  Whichever side moves when both can, they end, and they end as if the
items had been handled one after the other.
-/

namespace Provisioning.Relay

open Reconciliation

variable {α σ : Type}

/-! ## What is bound to happen -/

/-- Whichever way things move on, they come to the goal. -/
inductive Inevitable {μ : Type} (move : μ → μ → Prop) (goal : μ → Prop) : μ → Prop where
  | now {m : μ} (h : goal m) : Inevitable move goal m
  | later {m : μ} (hsome : ∃ next, move m next) (hall : ∀ next, move m next → Inevitable move goal next) :
    Inevitable move goal m

/-- The goal is inevitable if moves preserve an invariant under which they never get stuck before it, and if there
are ever fewer of them left. -/
theorem inevitable_of_invariant {μ : Type} {move : μ → μ → Prop} {goal : μ → Prop} (invariant : μ → Prop)
    (left : μ → Nat)
    (hpreserved : ∀ m next, invariant m → move m next → invariant next)
    (hless : ∀ m next, move m next → left next < left m)
    (hprogress : ∀ m, invariant m → goal m ∨ ∃ next, move m next) {m : μ} (h : invariant m) :
    Inevitable move goal m := by
  induction hleft : left m using Nat.strongRecOn generalizing m with
  | ind n ih =>
    rcases hprogress m h with hgoal | hsome
    · exact .now hgoal
    · refine .later hsome fun next hmove => ?_
      exact ih (left next) (hleft ▸ hless m next hmove) (hpreserved m next h hmove) rfl

/-! ## Moves -/

/-- What the receiver is about. -/
inductive Receiver (α : Type) where
  | waiting
  | handling (item : α)
  /-- It has gone away. -/
  | gone (answer : Except SyncError Unit)

/-- Whether the receiver still takes items. -/
def Receiver.isOpen : Receiver α → Bool
  | .gone _ => false
  | _ => true

/-- A moment of an interleaving. -/
structure Moment (α σ : Type) where
  state : RunState σ
  unsent : List α
  buffer : List α
  /-- How the sender ended, once it has. -/
  sent : Option (Except ConnectorError Unit)
  receiver : Receiver α

/-- Nothing is sent yet. -/
def Moment.first (state : RunState σ) (items : List α) : Moment α σ :=
  { state, unsent := items, buffer := [], sent := none, receiver := .waiting }

/-- The moves of either side.  The sender ends with `outcome` when it has sent everything; if the receiver is gone
before, it may end in any way. -/
inductive Move (handle : α → Step σ (Except SyncError Unit)) (capacity : Nat) (outcome : Except ConnectorError Unit) :
    Moment α σ → Moment α σ → Prop where
  | send {state : RunState σ} {item : α} {rest buffer : List α} {receiver : Receiver α}
      (hopen : receiver.isOpen = true) (hroom : buffer.length < capacity) :
    Move handle capacity outcome ⟨state, item :: rest, buffer, none, receiver⟩
      ⟨state, rest, buffer ++ [item], none, receiver⟩
  | close {state : RunState σ} {buffer : List α} {receiver : Receiver α} :
    Move handle capacity outcome ⟨state, [], buffer, none, receiver⟩ ⟨state, [], buffer, some outcome, receiver⟩
  | refuse {state : RunState σ} {unsent buffer : List α} {answer : Except SyncError Unit}
      (pulled : Except ConnectorError Unit) :
    Move handle capacity outcome ⟨state, unsent, buffer, none, .gone answer⟩
      ⟨state, unsent, buffer, some pulled, .gone answer⟩
  | take {state : RunState σ} {item : α} {unsent rest : List α} {sent : Option (Except ConnectorError Unit)} :
    Move handle capacity outcome ⟨state, unsent, item :: rest, sent, .waiting⟩
      ⟨state, unsent, rest, sent, .handling item⟩
  | finish {state state' : RunState σ} {item : α} {unsent buffer : List α}
      {sent : Option (Except ConnectorError Unit)} (hhandle : handle item state = (.ok (), state')) :
    Move handle capacity outcome ⟨state, unsent, buffer, sent, .handling item⟩
      ⟨state', unsent, buffer, sent, .waiting⟩
  | abort {state state' : RunState σ} {item : α} {unsent buffer : List α}
      {sent : Option (Except ConnectorError Unit)} {error : SyncError}
      (hhandle : handle item state = (.error error, state')) :
    Move handle capacity outcome ⟨state, unsent, buffer, sent, .handling item⟩
      ⟨state', unsent, [], sent, .gone (.error error)⟩
  | drain {state : RunState σ} {unsent : List α} {pulled : Except ConnectorError Unit} :
    Move handle capacity outcome ⟨state, unsent, [], some pulled, .waiting⟩
      ⟨state, unsent, [], some pulled, .gone (.ok ())⟩

variable {handle : α → Step σ (Except SyncError Unit)} {capacity : Nat} {outcome : Except ConnectorError Unit}

/-- How many moves are left at most.  An item that is unsent takes three of them, a buffered one two. -/
def Moment.left (m : Moment α σ) : Nat :=
  3 * m.unsent.length + 2 * m.buffer.length + (if m.sent.isNone then 1 else 0) +
    match m.receiver with
    | .waiting => 1
    | .handling _ => 2
    | .gone _ => 0

theorem Move.left_lt {m next : Moment α σ} (h : Move handle capacity outcome m next) : next.left < m.left := by
  cases h with
  | send hopen hroom =>
    simp only [Moment.left, List.length_append, List.length_cons, List.length_nil]
    omega
  | close => simp [Moment.left]
  | refuse pulled => simp [Moment.left]
  | take =>
    simp only [Moment.left, List.length_cons]
    omega
  | finish hhandle => simp [Moment.left]
  | abort hhandle =>
    simp only [Moment.left, List.length_nil]
    omega
  | drain => simp [Moment.left]

/-! ## What is preserved -/

/-- A sender that has ended has sent everything. -/
def Moment.Complete (outcome : Except ConnectorError Unit) (m : Moment α σ) : Prop :=
  ∀ pulled, m.sent = some pulled → m.unsent = [] ∧ pulled = outcome

theorem Moment.complete_of_unended {m : Moment α σ} (h : m.sent = none) : m.Complete outcome := by
  intro pulled hsent
  rw [h] at hsent
  cases hsent

/-- Handling the items that the receiver has not handled yet, in the order in which they are held, buffered and
unsent, leads to the `final` answer and state. -/
def Moment.Faithful (handle : α → Step σ (Except SyncError Unit)) (outcome : Except ConnectorError Unit)
    (final : Except SyncError Unit × RunState σ) (m : Moment α σ) : Prop :=
  match m.receiver with
  | .waiting => Session.forEach handle (m.buffer ++ m.unsent) m.state = final ∧ m.Complete outcome
  | .handling item => Session.forEach handle (item :: (m.buffer ++ m.unsent)) m.state = final ∧ m.Complete outcome
  | .gone answer => (answer, m.state) = final ∧ (answer = .ok () → m.sent = some outcome)

theorem Move.faithful {final : Except SyncError Unit × RunState σ} {m next : Moment α σ}
    (h : m.Faithful handle outcome final) (hmove : Move handle capacity outcome m next) :
    next.Faithful handle outcome final := by
  cases hmove with
  | @send state item rest buffer receiver hopen hroom =>
    have hsame : buffer ++ [item] ++ rest = buffer ++ item :: rest := by simp
    cases receiver with
    | waiting =>
      obtain ⟨hfinal, -⟩ := h
      exact ⟨hsame ▸ hfinal, Moment.complete_of_unended rfl⟩
    | handling held =>
      obtain ⟨hfinal, -⟩ := h
      exact ⟨hsame ▸ hfinal, Moment.complete_of_unended rfl⟩
    | gone answer => cases hopen
  | @close state buffer receiver =>
    have hcomplete : (⟨state, [], buffer, some outcome, receiver⟩ : Moment α σ).Complete outcome := by
      intro pulled hsent
      cases hsent
      exact ⟨rfl, rfl⟩
    cases receiver with
    | waiting => exact ⟨h.1, hcomplete⟩
    | handling held => exact ⟨h.1, hcomplete⟩
    | gone answer => exact ⟨h.1, fun _ => rfl⟩
  | refuse pulled =>
    obtain ⟨hfinal, hsent⟩ := h
    refine ⟨hfinal, fun hok => ?_⟩
    cases hsent hok
  | take => exact h
  | finish hhandle =>
    obtain ⟨hfinal, hcomplete⟩ := h
    refine ⟨?_, hcomplete⟩
    rw [← hfinal, Session.forEach, Effect.andThen_apply, hhandle]
  | abort hhandle =>
    obtain ⟨hfinal, -⟩ := h
    refine ⟨?_, fun hok => by cases hok⟩
    rw [← hfinal, Session.forEach, Effect.andThen_apply, hhandle]
  | @drain state unsent pulled =>
    obtain ⟨hfinal, hcomplete⟩ := h
    obtain ⟨hunsent, hpulled⟩ := hcomplete pulled rfl
    dsimp only at hfinal hunsent
    subst hunsent hpulled
    exact ⟨hfinal, fun _ => rfl⟩

/-! ## The end -/

/-- What both sides have come to, once both have ended: an error of handling wins over one of the sender. -/
def Moment.joined? (m : Moment α σ) : Option (Except SyncError Unit) :=
  match m.sent, m.receiver with
  | some _, .gone (.error error) => some (.error error)
  | some pulled, .gone (.ok ()) => some (pulled.mapError .connector)
  | _, _ => none

/-- Unless both sides have ended, one of them can move. -/
theorem Moment.progress (hcapacity : 0 < capacity) (m : Moment α σ) :
    m.joined?.isSome = true ∨ ∃ next, Move handle capacity outcome m next := by
  obtain ⟨state, unsent, buffer, sent, receiver⟩ := m
  cases receiver with
  | waiting =>
    cases buffer with
    | cons item rest => exact .inr ⟨_, .take⟩
    | nil =>
      cases sent with
      | some pulled => exact .inr ⟨_, .drain⟩
      | none =>
        cases unsent with
        | nil => exact .inr ⟨_, .close⟩
        | cons item rest => exact .inr ⟨_, .send rfl hcapacity⟩
  | handling item =>
    cases hhandle : handle item state with
    | mk answer state' =>
      cases answer with
      | ok _ => exact .inr ⟨_, .finish hhandle⟩
      | error error => exact .inr ⟨_, .abort hhandle⟩
  | gone answer =>
    cases sent with
    | none => exact .inr ⟨_, .refuse outcome⟩
    | some pulled => cases answer <;> exact .inl rfl

/-- Where both sides have ended, they have come to what the sender had to report, or to the error of handling. -/
theorem Moment.Faithful.joined {final : Except SyncError Unit × RunState σ} {m : Moment α σ}
    (h : m.Faithful handle outcome final) (hended : m.joined?.isSome = true) :
    m.state = final.2 ∧ m.joined? = some (match final.1 with
      | .error error => .error error
      | .ok () => outcome.mapError .connector) := by
  obtain ⟨state, unsent, buffer, sent, receiver⟩ := m
  cases receiver with
  | waiting => cases sent <;> cases hended
  | handling item => cases sent <;> cases hended
  | gone answer =>
    obtain ⟨rfl, hsent⟩ := h
    cases answer with
    | error error =>
      cases sent with
      | none => cases hended
      | some pulled => exact ⟨rfl, rfl⟩
    | ok _ =>
      have houtcome : sent = some outcome := hsent rfl
      subst houtcome
      exact ⟨rfl, rfl⟩

/-- Whatever the capacity is and whichever side moves when both can, the two sides end, in the state in which handling
the items in order ends.  If that fails they come to its error, else to what the sender had to report. -/
theorem inevitable_end (handle : α → Step σ (Except SyncError Unit)) (hcapacity : 0 < capacity)
    (outcome : Except ConnectorError Unit) (items : List α) (state : RunState σ) :
    let final := Session.forEach handle items state
    Inevitable (Move handle capacity outcome)
      (fun m => m.state = final.2 ∧
        m.joined? = some (match final.1 with
          | .error error => .error error
          | .ok () => outcome.mapError .connector))
      (Moment.first state items) := by
  intro final
  refine inevitable_of_invariant (Moment.Faithful handle outcome final) Moment.left (fun m next => Move.faithful)
    (fun m next => Move.left_lt) (fun m hfaithful => ?_) ?_
  · exact (m.progress hcapacity).imp_left hfaithful.joined
  · exact ⟨rfl, Moment.complete_of_unended rfl⟩

end Provisioning.Relay
