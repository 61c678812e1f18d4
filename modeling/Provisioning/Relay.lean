import Provisioning.Effect
set_option autoImplicit false

/-!
# Relaying through a buffer

A sender and a receiver take turns on a buffer of limited capacity.  The sender puts its items into the buffer in
order, the receiver takes them out in the same order and handles them.  When handling fails the receiver goes
away, and what is still buffered or not yet sent is never handled.
-/

namespace Provisioning.Relay

variable {α σ ε : Type}

/-- Which side moves. -/
inductive Side where
  | sender
  | receiver
  deriving DecidableEq, Repr

/-- Let the sides move until everything is handled or handling fails.  Of two sides that can move, `turns` picks
one.  `steps` bounds the number of moves; each item takes two. -/
def moves (handle : α → Effect σ ε Unit) (capacity : Nat) (turns : Nat → Side) :
    (steps turn : Nat) → (unsent buffer : List α) → Effect σ ε Unit
  | 0, _, _, _ => Effect.ok ()
  | steps + 1, turn, unsent, buffer =>
    match unsent, buffer with
    | [], [] => Effect.ok ()
    | item :: rest, [] => moves handle capacity turns steps (turn + 1) rest [item]
    | [], head :: tail =>
      (handle head).andThen fun _ => moves handle capacity turns steps (turn + 1) [] tail
    | item :: rest, head :: tail =>
      if turns turn = .sender ∧ tail.length + 1 < capacity then
        moves handle capacity turns steps (turn + 1) rest (head :: tail ++ [item])
      else
        (handle head).andThen fun _ => moves handle capacity turns steps (turn + 1) (item :: rest) tail

/-- Relay items through a buffer and handle them. -/
def run (handle : α → Effect σ ε Unit) (capacity : Nat) (turns : Nat → Side) (items : List α) : Effect σ ε Unit :=
  moves handle capacity turns (2 * items.length) 0 items []

end Provisioning.Relay
