set_option autoImplicit false

/-!
# Effects

The systems around the library keep state of their own: resources, the local repository, token files.  An
operation of such a system is a function on a world that contains it, and it either succeeds or fails; a failing
operation may change the world as well.  A `Lens` says where in a larger world a system lives.
-/

namespace Provisioning

/-- An operation on a world `σ` that succeeds with an `α` or fails with an `ε`. -/
abbrev Effect (σ ε α : Type) : Type := StateM σ (Except ε α)

namespace Effect

variable {σ ε α : Type}

/-- Succeed and change nothing. -/
def ok (a : α) : Effect σ ε α := fun s => (.ok a, s)

/-- Fail and change nothing. -/
def fail (e : ε) : Effect σ ε α := fun s => (.error e, s)

/-- Apply a function to what a successful operation returns. -/
def mapOk {β : Type} (f : α → β) (effect : Effect σ ε α) : Effect σ ε β := fun s =>
  let (result, s') := effect s
  (result.map f, s')

/-- Go on with what a successful operation returns. -/
def andThen {β : Type} (effect : Effect σ ε α) (next : α → Effect σ ε β) : Effect σ ε β := fun s =>
  match effect s with
  | (.ok a, s') => next a s'
  | (.error e, s') => (.error e, s')

end Effect

/-- A part `τ` of a world `σ`. -/
structure Lens (σ τ : Type) where
  get : σ → τ
  set : τ → σ → σ

/-- Operate on a part of the world. -/
def Lens.zoom {σ τ α : Type} (lens : Lens σ τ) (operation : StateM τ α) : StateM σ α := fun s =>
  let (a, t) := operation (lens.get s)
  (a, lens.set t s)

end Provisioning
