set_option autoImplicit false

/-!
# Operations

What is done to a local entity or to a remote object, in the order in which reports list it.
-/

namespace Provisioning

/-- An operation on an entity or a remote object. -/
inductive Operation where
  | create
  | update
  | delete
  /-- Nothing, or only a change of links. -/
  | none
  deriving DecidableEq, Repr, Inhabited

namespace Operation

/-- Every operation, in report order. -/
def all : List Operation := [create, update, delete, none]

/-- The word for an operation. -/
def word : Operation → String
  | create => "CREATE"
  | update => "UPDATE"
  | delete => "DELETE"
  | none => "NONE"

theorem mem_all (operation : Operation) : operation ∈ all := by cases operation <;> decide

end Operation

end Provisioning
