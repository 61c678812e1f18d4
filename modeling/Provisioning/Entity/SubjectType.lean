import Provisioning.Keyword
set_option autoImplicit false

/-!
# Subject types

The three kinds of local entity, in the order in which reports and listings show them, and tables with one entry
for each of them.
-/

namespace Provisioning

/-- The kind of a local entity. -/
inductive SubjectType where
  | user
  | role
  | membership
  deriving DecidableEq, Repr, Inhabited

namespace SubjectType

/-- Every subject type, in report order. -/
def all : List SubjectType := [user, role, membership]

/-- The word for one entity of the type. -/
def word : SubjectType → String
  | user => "user"
  | role => "role"
  | membership => "membership"

instance : Keyword SubjectType := ⟨all, word⟩

/-- The heading for several entities of the type. -/
def plural : SubjectType → String
  | user => "Users"
  | role => "Roles"
  | membership => "Memberships"

theorem mem_all (t : SubjectType) : t ∈ all := by cases t <;> decide

theorem nodup_all : all.Nodup := by decide

end SubjectType

/-- A table with one entry for each subject type. -/
structure PerSubject (α : Type) where
  user : α
  role : α
  membership : α
  deriving DecidableEq, Inhabited

namespace PerSubject

variable {α : Type}

/-- The table with the same entry everywhere. -/
def const (a : α) : PerSubject α := ⟨a, a, a⟩

/-- The entry of a subject type. -/
def get (table : PerSubject α) : SubjectType → α
  | .user => table.user
  | .role => table.role
  | .membership => table.membership

/-- Replace the entry of a subject type. -/
def set (table : PerSubject α) (t : SubjectType) (a : α) : PerSubject α :=
  match t with
  | .user => { table with user := a }
  | .role => { table with role := a }
  | .membership => { table with membership := a }

@[simp] theorem get_const (a : α) (t : SubjectType) : (const a).get t = a := by cases t <;> rfl

@[simp] theorem get_set_self (table : PerSubject α) (t : SubjectType) (a : α) :
    (table.set t a).get t = a := by cases t <;> rfl

theorem get_set (table : PerSubject α) (t u : SubjectType) (a : α) :
    (table.set t a).get u = if t = u then a else table.get u := by
  cases t <;> cases u <;> rfl

end PerSubject

end Provisioning
