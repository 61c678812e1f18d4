import Provisioning.Attributes
import Provisioning.Entity.SubjectType
set_option autoImplicit false

/-!
# Local entities

Users, roles and memberships as the local repository holds them: a name, a password while it is being set, three
families of attributes, and links to the resources on which the entity has an account.
-/

namespace Provisioning

/-- The three families of attributes. -/
inductive Family where
  /-- Stored with the entity. -/
  | plain
  /-- Computed from other attributes, read only. -/
  | derived
  /-- Fetched from a resource on demand. -/
  | virtual
  deriving DecidableEq, Repr, Inhabited

instance : Keyword Family where
  all := [.plain, .derived, .virtual]
  word
    | .plain => "plain"
    | .derived => "derived"
    | .virtual => "virtual"

/-- A user, role or membership. -/
structure Entity where
  /-- Local id; 0 until the repository has assigned one. -/
  id : Nat := 0
  subjectType : SubjectType := .user
  name : String := ""
  /-- Only present while it is created or changed. -/
  password : Option String := none
  plain : Attributes := ∅
  derived : Attributes := ∅
  virtuals : Attributes := ∅
  /-- The resources to which the entity is linked. -/
  resources : NameSet := ∅
  deriving DecidableEq, Inhabited

namespace Entity

/-- Link the entity to a resource. -/
def link (entity : Entity) (resource : String) : Entity :=
  { entity with resources := entity.resources.insert resource }

/-- The entity's name in a set of affected attributes. -/
def nameAttribute : String := "__NAME__"

/-- The entity's password in a set of affected attributes. -/
def passwordAttribute : String := "__PASSWORD__"

end Entity

end Provisioning
