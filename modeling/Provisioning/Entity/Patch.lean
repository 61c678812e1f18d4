import Provisioning.Entity.Basic
set_option autoImplicit false

/-!
# Patches

A patch is a set of explicit changes to one entity.  `Patch.apply` carries it out and `Patch.affected` names the
attributes that it touches on a given entity: what is set is always touched, what is removed only if it was there.
-/

namespace Provisioning

/-- Changes to one family of attributes; removals come after upserts. -/
structure FamilyChanges where
  upserts : Attributes := ∅
  removals : NameSet := ∅
  deriving DecidableEq, Inhabited

namespace FamilyChanges

/-- Set an attribute, even one that was to be removed. -/
def set (changes : FamilyChanges) (name : String) (values : List Value) : FamilyChanges :=
  { upserts := changes.upserts.insert name values, removals := changes.removals.erase name }

/-- Carry the changes out. -/
def apply (changes : FamilyChanges) (attributes : Attributes) : Attributes :=
  (attributes.overlay changes.upserts).filter fun name _ => !changes.removals.contains name

/-- The attributes that the changes touch. -/
def affected (changes : FamilyChanges) (attributes : Attributes) : NameSet :=
  changes.upserts.names ∪
    changes.removals.filter fun name => (attributes.overlay changes.upserts).contains name

end FamilyChanges

/-- Explicit changes to an entity. -/
structure Patch where
  name : Option String := none
  password : Option String := none
  plain : FamilyChanges := {}
  virtuals : FamilyChanges := {}
  links : NameSet := ∅
  /-- Removed after `links` have been added. -/
  unlinks : NameSet := ∅
  deriving DecidableEq, Inhabited

namespace Patch

/-- A patch that holds no change at all. -/
def isEmpty (patch : Patch) : Bool := decide (patch = {})

@[simp] theorem isEmpty_iff {patch : Patch} : patch.isEmpty = true ↔ patch = {} := by simp [isEmpty]

/-- The patch that only links a resource. -/
def link (resource : String) : Patch := { links := {resource} }

/-- The patch that only unlinks a resource. -/
def unlink (resource : String) : Patch := { unlinks := {resource} }

/-- Set a plain attribute. -/
def setPlain (patch : Patch) (name : String) (values : List Value) : Patch :=
  { patch with plain := patch.plain.set name values }

/-- Carry the changes out. -/
def apply (patch : Patch) (entity : Entity) : Entity :=
  { entity with
    name := patch.name.getD entity.name
    password := patch.password <|> entity.password
    plain := patch.plain.apply entity.plain
    virtuals := patch.virtuals.apply entity.virtuals
    resources := (entity.resources ∪ patch.links) \ patch.unlinks }

/-- The names under which the changes to an entity are reported. -/
def affected (patch : Patch) (entity : Entity) : NameSet :=
  NameSet.ofList ((patch.name.map fun _ => Entity.nameAttribute).toList
      ++ (patch.password.map fun _ => Entity.passwordAttribute).toList)
    ∪ patch.plain.affected entity.plain ∪ patch.virtuals.affected entity.virtuals

end Patch

end Provisioning
