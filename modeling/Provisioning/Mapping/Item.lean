import Provisioning.Entity.Patch
set_option autoImplicit false

/-!
# Mapping items

An item relates one attribute of a resource, its external name, to one place of a local entity, its target.  It
says in which direction values travel, and reads and writes the target.
-/

namespace Provisioning.Mapping

/-- The directions in which an item is used. -/
inductive Purpose where
  /-- From the local entity to the resource. -/
  | propagation
  /-- From the resource to the local entity. -/
  | synchronization
  | both
  /-- Disabled. -/
  | none
  deriving DecidableEq, Repr, Inhabited

instance : Keyword Purpose where
  all := [.propagation, .synchronization, .both, .none]
  word
    | .propagation => "propagation"
    | .synchronization => "synchronization"
    | .both => "both"
    | .none => "none"

/-- Whether an item of the first purpose takes part in the second. -/
def Purpose.covers : Purpose → Purpose → Bool
  | none, _ => false
  | both, wanted => wanted != none
  | own, wanted => own == wanted || wanted == both

/-- Where the local side of an item lives. -/
inductive Target where
  | username
  | password
  | plain
  | derived
  | virtual
  deriving DecidableEq, Repr, Inhabited

instance : Keyword Target where
  all := [.username, .password, .plain, .derived, .virtual]
  word
    | .username => "username"
    | .password => "password"
    | .plain => "plain"
    | .derived => "derived"
    | .virtual => "virtual"

/-- The family of attributes in which a target lives, if it is an attribute. -/
def Target.family? : Target → Option Family
  | plain => some .plain
  | derived => some .derived
  | virtual => some .virtual
  | username | password => Option.none

/-- One correspondence between an attribute of a resource and a place of a local entity. -/
structure Item where
  /-- Attribute name on the resource. -/
  external : String
  /-- Local attribute name; not used for the name and the password. -/
  internal : String := ""
  target : Target
  purpose : Purpose := .both
  /-- Whether the item identifies the remote object. -/
  accountId : Bool := false
  /-- Whether the item carries the password. -/
  password : Bool := false
  deriving DecidableEq, Inhabited

namespace Item

/-- The name of the item's target in a set of affected attributes. -/
def internalName (item : Item) : String :=
  match item.target with
  | .username => Entity.nameAttribute
  | .password => Entity.passwordAttribute
  | _ => item.internal

/-- The values of the item's target. -/
def values (item : Item) (entity : Entity) : List Value :=
  match item.target with
  | .username => [.text entity.name]
  | .password => (entity.password.map Value.text).toList
  | .plain => entity.plain[item.internal]?.getD []
  | .derived => entity.derived[item.internal]?.getD []
  | .virtual => entity.virtuals[item.internal]?.getD []

/-- Store incoming values in the item's target; derived attributes are never written. -/
def store (item : Item) (incoming : List Value) (entity : Entity) : Entity :=
  match item.target with
  | .username => { entity with name := (firstText? incoming).getD "" }
  | .password => { entity with password := firstText? incoming }
  | .plain => { entity with plain := entity.plain.insert item.internal incoming }
  | .virtual => { entity with virtuals := entity.virtuals.insert item.internal incoming }
  | .derived => entity

/-- Note the change to one attribute: nothing if the values are the same, a removal if none came in. -/
def noteValues (item : Item) (existing incoming : List Value) (changes : FamilyChanges) : FamilyChanges :=
  if sameValues existing incoming then changes
  else if incoming.isEmpty then { changes with removals := changes.removals.insert item.internal }
  else { changes with upserts := changes.upserts.insert item.internal incoming }

/-- Add to a patch what incoming values change in the item's target. -/
def note (item : Item) (current : Entity) (incoming : List Value) (patch : Patch) : Patch :=
  match item.target with
  | .username =>
    match firstText? incoming with
    | some name => if name = current.name then patch else { patch with name := some name }
    | none => patch
  | .password =>
    match firstText? incoming with
    | some password =>
      if some password = current.password then patch else { patch with password := some password }
    | none => patch
  | .plain => { patch with plain := item.noteValues (item.values current) incoming patch.plain }
  | .virtual => { patch with virtuals := item.noteValues (item.values current) incoming patch.virtuals }
  | .derived => patch

end Item

end Provisioning.Mapping
