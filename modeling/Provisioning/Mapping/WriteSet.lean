import Provisioning.Mapping.Basic
set_option autoImplicit false

/-!
# Write sets

The attributes that a write to a resource carries: `writeAttributes` for a whole entity, `changedWriteAttributes`
for a change that touched the given local attributes.  Derived values are written but cannot be traced back to
their sources, so a change always carries them, and it always carries the account id.
-/

namespace Provisioning.Mapping

/-- What one item contributes to a write; a missing password is left out rather than sent as a removal. -/
def Item.contribution? (item : Item) (entity : Entity) : Option (String × List Value) :=
  if item.password && (item.values entity).isEmpty then none else some (item.external, item.values entity)

/-- The write set of an entity; of several items with one external name the last counts. -/
def writeAttributes (mapping : Mapping) (entity : Entity) : Attributes :=
  Attributes.ofPairs ((mapping.itemsFor .propagation).filterMap fun item => item.contribution? entity)

/-- The external names mapped from any of the given local names. -/
def externalNames (mapping : Mapping) (affected : NameSet) : NameSet :=
  NameSet.ofList ((mapping.items.filter fun item => affected.contains item.internalName).map Item.external)

/-- Whether a write after a change to the affected attributes has to carry an external name. -/
def carries (mapping : Mapping) (affected : NameSet) (external : String) : Bool :=
  (mapping.externalNames affected).contains external
    || external == mapping.accountId.external
    || mapping.items.any fun item => item.target == .derived && item.external == external

/-- The write set of a change that touched the affected local attributes. -/
def changedWriteAttributes (mapping : Mapping) (entity : Entity) (affected : NameSet) : Attributes :=
  (mapping.writeAttributes entity).filter fun external _ => mapping.carries affected external

end Provisioning.Mapping
