import Provisioning.Mapping.Error
import Provisioning.Mapping.Item
set_option autoImplicit false

/-!
# Mappings

A mapping is a list of items for one subject type on one resource.  Its type carries what every use of it relies
on: exactly one item is flagged as account id, that item is neither virtual nor the password, an item is flagged
as password exactly when it targets the password, and at most one is.  `Mapping.build` checks a list of items and
is the only way to come by a mapping from the outside.
-/

namespace Provisioning

open Mapping

/-- What a read should return. -/
structure ReadOptions where
  /-- The external names to return. -/
  attributes : NameSet := ∅
  deriving DecidableEq, Inhabited

/-- The options that request the external attributes of some items, the password left out. -/
def ReadOptions.ofItems (items : List Item) : ReadOptions :=
  { attributes := NameSet.ofList ((items.filter fun item => !item.password).map Item.external) }

/-- A checked mapping of one subject type onto one resource. -/
structure Mapping where
  resource : String
  subjectType : SubjectType
  /-- The class of the mapped objects on the resource. -/
  objectClass : String
  items : List Item
  /-- The item that identifies the remote object. -/
  accountId : Item
  /-- The item that carries the password, if one is mapped. -/
  password : Option Item
  accountId_unique : items.filter Item.accountId = [accountId]
  accountId_direct : accountId.target ≠ .virtual ∧ accountId.target ≠ .password
  password_unique : items.filter Item.password = password.toList
  password_flagged : ∀ item ∈ items, item.password = (item.target == .password)

namespace Mapping

/-- Check a list of items.  Of several faults the one that comes first here is reported: how many items are
flagged as account id, what the account id targets, the first item that mixes password and non-password, how many
items carry the password. -/
def build (resource : String) (subjectType : SubjectType) (objectClass : String) (items : List Item) :
    Except MappingError Mapping :=
  match hAccount : items.filter Item.accountId with
  | [] => .error (.missingAccountId resource subjectType)
  | _ :: _ :: _ => .error (.multipleAccountIds resource subjectType)
  | [item] =>
    if hDirect : item.password = false ∧ item.target ≠ .virtual ∧ item.target ≠ .password then
      match hFlags : items.find? fun i => i.password != (i.target == .password) with
      | some i => .error (.invalidPassword resource i.external)
      | none =>
        have hFlagged : ∀ i ∈ items, i.password = (i.target == .password) := fun i hi => by
          simpa using List.find?_eq_none.mp hFlags i hi
        match hPassword : items.filter Item.password with
        | _ :: _ :: _ => .error (.multiplePasswords resource)
        | [] => .ok ⟨resource, subjectType, objectClass, items, item, none, hAccount, hDirect.2, hPassword, hFlagged⟩
        | [p] =>
          .ok ⟨resource, subjectType, objectClass, items, item, some p, hAccount, hDirect.2, hPassword, hFlagged⟩
    else .error (.invalidAccountId resource item.external)

/-- The items that take part in a direction, in their order. -/
def itemsFor (mapping : Mapping) (purpose : Purpose) : List Item :=
  mapping.items.filter fun item => item.purpose.covers purpose

/-- The options for reads in a direction; the account id is always requested. -/
def readOptions (mapping : Mapping) (purpose : Purpose) : ReadOptions :=
  { attributes :=
      (ReadOptions.ofItems (mapping.itemsFor purpose)).attributes.insert mapping.accountId.external }

/-- The identifier of an entity's remote object, if the entity has a value for it. -/
def accountIdOf? (mapping : Mapping) (entity : Entity) : Option String :=
  firstText? (mapping.accountId.values entity)

end Mapping

end Provisioning
