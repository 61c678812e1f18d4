import Provisioning.Mapping.Basic
set_option autoImplicit false

/-!
# Reading a remote snapshot

A snapshot is the attribute set under which a resource presents an object.  The synchronization items whose
external attribute is present in it say what a new local entity looks like, `toEntity`, and what has to change in
an existing one, `diff`.  An absent attribute says nothing; a present one without values says that there are none.
-/

namespace Provisioning.Mapping

/-- Apply `step` to every synchronization item that is present in the snapshot, with its values. -/
def foldSnapshot {α : Type} (mapping : Mapping) (snapshot : Attributes)
    (step : Item → List Value → α → α) (start : α) : α :=
  (mapping.itemsFor .synchronization).foldl (fun acc item =>
    match snapshot[item.external]? with
    | some incoming => step item incoming acc
    | none => acc) start

/-- The local entity that a snapshot describes. -/
def toEntity (mapping : Mapping) (snapshot : Attributes) : Entity :=
  mapping.foldSnapshot snapshot Item.store { subjectType := mapping.subjectType }

/-- The changes that a snapshot implies for an entity.  Only values that differ end up in the patch. -/
def diff (mapping : Mapping) (current : Entity) (snapshot : Attributes) : Patch :=
  mapping.foldSnapshot snapshot (fun item incoming patch => item.note current incoming patch) {}

end Provisioning.Mapping
