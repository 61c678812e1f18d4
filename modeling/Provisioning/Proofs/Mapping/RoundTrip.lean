import Provisioning.Proofs.Mapping.Replay
import Provisioning.Proofs.Mapping.WriteSet
set_option autoImplicit false

/-!
# Reading and writing back

What an entity was given by a snapshot is written back as it was, as long as an item shares neither its external name
with another item that is written nor its place with another item that is read.
-/

namespace Provisioning.Mapping

/-- The item is read and written, nothing else is written under its external name, and no other item is read into its
place. -/
structure Exclusive (mapping : Mapping) (item : Item) : Prop where
  mem : item ∈ mapping.items
  purpose : item.purpose = .both
  external : ∀ other ∈ mapping.itemsFor .propagation, other.external = item.external → other = item
  place : ∀ other ∈ mapping.itemsFor .synchronization, other.place? = item.place? → other = item

/-- Written attributes return what came in for the item: all the values of an attribute, and of a name or a password
the text of the first one, if there is any. -/
def Item.Returned (item : Item) (incoming : List Value) (written : Attributes) : Prop :=
  match item.target with
  | .plain | .virtual => written[item.external]? = some incoming
  | .username | .password =>
    ∀ text, firstText? incoming = some text → written[item.external]? = some [.text text]
  | .derived => True

variable {mapping : Mapping} {item : Item} {snapshot : Attributes} {incoming : List Value} {entity : Entity}

namespace Exclusive

theorem mem_propagation (h : mapping.Exclusive item) : item ∈ mapping.itemsFor .propagation :=
  List.mem_filter.mpr ⟨h.mem, by rw [h.purpose]; rfl⟩

theorem mem_synchronization (h : mapping.Exclusive item) : item ∈ mapping.itemsFor .synchronization :=
  List.mem_filter.mpr ⟨h.mem, by rw [h.purpose]; rfl⟩

/-- A new entity holds what the item was given. -/
theorem values_toEntity (h : mapping.Exclusive item) {place : Place} (hplace : item.place? = some place)
    (hpresent : snapshot[item.external]? = some incoming) :
    item.values (mapping.toEntity snapshot) = (place.stored incoming).getD [] := by
  have hincoming : incoming ∈ mapping.offered snapshot place :=
    mem_offered.mpr ⟨item, h.mem_synchronization, hplace, hpresent⟩
  have hsole : ∀ other ∈ mapping.offered snapshot place, other = incoming := by
    intro values hvalues
    obtain ⟨other, hother, hother', hpresent'⟩ := mem_offered.mp hvalues
    rw [h.place other hother (hother'.trans hplace.symm), hpresent] at hpresent'
    exact (Option.some.inj hpresent').symm
  rw [Item.values_eq_content hplace, content_toEntity_of_sole hincoming hsole]

/-- What an entity has for the item is written; only a missing password is not. -/
theorem getElem?_writeAttributes (h : mapping.Exclusive item)
    (hvalues : item.target = .password → item.values entity ≠ []) :
    (mapping.writeAttributes entity)[item.external]? = some (item.values entity) := by
  rw [getElem?_writeAttributes_of_sole h.mem_propagation h.external]
  refine Item.sent?_self fun hpassword => hvalues (eq_of_beq ?_)
  rw [← mapping.password_flagged item h.mem, hpassword]

/-- An entity that was made from a snapshot is written back as it was read. -/
theorem returned (h : mapping.Exclusive item) (hpresent : snapshot[item.external]? = some incoming) :
    item.Returned incoming (mapping.writeAttributes (mapping.toEntity snapshot)) := by
  unfold Item.Returned
  cases htarget : item.target <;> dsimp only
  case plain | virtual =>
    have hplace : ∃ place, item.place? = some place ∧ place.stored incoming = some incoming := by
      simp only [Item.place?, htarget, Option.some.injEq, exists_eq_left', Place.stored]
    obtain ⟨place, hplace, hstored⟩ := hplace
    rw [h.getElem?_writeAttributes (by simp [htarget]), h.values_toEntity hplace hpresent, hstored, Option.getD_some]
  case username | password =>
    intro text htext
    have hplace : ∃ place, item.place? = some place ∧ place.stored incoming = some [.text text] := by
      simp only [Item.place?, htarget, Option.some.injEq, exists_eq_left', Place.stored, htext, Option.getD_some,
        Option.map_some]
    obtain ⟨place, hplace, hstored⟩ := hplace
    have hvalues := h.values_toEntity hplace hpresent
    rw [hstored, Option.getD_some] at hvalues
    rw [h.getElem?_writeAttributes fun _ => hvalues ▸ List.cons_ne_nil _ _, hvalues]

end Exclusive

end Provisioning.Mapping
