import Provisioning.Proofs.Mapping.Item
import Provisioning.Proofs.Mapping.WriteSet
set_option autoImplicit false

/-!
# The account id in writes

An entity has its account id by one item alone, but a write takes what it carries under the external name of this item
from the last item that is propagated to that name.  So it depends on that last item whether a write carries the
account id: it does for every entity if the two items read the same place, and otherwise there is an entity for which
it does not.
-/

namespace Provisioning.Mapping

variable {mapping : Mapping} {item other : Item} {entity : Entity} {text external : String}

namespace Item

theorem not_distinct_iff :
    ¬item.Distinct other ↔ item.target = other.target ∧ item.internalName = other.internalName := by
  simp only [Distinct, Classical.not_imp, ne_eq, Classical.not_not]

/-- Items of one place read the same. -/
theorem values_of_not_distinct (h : ¬item.Distinct other) (entity : Entity) :
    item.values entity = other.values entity := by
  obtain ⟨htarget, hname⟩ := not_distinct_iff.mp h
  unfold internalName at hname
  rw [htarget] at hname
  unfold values
  rw [htarget]
  cases hother : other.target <;> simp_all

/-- The entity with a text at the place of the item, also at one to which nothing is ever written. -/
def hold (item : Item) (text : String) (entity : Entity) : Entity :=
  match item.target with
  | .derived => { entity with derived := entity.derived.insert item.internal [.text text] }
  | _ => item.store [.text text] entity

theorem values_hold : item.values (item.hold text entity) = [.text text] := by
  cases htarget : item.target <;> simp [hold, values, store, htarget, firstText?]

theorem values_hold_of_distinct (h : item.Distinct other) :
    other.values (item.hold text entity) = other.values entity := by
  cases htarget : item.target with
  | derived =>
    simp only [Distinct, internalName, htarget] at h
    cases hother : other.target <;> simp_all [hold, values, Std.ExtTreeMap.getElem?_insert]
  | username | password | plain | virtual =>
    simp only [hold, htarget]
    exact values_store h

theorem subjectType_hold : (item.hold text entity).subjectType = entity.subjectType := by
  cases htarget : item.target <;> simp only [hold, store, htarget]

theorem resources_hold : (item.hold text entity).resources = entity.resources := by
  cases htarget : item.target <;> simp only [hold, store, htarget]

end Item

/-! ## The last word on an external name -/

/-- The item is the last one that is propagated to its external name. -/
def Final (mapping : Mapping) (item : Item) : Prop :=
  ∃ earlier later, mapping.itemsFor .propagation = earlier ++ item :: later ∧
    ∀ other ∈ later, other.external ≠ item.external

theorem Final.mem (h : mapping.Final item) : item ∈ mapping.itemsFor .propagation := by
  obtain ⟨earlier, later, hitems, -⟩ := h
  rw [hitems]
  exact List.mem_append_right _ List.mem_cons_self

/-- To an external name to which anything is propagated some item is the last one to be. -/
theorem exists_final (h : ∃ item ∈ mapping.itemsFor .propagation, item.external = external) :
    ∃ item, mapping.Final item ∧ item.external = external := by
  obtain ⟨first, hmem, hfirst⟩ := h
  have hsome : ((mapping.itemsFor .propagation).reverse.find? fun item => item.external == external).isSome := by
    rw [List.find?_isSome]
    exact ⟨first, List.mem_reverse.mpr hmem, beq_iff_eq.mpr hfirst⟩
  obtain ⟨item, hfound⟩ := Option.isSome_iff_exists.mp hsome
  obtain ⟨hexternal, after, before, hitems, hafter⟩ := List.find?_eq_some_iff_append.mp hfound
  have hexternal := beq_iff_eq.mp hexternal
  refine ⟨item, ⟨before.reverse, after.reverse, ?_, fun other hother => ?_⟩, hexternal⟩
  · rw [← List.reverse_reverse (mapping.itemsFor .propagation), hitems]
    simp
  · rw [hexternal]
    simpa using hafter other (List.mem_reverse.mp hother)

/-- The last item that is propagated to an external name settles what a write carries there, unless it is a password
that the entity does not have. -/
theorem getElem?_writeAttributes_of_final (h : mapping.Final item)
    (hsends : item.password = true → item.values entity ≠ []) :
    (mapping.writeAttributes entity)[item.external]? = some (item.values entity) := by
  obtain ⟨earlier, later, hitems, hlater⟩ := h
  have hnone : later.reverse.findSome? (fun other => other.sent? entity item.external) = none := by
    rw [List.findSome?_eq_none_iff]
    exact fun other hother => Item.sent?_of_ne (hlater other (List.mem_reverse.mp hother))
  rw [getElem?_writeAttributes, hitems, List.reverse_append, List.reverse_cons, List.append_assoc,
    List.findSome?_append, hnone, Option.none_or, List.singleton_append, List.findSome?_cons, Item.sent?_self hsends]

theorem getElem?_writeAttributes_of_none (h : ∀ item ∈ mapping.itemsFor .propagation, item.external ≠ external) :
    (mapping.writeAttributes entity)[external]? = none := by
  rw [getElem?_writeAttributes, List.findSome?_eq_none_iff]
  exact fun item hitem => Item.sent?_of_ne (h item (List.mem_reverse.mp hitem))

/-! ## Writes that carry the account id -/

/-- The last item that is propagated to the external name of the account id reads what the account id reads. -/
def Identifies (mapping : Mapping) : Prop :=
  ∃ item, mapping.Final item ∧ item.external = mapping.accountId.external ∧ ¬item.Distinct mapping.accountId

theorem SendsAccountId.identifies (h : mapping.SendsAccountId) : mapping.Identifies := by
  obtain ⟨item, hfinal, hexternal⟩ := exists_final ⟨mapping.accountId, h.1, rfl⟩
  refine ⟨item, hfinal, hexternal, ?_⟩
  rw [h.2 item hfinal.mem hexternal]
  exact fun hdistinct => hdistinct rfl rfl

/-- Such a mapping has the account id of every entity in its writes. -/
theorem Identifies.firstText?_writeAttributes (h : mapping.Identifies) (entity : Entity) :
    (mapping.writeAttributes entity).firstText? mapping.accountId.external = mapping.accountIdOf? entity := by
  obtain ⟨item, hfinal, hexternal, hplace⟩ := h
  have hvalues := Item.values_of_not_distinct hplace entity
  have htarget := (Item.not_distinct_iff.mp hplace).1
  have hpassword : item.password = true → item.values entity ≠ [] := by
    intro hflag
    rw [mapping.password_flagged item (List.mem_filter.mp hfinal.mem).1, htarget] at hflag
    exact absurd (eq_of_beq hflag) mapping.accountId_direct.2
  rw [← hexternal, Attributes.firstText?, getElem?_writeAttributes_of_final hfinal hpassword, hvalues]
  rfl

/-- Any other mapping lacks the account id of some entity in its writes, of any type and with any links. -/
theorem exists_not_identified (h : ¬mapping.Identifies) (entity : Entity) :
    ∃ other : Entity, other.subjectType = entity.subjectType ∧ other.resources = entity.resources ∧
      ∃ uid, mapping.accountIdOf? other = some uid ∧
        (mapping.writeAttributes other).firstText? mapping.accountId.external ≠ some uid := by
  by_cases hpropagated : ∃ item ∈ mapping.itemsFor .propagation, item.external = mapping.accountId.external
  · -- Something else is sent in the place of the account id, so the two are given different texts.
    obtain ⟨item, hfinal, hexternal⟩ := exists_final hpropagated
    have hdistinct : item.Distinct mapping.accountId :=
      Classical.not_not.mp fun hplace => h ⟨item, hfinal, hexternal, hplace⟩
    refine ⟨item.hold "b" (mapping.accountId.hold "a" entity), ?_, ?_, "a", ?_, ?_⟩
    · rw [Item.subjectType_hold, Item.subjectType_hold]
    · rw [Item.resources_hold, Item.resources_hold]
    · rw [accountIdOf?, Item.values_hold_of_distinct hdistinct, Item.values_hold]
      rfl
    · rw [← hexternal, Attributes.firstText?, getElem?_writeAttributes_of_final hfinal (by simp [Item.values_hold]),
        Item.values_hold]
      decide
  · -- Nothing is sent there at all.
    refine ⟨mapping.accountId.hold "a" entity, Item.subjectType_hold, Item.resources_hold, "a", ?_, ?_⟩
    · rw [accountIdOf?, Item.values_hold]
      rfl
    · rw [Attributes.firstText?,
        getElem?_writeAttributes_of_none fun item hitem hexternal => hpropagated ⟨item, hitem, hexternal⟩]
      exact (Option.some_ne_none _).symm

end Provisioning.Mapping
