import Provisioning.Mapping.WriteSet
import Provisioning.Proofs.Entity.Patch
set_option autoImplicit false

/-!
# Changed writes agree with full writes

A write after a change carries only what the change may have touched.  Put over what was written before, it gives
what a full write would: nothing that changed is left out, and nothing that is left out changed.
-/

namespace Provisioning

theorem findSome?_filterMap {α β γ : Type} (f : α → Option β) (g : β → Option γ) (items : List α) :
    (items.filterMap f).findSome? g = items.findSome? fun item => (f item).bind g := by
  induction items with
  | nil => rfl
  | cons item rest ih => cases h : f item <;> simp [h, ih, List.findSome?_cons]

theorem findSome?_congr {α β : Type} {f g : α → Option β} {items : List α} (h : ∀ item ∈ items, f item = g item) :
    items.findSome? f = items.findSome? g := by
  induction items with
  | nil => rfl
  | cons item rest ih =>
    rw [List.findSome?_cons, List.findSome?_cons, h item List.mem_cons_self,
      ih fun other hother => h other (List.mem_cons_of_mem _ hother)]

theorem findSome?_of_sole {α β : Type} {f : α → Option β} {items : List α} {a : α} (hmem : a ∈ items)
    (hsole : ∀ other ∈ items, other = a ∨ f other = none) : items.findSome? f = f a := by
  cases hfound : items.findSome? f with
  | none => exact (List.findSome?_eq_none_iff.mp hfound a hmem).symm
  | some b =>
    obtain ⟨other, hother, hb⟩ := List.exists_of_findSome?_eq_some hfound
    rcases hsole other hother with rfl | hnone
    · exact hb.symm
    · cases hnone.symm.trans hb

namespace Mapping

variable {mapping : Mapping} {before : Entity} {patch : Patch} {derived : Attributes} {external : String}

/-! ## Items -/

/-- The values that an item writes under an external name, if it writes any. -/
def Item.sent? (item : Item) (entity : Entity) (external : String) : Option (List Value) :=
  (item.contribution? entity).bind fun pair => if pair.1 = external then some pair.2 else none

theorem Item.isSome_sent?_iff {item : Item} {entity : Entity} :
    (item.sent? entity external).isSome ↔
      item.external = external ∧ (item.password = true → item.values entity ≠ []) := by
  unfold sent? contribution?
  split
  · simp_all
  · simp_all

theorem Item.sent?_of_ne {item : Item} {entity : Entity} (h : item.external ≠ external) :
    item.sent? entity external = none := by
  rw [← Option.not_isSome_iff_eq_none, isSome_sent?_iff]
  exact fun hsent => h hsent.1

theorem Item.sent?_self {item : Item} {entity : Entity} (h : item.password = true → item.values entity ≠ []) :
    item.sent? entity item.external = some (item.values entity) := by
  have hsent : (item.password && (item.values entity).isEmpty) = false := by
    cases hpassword : item.password with
    | false => rfl
    | true => simpa using h hpassword
  simp only [sent?, contribution?, hsent, Bool.false_eq_true, if_false, Option.bind_some, if_true]

/-- An item with a target that is neither derived nor affected has the same values as before. -/
theorem Item.values_of_not_affected {item : Item} (hderived : item.target ≠ .derived)
    (haffected : item.internalName ∉ patch.affected before) :
    item.values { patch.apply before with derived } = item.values before := by
  simp only [Patch.mem_affected, not_or, not_and] at haffected
  obtain ⟨hname, hpassword, hplain, hvirtual⟩ := haffected
  cases htarget : item.target with
  | username =>
    have hnone : patch.name = none := by
      rw [← Option.not_isSome_iff_eq_none]
      exact fun hsome => hname hsome (by simp only [internalName, htarget])
    simp only [values, htarget, Patch.apply, hnone, Option.getD_none]
  | password =>
    have hnone : patch.password = none := by
      rw [← Option.not_isSome_iff_eq_none]
      exact fun hsome => hpassword hsome (by simp only [internalName, htarget])
    simp only [values, htarget, Patch.apply, hnone, Option.orElse_eq_orElse, Option.orElse_eq_or, Option.none_or]
  | plain =>
    have hlookup := FamilyChanges.getElem?_apply_of_not_mem hplain
    simp only [internalName, htarget] at hlookup
    simp only [values, htarget, Patch.apply, hlookup]
  | virtual =>
    have hlookup := FamilyChanges.getElem?_apply_of_not_mem hvirtual
    simp only [internalName, htarget] at hlookup
    simp only [values, htarget, Patch.apply, hlookup]
  | derived => exact absurd htarget hderived

/-! ## Write sets -/

/-- The last item that writes under an external name decides what a write set holds there. -/
theorem getElem?_writeAttributes (mapping : Mapping) (entity : Entity) (external : String) :
    (mapping.writeAttributes entity)[external]? =
      (mapping.itemsFor .propagation).reverse.findSome? fun item => item.sent? entity external := by
  rw [writeAttributes, Attributes.getElem?_ofPairs, ← List.filterMap_reverse, findSome?_filterMap]
  rfl

/-- Under an external name to which only one item writes, a write set holds what this item sends. -/
theorem getElem?_writeAttributes_of_sole {item : Item} (hmem : item ∈ mapping.itemsFor .propagation)
    (hsole : ∀ other ∈ mapping.itemsFor .propagation, other.external = item.external → other = item)
    (entity : Entity) :
    (mapping.writeAttributes entity)[item.external]? = item.sent? entity item.external := by
  rw [getElem?_writeAttributes]
  refine findSome?_of_sole (List.mem_reverse.mpr hmem) fun other hother => ?_
  by_cases hexternal : other.external = item.external
  · exact .inl (hsole other (List.mem_reverse.mp hother) hexternal)
  · exact .inr (Item.sent?_of_ne hexternal)

/-- A patch may set a password but not remove one, so an item that wrote something still does. -/
theorem Item.isSome_sent?_apply {item : Item} (hitem : item ∈ mapping.items)
    (h : (item.sent? before external).isSome) :
    (item.sent? { patch.apply before with derived } external).isSome := by
  rw [Item.isSome_sent?_iff] at h ⊢
  refine ⟨h.1, fun hpassword => ?_⟩
  have hbefore := h.2 hpassword
  have htarget : item.target = .password := by
    have hflag := mapping.password_flagged item hitem
    rw [hpassword] at hflag
    exact eq_of_beq hflag.symm
  simp only [values, htarget, Patch.apply, Option.orElse_eq_orElse, Option.orElse_eq_or] at hbefore ⊢
  cases patch.password with
  | some password => simp
  | none => simpa using hbefore

theorem isSome_writeAttributes_apply (h : ((mapping.writeAttributes before)[external]?).isSome) :
    ((mapping.writeAttributes { patch.apply before with derived })[external]?).isSome := by
  rw [getElem?_writeAttributes, List.findSome?_isSome_iff] at h ⊢
  obtain ⟨item, hmem, hsent⟩ := h
  have hitem : item ∈ mapping.items := (List.mem_filter.mp (List.mem_reverse.mp hmem)).1
  exact ⟨item, hmem, Item.isSome_sent?_apply hitem hsent⟩

theorem not_carries {affected : NameSet} (h : mapping.carries affected external = false) {item : Item}
    (hitem : item ∈ mapping.items) (hexternal : item.external = external) :
    item.target ≠ .derived ∧ item.internalName ∉ affected := by
  simp only [carries, Bool.or_eq_false_iff] at h
  obtain ⟨⟨hnames, -⟩, hderived⟩ := h
  constructor
  · intro htarget
    have hnot := List.any_eq_false.mp hderived item hitem
    simp [htarget, hexternal] at hnot
  · intro haffected
    have hmem : external ∈ mapping.externalNames affected := by
      rw [externalNames, NameSet.mem_ofList]
      refine List.mem_map.mpr ⟨item, List.mem_filter.mpr ⟨hitem, ?_⟩, hexternal⟩
      exact Std.ExtTreeSet.mem_iff_contains.mp haffected
    rw [Std.ExtTreeSet.mem_iff_contains, hnames] at hmem
    cases hmem

/-- What a change leaves out of its write is the same before and after. -/
theorem getElem?_writeAttributes_apply (h : mapping.carries (patch.affected before) external = false) :
    (mapping.writeAttributes { patch.apply before with derived })[external]? =
      (mapping.writeAttributes before)[external]? := by
  rw [getElem?_writeAttributes, getElem?_writeAttributes]
  refine findSome?_congr fun item hmem => ?_
  have hitem : item ∈ mapping.items := (List.mem_filter.mp (List.mem_reverse.mp hmem)).1
  by_cases hexternal : item.external = external
  · obtain ⟨hderived, haffected⟩ := not_carries h hitem hexternal
    simp only [Item.sent?, Item.contribution?, Item.values_of_not_affected hderived haffected]
  · rw [Item.sent?_of_ne hexternal, Item.sent?_of_ne hexternal]

/-- Putting the write of a change over the full write from before gives the full write after it. -/
theorem overlay_changedWriteAttributes (mapping : Mapping) (before : Entity) (patch : Patch) (derived : Attributes) :
    let after : Entity := { patch.apply before with derived }
    (mapping.writeAttributes before).overlay (mapping.changedWriteAttributes after (patch.affected before)) =
      mapping.writeAttributes after := by
  intro after
  apply Std.ExtTreeMap.ext_getElem?
  intro external
  rw [Attributes.getElem?_overlay, changedWriteAttributes, Std.ExtTreeMap.getElem?_filter']
  cases hcarries : mapping.carries (patch.affected before) external with
  | false =>
    have hdropped : (mapping.writeAttributes after)[external]?.filter (fun _ => false) = none := by
      cases (mapping.writeAttributes after)[external]? <;> rfl
    rw [hdropped, Option.none_or]
    exact (getElem?_writeAttributes_apply hcarries).symm
  | true =>
    cases hafter : (mapping.writeAttributes after)[external]? with
    | some values => rfl
    | none =>
      -- Nothing is written under the name after the change, so nothing was before it.
      have hbefore : (mapping.writeAttributes before)[external]? = none := by
        rw [← Option.not_isSome_iff_eq_none]
        intro hsome
        have hsome' : ((mapping.writeAttributes after)[external]?).isSome := isSome_writeAttributes_apply hsome
        rw [hafter] at hsome'
        cases hsome'
      rw [hbefore]
      rfl

/-! ## The account id -/

/-- The account id is sent to the resource, and nothing else is sent in its place. -/
def SendsAccountId (mapping : Mapping) : Prop :=
  mapping.accountId ∈ mapping.itemsFor .propagation ∧
    ∀ item ∈ mapping.itemsFor .propagation, item.external = mapping.accountId.external → item = mapping.accountId

theorem carries_accountId (mapping : Mapping) (affected : NameSet) :
    mapping.carries affected mapping.accountId.external = true := by
  simp [carries]

end Mapping

end Provisioning
