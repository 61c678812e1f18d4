import Mathlib.Data.List.Forall2
import Provisioning.Connector.Filter
import Provisioning.Proofs.Entity.Patch
set_option autoImplicit false

/-!
# Variants of one value

A resource delivers one and the same value now as text and now as bytes.  Value lists, attribute sets, entities and
patches are alike when they differ in nothing but that.  What is read from a single attribute depends on the bytes
alone: its text, whether it has a given value, and whether it has the same values as another one.
-/

namespace Provisioning

/-! ## Value lists -/

/-- Comparing values makes no difference between variants. -/
theorem Value.Alike.alike_eq {v w v' w' : Value} (h : v.Alike v') (h' : w.Alike w') : v.alike w = v'.alike w' := by
  rw [Bool.eq_iff_iff, alike_iff, alike_iff]
  exact ⟨fun hvw => (h.symm.trans hvw).trans h', fun hvw => (h.trans hvw).trans h'.symm⟩

/-- Value lists that are alike value by value. -/
def ValuesAlike (left right : List Value) : Prop := List.Forall₂ Value.Alike left right

namespace ValuesAlike

variable {left right left' right' : List Value} {value value' : Value}

theorem refl (values : List Value) : ValuesAlike values values :=
  List.forall₂_same.mpr fun value _ => Value.Alike.refl value

theorem map_toBytes_eq (h : ValuesAlike left right) : left.map Value.toBytes = right.map Value.toBytes := by
  induction h with
  | nil => rfl
  | cons hvalue _ ih => rw [List.map_cons, List.map_cons, hvalue, ih]

theorem isEmpty_eq (h : ValuesAlike left right) : left.isEmpty = right.isEmpty := by
  cases h <;> rfl

theorem firstText?_eq (h : ValuesAlike left right) : firstText? left = firstText? right := by
  cases h with
  | nil => rfl
  | cons hvalue _ => exact congrArg some hvalue.toText_eq

theorem sameValues_eq (h : ValuesAlike left left') (h' : ValuesAlike right right') :
    sameValues left right = sameValues left' right' := by
  rw [Bool.eq_iff_iff, sameValues_iff_perm, sameValues_iff_perm, h.map_toBytes_eq, h'.map_toBytes_eq]

/-- Whether a value is among others. -/
theorem any_alike_eq (hvalue : value.Alike value') (h : ValuesAlike left right) :
    left.any value.alike = right.any value'.alike := by
  induction h with
  | nil => rfl
  | cons hhead _ ih =>
    rw [List.any_cons, List.any_cons, ih, hvalue.alike_eq hhead]

end ValuesAlike

/-! ## Attribute sets -/

namespace Attributes

/-- Attribute sets with the same names, the values of which are alike. -/
def Alike (left right : Attributes) : Prop := ∀ name : String, Option.Rel ValuesAlike left[name]? right[name]?

variable {left right : Attributes}

theorem Alike.refl (attributes : Attributes) : attributes.Alike attributes := by
  intro name
  cases attributes[name]? with
  | none => exact .none
  | some values => exact .some (ValuesAlike.refl values)

theorem alike_empty : (∅ : Attributes).Alike ∅ := Alike.refl ∅

/-- An attribute is absent from both sets, or it is there with values that are alike. -/
theorem Alike.absent_or_present (h : left.Alike right) (name : String) :
    (left[name]? = none ∧ right[name]? = none) ∨
      ∃ values values', left[name]? = some values ∧ right[name]? = some values' ∧ ValuesAlike values values' := by
  have hname := h name
  generalize left[name]? = found at hname
  generalize right[name]? = found' at hname
  cases hname with
  | none => exact .inl ⟨rfl, rfl⟩
  | some hvalues => exact .inr ⟨_, _, rfl, rfl, hvalues⟩

theorem Alike.isSome_eq (h : left.Alike right) (name : String) : left[name]?.isSome = right[name]?.isSome := by
  obtain ⟨hleft, hright⟩ | ⟨values, values', hleft, hright, -⟩ := h.absent_or_present name <;> rw [hleft, hright]
  rfl

theorem Alike.names_eq (h : left.Alike right) : left.names = right.names := by
  apply Std.ExtTreeSet.ext_mem
  intro name
  rw [mem_names, mem_names, h.isSome_eq]

theorem Alike.eq_empty_iff (h : left.Alike right) : left = ∅ ↔ right = ∅ := by
  simp only [Std.ExtTreeMap.eq_empty_iff_forall_contains, Std.ExtTreeMap.contains_eq_isSome_getElem?, h.isSome_eq]

theorem Alike.overlay {base base' top top' : Attributes} (h : base.Alike base') (htop : top.Alike top') :
    (base.overlay top).Alike (base'.overlay top') := by
  intro name
  rw [getElem?_overlay, getElem?_overlay]
  obtain ⟨hleft, hright⟩ | ⟨values, values', hleft, hright, hvalues⟩ := htop.absent_or_present name
  · rw [hleft, hright]
    exact h name
  · rw [hleft, hright]
    exact .some hvalues

theorem Alike.insert (h : left.Alike right) (name : String) {values values' : List Value}
    (hvalues : ValuesAlike values values') : Alike (left.insert name values) (right.insert name values') := by
  intro other
  rw [Std.ExtTreeMap.getElem?_insert, Std.ExtTreeMap.getElem?_insert]
  split
  · exact .some hvalues
  · exact h other

theorem Alike.filter (h : left.Alike right) (p : String → Bool) :
    Alike (left.filter fun name _ => p name) (right.filter fun name _ => p name) := by
  intro name
  rw [Std.ExtTreeMap.getElem?_filter', Std.ExtTreeMap.getElem?_filter']
  obtain ⟨hleft, hright⟩ | ⟨values, values', hleft, hright, hvalues⟩ := h.absent_or_present name
  · rw [hleft, hright]
    exact .none
  · rw [hleft, hright, Option.filter_some, Option.filter_some]
    split
    · exact .some hvalues
    · exact .none

theorem Alike.getD (h : left.Alike right) (name : String) :
    ValuesAlike (left[name]?.getD []) (right[name]?.getD []) := by
  obtain ⟨hleft, hright⟩ | ⟨values, values', hleft, hright, hvalues⟩ := h.absent_or_present name
  · rw [hleft, hright]
    exact ValuesAlike.refl []
  · rw [hleft, hright]
    exact hvalues

/-- The attributes of two lists of pairs that agree in the names and have values that are alike. -/
theorem alike_ofPairs {pairs pairs' : List (String × List Value)}
    (h : List.Forall₂ (fun pair pair' => pair.1 = pair'.1 ∧ ValuesAlike pair.2 pair'.2) pairs pairs') :
    (ofPairs pairs).Alike (ofPairs pairs') := by
  intro name
  rw [getElem?_ofPairs, getElem?_ofPairs]
  have hreversed := List.rel_reverse h
  generalize pairs.reverse = reversed at hreversed ⊢
  generalize pairs'.reverse = reversed' at hreversed ⊢
  induction hreversed with
  | nil => exact .none
  | cons hpair _ ih =>
    obtain ⟨hname, hvalues⟩ := hpair
    rw [List.findSome?_cons, List.findSome?_cons, hname]
    split_ifs
    · exact .some hvalues
    · exact ih

theorem Alike.firstText?_eq (h : left.Alike right) (name : String) :
    left.firstText? name = right.firstText? name := by
  unfold firstText?
  obtain ⟨hleft, hright⟩ | ⟨values, values', hleft, hright, hvalues⟩ := h.absent_or_present name
  · rw [hleft, hright]
  · rw [hleft, hright]
    exact hvalues.firstText?_eq

theorem Alike.holds_eq (h : left.Alike right) (name : String) {value value' : Value} (hvalue : value.Alike value') :
    left.holds name value = right.holds name value' :=
  ValuesAlike.any_alike_eq hvalue (h.getD name)

end Attributes

/-! ## Filters -/

/-- Filters that differ in nothing but the variants of their values. -/
inductive Filter.Alike : Filter → Filter → Prop where
  | equals (name : String) {value value' : Value} (h : value.Alike value') :
      Filter.Alike (.equals name value) (.equals name value')
  | and {left right left' right' : Filter} (h : Filter.Alike left left') (h' : Filter.Alike right right') :
      Filter.Alike (.and left right) (.and left' right')
  | or {left right left' right' : Filter} (h : Filter.Alike left left') (h' : Filter.Alike right right') :
      Filter.Alike (.or left right) (.or left' right')

theorem Filter.Alike.matches_eq {filter filter' : Filter} (h : filter.Alike filter') {left right : Attributes}
    (hattributes : left.Alike right) : filter.matches left = filter'.matches right := by
  induction h with
  | equals name hvalue => exact hattributes.holds_eq name hvalue
  | and _ _ ih ih' => rw [Filter.matches, Filter.matches, ih, ih']
  | or _ _ ih ih' => rw [Filter.matches, Filter.matches, ih, ih']

/-! ## Entities and patches -/

/-- Entities that differ in nothing but the variants of their values. -/
structure Entity.Alike (left right : Entity) : Prop where
  id : left.id = right.id
  subjectType : left.subjectType = right.subjectType
  name : left.name = right.name
  password : left.password = right.password
  plain : left.plain.Alike right.plain
  derived : left.derived.Alike right.derived
  virtuals : left.virtuals.Alike right.virtuals
  resources : left.resources = right.resources

theorem Entity.Alike.refl (entity : Entity) : entity.Alike entity :=
  ⟨rfl, rfl, rfl, rfl, Attributes.Alike.refl _, Attributes.Alike.refl _, Attributes.Alike.refl _, rfl⟩

/-- Changes to a family of attributes that differ in nothing but the variants of the values to be set. -/
structure FamilyChanges.Alike (left right : FamilyChanges) : Prop where
  upserts : left.upserts.Alike right.upserts
  removals : left.removals = right.removals

namespace FamilyChanges.Alike

variable {changes changes' : FamilyChanges} {attributes attributes' : Attributes}

theorem apply (h : changes.Alike changes') (hattributes : attributes.Alike attributes') :
    (changes.apply attributes).Alike (changes'.apply attributes') := by
  unfold FamilyChanges.apply
  rw [h.removals]
  exact (hattributes.overlay h.upserts).filter fun name => !changes'.removals.contains name

theorem affected_eq (h : changes.Alike changes') (hattributes : attributes.Alike attributes') :
    changes.affected attributes = changes'.affected attributes' := by
  unfold FamilyChanges.affected
  simp only [h.upserts.names_eq, h.removals, Std.ExtTreeMap.contains_eq_isSome_getElem?,
    (hattributes.overlay h.upserts).isSome_eq]

theorem eq_empty_iff (h : changes.Alike changes') : changes = {} ↔ changes' = {} := by
  obtain ⟨upserts, removals⟩ := changes
  obtain ⟨upserts', removals'⟩ := changes'
  obtain ⟨hupserts, rfl⟩ := h
  simp only [FamilyChanges.mk.injEq]
  rw [hupserts.eq_empty_iff]

end FamilyChanges.Alike

/-- Patches that differ in nothing but the variants of the values to be set. -/
structure Patch.Alike (left right : Patch) : Prop where
  name : left.name = right.name
  password : left.password = right.password
  plain : left.plain.Alike right.plain
  virtuals : left.virtuals.Alike right.virtuals
  links : left.links = right.links
  unlinks : left.unlinks = right.unlinks

theorem Patch.alike_empty : ({} : Patch).Alike {} :=
  ⟨rfl, rfl, ⟨Attributes.alike_empty, rfl⟩, ⟨Attributes.alike_empty, rfl⟩, rfl, rfl⟩

namespace Patch.Alike

variable {patch patch' : Patch} {entity entity' : Entity}

theorem apply (h : patch.Alike patch') (hentity : entity.Alike entity') :
    (patch.apply entity).Alike (patch'.apply entity') where
  id := hentity.id
  subjectType := hentity.subjectType
  name := by simp only [Patch.apply, h.name, hentity.name]
  password := by simp only [Patch.apply, h.password, hentity.password]
  plain := h.plain.apply hentity.plain
  derived := hentity.derived
  virtuals := h.virtuals.apply hentity.virtuals
  resources := by simp only [Patch.apply, h.links, h.unlinks, hentity.resources]

theorem affected_eq (h : patch.Alike patch') (hentity : entity.Alike entity') :
    patch.affected entity = patch'.affected entity' := by
  simp only [Patch.affected, h.name, h.password, h.plain.affected_eq hentity.plain,
    h.virtuals.affected_eq hentity.virtuals]

theorem isEmpty_eq (h : patch.Alike patch') : patch.isEmpty = patch'.isEmpty := by
  rw [Bool.eq_iff_iff, isEmpty_iff, isEmpty_iff]
  obtain ⟨name, password, plain, virtuals, links, unlinks⟩ := patch
  obtain ⟨name', password', plain', virtuals', links', unlinks'⟩ := patch'
  obtain ⟨rfl, rfl, hplain, hvirtuals, rfl, rfl⟩ := h
  simp only [Patch.mk.injEq]
  rw [hplain.eq_empty_iff, hvirtuals.eq_empty_iff]

end Patch.Alike

end Provisioning
