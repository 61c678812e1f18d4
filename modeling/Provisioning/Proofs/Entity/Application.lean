import Provisioning.Proofs.Entity.Patch
set_option autoImplicit false

/-!
# What a patch does and reports

A patch accounts for what it does to an entity: whatever is different afterwards was named by the patch and is
reported as affected, and the removal of an attribute that is not there is not reported.  Where an attribute is both
set and removed, the removal wins, so that a patch carried out twice does no more than one carried out once.
-/

namespace Provisioning

namespace FamilyChanges

variable {changes : FamilyChanges} {attributes : Attributes} {name : String}

/-- Changes to one family of attributes that are accounted for, among the affected names of a whole patch. -/
structure AccountedFor (changes : FamilyChanges) (before after : Attributes) (affected : NameSet) : Prop where
  /-- What is different afterwards is reported. -/
  reported : ∀ name, after[name]? ≠ before[name]? → name ∈ affected
  /-- What the changes do not name is as before. -/
  untouched : ∀ name, name ∉ changes.upserts → name ∉ changes.removals → after[name]? = before[name]?
  /-- What is removed is gone, whether or not it is set as well. -/
  removed : ∀ name ∈ changes.removals, after[name]? = none
  /-- What is only set looks up as it was set. -/
  upserted : ∀ name ∈ changes.upserts, name ∉ changes.removals → after[name]? = changes.upserts[name]?

/-- An attribute is affected if it is set, or if it was there and is removed. -/
theorem mem_affected_iff :
    name ∈ changes.affected attributes ↔ name ∈ changes.upserts ∨ name ∈ changes.removals ∧ name ∈ attributes := by
  rw [mem_affected, Attributes.getElem?_overlay, Option.isSome_or, Std.ExtTreeMap.mem_iff_isSome_getElem?,
    Std.ExtTreeMap.mem_iff_isSome_getElem?]
  cases changes.upserts[name]?.isSome <;> simp

theorem accountedFor_apply (changes : FamilyChanges) (attributes : Attributes) {affected : NameSet}
    (hsub : ∀ name ∈ changes.affected attributes, name ∈ affected) :
    changes.AccountedFor attributes (changes.apply attributes) affected where
  reported name hchanged := by
    by_cases hmem : name ∈ changes.affected attributes
    · exact hsub name hmem
    · exact absurd (getElem?_apply_of_not_mem hmem) hchanged
  untouched name hupserts hremovals := by
    rw [getElem?_apply, if_neg hremovals, Std.ExtTreeMap.getElem?_eq_none hupserts, Option.none_or]
  removed name hremoved := by rw [getElem?_apply, if_pos hremoved]
  upserted name hupserted hremovals := by
    rw [getElem?_apply, if_neg hremovals, Option.or_of_isSome (Std.ExtTreeMap.mem_iff_isSome_getElem?.mp hupserted)]

theorem apply_apply (changes : FamilyChanges) (attributes : Attributes) :
    changes.apply (changes.apply attributes) = changes.apply attributes := by
  apply Std.ExtTreeMap.ext_getElem?
  intro name
  simp only [getElem?_apply]
  split
  · rfl
  · rw [← Option.or_assoc, Option.or_self]

theorem affected_empty (attributes : Attributes) : ({} : FamilyChanges).affected attributes = ∅ := by
  apply Std.ExtTreeSet.ext_mem
  intro name
  simp [mem_affected_iff]

end FamilyChanges

namespace Patch

/-- A patch carried out on an entity, with the names that it reports as affected. -/
structure CarriedOut (patch : Patch) (before after : Entity) (affected : NameSet) : Prop where
  id : after.id = before.id
  subjectType : after.subjectType = before.subjectType
  derived : after.derived = before.derived
  /-- Links are added before others are removed. -/
  links : ∀ resource, resource ∈ after.resources ↔
    (resource ∈ before.resources ∨ resource ∈ patch.links) ∧ resource ∉ patch.unlinks
  name : after.name ≠ before.name → Entity.nameAttribute ∈ affected
  password : after.password ≠ before.password → Entity.passwordAttribute ∈ affected
  plain : patch.plain.AccountedFor before.plain after.plain affected
  virtuals : patch.virtuals.AccountedFor before.virtuals after.virtuals affected
  /-- Nothing is reported but what is set, and what was there and is removed. -/
  affected : ∀ name, name ∈ affected ↔
    (patch.name.isSome ∧ name = Entity.nameAttribute) ∨ (patch.password.isSome ∧ name = Entity.passwordAttribute) ∨
      (name ∈ patch.plain.upserts ∨ name ∈ patch.plain.removals ∧ name ∈ before.plain) ∨
      (name ∈ patch.virtuals.upserts ∨ name ∈ patch.virtuals.removals ∧ name ∈ before.virtuals)

variable {patch : Patch} {entity : Entity}

theorem mem_resources_apply {resource : String} : resource ∈ (patch.apply entity).resources ↔
    (resource ∈ entity.resources ∨ resource ∈ patch.links) ∧ resource ∉ patch.unlinks := by
  rw [apply, Std.ExtTreeSet.mem_diff_iff, Std.ExtTreeSet.mem_union_iff]

theorem nameAttribute_mem_affected (h : (patch.apply entity).name ≠ entity.name) :
    Entity.nameAttribute ∈ patch.affected entity := by
  rw [mem_affected]
  cases hname : patch.name with
  | none => exact absurd (by rw [apply, hname, Option.getD_none]) h
  | some name => exact .inl ⟨rfl, rfl⟩

theorem passwordAttribute_mem_affected (h : (patch.apply entity).password ≠ entity.password) :
    Entity.passwordAttribute ∈ patch.affected entity := by
  rw [mem_affected]
  cases hpassword : patch.password with
  | none => exact absurd (by rw [apply, hpassword]; rfl) h
  | some password => exact .inr (.inl ⟨rfl, rfl⟩)

theorem carriedOut_apply (patch : Patch) (entity : Entity) :
    patch.CarriedOut entity (patch.apply entity) (patch.affected entity) where
  id := rfl
  subjectType := rfl
  derived := rfl
  links _ := mem_resources_apply
  name := nameAttribute_mem_affected
  password := passwordAttribute_mem_affected
  plain := FamilyChanges.accountedFor_apply _ _ fun _ hmem => mem_affected.mpr (.inr (.inr (.inl hmem)))
  virtuals := FamilyChanges.accountedFor_apply _ _ fun _ hmem => mem_affected.mpr (.inr (.inr (.inr hmem)))
  affected _ := by simp only [mem_affected, FamilyChanges.mem_affected_iff]

/-- Carrying a patch out again changes nothing more. -/
theorem apply_apply (patch : Patch) (entity : Entity) : patch.apply (patch.apply entity) = patch.apply entity := by
  have hname : patch.name.getD (patch.name.getD entity.name) = patch.name.getD entity.name := by
    cases patch.name <;> rfl
  have hpassword : (patch.password <|> (patch.password <|> entity.password)) =
      (patch.password <|> entity.password) := by
    cases patch.password <;> rfl
  have hlinks : (((entity.resources ∪ patch.links) \ patch.unlinks) ∪ patch.links) \ patch.unlinks =
      (entity.resources ∪ patch.links) \ patch.unlinks := by
    apply Std.ExtTreeSet.ext_mem
    intro resource
    simp only [Std.ExtTreeSet.mem_diff_iff, Std.ExtTreeSet.mem_union_iff]
    constructor
    · rintro ⟨⟨hbefore, -⟩ | hlink, hkept⟩
      · exact ⟨hbefore, hkept⟩
      · exact ⟨.inr hlink, hkept⟩
    · rintro ⟨hafter, hkept⟩
      exact ⟨.inl ⟨hafter, hkept⟩, hkept⟩
  simp only [apply, FamilyChanges.apply_apply, hname, hpassword, hlinks]

theorem affected_empty (entity : Entity) : ({} : Patch).affected entity = ∅ := by
  apply Std.ExtTreeSet.ext_mem
  intro name
  simp [mem_affected, FamilyChanges.affected_empty]

/-- A patch accounts for all that it does to an entity, does no more when it is carried out again, and does and reports
nothing if it is empty. -/
theorem apply_accounts_for_changes (patch : Patch) (entity : Entity) :
    patch.CarriedOut entity (patch.apply entity) (patch.affected entity) ∧
      patch.apply (patch.apply entity) = patch.apply entity ∧
      (patch.isEmpty = true → patch.affected entity = ∅ ∧ patch.apply entity = entity) := by
  refine ⟨patch.carriedOut_apply entity, patch.apply_apply entity, fun hempty => ?_⟩
  obtain rfl := isEmpty_iff.mp hempty
  exact ⟨affected_empty entity, apply_empty entity⟩

end Patch

end Provisioning
