import Provisioning.Entity.Patch
import Provisioning.Proofs.Attributes
set_option autoImplicit false

/-!
# What a patch leaves alone

The affected names of a patch are complete: an attribute, a name or a password that is not among them is the same
before and after.
-/

namespace Provisioning

namespace FamilyChanges

variable {changes : FamilyChanges} {attributes : Attributes} {name : String}

theorem getElem?_apply (changes : FamilyChanges) (attributes : Attributes) (name : String) :
    (changes.apply attributes)[name]? =
      if name ∈ changes.removals then none else changes.upserts[name]?.or attributes[name]? := by
  simp only [apply, Std.ExtTreeMap.getElem?_filter', Attributes.getElem?_overlay, Std.ExtTreeSet.mem_iff_contains]
  cases changes.removals.contains name <;> cases changes.upserts[name]?.or attributes[name]? <;> rfl

theorem mem_affected : name ∈ changes.affected attributes ↔
    changes.upserts[name]?.isSome ∨
      name ∈ changes.removals ∧ ((attributes.overlay changes.upserts)[name]?).isSome := by
  rw [affected, Std.ExtTreeSet.mem_union_iff, Attributes.mem_names, Std.ExtTreeSet.mem_filter]
  simp only [Std.ExtTreeSet.get_eq, Std.ExtTreeMap.contains_eq_isSome_getElem?, exists_prop]

/-- An attribute that is not affected looks up as before. -/
theorem getElem?_apply_of_not_mem (h : name ∉ changes.affected attributes) :
    (changes.apply attributes)[name]? = attributes[name]? := by
  simp only [mem_affected, Attributes.getElem?_overlay, not_or, not_and, Option.not_isSome_iff_eq_none] at h
  obtain ⟨hupsert, hremoval⟩ := h
  rw [getElem?_apply, hupsert, Option.none_or]
  split
  · rename_i hmem
    have hnone := hremoval hmem
    rw [hupsert, Option.none_or] at hnone
    exact hnone.symm
  · rfl

/-- The empty change. -/
theorem apply_empty (attributes : Attributes) : ({} : FamilyChanges).apply attributes = attributes := by
  apply Std.ExtTreeMap.ext_getElem?
  intro name
  rw [FamilyChanges.getElem?_apply, if_neg Std.ExtTreeSet.not_mem_empty, Std.ExtTreeMap.getElem?_empty,
    Option.none_or]

end FamilyChanges

namespace Patch

variable {patch : Patch} {entity : Entity}

theorem mem_affected {name : String} : name ∈ patch.affected entity ↔
    (patch.name.isSome ∧ name = Entity.nameAttribute) ∨ (patch.password.isSome ∧ name = Entity.passwordAttribute) ∨
      name ∈ patch.plain.affected entity.plain ∨ name ∈ patch.virtuals.affected entity.virtuals := by
  simp only [affected, Std.ExtTreeSet.mem_union_iff, NameSet.mem_ofList, List.mem_append]
  cases patch.name <;> cases patch.password <;> simp [or_assoc]

/-- A patch of links changes nothing else. -/
theorem apply_links (links unlinks : NameSet) (entity : Entity) :
    ({ links, unlinks } : Patch).apply entity = { entity with resources := (entity.resources ∪ links) \ unlinks } := by
  simp only [Patch.apply, FamilyChanges.apply_empty, Option.getD_none, Option.orElse_eq_orElse, Option.orElse_eq_or,
    Option.none_or]

/-- The empty patch changes nothing. -/
theorem apply_empty (entity : Entity) : ({} : Patch).apply entity = entity := by
  have hlinks : (entity.resources ∪ ∅) \ ∅ = entity.resources := by
    apply Std.ExtTreeSet.ext_mem
    intro name
    simp [Std.ExtTreeSet.mem_diff_iff, Std.ExtTreeSet.mem_union_iff]
  rw [apply_links, hlinks]

/-- Linking a resource adds it to the links. -/
theorem apply_link (resource : String) (entity : Entity) : (link resource).apply entity = entity.link resource := by
  have hlinks : (entity.resources ∪ {resource}) \ ∅ = entity.resources.insert resource := by
    apply Std.ExtTreeSet.ext_mem
    intro name
    simp [Std.ExtTreeSet.mem_diff_iff, Std.ExtTreeSet.mem_union_iff, or_comm]
  rw [link, apply_links, hlinks, Entity.link]

/-- Unlinking a resource removes it from the links. -/
theorem apply_unlink (resource : String) (entity : Entity) :
    (unlink resource).apply entity = { entity with resources := entity.resources.erase resource } := by
  have hlinks : (entity.resources ∪ ∅) \ {resource} = entity.resources.erase resource := by
    apply Std.ExtTreeSet.ext_mem
    intro name
    simp [Std.ExtTreeSet.mem_diff_iff, Std.ExtTreeSet.mem_union_iff, and_comm]
  rw [unlink, apply_links, hlinks]

end Patch

end Provisioning
