import Mathlib.Data.List.Perm.Basic
import Provisioning.Proofs.Variants
set_option autoImplicit false

/-!
# Value lists as multisets

The values of an attribute come in any order, and each of them now as text and now as bytes; but how often a value
comes counts.  To count the bytes in two value lists is therefore the same as to look for an order in which the one
list is alike to the other, and the same as to count every value in both.
-/

namespace Provisioning

variable {left right : List Value}

theorem valuesAlike_iff_map_eq : ValuesAlike left right ↔ left.map Value.toBytes = right.map Value.toBytes := by
  rw [← List.forall₂_eq_eq_eq, List.forall₂_map_left_iff, List.forall₂_map_right_iff]
  rfl

/-- Lists have the same values if the second one can be brought into an order in which the first one is alike to it. -/
theorem sameValues_iff_reordered :
    sameValues left right = true ↔ ∃ reordered : List Value, reordered.Perm right ∧ ValuesAlike left reordered := by
  rw [sameValues_iff_perm]
  constructor
  · intro h
    -- What is a reordering of the bytes of `right` are the bytes of a reordering of `right`.
    have hreordered := congrFun (congrFun (List.eq_map_comp_perm Value.toBytes) (left.map Value.toBytes)) right
    obtain ⟨reordered, hbytes, hperm⟩ := hreordered.mpr h
    exact ⟨reordered, hperm, valuesAlike_iff_map_eq.mpr hbytes⟩
  · rintro ⟨reordered, hperm, halike⟩
    rw [halike.map_toBytes_eq]
    exact hperm.map Value.toBytes

theorem count_map_toBytes (value : Value) (values : List Value) :
    (values.map Value.toBytes).count value.toBytes = values.countP value.alike := by
  rw [List.count, List.countP_map]
  refine List.countP_congr fun other _ => ?_
  rw [Function.comp_apply, beq_iff_eq, Value.alike_iff]
  exact eq_comm

/-- Lists have the same values if every value is in both of them equally often. -/
theorem sameValues_iff_counts :
    sameValues left right = true ↔ ∀ value : Value, left.countP value.alike = right.countP value.alike := by
  rw [sameValues_iff_perm, List.perm_iff_count]
  constructor
  · intro h value
    rw [← count_map_toBytes, ← count_map_toBytes, h]
  · intro h bytes
    have hvalue := h (.octets bytes)
    rwa [← count_map_toBytes, ← count_map_toBytes] at hvalue

/-- Two lists have the same values exactly if they are the same multiset of values: one of them can be reordered so that
it is alike to the other, value by value.  Having the same values is therefore an equivalence, whichever values come as
text and whichever as bytes, and it tells apart lists in which some value is not equally often. -/
theorem sameValues_equates_multisets :
    (∀ left right : List Value, sameValues left right = true ↔
      ∃ reordered : List Value, reordered.Perm right ∧ ValuesAlike left reordered) ∧
    Equivalence (fun left right : List Value => sameValues left right = true) ∧
    ∀ left right : List Value, sameValues left right = true ↔
      ∀ value : Value, left.countP value.alike = right.countP value.alike := by
  refine ⟨fun _ _ => sameValues_iff_reordered, ?_, fun _ _ => sameValues_iff_counts⟩
  constructor
  · exact sameValues_refl
  · exact fun h => sameValues_iff_perm.mpr (sameValues_iff_perm.mp h).symm
  · exact fun h h' => sameValues_iff_perm.mpr ((sameValues_iff_perm.mp h).trans (sameValues_iff_perm.mp h'))

example : sameValues [.text "a", .text "b", .text "a"] [.octets [98], .text "a", .octets [97]] = true := by
  decide +kernel

end Provisioning
