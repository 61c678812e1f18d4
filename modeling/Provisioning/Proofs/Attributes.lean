import Provisioning.Attributes
set_option autoImplicit false

/-!
# Looking up attributes

What the operations on attribute sets and name sets look up to.  Two attribute sets are compared by these lemmas
name by name.
-/

namespace Provisioning

namespace NameSet

theorem mem_ofList {names : List String} {name : String} : name ∈ ofList names ↔ name ∈ names := by
  rw [ofList, Std.ExtTreeSet.mem_ofList, List.contains_iff_mem]

end NameSet

namespace Attributes

theorem getElem?_overlay (base top : Attributes) (name : String) :
    (base.overlay top)[name]? = top[name]?.or base[name]? :=
  Std.ExtTreeMap.getElem?_union

/-- Of several pairs with one name the last counts. -/
theorem getElem?_ofPairs (pairs : List (String × List Value)) (name : String) :
    (ofPairs pairs)[name]? = pairs.reverse.findSome? fun pair => if pair.1 = name then some pair.2 else none := by
  rw [ofPairs, Std.ExtTreeMap.ofList_eq_insertMany_empty, Std.ExtTreeMap.getElem?_insertMany_list]
  simp [Std.LawfulEqCmp.compare_eq_iff_eq]

theorem overlay_idempotent (base top : Attributes) : (base.overlay top).overlay top = base.overlay top := by
  apply Std.ExtTreeMap.ext_getElem?
  intro name
  simp only [getElem?_overlay]
  cases top[name]? <;> rfl

theorem overlay_self (attributes : Attributes) : attributes.overlay attributes = attributes := by
  apply Std.ExtTreeMap.ext_getElem?
  intro name
  simp only [getElem?_overlay]
  cases attributes[name]? <;> rfl

/-- What is put over other attributes is found there. -/
theorem firstText?_overlay {base top : Attributes} {name text : String} (h : top.firstText? name = some text) :
    (base.overlay top).firstText? name = some text := by
  obtain ⟨values, hvalues, htext⟩ := Option.bind_eq_some_iff.mp h
  rw [firstText?, getElem?_overlay, hvalues]
  exact htext

theorem mem_names {attributes : Attributes} {name : String} :
    name ∈ attributes.names ↔ attributes[name]?.isSome := by
  rw [names, NameSet.mem_ofList, Std.ExtTreeMap.mem_keys, Std.ExtTreeMap.mem_iff_isSome_getElem?]

end Attributes

end Provisioning
