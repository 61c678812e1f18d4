import Provisioning.Proofs.Mapping.Diff
import Provisioning.Proofs.Mapping.Variants
import Provisioning.Proofs.Memory.Entities
set_option autoImplicit false

/-!
# Repository variants

Repositories that hold entities that are alike under the same keys find the same ids for conditions that are alike.
With what is known of single values, filters and mappings, no decision depends on the variant in which a value came.
-/

namespace Provisioning

/-- Conditions that differ in nothing but the variant of the value. -/
structure Condition.Alike (left right : Condition) : Prop where
  target : left.target = right.target
  name : left.name = right.name
  value : left.value.Alike right.value

namespace Memory.Entities

/-- Repositories that hold entities that are alike under the same keys. -/
def Alike (left right : Entities) : Prop :=
  ∀ (t : SubjectType) (id : Nat), Option.Rel Entity.Alike (left.get? t id) (right.get? t id)

variable {entities entities' : Entities} {entity entity' : Entity} {condition condition' : Condition}

theorem alike_empty : Alike {} {} := by
  intro t id
  have hnone : Entities.get? {} t id = none := by simp [get?]
  rw [hnone]
  exact .none

/-- The stored copies are alike, whether they had an id or not. -/
theorem Alike.insert (h : entities.Alike entities') (hlast : entities.lastId = entities'.lastId)
    (hentity : entity.Alike entity') : (entities.insert entity).2.Alike (entities'.insert entity').2 := by
  have hstored : (entities.insert entity).1.Alike (entities'.insert entity').1 := by
    rw [insert_fst, insert_fst, hlast, hentity.id]
    exact { hentity with id := rfl }
  intro t id
  rw [get?_insert, get?_insert, hstored.subjectType, hstored.id]
  split
  · exact .some hstored
  · exact h t id

theorem fulfils_eq (h : entity.Alike entity') (hcondition : condition.Alike condition') :
    fulfils entity condition = fulfils entity' condition' := by
  obtain ⟨htarget, hname, hvalue⟩ := hcondition
  unfold fulfils
  rw [htarget, hname]
  cases condition'.target with
  | username =>
    dsimp only
    rw [Value.asText?_eq_ofUtf8?, Value.asText?_eq_ofUtf8?, show _ = _ from hvalue, h.name]
  | password => rfl
  | plain => exact h.plain.holds_eq condition'.name hvalue
  | derived => exact h.derived.holds_eq condition'.name hvalue
  | virtual => exact h.virtuals.holds_eq condition'.name hvalue

/-- A search goes by nothing but the id of every entity and whether it fulfils the condition. -/
theorem search_eq_filterMap (entities : Entities) (t : SubjectType) (condition : Condition) :
    entities.search t condition =
      ((entities.tables.get t).map fun _ entity => (fulfils entity condition, entity.id)).values.filterMap
        fun verdict => if verdict.1 then some verdict.2 else none := by
  rw [search, all, values_eq_map_toList, values_eq_map_toList, Std.ExtTreeMap.toList_map, List.map_map,
    List.filterMap_map, List.filter_map, List.map_map, ← List.filterMap_eq_map, List.filterMap_filter]
  rfl

theorem Alike.search_eq (h : entities.Alike entities') (t : SubjectType) (hcondition : condition.Alike condition') :
    entities.search t condition = entities'.search t condition' := by
  -- The tables differ, but not in the ids and not in who fulfils the condition.
  have hverdicts : (entities.tables.get t).map (fun _ entity => (fulfils entity condition, entity.id)) =
      (entities'.tables.get t).map fun _ entity => (fulfils entity condition', entity.id) := by
    refine Std.ExtTreeMap.ext_getElem? fun id => ?_
    rw [Std.ExtTreeMap.getElem?_map, Std.ExtTreeMap.getElem?_map]
    have hfound : Option.Rel Entity.Alike (entities.tables.get t)[id]? (entities'.tables.get t)[id]? := h t id
    generalize (entities.tables.get t)[id]? = found at hfound
    generalize (entities'.tables.get t)[id]? = found' at hfound
    cases hfound with
    | none => rfl
    | some hentity => rw [Option.map_some, Option.map_some, fulfils_eq hentity hcondition, hentity.id]
  rw [search_eq_filterMap, search_eq_filterMap, hverdicts]

/-- Whether a value came as text or as bytes never matters: alike values have the same text, alike snapshots match the
same filters, alike lists have the same values as others, a mapping makes the same of alike entities and snapshots, and
alike repositories find the same ids. -/
theorem variants_indifferent {snapshot snapshot' : Attributes} (hentity : entity.Alike entity')
    (hsnapshot : snapshot.Alike snapshot') (hentities : entities.Alike entities') (mapping : Mapping) :
    (∀ value value' : Value, value.Alike value' → value.toText = value'.toText) ∧
      (∀ name, snapshot.firstText? name = snapshot'.firstText? name) ∧
      (∀ filter filter' : Filter, filter.Alike filter' → filter.matches snapshot = filter'.matches snapshot') ∧
      (∀ left right left' right', ValuesAlike left left' → ValuesAlike right right' →
        sameValues left right = sameValues left' right') ∧
      mapping.Equates entity entity' snapshot snapshot' ∧
      ∀ (t : SubjectType) (condition condition' : Condition), condition.Alike condition' →
        entities.search t condition = entities'.search t condition' := by
  exact ⟨fun _ _ h => h.toText_eq, fun name => hsnapshot.firstText?_eq name, fun _ _ h => h.matches_eq hsnapshot,
    fun _ _ _ _ h h' => h.sameValues_eq h', mapping.equates hentity hsnapshot, fun t _ _ h => hentities.search_eq t h⟩

/-- A visitor of whom one address and the number came as bytes. -/
def rawVisitor : Entity :=
  { Mapping.visitor with
    plain := (∅ : Attributes) |>.insert "mail" [.octets [97], .text "b"] |>.insert "phone" [.octets [49]] }

/-- The addresses as text, and the new name as bytes. -/
def rawSnapshot : Attributes :=
  (∅ : Attributes) |>.insert "login" [.octets [97, 110, 110, 97], .text "ann"] |>.insert "secret" []
    |>.insert "mail" [.text "b", .text "a"] |>.insert "phone" [] |>.insert "full" [.text "Anna"]

theorem raw_visitor_indifferent :
    Mapping.visitor ≠ rawVisitor ∧ Mapping.visitorSnapshot ≠ rawSnapshot ∧
      Mapping.badge.diff Mapping.visitor Mapping.visitorSnapshot ≠ {} ∧
      Mapping.badge.Equates Mapping.visitor rawVisitor Mapping.visitorSnapshot rawSnapshot ∧
      (Entities.insert {} Mapping.visitor).2.search .user ⟨.plain, "mail", .octets [97]⟩ = [1] ∧
      (Entities.insert {} rawVisitor).2.search .user ⟨.plain, "mail", .text "a"⟩ = [1] := by
  have ha : (Value.text "a").Alike (.octets [97]) := by decide +kernel
  have hb : (Value.octets [98]).Alike (.text "b") := by decide +kernel
  have hnumber : (Value.text "1").Alike (.octets [49]) := by decide +kernel
  have hanna : (Value.text "anna").Alike (.octets [97, 110, 110, 97]) := by decide +kernel
  have hvisitor : Mapping.visitor.Alike rawVisitor :=
    { Entity.Alike.refl Mapping.visitor with
      plain := (Attributes.alike_empty.insert "mail" (.cons ha (.cons rfl .nil))).insert "phone" (.cons hnumber .nil) }
  have hsnapshot : Mapping.visitorSnapshot.Alike rawSnapshot :=
    ((((Attributes.alike_empty.insert "login" (.cons hanna (.cons rfl .nil))).insert "secret" .nil).insert "mail"
      (.cons hb (.cons ha.symm .nil))).insert "phone" .nil).insert "full" (.cons rfl .nil)
  have hentities := alike_empty.insert rfl hvisitor
  obtain ⟨-, -, -, -, hequates, hsearch⟩ := variants_indifferent hvisitor hsnapshot hentities Mapping.badge
  have hfound : (Entities.insert {} Mapping.visitor).2.search .user ⟨.plain, "mail", .octets [97]⟩ = [1] := by
    decide +kernel
  refine ⟨by decide +kernel, by decide +kernel, by decide +kernel, hequates, hfound, ?_⟩
  exact (hsearch .user _ _ ⟨rfl, rfl, ha.symm⟩).symm.trans hfound

end Memory.Entities

end Provisioning
