import Provisioning.Proofs.Mapping.Offered
set_option autoImplicit false

/-!
# What a diff leaves alone

A diff changes nothing without a reason.  It is empty exactly if the entity holds all that the snapshot says, it takes
over only what the snapshot holds and the entity does not, and a place for which the snapshot holds nothing stays as it
is.  None of this asks that the items write to different places.
-/

namespace Provisioning

/-- The changes to one family of attributes have their reasons.  Values that are set are offered for the attribute and
are not, whatever their order, the ones it has; an attribute that is removed has values and is offered none. -/
structure FamilyChanges.Warranted (changes : FamilyChanges) (current : Attributes)
    (offered : String → List (List Value)) : Prop where
  upsert : ∀ internal values, changes.upserts[internal]? = some values →
    values ∈ offered internal ∧
      ¬ ((current[internal]?.getD []).map Value.toBytes).Perm (values.map Value.toBytes)
  removal : ∀ internal ∈ changes.removals, [] ∈ offered internal ∧ current[internal]?.getD [] ≠ []

namespace Mapping

/-- Every change in the patch has its reason in the snapshot.  A new name or password is the first text of some values
that are offered for it and is not the one that the entity has, and the links stay. -/
structure Warranted (mapping : Mapping) (entity : Entity) (snapshot : Attributes) (patch : Patch) : Prop where
  name : ∀ text, patch.name = some text →
    (∃ incoming ∈ mapping.offered snapshot .name, firstText? incoming = some text) ∧ entity.name ≠ text
  password : ∀ text, patch.password = some text →
    (∃ incoming ∈ mapping.offered snapshot .password, firstText? incoming = some text) ∧ entity.password ≠ some text
  plain : patch.plain.Warranted entity.plain fun internal => mapping.offered snapshot (.plain internal)
  virtuals : patch.virtuals.Warranted entity.virtuals fun internal => mapping.offered snapshot (.virtual internal)
  links : patch.links = ∅
  unlinks : patch.unlinks = ∅

/-! ## Reasons -/

theorem sameValues_eq_false_iff {existing incoming : List Value} :
    sameValues existing incoming = false ↔ ¬ (existing.map Value.toBytes).Perm (incoming.map Value.toBytes) := by
  rw [← Bool.not_eq_true]
  exact not_congr sameValues_iff_perm

/-- A family of changes is warranted if its attributes are noted one by one. -/
theorem warranted_family {family : Patch → FamilyChanges} {place : String → Place} {entity : Entity}
    {current : Attributes}
    (h : ∀ internal, Noted family (place internal) internal entity (current[internal]?.getD []))
    (mapping : Mapping) (snapshot : Attributes) :
    (family (mapping.diff entity snapshot)).Warranted current
      fun internal => mapping.offered snapshot (place internal) where
  upsert internal values hupsert := by
    rw [(h internal).getElem?_upserts_diff] at hupsert
    obtain ⟨incoming, hoffered, hnew⟩ := mem_of_lastWrite hupsert
    obtain ⟨rfl, hdiffers, -⟩ := newValues?_eq_some_iff.mp hnew
    exact ⟨hoffered, sameValues_eq_false_iff.mp hdiffers⟩
  removal internal hremoved := ((h internal).mem_removals_diff mapping snapshot).mp hremoved

/-- A diff has its reasons. -/
theorem warranted_diff (mapping : Mapping) (entity : Entity) (snapshot : Attributes) :
    mapping.Warranted entity snapshot (mapping.diff entity snapshot) where
  name text hname := by
    rw [name_diff_offered] at hname
    obtain ⟨incoming, hoffered, hnew⟩ := mem_of_lastWrite hname
    obtain ⟨htext, hdiffers⟩ := newText?_eq_some_iff.mp hnew
    exact ⟨⟨incoming, hoffered, htext⟩, fun hsame => hdiffers (congrArg some hsame.symm)⟩
  password text hpassword := by
    rw [password_diff_offered] at hpassword
    obtain ⟨incoming, hoffered, hnew⟩ := mem_of_lastWrite hpassword
    obtain ⟨htext, hdiffers⟩ := newText?_eq_some_iff.mp hnew
    exact ⟨⟨incoming, hoffered, htext⟩, hdiffers.symm⟩
  plain := warranted_family (noted_plain entity) mapping snapshot
  virtuals := warranted_family (noted_virtuals entity) mapping snapshot
  links := (links_diff mapping entity snapshot).1
  unlinks := (links_diff mapping entity snapshot).2

/-! ## Places for which nothing is offered -/

/-- A place for which the snapshot holds nothing stays as it is. -/
theorem content_apply_diff_of_offered_eq_nil {mapping : Mapping} {snapshot : Attributes} {place : Place}
    (h : mapping.offered snapshot place = []) (entity : Entity) :
    place.content ((mapping.diff entity snapshot).apply entity) = place.content entity := by
  cases place with
  | name => simp only [Place.content, Patch.apply, name_diff_offered, h, List.filterMap_nil, List.getLast?_nil,
      Option.getD_none]
  | password => simp only [Place.content, Patch.apply, password_diff_offered, h, List.filterMap_nil,
      List.getLast?_nil, Option.orElse_eq_orElse, Option.orElse_eq_or, Option.none_or]
  | plain internal => simp only [Place.content, Patch.apply, (noted_plain entity internal).getElem?_apply_diff, h,
      List.not_mem_nil, false_and, if_false, List.filterMap_nil, List.getLast?_nil, Option.none_or]
  | virtual internal => simp only [Place.content, Patch.apply, (noted_virtuals entity internal).getElem?_apply_diff, h,
      List.not_mem_nil, false_and, if_false, List.filterMap_nil, List.getLast?_nil, Option.none_or]

/-! ## Exactness -/

/-- A diff is exact, whatever items there are.  It is empty if and only if the entity holds, at the place of every item
that the snapshot has values for, these values; each of its changes has its reason; and to carry it out keeps the key,
the links and the derived attributes of the entity and every place for which the snapshot holds nothing. -/
theorem diff_exact (mapping : Mapping) (entity : Entity) (snapshot : Attributes) :
    let patch := mapping.diff entity snapshot
    let after := patch.apply entity
    (patch.isEmpty ↔
      ∀ item ∈ mapping.itemsFor .synchronization, ∀ place, item.place? = some place →
        ∀ incoming, snapshot[item.external]? = some incoming → place.Holds entity incoming) ∧
    mapping.Warranted entity snapshot patch ∧
    after.id = entity.id ∧ after.subjectType = entity.subjectType ∧ after.resources = entity.resources ∧
    after.derived = entity.derived ∧
    ∀ place, (∀ item ∈ mapping.itemsFor .synchronization, item.place? = some place →
        snapshot[item.external]? = none) →
      place.content after = place.content entity := by
  refine ⟨?_, warranted_diff mapping entity snapshot, rfl, rfl, resources_apply_diff mapping entity snapshot, rfl, ?_⟩
  · rw [Patch.isEmpty_iff, diff_eq_empty_iff_holds]
    exact forall_offered_iff
  · intro place habsent
    exact content_apply_diff_of_offered_eq_nil (offered_eq_nil_iff.mpr habsent) entity

end Mapping

end Provisioning
