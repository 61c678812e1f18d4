import Provisioning.Correlation
import Provisioning.Reconciliation.Policy
import Provisioning.Proofs.Mapping.Snapshot
import Provisioning.Proofs.Memory.Entities
set_option autoImplicit false

/-!
# Settled deltas

A delta is settled in a repository when it matches entities and those on which the conflict policy acts reflect
its snapshot already.  What is done for one delta changes only entities that matched it or are new, and makes them
reflect its snapshot; such entities match no delta of another object.  So a settled delta stays settled while the
deltas of other objects are handled.
-/

namespace Provisioning

open Memory

/-! ## Finding an object again -/

namespace Mapping

/-- The synchronization items write to different places, and the account id is among what they write. -/
structure Recognizing (mapping : Mapping) : Prop where
  separated : mapping.Separated
  accountId_synchronized : mapping.accountId ∈ mapping.itemsFor .synchronization
  accountId_written : mapping.accountId.target ≠ .derived

/-- The delta reports an object that carries its identifier as the only value of the account id, and whose name,
if it has one, is not empty. -/
structure Recognizes (mapping : Mapping) (delta : Delta) : Prop where
  present : delta.kind = .createOrUpdate
  accountId : ∃ value, delta.attributes[mapping.accountId.external]? = some [value] ∧
    value.Alike (.text delta.correlationUid)
  named : ∀ item ∈ mapping.itemsFor .synchronization, item.target = .username →
    ∀ incoming, delta.attributes[item.external]? = some incoming → firstText? incoming ≠ some ""

variable {mapping : Mapping} {delta other : Delta} {entity : Entity}

theorem Recognizing.accountId_target (h : mapping.Recognizing) :
    mapping.accountId.target = .username ∨ mapping.accountId.target = .plain := by
  obtain ⟨hvirtual, hpassword⟩ := mapping.accountId_direct
  have hderived := h.accountId_written
  cases htarget : mapping.accountId.target <;> simp_all

/-- An entity that reflects an object is found under the identifier of that object and under no other. -/
theorem Reflects.fulfils_iff (hreflects : mapping.Reflects entity delta.attributes) (h : mapping.Recognizing)
    (hdelta : mapping.Recognizes delta) :
    Entities.fulfils entity (mapping.accountCondition other) = true ↔
      other.correlationUid = delta.correlationUid := by
  obtain ⟨value, hvalue, halike⟩ := hdelta.accountId
  have hagrees := hreflects mapping.accountId h.accountId_synchronized [value] hvalue
  rcases h.accountId_target with htarget | htarget
  · have htext : firstText? [value] = some delta.correlationUid := by
      simp only [firstText?, List.head?_cons, Option.map_some, halike.toText_eq, Value.toText_text]
    simp only [Item.Agrees, Item.values, htarget] at hagrees
    have hname : entity.name = delta.correlationUid := by simpa using hagrees _ htext
    simp only [Entities.fulfils, accountCondition, htarget, Value.asText?, hname, beq_iff_eq, Option.some.injEq]
  · simp only [Item.Agrees, Item.values, htarget, sameValues_iff_perm, List.map_cons, List.map_nil,
      List.perm_singleton] at hagrees
    obtain ⟨found, hfound, hbytes⟩ := List.map_eq_singleton_iff.mp hagrees
    have hsame : found.toBytes = Text.utf8 delta.correlationUid := hbytes.trans halike
    simp only [Entities.fulfils, accountCondition, htarget, Attributes.holds, hfound, List.any_cons, List.any_nil,
      Bool.or_false, Value.alike_iff, Value.Alike, hsame]
    exact ⟨Text.utf8_injective, fun huid => congrArg Text.utf8 huid⟩

end Mapping

/-! ## The choice among several matches -/

namespace Reconciliation

/-- The policy acts on this one of the matches. -/
def ConflictPolicy.Chooses (policy : ConflictPolicy) (ids : List Nat) (id : Nat) : Prop :=
  id ∈ ids ∧
    match policy with
    | .firstMatch => ∀ other ∈ ids, id ≤ other
    | .lastMatch => ∀ other ∈ ids, other ≤ id
    | .ignore | .all => True

/-- A policy that does not give up picks from the matches what it acts on, and something as long as there are
any. -/
theorem ConflictPolicy.resolve_spec {policy : ConflictPolicy} (hpolicy : policy ≠ .ignore) (uid : Uid)
    {ids : List Nat} (hids : ids.Pairwise (· < ·)) :
    ∃ chosen, policy.resolve uid ids = .ok chosen ∧ (∀ id, id ∈ chosen ↔ policy.Chooses ids id) ∧
      (chosen = [] → ids = []) := by
  unfold resolve Chooses
  split
  · rename_i hlength
    refine ⟨ids, rfl, fun id => ⟨fun hmem => ⟨hmem, ?_⟩, fun h => h.1⟩, fun h => h⟩
    match ids, hlength, hmem with
    | [only], _, hmem =>
      cases List.mem_singleton.mp hmem
      cases policy <;> simp
  · cases policy with
    | ignore => exact absurd rfl hpolicy
    | all => exact ⟨ids, rfl, fun id => (and_iff_left trivial).symm, fun h => h⟩
    | firstMatch =>
      match ids, hids with
      | first :: rest, hids =>
        have hleast := (List.pairwise_cons.mp hids).1
        refine ⟨[first], rfl, fun id => ⟨fun hmem => ?_, fun h => ?_⟩, fun h => nomatch h⟩
        · cases List.mem_singleton.mp hmem
          refine ⟨List.mem_cons_self, fun other hother => ?_⟩
          rcases List.mem_cons.mp hother with rfl | hrest
          · exact Nat.le_refl _
          · exact Nat.le_of_lt (hleast other hrest)
        · have hle := h.2 first List.mem_cons_self
          rcases List.mem_cons.mp h.1 with rfl | hrest
          · exact List.mem_singleton_self _
          · have hlt := hleast id hrest
            omega
    | lastMatch =>
      rcases List.eq_nil_or_concat ids with rfl | ⟨front, last, rfl⟩
      · exact ⟨[], rfl, by simp, fun _ => rfl⟩
      · rw [List.concat_eq_append] at *
        have hgreatest := (List.pairwise_append.mp hids).2.2
        refine ⟨[last], by simp, fun id => ⟨fun hmem => ?_, fun h => ?_⟩, fun h => nomatch h⟩
        · cases List.mem_singleton.mp hmem
          refine ⟨List.mem_append_right _ hmem, fun other hother => ?_⟩
          rcases List.mem_append.mp hother with hfront | hlast
          · exact Nat.le_of_lt (hgreatest other hfront last (List.mem_singleton_self _))
          · exact Nat.le_of_eq (List.mem_singleton.mp hlast)
        · have hle := h.2 last (List.mem_append_right _ (List.mem_singleton_self _))
          rcases List.mem_append.mp h.1 with hfront | hlast
          · have hlt := hgreatest id hfront last (List.mem_singleton_self _)
            omega
          · exact hlast

theorem ConflictPolicy.resolve_ne_nil {policy : ConflictPolicy} {uid : Uid} {ids : List Nat} (hids : ids ≠ []) :
    policy.resolve uid ids ≠ .ok [] := by
  unfold resolve
  split
  · simpa using hids
  · cases policy <;> simp [hids]

/-- What the policy leaves is a part of the matches. -/
theorem ConflictPolicy.sublist_of_resolve {policy : ConflictPolicy} {uid : Uid} {ids chosen : List Nat}
    (h : policy.resolve uid ids = .ok chosen) : chosen.Sublist ids := by
  unfold resolve at h
  split at h
  · cases h
    exact List.Sublist.refl _
  · cases policy with
    | ignore => cases h
    | all =>
      cases h
      exact List.Sublist.refl _
    | firstMatch =>
      cases h
      cases ids <;> simp
    | lastMatch =>
      cases h
      rcases List.eq_nil_or_concat ids with rfl | ⟨front, last, rfl⟩ <;> simp

theorem ConflictPolicy.exists_chooses {policy : ConflictPolicy} (hpolicy : policy ≠ .ignore) {ids : List Nat}
    (hids : ids.Pairwise (· < ·)) (hne : ids ≠ []) : ∃ id, policy.Chooses ids id := by
  obtain ⟨chosen, -, hchosen, hempty⟩ := resolve_spec hpolicy "" hids
  obtain ⟨id, hid⟩ := List.exists_mem_of_ne_nil chosen fun h => hne (hempty h)
  exact ⟨id, (hchosen id).mp hid⟩

/-- If matches vanish, but none on which the policy acts, it acts on no other than before. -/
theorem ConflictPolicy.Chooses.of_subset {policy : ConflictPolicy} {ids ids' : List Nat} (hsubset : ids' ⊆ ids)
    (hkept : ∀ id, policy.Chooses ids id → id ∈ ids') (hsome : ∃ id, policy.Chooses ids id) {id : Nat}
    (h : policy.Chooses ids' id) : policy.Chooses ids id := by
  obtain ⟨kept, hchosen⟩ := hsome
  have hmem := hkept kept hchosen
  cases policy with
  | ignore | all => exact ⟨hsubset h.1, trivial⟩
  | firstMatch =>
    have hle := h.2 kept hmem
    have hge := hchosen.2 id (hsubset h.1)
    cases Nat.le_antisymm hle hge
    exact hchosen
  | lastMatch =>
    have hle := h.2 kept hmem
    have hge := hchosen.2 id (hsubset h.1)
    cases Nat.le_antisymm hge hle
    exact hchosen

theorem ConflictPolicy.Chooses.mono {policy : ConflictPolicy} {ids ids' : List Nat} (hsubset : ids' ⊆ ids) {id : Nat}
    (h : policy.Chooses ids id) (hmem : id ∈ ids') : policy.Chooses ids' id := by
  refine ⟨hmem, ?_⟩
  cases policy with
  | ignore | all => trivial
  | firstMatch | lastMatch => exact fun other hother => h.2 other (hsubset hother)

end Reconciliation

/-! ## Settled deltas -/

namespace Mapping

variable {mapping : Mapping} {policy : Reconciliation.ConflictPolicy} {entities before after last : Entities}
  {delta other : Delta} {entity : Entity}

/-- The ids of the entities that a delta matches. -/
def matched (mapping : Mapping) (entities : Entities) (delta : Delta) : List Nat :=
  entities.search mapping.subjectType (mapping.accountCondition delta)

/-- The entity of an id reflects the snapshot of a delta. -/
def ReflectedAt (mapping : Mapping) (entities : Entities) (delta : Delta) (id : Nat) : Prop :=
  ∃ entity, entities.get? mapping.subjectType id = some entity ∧ mapping.Reflects entity delta.attributes

/-- The policy finds something to act on, and all that it finds reflects the snapshot. -/
def Settled (mapping : Mapping) (policy : Reconciliation.ConflictPolicy) (entities : Entities) (delta : Delta) :
    Prop :=
  (∃ id, policy.Chooses (mapping.matched entities delta) id) ∧
    ∀ id, policy.Chooses (mapping.matched entities delta) id → mapping.ReflectedAt entities delta id

/-- What may be done for a delta: every entity stays as it is, or it reflects the snapshot afterwards and, unless
it is new, matched the delta before. -/
def Advances (mapping : Mapping) (delta : Delta) (before after : Entities) : Prop :=
  ∀ id, after.get? mapping.subjectType id = before.get? mapping.subjectType id ∨
    mapping.ReflectedAt after delta id ∧
      ∀ entity, before.get? mapping.subjectType id = some entity →
        Entities.fulfils entity (mapping.accountCondition delta) = true

theorem mem_matched (h : entities.Keyed) {id : Nat} :
    id ∈ mapping.matched entities delta ↔
      ∃ entity, entities.get? mapping.subjectType id = some entity ∧
        Entities.fulfils entity (mapping.accountCondition delta) = true :=
  h.mem_search

namespace Advances

theorem refl (entities : Entities) : mapping.Advances delta entities entities := fun _ => .inl rfl

theorem trans (h : mapping.Advances delta before after) (h' : mapping.Advances delta after last) :
    mapping.Advances delta before last := by
  intro id
  rcases h' id with hsame' | ⟨hreflected', hmatched'⟩
  · rcases h id with hsame | ⟨⟨entity, hget, hreflects⟩, hmatched⟩
    · exact .inl (hsame'.trans hsame)
    · exact .inr ⟨⟨entity, hsame'.trans hget, hreflects⟩, hmatched⟩
  · rcases h id with hsame | ⟨-, hmatched⟩
    · exact .inr ⟨hreflected', fun entity hget => hmatched' entity (hsame.trans hget)⟩
    · exact .inr ⟨hreflected', hmatched⟩

/-- Storing an entity that reflects the snapshot, under a new id or in the place of a match. -/
theorem of_stored {new : Nat}
    (hget : ∀ id, after.get? mapping.subjectType id =
      if new = id then some entity else before.get? mapping.subjectType id)
    (hreflects : mapping.Reflects entity delta.attributes)
    (hmatched : ∀ entity, before.get? mapping.subjectType new = some entity →
      Entities.fulfils entity (mapping.accountCondition delta) = true) :
    mapping.Advances delta before after := by
  intro id
  by_cases hid : new = id
  · subst hid
    exact .inr ⟨⟨entity, (hget new).trans (if_pos rfl), hreflects⟩, hmatched⟩
  · exact .inl ((hget id).trans (if_neg hid))

theorem reflectedAt (h : mapping.Advances delta before after) {id : Nat}
    (hreflected : mapping.ReflectedAt before delta id) : mapping.ReflectedAt after delta id := by
  rcases h id with hsame | ⟨hafter, -⟩
  · obtain ⟨entity, hget, hreflects⟩ := hreflected
    exact ⟨entity, hsame.trans hget, hreflects⟩
  · exact hafter

/-- What is done for one object matches no delta of another one. -/
theorem matched_subset (h : mapping.Advances delta before after) (hmapping : mapping.Recognizing)
    (hdelta : mapping.Recognizes delta) (hbefore : before.Keyed) (hafter : after.Keyed)
    (huid : other.correlationUid ≠ delta.correlationUid) :
    mapping.matched after other ⊆ mapping.matched before other := by
  intro id hid
  obtain ⟨entity, hget, hfulfils⟩ := (mem_matched hafter).mp hid
  rcases h id with hsame | ⟨⟨found, hfound, hreflects⟩, -⟩
  · exact (mem_matched hbefore).mpr ⟨entity, hsame.symm.trans hget, hfulfils⟩
  · cases hfound.symm.trans hget
    exact absurd ((hreflects.fulfils_iff hmapping hdelta).mp hfulfils) huid

/-- An entity that reflects one object is left alone when another one is handled. -/
theorem get?_eq_of_reflects (h : mapping.Advances delta before after) (hmapping : mapping.Recognizing)
    (hother : mapping.Recognizes other) (huid : other.correlationUid ≠ delta.correlationUid) {id : Nat}
    (hget : before.get? mapping.subjectType id = some entity) (hreflects : mapping.Reflects entity other.attributes) :
    after.get? mapping.subjectType id = some entity := by
  rcases h id with hsame | ⟨-, hmatched⟩
  · exact hsame.trans hget
  · have hfulfils := hmatched entity hget
    exact absurd ((hreflects.fulfils_iff hmapping hother).mp hfulfils).symm huid

/-- A settled delta stays settled while the delta of another object is handled. -/
theorem settled (h : mapping.Advances delta before after) (hmapping : mapping.Recognizing)
    (hdelta : mapping.Recognizes delta) (hother : mapping.Recognizes other) (hbefore : before.Keyed)
    (hafter : after.Keyed) (huid : other.correlationUid ≠ delta.correlationUid)
    (hsettled : mapping.Settled policy before other) : mapping.Settled policy after other := by
  obtain ⟨hsome, hreflected⟩ := hsettled
  have hsubset := h.matched_subset hmapping hdelta hbefore hafter huid
  -- The chosen entities reflect the other object, so they are still there, and still match.
  have hleft : ∀ id, policy.Chooses (mapping.matched before other) id →
      mapping.ReflectedAt after other id ∧ id ∈ mapping.matched after other := by
    intro id hchosen
    obtain ⟨entity, hget, hreflects⟩ := hreflected id hchosen
    have hget' := h.get?_eq_of_reflects hmapping hother huid hget hreflects
    refine ⟨⟨entity, hget', hreflects⟩, (mem_matched hafter).mpr ⟨entity, hget', ?_⟩⟩
    exact (hreflects.fulfils_iff hmapping hother).mpr rfl
  constructor
  · obtain ⟨id, hchosen⟩ := hsome
    exact ⟨id, hchosen.mono hsubset (hleft id hchosen).2⟩
  · intro id hchosen
    exact (hleft id (hchosen.of_subset hsubset (fun id h => (hleft id h).2) hsome)).1

end Advances

/-! ## What settles a delta -/

/-- What may be done for a delta without creating anything. -/
structure Revises (mapping : Mapping) (delta : Delta) (before after : Entities) : Prop where
  advances : mapping.Advances delta before after
  old : ∀ id, before.get? mapping.subjectType id = none → after.get? mapping.subjectType id = none

namespace Revises

theorem refl (entities : Entities) : mapping.Revises delta entities entities := ⟨.refl entities, fun _ h => h⟩

theorem trans (h : mapping.Revises delta before after) (h' : mapping.Revises delta after last) :
    mapping.Revises delta before last :=
  ⟨h.advances.trans h'.advances, fun id hnone => h'.old id (h.old id hnone)⟩

/-- Without new entities the delta matches what it matched before. -/
theorem mem_matched_iff (h : mapping.Revises delta before after) (hmapping : mapping.Recognizing)
    (hdelta : mapping.Recognizes delta) (hbefore : before.Keyed) (hafter : after.Keyed) {id : Nat} :
    id ∈ mapping.matched after delta ↔ id ∈ mapping.matched before delta := by
  rw [mem_matched hbefore, mem_matched hafter]
  rcases h.advances id with hsame | ⟨⟨entity, hget, hreflects⟩, hmatched⟩
  · rw [hsame]
  · constructor
    · intro _
      cases hold : before.get? mapping.subjectType id with
      | none => cases hget.symm.trans (h.old id hold)
      | some former => exact ⟨former, rfl, hmatched former hold⟩
    · intro _
      exact ⟨entity, hget, (hreflects.fulfils_iff hmapping hdelta).mpr rfl⟩

/-- A match that is patched reflects the snapshot. -/
theorem of_patched (hmapping : mapping.Recognizing) (hkeyed : before.Keyed) {id : Nat}
    (hget : before.get? mapping.subjectType id = some entity)
    (hfulfils : Entities.fulfils entity (mapping.accountCondition delta) = true) :
    let after := (before.insert ((mapping.diff entity delta.attributes).apply entity)).2
    mapping.Revises delta before after ∧ mapping.ReflectedAt after delta id := by
  intro after
  obtain ⟨htype, rfl, hid⟩ := hkeyed _ _ _ hget
  have hreflects := reflects_apply_diff hmapping.separated entity delta.attributes
  have hstored : ∀ other, after.get? mapping.subjectType other =
      if entity.id = other then some ((mapping.diff entity delta.attributes).apply entity)
      else before.get? mapping.subjectType other := by
    intro other
    rw [Entities.get?_insert, Entities.insert_fst]
    simp only [Patch.apply, htype, hid, if_false, true_and]
  have hreflected : mapping.ReflectedAt after delta entity.id :=
    ⟨_, (hstored entity.id).trans (if_pos rfl), hreflects⟩
  refine ⟨⟨.of_stored hstored hreflects ?_, fun other hnone => ?_⟩, hreflected⟩
  · intro former hformer
    cases hformer.symm.trans hget
    exact hfulfils
  · rw [hstored]
    split
    · rename_i heq
      cases (heq ▸ hget).symm.trans hnone
    · exact hnone

/-- The delta is settled once everything on which the policy acts reflects the snapshot. -/
theorem settled (h : mapping.Revises delta before after) (hmapping : mapping.Recognizing)
    (hdelta : mapping.Recognizes delta) (hbefore : before.Keyed) (hafter : after.Keyed)
    (hsome : ∃ id, policy.Chooses (mapping.matched before delta) id)
    (hreflected : ∀ id, policy.Chooses (mapping.matched before delta) id → mapping.ReflectedAt after delta id) :
    mapping.Settled policy after delta := by
  have hmem : ∀ id, id ∈ mapping.matched after delta ↔ id ∈ mapping.matched before delta :=
    fun _ => h.mem_matched_iff hmapping hdelta hbefore hafter
  have hbackward : mapping.matched after delta ⊆ mapping.matched before delta := fun id => (hmem id).mp
  have hforward : mapping.matched before delta ⊆ mapping.matched after delta := fun id => (hmem id).mpr
  constructor
  · obtain ⟨id, hchosen⟩ := hsome
    exact ⟨id, hchosen.mono hbackward (hforward hchosen.1)⟩
  · exact fun id hchosen => hreflected id (hchosen.mono hforward (hbackward hchosen.1))

end Revises

/-- A delta without a match is settled by a new entity that reflects the snapshot. -/
theorem Advances.of_created (hmapping : mapping.Recognizing) (hdelta : mapping.Recognizes delta)
    (hpolicy : policy ≠ .ignore) (hkeyed : before.Keyed) (hnumbered : before.Numbered)
    (hnone : mapping.matched before delta = []) (hid : entity.id = 0)
    (htype : entity.subjectType = mapping.subjectType) (hreflects : mapping.Reflects entity delta.attributes) :
    let after := (before.insert entity).2
    mapping.Advances delta before after ∧ mapping.Settled policy after delta := by
  intro after
  have hreflects' := hreflects.with_id (before.lastId + 1)
  have hstored : ∀ id, after.get? mapping.subjectType id =
      if before.lastId + 1 = id then some { entity with id := before.lastId + 1 }
      else before.get? mapping.subjectType id := by
    intro id
    rw [Entities.get?_insert, Entities.insert_fst]
    simp only [hid, htype, if_true, true_and]
  have hadvances : mapping.Advances delta before after := by
    refine .of_stored hstored hreflects' fun former hformer => ?_
    have hle := hnumbered _ _ _ hformer
    omega
  have hreflected : mapping.ReflectedAt after delta (before.lastId + 1) :=
    ⟨_, (hstored _).trans (if_pos rfl), hreflects'⟩
  -- The new entity is the only match.
  have honly : ∀ id, id ∈ mapping.matched after delta ↔ id = before.lastId + 1 := by
    intro id
    rw [mem_matched (hkeyed.insert entity)]
    constructor
    · rintro ⟨found, hfound, hfulfils⟩
      refine Decidable.byContradiction fun hne => ?_
      have hold := (hstored id).symm.trans hfound
      rw [if_neg (Ne.symm hne)] at hold
      have hmem := (mem_matched hkeyed).mpr ⟨found, hold, hfulfils⟩
      rw [hnone] at hmem
      exact List.not_mem_nil hmem
    · rintro rfl
      exact ⟨_, (hstored _).trans (if_pos rfl), (hreflects'.fulfils_iff hmapping hdelta).mpr rfl⟩
  refine ⟨hadvances, ?_, fun id hchosen => (honly id).mp hchosen.1 ▸ hreflected⟩
  exact policy.exists_chooses hpolicy ((hkeyed.insert entity).search_ascending _ _)
    (List.ne_nil_of_mem ((honly _).mpr rfl))

end Mapping

end Provisioning
