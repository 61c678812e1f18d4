import Provisioning.Memory.Requests
set_option autoImplicit false

/-!
# What the repository in memory holds

Entities are filed under their own type and id, whatever is done to the repository.  A search therefore finds the
ids under which the entities are read, in ascending order, and storing an entity changes what is read under one id
and under no other.
-/

namespace Provisioning.Memory

/-! ## Tables -/

theorem values_eq_map_toList {α β : Type} {cmp : α → α → Ordering} [Std.TransCmp cmp]
    (table : Std.ExtTreeMap α β cmp) : table.values = table.toList.map Prod.snd := by
  have hvalues : table.values = table.foldr (fun _ b values => b :: values) [] := by
    obtain ⟨⟨inner⟩⟩ := table
    induction inner using Quotient.ind
    rfl
  rw [hvalues, Std.ExtTreeMap.foldr_eq_foldr_toList]
  induction table.toList with
  | nil => rfl
  | cons pair rest ih => rw [List.foldr_cons, ih, List.map_cons]

namespace Entities

/-- Every entity is filed under its type and its id, which is not 0. -/
def Keyed (entities : Entities) : Prop :=
  ∀ t id entity, entities.get? t id = some entity → entity.subjectType = t ∧ entity.id = id ∧ id ≠ 0

/-- No id is in use that is still to be handed out. -/
def Numbered (entities : Entities) : Prop :=
  ∀ t id entity, entities.get? t id = some entity → id ≤ entities.lastId

variable {entities : Entities} {entity : Entity} {t : SubjectType} {id : Nat}

/-! ## Storing -/

/-- The copy that is stored has an id. -/
theorem insert_fst (entities : Entities) (entity : Entity) :
    (entities.insert entity).1 =
      { entity with id := if entity.id = 0 then entities.lastId + 1 else entity.id } := by
  by_cases hid : entity.id = 0
  · simp only [insert, number, if_pos hid]
  · simp only [insert, number, if_neg hid]

/-- An entity that has an id is stored as it is. -/
theorem insert_fst_of_ne_zero (entities : Entities) (hid : entity.id ≠ 0) : (entities.insert entity).1 = entity := by
  rw [insert_fst, if_neg hid]

theorem lastId_insert (entities : Entities) (entity : Entity) :
    (entities.insert entity).2.lastId = if entity.id = 0 then entities.lastId + 1 else entities.lastId := by
  by_cases hid : entity.id = 0
  · simp only [insert, number, if_pos hid, put]
  · simp only [insert, number, if_neg hid, put]

/-- The stored copy is read under its own id, and everything else as before. -/
theorem get?_insert (entities : Entities) (entity : Entity) (t : SubjectType) (id : Nat) :
    let stored := (entities.insert entity).1
    (entities.insert entity).2.get? t id =
      if stored.subjectType = t ∧ stored.id = id then some stored else entities.get? t id := by
  have hput : ∀ (base : Entities) (stored : Entity), base.tables = entities.tables →
      (base.put stored).get? t id =
        if stored.subjectType = t ∧ stored.id = id then some stored else entities.get? t id := by
    intro base stored htables
    simp only [put, get?, htables, PerSubject.get_set]
    by_cases htype : stored.subjectType = t
    · simp [htype, Std.ExtTreeMap.getElem?_insert]
    · simp [htype]
  by_cases hid : entity.id = 0
  · simp only [insert, number, if_pos hid]
    exact hput _ _ rfl
  · simp only [insert, number, if_neg hid]
    exact hput _ _ rfl

theorem keyed_empty : Keyed {} := by
  intro t id entity hget
  simp [get?] at hget

theorem Keyed.insert (h : entities.Keyed) (entity : Entity) : (entities.insert entity).2.Keyed := by
  intro t id found hget
  rw [get?_insert] at hget
  split at hget
  · rename_i hstored
    cases hget
    refine ⟨hstored.1, hstored.2, ?_⟩
    rw [← hstored.2, insert_fst]
    dsimp only
    split <;> omega
  · exact h t id found hget

/-- An entity that is removed is read no more, and everything else as before. -/
theorem get?_erase (entities : Entities) (t : SubjectType) (id : Nat) (u : SubjectType) (other : Nat) :
    (entities.erase t id).get? u other = if t = u ∧ id = other then none else entities.get? u other := by
  simp only [erase, get?, PerSubject.get_set]
  by_cases htype : t = u
  · simp [htype, Std.ExtTreeMap.getElem?_erase]
  · simp [htype]

theorem Keyed.erase (h : entities.Keyed) (t : SubjectType) (id : Nat) : (entities.erase t id).Keyed := by
  intro u other found hget
  rw [get?_erase] at hget
  split at hget
  · cases hget
  · exact h u other found hget

theorem numbered_empty : Numbered {} := by
  intro t id entity hget
  simp [get?] at hget

/-- Handing out ids in order, and storing what has one already, uses no id before its time. -/
theorem Numbered.insert (h : entities.Numbered) (hid : entity.id ≤ entities.lastId) :
    (entities.insert entity).2.Numbered := by
  intro t id found hget
  rw [get?_insert] at hget
  rw [lastId_insert]
  split at hget
  · rename_i hstored
    rw [← hstored.2, insert_fst]
    dsimp only
    split <;> omega
  · have hle := h t id found hget
    split <;> omega

/-! ## Revising -/

/-- Some entities of a type have been revised: each is replaced by what is made of it, or removed.  Nothing else has
been touched, and no id has been handed out. -/
structure Revised (t : SubjectType) (ids : List Nat) (revise : Entity → Option Entity) (before after : Entities) :
    Prop where
  lastId : after.lastId = before.lastId
  reads : ∀ (u : SubjectType) (id : Nat), after.get? u id =
    if u = t ∧ id ∈ ids then (before.get? u id).bind revise else before.get? u id

namespace Revised

variable {ids : List Nat} {revise : Entity → Option Entity} {before after last : Entities}

/-- Nothing has to be done if each of the entities is as it is to be. -/
theorem of_unchanged (h : ∀ id ∈ ids, (before.get? t id).bind revise = before.get? t id) :
    Revised t ids revise before before where
  lastId := rfl
  reads u id := by
    split
    · rename_i hmem
      obtain ⟨rfl, hmem⟩ := hmem
      exact (h id hmem).symm
    · rfl

/-- Entities that are not among those revised are read as before. -/
theorem elsewhere (h : Revised t ids revise before after) {u : SubjectType} (hother : ¬(u = t ∧ id ∈ ids)) :
    after.get? u id = before.get? u id :=
  (h.reads u id).trans (if_neg hother)

/-- One entity is revised first, then others. -/
theorem cons (h : Revised t [id] revise before after) (hid : id ∉ ids) (h' : Revised t ids revise after last) :
    Revised t (id :: ids) revise before last where
  lastId := h'.lastId.trans h.lastId
  reads u other := by
    rw [h'.reads, h.reads]
    by_cases hother : other = id
    · subst hother
      simp [hid]
    · simp [hother]

/-- Entities that stay where they are filed stay filed under their keys. -/
theorem keyed (h : Revised t ids revise before after) (hbefore : before.Keyed)
    (hrevise : ∀ entity entity', revise entity = some entity' →
      entity'.id = entity.id ∧ entity'.subjectType = entity.subjectType) : after.Keyed := by
  intro u other found hget
  rw [h.reads] at hget
  split at hget
  · obtain ⟨entity, hentity, hmade⟩ := Option.bind_eq_some_iff.mp hget
    obtain ⟨htype, hid, hne⟩ := hbefore u other entity hentity
    obtain ⟨hsameId, hsameType⟩ := hrevise entity found hmade
    exact ⟨hsameType.trans htype, hsameId.trans hid, hne⟩
  · exact hbefore u other found hget

theorem numbered (h : Revised t ids revise before after) (hbefore : before.Numbered) : after.Numbered := by
  intro u other found hget
  rw [h.lastId]
  rw [h.reads] at hget
  split at hget
  · obtain ⟨entity, hentity, -⟩ := Option.bind_eq_some_iff.mp hget
    exact hbefore u other entity hentity
  · exact hbefore u other found hget

/-- Storing what was made of an entity revises it. -/
theorem of_insert {made : Entity} (hget : before.get? t id = some entity) (hmade : revise entity = some made)
    (htype : made.subjectType = t) (hid : made.id = id) (hne : id ≠ 0) :
    Revised t [id] revise before (before.insert made).2 where
  lastId := by rw [lastId_insert, if_neg (hid ▸ hne)]
  reads u other := by
    rw [get?_insert, insert_fst_of_ne_zero before (hid ▸ hne), htype, hid]
    by_cases hkey : u = t ∧ other ∈ [id]
    · obtain ⟨rfl, hother⟩ := hkey
      cases List.mem_singleton.mp hother
      simp [hget, hmade]
    · rw [if_neg hkey, if_neg]
      rintro ⟨rfl, rfl⟩
      exact hkey ⟨rfl, List.mem_singleton_self _⟩

/-- Removing an entity of which nothing is made revises it. -/
theorem of_erase (hget : before.get? t id = some entity) (hmade : revise entity = none) :
    Revised t [id] revise before (before.erase t id) where
  lastId := rfl
  reads u other := by
    rw [get?_erase]
    by_cases hkey : u = t ∧ other ∈ [id]
    · obtain ⟨rfl, hother⟩ := hkey
      cases List.mem_singleton.mp hother
      simp [hget, hmade]
    · rw [if_neg hkey, if_neg]
      rintro ⟨rfl, rfl⟩
      exact hkey ⟨rfl, List.mem_singleton_self _⟩

end Revised

/-! ## Searching -/

/-- A search lists the ids of a part of the table. -/
theorem Keyed.search_eq (h : entities.Keyed) (t : SubjectType) (condition : Condition) :
    entities.search t condition =
      (((entities.tables.get t).toList.filter fun pair => fulfils pair.2 condition).map Prod.fst) := by
  rw [search, all, values_eq_map_toList, List.filter_map, List.map_map]
  refine List.map_congr_left fun pair hpair => ?_
  have hget := Std.ExtTreeMap.mem_toList_iff_getElem?_eq_some.mp ((List.mem_filter.mp hpair).1)
  exact (h t pair.1 pair.2 hget).2.1

/-- A search finds the ids under which the fulfilling entities are read. -/
theorem Keyed.mem_search (h : entities.Keyed) {condition : Condition} :
    id ∈ entities.search t condition ↔
      ∃ entity, entities.get? t id = some entity ∧ fulfils entity condition = true := by
  simp [h.search_eq, Std.ExtTreeMap.mem_toList_iff_getElem?_eq_some, get?]

/-- A search lists ids in ascending order. -/
theorem Keyed.search_ascending (h : entities.Keyed) (t : SubjectType) (condition : Condition) :
    (entities.search t condition).Pairwise (· < ·) := by
  rw [h.search_eq, List.pairwise_map]
  have hordered := Std.ExtTreeMap.ordered_keys_toList (t := entities.tables.get t)
  exact (hordered.sublist List.filter_sublist).imp fun hlt => Nat.compare_eq_lt.mp hlt

end Entities

end Provisioning.Memory
