import Mathlib.Data.List.Induction
import Provisioning.Proofs.Memory.Entities
set_option autoImplicit false

/-!
# Entities that are stored for the first time

The repository in memory counts the ids that it hands out, and only those.  An entity that comes with an id of its own
leaves the count alone, so the next id to be handed out may be in use: exactly if an entity came with this id before its
time and has not been removed since.  The entity that is created then takes the place of the other one.
-/

namespace Provisioning.Memory.Entities

/-- A change to a repository. -/
inductive Edit where
  | insert (entity : Entity)
  | save (entity : Entity)
  | delete (t : SubjectType) (id : Nat)

namespace Edit

/-- Make a change. -/
def make : Edit → Entities → Entities
  | insert entity, entities => (entities.insert entity).2
  | save entity, entities => (repository.save entity entities).2
  | delete t id, entities => (repository.delete t id entities).2

/-- The entity that is to be stored. -/
def entity? : Edit → Option Entity
  | insert entity | save entity => some entity
  | delete _ _ => none

/-- Whether an entity without id is to be stored. -/
def creates (edit : Edit) : Bool := edit.entity?.any fun entity => entity.id == 0

/-- An entity of the type comes with the id. -/
def Brings (edit : Edit) (t : SubjectType) (id : Nat) : Prop :=
  ∃ entity, edit.entity? = some entity ∧ entity.subjectType = t ∧ entity.id = id

end Edit

/-- The repository after some changes, made to an empty one. -/
def afterEdits (history : List Edit) : Entities := history.foldl (fun entities edit => edit.make entities) {}

/-- The number of entities that were stored without id. -/
def creations (history : List Edit) : Nat := history.countP Edit.creates

/-- An entity of the type came with the id and has not been removed since. -/
def Preempted (history : List Edit) (t : SubjectType) (id : Nat) : Prop :=
  ∃ earlier edit later, history = earlier ++ edit :: later ∧ edit.Brings t id ∧ Edit.delete t id ∉ later

/-- Entities came with no ids but such as had been handed out. -/
def Orderly (history : List Edit) : Prop :=
  ∀ earlier edit later t id, history = earlier ++ edit :: later → edit.Brings t id → id ≤ creations earlier

variable {history : List Edit} {edit : Edit} {entities : Entities} {t : SubjectType} {id : Nat}

/-! ## One change -/

theorem Edit.make_of_entity? {entity : Entity} (h : edit.entity? = some entity) (entities : Entities) :
    edit.make entities = (entities.insert entity).2 := by
  cases edit with
  | insert | save =>
    cases h
    rfl
  | delete => cases h

/-- What is removed is read no more, whether or not it was there. -/
theorem Edit.get?_make_delete (t : SubjectType) (id : Nat) (entities : Entities) (u : SubjectType) (other : Nat) :
    ((Edit.delete t id).make entities).get? u other =
      if t = u ∧ id = other then none else entities.get? u other := by
  simp only [make, repository, Entities.delete]
  split
  · exact get?_erase entities t id u other
  · rename_i hget
    split
    · rename_i hsame
      rw [← hsame.1, ← hsame.2, hget]
    · rfl

theorem Edit.lastId_make (edit : Edit) (entities : Entities) :
    (edit.make entities).lastId = entities.lastId + if edit.creates then 1 else 0 := by
  cases hentity : edit.entity? with
  | some entity =>
    rw [make_of_entity? hentity, lastId_insert]
    by_cases hid : entity.id = 0 <;> simp [creates, hentity, hid]
  | none =>
    cases edit with
    | insert | save => cases hentity
    | delete t id =>
      simp only [make, repository, Entities.delete]
      cases entities.get? t id <;> simp [creates, entity?, erase]

theorem Edit.brings_iff {entity : Entity} (h : edit.entity? = some entity) :
    edit.Brings t id ↔ entity.subjectType = t ∧ entity.id = id := by
  simp [Brings, h]

theorem Edit.not_brings_delete (u : SubjectType) (other : Nat) : ¬(Edit.delete u other).Brings t id :=
  fun ⟨_, hentity, _⟩ => nomatch hentity

/-- After a change, an id that is still to be handed out is in use if an entity came with it, or if it was in use and
the entity has not been removed. -/
theorem Edit.isSome_get?_make (hid : (edit.make entities).lastId < id) :
    ((edit.make entities).get? t id).isSome ↔
      edit.Brings t id ∨ (entities.get? t id).isSome ∧ edit ≠ .delete t id := by
  cases hentity : edit.entity? with
  | some entity =>
    have hother : edit ≠ .delete t id := fun heq => nomatch (heq ▸ hentity : (Edit.delete t id).entity? = some entity)
    rw [make_of_entity? hentity, lastId_insert] at hid
    rw [make_of_entity? hentity, get?_insert, brings_iff hentity]
    by_cases hnew : entity.id = 0
    · -- The id that was handed out just now is not the one in question.
      rw [if_pos hnew] at hid
      have hlater : entities.lastId + 1 ≠ id := by omega
      have hzero : 0 ≠ id := by omega
      simp [insert_fst, hnew, hlater, hzero, hother]
    · rw [insert_fst_of_ne_zero entities hnew]
      by_cases hown : entity.subjectType = t ∧ entity.id = id
      · simp [hown]
      · simp [hown, hother]
  | none =>
    cases edit with
    | insert | save => cases hentity
    | delete u other =>
      rw [get?_make_delete, or_iff_right (not_brings_delete u other)]
      by_cases hsame : u = t ∧ other = id
      · simp [hsame]
      · simp [hsame]

/-! ## A history of changes -/

theorem afterEdits_concat (history : List Edit) (edit : Edit) :
    afterEdits (history ++ [edit]) = edit.make (afterEdits history) := by
  rw [afterEdits, List.foldl_append]
  rfl

theorem creations_concat (history : List Edit) (edit : Edit) :
    creations (history ++ [edit]) = creations history + if edit.creates then 1 else 0 := by
  rw [creations, List.countP_append, List.countP_singleton]
  rfl

/-- The last id handed out is the number of entities that were stored without id. -/
theorem lastId_afterEdits (history : List Edit) : (afterEdits history).lastId = creations history := by
  induction history using List.reverseRecOn with
  | nil => rfl
  | append_singleton earlier edit ih => rw [afterEdits_concat, Edit.lastId_make, creations_concat, ih]

theorem preempted_concat :
    Preempted (history ++ [edit]) t id ↔ edit.Brings t id ∨ Preempted history t id ∧ edit ≠ .delete t id := by
  constructor
  · rintro ⟨earlier, brought, later, hsplit, hbrings, hkept⟩
    rcases List.eq_nil_or_concat later with rfl | ⟨between, last, rfl⟩
    · obtain ⟨-, hlast⟩ := List.append_inj' hsplit rfl
      cases hlast
      exact .inl hbrings
    · rw [List.concat_eq_append, ← List.cons_append, ← List.append_assoc] at hsplit
      obtain ⟨hearlier, hlast⟩ := List.append_inj' hsplit rfl
      cases hlast
      rw [List.concat_eq_append, List.mem_append, List.mem_singleton, not_or] at hkept
      exact .inr ⟨⟨earlier, brought, between, hearlier, hbrings, hkept.1⟩, Ne.symm hkept.2⟩
  · rintro (hbrings | ⟨⟨earlier, brought, later, rfl, hbrings, hkept⟩, hother⟩)
    · exact ⟨history, edit, [], rfl, hbrings, List.not_mem_nil⟩
    · refine ⟨earlier, brought, later ++ [edit], by simp, hbrings, ?_⟩
      rw [List.mem_append, List.mem_singleton, not_or]
      exact ⟨hkept, Ne.symm hother⟩

/-- An id that is still to be handed out is in use exactly if it is preempted. -/
theorem isSome_get?_iff_preempted (hid : creations history < id) :
    ((afterEdits history).get? t id).isSome ↔ Preempted history t id := by
  induction history using List.reverseRecOn with
  | nil => simp [afterEdits, get?, Preempted]
  | append_singleton earlier edit ih =>
    have hlast : (edit.make (afterEdits earlier)).lastId < id := by
      rw [← afterEdits_concat, lastId_afterEdits]
      exact hid
    rw [creations_concat] at hid
    rw [afterEdits_concat, Edit.isSome_get?_make hlast, ih (by omega), preempted_concat]

/-- An id that entities do not come with before it is handed out is not preempted. -/
theorem Orderly.not_preempted (h : Orderly history) (hid : creations history < id) : ¬Preempted history t id := by
  rintro ⟨earlier, edit, later, rfl, hbrings, -⟩
  have hhanded := h earlier edit later t id rfl hbrings
  rw [creations, List.countP_append] at hid
  rw [creations] at hhanded
  omega

/-- An entity that is stored without id gets the number after the last one handed out, and every other entity stays as
it is.  No entity of its type has that id, and so none is replaced, unless one came with it before its time and has not
been removed since; none did if entities came with no ids but such as had been handed out. -/
theorem creation_replaces_preempting (history : List Edit) (entity : Entity) (hnew : entity.id = 0) :
    let before := afterEdits history
    let id := creations history + 1
    let stored := { entity with id }
    ∃ after, before.insert entity = (stored, after) ∧ repository.save entity before = (.ok stored, after) ∧
      (∀ u other, after.get? u other =
        if entity.subjectType = u ∧ id = other then some stored else before.get? u other) ∧
      ((before.get? entity.subjectType id).isSome ↔ Preempted history entity.subjectType id) ∧
      (¬Preempted history entity.subjectType id →
        ∀ u other old, before.get? u other = some old → after.get? u other = some old) ∧
      (Orderly history → ¬Preempted history entity.subjectType id) := by
  intro before id stored
  have hstored : (before.insert entity).1 = stored := by
    rw [insert_fst, if_pos hnew, lastId_afterEdits]
  have hreads : ∀ u other, (before.insert entity).2.get? u other =
      if entity.subjectType = u ∧ id = other then some stored else before.get? u other := by
    intro u other
    rw [get?_insert, hstored]
  have huse : (before.get? entity.subjectType id).isSome ↔ Preempted history entity.subjectType id :=
    isSome_get?_iff_preempted (Nat.lt_succ_self _)
  refine ⟨(before.insert entity).2, Prod.ext hstored rfl, ?_, hreads, huse, ?_, ?_⟩
  · exact Prod.ext (congrArg Except.ok hstored) rfl
  · intro hfresh u other old hold
    rw [hreads, if_neg, hold]
    rintro ⟨rfl, rfl⟩
    exact hfresh (huse.mp (hold ▸ rfl))
  · exact fun horderly => horderly.not_preempted (Nat.lt_succ_self _)

/-- A user who comes with an id. -/
def transferred : Entity := { id := 1, name := "ann" }

/-- A user who has no id yet. -/
def hired : Entity := { name := "bea" }

theorem hired_replaces_transferred :
    hired.id = 0 ∧ Preempted [.insert transferred] .user 1 ∧
      ∃ after, repository.save hired (afterEdits [.insert transferred]) = (.ok { hired with id := 1 }, after) ∧
        after.get? .user 1 = some { hired with id := 1 } := by
  have hpreempted : Preempted [.insert transferred] .user 1 :=
    ⟨[], .insert transferred, [], rfl, ⟨transferred, rfl, rfl, rfl⟩, List.not_mem_nil⟩
  obtain ⟨after, -, hsave, hreads, -⟩ := creation_replaces_preempting [.insert transferred] hired rfl
  exact ⟨rfl, hpreempted, after, hsave, hreads .user 1⟩

/-- The user who comes with the id 1 is gone when the first id is handed out. -/
theorem creation_overwrites :
    let before := afterEdits [.insert transferred]
    let (stored, after) := before.insert hired
    before.get? .user 1 = some transferred ∧ stored.id = 1 ∧ after.get? .user 1 = some stored ∧
      after.all .user = [stored] ∧ stored ≠ transferred := by
  decide +kernel

end Provisioning.Memory.Entities
