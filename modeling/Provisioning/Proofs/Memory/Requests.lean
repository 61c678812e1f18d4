import Provisioning.Proofs.Effect.Frame
import Provisioning.Proofs.Memory.Entities
set_option autoImplicit false

/-!
# What the workflow in memory does

As long as requests do not fail, each is carried out on the repository at once.
-/

namespace Provisioning.Memory.Office

/-- Requests are carried out, on a repository in which every entity is filed under its own id and no id is in use
that is still to be handed out. -/
structure Sound (office : Office) : Prop where
  willing : office.requests.failing = none
  keyed : office.entities.Keyed
  numbered : office.entities.Numbered

variable {office office' : Office}

/-- Storing a new entity, or one with an id that is in use, leaves all in order. -/
theorem Sound.of_inserted (h : office.Sound) (hwilling : office'.requests.failing = none) {entity : Entity}
    (hentities : office'.entities = (office.entities.insert entity).2) (hid : entity.id ≤ office.entities.lastId) :
    office'.Sound where
  willing := hwilling
  keyed := hentities ▸ h.keyed.insert entity
  numbered := hentities ▸ h.numbered.insert hid

theorem create_granted (h : office.requests.failing = none) (entity : Entity) :
    let inserted := office.entities.insert entity
    (∃ affected, (create entity office).1 = .ok { id := inserted.1.id, name := inserted.1.name, affected }) ∧
      (create entity office).2.entities = inserted.2 ∧ (create entity office).2.requests.failing = none := by
  simp only [create, request, h, save]
  exact ⟨⟨_, rfl⟩, trivial, trivial⟩

theorem update_granted (h : office.requests.failing = none) {t : SubjectType} {id : Nat} {entity : Entity}
    (hget : office.entities.get? t id = some entity) (patch : Patch) :
    let inserted := office.entities.insert (patch.apply entity)
    (∃ affected, (update t id patch office).1 = .ok { id := inserted.1.id, name := inserted.1.name, affected }) ∧
      (update t id patch office).2.entities = inserted.2 ∧
        (update t id patch office).2.requests.failing = none := by
  simp only [update, request, h, notePatch, hget, save]
  exact ⟨⟨_, rfl⟩, trivial, trivial⟩

theorem delete_granted (h : office.requests.failing = none) {t : SubjectType} {id : Nat} {entity : Entity}
    (hget : office.entities.get? t id = some entity) :
    (delete t id office).1 = .ok { id, name := entity.name, affected := ∅ } ∧
      (delete t id office).2.entities = office.entities.erase t id := by
  simp only [delete, request, h, hget]
  exact ⟨trivial, trivial⟩

/-! ## Notes -/

/-- A request has been made: it is noted, and whether requests fail is as before. -/
structure Asked (before after : Office) : Prop where
  failing : after.requests.failing = before.requests.failing
  calls : ∃ call, after.requests.calls = before.requests.calls ++ [call]

theorem asked_request {α : Type} {operation : Effect Office SyncError α}
    (h : ∀ office, (operation office).2.requests.failing = office.requests.failing ∧
      (operation office).2.requests.calls = office.requests.calls) (call : String) (office : Office) :
    Asked office (request call operation office).2 := by
  unfold request
  dsimp only
  split
  · exact ⟨rfl, call, rfl⟩
  · exact ⟨(h _).1, call, (h _).2⟩

theorem asked_create (entity : Entity) (office : Office) : Asked office (create entity office).2 :=
  asked_request (fun _ => ⟨rfl, rfl⟩) _ office

theorem asked_update (t : SubjectType) (id : Nat) (patch : Patch) (office : Office) :
    Asked office (update t id patch office).2 := by
  refine asked_request (fun noted => ?_) _ office
  dsimp only
  split <;> exact ⟨rfl, rfl⟩

theorem asked_delete (t : SubjectType) (id : Nat) (office : Office) : Asked office (delete t id office).2 := by
  refine asked_request (fun noted => ?_) _ office
  split <;> exact ⟨rfl, rfl⟩

/-- The frame of what does no more than make requests: it adds notes, and whether requests fail is as before. -/
def asking : Frame Office where
  Rel before after :=
    after.requests.failing = before.requests.failing ∧ before.requests.calls <+: after.requests.calls
  refl _ := ⟨rfl, List.prefix_rfl⟩
  trans h h' := ⟨h'.1.trans h.1, h.2.trans h'.2⟩

theorem Asked.asking (h : Asked office office') : asking.Rel office office' := by
  obtain ⟨call, hcalls⟩ := h.calls
  exact ⟨h.failing, [call], hcalls.symm⟩

/-- No request was refused on the way: requests do not fail, or none was made. -/
def Unrefused (before after : Office) : Prop :=
  before.requests.failing = none ∨ after.requests.calls = before.requests.calls

/-- Requests do not fail if one was made and none was refused. -/
theorem Unrefused.willing (h : office.Unrefused office') (hasked : Asked office office') :
    office.requests.failing = none := by
  obtain hwilling | hnone := h
  · exact hwilling
  · obtain ⟨call, hcalls⟩ := hasked.calls
    rw [hnone] at hcalls
    exact absurd (List.self_eq_append_right.mp hcalls) (List.cons_ne_nil _ _)

/-- If no request was refused on the whole way, none was refused on either part of it. -/
theorem Unrefused.split {between : Office} (h : office.Unrefused office') (hfirst : asking.Rel office between)
    (hlater : asking.Rel between office') : office.Unrefused between ∧ between.Unrefused office' := by
  obtain hwilling | hnone := h
  · exact ⟨.inl hwilling, .inl (hfirst.1.trans hwilling)⟩
  · have hback : between.requests.calls <+: office.requests.calls := hnone ▸ hlater.2
    have hsame := hback.eq_of_length_le hfirst.2.length_le
    exact ⟨.inr hsame, .inr (hnone.trans hsame.symm)⟩

/-! ## Filing -/

/-- The frame of what leaves the entities filed under their keys. -/
def filing : Frame Office where
  Rel before after := before.entities.Keyed → after.entities.Keyed
  refl _ h := h
  trans h h' hkeyed := h' (h hkeyed)

theorem filing_request {α : Type} {operation : Effect Office SyncError α} (h : filing.Keeps operation)
    (call : String) : filing.Keeps (request call operation) := by
  intro office hkeyed
  unfold request
  dsimp only
  split
  · exact hkeyed
  · exact h _ hkeyed

theorem filing_create (entity : Entity) : filing.Keeps (create entity) :=
  filing_request (fun _ hkeyed => hkeyed.insert entity) _

theorem filing_update (t : SubjectType) (id : Nat) (patch : Patch) : filing.Keeps (update t id patch) := by
  refine filing_request (fun office hkeyed => ?_) _
  dsimp only
  split
  · exact hkeyed
  · exact hkeyed.insert _

theorem filing_delete (t : SubjectType) (id : Nat) : filing.Keeps (delete t id) := by
  refine filing_request (fun office hkeyed => ?_) _
  split
  · exact hkeyed
  · exact hkeyed.erase t id

/-- After a granted update the patched entity is stored, in the place of the one that was. -/
theorem get?_update_of_granted (hkeyed : office.entities.Keyed) {t : SubjectType} {id : Nat} {entity : Entity}
    (hget : office.entities.get? t id = some entity) {patch : Patch} {report : WorkflowReport}
    (hgranted : (update t id patch office).1 = .ok report) :
    (update t id patch office).2.entities.get? t id = some (patch.apply entity) := by
  have hwilling : office.requests.failing = none := by
    cases hfailing : office.requests.failing with
    | none => rfl
    | some message =>
      simp only [update, request, hfailing] at hgranted
      cases hgranted
  obtain ⟨htype, hid, hne⟩ := hkeyed t id entity hget
  obtain ⟨-, hentities, -⟩ := update_granted hwilling hget patch
  have hstored : (office.entities.insert (patch.apply entity)).1 = patch.apply entity :=
    office.entities.insert_fst_of_ne_zero (hid ▸ hne : (patch.apply entity).id ≠ 0)
  rw [hentities, Entities.get?_insert, hstored, if_pos ⟨htype, hid⟩]

/-! ## Refusal -/

/-- The frame of what does nothing to the repository as long as requests fail. -/
def refusing : Frame Office where
  Rel before after := before.requests.failing ≠ none →
    after.requests.failing = before.requests.failing ∧ after.entities = before.entities
  refl _ _ := ⟨rfl, rfl⟩
  trans h h' hfailing := by
    obtain ⟨hstill, hentities⟩ := h hfailing
    obtain ⟨hstill', hentities'⟩ := h' (hstill ▸ hfailing)
    exact ⟨hstill'.trans hstill, hentities'.trans hentities⟩

theorem refusing_request {α : Type} (call : String) (operation : Effect Office SyncError α) :
    refusing.Keeps (request call operation) := by
  intro office hfailing
  obtain ⟨message, hmessage⟩ := Option.ne_none_iff_exists'.mp hfailing
  simp only [request, hmessage]
  exact ⟨trivial, trivial⟩

end Provisioning.Memory.Office
