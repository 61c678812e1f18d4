import Provisioning.Proofs.Reconciliation.Encounters
import Provisioning.Proofs.Reconciliation.Idempotence
set_option autoImplicit false

/-!
# Handling a delta twice

A delta that was pulled may be pulled again by the next run.  Handling it brings the matches on which the conflict
policy acts up to date with its snapshot.  A delta is matched by the identifier from before a rename, and what is
brought up to date may no longer carry that.  If no match is left in this way, the delta looks like that of an
unknown object when it comes again, and a second entity is created for it.
-/

namespace Provisioning

open Memory

variable {σ : Type}

/-! ## Bringing entities up to date -/

namespace Mapping

variable {mapping : Mapping} {delta : Delta} {entity : Entity} {before middle after : Entities} {id : Nat}
  {ids : List Nat}

/-- The entity with what the snapshot of a delta changes in it. -/
def refreshed (mapping : Mapping) (delta : Delta) (entity : Entity) : Entity :=
  (mapping.diff entity delta.attributes).apply entity

/-- The entities of some ids are brought up to date with the snapshot of a delta, and nothing else is done. -/
structure Refreshes (mapping : Mapping) (delta : Delta) (ids : List Nat) (before after : Entities) : Prop where
  lastId : after.lastId = before.lastId
  get? : ∀ t id, after.get? t id =
    if t = mapping.subjectType ∧ id ∈ ids then (before.get? t id).map (mapping.refreshed delta)
    else before.get? t id

namespace Refreshes

theorem nil (mapping : Mapping) (delta : Delta) (entities : Entities) : mapping.Refreshes delta [] entities entities :=
  ⟨rfl, fun t id => by simp⟩

theorem of_absent (hnone : before.get? mapping.subjectType id = none) : mapping.Refreshes delta [id] before before := by
  refine ⟨rfl, fun t other => ?_⟩
  split
  · rename_i hother
    obtain ⟨rfl, hid⟩ := hother
    cases List.mem_singleton.mp hid
    rw [hnone]
    rfl
  · rfl

theorem of_present (hkeyed : before.Keyed) (hget : before.get? mapping.subjectType entity.id = some entity)
    (hafter : after = if mapping.diff entity delta.attributes = {} then before
      else (before.insert (mapping.refreshed delta entity)).2) :
    mapping.Refreshes delta [entity.id] before after := by
  obtain ⟨htype, -, hid⟩ := hkeyed _ _ _ hget
  have hkept : ∀ t other, t = mapping.subjectType ∧ other ∈ [entity.id] →
      before.get? t other = some entity ∧ entity.subjectType = t ∧ entity.id = other := by
    rintro t other ⟨rfl, hother⟩
    cases List.mem_singleton.mp hother
    exact ⟨hget, htype, rfl⟩
  split at hafter
  · rename_i hempty
    subst hafter
    refine ⟨rfl, fun t other => ?_⟩
    split
    · rename_i hother
      obtain ⟨hfound, -, -⟩ := hkept t other hother
      rw [hfound, Option.map_some, refreshed, hempty, Patch.apply_empty]
    · rfl
  · have hid' : ¬(mapping.refreshed delta entity).id = 0 := hid
    refine hafter ▸ ⟨?_, fun t other => ?_⟩
    · rw [Entities.lastId_insert, if_neg hid']
    · rw [Entities.get?_insert, Entities.insert_fst]
      simp only [hid', if_false]
      split
      · rename_i hstored
        have hother : t = mapping.subjectType ∧ other ∈ [entity.id] :=
          ⟨hstored.1.symm.trans htype, List.mem_singleton.mpr hstored.2.symm⟩
        rw [if_pos hother, (hkept t other hother).1]
        rfl
      · rename_i hstored
        rw [if_neg fun hother => hstored (hkept t other hother).2]

theorem cons (h : mapping.Refreshes delta [id] before middle) (h' : mapping.Refreshes delta ids middle after)
    (hnew : id ∉ ids) : mapping.Refreshes delta (id :: ids) before after := by
  refine ⟨h'.lastId.trans h.lastId, fun t other => ?_⟩
  rw [h'.get?, h.get?]
  by_cases hother : other = id
  · subst hother
    simp [hnew]
  · simp [hother]

variable (h : mapping.Refreshes delta ids before after)

include h

theorem keyed (hkeyed : before.Keyed) : after.Keyed := by
  intro t id entity hget
  rw [h.get?] at hget
  split at hget
  · obtain ⟨former, hformer, rfl⟩ := Option.map_eq_some_iff.mp hget
    exact hkeyed t id former hformer
  · exact hkeyed t id entity hget

/-- Nothing is created and nothing is removed. -/
theorem isSome (t : SubjectType) (id : Nat) : (after.get? t id).isSome = (before.get? t id).isSome := by
  rw [h.get?]
  split
  · exact Option.isSome_map
  · rfl

/-- A match is left as it is, or it is brought up to date and still fulfils the condition. -/
theorem mem_matched_iff (hkeyed : before.Keyed) (hids : ∀ id ∈ ids, id ∈ mapping.matched before delta) :
    id ∈ mapping.matched after delta ↔
      ∃ entity, before.get? mapping.subjectType id = some entity ∧ id ∈ mapping.matched before delta ∧
        (id ∈ ids → Entities.fulfils (mapping.refreshed delta entity) (mapping.accountCondition delta) = true) := by
  rw [mem_matched (h.keyed hkeyed), h.get?]
  by_cases hid : id ∈ ids
  · rw [if_pos ⟨rfl, hid⟩]
    simp only [Option.map_eq_some_iff, hids id hid, hid, true_and, forall_const]
    constructor
    · rintro ⟨-, ⟨former, hformer, rfl⟩, hfulfils⟩
      exact ⟨former, hformer, hfulfils⟩
    · rintro ⟨former, hformer, hfulfils⟩
      exact ⟨_, ⟨former, hformer, rfl⟩, hfulfils⟩
  · rw [if_neg fun hboth => hid hboth.2]
    simp only [mem_matched hkeyed, hid, false_implies, and_true]
    constructor
    · rintro ⟨entity, hget, hfulfils⟩
      exact ⟨entity, hget, entity, hget, hfulfils⟩
    · rintro ⟨-, -, hmatched⟩
      exact hmatched

end Refreshes

end Mapping

namespace Reconciliation

namespace Session

variable {workplace : Workplace σ} {session : Session σ} {delta : Delta} {s : RunState σ}

/-! ## The first time -/

/-- The matches that are brought up to date. -/
def chosen (session : Session σ) (entities : Entities) (delta : Delta) : List Nat :=
  if session.task.mayUpdate then
    (session.task.conflicts.resolve delta.correlationUid (session.mapping.matched entities delta)).toOption.getD []
  else []

theorem visit_refreshes (h : workplace.Furnishes session) (hmatching : session.task.matching = .update)
    (delta : Delta) (hwilling : (officeIn workplace s).requests.failing = none)
    (hkeyed : (officeIn workplace s).entities.Keyed) (id : Nat) :
    let after := session.visit delta id s
    after.1 = .ok () ∧ (officeIn workplace after.2).requests.failing = none ∧
      session.mapping.Refreshes delta [id] (officeIn workplace s).entities (officeIn workplace after.2).entities := by
  intro after
  cases hget : (officeIn workplace s).entities.get? session.mapping.subjectType id with
  | none =>
    obtain ⟨hnone, hoffice, -⟩ := load_reports h id s
    rw [hget] at hnone
    have hafter : after = (.ok (), (session.load id s).2) := by simp only [after, visit, bind_apply, hnone, pure_apply]
    rw [hafter]
    simp only [hoffice]
    exact ⟨trivial, hwilling, .of_absent hget⟩
  | some entity =>
    obtain ⟨-, rfl, -⟩ := hkeyed _ _ _ hget
    obtain ⟨hok, hwilling', hentities⟩ := visit_spec h hmatching delta hwilling hkeyed hget
    exact ⟨hok, hwilling', .of_present hkeyed hget hentities⟩

theorem forEach_visit_refreshes (h : workplace.Furnishes session) (hmatching : session.task.matching = .update)
    (hwilling : (officeIn workplace s).requests.failing = none) (hkeyed : (officeIn workplace s).entities.Keyed)
    {ids : List Nat} (hids : ids.Nodup) :
    let after := forEach (session.visit delta) ids s
    after.1 = .ok () ∧ (officeIn workplace after.2).requests.failing = none ∧
      session.mapping.Refreshes delta ids (officeIn workplace s).entities (officeIn workplace after.2).entities := by
  induction ids generalizing s with
  | nil => exact ⟨rfl, hwilling, .nil _ _ _⟩
  | cons id rest ih =>
    obtain ⟨hnew, hrest⟩ := List.nodup_cons.mp hids
    obtain ⟨hok, hwilling', hfirst⟩ := visit_refreshes h hmatching delta hwilling hkeyed id
    obtain ⟨hok', hwilling'', hothers⟩ := ih hwilling' (hfirst.keyed hkeyed) hrest
    simp only [forEach, Effect.andThen_apply, hok]
    exact ⟨hok', hwilling'', hfirst.cons hothers hnew⟩

theorem chosen_sublist (session : Session σ) (entities : Entities) (delta : Delta) :
    (session.chosen entities delta).Sublist (session.mapping.matched entities delta) := by
  unfold chosen
  split
  · cases hresolve : session.task.conflicts.resolve delta.correlationUid (session.mapping.matched entities delta) with
    | error error => exact List.nil_sublist _
    | ok ids => exact ConflictPolicy.sublist_of_resolve hresolve
  · exact List.nil_sublist _

/-- Handling a delta that matches something brings the chosen matches up to date. -/
theorem handle_refreshes (h : workplace.Furnishes session) (hmatching : session.task.matching = .update)
    (hpresent : delta.kind = .createOrUpdate) (hwilling : (officeIn workplace s).requests.failing = none)
    (hkeyed : (officeIn workplace s).entities.Keyed)
    (hmatched : session.mapping.matched (officeIn workplace s).entities delta ≠ []) :
    let after := session.handle delta s
    let ids := session.chosen (officeIn workplace s).entities delta
    after.1 = .ok () ∧ (officeIn workplace after.2).requests.failing = none ∧
      session.mapping.Refreshes delta ids (officeIn workplace s).entities (officeIn workplace after.2).entities := by
  intro after ids
  have hnodup : ids.Nodup := List.Nodup.sublist (session.chosen_sublist _ delta) <|
    (hkeyed.search_ascending _ _).imp Nat.ne_of_lt
  obtain ⟨hanswer, hoffice, -⟩ := correlate_eq h delta s
  cases hresolve : session.task.conflicts.resolve delta.correlationUid
      (session.mapping.matched (officeIn workplace s).entities delta) with
  | error error =>
    have hafter : after = (.ok (), (session.correlate delta s).2) := by
      simp only [after, handle, bind_apply, hanswer, hresolve, pure_apply]
    have hids : ids = [] := by simp [ids, chosen, hresolve, Except.toOption]
    rw [hafter, hids]
    exact ⟨rfl, hoffice ▸ hwilling, hoffice ▸ .nil _ _ _⟩
  | ok resolved =>
    have hne : resolved ≠ [] := fun hnil => ConflictPolicy.resolve_ne_nil hmatched (hnil ▸ hresolve)
    simp only [after, handle_eq hpresent (hanswer.trans hresolve), if_neg hne, handleMatched_eq]
    rw [← hoffice] at hwilling hkeyed ⊢
    by_cases hmay : session.task.mayUpdate = true
    · have hids : ids = resolved := by simp [ids, chosen, hmay, hresolve, Except.toOption]
      rw [if_pos hmay, hids]
      exact forEach_visit_refreshes h hmatching hwilling hkeyed (hids ▸ hnodup)
    · have hids : ids = [] := by simp [ids, chosen, hmay]
      rw [if_neg hmay, hids]
      exact ⟨rfl, hwilling, .nil _ _ _⟩

/-! ## The second time -/

/-- Every match is brought up to date, and none is found under the identifier from before the change any more. -/
def Loses (session : Session σ) (entities : Entities) (delta : Delta) : Prop :=
  ∀ id ∈ session.mapping.matched entities delta, id ∈ session.chosen entities delta ∧
    ∀ entity, entities.get? session.mapping.subjectType id = some entity →
      Entities.fulfils (session.mapping.refreshed delta entity) (session.mapping.accountCondition delta) = false

theorem loses_iff {before after : Entities} (hkeyed : before.Keyed)
    (hrefreshes : session.mapping.Refreshes delta (session.chosen before delta) before after) :
    session.Loses before delta ↔ session.mapping.matched after delta = [] := by
  have hids := fun id hid => (session.chosen_sublist before delta).subset (a := id) hid
  rw [List.eq_nil_iff_forall_not_mem]
  simp only [hrefreshes.mem_matched_iff hkeyed hids, Loses]
  constructor
  · rintro hloses id ⟨entity, hget, hmatched, hstill⟩
    obtain ⟨hchosen, hlost⟩ := hloses id hmatched
    exact absurd (hstill hchosen) (by simp [hlost entity hget])
  · intro hnone id hmatched
    obtain ⟨entity, hget, -⟩ := (Mapping.mem_matched hkeyed).mp hmatched
    refine ⟨Decidable.byContradiction fun hleft => ?_, fun other hother => ?_⟩
    · exact hnone id ⟨entity, hget, hmatched, fun hchosen => absurd hchosen hleft⟩
    · exact eq_false_of_ne_true fun hfulfils => hnone id ⟨other, hother, hmatched, fun _ => hfulfils⟩

/-- An object that was renamed and carries its new identifier is lost, if every match is brought up to date. -/
theorem loses_of_renamed {entities : Entities} (hmapping : session.mapping.Recognizing)
    (hdelta : session.mapping.Recognizes { delta with previousUid := none })
    (hrenamed : delta.correlationUid ≠ delta.uid)
    (hall : ∀ id ∈ session.mapping.matched entities delta, id ∈ session.chosen entities delta) :
    session.Loses entities delta := by
  refine fun id hmatched => ⟨hall id hmatched, fun entity _ => ?_⟩
  have hreflects : session.mapping.Reflects (session.mapping.refreshed delta entity)
      ({ delta with previousUid := none } : Delta).attributes :=
    Mapping.reflects_apply_diff hmapping.separated entity delta.attributes
  exact eq_false_of_ne_true fun hfulfils => hrenamed ((hreflects.fulfils_iff hmapping hdelta).mp hfulfils)

/-- A delta that matches nothing is received as an unknown object. -/
theorem handle_of_unmatched (h : workplace.Furnishes session) (hpresent : delta.kind = .createOrUpdate)
    (hwilling : (officeIn workplace s).requests.failing = none)
    (hmatched : session.mapping.matched (officeIn workplace s).entities delta = []) :
    let after := session.handle delta s
    after.1 = .ok () ∧ (officeIn workplace after.2).entities =
      match session.newHook? with
      | none => (officeIn workplace s).entities
      | some hook => ((officeIn workplace s).entities.insert (session.newEntity hook delta)).2 := by
  intro after
  obtain ⟨hanswer, hoffice, -⟩ := correlate_eq h delta s
  rw [hmatched] at hanswer
  have hafter : after = session.handleUnmatched delta (session.correlate delta s).2 := by
    simp only [after, handle_eq hpresent hanswer, if_true]
  rw [handleUnmatched_eq] at hafter
  rw [← hoffice] at hwilling ⊢
  cases hhook : session.newHook? with
  | none =>
    rw [hafter, hhook]
    exact ⟨rfl, rfl⟩
  | some hook =>
    obtain ⟨hcreated, -, hentities⟩ := create_spec h hook delta hwilling
    rw [hafter, hhook]
    exact ⟨hcreated, hentities⟩

/-- A delta that has matched something is handled again.  If the first time every match was brought up to date
and then lost, and unknown objects are received, an entity is created.  Otherwise none is. -/
theorem handle_twice (h : workplace.Furnishes session) (hmatching : session.task.matching = .update)
    (hpresent : delta.kind = .createOrUpdate) (hwilling : (officeIn workplace s).requests.failing = none)
    (hkeyed : (officeIn workplace s).entities.Keyed)
    (hmatched : session.mapping.matched (officeIn workplace s).entities delta ≠ [])
    {s' : RunState σ} (hagain : officeIn workplace s' = officeIn workplace (session.handle delta s).2) :
    let before := (officeIn workplace s).entities
    let first := (officeIn workplace s').entities
    let second := (officeIn workplace (session.handle delta s').2).entities
    (session.handle delta s').1 = .ok () ∧ first.lastId = before.lastId ∧
      (∀ t id, (first.get? t id).isSome = (before.get? t id).isSome) ∧
      (∀ hook, session.newHook? = some hook → session.Loses before delta →
        second = (first.insert (session.newEntity hook delta)).2 ∧ second.lastId = before.lastId + 1) ∧
      (session.newHook? = none ∨ ¬session.Loses before delta →
        second.lastId = before.lastId ∧ ∀ t id, (second.get? t id).isSome = (before.get? t id).isSome) := by
  intro before first second
  obtain ⟨-, hwilling', hfirst⟩ := handle_refreshes h hmatching hpresent hwilling hkeyed hmatched
  rw [← hagain] at hwilling' hfirst
  have hloses := loses_iff hkeyed hfirst
  by_cases hnone : session.mapping.matched first delta = []
  · obtain ⟨hok, hsecond⟩ : (session.handle delta s').1 = .ok () ∧ second =
        match session.newHook? with
        | none => first
        | some hook => (first.insert (session.newEntity hook delta)).2 :=
      handle_of_unmatched h hpresent hwilling' hnone
    refine ⟨hok, hfirst.lastId, hfirst.isSome, fun hook hhook _ => ?_, fun hnot => ?_⟩
    · simp only [hhook] at hsecond
      refine ⟨hsecond, ?_⟩
      rw [hsecond, Entities.lastId_insert, if_pos (newEntity_key session hook delta).1, hfirst.lastId]
    · have hhook : session.newHook? = none := hnot.resolve_right fun hnot => hnot (hloses.mpr hnone)
      simp only [hhook] at hsecond
      rw [hsecond]
      exact ⟨hfirst.lastId, hfirst.isSome⟩
  · obtain ⟨hok, -, hsecond⟩ := handle_refreshes h hmatching hpresent hwilling' (hfirst.keyed hkeyed) hnone
    refine ⟨hok, hfirst.lastId, hfirst.isSome, fun _ _ hlost => absurd (hloses.mp hlost) hnone, fun _ => ?_⟩
    exact ⟨hsecond.lastId.trans hfirst.lastId, fun t id => (hsecond.isSome t id).trans (hfirst.isSome t id)⟩

end Session

end Reconciliation

end Provisioning

/-! ## A user who is renamed -/

namespace Provisioning.Memory.Premises

open Reconciliation

/-- The session of a task that imports users into the repository of the premises. -/
def importing : Session Premises where
  engine := engine (registry plainConnector)
  task := { name := "import", resource := "directory", subjectType := .user }
  resource := resource plainConnector
  mapping := userMapping

theorem workplace_furnishes : workplace.Furnishes importing where
  typed := registry_typed
  found := lookup_registry
  repository := rfl
  workflow := rfl
  correlation := rfl
  quiet := workplace_surveys.quiet
  hooks := rfl
  live := rfl

/-- The account of the user `ada` is now called `eve`. -/
def rename : Delta := { (account "eve").toDelta "account" with previousUid := some "ada" }

theorem importing_loses_rename : importing.Loses staff.office.entities rename :=
  Session.loses_of_renamed userMapping_recognizing (recognizes_account (by decide)) (by decide) (by decide +kernel)

theorem handle_rename_creates_again :
    let first := (importing.handle rename { world := staff }).2.world
    let second := (importing.handle rename { world := first }).2.world
    second.office.entities = (first.office.entities.insert (importing.newEntity .create rename)).2 ∧
      second.office.entities.lastId = staff.office.entities.lastId + 1 := by
  intro first second
  have hagain : Session.officeIn workplace { world := first } =
      Session.officeIn workplace (importing.handle rename { world := staff }).2 := rfl
  have hsound : (Session.officeIn workplace { world := staff }).Sound := staff_sound
  have hmatched : userMapping.matched staff.office.entities rename ≠ [] := by decide +kernel
  obtain ⟨-, -, -, hcreated, -⟩ :=
    Session.handle_twice workplace_furnishes rfl rfl hsound.willing hsound.keyed hmatched hagain
  exact hcreated .create rfl importing_loses_rename

/-- The one user whom the delta matched is renamed, and then there are two of the new name. -/
theorem handle_rename_duplicates :
    let first := (importing.handle rename { world := staff }).2.world
    let second := (importing.handle rename { world := first }).2.world
    userMapping.matched staff.office.entities rename = [1] ∧
      (first.office.entities.all .user).map Entity.name = ["eve"] ∧
        (second.office.entities.all .user).map Entity.name = ["eve", "eve"] := by
  decide +kernel

end Provisioning.Memory.Premises
