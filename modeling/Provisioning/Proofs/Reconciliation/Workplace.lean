import Provisioning.Memory.Directory
import Provisioning.Proofs.Reconciliation.Office
import Provisioning.Proofs.Reconciliation.Settling
set_option autoImplicit false

/-!
# Handling deltas over a repository in memory

In a session without hooks, over a workflow that carries out every request at once, handling a delta settles it, and
a delta that is settled already is merely confirmed.
-/

namespace Provisioning

open Memory

variable {σ : Type}

namespace Reconciliation

/-- A world in which a resource and a workflow with its repository are kept in memory, apart from each other. -/
structure Workplace (σ : Type) where
  directory : Lens σ Directory
  office : Lens σ Office
  office_stores : office.Stores
  apart : directory.Apart office

/-- A live session without hooks over the repository and the workflow of the workplace, whatever the rules of its
task are.  Nothing else that it sends out reaches them. -/
structure Workplace.Furnishes (workplace : Workplace σ) (session : Session σ) : Prop where
  typed : session.engine.registry.Typed
  found : session.engine.registry.lookup session.task.resource session.task.subjectType =
    .ok (session.resource, session.mapping)
  repository : session.engine.repository =
    (Entities.repository.within Office.entitiesLens).within workplace.office
  workflow : session.engine.workflow = Office.workflow.within workplace.office
  correlation : session.engine.correlation = Correlation.byAccountId session.engine.repository
  quiet : session.engine.Quiet (Frame.unchanged workplace.office.get)
  hooks : session.engine.hooks = []
  live : session.dryRun = false

/-- A session of the workplace that creates what it does not find and updates what it finds. -/
structure Workplace.Hosts (workplace : Workplace σ) (session : Session σ) : Prop extends
    workplace.Furnishes session where
  mayCreate : session.task.mayCreate = true
  mayUpdate : session.task.mayUpdate = true
  matching : session.task.matching = .update
  unmatching : session.task.unmatching = .provision
  decided : session.task.conflicts ≠ .ignore

namespace Workplace.Furnishes

variable {workplace : Workplace σ} {session : Session σ}

/-! ## The systems of the workplace -/

theorem subjectType_eq (h : workplace.Furnishes session) : session.task.subjectType = session.mapping.subjectType :=
  (h.typed.subjectType_eq h.found).symm

theorem employs (h : workplace.Furnishes session) : session.Employs workplace.office :=
  ⟨workplace.office_stores, h.repository, h.workflow⟩

theorem correlation_spec (h : workplace.Furnishes session) (delta : Delta) (s : σ) :
    (session.engine.correlation delta session.mapping s).1 =
        .ok (session.mapping.matched (workplace.office.get s).entities delta) ∧
      workplace.office.get (session.engine.correlation delta session.mapping s).2 = workplace.office.get s := by
  rw [h.correlation, h.repository]
  exact ⟨rfl, workplace.office_stores _ s⟩

end Workplace.Furnishes

namespace Session

variable {workplace : Workplace σ} {session : Session σ} {delta : Delta} {entity : Entity} {s : RunState σ}

/-- The workflow of the workplace in the course of a run. -/
def officeIn (workplace : Workplace σ) (s : RunState σ) : Office := workplace.office.get s.world

/-- A step that leaves the workflow as it is and adds some results. -/
def Reports (workplace : Workplace σ) (s s' : RunState σ) (results : List Result) : Prop :=
  officeIn workplace s' = officeIn workplace s ∧ s'.results = s.results ++ results

/-! ## Parts of an action -/

theorem record_reports (h : workplace.Furnishes session) (result : Result) (s : RunState σ) :
    Reports workplace s (session.record result s).2 [result] :=
  ⟨(keeps_record h.quiet result s).1, session.record_results result s⟩

theorem finish_reports (h : workplace.Furnishes session) (delta : Delta) (entity : Entity) (result : Result)
    (s : RunState σ) :
    (session.finish delta entity result s).1 = .ok () ∧
      Reports workplace s (session.finish delta entity result s).2 [result] := by
  have hrecord := record_reports h result s
  simp only [finish, h.hooks, runAfter, bind_apply, pure_apply]
  exact ⟨trivial, hrecord⟩

theorem officeIn_propagate (h : workplace.Furnishes session) (tasks : List Propagation.Task) (s : RunState σ) :
    officeIn workplace (session.propagate tasks s).2 = officeIn workplace s :=
  (keeps_propagate h.quiet tasks s).1

theorem load_reports (h : workplace.Furnishes session) (id : Nat) (s : RunState σ) :
    (session.load id s).1 = (officeIn workplace s).entities.get? session.mapping.subjectType id ∧
      Reports workplace s (session.load id s).2 [] := by
  obtain ⟨hfound, hoffice⟩ := h.employs.find_spec session.task.subjectType id s.world
  simp only [load, bind_apply, onWorld_apply, hfound, pure_apply]
  exact ⟨h.subjectType_eq ▸ rfl, hoffice, (List.append_nil _).symm⟩

theorem actOn_eq (h : workplace.Furnishes session) (hook : ExistingHook) (base : Result) (delta : Delta)
    (entity : Entity) (act : Delta → Step σ (Option Result)) (s : RunState σ) :
    session.actOn hook base delta entity act s =
      match (act delta s).1 with
      | none => (.ok (), (act delta s).2)
      | some result => session.finish delta entity result (act delta s).2 := by
  simp only [actOn, h.hooks, beforeExisting, Effect.ok, bind_apply, h.live, Bool.false_eq_true, if_false]
  cases (act delta s).1 <;> rfl

/-! ## Existing entities -/

/-- An entity that reflects the snapshot is confirmed without a request. -/
theorem update_of_reflects (base : Result) (hreflects : session.mapping.Reflects entity delta.attributes) :
    session.update entity base delta s = (some base, s) := by
  have hempty := Patch.isEmpty_iff.mpr (Mapping.diff_eq_empty_iff.mpr hreflects)
  simp only [update, hempty, if_true, pure_apply]

theorem officeIn_reread (h : workplace.Furnishes session) (entity : Entity) (patch : Patch) (s : RunState σ) :
    officeIn workplace (session.reread entity patch s).2 = officeIn workplace s := by
  obtain ⟨hfound, hoffice⟩ := h.employs.find_spec session.task.subjectType entity.id s.world
  simp only [reread, bind_apply, onWorld_apply, hfound]
  cases (workplace.office.get s.world).entities.get? session.task.subjectType entity.id <;> exact hoffice

/-- An entity that does not reflect the snapshot is patched. -/
theorem update_of_not_reflects (h : workplace.Furnishes session) (base : Result)
    (hwilling : (officeIn workplace s).requests.failing = none)
    (hget : (officeIn workplace s).entities.get? session.mapping.subjectType entity.id = some entity)
    (hreflects : ¬session.mapping.Reflects entity delta.attributes) :
    let updated := session.update entity base delta s
    let patch := session.mapping.diff entity delta.attributes
    (∃ result, updated.1 = some result) ∧ (officeIn workplace updated.2).requests.failing = none ∧
      (officeIn workplace updated.2).entities = ((officeIn workplace s).entities.insert (patch.apply entity)).2 := by
  have hpatch : ¬(session.mapping.diff entity delta.attributes).isEmpty = true := fun hempty =>
    hreflects (Mapping.diff_eq_empty_iff.mp (Patch.isEmpty_iff.mp hempty))
  simp only [update, if_neg hpatch]
  generalize session.mapping.diff entity delta.attributes = patch
  obtain ⟨hanswer, hoffice⟩ := h.employs.update_spec session.mapping.subjectType entity.id patch s.world
  obtain ⟨⟨affected, hgranted⟩, hentities, hstill⟩ := Office.update_granted hwilling hget patch
  simp only [bind_apply, onWorld_apply, h.subjectType_eq, hanswer.trans hgranted, settle, pure_apply,
    officeIn_propagate h, officeIn_reread h]
  refine ⟨⟨_, rfl⟩, ?_⟩
  simp only [officeIn, hoffice]
  exact ⟨hstill, hentities⟩

theorem visit_eq (h : workplace.Furnishes session) (hmatching : session.task.matching = .update) (delta : Delta)
    (hget : (officeIn workplace s).entities.get? session.mapping.subjectType entity.id = some entity) :
    let base := session.result .update entity.id entity.name
    session.visit delta entity.id s =
      session.actOn .update base delta entity (fun delta' => session.update entity base delta')
        (session.load entity.id s).2 := by
  obtain ⟨hfound, -⟩ := load_reports h entity.id s
  simp only [visit, bind_apply, hfound, hget, applyRule, hmatching]

/-- A result that confirms what is there. -/
def Confirms (session : Session σ) (entities : Entities) (delta : Delta) (result : Result) : Prop :=
  result.operation = .update ∧ result.status = .success ∧ session.mapping.ReflectedAt entities delta result.id

/-- A match that reflects the snapshot is confirmed. -/
theorem visit_of_reflectedAt {id : Nat} (h : workplace.Furnishes session)
    (hmatching : session.task.matching = .update) (hkeyed : (officeIn workplace s).entities.Keyed)
    (hreflected : session.mapping.ReflectedAt (officeIn workplace s).entities delta id) :
    (session.visit delta id s).1 = .ok () ∧
      ∃ result, session.Confirms (officeIn workplace s).entities delta result ∧
        Reports workplace s (session.visit delta id s).2 [result] := by
  obtain ⟨entity, hget, hreflects⟩ := hreflected
  obtain ⟨-, rfl, -⟩ := hkeyed _ _ _ hget
  obtain ⟨-, hoffice, hresults⟩ := load_reports h entity.id s
  let base := session.result .update entity.id entity.name
  obtain ⟨hok, hoffice', hresults'⟩ := finish_reports h delta entity base (session.load entity.id s).2
  simp only [visit_eq h hmatching delta hget, actOn_eq h, update_of_reflects _ hreflects]
  refine ⟨hok, base, ⟨rfl, rfl, entity, hget, hreflects⟩, hoffice'.trans hoffice, ?_⟩
  rw [hresults', hresults, List.append_nil]

/-- An entity is patched, unless it reflects the snapshot already. -/
theorem visit_spec (h : workplace.Furnishes session) (hmatching : session.task.matching = .update) (delta : Delta)
    (hwilling : (officeIn workplace s).requests.failing = none) (hkeyed : (officeIn workplace s).entities.Keyed)
    (hget : (officeIn workplace s).entities.get? session.mapping.subjectType entity.id = some entity) :
    let after := session.visit delta entity.id s
    let patch := session.mapping.diff entity delta.attributes
    after.1 = .ok () ∧ (officeIn workplace after.2).requests.failing = none ∧
      (officeIn workplace after.2).entities =
        if patch = {} then (officeIn workplace s).entities
        else ((officeIn workplace s).entities.insert (patch.apply entity)).2 := by
  intro after patch
  by_cases hreflects : session.mapping.Reflects entity delta.attributes
  · obtain ⟨hok, -, -, hoffice, -⟩ := visit_of_reflectedAt h hmatching hkeyed ⟨entity, hget, hreflects⟩
    rw [if_pos (Mapping.diff_eq_empty_iff.mpr hreflects), hoffice]
    exact ⟨hok, hwilling, rfl⟩
  · obtain ⟨-, hoffice, -⟩ := load_reports h entity.id s
    rw [if_neg fun hempty => hreflects (Mapping.diff_eq_empty_iff.mp hempty)]
    simp only [after, visit_eq h hmatching delta hget, actOn_eq h]
    -- From here on only the state after the entity was read matters.
    rw [← hoffice] at hwilling hget ⊢
    generalize (session.load entity.id s).2 = loaded at hwilling hget ⊢
    obtain ⟨⟨result, hresult⟩, hwilling', hentities⟩ := update_of_not_reflects h
      (session.result .update entity.id entity.name) hwilling hget hreflects
    simp only [hresult]
    rw [(finish_reports h delta entity result _).1, (finish_reports h delta entity result _).2.1]
    exact ⟨rfl, hwilling', hentities⟩

/-- A match is made to reflect the snapshot. -/
theorem visit_of_matched (h : workplace.Hosts session) (hmapping : session.mapping.Recognizing)
    (hsound : (officeIn workplace s).Sound) {id : Nat}
    (hmatched : id ∈ session.mapping.matched (officeIn workplace s).entities delta) :
    let after := session.visit delta id s
    after.1 = .ok () ∧ (officeIn workplace after.2).Sound ∧
      session.mapping.Revises delta (officeIn workplace s).entities (officeIn workplace after.2).entities ∧
        session.mapping.ReflectedAt (officeIn workplace after.2).entities delta id := by
  intro after
  obtain ⟨entity, hget, hfulfils⟩ := (Mapping.mem_matched hsound.keyed).mp hmatched
  obtain ⟨-, rfl, -⟩ := hsound.keyed _ _ _ hget
  obtain ⟨hok, hwilling, hentities⟩ :=
    visit_spec h.toFurnishes h.matching delta hsound.willing hsound.keyed hget
  split at hentities
  · rename_i hempty
    have hreflects := Mapping.diff_eq_empty_iff.mp hempty
    rw [hentities]
    exact ⟨hok, ⟨hwilling, hentities ▸ hsound.keyed, hentities ▸ hsound.numbered⟩, .refl _, entity, hget, hreflects⟩
  · have hsound' := hsound.of_inserted hwilling hentities (hsound.numbered _ _ _ hget)
    rw [hentities]
    exact ⟨hok, hsound', Mapping.Revises.of_patched hmapping hsound.keyed hget hfulfils⟩

/-- Every match is made to reflect the snapshot. -/
theorem forEach_visit_of_matched (h : workplace.Hosts session) (hmapping : session.mapping.Recognizing)
    (hdelta : session.mapping.Recognizes delta) (hsound : (officeIn workplace s).Sound) (ids : List Nat)
    (hmatched : ∀ id ∈ ids, id ∈ session.mapping.matched (officeIn workplace s).entities delta) :
    let after := forEach (session.visit delta) ids s
    after.1 = .ok () ∧ (officeIn workplace after.2).Sound ∧
      session.mapping.Revises delta (officeIn workplace s).entities (officeIn workplace after.2).entities ∧
        ∀ id ∈ ids, session.mapping.ReflectedAt (officeIn workplace after.2).entities delta id := by
  induction ids generalizing s with
  | nil => exact ⟨rfl, hsound, .refl _, fun id hid => nomatch hid⟩
  | cons id rest ih =>
    obtain ⟨hok, hsound', hrevises, hreflected⟩ :=
      visit_of_matched h hmapping hsound (hmatched id List.mem_cons_self)
    have hstill : ∀ other ∈ rest,
        other ∈ session.mapping.matched (officeIn workplace (session.visit delta id s).2).entities delta := by
      intro other hother
      rw [hrevises.mem_matched_iff hmapping hdelta hsound.keyed hsound'.keyed]
      exact hmatched other (List.mem_cons_of_mem _ hother)
    obtain ⟨hok', hsound'', hrevises', hreflected'⟩ := ih hsound' hstill
    simp only [forEach, Effect.andThen_apply, hok]
    refine ⟨hok', hsound'', hrevises.trans hrevises', List.forall_mem_cons.mpr ⟨?_, hreflected'⟩⟩
    exact hrevises'.advances.reflectedAt hreflected

/-- A loop whose steps all add results and leave the workflow as it is does so, too. -/
theorem forEach_reports {α : Type} {handle : α → Step σ (Except SyncError Unit)} {Fits : α → Result → Prop}
    {office : Office} {items : List α}
    (hhandle : ∀ a ∈ items, ∀ s : RunState σ, officeIn workplace s = office →
      (handle a s).1 = .ok () ∧ ∃ results, Reports workplace s (handle a s).2 results ∧
        results ≠ [] ∧ ∀ result ∈ results, Fits a result)
    (s : RunState σ) (hoffice : officeIn workplace s = office) :
    (forEach handle items s).1 = .ok () ∧ ∃ results, Reports workplace s (forEach handle items s).2 results ∧
      (∀ result ∈ results, ∃ a ∈ items, Fits a result) ∧ ∀ a ∈ items, ∃ result ∈ results, Fits a result := by
  induction items generalizing s with
  | nil =>
    refine ⟨rfl, [], ⟨rfl, (List.append_nil _).symm⟩, ?_, ?_⟩
    · exact fun result hresult => nomatch hresult
    · exact fun a ha => nomatch ha
  | cons a rest ih =>
    obtain ⟨hok, first, ⟨hsame, hfirst⟩, hne, hfits⟩ := hhandle a List.mem_cons_self s hoffice
    obtain ⟨hok', others, ⟨hsame', hothers⟩, hsound, hcomplete⟩ :=
      ih (fun b hb => hhandle b (List.mem_cons_of_mem _ hb)) (handle a s).2 (hsame.trans hoffice)
    simp only [forEach, Effect.andThen_apply, hok]
    refine ⟨hok', first ++ others, ⟨hsame'.trans hsame, ?_⟩, ?_, ?_⟩
    · rw [hothers, hfirst, List.append_assoc]
    · intro result hresult
      rcases List.mem_append.mp hresult with hmem | hmem
      · exact ⟨a, List.mem_cons_self, hfits result hmem⟩
      · obtain ⟨b, hb, hfit⟩ := hsound result hmem
        exact ⟨b, List.mem_cons_of_mem _ hb, hfit⟩
    · intro b hb
      rcases List.mem_cons.mp hb with rfl | hmem
      · obtain ⟨result, hresult⟩ := List.exists_mem_of_ne_nil first hne
        exact ⟨result, List.mem_append_left _ hresult, hfits result hresult⟩
      · obtain ⟨result, hresult, hfit⟩ := hcomplete b hmem
        exact ⟨result, List.mem_append_right _ hresult, hfit⟩

/-! ## New entities -/

/-- The entity that is created has no id yet. -/
theorem newEntity_key (session : Session σ) (hook : NewHook) (delta : Delta) :
    (session.newEntity hook delta).id = 0 ∧
      (session.newEntity hook delta).subjectType = session.mapping.subjectType := by
  have hkey := session.mapping.toEntity_key delta.attributes
  unfold newEntity
  cases hook <;> dsimp only <;> split <;> exact hkey

/-- The entity that is created reflects the snapshot, also if it has to take the identifier for its name. -/
theorem reflects_newEntity (hmapping : session.mapping.Recognizing) (hdelta : session.mapping.Recognizes delta) :
    session.mapping.Reflects (session.newEntity .create delta) delta.attributes := by
  have hreflects := Mapping.reflects_toEntity hmapping.separated delta.attributes
  simp only [newEntity]
  split
  · rename_i hempty
    refine hreflects.with_name _ fun item hitem htarget incoming hpresent => ?_
    have hagrees := hreflects item hitem incoming hpresent
    have hnamed := hdelta.named item hitem htarget incoming hpresent
    simp only [Mapping.Item.Agrees, Mapping.Item.values, htarget, String.isEmpty_iff.mp hempty] at hagrees
    cases htext : firstText? incoming with
    | none => rfl
    | some text =>
      have hname := hagrees text htext
      simp only [List.cons.injEq, Value.text.injEq, and_true] at hname
      exact absurd (hname ▸ htext) hnamed
  · exact hreflects

theorem create_spec (h : workplace.Furnishes session) (hook : NewHook) (delta : Delta)
    (hwilling : (officeIn workplace s).requests.failing = none) :
    let after := session.create hook delta s
    after.1 = .ok () ∧ (officeIn workplace after.2).requests.failing = none ∧
      (officeIn workplace after.2).entities =
        ((officeIn workplace s).entities.insert (session.newEntity hook delta)).2 := by
  obtain ⟨hanswer, hoffice⟩ := h.employs.create_spec (session.newEntity hook delta) s.world
  obtain ⟨⟨affected, hgranted⟩, hentities, hstill⟩ :=
    Office.create_granted hwilling (session.newEntity hook delta)
  simp only [create, h.hooks, beforeNew, pure_apply, bind_apply, h.live, Bool.false_eq_true, if_false, onWorld_apply,
    hanswer.trans hgranted]
  rw [(finish_reports h delta _ _ _).1, (finish_reports h delta _ _ _).2.1, officeIn_propagate h]
  simp only [officeIn, hoffice]
  exact ⟨trivial, hstill, hentities⟩

/-! ## Deltas -/

/-- The delta is correlated to what the policy leaves of its matches. -/
theorem correlate_eq (h : workplace.Furnishes session) (delta : Delta) (s : RunState σ) :
    (session.correlate delta s).1 = session.task.conflicts.resolve delta.correlationUid
        (session.mapping.matched (officeIn workplace s).entities delta) ∧
      Reports workplace s (session.correlate delta s).2 [] := by
  obtain ⟨hanswer, hoffice⟩ := h.correlation_spec delta s.world
  simp only [correlate, bind_apply, onWorld_apply, hanswer, pure_apply]
  exact ⟨rfl, hoffice, (List.append_nil _).symm⟩

/-- The delta is correlated to what the policy acts on, and to nothing only if it matches nothing. -/
theorem correlate_spec (h : workplace.Hosts session) (hkeyed : (officeIn workplace s).entities.Keyed)
    (delta : Delta) :
    let matched := session.mapping.matched (officeIn workplace s).entities delta
    ∃ chosen, (session.correlate delta s).1 = .ok chosen ∧ Reports workplace s (session.correlate delta s).2 [] ∧
      (∀ id, id ∈ chosen ↔ session.task.conflicts.Chooses matched id) ∧ (chosen = [] → matched = []) := by
  intro matched
  obtain ⟨hanswer, hreports⟩ := correlate_eq h.toFurnishes delta s
  obtain ⟨chosen, hresolve, hchosen, hempty⟩ := ConflictPolicy.resolve_spec h.decided delta.correlationUid
    (hkeyed.search_ascending session.mapping.subjectType (session.mapping.accountCondition delta))
  exact ⟨chosen, hanswer.trans hresolve, hreports, hchosen, hempty⟩

theorem handle_eq (hpresent : delta.kind = .createOrUpdate) {chosen : List Nat}
    (hchosen : (session.correlate delta s).1 = .ok chosen) :
    session.handle delta s =
      if chosen = [] then session.handleUnmatched delta (session.correlate delta s).2
      else session.handleMatched delta chosen (session.correlate delta s).2 := by
  simp only [handle, bind_apply, hchosen, hpresent]
  cases chosen with
  | nil => rfl
  | cons id rest => rfl

/-- Handling a delta settles it, and does to the repository only what may be done for it. -/
theorem handle_settles (h : workplace.Hosts session) (hmapping : session.mapping.Recognizing)
    (hdelta : session.mapping.Recognizes delta) (hsound : (officeIn workplace s).Sound) :
    let after := session.handle delta s
    after.1 = .ok () ∧ (officeIn workplace after.2).Sound ∧
      session.mapping.Advances delta (officeIn workplace s).entities (officeIn workplace after.2).entities ∧
        session.mapping.Settled session.task.conflicts (officeIn workplace after.2).entities delta := by
  obtain ⟨chosen, hok, ⟨hoffice, -⟩, hchosen, hempty⟩ := correlate_spec h hsound.keyed delta
  simp only [handle_eq hdelta.present hok, handleMatched_eq, h.mayUpdate, handleUnmatched, h.mayCreate, h.unmatching,
    if_true]
  rw [← hoffice] at hsound hchosen hempty ⊢
  generalize (session.correlate delta s).2 = s' at *
  split
  · rename_i hnone
    obtain ⟨hid, htype⟩ := newEntity_key session .create delta
    have hreflects := reflects_newEntity hmapping hdelta
    obtain ⟨hcreated, hwilling, hentities⟩ := create_spec h.toFurnishes .create delta hsound.willing
    have hsound' := hsound.of_inserted hwilling hentities (hid ▸ Nat.zero_le _)
    have hsettled := Mapping.Advances.of_created hmapping hdelta h.decided hsound.keyed hsound.numbered
      (hempty hnone) hid htype hreflects
    exact ⟨hcreated, hsound', hentities ▸ hsettled⟩
  · rename_i hsome
    obtain ⟨hvisited, hsound', hrevises, hreflected⟩ := forEach_visit_of_matched h hmapping hdelta hsound chosen
      fun id hid => ((hchosen id).mp hid).1
    have hreflected' := fun id hid => hreflected id ((hchosen id).mpr hid)
    refine ⟨hvisited, hsound', hrevises.advances, ?_⟩
    refine hrevises.settled hmapping hdelta hsound.keyed hsound'.keyed ?_ hreflected'
    obtain ⟨id, hid⟩ := List.exists_mem_of_ne_nil chosen hsome
    exact ⟨id, (hchosen id).mp hid⟩

/-- Handling a settled delta only confirms what is there. -/
theorem handle_of_settled (h : workplace.Hosts session) (hpresent : delta.kind = .createOrUpdate)
    (hkeyed : (officeIn workplace s).entities.Keyed)
    (hsettled : session.mapping.Settled session.task.conflicts (officeIn workplace s).entities delta) :
    (session.handle delta s).1 = .ok () ∧ ∃ results, Reports workplace s (session.handle delta s).2 results ∧
      results ≠ [] ∧ ∀ result ∈ results, session.Confirms (officeIn workplace s).entities delta result := by
  obtain ⟨chosen, hok, ⟨hoffice, hresults⟩, hchosen, -⟩ := correlate_spec h hkeyed delta
  obtain ⟨⟨id, hid⟩, hreflected⟩ := hsettled
  have hmem := (hchosen id).mpr hid
  rw [handle_eq hpresent hok, if_neg (List.ne_nil_of_mem hmem), handleMatched_eq, if_pos h.mayUpdate]
  have hvisit : ∀ other ∈ chosen, ∀ s' : RunState σ, officeIn workplace s' = officeIn workplace s →
      (session.visit delta other s').1 = .ok () ∧
        ∃ results, Reports workplace s' (session.visit delta other s').2 results ∧ results ≠ [] ∧
          ∀ result ∈ results, session.Confirms (officeIn workplace s).entities delta result := by
    intro other hother s' hsame
    rw [← hsame] at hkeyed hreflected hchosen ⊢
    obtain ⟨hvisited, result, hconfirms, hreports⟩ :=
      visit_of_reflectedAt h.toFurnishes h.matching hkeyed (hreflected other ((hchosen other).mp hother))
    refine ⟨hvisited, [result], hreports, List.cons_ne_nil _ _, fun one hone => ?_⟩
    cases List.mem_singleton.mp hone
    exact hconfirms
  obtain ⟨hvisited, results, ⟨hoffice', hresults'⟩, hall, hsome⟩ :=
    forEach_reports hvisit (session.correlate delta s).2 hoffice
  refine ⟨hvisited, results, ⟨hoffice'.trans hoffice, ?_⟩, ?_, ?_⟩
  · rw [hresults', hresults, List.append_nil]
  · obtain ⟨result, hresult, -⟩ := hsome id hmem
    exact List.ne_nil_of_mem hresult
  · intro result hresult
    obtain ⟨-, -, hconfirms⟩ := hall result hresult
    exact hconfirms

end Session

end Reconciliation

end Provisioning
