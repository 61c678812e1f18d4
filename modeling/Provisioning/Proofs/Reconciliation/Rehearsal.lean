import Provisioning.Proofs.Reconciliation.HookFailures
import Provisioning.Proofs.Reconciliation.LocalEffect
set_option autoImplicit false

/-!
# Rehearsals

A run that only pretends foretells what the live run records.  The two go different ways in every action, and the live
one changes the repository between the matches of one delta.  But each match is another entity, so both read it as it
was, and what an action makes of an entity shows in the result only by the new id or the new name.
-/

namespace Provisioning

open Memory

variable {σ τ : Type} {office : Lens σ Office} {view : σ → τ}

namespace Reconciliation

/-! ## What is foretold -/

namespace Result

/-- Whether an entity was created. -/
def creates (result : Result) : Bool := result.operation == .create && result.status == .success

/-- The entity as it is shown with a result: one that was created has its id. -/
def shown (result : Result) (entity : Entity) : Entity :=
  if result.creates then { entity with id := result.id } else entity

/-- The result tells of an update by which an entity was renamed. -/
def Renames (before after : Entities) (name : String) (result : Result) : Prop :=
  result.operation = .update ∧ result.status = .success ∧
    (before.get? result.subjectType result.id).map Entity.name = some name ∧
      (after.get? result.subjectType result.id).map Entity.name = some result.name

/-- A result of a run that pretends foretells one of a live run.  A created entity has no id in it yet, and one that is
renamed its former name; all the rest is the same. -/
structure Foretells (before after : Entities) (pretended result : Result) : Prop where
  operation : pretended.operation = result.operation
  status : pretended.status = result.status
  subjectType : pretended.subjectType = result.subjectType
  message : pretended.message = result.message
  id : pretended.id = if result.creates then 0 else result.id
  name : pretended.name = result.name ∨ result.Renames before after pretended.name

/-- Two results that are the same up to the id of a new entity and the name of an updated one. -/
structure Resembles (pretended result : Result) : Prop where
  operation : pretended.operation = result.operation
  status : pretended.status = result.status
  subjectType : pretended.subjectType = result.subjectType
  message : pretended.message = result.message
  id : pretended.id = result.id ∨ result.creates = true ∧ pretended.id = 0
  name : pretended.name = result.name ∨ result.operation = .update

variable {before after after' : Entities} {pretended result : Result}

theorem Resembles.refl (result : Result) : result.Resembles result := ⟨rfl, rfl, rfl, rfl, .inl rfl, .inl rfl⟩

theorem Foretells.resembles (h : Foretells before after pretended result) : pretended.Resembles result := by
  refine ⟨h.operation, h.status, h.subjectType, h.message, ?_, h.name.imp_right fun hrenames => hrenames.1⟩
  have hid := h.id
  split at hid
  · exact .inr ⟨‹_›, hid⟩
  · exact .inl hid

/-- A result that is not that of a creation foretells itself. -/
theorem foretells_self (before after : Entities) (h : result.creates = false) : Foretells before after result result :=
  ⟨rfl, rfl, rfl, rfl, by rw [h]; rfl, .inl rfl⟩

theorem creates_failed (result : Result) (message : String) : (result.failed message).creates = false :=
  Bool.and_false _

/-- Only the entity of the result makes a difference. -/
theorem Foretells.congr {before' : Entities} (h : Foretells before after pretended result)
    (hbefore : before'.get? result.subjectType result.id = before.get? result.subjectType result.id)
    (hafter : after'.get? result.subjectType result.id = after.get? result.subjectType result.id) :
    Foretells before' after' pretended result := by
  refine ⟨h.operation, h.status, h.subjectType, h.message, h.id, h.name.imp_right fun hrenames => ?_⟩
  unfold Renames
  rw [hbefore, hafter]
  exact hrenames

end Result

/-! ## Hooks that behave the same in both runs -/

/-- Moments of a live run and of one that pretends.  What hooks go by is the same in their worlds, and what is recorded
so far resembles each other. -/
structure Concurrent (view : σ → τ) (s t : RunState σ) : Prop where
  world : Same view s.world t.world
  results : List.Forall₂ Result.Resembles t.results s.results

/-- Steps that change nothing of what hooks go by and record nothing. -/
theorem Concurrent.of_aside {s s' t t' : RunState σ} (h : Concurrent view s t)
    (hlive : (Frame.unchanged view).aside.Rel s s') (hdry : (Frame.unchanged view).aside.Rel t t') :
    Concurrent view s' t' := by
  refine ⟨hlive.1.trans (h.world.trans hdry.1.symm), ?_⟩
  rw [hlive.2.2, hdry.2.2]
  exact h.results

/-- An extension that behaves the same in a live session and in one that pretends: whatever it is asked, it answers the
same, and it leaves the same of what it goes by. -/
structure Hooks.Concurs (view : σ → τ) (live dry : Session σ) (hooks : Hooks σ) : Prop where
  beforeNew : ∀ (hook : NewHook) (delta : Delta) (entity : Entity) s t, Concurrent view s t →
    Alike (Same view) (hooks.beforeNew hook (live.profile s) delta entity)
      (hooks.beforeNew hook (dry.profile t) delta entity)
  beforeExisting : ∀ (hook : ExistingHook) (delta : Delta) (entity : Entity) s t, Concurrent view s t →
    Alike (Same view) (hooks.beforeExisting hook (live.profile s) delta entity)
      (hooks.beforeExisting hook (dry.profile t) delta entity)
  after : ∀ (delta : Delta) (entity : Entity) (pretended result : Result) s t, Concurrent view s t →
    pretended.Resembles result →
      Alike (Same view) (hooks.after (live.profile s) delta (result.shown entity) result)
        (hooks.after (dry.profile t) delta entity pretended)

/-- The session with other switches for pretending. -/
def Session.switched (session : Session σ) (engineDry taskDry : Bool) : Session σ :=
  { session with
    engine := { session.engine with dryRun := engineDry }
    task := { session.task with dryRun := taskDry } }

/-- A session over a workflow in memory that correlates by the account id, and with the switches the other way would
be attended by hooks that behave the same.  What these go by is nothing that the session itself changes. -/
structure Session.Rehearsed (office : Lens σ Office) (view : σ → τ) (engineDry taskDry : Bool)
    (session : Session σ) : Prop extends session.Entrusts office where
  correlation : session.engine.correlation = Correlation.byAccountId session.engine.repository
  unhooked : session.unhooked.Keeps (Frame.unchanged view)
  concurs : ∀ hooks ∈ session.engine.hooks, hooks.Concurs view session (session.switched engineDry taskDry)

namespace Session

variable {session : Session σ} {engineDry taskDry : Bool} {s t : RunState σ} {delta : Delta} {entity : Entity}

theorem Entrusts.switched (h : session.Entrusts office) (engineDry taskDry : Bool) :
    (session.switched engineDry taskDry).Entrusts office where
  stores := h.stores
  repository := h.repository
  workflow := h.workflow
  attends :=
    { registry := h.attends.registry
      audit := h.attends.audit
      notifications := h.attends.notifications
      find := h.attends.find
      correlation := h.attends.correlation
      hooks := h.attends.hooks
      connector := h.attends.connector }

theorem dryRun_switched (hdry : (engineDry || taskDry) = true) : (session.switched engineDry taskDry).dryRun = true :=
  hdry

/-- A result under the former name foretells the one under the name that the entity has afterwards. -/
theorem foretells_named {operation : Operation} {revise : Entity → Option Entity} {before after : Entities}
    (hget : before.get? session.task.subjectType entity.id = some entity)
    (hrevised : Entities.Revised session.task.subjectType [entity.id] revise before after) (hnew : operation ≠ .create)
    (hname : operation = .update ∨ ((revise entity).getD entity).name = entity.name) :
    Result.Foretells before after (session.result operation entity.id entity.name)
      (session.result operation entity.id ((revise entity).getD entity).name) where
  operation := rfl
  status := rfl
  subjectType := rfl
  message := rfl
  id := by simp only [Result.creates, result, beq_false_of_ne hnew, Bool.false_and, Bool.false_eq_true, if_false]
  name := by
    cases hmade : revise entity with
    | none => exact .inl rfl
    | some made =>
      rw [hmade] at hname
      refine hname.symm.imp Eq.symm fun hupdate => ⟨hupdate, rfl, ?_, ?_⟩
      · exact congrArg (Option.map Entity.name) hget
      · have hread := hrevised.reads session.task.subjectType entity.id
        rw [if_pos ⟨rfl, List.mem_singleton_self _⟩, hget, Option.bind_some, hmade] at hread
        exact congrArg (Option.map Entity.name) hread

/-- The measures of a session with other switches differ only in their actions. -/
theorem measure?_switched (session : Session σ) (engineDry taskDry : Bool) (entity : Entity) (subject : Subject) :
    match session.measure? entity subject with
    | none => (session.switched engineDry taskDry).measure? entity subject = none
    | some measure => ∃ act,
        (session.switched engineDry taskDry).measure? entity subject = some { measure with act } := by
  have hmatching : (session.switched engineDry taskDry).task.matching = session.task.matching := rfl
  cases subject with
  | unknown hook => rfl
  | gone id => exact ⟨_, rfl⟩
  | present id =>
    simp only [measure?, hmatching]
    cases session.task.matching
    case ignore => rfl
    all_goals exact ⟨_, rfl⟩

/-! ## Steps of both runs -/

theorem concurrent_onWorld {α : Type} {operation operation' : StateM σ α} (h : Alike (Same view) operation operation') :
    Alike (Concurrent view) (onWorld operation) (onWorld operation') := by
  intro s t hconcurrent
  obtain ⟨hanswer, hworld⟩ := h _ _ hconcurrent.world
  exact ⟨hanswer, hworld, hconcurrent.results⟩

/-- What a step of either run comes to: the same answer, moments that are concurrent, and what is recorded, pair by
pair. -/
structure Foreseen (view : σ → τ) (P : Result → Result → Prop) (s t : RunState σ)
    (live dry : Except SyncError Unit × RunState σ) : Prop where
  answer : dry.1 = live.1
  concurrent : Concurrent view live.2 dry.2
  recorded : ∃ new new', live.2.results = s.results ++ new ∧ dry.2.results = t.results ++ new' ∧
    List.Forall₂ P new' new

variable {P : Result → Result → Prop}

theorem Foreseen.of_nothing {answer : Except SyncError Unit} {s' t' : RunState σ} (h : Concurrent view s' t')
    (hlive : s'.results = s.results) (hdry : t'.results = t.results) :
    Foreseen view P s t (answer, s') (answer, t') :=
  ⟨rfl, h, [], [], by rw [List.append_nil, hlive], by rw [List.append_nil, hdry], .nil⟩

theorem Foreseen.imp {P' : Result → Result → Prop} {live dry : Except SyncError Unit × RunState σ}
    (h : Foreseen view P s t live dry) (hfits : ∀ pretended result, P pretended result → P' pretended result) :
    Foreseen view P' s t live dry := by
  obtain ⟨new, new', hnew, hnew', hpairs⟩ := h.recorded
  exact ⟨h.answer, h.concurrent, new, new', hnew, hnew', hpairs.imp hfits⟩

/-- What is recorded first comes before what is recorded later. -/
theorem Foreseen.trans {first first' live dry : Except SyncError Unit × RunState σ}
    (h : Foreseen view P s t first first') (h' : Foreseen view P first.2 first'.2 live dry) :
    Foreseen view P s t live dry := by
  obtain ⟨new, new', hnew, hnew', hpairs⟩ := h.recorded
  obtain ⟨later, later', hlater, hlater', hmore⟩ := h'.recorded
  refine ⟨h'.answer, h'.concurrent, new ++ later, new' ++ later', ?_, ?_, List.rel_append hpairs hmore⟩
  · rw [hlater, hnew, List.append_assoc]
  · rw [hlater', hnew', List.append_assoc]

/-- Steps that record nothing may come first. -/
theorem Foreseen.after_aside {s' t' : RunState σ} {live dry : Except SyncError Unit × RunState σ}
    (h : Foreseen view P s' t' live dry) (hlive : s'.results = s.results) (hdry : t'.results = t.results) :
    Foreseen view P s t live dry := by
  obtain ⟨new, new', hnew, hnew', hpairs⟩ := h.recorded
  exact ⟨h.answer, h.concurrent, new, new', hlive ▸ hnew, hdry ▸ hnew', hpairs⟩

section Steps

variable (h : session.Rehearsed office view engineDry taskDry)

include h

/-- The hooks before an action leave the same of a delta in both runs. -/
theorem Rehearsed.beforeExisting_concurs (hook : ExistingHook) (entity : Entity) (delta : Delta) :
    Alike (Concurrent view) (session.beforeExisting hook entity session.engine.hooks delta)
      ((session.switched engineDry taskDry).beforeExisting hook entity
        (session.switched engineDry taskDry).engine.hooks delta) :=
  alike_beforeExisting (List.forall₂_same.mpr fun hooks hmem delta s t hconcurrent =>
    concurrent_onWorld ((h.concurs hooks hmem).beforeExisting hook delta entity s t hconcurrent)) delta

theorem Rehearsed.beforeNew_concurs (hook : NewHook) (delta : Delta) (entity : Entity) :
    Alike (Concurrent view) (session.beforeNew hook session.engine.hooks delta entity)
      ((session.switched engineDry taskDry).beforeNew hook (session.switched engineDry taskDry).engine.hooks delta
        entity) :=
  alike_beforeNew (List.forall₂_same.mpr fun hooks hmem delta entity s t hconcurrent =>
    concurrent_onWorld ((h.concurs hooks hmem).beforeNew hook delta entity s t hconcurrent)) delta entity

theorem Rehearsed.runAfter_concurs {pretended result : Result} (hresembles : pretended.Resembles result) (delta : Delta)
    (entity : Entity) :
    Alike (Concurrent view) (session.runAfter delta (result.shown entity) result session.engine.hooks)
      ((session.switched engineDry taskDry).runAfter delta entity pretended
        (session.switched engineDry taskDry).engine.hooks) :=
  alike_runAfter (List.forall₂_same.mpr fun hooks hmem s t hconcurrent =>
    concurrent_onWorld ((h.concurs hooks hmem).after delta entity pretended result s t hconcurrent hresembles))

theorem record_concurrent (hconcurrent : Concurrent view s t) {pretended result : Result}
    (hresembles : pretended.Resembles result) :
    Concurrent view (session.record result s).2 ((session.switched engineDry taskDry).record pretended t).2 := by
  have hquiet : session.engine.Quiet (Frame.unchanged view) :=
    ⟨h.unhooked.registry, h.unhooked.audit, h.unhooked.notifications⟩
  have hquiet' : (session.switched engineDry taskDry).engine.Quiet (Frame.unchanged view) :=
    ⟨h.unhooked.registry, h.unhooked.audit, h.unhooked.notifications⟩
  have hlive := (keeps_record hquiet result s).1
  have hdry := (keeps_record hquiet' pretended t).1
  refine ⟨hlive.trans (hconcurrent.world.trans hdry.symm), ?_⟩
  rw [record_results, record_results]
  exact List.rel_append hconcurrent.results (.cons hresembles .nil)

/-- Recording a result in both runs. -/
theorem foreseen_record (hconcurrent : Concurrent view s t) {pretended result : Result}
    (hresembles : pretended.Resembles result) (hfits : P pretended result) (answer : Except SyncError Unit) :
    Foreseen view P s t (answer, (session.record result s).2)
      (answer, ((session.switched engineDry taskDry).record pretended t).2) :=
  ⟨rfl, record_concurrent h hconcurrent hresembles, [result], [pretended], record_results _ _ _, record_results _ _ _,
    .cons hfits .nil⟩

/-- A hook before an action failed. -/
theorem foreseen_hookFailed (hconcurrent : Concurrent view s t) (error : SyncError) {base : Result}
    (hfits : ∀ message, P (base.failed message) (base.failed message)) :
    Foreseen view P s t (session.hookFailed error base s)
      ((session.switched engineDry taskDry).hookFailed error base t) := by
  have hscope : (session.switched engineDry taskDry).task.hookScope = session.task.hookScope := rfl
  unfold hookFailed
  rw [hscope]
  cases session.task.hookScope with
  | run => exact .of_nothing hconcurrent rfl rfl
  | delta => exact foreseen_record h hconcurrent (.refl _) (hfits _) (.ok ())

/-- Finishing an action in both runs. -/
theorem foreseen_finish (hconcurrent : Concurrent view s t) {pretended result : Result}
    (hresembles : pretended.Resembles result) (hfits : P pretended result) (delta : Delta) {entity shown : Entity}
    (hshown : result.shown entity = shown) :
    Foreseen view P s t (session.finish delta shown result s)
      ((session.switched engineDry taskDry).finish delta entity pretended t) := by
  subst hshown
  have hscope : (session.switched engineDry taskDry).task.hookScope = session.task.hookScope := rfl
  obtain ⟨hanswer, hafter⟩ := h.runAfter_concurs hresembles delta entity s t hconcurrent
  have hlive := session.runAfter_results delta (result.shown entity) result s
  have hdry := (session.switched engineDry taskDry).runAfter_results delta entity pretended t
  simp only [finish, bind_apply, hscope, hanswer] at hlive hdry ⊢
  generalize session.runAfter delta (result.shown entity) result session.engine.hooks s = called at hafter hlive ⊢
  generalize (session.switched engineDry taskDry).runAfter delta entity pretended
    (session.switched engineDry taskDry).engine.hooks t = called' at hafter hdry ⊢
  refine Foreseen.after_aside ?_ hlive hdry
  obtain ⟨answer, s'⟩ := called
  obtain ⟨answer', t'⟩ := called'
  cases answer' <;> cases session.task.hookScope <;> exact foreseen_record h hafter hresembles hfits _

/-- What the rehearsal of a known entity comes to: the entity is revised, and what is recorded of it is foretold. -/
structure Staged (office : Lens σ Office) (view : σ → τ) (session : Session σ) (id : Nat) (s t : RunState σ)
    (live dry : Except SyncError Unit × RunState σ) : Prop where
  revised : ∃ revise : Entity → Option Entity,
    (∀ entity made, revise entity = some made → made.id = entity.id ∧ made.subjectType = entity.subjectType) ∧
      Entities.Revised session.task.subjectType [id] revise (office.get s.world).entities
        (office.get live.2.world).entities
  foreseen : Foreseen view (fun pretended result =>
    (result.subjectType = session.task.subjectType ∧ result.id = id) ∧
      Result.Foretells (office.get s.world).entities (office.get live.2.world).entities pretended result) s t live dry

omit h in
theorem Staged.after_aside {id : Nat} {s' t' : RunState σ} {live dry : Except SyncError Unit × RunState σ}
    (hstaged : Staged office view session id s' t' live dry) (hoffice : office.get s'.world = office.get s.world)
    (hlive : s'.results = s.results) (hdry : t'.results = t.results) :
    Staged office view session id s t live dry := by
  obtain ⟨hrevised, hforeseen⟩ := hstaged
  rw [hoffice] at hrevised hforeseen
  exact ⟨hrevised, hforeseen.after_aside hlive hdry⟩

omit h in
/-- Nothing else is touched. -/
theorem Staged.elsewhere {id : Nat} {live dry : Except SyncError Unit × RunState σ}
    (hstaged : Staged office view session id s t live dry) {u : SubjectType} {other : Nat}
    (hother : ¬(u = session.task.subjectType ∧ other = id)) :
    (office.get live.2.world).entities.get? u other = (office.get s.world).entities.get? u other := by
  obtain ⟨⟨revise, -, hrevised⟩, -⟩ := hstaged
  exact hrevised.elsewhere fun hmem => hother ⟨hmem.1, List.mem_singleton.mp hmem.2⟩

omit h in
/-- What is recorded is about no other entity, so only this one makes a difference to what is foretold. -/
theorem Staged.foretold {id : Nat} {live dry : Except SyncError Unit × RunState σ}
    (hstaged : Staged office view session id s t live dry) {before after : Entities}
    (hbefore : before.get? session.task.subjectType id =
      (office.get s.world).entities.get? session.task.subjectType id)
    (hafter : after.get? session.task.subjectType id =
      (office.get live.2.world).entities.get? session.task.subjectType id) :
    Foreseen view (Result.Foretells before after) s t live dry := by
  refine hstaged.foreseen.imp fun pretended result hfits => ?_
  obtain ⟨⟨htype, hid⟩, hforetells⟩ := hfits
  exact hforetells.congr (by rw [htype, hid, hbefore]) (by rw [htype, hid, hafter])

theorem staged_actOn (hlive : session.dryRun = false) (hdry : (engineDry || taskDry) = true)
    (hconcurrent : Concurrent view s t) {subject : Subject} (hid : subject.id? = some entity.id) {measure : Measure σ}
    (hmeasure : session.measure? entity subject = some measure) (act' : Delta → Step σ (Option Result)) (delta : Delta)
    (hkeyed : (office.get s.world).entities.Keyed)
    (hget : (office.get s.world).entities.get? session.task.subjectType entity.id = some entity)
    (hunrefused : (office.get s.world).Unrefused
      (office.get (session.actOn measure.hook measure.base delta entity measure.act s).2.world)) :
    Staged office view session entity.id s t (session.actOn measure.hook measure.base delta entity measure.act s)
      ((session.switched engineDry taskDry).actOn measure.hook measure.base delta entity act' t) := by
  obtain ⟨operation, hbase, hnew, hname⟩ := base_of_measure hid hmeasure
  obtain ⟨hanswer, hafter⟩ := h.beforeExisting_concurs measure.hook entity delta s t hconcurrent
  have hoffice := h.office_beforeExisting measure.hook entity delta s
  have hresults := session.beforeExisting_results measure.hook entity delta s
  have hresults' := (session.switched engineDry taskDry).beforeExisting_results measure.hook entity delta t
  cases hbefore : (session.beforeExisting measure.hook entity session.engine.hooks delta s).1 with
  | error error =>
    have hbefore' := hanswer.symm.trans hbefore
    rw [actOn_of_error hbefore, actOn_of_error hbefore']
    refine ⟨⟨some, ?_, ?_⟩, ?_⟩
    · rintro _ _ ⟨⟩
      exact ⟨rfl, rfl⟩
    · rw [h.office_hookFailed, hoffice]
      exact .of_unchanged fun _ _ => Option.bind_fun_some _
    · refine (foreseen_hookFailed h hafter error fun message => ?_).after_aside hresults hresults'
      rw [hbase]
      exact ⟨⟨rfl, rfl⟩, Result.foretells_self _ _ (Result.creates_failed _ _)⟩
  | ok delta' =>
    have hbefore' := hanswer.symm.trans hbefore
    rw [h.office_actOn hlive hbefore] at hunrefused
    rw [actOn_of_live hlive hbefore, actOn_of_dry (dryRun_switched hdry) hbefore']
    generalize session.beforeExisting measure.hook entity session.engine.hooks delta s = called at *
    generalize (session.switched engineDry taskDry).beforeExisting measure.hook entity
      (session.switched engineDry taskDry).engine.hooks delta t = called' at *
    have hcarried := measure_carriesOut h.toEntrusts hid hmeasure delta' called.2
    have haside : (Frame.unchanged view).aside.Rel called.2 (measure.act delta' called.2).2 :=
      keeps_measure h.unhooked hmeasure delta' called.2
    rw [hoffice] at hcarried
    obtain ⟨hresult, hrevised⟩ := hcarried hkeyed hget hunrefused
    have hnamed := foretells_named hget hrevised hnew (hname.imp_right fun hsame => hsame delta')
    rw [hbase] at hresult ⊢
    simp only [hresult]
    refine ⟨⟨session.revision delta' subject, fun _ _ => revision_key, ?_⟩, ?_⟩
    · rw [h.office_finish]
      exact hrevised
    · rw [h.office_finish]
      have hconcurrent' := hafter.of_aside haside ((Frame.unchanged view).aside.refl _)
      have hshown : (session.result operation entity.id
          ((session.revision delta' subject entity).getD entity).name).shown entity = entity := by
        simp only [Result.shown, Result.creates, result, beq_false_of_ne hnew, Bool.false_and, Bool.false_eq_true,
          if_false]
      exact (foreseen_finish h hconcurrent' hnamed.resembles ⟨⟨rfl, rfl⟩, hnamed⟩ delta' hshown).after_aside
        (haside.2.2.trans hresults) hresults'

theorem staged_treat (hlive : session.dryRun = false) (hdry : (engineDry || taskDry) = true)
    (hconcurrent : Concurrent view s t) {subject : Subject} (hid : subject.id? = some entity.id) (delta : Delta)
    (hkeyed : (office.get s.world).entities.Keyed)
    (hget : (office.get s.world).entities.get? session.task.subjectType entity.id = some entity)
    (hunrefused : (office.get s.world).Unrefused (office.get (session.treat delta subject entity s).2.world)) :
    Staged office view session entity.id s t (session.treat delta subject entity s)
      ((session.switched engineDry taskDry).treat delta subject entity t) := by
  have hswitched := measure?_switched session engineDry taskDry entity subject
  cases hmeasure : session.measure? entity subject with
  | some measure =>
    rw [hmeasure] at hswitched
    obtain ⟨act', hmeasure'⟩ := hswitched
    rw [treat_of_some hmeasure] at hunrefused ⊢
    rw [treat_of_some hmeasure']
    exact staged_actOn h hlive hdry hconcurrent hid hmeasure act' delta hkeyed hget hunrefused
  | none =>
    rw [hmeasure] at hswitched
    rw [treat_of_none hmeasure, treat_of_none hswitched]
    refine ⟨⟨some, ?_, ?_⟩, ?_⟩
    · rintro _ _ ⟨⟩
      exact ⟨rfl, rfl⟩
    · rw [h.office_record]
      exact .of_unchanged fun _ _ => Option.bind_fun_some _
    · exact foreseen_record h hconcurrent (.refl _) ⟨⟨rfl, rfl⟩, Result.foretells_self _ _ rfl⟩ _

/-- Meeting a known entity that is the same in both repositories. -/
theorem staged_meet (hlive : session.dryRun = false) (hdry : (engineDry || taskDry) = true)
    (hconcurrent : Concurrent view s t) {subject : Subject} {id : Nat} (hid : subject.id? = some id) (delta : Delta)
    (hkeyed : (office.get s.world).entities.Keyed)
    (hsame : (office.get t.world).entities.get? session.task.subjectType id =
      (office.get s.world).entities.get? session.task.subjectType id)
    (hunrefused : (office.get s.world).Unrefused (office.get (session.meet delta subject s).2.world)) :
    Staged office view session id s t (session.meet delta subject s)
      ((session.switched engineDry taskDry).meet delta subject t) := by
  obtain ⟨hfound, hoffice⟩ := h.load_spec id s
  obtain ⟨hfound', hoffice'⟩ := (h.switched engineDry taskDry).load_spec id t
  have haside : (Frame.unchanged view).aside.Rel s (session.load id s).2 := keeps_load h.unhooked.attends id s
  have haside' : (Frame.unchanged view).aside.Rel t ((session.switched engineDry taskDry).load id t).2 :=
    keeps_load h.unhooked.attends id t
  have hread := hfound'.trans hsame
  rw [meet_eq_treat session hid, hfound] at hunrefused ⊢
  rw [meet_eq_treat _ hid, hread]
  cases hget : (office.get s.world).entities.get? session.task.subjectType id with
  | none =>
    refine ⟨⟨some, ?_, ?_⟩, .of_nothing (hconcurrent.of_aside haside haside') haside.2.2 haside'.2.2⟩
    · rintro _ _ ⟨⟩
      exact ⟨rfl, rfl⟩
    · rw [hoffice]
      exact .of_unchanged fun _ _ => Option.bind_fun_some _
  | some entity =>
    rw [hget] at hunrefused
    obtain ⟨-, rfl, -⟩ := hkeyed _ _ _ hget
    rw [← hoffice] at hkeyed hget hunrefused
    exact (staged_treat h hlive hdry (hconcurrent.of_aside haside haside') hid delta hkeyed hget hunrefused).after_aside
      hoffice haside.2.2 haside'.2.2

/-- Meeting known entities one after the other.  When its turn comes, each of them is as it was in both
repositories, because no two are the same. -/
theorem foreseen_forEach_meet (hlive : session.dryRun = false) (hdry : (engineDry || taskDry) = true)
    (hconcurrent : Concurrent view s t) (delta : Delta) {subject : Nat → Subject}
    (hid : ∀ id, (subject id).id? = some id) {ids : List Nat} (hdistinct : ids.Nodup)
    (hkeyed : (office.get s.world).entities.Keyed)
    (hsame : ∀ id ∈ ids, (office.get t.world).entities.get? session.task.subjectType id =
      (office.get s.world).entities.get? session.task.subjectType id)
    (hunrefused : (office.get s.world).Unrefused
      (office.get (forEach (session.meet delta) (ids.map subject) s).2.world)) :
    let live := forEach (session.meet delta) (ids.map subject) s
    let dry := forEach ((session.switched engineDry taskDry).meet delta) (ids.map subject) t
    (∀ u id, ¬(u = session.task.subjectType ∧ id ∈ ids) →
        (office.get live.2.world).entities.get? u id = (office.get s.world).entities.get? u id) ∧
      Foreseen view (Result.Foretells (office.get t.world).entities (office.get live.2.world).entities) s t live
        dry := by
  induction ids generalizing s t with
  | nil => exact ⟨fun _ _ _ => rfl, .of_nothing hconcurrent rfl rfl⟩
  | cons id rest ih =>
    obtain ⟨hnew, hrest⟩ := List.nodup_cons.mp hdistinct
    have hoffice' : office.get ((session.switched engineDry taskDry).meet delta (subject id) t).2.world =
        office.get t.world := by
      obtain hsame | ⟨hlive', -⟩ := (h.switched engineDry taskDry).office_meet (hid id) delta t
      · exact hsame
      · cases (dryRun_switched hdry).symm.trans hlive'
    have hmemSame := hsame id List.mem_cons_self
    have hfirst := h.asking_meet (hid id) delta s
    have hlater := h.asking_forEach_meet hid delta rest (session.meet delta (subject id) s).2
    have hstage := staged_meet h hlive hdry hconcurrent (hid id) delta hkeyed hmemSame
    simp only [List.map_cons, forEach, Effect.andThen_apply] at hunrefused ⊢
    generalize session.meet delta (subject id) s = met at *
    generalize (session.switched engineDry taskDry).meet delta (subject id) t = met' at *
    obtain ⟨answer, s'⟩ := met
    obtain ⟨answer', t'⟩ := met'
    cases answer with
    | error error =>
      have hstaged := hstage hunrefused
      obtain rfl : answer' = .error error := hstaged.foreseen.answer
      refine ⟨fun u other hother => hstaged.elsewhere fun hsame => hother ⟨hsame.1, ?_⟩, hstaged.foretold hmemSame rfl⟩
      exact List.mem_cons.mpr (.inl hsame.2)
    | ok _ =>
      obtain ⟨hunrefused, hunrefused'⟩ := hunrefused.split hfirst hlater
      have hstaged := hstage hunrefused
      obtain rfl : answer' = .ok () := hstaged.foreseen.answer
      have hkept : ∀ other ∈ rest, (office.get t'.world).entities.get? session.task.subjectType other =
          (office.get s'.world).entities.get? session.task.subjectType other := by
        intro other hother
        rw [hoffice', hsame other (List.mem_cons_of_mem _ hother)]
        exact (hstaged.elsewhere fun hmem => hnew (hmem.2 ▸ hother)).symm
      obtain ⟨revise, hkey, hrevised⟩ := hstaged.revised
      obtain ⟨hframe, hrestForeseen⟩ :=
        ih hstaged.foreseen.concurrent hrest (hrevised.keyed hkeyed hkey) hkept hunrefused'
      rw [hoffice'] at hrestForeseen
      refine ⟨fun u other hother => ?_, (hstaged.foretold hmemSame ?_).trans hrestForeseen⟩
      · rw [hframe u other fun hmem => hother ⟨hmem.1, List.mem_cons_of_mem _ hmem.2⟩]
        exact hstaged.elsewhere fun hmem => hother ⟨hmem.1, List.mem_cons.mpr (.inl hmem.2)⟩
      · exact hframe _ _ fun hmem => hnew hmem.2

/-- Meeting an object that matches no entity: the one that is created for it has no id in a run that pretends. -/
theorem foreseen_create (hlive : session.dryRun = false) (hdry : (engineDry || taskDry) = true)
    (hconcurrent : Concurrent view s t) (hook : NewHook) (delta : Delta) (before after : Entities)
    (hunrefused : (office.get s.world).Unrefused (office.get (session.create hook delta s).2.world)) :
    Foreseen view (Result.Foretells before after) s t (session.create hook delta s)
      ((session.switched engineDry taskDry).create hook delta t) := by
  obtain ⟨hanswer, hafter⟩ := h.beforeNew_concurs hook delta (session.newEntity hook delta) s t hconcurrent
  have hresults := session.beforeNew_results hook delta (session.newEntity hook delta) s
  have hresults' := (session.switched engineDry taskDry).beforeNew_results hook delta (session.newEntity hook delta) t
  cases hbefore : (session.beforeNew hook session.engine.hooks delta (session.newEntity hook delta) s).1 with
  | mk answer entity =>
    have hbefore' := hanswer.symm.trans hbefore
    cases answer with
    | error error =>
      rw [create_of_error hbefore, create_of_error hbefore']
      refine (foreseen_hookFailed h hafter error fun message => ?_).after_aside hresults hresults'
      exact Result.foretells_self _ _ (Result.creates_failed _ _)
    | ok delta' =>
      rw [h.office_create hlive hbefore] at hunrefused
      obtain ⟨id, hcreate⟩ :=
        h.create_of_granted hlive hbefore (hunrefused.willing (Office.asked_create entity _))
      rw [hcreate, create_of_dry (dryRun_switched hdry) hbefore']
      generalize (session.beforeNew hook session.engine.hooks delta (session.newEntity hook delta) s).2 = passed at *
      have hsent := (Frame.unchanged view).aside.trans (keeps_onWorld (h.unhooked.create entity) passed)
        (keeps_propagate h.unhooked.toQuiet
          (Propagation.createTasks session.engine.registry { entity with id } (session.excludedFor hook)) _)
      have hforetold : Result.Foretells before after (session.result .create 0 entity.name)
          (session.result .create id entity.name) := ⟨rfl, rfl, rfl, rfl, rfl, .inl rfl⟩
      exact (foreseen_finish h (hafter.of_aside hsent ((Frame.unchanged view).aside.refl _)) hforetold.resembles
        hforetold delta' rfl).after_aside (hsent.2.2.trans hresults) hresults'

/-! ## Deltas -/

/-- No two of the ids that a delta is correlated to are the same. -/
theorem Rehearsed.correlate_nodup (hkeyed : (office.get s.world).entities.Keyed) {ids : List Nat}
    (hids : (session.correlate delta s).1 = .ok ids) : ids.Nodup := by
  simp only [correlate, bind_apply, onWorld_apply, h.correlation, h.repository] at hids
  have hascending :=
    hkeyed.search_ascending session.mapping.subjectType (session.mapping.accountCondition delta)
  exact (hascending.imp Nat.ne_of_lt).sublist (ConflictPolicy.sublist_of_resolve hids)

/-- Meeting what a delta is correlated to. -/
theorem foreseen_subjects (hlive : session.dryRun = false) (hdry : (engineDry || taskDry) = true)
    (hconcurrent : Concurrent view s s) (delta : Delta) {ids : List Nat} (hdistinct : ids.Nodup)
    (hkeyed : (office.get s.world).entities.Keyed)
    (hunrefused : (office.get s.world).Unrefused
      (office.get (forEach (session.meet delta) (session.subjects delta ids) s).2.world)) :
    let live := forEach (session.meet delta) (session.subjects delta ids) s
    let dry := forEach ((session.switched engineDry taskDry).meet delta) (session.subjects delta ids) s
    Foreseen view (Result.Foretells (office.get s.world).entities (office.get live.2.world).entities) s s live dry := by
  obtain hnone | ⟨hook, hnew⟩ | ⟨subject, hid, hknown⟩ := session.subjects_cases delta ids
  · rw [hnone]
    exact .of_nothing hconcurrent rfl rfl
  · rw [hnew, forEach_singleton] at hunrefused
    rw [hnew, forEach_singleton, forEach_singleton]
    exact foreseen_create h hlive hdry hconcurrent hook delta _ _ hunrefused
  · rw [hknown] at hunrefused ⊢
    exact (foreseen_forEach_meet h hlive hdry hconcurrent delta hid hdistinct hkeyed (fun _ _ => rfl) hunrefused).2

/-- A run that pretends foretells the live one: if no request of that is refused, both handle a delta with the same
answer, and what they record is the same, pair by pair, but for the ids of created entities and the names of those that
an update renames. -/
theorem handle_foretold (hlive : session.dryRun = false) (hdry : (engineDry || taskDry) = true) (delta : Delta)
    (s : RunState σ) (hkeyed : (office.get s.world).entities.Keyed)
    (hunrefused : (office.get s.world).Unrefused (office.get (session.handle delta s).2.world)) :
    let live := session.handle delta s
    let dry := (session.switched engineDry taskDry).handle delta s
    dry.1 = live.1 ∧ (∀ error, live.1 = .error error → ∃ hook detail, error = .hook hook detail) ∧
      ∃ new new', live.2.results = s.results ++ new ∧ dry.2.results = s.results ++ new' ∧
        List.Forall₂ (Result.Foretells (office.get s.world).entities (office.get live.2.world).entities) new' new := by
  intro live dry
  suffices hforeseen : Foreseen view
      (Result.Foretells (office.get s.world).entities (office.get live.2.world).entities) s s live dry from
    ⟨hforeseen.answer, fun _ => hook_of_handle_error, hforeseen.recorded⟩
  have hcorrelate : (session.switched engineDry taskDry).correlate delta = session.correlate delta := rfl
  have hsubjects : (session.switched engineDry taskDry).subjects delta = session.subjects delta := rfl
  have hoffice := h.office_correlate delta s
  have hresults : (session.correlate delta s).2.results = s.results := (keeps_correlate h.unhooked.attends delta s).2.2
  have hdistinct : ∀ ids, (session.correlate delta s).1 = .ok ids → ids.Nodup := fun _ => h.correlate_nodup hkeyed
  have hsame : ∀ moment : RunState σ, Concurrent view moment moment :=
    fun _ => ⟨rfl, List.forall₂_same.mpr fun result _ => .refl result⟩
  simp only [live, dry, handle_eq_forEach_meet, hcorrelate, hsubjects] at hunrefused ⊢
  rw [← hoffice] at hkeyed hunrefused ⊢
  generalize session.correlate delta s = correlated at *
  obtain ⟨answer, s'⟩ := correlated
  cases answer with
  | error error => exact .of_nothing (hsame s') hresults hresults
  | ok ids =>
    exact (foreseen_subjects h hlive hdry (hsame s') delta (hdistinct ids rfl) hkeyed hunrefused).after_aside
      hresults hresults

end Steps

end Session

end Reconciliation

end Provisioning

/-! ## A rename that is rehearsed -/

namespace Provisioning.Memory.Premises

open Reconciliation

theorem bystander_concurs {τ : Type} (view : Premises → τ) (live dry : Session Premises) :
    bystander.Concurs view live dry where
  beforeNew _ delta entity _ _ _ := alike_pure (Except.ok delta, entity)
  beforeExisting _ delta _ _ _ _ := alike_ok delta
  after _ _ _ _ _ _ _ _ := alike_ok ()

theorem overseen_rehearsed : overseen.Rehearsed officeLens tokens true false where
  toEntrusts := overseen_entrusts
  correlation := rfl
  unhooked := by
    have hconnector : plainConnector.Keeps (Frame.unchanged tokens) :=
      (Directory.connector "directory" "uid").keeps_anything.within fun _ _ _ => rfl
    exact ⟨engine_keeps (registry_keeps hconnector) fun _ _ _ => rfl, hconnector⟩
  concurs := List.forall_mem_singleton.mpr (bystander_concurs _ _ _)

/-- The rename of an account is foretold under the name that the user still has. -/
theorem rename_foretold :
    let live := overseen.handle rename { world := staff }
    let dry := (overseen.switched true false).handle rename { world := staff }
    dry.1 = live.1 ∧ dry.2.results.map Result.name = ["ada"] ∧ live.2.results.map Result.name = ["eve"] ∧
      List.Forall₂ (Result.Foretells staff.office.entities live.2.world.office.entities) dry.2.results
        live.2.results := by
  intro live dry
  obtain ⟨hanswer, -, new, new', hnew, hnew', hpairs⟩ :=
    Session.handle_foretold overseen_rehearsed rfl rfl rename { world := staff } staff_sound.keyed
      (.inl staff_sound.willing)
  rw [List.nil_append] at hnew hnew'
  rw [← hnew, ← hnew'] at hpairs
  exact ⟨hanswer, by decide +kernel, by decide +kernel, hpairs⟩

end Provisioning.Memory.Premises
