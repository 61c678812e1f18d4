import Provisioning.Proofs.Reconciliation.Encounters
import Provisioning.Proofs.Reconciliation.Idempotence
import Provisioning.Proofs.Reconciliation.Twin
set_option autoImplicit false

/-!
# Requests and results

The workflow is asked at most once in an encounter, and what it answers decides what the encounter records: a
granted request is a success, a refused one a failure with the text of the error, and one that only skips the
entity is nothing.  A success without a request stands for an action that needs none.  So the results of a run
follow the requests that it has made, one by one and in their order, wherever hooks, reads or requests fail.
-/

namespace Provisioning

open Reconciliation

variable {σ : Type}

/-! ## What the workflow was asked and answered -/

namespace Workflow

/-- A request together with what the workflow answered. -/
structure Reply where
  request : Request
  answer : Except SyncError WorkflowReport

/-- Every request is noted in a journal with its answer. -/
structure Notes (journal : σ → List Reply) (workflow : Workflow σ) : Prop where
  create : ∀ (entity : Entity) (s : σ),
    journal (workflow.create entity s).2 = journal s ++ [⟨.create entity, (workflow.create entity s).1⟩]
  update : ∀ (t : SubjectType) (id : Nat) (patch : Patch) (s : σ),
    journal (workflow.update t id patch s).2 =
      journal s ++ [⟨.update t id patch, (workflow.update t id patch s).1⟩]
  delete : ∀ (t : SubjectType) (id : Nat) (s : σ),
    journal (workflow.delete t id s).2 = journal s ++ [⟨.delete t id, (workflow.delete t id s).1⟩]

/-- Note a request with its answer. -/
def noting (journal : Lens σ (List Reply)) (request : Request) (ask : Effect σ SyncError WorkflowReport) :
    Effect σ SyncError WorkflowReport := fun s =>
  let answered := ask s
  (answered.1, journal.set (journal.get answered.2 ++ [⟨request, answered.1⟩]) answered.2)

/-- A workflow that keeps a journal. -/
def journaled (journal : Lens σ (List Reply)) (workflow : Workflow σ) : Workflow σ where
  create entity := noting journal (.create entity) (workflow.create entity)
  update t id patch := noting journal (.update t id patch) (workflow.update t id patch)
  delete t id := noting journal (.delete t id) (workflow.delete t id)

theorem noting_journal {journal : Lens σ (List Reply)} (hjournal : journal.Stores) (request : Request)
    {ask : Effect σ SyncError WorkflowReport} (hask : (Frame.unchanged journal.get).Keeps ask) (s : σ) :
    journal.get (noting journal request ask s).2 = journal.get s ++ [⟨request, (noting journal request ask s).1⟩] := by
  have hsame : journal.get (ask s).2 = journal.get s := hask s
  simp only [noting, hjournal _ _, hsame]

/-- Any workflow that does not touch the journal by itself can keep it. -/
theorem journaled_notes {journal : Lens σ (List Reply)} (hjournal : journal.Stores) {workflow : Workflow σ}
    (hcreate : ∀ entity, (Frame.unchanged journal.get).Keeps (workflow.create entity))
    (hupdate : ∀ t id patch, (Frame.unchanged journal.get).Keeps (workflow.update t id patch))
    (hdelete : ∀ t id, (Frame.unchanged journal.get).Keeps (workflow.delete t id)) :
    (workflow.journaled journal).Notes journal.get where
  create entity := noting_journal hjournal (.create entity) (hcreate entity)
  update t id patch := noting_journal hjournal (.update t id patch) (hupdate t id patch)
  delete t id := noting_journal hjournal (.delete t id) (hdelete t id)

/-- The result of a granted request is about the entity that the workflow reports, or, if only a link was changed,
about the entity that was asked for. -/
def Request.Grants (result : Result) (report : WorkflowReport) : Request → Prop
  | .create _ => result.operation = .create ∧ result.id = report.id ∧ result.name = report.name
  | .update t id _ => result.subjectType = t ∧
      match result.operation with
      | .update => result.id = report.id ∧ result.name = report.name
      | _ => result.id = id
  | .delete t id => result.operation = .delete ∧ result.subjectType = t ∧ result.id = id

/-- The result of a refused request is about the entity that was asked for. -/
def Request.Refuses (result : Result) : Request → Prop
  | .create entity => result.operation = .create ∧ result.id = 0 ∧ result.name = entity.name
  | .update t id _ => result.subjectType = t ∧ result.id = id
  | .delete t id => result.operation = .delete ∧ result.subjectType = t ∧ result.id = id

/-- What is recorded for a request: one success if it was granted, nothing if its error only skips the entity, and
one failure with the text of any other error. -/
def Reply.Reported (reply : Reply) (results : List Result) : Prop :=
  match reply.answer with
  | .ok report => ∃ result, results = [result] ∧ result.status = .success ∧ reply.request.Grants result report
  | .error error =>
    if error.isSkippable then results = []
    else ∃ result, results = [result] ∧ result.status = .failure ∧ result.message = some error.message ∧
      reply.request.Refuses result

end Workflow

open Workflow

namespace Reconciliation

/-- Every request of the engine is noted in a journal with its answer, and nothing else touches the journal. -/
structure Engine.Journals (journal : σ → List Reply) (engine : Engine σ) : Prop extends
    engine.Attends (Frame.unchanged journal), engine.workflow.Notes journal where
  load : ∀ task, (Frame.unchanged journal).Keeps (engine.tokens.load task)
  store : ∀ task token, (Frame.unchanged journal).Keeps (engine.tokens.store task token)

/-- Every request of the session is noted in a journal with its answer, and nothing else touches the journal. -/
structure Session.Journals (journal : σ → List Reply) (session : Session σ) : Prop extends
    session.engine.Journals journal where
  connector : session.resource.connector.Keeps (Frame.unchanged journal)

variable {journal : σ → List Reply}

theorem Session.Journals.attends {session : Session σ} (h : session.Journals journal) :
    session.Attends (Frame.unchanged journal) := ⟨h.toAttends, h.connector⟩

/-- A step appends some replies to the journal and some results to those of the run. -/
structure Books (journal : σ → List Reply) (s t : RunState σ) (replies : List Reply) (results : List Result) :
    Prop where
  replies : journal t.world = journal s.world ++ replies
  results : t.results = s.results ++ results

namespace Books

variable {s t u : RunState σ} {replies replies' : List Reply} {results results' : List Result}

theorem of_aside (h : (Frame.unchanged journal).aside.Rel s t) : Books journal s t [] [] :=
  ⟨h.1.trans (List.append_nil _).symm, h.2.2.trans (List.append_nil _).symm⟩

theorem trans (h : Books journal s t replies results) (h' : Books journal t u replies' results') :
    Books journal s u (replies ++ replies') (results ++ results') := by
  refine ⟨?_, ?_⟩
  · rw [h'.replies, h.replies, List.append_assoc]
  · rw [h'.results, h.results, List.append_assoc]

theorem after_aside (haside : (Frame.unchanged journal).aside.Rel s t) (h : Books journal t u replies results) :
    Books journal s u replies results :=
  (of_aside haside).trans h

theorem before_aside (h : Books journal s t replies results) (haside : (Frame.unchanged journal).aside.Rel t u) :
    Books journal s u replies results := by
  have hboth := h.trans (of_aside haside)
  rwa [List.append_nil, List.append_nil] at hboth

end Books

namespace Session

variable {session : Session σ} {delta : Delta} {entity : Entity} {base : Result} {s : RunState σ}

/-! ## Recording -/

theorem record_books (h : session.Journals journal) (result : Result) (s : RunState σ) :
    Books journal s (session.record result s).2 [] [result] :=
  ⟨(keeps_record h.toQuiet result s).1.trans (List.append_nil _).symm, session.record_results result s⟩

theorem finish_books (h : session.Journals journal) (delta : Delta) (entity : Entity) (result : Result)
    (s : RunState σ) : Books journal s (session.finish delta entity result s).2 [] [result] := by
  have hafter := keeps_runAfter h.connector delta entity result session.engine.hooks h.hooks s
  have hrecord := record_books h result (session.runAfter delta entity result session.engine.hooks s).2
  simp only [finish, bind_apply]
  cases (session.runAfter delta entity result session.engine.hooks s).1 with
  | none => exact hrecord.after_aside hafter
  | some error => cases session.task.hookScope <;> exact hrecord.after_aside hafter

/-- A hook that fails before an action leads to one failure, unless it aborts the run. -/
theorem hookFailed_books (h : session.Journals journal) (error : SyncError) (base : Result) (s : RunState σ) :
    ∃ results, Books journal s (session.hookFailed error base s).2 [] results ∧
      (results = [] ∨ results = [base.failed error.message]) := by
  simp only [hookFailed]
  cases session.task.hookScope with
  | run => exact ⟨[], .of_aside ((Frame.unchanged journal).aside.refl s), .inl rfl⟩
  | delta => exact ⟨_, record_books h (base.failed error.message) s, .inr rfl⟩

/-! ## Actions on existing entities -/

/-- What is noted and recorded by an action. -/
theorem actOn_books {P : List Reply → List Result → Prop} (h : session.Journals journal)
    (hlive : session.dryRun = false) (hook : ExistingHook) {act : Delta → Step σ (Option Result)}
    (hfailed : ∀ message, P [] [base.failed message]) (hnothing : P [] [])
    (hact : ∀ delta', (session.beforeExisting hook entity session.engine.hooks delta s).1 = .ok delta' →
      ∀ s', ∃ replies, Books journal s' (act delta' s').2 replies [] ∧ P replies (act delta' s').1.toList) :
    ∃ replies results, Books journal s (session.actOn hook base delta entity act s).2 replies results ∧
      P replies results := by
  have hbefore := keeps_beforeExisting h.connector hook entity session.engine.hooks h.hooks delta s
  simp only [actOn, bind_apply]
  cases hanswer : (session.beforeExisting hook entity session.engine.hooks delta s).1 with
  | error error =>
    obtain ⟨results, hbooks, hresults⟩ := hookFailed_books h error base
      (session.beforeExisting hook entity session.engine.hooks delta s).2
    refine ⟨[], results, hbooks.after_aside hbefore, ?_⟩
    rcases hresults with rfl | rfl
    · exact hnothing
    · exact hfailed error.message
  | ok delta' =>
    obtain ⟨replies, hbooks, hfits⟩ := hact delta' hanswer
      (session.beforeExisting hook entity session.engine.hooks delta s).2
    simp only [hlive, Bool.false_eq_true, if_false, bind_apply]
    generalize act delta' (session.beforeExisting hook entity session.engine.hooks delta s).2 = acted at hbooks hfits ⊢
    obtain ⟨outcome, s'⟩ := acted
    cases outcome with
    | none => exact ⟨replies, [], hbooks.after_aside hbefore, hfits⟩
    | some result =>
      have hfinish := hbooks.trans (finish_books h delta' entity result s')
      rw [List.append_nil, List.nil_append] at hfinish
      exact ⟨replies, [result], hfinish.after_aside hbefore, hfits⟩

/-- What is recorded for a request whose granting is followed up. -/
theorem reported_of_settle {request : Request} {followUp : WorkflowReport → Step σ Result}
    (hgranted : ∀ report s, (followUp report s).1.status = .success ∧ request.Grants (followUp report s).1 report)
    (hrefused : ∀ message, request.Refuses (base.failed message)) (answer : Except SyncError WorkflowReport)
    (s : RunState σ) : (⟨request, answer⟩ : Reply).Reported (settle base followUp answer s).1.toList := by
  cases answer with
  | ok report => exact ⟨_, rfl, hgranted report s⟩
  | error error =>
    simp only [Reply.Reported, settle, pure_apply]
    split
    · rfl
    · exact ⟨_, rfl, rfl, rfl, hrefused error.message⟩

/-- The workflow is asked, and the answer is followed up. -/
theorem settle_books {request : Request} {ask : Effect σ SyncError WorkflowReport}
    {followUp : WorkflowReport → Step σ Result}
    (hask : ∀ s, journal (ask s).2 = journal s ++ [⟨request, (ask s).1⟩])
    (hfollowUp : ∀ report, (Frame.unchanged journal).aside.Keeps (followUp report))
    (hgranted : ∀ report s, (followUp report s).1.status = .success ∧ request.Grants (followUp report s).1 report)
    (hrefused : ∀ message, request.Refuses (base.failed message)) (s : RunState σ) :
    let acted := (onWorld ask >>= settle base followUp) s
    ∃ reply, Books journal s acted.2 [reply] [] ∧ reply.Reported acted.1.toList := by
  have hasked : Books journal s (onWorld ask s).2 [⟨request, (ask s.world).1⟩] [] :=
    ⟨hask s.world, (List.append_nil _).symm⟩
  have hsettled := keeps_settle base hfollowUp (ask s.world).1 (onWorld ask s).2
  exact ⟨_, hasked.before_aside hsettled, reported_of_settle hgranted hrefused _ _⟩

theorem update_books (h : session.Journals journal) (entity : Entity) (delta : Delta) (s : RunState σ)
    (hpatch : session.mapping.diff entity delta.attributes ≠ {}) :
    let acted := session.update entity (session.result .update entity.id entity.name) delta s
    ∃ reply, Books journal s acted.2 [reply] [] ∧ reply.Reported acted.1.toList := by
  have hnot : ¬(session.mapping.diff entity delta.attributes).isEmpty = true := fun h => hpatch (Patch.isEmpty_iff.mp h)
  simp only [update, if_neg hnot]
  refine settle_books (h.update session.task.subjectType entity.id _) (fun report => ?_) (fun report s' => ?_)
    (fun message => ⟨rfl, rfl⟩) s
  · refine (keeps_reread h.attends entity _).bind fun after => ?_
    exact (keeps_propagate h.toQuiet _).bind fun _ => Frame.keeps_pure _
  · exact ⟨rfl, rfl, rfl, rfl⟩

theorem unassign_books (h : session.Journals journal) (entity : Entity) (s : RunState σ) :
    let acted := session.unassign entity (session.result .delete entity.id entity.name) s
    ∃ reply, Books journal s acted.2 [reply] [] ∧ reply.Reported acted.1.toList :=
  settle_books (h.update session.task.subjectType entity.id _) (fun _ => keeps_deprovision h.toQuiet entity _)
    (fun _ _ => ⟨rfl, rfl, rfl⟩) (fun _ => ⟨rfl, rfl⟩) s

theorem relink_books (h : session.Journals journal) (entity : Entity) (patch : Patch) (s : RunState σ) :
    let acted := session.relink entity patch (session.result .none entity.id entity.name) s
    ∃ reply, Books journal s acted.2 [reply] [] ∧ reply.Reported acted.1.toList :=
  settle_books (h.update session.task.subjectType entity.id _) (fun _ => Frame.keeps_pure _)
    (fun _ _ => ⟨rfl, rfl, rfl⟩) (fun _ => ⟨rfl, rfl⟩) s

theorem remove_books (h : session.Journals journal) (entity : Entity) (id : Nat) (s : RunState σ) :
    let acted := session.remove entity id (session.result .delete id entity.name) s
    ∃ reply, Books journal s acted.2 [reply] [] ∧ reply.Reported acted.1.toList :=
  settle_books (h.delete session.task.subjectType id)
    (fun _ => (keeps_propagate h.toQuiet _).bind fun _ => Frame.keeps_pure _)
    (fun _ _ => ⟨rfl, rfl, rfl, rfl⟩) (fun _ => ⟨rfl, rfl, rfl⟩) s

end Session

/-! ## Encounters -/

namespace Encounter

/-- The action is one that asks the workflow for nothing: an update whose snapshot changes nothing, as the hooks
left it, or the rule only removes the remote object or does nothing. -/
def Unrequested (encounter : Encounter σ) : Prop :=
  ∃ (id : Nat) (entity : Entity), encounter.subject = .present id ∧
    let session := encounter.session
    let loaded := session.load id encounter.before
    loaded.1 = some entity ∧
      match session.task.matching with
      | .ignore | .deprovision => True
      | .update => ∃ delta,
        (session.beforeExisting .update entity session.engine.hooks encounter.delta loaded.2).1 = .ok delta ∧
          session.mapping.diff entity delta.attributes = {}
      | .unassign | .link | .unlink => False

/-- The results tell what the workflow answered if it was asked; a success without a request is an action that
needs none. -/
def Truthful (encounter : Encounter σ) (replies : List Reply) (results : List Result) : Prop :=
  match replies with
  | [] => results.length ≤ 1 ∧ ∀ result ∈ results, result.status = .success → encounter.Unrequested
  | [reply] => reply.Reported results
  | _ => False

variable {encounter : Encounter σ}

theorem truthful_nil : encounter.Truthful [] [] := ⟨Nat.zero_le _, fun _ h => nomatch h⟩

theorem truthful_failed (base : Result) (message : String) : encounter.Truthful [] [base.failed message] := by
  refine ⟨Nat.le_refl _, fun result hresult hsuccess => ?_⟩
  cases List.mem_singleton.mp hresult
  cases hsuccess

theorem truthful_unrequested (h : encounter.Unrequested) (result : Result) : encounter.Truthful [] [result] :=
  ⟨Nat.le_refl _, fun _ _ _ => h⟩

/-- The replies that an encounter adds to a journal. -/
def replies (journal : σ → List Reply) (encounter : Encounter σ) : List Reply :=
  encounter.appends fun s => journal s.world

end Encounter

namespace Session

variable {session : Session σ} {delta : Delta} {s : RunState σ} {encounter : Encounter σ}

/-- What is noted and recorded when an object is received. -/
theorem create_books (h : session.Journals journal) (hlive : session.dryRun = false) (encounter : Encounter σ)
    (hook : NewHook) (delta : Delta) (s : RunState σ) :
    ∃ replies results, Books journal s (session.create hook delta s).2 replies results ∧
      encounter.Truthful replies results := by
  have hbefore := keeps_beforeNew h.connector hook session.engine.hooks h.hooks delta
    (session.newEntity hook delta) s
  simp only [create, bind_apply]
  generalize session.beforeNew hook session.engine.hooks delta (session.newEntity hook delta) s = left at hbefore ⊢
  obtain ⟨⟨answer, entity⟩, s₁⟩ := left
  cases answer with
  | error error =>
    obtain ⟨results, hbooks, hresults⟩ := hookFailed_books h error (session.result .create 0 entity.name) s₁
    refine ⟨[], results, hbooks.after_aside hbefore, ?_⟩
    rcases hresults with rfl | rfl
    · exact encounter.truthful_nil
    · exact encounter.truthful_failed _ _
  | ok delta' =>
    have hasked : Books journal s (onWorld (session.engine.workflow.create entity) s₁).2
        [⟨.create entity, (session.engine.workflow.create entity s₁.world).1⟩] [] :=
      .after_aside hbefore ⟨h.create entity s₁.world, (List.append_nil _).symm⟩
    simp only [hlive, Bool.false_eq_true, if_false, bind_apply]
    rw [onWorld_apply] at hasked ⊢
    generalize session.engine.workflow.create entity s₁.world = asked at hasked ⊢
    obtain ⟨answer, world⟩ := asked
    cases answer with
    | ok report =>
      have hfollowed := hasked.before_aside (keeps_propagate h.toQuiet
        (Propagation.createTasks session.engine.registry { entity with id := report.id, name := report.name }
          (session.excludedFor hook)) _)
      refine ⟨_, _, hfollowed.trans (finish_books h _ _ _ _), ?_⟩
      exact ⟨_, rfl, rfl, rfl, rfl, rfl⟩
    | error error =>
      by_cases hskippable : error.isSkippable = true
      · simp only [hskippable, if_true]
        refine ⟨_, _, hasked, ?_⟩
        simp only [Encounter.Truthful, Reply.Reported, hskippable, if_true]
      · simp only [hskippable]
        refine ⟨_, _, hasked.trans (finish_books h _ _ _ _), ?_⟩
        simp only [Encounter.Truthful, List.append_nil, List.nil_append, Reply.Reported, hskippable]
        exact ⟨_, rfl, rfl, rfl, rfl, rfl, rfl⟩

/-- What is noted and recorded when a match is updated: nothing is requested if its snapshot, as the hooks left it,
changes nothing. -/
theorem applyRule_books_of_update (h : session.Journals journal) (hlive : session.dryRun = false) {id : Nat}
    {entity : Entity} (delta : Delta) {before : RunState σ} (hloaded : (session.load id before).1 = some entity)
    (hmatching : session.task.matching = .update) :
    ∃ replies results,
      Books journal (session.load id before).2 (session.applyRule delta entity (session.load id before).2).2
          replies results ∧
        Encounter.Truthful { session, delta, subject := .present id, before } replies results := by
  simp only [applyRule, hmatching]
  refine actOn_books h hlive .update (Encounter.truthful_failed _) Encounter.truthful_nil fun delta' hdelta s => ?_
  by_cases hpatch : session.mapping.diff entity delta'.attributes = {}
  · have hunrequested : Encounter.Unrequested { session, delta, subject := .present id, before } := by
      refine ⟨id, entity, rfl, hloaded, ?_⟩
      simp only [hmatching]
      exact ⟨delta', hdelta, hpatch⟩
    have hupdate : session.update entity (session.result .update entity.id entity.name) delta' s =
        (some (session.result .update entity.id entity.name), s) := by
      simp only [update, Patch.isEmpty_iff.mpr hpatch, if_true, pure_apply]
    rw [hupdate]
    exact ⟨[], .of_aside ((Frame.unchanged journal).aside.refl s), Encounter.truthful_unrequested hunrequested _⟩
  · obtain ⟨reply, hbooks, hreported⟩ := update_books h entity delta' s hpatch
    exact ⟨[reply], hbooks, hreported⟩

/-- What is noted and recorded when the matching rule is applied. -/
theorem applyRule_books (h : session.Journals journal) (hlive : session.dryRun = false) {id : Nat} {entity : Entity}
    (delta : Delta) {before : RunState σ} (hloaded : (session.load id before).1 = some entity) :
    ∃ replies results,
      Books journal (session.load id before).2 (session.applyRule delta entity (session.load id before).2).2
          replies results ∧
        Encounter.Truthful { session, delta, subject := .present id, before } replies results := by
  let encounter : Encounter σ := { session, delta, subject := .present id, before }
  -- An action that makes one request each time, whatever the hooks before it leave of the delta.
  have hrequested : ∀ (hook : ExistingHook) (base : Result) (act : Delta → Step σ (Option Result)),
      (∀ delta' s, ∃ reply, Books journal s (act delta' s).2 [reply] [] ∧ reply.Reported (act delta' s).1.toList) →
        ∃ replies results, Books journal (session.load id before).2
          (session.actOn hook base delta entity act (session.load id before).2).2 replies results ∧
            encounter.Truthful replies results := by
    intro hook base act hact
    refine actOn_books h hlive hook (encounter.truthful_failed _) encounter.truthful_nil fun delta' _ s => ?_
    obtain ⟨reply, hbooks, hreported⟩ := hact delta' s
    exact ⟨[reply], hbooks, hreported⟩
  cases hmatching : session.task.matching with
  | update => exact applyRule_books_of_update h hlive delta hloaded hmatching
  | ignore =>
    have hunrequested : encounter.Unrequested := ⟨id, entity, rfl, hloaded, by simp only [encounter, hmatching]⟩
    simp only [applyRule, hmatching]
    exact ⟨[], _, record_books h _ _, encounter.truthful_unrequested hunrequested _⟩
  | deprovision =>
    have hunrequested : encounter.Unrequested := ⟨id, entity, rfl, hloaded, by simp only [encounter, hmatching]⟩
    simp only [applyRule, hmatching]
    refine actOn_books h hlive .deprovision (encounter.truthful_failed _) encounter.truthful_nil fun delta' _ s => ?_
    have haside := keeps_deprovision h.toQuiet entity (session.result .delete entity.id entity.name) s
    exact ⟨[], .of_aside haside, encounter.truthful_unrequested hunrequested _⟩
  | unassign =>
    simp only [applyRule, hmatching]
    exact hrequested _ _ _ fun _ => unassign_books h entity
  | link | unlink =>
    simp only [applyRule, hmatching]
    exact hrequested _ _ _ fun _ => relink_books h entity _

/-- An encounter is truthful about what it asked the workflow. -/
theorem meet_books (h : session.Journals journal) (hlive : session.dryRun = false) (delta : Delta) (subject : Subject)
    (before : RunState σ) :
    ∃ replies results, Books journal before (session.meet delta subject before).2 replies results ∧
      Encounter.Truthful { session, delta, subject, before } replies results := by
  have hload := fun id => keeps_load h.attends id before
  cases subject with
  | unknown hook => exact create_books h hlive _ hook delta before
  | present id =>
    simp only [meet, visit, bind_apply]
    cases hfound : (session.load id before).1 with
    | none => exact ⟨[], [], .of_aside (hload id), Encounter.truthful_nil⟩
    | some entity =>
      obtain ⟨replies, results, hbooks, htruthful⟩ := applyRule_books h hlive delta hfound
      exact ⟨replies, results, hbooks.after_aside (hload id), htruthful⟩
  | gone id =>
    simp only [meet, bind_apply]
    cases hfound : (session.load id before).1 with
    | none => exact ⟨[], [], .of_aside (hload id), Encounter.truthful_nil⟩
    | some entity =>
      have hact : ∀ s, ∃ replies, Books journal s
          (session.remove entity id (session.result .delete id entity.name) s).2 replies [] ∧
            Encounter.Truthful { session, delta, subject := .gone id, before } replies
              (session.remove entity id (session.result .delete id entity.name) s).1.toList := by
        intro s
        obtain ⟨reply, hbooks, hreported⟩ := remove_books h entity id s
        exact ⟨[reply], hbooks, hreported⟩
      obtain ⟨replies, results, hbooks, htruthful⟩ := actOn_books (s := (session.load id before).2) h hlive .delete
        (Encounter.truthful_failed _) Encounter.truthful_nil fun _ _ => hact
      exact ⟨replies, results, hbooks.after_aside (hload id), htruthful⟩

/-- Nothing but an encounter adds to the journal. -/
theorem Journals.collects (h : session.Journals journal) (hlive : session.dryRun = false) :
    session.Collects (fun s => journal s.world)
      fun delta before => (session.encounters delta before).flatMap (Encounter.replies journal) := by
  refine .of_aside h.attends h.load h.store (fun hrel => hrel.1) ?_
  refine receive_appended (fun s => journal s.world) (fun _ _ => rfl) (fun delta => ?_) fun delta subject before => ?_
  · exact (keeps_correlate h.attends delta).mono fun hrel => hrel.1
  · obtain ⟨replies, results, hbooks, -⟩ := meet_books h hlive delta subject before
    exact ⟨replies, hbooks.replies.symm⟩

end Session

theorem Encounter.truthful {encounter : Encounter σ} (h : encounter.session.Journals journal)
    (hlive : encounter.session.dryRun = false) :
    encounter.Truthful (encounter.replies journal) encounter.recorded := by
  obtain ⟨replies, results, hbooks, htruthful⟩ :=
    Session.meet_books h hlive encounter.delta encounter.subject encounter.before
  have hreplies : encounter.replies journal = replies :=
    encounter.appends_eq (fun s => journal s.world) hbooks.replies
  have hrecorded : encounter.recorded = results := encounter.appends_eq RunState.results hbooks.results
  rw [hreplies, hrecorded]
  exact htruthful

/-! ## Runs -/

/-- The requests of a live run and its results are those of its encounters, in their order, and every encounter is
truthful: it makes at most one request, and what it records tells what the workflow answered. -/
theorem Engine.start_truthful {engine : Engine σ} (h : engine.Journals journal) {task : SyncTask}
    (hlive : (engine.dryRun || task.dryRun) = false) (world : σ) :
    let finished := engine.start task world
    let encounters := engine.encounters task world
    journal finished.2.world = journal world ++ encounters.flatMap (Encounter.replies journal) ∧
      finished.2.results = encounters.flatMap Encounter.recorded ∧
      (∀ summary, finished.1 = .ok summary → summary.results = finished.2.results) ∧
      ∀ encounter ∈ encounters, encounter.session.engine = engine ∧ encounter.session.task = task ∧
        encounter.Truthful (encounter.replies journal) encounter.recorded := by
  intro finished encounters
  have hsummary : ∀ summary, finished.1 = .ok summary → summary.results = finished.2.results :=
    fun summary hok => (Engine.start_summary hok).1
  cases hlookup : engine.registry.lookup task.resource task.subjectType with
  | error error =>
    have hnone : encounters = [] := by simp only [encounters, Engine.encounters, hlookup]
    have hfinished : finished = (.error (.mapping error), { world }) := Engine.start_error hlookup world
    refine ⟨?_, ?_, hsummary, ?_⟩
    · simp [hnone, hfinished]
    · simp [hnone, hfinished]
    · simp [hnone]
  | ok found =>
    obtain ⟨resource, mapping⟩ := found
    let session : Session σ := { engine, task, resource, mapping }
    have hsession : session.Journals journal := ⟨h, h.registry.lookup hlookup⟩
    have hencounters : encounters =
        (session.deliveries { world }).flatMap fun delivery => session.encounters delivery.1 delivery.2 := by
      simp only [encounters, Engine.encounters, hlookup, session]
    obtain ⟨hfinished, -⟩ := Engine.start_ok hlookup world
    refine ⟨?_, ?_, hsummary, fun encounter hencounter => ?_⟩
    · have hjournal := (hsession.collects hlive).phases_appended { world }
      rw [hencounters, List.flatMap_assoc]
      exact (congrArg (fun s => journal s.world) hfinished).trans hjournal
    · have hresults := session.collects_results.phases_appended { world }
      rw [hencounters, List.flatMap_assoc]
      exact (congrArg RunState.results hfinished).trans hresults
    · rw [hencounters] at hencounter
      obtain ⟨⟨delta, before⟩, -, hmem⟩ := List.mem_flatMap.mp hencounter
      obtain ⟨hsame, -⟩ := Session.session_of_mem_encounters hmem
      refine ⟨by rw [hsame], by rw [hsame], Encounter.truthful ?_ ?_⟩
      · rw [hsame]
        exact hsession
      · rw [hsame]
        exact hlive

end Reconciliation

end Provisioning

/-! ## A journal beside the systems in memory -/

namespace Provisioning.Memory

open Reconciliation Workflow

/-- All systems in memory, and a journal of the requests to the workflow. -/
structure Archive where
  premises : Premises := {}
  journal : List Reply := []

namespace Archive

/-- The systems in memory. -/
def premisesLens : Lens Archive Premises where
  get archive := archive.premises
  set premises archive := { archive with premises }

/-- The journal. -/
def journalLens : Lens Archive (List Reply) where
  get archive := archive.journal
  set journal archive := { archive with journal }

/-- Nothing that happens to the systems touches the journal. -/
theorem premisesLens_carries : premisesLens.Carries Frame.anything (Frame.unchanged journalLens.get) :=
  fun _ _ _ => rfl

/-- The resource that holds users. -/
def resource : Resource Archive where
  name := "directory"
  connector := Premises.plainConnector.within premisesLens
  primary := false
  priority := 0
  mode := .sync
  mappings := (PerSubject.const none).set .user (some Premises.userMapping)

/-- The repository of the workflow. -/
def repository : Repository Archive := Premises.repository.within premisesLens

/-- The engine over the systems in memory, with a workflow that keeps the journal. -/
def engine : Engine Archive where
  registry := Registry.insert {} resource
  repository := repository
  workflow := ((Office.workflow.within Premises.officeLens).within premisesLens).journaled journalLens
  correlation := Correlation.byAccountId repository
  tokens := (tokenStore.within Premises.tokensLens).within premisesLens

theorem engine_journals : engine.Journals journalLens.get where
  registry := Registry.keeps_empty.insert
    (Premises.plainConnector.keeps_anything.within premisesLens_carries)
  audit _ := Frame.keeps_ok ()
  notifications _ := Frame.keeps_ok ()
  find _ _ := premisesLens_carries.keeps_zoom fun _ => trivial
  correlation _ _ := premisesLens_carries.keeps_zoom fun _ => trivial
  hooks _ hmem := nomatch hmem
  toNotes := journaled_notes (fun _ _ => rfl) (fun _ _ => rfl) (fun _ _ _ _ => rfl) fun _ _ _ => rfl
  load _ := premisesLens_carries.keeps_zoom fun _ => trivial
  store _ _ := premisesLens_carries.keeps_zoom fun _ => trivial

/-- A user who is known already, another one who is not, and no request so far. -/
def staffed : Archive := { premises := Premises.staff }

theorem full_run_truthful :
    (engine.encounters Premises.readEveryone staffed).map Encounter.subject = [.present 1, .unknown .create] ∧
      journalLens.get (engine.start Premises.readEveryone staffed).2.world =
        (engine.encounters Premises.readEveryone staffed).flatMap (Encounter.replies journalLens.get) ∧
      (engine.start Premises.readEveryone staffed).2.results =
        (engine.encounters Premises.readEveryone staffed).flatMap Encounter.recorded ∧
      ∀ encounter ∈ engine.encounters Premises.readEveryone staffed,
        encounter.Truthful (encounter.replies journalLens.get) encounter.recorded := by
  have hlive : (engine.dryRun || Premises.readEveryone.dryRun) = false := rfl
  obtain ⟨hjournal, hresults, -, htruthful⟩ := Engine.start_truthful engine_journals hlive staffed
  have hempty : journalLens.get staffed = [] := rfl
  rw [hempty, List.nil_append] at hjournal
  exact ⟨by decide +kernel, hjournal, hresults, fun encounter hmem => (htruthful encounter hmem).2.2⟩

end Archive

end Provisioning.Memory
