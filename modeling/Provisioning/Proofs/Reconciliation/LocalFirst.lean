import Provisioning.Proofs.Reconciliation.Chronicle
set_option autoImplicit false

/-!
# Local first

In an encounter the workflow is asked first.  Only if it grants the request, anything is propagated, and then only
what is planned for this subject; a refusal, skippable or not, ends the matter.  Removing the remote object and
keeping the link is the one action that asks for nothing.
-/

namespace Provisioning.Reconciliation

open Propagation Workflow

variable {σ α : Type}

/-! ## The course of an encounter -/

namespace Session

/-- The entity that is there for a subject when it is met; for an unknown object there is none yet. -/
def Finds (session : Session σ) (world : σ) : Subject → Entity → Prop
  | .unknown _, _ => True
  | .present id, entity | .gone id, entity =>
    (session.engine.repository.find session.task.subjectType id world).1 = .ok (some entity)

/-- The request that is made for a subject and its entity. -/
def Asks (session : Session σ) (entity : Entity) : Subject → Request → Prop
  | .unknown _, .create asked => asked = entity
  | .present _, .update t id _ => t = session.task.subjectType ∧ id = entity.id
  | .gone missing, .delete t id => t = session.task.subjectType ∧ id = missing
  | _, _ => False

/-- The tasks that are carried out once the request for a subject and its entity is granted. -/
def Plans (session : Session σ) (entity : Entity) (report : WorkflowReport) : Subject → List Task → Prop
  | .unknown hook, tasks =>
    tasks = createTasks session.engine.registry { entity with id := report.id, name := report.name }
      (session.excludedFor hook)
  | .present _, tasks =>
    match session.task.matching with
    | .update => ∃ after, tasks = updateTasks session.engine.registry entity after report.affected session.ownResource
    | .unassign => tasks = deprovisionTasks session.engine.registry entity session.ownResource
    | .link | .unlink => tasks = []
    | .ignore | .deprovision => False
  | .gone _, tasks => tasks = deleteTasks session.engine.registry entity session.ownResource

/-- The deeds of an encounter in their order, and the propagation that becomes known by it. -/
inductive Course (session : Session σ) (world : σ) (subject : Subject) :
    List Entry → List Propagation.Report → Prop
  /-- Nothing is requested and nothing is called. -/
  | idle : Course session world subject [] []
  /-- The request is refused, and that is all. -/
  | refused {entity : Entity} {request : Request} (hfinds : session.Finds world subject entity)
      (hasks : session.Asks entity subject request) (error : SyncError) :
      Course session world subject [.replied ⟨request, .error error⟩] []
  /-- The request is granted, then the tasks for the subject are carried out. -/
  | granted {entity : Entity} {request : Request} {tasks : List Task} {calls : List RemoteCall}
      (hfinds : session.Finds world subject entity) (hasks : session.Asks entity subject request)
      (report : WorkflowReport) (hplans : session.Plans entity report subject tasks) (hsent : Sent tasks calls)
      (reports : List Propagation.Report) :
      Course session world subject (.replied ⟨request, .ok report⟩ :: calls.map .called) reports
  /-- The remote object is removed, without a request. -/
  | deprovisioned {id : Nat} {entity : Entity} {calls : List RemoteCall} (hsubject : subject = .present id)
      (hrule : session.task.matching = .deprovision) (hfinds : session.Finds world subject entity)
      (hsent : Sent (deprovisionTasks session.engine.registry entity session.ownResource) calls)
      (reports : List Propagation.Report) : Course session world subject (calls.map .called) reports

end Session

/-! ## What steps add to the chronicle -/

/-- A step adds some deeds to the chronicle, and some propagation to what is known. -/
structure Chapter (s t : RunState (σ × List Entry)) (deeds : List Entry) (reports : List Propagation.Report) :
    Prop where
  deeds : t.deeds = s.deeds ++ deeds
  reports : t.propagation = s.propagation ++ reports

/-- What a step adds has a property. -/
def Adds (P : List Entry → List Propagation.Report → Prop) (s t : RunState (σ × List Entry)) : Prop :=
  ∃ deeds reports, Chapter s t deeds reports ∧ P deeds reports

/-- The frame of a step without deeds. -/
def idling : Frame (RunState (σ × List Entry)) := Frame.unchanged fun s => (s.deeds, s.propagation)

section Adds

variable {s t u : RunState (σ × List Entry)} {deeds deeds' : List Entry} {reports reports' : List Propagation.Report}
  {P : List Entry → List Propagation.Report → Prop}

theorem Chapter.of_idling (h : idling.Rel s t) : Chapter s t [] [] :=
  ⟨(congrArg Prod.fst h :).trans (List.append_nil _).symm, (congrArg Prod.snd h :).trans (List.append_nil _).symm⟩

theorem Chapter.trans (h : Chapter s t deeds reports) (h' : Chapter t u deeds' reports') :
    Chapter s u (deeds ++ deeds') (reports ++ reports') := by
  refine ⟨?_, ?_⟩
  · rw [h'.deeds, h.deeds, List.append_assoc]
  · rw [h'.reports, h.reports, List.append_assoc]

theorem Chapter.before_idling (h : Chapter s t deeds reports) (hidling : idling.Rel t u) :
    Chapter s u deeds reports := by
  have hboth := h.trans (.of_idling hidling)
  rwa [List.append_nil, List.append_nil] at hboth

theorem adds_of_idling (hidling : idling.Rel s t) (h : P [] []) : Adds P s t := ⟨[], [], .of_idling hidling, h⟩

theorem Adds.after_idling (hidling : idling.Rel s t) (h : Adds P t u) : Adds P s u := by
  obtain ⟨deeds, reports, hchapter, hfits⟩ := h
  exact ⟨deeds, reports, (Chapter.of_idling hidling).trans hchapter, hfits⟩

theorem Adds.before_idling (h : Adds P s t) (hidling : idling.Rel t u) : Adds P s u := by
  obtain ⟨deeds, reports, hchapter, hfits⟩ := h
  exact ⟨deeds, reports, hchapter.before_idling hidling, hfits⟩

theorem Adds.deeds_grow (h : Adds P s t) : s.deeds <+: t.deeds := by
  obtain ⟨deeds, _, hchapter, -⟩ := h
  exact ⟨deeds, hchapter.deeds.symm⟩

theorem Adds.reports_grow (h : Adds P s t) : s.propagation <+: t.propagation := by
  obtain ⟨_, reports, hchapter, -⟩ := h
  exact ⟨reports, hchapter.reports.symm⟩

end Adds

namespace Session

variable {session : Session σ} {P : List Entry → List Propagation.Report → Prop}

/-! ## Steps without deeds -/

theorem idling_within (operation : StateM σ α) :
    idling.Keeps (onWorld (Lens.first.zoom operation) : Step (σ × List Entry) α) := fun _ => rfl

theorem idling_noted (note : α → Entry) (hnote : ∀ a, (note a).isDeed = false) (operation : StateM σ α) :
    idling.Keeps (onWorld (noted note operation)) := by
  intro s
  have hdeeds : (onWorld (noted note operation) s).2.deeds = s.deeds := by
    simp only [RunState.deeds, onWorld_apply, noted, List.filter_append, List.filter_cons, hnote, Bool.false_eq_true,
      if_false, List.filter_nil, List.append_nil]
  exact Prod.ext hdeeds rfl

theorem idling_record (session : Session σ) (result : Result) : idling.Keeps (session.chronicled.record result) :=
  steps_record (fun event => idling_noted (fun _ => .audited event) (fun _ => rfl) _)
    (fun event => idling_noted (fun _ => .notified event) (fun _ => rfl) _) (fun _ _ => rfl) result

theorem idling_hookFailed (session : Session σ) (error : SyncError) (result : Result) :
    idling.Keeps (session.chronicled.hookFailed error result) :=
  steps_hookFailed session.idling_record error result

theorem idling_finish (session : Session σ) (delta : Delta) (entity : Entity) (result : Result) :
    idling.Keeps (session.chronicled.finish delta entity result) := by
  refine steps_finish (steps_runAfter fun one hone s => ?_) (session.idling_record result)
  obtain ⟨hooks, -, rfl⟩ := List.mem_map.mp (session.hooks_chronicled ▸ hone)
  exact idling_within _

theorem idling_beforeNew (session : Session σ) (hook : NewHook) (delta : Delta) (entity : Entity) :
    idling.Keeps (session.chronicled.beforeNew hook session.chronicled.engine.hooks delta entity) := by
  refine steps_beforeNew (fun one hone s delta entity => ?_) delta entity
  obtain ⟨hooks, -, rfl⟩ := List.mem_map.mp (session.hooks_chronicled ▸ hone)
  exact idling_within _

theorem idling_beforeExisting (session : Session σ) (hook : ExistingHook) (entity : Entity) (delta : Delta) :
    idling.Keeps (session.chronicled.beforeExisting hook entity session.chronicled.engine.hooks delta) := by
  refine steps_beforeExisting (fun one hone s delta => ?_) delta
  obtain ⟨hooks, -, rfl⟩ := List.mem_map.mp (session.hooks_chronicled ▸ hone)
  exact idling_within _

theorem idling_reread (session : Session σ) (entity : Entity) (patch : Patch) :
    idling.Keeps (session.chronicled.reread entity patch) :=
  steps_reread (fun _ _ => idling_within _) entity patch

theorem idling_load (session : Session σ) (id : Nat) : idling.Keeps (session.chronicled.load id) :=
  steps_load (fun _ _ => idling_within _) id

theorem idling_correlate (session : Session σ) (delta : Delta) : idling.Keeps (session.chronicled.correlate delta) :=
  steps_correlate (fun _ _ => idling_within _) delta

/-! ## Requests and propagation -/

/-- Propagation adds the calls of its tasks to the chronicle. -/
theorem propagate_adds (session : Session σ) (tasks : List Task) (s : RunState (σ × List Entry)) :
    Adds (fun deeds _ => ∃ calls, deeds = calls.map .called ∧ Sent tasks calls) s
      (session.chronicled.propagate tasks s).2 := by
  unfold propagate
  by_cases hempty : tasks.isEmpty = true
  · simp only [hempty]
    exact adds_of_idling (idling.refl s) ⟨[], rfl, sent_nil tasks⟩
  · obtain ⟨calls, hcalls, hsent⟩ :=
      Executor.execute_sent Entry.called (session.engine.executor s.propagation.length) tasks s.world
    have hdeeds : (calls.map Entry.called).filter Entry.isDeed = calls.map Entry.called :=
      List.filter_eq_self.mpr (List.forall_mem_map.mpr fun _ _ => rfl)
    simp only [hempty]
    refine ⟨_, _, ⟨(congrArg (List.filter Entry.isDeed) hcalls).trans ?_, rfl⟩, calls, rfl, hsent⟩
    rw [List.filter_append, hdeeds]
    rfl

/-- A request is made, and nothing more is done unless it is granted. -/
theorem request_adds {request : Request} {ask : Effect σ SyncError WorkflowReport}
    {next : Except SyncError WorkflowReport → Step (σ × List Entry) α}
    (hrefused : ∀ error, idling.Keeps (next (.error error)) ∧ P [.replied ⟨request, .error error⟩] [])
    (hgranted : ∀ report s,
      Adds (fun deeds reports => P (.replied ⟨request, .ok report⟩ :: deeds) reports) s (next (.ok report) s).2)
    (s : RunState (σ × List Entry)) :
    Adds P s ((onWorld (noted (fun answer => .replied ⟨request, answer⟩) ask) >>= next) s).2 := by
  have hasked : Chapter s (onWorld (noted (fun answer => .replied ⟨request, answer⟩) ask) s).2
      [.replied ⟨request, (ask s.world.1).1⟩] [] := by
    refine ⟨?_, (List.append_nil _).symm⟩
    simp only [RunState.deeds, onWorld_apply, noted, List.filter_append]
    rfl
  have hanswer : (onWorld (noted (fun answer => .replied ⟨request, answer⟩) ask) s).1 = (ask s.world.1).1 := rfl
  rw [bind_apply, hanswer]
  generalize (onWorld (noted (fun answer => .replied ⟨request, answer⟩) ask) s).2 = s' at hasked ⊢
  cases hgiven : (ask s.world.1).1 with
  | error error =>
    rw [hgiven] at hasked
    exact ⟨_, _, hasked.before_idling ((hrefused error).1 s'), (hrefused error).2⟩
  | ok report =>
    rw [hgiven] at hasked
    obtain ⟨deeds, reports, hfollowed, hfits⟩ := hgranted report s'
    exact ⟨_, _, hasked.trans hfollowed, hfits⟩

/-- An action on an existing entity adds what it does itself, if anything, to the chronicle. -/
theorem actOn_adds {hook : ExistingHook} {base : Result} {delta : Delta} {entity : Entity}
    {act : Delta → Step (σ × List Entry) (Option Result)} (hidle : P [] [])
    (hact : ∀ delta' s, Adds P s (act delta' s).2) (s : RunState (σ × List Entry)) :
    Adds P s (session.chronicled.actOn hook base delta entity act s).2 := by
  have hbefore := session.idling_beforeExisting hook entity delta s
  simp only [actOn, bind_apply]
  generalize session.chronicled.beforeExisting hook entity session.chronicled.engine.hooks delta s = left at hbefore ⊢
  obtain ⟨answer, s₁⟩ := left
  cases answer with
  | error error => exact adds_of_idling (idling.trans hbefore (session.idling_hookFailed error base s₁)) hidle
  | ok delta' =>
    dsimp only
    split
    · exact adds_of_idling (idling.trans hbefore (session.idling_finish delta' entity base s₁)) hidle
    · have hacted := hact delta' s₁
      refine .after_idling hbefore ?_
      rw [bind_apply]
      cases (act delta' s₁).1 with
      | none => exact hacted
      | some result => exact hacted.before_idling (session.idling_finish delta' entity result _)

/-- Creating an entity adds the request for it, as the hooks left it, and its propagation to the chronicle. -/
theorem create_adds {hook : NewHook} {delta : Delta} {entity : Entity} {s : RunState (σ × List Entry)}
    (hentity : (session.chronicled.beforeNew hook session.chronicled.engine.hooks delta
      (session.chronicled.newEntity hook delta) s).1.2 = entity)
    (hidle : P [] []) (hrefused : ∀ error, P [.replied ⟨.create entity, .error error⟩] [])
    (hgranted : ∀ report s, Adds (fun deeds reports => P (.replied ⟨.create entity, .ok report⟩ :: deeds) reports) s
      (session.chronicled.propagate (createTasks session.chronicled.engine.registry
        { entity with id := report.id, name := report.name } (session.chronicled.excludedFor hook)) s).2) :
    Adds P s (session.chronicled.create hook delta s).2 := by
  have hbefore := session.idling_beforeNew hook delta (session.chronicled.newEntity hook delta) s
  simp only [create, bind_apply]
  generalize session.chronicled.beforeNew hook _ delta _ s = left at hbefore hentity ⊢
  obtain ⟨⟨answer, entity⟩, s₁⟩ := left
  cases hentity
  cases answer with
  | error error => exact adds_of_idling (idling.trans hbefore (session.idling_hookFailed error _ s₁)) hidle
  | ok delta' =>
    dsimp only
    split
    · exact adds_of_idling (idling.trans hbefore (session.idling_finish delta' entity _ s₁)) hidle
    · refine .after_idling hbefore ?_
      refine request_adds (fun error => ⟨?_, hrefused error⟩) (fun report s => ?_) s₁
      · exact Frame.Keeps.ite (fun _ => Frame.keeps_pure _) fun _ => session.idling_finish delta' entity _
      · exact (hgranted report s).before_idling (session.idling_finish delta' _ _ _)

/-! ## Actions -/

section Actions

variable {id : Nat} {entity : Entity} {base : Result} {delta : Delta} {world : σ} {s : RunState (σ × List Entry)}
  {subject : Subject} {request : Request}

/-- Once a request is granted, the tasks for the subject are carried out. -/
theorem granted_course (hfinds : session.Finds world subject entity) (hasks : session.Asks entity subject request)
    (report : WorkflowReport) {tasks : List Task} (hplans : session.Plans entity report subject tasks)
    (s : RunState (σ × List Entry)) :
    Adds (fun deeds reports => session.Course world subject (.replied ⟨request, .ok report⟩ :: deeds) reports) s
      (session.chronicled.propagate tasks s).2 := by
  obtain ⟨_, reports, hchapter, calls, rfl, hsent⟩ := propagate_adds session tasks s
  exact ⟨_, reports, hchapter, .granted hfinds hasks report hplans hsent reports⟩

/-- A request is settled: a refusal ends the matter, a granted request is followed up. -/
theorem settle_course {ask : Effect σ SyncError WorkflowReport}
    {followUp : WorkflowReport → Step (σ × List Entry) Result} (hfinds : session.Finds world subject entity)
    (hasks : session.Asks entity subject request)
    (hgranted : ∀ report s, Adds (fun deeds reports =>
      session.Course world subject (.replied ⟨request, .ok report⟩ :: deeds) reports) s (followUp report s).2) :
    Adds (session.Course world subject) s
      ((onWorld (noted (fun answer => .replied ⟨request, answer⟩) ask) >>= settle base followUp) s).2 := by
  have hrefused : ∀ error, idling.Keeps (settle base followUp (.error error)) ∧
      session.Course world subject [.replied ⟨request, .error error⟩] [] :=
    fun error => ⟨Frame.keeps_pure _, .refused hfinds hasks error⟩
  exact request_adds hrefused hgranted s

theorem update_course (hrule : session.task.matching = .update) (hfinds : session.Finds world (.present id) entity) :
    Adds (session.Course world (.present id)) s (session.chronicled.update entity base delta s).2 := by
  simp only [update]
  split
  · exact adds_of_idling (idling.refl s) .idle
  · have hasks : ∀ patch, session.Asks entity (.present id) (.update session.task.subjectType entity.id patch) :=
      fun _ => ⟨rfl, rfl⟩
    refine settle_course hfinds (hasks _) fun report s => ?_
    have hplans : ∀ after, session.Plans entity report (.present id)
        (updateTasks session.chronicled.engine.registry entity after report.affected
          session.chronicled.ownResource) := by
      intro after
      simp only [Plans, hrule, updateTasks, tasksFor_twin]
      exact ⟨after, rfl⟩
    exact .after_idling (session.idling_reread entity _ s) (granted_course hfinds (hasks _) report (hplans _) _)

theorem deprovision_course (hrule : session.task.matching = .deprovision)
    (hfinds : session.Finds world (.present id) entity) :
    Adds (session.Course world (.present id)) s ((some <$> session.chronicled.deprovision entity base) s).2 := by
  obtain ⟨_, reports, hchapter, calls, rfl, hsent⟩ := propagate_adds session
    (deprovisionTasks session.chronicled.engine.registry entity session.chronicled.ownResource) s
  rw [deprovisionTasks, tasksFor_twin] at hsent
  exact ⟨_, reports, hchapter, .deprovisioned rfl hrule hfinds hsent reports⟩

theorem unassign_course (hrule : session.task.matching = .unassign)
    (hfinds : session.Finds world (.present id) entity) :
    Adds (session.Course world (.present id)) s (session.chronicled.unassign entity base s).2 := by
  have hasks : ∀ patch, session.Asks entity (.present id) (.update session.task.subjectType entity.id patch) :=
    fun _ => ⟨rfl, rfl⟩
  refine settle_course hfinds (hasks _) fun report s => granted_course hfinds (hasks _) report ?_ s
  simp only [Plans, hrule]
  exact session.tasksFor_twin Entry.observer _ _ _

theorem relink_course (patch : Patch) (hrule : session.task.matching = .link ∨ session.task.matching = .unlink)
    (hfinds : session.Finds world (.present id) entity) :
    Adds (session.Course world (.present id)) s (session.chronicled.relink entity patch base s).2 := by
  have hasks : session.Asks entity (.present id) (.update session.task.subjectType entity.id patch) := ⟨rfl, rfl⟩
  have hplans : ∀ report, session.Plans entity report (.present id) [] := by
    rcases hrule with hrule | hrule <;> simp only [Plans, hrule, implies_true]
  refine settle_course hfinds hasks fun report s => ?_
  exact adds_of_idling (idling.refl s) (.granted hfinds hasks report (hplans report) (sent_nil []) [])

theorem remove_course (hfinds : session.Finds world (.gone id) entity) :
    Adds (session.Course world (.gone id)) s (session.chronicled.remove entity id base s).2 := by
  have hasks : session.Asks entity (.gone id) (.delete session.task.subjectType id) := ⟨rfl, rfl⟩
  refine settle_course hfinds hasks fun report s => ?_
  exact granted_course hfinds hasks report (session.tasksFor_twin Entry.observer _ _ _) s

theorem applyRule_course (hfinds : session.Finds world (.present id) entity) :
    Adds (session.Course world (.present id)) s (session.chronicled.applyRule delta entity s).2 := by
  have hrule : session.chronicled.task.matching = session.task.matching := rfl
  simp only [applyRule, hrule]
  cases hmatching : session.task.matching with
  | ignore => exact adds_of_idling (session.idling_record _ s) .idle
  | update => exact actOn_adds .idle (fun _ _ => update_course hmatching hfinds) s
  | deprovision => exact actOn_adds .idle (fun _ _ => deprovision_course hmatching hfinds) s
  | unassign => exact actOn_adds .idle (fun _ _ => unassign_course hmatching hfinds) s
  | link => exact actOn_adds .idle (fun _ _ => relink_course _ (.inl hmatching) hfinds) s
  | unlink => exact actOn_adds .idle (fun _ _ => relink_course _ (.inr hmatching) hfinds) s

theorem create_course (hook : NewHook) :
    Adds (session.Course world (.unknown hook)) s (session.chronicled.create hook delta s).2 := by
  have hfinds : ∀ entity, session.Finds world (.unknown hook) entity := fun _ => trivial
  have hasks : ∀ entity, session.Asks entity (.unknown hook) (.create entity) := fun _ => rfl
  refine create_adds rfl .idle (fun error => .refused (hfinds _) (hasks _) error) fun report s => ?_
  exact granted_course (hfinds _) (hasks _) report (session.tasksFor_twin Entry.observer _ _ _) s

end Actions

/-! ## Encounters -/

theorem load_eq_some_iff {id : Nat} {entity : Entity} {s : RunState (σ × List Entry)} :
    (session.chronicled.load id s).1 = some entity ↔ session.Finds s.world.1 (.present id) entity := by
  have hfound : (onWorld (session.chronicled.engine.repository.find session.task.subjectType id) s).1 =
      (session.engine.repository.find session.task.subjectType id s.world.1).1 := rfl
  have htask : session.chronicled.task = session.task := rfl
  simp only [load, Finds, bind_apply, htask, hfound]
  cases (session.engine.repository.find session.task.subjectType id s.world.1).1 with
  | ok found => simp
  | error error => simp

/-- What is done for a subject takes its course. -/
theorem meet_course (session : Session σ) (delta : Delta) (subject : Subject) (s : RunState (σ × List Entry)) :
    Adds (session.Course s.world.1 subject) s (session.chronicled.meet delta subject s).2 := by
  cases subject with
  | unknown hook => exact create_course hook
  | present id =>
    have hload := session.idling_load id s
    simp only [meet, visit, bind_apply]
    cases hfound : (session.chronicled.load id s).1 with
    | none => exact adds_of_idling hload .idle
    | some entity => exact .after_idling hload (applyRule_course (load_eq_some_iff.mp hfound))
  | gone id =>
    have hload := session.idling_load id s
    simp only [meet, bind_apply]
    cases hfound : (session.chronicled.load id s).1 with
    | none => exact adds_of_idling hload .idle
    | some entity =>
      have hfinds : session.Finds s.world.1 (.gone id) entity := load_eq_some_iff.mp hfound
      exact .after_idling hload (actOn_adds .idle (fun _ _ => remove_course hfinds) _)

/-- In every encounter of a delta the workflow comes first.  The chronicle of handling a delta, which leaves the
handling as it is, consists of what its encounters add, and each of these takes its course: no probe and no write
unless the request for the entity was granted before, and a refusal is followed by neither of them and adds nothing to
what is known of the propagation.  The encounters in which the remote object is removed and the link kept make no
request. -/
theorem handle_local_first (session : Session σ) (delta : Delta) (s : RunState σ) :
    let handled := session.handle delta s
    let chronicled := session.chronicled.handle delta (s.beside [])
    let encounters := session.chronicled.encounters delta (s.beside [])
    (handled.1 = chronicled.1 ∧ RunState.Mirrors Beside Eq handled.2 chronicled.2) ∧
      chronicled.2.deeds = encounters.flatMap (fun encounter => encounter.appends RunState.deeds) ∧
      handled.2.propagation =
        s.propagation ++ encounters.flatMap (fun encounter => encounter.appends RunState.propagation) ∧
      ∀ encounter ∈ encounters, session.Course encounter.before.world.1 encounter.subject
        (encounter.appends RunState.deeds) (encounter.appends RunState.propagation) := by
  intro handled chronicled encounters
  have hmirrors := session.handle_twin Entry.observer delta s []
  have hdeeds := session.chronicled.handle_appended RunState.deeds
    (fun delta s => congrArg Prod.fst (session.idling_correlate delta s))
    (fun delta subject s => (session.meet_course delta subject s).deeds_grow) delta (s.beside [])
  have hreports := session.chronicled.handle_appended RunState.propagation
    (fun delta s => congrArg Prod.snd (session.idling_correlate delta s))
    (fun delta subject s => (session.meet_course delta subject s).reports_grow) delta (s.beside [])
  refine ⟨hmirrors, hdeeds, hmirrors.2.propagation.trans hreports, fun encounter hmem => ?_⟩
  obtain ⟨hsession, hdelta⟩ := session_of_mem_encounters hmem
  obtain ⟨deeds, reports, hchapter, hcourse⟩ := session.meet_course delta encounter.subject encounter.before
  have hstep : encounter.step = session.chronicled.meet delta encounter.subject := by
    rw [Encounter.step, hsession, hdelta]
  rw [encounter.appends_eq RunState.deeds (hstep ▸ hchapter.deeds),
    encounter.appends_eq RunState.propagation (hstep ▸ hchapter.reports)]
  exact hcourse

end Session

end Provisioning.Reconciliation
