import Provisioning.Proofs.Entity.Patch
import Provisioning.Proofs.Mapping.Snapshot
import Provisioning.Proofs.Memory.Requests
import Provisioning.Proofs.Reconciliation.Measures
import Provisioning.Proofs.Reconciliation.Minutes
set_option autoImplicit false

/-!
# Sessions over a workflow in memory

The workflow in memory carries out what it is asked for at once, on a repository in memory.  So it can be said what an
action of a session comes to: what is read under one id is revised, and everything else stays as it is.
-/

namespace Provisioning

open Memory

variable {σ : Type} {office : Lens σ Office}

namespace Reconciliation

/-- A session over a workflow in memory and the repository of that workflow. -/
structure Session.Employs (office : Lens σ Office) (session : Session σ) : Prop where
  stores : office.Stores
  repository : session.engine.repository = (Entities.repository.within Office.entitiesLens).within office
  workflow : session.engine.workflow = Office.workflow.within office

/-- A session over a workflow in memory that is reached by its own requests and by nothing else that it does: not by
its hooks, and not by what it reads or sends out. -/
structure Session.Entrusts (office : Lens σ Office) (session : Session σ) : Prop extends
    session.Employs office where
  attends : session.Attends (Frame.unchanged office.get)

namespace Session

variable {session : Session σ}

/-! ## The workflow and its repository -/

namespace Employs

theorem find_spec (h : session.Employs office) (t : SubjectType) (id : Nat) (world : σ) :
    (session.engine.repository.find t id world).1 = .ok ((office.get world).entities.get? t id) ∧
      office.get (session.engine.repository.find t id world).2 = office.get world := by
  rw [h.repository]
  exact ⟨rfl, h.stores _ world⟩

theorem create_spec (h : session.Employs office) (entity : Entity) (world : σ) :
    (session.engine.workflow.create entity world).1 = (Office.create entity (office.get world)).1 ∧
      office.get (session.engine.workflow.create entity world).2 = (Office.create entity (office.get world)).2 := by
  rw [h.workflow]
  exact ⟨rfl, h.stores _ world⟩

theorem update_spec (h : session.Employs office) (t : SubjectType) (id : Nat) (patch : Patch) (world : σ) :
    (session.engine.workflow.update t id patch world).1 = (Office.update t id patch (office.get world)).1 ∧
      office.get (session.engine.workflow.update t id patch world).2 =
        (Office.update t id patch (office.get world)).2 := by
  rw [h.workflow]
  exact ⟨rfl, h.stores _ world⟩

theorem delete_spec (h : session.Employs office) (t : SubjectType) (id : Nat) (world : σ) :
    (session.engine.workflow.delete t id world).1 = (Office.delete t id (office.get world)).1 ∧
      office.get (session.engine.workflow.delete t id world).2 = (Office.delete t id (office.get world)).2 := by
  rw [h.workflow]
  exact ⟨rfl, h.stores _ world⟩

theorem load_spec (h : session.Employs office) (id : Nat) (s : RunState σ) :
    (session.load id s).1 = (office.get s.world).entities.get? session.task.subjectType id ∧
      office.get (session.load id s).2.world = office.get s.world := by
  obtain ⟨hfound, hoffice⟩ := h.find_spec session.task.subjectType id s.world
  simp only [load, bind_apply, onWorld_apply, hfound, pure_apply]
  exact ⟨trivial, hoffice⟩

/-- What requests and all the other systems keep of the workflow is kept by the session. -/
theorem keeps (h : session.Employs office) {inner : Frame Office} (hattends : session.Attends (inner.onPart office.get))
    (hcreate : ∀ entity, inner.Keeps (Office.create entity))
    (hupdate : ∀ t id patch, inner.Keeps (Office.update t id patch))
    (hdelete : ∀ t id, inner.Keeps (Office.delete t id)) : session.Keeps (inner.onPart office.get) where
  toQuiet := hattends.toQuiet
  find := hattends.find
  create entity world := by
    have hasked := hcreate entity (office.get world)
    rw [← (h.create_spec entity world).2] at hasked
    exact hasked
  update t id patch world := by
    have hasked := hupdate t id patch (office.get world)
    rw [← (h.update_spec t id patch world).2] at hasked
    exact hasked
  delete t id world := by
    have hasked := hdelete t id (office.get world)
    rw [← (h.delete_spec t id world).2] at hasked
    exact hasked
  correlation := hattends.correlation
  hooks := hattends.hooks
  connector := hattends.connector

end Employs

/-! ## Steps that leave the workflow alone -/

namespace Entrusts

theorem office_correlate (h : session.Entrusts office) (delta : Delta) (s : RunState σ) :
    office.get (session.correlate delta s).2.world = office.get s.world :=
  (keeps_correlate h.attends delta s).1

theorem office_beforeNew (h : session.Entrusts office) (hook : NewHook) (delta : Delta) (entity : Entity)
    (s : RunState σ) :
    office.get (session.beforeNew hook session.engine.hooks delta entity s).2.world = office.get s.world :=
  (keeps_beforeNew h.attends.connector hook _ h.attends.hooks delta entity s).1

theorem office_beforeExisting (h : session.Entrusts office) (hook : ExistingHook) (entity : Entity) (delta : Delta)
    (s : RunState σ) :
    office.get (session.beforeExisting hook entity session.engine.hooks delta s).2.world = office.get s.world :=
  (keeps_beforeExisting h.attends.connector hook entity _ h.attends.hooks delta s).1

theorem office_record (h : session.Entrusts office) (result : Result) (s : RunState σ) :
    office.get (session.record result s).2.world = office.get s.world :=
  (keeps_record h.attends.toQuiet result s).1

theorem office_propagate (h : session.Entrusts office) (tasks : List Propagation.Task) (s : RunState σ) :
    office.get (session.propagate tasks s).2.world = office.get s.world :=
  (keeps_propagate h.attends.toQuiet tasks s).1

theorem office_hookFailed (h : session.Entrusts office) (error : SyncError) (result : Result) (s : RunState σ) :
    office.get (session.hookFailed error result s).2.world = office.get s.world :=
  (keeps_hookFailed h.attends.toQuiet error result s).1

theorem office_finish (h : session.Entrusts office) (delta : Delta) (entity : Entity) (result : Result)
    (s : RunState σ) : office.get (session.finish delta entity result s).2.world = office.get s.world :=
  (keeps_finish h.attends delta entity result s).1

/-- Around an action, nothing changes the workflow but the action itself. -/
theorem office_actOn (h : session.Entrusts office) (hlive : session.dryRun = false) {hook : ExistingHook}
    {base : Result} {delta delta' : Delta} {entity : Entity} {act : Delta → Step σ (Option Result)} {s : RunState σ}
    (hbefore : (session.beforeExisting hook entity session.engine.hooks delta s).1 = .ok delta') :
    office.get (session.actOn hook base delta entity act s).2.world =
      office.get (act delta' (session.beforeExisting hook entity session.engine.hooks delta s).2).2.world := by
  rw [actOn_of_live hlive hbefore]
  dsimp only
  split
  · rfl
  · exact h.office_finish _ _ _ _

/-- Around the creation of an entity, nothing changes the workflow but the request for it. -/
theorem office_create (h : session.Entrusts office) (hlive : session.dryRun = false) {hook : NewHook}
    {delta delta' : Delta} {entity : Entity} {s : RunState σ}
    (hbefore : (session.beforeNew hook session.engine.hooks delta (session.newEntity hook delta) s).1 =
      (.ok delta', entity)) :
    office.get (session.create hook delta s).2.world = (Office.create entity (office.get s.world)).2 := by
  have hoffice := h.office_beforeNew hook delta (session.newEntity hook delta) s
  simp only [create, bind_apply, hbefore, hlive, Bool.false_eq_true, if_false, onWorld_apply]
  generalize (session.beforeNew hook session.engine.hooks delta (session.newEntity hook delta) s).2 = s' at hoffice ⊢
  rw [← hoffice, ← (h.create_spec entity s'.world).2]
  cases (session.engine.workflow.create entity s'.world).1 with
  | ok report => simp only [bind_apply, h.office_finish, h.office_propagate]
  | error error =>
    dsimp only
    split
    · rfl
    · exact h.office_finish _ _ _ _

/-- What the creation of an entity comes to if requests do not fail: the entity has an id, under which it is propagated
and reported. -/
theorem create_of_granted (h : session.Entrusts office) (hlive : session.dryRun = false) {hook : NewHook}
    {delta delta' : Delta} {entity : Entity} {s : RunState σ}
    (hbefore : (session.beforeNew hook session.engine.hooks delta (session.newEntity hook delta) s).1 =
      (.ok delta', entity))
    (hwilling : (office.get s.world).requests.failing = none) :
    let passed := (session.beforeNew hook session.engine.hooks delta (session.newEntity hook delta) s).2
    let asked := (onWorld (session.engine.workflow.create entity) passed).2
    ∃ id, session.create hook delta s =
      let created := { entity with id }
      let tasks := Propagation.createTasks session.engine.registry created (session.excludedFor hook)
      session.finish delta' created (session.result .create id entity.name) (session.propagate tasks asked).2 := by
  intro passed asked
  have hoffice : office.get passed.world = office.get s.world := h.office_beforeNew hook delta _ s
  obtain ⟨⟨affected, hgranted⟩, -, -⟩ := Office.create_granted hwilling entity
  have hname : ((office.get s.world).entities.insert entity).1.name = entity.name := by rw [Entities.insert_fst]
  rw [hname, ← hoffice, ← (h.create_spec entity passed.world).1] at hgranted
  refine ⟨((office.get passed.world).entities.insert entity).1.id, ?_⟩
  simp only [passed] at hgranted
  simp only [create, bind_apply, hbefore, hlive, Bool.false_eq_true, if_false, onWorld_apply, hgranted]
  rfl

/-- Nothing that the session does apart from its hooks takes the workflow out of a frame that requests keep. -/
theorem unhooked_keeps (h : session.Entrusts office) {inner : Frame Office}
    (hcreate : ∀ entity, inner.Keeps (Office.create entity))
    (hupdate : ∀ t id patch, inner.Keeps (Office.update t id patch))
    (hdelete : ∀ t id, inner.Keeps (Office.delete t id)) : session.unhooked.Keeps (inner.onPart office.get) := by
  have hemploys : session.unhooked.Employs office := ⟨h.stores, h.repository, h.workflow⟩
  refine hemploys.keeps ?_ hcreate hupdate hdelete
  exact
    { registry := fun name resource hget => (h.attends.registry name resource hget).onPart inner
      audit := fun event => (h.attends.audit event).onPart inner
      notifications := fun event => (h.attends.notifications event).onPart inner
      find := fun t id => (h.attends.find t id).onPart inner
      correlation := fun delta mapping => (h.attends.correlation delta mapping).onPart inner
      hooks := fun _ hmem => nomatch hmem
      connector := h.attends.connector.onPart inner }

/-- What is done for a known entity does no more to the workflow than make requests. -/
theorem measure_asking (h : session.Entrusts office) {entity : Entity} {subject : Subject} {measure : Measure σ}
    (hmeasure : session.measure? entity subject = some measure) (delta : Delta) (s : RunState σ) :
    Office.asking.Rel (office.get s.world) (office.get (measure.act delta s).2.world) := by
  have hkeeps := h.unhooked_keeps (fun entity office => (Office.asked_create entity office).asking)
    (fun t id patch office => (Office.asked_update t id patch office).asking)
    fun t id office => (Office.asked_delete t id office).asking
  exact (keeps_measure hkeeps hmeasure delta s).1

theorem office_treat (h : session.Entrusts office) (delta : Delta) (subject : Subject) (entity : Entity)
    (s : RunState σ) :
    office.get (session.treat delta subject entity s).2.world = office.get s.world ∨
      session.dryRun = false ∧
        Office.asking.Rel (office.get s.world) (office.get (session.treat delta subject entity s).2.world) := by
  cases hmeasure : session.measure? entity subject with
  | none =>
    rw [treat_of_none hmeasure]
    exact .inl (h.office_record _ s)
  | some measure =>
    rw [treat_of_some hmeasure]
    have hoffice := h.office_beforeExisting measure.hook entity delta s
    cases hbefore : (session.beforeExisting measure.hook entity session.engine.hooks delta s).1 with
    | error error =>
      rw [actOn_of_error hbefore]
      exact .inl ((h.office_hookFailed error measure.base _).trans hoffice)
    | ok delta' =>
      cases hdry : session.dryRun with
      | true =>
        rw [actOn_of_dry hdry hbefore]
        exact .inl ((h.office_finish delta' entity measure.base _).trans hoffice)
      | false =>
        refine .inr ⟨rfl, ?_⟩
        rw [h.office_actOn hdry hbefore, ← hoffice]
        exact h.measure_asking hmeasure delta' _

/-- Meeting a known entity does no more to the workflow than make requests, and a run that pretends makes none. -/
theorem office_meet (h : session.Entrusts office) {subject : Subject} {id : Nat} (hid : subject.id? = some id)
    (delta : Delta) (s : RunState σ) :
    office.get (session.meet delta subject s).2.world = office.get s.world ∨
      session.dryRun = false ∧
        Office.asking.Rel (office.get s.world) (office.get (session.meet delta subject s).2.world) := by
  obtain ⟨-, hoffice⟩ := h.load_spec id s
  rw [meet_eq_treat session hid, ← hoffice]
  cases (session.load id s).1 with
  | none => exact .inl rfl
  | some entity => exact h.office_treat delta subject entity _

theorem asking_meet (h : session.Entrusts office) {subject : Subject} {id : Nat} (hid : subject.id? = some id)
    (delta : Delta) (s : RunState σ) :
    Office.asking.Rel (office.get s.world) (office.get (session.meet delta subject s).2.world) := by
  obtain hsame | ⟨-, hasking⟩ := h.office_meet hid delta s
  · rw [hsame]
    exact Office.asking.refl _
  · exact hasking

theorem asking_forEach_meet (h : session.Entrusts office) {subject : Nat → Subject}
    (hid : ∀ id, (subject id).id? = some id) (delta : Delta) (ids : List Nat) (s : RunState σ) :
    Office.asking.Rel (office.get s.world)
      (office.get (forEach (session.meet delta) (ids.map subject) s).2.world) := by
  induction ids generalizing s with
  | nil => exact Office.asking.refl _
  | cons id rest ih =>
    have hfirst := h.asking_meet (hid id) delta s
    rw [List.map_cons, forEach, Effect.andThen_apply]
    split
    · exact Office.asking.trans hfirst (ih _)
    · exact hfirst

/-- A run that pretends makes no requests. -/
theorem office_meet_of_dry (h : session.Entrusts office) (hdry : session.dryRun = true) (delta : Delta)
    (subject : Subject) (s : RunState σ) :
    office.get (session.meet delta subject s).2.world = office.get s.world := by
  have hknown : ∀ {id}, subject.id? = some id →
      office.get (session.meet delta subject s).2.world = office.get s.world := fun hid =>
    (h.office_meet hid delta s).resolve_right fun hasking => by rw [hdry] at hasking; exact nomatch hasking.1
  cases subject with
  | present id => exact hknown rfl
  | gone id => exact hknown rfl
  | unknown hook =>
    have hoffice := h.office_beforeNew hook delta (session.newEntity hook delta) s
    cases hbefore : (session.beforeNew hook session.engine.hooks delta (session.newEntity hook delta) s).1 with
    | mk answer entity =>
      cases answer with
      | error error =>
        rw [meet, create_of_error hbefore]
        exact (h.office_hookFailed error _ _).trans hoffice
      | ok delta' =>
        rw [meet, create_of_dry hdry hbefore]
        exact (h.office_finish delta' entity _ _).trans hoffice

/-- As long as requests fail, meeting a subject does nothing to the repository. -/
theorem entities_meet_of_refused (h : session.Entrusts office) (hhooks : session.engine.hooks = []) (delta : Delta)
    (subject : Subject) {s : RunState σ} (hfailing : (office.get s.world).requests.failing ≠ none) :
    (office.get (session.meet delta subject s).2.world).entities = (office.get s.world).entities := by
  have hkeeps := h.unhooked_keeps (fun _ => Office.refusing_request _ _) (fun _ _ _ => Office.refusing_request _ _)
    fun _ _ => Office.refusing_request _ _
  rw [unhooked_eq hhooks] at hkeeps
  exact ((keeps_meet hkeeps delta subject s).1 hfailing).2

end Entrusts

/-! ## What becomes of an entity -/

/-- What a matching rule makes of an entity. -/
def revised (session : Session σ) (delta : Delta) (entity : Entity) : Entity :=
  match session.task.matching with
  | .update => (session.mapping.diff entity delta.attributes).apply entity
  | .link => { entity with resources := entity.resources.insert session.task.resource }
  | .unlink | .unassign => { entity with resources := entity.resources.erase session.task.resource }
  | .ignore | .deprovision => entity

/-- What the measure for a subject makes of its entity; nothing remains of one whose object was deleted. -/
def revision (session : Session σ) (delta : Delta) : Subject → Entity → Option Entity
  | .unknown _, entity => some entity
  | .present _, entity => some (session.revised delta entity)
  | .gone _, _ => none

section Revisions

variable {delta : Delta} {entity : Entity} {subject : Subject}

/-- A revision leaves an entity under its key. -/
theorem revision_key {made : Entity} (h : session.revision delta subject entity = some made) :
    made.id = entity.id ∧ made.subjectType = entity.subjectType := by
  cases subject with
  | unknown hook =>
    cases h
    exact ⟨rfl, rfl⟩
  | gone id => cases h
  | present id =>
    cases h
    unfold revised
    cases session.task.matching <;> exact ⟨rfl, rfl⟩

/-- An entity for which no measure is taken stays as it is. -/
theorem revision_of_measure_eq_none (h : session.measure? entity subject = none) :
    session.revision delta subject entity = some entity := by
  cases subject with
  | unknown hook => rfl
  | gone id => cases h
  | present id =>
    simp only [measure?] at h
    simp only [revision, revised]
    cases hmatching : session.task.matching <;> simp only [hmatching, reduceCtorEq] at h ⊢

/-- An update leaves the links of an entity as they are, and every other rule leaves all but its links. -/
theorem revised_links (session : Session σ) (delta : Delta) (entity : Entity) :
    (session.task.matching = .update → (session.revised delta entity).resources = entity.resources) ∧
      (session.task.matching ≠ .update →
        { session.revised delta entity with resources := entity.resources } = entity) := by
  unfold revised
  cases session.task.matching
  case update => exact ⟨fun _ => Mapping.resources_apply_diff _ _ _, fun hother => absurd rfl hother⟩
  all_goals exact ⟨fun hother => (nomatch hother), fun _ => rfl⟩

/-- What a measure starts from: a result under the key of the entity, which is not that of a creation.  Unless it is
that of an update, the entity keeps its name. -/
theorem base_of_measure (hid : subject.id? = some entity.id) {measure : Measure σ}
    (hmeasure : session.measure? entity subject = some measure) :
    ∃ operation, measure.base = session.result operation entity.id entity.name ∧ operation ≠ .create ∧
      (operation = .update ∨
        ∀ delta, ((session.revision delta subject entity).getD entity).name = entity.name) := by
  cases subject with
  | unknown hook => cases hid
  | gone id =>
    cases hid
    cases hmeasure
    exact ⟨.delete, rfl, by decide, .inr fun _ => rfl⟩
  | present id =>
    simp only [measure?] at hmeasure
    simp only [revision, revised, Option.getD_some]
    cases hmatching : session.task.matching <;> simp only [hmatching, Option.some.injEq, reduceCtorEq] at hmeasure <;>
      subst hmeasure
    case update => exact ⟨.update, rfl, by decide, .inl rfl⟩
    all_goals exact ⟨_, rfl, by decide, .inr fun _ => rfl⟩

end Revisions

/-- An action carries out the revision of a stored entity, unless a request of it is refused.  Its result has the name
that the entity has afterwards, or had at last. -/
def CarriesOut (office : Lens σ Office) (session : Session σ) (entity : Entity) (base : Result)
    (revise : Entity → Option Entity) (act : Step σ (Option Result)) : Prop :=
  ∀ s : RunState σ,
    let before := office.get s.world
    let after := office.get (act s).2.world
    before.entities.Keyed → before.entities.get? session.task.subjectType entity.id = some entity →
      before.Unrefused after →
        (act s).1 = some { base with name := ((revise entity).getD entity).name } ∧
          Entities.Revised session.task.subjectType [entity.id] revise before.entities after.entities

section Actions

variable {entity : Entity} {base : Result} {revise : Entity → Option Entity} {act : Step σ (Option Result)}

/-- An action that leaves the workflow alone carries out that nothing changes. -/
theorem carriesOut_nothing (hact : (Frame.unchanged office.get).aside.Keeps act)
    (hresult : ∀ s, (act s).1 = some { base with name := entity.name }) (hrevise : revise entity = some entity) :
    session.CarriesOut office entity base revise act := by
  intro s before after _ hget _
  have hoffice : after = before := (hact s).1
  rw [hoffice, hrevise]
  refine ⟨hresult s, .of_unchanged fun id hid => ?_⟩
  cases List.mem_singleton.mp hid
  rw [hget, Option.bind_some, hrevise]

/-- A request that is granted is followed up, which leaves the workflow as the request left it. -/
theorem settle_granted {ask : Effect σ SyncError WorkflowReport} {followUp : WorkflowReport → Step σ Result}
    {s : RunState σ} {report : WorkflowReport} (hgranted : (ask s.world).1 = .ok report) :
    ((onWorld ask >>= settle base followUp) s).1 =
      some (followUp report { s with world := (ask s.world).2 }).1 := by
  simp only [bind_apply, onWorld_apply, hgranted, settle, pure_apply]

theorem office_settle {ask : Effect σ SyncError WorkflowReport} {followUp : WorkflowReport → Step σ Result}
    (hfollowUp : ∀ report, (Frame.unchanged office.get).aside.Keeps (followUp report)) (s : RunState σ) :
    office.get ((onWorld ask >>= settle base followUp) s).2.world = office.get (ask s.world).2 :=
  (keeps_settle base hfollowUp (ask s.world).1 { s with world := (ask s.world).2 }).1

/-- Asking for a patch carries it out. -/
theorem carriesOut_patch (h : session.Employs office) {patch : Patch} {followUp : WorkflowReport → Step σ Result}
    (hfollowUp : ∀ report, (Frame.unchanged office.get).aside.Keeps (followUp report))
    (hresult : ∀ affected s, (followUp { id := entity.id, name := (patch.apply entity).name, affected } s).1 =
      { base with name := (patch.apply entity).name })
    (hrevise : revise entity = some (patch.apply entity)) :
    session.CarriesOut office entity base revise
      (onWorld (session.engine.workflow.update session.task.subjectType entity.id patch) >>=
        settle base followUp) := by
  intro s before after hkeyed hget hunrefused
  obtain ⟨hanswer, hoffice⟩ := h.update_spec session.task.subjectType entity.id patch s.world
  have hafter : after = (Office.update session.task.subjectType entity.id patch before).2 :=
    (office_settle hfollowUp s).trans hoffice
  have hasked := Office.asked_update session.task.subjectType entity.id patch before
  rw [hafter] at hunrefused ⊢
  obtain ⟨htype, -, hne⟩ := hkeyed _ _ _ hget
  have hstored : (before.entities.insert (patch.apply entity)).1 = patch.apply entity :=
    before.entities.insert_fst_of_ne_zero hne
  obtain ⟨⟨affected, hgranted⟩, hentities, -⟩ := Office.update_granted (hunrefused.willing hasked) hget patch
  rw [hstored] at hgranted
  rw [settle_granted (hanswer.trans hgranted), hentities, hrevise]
  exact ⟨congrArg some (hresult affected _), .of_insert hget hrevise htype rfl hne⟩

theorem carriesOut_update (h : session.Entrusts office) (entity : Entity) (delta : Delta)
    (hrevise : revise entity = some ((session.mapping.diff entity delta.attributes).apply entity)) :
    session.CarriesOut office entity (session.result .update entity.id entity.name) revise
      (session.update entity (session.result .update entity.id entity.name) delta) := by
  unfold update
  dsimp only
  split
  · rename_i hempty
    rw [Patch.isEmpty_iff.mp hempty, Patch.apply_empty] at hrevise
    exact carriesOut_nothing (Frame.keeps_pure _) (fun _ => rfl) hrevise
  · refine carriesOut_patch h.toEmploys (fun report => ?_) (fun _ _ => rfl) hrevise
    refine (keeps_reread h.attends entity _).bind fun after => ?_
    exact (keeps_propagate h.attends.toQuiet _).bind fun _ => Frame.keeps_pure _

theorem carriesOut_unassign (h : session.Entrusts office) (entity : Entity)
    (hrevise : revise entity = some ((Patch.unlink session.task.resource).apply entity)) :
    session.CarriesOut office entity (session.result .delete entity.id entity.name) revise
      (session.unassign entity (session.result .delete entity.id entity.name)) :=
  carriesOut_patch h.toEmploys (fun _ => keeps_deprovision h.attends.toQuiet entity _) (fun _ _ => rfl) hrevise

theorem carriesOut_relink (h : session.Employs office) {patch : Patch} (hname : patch.name = none)
    (hrevise : revise entity = some (patch.apply entity)) :
    session.CarriesOut office entity (session.result .none entity.id entity.name) revise
      (session.relink entity patch (session.result .none entity.id entity.name)) := by
  refine carriesOut_patch h (fun _ => Frame.keeps_pure _) (fun _ _ => ?_) hrevise
  simp only [Patch.apply, hname, Option.getD_none, pure_apply, result]

/-- Asking for the removal of an entity carries it out. -/
theorem carriesOut_remove (h : session.Entrusts office) (entity : Entity) (hrevise : revise entity = none) :
    session.CarriesOut office entity (session.result .delete entity.id entity.name) revise
      (session.remove entity entity.id (session.result .delete entity.id entity.name)) := by
  intro s before after hkeyed hget hunrefused
  have hfollowUp : ∀ _ : WorkflowReport, (Frame.unchanged office.get).aside.Keeps (do
      session.propagate (Propagation.deleteTasks session.engine.registry entity session.ownResource)
      pure (session.result .delete entity.id entity.name)) :=
    fun _ => (keeps_propagate h.attends.toQuiet _).bind fun _ => Frame.keeps_pure _
  obtain ⟨hanswer, hoffice⟩ := h.delete_spec session.task.subjectType entity.id s.world
  have hafter : after = (Office.delete session.task.subjectType entity.id before).2 :=
    (office_settle hfollowUp s).trans hoffice
  have hasked := Office.asked_delete session.task.subjectType entity.id before
  rw [hafter] at hunrefused ⊢
  obtain ⟨hgranted, hentities⟩ := Office.delete_granted (hunrefused.willing hasked) hget
  unfold remove
  rw [settle_granted (hanswer.trans hgranted), hentities, hrevise]
  exact ⟨rfl, .of_erase hget hrevise⟩

/-- Every measure carries out the revision of the entity for which it is taken. -/
theorem measure_carriesOut (h : session.Entrusts office) {subject : Subject} (hid : subject.id? = some entity.id)
    {measure : Measure σ} (hmeasure : session.measure? entity subject = some measure) (delta : Delta) :
    session.CarriesOut office entity measure.base (session.revision delta subject) (measure.act delta) := by
  cases subject with
  | unknown hook => cases hid
  | gone id =>
    cases hid
    cases hmeasure
    exact carriesOut_remove h entity rfl
  | present id =>
    cases hid
    simp only [measure?] at hmeasure
    have hrevised : session.revision delta (.present entity.id) entity = some (session.revised delta entity) := rfl
    cases hmatching : session.task.matching <;> simp only [hmatching, Option.some.injEq, reduceCtorEq] at hmeasure <;>
      subst hmeasure <;> simp only [revised, hmatching] at hrevised
    case update => exact carriesOut_update h entity delta hrevised
    case deprovision =>
      exact carriesOut_nothing ((keeps_deprovision h.attends.toQuiet entity _).map some) (fun _ => rfl) hrevised
    case unassign => exact carriesOut_unassign h entity (hrevised.trans (by rw [Patch.apply_unlink]))
    case link => exact carriesOut_relink h.toEmploys rfl (hrevised.trans (by rw [Patch.apply_link, Entity.link]))
    case unlink => exact carriesOut_relink h.toEmploys rfl (hrevised.trans (by rw [Patch.apply_unlink]))

end Actions

end Session

end Reconciliation

end Provisioning
