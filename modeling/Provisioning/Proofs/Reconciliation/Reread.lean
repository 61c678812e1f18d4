import Provisioning.Proofs.Reconciliation.LocalEffect
set_option autoImplicit false

/-!
# Reading an entity again

After an update the entity is read again, and what is propagated leads from the entity as it was loaded to the entity
as it is now.  If it cannot be read, a patched copy of the loaded one stands in.  Over a workflow in memory both are
the same, as long as nothing writes to the repository between the loading of the entity and its update.  So nothing
depends on whether the second read succeeds.
-/

namespace Provisioning

open Memory

variable {σ : Type} {office : Lens σ Office}

/-- How a read of a repository is lost. -/
inductive LostRead where
  /-- Nothing is found. -/
  | absent
  | fails (error : SyncError)

/-- What is answered in the place of what is stored. -/
def LostRead.answer : LostRead → Except SyncError (Option Entity)
  | absent => .ok none
  | fails error => .error error

/-- A repository of which reads can be lost: they find nothing, or they fail. -/
def Repository.losing (lost : SubjectType → Nat → σ → Option LostRead) (repository : Repository σ) : Repository σ :=
  { repository with
    find := fun t id world =>
      let answered := repository.find t id world
      ((lost t id world).elim answered.1 LostRead.answer, answered.2) }

namespace Reconciliation

/-- A session over a workflow in memory in which nothing writes to the repository between the loading of an entity and
its update.  Whatever else is done leaves the entities filed under their keys. -/
structure Session.Uninterrupted (office : Lens σ Office) (session : Session σ) : Prop extends
    session.Employs office where
  attends : session.Attends (Office.filing.onPart office.get)
  beforeUpdate : ∀ hooks ∈ session.engine.hooks, ∀ (s : RunState σ) (delta : Delta) (entity : Entity),
    (Frame.unchanged fun world => (office.get world).entities).Keeps
      (hooks.beforeExisting .update (session.profile s) delta entity)

namespace Session

/-- The session over a repository of which reads can be lost. -/
def losing (lost : SubjectType → Nat → σ → Option LostRead) (session : Session σ) : Session σ :=
  { session with engine := { session.engine with repository := session.engine.repository.losing lost } }

variable {session : Session σ} {lost : SubjectType → Nat → σ → Option LostRead} {delta : Delta} {entity : Entity}
  {patch : Patch} {base : Result} {report : WorkflowReport} {s asked : RunState σ}

/-! ## What is read -/

/-- A read that is not lost finds what it would have found. -/
theorem load_losing {id : Nat} (h : lost session.task.subjectType id s.world = none) :
    (session.losing lost).load id s = session.load id s := by
  simp only [load, losing, Repository.losing, bind_apply, onWorld_apply, h, Option.elim_none]

/-- If the patched entity is stored, it is what an update goes on with, whether it is read or not. -/
theorem reread_of_stored (lost : SubjectType → Nat → σ → Option LostRead) (h : session.Employs office)
    (hstored : (office.get s.world).entities.get? session.task.subjectType entity.id = some (patch.apply entity)) :
    (session.reread entity patch s).1 = patch.apply entity ∧
      (session.losing lost).reread entity patch s = session.reread entity patch s := by
  obtain ⟨hfound, -⟩ := h.find_spec session.task.subjectType entity.id s.world
  rw [hstored] at hfound
  simp only [reread, losing, Repository.losing, bind_apply, onWorld_apply, hfound, pure_apply]
  cases hlost : lost session.task.subjectType entity.id s.world with
  | none => exact ⟨trivial, rfl⟩
  | some read => cases read <;> exact ⟨trivial, rfl⟩

/-! ## What is propagated -/

/-- The tasks that follow a granted update. -/
def followUps (session : Session σ) (entity : Entity) (patch : Patch) (report : WorkflowReport) (s : RunState σ) :
    List Propagation.Task :=
  Propagation.updateTasks session.engine.registry entity (session.reread entity patch s).1 report.affected
    session.ownResource

/-- If the patched entity is stored, the tasks lead to it, whether it is read or not. -/
theorem followUps_of_stored (lost : SubjectType → Nat → σ → Option LostRead) (h : session.Employs office)
    (report : WorkflowReport)
    (hstored : (office.get s.world).entities.get? session.task.subjectType entity.id = some (patch.apply entity)) :
    session.followUps entity patch report s =
        Propagation.updateTasks session.engine.registry entity (patch.apply entity) report.affected
          session.ownResource ∧
      (session.losing lost).followUps entity patch report s = session.followUps entity patch report s := by
  obtain ⟨hread, hlosing⟩ := reread_of_stored lost h hstored
  simp only [followUps, hlosing, hread]
  exact ⟨trivial, rfl⟩

/-- A granted update propagates the tasks that follow it. -/
theorem update_of_granted (hpatch : (session.mapping.diff entity delta.attributes).isEmpty = false)
    (hgranted : onWorld (session.engine.workflow.update session.task.subjectType entity.id
      (session.mapping.diff entity delta.attributes)) s = (.ok report, asked)) :
    let patch := session.mapping.diff entity delta.attributes
    session.update entity base delta s =
      (some (session.result .update report.id report.name),
        (session.propagate (session.followUps entity patch report asked) (session.reread entity patch asked).2).2) := by
  simp only [update, hpatch, Bool.false_eq_true, if_false, bind_apply, hgranted, settle, pure_apply]
  rfl

/-- A granted update stores the patched entity. -/
theorem get?_of_granted (h : session.Employs office) (hkeyed : (office.get s.world).entities.Keyed)
    (hget : (office.get s.world).entities.get? session.task.subjectType entity.id = some entity)
    (hgranted : onWorld (session.engine.workflow.update session.task.subjectType entity.id patch) s =
      (.ok report, asked)) :
    (office.get asked.world).entities.get? session.task.subjectType entity.id = some (patch.apply entity) := by
  obtain ⟨hanswer, hoffice⟩ := h.update_spec session.task.subjectType entity.id patch s.world
  obtain ⟨hreport, rfl⟩ := Prod.ext_iff.mp hgranted
  rw [onWorld_apply, hoffice]
  exact Office.get?_update_of_granted hkeyed hget (hanswer.symm.trans hreport)

/-- An update of the entity that is stored comes to the same if the entity cannot be read again. -/
theorem update_losing (h : session.Employs office) (hkeyed : (office.get s.world).entities.Keyed)
    (hget : (office.get s.world).entities.get? session.task.subjectType entity.id = some entity) :
    (session.losing lost).update entity base delta s = session.update entity base delta s := by
  cases hpatch : (session.mapping.diff entity delta.attributes).isEmpty with
  | true => simp only [update, losing, hpatch, if_true]
  | false =>
    cases hasked : onWorld (session.engine.workflow.update session.task.subjectType entity.id
        (session.mapping.diff entity delta.attributes)) s with
    | mk answer asked =>
      cases answer with
      | error error =>
        simp only [update, losing, hpatch, Bool.false_eq_true, if_false, bind_apply, hasked, settle]
      | ok report =>
        -- The patched entity is stored, so both reads come to it.
        have hstored := get?_of_granted h hkeyed hget hasked
        obtain ⟨-, hreread⟩ := reread_of_stored lost h hstored
        obtain ⟨-, hfollowUps⟩ := followUps_of_stored lost h report hstored
        have hlosing : (session.losing lost).update entity base delta s = _ := update_of_granted hpatch hasked
        rw [update_of_granted hpatch hasked, ← hreread, ← hfollowUps]
        exact hlosing

/-! ## What is done without reading entities -/

theorem beforeNew_losing (hook : NewHook) (hooks : List (Hooks σ)) :
    (session.losing lost).beforeNew hook hooks = session.beforeNew hook hooks := by
  induction hooks with
  | nil => rfl
  | cons one rest ih =>
    funext delta entity
    unfold beforeNew
    rw [ih]
    rfl

theorem beforeExisting_losing (hook : ExistingHook) (entity : Entity) (hooks : List (Hooks σ)) :
    (session.losing lost).beforeExisting hook entity hooks = session.beforeExisting hook entity hooks := by
  induction hooks with
  | nil => rfl
  | cons one rest ih =>
    funext delta
    unfold beforeExisting
    rw [ih]
    rfl

theorem runAfter_losing (delta : Delta) (entity : Entity) (result : Result) (hooks : List (Hooks σ)) :
    (session.losing lost).runAfter delta entity result hooks = session.runAfter delta entity result hooks := by
  induction hooks with
  | nil => rfl
  | cons one rest ih =>
    unfold runAfter
    rw [ih]
    rfl

theorem finish_losing (delta : Delta) (entity : Entity) (result : Result) :
    (session.losing lost).finish delta entity result = session.finish delta entity result := by
  unfold finish
  rw [runAfter_losing]
  rfl

theorem create_losing (hook : NewHook) (delta : Delta) :
    (session.losing lost).create hook delta = session.create hook delta := by
  unfold create
  simp only [beforeNew_losing, finish_losing]
  rfl

/-- Around an action nothing is read. -/
theorem actOn_losing {hook : ExistingHook} {act act' : Delta → Step σ (Option Result)}
    (hact : ∀ delta', let prepared := session.beforeExisting hook entity session.engine.hooks delta s
      prepared.1 = .ok delta' → act' delta' prepared.2 = act delta' prepared.2) :
    (session.losing lost).actOn hook base delta entity act' s = session.actOn hook base delta entity act s := by
  have hdry : (session.losing lost).dryRun = session.dryRun := rfl
  have hhooks : (session.losing lost).engine.hooks = session.engine.hooks := rfl
  simp only [actOn, bind_apply, hhooks, beforeExisting_losing, hdry, finish_losing]
  cases hbefore : (session.beforeExisting hook entity session.engine.hooks delta s).1 with
  | error error => rfl
  | ok delta' =>
    dsimp only
    split
    · rfl
    · rw [bind_apply, bind_apply, hact delta' hbefore]

/-! ## Encounters -/

namespace Uninterrupted

theorem keeps (h : session.Uninterrupted office) : session.Keeps (Office.filing.onPart office.get) :=
  h.toEmploys.keeps h.attends Office.filing_create Office.filing_update Office.filing_delete

/-- The hooks before an update leave the repository as it is. -/
theorem entities_beforeExisting (h : session.Uninterrupted office) (entity : Entity) (delta : Delta) (s : RunState σ) :
    (office.get (session.beforeExisting .update entity session.engine.hooks delta s).2.world).entities =
      (office.get s.world).entities := by
  have hkept : (Frame.unchanged fun world => (office.get world).entities).aside.Keeps
      (session.beforeExisting .update entity session.engine.hooks delta) :=
    steps_beforeExisting (fun one hone s delta => keeps_onWorld (h.beforeUpdate one hone s delta entity)) delta
  exact (hkept s).1

/-- A loaded entity is still what is stored when the hooks have run. -/
theorem stored_prepared (h : session.Uninterrupted office) (hkeyed : (office.get s.world).entities.Keyed) {id : Nat}
    (hloaded : (session.load id s).1 = some entity) (delta : Delta) :
    let prepared := (session.beforeExisting .update entity session.engine.hooks delta (session.load id s).2).2
    (office.get prepared.world).entities.Keyed ∧
      (office.get prepared.world).entities.get? session.task.subjectType entity.id = some entity := by
  obtain ⟨hfound, hoffice⟩ := h.load_spec id s
  rw [hloaded] at hfound
  obtain ⟨-, rfl, -⟩ := hkeyed _ _ _ hfound.symm
  have hprepared := h.entities_beforeExisting entity delta (session.load entity.id s).2
  rw [hoffice] at hprepared
  intro prepared
  rw [hprepared]
  exact ⟨hkeyed, hfound.symm⟩

/-- A match is handled in the same way if it cannot be read again, as long as it can be loaded. -/
theorem visit_losing (h : session.Uninterrupted office) (hkeyed : (office.get s.world).entities.Keyed) {id : Nat}
    (hload : lost session.task.subjectType id s.world = none) :
    (session.losing lost).visit delta id s = session.visit delta id s := by
  have hmatching : (session.losing lost).task.matching = session.task.matching := rfl
  simp only [visit, bind_apply, load_losing hload]
  cases hloaded : (session.load id s).1 with
  | none => rfl
  | some entity =>
    obtain ⟨hkeyed', hget⟩ := h.stored_prepared hkeyed hloaded delta
    dsimp only [applyRule]
    rw [hmatching]
    -- Only an update reads the entity again.
    cases session.task.matching with
    | update => exact actOn_losing fun delta' _ => update_losing h.toEmploys hkeyed' hget
    | ignore => rfl
    | deprovision => exact actOn_losing fun _ _ => rfl
    | unassign => exact actOn_losing fun _ _ => rfl
    | link => exact actOn_losing fun _ _ => rfl
    | unlink => exact actOn_losing fun _ _ => rfl

theorem meet_losing (h : session.Uninterrupted office) (hkeyed : (office.get s.world).entities.Keyed)
    {subject : Subject} (hload : ∀ id, subject.id? = some id → lost session.task.subjectType id s.world = none) :
    (session.losing lost).meet delta subject s = session.meet delta subject s := by
  cases subject with
  | unknown hook => rw [meet, meet, create_losing]
  | present id => exact h.visit_losing hkeyed (hload id rfl)
  | gone id =>
    simp only [meet, bind_apply, load_losing (hload id rfl)]
    cases (session.load id s).1 with
    | none => rfl
    | some entity => exact actOn_losing fun _ _ => rfl

/-- Entities stay filed under their keys from one encounter to the next. -/
theorem keyed_encounters (h : session.Uninterrupted office) (delta : Delta)
    (hkeyed : (office.get s.world).entities.Keyed) :
    ∀ encounter ∈ session.encounters delta s, (office.get encounter.before.world).entities.Keyed := by
  refine (handle_invariant (P := fun s => (office.get s.world).entities.Keyed) ?_ fun encounter hencounter => ?_).1
  · exact (keeps_correlate h.attends delta s).1 hkeyed
  · obtain ⟨hsession, -⟩ := session_of_mem_encounters hencounter
    exact (keeps_meet (hsession ▸ h.keeps) encounter.delta encounter.subject encounter.before).1

/-- A delta is handled in the same way if entities cannot be read again, as long as they can be loaded. -/
theorem handle_losing (h : session.Uninterrupted office) (hkeyed : (office.get s.world).entities.Keyed)
    (hloads : ∀ encounter ∈ session.encounters delta s, ∀ id, encounter.subject.id? = some id →
      lost session.task.subjectType id encounter.before.world = none) :
    (session.losing lost).handle delta s = session.handle delta s := by
  have hmet := h.keyed_encounters delta hkeyed
  have hcorrelate : (session.losing lost).correlate delta s = session.correlate delta s := rfl
  rw [handle_eq_forEach_meet, handle_eq_forEach_meet, hcorrelate]
  unfold encounters at hmet hloads
  generalize session.correlate delta s = correlated at hmet hloads ⊢
  obtain ⟨answer, s'⟩ := correlated
  cases answer with
  | error error => rfl
  | ok ids =>
    simp only [Effect.onSuccess, List.forall_mem_map] at hmet hloads
    exact forEach_congr fun pair hpair => h.meet_losing (hmet pair hpair) (hloads pair hpair)

end Uninterrupted

/-- When a delta meets an entity, an update is granted: the entity is loaded, the hooks leave a delta that changes it,
and the workflow carries out the change. -/
structure Granted (session : Session σ) (delta : Delta) (id : Nat) (s : RunState σ) (entity : Entity) (delta' : Delta)
    (report : WorkflowReport) (asked : RunState σ) : Prop where
  live : session.dryRun = false
  matching : session.task.matching = .update
  loaded : (session.load id s).1 = some entity
  prepared : (session.beforeExisting .update entity session.engine.hooks delta (session.load id s).2).1 = .ok delta'
  changed : (session.mapping.diff entity delta'.attributes).isEmpty = false
  granted : onWorld (session.engine.workflow.update session.task.subjectType entity.id
      (session.mapping.diff entity delta'.attributes))
    (session.beforeExisting .update entity session.engine.hooks delta (session.load id s).2).2 = (.ok report, asked)

namespace Granted

variable {id : Nat} {delta' : Delta}

/-- The tasks that follow a granted update are propagated, and then the update is finished. -/
theorem visit_eq (hgranted : session.Granted delta id s entity delta' report asked) :
    let patch := session.mapping.diff entity delta'.attributes
    session.visit delta id s = session.finish delta' entity (session.result .update report.id report.name)
      (session.propagate (session.followUps entity patch report asked) (session.reread entity patch asked).2).2 := by
  simp only [visit, bind_apply, hgranted.loaded, applyRule, hgranted.matching]
  rw [actOn_of_live hgranted.live hgranted.prepared, update_of_granted hgranted.changed hgranted.granted]

/-- The patched copy of the loaded entity is what is stored. -/
theorem stored (hgranted : session.Granted delta id s entity delta' report asked) (h : session.Uninterrupted office)
    (hkeyed : (office.get s.world).entities.Keyed) :
    (office.get asked.world).entities.get? session.task.subjectType entity.id =
      some ((session.mapping.diff entity delta'.attributes).apply entity) := by
  obtain ⟨hkeyed', hget⟩ := h.stored_prepared hkeyed hgranted.loaded delta
  exact get?_of_granted h.toEmploys hkeyed' hget hgranted.granted

end Granted

/-- It makes no difference to the handling of a delta whether entities can be read again after their updates: the
answer, what is recorded, what becomes of the propagation and the whole world are the same.  For after every granted
update the patched copy of the loaded entity is what is stored, so the tasks lead to it whether it is read or not. -/
theorem handle_indifferent_to_reread (h : session.Uninterrupted office)
    (hkeyed : (office.get s.world).entities.Keyed) (lost : SubjectType → Nat → σ → Option LostRead) (delta : Delta)
    (hloads : ∀ encounter ∈ session.encounters delta s, ∀ id, encounter.subject.id? = some id →
      lost session.task.subjectType id encounter.before.world = none) :
    (session.losing lost).handle delta s = session.handle delta s ∧
      ∀ encounter ∈ session.encounters delta s, ∀ (id : Nat) (entity : Entity) (delta' : Delta)
        (report : WorkflowReport) (asked : RunState σ), encounter.subject = .present id →
          session.Granted delta id encounter.before entity delta' report asked →
            let patch := session.mapping.diff entity delta'.attributes
            let tasks := Propagation.updateTasks session.engine.registry entity (patch.apply entity) report.affected
              session.ownResource
            (office.get asked.world).entities.get? session.task.subjectType entity.id = some (patch.apply entity) ∧
              session.followUps entity patch report asked = tasks ∧
              (session.losing lost).followUps entity patch report asked = tasks ∧
              encounter.step encounter.before =
                session.finish delta' entity (session.result .update report.id report.name)
                  (session.propagate tasks (session.reread entity patch asked).2).2 := by
  refine ⟨h.handle_losing hkeyed hloads, ?_⟩
  intro encounter hencounter id entity delta' report asked hsubject hgranted patch tasks
  have hstored := hgranted.stored h (h.keyed_encounters delta hkeyed encounter hencounter)
  obtain ⟨htasks, hlosing⟩ := followUps_of_stored lost h.toEmploys report hstored
  refine ⟨hstored, htasks, hlosing.trans htasks, ?_⟩
  obtain ⟨hsession, hdelta⟩ := session_of_mem_encounters hencounter
  rw [Encounter.step, hsession, hdelta, hsubject, meet, hgranted.visit_eq, htasks]

end Session

end Reconciliation

end Provisioning

/-! ## A user who is renamed while the repository goes down -/

namespace Provisioning.Memory.Premises

open Reconciliation

/-- A second resource with users. -/
def archive : Resource Premises :=
  { resource plainConnector with
    name := "archive"
    mappings := (PerSubject.const none).set .user (some { userMapping with resource := "archive" }) }

/-- An extension that adds a user after every action. -/
def recruiter : Hooks Premises where
  after _ _ _ _ := officeLens.zoom fun office => (.ok (), (office.save { name := "temp" }).2)

theorem recruiter_keeps : recruiter.Keeps (Office.filing.onPart officeLens.get) where
  beforeAll _ _ := Frame.keeps_ok ()
  beforeNew _ _ _ _ _ := Frame.keeps_pure _
  beforeExisting _ _ _ _ _ := Frame.keeps_ok _
  after _ _ _ _ _ _ hkeyed := hkeyed.insert { name := "temp" }
  afterAll _ _ := Frame.keeps_ok ()

/-- The session that imports users, who may be linked to the second resource as well. -/
def archiving : Session Premises :=
  { importing with engine := { engine ((registry plainConnector).insert archive) with hooks := [recruiter] } }

theorem plainConnector_keeps : plainConnector.Keeps (Office.filing.onPart officeLens.get) :=
  (Directory.connector_keeps_filing "directory" "uid").within fun _ _ _ hkeyed => hkeyed

theorem archiving_uninterrupted : archiving.Uninterrupted officeLens where
  stores _ _ := rfl
  repository := rfl
  workflow := rfl
  attends :=
    { registry := (registry_keeps plainConnector_keeps).insert plainConnector_keeps
      audit := fun _ => Frame.keeps_ok ()
      notifications := fun _ => Frame.keeps_ok ()
      find := fun _ _ _ hkeyed => hkeyed
      correlation := fun _ _ _ hkeyed => hkeyed
      hooks := List.forall_mem_singleton.mpr recruiter_keeps
      connector := plainConnector_keeps }
  beforeUpdate := List.forall_mem_singleton.mpr fun _ _ _ => Frame.keeps_ok _

/-- A user of the second resource. -/
def enlisted : Premises :=
  { staff with office := { entities := (Entities.insert {} { name := "ada", resources := {"archive"} }).2 } }

/-- Nothing can be read any more once a request was made. -/
def brittle (_ : SubjectType) (_ : Nat) (world : Premises) : Option LostRead :=
  if world.office.requests.calls.isEmpty then none else some (.fails (.other "database down"))

/-- The new name is propagated although the user cannot be read again. -/
theorem rename_propagated_unread :
    let handled := (archiving.losing brittle).handle rename { world := enlisted }
    handled = archiving.handle rename { world := enlisted } ∧ (brittle .user 1 handled.2.world).isSome = true ∧
      handled.2.propagation.map Propagation.Report.status = [.success] ∧
      (handled.2.world.office.entities.all .user).map Entity.name = ["eve", "temp"] ∧
      handled.2.world.directory.objects["ada"]? = none ∧
      handled.2.world.directory.objects["eve"]?.isSome = true := by
  intro handled
  have hcalls : ∀ calls ∈ (archiving.encounters rename { world := enlisted }).map
      (fun encounter => encounter.before.world.office.requests.calls), calls = [] := by
    decide +kernel
  have hkeyed : (officeLens.get ({ world := enlisted } : RunState Premises).world).entities.Keyed :=
    Entities.keyed_empty.insert { name := "ada", resources := {"archive"} }
  obtain ⟨hsame, -⟩ := Session.handle_indifferent_to_reread archiving_uninterrupted hkeyed brittle rename
    fun encounter hencounter _ _ => by
      have hnone := hcalls _ (List.mem_map_of_mem hencounter)
      simp only [brittle, hnone, List.isEmpty_nil, if_true]
  refine ⟨hsame, ?_, ?_, ?_, ?_, ?_⟩ <;> decide +kernel

end Provisioning.Memory.Premises
