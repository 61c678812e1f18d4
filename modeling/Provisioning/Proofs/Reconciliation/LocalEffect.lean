import Provisioning.Proofs.Reconciliation.Office
import Provisioning.Proofs.Reconciliation.Redelivery
set_option autoImplicit false

/-!
# The local effect of a delta

With hooks that pass everything on as it is, handling a delta does to the repository what the rules of the task say,
and nothing else: each of the correlated entities that is there is revised, or one entity is admitted under an id
that was never in use.
-/

namespace Provisioning

open Memory

variable {σ : Type} {office : Lens σ Office}

namespace Reconciliation

/-- An extension that passes on what it is given, whatever else it does. -/
structure Hooks.Passive (hooks : Hooks σ) : Prop where
  beforeNew : ∀ (hook : NewHook) (profile : Profile σ) (delta : Delta) (entity : Entity) (world : σ),
    (hooks.beforeNew hook profile delta entity world).1 = (.ok delta, entity)
  beforeExisting : ∀ (hook : ExistingHook) (profile : Profile σ) (delta : Delta) (entity : Entity) (world : σ),
    (hooks.beforeExisting hook profile delta entity world).1 = .ok delta
  after : ∀ (profile : Profile σ) (delta : Delta) (entity : Entity) (result : Result) (world : σ),
    (hooks.after profile delta entity result world).1 = .ok ()

namespace Session

variable {session : Session σ} {delta : Delta} {entity : Entity} {s : RunState σ}

/-! ## Passive hooks -/

theorem beforeNew_of_passive {hooks : List (Hooks σ)} (h : ∀ one ∈ hooks, one.Passive) (hook : NewHook) (delta : Delta)
    (entity : Entity) (s : RunState σ) : (session.beforeNew hook hooks delta entity s).1 = (.ok delta, entity) := by
  induction hooks generalizing s with
  | nil => rfl
  | cons one rest ih =>
    have hone := (h one List.mem_cons_self).beforeNew hook (session.profile s) delta entity s.world
    simp only [beforeNew, bind_apply, get_apply, onWorld_apply, hone]
    exact ih (fun other hother => h other (List.mem_cons_of_mem one hother)) _

theorem beforeExisting_of_passive {hooks : List (Hooks σ)} (h : ∀ one ∈ hooks, one.Passive) (hook : ExistingHook)
    (entity : Entity) (delta : Delta) (s : RunState σ) :
    (session.beforeExisting hook entity hooks delta s).1 = .ok delta := by
  induction hooks generalizing s with
  | nil => rfl
  | cons one rest ih =>
    have hone := (h one List.mem_cons_self).beforeExisting hook (session.profile s) delta entity s.world
    unfold beforeExisting
    simp only [onWorld_apply, hone]
    exact ih (fun other hother => h other (List.mem_cons_of_mem one hother)) _

theorem runAfter_of_passive {hooks : List (Hooks σ)} (h : ∀ one ∈ hooks, one.Passive) (delta : Delta) (entity : Entity)
    (result : Result) (s : RunState σ) : (session.runAfter delta entity result hooks s).1 = none := by
  induction hooks generalizing s with
  | nil => rfl
  | cons one rest ih =>
    have hone := (h one List.mem_cons_self).after (session.profile s) delta entity result s.world
    have hrest := ih fun other hother => h other (List.mem_cons_of_mem one hother)
    simp only [runAfter, bind_apply, get_apply, onWorld_apply, hone, hrest, pure_apply]

/-- Every extension of the session is passive. -/
def Passive (session : Session σ) : Prop := ∀ hooks ∈ session.engine.hooks, hooks.Passive

/-- With passive hooks an action is finished without an error. -/
theorem finish_of_passive (h : session.Passive) (delta : Delta) (entity : Entity) (result : Result) (s : RunState σ) :
    (session.finish delta entity result s).1 = .ok () := by
  simp only [finish, bind_apply, runAfter_of_passive h, pure_apply]

/-! ## Known entities -/

/-- A measure revises the entity for which it is taken, and the workflow is as willing as before. -/
theorem actOn_of_passive (h : session.Entrusts office) (hpassive : session.Passive) (hlive : session.dryRun = false)
    {subject : Subject} (hid : subject.id? = some entity.id) {measure : Measure σ}
    (hmeasure : session.measure? entity subject = some measure) (delta : Delta)
    (hwilling : (office.get s.world).requests.failing = none) (hkeyed : (office.get s.world).entities.Keyed)
    (hget : (office.get s.world).entities.get? session.task.subjectType entity.id = some entity) :
    let acted := session.actOn measure.hook measure.base delta entity measure.act s
    acted.1 = .ok () ∧ (office.get acted.2.world).requests.failing = none ∧
      Entities.Revised session.task.subjectType [entity.id] (session.revision delta subject)
        (office.get s.world).entities (office.get acted.2.world).entities := by
  have hanswer : (session.beforeExisting measure.hook entity session.engine.hooks delta s).1 = .ok delta :=
    beforeExisting_of_passive hpassive measure.hook entity delta s
  have hbefore := h.office_beforeExisting measure.hook entity delta s
  rw [← hbefore] at hwilling hkeyed hget ⊢
  rw [actOn_of_live hlive hanswer]
  generalize (session.beforeExisting measure.hook entity session.engine.hooks delta s).2 = s' at hwilling hkeyed hget ⊢
  obtain ⟨hfailing, -⟩ := h.measure_asking hmeasure delta s'
  obtain ⟨hresult, hrevised⟩ := measure_carriesOut h hid hmeasure delta s' hkeyed hget (.inl hwilling)
  simp only [hresult, finish_of_passive hpassive, h.office_finish]
  exact ⟨trivial, hfailing.trans hwilling, hrevised⟩

/-- What meeting a known entity does to the repository: the entity is revised, if it is there. -/
theorem meet_revises (h : session.Entrusts office) (hpassive : session.Passive) (hlive : session.dryRun = false)
    {subject : Subject} {id : Nat} (hid : subject.id? = some id) (delta : Delta)
    (hwilling : (office.get s.world).requests.failing = none) (hkeyed : (office.get s.world).entities.Keyed) :
    let met := session.meet delta subject s
    met.1 = .ok () ∧ (office.get met.2.world).requests.failing = none ∧
      Entities.Revised session.task.subjectType [id] (session.revision delta subject)
        (office.get s.world).entities (office.get met.2.world).entities := by
  obtain ⟨hfound, hoffice⟩ := h.load_spec id s
  rw [meet_eq_treat session hid, hfound]
  rw [← hoffice] at hwilling hkeyed ⊢
  generalize (session.load id s).2 = s' at hwilling hkeyed ⊢
  cases hget : (office.get s'.world).entities.get? session.task.subjectType id with
  | none =>
    refine ⟨rfl, hwilling, .of_unchanged fun other hother => ?_⟩
    cases List.mem_singleton.mp hother
    rw [hget, Option.bind_none]
  | some entity =>
    obtain ⟨-, rfl, -⟩ := hkeyed _ _ _ hget
    cases hmeasure : session.measure? entity subject with
    | some measure =>
      dsimp only
      rw [treat_of_some hmeasure]
      exact actOn_of_passive h hpassive hlive hid hmeasure delta hwilling hkeyed hget
    | none =>
      have hleft : session.revision delta subject entity = some entity := revision_of_measure_eq_none hmeasure
      dsimp only
      rw [treat_of_none hmeasure, h.office_record]
      refine ⟨rfl, hwilling, .of_unchanged fun other hother => ?_⟩
      cases List.mem_singleton.mp hother
      rw [hget, Option.bind_some, hleft]

/-- Whatever revises an entity keeps the repository in order. -/
theorem meet_of_passive (h : session.Entrusts office) (hpassive : session.Passive) (hlive : session.dryRun = false)
    {subject : Subject} {id : Nat} (hid : subject.id? = some id) (delta : Delta)
    (hsound : (office.get s.world).Sound) :
    let met := session.meet delta subject s
    met.1 = .ok () ∧ (office.get met.2.world).Sound ∧
      Entities.Revised session.task.subjectType [id] (session.revision delta subject)
        (office.get s.world).entities (office.get met.2.world).entities := by
  obtain ⟨hok, hwilling, hrevised⟩ := meet_revises h hpassive hlive hid delta hsound.willing hsound.keyed
  exact ⟨hok, ⟨hwilling, hrevised.keyed hsound.keyed fun _ _ => revision_key, hrevised.numbered hsound.numbered⟩,
    hrevised⟩

/-- Meeting known entities one after the other revises each of them, if no two of them are the same. -/
theorem forEach_meet_of_passive (h : session.Entrusts office) (hpassive : session.Passive)
    (hlive : session.dryRun = false) (subject : Nat → Subject) (hid : ∀ id, (subject id).id? = some id)
    {revise : Entity → Option Entity} (hrevise : ∀ id, session.revision delta (subject id) = revise) {ids : List Nat}
    (hdistinct : ids.Nodup) (hsound : (office.get s.world).Sound) :
    let met := forEach (session.meet delta) (ids.map subject) s
    met.1 = .ok () ∧ (office.get met.2.world).Sound ∧
      Entities.Revised session.task.subjectType ids revise (office.get s.world).entities
        (office.get met.2.world).entities := by
  induction ids generalizing s with
  | nil => exact ⟨rfl, hsound, .of_unchanged fun id hid => nomatch hid⟩
  | cons id rest ih =>
    obtain ⟨hnew, hrest⟩ := List.nodup_cons.mp hdistinct
    obtain ⟨hok, hsound', hfirst⟩ := meet_of_passive h hpassive hlive (hid id) delta hsound
    obtain ⟨hok', hsound'', hlater⟩ := ih hrest hsound'
    rw [hrevise] at hfirst
    simp only [List.map_cons, forEach, Effect.andThen_apply, hok]
    exact ⟨hok', hsound'', hfirst.cons hnew hlater⟩

/-! ## New entities -/

/-- One entity has been admitted, the one that the delta describes, under the id that was the next to be handed out.
That id was not in use for entities of any type, and nothing else has been touched. -/
structure Admitted (session : Session σ) (hook : NewHook) (delta : Delta) (before after : Entities) : Prop where
  lastId : after.lastId = before.lastId + 1
  fresh : ∀ t, before.get? t (before.lastId + 1) = none
  /-- Only an assigned entity is linked, and only to the resource that it came from. -/
  links : (session.newEntity hook delta).resources =
    match hook with
    | .create => ∅
    | .assign => {session.task.resource}
  reads : ∀ (t : SubjectType) (id : Nat), after.get? t id =
    if t = session.mapping.subjectType ∧ id = before.lastId + 1 then
      some { session.newEntity hook delta with id := before.lastId + 1 }
    else before.get? t id

theorem resources_newEntity (session : Session σ) (hook : NewHook) (delta : Delta) :
    (session.newEntity hook delta).resources =
      match hook with
      | .create => ∅
      | .assign => {session.task.resource} := by
  have hnone := Mapping.resources_toEntity session.mapping delta.attributes
  unfold newEntity Entity.link
  cases hook <;> dsimp only <;> split <;> simp only [hnone] <;> rfl

/-- Storing the entity that a delta describes admits it. -/
theorem admitted_insert (session : Session σ) (hook : NewHook) (delta : Delta) {entities : Entities}
    (hnumbered : entities.Numbered) :
    session.Admitted hook delta entities (entities.insert (session.newEntity hook delta)).2 := by
  obtain ⟨hid, htype⟩ := newEntity_key session hook delta
  refine ⟨?_, fun t => ?_, resources_newEntity session hook delta, fun t id => ?_⟩
  · rw [Entities.lastId_insert, if_pos hid]
  · refine Option.eq_none_iff_forall_ne_some.mpr fun entity hget => ?_
    have hle := hnumbered t _ entity hget
    omega
  · have hstored : (entities.insert (session.newEntity hook delta)).1 =
        { session.newEntity hook delta with id := entities.lastId + 1 } := by
      rw [Entities.insert_fst, if_pos hid]
    rw [Entities.get?_insert, hstored]
    simp only [htype, @eq_comm _ session.mapping.subjectType, @eq_comm _ (entities.lastId + 1)]

theorem create_of_passive (h : session.Entrusts office) (hpassive : session.Passive) (hlive : session.dryRun = false)
    (hook : NewHook) (delta : Delta) (hsound : (office.get s.world).Sound) :
    let created := session.create hook delta s
    created.1 = .ok () ∧ (office.get created.2.world).Sound ∧
      session.Admitted hook delta (office.get s.world).entities (office.get created.2.world).entities := by
  intro created
  have hanswer : (session.beforeNew hook session.engine.hooks delta (session.newEntity hook delta) s).1 =
      (.ok delta, session.newEntity hook delta) := beforeNew_of_passive hpassive hook delta _ s
  obtain ⟨id, hcreate⟩ := h.create_of_granted hlive hanswer hsound.willing
  have hok : created.1 = .ok () := by
    simp only [created, hcreate, finish_of_passive hpassive]
  have hoffice : office.get created.2.world = (Office.create (session.newEntity hook delta) (office.get s.world)).2 :=
    h.office_create hlive hanswer
  obtain ⟨-, hentities, hwilling⟩ := Office.create_granted hsound.willing (session.newEntity hook delta)
  have hadmitted := admitted_insert session hook delta hsound.numbered
  obtain ⟨hid, -⟩ := newEntity_key session hook delta
  rw [← hoffice] at hentities hwilling
  rw [← hentities] at hadmitted
  exact ⟨hok, hsound.of_inserted hwilling hentities (hid ▸ Nat.zero_le _), hadmitted⟩

/-! ## Deltas -/

/-- What handling a delta that is correlated to some ids does to the repository. -/
def LocalEffect (session : Session σ) (delta : Delta) (ids : List Nat) (before after : Entities) : Prop :=
  match delta.kind, ids with
  | .createOrUpdate, [] =>
    match session.task.unmatching with
    | .ignore => after = before
    | .assign => session.Admitted .assign delta before after
    | .provision => session.Admitted .create delta before after
  | .createOrUpdate, ids =>
    Entities.Revised session.task.subjectType ids (fun entity => some (session.revised delta entity)) before after
  | .delete, ids => Entities.Revised session.task.subjectType ids (fun _ => none) before after

/-- Meeting the subjects of a delta has its local effect. -/
theorem forEach_subjects_of_passive (h : session.Entrusts office) (hpassive : session.Passive)
    (hlive : session.dryRun = false) (hcreate : session.task.mayCreate = true)
    (hupdate : session.task.mayUpdate = true) (hdelete : session.task.mayDelete = true) (delta : Delta)
    {ids : List Nat} (hdistinct : ids.Nodup) (hsound : (office.get s.world).Sound) :
    let met := forEach (session.meet delta) (session.subjects delta ids) s
    met.1 = .ok () ∧ (office.get met.2.world).Sound ∧
      session.LocalEffect delta ids (office.get s.world).entities (office.get met.2.world).entities := by
  unfold subjects LocalEffect
  cases delta.kind with
  | delete =>
    simp only [hdelete, if_true]
    exact forEach_meet_of_passive h hpassive hlive .gone (fun _ => rfl) (fun _ => rfl) hdistinct hsound
  | createOrUpdate =>
    cases ids with
    | cons id rest =>
      simp only [hupdate, if_true]
      exact forEach_meet_of_passive h hpassive hlive .present (fun _ => rfl) (fun _ => rfl) hdistinct hsound
    | nil =>
      simp only [newHook?, hcreate, if_true]
      cases session.task.unmatching with
      | ignore => exact ⟨rfl, hsound, rfl⟩
      | assign => exact forEach_singleton (session.meet delta) (.unknown .assign) ▸
          create_of_passive h hpassive hlive .assign delta hsound
      | provision => exact forEach_singleton (session.meet delta) (.unknown .create) ▸
          create_of_passive h hpassive hlive .create delta hsound

/-- Handling a delta succeeds, leaves the repository in order, and has its local effect there: every correlated entity
is revised as the rules of the task say or one new entity is admitted, and nothing else is touched. -/
theorem handle_local_effect (h : session.Entrusts office) (hpassive : session.Passive)
    (hlive : session.dryRun = false) (hcreate : session.task.mayCreate = true)
    (hupdate : session.task.mayUpdate = true) (hdelete : session.task.mayDelete = true) (delta : Delta)
    {s : RunState σ} (hsound : (office.get s.world).Sound)
    (hdistinct : ∀ ids, (session.correlate delta s).1 = .ok ids → ids.Nodup) :
    let handled := session.handle delta s
    let before := (office.get s.world).entities
    let after := (office.get handled.2.world).entities
    handled.1 = .ok () ∧ (office.get handled.2.world).Sound ∧
      (∀ error, (session.correlate delta s).1 = .error error → after = before) ∧
      (∀ ids, (session.correlate delta s).1 = .ok ids → session.LocalEffect delta ids before after) ∧
      ∀ entity,
        (session.task.matching = .update → (session.revised delta entity).resources = entity.resources) ∧
        (session.task.matching ≠ .update →
          { session.revised delta entity with resources := entity.resources } = entity) := by
  have hoffice := h.office_correlate delta s
  simp only [handle_eq_forEach_meet]
  rw [← hoffice] at hsound ⊢
  generalize session.correlate delta s = correlated at hsound hdistinct ⊢
  obtain ⟨answer, s'⟩ := correlated
  cases answer with
  | error error => exact ⟨rfl, hsound, fun _ _ => rfl, fun _ hok => (nomatch hok), session.revised_links delta⟩
  | ok ids =>
    obtain ⟨hok, hsound', heffect⟩ := forEach_subjects_of_passive h hpassive hlive hcreate hupdate hdelete delta
      (hdistinct ids rfl) hsound
    refine ⟨hok, hsound', fun _ herror => (nomatch herror), fun other hother => ?_, session.revised_links delta⟩
    cases hother
    exact heffect

end Session

end Reconciliation

end Provisioning

/-! ## A user whose account is renamed -/

namespace Provisioning.Memory.Premises

open Reconciliation

/-- The session that imports users, with extensions. -/
def attended (hooks : List (Hooks Premises)) : Session Premises :=
  { importing with engine := { importing.engine with hooks } }

theorem attended_entrusts {hooks : List (Hooks Premises)}
    (hhooks : ∀ one ∈ hooks, one.Keeps (Frame.unchanged officeLens.get)) :
    (attended hooks).Entrusts officeLens where
  stores _ _ := rfl
  repository := rfl
  workflow := rfl
  attends :=
    { registry := workplace_surveys.quiet.registry
      audit := workplace_surveys.quiet.audit
      notifications := workplace_surveys.quiet.notifications
      find := fun _ _ _ => rfl
      correlation := fun _ _ _ => rfl
      hooks := hhooks
      connector := (Directory.connector_keeps_filing "directory" "uid").within fun _ _ _ => rfl }

/-- An extension that leaves everything out. -/
def bystander : Hooks Premises := {}

theorem bystander_keeps (frame : Frame Premises) : bystander.Keeps frame where
  beforeAll _ _ := Frame.keeps_ok ()
  beforeNew _ _ _ _ _ := Frame.keeps_pure _
  beforeExisting _ _ _ _ _ := Frame.keeps_ok _
  after _ _ _ _ _ := Frame.keeps_ok ()
  afterAll _ _ := Frame.keeps_ok ()

theorem bystander_passive : bystander.Passive := ⟨fun _ _ _ _ _ => rfl, fun _ _ _ _ _ => rfl, fun _ _ _ _ _ => rfl⟩

/-- The session that imports users, with that extension. -/
def overseen : Session Premises := attended [bystander]

theorem overseen_entrusts : overseen.Entrusts officeLens :=
  attended_entrusts (List.forall_mem_singleton.mpr (bystander_keeps _))

/-- The user of the renamed account takes the new name, in its place. -/
theorem renamed_in_place :
    let handled := overseen.handle rename { world := staff }
    handled.1 = .ok () ∧ (officeLens.get handled.2.world).Sound ∧
      Entities.Revised .user [1] (fun entity => some (overseen.revised rename entity)) staff.office.entities
        (officeLens.get handled.2.world).entities ∧
      ((officeLens.get handled.2.world).entities.get? .user 1).map Entity.name = some "eve" := by
  intro handled
  have hpassive : overseen.Passive := List.forall_mem_singleton.mpr bystander_passive
  have hsound : (officeLens.get ({ world := staff } : RunState Premises).world).Sound := staff_sound
  have hcorrelated : (overseen.correlate rename { world := staff }).1 = .ok [1] := by decide +kernel
  have hdistinct : ∀ ids, (overseen.correlate rename { world := staff }).1 = .ok ids → ids.Nodup := by
    intro ids hids
    cases hcorrelated.symm.trans hids
    exact List.nodup_singleton 1
  obtain ⟨hok, hsound', -, heffect, -⟩ :=
    Session.handle_local_effect overseen_entrusts hpassive rfl rfl rfl rfl rename hsound hdistinct
  exact ⟨hok, hsound', heffect [1] hcorrelated, by decide +kernel⟩

end Provisioning.Memory.Premises
