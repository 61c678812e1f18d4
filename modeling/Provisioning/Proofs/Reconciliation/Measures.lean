import Provisioning.Proofs.Reconciliation.Encounters
set_option autoImplicit false

/-!
# Measures

Whatever is done with an entity that a delta meets has the same frame.  A measure says what differs from one rule to
another: the hook before the action, the result that the action starts from, and the action itself.
-/

namespace Provisioning.Reconciliation

variable {σ : Type}

/-- What is done with an entity. -/
structure Measure (σ : Type) where
  /-- The hook that is called before the action. -/
  hook : ExistingHook
  /-- What is reported if the action changes nothing of it. -/
  base : Result
  /-- The action, given the delta as the hooks left it. -/
  act : Delta → Step σ (Option Result)

namespace Session

/-- The measure that is taken for a subject and its entity.  There is none for an object that is not known, nor for an
entity that is to be ignored. -/
def measure? (session : Session σ) (entity : Entity) : Subject → Option (Measure σ)
  | .unknown _ => none
  | .present _ =>
    let base (operation : Operation) := session.result operation entity.id entity.name
    match session.task.matching with
    | .ignore => none
    | .update => some { hook := .update, base := base .update, act := session.update entity (base .update) }
    | .deprovision => some
        { hook := .deprovision
          base := base .delete
          act := fun _ => some <$> session.deprovision entity (base .delete) }
    | .unassign => some
        { hook := .unassign, base := base .delete, act := fun _ => session.unassign entity (base .delete) }
    | .link => some
        { hook := .link
          base := base .none
          act := fun _ => session.relink entity (Patch.link session.task.resource) (base .none) }
    | .unlink => some
        { hook := .unlink
          base := base .none
          act := fun _ => session.relink entity (Patch.unlink session.task.resource) (base .none) }
  | .gone id =>
    let base := session.result .delete id entity.name
    some { hook := .delete, base, act := fun _ => session.remove entity id base }

/-- Take the measure for a subject and its entity; an entity without one is reported as it is. -/
def treat (session : Session σ) (delta : Delta) (subject : Subject) (entity : Entity) :
    Step σ (Except SyncError Unit) :=
  match session.measure? entity subject with
  | none => do
    session.record (session.result .none entity.id entity.name)
    pure (.ok ())
  | some measure => session.actOn measure.hook measure.base delta entity measure.act

theorem treat_of_some {session : Session σ} {entity : Entity} {subject : Subject} {measure : Measure σ}
    (h : session.measure? entity subject = some measure) (delta : Delta) :
    session.treat delta subject entity = session.actOn measure.hook measure.base delta entity measure.act := by
  simp only [treat, h]

theorem treat_of_none {session : Session σ} {entity : Entity} {subject : Subject}
    (h : session.measure? entity subject = none) (delta : Delta) (s : RunState σ) :
    session.treat delta subject entity s =
      (.ok (), (session.record (session.result .none entity.id entity.name) s).2) := by
  simp only [treat, h, bind_apply, pure_apply]

/-- Meeting a known entity is reading it and taking the measure for it. -/
theorem meet_eq_treat (session : Session σ) {subject : Subject} {id : Nat} (hid : subject.id? = some id) (delta : Delta)
    (s : RunState σ) :
    session.meet delta subject s =
      match (session.load id s).1 with
      | none => (.ok (), (session.load id s).2)
      | some entity => session.treat delta subject entity (session.load id s).2 := by
  cases subject with
  | unknown hook => cases hid
  | present _ =>
    cases hid
    simp only [meet, visit, bind_apply]
    cases (session.load id s).1 with
    | none => rfl
    | some entity =>
      simp only [applyRule, treat, measure?]
      cases session.task.matching <;> rfl
  | gone _ =>
    cases hid
    simp only [meet, bind_apply]
    cases (session.load id s).1 <;> rfl

/-- The action of a measure keeps every frame that the systems of the session keep. -/
theorem keeps_measure {session : Session σ} {frame : Provisioning.Frame σ} (h : session.Keeps frame) {entity : Entity}
    {subject : Subject} {measure : Measure σ} (hmeasure : session.measure? entity subject = some measure)
    (delta : Delta) : frame.aside.Keeps (measure.act delta) := by
  cases subject with
  | unknown hook => cases hmeasure
  | gone id =>
    cases hmeasure
    exact keeps_remove h entity id _
  | present id =>
    simp only [measure?] at hmeasure
    cases hmatching : session.task.matching <;> simp only [hmatching, Option.some.injEq, reduceCtorEq] at hmeasure <;>
      subst hmeasure
    case update => exact keeps_update h entity _ delta
    case deprovision => exact (keeps_deprovision h.toQuiet entity _).map some
    case unassign => exact keeps_unassign h entity _
    all_goals exact keeps_relink h entity _ _

/-! ## The frame of an action -/

section Frame

variable {session : Session σ} {hook : ExistingHook} {base : Result} {delta delta' : Delta} {entity : Entity}
  {act : Delta → Step σ (Option Result)} {s : RunState σ}

/-- If a hook before it fails, nothing comes of an action but that failure. -/
theorem actOn_of_error {error : SyncError}
    (h : (session.beforeExisting hook entity session.engine.hooks delta s).1 = .error error) :
    session.actOn hook base delta entity act s =
      session.hookFailed error base (session.beforeExisting hook entity session.engine.hooks delta s).2 := by
  simp only [actOn, bind_apply, h]

/-- If the run only pretends, the action is left out. -/
theorem actOn_of_dry (hdry : session.dryRun = true)
    (h : (session.beforeExisting hook entity session.engine.hooks delta s).1 = .ok delta') :
    session.actOn hook base delta entity act s =
      session.finish delta' entity base (session.beforeExisting hook entity session.engine.hooks delta s).2 := by
  simp only [actOn, bind_apply, h, hdry, if_true]

/-- The action works with the delta that the hooks leave, and finishes with its result if it has one. -/
theorem actOn_of_live (hlive : session.dryRun = false)
    (h : (session.beforeExisting hook entity session.engine.hooks delta s).1 = .ok delta') :
    session.actOn hook base delta entity act s =
      let acted := act delta' (session.beforeExisting hook entity session.engine.hooks delta s).2
      match acted.1 with
      | none => (.ok (), acted.2)
      | some result => session.finish delta' entity result acted.2 := by
  simp only [actOn, bind_apply, h, hlive, Bool.false_eq_true, if_false]
  cases (act delta' (session.beforeExisting hook entity session.engine.hooks delta s).2).1 <;> rfl

/-- If a hook before it fails, nothing comes of the creation of an entity but that failure. -/
theorem create_of_error {hook : NewHook} {error : SyncError}
    (h : (session.beforeNew hook session.engine.hooks delta (session.newEntity hook delta) s).1 =
      (.error error, entity)) :
    session.create hook delta s = session.hookFailed error (session.result .create 0 entity.name)
      (session.beforeNew hook session.engine.hooks delta (session.newEntity hook delta) s).2 := by
  simp only [create, bind_apply, h]

/-- If the run only pretends, the entity is reported without an id. -/
theorem create_of_dry {hook : NewHook} (hdry : session.dryRun = true)
    (h : (session.beforeNew hook session.engine.hooks delta (session.newEntity hook delta) s).1 =
      (.ok delta', entity)) :
    session.create hook delta s = session.finish delta' entity (session.result .create 0 entity.name)
      (session.beforeNew hook session.engine.hooks delta (session.newEntity hook delta) s).2 := by
  simp only [create, bind_apply, h, hdry, if_true]

end Frame

end Session

end Provisioning.Reconciliation
