import Provisioning.Proofs.Reconciliation.LocalEffect
set_option autoImplicit false

/-!
# Entities without a name

An object that comes without a name is received under its identifier.  An update has no such resort: an entity takes
the empty name if the delta gives it one.  Without hooks there is no other way for an entity to lose its name, so one
that has none at some point of a run has met such a delta.
-/

namespace Provisioning

open Memory

variable {σ : Type} {office : Lens σ Office}

/-! ## Names in the repository -/

namespace Memory.Entities

variable {entities : Entities} {entity : Entity} {t : SubjectType} {id : Nat}

/-- The entity under a key has no name. -/
def Nameless (entities : Entities) (t : SubjectType) (id : Nat) : Prop :=
  ∃ entity, entities.get? t id = some entity ∧ entity.name = ""

/-- Every entity has a name. -/
def Named (entities : Entities) : Prop := ∀ t id, ¬entities.Nameless t id

/-- Storing an entity that has a name leaves no entity without one. -/
theorem Nameless.of_insert (hname : entity.name ≠ "") (h : (entities.insert entity).2.Nameless t id) :
    entities.Nameless t id := by
  obtain ⟨found, hget, hempty⟩ := h
  rw [get?_insert] at hget
  split at hget
  · cases hget
    rw [insert_fst] at hempty
    exact absurd hempty hname
  · exact ⟨found, hget, hempty⟩

theorem named_empty : Named {} := by
  rintro t id ⟨entity, hget, -⟩
  simp [get?] at hget

theorem Named.insert (h : entities.Named) (hname : entity.name ≠ "") : (entities.insert entity).2.Named :=
  fun t id hnone => h t id (hnone.of_insert hname)

end Memory.Entities

namespace Reconciliation

namespace Session

variable {session : Session σ} {delta : Delta} {subject : Subject} {s : RunState σ}

/-! ## The names that deltas give -/

/-- An entity that is created has a name if the object has an identifier. -/
theorem name_newEntity (session : Session σ) (hook : NewHook) (huid : delta.uid ≠ "") :
    (session.newEntity hook delta).name ≠ "" := by
  have hnamed : (if (session.mapping.toEntity delta.attributes).name.isEmpty then
      { session.mapping.toEntity delta.attributes with name := delta.uid }
      else session.mapping.toEntity delta.attributes).name ≠ "" := by
    split
    · exact huid
    · rename_i hname
      exact fun hempty => hname (String.isEmpty_iff.mpr hempty)
  unfold newEntity
  cases hook with
  | create => exact hnamed
  | assign => exact hnamed

/-- The delta gives an entity that it updates the empty name: the last of its names that is not that of the entity. -/
def Blanks (session : Session σ) (delta : Delta) (entity : Entity) : Prop :=
  session.task.matching = .update ∧
    ((session.mapping.names delta.attributes).filter (· ≠ entity.name)).getLast? = some ""

theorem Blanks.empty_mem_names {entity : Entity} (h : session.Blanks delta entity) :
    "" ∈ session.mapping.names delta.attributes :=
  (List.mem_filter.mp (List.mem_of_getLast? h.2)).1

theorem name_revised_eq_empty_iff {entity : Entity} (hname : entity.name ≠ "") :
    (session.revised delta entity).name = "" ↔ session.Blanks delta entity := by
  unfold revised Blanks
  cases hmatching : session.task.matching with
  | update =>
    simp only [Patch.apply, Mapping.name_diff, true_and]
    generalize ((session.mapping.names delta.attributes).filter (· ≠ entity.name)).getLast? = taken
    cases taken <;> simp [hname]
  | _ => simp [hname]

/-! ## What is done to the repository -/

/-- What meeting a subject does to a repository on which requests are carried out. -/
inductive Alters (session : Session σ) (delta : Delta) (before after : Entities) : Subject → Prop
  | admitted (hook : NewHook) (hafter : after = (before.insert (session.newEntity hook delta)).2) :
      Alters session delta before after (.unknown hook)
  | revised {subject : Subject} {id : Nat} (hid : subject.id? = some id)
      (hafter : Entities.Revised session.task.subjectType [id] (session.revision delta subject) before after) :
      Alters session delta before after subject

theorem passive_of_unhooked (h : session.engine.hooks = []) : session.Passive := fun _ hmem => nomatch h ▸ hmem

theorem meet_alters (h : session.Entrusts office) (hhooks : session.engine.hooks = []) (hlive : session.dryRun = false)
    (delta : Delta) (subject : Subject) (hwilling : (office.get s.world).requests.failing = none)
    (hkeyed : (office.get s.world).entities.Keyed) :
    session.Alters delta (office.get s.world).entities (office.get (session.meet delta subject s).2.world).entities
      subject := by
  have hpassive := passive_of_unhooked hhooks
  cases subject with
  | unknown hook =>
    have hanswer : (session.beforeNew hook session.engine.hooks delta (session.newEntity hook delta) s).1 =
        (.ok delta, session.newEntity hook delta) := beforeNew_of_passive hpassive hook delta _ s
    refine .admitted hook ?_
    rw [meet, h.office_create hlive hanswer]
    exact (Office.create_granted hwilling _).2.1
  | present id => exact .revised rfl (meet_revises h hpassive hlive rfl delta hwilling hkeyed).2.2
  | gone id => exact .revised rfl (meet_revises h hpassive hlive rfl delta hwilling hkeyed).2.2

namespace Alters

variable {before after : Entities} {t : SubjectType} {id : Nat}

theorem keyed (h : session.Alters delta before after subject) (hkeyed : before.Keyed) : after.Keyed := by
  cases h with
  | admitted hook hafter => exact hafter ▸ hkeyed.insert _
  | revised hid hafter => exact hafter.keyed hkeyed fun _ _ => revision_key

/-- An entity that has a name loses it only if it is updated and given the empty one. -/
theorem nameless_iff (h : session.Alters delta before after subject) (huid : delta.uid ≠ "")
    (hnamed : ¬before.Nameless t id) :
    after.Nameless t id ↔ subject = .present id ∧ t = session.task.subjectType ∧
      ∃ entity, before.get? t id = some entity ∧ session.Blanks delta entity := by
  cases h with
  | admitted hook hafter =>
    subst hafter
    exact ⟨fun hnone => absurd (hnone.of_insert (session.name_newEntity hook huid)) hnamed, fun h => nomatch h.1⟩
  | @revised _ met hid hafter =>
    unfold Entities.Nameless
    rw [hafter.reads]
    split
    · rename_i hmet
      obtain ⟨htype, hmem⟩ := hmet
      cases List.mem_singleton.mp hmem
      cases hget : before.get? t id with
      | none => simp
      | some entity =>
        have hname : entity.name ≠ "" := fun hempty => hnamed ⟨entity, hget, hempty⟩
        cases subject with
        | unknown hook => cases hid
        | gone _ => simp [revision]
        | present _ =>
          cases hid
          simp [revision, name_revised_eq_empty_iff hname, htype]
    · -- Only the entity that was met can have changed.
      rename_i hother
      refine iff_of_false hnamed fun hpresent => hother ⟨hpresent.2.1, ?_⟩
      obtain ⟨rfl, -⟩ := hpresent
      cases hid
      exact List.mem_singleton_self _

end Alters

end Session

/-! ## Encounters -/

namespace Encounter

variable {encounter : Encounter σ} {t : SubjectType} {id : Nat}

/-- What is requested in an encounter is carried out. -/
structure Effective (office : Lens σ Office) (encounter : Encounter σ) : Prop where
  live : encounter.session.dryRun = false
  granted : (office.get encounter.before.world).requests.failing = none

/-- In an encounter the entity under a key loses its name: it is updated, and the delta gives it the empty one. -/
structure TakesName (office : Lens σ Office) (encounter : Encounter σ) (t : SubjectType) (id : Nat) : Prop where
  effective : encounter.Effective office
  subject : encounter.subject = .present id
  type : t = encounter.session.task.subjectType
  blanked : ∃ entity, (office.get encounter.before.world).entities.get? t id = some entity ∧
    encounter.session.Blanks encounter.delta entity

/-- An encounter does to the repository what its subject asks for, unless the run only pretends or requests fail. -/
theorem entities_step (h : encounter.session.Entrusts office) (hhooks : encounter.session.engine.hooks = [])
    (hkeyed : (office.get encounter.before.world).entities.Keyed) :
    let before := (office.get encounter.before.world).entities
    let after := (office.get (encounter.step encounter.before).2.world).entities
    encounter.Effective office ∧ encounter.session.Alters encounter.delta before after encounter.subject ∨
      ¬encounter.Effective office ∧ after = before := by
  intro before after
  by_cases heffective : encounter.Effective office
  · exact .inl ⟨heffective, Session.meet_alters h hhooks heffective.live _ _ heffective.granted hkeyed⟩
  · refine .inr ⟨heffective, ?_⟩
    cases hdry : encounter.session.dryRun with
    | true => exact congrArg Office.entities (h.office_meet_of_dry hdry encounter.delta encounter.subject _)
    | false => exact h.entities_meet_of_refused hhooks _ _ fun hgranted => heffective ⟨hdry, hgranted⟩

theorem keyed_step (h : encounter.session.Entrusts office) (hhooks : encounter.session.engine.hooks = [])
    (hkeyed : (office.get encounter.before.world).entities.Keyed) :
    (office.get (encounter.step encounter.before).2.world).entities.Keyed := by
  obtain ⟨-, halters⟩ | ⟨-, hsame⟩ := entities_step h hhooks hkeyed
  · exact halters.keyed hkeyed
  · exact hsame ▸ hkeyed

/-- An entity that has a name has none after an encounter exactly if the encounter takes it. -/
theorem nameless_step_iff (h : encounter.session.Entrusts office) (hhooks : encounter.session.engine.hooks = [])
    (huid : encounter.delta.uid ≠ "") (hkeyed : (office.get encounter.before.world).entities.Keyed)
    (hnamed : ¬(office.get encounter.before.world).entities.Nameless t id) :
    (office.get (encounter.step encounter.before).2.world).entities.Nameless t id ↔
      encounter.TakesName office t id := by
  obtain ⟨heffective, halters⟩ | ⟨hidle, hsame⟩ := entities_step h hhooks hkeyed
  · rw [halters.nameless_iff huid hnamed]
    constructor
    · rintro ⟨hsubject, htype, hblanked⟩
      exact ⟨heffective, hsubject, htype, hblanked⟩
    · exact fun htakes => ⟨htakes.subject, htakes.type, htakes.blanked⟩
  · rw [hsame]
    exact iff_of_false hnamed fun htakes => hidle htakes.effective

end Encounter

/-- Every entity is filed under its key, and one that has no name lost it in one of the encounters. -/
structure Accounted (office : Lens σ Office) (encounters : List (Encounter σ)) (s : RunState σ) : Prop where
  keyed : (office.get s.world).entities.Keyed
  taken : ∀ t id, (office.get s.world).entities.Nameless t id →
    ∃ encounter ∈ encounters, encounter.TakesName office t id

namespace Accounted

variable {encounters : List (Encounter σ)} {s s' : RunState σ}

theorem of_named (hkeyed : (office.get s.world).entities.Keyed) (hnamed : (office.get s.world).entities.Named) :
    Accounted office encounters s :=
  ⟨hkeyed, fun t id hnone => absurd hnone (hnamed t id)⟩

theorem congr (hsame : office.get s'.world = office.get s.world) (h : Accounted office encounters s) :
    Accounted office encounters s' := by
  constructor <;> rw [hsame]
  · exact h.keyed
  · exact h.taken

/-- Whoever loses the name in an encounter is accounted for by it. -/
theorem step {encounter : Encounter σ} (h : Accounted office encounters encounter.before)
    (hencounter : encounter ∈ encounters) (hentrusts : encounter.session.Entrusts office)
    (hhooks : encounter.session.engine.hooks = []) (huid : encounter.delta.uid ≠ "") :
    Accounted office encounters (encounter.step encounter.before).2 := by
  refine ⟨Encounter.keyed_step hentrusts hhooks h.keyed, fun t id hnone => ?_⟩
  by_cases hbefore : (office.get encounter.before.world).entities.Nameless t id
  · exact h.taken t id hbefore
  · exact ⟨encounter, hencounter, (Encounter.nameless_step_iff hentrusts hhooks huid h.keyed hbefore).mp hnone⟩

end Accounted

/-! ## Runs -/

namespace Engine

variable {engine : Engine σ} {task : SyncTask} {world : σ}

/-- The states of a run between which its repository changes: at the start, before and after every encounter, and at
the end. -/
def points (engine : Engine σ) (task : SyncTask) (world : σ) : List (RunState σ) :=
  { world } :: (engine.encounters task world).flatMap
    (fun encounter => [encounter.before, (encounter.step encounter.before).2]) ++ [(engine.start task world).2]

theorem forall_mem_points {P : RunState σ → Prop} (hstart : P { world })
    (hmet : ∀ encounter ∈ engine.encounters task world, P encounter.before ∧ P (encounter.step encounter.before).2)
    (hend : P (engine.start task world).2) : ∀ s ∈ engine.points task world, P s := by
  intro s hs
  simp only [points, List.mem_append, List.mem_cons, List.mem_flatMap, List.not_mem_nil, or_false] at hs
  obtain (rfl | ⟨encounter, hencounter, rfl | rfl⟩) | rfl := hs
  · exact hstart
  · exact (hmet encounter hencounter).1
  · exact (hmet encounter hencounter).2
  · exact hend

/-- An encounter of a run without hooks leaves an entity without its name exactly if it updates the entity and is given
the empty name.  So an entity without a name, at whatever point of the run, lost it in such an encounter; and all of
them keep their names if the deltas that are met give no empty one, or if the task does not update. -/
theorem start_keeps_names_unless_blanked
    (h : ∀ resource mapping, engine.registry.lookup task.resource task.subjectType = .ok (resource, mapping) →
      Session.Entrusts office { engine, task, resource, mapping })
    (hhooks : engine.hooks = []) (hload : ∀ task, (Frame.unchanged office.get).Keeps (engine.tokens.load task))
    (hstore : ∀ task token, (Frame.unchanged office.get).Keeps (engine.tokens.store task token))
    (hkeyed : (office.get world).entities.Keyed) (hnamed : (office.get world).entities.Named)
    (huids : ∀ delta ∈ (engine.start task world).2.received, delta.uid ≠ "") :
    let encounters := engine.encounters task world
    (∀ encounter ∈ encounters, ∀ t id, ¬(office.get encounter.before.world).entities.Nameless t id →
      ((office.get (encounter.step encounter.before).2.world).entities.Nameless t id ↔
        encounter.TakesName office t id)) ∧
      (∀ s ∈ engine.points task world, ∀ t id, (office.get s.world).entities.Nameless t id →
        ∃ encounter ∈ encounters, encounter.TakesName office t id) ∧
      ((task.matching = .update → ∀ encounter ∈ encounters,
          "" ∉ encounter.session.mapping.names encounter.delta.attributes) →
        ∀ s ∈ engine.points task world, (office.get s.world).entities.Named) := by
  intro encounters
  have hmet : ∀ encounter ∈ encounters, encounter.session.Entrusts office ∧ encounter.session.engine.hooks = [] ∧
      encounter.session.task = task ∧ encounter.delta.uid ≠ "" := by
    intro encounter hencounter
    obtain ⟨resource, mapping, hlookup, hsession, hreceived⟩ := of_mem_encounters hencounter
    rw [hsession]
    exact ⟨h resource mapping hlookup, hhooks, rfl, huids _ hreceived⟩
  have hstep : ∀ encounter ∈ encounters, Accounted office encounters encounter.before →
      Accounted office encounters (encounter.step encounter.before).2 := by
    intro encounter hencounter hbefore
    obtain ⟨hentrusts, hunhooked, -, huid⟩ := hmet encounter hencounter
    exact hbefore.step hencounter hentrusts hunhooked huid
  have hstart : Accounted office encounters { world } := .of_named hkeyed hnamed
  obtain ⟨hbefore, hend⟩ := start_invariant (fun resource mapping hlookup => (h resource mapping hlookup).attends)
    hload hstore Accounted.congr hstart hstep
  have hboth : ∀ encounter ∈ encounters, Accounted office encounters encounter.before ∧
      Accounted office encounters (encounter.step encounter.before).2 := fun encounter hencounter =>
    ⟨hbefore encounter hencounter, hstep encounter hencounter (hbefore encounter hencounter)⟩
  have hpoints : ∀ s ∈ engine.points task world, Accounted office encounters s :=
    forall_mem_points hstart hboth hend
  refine ⟨fun encounter hencounter t id hname => ?_, fun s hs => (hpoints s hs).taken, fun hgiven s hs t id hnone => ?_⟩
  · obtain ⟨hentrusts, hunhooked, -, huid⟩ := hmet encounter hencounter
    exact Encounter.nameless_step_iff hentrusts hunhooked huid (hbefore encounter hencounter).keyed hname
  · obtain ⟨encounter, hencounter, htakes⟩ := (hpoints s hs).taken t id hnone
    obtain ⟨entity, -, hblanked⟩ := htakes.blanked
    obtain ⟨-, -, htask, -⟩ := hmet encounter hencounter
    exact hgiven (htask ▸ hblanked.1) encounter hencounter hblanked.empty_mem_names

end Engine

end Reconciliation

end Provisioning

/-! ## A user who is given the empty name -/

namespace Provisioning.Memory.Premises

open Reconciliation

/-- The account of the user `ada` is left without a name. -/
def blankChange : Delta :=
  { uid := "ada", objectClass := "account", attributes := Attributes.ofPairs [("uid", [.text ""])] }

/-- The user, and the change to her account. -/
def blanked : Premises := { staff with directory := ({} : Directory).pushDelta blankChange }

theorem blanked_keyed : (officeLens.get blanked).entities.Keyed := staff_sound.keyed

theorem blanked_named : (officeLens.get blanked).entities.Named :=
  Entities.named_empty.insert (by decide : ({ name := "ada" } : Entity).name ≠ "")

/-- The import of the change leaves the user without a name. -/
theorem nameless_after_import :
    (officeLens.get (importing.engine.start importing.task blanked).2.world).entities.Nameless .user 1 := by
  have hname : ((officeLens.get (importing.engine.start importing.task blanked).2.world).entities.get? .user 1).map
      Entity.name = some "" := by
    decide +kernel
  exact Option.map_eq_some_iff.mp hname

theorem received_by_import : (importing.engine.start importing.task blanked).2.received = [blankChange] := by
  decide +kernel

theorem name_taken_by_blank_change :
    ∃ encounter ∈ importing.engine.encounters importing.task blanked, encounter.TakesName officeLens .user 1 := by
  have hentrusts : ∀ resource mapping, importing.engine.registry.lookup "directory" .user = .ok (resource, mapping) →
      Session.Entrusts officeLens { engine := importing.engine, task := importing.task, resource, mapping } := by
    intro resource mapping hlookup
    obtain ⟨rfl, rfl⟩ := eq_of_lookup hlookup
    exact (attended_entrusts (fun _ hmem => nomatch hmem) : (attended []).Entrusts officeLens)
  have huids : ∀ delta ∈ (importing.engine.start importing.task blanked).2.received, delta.uid ≠ "" := by
    rw [received_by_import]
    exact List.forall_mem_singleton.mpr (by decide)
  have hload : ∀ task, (Frame.unchanged officeLens.get).Keeps (importing.engine.tokens.load task) := fun _ _ => rfl
  have hstore : ∀ task token, (Frame.unchanged officeLens.get).Keeps (importing.engine.tokens.store task token) :=
    fun _ _ _ => rfl
  obtain ⟨-, htaken, -⟩ := Engine.start_keeps_names_unless_blanked hentrusts rfl hload hstore blanked_keyed
    blanked_named huids
  exact htaken _ (List.mem_append_right _ (List.mem_singleton_self _)) .user 1 nameless_after_import

/-- No hook is at work, everybody had a name, and the one object that was received has an identifier. -/
theorem name_lost_on_import :
    importing.engine.hooks = [] ∧ (officeLens.get blanked).entities.Named ∧
      (∀ delta ∈ (importing.engine.start importing.task blanked).2.received, delta.uid ≠ "") ∧
      ¬(officeLens.get (importing.engine.start importing.task blanked).2.world).entities.Named := by
  refine ⟨rfl, blanked_named, ?_, fun hnamed => hnamed .user 1 nameless_after_import⟩
  rw [received_by_import]
  exact List.forall_mem_singleton.mpr (by decide)

end Provisioning.Memory.Premises
