import Provisioning.Proofs.Reconciliation.Overlooked
import Provisioning.Proofs.Reconciliation.Redelivery
import Provisioning.Proofs.Reconciliation.Transcript
set_option autoImplicit false

/-!
# What is passed over

A delta is passed over if it cannot be correlated, if the conflict policy gives up on several matches, if there is
nothing left to delete, if unknown objects are not wanted, or if the task may not do what the delta calls for.  These
are the only ways to meet nothing, and none of them leaves a trace.  A policy that takes the first or the last match
narrows any number of matches down to that one.
-/

namespace Provisioning.Reconciliation

variable {σ : Type}

/-! ## Policies that single out a match -/

/-- The policy leaves one of the correlated ids at most: the first or the last one. -/
inductive ConflictPolicy.SinglesOut (ids : List Nat) : ConflictPolicy → Option Nat → Prop
  | first : SinglesOut ids .firstMatch ids.head?
  | last : SinglesOut ids .lastMatch ids.getLast?

/-- None and one are left as they are, and there the first and the last one are the same. -/
theorem ConflictPolicy.SinglesOut.resolve_eq {policy : ConflictPolicy} {ids : List Nat} {single : Option Nat}
    (h : policy.SinglesOut ids single) (uid : Uid) : policy.resolve uid ids = .ok single.toList := by
  unfold resolve
  split
  · rename_i hlength
    match ids, hlength with
    | [], _ | [_], _ => cases h <;> rfl
  · cases h <;> rfl

/-- Only a policy that does not choose gives up, and only on several matches. -/
theorem ConflictPolicy.resolve_eq_error_iff {policy : ConflictPolicy} {uid : Uid} {ids : List Nat} :
    (∃ error, policy.resolve uid ids = .error error) ↔ 2 ≤ ids.length ∧ policy = .ignore := by
  unfold resolve
  split
  · simp
    omega
  · cases policy <;> simp
    omega

theorem ConflictPolicy.eq_nil_iff_of_resolve {policy : ConflictPolicy} {uid : Uid} {ids chosen : List Nat}
    (h : policy.resolve uid ids = .ok chosen) : chosen = [] ↔ ids = [] := by
  constructor
  · rintro rfl
    by_contra hids
    exact resolve_ne_nil hids h
  · rintro rfl
    exact List.sublist_nil.mp (sublist_of_resolve h)

/-! ## Deltas that meet nothing -/

/-- The task passes a delta over, given what it is correlated to. -/
inductive SyncTask.PassesOver (task : SyncTask) (delta : Delta) : Except SyncError (List Nat) → Prop
  /-- The delta cannot be correlated. -/
  | uncorrelated (error : SyncError) : task.PassesOver delta (.error error)
  /-- Several entities match, and the policy does not choose among them. -/
  | ambiguous {ids : List Nat} (several : 2 ≤ ids.length) (policy : task.conflicts = .ignore) :
    task.PassesOver delta (.ok ids)
  /-- There is nothing to delete. -/
  | goneAlready (kind : delta.kind = .delete) : task.PassesOver delta (.ok [])
  /-- Unknown objects are ignored. -/
  | unwanted (kind : delta.kind = .createOrUpdate) (rule : task.unmatching = .ignore) : task.PassesOver delta (.ok [])
  | mayNotCreate (kind : delta.kind = .createOrUpdate) (switch : task.mayCreate = false) :
    task.PassesOver delta (.ok [])
  | mayNotUpdate {ids : List Nat} (kind : delta.kind = .createOrUpdate) (matched : ids ≠ [])
    (switch : task.mayUpdate = false) : task.PassesOver delta (.ok ids)
  | mayNotDelete {ids : List Nat} (kind : delta.kind = .delete) (matched : ids ≠ [])
    (switch : task.mayDelete = false) : task.PassesOver delta (.ok ids)

namespace Session

variable {session : Session σ} {delta : Delta} {s : RunState σ}

theorem correlate_apply (session : Session σ) (delta : Delta) (s : RunState σ) :
    session.correlate delta s =
      let correlated := session.engine.correlation delta session.mapping s.world
      (match correlated.1 with
        | .error error => .error error
        | .ok ids => session.task.conflicts.resolve delta.correlationUid ids,
        { s with world := correlated.2 }) := by
  simp only [correlate, bind_apply, onWorld_apply]
  cases (session.engine.correlation delta session.mapping s.world).1 <;> rfl

theorem newHook?_eq_none_iff :
    session.newHook? = none ↔ session.task.unmatching = .ignore ∨ session.task.mayCreate = false := by
  unfold newHook?
  cases session.task.mayCreate <;> cases session.task.unmatching <;> simp

/-- Whether a delta meets nothing depends on its kind, on the task, and on whether anything matches. -/
theorem subjects_eq_nil_iff {ids : List Nat} :
    session.subjects delta ids = [] ↔
      match delta.kind with
      | .createOrUpdate =>
        if ids = [] then session.task.unmatching = .ignore ∨ session.task.mayCreate = false
        else session.task.mayUpdate = false
      | .delete => ids = [] ∨ session.task.mayDelete = false := by
  unfold subjects
  cases delta.kind with
  | createOrUpdate =>
    cases ids with
    | nil => simp [← newHook?_eq_none_iff]
    | cons id rest => simp
  | delete => cases session.task.mayDelete <;> simp

/-- A delta is passed over if the policy gives up on its matches, or if it would meet nothing with all of them. -/
theorem passesOver_ok_iff {ids : List Nat} :
    session.task.PassesOver delta (.ok ids) ↔
      (2 ≤ ids.length ∧ session.task.conflicts = .ignore) ∨ session.subjects delta ids = [] := by
  rw [subjects_eq_nil_iff]
  constructor
  · intro h
    cases h with
    | ambiguous several policy => exact .inl ⟨several, policy⟩
    | goneAlready kind => simp [kind]
    | unwanted kind rule => simp [kind, rule]
    | mayNotCreate kind switch => simp [kind, switch]
    | mayNotUpdate kind matched switch => simp [kind, matched, switch]
    | mayNotDelete kind matched switch => simp [kind, switch]
  · rintro (⟨several, policy⟩ | hnothing)
    · exact .ambiguous several policy
    · cases hkind : delta.kind with
      | createOrUpdate =>
        rw [hkind] at hnothing
        by_cases hids : ids = []
        · subst hids
          rcases (if_pos rfl ▸ hnothing : _ ∨ _) with hrule | hswitch
          · exact .unwanted hkind hrule
          · exact .mayNotCreate hkind hswitch
        · exact .mayNotUpdate hkind hids (by simpa [hids] using hnothing)
      | delete =>
        rw [hkind] at hnothing
        by_cases hids : ids = []
        · subst hids
          exact .goneAlready hkind
        · exact .mayNotDelete hkind hids (hnothing.resolve_left hids)

theorem encounters_of_correlated {ids : List Nat} (h : (session.correlate delta s).1 = .ok ids) :
    session.encounters delta s =
      (trail (session.meet delta) (session.subjects delta ids) (session.correlate delta s).2).map
        fun (subject, before) => { session, delta, subject, before } := by
  unfold encounters
  generalize session.correlate delta s = correlated at h ⊢
  obtain ⟨answer, s'⟩ := correlated
  cases h
  rfl

theorem handle_of_correlated {ids : List Nat} (h : (session.correlate delta s).1 = .ok ids) :
    session.handle delta s =
      forEach (session.meet delta) (session.subjects delta ids) (session.correlate delta s).2 := by
  rw [handle_eq_forEach_meet]
  generalize session.correlate delta s = correlated at h ⊢
  obtain ⟨answer, s'⟩ := correlated
  cases h
  rfl

/-- A delta meets nothing exactly if it is passed over. -/
theorem encounters_eq_nil_iff (session : Session σ) (delta : Delta) (s : RunState σ) :
    session.encounters delta s = [] ↔
      session.task.PassesOver delta (session.engine.correlation delta session.mapping s.world).1 := by
  have hcorrelate := congrArg Prod.fst (session.correlate_apply delta s)
  cases hanswer : (session.engine.correlation delta session.mapping s.world).1 with
  | error error =>
    simp only [hanswer] at hcorrelate
    exact iff_of_true (handle_of_uncorrelated hcorrelate).2 (.uncorrelated error)
  | ok ids =>
    simp only [hanswer] at hcorrelate
    rw [passesOver_ok_iff, ← ConflictPolicy.resolve_eq_error_iff]
    cases hchosen : session.task.conflicts.resolve delta.correlationUid ids with
    | error error =>
      exact iff_of_true (handle_of_uncorrelated (hcorrelate.trans hchosen)).2 (.inl ⟨error, rfl⟩)
    | ok chosen =>
      have hcongr : session.subjects delta chosen = [] ↔ session.subjects delta ids = [] := by
        simp only [subjects_eq_nil_iff, ConflictPolicy.eq_nil_iff_of_resolve hchosen]
      rw [encounters_of_correlated (hcorrelate.trans hchosen), List.map_eq_nil_iff, ← hcongr]
      cases session.subjects delta chosen <;> simp [trail]

/-- A delta that is passed over is correlated, and that is all. -/
theorem handle_of_passesOver
    (h : session.task.PassesOver delta (session.engine.correlation delta session.mapping s.world).1) :
    session.handle delta s =
      (.ok (), { s with world := (session.engine.correlation delta session.mapping s.world).2 }) := by
  have hnothing := (session.encounters_eq_nil_iff delta s).mpr h
  have hstate := congrArg Prod.snd (session.correlate_apply delta s)
  cases hcorrelate : (session.correlate delta s).1 with
  | error error => rw [(handle_of_uncorrelated hcorrelate).1, hstate]
  | ok ids =>
    rw [encounters_of_correlated hcorrelate] at hnothing
    rw [handle_of_correlated hcorrelate, hstate]
    cases hsubjects : session.subjects delta ids with
    | nil => rfl
    | cons subject rest =>
      rw [hsubjects] at hnothing
      cases hnothing

/-! ## Deltas that meet one entity at most -/

/-- With one match at most a delta meets one subject at most, which is that match if there is one. -/
theorem subjects_single (session : Session σ) (delta : Delta) (single : Option Nat) :
    session.subjects delta single.toList = [] ∨
      ∃ subject : Subject, subject.id? = single ∧ session.subjects delta single.toList = [subject] := by
  unfold subjects
  cases delta.kind with
  | createOrUpdate =>
    cases single with
    | none =>
      cases session.newHook? with
      | none => exact .inl rfl
      | some hook => exact .inr ⟨.unknown hook, rfl, rfl⟩
    | some id =>
      cases session.task.mayUpdate with
      | false => exact .inl rfl
      | true => exact .inr ⟨.present id, rfl, rfl⟩
  | delete =>
    cases session.task.mayDelete with
    | false => exact .inl rfl
    | true =>
      cases single with
      | none => exact .inl rfl
      | some id => exact .inr ⟨.gone id, rfl, rfl⟩

/-- The delta meets a single subject. -/
theorem encounters_of_subject {ids : List Nat} {subject : Subject} (h : (session.correlate delta s).1 = .ok ids)
    (hsubject : session.subjects delta ids = [subject]) :
    session.encounters delta s = [{ session, delta, subject, before := (session.correlate delta s).2 }] ∧
      session.handle delta s = session.meet delta subject (session.correlate delta s).2 := by
  rw [encounters_of_correlated h, handle_of_correlated h, hsubject, forEach_singleton]
  refine ⟨?_, rfl⟩
  cases hmeet : session.meet delta subject (session.correlate delta s).2 with
  | mk answer s' => cases answer with
    | ok _ => rw [trail_cons_ok hmeet, trail, List.map_singleton]
    | error error => rw [trail_cons_error hmeet, List.map_singleton]

/-- A delta that is passed over leaves no trace.  Nothing happens beyond its correlation: no hook is called, nothing is
requested or sent to a connector, and no event goes to the side channels; so what correlation leaves as it is stays as
it is.  Under a policy that takes the first or the last match, however many there are, a delta meets one subject at
most.  An entity among them is that match; it is read, and the measure for it is taken. -/
theorem handle_leaves_no_trace_or_takes_one (session : Session σ) (delta : Delta) (s : RunState σ) :
    let correlated := session.engine.correlation delta session.mapping s.world
    let handled := session.handle delta s
    let twin := session.transcribed.handle delta (s.beside [])
    let passed : RunState σ := { s with world := correlated.2 }
    (session.task.PassesOver delta correlated.1 →
      handled = (.ok (), passed) ∧ twin.1 = .ok () ∧ twin.2.happenings = [] ∧
        ∀ {γ : Type} (view : σ → γ), (Frame.unchanged view).Keeps (session.engine.correlation delta session.mapping) →
          view handled.2.world = view s.world) ∧
      ∀ ids single, correlated.1 = .ok ids → session.task.conflicts.SinglesOut ids single →
        (session.encounters delta s).length ≤ 1 ∧
          ∀ encounter ∈ session.encounters delta s, encounter.subject.id? = single ∧
            ∀ id, single = some id →
              handled =
                match (session.load id passed).1 with
                | none => (.ok (), (session.load id passed).2)
                | some entity => session.treat delta encounter.subject entity (session.load id passed).2 := by
  intro correlated handled twin passed
  constructor
  · intro hpasses
    have hhandled : handled = (.ok (), passed) := handle_of_passesOver hpasses
    -- The twin follows the same task, and its correlation answers the same.
    have htwin : twin = (.ok (), passed.beside []) :=
      @handle_of_passesOver _ session.transcribed delta (s.beside []) hpasses
    refine ⟨hhandled, congrArg Prod.fst htwin, ?_, fun view hview => ?_⟩
    · rw [htwin]
      rfl
    · rw [hhandled]
      exact hview s.world
  · intro ids single hanswer hsingle
    have hcorrelate : session.correlate delta s = (.ok single.toList, passed) := by
      have hanswer : (session.engine.correlation delta session.mapping s.world).1 = .ok ids := hanswer
      simp only [correlate_apply, hanswer, hsingle.resolve_eq]
      rfl
    have hids := congrArg Prod.fst hcorrelate
    rcases session.subjects_single delta single with hnothing | ⟨subject, hid, hsubject⟩
    · have hencounters : session.encounters delta s = [] := by
        rw [encounters_of_correlated hids, hnothing]
        rfl
      simp [hencounters]
    · obtain ⟨hencounters, hhandled⟩ := encounters_of_subject hids hsubject
      rw [hcorrelate] at hencounters hhandled
      rw [hencounters]
      refine ⟨Nat.le_refl 1, List.forall_mem_singleton.mpr ⟨hid, fun id hsome => ?_⟩⟩
      exact hhandled.trans (session.meet_eq_treat (hid.trans hsome) delta passed)

end Session

end Provisioning.Reconciliation

/-! ## All systems in memory -/

namespace Provisioning.Memory.Premises

open Reconciliation

/-- Two users of one name. -/
def namesakes : Premises where
  office := { entities := ((Entities.insert {} { name := "ada" }).2.insert { name := "ada" }).2 }

/-- The session that imports users, of which it takes the last one if several match. -/
def importingLast : Session Premises := { importing with task := { importing.task with conflicts := .lastMatch } }

/-- The account of `eve` is gone. -/
def departure : Delta := { uid := "eve", kind := .delete, objectClass := "account" }

/-- Nothing comes of the deletion of an object that nobody knows; the account of both users is taken for that of the
second one. -/
theorem namesakes_told_apart :
    let session := importingLast
    let arrival := (account "ada").toDelta "account"
    session.handle departure { world := namesakes } = (.ok (), { world := namesakes }) ∧
      (session.transcribed.handle departure (RunState.beside { world := namesakes } [])).2.happenings = [] ∧
      userMapping.matched namesakes.office.entities arrival = [1, 2] ∧
      (session.encounters arrival { world := namesakes }).length = 1 ∧
      ∀ encounter ∈ session.encounters arrival { world := namesakes }, encounter.subject.id? = some 2 := by
  intro session arrival
  obtain ⟨hpasses, -⟩ := session.handle_leaves_no_trace_or_takes_one departure { world := namesakes }
  obtain ⟨-, hsingle⟩ := session.handle_leaves_no_trace_or_takes_one arrival { world := namesakes }
  have hdeparture : (session.engine.correlation departure session.mapping namesakes).1 = .ok [] := by decide +kernel
  have harrival : (session.engine.correlation arrival session.mapping namesakes).1 = .ok [1, 2] := by decide +kernel
  obtain ⟨hhandled, -, hhappenings, -⟩ := hpasses (hdeparture ▸ .goneAlready rfl)
  obtain ⟨-, hmet⟩ := hsingle [1, 2] (some 2) harrival .last
  exact ⟨hhandled, hhappenings, by decide +kernel, by decide +kernel, fun encounter hmem => (hmet encounter hmem).1⟩

end Provisioning.Memory.Premises
