import Provisioning.Proofs.Propagation.AbsentObject
import Provisioning.Proofs.Propagation.Calls
set_option autoImplicit false

/-!
# The course of a task

A task that is carried out alone reads its object once, and then makes one write at most.  What it reads, and how the
write ends, settles its outcome.  The outcome tells the write that was sent; but it claims an attempt also of a task
that failed before there was anything to send.
-/

namespace Provisioning

variable {σ β : Type}

/-! ## Calls that are noted -/

namespace Connector

variable (note : RemoteCall → β) (resource : String) (connector : Connector σ)

theorem supports_logged (capability : Capability) (pair : σ × List β) :
    (connector.logged note resource).supports capability pair = connector.supports capability pair.1 := rfl

/-- A probe is the one call that it makes. -/
theorem probe_logged (objectClass : String) (uid : Uid) (options : ReadOptions) (pair : σ × List β) :
    (connector.logged note resource).probe objectClass uid options pair =
      let probed := connector.probe objectClass uid options pair.1
      (probed.1, probed.2, pair.2 ++ [note ⟨resource, .getObject objectClass uid options⟩]) := by
  have hread : (connector.logged note resource).getObject objectClass uid options pair =
      let read := connector.getObject objectClass uid options pair.1
      (read.1, read.2, pair.2 ++ [note ⟨resource, .getObject objectClass uid options⟩]) := rfl
  unfold probe
  rw [hread]
  cases connector.getObject objectClass uid options pair.1 with
  | mk answer s' =>
    cases answer with
    | ok found => rfl
    | error error => cases error <;> rfl

end Connector

namespace Propagation

/-- A write is the one call that it makes. -/
theorem Task.send_logged (note : RemoteCall → β) (task : Task) (connector : Connector σ) (options : ReadOptions)
    (write : Write) (pair : σ × List β) :
    task.send (connector.logged note task.resource) options write pair =
      let sent := task.send connector options write pair.1
      (sent.1, sent.2, pair.2 ++ [note (task.writeCall options write)]) := by
  cases write <;> rfl

/-- What a task did that was carried out alone: its calls in their order, the outcome, and the world it left. -/
structure Observed (σ : Type) where
  calls : List RemoteCall
  outcome : Outcome
  world : σ

/-- Carry out a task alone and note its calls. -/
def Executor.observe (executor : Executor σ) (task : Task) (s : σ) : Observed σ :=
  let observed := (executor.through (Connector.logged id)).run task (s, [])
  { calls := observed.2.2, outcome := observed.1, world := observed.2.1 }

/-- Noting the calls changes nothing. -/
theorem Executor.observe_run (executor : Executor σ) (task : Task) (s : σ) :
    let observed := executor.observe task s
    (observed.outcome, observed.world) = executor.run task s := by
  obtain ⟨hanswer, hworld⟩ :=
    mirrors_run (fun name connector => connector.mirrors_logged id name) executor task s (s, []) rfl
  exact Prod.ext hanswer.symm hworld

namespace Task

variable {task : Task} {before : Option RemoteObject} {write : Write}

/-! ## What is left to write -/

/-- There is nothing to write: the task asks for nothing, or for the deletion of an object that is not there. -/
def Idle (task : Task) (before : Option RemoteObject) : Prop :=
  task.operation = .none ∨ task.operation = .delete ∧ before = none

/-- The write that a task asks for, by what its probe found. -/
inductive Asks (task : Task) : Option RemoteObject → Write → Prop
  | delete (object : RemoteObject) (h : task.operation = .delete) : Asks task (some object) (.delete object)
  | update (object : RemoteObject) (h : task.operation ≠ .none) (h' : task.operation ≠ .delete) :
    Asks task (some object) (.update object)
  | create (h : task.operation ≠ .none) (h' : task.operation ≠ .delete) : Asks task none .create

theorem asks_of_choose (h : task.choose before = .ok write) : task.Asks before write := by
  unfold choose at h
  split at h <;> cases h
  · exact .delete _ ‹_›
  · exact .create ‹_› ‹_›
  · exact .update _ ‹_› ‹_›

theorem idle_of_choose {outcome : Outcome} (h : task.choose before = .error outcome) :
    task.Idle before ∧ outcome.status = .success ∧ outcome.attempted = false := by
  unfold choose at h
  split at h <;> cases h
  · exact ⟨.inl ‹_›, rfl, rfl⟩
  · exact ⟨.inr ⟨‹_›, rfl⟩, rfl, rfl⟩

/-- A task asks for a write exactly if there is something to write. -/
theorem exists_asks_iff : (∃ write, task.Asks before write) ↔ ¬task.Idle before := by
  constructor
  · rintro ⟨write, hasks⟩ (hidle | ⟨hidle, habsent⟩) <;> cases hasks <;> simp_all
  · intro hidle
    cases hchoose : task.choose before with
    | error outcome => exact absurd (idle_of_choose hchoose).1 hidle
    | ok write => exact ⟨write, asks_of_choose hchoose⟩

theorem Idle.not_asks (h : task.Idle before) : ¬task.Asks before write :=
  fun hasks => exists_asks_iff.mp ⟨write, hasks⟩ h

/-- What a task asks for is settled by what its probe found. -/
theorem Asks.exists_iff (h : task.Asks before write) {P : Write → Prop} :
    (∃ write, task.Asks before write ∧ P write) ↔ P write := by
  constructor
  · rintro ⟨write', h', hholds⟩
    cases h with
    | delete object hdelete =>
      cases h' with
      | delete => exact hholds
      | update _ _ hkeeps => exact absurd hdelete hkeeps
    | update object _ hkeeps =>
      cases h' with
      | delete _ hdelete => exact absurd hdelete hkeeps
      | update => exact hholds
    | create =>
      cases h'
      exact hholds
  · exact fun hholds => ⟨write, h, hholds⟩

/-! ## How a task goes -/

variable {connector : Connector σ} {options : ReadOptions} {s s' : σ}

/-- The probe of a task finds an object or none, and leaves a world.  It looks for the identifier from before a
rename, and an error that says that there is no such object counts as none. -/
def Meets (task : Task) (connector : Connector σ) (options : ReadOptions) (s : σ) (before : Option RemoteObject)
    (s' : σ) : Prop :=
  let read := connector.getObject task.objectClass (task.oldAccountId.getD task.accountId) options s
  (read.1 = .ok before ∨ before = none ∧ ∃ detail, read.1 = .error (.objectNotFound detail)) ∧ read.2 = s'

theorem probe_eq_ok_iff :
    connector.probe task.objectClass task.probeUid options s = (.ok before, s') ↔
      task.Meets connector options s before s' := by
  unfold Meets Connector.probe probeUid
  cases connector.getObject task.objectClass (task.oldAccountId.getD task.accountId) options s with
  | mk answer s'' =>
    cases answer with
    | ok found => exact Prod.ext_iff.trans (by simp)
    | error error => cases error <;> exact Prod.ext_iff.trans (by simp [eq_comm])

/-- What a probe meets is settled. -/
theorem Meets.exists_iff (h : task.Meets connector options s before s') {P : Option RemoteObject → σ → Prop} :
    (∃ before s', task.Meets connector options s before s' ∧ P before s') ↔ P before s' := by
  constructor
  · rintro ⟨before', s'', h', hholds⟩
    have hsame := (probe_eq_ok_iff.mpr h).symm.trans (probe_eq_ok_iff.mpr h')
    cases hsame
    exact hholds
  · exact fun hholds => ⟨before, s', h, hholds⟩

/-- How a task goes that reaches its resource. -/
inductive Course (task : Task) (connector : Connector σ) (options : ReadOptions) (s : σ) : Observed σ → Prop
  /-- The probe fails. -/
  | unanswered {error : ConnectorError} {s' : σ}
      (hfails : ∀ before s', ¬task.Meets connector options s before s') :
    Course task connector options s ⟨[task.probeCall options], task.unreached error.message, s'⟩
  /-- There is nothing to write. -/
  | idle {before : Option RemoteObject} {s' : σ} {outcome : Outcome}
      (hmeets : task.Meets connector options s before s') (hidle : task.Idle before)
      (hstatus : outcome.status = .success) (hattempted : outcome.attempted = false) :
    Course task connector options s ⟨[task.probeCall options], outcome, s'⟩
  /-- The write is not enabled. -/
  | disabled {before : Option RemoteObject} {s' : σ} {write : Write} {message : String}
      (hmeets : task.Meets connector options s before s') (hasks : task.Asks before write)
      (hdisabled : connector.supports write.capability s' = false) :
    Course task connector options s
      ⟨[task.probeCall options], ⟨.notAttempted, write.operation, false, some message, before⟩, s'⟩
  /-- The resource takes the write. -/
  | taken {before : Option RemoteObject} {s' s'' : σ} {write : Write}
      (hmeets : task.Meets connector options s before s') (hasks : task.Asks before write)
      (henabled : connector.supports write.capability s' = true)
      (hsent : task.send connector options write s' = (.ok (), s'')) :
    Course task connector options s
      ⟨[task.probeCall options, task.writeCall options write],
        ⟨.success, write.operation, true, none, write.before⟩, s''⟩
  /-- The resource rejects the write. -/
  | refused {before : Option RemoteObject} {s' s'' : σ} {write : Write} {error : ConnectorError}
      (hmeets : task.Meets connector options s before s') (hasks : task.Asks before write)
      (henabled : connector.supports write.capability s' = true)
      (hsent : task.send connector options write s' = (.error error, s'')) :
    Course task connector options s
      ⟨[task.probeCall options, task.writeCall options write],
        ⟨.failure, write.operation, true, some error.message, write.before⟩, s''⟩

end Task

namespace Executor

variable {executor : Executor σ} {task : Task} {s : σ}

theorem observe_dryRun (hdry : executor.dryRun = true) :
    executor.observe task s = ⟨[], .notAttempted "dry run", s⟩ := by
  simp only [observe, run, prepare, through, hdry, if_true]
  rfl

theorem observe_unknown (hlive : executor.dryRun = false) {error : MappingError}
    (hlookup : executor.registry.lookup task.resource task.subjectType = .error error) :
    executor.observe task s = ⟨[], task.unreached error.message, s⟩ := by
  simp only [observe, run, prepare, through, hlive, Bool.false_eq_true, if_false, bind_apply, Task.prepare,
    Registry.lookup_through, hlookup, Except.map]
  rfl

/-- A task that reaches its resource goes one of these ways. -/
theorem observe_course (hlive : executor.dryRun = false) {resource : Resource σ} {mapping : Mapping}
    (hlookup : executor.registry.lookup task.resource task.subjectType = .ok (resource, mapping)) :
    task.Course resource.connector (mapping.readOptions .propagation) s (executor.observe task s) := by
  simp only [observe, run, prepare, through, hlive, Bool.false_eq_true, if_false, bind_apply, Task.prepare,
    Registry.lookup_through, hlookup, Except.map, Resource.through, Connector.probe_logged, List.nil_append]
  cases hprobe : resource.connector.probe task.objectClass task.probeUid (mapping.readOptions .propagation) s with
  | mk answer s' =>
    cases answer with
    | error error =>
      refine .unanswered fun before s'' hmeets => ?_
      cases hprobe.symm.trans (Task.probe_eq_ok_iff.mpr hmeets)
    | ok before =>
      have hmeets := Task.probe_eq_ok_iff.mp hprobe
      dsimp only
      cases hchoose : task.choose before with
      | error outcome =>
        obtain ⟨hidle, hstatus, hattempted⟩ := Task.idle_of_choose hchoose
        exact .idle hmeets hidle hstatus hattempted
      | ok write =>
        have hasks := Task.asks_of_choose hchoose
        dsimp only
        cases henabled : resource.connector.supports write.capability s' with
        | false =>
          simp only [Connector.supports_logged, henabled, Bool.false_eq_true, if_false]
          exact .disabled hmeets hasks henabled
        | true =>
          simp only [Connector.supports_logged, henabled, if_true, Task.finish, Task.send_logged]
          cases hsent : task.send resource.connector (mapping.readOptions .propagation) write s' with
          | mk answer s'' =>
            cases answer with
            | ok _ => exact .taken hmeets hasks henabled hsent
            | error error => exact .refused hmeets hasks henabled hsent

end Executor

/-! ## One write at most -/

namespace Task

/-- What a task does at its resource: it probes for its object and then makes the write that it asks for, if that is
enabled.  Its status tells how far it came. -/
structure WritesOnce (task : Task) (connector : Connector σ) (options : ReadOptions) (s : σ) (observed : Observed σ) :
    Prop where
  calls : observed.calls = [task.probeCall options] ∨ ∃ call, observed.calls = [task.probeCall options, call]
  written_iff : ∀ call, observed.calls = [task.probeCall options, call] ↔
    ∃ before s', task.Meets connector options s before s' ∧
      ∃ write, task.Asks before write ∧
        connector.supports write.capability s' = true ∧ call = task.writeCall options write
  success_iff : observed.outcome.status = .success ↔
    ∃ before s', task.Meets connector options s before s' ∧
      (task.Idle before ∨
        ∃ write, task.Asks before write ∧
          connector.supports write.capability s' = true ∧ (task.send connector options write s').1 = .ok ())
  notAttempted_iff : observed.outcome.status = .notAttempted ↔
    ∃ before s', task.Meets connector options s before s' ∧
      ∃ write, task.Asks before write ∧ connector.supports write.capability s' = false
  failure_iff : observed.outcome.status = .failure ↔
    (∀ before s', ¬task.Meets connector options s before s') ∨
      ∃ before s', task.Meets connector options s before s' ∧
        ∃ write, task.Asks before write ∧
          connector.supports write.capability s' = true ∧
            ∃ error, (task.send connector options write s').1 = .error error

theorem Course.writesOnce {task : Task} {connector : Connector σ} {options : ReadOptions} {s : σ}
    {observed : Observed σ} (h : task.Course connector options s observed) :
    task.WritesOnce connector options s observed := by
  cases h with
  | unanswered hfails => constructor <;> simp [hfails, unreached]
  | idle hmeets hidle hstatus _ =>
    have hfound : ∃ before s', task.Meets connector options s before s' := ⟨_, _, hmeets⟩
    constructor <;> simp [hmeets.exists_iff, hidle, hidle.not_asks, hstatus, hfound]
  | disabled hmeets hasks hdisabled =>
    have hfound : ∃ before s', task.Meets connector options s before s' := ⟨_, _, hmeets⟩
    have hbusy := exists_asks_iff.mp ⟨_, hasks⟩
    constructor <;> simp [hmeets.exists_iff, hasks.exists_iff, hdisabled, hfound, hbusy]
  | taken hmeets hasks henabled hsent =>
    have hfound : ∃ before s', task.Meets connector options s before s' := ⟨_, _, hmeets⟩
    constructor <;> simp [hmeets.exists_iff, hasks.exists_iff, henabled, hsent, hfound, @eq_comm RemoteCall]
  | refused hmeets hasks henabled hsent =>
    have hbusy := exists_asks_iff.mp ⟨_, hasks⟩
    constructor <;> simp [hmeets.exists_iff, hasks.exists_iff, henabled, hsent, hbusy, @eq_comm RemoteCall]

end Task

/-- A task that is carried out alone makes no call in a dry run, and none if its resource is not known or does not map
the subject.  Otherwise it probes for its object, by the identifier from before a rename, and makes one write at most,
to what it found. -/
theorem Executor.run_writes_once (executor : Executor σ) (task : Task) (s : σ) :
    let observed := executor.observe task s
    (observed.outcome, observed.world) = executor.run task s ∧
      if executor.dryRun then observed.calls = [] ∧ observed.outcome.status = .notAttempted
      else
        match executor.registry.lookup task.resource task.subjectType with
        | .error _ => observed.calls = [] ∧ observed.outcome.status = .failure
        | .ok (resource, mapping) =>
          task.WritesOnce resource.connector (mapping.readOptions .propagation) s observed := by
  refine ⟨executor.observe_run task s, ?_⟩
  cases hdry : executor.dryRun with
  | true =>
    rw [observe_dryRun hdry, if_pos rfl]
    exact ⟨rfl, rfl⟩
  | false =>
    rw [if_neg Bool.false_ne_true]
    cases hlookup : executor.registry.lookup task.resource task.subjectType with
    | error error =>
      rw [observe_unknown hdry hlookup]
      exact ⟨rfl, rfl⟩
    | ok found => exact (observe_course hdry hlookup).writesOnce

end Propagation

/-! ## What the outcome tells -/

/-- The operation that a call asks for, if it is a write. -/
def Call.operation? : Call → Option Operation
  | create .. => some .create
  | update .. => some .update
  | delete .. => some .delete
  | _ => none

namespace Propagation

/-- A write with this operation was sent. -/
def Observed.Wrote (observed : Observed σ) (operation : Operation) : Prop :=
  ∃ call ∈ observed.calls, call.call.operation? = some operation

/-- A task fails before there is anything to write: its resource is not known or does not map the subject, or the probe
fails. -/
def Task.Unreached (task : Task) (registry : Registry σ) (s : σ) : Prop :=
  match registry.lookup task.resource task.subjectType with
  | .error _ => True
  | .ok (resource, mapping) =>
    ∀ before s', ¬task.Meets resource.connector (mapping.readOptions .propagation) s before s'

/-- An outcome tells what was sent: it claims an attempt exactly if there was a write, and names its operation. -/
structure Observed.Tells (observed : Observed σ) : Prop where
  attempted_iff : observed.outcome.attempted = true ↔ ∃ operation, observed.Wrote operation
  executed : ∀ operation, observed.Wrote operation → observed.outcome.executed = operation

theorem Task.operation?_probeCall (task : Task) (options : ReadOptions) :
    (task.probeCall options).call.operation? = none := rfl

theorem Task.operation?_writeCall (task : Task) (options : ReadOptions) (write : Write) :
    (task.writeCall options write).call.operation? = some write.operation := by
  cases write <;> rfl

/-- The outcome of a task that reaches its resource and learns what is there tells what was sent. -/
theorem Task.Course.tells {task : Task} {connector : Connector σ} {options : ReadOptions} {s : σ}
    {observed : Observed σ} (h : task.Course connector options s observed) {before : Option RemoteObject} {s' : σ}
    (hmeets : task.Meets connector options s before s') : observed.Tells := by
  cases h with
  | unanswered hfails => exact absurd hmeets (hfails before s')
  | idle _ _ _ hattempted =>
    constructor <;> simp [Observed.Wrote, operation?_probeCall, hattempted]
  | disabled => constructor <;> simp [Observed.Wrote, operation?_probeCall]
  | taken | refused => constructor <;> simp [Observed.Wrote, operation?_probeCall, operation?_writeCall]

theorem Task.Course.eq_of_unanswered {task : Task} {connector : Connector σ} {options : ReadOptions} {s : σ}
    {observed : Observed σ} (h : task.Course connector options s observed)
    (hfails : ∀ before s', ¬task.Meets connector options s before s') :
    observed.calls = [task.probeCall options] ∧ ∃ message, observed.outcome = task.unreached message := by
  cases h with
  | @unanswered error => exact ⟨rfl, error.message, rfl⟩
  | idle hmeets | disabled hmeets | taken hmeets | refused hmeets => exact absurd hmeets (hfails _ _)

/-- The outcome of a task tells what was sent, unless the task is carried out and fails before there is anything to
write.  Then it claims an attempt, of the operation that the task asks for, though nothing was sent. -/
theorem Executor.run_tells_unless_unreached (executor : Executor σ) (task : Task) (s : σ) :
    let observed := executor.observe task s
    let unreached := executor.dryRun = false ∧ task.Unreached executor.registry s
    (observed.outcome, observed.world) = executor.run task s ∧
      (¬unreached → observed.Tells) ∧
      (unreached →
        (∀ operation, ¬observed.Wrote operation) ∧ observed.outcome.attempted = true ∧
          observed.outcome.executed = task.operation ∧ observed.outcome.status = .failure) := by
  intro observed unreached
  refine ⟨executor.observe_run task s, ?_⟩
  cases hdry : executor.dryRun with
  | true =>
    have hobserved : observed = ⟨[], .notAttempted "dry run", s⟩ := observe_dryRun hdry
    refine ⟨fun _ => ?_, fun h => nomatch hdry.symm.trans h.1⟩
    rw [hobserved]
    constructor <;> simp [Observed.Wrote, Outcome.notAttempted]
  | false =>
    cases hlookup : executor.registry.lookup task.resource task.subjectType with
    | error error =>
      have hobserved : observed = ⟨[], task.unreached error.message, s⟩ := observe_unknown hdry hlookup
      have hunreached : task.Unreached executor.registry s := by simp only [Task.Unreached, hlookup]
      refine ⟨fun h => absurd ⟨hdry, hunreached⟩ h, fun _ => ?_⟩
      rw [hobserved]
      exact ⟨fun _ ⟨_, hmem, _⟩ => absurd hmem List.not_mem_nil, rfl, rfl, rfl⟩
    | ok found =>
      have hcourse := observe_course (s := s) hdry hlookup
      simp only [unreached, hdry, true_and, Task.Unreached, hlookup]
      refine ⟨fun hreached => ?_, fun hfails => ?_⟩
      · simp only [not_forall, not_not] at hreached
        obtain ⟨before, s', hmeets⟩ := hreached
        exact hcourse.tells hmeets
      · obtain ⟨hcalls, message, houtcome⟩ := hcourse.eq_of_unanswered hfails
        refine ⟨fun operation hwrote => ?_, ?_⟩
        · obtain ⟨call, hmem, hoperation⟩ := hwrote
          rw [hcalls, List.mem_singleton] at hmem
          rw [hmem, Task.operation?_probeCall] at hoperation
          cases hoperation
        · rw [houtcome]
          exact ⟨rfl, rfl, rfl⟩

/-! ### Attempts that were none -/

/-- The contacts while they cannot be read. -/
def unreadableContacts : Resource Memory.Directory :=
  { contacts with
    connector := { contacts.connector with getObject := fun _ _ _ => Effect.fail (.connectionFailed "down") } }

/-- An account that is to be created. -/
def accountTask (resource : String) : Task :=
  { subjectType := .user, subjectId := 1, subjectName := "ann", resource, objectClass := "contact",
    operation := .create, accountId := "ann" }

/-- A task for an unknown resource makes no call, and one whose probe fails makes this call alone; yet both claim that
a write was attempted. -/
theorem attempts_without_write :
    let unknown := Executor.observe { registry := contactRegistry } (accountTask "payroll") {}
    let unanswered := Executor.observe { registry := Registry.insert {} unreadableContacts } (accountTask "contacts") {}
    (unknown.calls = [] ∧ unknown.outcome.attempted = true) ∧
      unanswered.calls.map (fun call => call.call.method) = [.getObject] ∧ unanswered.outcome.attempted = true := by
  decide +kernel

end Propagation

end Provisioning
