import Provisioning.Propagation.Task
set_option autoImplicit false

/-!
# Executing tasks

A task first probes the remote object, then picks the write: deleting an absent object needs none, an update of an
absent object becomes a create, and a create of a present one becomes an update.

Primary tasks run first, one at a time, lowest priority first.  If one of them fails and the caller waits for it,
nothing later is attempted and the caller learns of it.  Tasks that are not primary never fail the whole.  They
run in order or, on request, interleaved: the probe of one may then happen between the probe and the write of
another.
-/

namespace Provisioning.Propagation

variable {σ : Type}

/-- The write that a probe led to. -/
inductive Write where
  | create
  | update (object : RemoteObject)
  | delete (object : RemoteObject)
  deriving DecidableEq

namespace Write

/-- The operation of a write. -/
def operation : Write → Operation
  | create => .create
  | update _ => .update
  | delete _ => .delete

/-- The capability that a write needs. -/
def capability : Write → Capability
  | create => .create
  | update _ => .update
  | delete _ => .delete

/-- The object that was there before the write. -/
def before : Write → Option RemoteObject
  | create => none
  | update object | delete object => some object

end Write

/-- What is left of a task after its probe. -/
inductive Prepared (σ : Type) where
  /-- Nothing: the outcome is known. -/
  | settled (outcome : Outcome)
  /-- A write. -/
  | pending (connector : Connector σ) (options : ReadOptions) (write : Write)

namespace Task

/-- The identifier under which the remote object is probed: the one before a rename. -/
def probeUid (task : Task) : Uid := task.oldAccountId.getD task.accountId

/-- The outcome of a task that failed before its write was known. -/
def unreached (task : Task) (message : String) : Outcome :=
  { status := .failure, executed := task.operation, attempted := true, message := some message, before := none }

/-- The write for a task whose probe found `before`, or the outcome if there is nothing to write. -/
def choose (task : Task) (before : Option RemoteObject) : Except Outcome Write :=
  match task.operation, before with
  | .none, _ =>
    .error { status := .success, executed := .none, attempted := false, message := none, before }
  | .delete, none =>
    .error { status := .success, executed := .none, attempted := false,
             message := some "object not found on resource, nothing to delete", before := none }
  | .delete, some object => .ok (.delete object)
  | _, none => .ok .create
  | _, some object => .ok (.update object)

/-- Probe the remote object and settle what to write. -/
def prepare (registry : Registry σ) (task : Task) : StateM σ (Prepared σ) := fun s =>
  match registry.lookup task.resource task.subjectType with
  | .error error => (.settled (task.unreached error.message), s)
  | .ok (resource, mapping) =>
    let options := mapping.readOptions .propagation
    match resource.connector.probe task.objectClass task.probeUid options s with
    | (.error error, s') => (.settled (task.unreached error.message), s')
    | (.ok before, s') =>
      match task.choose before with
      | .error outcome => (.settled outcome, s')
      | .ok write =>
        if resource.connector.supports write.capability s' then (.pending resource.connector options write, s')
        else
          (.settled { status := .notAttempted, executed := write.operation, attempted := false,
                      message :=
                        some (Keyword.title write.capability ++ " is not enabled on `" ++ resource.name ++ "`"),
                      before }, s')

/-- Send a write to the resource. -/
def send (task : Task) (connector : Connector σ) (options : ReadOptions) : Write → Effect σ ConnectorError Unit
  | .create => (connector.create task.objectClass task.attributes options).mapOk fun _ => ()
  | .update object =>
    (connector.update task.objectClass object.uid task.attributes options).mapOk fun _ => ()
  | .delete object => connector.delete task.objectClass object.uid options

/-- Carry out what the probe left to do. -/
def finish (task : Task) : Prepared σ → StateM σ Outcome
  | .settled outcome => pure outcome
  | .pending connector options write => fun s =>
    match task.send connector options write s with
    | (.ok (), s') =>
      ({ status := .success, executed := write.operation, attempted := true, message := none,
         before := write.before }, s')
    | (.error error, s') =>
      ({ status := .failure, executed := write.operation, attempted := true, message := some error.message,
         before := write.before }, s')

/-- Probe and write. -/
def execute (registry : Registry σ) (task : Task) : StateM σ Outcome := do
  task.finish (← task.prepare registry)

end Task

/-! ## Several tasks -/

/-- Insert a task before the first one that does not come earlier. -/
def insertByPriority (task : Task) : List Task → List Task
  | [] => [task]
  | other :: rest =>
    if task.priority ≤ other.priority then task :: other :: rest else other :: insertByPriority task rest

/-- Order tasks by priority, lowest first; tasks of one priority keep their order. -/
def sortByPriority (tasks : List Task) : List Task := tasks.foldr insertByPriority []

/-- What came of a list of tasks: each of them in the order in which they were completed, and the error if a
primary task failed that the caller waits for. -/
structure Execution where
  handled : List Handled
  result : Except PropagationError Unit

/-- How tasks are carried out. -/
structure Executor (σ : Type) where
  registry : Registry σ
  /-- Whether tasks that are not primary are interleaved. -/
  parallel : Bool := false
  /-- Whether every task is reported as not attempted without reaching any resource. -/
  dryRun : Bool := false
  /-- Which of the unfinished tasks takes the next step when tasks are interleaved, counted from the first and
  around the end. -/
  turns : Nat → Nat := fun _ => 0

namespace Executor

/-- What is left of a task before its probe. -/
def prepare (executor : Executor σ) (task : Task) : StateM σ (Prepared σ) :=
  if executor.dryRun then pure (.settled (.notAttempted "dry run")) else task.prepare executor.registry

/-- Carry out one task. -/
def run (executor : Executor σ) (task : Task) : StateM σ Outcome := do
  task.finish (← executor.prepare task)

/-- Carry out tasks one after the other. -/
def runInOrder (executor : Executor σ) : List Task → StateM σ (List Handled)
  | [] => pure []
  | task :: rest => do
    let outcome ← executor.run task
    let handled ← executor.runInOrder rest
    pure (⟨task, outcome⟩ :: handled)

/-- A task on its way: not yet probed, or probed. -/
structure Job (σ : Type) where
  task : Task
  prepared : Option (Prepared σ) := none

/-- Carry out jobs step by step.  A job takes two steps, its probe and its write, and is handled after the
second. -/
def runInterleaved (executor : Executor σ) : (steps turn : Nat) → List (Job σ) → StateM σ (List Handled)
  | 0, _, _ => pure []
  | steps + 1, turn, jobs =>
    let index := executor.turns turn % jobs.length
    match jobs[index]? with
    | none => pure []
    | some job =>
      match job.prepared with
      | none => do
        let prepared ← executor.prepare job.task
        executor.runInterleaved steps (turn + 1) (jobs.set index { job with prepared := some prepared })
      | some prepared => do
        let outcome ← job.task.finish prepared
        let handled ← executor.runInterleaved steps (turn + 1) (jobs.eraseIdx index)
        pure (⟨job.task, outcome⟩ :: handled)

/-- Carry out the tasks that are not primary. -/
def runSecondary (executor : Executor σ) (tasks : List Task) : StateM σ (List Handled) :=
  if executor.parallel then
    executor.runInterleaved (2 * tasks.length) 0 (tasks.map fun task => { task })
  else executor.runInOrder tasks

/-- Whether an outcome stops everything later: the caller waits for the task and it failed. -/
def stops (task : Task) (outcome : Outcome) : Bool := outcome.status == .failure && task.mode == .sync

/-- Carry out primary tasks one after the other, then the secondary ones. -/
def runPrimary (executor : Executor σ) (secondary : List Task) : List Task → StateM σ Execution
  | [] => do
    let handled ← executor.runSecondary secondary
    pure { handled, result := .ok () }
  | task :: rest => do
    let outcome ← executor.run task
    if stops task outcome then
      let skipped := Outcome.notAttempted ("primary resource `" ++ task.resource ++ "` failed")
      pure { handled := ⟨task, outcome⟩ :: (rest ++ secondary).map fun later => ⟨later, skipped⟩
             result := .error (.primaryFailed task.resource (outcome.message.getD "")) }
    else
      let execution ← executor.runPrimary secondary rest
      pure { execution with handled := ⟨task, outcome⟩ :: execution.handled }

/-- Carry out the tasks of one change. -/
def execute (executor : Executor σ) (tasks : List Task) : StateM σ Execution :=
  executor.runPrimary (tasks.filter fun task => !task.primary) (sortByPriority (tasks.filter Task.primary))

end Executor

end Provisioning.Propagation
