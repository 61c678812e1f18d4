import Mathlib.Data.List.Sort
import Provisioning.Propagation.Execute
import Provisioning.Proofs.Effect.Frame
set_option autoImplicit false

/-!
# The order of execution

Primary tasks come first, in the order of their priorities, then the tasks that are not primary, as they were
given.  They are carried out in this order one at a time.  Only a primary task that fails while the caller waits
for it ends this; whatever comes after it is handled without reaching any resource.
-/

namespace Provisioning.Propagation

variable {σ : Type}

/-! ## Sorting -/

/-- The second list holds the tasks of the first one by ascending priority; tasks of one priority keep their
order. -/
structure SortedStably (tasks sorted : List Task) : Prop where
  perm : sorted.Perm tasks
  ascending : sorted.Pairwise fun a b => a.priority ≤ b.priority
  stable : ∀ priority,
    (sorted.filter fun task => task.priority == priority) = tasks.filter fun task => task.priority == priority

theorem insertByPriority_eq (task : Task) (tasks : List Task) :
    insertByPriority task tasks = tasks.orderedInsert (fun a b => a.priority ≤ b.priority) task := by
  induction tasks with
  | nil => rfl
  | cons other rest ih => rw [insertByPriority, List.orderedInsert_cons, ih]

theorem sortByPriority_eq (tasks : List Task) :
    sortByPriority tasks = tasks.insertionSort fun a b => a.priority ≤ b.priority := by
  induction tasks with
  | nil => rfl
  | cons task rest ih =>
    have hcons : sortByPriority (task :: rest) = insertByPriority task (sortByPriority rest) := rfl
    rw [hcons, insertByPriority_eq, ih, List.insertionSort_cons]

/-- Sorting by priority is stable: the tasks of one priority are a sorted sublist, and sorting keeps those. -/
theorem sortByPriority_sortedStably (tasks : List Task) : SortedStably tasks (sortByPriority tasks) := by
  rw [sortByPriority_eq]
  have htotal : Std.Total fun a b : Task => a.priority ≤ b.priority := ⟨fun a b => le_total a.priority b.priority⟩
  have htrans : IsTrans Task fun a b => a.priority ≤ b.priority := ⟨fun _ _ _ => le_trans⟩
  have hperm := List.perm_insertionSort (fun a b : Task => a.priority ≤ b.priority) tasks
  refine ⟨hperm, List.pairwise_insertionSort _ tasks, fun priority => ?_⟩
  have hclass : (tasks.filter fun task => task.priority == priority).Pairwise
      fun a b => a.priority ≤ b.priority := by
    refine List.pairwise_iff_forall_sublist.mpr fun {a b} hpair => ?_
    have ha := List.mem_filter.mp (hpair.subset List.mem_cons_self)
    have hb := List.mem_filter.mp (hpair.subset (List.mem_cons_of_mem _ List.mem_cons_self))
    exact le_of_eq ((eq_of_beq ha.2).trans (eq_of_beq hb.2).symm)
  have hsublist := (List.sublist_insertionSort hclass List.filter_sublist).filter
    fun task => task.priority == priority
  simp only [List.filter_filter, Bool.and_self] at hsublist
  exact (hsublist.eq_of_length (hperm.filter _).length_eq.symm).symm

/-! ## What is carried out -/

/-- The task is a primary one for which the caller waits, and it failed. -/
def Handled.Stops (handled : Handled) : Prop :=
  handled.task.primary = true ∧ handled.task.mode = .sync ∧ handled.outcome.status = .failure

/-- Carry out one task after the other, each with its own probe and write. -/
def attemptAll (registry : Registry σ) (tasks : List Task) : StateM σ (List Handled) :=
  tasks.mapM fun task => do
    let outcome ← task.execute registry
    return ⟨task, outcome⟩

/-- No task stopped the execution: every task was carried out, and the caller learns of no failure. -/
structure Completed (registry : Registry σ) (s : σ) (execution : Execution) (s' : σ) : Prop where
  passed : ∀ handled ∈ execution.handled, ¬handled.Stops
  result : execution.result = .ok ()
  attempts : attemptAll registry (execution.handled.map Handled.task) s = (execution.handled, s')

/-- The first task that stops the execution is the last one that was carried out: the caller learns of its
failure, and the later ones are handled as not attempted. -/
structure Stopped (registry : Registry σ) (s : σ) (earlier : List Handled) (first : Handled)
    (later : List Handled) (execution : Execution) (s' : σ) : Prop where
  handled : execution.handled = earlier ++ first :: later
  passed : ∀ handled ∈ earlier, ¬handled.Stops
  stops : first.Stops
  result : ∃ message, first.outcome.message = some message ∧
    execution.result = .error (.primaryFailed first.task.resource message)
  skipped : ∀ handled ∈ later,
    handled.outcome = .notAttempted ("primary resource `" ++ first.task.resource ++ "` failed")
  attempts : attemptAll registry ((earlier ++ [first]).map Handled.task) s = (earlier ++ [first], s')

theorem attemptAll_cons (registry : Registry σ) (task : Task) (rest : List Task) (s : σ) :
    attemptAll registry (task :: rest) s =
      let attempted := task.execute registry s
      let others := attemptAll registry rest attempted.2
      (⟨task, attempted.1⟩ :: others.1, others.2) := by
  simp [attemptAll]

section Cons

variable {registry : Registry σ} {task : Task} {s s' : σ} {execution : Execution}

/-- A task that stops nothing is carried out before all the others. -/
theorem Completed.cons (h : Completed registry (task.execute registry s).2 execution s')
    (hpassed : ¬Handled.Stops ⟨task, (task.execute registry s).1⟩) :
    Completed registry s { execution with handled := ⟨task, (task.execute registry s).1⟩ :: execution.handled } s' := by
  refine ⟨fun handled hmem => ?_, h.result, ?_⟩
  · rcases List.mem_cons.mp hmem with rfl | hmem'
    · exact hpassed
    · exact h.passed handled hmem'
  · rw [List.map_cons, attemptAll_cons]
    simp only [h.attempts]

theorem Stopped.cons {earlier later : List Handled} {first : Handled}
    (h : Stopped registry (task.execute registry s).2 earlier first later execution s')
    (hpassed : ¬Handled.Stops ⟨task, (task.execute registry s).1⟩) :
    Stopped registry s (⟨task, (task.execute registry s).1⟩ :: earlier) first later
      { execution with handled := ⟨task, (task.execute registry s).1⟩ :: execution.handled } s' := by
  refine ⟨?_, fun handled hmem => ?_, h.stops, h.result, h.skipped, ?_⟩
  · rw [h.handled, List.cons_append]
  · rcases List.mem_cons.mp hmem with rfl | hmem'
    · exact hpassed
    · exact h.passed handled hmem'
  · rw [List.cons_append, List.map_cons, attemptAll_cons]
    simp only [h.attempts]

end Cons

/-! ## Failures -/

/-- An outcome that tells of a failure tells why. -/
def Outcome.Explained (outcome : Outcome) : Prop :=
  outcome.status = .failure → ∃ message, outcome.message = some message

theorem Task.explained_of_choose {task : Task} {before : Option RemoteObject} {outcome : Outcome}
    (h : task.choose before = .error outcome) : outcome.Explained := by
  unfold choose at h
  split at h <;> cases h <;> exact fun hfailure => nomatch hfailure

theorem Task.explained_of_prepare (task : Task) (registry : Registry σ) (s : σ) {outcome : Outcome}
    (h : (task.prepare registry s).1 = .settled outcome) : outcome.Explained := by
  unfold prepare at h
  split at h
  · cases h
    exact fun _ => ⟨_, rfl⟩
  · dsimp only at h
    split at h
    · cases h
      exact fun _ => ⟨_, rfl⟩
    · split at h
      · cases h
        exact explained_of_choose ‹_›
      · split at h
        · cases h
        · cases h
          exact fun _ => ⟨_, rfl⟩

theorem Task.explained_of_execute (task : Task) (registry : Registry σ) (s : σ) :
    (task.execute registry s).1.Explained := by
  have hsettled := @explained_of_prepare σ task registry s
  simp only [execute, bind_apply]
  cases hprepared : (task.prepare registry s).1 with
  | settled outcome => exact hsettled hprepared
  | pending connector options write =>
    simp only [finish]
    split
    · intro hfailure
      cases hfailure
    · exact fun _ => ⟨_, rfl⟩

namespace Executor

variable (registry : Registry σ) (turns : Nat → Nat)

theorem run_eq_execute (task : Task) :
    ({ registry, turns } : Executor σ).run task = task.execute registry := rfl

theorem runInOrder_eq_attemptAll (tasks : List Task) (s : σ) :
    ({ registry, turns } : Executor σ).runInOrder tasks s = attemptAll registry tasks s := by
  induction tasks generalizing s with
  | nil => rfl
  | cons task rest ih =>
    simp only [runInOrder, run_eq_execute, bind_apply, pure_apply, ih, attemptAll_cons]

theorem stops_iff {task : Task} {outcome : Outcome} (hprimary : task.primary = true) :
    stops task outcome = true ↔ Handled.Stops ⟨task, outcome⟩ := by
  simp [stops, Handled.Stops, hprimary, and_comm]

theorem map_task_attemptAll (tasks : List Task) (s : σ) :
    (attemptAll registry tasks s).1.map Handled.task = tasks := by
  induction tasks generalizing s with
  | nil => rfl
  | cons task rest ih => rw [attemptAll_cons, List.map_cons, ih]

/-- The tasks that are not primary are all carried out, and none of them stops anything. -/
theorem runPrimary_nil {secondary : List Task} (hsecondary : ∀ task ∈ secondary, task.primary = false) (s : σ) :
    let executed := ({ registry, turns } : Executor σ).runPrimary secondary [] s
    executed.1.handled.map Handled.task = secondary ∧ Completed registry s executed.1 executed.2 := by
  have hrun : ({ registry, turns } : Executor σ).runPrimary secondary [] s =
      ({ handled := (attemptAll registry secondary s).1, result := .ok () }, (attemptAll registry secondary s).2) := by
    rw [← runInOrder_eq_attemptAll registry turns]
    rfl
  have htasks := map_task_attemptAll registry secondary s
  rw [hrun]
  refine ⟨htasks, fun handled hmem hstops => ?_, rfl, ?_⟩
  · have htask : handled.task ∈ secondary := htasks ▸ List.mem_map_of_mem hmem
    exact absurd hstops.1 (by simp [hsecondary _ htask])
  · exact congrArg (fun tasks => attemptAll registry tasks s) htasks

/-- One primary task is carried out.  If it stops the execution nothing else is, and if not the rest follows. -/
theorem runPrimary_cons (secondary : List Task) (task : Task) (rest : List Task) (s : σ) :
    let executor : Executor σ := { registry, turns }
    let attempted := task.execute registry s
    let others := executor.runPrimary secondary rest attempted.2
    executor.runPrimary secondary (task :: rest) s =
      if stops task attempted.1 then
        ({ handled := ⟨task, attempted.1⟩ :: (rest ++ secondary).map fun later =>
             ⟨later, .notAttempted ("primary resource `" ++ task.resource ++ "` failed")⟩
           result := .error (.primaryFailed task.resource (attempted.1.message.getD "")) }, attempted.2)
      else ({ others.1 with handled := ⟨task, attempted.1⟩ :: others.1.handled }, others.2) := by
  simp only [runPrimary, run_eq_execute, bind_apply]
  split <;> rfl

theorem runPrimary_spec {secondary : List Task} (hsecondary : ∀ task ∈ secondary, task.primary = false)
    {primaries : List Task} (hprimary : ∀ task ∈ primaries, task.primary = true) (s : σ) :
    let executed := ({ registry, turns } : Executor σ).runPrimary secondary primaries s
    executed.1.handled.map Handled.task = primaries ++ secondary ∧
      (Completed registry s executed.1 executed.2 ∨
        ∃ earlier first later, Stopped registry s earlier first later executed.1 executed.2) := by
  induction primaries generalizing s with
  | nil =>
    obtain ⟨htasks, hcompleted⟩ := runPrimary_nil registry turns hsecondary s
    exact ⟨htasks, .inl hcompleted⟩
  | cons task rest ih =>
    have htask := hprimary task List.mem_cons_self
    have hexplained := task.explained_of_execute registry s
    obtain ⟨htasks, hrest⟩ := ih (fun other hmem => hprimary other (List.mem_cons_of_mem _ hmem))
      (task.execute registry s).2
    rw [runPrimary_cons]
    dsimp only
    split
    · rename_i hstops
      have hfirst := (stops_iff htask).mp hstops
      obtain ⟨message, hmessage⟩ := hexplained hfirst.2.2
      refine ⟨?_, .inr ⟨[], ⟨task, (task.execute registry s).1⟩, _, rfl, ?_, hfirst, ?_, ?_, ?_⟩⟩
      · simp [Function.comp_def]
      · exact fun handled hmem => nomatch hmem
      · exact ⟨message, hmessage, by rw [hmessage]; rfl⟩
      · intro handled hmem
        obtain ⟨later, -, rfl⟩ := List.mem_map.mp hmem
        rfl
      · rw [List.nil_append, List.map_singleton, attemptAll_cons]
        rfl
    · rename_i hstops
      have hpassed : ¬Handled.Stops ⟨task, (task.execute registry s).1⟩ := fun h => hstops ((stops_iff htask).mpr h)
      refine ⟨by rw [List.map_cons, htasks, List.cons_append], ?_⟩
      rcases hrest with hcompleted | ⟨earlier, first, later, hstopped⟩
      · exact .inl (hcompleted.cons hpassed)
      · exact .inr ⟨_ :: earlier, first, later, hstopped.cons hpassed⟩

/-- Primary tasks first.  Whatever the connectors do, each task is handled once: the primary ones stably sorted by
priority, then the others as they were given.  Either no task stops the execution, all of them are carried out one
after the other, and the caller learns of no failure; or the execution ends with the first task that stops it, no
connector is called after that, and the caller learns why. -/
theorem execute_primary_first (tasks : List Task) (s : σ) :
    let order := sortByPriority (tasks.filter Task.primary)
    let executed := ({ registry, turns } : Executor σ).execute tasks s
    SortedStably (tasks.filter Task.primary) order ∧
      executed.1.handled.map Handled.task = order ++ (tasks.filter fun task => !task.primary) ∧
        (Completed registry s executed.1 executed.2 ∨
          ∃ earlier first later, Stopped registry s earlier first later executed.1 executed.2) := by
  have hsorted := sortByPriority_sortedStably (tasks.filter Task.primary)
  refine ⟨hsorted, runPrimary_spec registry turns (fun task hmem => ?_) (fun task hmem => ?_) s⟩
  · simpa using (List.mem_filter.mp hmem).2
  · exact (List.mem_filter.mp (hsorted.perm.mem_iff.mp hmem)).2

end Executor

end Provisioning.Propagation
