import Mathlib.Algebra.GroupWithZero.Nat
import Provisioning.Proofs.Memory.Premises
import Provisioning.Proofs.Propagation.Mirror
import Provisioning.Proofs.Propagation.Plan
set_option autoImplicit false

/-!
# Interleaved tasks

Tasks that go to different resources do not notice each other, as long as each resource lives apart from the others.
Then every task that is not primary comes out as if it were carried out alone, whether the tasks are carried out one
after the other or step by step in turns.  So it makes no difference to the caller, to the resources or to the
outcomes which of them takes the next step.
-/

namespace Provisioning

variable {σ : Type} {State : String → Type}

/-! ## Resources apart from each other -/

/-- What there is to be seen of every resource: the connector under a name answers and changes nothing but what is seen
under this name. -/
structure Registry.Separate (view : (resource : String) → σ → State resource) (registry : Registry σ) : Prop where
  own : ∀ (name : String) (resource : Resource σ), registry.resources[name]? = some resource →
    resource.connector.Mirrors (Same (view name)) resource.connector
  others : ∀ (name : String) (resource : Resource σ), registry.resources[name]? = some resource →
    ∀ other, other ≠ name → resource.connector.Serves (Frame.unchanged (view other))

/-- A connector to a part of the world has to do with nothing but this part. -/
theorem Connector.mirrors_part {τ : Type} {lens : Lens σ τ} (hstores : lens.Stores) (connector : Connector τ) :
    (connector.within lens).Mirrors (Same lens.get) (connector.within lens) := by
  have hzoom : ∀ {α : Type} (operation : StateM τ α), Confined lens.get (lens.zoom operation) := by
    intro α operation s t hsame
    simp only [Same, Lens.zoom_apply] at hsame ⊢
    rw [hsame, hstores, hstores]
    exact ⟨rfl, rfl⟩
  exact
    { supports := fun capability s t hsame => congrArg (connector.supports capability) hsame
      create := fun _ _ _ => hzoom _
      update := fun _ _ _ _ => hzoom _
      delete := fun _ _ _ => hzoom _
      getObject := fun _ _ _ => hzoom _ }

/-- Resources that live in parts of the world which do not overlap are apart from each other. -/
theorem Registry.separate_of_parts (part : (resource : String) → Lens σ (State resource))
    (hstores : ∀ name, (part name).Stores) (hapart : ∀ name other, other ≠ name → (part other).Apart (part name))
    {registry : Registry σ}
    (hconnector : ∀ (name : String) (resource : Resource σ), registry.resources[name]? = some resource →
      ∃ connector, resource.connector = Connector.within (part name) connector) :
    registry.Separate fun name => (part name).get where
  own name resource hget := by
    obtain ⟨connector, heq⟩ := hconnector name resource hget
    exact heq ▸ Connector.mirrors_part (hstores name) connector
  others name resource hget other hne := by
    obtain ⟨connector, heq⟩ := hconnector name resource hget
    rw [heq]
    exact (connector.keeps_anything.within fun s t _ => (hapart name other hne).get_left t s).serves

namespace Propagation.Executor

variable {view : (resource : String) → σ → State resource} {executor : Executor σ}

/-! ## One task among others -/

namespace Job

/-- What is left to do of a job. -/
def rest (executor : Executor σ) (job : Job σ) : StateM σ Outcome :=
  match job.prepared with
  | none => executor.run job.task
  | some prepared => job.task.finish prepared

/-- A job has to do with nothing but its resource. -/
structure Separate (view : (resource : String) → σ → State resource) (executor : Executor σ) (job : Job σ) : Prop where
  own : ∀ prepared, job.prepared = some prepared → prepared.Mirrors (Same (view job.task.resource)) prepared
  others : ∀ other, other ≠ job.task.resource → job.Serves (Frame.unchanged (view other)) executor

end Job

theorem serves_others (h : executor.registry.Separate view) (task : Task) {other : String}
    (hne : other ≠ task.resource) : executor.registry.Serves (Frame.unchanged (view other)) task.resource :=
  fun resource hget => h.others _ resource hget other hne

/-- A probe finds what is seen of the resource of its task. -/
theorem prepare_own (h : executor.registry.Separate view) (task : Task) {s t : σ}
    (hsame : Same (view task.resource) s t) :
    (executor.prepare task s).1.Mirrors (Same (view task.resource)) (executor.prepare task t).1 ∧
      Same (view task.resource) (executor.prepare task s).2 (executor.prepare task t).2 := by
  unfold prepare
  cases executor.dryRun with
  | true => exact ⟨.settled _, hsame⟩
  | false =>
    have hprepared := task.mirrors_prepare (fun _ connector => connector) executor.registry
      (fun resource mapping hlookup =>
        h.own _ resource (Registry.get_eq_ok_iff.mp (Registry.lookup_eq_ok_iff.mp hlookup).1)) hsame
    rwa [Registry.through_self] at hprepared

/-- A job that has not begun is apart from the other resources. -/
theorem Job.separate_of_task (h : executor.registry.Separate view) (task : Task) :
    Job.Separate view executor { task } where
  own _ heq := nomatch heq
  others _ hne := ⟨serves_others h task hne, fun _ heq => nomatch heq⟩

/-- A job stays apart from the other resources when it is probed. -/
theorem Job.separate_of_probed (h : executor.registry.Separate view) (task : Task) (s : σ) :
    Job.Separate view executor { task, prepared := some (executor.prepare task s).1 } where
  own prepared heq := by
    cases heq
    exact (prepare_own h task rfl).1
  others other hne := by
    refine ⟨serves_others h task hne, fun prepared heq => ?_⟩
    cases heq
    exact (keeps_prepare (serves_others h task hne) s).1

/-- How a job ends, and what it leaves on its resource, depends on this resource alone. -/
theorem rest_own (h : executor.registry.Separate view) {job : Job σ} (hjob : job.Separate view executor) :
    Confined (view job.task.resource) (job.rest executor) := by
  obtain ⟨task, prepared⟩ := job
  cases prepared with
  | none =>
    intro s t hsame
    obtain ⟨hprepared, hafter⟩ := prepare_own h task hsame
    exact task.mirrors_finish hprepared _ _ hafter
  | some prepared => exact task.mirrors_finish (hjob.own prepared rfl)

/-- What is left to do of a job changes nothing on the other resources. -/
theorem rest_others {job : Job σ} (hjob : job.Separate view executor) {other : String}
    (hne : other ≠ job.task.resource) : (Frame.unchanged (view other)).Keeps (job.rest executor) := by
  have hserves := hjob.others other hne
  obtain ⟨task, prepared⟩ := job
  cases prepared with
  | none => exact keeps_run hserves.resource
  | some prepared => exact task.keeps_finish (hserves.prepared prepared rfl)

/-! ## As if alone -/

/-- Every job came out, in whatever order, as if it had been the only one, and what it was to leave on its resource is
there.  Nothing else has changed. -/
structure Alone (view : (resource : String) → σ → State resource) (executor : Executor σ) (jobs : List (Job σ)) (s : σ)
    (handled : List Handled) (s' : σ) : Prop where
  handled : handled.Perm (jobs.map fun job => ⟨job.task, (job.rest executor s).1⟩)
  left : ∀ job ∈ jobs, Same (view job.task.resource) (job.rest executor s).2 s'
  elsewhere : ∀ name, (∀ job ∈ jobs, name ≠ job.task.resource) → Same (view name) s s'

/-- Jobs on different resources, each of them apart from the others. -/
structure Scattered (view : (resource : String) → σ → State resource) (executor : Executor σ) (jobs : List (Job σ)) :
    Prop where
  distinct : (jobs.map fun job => job.task.resource).Nodup
  separate : ∀ job ∈ jobs, job.Separate view executor

theorem scattered_of_tasks (executor : Executor σ) (h : executor.registry.Separate view) {tasks : List Task}
    (hone : OnePerResource tasks) : Scattered view executor (tasks.map fun task => { task }) where
  distinct := by
    rw [List.map_map]
    exact hone
  separate job hmem := by
    obtain ⟨task, -, rfl⟩ := List.mem_map.mp hmem
    exact Job.separate_of_task h task

section Steps

variable {front back : List (Job σ)} {job : Job σ} {s s₁ s₂ : σ} {handled : List Handled}

theorem Scattered.others (h : Scattered view executor (front ++ job :: back)) :
    Scattered view executor (front ++ back) ∧ ∀ other ∈ front ++ back, other.task.resource ≠ job.task.resource := by
  have hperm : (front ++ job :: back).Perm (job :: (front ++ back)) := List.perm_middle
  obtain ⟨hnotin, hdistinct⟩ := List.nodup_cons.mp ((hperm.map fun job => job.task.resource).nodup_iff.mp h.distinct)
  refine ⟨⟨hdistinct, fun other hmem => h.separate other (hperm.mem_iff.mpr (List.mem_cons_of_mem _ hmem))⟩, ?_⟩
  exact fun other hmem hsame => hnotin (List.mem_map.mpr ⟨other, hmem, hsame⟩)

theorem Scattered.probed (h : executor.registry.Separate view) {task : Task}
    (hjobs : Scattered view executor (front ++ { task } :: back)) (s : σ) :
    Scattered view executor (front ++ { task, prepared := some (executor.prepare task s).1 } :: back) where
  distinct := by
    have hdistinct := hjobs.distinct
    rw [List.map_append, List.map_cons] at hdistinct ⊢
    exact hdistinct
  separate other hmem := by
    rcases List.mem_cons.mp (List.perm_middle.mem_iff.mp hmem) with rfl | hother
    · exact Job.separate_of_probed h task s
    · exact hjobs.others.1.separate other hother

/-- The other jobs do not notice a step of a job that changes nothing on their resources. -/
theorem Scattered.unnoticed (h : executor.registry.Separate view)
    (hjobs : Scattered view executor (front ++ job :: back))
    (helsewhere : ∀ name, name ≠ job.task.resource → Same (view name) s s₁) {other : Job σ}
    (hother : other ∈ front ++ back) :
    (other.rest executor s).1 = (other.rest executor s₁).1 ∧
      Same (view other.task.resource) (other.rest executor s).2 (other.rest executor s₁).2 := by
  obtain ⟨hothers, hne⟩ := hjobs.others
  exact rest_own h (hothers.separate other hother) s s₁ (helsewhere _ (hne other hother))

/-- A job is finished before all the others. -/
theorem Alone.finished (h : executor.registry.Separate view) (hjobs : Scattered view executor (front ++ job :: back))
    (halone : Alone view executor (front ++ back) (job.rest executor s).2 handled s₂) :
    Alone view executor (front ++ job :: back) s (⟨job.task, (job.rest executor s).1⟩ :: handled) s₂ := by
  obtain ⟨-, hne⟩ := hjobs.others
  have hmem : ∀ other, other ∈ front ++ job :: back ↔ other = job ∨ other ∈ front ++ back := fun other =>
    List.perm_middle.mem_iff.trans List.mem_cons
  have hjob := hjobs.separate job ((hmem job).mpr (.inl rfl))
  have helsewhere : ∀ name, name ≠ job.task.resource → Same (view name) s (job.rest executor s).2 := fun name hname =>
    (rest_others hjob hname s).symm
  refine ⟨?_, fun other hother => ?_, fun name hname => ?_⟩
  · have houtcomes : ((front ++ back).map fun other => (⟨other.task, (other.rest executor s).1⟩ : Handled)) =
        (front ++ back).map fun other => ⟨other.task, (other.rest executor (job.rest executor s).2).1⟩ :=
      List.map_congr_left fun other hother => by rw [(hjobs.unnoticed h helsewhere hother).1]
    refine List.Perm.trans ?_ (List.perm_middle.symm.map _)
    rw [List.map_cons, houtcomes]
    exact halone.handled.cons _
  · rcases (hmem other).mp hother with rfl | hother
    · exact halone.elsewhere _ fun other hother => (hne other hother).symm
    · exact (hjobs.unnoticed h helsewhere hother).2.trans (halone.left other hother)
  · have hjobname := hname job ((hmem job).mpr (.inl rfl))
    have hrest := halone.elsewhere name fun other hother => hname other ((hmem other).mpr (.inr hother))
    exact (helsewhere name hjobname).trans hrest

/-- A job is probed, and the rest of it left for later. -/
theorem Alone.probed (h : executor.registry.Separate view) {task : Task}
    (hjobs : Scattered view executor (front ++ { task } :: back))
    (halone : Alone view executor (front ++ { task, prepared := some (executor.prepare task s).1 } :: back)
      (executor.prepare task s).2 handled s₂) :
    Alone view executor (front ++ { task } :: back) s handled s₂ := by
  have hmem : ∀ (job other : Job σ), other ∈ front ++ job :: back ↔ other = job ∨ other ∈ front ++ back :=
    fun job other => List.perm_middle.mem_iff.trans List.mem_cons
  have helsewhere : ∀ name, name ≠ task.resource → Same (view name) s (executor.prepare task s).2 := fun name hname =>
    (keeps_prepare (serves_others h task hname) s).2.symm
  have hunnoticed := fun (other : Job σ) (hother : other ∈ front ++ back) => hjobs.unnoticed h helsewhere hother
  refine ⟨?_, fun other hother => ?_, fun name hname => ?_⟩
  · have houtcomes :
        ((front ++ { task } :: back).map fun job : Job σ => (⟨job.task, (job.rest executor s).1⟩ : Handled)) =
        (front ++ { task, prepared := some (executor.prepare task s).1 } :: back).map fun job : Job σ =>
          ⟨job.task, (job.rest executor (executor.prepare task s).2).1⟩ := by
      simp only [List.map_append, List.map_cons]
      congr 1
      · exact List.map_congr_left fun other hother => by rw [(hunnoticed other (List.mem_append_left _ hother)).1]
      · congr 1
        exact List.map_congr_left fun other hother => by rw [(hunnoticed other (List.mem_append_right _ hother)).1]
    exact houtcomes ▸ halone.handled
  · rcases (hmem _ other).mp hother with rfl | hother
    · exact halone.left { task, prepared := some (executor.prepare task s).1 } ((hmem _ _).mpr (.inl rfl))
    · exact (hunnoticed other hother).2.trans (halone.left other ((hmem _ _).mpr (.inr hother)))
  · have hfirst := helsewhere name (hname { task } ((hmem _ _).mpr (.inl rfl)))
    refine hfirst.trans (halone.elsewhere name fun other hother => ?_)
    rcases (hmem _ other).mp hother with rfl | hother
    · exact hname { task } ((hmem _ _).mpr (.inl rfl))
    · exact hname other ((hmem _ _).mpr (.inr hother))

end Steps

/-! ## One after the other and in turns -/

/-- What is found at a position splits the list there. -/
theorem split_of_getElem? {α : Type} {items : List α} {index : Nat} {a : α} (h : items[index]? = some a) :
    ∃ front back, items = front ++ a :: back ∧ front.length = index := by
  obtain ⟨hlt, rfl⟩ := List.getElem?_eq_some_iff.mp h
  refine ⟨items.take index, items.drop (index + 1), ?_, List.length_take_of_le (Nat.le_of_lt hlt)⟩
  rw [List.getElem_cons_drop, List.take_append_drop]

theorem alone_nil (s : σ) : Alone view executor [] s [] s where
  handled := .refl _
  left _ hmem := nomatch hmem
  elsewhere _ _ := rfl

/-- Tasks that are carried out one after the other come out as if each were alone. -/
theorem runInOrder_alone (executor : Executor σ) (h : executor.registry.Separate view) {tasks : List Task}
    (hone : OnePerResource tasks) (s : σ) :
    let executed := executor.runInOrder tasks s
    Alone view executor (tasks.map fun task => { task }) s executed.1 executed.2 := by
  induction tasks generalizing s with
  | nil => exact alone_nil s
  | cons task rest ih =>
    have hjobs : Scattered view executor ([] ++ { task := task } :: rest.map fun task => { task := task }) :=
      scattered_of_tasks executor h hone
    exact Alone.finished h hjobs (ih (List.nodup_cons.mp hone).2 (executor.run task s).2)

/-- How many steps a job has left. -/
def Job.steps (job : Job σ) : Nat := if job.prepared.isSome then 1 else 2

theorem Job.steps_pos (job : Job σ) : 0 < job.steps := by
  unfold Job.steps
  split <;> omega

/-- Whatever the turns, jobs that are carried out step by step come out as if each were alone.  The induction is on the
steps; after each of them the rest of the jobs comes out so by hypothesis, and the step does not disturb them. -/
theorem runInterleaved_alone (executor : Executor σ) (h : executor.registry.Separate view) (steps turn : Nat)
    {jobs : List (Job σ)} (hjobs : Scattered view executor jobs) (hsteps : (jobs.map Job.steps).sum ≤ steps) (s : σ) :
    let executed := executor.runInterleaved steps turn jobs s
    Alone view executor jobs s executed.1 executed.2 := by
  induction steps generalizing turn jobs s with
  | zero =>
    cases jobs with
    | nil => exact alone_nil s
    | cons job rest =>
      have hpos := job.steps_pos
      simp only [List.map_cons, List.sum_cons] at hsteps
      omega
  | succ steps ih =>
    simp only [runInterleaved]
    generalize hindex : executor.turns turn % jobs.length = index
    cases hjob : jobs[index]? with
    | none =>
      cases jobs with
      | nil => exact alone_nil s
      | cons job rest =>
        have hlt : index < (job :: rest).length := hindex ▸ Nat.mod_lt _ (Nat.zero_lt_succ _)
        exact absurd (List.getElem?_eq_none_iff.mp hjob) (Nat.not_le.mpr hlt)
    | some job =>
      obtain ⟨front, back, rfl, rfl⟩ := split_of_getElem? hjob
      obtain ⟨task, prepared⟩ := job
      rw [List.map_append, List.map_cons, List.sum_append, List.sum_cons] at hsteps
      cases prepared with
      | none =>
        have hset : ∀ probed : Job σ, (front ++ { task := task } :: back).set front.length probed =
            front ++ probed :: back := fun probed => by simp
        simp only [bind_apply, hset]
        refine Alone.probed h hjobs (ih _ (hjobs.probed h s) ?_ _)
        rw [List.map_append, List.map_cons, List.sum_append, List.sum_cons]
        simp only [Job.steps, Option.isSome_none, Option.isSome_some, if_true, Bool.false_eq_true, if_false] at hsteps ⊢
        omega
      | some prepared =>
        have herase : (front ++ { task, prepared := some prepared } :: back).eraseIdx front.length = front ++ back := by
          simp [List.eraseIdx_append_of_length_le]
        simp only [bind_apply, pure_apply, herase]
        refine Alone.finished h hjobs (ih _ hjobs.others.1 ?_ _)
        rw [List.map_append, List.sum_append]
        simp only [Job.steps, Option.isSome_some, if_true] at hsteps ⊢
        omega

/-- Where all jobs come out as if each were alone, it makes no difference how they were carried out. -/
theorem Alone.agree {executor' : Executor σ} (hrest : Job.rest executor' = Job.rest executor) {jobs : List (Job σ)}
    {s t t' : σ} {handled handled' : List Handled} (h : Alone view executor jobs s handled t)
    (h' : Alone view executor' jobs s handled' t') :
    handled'.Perm handled ∧ ∀ name, Same (view name) t' t := by
  refine ⟨(hrest ▸ h'.handled).trans h.handled.symm, fun name => ?_⟩
  by_cases hname : ∃ job ∈ jobs, name = job.task.resource
  · obtain ⟨job, hmem, rfl⟩ := hname
    exact (h'.left job hmem).symm.trans (hrest ▸ h.left job hmem)
  · have hnone : ∀ job ∈ jobs, name ≠ job.task.resource := fun job hmem heq => hname ⟨job, hmem, heq⟩
    exact (h'.elsewhere name hnone).symm.trans (h.elsewhere name hnone)

/-! ## All the tasks of a change -/

/-- The executor that carries out one task after the other. -/
def inOrder (executor : Executor σ) : Executor σ := { executor with parallel := false }

/-- The executor that carries out the tasks that are not primary step by step in the given turns. -/
def inTurns (turns : Nat → Nat) (executor : Executor σ) : Executor σ := { executor with parallel := true, turns }

theorem map_task_runInOrder (executor : Executor σ) (tasks : List Task) (s : σ) :
    (executor.runInOrder tasks s).1.map Handled.task = tasks := by
  induction tasks generalizing s with
  | nil => rfl
  | cons task rest ih => exact congrArg (task :: ·) (ih _)

/-- Two executions with one result that handled the same primary tasks first, and then the same other tasks in some
order each. -/
structure Agree (primaries secondary : List Task) (left right : Execution) : Prop where
  result : right.result = left.result
  handled : ∃ first rest rest', left.handled = first ++ rest ∧ right.handled = first ++ rest' ∧
    first.map Handled.task = primaries ∧ rest.map Handled.task = secondary ∧ rest'.Perm rest

theorem Agree.cons {primaries secondary : List Task} {left right : Execution}
    (h : Agree primaries secondary left right) (handled : Handled) :
    Agree (handled.task :: primaries) secondary { left with handled := handled :: left.handled }
      { right with handled := handled :: right.handled } := by
  obtain ⟨hresult, first, rest, rest', hleft, hright, hfirst, hrest, hperm⟩ := h
  refine ⟨hresult, handled :: first, rest, rest', ?_, ?_, ?_, hrest, hperm⟩
  · rw [hleft, List.cons_append]
  · rw [hright, List.cons_append]
  · rw [List.map_cons, hfirst]

/-- After the same primary tasks, it makes no difference whether the others are carried out in order or in turns; and if
a primary task stops the execution, none of them is carried out at all. -/
theorem runPrimary_agree (h : executor.registry.Separate view) (turns : Nat → Nat) {secondary : List Task}
    (hone : OnePerResource secondary) (primaries : List Task) (s : σ) :
    let ordered := executor.inOrder.runPrimary secondary primaries s
    let interleaved := (executor.inTurns turns).runPrimary secondary primaries s
    Agree primaries secondary ordered.1 interleaved.1 ∧ ∀ name, Same (view name) interleaved.2 ordered.2 := by
  induction primaries generalizing s with
  | nil =>
    have hordered := runInOrder_alone executor.inOrder h hone s
    have hinterleaved := runInterleaved_alone (executor.inTurns turns) h (2 * secondary.length) 0
      (scattered_of_tasks (executor.inTurns turns) h hone) (by simp [Job.steps, Function.comp_def, Nat.mul_comm]) s
    have hrest : Job.rest (executor.inTurns turns) = Job.rest executor.inOrder := rfl
    obtain ⟨hperm, hsame⟩ := hordered.agree hrest hinterleaved
    exact ⟨⟨rfl, [], _, _, rfl, rfl, rfl, map_task_runInOrder _ secondary s, hperm⟩, hsame⟩
  | cons task rest ih =>
    have hrun : (executor.inTurns turns).run task = executor.inOrder.run task := rfl
    simp only [runPrimary, bind_apply, hrun]
    split
    · let skip (later : Task) : Handled :=
        ⟨later, .notAttempted ("primary resource `" ++ task.resource ++ "` failed")⟩
      have hskip : ∀ tasks : List Task, (tasks.map skip).map Handled.task = tasks := fun tasks => by
        simp [skip, Function.comp_def]
      have hhandled : ∀ handled : Handled, handled :: (rest ++ secondary).map skip =
          (handled :: rest.map skip) ++ secondary.map skip := fun handled => by simp
      exact ⟨⟨rfl, _, _, _, hhandled _, hhandled _, congrArg (task :: ·) (hskip rest), hskip secondary, .refl _⟩,
        fun _ => rfl⟩
    · obtain ⟨hagree, hsame⟩ := ih (executor.inOrder.run task s).2
      exact ⟨hagree.cons ⟨task, _⟩, hsame⟩

/-- Interleaving makes no difference.  For tasks of which each resource has one at most, as is the case for everything
that is planned, on resources that are apart from each other, and whatever the turns: carrying out the tasks that are
not primary step by step in these turns has the same result as carrying them out in order and leaves every resource the
same.  Every task is handled once, and with the same outcome; first the primary tasks in the same order, then the
others in some order. -/
theorem execute_in_turns (executor : Executor σ) (h : executor.registry.Separate view) :
    (∀ (tasks : List Task) (turns : Nat → Nat) (s : σ), OnePerResource tasks →
      let primaries := sortByPriority (tasks.filter Task.primary)
      let ordered := executor.inOrder.execute tasks s
      let interleaved := (executor.inTurns turns).execute tasks s
      interleaved.1.result = ordered.1.result ∧
        (∀ resource, view resource interleaved.2 = view resource ordered.2) ∧
        (interleaved.1.handled.map Handled.task).Perm tasks ∧
        ∃ first rest rest', ordered.1.handled = first ++ rest ∧ interleaved.1.handled = first ++ rest' ∧
          first.map Handled.task = primaries ∧ rest.map Handled.task = tasks.filter (fun task => !task.primary) ∧
          rest'.Perm rest ∧ (rest'.map Handled.report).Perm (rest.map Handled.report)) ∧
      (executor.registry.Named → ∀ tasks, Plan executor.registry tasks → OnePerResource tasks) := by
  refine ⟨fun tasks turns s hone => ?_, fun hnamed tasks hplan => hplan.onePerResource hnamed⟩
  intro primaries ordered interleaved
  have hsecondary : OnePerResource (tasks.filter fun task => !task.primary) :=
    hone.sublist (List.filter_sublist.map Task.resource)
  obtain ⟨⟨hresult, first, rest, rest', hordered, hinterleaved, hfirst, hrest, hperm⟩, hsame⟩ :=
    runPrimary_agree h turns hsecondary primaries s
  have honce : (interleaved.1.handled.map Handled.task).Perm tasks := by
    have htasks : interleaved.1.handled.map Handled.task = primaries ++ rest'.map Handled.task := by
      rw [← hfirst, ← List.map_append, ← hinterleaved]
      rfl
    have hothers : (rest'.map Handled.task).Perm (tasks.filter fun task => !task.primary) := hrest ▸ hperm.map _
    have hprimary : primaries.Perm (tasks.filter Task.primary) := (sortByPriority_sortedStably _).perm
    rw [htasks]
    exact (hprimary.append hothers).trans (List.filter_append_perm _ _)
  exact ⟨hresult, hsame, honce, first, rest, rest', hordered, hinterleaved, hfirst, hrest, hperm, hperm.map _⟩

end Propagation.Executor

/-! ## Two resources in memory -/

namespace Propagation

/-- A resource in memory under every name. -/
abbrev Branches : Type := String → Memory.Directory

/-- The resource of a name. -/
def Branches.lens (name : String) : Lens Branches Memory.Directory where
  get branches := branches name
  set directory branches := fun other => if other = name then directory else branches other

/-- A resource of users that is kept under its name. -/
def branch (name : String) : Resource Branches where
  name := name
  connector := (Memory.Directory.connector name "uid").within (Branches.lens name)
  primary := false
  priority := 0
  mode := .sync
  mappings := (PerSubject.const none).set .user (some Memory.Premises.userMapping)

/-- The registry of two resources in memory. -/
def branchRegistry : Registry Branches := Registry.insert (Registry.insert {} (branch "north")) (branch "south")

theorem branchRegistry_separate : branchRegistry.Separate fun name branches => branches name := by
  refine Registry.separate_of_parts Branches.lens (fun _ _ _ => if_pos rfl) (fun name other hne => ?_) ?_
  · exact ⟨fun _ _ => if_neg hne, fun _ _ => if_neg hne.symm⟩
  · intro name resource hget
    simp only [branchRegistry, Registry.insert, Std.ExtTreeMap.getElem?_insert, Std.LawfulEqCmp.compare_eq_iff_eq,
      Std.ExtTreeMap.getElem?_empty] at hget
    split at hget
    · rename_i hname
      cases hget
      exact hname ▸ ⟨_, rfl⟩
    · split at hget
      · rename_i hname
        cases hget
        exact hname ▸ ⟨_, rfl⟩
      · cases hget

/-- A user who is to get two accounts. -/
def commuter : Entity := { id := 1, name := "ann", resources := {"north", "south"} }

/-- The second account may be looked for and created before the first one, with the same outcome. -/
theorem accounts_created_in_turns :
    let executor : Executor Branches := { registry := branchRegistry }
    let tasks := createTasks branchRegistry commuter ∅
    let ordered := executor.inOrder.execute tasks fun _ => {}
    let interleaved := (executor.inTurns fun turn => turn + 1).execute tasks fun _ => {}
    OnePerResource tasks ∧
      ordered.1.handled.map (fun handled => (handled.task.resource, handled.outcome.status)) =
        [("north", .success), ("south", .success)] ∧
      interleaved.1.handled.map (fun handled => (handled.task.resource, handled.outcome.status)) =
        [("south", .success), ("north", .success)] ∧
      interleaved.1.result = ordered.1.result ∧
      ∀ resource, interleaved.2 resource = ordered.2 resource := by
  intro executor tasks ordered interleaved
  have hone : OnePerResource tasks := by
    unfold OnePerResource
    decide +kernel
  obtain ⟨hresult, hsame, -⟩ := (executor.execute_in_turns branchRegistry_separate).1 tasks
    (fun turn => turn + 1) (fun _ => {}) hone
  exact ⟨hone, by decide +kernel, by decide +kernel, hresult, hsame⟩

end Propagation

end Provisioning
