import Provisioning.Connector.Call
import Provisioning.Proofs.Propagation.Order
import Provisioning.Proofs.Resource
set_option autoImplicit false

/-!
# Frames of propagation

Propagation reaches the world only through connectors: it probes and writes.  A frame that the probes and writes
of some resources keep is kept by every propagation to these resources, in whatever order its tasks are carried out.
-/

namespace Provisioning

variable {σ τ : Type}

namespace Connector

/-- Every operation of the connector keeps the frame. -/
structure Keeps (frame : Frame σ) (connector : Connector σ) : Prop where
  authenticate : ∀ c u p, frame.Keeps (connector.authenticate c u p)
  create : ∀ c a o, frame.Keeps (connector.create c a o)
  update : ∀ c u a o, frame.Keeps (connector.update c u a o)
  delete : ∀ c u o, frame.Keeps (connector.delete c u o)
  sync : ∀ c t o, frame.Keeps (connector.sync c t o)
  latestToken : ∀ c, frame.Keeps (connector.latestToken c)
  getObject : ∀ c u o, frame.Keeps (connector.getObject c u o)
  search : ∀ c f o, frame.Keeps (connector.search c f o)
  schemaNames : ∀ c b, frame.Keeps (connector.schemaNames c b)
  objectClasses : frame.Keeps connector.objectClasses
  validate : frame.Keeps connector.validate
  test : frame.Keeps connector.test

theorem keeps_anything (connector : Connector σ) : connector.Keeps Frame.anything where
  authenticate _ _ _ _ := trivial
  create _ _ _ _ := trivial
  update _ _ _ _ _ := trivial
  delete _ _ _ _ := trivial
  sync _ _ _ _ := trivial
  latestToken _ _ := trivial
  getObject _ _ _ _ := trivial
  search _ _ _ _ := trivial
  schemaNames _ _ _ := trivial
  objectClasses _ := trivial
  validate _ := trivial
  test _ := trivial

variable {frame : Frame σ} {connector : Connector σ}

/-- What propagation asks of the connector, probes and writes, keeps the frame. -/
structure Serves (frame : Frame σ) (connector : Connector σ) : Prop where
  create : ∀ c a o, frame.Keeps (connector.create c a o)
  update : ∀ c u a o, frame.Keeps (connector.update c u a o)
  delete : ∀ c u o, frame.Keeps (connector.delete c u o)
  getObject : ∀ c u o, frame.Keeps (connector.getObject c u o)

/-- What leaves a part as it is stays within every frame of that part. -/
theorem Keeps.onPart {part : σ → τ} (h : connector.Keeps (Frame.unchanged part)) (inner : Frame τ) :
    connector.Keeps (inner.onPart part) where
  authenticate c u p := (h.authenticate c u p).onPart inner
  create c a o := (h.create c a o).onPart inner
  update c u a o := (h.update c u a o).onPart inner
  delete c u o := (h.delete c u o).onPart inner
  sync c t o := (h.sync c t o).onPart inner
  latestToken c := (h.latestToken c).onPart inner
  getObject c u o := (h.getObject c u o).onPart inner
  search c f o := (h.search c f o).onPart inner
  schemaNames c b := (h.schemaNames c b).onPart inner
  objectClasses := h.objectClasses.onPart inner
  validate := h.validate.onPart inner
  test := h.test.onPart inner

theorem Keeps.serves (h : connector.Keeps frame) : connector.Serves frame :=
  ⟨h.create, h.update, h.delete, h.getObject⟩

theorem Serves.probe (h : connector.Serves frame) (objectClass : String) (uid : Uid) (options : ReadOptions) :
    frame.Keeps (connector.probe objectClass uid options) := by
  intro s
  have hget := h.getObject objectClass uid options s
  unfold Connector.probe
  split <;> rename_i heq
  · rw [heq] at hget
    exact hget
  · exact hget

theorem Keeps.allObjects (h : connector.Keeps frame) (objectClass : String) (options : ReadOptions) :
    frame.Keeps (connector.allObjects objectClass options) :=
  (h.search objectClass none options).bind fun answer => by
    cases answer <;> exact Frame.keeps_pure _

/-- What is done before each call and the calls themselves keep the frame, so the intercepted calls do. -/
theorem Keeps.intercepted {before : Call → Effect σ ConnectorError Unit} (h : connector.Keeps frame)
    (hbefore : ∀ call, frame.Keeps (before call)) : (connector.intercepted before).Keeps frame where
  authenticate c u p := (hbefore _).andThen fun _ => h.authenticate c u p
  create c a o := (hbefore _).andThen fun _ => h.create c a o
  update c u a o := (hbefore _).andThen fun _ => h.update c u a o
  delete c u o := (hbefore _).andThen fun _ => h.delete c u o
  sync c t o := (hbefore _).bind fun answer => by
    cases answer with
    | error error => exact Frame.keeps_pure _
    | ok _ => exact h.sync c t o
  latestToken c := (hbefore _).andThen fun _ => h.latestToken c
  getObject c u o := (hbefore _).andThen fun _ => h.getObject c u o
  search c f o := (hbefore _).andThen fun _ => h.search c f o
  schemaNames := h.schemaNames
  objectClasses := h.objectClasses
  validate := h.validate
  test := h.test

/-- A connector to a part of the world keeps what the part carries of its frame. -/
theorem Keeps.within {lens : Lens σ τ} {inner : Frame τ} {connector : Connector τ}
    (h : connector.Keeps inner) (hlens : lens.Carries inner frame) :
    (connector.within lens).Keeps frame where
  authenticate c u p := hlens.keeps_zoom (h.authenticate c u p)
  create c a o := hlens.keeps_zoom (h.create c a o)
  update c u a o := hlens.keeps_zoom (h.update c u a o)
  delete c u o := hlens.keeps_zoom (h.delete c u o)
  sync c t o := hlens.keeps_zoom (h.sync c t o)
  latestToken c := hlens.keeps_zoom (h.latestToken c)
  getObject c u o := hlens.keeps_zoom (h.getObject c u o)
  search c f o := hlens.keeps_zoom (h.search c f o)
  schemaNames c b := hlens.keeps_zoom (h.schemaNames c b)
  objectClasses := hlens.keeps_zoom h.objectClasses
  validate := hlens.keeps_zoom h.validate
  test := hlens.keeps_zoom h.test

end Connector

namespace Registry

/-- The connector of every resource keeps the frame. -/
def Keeps (frame : Frame σ) (registry : Registry σ) : Prop :=
  ∀ (name : String) (resource : Resource σ),
    registry.resources[name]? = some resource → resource.connector.Keeps frame

variable {frame : Frame σ} {registry : Registry σ}

theorem keeps_empty : Registry.Keeps frame {} := by
  intro name resource hget
  rw [Std.ExtTreeMap.getElem?_empty] at hget
  cases hget

theorem Keeps.insert (h : registry.Keeps frame) {resource : Resource σ} (hresource : resource.connector.Keeps frame) :
    (registry.insert resource).Keeps frame := by
  intro name found hget
  rw [Registry.insert, Std.ExtTreeMap.getElem?_insert] at hget
  split at hget
  · cases hget
    exact hresource
  · exact h name found hget

theorem Keeps.lookup (h : registry.Keeps frame) {name : String} {t : SubjectType} {resource : Resource σ}
    {mapping : Mapping} (hlookup : registry.lookup name t = .ok (resource, mapping)) :
    resource.connector.Keeps frame :=
  h name resource (get_eq_ok_iff.mp (lookup_eq_ok_iff.mp hlookup).1)

/-- What propagation asks of the connector of one resource keeps the frame. -/
def Serves (frame : Frame σ) (registry : Registry σ) (name : String) : Prop :=
  ∀ resource : Resource σ, registry.resources[name]? = some resource → resource.connector.Serves frame

theorem Keeps.serves (h : registry.Keeps frame) (name : String) : registry.Serves frame name :=
  fun resource hget => (h name resource hget).serves

theorem Serves.lookup {name : String} (h : registry.Serves frame name) {t : SubjectType} {resource : Resource σ}
    {mapping : Mapping} (hlookup : registry.lookup name t = .ok (resource, mapping)) :
    resource.connector.Serves frame :=
  h resource (get_eq_ok_iff.mp (lookup_eq_ok_iff.mp hlookup).1)

/-- Resources that are reached through other connectors serve as these connectors do. -/
theorem serves_through {change : (resource : String) → Connector τ → Connector σ} {registry : Registry τ}
    {name : String}
    (h : ∀ resource : Resource τ, registry.resources[name]? = some resource →
      (change name resource.connector).Serves frame) :
    (registry.through change).Serves frame name := by
  intro resource hget
  rw [getElem?_through] at hget
  obtain ⟨found, hfound, rfl⟩ := Option.map_eq_some_iff.mp hget
  exact h found hfound

end Registry

namespace Propagation

variable {frame : Frame σ} {registry : Registry σ}

/-! ## One task -/

/-- The connector of a write that is still to be sent serves within the frame. -/
def Prepared.Serves (frame : Frame σ) : Prepared σ → Prop
  | .settled _ => True
  | .pending connector _ _ => connector.Serves frame

/-- The probe keeps the frame, and so does the connector of the write that it leads to. -/
theorem Task.keeps_prepare {task : Task} (h : registry.Serves frame task.resource) (s : σ) :
    (task.prepare registry s).1.Serves frame ∧ frame.Rel s (task.prepare registry s).2 := by
  unfold Task.prepare
  split
  · exact ⟨trivial, frame.refl s⟩
  · rename_i resource mapping hlookup
    have hconnector := h.lookup hlookup
    have hprobe := hconnector.probe task.objectClass task.probeUid (mapping.readOptions .propagation) s
    dsimp only
    split <;> rename_i heq <;> rw [heq] at hprobe
    · exact ⟨trivial, hprobe⟩
    · split
      · exact ⟨trivial, hprobe⟩
      · split
        · exact ⟨hconnector, hprobe⟩
        · exact ⟨trivial, hprobe⟩

theorem Task.keeps_send {connector : Connector σ} (h : connector.Serves frame) (task : Task)
    (options : ReadOptions) (write : Write) : frame.Keeps (task.send connector options write) := by
  cases write with
  | create => exact h.create _ _ _
  | update object => exact h.update _ _ _ _
  | delete object => exact h.delete _ _ _

theorem Task.keeps_finish (task : Task) {prepared : Prepared σ} (h : prepared.Serves frame) :
    frame.Keeps (task.finish prepared) := by
  cases prepared with
  | settled outcome => exact Frame.keeps_pure outcome
  | pending connector options write =>
    intro s
    have hsend := task.keeps_send h options write s
    simp only [Task.finish]
    split <;> rename_i heq <;> rw [heq] at hsend <;> exact hsend

namespace Executor

variable {executor : Executor σ}

/-- The resources of some tasks serve within the frame. -/
def Serves (frame : Frame σ) (executor : Executor σ) (tasks : List Task) : Prop :=
  ∀ task ∈ tasks, executor.registry.Serves frame task.resource

theorem Serves.subset {tasks tasks' : List Task} (h : executor.Serves frame tasks) (hsubset : tasks' ⊆ tasks) :
    executor.Serves frame tasks' := fun task hmem => h task (hsubset hmem)

theorem keeps_prepare {task : Task} (h : executor.registry.Serves frame task.resource) (s : σ) :
    (executor.prepare task s).1.Serves frame ∧ frame.Rel s (executor.prepare task s).2 := by
  unfold prepare
  split
  · exact ⟨trivial, frame.refl s⟩
  · exact Task.keeps_prepare h s

theorem keeps_run {task : Task} (h : executor.registry.Serves frame task.resource) :
    frame.Keeps (executor.run task) := by
  intro s
  obtain ⟨hprepared, hrel⟩ := keeps_prepare h s
  exact frame.trans hrel (task.keeps_finish hprepared _)

/-! ## Several tasks -/

theorem keeps_runInOrder {tasks : List Task} (h : executor.Serves frame tasks) :
    frame.Keeps (executor.runInOrder tasks) := by
  induction tasks with
  | nil => exact Frame.keeps_pure _
  | cons task rest ih =>
    refine (keeps_run (h task List.mem_cons_self)).bind fun _ => ?_
    exact (ih (h.subset (List.subset_cons_self _ _))).bind fun _ => Frame.keeps_pure _

/-- The resource of a job serves within the frame, and if the job is probed already, so does the connector of its
write. -/
structure Job.Serves (frame : Frame σ) (executor : Executor σ) (job : Job σ) : Prop where
  resource : executor.registry.Serves frame job.task.resource
  prepared : ∀ prepared, job.prepared = some prepared → prepared.Serves frame

theorem keeps_runInterleaved (steps turn : Nat) {jobs : List (Job σ)} (h : ∀ job ∈ jobs, job.Serves frame executor) :
    frame.Keeps (executor.runInterleaved steps turn jobs) := by
  induction steps generalizing turn jobs with
  | zero => exact Frame.keeps_pure _
  | succ steps ih =>
    unfold runInterleaved
    dsimp only
    split
    · exact Frame.keeps_pure _
    · rename_i job hjob
      have hserves := h job (List.mem_of_getElem? hjob)
      split
      · intro s
        obtain ⟨hprepared, hrel⟩ := keeps_prepare hserves.resource s
        refine frame.trans hrel (ih _ (fun other hother => ?_) _)
        rcases List.mem_or_eq_of_mem_set hother with hmem | rfl
        · exact h other hmem
        · refine ⟨hserves.resource, fun prepared heq => ?_⟩
          cases heq
          exact hprepared
      · rename_i prepared hprepared
        refine (job.task.keeps_finish (hserves.prepared prepared hprepared)).bind fun _ => ?_
        refine (ih _ fun other hother => ?_).bind fun _ => Frame.keeps_pure _
        exact h other (List.mem_of_mem_eraseIdx hother)

theorem keeps_runSecondary {tasks : List Task} (h : executor.Serves frame tasks) :
    frame.Keeps (executor.runSecondary tasks) := by
  refine Frame.Keeps.ite (fun _ => keeps_runInterleaved _ _ fun job hjob => ?_) fun _ => keeps_runInOrder h
  obtain ⟨task, hmem, rfl⟩ := List.mem_map.mp hjob
  refine ⟨h task hmem, fun prepared heq => ?_⟩
  cases heq

theorem keeps_runPrimary {secondary tasks : List Task} (hsecondary : executor.Serves frame secondary)
    (h : executor.Serves frame tasks) : frame.Keeps (executor.runPrimary secondary tasks) := by
  induction tasks with
  | nil => exact (keeps_runSecondary hsecondary).bind fun _ => Frame.keeps_pure _
  | cons task rest ih =>
    refine (keeps_run (h task List.mem_cons_self)).bind fun outcome => Frame.Keeps.ite (fun _ => ?_) fun _ => ?_
    · exact Frame.keeps_pure _
    · exact (ih (h.subset (List.subset_cons_self _ _))).bind fun _ => Frame.keeps_pure _

/-- Propagation keeps every frame within which the resources of its tasks serve. -/
theorem keeps_execute {tasks : List Task} (h : executor.Serves frame tasks) : frame.Keeps (executor.execute tasks) := by
  have hprimary : sortByPriority (tasks.filter Task.primary) ⊆ tasks :=
    List.Subset.trans (sortByPriority_sortedStably _).perm.subset List.filter_sublist.subset
  exact keeps_runPrimary (h.subset List.filter_sublist.subset) (h.subset hprimary)

end Executor

end Propagation

end Provisioning
