import Provisioning.Proofs.Reconciliation.Deeds
import Provisioning.Proofs.Reconciliation.Mirror
set_option autoImplicit false

/-!
# Runs that only pretend

A run that only pretends reads and does no deeds.  If reading changes nothing of what is there, the run leaves all
of it as it was, and a second run finds the same and hands back the same.
-/

namespace Provisioning.Reconciliation

variable {σ τ : Type}

/-- The hooks of an extension only read, whatever moment of the session they are shown. -/
structure Hooks.Consults (view : σ → τ) (session : Session σ) (hooks : Hooks σ) : Prop where
  beforeAll : ∀ s, Reads view (hooks.beforeAll (session.profile s))
  beforeNew : ∀ (hook : NewHook) (delta : Delta) (entity : Entity) s,
    Reads view (hooks.beforeNew hook (session.profile s) delta entity)
  beforeExisting : ∀ (hook : ExistingHook) (delta : Delta) (entity : Entity) s,
    Reads view (hooks.beforeExisting hook (session.profile s) delta entity)
  after : ∀ (delta : Delta) (entity : Entity) (result : Result) s,
    Reads view (hooks.after (session.profile s) delta entity result)
  afterAll : ∀ s, Reads view (hooks.afterAll (session.profile s))

/-- What a session reads, it only reads, and neither its hooks nor audits change anything of what is there.  Nothing
is said of requests, probes, writes, notifications and the storing of tokens. -/
structure Session.Consults (view : σ → τ) (session : Session σ) : Prop where
  find : ∀ t id, Reads view (session.engine.repository.find t id)
  correlation : ∀ delta mapping, Reads view (session.engine.correlation delta mapping)
  loadToken : ∀ task, Reads view (session.engine.tokens.load task)
  latestToken : ∀ c, Reads view (session.resource.connector.latestToken c)
  sync : ∀ c t o, Reads view (session.resource.connector.sync c t o)
  search : ∀ c f o, Reads view (session.resource.connector.search c f o)
  audit : ∀ event, (Frame.unchanged view).Keeps (session.engine.audit event)
  hooks : ∀ hooks ∈ session.engine.hooks, hooks.Consults view session

/-- A task that is mapped is run in a session that only reads. -/
def Engine.Consults (view : σ → τ) (engine : Engine σ) (task : SyncTask) : Prop :=
  ∀ resource mapping, engine.registry.lookup task.resource task.subjectType = .ok (resource, mapping) →
    Session.Consults view { engine, task, resource, mapping }

/-! ## Two runs over the same -/

namespace Session

variable {view : σ → τ} {session : Session σ} {seen : τ}

/-- Hooks are shown the same at moments that mirror each other. -/
theorem profile_eq {R : σ → σ → Prop} {s t : RunState σ} (hrel : RunState.Mirrors R Eq s t) :
    session.profile s = session.profile t := by
  simp only [profile, hrel.results, hrel.propagation]

theorem Consults.hooks_mirror {hooks : Hooks σ} (h : hooks.Consults view session) :
    hooks.Mirrors (Seen view seen) Eq session session hooks where
  beforeAll s _ hrel := profile_eq hrel ▸ (h.beforeAll s).alike seen
  beforeNew hook delta entity s _ hrel := profile_eq hrel ▸ (h.beforeNew hook delta entity s).alike seen
  beforeExisting hook delta entity s _ hrel := profile_eq hrel ▸ (h.beforeExisting hook delta entity s).alike seen
  after delta entity result s _ hrel := profile_eq hrel ▸ (h.after delta entity result s).alike seen
  afterAll s _ hrel := profile_eq hrel ▸ (h.afterAll s).alike seen

/-- A session that only pretends and only reads mirrors itself over worlds in which the same is there. -/
theorem Consults.mirrors (h : session.Consults view) (hdry : session.dryRun = true) :
    session.Mirrors (Seen view seen) Eq session where
  task := rfl
  mapping := rfl
  dryRun := rfl
  find t id := (h.find t id).alike seen
  correlation delta mapping := (h.correlation delta mapping).alike seen
  loadToken task := (h.loadToken task).alike seen
  latestToken c := (h.latestToken c).alike seen
  sync c t o := (h.sync c t o).alike seen
  search c f o := (h.search c f o).alike seen
  audit event := abreast_of_unchanged (h.audit event) seen
  hooks := List.forall₂_same.mpr fun hooks hmem => Consults.hooks_mirror (h.hooks hooks hmem)
  acts hlive := by
    rw [hdry] at hlive
    cases hlive

end Session

namespace Engine

variable {view : σ → τ} {engine : Engine σ} {task : SyncTask}

theorem Consults.mirrors (h : engine.Consults view task) (hdry : (engine.dryRun || task.dryRun) = true) (seen : τ) :
    engine.Mirrors (Seen view seen) Eq task engine := by
  cases hlookup : engine.registry.lookup task.resource task.subjectType with
  | error error => exact .unmapped error hlookup hlookup
  | ok found => exact .mapped found.1 found.1 found.2 hlookup hlookup ((h found.1 found.2 hlookup).mirrors hdry)

end Engine

/-! ## A run whose deeds are noted -/

variable {note : Deed → σ → σ}

namespace Session

variable {session : Session σ}

/-- Hooks that overlook whether the deeds of the connector are noted mirror themselves. -/
theorem hooks_mirror_noting {hooks : Hooks σ}
    (h : hooks.Overlooks (Connector.noting fun call => note (.called session.task.resource call))) :
    hooks.Mirrors Eq Eq session (session.noting note) hooks := by
  have hprofile : ∀ s t, RunState.Mirrors Eq Eq s t → (session.noting note).profile t =
      (session.profile s).through (Connector.noting fun call => note (.called session.task.resource call)) := by
    intro s t hrel
    simp only [profile, hrel.results, hrel.propagation]
    rfl
  constructor
  · intro s t hrel
    rw [hprofile s t hrel, h.beforeAll]
    exact alike_self _
  · intro hook delta entity s t hrel
    rw [hprofile s t hrel, h.beforeNew]
    exact alike_self _
  · intro hook delta entity s t hrel
    rw [hprofile s t hrel, h.beforeExisting]
    exact alike_self _
  · intro delta entity result s t hrel
    rw [hprofile s t hrel, h.after]
    exact alike_self _
  · intro s t hrel
    rw [hprofile s t hrel, h.afterAll]
    exact alike_self _

/-- A session that only pretends mirrors the one that notes its deeds, in the same world. -/
theorem mirrors_noting (hdry : session.dryRun = true)
    (hhooks : ∀ hooks ∈ session.engine.hooks,
      hooks.Overlooks (Connector.noting fun call => note (.called session.task.resource call))) :
    session.Mirrors Eq Eq (session.noting note) where
  task := rfl
  mapping := rfl
  dryRun := rfl
  find _ _ := alike_self _
  correlation _ _ := alike_self _
  loadToken _ := alike_self _
  latestToken _ := alike_self _
  sync _ _ _ := alike_self _
  search _ _ _ := alike_self _
  audit event := (alike_self (session.engine.audit event)).abreast
  hooks := List.forall₂_same.mpr fun hooks hmem => hooks_mirror_noting (hhooks hooks hmem)
  acts hlive := by cases hdry.symm.trans hlive

end Session

namespace Engine

variable {view : σ → τ} {engine : Engine σ} {task : SyncTask}

theorem mirrors_noting (hdry : (engine.dryRun || task.dryRun) = true)
    (hhooks : ∀ hooks ∈ engine.hooks,
      hooks.Overlooks (Connector.noting fun call => note (.called task.resource call))) :
    engine.Mirrors Eq Eq task (engine.noting note) := by
  cases hlookup : engine.registry.lookup task.resource task.subjectType with
  | error error => exact .unmapped error hlookup (Registry.lookup_through.trans (congrArg _ hlookup))
  | ok found =>
    have hnoting : (engine.noting note).registry.lookup task.resource task.subjectType =
        .ok (found.1.through (Connector.noting fun call => note (.called task.resource call)), found.2) :=
      Registry.lookup_through.trans (congrArg _ hlookup)
    let session : Session σ := { engine, task, resource := found.1, mapping := found.2 }
    have hsession : session.Mirrors Eq Eq (session.noting note) := Session.mirrors_noting hdry hhooks
    exact .mapped found.1 _ found.2 hlookup hnoting hsession

/-- A run that only pretends, in a session that only reads, leaves everything as it is, whether or not it succeeds,
and another one after it hands back the same.  Noting its deeds makes no difference, as there are none. -/
theorem dry_run_changes_nothing (hdry : (engine.dryRun || task.dryRun) = true) (h : engine.Consults view task)
    (world : σ) :
    let run := engine.run task world
    let again := engine.run task run.2
    view run.2 = view world ∧ view again.2 = view world ∧ again.1 = run.1 ∧
      ∀ note : Deed → σ → σ,
        (∀ hooks ∈ engine.hooks, hooks.Overlooks (Connector.noting fun call => note (.called task.resource call))) →
          (engine.noting note).run task world = run := by
  intro run again
  have hmirrors := (h.mirrors hdry (view world)).run
  obtain ⟨-, hafter, -⟩ := hmirrors world world ⟨rfl, rfl⟩
  obtain ⟨hanswer, hagain, -⟩ := hmirrors run.2 world ⟨hafter, rfl⟩
  refine ⟨hafter, hagain, hanswer, fun note hhooks => ?_⟩
  obtain ⟨hsame, hworld⟩ := (mirrors_noting hdry hhooks).run world world rfl
  exact (Prod.ext hsame hworld).symm

end Engine

end Provisioning.Reconciliation

/-! ## All systems in memory -/

namespace Provisioning.Memory

open Reconciliation

namespace Directory

/-- What is on the resource: everything but the list of its calls. -/
def contents (directory : Directory) : Directory := { directory with calls := [] }

theorem changes_of_contents {s t : Directory} (h : s.contents = t.contents) : s.changes = t.changes :=
  (congrArg changes h :)

theorem objects_of_contents {s t : Directory} (h : s.contents = t.contents) : s.objects = t.objects :=
  (congrArg objects h :)

theorem reads_sync (token : Option SyncToken) : Reads contents (sync token) where
  unchanged directory := by
    unfold sync
    split
    · rfl
    · split <;> rfl
  determined s t hsame := by
    have hchanges := changes_of_contents hsame
    unfold sync
    split
    · simp only [record, hchanges]
    · split <;> simp only [record, hchanges]

theorem reads_latestToken : Reads contents latestToken where
  unchanged _ := rfl
  determined s t hsame := by simp only [latestToken, record, changes_of_contents hsame]

theorem reads_search (objectClass : String) (filter : Option Filter) : Reads contents (search objectClass filter) where
  unchanged _ := rfl
  determined s t hsame := by simp only [search, objectsOf, record, objects_of_contents hsame]

end Directory

namespace Premises

/-- What is in the systems: everything but the list of the calls that reached the resource. -/
def contents (premises : Premises) : Premises := { premises with directory := premises.directory.contents }

theorem reads_directory {α : Type} {operation : StateM Directory α} (h : Reads Directory.contents operation) :
    Reads contents (directoryLens.zoom operation) := by
  refine h.zoom (fun s t hsame => congrArg directory hsame) fun s directory hsame => ?_
  exact congrArg (fun directory => { s with directory }) hsame

theorem reads_office {α : Type} {operation : StateM Office α} (h : ∀ office, (operation office).2 = office) :
    Reads contents (officeLens.zoom operation) where
  unchanged s := congrArg (fun office => contents { s with office }) (h s.office)
  determined s t hsame := by
    have hoffice : s.office = t.office := (congrArg office hsame :)
    simp only [Lens.zoom_apply, officeLens, hoffice]

theorem reads_tokens {α : Type} {operation : StateM TokenTable α} (h : ∀ tokens, (operation tokens).2 = tokens) :
    Reads contents (tokensLens.zoom operation) where
  unchanged s := congrArg (fun tokens => contents { s with tokens }) (h s.tokens)
  determined s t hsame := by
    have htokens : s.tokens = t.tokens := (congrArg tokens hsame :)
    simp only [Lens.zoom_apply, tokensLens, htokens]

/-- An extension that lets no new entity in. -/
def doorkeeper : Hooks Premises where
  beforeNew _ _ _ entity := pure (.error ⟨["no admission"]⟩, entity)

/-- The engine with that extension. -/
def guarded : Engine Premises := { engine (registry plainConnector) with hooks := [doorkeeper] }

theorem guarded_consults (task : SyncTask) : guarded.Consults contents task := by
  intro resource mapping hlookup
  obtain ⟨rfl, rfl⟩ := eq_of_lookup hlookup
  constructor
  case find => exact fun _ _ => reads_office fun _ => rfl
  case correlation => exact fun _ _ => reads_office fun _ => rfl
  case loadToken => exact fun _ => reads_tokens fun _ => rfl
  case latestToken => exact fun _ => reads_directory Directory.reads_latestToken
  case sync => exact fun _ token _ => reads_directory (Directory.reads_sync token)
  case search => exact fun objectClass filter _ => reads_directory (Directory.reads_search objectClass filter)
  case audit => exact fun _ => Frame.keeps_ok ()
  case hooks =>
    intro hooks hmem
    cases List.mem_singleton.mp hmem
    constructor <;> intros <;> exact reads_pure _ _

theorem doorkeeper_overlooks (change : Connector Premises → Connector Premises) : doorkeeper.Overlooks change where
  beforeAll _ := rfl
  beforeNew _ _ := rfl
  beforeExisting _ _ := rfl
  after _ := rfl
  afterAll _ := rfl

/-- The task that only pretends to read every user in. -/
def rehearsal : SyncTask := { readEveryone with dryRun := true }

/-- Of the two accounts one would be updated, and the other one is refused. -/
theorem rehearsal_changes_nothing :
    let run := guarded.run rehearsal staff
    let again := guarded.run rehearsal run.2
    run.1.toOption.map (fun summary => summary.results.map Result.status) = some [.success, .failure] ∧
      contents run.2 = contents staff ∧ contents again.2 = contents staff ∧ again.1 = run.1 ∧
        ∀ note, (guarded.noting note).run rehearsal staff = run := by
  intro run again
  have hdry : (guarded.dryRun || rehearsal.dryRun) = true := rfl
  obtain ⟨hrun, hagain, hanswer, hnoting⟩ := Engine.dry_run_changes_nothing hdry (guarded_consults rehearsal) staff
  refine ⟨by decide +kernel, hrun, hagain, hanswer, fun note => hnoting note fun hooks hmem => ?_⟩
  cases List.mem_singleton.mp hmem
  exact doorkeeper_overlooks _

end Premises

end Provisioning.Memory
