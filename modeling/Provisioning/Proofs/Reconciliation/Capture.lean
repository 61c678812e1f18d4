import Provisioning.Memory.Tokens
import Provisioning.Proofs.Memory.ChangeLog
import Provisioning.Proofs.Reconciliation.Pull
set_option autoImplicit false

/-!
# Capturing the token before the pull

A run over a resource in memory is followed through its phases.  Everything around it may append to the log while
it is in progress, in particular between the capture of the token and the pull.  The token is captured first, so
it never marks a position beyond what the pull then sends.
-/

namespace Provisioning

variable {σ : Type}

/-- Let something happen before each access to the tokens; if that fails, the access fails and does not reach
the store. -/
def TokenStore.intercepted (before : (task : String) → Effect σ Failure Unit) (store : TokenStore σ) :
    TokenStore σ where
  load task := (before task).andThen fun _ => store.load task
  store task token := (before task).andThen fun _ => store.store task token

namespace Reconciliation

open Memory

/-- A world in which a resource and the sync tokens are kept in memory, apart from each other. -/
structure Site (σ : Type) where
  directory : Lens σ Directory
  tokens : Lens σ TokenTable
  directory_stores : directory.Stores
  tokens_stores : tokens.Stores
  apart : directory.Apart tokens

namespace Site

variable (site : Site σ)

/-- The log of changes of the resource. -/
def log (s : σ) : List Delta := (site.directory.get s).changes

/-- The stored tokens. -/
def table (s : σ) : TokenTable := site.tokens.get s

/-- The frame of what may append to the log and touches no token. -/
def growth : Frame σ where
  Rel s t := site.log s <+: site.log t ∧ site.table t = site.table s
  refl _ := ⟨List.prefix_rfl, rfl⟩
  trans h h' := ⟨h.1.trans h'.1, h'.2.trans h.2⟩

/-- A connector to the resource of the site.  What happens before its calls may append to the log, and may make
a call fail. -/
def Backs (connector : Connector σ) : Prop :=
  ∃ (name uidAttribute : String) (before : Call → Effect σ ConnectorError Unit),
    (∀ call, site.growth.Keeps (before call)) ∧
      connector = ((Directory.connector name uidAttribute).within site.directory).intercepted before

/-- A store of the tokens of the site, whose accesses may fail. -/
def Holds (store : TokenStore σ) : Prop :=
  ∃ before : String → Effect σ Failure Unit,
    (∀ task, site.growth.Keeps (before task)) ∧
      store = (tokenStore.within site.tokens).intercepted before

/-- The session pulls from the resource of the site, keeps its tokens there, and works with systems that do not
shorten the log. -/
structure Serves (session : Session σ) : Prop where
  keeps : session.Keeps site.growth
  backed : site.Backs session.resource.connector
  holds : site.Holds session.engine.tokens

variable {site}

/-- A call that leaves the log of the resource as it is leaves that of the site as it is. -/
theorem log_set {directory : Directory} {s : σ} (h : directory.changes = site.log s) :
    site.log (site.directory.set directory s) = site.log s := by
  rw [log, site.directory_stores, h]

theorem directory_carries : site.directory.Carries (Frame.unchanged Directory.changes) site.growth := by
  intro s directory h
  constructor
  · exact (log_set h).symm ▸ List.prefix_rfl
  · exact site.apart.get_right directory s

theorem Backs.keeps {connector : Connector σ} (h : site.Backs connector) : connector.Keeps site.growth := by
  obtain ⟨name, uidAttribute, before, hbefore, rfl⟩ := h
  have hconnector := Directory.undisturbed_changes.keeps_connector name uidAttribute
  exact (hconnector.within directory_carries).intercepted hbefore

/-! ## Accesses -/

/-- A pull sends what the log holds from the marked position on, or fails and sends nothing. -/
theorem Backs.sync_deltas {connector : Connector σ} (h : site.Backs connector) {token : Option SyncToken} {n : Nat}
    (hmarks : Marks token n) (objectClass : String) (options : ReadOptions) (s : σ) :
    let pulled := connector.sync objectClass token options s
    pulled.1.deltas = (site.log pulled.2).drop n ∨ pulled.1.deltas = [] ∧ pulled.1.outcome ≠ .ok () := by
  obtain ⟨name, uidAttribute, before, -, rfl⟩ := h
  simp only [Connector.intercepted, bind, StateT.bind]
  cases before (.sync objectClass token options) s with
  | mk answer s' =>
    cases answer with
    | error error => exact .inr ⟨rfl, fun hok => nomatch hok⟩
    | ok _ =>
      have hlog := log_set (Directory.undisturbed_changes.keeps_sync token (site.directory.get s'))
      have hsent := Directory.sync_deltas hmarks (site.directory.get s')
      exact hsent.imp_left fun h => h.trans (congrArg (List.drop n) hlog.symm)

/-- The captured token is the number of the changes at that moment. -/
theorem Backs.latestToken_ok {connector : Connector σ} (h : site.Backs connector) {objectClass : String} {s : σ}
    {latest : Option SyncToken} (hok : (connector.latestToken objectClass s).1 = .ok latest) :
    latest = some (toString (site.log (connector.latestToken objectClass s).2).length) := by
  obtain ⟨name, uidAttribute, before, -, rfl⟩ := h
  simp only [Connector.intercepted, Effect.andThen_apply] at hok ⊢
  generalize before (.latestToken objectClass) s = prepared at hok ⊢
  obtain ⟨answer, between⟩ := prepared
  cases answer with
  | error error => cases hok
  | ok _ =>
    cases hok
    have hlog : site.log (site.directory.set
        ((site.directory.get between).record "get_latest_sync_token") between) = site.log between := log_set rfl
    exact congrArg (fun log : List Delta => some (toString log.length)) hlog.symm

/-- Writing the tokens does not touch the log. -/
theorem log_set_tokens (table : TokenTable) (s : σ) : site.log (site.tokens.set table s) = site.log s :=
  congrArg Directory.changes (site.apart.get_left table s)

theorem Holds.load_spec {store : TokenStore σ} (h : site.Holds store) (task : String) (s : σ) :
    site.growth.Rel s (store.load task s).2 ∧
      ∀ stored, (store.load task s).1 = .ok stored → stored = (site.table s)[task]? := by
  obtain ⟨before, hbefore, rfl⟩ := h
  have hkept := hbefore task s
  simp only [TokenStore.intercepted, Effect.andThen]
  split <;> rename_i between heq <;> rw [heq] at hkept
  · refine ⟨site.growth.trans hkept ⟨?_, ?_⟩, fun stored hload => ?_⟩
    · exact (log_set_tokens _ between).symm ▸ List.prefix_rfl
    · exact site.tokens_stores _ between
    · cases hload
      exact congrArg (fun table : TokenTable => table[task]?) hkept.2
  · refine ⟨hkept, fun stored hload => ?_⟩
    cases hload

theorem Holds.store_spec {store : TokenStore σ} (h : site.Holds store) (task : String) (token : SyncToken) (s : σ) :
    let stored := store.store task token s
    site.log s <+: site.log stored.2 ∧
      site.table stored.2 = match stored.1 with
        | .ok () => (site.table s).insert task token
        | .error _ => site.table s := by
  obtain ⟨before, hbefore, rfl⟩ := h
  have hkept := hbefore task s
  simp only [TokenStore.intercepted, Effect.andThen]
  cases heq : before task s with
  | mk answer between =>
    rw [heq] at hkept
    cases answer with
    | error failure => exact hkept
    | ok _ =>
      refine ⟨hkept.1.trans ?_, ?_⟩
      · exact (log_set_tokens _ between).symm ▸ List.prefix_rfl
      · have hset : site.table (site.tokens.set ((site.table between).insert task token) between)
            = (site.table between).insert task token := site.tokens_stores _ between
        exact hset.trans (congrArg (fun table : TokenTable => table.insert task token) hkept.2)

/-! ## Phases -/

section Phases

variable {session : Session σ} (h : site.Serves session)

include h

theorem keeps_locate : site.growth.onRun.Keeps session.locate :=
  Session.keeps_onRun (Session.keeps_locate h.backed.keeps fun _ s => (h.holds.load_spec _ s).1)

/-- A run that is not full takes up the changes at the stored token and captures the end of the log. -/
theorem locate_ok {s : RunState σ} {position : Session.Position} (hincremental : session.task.full = false)
    (hok : (session.locate s).1 = .ok position) :
    position.stored = (site.table s.world)[session.task.name]? ∧
      position.latest = some (toString (site.log (session.locate s).2.world).length) := by
  have hload := (h.holds.load_spec session.task.name s.world).2
  simp only [Session.locate, hincremental, Bool.false_eq_true, if_false, bind_apply,
    Session.onWorld_apply] at hok ⊢
  cases hstored : (session.engine.tokens.load session.task.name s.world).1 with
  | error failure =>
    simp only [hstored, pure_apply, reduceCtorEq] at hok
  | ok stored =>
    simp only [hstored, bind_apply, Session.onWorld_apply] at hok ⊢
    cases hlatest : (session.resource.connector.latestToken session.mapping.objectClass
        (session.engine.tokens.load session.task.name s.world).2).1 with
    | error error =>
      simp only [hlatest, pure_apply, reduceCtorEq] at hok
    | ok latest =>
      simp only [hlatest, pure_apply, Except.ok.injEq] at hok ⊢
      subst hok
      exact ⟨hload stored hstored, h.backed.latestToken_ok hlatest⟩

theorem keeps_pull (stored : Option SyncToken) : site.growth.onRun.Keeps (session.pull stored) :=
  Session.keeps_onRun (Session.keeps_pull h.backed.keeps stored)

theorem pull_deltas (hincremental : session.task.full = false) {stored : Option SyncToken} {n : Nat}
    (hmarks : Marks stored n) (s : RunState σ) :
    let pulled := session.pull stored s
    pulled.1.deltas = (site.log pulled.2.world).drop n ∨
      pulled.1.deltas = [] ∧ pulled.1.outcome ≠ .ok () := by
  simp only [Session.pull, hincremental, Bool.false_eq_true, if_false, Session.onWorld_apply]
  exact h.backed.sync_deltas hmarks _ _ _

theorem keeps_gather : site.growth.onWorlds.Keeps session.gather :=
  Session.keeps_gather h.keeps fun _ s => (h.holds.load_spec _ s).1

/-- What a run that is not full receives is an initial part of the log from the marked position on, as it is at
the moment of the pull; if the run gets through the pull it is all of that, and the captured token does not mark a
later position. -/
theorem gather_spec (hincremental : session.task.full = false) {n : Nat} {s : RunState σ}
    (hfresh : s.received = []) (hmarks : Marks (site.table s.world)[session.task.name]? n) :
    let gathered := session.gather s
    ∃ seen, site.log s.world <+: seen ∧ seen <+: site.log gathered.2.world ∧
      gathered.2.received <+: seen.drop n ∧
        ∀ position, gathered.1 = .ok position →
          gathered.2.received = seen.drop n ∧
            ∃ m, position.latest = some (toString m) ∧ (site.log s.world).length ≤ m ∧ m ≤ seen.length := by
  have hopened : site.growth.onRun.Rel s
      (session.runOnce .beforeAll Hooks.beforeAll session.engine.hooks s).2 :=
    Session.keeps_onRun (Session.keeps_runOnce .beforeAll Hooks.beforeAll session.engine.hooks
      fun one hone state => (h.keeps.hooks one hone).beforeAll _ h.keeps.connector) s
  simp only [Session.gather, Effect.andThen_apply]
  generalize session.runOnce .beforeAll Hooks.beforeAll session.engine.hooks s = opened at hopened ⊢
  obtain ⟨answer, s₁⟩ := opened
  cases answer with
  | error error =>
    refine ⟨site.log s.world, List.prefix_rfl, hopened.1.1, ?_, ?_⟩
    · rw [hopened.2, hfresh]
      exact List.nil_prefix
    · intro position hok
      cases hok
  | ok _ =>
    have hlocated := site.growth.onRun.trans hopened (keeps_locate h s₁)
    dsimp only
    cases hposition : (session.locate s₁).1 with
    | error error =>
      refine ⟨site.log s.world, List.prefix_rfl, hlocated.1.1, ?_, ?_⟩
      · rw [hlocated.2, hfresh]
        exact List.nil_prefix
      · intro position hok
        cases hok
    | ok position =>
      obtain ⟨hstored, hlatest⟩ := locate_ok h hincremental hposition
      rw [congrArg (fun table : TokenTable => table[session.task.name]?) hopened.1.2] at hstored
      have hpulled := keeps_pull h position.stored (session.locate s₁).2
      have hsent := pull_deltas h hincremental (hstored ▸ hmarks) (session.locate s₁).2
      dsimp only
      generalize session.pull position.stored (session.locate s₁).2 = pulled at hpulled hsent ⊢
      obtain ⟨emission, s₃⟩ := pulled
      obtain ⟨hconsumed, taken, hprefix, htaken, hall⟩ := Session.consume_received h.keeps emission s₃
      rw [hpulled.2, hlocated.2, hfresh, List.nil_append] at htaken
      have hreceived : taken <+: (site.log s₃.world).drop n := by
        rcases hsent with heq | ⟨heq, -⟩
        · exact heq ▸ hprefix
        · rw [heq, List.prefix_nil] at hprefix
          exact hprefix ▸ List.nil_prefix
      dsimp only
      -- Whether or not handling aborts, the pull itself has seen the log as it is in `s₃`.
      cases hanswer : (session.consume emission s₃).1 with
      | error error =>
        refine ⟨site.log s₃.world, hlocated.1.1.trans hpulled.1.1, hconsumed.1, htaken ▸ hreceived, ?_⟩
        intro position hok
        cases hok
      | ok _ =>
        refine ⟨site.log s₃.world, hlocated.1.1.trans hpulled.1.1, hconsumed.1, htaken ▸ hreceived,
          fun _ hok => ?_⟩
        cases hok
        obtain ⟨heq, houtcome⟩ := hall hanswer
        refine ⟨?_, _, hlatest, hlocated.1.1.length_le, hpulled.1.1.length_le⟩
        rcases hsent with hdeltas | ⟨-, hfailed⟩
        · exact htaken.trans (heq.trans hdeltas)
        · exact absurd houtcome hfailed

/-- The token is kept if the run gives it back, and else the store is left as it was. -/
theorem persist_spec (latest : Option SyncToken) (s : RunState σ) :
    let kept := session.persist latest s
    kept.2.received = s.received ∧ site.log s.world <+: site.log kept.2.world ∧
      (site.table kept.2.world = match kept.1 with
        | .ok (some token) => (site.table s.world).insert session.task.name token
        | _ => site.table s.world) ∧
      ∀ answer, kept.1 = .ok answer → answer = if session.dryRun then none else latest := by
  cases latest with
  | none => exact ⟨rfl, List.prefix_rfl, rfl, fun answer hok => by cases hok; simp⟩
  | some token =>
    unfold Session.persist
    dsimp only
    split
    · exact ⟨rfl, List.prefix_rfl, rfl, fun answer hok => by cases hok; rfl⟩
    · have hstored := h.holds.store_spec session.task.name token s.world
      simp only [bind_apply, Session.onWorld_apply]
      dsimp only at hstored
      cases hanswer : (session.engine.tokens.store session.task.name token s.world).1 with
      | error failure =>
        rw [hanswer] at hstored
        exact ⟨rfl, hstored.1, hstored.2, fun answer hok => nomatch hok⟩
      | ok _ =>
        rw [hanswer] at hstored
        exact ⟨rfl, hstored.1, hstored.2, fun answer hok => by cases hok; rfl⟩

/-- A run receives what it gathers, and changes the stored token only to the one that it gives back. -/
theorem phases_spec (s : RunState σ) :
    let finished := session.phases s
    finished.2.received = (session.gather s).2.received ∧
      site.log (session.gather s).2.world <+: site.log finished.2.world ∧
        (site.table finished.2.world = match finished.1 with
          | .ok (some token) => (site.table s.world).insert session.task.name token
          | _ => site.table s.world) ∧
        ∀ answer, finished.1 = .ok answer →
          ∃ position, (session.gather s).1 = .ok position ∧
            answer = if session.dryRun then none else position.latest := by
  have hgathered := keeps_gather h s
  rw [Session.phases_eq_gather]
  simp only [Effect.andThen_apply]
  cases hanswer : (session.gather s).1 with
  | error error => exact ⟨rfl, List.prefix_rfl, hgathered.2, fun answer hok => nomatch hok⟩
  | ok position =>
    have hclosed : site.growth.onRun.Rel (session.gather s).2
        (session.runOnce .afterAll Hooks.afterAll session.engine.hooks (session.gather s).2).2 :=
      Session.keeps_onRun (Session.keeps_runOnce .afterAll Hooks.afterAll session.engine.hooks
        fun one hone state => (h.keeps.hooks one hone).afterAll _ h.keeps.connector) (session.gather s).2
    dsimp only
    generalize session.runOnce .afterAll Hooks.afterAll session.engine.hooks (session.gather s).2 = closed
      at hclosed ⊢
    obtain ⟨answer, s₁⟩ := closed
    have htable : site.table s₁.world = site.table s.world := hclosed.1.2.trans hgathered.2
    cases answer with
    | error error => exact ⟨hclosed.2, hclosed.1.1, htable, fun answer hok => nomatch hok⟩
    | ok _ =>
      obtain ⟨hreceived, hlog, hkept, hgiven⟩ := persist_spec h position.latest s₁
      rw [htable] at hkept
      exact ⟨hreceived.trans hclosed.2, hclosed.1.1.trans hlog, hkept,
        fun answer hok => ⟨position, rfl, hgiven answer hok⟩⟩

end Phases

end Site

end Reconciliation

end Provisioning
