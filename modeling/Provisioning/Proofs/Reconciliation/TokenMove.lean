import Provisioning.Proofs.Reconciliation.Overlooked
set_option autoImplicit false

/-!
# When the token moves

A run writes the token store at its very end or not at all.  What it writes is the token that the connector
reported before the pull, carried through the handling of every delta.  Whichever phase fails before, the store is
left as it was.
-/

namespace Provisioning

variable {σ : Type}

/-- The store keeps its tokens in a table: reading leaves the table as it is, writing sets the token of one task,
and an access that fails changes nothing. -/
structure TokenStore.Tabled (table : σ → TokenTable) (store : TokenStore σ) : Prop where
  load : ∀ task, (Frame.unchanged table).Keeps (store.load task)
  store_ok : ∀ task token s, (store.store task token s).1 = .ok () →
    table (store.store task token s).2 = (table s).insert task token
  store_error : ∀ task token s failure, (store.store task token s).1 = .error failure →
    table (store.store task token s).2 = table s

namespace Reconciliation

variable {table : σ → TokenTable}

namespace Session

/-- The token that the connector reports as the end of the changes when it is asked for it: the stored token has been
read, and no delta has been pulled yet. -/
def reported (session : Session σ) (s : RunState σ) : Option SyncToken :=
  let loaded := (session.engine.tokens.load session.task.name s.world).2
  match (session.resource.connector.latestToken session.mapping.objectClass loaded).1 with
  | .ok latest => latest
  | .error _ => none

variable {session : Session σ}

theorem locate_latest {s : RunState σ} {position : Position} (hok : (session.locate s).1 = .ok position) :
    position.latest = if session.task.full then none else session.reported s := by
  cases hfull : session.task.full with
  | true =>
    simp only [locate, hfull, if_true, pure_apply, Except.ok.injEq] at hok
    subst hok
    rfl
  | false =>
    simp only [locate, hfull, Bool.false_eq_true, if_false, bind_apply, onWorld_apply] at hok
    simp only [reported, Bool.false_eq_true, if_false]
    generalize session.engine.tokens.load session.task.name s.world = loaded at hok ⊢
    obtain ⟨stored, world⟩ := loaded
    cases stored with
    | error failure => cases hok
    | ok stored =>
      simp only [bind_apply, onWorld_apply] at hok ⊢
      generalize session.resource.connector.latestToken session.mapping.objectClass world = asked at hok ⊢
      obtain ⟨answer, world'⟩ := asked
      cases answer with
      | error error => cases hok
      | ok latest =>
        cases hok
        rfl

/-- The token that a run captures before it pulls: none if it reads every object. -/
def captured (session : Session σ) (s : RunState σ) : Option SyncToken :=
  if session.task.full then none
  else session.reported (session.runOnce .beforeAll Hooks.beforeAll session.engine.hooks s).2

/-- The captured token is handed on as it is through the whole pull. -/
theorem gather_latest {s : RunState σ} {position : Position} (hok : (session.gather s).1 = .ok position) :
    position.latest = session.captured s := by
  simp only [gather, Effect.andThen_eq_ok_iff] at hok
  obtain ⟨-, -, located, hlocated, -, -, hposition⟩ := hok
  cases hposition
  exact locate_latest hlocated

/-! ## The end of a run -/

/-- At its end a run that does more than pretend sets the token of its task, if it has one to set. -/
theorem persist_table (htokens : session.engine.tokens.Tabled table) (latest : Option SyncToken) (s : RunState σ) :
    (∀ error, (session.persist latest s).1 = .error error →
      table (session.persist latest s).2.world = table s.world) ∧
    ∀ kept, (session.persist latest s).1 = .ok kept →
      kept = (if session.dryRun then none else latest) ∧
        table (session.persist latest s).2.world =
          kept.elim (table s.world) ((table s.world).insert session.task.name) := by
  cases latest with
  | none =>
    refine ⟨fun error hanswer => ?_, fun kept hanswer => ?_⟩
    · cases hanswer
    · cases hanswer
      exact ⟨(ite_self none).symm, rfl⟩
  | some token =>
    cases hdry : session.dryRun with
    | true =>
      simp only [persist, hdry, if_true, pure_apply]
      refine ⟨fun error hanswer => ?_, fun kept hanswer => ?_⟩
      · cases hanswer
      · cases hanswer
        exact ⟨rfl, rfl⟩
    | false =>
      have hok := htokens.store_ok session.task.name token s.world
      have herror := htokens.store_error session.task.name token s.world
      simp only [persist, hdry, Bool.false_eq_true, if_false, bind_apply, onWorld_apply]
      generalize session.engine.tokens.store session.task.name token s.world = stored at hok herror ⊢
      obtain ⟨answer, world⟩ := stored
      cases answer with
      | error failure =>
        refine ⟨fun error _ => herror failure rfl, fun kept hanswer => ?_⟩
        cases hanswer
      | ok _ =>
        refine ⟨fun error hanswer => ?_, fun kept hanswer => ?_⟩
        · cases hanswer
        · cases hanswer
          exact ⟨rfl, hok rfl⟩

/-- A run that fails leaves the table as it was; one that succeeds sets the token that it captured, or, if it only
pretends, none. -/
theorem phases_table (h : session.Keeps (Frame.unchanged table)) (htokens : session.engine.tokens.Tabled table)
    (s : RunState σ) :
    (∀ error, (session.phases s).1 = .error error → table (session.phases s).2.world = table s.world) ∧
    ∀ kept, (session.phases s).1 = .ok kept →
      kept = (if session.dryRun then none else session.captured s) ∧
        table (session.phases s).2.world = kept.elim (table s.world) ((table s.world).insert session.task.name) := by
  have hgather : table (session.gather s).2.world = table s.world := keeps_gather h htokens.load s
  have hlatest : ∀ position, (session.gather s).1 = .ok position → position.latest = session.captured s :=
    fun _ => gather_latest
  rw [phases_eq_gather]
  simp only [Effect.andThen_apply]
  generalize session.gather s = gathered at hgather hlatest ⊢
  obtain ⟨answer, s₁⟩ := gathered
  cases answer with
  | error error => exact ⟨fun _ _ => hgather, fun kept hanswer => by cases hanswer⟩
  | ok position =>
    rw [← hlatest position rfl]
    have hclosing : table (session.runOnce .afterAll Hooks.afterAll session.engine.hooks s₁).2.world = table s₁.world :=
      (keeps_runOnce .afterAll Hooks.afterAll session.engine.hooks
        (fun one hone _ => (h.hooks one hone).afterAll _ h.connector) s₁).1
    dsimp only at hgather ⊢
    generalize session.runOnce .afterAll Hooks.afterAll session.engine.hooks s₁ = closed at hclosing ⊢
    obtain ⟨answer, s₂⟩ := closed
    rw [← hgather, ← hclosing]
    cases answer with
    | error error => exact ⟨fun _ _ => rfl, fun kept hanswer => by cases hanswer⟩
    | ok _ => exact persist_table htokens position.latest s₂

end Session

namespace Engine

/-- The token that the connector of a task reports before the pull. -/
def reported (engine : Engine σ) (task : SyncTask) (world : σ) : Option SyncToken :=
  match engine.registry.lookup task.resource task.subjectType with
  | .error _ => none
  | .ok (resource, mapping) =>
    let session : Session σ := { engine, task, resource, mapping }
    session.reported (session.runOnce .beforeAll Hooks.beforeAll engine.hooks { world }).2

/-- A run that fails, at whatever point, leaves the table as it was.  One that succeeds hands back a token exactly if
it does more than pretend, does not read every object, and the connector reported that token before the pull; it sets
the token of its task to the one that it hands back, and if there is none it leaves the table as it was. -/
theorem start_moves_token {engine : Engine σ} (h : engine.Keeps (Frame.unchanged table))
    (htokens : engine.tokens.Tabled table) (task : SyncTask) (world : σ) :
    let finished := engine.start task world
    (∀ error, finished.1 = .error error → table finished.2.world = table world) ∧
    ∀ summary, finished.1 = .ok summary →
      (∀ token, summary.persistedToken = some token ↔
        (engine.dryRun || task.dryRun) = false ∧ task.full = false ∧ engine.reported task world = some token) ∧
      table finished.2.world =
        match summary.persistedToken with
        | some token => (table world).insert task.name token
        | none => table world := by
  intro finished
  cases hlookup : engine.registry.lookup task.resource task.subjectType with
  | error error =>
    have hfinished : finished = (.error (.mapping error), { world }) := start_error hlookup world
    rw [hfinished]
    exact ⟨fun _ _ => rfl, fun summary hanswer => by cases hanswer⟩
  | ok found =>
    obtain ⟨resource, mapping⟩ := found
    let session : Session σ := { engine, task, resource, mapping }
    have hsession : session.Keeps (Frame.unchanged table) := ⟨h, h.registry.lookup hlookup⟩
    obtain ⟨herror, hok⟩ := Session.phases_table hsession htokens { world }
    have hreported : session.captured { world } = if task.full then none else engine.reported task world := by
      simp only [Session.captured, reported, hlookup, session]
    simp only [finished, start, hlookup]
    simp only [session] at herror hok hreported
    generalize Session.phases { engine, task, resource, mapping } { world } = phased at herror hok ⊢
    obtain ⟨answer, s⟩ := phased
    cases answer with
    | error error => exact ⟨fun _ _ => herror error rfl, fun summary hanswer => by cases hanswer⟩
    | ok kept =>
      obtain ⟨hkept, htable⟩ := hok kept rfl
      refine ⟨fun error hanswer => (by cases hanswer), fun summary hanswer => ?_⟩
      cases hanswer
      refine ⟨fun token => ?_, ?_⟩
      · rw [hreported] at hkept
        have htoken : kept = if engine.dryRun || task.dryRun then none else
            if task.full then none else engine.reported task world := hkept
        simp only [Session.summary, htoken]
        cases engine.dryRun || task.dryRun <;> cases task.full <;> simp
      · cases kept <;> exact htable

end Engine

end Reconciliation

end Provisioning

/-! ## All systems in memory -/

namespace Provisioning.Memory.Premises

open Reconciliation

/-- The stored tokens. -/
def table (premises : Premises) : TokenTable := premises.tokens

theorem engine_keeps_table : (engine (registry plainConnector)).Keeps (Frame.unchanged table) :=
  engine_keeps (registry_keeps <| (Directory.connector "directory" "uid").keeps_anything.within fun _ _ _ => rfl)
    fun _ _ _ => rfl

theorem tokens_tabled : (engine (registry plainConnector)).tokens.Tabled table where
  load _ _ := rfl
  store_ok _ _ _ _ := rfl
  store_error _ _ _ _ hanswer := by cases hanswer

theorem start_moves_token_past_change :
    ∃ summary, ((engine (registry plainConnector)).start importChanges changed).1 = .ok summary ∧
      summary.persistedToken = some "1" ∧
        table ((engine (registry plainConnector)).start importChanges changed).2.world =
          (table changed).insert "import" "1" := by
  obtain ⟨-, hmoves⟩ := Engine.start_moves_token engine_keeps_table tokens_tabled importChanges changed
  cases hanswer : ((engine (registry plainConnector)).start importChanges changed).1 with
  | error error =>
    have hok : ((engine (registry plainConnector)).start importChanges changed).1.isOk = true := by decide +kernel
    rw [hanswer] at hok
    cases hok
  | ok summary =>
    obtain ⟨htoken, htable⟩ := hmoves summary hanswer
    have hreported : (engine (registry plainConnector)).reported importChanges changed = some "1" := by decide +kernel
    rw [(htoken "1").mpr ⟨rfl, rfl, hreported⟩] at htable
    exact ⟨summary, rfl, (htoken "1").mpr ⟨rfl, rfl, hreported⟩, htable⟩

end Provisioning.Memory.Premises
