import Mathlib.Data.List.Infix
import Provisioning.Proofs.Memory.Premises
import Provisioning.Proofs.Reconciliation.Capture
import Provisioning.Proofs.Reconciliation.Encounters
set_option autoImplicit false

/-!
# The sync token accounts for every change

A history of a resource in memory consists of changes appended to its log and of runs of one sync task, live or
not, full or not, failing or not.  Whatever the history is, the token that is stored in the end marks a position
up to which every change has been received by a run that kept its token.
-/

namespace Provisioning.Reconciliation

open Memory

variable {σ : Type}

/-- Whether a run gets through its pull. -/
def Engine.pulls (engine : Engine σ) (task : SyncTask) (world : σ) : Bool :=
  match engine.registry.lookup task.resource task.subjectType with
  | .error _ => false
  | .ok (resource, mapping) => (Session.gather { engine, task, resource, mapping } { world }).1.isOk

/-- What is noted of a run. -/
structure Pass where
  /-- Whether the run asks for changes, not for every object. -/
  incremental : Bool
  /-- Whether the run does more than pretend. -/
  live : Bool
  /-- Whether the run succeeds. -/
  succeeded : Bool
  /-- Whether the run gets through its pull. -/
  pulled : Bool
  /-- The deltas that are handed over to be handled. -/
  received : List Delta
  /-- The log at the beginning of the run. -/
  opening : List Delta
  /-- The log at the end of the run. -/
  closing : List Delta

/-- The runs that may move the token. -/
def Pass.counts (pass : Pass) : Bool := pass.incremental && pass.live && pass.succeeded

/-- What happens in a history. -/
inductive Occurrence where
  | appended (delta : Delta)
  | ran (pass : Pass)

namespace Occurrence

/-- What a run that counts received. -/
def delivery : Occurrence → List Delta
  | appended _ => []
  | ran pass => if pass.counts then pass.received else []

/-- What is outstanding after an occurrence: the changes since the last run that counts. -/
def carryOver (outstanding : List Delta) : Occurrence → List Delta
  | appended delta => outstanding ++ [delta]
  | ran pass => if pass.counts then [] else outstanding

end Occurrence

/-- Everything that runs that count have received, in order. -/
def delivered (trace : List Occurrence) : List Delta := trace.flatMap Occurrence.delivery

/-- The changes since the last run that counts, if none is appended during a run. -/
def outstanding (first : List Delta) (trace : List Occurrence) : List Delta :=
  trace.foldl Occurrence.carryOver first

/-- No change is appended during a run. -/
def Quiet (trace : List Occurrence) : Prop :=
  ∀ pass, Occurrence.ran pass ∈ trace → pass.closing = pass.opening

/-- Every run for changes receives an initial part of what is outstanding, and all of it if it gets through its
pull. -/
def Prompt (first : List Delta) (trace : List Occurrence) : Prop :=
  ∀ before pass after, trace = before ++ Occurrence.ran pass :: after → pass.incremental = true →
    pass.received <+: outstanding first before ∧
      (pass.pulled = true → pass.received = outstanding first before)

/-- Some run that counts has received the change of an index, together with its neighbours in the log. -/
def Covers (trace : List Occurrence) (log : List Delta) (index : Nat) : Prop :=
  ∃ pass, Occurrence.ran pass ∈ trace ∧ pass.counts = true ∧
    ∃ start, start ≤ index ∧ index < start + pass.received.length ∧ pass.received <+: log.drop start

/-- An act of a history. -/
inductive Act (σ : Type) where
  | append (delta : Delta)
  | run (engine : Engine σ) (task : SyncTask)

/-! ## Traces that grow -/

variable {trace : List Occurrence} {occurrence : Occurrence} {first log log' : List Delta}

theorem delivered_concat :
    delivered (trace ++ [occurrence]) = delivered trace ++ occurrence.delivery := by
  simp [delivered]

theorem outstanding_concat :
    outstanding first (trace ++ [occurrence]) = occurrence.carryOver (outstanding first trace) := by
  simp [outstanding]

theorem Quiet.of_concat (h : Quiet (trace ++ [occurrence])) : Quiet trace :=
  fun pass hpass => h pass (List.mem_append_left _ hpass)

/-- What has been received stays received while the trace and the log grow. -/
theorem Covers.mono {index : Nat} (h : Covers trace log index) (hlog : log <+: log') :
    Covers (trace ++ [occurrence]) log' index := by
  obtain ⟨pass, hpass, hcounts, start, hstart, hend, hreceived⟩ := h
  exact ⟨pass, List.mem_append_left _ hpass, hcounts, start, hstart, hend, hreceived.trans (hlog.drop start)⟩

theorem Prompt.concat (h : Prompt first trace)
    (hlast : ∀ pass, occurrence = .ran pass → pass.incremental = true →
      pass.received <+: outstanding first trace ∧
        (pass.pulled = true → pass.received = outstanding first trace)) :
    Prompt first (trace ++ [occurrence]) := by
  intro before pass after heq
  rcases List.eq_nil_or_concat after with rfl | ⟨after', last, rfl⟩
  · obtain ⟨rfl, hoccurrence⟩ := List.append_inj' heq rfl
    exact hlast pass (List.singleton_inj.mp hoccurrence)
  · rw [List.concat_eq_append, ← List.cons_append, ← List.append_assoc] at heq
    obtain ⟨heq', -⟩ := List.append_inj' heq rfl
    exact h before pass after' heq'

theorem take_eq_of_le_length {n : Nat} (h : log <+: log') (hn : n ≤ log.length) : log'.take n = log.take n := by
  obtain ⟨rest, rfl⟩ := h
  exact List.take_append_of_le_length hn

namespace Site

variable (site : Site σ)

/-- Append a change to the log. -/
def append (delta : Delta) (s : σ) : σ := site.directory.set ((site.directory.get s).pushDelta delta) s

/-- What is noted of a run. -/
def note (engine : Engine σ) (task : SyncTask) (s : σ) : Pass :=
  let (answer, finished) := engine.start task s
  { incremental := !task.full
    live := !(engine.dryRun || task.dryRun)
    succeeded := answer.isOk
    pulled := engine.pulls task s
    received := (engine.deliveries task s).map Prod.fst
    opening := site.log s
    closing := site.log finished.world }

/-- Carry out an act and note it. -/
def perform : Act σ → StateM σ Occurrence
  | .append delta => fun s => (.appended delta, site.append delta s)
  | .run engine task => fun s => (.ran (site.note engine task s), (engine.start task s).2.world)

/-- Carry out one act after the other. -/
def play : List (Act σ) → StateM σ (List Occurrence)
  | [] => pure []
  | act :: rest => do
    let occurrence ← site.perform act
    return occurrence :: (← play rest)

/-- What is noted is noted of a run of the history, in the world that the acts before it lead to.  What the run
received are the deltas that it handled, one after the other. -/
def Genuine (acts : List (Act σ)) (s : σ) (pass : Pass) : Prop :=
  ∃ before engine task after, acts = before ++ Act.run engine task :: after ∧
    let world := (site.play before s).2
    pass = site.note engine task world ∧
      ∀ resource mapping, engine.registry.lookup task.resource task.subjectType = .ok (resource, mapping) →
        Session.HandledInTurn { engine, task, resource, mapping } (engine.deliveries task world)
          (engine.start task world).2

/-- A run of the task of a name, over the resource and the token store of the site, with other systems that do
not shorten the log. -/
structure Admits (name : String) (engine : Engine σ) (task : SyncTask) : Prop where
  name_eq : task.name = name
  keeps : engine.Keeps site.growth
  holds : site.Holds engine.tokens
  backed : ∀ resource mapping,
    engine.registry.lookup task.resource task.subjectType = .ok (resource, mapping) →
      site.Backs resource.connector

/-- The stored token of the task marks the position `n`, everything before it has been received by runs that
count, and everything after it is still outstanding. -/
structure Accounts (name : String) (first : List Delta) (trace : List Occurrence) (s : σ) (n : Nat) : Prop where
  marks : Marks (site.table s)[name]? n
  bounded : n ≤ (site.log s).length
  ordered : ((site.log s).take n).Sublist (delivered trace)
  covers : ∀ index < n, Covers trace (site.log s) index
  rest : Quiet trace → (site.log s).drop n = outstanding first trace
  prompt : Quiet trace → Prompt first trace

variable {site} {name : String}

/-! ## One run -/

theorem Admits.serves {engine : Engine σ} {task : SyncTask} (h : site.Admits name engine task)
    {resource : Resource σ} {mapping : Mapping}
    (hlookup : engine.registry.lookup task.resource task.subjectType = .ok (resource, mapping)) :
    site.Serves { engine, task, resource, mapping } where
  keeps := { toKeeps := h.keeps, connector := h.keeps.registry.lookup hlookup }
  backed := h.backed resource mapping hlookup
  holds := h.holds

/-- The log only grows during a run. -/
theorem Admits.start_growth {engine : Engine σ} {task : SyncTask} (h : site.Admits name engine task) (s : σ) :
    site.log s <+: site.log (engine.start task s).2.world := by
  cases hlookup : engine.registry.lookup task.resource task.subjectType with
  | error error =>
    rw [Engine.start_error hlookup]
  | ok found =>
    obtain ⟨resource, mapping⟩ := found
    rw [(Engine.start_ok hlookup s).1]
    have hserves := h.serves hlookup
    exact (keeps_gather hserves { world := s }).1.trans (phases_spec hserves { world := s }).2.1

/-- Only a run that counts moves the token. -/
theorem Admits.start_token {engine : Engine σ} {task : SyncTask} (h : site.Admits name engine task) {s : σ}
    (hcounts : (site.note engine task s).counts = false) :
    site.table (engine.start task s).2.world = site.table s := by
  cases hlookup : engine.registry.lookup task.resource task.subjectType with
  | error error =>
    rw [Engine.start_error hlookup]
  | ok found =>
    obtain ⟨resource, mapping⟩ := found
    obtain ⟨hworld, hanswer⟩ := Engine.start_ok hlookup s
    obtain ⟨-, -, htable, hgiven⟩ := phases_spec (h.serves hlookup) { world := s }
    simp only [Pass.counts, note, hanswer] at hcounts
    rw [hworld, htable]
    split
    · rename_i token hfinished
      obtain ⟨position, hposition, hkept⟩ := hgiven _ hfinished
      -- A token is given back only by a run that is live, captures one and succeeds.
      have hlive : (engine.dryRun || task.dryRun) = false := by
        cases hdry : (engine.dryRun || task.dryRun) with
        | false => rfl
        | true => simp only [Session.dryRun, hdry, if_true, reduceCtorEq] at hkept
      have hincremental : task.full = false := by
        cases hfull : task.full with
        | false => rfl
        | true =>
          simp only [Session.dryRun, hlive, Session.gather_full hfull hposition, ite_self, reduceCtorEq] at hkept
      simp [hlive, hincremental, hfinished, Except.isOk, Except.toBool] at hcounts
    · rfl

/-- A run that is not full receives what the log holds from the marked position on, as it is at one moment of the
run, unless it is aborted earlier.  If it counts, the token then marks a position that lies within the log of
that moment and not before the end of the log at the beginning of the run. -/
theorem Admits.start_pull {engine : Engine σ} {task : SyncTask} (h : site.Admits name engine task) {s : σ} {n : Nat}
    (hmarks : Marks (site.table s)[name]? n) (hincremental : task.full = false) :
    let pass := site.note engine task s
    let s' := (engine.start task s).2.world
    ∃ seen, site.log s <+: seen ∧ seen <+: site.log s' ∧ pass.received <+: seen.drop n ∧
      (pass.pulled = true → pass.received = seen.drop n) ∧
      (pass.counts = true → pass.received = seen.drop n ∧
        ∃ m, site.table s' = (site.table s).insert name (toString m) ∧
          (site.log s).length ≤ m ∧ m ≤ seen.length) := by
  cases hlookup : engine.registry.lookup task.resource task.subjectType with
  | error error =>
    simp only [note, ← Engine.start_received, Pass.counts, Engine.pulls, hlookup, Engine.start_error hlookup]
    refine ⟨site.log s, List.prefix_rfl, List.prefix_rfl, List.nil_prefix, fun hpulled => ?_, fun hcounts => ?_⟩
    · cases hpulled
    · simp [Except.isOk, Except.toBool] at hcounts
  | ok found =>
    obtain ⟨resource, mapping⟩ := found
    have hserves := h.serves hlookup
    obtain ⟨hworld, hanswer⟩ := Engine.start_ok hlookup s
    obtain ⟨hreceived, hlog, htable, hgiven⟩ := phases_spec hserves { world := s }
    obtain ⟨seen, hopening, hclosing, hinitial, hall⟩ :=
      gather_spec hserves hincremental (s := { world := s }) rfl (h.name_eq ▸ hmarks)
    simp only [note, ← Engine.start_received, Pass.counts, Engine.pulls, hlookup, hworld, hanswer, hreceived]
    refine ⟨seen, hopening, hclosing.trans hlog, hinitial, fun hpulled => ?_, fun hcounts => ?_⟩
    · cases hgathered : (Session.gather { engine, task, resource, mapping } { world := s }).1 with
      | error error =>
        rw [hgathered] at hpulled
        cases hpulled
      | ok position => exact (hall position hgathered).1
    · simp only [Bool.and_eq_true] at hcounts
      obtain ⟨⟨-, hlive⟩, hsucceeded⟩ := hcounts
      cases hfinished : (Session.phases { engine, task, resource, mapping } { world := s }).1 with
      | error error =>
        rw [hfinished] at hsucceeded
        cases hsucceeded
      | ok kept =>
        obtain ⟨position, hposition, hkept⟩ := hgiven kept hfinished
        obtain ⟨heq, m, hlatest, hlow, hhigh⟩ := hall position hposition
        refine ⟨heq, m, ?_, hlow, hhigh⟩
        have hdry : (engine.dryRun || task.dryRun) = false := by simpa using hlive
        simp only [Session.dryRun, hdry, hlatest, Bool.false_eq_true, if_false] at hkept
        simp only [htable, hfinished, hkept, h.name_eq]

/-! ## One act -/

theorem log_append (delta : Delta) (s : σ) : site.log (site.append delta s) = site.log s ++ [delta] := by
  rw [log, append, site.directory_stores]
  rfl

theorem table_append (delta : Delta) (s : σ) : site.table (site.append delta s) = site.table s :=
  site.apart.get_right _ s

theorem Accounts.append {s : σ} {n : Nat} (h : site.Accounts name first trace s n) (delta : Delta) :
    site.Accounts name first (trace ++ [.appended delta]) (site.append delta s) n := by
  have hlog : site.log s <+: site.log (site.append delta s) := log_append delta s ▸ List.prefix_append _ _
  constructor
  · exact table_append delta s ▸ h.marks
  · exact h.bounded.trans hlog.length_le
  · rw [take_eq_of_le_length hlog h.bounded, delivered_concat]
    exact h.ordered.trans (List.sublist_append_left _ _)
  · exact fun index hindex => (h.covers index hindex).mono hlog
  · intro hquiet
    rw [log_append, List.drop_append_of_le_length h.bounded, outstanding_concat, h.rest hquiet.of_concat]
    rfl
  · intro hquiet
    exact (h.prompt hquiet.of_concat).concat fun pass hpass => nomatch hpass

/-- Under quiet, a run for changes receives what is outstanding. -/
theorem Accounts.received {s : σ} {n : Nat} (h : site.Accounts name first trace s n) {engine : Engine σ}
    {task : SyncTask} (hadmits : site.Admits name engine task)
    (hquiet : Quiet (trace ++ [.ran (site.note engine task s)])) (hincremental : task.full = false) :
    let pass := site.note engine task s
    pass.received <+: outstanding first trace ∧
      (pass.pulled = true → pass.received = outstanding first trace) := by
  obtain ⟨seen, hopening, hclosing, hinitial, hall, -⟩ := hadmits.start_pull h.marks hincremental
  have hsame : site.log (engine.start task s).2.world = site.log s :=
    hquiet (site.note engine task s) (List.mem_append_right _ List.mem_cons_self)
  rw [hsame] at hclosing
  have hseen : site.log s = seen :=
    hopening.eq_of_length (le_antisymm hopening.length_le hclosing.length_le)
  rw [← h.rest hquiet.of_concat, hseen]
  exact ⟨hinitial, hall⟩

/-- A run that does not count leaves the account as it was. -/
theorem Accounts.run_of_not_counts {s : σ} {n : Nat} (h : site.Accounts name first trace s n) {engine : Engine σ}
    {task : SyncTask} (hadmits : site.Admits name engine task)
    (hcounts : (site.note engine task s).counts = false) :
    site.Accounts name first (trace ++ [.ran (site.note engine task s)]) (engine.start task s).2.world n := by
  have hlog := hadmits.start_growth s
  constructor
  · exact hadmits.start_token hcounts ▸ h.marks
  · exact h.bounded.trans hlog.length_le
  · rw [take_eq_of_le_length hlog h.bounded, delivered_concat]
    exact h.ordered.trans (List.sublist_append_left _ _)
  · exact fun index hindex => (h.covers index hindex).mono hlog
  · intro hquiet
    have hsame : site.log (engine.start task s).2.world = site.log s :=
      hquiet (site.note engine task s) (List.mem_append_right _ List.mem_cons_self)
    rw [hsame, outstanding_concat, h.rest hquiet.of_concat]
    simp only [Occurrence.carryOver, hcounts, Bool.false_eq_true, if_false]
  · intro hquiet
    refine (h.prompt hquiet.of_concat).concat fun pass hpass hincremental => ?_
    cases hpass
    exact h.received hadmits hquiet (by simpa [note] using hincremental)

/-- A run that counts has received everything up to the position that its token marks. -/
theorem Accounts.run_of_counts {s : σ} {n : Nat} (h : site.Accounts name first trace s n) {engine : Engine σ}
    {task : SyncTask} (hadmits : site.Admits name engine task)
    (hcounts : (site.note engine task s).counts = true) :
    ∃ m, site.Accounts name first (trace ++ [.ran (site.note engine task s)])
      (engine.start task s).2.world m := by
  have hlog := hadmits.start_growth s
  have hincremental : task.full = false := by
    simp only [Pass.counts, Bool.and_eq_true] at hcounts
    simpa [note] using hcounts.1.1
  obtain ⟨seen, hopening, hclosing, -, -, hkept⟩ := hadmits.start_pull h.marks hincremental
  obtain ⟨hreceived, m, htable, hlow, hhigh⟩ := hkept hcounts
  have hnm : n ≤ m := h.bounded.trans hlow
  have hdelivery : (Occurrence.ran (site.note engine task s)).delivery = seen.drop n := by
    simp only [Occurrence.delivery, hcounts, if_true, hreceived]
  refine ⟨m, ?_, hhigh.trans hclosing.length_le, ?_, ?_, ?_, ?_⟩
  · rw [htable]
    exact .inr Std.ExtTreeMap.getElem?_insert_self
  · -- The changes before `m` are those before `n` and a first part of what this run received.
    have hsplit : seen.take m = (site.log s).take n ++ (seen.drop n).take (m - n) := by
      rw [← take_eq_of_le_length hopening h.bounded, ← List.take_add, Nat.add_sub_cancel' hnm]
    rw [take_eq_of_le_length hclosing hhigh, hsplit, delivered_concat, hdelivery]
    exact h.ordered.append (List.take_sublist _ _)
  · intro index hindex
    by_cases hold : index < n
    · exact (h.covers index hold).mono hlog
    · refine ⟨site.note engine task s, List.mem_append_right _ List.mem_cons_self, hcounts, n, ?_, ?_, ?_⟩
      · exact Nat.le_of_not_lt hold
      · rw [hreceived, List.length_drop]
        omega
      · exact hreceived ▸ hclosing.drop n
  · intro hquiet
    have hsame : site.log (engine.start task s).2.world = site.log s :=
      hquiet (site.note engine task s) (List.mem_append_right _ List.mem_cons_self)
    rw [hsame, List.drop_eq_nil_of_le hlow, outstanding_concat]
    simp only [Occurrence.carryOver, hcounts, if_true]
  · intro hquiet
    refine (h.prompt hquiet.of_concat).concat fun pass hpass _ => ?_
    cases hpass
    exact h.received hadmits hquiet hincremental

/-! ## Histories -/

theorem Accounts.perform {s : σ} {n : Nat} (h : site.Accounts name first trace s n) {act : Act σ}
    (hadmits : ∀ engine task, act = .run engine task → site.Admits name engine task) :
    ∃ m, site.Accounts name first (trace ++ [(site.perform act s).1]) (site.perform act s).2 m := by
  cases act with
  | append delta => exact ⟨n, h.append delta⟩
  | run engine task =>
    have hadmits' := hadmits engine task rfl
    cases hcounts : (site.note engine task s).counts with
    | false => exact ⟨n, h.run_of_not_counts hadmits' hcounts⟩
    | true => exact h.run_of_counts hadmits' hcounts

theorem Accounts.play (acts : List (Act σ)) {s : σ} {n : Nat} (h : site.Accounts name first trace s n)
    (hadmits : ∀ engine task, Act.run engine task ∈ acts → site.Admits name engine task) :
    ∃ m, site.Accounts name first (trace ++ (site.play acts s).1) (site.play acts s).2 m := by
  induction acts generalizing trace s n with
  | nil =>
    refine ⟨n, ?_⟩
    simpa [Site.play] using h
  | cons act rest ih =>
    obtain ⟨k, hact⟩ := h.perform fun engine task heq => hadmits engine task (heq ▸ List.mem_cons_self)
    obtain ⟨m, hrest⟩ := ih hact fun engine task hmem => hadmits engine task (List.mem_cons_of_mem _ hmem)
    refine ⟨m, ?_⟩
    simpa [Site.play] using hrest

theorem genuine_of_mem_play {acts : List (Act σ)} {s : σ} {pass : Pass}
    (h : Occurrence.ran pass ∈ (site.play acts s).1) : site.Genuine acts s pass := by
  induction acts generalizing s with
  | nil => cases h
  | cons act rest ih =>
    have hcons : (site.play (act :: rest) s).1 =
        (site.perform act s).1 :: (site.play rest (site.perform act s).2).1 := rfl
    rw [hcons, List.mem_cons] at h
    rcases h with hfirst | hrest
    · cases act with
      | append delta => cases hfirst
      | run engine task =>
        cases hfirst
        exact ⟨[], engine, task, rest, rfl, rfl, fun _ _ hlookup => Engine.start_handledInTurn hlookup s⟩
    · obtain ⟨before, engine, task, after, rfl, hnoted⟩ := ih hrest
      exact ⟨act :: before, engine, task, after, rfl, hnoted⟩

/-- No delta is lost by the sync token.  After every history that begins without a token, a stored token is the
number of some first changes of the log, and runs that count have received all of these in the order of the log.
If nothing is appended during runs, each run for changes that gets through its pull receives exactly what was
appended since the last run that counts.  To receive a delta is to handle it. -/
theorem play_loses_no_delta (acts : List (Act σ)) (s : σ)
    (hadmits : ∀ engine task, Act.run engine task ∈ acts → site.Admits name engine task)
    (hfirst : (site.table s)[name]? = none) :
    let trace := (site.play acts s).1
    let s' := (site.play acts s).2
    (∀ token, (site.table s')[name]? = some token →
      ∃ n, token = toString n ∧ n ≤ (site.log s').length ∧
        ((site.log s').take n).Sublist (delivered trace) ∧
          ∀ index < n, Covers trace (site.log s') index) ∧
      (Quiet trace → Prompt (site.log s) trace) ∧
        ∀ pass, Occurrence.ran pass ∈ trace → site.Genuine acts s pass := by
  have hnothing : site.Accounts name (site.log s) [] s 0 := by
    constructor
    · exact .inl ⟨hfirst, rfl⟩
    · exact Nat.zero_le _
    · exact List.nil_sublist _
    · exact fun index hindex => absurd hindex (Nat.not_lt_zero index)
    · exact fun _ => rfl
    · intro _ before pass after heq
      simp at heq
  obtain ⟨n, haccounts⟩ := hnothing.play acts hadmits
  rw [List.nil_append] at haccounts
  refine ⟨fun token htoken => ?_, haccounts.prompt, fun pass => genuine_of_mem_play⟩
  rcases haccounts.marks with ⟨hnone, -⟩ | hsome
  · cases hnone.symm.trans htoken
  · cases hsome.symm.trans htoken
    exact ⟨n, rfl, haccounts.bounded, haccounts.ordered, haccounts.covers⟩

end Site

end Provisioning.Reconciliation

/-! ## All systems in memory -/

namespace Provisioning.Memory.Premises

open Reconciliation

/-- The resource and the token store of the premises. -/
def site : Site Premises where
  directory := directoryLens
  tokens := tokensLens
  directory_stores _ _ := rfl
  tokens_stores _ _ := rfl
  apart := ⟨fun _ _ => rfl, fun _ _ => rfl⟩

/-- The connector to the resource; a change comes in just before each pull. -/
def busyConnector (change : Delta) : Connector Premises :=
  ((Directory.connector "directory" "uid").within directoryLens).intercepted fun call s =>
    match call with
    | .sync .. => (.ok (), site.append change s)
    | _ => (.ok (), s)

theorem site_backs_busyConnector (change : Delta) : site.Backs (busyConnector change) := by
  refine ⟨"directory", "uid", _, fun call s => ?_, rfl⟩
  cases call with
  | sync => exact ⟨Site.log_append change s ▸ List.prefix_append _ _, rfl⟩
  | _ => exact site.growth.refl s

theorem site_admits (change : Delta) {task : SyncTask} {name : String} (hname : task.name = name) :
    site.Admits name (engine (registry (busyConnector change))) task where
  name_eq := hname
  keeps := engine_keeps (registry_keeps (site_backs_busyConnector change).keeps) fun s _ _ => site.growth.refl s
  holds := ⟨fun _ => Effect.ok (), fun _ => Frame.keeps_ok (), rfl⟩
  backed _ _ hlookup := (eq_of_lookup hlookup).1 ▸ site_backs_busyConnector change

/-- A history with runs of every kind. -/
def busyHistory (change : Delta) (task : SyncTask) : List (Act Premises) :=
  let engine := engine (registry (busyConnector change))
  [.append change, .run engine { task with dryRun := true }, .run engine task, .append change,
    .run engine { task with full := true }, .run engine task]

theorem play_busyHistory_loses_no_delta :
    let change : Delta := { uid := "u1", objectClass := "account" }
    let task : SyncTask := { name := "import", resource := "directory", subjectType := .user }
    let trace := (site.play (busyHistory change task) {}).1
    let s := (site.play (busyHistory change task) {}).2
    (∀ token, (site.table s)["import"]? = some token →
      ∃ n, token = toString n ∧ n ≤ (site.log s).length ∧
        ((site.log s).take n).Sublist (delivered trace) ∧
          ∀ index < n, Covers trace (site.log s) index) ∧
      (Quiet trace → Prompt (site.log {}) trace) ∧
        ∀ pass, Occurrence.ran pass ∈ trace → site.Genuine (busyHistory change task) {} pass := by
  intro change task trace s
  have hadmits : ∀ engine task', Act.run engine task' ∈ busyHistory change task →
      site.Admits "import" engine task' := by
    intro engine task' hrun
    simp only [busyHistory, List.mem_cons, reduceCtorEq, Act.run.injEq, false_or, List.not_mem_nil,
      or_false] at hrun
    rcases hrun with ⟨rfl, rfl⟩ | ⟨rfl, rfl⟩ | ⟨rfl, rfl⟩ | ⟨rfl, rfl⟩ <;> exact site_admits change rfl
  have hfirst : (site.table {})["import"]? = none := Std.ExtTreeMap.getElem?_empty
  exact Site.play_loses_no_delta (busyHistory change task) {} hadmits hfirst

end Provisioning.Memory.Premises
