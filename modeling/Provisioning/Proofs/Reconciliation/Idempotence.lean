import Provisioning.Proofs.Memory.Objects
import Provisioning.Proofs.Memory.Premises
import Provisioning.Proofs.Reconciliation.Pull
import Provisioning.Proofs.Reconciliation.Workplace
set_option autoImplicit false

/-!
# Reading every object twice

A full run over a resource in memory settles the delta of every object.  A settled delta leads to no request, so a
second run over the same objects leaves the workflow and its repository as they are and only confirms, object by
object, what the first one did.
-/

namespace Provisioning

open Memory

variable {σ : Type}

namespace Reconciliation

/-! ## Several deltas -/

namespace Session

variable {workplace : Workplace σ} {session : Session σ} {s : RunState σ}

/-- Handling one delta after the other settles those that are handled; those of other objects that were settled
before stay so. -/
theorem forEach_receive_settles (h : workplace.Hosts session) (hmapping : session.mapping.Recognizing)
    (deltas : List Delta) (hdeltas : ∀ delta ∈ deltas, session.mapping.Recognizes delta)
    (hdistinct : deltas.Pairwise fun delta other => delta.correlationUid ≠ other.correlationUid)
    (hsound : (officeIn workplace s).Sound) :
    let after := forEach session.receive deltas s
    after.1 = .ok () ∧ (officeIn workplace after.2).Sound ∧
      (∀ delta ∈ deltas,
        session.mapping.Settled session.task.conflicts (officeIn workplace after.2).entities delta) ∧
      ∀ other, session.mapping.Recognizes other → (∀ delta ∈ deltas, other.correlationUid ≠ delta.correlationUid) →
        session.mapping.Settled session.task.conflicts (officeIn workplace s).entities other →
          session.mapping.Settled session.task.conflicts (officeIn workplace after.2).entities other := by
  induction deltas generalizing s with
  | nil => exact ⟨rfl, hsound, fun delta hdelta => (nomatch hdelta), fun other _ _ hsettled => hsettled⟩
  | cons delta rest ih =>
    obtain ⟨hdelta, hrest⟩ := List.forall_mem_cons.mp hdeltas
    obtain ⟨hfirst, hdistinct'⟩ := List.pairwise_cons.mp hdistinct
    obtain ⟨hok, hsound', hadvances, hsettled⟩ := handle_settles (s := { s with received := s.received ++ [delta] })
      h hmapping hdelta hsound
    obtain ⟨hok', hsound'', hothers, hstill⟩ := ih hrest hdistinct' hsound'
    simp only [forEach, Effect.andThen_apply, receive_eq, hok]
    refine ⟨hok', hsound'', List.forall_mem_cons.mpr ⟨hstill delta hdelta hfirst hsettled, hothers⟩, ?_⟩
    intro other hother huids hbefore
    obtain ⟨huid, huids'⟩ := List.forall_mem_cons.mp huids
    refine hstill other hother huids' ?_
    exact hadvances.settled hmapping hdelta hother hsound.keyed hsound'.keyed huid hbefore

/-- Handling settled deltas confirms what is there, delta by delta. -/
theorem forEach_receive_of_settled (h : workplace.Hosts session) (deltas : List Delta)
    (hpresent : ∀ delta ∈ deltas, delta.kind = .createOrUpdate) (hkeyed : (officeIn workplace s).entities.Keyed)
    (hsettled : ∀ delta ∈ deltas,
      session.mapping.Settled session.task.conflicts (officeIn workplace s).entities delta) :
    (forEach session.receive deltas s).1 = .ok () ∧
      ∃ results, Reports workplace s (forEach session.receive deltas s).2 results ∧
        (∀ result ∈ results, ∃ delta ∈ deltas, session.Confirms (officeIn workplace s).entities delta result) ∧
          ∀ delta ∈ deltas, ∃ result ∈ results, session.Confirms (officeIn workplace s).entities delta result := by
  refine forEach_reports (fun delta hdelta s' hsame => ?_) s rfl
  rw [← hsame] at hkeyed hsettled ⊢
  exact handle_of_settled (s := { s' with received := s'.received ++ [delta] }) h (hpresent delta hdelta) hkeyed
    (hsettled delta hdelta)

end Session

/-! ## Runs -/

/-- A session that reads every object of the resource of the workplace. -/
structure Workplace.Surveys (workplace : Workplace σ) (session : Session σ) : Prop extends
    workplace.Hosts session where
  full : session.task.full = true
  backed : ∃ name uidAttribute : String,
    session.resource.connector = (Directory.connector name uidAttribute).within workplace.directory

/-- The deltas that report all the objects of the mapped class. -/
def survey (mapping : Mapping) (directory : Directory) : List Delta :=
  (directory.objectsOf mapping.objectClass).map fun object => object.toDelta mapping.objectClass

namespace Session

variable {workplace : Workplace σ} {session : Session σ}

/-- The connector sends every object and changes nothing in the workflow. -/
theorem pull_spec (h : workplace.Surveys session) (stored : Option SyncToken) (s : RunState σ) :
    (session.pull stored s).1 = ⟨survey session.mapping (workplace.directory.get s.world), .ok ()⟩ ∧
      Reports workplace s (session.pull stored s).2 [] := by
  obtain ⟨name, uidAttribute, hconnector⟩ := h.backed
  have hoffice := workplace.apart.get_right ((workplace.directory.get s.world).record "search") s.world
  simp only [pull, h.full, if_true, onWorld_apply, Connector.allObjects, bind_apply, hconnector, Connector.within,
    Lens.zoom_apply, Directory.connector, Directory.search, pure_apply]
  rw [List.filter_eq_self.mpr fun _ _ => rfl]
  exact ⟨rfl, hoffice, (List.append_nil _).symm⟩

/-- If no delta aborts the run, it ends with the last of them. -/
theorem phases_eq (h : workplace.Surveys session) (s : RunState σ) :
    let handled := forEach session.receive (survey session.mapping (workplace.directory.get s.world))
      (session.pull none s).2
    handled.1 = .ok () → session.phases s = (.ok none, handled.2) := by
  intro handled hok
  obtain ⟨hemission, -⟩ := pull_spec h none s
  have hlocate : session.locate = Effect.ok {} := by
    simp only [locate, h.full, if_true]
    rfl
  have hconsume : session.consume (session.pull none s).1 (session.pull none s).2 = (.ok (), handled.2) := by
    rw [consume_eq, hemission]
    refine Prod.ext ?_ rfl
    dsimp only
    rw [hok]
    rfl
  have hphases : session.phases s =
      Effect.andThen (fun s => session.consume (session.pull none s).1 (session.pull none s).2)
        (fun _ => Effect.ok none) s := by
    simp only [phases, h.hooks, runOnce, hlocate, Effect.ok_andThen]
    rfl
  simp only [hphases, Effect.andThen_apply, hconsume]
  rfl

end Session

namespace Workplace

variable {workplace : Workplace σ} {engine : Engine σ} {task : SyncTask} {resource : Resource σ} {mapping : Mapping}

/-- If no delta aborts the run, it succeeds with the results of handling them all. -/
theorem Surveys.run_eq (h : workplace.Surveys { engine, task, resource, mapping }) (s : σ) :
    let session : Session σ := { engine, task, resource, mapping }
    let handled := Session.forEach session.receive (survey mapping (workplace.directory.get s))
      (session.pull none { world := s }).2
    handled.1 = .ok () → engine.run task s = (.ok (session.summary handled.2 none), handled.2.world) := by
  intro session handled hok
  simp only [Engine.run, Engine.start, h.found]
  rw [Session.phases_eq h { world := s } hok]

/-- A full run settles the delta of every object. -/
theorem Surveys.run_settles (h : workplace.Surveys { engine, task, resource, mapping })
    (hmapping : mapping.Recognizing) {s : σ} (hsound : (workplace.office.get s).Sound)
    (hkeyed : (workplace.directory.get s).Keyed)
    (hobjects : ∀ object ∈ (workplace.directory.get s).objectsOf mapping.objectClass,
      mapping.Recognizes (object.toDelta mapping.objectClass)) :
    let entities := (workplace.office.get (engine.run task s).2).entities
    entities.Keyed ∧
      ∀ delta ∈ survey mapping (workplace.directory.get s), mapping.Settled task.conflicts entities delta := by
  let pulled := (Session.pull { engine, task, resource, mapping } none { world := s }).2
  obtain ⟨-, hoffice, -⟩ := Session.pull_spec h none { world := s }
  have hdistinct : (survey mapping (workplace.directory.get s)).Pairwise
      fun delta other => delta.correlationUid ≠ other.correlationUid :=
    List.pairwise_map.mpr (hkeyed.pairwise_objectsOf mapping.objectClass)
  have hsound' : (Session.officeIn workplace pulled).Sound := hoffice.symm ▸ hsound
  obtain ⟨hok, hsound'', hsettled, -⟩ := Session.forEach_receive_settles h.toHosts hmapping
    (survey mapping (workplace.directory.get s)) (List.forall_mem_map.mpr hobjects) hdistinct hsound'
  rw [h.run_eq s hok]
  exact ⟨hsound''.keyed, hsettled⟩

/-- A second full run over the same objects makes no request and leaves the repository as it is; it reports an
update of every object, and nothing else. -/
theorem full_run_idempotent (h : workplace.Surveys { engine, task, resource, mapping })
    (hmapping : mapping.Recognizing) {s s' : σ} (hsound : (workplace.office.get s).Sound)
    (hkeyed : (workplace.directory.get s).Keyed)
    (hobjects : ∀ object ∈ (workplace.directory.get s).objectsOf mapping.objectClass,
      mapping.Recognizes (object.toDelta mapping.objectClass))
    (hoffice : workplace.office.get s' = workplace.office.get (engine.run task s).2)
    (hsame : (workplace.directory.get s').objects = (workplace.directory.get s).objects) :
    ∃ summary, (engine.run task s').1 = .ok summary ∧
      workplace.office.get (engine.run task s').2 = workplace.office.get s' ∧
        (∀ result ∈ summary.results, result.operation = .update ∧ result.status = .success) ∧
          ∀ object ∈ (workplace.directory.get s).objectsOf mapping.objectClass, ∃ result ∈ summary.results,
            mapping.ReflectedAt (workplace.office.get s').entities (object.toDelta mapping.objectClass)
              result.id := by
  obtain ⟨hkeyed', hsettled⟩ := h.run_settles hmapping hsound hkeyed hobjects
  have hsurvey : survey mapping (workplace.directory.get s') = survey mapping (workplace.directory.get s) := by
    simp only [survey, Directory.objectsOf, hsame]
  let pulled := (Session.pull { engine, task, resource, mapping } none { world := s' }).2
  obtain ⟨-, hpulled, hnothing⟩ := Session.pull_spec h none { world := s' }
  rw [← hoffice] at hkeyed' hsettled
  rw [← hsurvey] at hsettled
  have hpresent : ∀ delta ∈ survey mapping (workplace.directory.get s'), delta.kind = .createOrUpdate :=
    List.forall_mem_map.mpr fun _ _ => rfl
  have hpulled' : Session.officeIn workplace pulled = workplace.office.get s' := hpulled
  obtain ⟨hok, results, ⟨hunchanged, hresults⟩, honly, hevery⟩ := Session.forEach_receive_of_settled h.toHosts
    (survey mapping (workplace.directory.get s')) hpresent (hpulled'.symm ▸ hkeyed') (hpulled'.symm ▸ hsettled)
  rw [hpulled'] at hunchanged honly hevery
  replace hresults := hresults.trans (congrArg (fun before => before ++ results) hnothing)
  simp only [pulled, List.nil_append] at hresults
  rw [h.run_eq s' hok]
  refine ⟨_, rfl, hunchanged, ?_⟩
  simp only [Session.summary, hresults]
  constructor
  · intro result hresult
    obtain ⟨-, -, hupdate, hsuccess, -⟩ := honly result hresult
    exact ⟨hupdate, hsuccess⟩
  · intro object hobject
    rw [hsurvey] at hevery
    obtain ⟨result, hresult, -, -, hreflected⟩ := hevery _ (List.mem_map_of_mem hobject)
    exact ⟨result, hresult, hreflected⟩

end Workplace

end Reconciliation

end Provisioning

/-! ## All systems in memory -/

namespace Provisioning.Memory.Premises

open Reconciliation

/-- The resource and the workflow of the premises. -/
def workplace : Workplace Premises where
  directory := directoryLens
  office := officeLens
  office_stores _ _ := rfl
  apart := ⟨fun _ _ => rfl, fun _ _ => rfl⟩

/-- The connector to the resource. -/
def plainConnector : Connector Premises := (Directory.connector "directory" "uid").within directoryLens

/-- The task that reads every user; of several local ones of a name it takes the first. -/
def readEveryone : SyncTask where
  name := "import"
  resource := "directory"
  subjectType := .user
  conflicts := .firstMatch
  full := true

theorem workplace_surveys : workplace.Surveys
    { engine := engine (registry plainConnector), task := readEveryone, resource := resource plainConnector,
      mapping := userMapping } where
  typed := registry_typed
  found := lookup_registry
  repository := rfl
  workflow := rfl
  correlation := rfl
  quiet :=
    { registry := registry_keeps <|
        (Directory.connector_keeps_filing "directory" "uid").within fun s directory _ => rfl
      audit := fun _ => Frame.keeps_ok ()
      notifications := fun _ => Frame.keeps_ok () }
  hooks := rfl
  live := rfl
  mayCreate := rfl
  mayUpdate := rfl
  matching := rfl
  unmatching := rfl
  decided := by decide
  full := rfl
  backed := ⟨"directory", "uid", rfl⟩

theorem userMapping_recognizing : userMapping.Recognizing where
  separated := List.pairwise_singleton _ _
  accountId_synchronized := by decide
  accountId_written := by decide

/-- The account of a user. -/
def account (uid : Uid) : RemoteObject where
  uid := uid
  objectClass := "account"
  attributes := Attributes.ofPairs [("uid", [.text uid])]

theorem getElem?_account (uid : Uid) : (account uid).attributes["uid"]? = some [.text uid] := by
  rw [account, Attributes.getElem?_ofPairs]
  rfl

theorem recognizes_account {uid : Uid} (huid : uid ≠ "") :
    userMapping.Recognizes ((account uid).toDelta "account") where
  present := rfl
  accountId := ⟨.text uid, getElem?_account uid, rfl⟩
  named := by
    intro item hitem _ incoming hincoming
    cases List.mem_singleton.mp hitem
    cases (getElem?_account uid).symm.trans hincoming
    simpa [firstText?] using huid

/-- Two accounts, one of which belongs to a user that is known already. -/
def staff : Premises where
  directory := (Directory.insertObject {} (account "ada")).insertObject (account "bob")
  office := { entities := (Entities.insert {} { name := "ada" }).2 }

theorem staff_sound : staff.office.Sound where
  willing := rfl
  keyed := Entities.keyed_empty.insert { name := "ada" }
  numbered := @Entities.Numbered.insert {} { name := "ada" } Entities.numbered_empty (Nat.le_refl 0)

theorem staff_keyed : staff.directory.Keyed :=
  Directory.undisturbed_filing.insert _ _ (Directory.undisturbed_filing.insert _ _ Directory.keyed_empty)

theorem staff_recognized {object : RemoteObject} (hobject : object ∈ staff.directory.objectsOf "account") :
    userMapping.Recognizes (object.toDelta "account") := by
  obtain ⟨⟨uid, hget⟩, -⟩ := Directory.mem_objectsOf.mp hobject
  simp only [staff, Directory.insertObject, Std.ExtTreeMap.getElem?_insert, Std.ExtTreeMap.getElem?_empty] at hget
  split at hget
  · cases hget
    exact recognizes_account (by decide)
  · split at hget
    · cases hget
      exact recognizes_account (by decide)
    · cases hget

/-- The premises with the two accounts on the resource again. -/
def restaffed (premises : Premises) : Premises := { premises with directory := staff.directory }

theorem office_restaffed (premises : Premises) :
    workplace.office.get premises.restaffed = workplace.office.get premises := rfl

theorem objects_restaffed (premises : Premises) :
    (workplace.directory.get premises.restaffed).objects = (workplace.directory.get staff).objects := rfl

theorem full_run_idempotent_on_staff :
    let run := (engine (registry plainConnector)).run readEveryone
    let again := (run staff).2.restaffed
    ∃ summary, (run again).1 = .ok summary ∧
      workplace.office.get (run again).2 = workplace.office.get again ∧
        (∀ result ∈ summary.results, result.operation = .update ∧ result.status = .success) ∧
          ∀ object ∈ (workplace.directory.get staff).objectsOf "account", ∃ result ∈ summary.results,
            userMapping.ReflectedAt (workplace.office.get again).entities (object.toDelta "account") result.id :=
  Workplace.full_run_idempotent workplace_surveys userMapping_recognizing staff_sound staff_keyed
    (fun _ => staff_recognized) (office_restaffed _) (objects_restaffed _)

end Provisioning.Memory.Premises
