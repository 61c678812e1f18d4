import Provisioning.Proofs.Mapping.RoundTrip
import Provisioning.Proofs.Propagation.AbsentObject
import Provisioning.Proofs.Reconciliation.LocalEffect
import Provisioning.Proofs.Reconciliation.NoEcho
set_option autoImplicit false

/-!
# Writing back

An assigned entity is written back to the resource that it came from.  Where the hooks leave the new entity as it is,
this alters no attribute that is the only one to be read into its place and the only one to be written from it: the
write carries exactly the values that came in.
-/

namespace Provisioning

/-- The attributes that a call writes, if it writes any. -/
def Call.written? : Call → Option Attributes
  | .create _ attributes _ | .update _ _ attributes _ => some attributes
  | .authenticate .. | .delete .. | .sync .. | .latestToken .. | .getObject .. | .search .. => none

/-- What a task writes are its attributes. -/
theorem Propagation.Task.Visits.written_eq {task : Task} {calls : List RemoteCall} (h : task.Visits calls)
    {call : RemoteCall} (hmem : call ∈ calls) {written : Attributes} (hwritten : call.call.written? = some written) :
    written = task.attributes := by
  have hprobe : ∀ options, (task.probeCall options).call.written? = Option.none := fun _ => rfl
  cases h with
  | none => cases hmem
  | probed options => simp [List.mem_singleton.mp hmem, hprobe] at hwritten
  | written options before write =>
    rcases List.mem_cons.mp hmem with rfl | hmem
    · simp [hprobe] at hwritten
    · rw [List.mem_singleton.mp hmem] at hwritten
      cases write <;> cases hwritten <;> rfl

namespace Reconciliation

open Propagation

variable {σ ρ : Type}

/-! ## New entities -/

/-- An extension that leaves new entities as they are, whatever else it does. -/
def Hooks.LeavesNew (hooks : Hooks σ) (hook : NewHook) : Prop :=
  ∀ (profile : Profile σ) (delta : Delta) (entity : Entity) (world : σ),
    (hooks.beforeNew hook profile delta entity world).1.2 = entity

theorem Hooks.LeavesNew.beside {hooks : Hooks σ} {hook : NewHook} (h : hooks.LeavesNew hook)
    (connector : Connector σ) : (hooks.beside connector : Hooks (σ × ρ)).LeavesNew hook :=
  fun _ delta entity pair => h _ delta entity pair.1

namespace Session

variable {session : Session σ} {hook : NewHook}

theorem beforeNew_of_leavesNew {hooks : List (Hooks σ)} (h : ∀ one ∈ hooks, one.LeavesNew hook) (delta : Delta)
    (entity : Entity) (s : RunState σ) : (session.beforeNew hook hooks delta entity s).1.2 = entity := by
  induction hooks generalizing delta entity s with
  | nil => rfl
  | cons one rest ih =>
    have hone := h one List.mem_cons_self (session.profile s) delta entity s.world
    simp only [beforeNew, bind_apply, get_apply, onWorld_apply]
    generalize one.beforeNew hook (session.profile s) delta entity s.world = left at hone ⊢
    obtain ⟨⟨answer, entity'⟩, world⟩ := left
    cases hone
    cases answer with
    | error failure => rfl
    | ok delta' => exact ih (fun other hother => h other (List.mem_cons_of_mem one hother)) delta' entity' _

/-- The entity that a delta describes as it is propagated, with the id and the name under which it was created. -/
def createdEntity (session : Session σ) (hook : NewHook) (delta : Delta) (report : WorkflowReport) : Entity :=
  { session.newEntity hook delta with id := report.id, name := report.name }

/-- The calls propagate the entity that a delta describes, under whatever id and name it was created. -/
def SendsNew (session : Session σ) (hook : NewHook) (delta : Delta) (calls : List RemoteCall) : Prop :=
  ∃ report : WorkflowReport, Sent
    (createTasks session.engine.registry (session.createdEntity hook delta report) (session.excludedFor hook)) calls

theorem sendsNew_nil (session : Session σ) (hook : NewHook) (delta : Delta) : session.SendsNew hook delta [] :=
  ⟨default, sent_nil _⟩

/-- If the hooks leave the new entity as it is, creating it calls nothing but what propagates it. -/
theorem create_sendsNew (h : ∀ one ∈ session.engine.hooks, one.LeavesNew hook) (delta : Delta)
    (s : RunState (σ × List Entry)) :
    Adds (fun deeds _ => session.SendsNew hook delta (deeds.filterMap Entry.call?)) s
      (session.chronicled.create hook delta s).2 := by
  have hhooks : ∀ one ∈ session.chronicled.engine.hooks, one.LeavesNew hook := by
    intro one hone
    obtain ⟨hooks, hmem, rfl⟩ := List.mem_map.mp (session.hooks_chronicled ▸ hone)
    exact (h hooks hmem).beside _
  have hnothing := session.sendsNew_nil hook delta
  refine create_adds (beforeNew_of_leavesNew hhooks delta _ s) hnothing (fun _ => hnothing) fun report s' => ?_
  obtain ⟨_, reports, hchapter, calls, rfl, hsent⟩ := propagate_adds session
    (createTasks session.chronicled.engine.registry (session.createdEntity hook delta report)
      (session.excludedFor hook)) s'
  refine ⟨_, reports, hchapter, report, ?_⟩
  rw [createTasks, tasksFor_twin] at hsent
  rw [List.filterMap_cons_none rfl, filterMap_called]
  exact hsent

/-- A delta that matches no entity calls, where such entities are assigned, nothing but what propagates the new one. -/
theorem handle_sendsNew (hhooks : ∀ hooks ∈ session.engine.hooks, hooks.LeavesNew .assign) {delta : Delta}
    {s : RunState σ} (hkind : delta.kind = .createOrUpdate) (hunmatched : (session.correlate delta s).1 = .ok [])
    (hrule : session.task.unmatching = .assign) :
    session.SendsNew .assign delta (session.chronicled.handle delta (s.beside [])).2.calls := by
  have hcorrelated : (session.chronicled.correlate delta (s.beside [])).1 = .ok [] := by
    rw [← hunmatched]
    exact (((session.mirrors_twin Entry.observer).correlate delta s (s.beside []) ⟨rfl, rfl, rfl, rfl⟩).1).symm
  have hidling := session.idling_correlate delta (s.beside [])
  rw [handle_eq_forEach_meet]
  generalize session.chronicled.correlate delta (s.beside []) = correlated at hcorrelated hidling ⊢
  obtain ⟨answer, s'⟩ := correlated
  cases hcorrelated
  have hadds : Adds (fun deeds _ => session.SendsNew .assign delta (deeds.filterMap Entry.call?)) (s.beside [])
      (forEach (session.chronicled.meet delta) (session.chronicled.subjects delta []) s').2 := by
    have htask : session.chronicled.task = session.task := rfl
    simp only [subjects, hkind, newHook?, htask, hrule]
    split
    · have hsends := session.create_sendsNew hhooks delta s'
      exact .after_idling hidling (forEach_singleton (session.chronicled.meet delta) (.unknown .assign) ▸ hsends)
    · exact adds_of_idling hidling (session.sendsNew_nil .assign delta)
  obtain ⟨deeds, _, hchapter, hsends⟩ := hadds
  rw [hchapter.calls]
  exact hsends

/-! ## Assigned entities -/

/-- An assigned entity is propagated to the resource that it came from, and to no other. -/
theorem createTasks_assigned (session : Session σ) (delta : Delta) (report : WorkflowReport) :
    createTasks session.engine.registry (session.createdEntity .assign delta report) (session.excludedFor .assign) =
      (task? session.engine.registry (session.createdEntity .assign delta report) .created
        session.task.resource).toList := by
  have hlinks : (session.createdEntity .assign delta report).resources = {session.task.resource} :=
    resources_newEntity session .assign delta
  have hresources : (session.createdEntity .assign delta report).resources \ session.excludedFor .assign =
      {session.task.resource} := by
    rw [hlinks]
    apply Std.ExtTreeSet.ext_mem
    intro name
    simp [excludedFor, Std.ExtTreeSet.mem_diff_iff]
  rw [createTasks, hresources, tasksFor_singleton]

/-- What was read into an attribute by an exclusive item is written for the assigned entity. -/
theorem getElem?_writeAttributes_assigned {item : Mapping.Item} {delta : Delta} {incoming : List Value}
    (h : session.mapping.Exclusive item) (htarget : item.target = .plain ∨ item.target = .virtual)
    (hpresent : delta.attributes[item.external]? = some incoming) (report : WorkflowReport) :
    (session.mapping.writeAttributes (session.createdEntity .assign delta report))[item.external]? =
      some incoming := by
  -- The id, the name and the links that a new entity gets are in no attribute.
  have hvalues : item.values (session.createdEntity .assign delta report) =
      item.values (session.mapping.toEntity delta.attributes) := by
    unfold createdEntity newEntity Entity.link Mapping.Item.values
    rcases htarget with htarget | htarget <;> simp only [htarget] <;> split <;> rfl
  have hattribute : item.target = .password → ∀ entity, item.values entity ≠ [] := by
    rcases htarget with htarget | htarget <;> simp [htarget]
  have hreturned := h.returned hpresent
  rw [h.getElem?_writeAttributes fun hpassword => hattribute hpassword _, hvalues,
    ← h.getElem?_writeAttributes fun hpassword => hattribute hpassword _]
  rcases htarget with htarget | htarget <;> simpa only [Mapping.Item.Returned, htarget] using hreturned

/-- A write for an assigned entity goes to the resource that is reconciled and carries the write set of the entity. -/
theorem SendsNew.written_eq {delta : Delta} {calls : List RemoteCall} (h : session.SendsNew .assign delta calls)
    (htyped : session.engine.registry.Typed)
    (hlookup : session.engine.registry.lookup session.task.resource session.task.subjectType =
      .ok (session.resource, session.mapping))
    {call : RemoteCall} (hcall : call ∈ calls) {written : Attributes} (hwritten : call.call.written? = some written) :
    call.resource = session.resource.name ∧
      ∃ report, written = session.mapping.writeAttributes (session.createdEntity .assign delta report) := by
  obtain ⟨report, hsent⟩ := h
  rw [createTasks_assigned] at hsent
  cases htask : task? session.engine.registry (session.createdEntity .assign delta report) .created
      session.task.resource with
  | none =>
    rw [htask] at hsent
    exact absurd hcall (hsent.eq_nil ▸ List.not_mem_nil)
  | some task =>
    rw [htask] at hsent
    have hvisits := hsent.visits task rfl
    obtain ⟨target, mapping, hfound, hresource, -, hattributes⟩ := task?_eq_some htask
    have htype : (session.createdEntity .assign delta report).subjectType = session.task.subjectType :=
      (newEntity_key session .assign delta).2.trans (htyped.subjectType_eq hlookup)
    rw [htype, hlookup] at hfound
    cases hfound
    exact ⟨(hvisits.resource_eq call hcall).trans hresource, report,
      (hvisits.written_eq hcall hwritten).trans hattributes⟩

/-- What is read into an entity is written back as it was.  For an item that shares neither its external name with
another item that is written nor its place with another item that is read, a new entity returns what the snapshot holds:
all the values of an attribute, and the text of the first one as a name or a password.  So an assigned entity, if the
hooks leave it as it is, alters none of these attributes where it came from: what is written for it goes to the resource
that is reconciled and carries for them exactly the values that came in, so that an object that takes the write over has
them as they were. -/
theorem assign_writes_back (mapping : Mapping) :
    (∀ item, mapping.Exclusive item → ∀ snapshot incoming, snapshot[item.external]? = some incoming →
      item.Returned incoming (mapping.writeAttributes (mapping.toEntity snapshot))) ∧
    ∀ session : Session σ, session.mapping = mapping → session.engine.registry.Typed →
      session.engine.registry.lookup session.task.resource session.task.subjectType =
        .ok (session.resource, session.mapping) →
      (∀ hooks ∈ session.engine.hooks, hooks.LeavesNew .assign) →
      ∀ delta s, delta.kind = .createOrUpdate → (session.correlate delta s).1 = .ok [] →
        session.task.unmatching = .assign →
        let handled := session.handle delta s
        let chronicled := session.chronicled.handle delta (s.beside [])
        (handled.1 = chronicled.1 ∧ RunState.Mirrors Beside Eq handled.2 chronicled.2) ∧
          ∀ call ∈ chronicled.2.calls, ∀ written, call.call.written? = some written →
            call.resource = session.resource.name ∧
              ∀ item, mapping.Exclusive item → item.target = .plain ∨ item.target = .virtual →
                ∀ incoming, delta.attributes[item.external]? = some incoming →
                  written[item.external]? = some incoming ∧
                    ∀ shown : Attributes, (shown.overlay written)[item.external]? = some incoming := by
  refine ⟨fun item h snapshot incoming hpresent => h.returned hpresent, ?_⟩
  rintro session rfl htyped hlookup hhooks delta s hkind hunmatched hrule handled chronicled
  refine ⟨session.handle_twin Entry.observer delta s [], fun call hcall written hwritten => ?_⟩
  have hsends := handle_sendsNew hhooks hkind hunmatched hrule
  obtain ⟨hresource, report, rfl⟩ := hsends.written_eq htyped hlookup hcall hwritten
  refine ⟨hresource, fun item h htarget incoming hpresent => ?_⟩
  have hreturned := getElem?_writeAttributes_assigned h htarget hpresent report
  refine ⟨hreturned, fun shown => ?_⟩
  rw [Attributes.getElem?_overlay, hreturned, Option.some_or]

end Session

end Reconciliation

end Provisioning

/-! ## A user with an account of several attributes -/

namespace Provisioning.Memory.Premises

open Reconciliation

/-- A mapping of users by name, address and telephone numbers, with a label that is only written. -/
def phonebookMapping : Mapping :=
  Mapping.ofItems "directory" "account"
    [{ external := "uid", target := .username, accountId := true },
     { external := "mail", internal := "address", target := .plain },
     { external := "phone", internal := "numbers", target := .virtual },
     { external := "label", internal := "numbers", target := .virtual, purpose := .propagation },
     { external := "label", internal := "full", target := .derived, purpose := .propagation }]

/-- The resource with that mapping. -/
def phonebook : Resource Premises :=
  { resource plainConnector with mappings := (PerSubject.const none).set .user (some phonebookMapping) }

/-- The session that assigns every user of it who is not known. -/
def assigning : Session Premises where
  engine := engine (Registry.insert {} phonebook)
  task := { readEveryone with unmatching := .assign }
  resource := phonebook
  mapping := phonebookMapping

theorem assigning_typed : assigning.engine.registry.Typed := by
  refine Registry.typed_empty.insert fun t mapping hget => ?_
  cases t <;> cases hget
  rfl

theorem lookup_assigning : assigning.engine.registry.lookup "directory" .user = .ok (phonebook, phonebookMapping) := by
  refine Registry.lookup_eq_ok_iff.mpr ⟨Registry.get_eq_ok_iff.mpr ?_, rfl⟩
  exact Std.ExtTreeMap.getElem?_insert_self

/-- An account with two addresses, one of them as bytes, and without telephone numbers. -/
def contact : RemoteObject where
  uid := "zoe"
  objectClass := "account"
  attributes := (∅ : Attributes) |>.insert "uid" [.text "zoe"] |>.insert "mail" [.octets [122], .text "a"]
    |>.insert "phone" []

/-- The resource holds this account, and nobody is known. -/
def newcomer : RunState Premises := { world := { directory := Directory.insertObject {} contact } }

theorem handle_newcomer_calls :
    (assigning.chronicled.handle (contact.toDelta "account") (newcomer.beside [])).2.calls.map
      (fun call => call.call.method) = [.getObject, .update] := by
  decide +kernel

/-- The user is assigned, and the addresses and numbers are written back as they were. -/
theorem assigning_writes_back :
    let calls := (assigning.chronicled.handle (contact.toDelta "account") (newcomer.beside [])).2.calls
    (phonebookMapping.writeAttributes (phonebookMapping.toEntity contact.attributes))["uid"]? = some [.text "zoe"] ∧
      calls.map (fun call => call.call.method) = [.getObject, .update] ∧
      ∀ call ∈ calls, ∀ written, call.call.written? = some written →
        written["mail"]? = some [.octets [122], .text "a"] ∧ written["phone"]? = some [] := by
  intro calls
  have hname : phonebookMapping.Exclusive phonebookMapping.accountId := ⟨by decide, rfl, by decide, by decide⟩
  have hmail : phonebookMapping.Exclusive { external := "mail", internal := "address", target := .plain } :=
    ⟨by decide, rfl, by decide, by decide⟩
  have hphone : phonebookMapping.Exclusive { external := "phone", internal := "numbers", target := .virtual } :=
    ⟨by decide, rfl, by decide, by decide⟩
  obtain ⟨hread, hassigned⟩ := Session.assign_writes_back phonebookMapping
  obtain ⟨-, hcalls⟩ := hassigned assigning rfl assigning_typed lookup_assigning (fun _ hmem => nomatch hmem)
    (contact.toDelta "account") newcomer rfl (by decide +kernel) rfl
  refine ⟨hread _ hname contact.attributes [.text "zoe"] (by decide +kernel) "zoe" rfl, handle_newcomer_calls, ?_⟩
  intro call hcall written hwritten
  obtain ⟨-, hreturned⟩ := hcalls call hcall written hwritten
  have hmail' := hreturned _ hmail (.inl rfl) [.octets [122], .text "a"] (by decide +kernel)
  have hphone' := hreturned _ hphone (.inr rfl) [] (by decide +kernel)
  exact ⟨hmail'.1, hphone'.1⟩

end Provisioning.Memory.Premises
