import Provisioning.Proofs.Memory.Objects
set_option autoImplicit false

/-!
# What a write does to the objects

A write to a resource in memory either fails and changes no object, or it adds the object that it creates, takes out
the one that it deletes or replaces the one that it updates.  A creation looks whether its identifier is free.  An
update that moves its object to another identifier does not, so it takes the place of the object that is filed there,
which is the only way in which a write reaches an object other than its own.
-/

namespace Provisioning

/-! ## Calls -/

section Calls

variable {σ : Type}

/-- Some call to the connector leads from one world to the other. -/
inductive Connector.Calls (connector : Connector σ) (s : σ) : σ → Prop where
  | authenticate (objectClass username password : String) :
      connector.Calls s (connector.authenticate objectClass username password s).2
  | create (objectClass : String) (attributes : Attributes) (options : ReadOptions) :
      connector.Calls s (connector.create objectClass attributes options s).2
  | update (objectClass : String) (uid : Uid) (attributes : Attributes) (options : ReadOptions) :
      connector.Calls s (connector.update objectClass uid attributes options s).2
  | delete (objectClass : String) (uid : Uid) (options : ReadOptions) :
      connector.Calls s (connector.delete objectClass uid options s).2
  | sync (objectClass : String) (token : Option SyncToken) (options : ReadOptions) :
      connector.Calls s (connector.sync objectClass token options s).2
  | latestToken (objectClass : String) : connector.Calls s (connector.latestToken objectClass s).2
  | getObject (objectClass : String) (uid : Uid) (options : ReadOptions) :
      connector.Calls s (connector.getObject objectClass uid options s).2
  | search (objectClass : String) (filter : Option Filter) (options : ReadOptions) :
      connector.Calls s (connector.search objectClass filter options s).2
  | schemaNames (objectClass : String) (special : Bool) :
      connector.Calls s (connector.schemaNames objectClass special s).2
  | objectClasses : connector.Calls s (connector.objectClasses s).2
  | validate : connector.Calls s (connector.validate s).2
  | test : connector.Calls s (connector.test s).2

/-- A frame that a connector keeps relates the worlds before and after every call. -/
theorem Connector.Keeps.rel_of_calls {frame : Frame σ} {connector : Connector σ} (h : connector.Keeps frame)
    {before after : σ} (hcall : connector.Calls before after) : frame.Rel before after := by
  cases hcall with
  | authenticate objectClass username password => exact h.authenticate objectClass username password before
  | create objectClass attributes options => exact h.create objectClass attributes options before
  | update objectClass uid attributes options => exact h.update objectClass uid attributes options before
  | delete objectClass uid options => exact h.delete objectClass uid options before
  | sync objectClass token options => exact h.sync objectClass token options before
  | latestToken objectClass => exact h.latestToken objectClass before
  | getObject objectClass uid options => exact h.getObject objectClass uid options before
  | search objectClass filter options => exact h.search objectClass filter options before
  | schemaNames objectClass special => exact h.schemaNames objectClass special before
  | objectClasses => exact h.objectClasses before
  | validate => exact h.validate before
  | test => exact h.test before

end Calls

namespace Memory.Directory

variable {α : Type} {name uidAttribute : String} {directory : Directory}

/-- A resource that objects were put on and calls were made to, in any order.  Its settings and the log of changes may
be anything. -/
inductive Reachable (name uidAttribute : String) : Directory → Prop where
  | empty : Reachable name uidAttribute {}
  | insertObject {directory : Directory} (object : RemoteObject) :
      Reachable name uidAttribute directory → Reachable name uidAttribute (directory.insertObject object)
  | call {before after : Directory} :
      Reachable name uidAttribute before → (connector name uidAttribute).Calls before after →
        Reachable name uidAttribute after
  | configure {before after : Directory} :
      Reachable name uidAttribute before → after.objects = before.objects → Reachable name uidAttribute after

theorem Reachable.keyed (h : Reachable name uidAttribute directory) : directory.Keyed := by
  induction h with
  | empty => exact keyed_empty
  | insertObject object _ ih => exact undisturbed_filing.insert _ object ih
  | call _ hcall ih => exact (connector_keeps_filing name uidAttribute).rel_of_calls hcall ih
  | configure _ hobjects ih =>
    unfold Keyed
    rw [hobjects]
    exact ih

/-! ## What becomes of the objects -/

section Objects

variable {before between after : Std.ExtTreeMap Uid RemoteObject} {uid : Uid} {object : RemoteObject}

/-- There is one object more, and every other one is as it was. -/
structure Adds (object : RemoteObject) (before after : Std.ExtTreeMap Uid RemoteObject) : Prop where
  free : object.uid ∉ before
  added : after[object.uid]? = some object
  others : ∀ other, other ≠ object.uid → after[other]? = before[other]?
  size : after.size = before.size + 1

/-- The object with the identifier is gone, and every other one is as it was. -/
structure Removes (uid : Uid) (before after : Std.ExtTreeMap Uid RemoteObject) : Prop where
  found : uid ∈ before
  removed : after[uid]? = none
  others : ∀ other, other ≠ uid → after[other]? = before[other]?
  size : after.size + 1 = before.size

/-- What moves from one identifier to another finds an object there. -/
def Displaces (uid newUid : Uid) (before : Std.ExtTreeMap Uid RemoteObject) : Prop := newUid ≠ uid ∧ newUid ∈ before

instance (uid newUid : Uid) (before : Std.ExtTreeMap Uid RemoteObject) : Decidable (Displaces uid newUid before) :=
  inferInstanceAs (Decidable (_ ∧ _))

/-- An object takes the place of the one with the identifier, and is possibly filed elsewhere.  Every other object is
as it was, unless this one displaces it. -/
structure Replaces (uid : Uid) (object : RemoteObject) (before after : Std.ExtTreeMap Uid RemoteObject) : Prop where
  found : uid ∈ before
  stored : after[object.uid]? = some object
  vacated : object.uid ≠ uid → after[uid]? = none
  others : ∀ other, other ≠ uid → other ≠ object.uid → after[other]? = before[other]?
  kept : ¬Displaces uid object.uid before →
    (∀ other, other ≠ uid → other ∈ before → after[other]? = before[other]?) ∧ after.size = before.size
  displaced : Displaces uid object.uid before → after.size + 1 = before.size

theorem getElem?_insert_uid (before : Std.ExtTreeMap Uid RemoteObject) (object : RemoteObject) (uid : Uid) :
    (before.insert object.uid object)[uid]? = if object.uid = uid then some object else before[uid]? := by
  simp [Std.ExtTreeMap.getElem?_insert]

theorem insert_adds (hfree : object.uid ∉ before) : Adds object before (before.insert object.uid object) where
  free := hfree
  added := Std.ExtTreeMap.getElem?_insert_self
  others other hother := by rw [getElem?_insert_uid, if_neg (Ne.symm hother)]
  size := by simp [Std.ExtTreeMap.size_insert, hfree]

theorem erase_removes (h : before[uid]? = some object) : Removes uid before (before.erase uid) where
  found := by rw [Std.ExtTreeMap.mem_iff_isSome_getElem?, h]; rfl
  removed := Std.ExtTreeMap.getElem?_erase_self
  others other hother := by simp [Std.ExtTreeMap.getElem?_erase, Ne.symm hother]
  size := calc (before.erase uid).size + 1
      = ((before.erase uid).insert uid object).size := by simp [Std.ExtTreeMap.size_insert]
    _ = before.size := by rw [insert_erase_objects h]

/-- What is left is what can be displaced from the place that became free. -/
theorem Removes.mem_iff_displaces (h : Removes uid before after) (newUid : Uid) :
    newUid ∈ after ↔ Displaces uid newUid before := by
  rw [Displaces, Std.ExtTreeMap.mem_iff_isSome_getElem?, Std.ExtTreeMap.mem_iff_isSome_getElem?]
  by_cases hsame : newUid = uid
  · simp [hsame, h.removed]
  · simp [hsame, h.others newUid hsame]

/-- To take one object out and put another one in is to replace the first one. -/
theorem Removes.replaces_insert (h : Removes uid before between) (object : RemoteObject) :
    Replaces uid object before (between.insert object.uid object) where
  found := h.found
  stored := Std.ExtTreeMap.getElem?_insert_self
  vacated hmoved := by rw [getElem?_insert_uid, if_neg hmoved, h.removed]
  others other hother hnew := by rw [getElem?_insert_uid, if_neg (Ne.symm hnew), h.others other hother]
  kept hfree := by
    have hadds : Adds object between (between.insert object.uid object) :=
      insert_adds (mt (h.mem_iff_displaces object.uid).mp hfree)
    refine ⟨fun other hother hbefore => ?_, by rw [hadds.size, h.size]⟩
    have hnew : other ≠ object.uid := fun heq => hfree ⟨heq ▸ hother, heq ▸ hbefore⟩
    rw [hadds.others other hnew, h.others other hother]
  displaced htaken := by
    have hsame : (between.insert object.uid object).size = between.size := by
      simp [Std.ExtTreeMap.size_insert, (h.mem_iff_displaces object.uid).mpr htaken]
    rw [hsame, h.size]

end Objects

/-! ## Writes -/

/-- A call fails and changes no object, or it succeeds with this result. -/
def Atomically (call : Effect Directory ConnectorError α) (directory : Directory)
    (result : α → Directory → Prop) : Prop :=
  match call directory with
  | (.ok answer, after) => result answer after
  | (.error _, after) => after.objects = directory.objects

theorem Atomically.mono {call : Effect Directory ConnectorError α} {result result' : α → Directory → Prop}
    (h : Atomically call directory result) (hresult : ∀ answer after, result answer after → result' answer after) :
    Atomically call directory result' := by
  unfold Atomically at h ⊢
  split at h
  · exact hresult _ _ h
  · exact h

theorem Atomically.result_of_ok {call : Effect Directory ConnectorError α} {result : α → Directory → Prop} {answer : α}
    (h : Atomically call directory result) (hok : (call directory).1 = .ok answer) :
    result answer (call directory).2 := by
  unfold Atomically at h
  split at h <;> rename_i heq <;> rw [heq] at hok ⊢ <;> cases hok
  exact h

/-- A write is as atomic as the operation behind it. -/
theorem atomically_write (call : String) {operation : Effect Directory ConnectorError α}
    {result : α → Directory → Prop} (h : Atomically operation (directory.record call) result) :
    Atomically (write call operation) directory result := by
  cases hworks : directory.failingWrites with
  | some message => simp only [Atomically, write, record, hworks]
  | none =>
    have hwrite : write call operation directory = operation (directory.record call) := by
      simp only [write, record, hworks]
    rw [Atomically, hwrite]
    exact h

theorem create_adds (uidAttribute objectClass : String) (attributes : Attributes) (directory : Directory) :
    Atomically (create uidAttribute objectClass attributes) directory fun uid after =>
      attributes.firstText? uidAttribute = some uid ∧
        Adds { uid, objectClass, attributes } directory.objects after.objects := by
  unfold create
  cases huid : attributes.firstText? uidAttribute with
  | none => rfl
  | some uid =>
    refine atomically_write _ ?_
    by_cases htaken : uid ∈ directory.objects
    · simp only [Atomically, record, Std.ExtTreeMap.contains_iff_mem, if_pos htaken]
    · simp only [Atomically, record, Std.ExtTreeMap.contains_iff_mem, if_neg htaken]
      exact ⟨trivial, insert_adds htaken⟩

theorem delete_removes (uid : Uid) (directory : Directory) :
    Atomically (delete uid) directory fun _ after => Removes uid directory.objects after.objects := by
  refine atomically_write _ ?_
  by_cases hfound : uid ∈ directory.objects
  · simp only [Atomically, record, Std.ExtTreeMap.contains_iff_mem, if_pos hfound]
    exact erase_removes (Std.ExtTreeMap.getElem?_eq_some_getElem hfound)
  · simp only [Atomically, record, Std.ExtTreeMap.contains_iff_mem, if_neg hfound]

theorem update_replaces (uidAttribute : String) (uid : Uid) (attributes : Attributes) (directory : Directory) :
    Atomically (update uidAttribute uid attributes) directory fun newUid after =>
      ∃ object, directory.objects[uid]? = some object ∧ newUid = (updated uidAttribute object attributes).uid ∧
        Replaces uid (updated uidAttribute object attributes) directory.objects after.objects := by
  refine atomically_write _ ?_
  cases hobject : directory.objects[uid]? with
  | none => simp only [Atomically, record, hobject]
  | some object =>
    simp only [Atomically, record, hobject]
    exact ⟨object, rfl, rfl, (erase_removes hobject).replaces_insert _⟩

/-- An update does not look whether the identifier that its object moves to is free. -/
theorem isOk_update_iff (uidAttribute : String) (uid : Uid) (attributes : Attributes) (directory : Directory) :
    (update uidAttribute uid attributes directory).1.isOk = true ↔
      directory.failingWrites = none ∧ uid ∈ directory.objects := by
  rw [Std.ExtTreeMap.mem_iff_isSome_getElem?]
  cases hworks : directory.failingWrites <;> cases hobject : directory.objects[uid]? <;>
    simp [update, write, record, hworks, hobject, Except.isOk, Except.toBool]

/-- Every object is filed under its own identifier, and a write that fails changes no object.  A creation that succeeds
adds its object alone and a deletion takes out its object alone.  An update replaces its object, which is then filed
under the identifier among the attributes; whenever there is such an object and writes work, it succeeds.  It leaves
every other object as it is unless it displaces one, and then there is one object less. -/
theorem Reachable.writes_address_objects (h : Reachable name uidAttribute directory) (options : ReadOptions) :
    directory.Keyed ∧
    (∀ objectClass attributes,
      Atomically ((connector name uidAttribute).create objectClass attributes options) directory fun uid after =>
        attributes.firstText? uidAttribute = some uid ∧
          Adds { uid, objectClass, attributes } directory.objects after.objects) ∧
    (∀ objectClass uid,
      Atomically ((connector name uidAttribute).delete objectClass uid options) directory fun _ after =>
        Removes uid directory.objects after.objects) ∧
    ∀ objectClass uid attributes,
      let update := (connector name uidAttribute).update objectClass uid attributes options
      ((update directory).1.isOk = true ↔ directory.failingWrites = none ∧ uid ∈ directory.objects) ∧
      Atomically update directory fun newUid after =>
        ∃ object, directory.objects[uid]? = some object ∧
          let attributes := object.attributes.overlay attributes
          newUid = (attributes.firstText? uidAttribute).getD uid ∧
            Replaces uid { object with uid := newUid, attributes } directory.objects after.objects := by
  have hkeyed := h.keyed
  refine ⟨hkeyed, fun objectClass attributes => create_adds uidAttribute objectClass attributes directory,
    fun objectClass uid => delete_removes uid directory, fun objectClass uid attributes =>
      ⟨isOk_update_iff uidAttribute uid attributes directory, ?_⟩⟩
  refine (update_replaces uidAttribute uid attributes directory).mono ?_
  rintro newUid after ⟨object, hobject, rfl, hreplaces⟩
  refine ⟨object, hobject, ?_, hreplaces⟩
  -- What an object without identifying attribute keeps is the identifier that it was addressed by.
  rw [← hkeyed uid object hobject]
  rfl

/-- An account that has a mail address. -/
def ann : RemoteObject :=
  { uid := "ann", objectClass := "__ACCOUNT__"
    attributes := Attributes.ofPairs [("uid", [.text "ann"]), ("mail", [.text "ann@x"])] }

/-- An account that has none. -/
def bea : RemoteObject :=
  { uid := "bea", objectClass := "__ACCOUNT__", attributes := Attributes.ofPairs [("uid", [.text "bea"])] }

/-- The attributes that move an account to the identifier of the first one. -/
def toAnn : Attributes := Attributes.ofPairs [("uid", [.text "ann"])]

/-- A resource with the two accounts. -/
def accounts : Directory := (insertObject {} ann).insertObject bea

theorem bea_displaces_ann :
    Reachable "ldap" "uid" accounts ∧ Displaces "bea" "ann" accounts.objects ∧
      ((connector "ldap" "uid").update "__ACCOUNT__" "bea" toAnn {} accounts).1 = .ok "ann" ∧
      Replaces "bea" { bea with uid := "ann", attributes := toAnn } accounts.objects
        ((connector "ldap" "uid").update "__ACCOUNT__" "bea" toAnn {} accounts).2.objects := by
  have hreachable : Reachable "ldap" "uid" accounts := .insertObject bea (.insertObject ann .empty)
  have hok : ((connector "ldap" "uid").update "__ACCOUNT__" "bea" toAnn {} accounts).1 = .ok "ann" := by rfl
  have hmerged : bea.attributes.overlay toAnn = toAnn := by decide +kernel
  obtain ⟨-, -, -, hupdate⟩ := hreachable.writes_address_objects {}
  obtain ⟨object, hobject, -, hreplaces⟩ := (hupdate "__ACCOUNT__" "bea" toAnn).2.result_of_ok hok
  have hbea : object = bea := Option.some.inj (hobject.symm.trans (by decide +kernel))
  rw [hbea, hmerged] at hreplaces
  exact ⟨hreachable, by decide +kernel, hok, hreplaces⟩

/-- An update that moves one account to the identifier of the other one succeeds, and the other one is lost. -/
theorem update_overwrites :
    let moved := (connector "ldap" "uid").update "__ACCOUNT__" "bea" toAnn {} accounts
    accounts.objects["ann"]? = some ann ∧ accounts.objects.size = 2 ∧ moved.1.toOption = some "ann" ∧
      moved.2.objects["ann"]? = some { bea with uid := "ann", attributes := toAnn } ∧
      moved.2.objects["bea"]? = none ∧ moved.2.objects.size = 1 := by
  decide +kernel

end Memory.Directory

end Provisioning
