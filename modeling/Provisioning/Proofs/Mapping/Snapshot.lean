import Provisioning.Mapping.Snapshot
import Provisioning.Proofs.Mapping.Item
set_option autoImplicit false

/-!
# Entities that reflect a snapshot

An entity reflects a snapshot when every synchronization item that is present in it finds its values in the
entity.  Then, and only then, the snapshot implies no change.  If no two items write to the same place, an entity
reflects a snapshot as soon as it has been created from it or updated by it.
-/

namespace Provisioning.Mapping

/-- The entity agrees with everything that the snapshot says. -/
def Reflects (mapping : Mapping) (entity : Entity) (snapshot : Attributes) : Prop :=
  ∀ item ∈ mapping.itemsFor .synchronization, ∀ incoming, snapshot[item.external]? = some incoming →
    item.Agrees entity incoming

/-- No two synchronization items write to the same place. -/
def Separated (mapping : Mapping) : Prop := (mapping.itemsFor .synchronization).Pairwise Item.Distinct

variable {mapping : Mapping} {snapshot : Attributes} {entity : Entity}

section Fold

variable {α : Type}

/-- One item takes what the snapshot holds for it, if anything. -/
def take (snapshot : Attributes) (step : Item → List Value → α → α) (a : α) (item : Item) : α :=
  match snapshot[item.external]? with
  | some incoming => step item incoming a
  | none => a

theorem foldSnapshot_eq (step : Item → List Value → α → α) (start : α) :
    mapping.foldSnapshot snapshot step start =
      (mapping.itemsFor .synchronization).foldl (take snapshot step) start := rfl

/-- What holds at the start and is kept by every step holds in the end. -/
theorem foldSnapshot_induction (P : α → Prop) {step : Item → List Value → α → α} {start : α} (hstart : P start)
    (hstep : ∀ item incoming a, P a → P (step item incoming a)) (mapping : Mapping) (snapshot : Attributes) :
    P (mapping.foldSnapshot snapshot step start) := by
  rw [foldSnapshot_eq]
  induction mapping.itemsFor .synchronization generalizing start with
  | nil => exact hstart
  | cons item rest ih =>
    refine ih ?_
    unfold take
    split
    · exact hstep item _ start hstart
    · exact hstart

variable (step : Item → List Value → α → α) (read : α → Entity) {Fresh : Item → α → Prop}

/-- A step that leaves the place of an item alone does so whether or not the snapshot holds anything for it. -/
theorem values_foldl_take {items : List Item} {other : Item} (hdistinct : ∀ item ∈ items, item.Distinct other)
    (hvalues : ∀ (item other : Item) (incoming : List Value) (a : α), item.Distinct other →
      other.values (read (step item incoming a)) = other.values (read a)) (start : α) :
    other.values (read (items.foldl (take snapshot step) start)) = other.values (read start) := by
  induction items generalizing start with
  | nil => rfl
  | cons item rest ih =>
    rw [List.foldl_cons, ih fun one hone => hdistinct one (List.mem_cons_of_mem _ hone)]
    unfold take
    split
    · exact hvalues item other _ start (hdistinct item List.mem_cons_self)
    · rfl

/-- If each step makes the result agree for its own item and leaves the places of the others alone, the result
agrees with the whole snapshot.  `Fresh` is what a step relies on: nothing was done to the place of its item yet. -/
theorem agrees_foldl_take {items : List Item} (hseparated : items.Pairwise Item.Distinct)
    (hown : ∀ (item : Item) (incoming : List Value) (a : α), Fresh item a →
      item.Agrees (read (step item incoming a)) incoming)
    (hvalues : ∀ (item other : Item) (incoming : List Value) (a : α), item.Distinct other →
      other.values (read (step item incoming a)) = other.values (read a))
    (hfresh : ∀ (item other : Item) (incoming : List Value) (a : α), item.Distinct other → Fresh other a →
      Fresh other (step item incoming a))
    {start : α} (hstart : ∀ item ∈ items, Fresh item start) :
    ∀ item ∈ items, ∀ incoming, snapshot[item.external]? = some incoming →
      item.Agrees (read (items.foldl (take snapshot step) start)) incoming := by
  induction items generalizing start with
  | nil => exact fun item hitem => nomatch hitem
  | cons first rest ih =>
    obtain ⟨hfirst, hrest⟩ := List.pairwise_cons.mp hseparated
    intro item hitem incoming hpresent
    rw [List.foldl_cons]
    rcases List.mem_cons.mp hitem with rfl | hmem
    · -- The later items leave alone what this one did.
      have htaken : take snapshot step start item = step item incoming start := by simp only [take, hpresent]
      rw [htaken]
      refine (hown item incoming start (hstart item List.mem_cons_self)).congr ?_
      exact values_foldl_take step read (fun one hone => (hfirst one hone).symm) hvalues _
    · refine ih hrest (fun one hone => ?_) item hmem incoming hpresent
      have hone' := hstart one (List.mem_cons_of_mem _ hone)
      unfold take
      split
      · exact hfresh first one _ start (hfirst one hone) hone'
      · exact hone'

end Fold

/-- A snapshot implies no change exactly for the entities that reflect it. -/
theorem diff_eq_empty_iff : mapping.diff entity snapshot = {} ↔ mapping.Reflects entity snapshot := by
  have hfold : ∀ (items : List Item) (start : Patch),
      items.foldl (take snapshot fun item incoming patch => item.note entity incoming patch) start = {} ↔
        start = {} ∧ ∀ item ∈ items, ∀ incoming, snapshot[item.external]? = some incoming →
          item.Agrees entity incoming := by
    intro items
    induction items with
    | nil => simp
    | cons item rest ih =>
      intro start
      rw [List.foldl_cons, ih, List.forall_mem_cons, take]
      cases hpresent : snapshot[item.external]? with
      | none => simp
      | some incoming => simp [Item.note_eq_empty_iff, and_assoc]
  rw [diff, foldSnapshot_eq, hfold]
  exact and_iff_right rfl

/-- An entity that was created from a snapshot reflects it. -/
theorem reflects_toEntity (hseparated : mapping.Separated) (snapshot : Attributes) :
    mapping.Reflects (mapping.toEntity snapshot) snapshot := by
  have hown : ∀ (item : Item) (incoming : List Value) (entity : Entity), True →
      item.Agrees (item.store incoming entity) incoming := fun _ _ _ _ => Item.agrees_store
  exact agrees_foldl_take Item.store id hseparated hown (fun _ _ _ _ h => Item.values_store h)
    (fun _ _ _ _ _ h => h) fun _ _ => trivial

/-- The entity that a snapshot describes is one of the mapped type that has no id yet. -/
theorem toEntity_key (mapping : Mapping) (snapshot : Attributes) :
    (mapping.toEntity snapshot).id = 0 ∧ (mapping.toEntity snapshot).subjectType = mapping.subjectType := by
  refine foldSnapshot_induction (fun entity : Entity => entity.id = 0 ∧ entity.subjectType = mapping.subjectType)
    ⟨rfl, rfl⟩ (fun item incoming entity hkey => ?_) mapping snapshot
  cases htarget : item.target <;> simp only [Item.store, htarget, hkey, and_self]

/-- The entity that a snapshot describes is linked to no resource. -/
theorem resources_toEntity (mapping : Mapping) (snapshot : Attributes) : (mapping.toEntity snapshot).resources = ∅ := by
  refine foldSnapshot_induction (fun entity : Entity => entity.resources = ∅) rfl
    (fun item incoming entity hlinks => ?_) mapping snapshot
  cases htarget : item.target <;> simp only [Item.store, htarget, hlinks]

theorem links_diff (mapping : Mapping) (entity : Entity) (snapshot : Attributes) :
    (mapping.diff entity snapshot).links = ∅ ∧ (mapping.diff entity snapshot).unlinks = ∅ := by
  refine foldSnapshot_induction (fun patch : Patch => patch.links = ∅ ∧ patch.unlinks = ∅) ⟨rfl, rfl⟩
    (fun item incoming patch hpatch => ?_) mapping snapshot
  cases htarget : item.target <;> simp only [Item.note, htarget]
  all_goals repeat' split
  all_goals exact hpatch

/-- What a snapshot changes in an entity are not its links. -/
theorem resources_apply_diff (mapping : Mapping) (entity : Entity) (snapshot : Attributes) :
    ((mapping.diff entity snapshot).apply entity).resources = entity.resources := by
  simp only [Patch.apply, links_diff]
  apply Std.ExtTreeSet.ext_mem
  intro name
  simp [Std.ExtTreeSet.mem_diff_iff, Std.ExtTreeSet.mem_union_iff]

/-- What is noted for items that write to different places makes the entity agree with all that the snapshot holds for
them. -/
theorem agrees_foldl_note {items : List Item} (hseparated : items.Pairwise Item.Distinct) (entity : Entity)
    (snapshot : Attributes) :
    let patch := items.foldl (take snapshot fun item incoming patch => item.note entity incoming patch) {}
    ∀ item ∈ items, ∀ incoming, snapshot[item.external]? = some incoming →
      item.Agrees (patch.apply entity) incoming := by
  have hown : ∀ (item : Item) (incoming : List Value) (patch : Patch), item.Untouched patch →
      item.Agrees ((item.note entity incoming patch).apply entity) incoming := fun _ _ _ => Item.agrees_note
  have hvalues : ∀ (item other : Item) (incoming : List Value) (patch : Patch), item.Distinct other →
      other.values ((item.note entity incoming patch).apply entity) = other.values (patch.apply entity) :=
    fun _ _ _ _ h => (Item.sameFor_note h).values_apply
  exact agrees_foldl_take (fun item incoming patch => item.note entity incoming patch)
    (fun patch => patch.apply entity) hseparated hown hvalues (fun _ _ _ _ h => Item.Untouched.note h)
    fun item _ => item.untouched_empty

/-- An entity that was updated by a snapshot reflects it. -/
theorem reflects_apply_diff (hseparated : mapping.Separated) (entity : Entity) (snapshot : Attributes) :
    mapping.Reflects ((mapping.diff entity snapshot).apply entity) snapshot :=
  agrees_foldl_note hseparated entity snapshot

/-- What an entity reflects does not depend on its id. -/
theorem Reflects.with_id (h : mapping.Reflects entity snapshot) (id : Nat) :
    mapping.Reflects { entity with id } snapshot := by
  intro item hitem incoming hpresent
  refine (h item hitem incoming hpresent).congr ?_
  cases htarget : item.target <;> simp only [Item.values, htarget]

/-- If the snapshot says nothing about the name, an entity that reflects it may take any name. -/
theorem Reflects.with_name (h : mapping.Reflects entity snapshot) (name : String)
    (hname : ∀ item ∈ mapping.itemsFor .synchronization, item.target = .username →
      ∀ incoming, snapshot[item.external]? = some incoming → firstText? incoming = none) :
    mapping.Reflects { entity with name } snapshot := by
  intro item hitem incoming hpresent
  by_cases htarget : item.target = .username
  · simp only [Item.Agrees, htarget, hname item hitem htarget incoming hpresent, reduceCtorEq, false_implies,
      implies_true]
  · refine (h item hitem incoming hpresent).congr ?_
    cases hother : item.target <;> simp_all [Item.values]

/-! ## Names -/

/-- The name that a snapshot gives for an item: the first text, if the item targets the name. -/
def Item.name? (item : Item) (snapshot : Attributes) : Option String :=
  if item.target = .username then snapshot[item.external]?.bind firstText? else none

/-- The names that a snapshot gives, in the order of the items. -/
def names (mapping : Mapping) (snapshot : Attributes) : List String :=
  (mapping.itemsFor .synchronization).filterMap fun item => item.name? snapshot

theorem name_take (entity : Entity) (snapshot : Attributes) (patch : Patch) (item : Item) :
    (take snapshot (fun item incoming patch => item.note entity incoming patch) patch item).name =
      ((item.name? snapshot).filter (· ≠ entity.name)).or patch.name := by
  unfold take Item.name?
  cases hpresent : snapshot[item.external]? with
  | none => simp
  | some incoming =>
    cases htarget : item.target <;>
      simp only [Item.note, htarget, if_true, reduceCtorEq, if_false, Option.filter_none, Option.none_or,
        Option.bind_some]
    case username =>
      cases firstText? incoming with
      | none => rfl
      | some name => by_cases hsame : name = entity.name <;> simp [Option.filter_some, hsame]
    case password =>
      split
      · split <;> rfl
      · rfl

/-- Of the names that a snapshot gives, the last one that the entity does not have already is the one that it takes. -/
theorem name_diff (mapping : Mapping) (entity : Entity) (snapshot : Attributes) :
    (mapping.diff entity snapshot).name = ((mapping.names snapshot).filter (· ≠ entity.name)).getLast? := by
  have hfold : ∀ (items : List Item) (start : Patch),
      (items.foldl (take snapshot fun item incoming patch => item.note entity incoming patch) start).name =
        ((items.filterMap fun item => item.name? snapshot).filter (· ≠ entity.name)).getLast?.or start.name := by
    intro items
    induction items with
    | nil => exact fun start => rfl
    | cons item rest ih =>
      intro start
      rw [List.foldl_cons, ih, name_take, ← Option.or_assoc, List.filterMap_cons]
      cases item.name? snapshot with
      | none => simp
      | some name =>
        by_cases hsame : name = entity.name
        · simp [Option.filter_some, hsame]
        · simp [Option.filter_some, hsame, List.getLast?_cons]
  rw [diff, foldSnapshot_eq, hfold, Option.or_none, names]

end Provisioning.Mapping
