import Provisioning.Proofs.Mapping.Diff
set_option autoImplicit false

/-!
# What a snapshot offers for a place

Several synchronization items may write to one place.  The snapshot then offers several lists of values for it, and
what becomes of the place depends on these alone.  A new entity takes the last offer.  An entity that is there already
takes the last one that differs from what it holds, but loses an attribute as soon as some offer for it is empty.
-/

namespace Provisioning.Mapping

variable {mapping : Mapping} {snapshot : Attributes} {place : Place} {incoming : List Value} {entity : Entity}

/-- What the snapshot holds for the synchronization items that write to the place, in the order of the items. -/
def offered (mapping : Mapping) (snapshot : Attributes) (place : Place) : List (List Value) :=
  (mapping.itemsFor .synchronization).filterMap fun item =>
    if item.place? = some place then snapshot[item.external]? else none

theorem mem_offered : incoming ∈ mapping.offered snapshot place ↔
    ∃ item ∈ mapping.itemsFor .synchronization,
      item.place? = some place ∧ snapshot[item.external]? = some incoming := by
  simp only [offered, List.mem_filterMap, Option.ite_none_right_eq_some]

/-- What holds of all that is offered holds of what each item is given. -/
theorem forall_offered_iff {P : Place → List Value → Prop} :
    (∀ place, ∀ incoming ∈ mapping.offered snapshot place, P place incoming) ↔
      ∀ item ∈ mapping.itemsFor .synchronization, ∀ place, item.place? = some place →
        ∀ incoming, snapshot[item.external]? = some incoming → P place incoming := by
  constructor
  · intro h item hitem place hplace incoming hpresent
    exact h place incoming (mem_offered.mpr ⟨item, hitem, hplace, hpresent⟩)
  · intro h place incoming hoffered
    obtain ⟨item, hitem, hplace, hpresent⟩ := mem_offered.mp hoffered
    exact h item hitem place hplace incoming hpresent

theorem offered_eq_nil_iff : mapping.offered snapshot place = [] ↔
    ∀ item ∈ mapping.itemsFor .synchronization, item.place? = some place → snapshot[item.external]? = none := by
  simp only [offered, List.filterMap_eq_nil_iff, ite_eq_right_iff]

/-- A snapshot implies no change exactly for the entities that hold at every place whatever is offered for it. -/
theorem diff_eq_empty_iff_holds :
    mapping.diff entity snapshot = {} ↔
      ∀ place, ∀ incoming ∈ mapping.offered snapshot place, place.Holds entity incoming := by
  rw [diff_eq_empty_iff, forall_offered_iff]
  constructor
  · intro hreflects item hitem place hplace incoming hpresent
    exact (Item.agrees_iff_holds hplace).mp (hreflects item hitem incoming hpresent)
  · intro hholds item hitem incoming hpresent
    cases hplace : item.place? with
    | none => exact Item.agrees_of_place?_eq_none hplace entity incoming
    | some place => exact (Item.agrees_iff_holds hplace).mpr (hholds item hitem place hplace incoming hpresent)

/-! ## Folds over a snapshot -/

section Fold

variable {α β : Type}

/-- A part that only the items of one place change is made up of what is offered for that place. -/
theorem read_foldSnapshot (read : α → β) {step : Item → List Value → α → α} {change : β → List Value → β}
    (hown : ∀ item incoming a, item.place? = some place → read (step item incoming a) = change (read a) incoming)
    (hother : ∀ item incoming a, item.place? ≠ some place → read (step item incoming a) = read a) (start : α) :
    read (mapping.foldSnapshot snapshot step start) =
      (mapping.offered snapshot place).foldl change (read start) := by
  rw [foldSnapshot_eq, offered]
  induction mapping.itemsFor .synchronization generalizing start with
  | nil => rfl
  | cons item rest ih =>
    rw [List.foldl_cons, ih, List.filterMap_cons, take]
    cases hpresent : snapshot[item.external]? with
    | none => simp
    | some incoming =>
      by_cases hplace : item.place? = some place
      · simp only [hplace, if_true, hown item incoming start hplace, List.foldl_cons]
      · simp only [hplace, if_false, hother item incoming start hplace]

/-- Of several values that are taken over one after the other the last one counts. -/
theorem foldl_last (f : α → β) (items : List α) (start : β) :
    items.foldl (fun _ a => f a) start = (items.getLast?.map f).getD start := by
  induction items generalizing start with
  | nil => rfl
  | cons a rest ih => simp [ih, List.getLast?_cons]

/-- The same if some of them are passed over. -/
theorem foldl_lastWrite (write? : α → Option β) (items : List α) (start : Option β) :
    items.foldl (fun found a => (write? a).or found) start = (items.filterMap write?).getLast?.or start := by
  induction items generalizing start with
  | nil => rfl
  | cons a rest ih =>
    rw [List.foldl_cons, ih, List.filterMap_cons]
    cases write? a with
    | none => rfl
    | some b => simp [List.getLast?_cons]

theorem mem_of_lastWrite {write? : α → Option β} {items : List α} {b : β}
    (h : (items.filterMap write?).getLast? = some b) : ∃ a ∈ items, write? a = some b :=
  List.mem_filterMap.mp (List.mem_of_getLast? h)

theorem lastWrite_eq_none_iff {write? : α → Option β} {items : List α} :
    (items.filterMap write?).getLast? = none ↔ ∀ a ∈ items, write? a = none := by
  rw [List.getLast?_eq_none_iff, List.filterMap_eq_nil_iff]

end Fold

/-! ## The content of places -/

/-- What the entity holds at the place, if anything. -/
def Place.content (entity : Entity) : Place → Option (List Value)
  | name => some [.text entity.name]
  | password => entity.password.map fun text => [.text text]
  | plain internal => entity.plain[internal]?
  | virtual internal => entity.virtuals[internal]?

/-- What is held at the place once incoming values have been stored there. -/
def Place.stored (incoming : List Value) : Place → Option (List Value)
  | name => some [.text ((firstText? incoming).getD "")]
  | password => (firstText? incoming).map fun text => [.text text]
  | plain _ | virtual _ => some incoming

namespace Item

variable {item : Item}

theorem values_eq_content (h : item.place? = some place) : item.values entity = (place.content entity).getD [] := by
  unfold place? at h
  cases htarget : item.target <;> rw [htarget] at h <;> cases h <;> simp only [values, htarget, Place.content]
  case username => rfl
  case password => cases entity.password <;> rfl

theorem content_store (h : item.place? = some place) (incoming : List Value) (entity : Entity) :
    place.content (item.store incoming entity) = place.stored incoming := by
  unfold place? at h
  cases htarget : item.target <;> rw [htarget] at h <;> cases h <;>
    simp only [store, htarget, Place.content, Place.stored, Std.ExtTreeMap.getElem?_insert_self]

theorem content_store_of_ne (h : item.place? ≠ some place) (incoming : List Value) (entity : Entity) :
    place.content (item.store incoming entity) = place.content entity := by
  unfold place? at h
  cases htarget : item.target <;> cases place <;>
    simp_all [store, Place.content, Std.ExtTreeMap.getElem?_insert]

end Item

/-- A new entity holds at every place what is offered last for it. -/
theorem content_toEntity (mapping : Mapping) (snapshot : Attributes) (place : Place) :
    place.content (mapping.toEntity snapshot) =
      ((mapping.offered snapshot place).getLast?.map place.stored).getD (place.content {}) := by
  have hread : place.content (mapping.toEntity snapshot) =
      (mapping.offered snapshot place).foldl (fun _ incoming => place.stored incoming)
        (place.content { subjectType := mapping.subjectType }) :=
    read_foldSnapshot (fun entity => place.content entity)
      (fun item incoming entity h => item.content_store h incoming entity)
      (fun item incoming entity h => item.content_store_of_ne h incoming entity) _
  rw [hread, foldl_last]
  rfl

/-- Stored values are held. -/
theorem Place.holds_of_content (h : place.content entity = place.stored incoming) : place.Holds entity incoming := by
  cases place with
  | name =>
    intro text htext
    simpa [content, stored, htext] using h
  | password =>
    intro text htext
    simpa [content, stored, htext] using h
  | plain internal =>
    simp only [content, stored] at h
    simp only [Holds, h, Option.getD_some, List.Perm.refl]
  | virtual internal =>
    simp only [content, stored] at h
    simp only [Holds, h, Option.getD_some, List.Perm.refl]

/-! ## The changes of a patch -/

/-- The text that incoming values give, if it is not there already. -/
def newText? (current : Option String) (incoming : List Value) : Option String :=
  (firstText? incoming).filter fun text => some text ≠ current

/-- The incoming values, if there are any and they are not the same as the existing ones. -/
def newValues? (existing incoming : List Value) : Option (List Value) :=
  if sameValues existing incoming || incoming.isEmpty then none else some incoming

theorem newText?_eq_some_iff {current : Option String} {text : String} :
    newText? current incoming = some text ↔ firstText? incoming = some text ∧ some text ≠ current := by
  simp [newText?, Option.filter_eq_some_iff]

theorem newText?_eq_none_iff {current : Option String} :
    newText? current incoming = none ↔ ∀ text, firstText? incoming = some text → current = some text := by
  simp [newText?, Option.filter_eq_none_iff, @eq_comm _ current]

theorem newValues?_eq_some_iff {existing values : List Value} :
    newValues? existing incoming = some values ↔
      values = incoming ∧ sameValues existing incoming = false ∧ incoming ≠ [] := by
  unfold newValues?
  cases sameValues existing incoming <;> cases incoming <;> simp [eq_comm]

theorem newValues?_eq_none_iff {existing : List Value} :
    newValues? existing incoming = none ↔ sameValues existing incoming = true ∨ incoming = [] := by
  unfold newValues?
  cases sameValues existing incoming <;> simp

theorem names_eq_filterMap_offered (mapping : Mapping) (snapshot : Attributes) :
    mapping.names snapshot = (mapping.offered snapshot .name).filterMap firstText? := by
  rw [names, offered, List.filterMap_filterMap]
  congr 1
  funext item
  have hplace : item.place? = some .name ↔ item.target = .username := by
    unfold Item.place?
    cases item.target <;> simp
  by_cases htarget : item.target = .username <;> simp [Item.name?, hplace, htarget]

/-- The name in a patch is the last one that is offered and is not the entity's own. -/
theorem name_diff_offered (mapping : Mapping) (entity : Entity) (snapshot : Attributes) :
    (mapping.diff entity snapshot).name =
      ((mapping.offered snapshot .name).filterMap (newText? (some entity.name))).getLast? := by
  rw [name_diff, names_eq_filterMap_offered, List.filter_filterMap]
  congr 2
  funext incoming
  simp [newText?]

/-- Some item that writes to the place. -/
def Place.writer : Place → Item
  | name => { external := "", target := .username }
  | password => { external := "", target := .password }
  | plain internal => { external := "", internal, target := .plain }
  | virtual internal => { external := "", internal, target := .virtual }

theorem Place.place?_writer (place : Place) : place.writer.place? = some place := by
  cases place <;> rfl

namespace Item

variable {item : Item}

/-- Noting what an item changes leaves every place but its own alone. -/
theorem sameFor_note_of_place_ne (h : item.place? ≠ some place) (entity : Entity) (incoming : List Value)
    (patch : Patch) : place.writer.SameFor patch (item.note entity incoming patch) := by
  cases hplace : item.place? with
  | none =>
    rw [note_of_place?_eq_none hplace]
    cases place <;> simp [SameFor, SameChanges, Place.writer]
  | some other =>
    have hne : other ≠ place := fun heq => h (heq ▸ hplace)
    exact sameFor_note (distinct_of_places_ne hplace place.place?_writer hne)

theorem password_note (h : item.place? = some .password) (entity : Entity) (incoming : List Value) (patch : Patch) :
    (item.note entity incoming patch).password = (newText? entity.password incoming).or patch.password := by
  have htarget : item.target = .password := by
    unfold place? at h
    cases htarget : item.target <;> simp_all
  simp only [note, htarget]
  cases htext : firstText? incoming with
  | none => simp [newText?, htext]
  | some text =>
    by_cases hsame : some text = entity.password
    · simp [newText?, htext, ← hsame, Option.filter_some]
    · simp [newText?, htext, hsame, Option.filter_some]

end Item

/-- So is the password. -/
theorem password_diff_offered (mapping : Mapping) (entity : Entity) (snapshot : Attributes) :
    (mapping.diff entity snapshot).password =
      ((mapping.offered snapshot .password).filterMap (newText? entity.password)).getLast? := by
  have hread : (mapping.diff entity snapshot).password =
      (mapping.offered snapshot .password).foldl
        (fun found incoming => (newText? entity.password incoming).or found) none :=
    read_foldSnapshot Patch.password (fun item incoming patch h => item.password_note h entity incoming patch)
      (fun item incoming patch h => item.sameFor_note_of_place_ne h entity incoming patch) {}
  rw [hread, foldl_lastWrite, Option.or_none]

/-! ## The changes to an attribute -/

theorem sameValues_nil_right {existing : List Value} : sameValues existing [] = true ↔ existing = [] := by
  simp [sameValues_iff_perm]

theorem getElem?_upserts_noteValues (item : Item) (existing incoming : List Value) (changes : FamilyChanges) :
    (item.noteValues existing incoming changes).upserts[item.internal]? =
      (newValues? existing incoming).or changes.upserts[item.internal]? := by
  unfold Item.noteValues newValues?
  cases sameValues existing incoming <;> cases incoming <;> simp

theorem mem_removals_noteValues (item : Item) (existing incoming : List Value) (changes : FamilyChanges) :
    item.internal ∈ (item.noteValues existing incoming changes).removals ↔
      (incoming = [] ∧ existing ≠ []) ∨ item.internal ∈ changes.removals := by
  unfold Item.noteValues
  cases incoming with
  | nil =>
    cases hsame : sameValues existing [] <;> simp_all [← sameValues_nil_right]
  | cons value rest => cases sameValues existing (value :: rest) <;> simp

/-- The changes to an attribute of the entity, as some items note them in one family of a patch. -/
structure Noted (family : Patch → FamilyChanges) (place : Place) (internal : String) (entity : Entity)
    (existing : List Value) : Prop where
  own : ∀ (item : Item) (incoming : List Value) (patch : Patch), item.place? = some place →
    item.internal = internal ∧
      family (item.note entity incoming patch) = item.noteValues existing incoming (family patch)
  other : ∀ (item : Item) (incoming : List Value) (patch : Patch), item.place? ≠ some place →
    Item.SameChanges internal (family patch) (family (item.note entity incoming patch))
  empty : family {} = {}

namespace Noted

variable {family : Patch → FamilyChanges} {internal : String} {existing : List Value}

/-- An attribute is set to the last values that are offered and are not the existing ones. -/
theorem getElem?_upserts_diff (h : Noted family place internal entity existing) (mapping : Mapping)
    (snapshot : Attributes) :
    (family (mapping.diff entity snapshot)).upserts[internal]? =
      ((mapping.offered snapshot place).filterMap (newValues? existing)).getLast? := by
  have hread : (family (mapping.diff entity snapshot)).upserts[internal]? =
      (mapping.offered snapshot place).foldl (fun found incoming => (newValues? existing incoming).or found)
        (family {}).upserts[internal]? := by
    refine read_foldSnapshot (fun patch => (family patch).upserts[internal]?) (fun item incoming patch hplace => ?_)
      (fun item incoming patch hplace => (h.other item incoming patch hplace).1) {}
    obtain ⟨rfl, hnoted⟩ := h.own item incoming patch hplace
    rw [hnoted, getElem?_upserts_noteValues]
  rw [hread, foldl_lastWrite, h.empty, Std.ExtTreeMap.getElem?_empty, Option.or_none]

/-- An attribute that has values is removed if no values at all are offered for it. -/
theorem mem_removals_diff (h : Noted family place internal entity existing) (mapping : Mapping)
    (snapshot : Attributes) :
    internal ∈ (family (mapping.diff entity snapshot)).removals ↔
      [] ∈ mapping.offered snapshot place ∧ existing ≠ [] := by
  have hread : (internal ∈ (family (mapping.diff entity snapshot)).removals) =
      (mapping.offered snapshot place).foldl (fun removed incoming => (incoming = [] ∧ existing ≠ []) ∨ removed)
        (internal ∈ (family {}).removals) := by
    refine read_foldSnapshot (fun patch => internal ∈ (family patch).removals) (fun item incoming patch hplace => ?_)
      (fun item incoming patch hplace => propext (h.other item incoming patch hplace).2) {}
    obtain ⟨rfl, hnoted⟩ := h.own item incoming patch hplace
    rw [hnoted, mem_removals_noteValues]
  have hfold : ∀ (items : List (List Value)) (start : Prop),
      items.foldl (fun removed incoming => (incoming = [] ∧ existing ≠ []) ∨ removed) start ↔
        ([] ∈ items ∧ existing ≠ []) ∨ start := by
    intro items
    induction items with
    | nil => simp
    | cons incoming rest ih =>
      intro start
      rw [List.foldl_cons, ih, List.mem_cons]
      grind
  rw [hread, hfold, h.empty]
  simp

/-- What an attribute looks up as once the changes have been carried out. -/
theorem getElem?_apply_diff (h : Noted family place internal entity existing) (mapping : Mapping)
    (snapshot attributes : Attributes) :
    ((family (mapping.diff entity snapshot)).apply attributes)[internal]? =
      if [] ∈ mapping.offered snapshot place ∧ existing ≠ [] then none
      else ((mapping.offered snapshot place).filterMap (newValues? existing)).getLast?.or attributes[internal]? := by
  simp only [FamilyChanges.getElem?_apply, h.getElem?_upserts_diff, h.mem_removals_diff]

end Noted

theorem noted_plain (entity : Entity) (internal : String) :
    Noted Patch.plain (.plain internal) internal entity (entity.plain[internal]?.getD []) where
  own item incoming patch h := by
    unfold Item.place? at h
    cases htarget : item.target <;> simp_all [Item.note, Item.values]
  other item incoming patch h := Item.sameFor_note_of_place_ne h entity incoming patch
  empty := rfl

theorem noted_virtuals (entity : Entity) (internal : String) :
    Noted Patch.virtuals (.virtual internal) internal entity (entity.virtuals[internal]?.getD []) where
  own item incoming patch h := by
    unfold Item.place? at h
    cases htarget : item.target <;> simp_all [Item.note, Item.values]
  other item incoming patch h := Item.sameFor_note_of_place_ne h entity incoming patch
  empty := rfl

end Provisioning.Mapping
