import Provisioning.Proofs.Mapping.Acceptance
import Provisioning.Proofs.Mapping.Snapshot
set_option autoImplicit false

/-!
# What a diff brings about

A synchronization item writes to one place of an entity, or, if its target is derived, to none.  If no two items write
to the same place, one diff settles an entity: every place holds what the snapshot says about it, and a second diff
against the same snapshot is empty.
-/

namespace Provisioning.Mapping

/-! ## Places -/

/-- A place of an entity to which a snapshot can write. -/
inductive Place where
  | name
  | password
  | plain (internal : String)
  | virtual (internal : String)
  deriving DecidableEq, Repr

/-- The entity holds the incoming values at the place.  Attributes hold the same bytes equally often, in whatever order
and as whatever variant of value, and an absent attribute holds none.  Of a name or a password the text of the first
value counts, and no value says nothing. -/
def Place.Holds (entity : Entity) (incoming : List Value) : Place → Prop
  | name => ∀ text, firstText? incoming = some text → entity.name = text
  | password => ∀ text, firstText? incoming = some text → entity.password = some text
  | plain internal => ((entity.plain[internal]?.getD []).map Value.toBytes).Perm (incoming.map Value.toBytes)
  | virtual internal => ((entity.virtuals[internal]?.getD []).map Value.toBytes).Perm (incoming.map Value.toBytes)

namespace Item

/-- The place to which the item writes; derived attributes are never written. -/
def place? (item : Item) : Option Place :=
  match item.target with
  | .username => some .name
  | .password => some .password
  | .plain => some (.plain item.internal)
  | .virtual => some (.virtual item.internal)
  | .derived => none

variable {item other : Item} {place place' : Place}

theorem place?_eq_none_iff : item.place? = none ↔ item.target = .derived := by
  unfold place?
  cases item.target <;> simp

theorem distinct_of_places_ne (hitem : item.place? = some place) (hother : other.place? = some place')
    (h : place ≠ place') : item.Distinct other := by
  intro htarget hname
  have hsame : item.place? = other.place? := by
    unfold internalName at hname
    unfold place?
    cases hother' : other.target <;> simp_all
  exact h (Option.some.inj (hitem.symm.trans (hsame.trans hother)))

/-- An item agrees with an entity exactly if the entity holds the incoming values at its place. -/
theorem agrees_iff_holds (hplace : item.place? = some place) {entity : Entity} {incoming : List Value} :
    item.Agrees entity incoming ↔ place.Holds entity incoming := by
  unfold place? at hplace
  unfold Agrees
  cases htarget : item.target <;> rw [htarget] at hplace <;> cases hplace <;> simp only [values, htarget]
  case username => simp [Place.Holds]
  case password =>
    refine forall₂_congr fun text _ => ?_
    cases entity.password <;> simp
  all_goals exact sameValues_iff_perm

/-- An item agrees with every entity if it writes to no place. -/
theorem agrees_of_place?_eq_none (h : item.place? = none) (entity : Entity) (incoming : List Value) :
    item.Agrees entity incoming := by
  simp only [Agrees, place?_eq_none_iff.mp h]

/-- Nothing is noted for an item that writes to no place. -/
theorem note_of_place?_eq_none (h : item.place? = none) (current : Entity) (incoming : List Value) (patch : Patch) :
    item.note current incoming patch = patch := by
  simp only [note, place?_eq_none_iff.mp h]

end Item

/-- The places to which the synchronization items write, in the order of the items. -/
def places (mapping : Mapping) : List Place := (mapping.itemsFor .synchronization).filterMap Item.place?

/-- The synchronization items that write to some place. -/
def writingItems (mapping : Mapping) : List Item :=
  (mapping.itemsFor .synchronization).filter fun item => item.place?.isSome

variable {mapping : Mapping}

theorem pairwise_writingItems (h : mapping.places.Nodup) : mapping.writingItems.Pairwise Item.Distinct := by
  rw [places, List.Nodup, List.pairwise_filterMap] at h
  rw [writingItems, List.pairwise_filter]
  refine h.imp fun {item other} hne hitem hother => ?_
  obtain ⟨place, hplace⟩ := Option.isSome_iff_exists.mp hitem
  obtain ⟨place', hplace'⟩ := Option.isSome_iff_exists.mp hother
  exact Item.distinct_of_places_ne hplace hplace' (hne place hplace place' hplace')

/-- Only the items that write somewhere matter to a diff. -/
theorem diff_eq_foldl_writingItems (mapping : Mapping) (current : Entity) (snapshot : Attributes) :
    mapping.diff current snapshot =
      mapping.writingItems.foldl (take snapshot fun item incoming patch => item.note current incoming patch) {} := by
  rw [diff, foldSnapshot_eq, writingItems, List.foldl_filter]
  congr 1
  funext patch item
  cases hplace : item.place? with
  | some place => simp only [Option.isSome_some, if_true]
  | none =>
    simp only [take, Item.note_of_place?_eq_none hplace]
    split <;> simp

/-! ## Settling -/

/-- An entity that was updated by a snapshot reflects it, as long as the places of the items differ. -/
theorem reflects_apply_diff_of_places (h : mapping.places.Nodup) (entity : Entity) (snapshot : Attributes) :
    mapping.Reflects ((mapping.diff entity snapshot).apply entity) snapshot := by
  intro item hitem incoming hpresent
  cases hplace : item.place? with
  | none => exact Item.agrees_of_place?_eq_none hplace _ _
  | some place =>
    have hwriting : item ∈ mapping.writingItems := List.mem_filter.mpr ⟨hitem, by rw [hplace, Option.isSome_some]⟩
    rw [diff_eq_foldl_writingItems]
    exact agrees_foldl_note (pairwise_writingItems h) entity snapshot item hwriting incoming hpresent

/-- One diff settles an entity: if no two synchronization items write to the same place, then after the diff has been
applied every item whose attribute is in the snapshot finds its values at its place, and a second diff is empty. -/
theorem diff_settles (h : mapping.places.Nodup) (entity : Entity) (snapshot : Attributes) :
    let settled := (mapping.diff entity snapshot).apply entity
    (∀ item ∈ mapping.itemsFor .synchronization, ∀ place, item.place? = some place →
      ∀ incoming, snapshot[item.external]? = some incoming → place.Holds settled incoming) ∧
    mapping.diff settled snapshot = {} := by
  have hreflects := reflects_apply_diff_of_places h entity snapshot
  refine ⟨fun item hitem place hplace incoming hpresent => ?_, diff_eq_empty_iff.mpr hreflects⟩
  exact (Item.agrees_iff_holds hplace).mp (hreflects item hitem incoming hpresent)

/-- A mapping of users with every kind of target, two derived items of one name among them. -/
def badge : Mapping :=
  ofItems "directory" "account"
    [{ external := "login", target := .username, accountId := true },
     { external := "secret", target := .password, password := true },
     { external := "mail", internal := "mail", target := .plain },
     { external := "mail", internal := "mail", target := .virtual },
     { external := "phone", internal := "phone", target := .plain },
     { external := "mobile", internal := "phone", target := .plain, purpose := .propagation },
     { external := "full", internal := "label", target := .derived },
     { external := "short", internal := "label", target := .derived }]

/-- A user with an address as a text and a telephone number. -/
def visitor : Entity where
  subjectType := .user
  name := "ann"
  plain := (∅ : Attributes) |>.insert "mail" [.text "a", .text "b"] |>.insert "phone" [.text "1"]

/-- The addresses in another order, the number gone, and a new name. -/
def visitorSnapshot : Attributes :=
  (∅ : Attributes) |>.insert "login" [.text "anna", .text "ann"] |>.insert "secret" []
    |>.insert "mail" [.octets [98], .octets [97]] |>.insert "phone" [] |>.insert "full" [.text "Anna"]

theorem badge_settles_visitor :
    badge.places.Nodup ∧ badge.diff visitor visitorSnapshot ≠ {} ∧
      ((badge.diff visitor visitorSnapshot).apply visitor).plain["phone"]? = none ∧
      badge.diff ((badge.diff visitor visitorSnapshot).apply visitor) visitorSnapshot = {} := by
  have hplaces : badge.places.Nodup := by decide +kernel
  exact ⟨hplaces, by decide +kernel, by decide +kernel, (diff_settles hplaces visitor visitorSnapshot).2⟩

end Provisioning.Mapping
