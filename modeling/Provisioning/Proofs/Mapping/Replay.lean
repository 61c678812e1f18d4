import Provisioning.Proofs.Mapping.Exactness
set_option autoImplicit false

/-!
# Reading a snapshot again

An entity that was created from a snapshot is up to date with it, if no two synchronization items write to one place.
In general a replay, which applies the diff against one snapshot over and over, settles if and only if the snapshot does
not contradict itself: if, whenever several of its attributes go to one place, they ask the same of it.  It then settles
in the first round.  Otherwise there is no entity for which the snapshot implies no change.
-/

namespace Provisioning.Mapping

variable {mapping : Mapping} {snapshot : Attributes} {place : Place} {incoming other : List Value} {entity : Entity}

/-! ## Places of one item -/

/-- Nothing more is offered for a place than there are items that write to it. -/
theorem length_offered_le_count (mapping : Mapping) (snapshot : Attributes) (place : Place) :
    (mapping.offered snapshot place).length ≤ mapping.places.count place := by
  rw [offered, places]
  induction mapping.itemsFor .synchronization with
  | nil => simp
  | cons item rest ih =>
    rw [List.filterMap_cons, List.filterMap_cons]
    by_cases hplace : item.place? = some place
    · rw [if_pos hplace, hplace, List.count_cons_self]
      cases snapshot[item.external]? with
      | none => exact Nat.le_succ_of_le ih
      | some incoming => exact Nat.succ_le_succ ih
    · rw [if_neg hplace]
      cases hother : item.place? with
      | none => exact ih
      | some other => exact Nat.le_trans ih List.count_le_count_cons

/-- If no two items write to one place, only one thing is offered for it. -/
theorem eq_of_mem_offered (h : mapping.places.Nodup) (hincoming : incoming ∈ mapping.offered snapshot place)
    (hother : other ∈ mapping.offered snapshot place) : other = incoming := by
  have hlength : (mapping.offered snapshot place).length ≤ 1 :=
    Nat.le_trans (mapping.length_offered_le_count snapshot place) (List.nodup_iff_count.mp h place)
  match hoffered : mapping.offered snapshot place with
  | [] => simp [hoffered] at hincoming
  | [only] => simp_all
  | _ :: _ :: _ => simp [hoffered] at hlength

/-! ## New entities -/

/-- A new entity holds what is offered for a place, if nothing else is. -/
theorem content_toEntity_of_sole (hincoming : incoming ∈ mapping.offered snapshot place)
    (hsole : ∀ other ∈ mapping.offered snapshot place, other = incoming) :
    place.content (mapping.toEntity snapshot) = place.stored incoming := by
  rw [content_toEntity]
  cases hlast : (mapping.offered snapshot place).getLast? with
  | none => simp [List.getLast?_eq_none_iff.mp hlast] at hincoming
  | some last => simp [hsole last (List.mem_of_getLast? hlast)]

/-- Creating and updating read a snapshot the same way: if no two synchronization items write to one place, the entity
that was created from a snapshot has stored at the place of every item what the snapshot holds for it, and is up to date
with it. -/
theorem diff_toEntity (h : mapping.places.Nodup) (snapshot : Attributes) :
    (∀ item ∈ mapping.itemsFor .synchronization, ∀ place, item.place? = some place →
      ∀ incoming, snapshot[item.external]? = some incoming →
        place.content (mapping.toEntity snapshot) = place.stored incoming) ∧
    mapping.diff (mapping.toEntity snapshot) snapshot = {} := by
  have hstored : ∀ place, ∀ incoming ∈ mapping.offered snapshot place,
      place.content (mapping.toEntity snapshot) = place.stored incoming := by
    intro place incoming hincoming
    exact content_toEntity_of_sole hincoming fun other hother => eq_of_mem_offered h hincoming hother
  refine ⟨forall_offered_iff.mp hstored, ?_⟩
  rw [diff_eq_empty_iff_holds]
  exact fun place incoming hincoming => Place.holds_of_content (hstored place incoming hincoming)

/-- A name and an address that are no text, no telephone numbers, and attributes that are only written. -/
def opaqueSnapshot : Attributes :=
  (∅ : Attributes) |>.insert "login" [.octets [255]] |>.insert "secret" [] |>.insert "mail" [.octets [254], .text "a"]
    |>.insert "phone" [] |>.insert "mobile" [.text "2"] |>.insert "full" [.text "Anna"]

theorem badge_diff_toEntity :
    badge.places.Nodup ∧ (badge.toEntity opaqueSnapshot).name = "/w==" ∧
      (badge.toEntity opaqueSnapshot).plain["phone"]? = some [] ∧
      badge.diff (badge.toEntity opaqueSnapshot) opaqueSnapshot = {} := by
  have hplaces : badge.places.Nodup := by decide +kernel
  exact ⟨hplaces, by decide +kernel, by decide +kernel, (diff_toEntity hplaces opaqueSnapshot).2⟩

/-! ## Contradictions -/

/-- Two lists of incoming values do not contradict each other about a place.  An attribute can only hold one multiset of
bytes; of a name or a password the text of the first value counts, and no value says nothing. -/
def Place.Compatible (incoming other : List Value) : Place → Prop
  | name | password =>
    ∀ text, firstText? incoming = some text → ∀ text', firstText? other = some text' → text = text'
  | plain _ | virtual _ => (incoming.map Value.toBytes).Perm (other.map Value.toBytes)

/-- A snapshot does not contradict itself about any place. -/
def Coherent (mapping : Mapping) (snapshot : Attributes) : Prop :=
  ∀ place, ∀ incoming ∈ mapping.offered snapshot place, ∀ other ∈ mapping.offered snapshot place,
    place.Compatible incoming other

theorem Place.Holds.compatible (h : place.Holds entity incoming) (h' : place.Holds entity other) :
    place.Compatible incoming other := by
  cases place with
  | name =>
    intro text htext text' htext'
    exact (h text htext).symm.trans (h' text' htext')
  | password =>
    intro text htext text' htext'
    exact Option.some.inj ((h text htext).symm.trans (h' text' htext'))
  | plain internal => exact h.symm.trans h'
  | virtual internal => exact h.symm.trans h'

/-- Only a snapshot that does not contradict itself can imply no change. -/
theorem coherent_of_diff_eq_empty (h : mapping.diff entity snapshot = {}) : mapping.Coherent snapshot := by
  rw [diff_eq_empty_iff_holds] at h
  intro place incoming hincoming other hother
  exact (h place incoming hincoming).compatible (h place other hother)

/-! ## One round -/

/-- A text that is taken over from values that do not contradict each other is the text of each of them. -/
theorem lastText_eq {offers : List (List Value)} {text : String} (current : Option String)
    (hcompatible : ∀ other ∈ offers, Place.name.Compatible incoming other) (hincoming : incoming ∈ offers)
    (htext : firstText? incoming = some text) :
    (offers.filterMap (newText? current)).getLast?.or current = some text := by
  cases hlast : (offers.filterMap (newText? current)).getLast? with
  | none => exact newText?_eq_none_iff.mp (lastWrite_eq_none_iff.mp hlast incoming hincoming) text htext
  | some text' =>
    obtain ⟨other, hother, hnew⟩ := mem_of_lastWrite hlast
    have hsame : text = text' := hcompatible other hother text htext text' (newText?_eq_some_iff.mp hnew).1
    rw [hsame, Option.some_or]

/-- An attribute for which only values that do not contradict each other are offered takes the bytes of each of them. -/
theorem Noted.perm_apply_diff {family : Patch → FamilyChanges} {internal : String} {attributes : Attributes}
    (h : Noted family place internal entity (attributes[internal]?.getD []))
    (hcompatible : ∀ other ∈ mapping.offered snapshot place, (Place.plain internal).Compatible incoming other)
    (hincoming : incoming ∈ mapping.offered snapshot place) :
    ((((family (mapping.diff entity snapshot)).apply attributes)[internal]?.getD []).map Value.toBytes).Perm
      (incoming.map Value.toBytes) := by
  rw [h.getElem?_apply_diff]
  split
  case isTrue hremoved => exact (hcompatible [] hremoved.1).symm
  case isFalse hkept =>
    generalize hlast : ((mapping.offered snapshot place).filterMap _).getLast? = last
    cases last with
    | some values =>
      obtain ⟨other, hother, hnew⟩ := mem_of_lastWrite hlast
      obtain ⟨rfl, -, -⟩ := newValues?_eq_some_iff.mp hnew
      exact (hcompatible values hother).symm
    | none =>
      rw [Option.none_or]
      -- Nothing new: these are the values that the attribute has, or there are none and none have come.
      rcases newValues?_eq_none_iff.mp (lastWrite_eq_none_iff.mp hlast incoming hincoming) with hsame | rfl
      · exact sameValues_iff_perm.mp hsame
      · have hexisting : attributes[internal]?.getD [] = [] := by simpa [hincoming] using hkept
        rw [hexisting]

/-- After one round an entity holds all that a snapshot says that does not contradict itself. -/
theorem holds_apply_diff (h : mapping.Coherent snapshot) (entity : Entity)
    (hincoming : incoming ∈ mapping.offered snapshot place) :
    place.Holds ((mapping.diff entity snapshot).apply entity) incoming := by
  have hcompatible := h place incoming hincoming
  cases place with
  | name =>
    intro text htext
    have hlast := lastText_eq (some entity.name) hcompatible hincoming htext
    rw [← name_diff_offered, Option.or_some] at hlast
    exact Option.some.inj hlast
  | password =>
    intro text htext
    have hlast := lastText_eq entity.password hcompatible hincoming htext
    rw [← password_diff_offered] at hlast
    simpa only [Patch.apply, Option.orElse_eq_orElse, Option.orElse_eq_or] using hlast
  | plain internal => exact (noted_plain entity internal).perm_apply_diff hcompatible hincoming
  | virtual internal => exact (noted_virtuals entity internal).perm_apply_diff hcompatible hincoming

/-! ## Rounds -/

/-- The entity after some rounds, each of which applies the diff against the same snapshot. -/
def replay (mapping : Mapping) (snapshot : Attributes) : Nat → Entity → Entity
  | 0, entity => entity
  | rounds + 1, entity => replay mapping snapshot rounds ((mapping.diff entity snapshot).apply entity)

theorem replay_succ (mapping : Mapping) (snapshot : Attributes) (rounds : Nat) (entity : Entity) :
    let before := mapping.replay snapshot rounds entity
    mapping.replay snapshot (rounds + 1) entity = (mapping.diff before snapshot).apply before := by
  induction rounds generalizing entity with
  | zero => rfl
  | succ rounds ih => exact ih ((mapping.diff entity snapshot).apply entity)

/-- A replay settles if and only if the snapshot does not contradict itself, and if it does, it settles in the first
round. -/
theorem replay_settles (mapping : Mapping) (entity : Entity) (snapshot : Attributes) :
    ((∃ rounds, mapping.diff (mapping.replay snapshot rounds entity) snapshot = {}) ↔ mapping.Coherent snapshot) ∧
      ∀ rounds, mapping.diff (mapping.replay snapshot (rounds + 1) entity) snapshot = {} ↔
        mapping.Coherent snapshot := by
  have hround : ∀ rounds, mapping.diff (mapping.replay snapshot (rounds + 1) entity) snapshot = {} ↔
      mapping.Coherent snapshot := by
    refine fun rounds => ⟨coherent_of_diff_eq_empty, fun hcoherent => ?_⟩
    rw [replay_succ, diff_eq_empty_iff_holds]
    exact fun place incoming hincoming => holds_apply_diff hcoherent _ hincoming
  refine ⟨⟨?_, fun hcoherent => ⟨1, (hround 0).mpr hcoherent⟩⟩, hround⟩
  rintro ⟨rounds, hsettled⟩
  exact coherent_of_diff_eq_empty hsettled

/-- A mapping that takes the name from two attributes. -/
def twoNames : Mapping :=
  ofItems "directory" "account"
    [{ external := "login", internal := "login", target := .plain, accountId := true },
     { external := "cn", target := .username },
     { external := "uid", target := .username }]

/-- Two names that contradict each other. -/
def twoNamesSnapshot : Attributes :=
  (∅ : Attributes) |>.insert "login" [.text "a1"] |>.insert "cn" [.text "ann"] |>.insert "uid" [.text "bea"]

/-- The entity takes the one name and the other in turn for ever. -/
theorem twoNames_never_settles :
    ¬ ∃ rounds, twoNames.diff (twoNames.replay twoNamesSnapshot rounds visitor) twoNamesSnapshot = {} := by
  rintro ⟨rounds, hsettled⟩
  have hann : [Value.text "ann"] ∈ twoNames.offered twoNamesSnapshot .name := by decide +kernel
  have hbea : [Value.text "bea"] ∈ twoNames.offered twoNamesSnapshot .name := by decide +kernel
  have hsame : "ann" = "bea" := coherent_of_diff_eq_empty hsettled .name _ hann _ hbea "ann" rfl "bea" rfl
  exact absurd hsame (by decide)

/-- The same name as a text and as bytes. -/
def oneNameSnapshot : Attributes := twoNamesSnapshot.insert "uid" [.octets [97, 110, 110], .text "bea"]

theorem twoNames_settles :
    twoNames.Coherent oneNameSnapshot ∧
      ∀ rounds, twoNames.diff (twoNames.replay oneNameSnapshot (rounds + 1) visitor) oneNameSnapshot = {} := by
  have hsettles := replay_settles twoNames visitor oneNameSnapshot
  have hcoherent : twoNames.Coherent oneNameSnapshot := hsettles.1.mp ⟨1, by decide +kernel⟩
  exact ⟨hcoherent, fun rounds => (hsettles.2 rounds).mpr hcoherent⟩

end Provisioning.Mapping
