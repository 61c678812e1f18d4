import Provisioning.Mapping.Item
import Provisioning.Proofs.Entity.Patch
set_option autoImplicit false

/-!
# What an item takes over

An item agrees with an entity about incoming values when it finds them there.  Storing the values brings that about,
and so does the change that is noted for them; nothing is noted only if the two agree already.  An item that writes
to another place is not concerned.
-/

namespace Provisioning

namespace Mapping

namespace Item

/-- The item finds the incoming values in the entity.  The order of values does not matter; of a name or a
password only the first text counts, and none says nothing. -/
def Agrees (item : Item) (entity : Entity) (incoming : List Value) : Prop :=
  match item.target with
  | .username | .password => ∀ text, firstText? incoming = some text → item.values entity = [.text text]
  | .plain | .virtual => sameValues (item.values entity) incoming = true
  | .derived => True

/-- The items write to different places. -/
def Distinct (item other : Item) : Prop := item.target = other.target → item.internalName ≠ other.internalName

theorem Distinct.symm {item other : Item} (h : item.Distinct other) : other.Distinct item :=
  fun htarget hname => h htarget.symm hname.symm

/-- The two sets of changes do the same to an attribute. -/
def SameChanges (name : String) (changes changes' : FamilyChanges) : Prop :=
  changes'.upserts[name]? = changes.upserts[name]? ∧ (name ∈ changes'.removals ↔ name ∈ changes.removals)

/-- The two patches do the same to the place to which the item writes. -/
def SameFor (item : Item) (patch patch' : Patch) : Prop :=
  match item.target with
  | .username => patch'.name = patch.name
  | .password => patch'.password = patch.password
  | .plain => SameChanges item.internal patch.plain patch'.plain
  | .virtual => SameChanges item.internal patch.virtuals patch'.virtuals
  | .derived => True

/-- The patch does nothing to the place to which the item writes. -/
def Untouched (item : Item) (patch : Patch) : Prop := item.SameFor {} patch

variable {item other : Item} {entity : Entity} {incoming : List Value} {patch : Patch}

theorem Agrees.congr {entity' : Entity} (h : item.Agrees entity incoming)
    (hvalues : item.values entity' = item.values entity) : item.Agrees entity' incoming := by
  unfold Agrees at h ⊢
  rw [hvalues]
  exact h

/-- What is stored is found again. -/
theorem agrees_store : item.Agrees (item.store incoming entity) incoming := by
  unfold Agrees
  cases htarget : item.target with
  | username =>
    intro text htext
    simp only [values, store, htarget, htext, Option.getD_some]
  | password =>
    intro text htext
    simp only [values, store, htarget, htext, Option.map_some, Option.toList_some]
  | plain | virtual =>
    simp only [values, store, htarget, Std.ExtTreeMap.getElem?_insert_self, Option.getD_some, sameValues_refl]
  | derived => trivial

/-- Storing for one item leaves the place of another one alone. -/
theorem values_store (h : item.Distinct other) : other.values (item.store incoming entity) = other.values entity := by
  unfold Distinct internalName at h
  cases htarget : item.target <;> cases hother : other.target <;>
    simp_all [values, store, Std.ExtTreeMap.getElem?_insert]

/-! ## Changes to a family -/

variable {changes : FamilyChanges} {attributes : Attributes} {existing : List Value} {name : String}

theorem sameChanges_noteValues (h : item.internal ≠ name) :
    SameChanges name changes (item.noteValues existing incoming changes) := by
  unfold noteValues SameChanges
  split
  · exact ⟨rfl, Iff.rfl⟩
  · split
    · simp [Std.ExtTreeSet.mem_insert, h]
    · simp [Std.ExtTreeMap.getElem?_insert, h]

/-- The noted change gives the attribute the incoming values. -/
theorem sameValues_noteValues (hupsert : changes.upserts[item.internal]? = none)
    (hremoval : item.internal ∉ changes.removals) :
    let noted := item.noteValues (attributes[item.internal]?.getD []) incoming changes
    sameValues ((noted.apply attributes)[item.internal]?.getD []) incoming = true := by
  dsimp only
  unfold noteValues
  split
  · rename_i hsame
    rw [FamilyChanges.getElem?_apply, if_neg hremoval, hupsert, Option.none_or]
    exact hsame
  · split
    · rename_i hempty
      rw [FamilyChanges.getElem?_apply, if_pos (by simp), List.isEmpty_iff.mp hempty]
      rfl
    · rw [FamilyChanges.getElem?_apply, if_neg hremoval, Std.ExtTreeMap.getElem?_insert_self, Option.some_or,
        Option.getD_some, sameValues_refl]

/-- Nothing is noted only of values that are the same. -/
theorem noteValues_eq_empty_iff :
    item.noteValues existing incoming changes = {} ↔ changes = {} ∧ sameValues existing incoming = true := by
  by_cases hsame : sameValues existing incoming = true
  · simp [noteValues, hsame]
  · have hnoted : item.noteValues existing incoming changes ≠ {} := by
      intro hempty
      simp only [noteValues, if_neg hsame] at hempty
      split at hempty
      · have hremovals : changes.removals.insert item.internal = ∅ := congrArg FamilyChanges.removals hempty
        have hmem : item.internal ∈ changes.removals.insert item.internal := Std.ExtTreeSet.mem_insert_self
        rw [hremovals] at hmem
        exact absurd hmem Std.ExtTreeSet.not_mem_empty
      · have hupserts : changes.upserts.insert item.internal incoming = ∅ := congrArg FamilyChanges.upserts hempty
        have hlookup : (changes.upserts.insert item.internal incoming)[item.internal]? = some incoming :=
          Std.ExtTreeMap.getElem?_insert_self
        rw [hupserts, Std.ExtTreeMap.getElem?_empty] at hlookup
        cases hlookup
    simp [hsame, hnoted]

theorem SameChanges.getElem?_apply {changes' : FamilyChanges} (h : SameChanges name changes changes') :
    (changes'.apply attributes)[name]? = (changes.apply attributes)[name]? := by
  simp only [FamilyChanges.getElem?_apply, h.1, h.2]

/-! ## Noting changes in a patch -/

variable {current : Entity}

/-- Noting what one item changes leaves the place of another one alone. -/
theorem sameFor_note (h : item.Distinct other) : other.SameFor patch (item.note current incoming patch) := by
  unfold Distinct internalName at h
  cases htarget : item.target with
  | username =>
    obtain ⟨name, heq⟩ : ∃ name, item.note current incoming patch = { patch with name } := by
      simp only [note, htarget]
      split
      · split
        · exact ⟨patch.name, rfl⟩
        · exact ⟨_, rfl⟩
      · exact ⟨patch.name, rfl⟩
    rw [heq]
    cases hother : other.target <;> simp_all [SameFor, SameChanges]
  | password =>
    obtain ⟨password, heq⟩ : ∃ password, item.note current incoming patch = { patch with password } := by
      simp only [note, htarget]
      split
      · split
        · exact ⟨patch.password, rfl⟩
        · exact ⟨_, rfl⟩
      · exact ⟨patch.password, rfl⟩
    rw [heq]
    cases hother : other.target <;> simp_all [SameFor, SameChanges]
  | plain =>
    simp only [note, htarget]
    cases hother : other.target with
    | plain =>
      simp only [htarget, hother] at h
      simpa only [SameFor, hother] using sameChanges_noteValues (h trivial)
    | _ => simp [SameFor, hother, SameChanges]
  | virtual =>
    simp only [note, htarget]
    cases hother : other.target with
    | virtual =>
      simp only [htarget, hother] at h
      simpa only [SameFor, hother] using sameChanges_noteValues (h trivial)
    | _ => simp [SameFor, hother, SameChanges]
  | derived =>
    simp only [note, htarget]
    cases hother : other.target <;> simp [SameFor, hother, SameChanges]

theorem SameFor.values_apply {patch' : Patch} (h : item.SameFor patch patch') :
    item.values (patch'.apply entity) = item.values (patch.apply entity) := by
  unfold SameFor at h
  cases htarget : item.target with
  | username | password =>
    simp only [htarget] at h
    simp only [values, htarget, Patch.apply, h]
  | plain | virtual =>
    simp only [htarget] at h
    simp only [values, htarget, Patch.apply, h.getElem?_apply]
  | derived =>
    simp only [values, htarget, Patch.apply]

theorem untouched_empty (item : Item) : item.Untouched {} := by
  unfold Untouched SameFor
  split
  · rfl
  · rfl
  · exact ⟨rfl, Iff.rfl⟩
  · exact ⟨rfl, Iff.rfl⟩
  · trivial

theorem Untouched.note (h : item.Distinct other) (huntouched : other.Untouched patch) :
    other.Untouched (item.note current incoming patch) := by
  have hsame := @sameFor_note item other incoming patch current h
  unfold Untouched SameFor SameChanges at *
  cases htarget : other.target <;> simp_all

/-- What is noted makes the entity agree with the incoming values. -/
theorem agrees_note (h : item.Untouched patch) :
    item.Agrees ((item.note current incoming patch).apply current) incoming := by
  unfold Untouched SameFor at h
  unfold Agrees
  cases htarget : item.target with
  | username =>
    intro text htext
    simp only [htarget] at h
    simp only [note, values, htarget, htext]
    split <;> simp_all [Patch.apply]
  | password =>
    intro text htext
    simp only [htarget] at h
    simp only [note, values, htarget, htext]
    split
    · rename_i hcurrent
      simp [Patch.apply, h, ← hcurrent]
    · simp [Patch.apply]
  | plain =>
    simp only [htarget, SameChanges] at h
    simp only [note, values, htarget, Patch.apply]
    exact sameValues_noteValues (by simpa using h.1) (by simpa using h.2)
  | virtual =>
    simp only [htarget, SameChanges] at h
    simp only [note, values, htarget, Patch.apply]
    exact sameValues_noteValues (by simpa using h.1) (by simpa using h.2)
  | derived => trivial

/-- Nothing is noted only of values with which the entity agrees. -/
theorem note_eq_empty_iff :
    item.note current incoming patch = {} ↔ patch = {} ∧ item.Agrees current incoming := by
  unfold Agrees
  cases htarget : item.target with
  | username =>
    simp only [note, values, htarget]
    cases htext : firstText? incoming with
    | none => simp
    | some text =>
      dsimp only
      split
      · simp_all
      · rename_i hne
        simp [Patch.mk.injEq, Ne.symm hne]
  | password =>
    simp only [note, values, htarget]
    cases htext : firstText? incoming with
    | none => simp
    | some text =>
      dsimp only
      split
      · rename_i hsame
        simp [← hsame]
      · rename_i hne
        cases hpassword : current.password with
        | none => simp [Patch.mk.injEq]
        | some password =>
          have hne' : password ≠ text := fun heq => hne (by rw [hpassword, heq])
          simp [Patch.mk.injEq, hne']
  | plain =>
    simp only [note, htarget]
    rw [Patch.mk.injEq, noteValues_eq_empty_iff]
    constructor
    · rintro ⟨hname, hpassword, ⟨hplain, hsame⟩, hrest⟩
      exact ⟨Patch.mk.injEq .. ▸ ⟨hname, hpassword, hplain, hrest⟩, hsame⟩
    · rintro ⟨rfl, hsame⟩
      exact ⟨rfl, rfl, ⟨rfl, hsame⟩, rfl, rfl, rfl⟩
  | virtual =>
    simp only [note, htarget]
    rw [Patch.mk.injEq, noteValues_eq_empty_iff]
    constructor
    · rintro ⟨hname, hpassword, hplain, ⟨hvirtuals, hsame⟩, hrest⟩
      exact ⟨Patch.mk.injEq .. ▸ ⟨hname, hpassword, hplain, hvirtuals, hrest⟩, hsame⟩
    · rintro ⟨rfl, hsame⟩
      exact ⟨rfl, rfl, rfl, ⟨rfl, hsame⟩, rfl, rfl⟩
  | derived => simp [note, htarget]

end Item

end Mapping

end Provisioning
