import Provisioning.Correlation
import Provisioning.Mapping.WriteSet
import Provisioning.Proofs.Mapping.Acceptance
import Provisioning.Proofs.Memory.Entities
set_option autoImplicit false

/-!
# Correlation and account ids

A delta is correlated to the entities of which some account-id value is its identifier, byte by byte.  Propagation
addresses an entity under the text of its first account-id value, and bytes that are no text are encoded for that.  The
two part company where a later value is the identifier, and where the identifier is an encoding.
-/

namespace Provisioning

open Memory

/-! ## Identifiers among values -/

namespace Value

theorem alike_text_iff {value : Value} {text : String} : value.Alike (.text text) ↔ value.asText? = some text := by
  rw [asText?_eq_ofUtf8?]
  constructor
  · intro h
    rw [show value.toBytes = Text.utf8 text from h, Text.ofUtf8?_utf8]
  · intro h
    exact (Text.utf8_of_ofUtf8? h).symm

theorem toText_eq_iff {value : Value} {text : String} :
    value.toText = text ↔ value.asText? = some text ∨ value.asText? = none ∧ value.display = text := by
  unfold toText
  cases value.asText? <;> simp

end Value

/-- The identifier is found among the values, but the first of them stands for another one. -/
def Mistaken (uid : Uid) : List Value → Prop
  | [] => False
  | first :: rest => first.toText ≠ uid ∧ ∃ value ∈ rest, value.asText? = some uid

/-- The first of the values stands for the identifier, but only by its encoding, and no other value is the identifier
itself. -/
def Overlooked (uid : Uid) : List Value → Prop
  | [] => False
  | first :: rest => first.asText? = none ∧ first.display = uid ∧ ∀ value ∈ rest, value.asText? ≠ some uid

theorem mistaken_iff {uid : Uid} {values : List Value} :
    (∃ value ∈ values, value.asText? = some uid) ∧ firstText? values ≠ some uid ↔ Mistaken uid values := by
  cases values with
  | nil => simp [Mistaken]
  | cons first rest =>
    simp only [Mistaken, firstText?, List.head?_cons, Option.map_some, ne_eq, Option.some.injEq, List.mem_cons,
      exists_eq_or_imp]
    constructor
    · rintro ⟨hfirst | hlater, hother⟩
      · exact absurd (Value.toText_eq_iff.mpr (.inl hfirst)) hother
      · exact ⟨hother, hlater⟩
    · rintro ⟨hother, hlater⟩
      exact ⟨.inr hlater, hother⟩

theorem overlooked_iff {uid : Uid} {values : List Value} :
    (¬ ∃ value ∈ values, value.asText? = some uid) ∧ firstText? values = some uid ↔ Overlooked uid values := by
  cases values with
  | nil => simp [Overlooked, firstText?]
  | cons first rest =>
    simp only [Overlooked, firstText?, List.head?_cons, Option.map_some, Option.some.injEq, Value.toText_eq_iff,
      List.mem_cons, exists_eq_or_imp, not_or, not_exists, not_and]
    constructor
    · rintro ⟨⟨hfirst, hlater⟩, hequal | ⟨hraw, hdisplay⟩⟩
      · exact absurd hequal hfirst
      · exact ⟨hraw, hdisplay, hlater⟩
    · rintro ⟨hraw, hdisplay, hlater⟩
      refine ⟨⟨fun hequal => ?_, hlater⟩, .inr ⟨hraw, hdisplay⟩⟩
      cases hraw.symm.trans hequal

namespace Mapping

variable {mapping : Mapping} {delta : Delta} {entity : Entity}

/-- What is looked for is that the identifier of the delta is among the account-id values. -/
theorem fulfils_accountCondition_iff :
    Entities.fulfils entity (mapping.accountCondition delta) = true ↔
      ∃ value ∈ mapping.accountId.values entity, value.asText? = some delta.correlationUid := by
  have hany : ∀ values : List Value, values.any (Value.text delta.correlationUid).alike = true ↔
      ∃ value ∈ values, value.asText? = some delta.correlationUid := by
    intro values
    simp only [List.any_eq_true, Value.alike_iff, ← Value.alike_text_iff]
    exact exists_congr fun value => and_congr_right fun _ => ⟨Value.Alike.symm, Value.Alike.symm⟩
  obtain ⟨hvirtual, hpassword⟩ := mapping.accountId_direct
  cases htarget : mapping.accountId.target with
  | username =>
    simp only [Entities.fulfils, accountCondition, htarget, Item.values, Value.asText?, beq_iff_eq, List.mem_singleton,
      exists_eq_left, Option.some.injEq]
    exact eq_comm
  | password => exact absurd htarget hpassword
  | virtual => exact absurd htarget hvirtual
  | plain =>
    simp only [Entities.fulfils, accountCondition, htarget, Attributes.holds, Item.values]
    exact hany _
  | derived =>
    simp only [Entities.fulfils, accountCondition, htarget, Attributes.holds, Item.values]
    exact hany _

end Mapping

/-- A delta is correlated to the entities of the mapped type among whose account-id values its identifier is, each once
and in ascending order.  An entity that is addressed under another identifier is among them if that identifier comes
before in its values, and one that is addressed under this identifier is left out if it is addressed so by an encoding;
otherwise these are the entities that are addressed under the identifier of the delta. -/
theorem Correlation.byAccountId_spec {entities : Entities} (hkeyed : entities.Keyed) (mapping : Mapping)
    (delta : Delta) :
    let uid := delta.correlationUid
    ∃ ids, Correlation.byAccountId Entities.repository delta mapping entities = (.ok ids, entities) ∧
      ids.Pairwise (· < ·) ∧
      (∀ id ∈ ids, (entities.get? mapping.subjectType id).isSome) ∧
      ∀ id entity, entities.get? mapping.subjectType id = some entity →
        let values := mapping.accountId.values entity
        (id ∈ ids ↔ ∃ value ∈ values, value.asText? = some uid) ∧
          (id ∈ ids ∧ mapping.accountIdOf? entity ≠ some uid ↔ Mistaken uid values) ∧
          (id ∉ ids ∧ mapping.accountIdOf? entity = some uid ↔ Overlooked uid values) ∧
          ((∀ value ∈ values, value.asText? = mapping.accountIdOf? entity) →
            (id ∈ ids ↔ mapping.accountIdOf? entity = some uid)) := by
  intro uid
  let ids := entities.search mapping.subjectType (mapping.accountCondition delta)
  refine ⟨ids, rfl, hkeyed.search_ascending _ _, fun id hid => ?_, fun id entity hget => ?_⟩
  · obtain ⟨entity, hget, -⟩ := hkeyed.mem_search.mp hid
    exact hget ▸ rfl
  · intro values
    have hmem : id ∈ ids ↔ ∃ value ∈ values, value.asText? = some uid := by
      rw [← Mapping.fulfils_accountCondition_iff]
      refine hkeyed.mem_search.trans ⟨?_, fun hfulfils => ⟨entity, hget, hfulfils⟩⟩
      rintro ⟨found, hfound, hfulfils⟩
      cases hfound.symm.trans hget
      exact hfulfils
    refine ⟨hmem, ?_, ?_, fun hsame => ?_⟩
    · rw [hmem]
      exact mistaken_iff
    · rw [hmem]
      exact overlooked_iff
    · rw [hmem]
      constructor
      · rintro ⟨value, hvalue, htext⟩
        exact (hsame value hvalue).symm.trans htext
      · intro huid
        obtain ⟨first, hfirst, -⟩ := Option.map_eq_some_iff.mp (huid : firstText? values = some uid)
        have hin : first ∈ values := List.mem_of_mem_head? hfirst
        exact ⟨first, hin, (hsame first hin).trans huid⟩

/-! ## Confused account ids -/

namespace Memory.Entities

/-- The mapping of users by their logins. -/
def loginMapping : Mapping :=
  Mapping.ofItems "directory" "account"
    [{ external := "uid", internal := "login", target := .plain, accountId := true }]

/-- A user of two logins. -/
def ann : Entity := { id := 1, name := "ann", plain := Attributes.ofPairs [("login", [.text "a", .text "b"])] }

/-- A user whose login is no text. -/
def bea : Entity := { id := 2, name := "bea", plain := Attributes.ofPairs [("login", [.octets [255, 0, 16]])] }

def customers : Entities := ((Entities.insert {} ann).2.insert bea).2

theorem customers_keyed : customers.Keyed := (keyed_empty.insert _).insert _

/-- The delta of the account of an identifier. -/
def accountDelta (uid : Uid) : Delta := { uid, objectClass := "account" }

/-- The first user is found under a login that the account does not bear, and the second one is not found under the
login that the account bears. -/
theorem customers_correlated :
    (∃ ids, Correlation.byAccountId repository (accountDelta "b") loginMapping customers = (.ok ids, customers) ∧
      1 ∈ ids ∧ loginMapping.accountIdOf? ann ≠ some "b") ∧
      ∃ ids, Correlation.byAccountId repository (accountDelta "/wAQ") loginMapping customers = (.ok ids, customers) ∧
        2 ∉ ids ∧ loginMapping.accountIdOf? bea = some "/wAQ" := by
  obtain ⟨ids, hids, -, -, hspec⟩ := Correlation.byAccountId_spec customers_keyed loginMapping (accountDelta "b")
  obtain ⟨ids', hids', -, -, hspec'⟩ := Correlation.byAccountId_spec customers_keyed loginMapping (accountDelta "/wAQ")
  obtain ⟨-, hmistaken, -⟩ := hspec 1 ann (by decide +kernel)
  obtain ⟨-, -, hoverlooked, -⟩ := hspec' 2 bea (by decide +kernel)
  have hann : loginMapping.accountId.values ann = [.text "a", .text "b"] := by decide +kernel
  have hbea : loginMapping.accountId.values bea = [.octets [255, 0, 16]] := by decide +kernel
  rw [hann] at hmistaken
  rw [hbea] at hoverlooked
  refine ⟨⟨ids, hids, hmistaken.mpr ⟨by decide, .text "b", by decide, rfl⟩⟩, ids', hids', hoverlooked.mpr ⟨?_, ?_, ?_⟩⟩
  · decide +kernel
  · decide +kernel
  · exact fun _ hmem => nomatch hmem

/-- The user is addressed as `a` but correlated to the account `b`; the other one is addressed as `/wAQ`, but the
account of that name is correlated to nobody. -/
theorem account_ids_confused :
    (Correlation.byAccountId repository (accountDelta "b") loginMapping customers).1 = .ok [1] ∧
      customers.get? .user 1 = some ann ∧ loginMapping.accountIdOf? ann = some "a" ∧
      (Correlation.byAccountId repository (accountDelta "/wAQ") loginMapping customers).1 = .ok [] ∧
      customers.get? .user 2 = some bea ∧ loginMapping.accountIdOf? bea = some "/wAQ" := by
  have hlater : customers.search .user (loginMapping.accountCondition (accountDelta "b")) = [1] := by decide +kernel
  have hencoded : customers.search .user (loginMapping.accountCondition (accountDelta "/wAQ")) = [] := by
    decide +kernel
  refine ⟨congrArg Except.ok hlater, ?_, ?_, congrArg Except.ok hencoded, ?_, ?_⟩ <;> decide +kernel

end Memory.Entities

end Provisioning
