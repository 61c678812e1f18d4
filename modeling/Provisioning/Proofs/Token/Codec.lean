import Mathlib.Algebra.Group.Nat.Defs
import Provisioning.Token.Codec
set_option autoImplicit false

/-!
# Reading token files

For every part of the format the reader is given by the writer: it accepts bytes exactly if they start with what is
written for some content that fits the format, and it hands the bytes behind that back untouched.  So a table is read
back from its file whatever follows it, and what is written for one table never starts with what is written for
another list of entries.
-/

namespace Provisioning.TokenFile

/-! ## Numbers -/

@[simp] theorem length_littleEndian (width n : Nat) : (littleEndian width n).length = width := by
  induction width generalizing n with
  | zero => rfl
  | succ width ih => rw [littleEndian, List.length_cons, ih]

/-- A number is read back as far as the width holds it. -/
theorem littleEndianValue_littleEndian (width n : Nat) :
    littleEndianValue (littleEndian width n) = n % 256 ^ width := by
  induction width generalizing n with
  | zero => rw [littleEndian, littleEndianValue, Nat.pow_zero, Nat.mod_one]
  | succ width ih =>
    have hbyte : (UInt8.ofNat (n % 256)).toNat = n % 256 := by
      rw [UInt8.toNat_ofNat']
      omega
    rw [littleEndian, littleEndianValue, ih, hbyte, Nat.pow_succ', Nat.mod_mul]

/-- Every sequence of bytes is written for the number that it stands for. -/
theorem littleEndian_littleEndianValue (bytes : List UInt8) :
    littleEndian bytes.length (littleEndianValue bytes) = bytes := by
  induction bytes with
  | nil => rfl
  | cons b rest ih =>
    have hbyte : b.toNat < 256 := b.toNat_lt
    have hlow : (b.toNat + 256 * littleEndianValue rest) % 256 = b.toNat := by omega
    have hhigh : (b.toNat + 256 * littleEndianValue rest) / 256 = littleEndianValue rest := by omega
    rw [List.length_cons, littleEndianValue, littleEndian, hlow, hhigh, ih, UInt8.ofNat_toNat]

theorem littleEndianValue_lt (bytes : List UInt8) : littleEndianValue bytes < 256 ^ bytes.length := by
  induction bytes with
  | nil => decide
  | cons b rest ih =>
    have hbyte : b.toNat < 256 := b.toNat_lt
    rw [littleEndianValue, List.length_cons, Nat.pow_succ']
    omega

/-! ## What is taken off the front -/

variable {bytes rest : List UInt8}

theorem takeBytes?_eq_some_iff {n : Nat} {front : List UInt8} :
    takeBytes? n bytes = some (front, rest) ↔ bytes = front ++ rest ∧ front.length = n := by
  unfold takeBytes?
  constructor
  · intro h
    split at h
    · cases h
      exact ⟨(List.take_append_drop n bytes).symm, by rw [List.length_take]; omega⟩
    · cases h
  · rintro ⟨rfl, rfl⟩
    rw [if_pos (by rw [List.length_append]; omega), List.take_left, List.drop_left]

/-- A number is read off the front exactly if it is written there and eight bytes hold it. -/
theorem decodeWord?_eq_some_iff {n : Nat} :
    decodeWord? bytes = some (n, rest) ↔ bytes = encodeWord n ++ rest ∧ n < 2 ^ 64 := by
  simp only [decodeWord?, Option.map_eq_some_iff, Prod.exists, Prod.mk.injEq, takeBytes?_eq_some_iff]
  constructor
  · rintro ⟨word, _, ⟨rfl, hlength⟩, rfl, rfl⟩
    refine ⟨?_, ?_⟩
    · rw [encodeWord, ← hlength, littleEndian_littleEndianValue]
    · have hlt := littleEndianValue_lt word
      rw [hlength] at hlt
      omega
  · rintro ⟨rfl, hlt⟩
    refine ⟨encodeWord n, rest, ⟨rfl, length_littleEndian 8 n⟩, ?_, rfl⟩
    rw [encodeWord, littleEndianValue_littleEndian]
    omega

/-- The length of the text fits the format: eight bytes hold it. -/
def FitsText (s : String) : Prop := (Text.utf8 s).length < 2 ^ 64

instance (s : String) : Decidable (FitsText s) := inferInstanceAs (Decidable (_ < _))

/-- A text is read off the front exactly if it is written there. -/
theorem decodeText?_eq_some_iff {s : String} :
    decodeText? bytes = some (s, rest) ↔ bytes = encodeText s ++ rest ∧ FitsText s := by
  simp only [decodeText?, Option.bind_eq_bind, Option.bind_eq_some_iff, Prod.exists, decodeWord?_eq_some_iff,
    takeBytes?_eq_some_iff, Option.pure_def, Option.some.injEq, Prod.mk.injEq]
  constructor
  · rintro ⟨length, _, ⟨rfl, hlength⟩, content, _, ⟨rfl, rfl⟩, text, htext, rfl, rfl⟩
    have hcontent := Text.utf8_of_ofUtf8? htext
    rw [encodeText, FitsText, hcontent, List.append_assoc]
    exact ⟨rfl, hlength⟩
  · rintro ⟨rfl, hfits⟩
    rw [encodeText, List.append_assoc]
    exact ⟨_, _, ⟨rfl, hfits⟩, _, _, ⟨rfl, rfl⟩, s, Text.ofUtf8?_utf8 s, rfl, rfl⟩

/-! ## Entries -/

/-- Write one entry. -/
def encodeEntry (entry : String × SyncToken) : List UInt8 := encodeText entry.1 ++ encodeText entry.2

/-- The texts of the entry fit the format. -/
def FitsEntry (entry : String × SyncToken) : Prop := FitsText entry.1 ∧ FitsText entry.2

instance (entry : String × SyncToken) : Decidable (FitsEntry entry) := inferInstanceAs (Decidable (_ ∧ _))

theorem encodeEntries_cons (entry : String × SyncToken) (entries : List (String × SyncToken)) :
    encodeEntries (entry :: entries) = encodeEntry entry ++ encodeEntries entries := List.flatMap_cons

theorem decodePair?_eq_some_iff {entry : String × SyncToken} :
    decodePair? bytes = some (entry, rest) ↔ bytes = encodeEntry entry ++ rest ∧ FitsEntry entry := by
  obtain ⟨task, token⟩ := entry
  simp only [decodePair?, Option.bind_eq_bind, Option.bind_eq_some_iff, Prod.exists, decodeText?_eq_some_iff,
    Option.pure_def, Option.some.injEq, Prod.mk.injEq]
  constructor
  · rintro ⟨_, _, ⟨rfl, htask⟩, _, _, ⟨rfl, htoken⟩, ⟨rfl, rfl⟩, rfl⟩
    exact ⟨(List.append_assoc ..).symm, htask, htoken⟩
  · rintro ⟨rfl, htask, htoken⟩
    rw [encodeEntry, List.append_assoc]
    exact ⟨_, _, ⟨rfl, htask⟩, _, _, ⟨rfl, htoken⟩, ⟨rfl, rfl⟩, rfl⟩

/-- Entries are read exactly if they are written at the front, as many as asked for. -/
theorem decodeEntries?_eq_some_iff {count : Nat} {entries : List (String × SyncToken)} :
    decodeEntries? count bytes = some entries ↔
      entries.length = count ∧ (∀ entry ∈ entries, FitsEntry entry) ∧ encodeEntries entries <+: bytes := by
  induction count generalizing bytes entries with
  | zero =>
    rw [decodeEntries?, Option.some.injEq, List.length_eq_zero_iff]
    constructor
    · rintro rfl
      exact ⟨rfl, fun _ hmem => (List.not_mem_nil hmem).elim, List.nil_prefix⟩
    · exact fun h => h.1.symm
  | succ count ih =>
    simp only [decodeEntries?, Option.bind_eq_bind, Option.bind_eq_some_iff, Prod.exists, decodePair?_eq_some_iff, ih,
      Option.pure_def, Option.some.injEq]
    constructor
    · rintro ⟨task, token, _, ⟨rfl, hentry⟩, others, ⟨hlength, hothers, hstarts⟩, rfl⟩
      refine ⟨?_, List.forall_mem_cons.mpr ⟨hentry, hothers⟩, ?_⟩
      · rw [List.length_cons, hlength]
      · rw [encodeEntries_cons]
        exact (List.prefix_append_right_inj _).mpr hstarts
    · rintro ⟨hlength, hfits, hstarts⟩
      cases entries with
      | nil => cases hlength
      | cons entry others =>
        obtain ⟨hentry, hothers⟩ := List.forall_mem_cons.mp hfits
        obtain ⟨tail, rfl⟩ := hstarts
        rw [encodeEntries_cons, List.append_assoc]
        refine ⟨entry.1, entry.2, _, ⟨rfl, hentry⟩, others, ⟨?_, hothers, List.prefix_append _ _⟩, rfl⟩
        exact Nat.succ.inj hlength

/-! ## Tables -/

/-- Write a list of entries, in whatever order. -/
def encodeList (entries : List (String × SyncToken)) : List UInt8 :=
  encodeWord entries.length ++ encodeEntries entries

/-- The entries fit the format: eight bytes hold their number and the lengths of their texts.  Whatever has a place in
an address space of 64 bits does. -/
structure Fits (entries : List (String × SyncToken)) : Prop where
  count : entries.length < 2 ^ 64
  texts : ∀ entry ∈ entries, FitsEntry entry

instance (entries : List (String × SyncToken)) : Decidable (Fits entries) :=
  decidable_of_iff (entries.length < 2 ^ 64 ∧ ∀ entry ∈ entries, FitsEntry entry)
    ⟨fun ⟨hcount, htexts⟩ => ⟨hcount, htexts⟩, fun h => ⟨h.count, h.texts⟩⟩

/-- A table is read exactly from bytes that start with what is written for a list of entries; of several entries for
one task the last counts. -/
theorem decode?_eq_some_iff {table : TokenTable} :
    decode? bytes = some table ↔
      ∃ entries, Fits entries ∧ encodeList entries <+: bytes ∧ Std.ExtTreeMap.ofList entries = table := by
  simp only [decode?, Option.bind_eq_bind, Option.bind_eq_some_iff, Prod.exists, decodeWord?_eq_some_iff,
    decodeEntries?_eq_some_iff, Option.pure_def, Option.some.injEq]
  constructor
  · rintro ⟨_, _, ⟨rfl, hcount⟩, entries, ⟨rfl, htexts, hstarts⟩, rfl⟩
    exact ⟨entries, ⟨hcount, htexts⟩, (List.prefix_append_right_inj _).mpr hstarts, rfl⟩
  · rintro ⟨entries, hfits, ⟨tail, rfl⟩, rfl⟩
    rw [encodeList, List.append_assoc]
    exact ⟨_, _, ⟨rfl, hfits.count⟩, entries, ⟨rfl, hfits.texts, List.prefix_append _ _⟩, rfl⟩

/-- What is written for a list of entries starts with what is written for no other list. -/
theorem encodeList_prefixFree {entries entries' : List (String × SyncToken)} (h : Fits entries)
    (h' : Fits entries') (hstarts : encodeList entries' <+: encodeList entries) : entries' = entries := by
  obtain ⟨tail, htail⟩ := hstarts
  rw [encodeList, encodeList, List.append_assoc] at htail
  -- Both lists announce the same number of entries, and what they announce is read in one way only.
  have hread : decodeWord? (encodeWord entries.length ++ encodeEntries entries) =
      some (entries.length, encodeEntries entries) := decodeWord?_eq_some_iff.mpr ⟨rfl, h.count⟩
  have hread' : decodeWord? (encodeWord entries.length ++ encodeEntries entries) =
      some (entries'.length, encodeEntries entries' ++ tail) :=
    decodeWord?_eq_some_iff.mpr ⟨htail.symm, h'.count⟩
  obtain ⟨hcount, hentries⟩ := Prod.mk.inj (Option.some.inj (hread'.symm.trans hread))
  have hown : decodeEntries? entries.length (encodeEntries entries) = some entries :=
    decodeEntries?_eq_some_iff.mpr ⟨rfl, h.texts, List.prefix_rfl⟩
  have hother : decodeEntries? entries.length (encodeEntries entries) = some entries' :=
    decodeEntries?_eq_some_iff.mpr ⟨hcount, h'.texts, hentries ▸ List.prefix_append _ _⟩
  exact Option.some.inj (hother.symm.trans hown)

theorem ofList_toList (table : TokenTable) : Std.ExtTreeMap.ofList table.toList = table := by
  apply Std.ExtTreeMap.ext_getElem?
  intro task
  cases htoken : table[task]? with
  | some token =>
    refine Std.ExtTreeMap.getElem?_ofList_of_mem Std.ReflCmp.compare_self
      Std.ExtTreeMap.distinct_keys_toList ?_
    exact Std.ExtTreeMap.mem_toList_iff_getElem?_eq_some.mpr htoken
  | none =>
    apply Std.ExtTreeMap.getElem?_ofList_of_contains_eq_false
    rw [Std.ExtTreeMap.map_fst_toList_eq_keys, List.contains_eq_mem, decide_eq_false_iff_not,
      Std.ExtTreeMap.mem_keys]
    exact (getElem?_eq_none_iff table task).mp htoken

/-- A table is read back from its file, whatever follows it there. -/
theorem decode?_encode_append {table : TokenTable} (h : Fits table.toList) (trailing : List UInt8) :
    decode? (encode table ++ trailing) = some table :=
  decode?_eq_some_iff.mpr ⟨table.toList, h, List.prefix_append _ _, ofList_toList table⟩

/-- A file that was cut short is read as no table at all. -/
theorem decode?_truncated {table : TokenTable} (h : Fits table.toList) (hstarts : bytes <+: encode table)
    (hcut : bytes ≠ encode table) : decode? bytes = none := by
  rw [Option.eq_none_iff_forall_ne_some]
  intro other hread
  obtain ⟨entries, hfits, hentries, -⟩ := decode?_eq_some_iff.mp hread
  have hsame : entries = table.toList := encodeList_prefixFree h hfits (hentries.trans hstarts)
  subst hsame
  exact hcut (hstarts.eq_of_length_le hentries.length_le)

end Provisioning.TokenFile
