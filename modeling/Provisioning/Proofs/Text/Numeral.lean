import Provisioning.Text.Numeral
set_option autoImplicit false

/-!
# Reading back what a numeral was written for

The tokens of a log are its positions written in decimal.  Reading such a numeral gives the number back, as long
as it is a word.  In a text, numbers are told apart by what stands between them: the sequences of digits in it are the
numbers that were written there.
-/

namespace Provisioning.Text

theorem digitValue?_of_isDigit {c : Char} (h : c.isDigit = true) :
    digitValue? c = some (c.toNat - '0'.toNat) := by
  have hrange := Char.isDigit_iff_toNat.mp h
  have hlow : '0' ≤ c := hrange.1
  have hhigh : c ≤ '9' := hrange.2
  simp [digitValue?, hlow, hhigh]

theorem readDigits_eq_ofDigitChars (acc : Nat) (cs : List Char) (h : ∀ c ∈ cs, c.isDigit = true) :
    readDigits acc cs = some (Nat.ofDigitChars 10 cs acc) := by
  induction cs generalizing acc with
  | nil => simp [readDigits]
  | cons c rest ih =>
    have hrest := ih (acc * 10 + (c.toNat - '0'.toNat)) fun d hd => h d (List.mem_cons_of_mem _ hd)
    rw [readDigits, digitValue?_of_isDigit (h c List.mem_cons_self), Option.bind_some, hrest,
      Nat.ofDigitChars_cons, Nat.mul_comm]

theorem digits?_toDigits (n : Nat) : digits? (Nat.toDigits 10 n) = some n := by
  have hdigits : ∀ c ∈ Nat.toDigits 10 n, c.isDigit = true := fun c hc =>
    Nat.isDigit_of_mem_toDigits (by decide) (by decide) hc
  cases hn : Nat.toDigits 10 n with
  | nil => exact absurd hn Nat.toDigits_ne_nil
  | cons c rest =>
    rw [digits?, ← hn, readDigits_eq_ofDigitChars 0 _ hdigits, Nat.ofDigitChars_ten_toDigits]

theorem natural?_toString (n : Nat) : natural? (toString n) = some n := by
  have hsign : ∀ rest, Nat.toDigits 10 n ≠ '+' :: rest := by
    intro rest h
    have hplus : '+' ∈ Nat.toDigits 10 n := h ▸ List.mem_cons_self
    exact absurd (Nat.isDigit_of_mem_toDigits (by decide) (by decide) hplus) (by decide)
  unfold natural?
  rw [Nat.toString_eq_repr, Nat.toList_repr]
  split
  · rename_i rest h
    exact absurd h (hsign rest)
  · exact digits?_toDigits n

/-- A numeral that is read as a word is read as the number for which it was written. -/
theorem eq_of_word?_toString {n m : Nat} (h : word? (toString n) = some m) : m = n := by
  rw [word?, natural?_toString, Option.filter_eq_some_iff] at h
  exact (Option.some.inj h.1).symm

/-! ## Numbers in a text -/

/-- The numbers that stand in a text: every unbroken sequence of digits is one. -/
def numerals (cs : List Char) : List Nat := (cs.splitOnP fun c => !c.isDigit).filterMap digits?

/-- What is no digit ends a number. -/
theorem numerals_append_cons {c : Char} (hc : c.isDigit = false) (cs rest : List Char) :
    numerals (cs ++ c :: rest) = numerals cs ++ numerals rest := by
  rw [numerals, List.splitOnP_append_cons _ _ (by simp [hc]), List.filterMap_append]
  rfl

/-- Where no digit stands, there is no number. -/
theorem numerals_append_of_plain {plain : List Char} (h : plain.any Char.isDigit = false) (rest : List Char) :
    numerals (plain ++ rest) = numerals rest := by
  induction plain with
  | nil => rfl
  | cons c plain ih =>
    obtain ⟨hc, hplain⟩ := Bool.or_eq_false_iff.mp h
    exact (numerals_append_cons hc [] (plain ++ rest)).trans (ih hplain)

theorem numerals_toDigits (n : Nat) : numerals (Nat.toDigits 10 n) = [n] := by
  have hdigits : ∀ c ∈ Nat.toDigits 10 n, (!c.isDigit) = false := fun c hc => by
    rw [Nat.isDigit_of_mem_toDigits (by decide) (by decide) hc, Bool.not_true]
  rw [numerals, List.splitOnP_eq_singleton hdigits, List.filterMap_cons_some (digits?_toDigits n), List.filterMap_nil]

/-- A number that is written before other text stands there. -/
theorem numerals_toDigits_append {plain : List Char} (n : Nat) (hne : plain ≠ [])
    (h : plain.any Char.isDigit = false) (rest : List Char) :
    numerals (Nat.toDigits 10 n ++ (plain ++ rest)) = n :: numerals rest := by
  obtain ⟨c, plain, rfl⟩ := List.exists_cons_of_ne_nil hne
  obtain ⟨hc, hplain⟩ := Bool.or_eq_false_iff.mp h
  rw [List.cons_append, numerals_append_cons hc, numerals_toDigits, numerals_append_of_plain hplain,
    List.singleton_append]

end Provisioning.Text
