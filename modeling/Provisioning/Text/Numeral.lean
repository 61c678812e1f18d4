set_option autoImplicit false

/-!
# Decimal numerals

Whole numbers as they stand in sync tokens, settings and environment variables: an optional sign and at least
one of the ten ASCII digits, nothing else, and a value inside the stated range.
-/

namespace Provisioning.Text

/-- The value of an ASCII digit. -/
def digitValue? (c : Char) : Option Nat :=
  if '0' ≤ c ∧ c ≤ '9' then some (c.toNat - '0'.toNat) else none

/-- Read the digits from the most significant on; `acc` is the value of the digits already read. -/
def readDigits (acc : Nat) : List Char → Option Nat
  | [] => some acc
  | c :: rest => (digitValue? c).bind fun d => readDigits (acc * 10 + d) rest

/-- A non-empty sequence of digits. -/
def digits? : List Char → Option Nat
  | [] => none
  | cs@(_ :: _) => readDigits 0 cs

/-- A whole number without a minus sign; a plus sign may stand in front. -/
def natural? (s : String) : Option Nat :=
  match s.toList with
  | '+' :: rest => digits? rest
  | cs => digits? cs

/-- Ids, positions and sizes are words of 64 bits: they stay below this bound. -/
def wordBound : Nat := 18446744073709551616

/-- Signed words of 64 bits stay below this bound and not below its opposite. -/
def signedBound : Nat := 9223372036854775808

/-- A whole number below `wordBound`. -/
def word? (s : String) : Option Nat := (natural? s).filter (· < wordBound)

end Provisioning.Text
