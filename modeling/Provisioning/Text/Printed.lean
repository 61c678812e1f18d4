set_option autoImplicit false

/-!
# Printed text

Text of any origin is printed on a terminal without its control sequences: the characters that start one, move the
cursor or ring the bell appear as their numbers.  Everything else stays, line breaks and tabs among it.
-/

namespace Provisioning.Text.Printed

/-- The characters below U+0080 that are printed by number: bell, backspace, form feed, escape and delete. -/
def controls : List Char := ['\x07', '\x08', '\x0c', '\x1b', '\x7f']

/-- A number below 256 as two hexadecimal digits. -/
def hexPair (n : Nat) : List Char := [Nat.digitChar (n / 16), Nat.digitChar (n % 16)]

/-- One character as it is printed. -/
def encodeChar (c : Char) : List Char :=
  if controls.contains c then '\\' :: 'x' :: hexPair c.toNat
  else if 0x80 ≤ c.toNat ∧ c.toNat ≤ 0x9F then '\\' :: 'u' :: '\x7b' :: hexPair c.toNat ++ ['\x7d']
  else [c]

/-- A text as it is printed. -/
def encode (s : String) : String := String.ofList (s.toList.flatMap encodeChar)

end Provisioning.Text.Printed
