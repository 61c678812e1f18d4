import Provisioning.Text.Blank
import Provisioning.Text.Unprintable
set_option autoImplicit false

/-!
# Quoted text

How names and paths appear in diagnostic texts: between double quotes, with a backslash before what would end the
quotation, letters for the usual control characters, and the code point in hexadecimal for every other character
without an appearance of its own.
-/

namespace Provisioning.Text.Quoted

/-- The hexadecimal digits of a number, without leading zeros. -/
def hexDigits (n : Nat) : List Char := Nat.toDigits 16 n

/-- One character as it stands inside a quotation. -/
def encodeChar (c : Char) : List Char :=
  if c = '\x00' then ['\\', '0']
  else if c = '\t' then ['\\', 't']
  else if c = '\r' then ['\\', 'r']
  else if c = '\n' then ['\\', 'n']
  else if c = '\\' ∨ c = '"' then ['\\', c]
  else if inRanges unprintableRanges c.toNat then '\\' :: 'u' :: '\x7b' :: hexDigits c.toNat ++ ['\x7d']
  else [c]

/-- A text between double quotes. -/
def encode (s : String) : String := String.ofList ('"' :: s.toList.flatMap encodeChar ++ ['"'])

end Provisioning.Text.Quoted
