set_option autoImplicit false

/-!
# Padded base64

The text form of values that are no text: three bytes become four characters of the standard alphabet, and the
last group is filled up with `=`.
-/

namespace Provisioning.Text.Base64

/-- The sixty-four digits, in order of their value. -/
def alphabet : List Char :=
  "ABCDEFGHIJKLMNOPQRSTUVWXYZabcdefghijklmnopqrstuvwxyz0123456789+/".toList

/-- The digit of a six-bit value. -/
def digit (n : Nat) : Char := alphabet.getD n '='

/-- The characters of a byte sequence, three bytes at a time. -/
def encodeChars : List UInt8 → List Char
  | [] => []
  | [a] =>
    let n := a.toNat * 16
    [digit (n / 64), digit (n % 64), '=', '=']
  | [a, b] =>
    let n := (a.toNat * 256 + b.toNat) * 4
    [digit (n / 4096), digit (n / 64 % 64), digit (n % 64), '=']
  | a :: b :: c :: rest =>
    let n := (a.toNat * 256 + b.toNat) * 256 + c.toNat
    digit (n / 262144) :: digit (n / 4096 % 64) :: digit (n / 64 % 64) :: digit (n % 64) :: encodeChars rest

/-- The base64 text of a byte sequence. -/
def encode (bytes : List UInt8) : String := String.ofList (encodeChars bytes)

end Provisioning.Text.Base64
