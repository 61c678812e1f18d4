import Provisioning.Document.Basic
import Provisioning.Text.Numeral
set_option autoImplicit false

/-!
# Reading JSON

A strict reader: nothing may follow the value, texts hold no bare control characters and no half of a surrogate
pair, and values are nested at most 127 deep.  Of several entries with one key the last counts.  A numeral without
fraction and exponent that fits into 64 bits is an integer, any other a floating-point number; one that is too
large for either is refused.
-/

namespace Provisioning.Document.Json

/-- What is read, and the characters after it. -/
abbrev Reader (α : Type) : Type := List Char → Option (α × List Char)

/-- Drop blanks and line breaks. -/
def skipBlank : List Char → List Char := List.dropWhile fun c => c == ' ' || c == '\n' || c == '\t' || c == '\r'

/-! ## Texts -/

/-- The value of a hexadecimal digit. -/
def hexValue? (c : Char) : Option Nat :=
  if '0' ≤ c ∧ c ≤ '9' then some (c.toNat - '0'.toNat)
  else if 'a' ≤ c ∧ c ≤ 'f' then some (c.toNat - 'a'.toNat + 10)
  else if 'A' ≤ c ∧ c ≤ 'F' then some (c.toNat - 'A'.toNat + 10)
  else none

/-- The value of four hexadecimal digits. -/
def hex4? (a b c d : Char) : Option Nat := do
  pure ((((← hexValue? a) * 16 + (← hexValue? b)) * 16 + (← hexValue? c)) * 16 + (← hexValue? d))

/-- The character of a single code unit. -/
def unit? (n : Nat) : Option Char := if 0xD800 ≤ n ∧ n ≤ 0xDFFF then none else some (Char.ofNat n)

/-- The character of a surrogate pair. -/
def pair? (high low : Nat) : Option Char :=
  if 0xD800 ≤ high ∧ high ≤ 0xDBFF ∧ 0xDC00 ≤ low ∧ low ≤ 0xDFFF then
    some (Char.ofNat (0x10000 + (high - 0xD800) * 0x400 + (low - 0xDC00)))
  else none

/-- The character that a letter after a backslash stands for. -/
def escape? : Char → Option Char
  | '"' => some '"'
  | '\\' => some '\\'
  | '/' => some '/'
  | 'b' => some '\x08'
  | 'f' => some '\x0c'
  | 'n' => some '\n'
  | 'r' => some '\r'
  | 't' => some '\t'
  | _ => none

/-- Whether a code unit is the first half of a surrogate pair. -/
def isHigh (n : Nat) : Bool := 0xD800 ≤ n && n ≤ 0xDBFF

/-- Read the rest of a text after the opening quote; `read` holds what came before, in reverse. -/
def textRest (read : List Char) : Reader String
  | '"' :: rest => some (String.ofList read.reverse, rest)
  | '\\' :: 'u' :: a :: b :: c :: d :: rest =>
    match hex4? a b c d with
    | none => none
    | some high =>
      if isHigh high then
        match rest with
        | '\\' :: 'u' :: e :: f :: g :: h :: rest' =>
          match (hex4? e f g h).bind (pair? high) with
          | some ch => textRest (ch :: read) rest'
          | none => none
        | _ => none
      else
        match unit? high with
        | some ch => textRest (ch :: read) rest
        | none => none
  | '\\' :: c :: rest =>
    match escape? c with
    | some ch => textRest (ch :: read) rest
    | none => none
  | c :: rest => if c.toNat < 0x20 ∨ c = '\\' then none else textRest (c :: read) rest
  | [] => none

/-! ## Numerals -/

/-- The parts of a numeral: the digits before the point, those after it, and the exponent. -/
structure Numeral where
  negative : Bool
  whole : List Char
  fraction : Option (List Char)
  exponent : Option (Bool × List Char)

/-- Split the leading digits off. -/
def digitRun (cs : List Char) : List Char × List Char := cs.span Char.isDigit

/-- Read the digits before the point: a single zero, or digits that do not start with one. -/
def wholePart : Reader (List Char) := fun cs =>
  match digitRun cs with
  | ([], _) => none
  | ('0' :: _ :: _, _) => none
  | (digits, rest) => some (digits, rest)

/-- Read a point and the digits after it, if there is one. -/
def fractionPart : Reader (Option (List Char))
  | '.' :: rest =>
    match digitRun rest with
    | ([], _) => none
    | (digits, rest') => some (some digits, rest')
  | cs => some (none, cs)

/-- Read the digits of an exponent. -/
def exponentDigits (negative : Bool) : Reader (Option (Bool × List Char)) := fun cs =>
  match digitRun cs with
  | ([], _) => none
  | (digits, rest) => some (some (negative, digits), rest)

/-- Read an exponent, if there is one. -/
def exponentPart : Reader (Option (Bool × List Char))
  | c :: rest =>
    if c = 'e' ∨ c = 'E' then
      match rest with
      | '+' :: rest' => exponentDigits false rest'
      | '-' :: rest' => exponentDigits true rest'
      | _ => exponentDigits false rest
    else some (none, c :: rest)
  | [] => some (none, [])

/-- Read the parts of a numeral. -/
def numeral : Reader Numeral := fun cs => do
  let (negative, cs) := match cs with
    | '-' :: rest => (true, rest)
    | _ => (false, cs)
  let (whole, cs) ← wholePart cs
  let (fraction, cs) ← fractionPart cs
  let (exponent, cs) ← exponentPart cs
  pure ({ negative, whole, fraction, exponent }, cs)

/-- Take digits up into a number of 64 bits as long as they fit; returns it and how many were left over. -/
def accumulate (acc : Nat) : List Char → Nat × Nat
  | [] => (acc, 0)
  | c :: rest =>
    let next := acc * 10 + (c.toNat - '0'.toNat)
    if next < Text.wordBound then accumulate next rest else (acc, rest.length + 1)

/-- The floating-point value of a numeral. -/
def Numeral.toFloat? (numeral : Numeral) : Option Float :=
  let (whole, dropped) := accumulate 0 numeral.whole
  let fraction := numeral.fraction.getD []
  let (significand, unread) := accumulate whole fraction
  let point : Int := (dropped : Int) - ((fraction.length - unread : Nat) : Int)
  let magnitude : Option Float :=
    match numeral.exponent with
    | none => scale? (Float.ofNat significand) point
    | some (negative, digits) =>
      let exponent := (Text.readDigits 0 digits).getD 0
      if exponent < 2147483648 then
        scale? (Float.ofNat significand) (if negative then point - exponent else point + exponent)
      else if significand ≠ 0 ∧ !negative then none
      else some 0
  magnitude.map fun x => if numeral.negative then -x else x

/-- The value of a numeral. -/
def Numeral.toDocument? (numeral : Numeral) : Option Document :=
  let n := (Text.readDigits 0 numeral.whole).getD 0
  if numeral.fraction.isNone && numeral.exponent.isNone && n < Text.wordBound
      && (!numeral.negative || (0 < n && n ≤ Text.signedBound)) then
    some (.integer (if numeral.negative then -(n : Int) else n))
  else numeral.toFloat?.map .float

/-! ## Values -/

mutual

/-- Read a value; `depth` is how deep it may be nested, `fuel` bounds the number of steps. -/
def value : (fuel depth : Nat) → Reader Document
  | 0, _, _ => none
  | fuel + 1, depth, cs =>
    match skipBlank cs with
    | 'n' :: 'u' :: 'l' :: 'l' :: rest => some (.null, rest)
    | 't' :: 'r' :: 'u' :: 'e' :: rest => some (.bool true, rest)
    | 'f' :: 'a' :: 'l' :: 's' :: 'e' :: rest => some (.bool false, rest)
    | '"' :: rest => (textRest [] rest).map fun (s, rest') => (.text s, rest')
    | '[' :: rest =>
      match depth with
      | 0 => none
      | depth + 1 =>
        match skipBlank rest with
        | ']' :: rest' => some (.list [], rest')
        | rest' => (items fuel depth [] rest').map fun (documents, rest'') => (.list documents, rest'')
    | '\x7b' :: rest =>
      match depth with
      | 0 => none
      | depth + 1 =>
        match skipBlank rest with
        | '\x7d' :: rest' => some (.table [], rest')
        | rest' => (entries fuel depth [] rest').map fun (found, rest'') => (.table found, rest'')
    | cs' => do
      let (numeral, rest) ← numeral cs'
      let document ← numeral.toDocument?
      pure (document, rest)

/-- Read the items of a list up to its end; `read` holds those before, in reverse. -/
def items : (fuel depth : Nat) → (read : List Document) → Reader (List Document)
  | 0, _, _, _ => none
  | fuel + 1, depth, read, cs =>
    match value fuel depth cs with
    | none => none
    | some (document, rest) =>
      match skipBlank rest with
      | ',' :: rest' => items fuel depth (document :: read) rest'
      | ']' :: rest' => some ((document :: read).reverse, rest')
      | _ => none

/-- Read the entries of a table up to its end; `read` holds those before. -/
def entries : (fuel depth : Nat) → (read : List (String × Document)) → Reader (List (String × Document))
  | 0, _, _, _ => none
  | fuel + 1, depth, read, cs =>
    match skipBlank cs with
    | '"' :: rest =>
      match textRest [] rest with
      | none => none
      | some (key, rest') =>
        match skipBlank rest' with
        | ':' :: rest'' =>
          match value fuel depth rest'' with
          | none => none
          | some (document, rest3) =>
            match skipBlank rest3 with
            | ',' :: rest4 => entries fuel depth (putEntry key document read) rest4
            | '\x7d' :: rest4 => some (putEntry key document read, rest4)
            | _ => none
        | _ => none
    | _ => none

end

/-- Read a document. -/
def parse? (s : String) : Option Document :=
  let cs := s.toList
  match value (2 * cs.length + 2) 127 cs with
  | some (document, rest) => if (skipBlank rest).isEmpty then some document else none
  | none => none

end Provisioning.Document.Json
