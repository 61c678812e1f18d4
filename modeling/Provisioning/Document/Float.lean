set_option autoImplicit false

/-!
# Floating-point numerals

Reading: the digits of a numeral make up a whole number, as far as it fits into 64 bits, which is then scaled by a
power of ten.  Writing: the fewest digits that read back as the same number, of those the nearest to it, with the
decimal point at its place and no exponent.
-/

namespace Provisioning.Document

/-- Scale a number by a power of ten; `none` if the result is too large.  Powers beyond the largest finite one are
divided out in several steps. -/
def scale? (x : Float) (exponent : Int) : Option Float :=
  let power (n : Nat) : Float := Float.ofScientific 1 false n
  if 0 ≤ exponent then
    if exponent ≤ 308 then
      let y := x * power exponent.toNat
      if y.isInf then none else some y
    else if x == 0 then some x
    else none
  else
    let n := (-exponent).toNat
    if n ≤ 308 then some (x / power n)
    else if n ≤ 616 then some (x / power 308 / power (n - 308))
    else some (x / power 308 / power 308 / power 308)

/-- A positive finite number `m · 2 ^ q` together with the multiples of `2 ^ (q - 2)` that bound the numbers read
as it; the bounds themselves belong to it iff `closed`. -/
structure Binary where
  m : Nat
  q : Int
  low : Nat
  high : Nat
  closed : Bool

/-- Take a positive finite number apart. -/
def Binary.ofFloat (x : Float) : Binary :=
  let bits := x.toBits.toNat
  let fraction : Nat := bits % Nat.pow 2 52
  let biased : Nat := bits / Nat.pow 2 52 % Nat.pow 2 11
  let m := if biased = 0 then fraction else fraction + Nat.pow 2 52
  let q : Int := Int.ofNat (max biased 1) - 1075
  let isPower := fraction = 0 ∧ 1 < biased
  { m, q, low := if isPower then 4 * m - 1 else 4 * m - 2, high := 4 * m + 2, closed := m % 2 == 0 }

/-- Numerator and denominator of `n · 2 ^ (q - 2) / 10 ^ k`. -/
def Binary.ratio (n : Nat) (q k : Int) : Nat × Nat :=
  (n * Nat.pow 2 (q - 2).toNat * Nat.pow 10 (-k).toNat, Nat.pow 2 (2 - q).toNat * Nat.pow 10 k.toNat)

/-- The multiple of `10 ^ k` that reads as the number and is nearest to it, if there is one: its digits.  Of two that
are equally near it is the greater one. -/
def Binary.onGrid? (b : Binary) (k : Int) : Option Nat :=
  let (value, unit) := Binary.ratio (4 * b.m) b.q k
  let (low, _) := Binary.ratio b.low b.q k
  let (high, _) := Binary.ratio b.high b.q k
  let inside (d : Nat) : Bool :=
    let p := d * unit
    if b.closed then low ≤ p && p ≤ high else low < p && p < high
  let below := value / unit
  match inside below && below != 0, inside (below + 1) with
  | true, true => some (if 2 * (value - below * unit) < unit then below else below + 1)
  | true, false => some below
  | false, true => some (below + 1)
  | false, false => none

/-- The coarsest decimal grid on which the number can be written, tried from `10 ^ start` downwards. -/
def Binary.shortest (b : Binary) : (tries : Nat) → (start : Int) → Nat × Int
  | 0, _ => (0, 0)
  | tries + 1, k =>
    match b.onGrid? k with
    | some digits => (digits, k)
    | none => b.shortest tries (k - 1)

/-- Digits with the decimal point `k` places from the right. -/
def positional (digits : Nat) (k : Int) : String :=
  if 0 ≤ k then toString (digits * Nat.pow 10 k.toNat)
  else
    let places := (-k).toNat
    let fraction := toString (digits % Nat.pow 10 places)
    toString (digits / Nat.pow 10 places) ++ "."
      ++ String.ofList (List.replicate (places - fraction.length) '0') ++ fraction

/-- The text of a number. -/
def floatText (x : Float) : String :=
  if x.isNaN then "NaN"
  else
    let sign := if x.toBits.toNat / Nat.pow 2 63 = 1 then "-" else ""
    if x.isInf then sign ++ "inf"
    else if x == 0 then sign ++ "0"
    else
      let (digits, k) := (Binary.ofFloat x.abs).shortest 700 310
      sign ++ positional digits k

end Provisioning.Document
