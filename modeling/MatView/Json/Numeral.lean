import MatView.Decimal.Binary

/-!
# Numbers of JSON documents

A number is kept as it is written until its reader asks for an integer or for a floating-point
number.

An integer is written without point and exponent, and `-0` is no integer. Any other number is a
floating-point number that is computed in three roundings: the leading digits that fit into 64
bits make the significand; it is rounded, the power of ten that belongs to it is rounded, and so is
their product or quotient. Numbers beyond the greatest finite one are refused.

## Main definitions

* `Numeral`: a number as written.
* `Numeral.toInt?`, `Numeral.toDouble?`: its two readings.
* `readNumeral`: the number at the start of a text.
-/

namespace MatView.Json

/-- A number as written: sign, digits in front of the point, digits behind it, and the sign and
digits of the exponent. -/
structure Numeral where
  negative : Bool
  whole : List Char
  fraction : List Char
  exponent : Option (Bool × List Char)
  deriving DecidableEq

/-- The number that a string of digits stands for. -/
def digitsValue (ds : List Char) : Nat :=
  Nat.ofDigitChars 10 ds 0

/-- Appends digits to `n` while it stays below `2 ^ 64`; returns the digits left over as well. -/
def absorb (n : Nat) : List Char → Nat × List Char
  | [] => (n, [])
  | c :: cs =>
    let next := 10 * n + digitsValue [c]
    if next < UInt64.size then absorb next cs else (n, c :: cs)

namespace Numeral

/-- The integer that the numeral is written as. -/
def toInt? (n : Numeral) : Option Int :=
  let value := digitsValue n.whole
  if n.fraction.isEmpty && n.exponent.isNone && !(n.negative && value == 0) then
    some (if n.negative then -value else value)
  else none

/-- The 64-bit integer that the numeral is written as. -/
def toInt64? (n : Numeral) : Option Int64 :=
  n.toInt?.bind fun i =>
    if Int64.minValue.toInt ≤ i ∧ i ≤ Int64.maxValue.toInt then some (.ofInt i) else none

/-- The written exponent. -/
def exponentValue (n : Numeral) : Int :=
  match n.exponent with
  | none => 0
  | some (negative, ds) => if negative then -(digitsValue ds : Int) else digitsValue ds

end Numeral

/-! ## Floating-point numbers -/

/-- The number `f * 10 ^ e`, unless it is too great. Two divisions by `10 ^ 308` leave nothing of
a significand below `2 ^ 64`. -/
def scaleByTen (f : Binary64) (e : Int) : Option Binary64 :=
  if f == Binary64.zero then some f
  else if 308 < e then none
  else if 0 ≤ e then
    let product := f.mul (Binary64.powerOfTen e.toNat)
    if product.isInfinite then none else some product
  else if -308 ≤ e then some (f.div (Binary64.powerOfTen (-e).toNat))
  else if -616 ≤ e then
    some ((f.div (Binary64.powerOfTen 308)).div (Binary64.powerOfTen (-e - 308).toNat))
  else some Binary64.zero

namespace Numeral

/-- The floating-point number that the numeral stands for, unless it is too great. -/
def toDouble? (n : Numeral) : Option Binary64 :=
  let (leading, dropped) := absorb 0 n.whole
  let (significand, cut) := absorb leading n.fraction
  let shift : Int := dropped.length - (n.fraction.length - cut.length)
  (scaleByTen (Binary64.ofNat significand) (shift + n.exponentValue)).map fun x =>
    if n.negative then x.negate else x

end Numeral

/-! ## Reading numbers -/

/-- The digits at the start of a text, and the rest. -/
def takeDigits (cs : List Char) : List Char × List Char :=
  (cs.takeWhile Char.isDigit, cs.dropWhile Char.isDigit)

/-- The point and the digits behind it, if a point is next. -/
def readFraction : List Char → Option (List Char × List Char)
  | '.' :: cs =>
    let (ds, rest) := takeDigits cs
    if ds.isEmpty then none else some (ds, rest)
  | cs => some ([], cs)

/-- The sign in front of an exponent. -/
def readSign : List Char → Bool × List Char
  | '-' :: cs => (true, cs)
  | '+' :: cs => (false, cs)
  | cs => (false, cs)

/-- The exponent, if one is next. -/
def readExponent : List Char → Option (Option (Bool × List Char) × List Char)
  | c :: cs =>
    if c == 'e' || c == 'E' then
      let (negative, cs) := readSign cs
      let (ds, rest) := takeDigits cs
      if ds.isEmpty then none else some (some (negative, ds), rest)
    else some (none, c :: cs)
  | [] => some (none, [])

/-- The sign and the digits in front of the point. A leading zero stands alone. -/
def readWhole (cs : List Char) : Option (List Char × List Char) :=
  let (ds, rest) := takeDigits cs
  match ds with
  | [] => none
  | '0' :: _ :: _ => none
  | _ => some (ds, rest)

/-- The number without a sign at the start of a text. -/
def readMagnitude (negative : Bool) (cs : List Char) : Option (Numeral × List Char) := do
  let (whole, cs) ← readWhole cs
  let (fraction, cs) ← readFraction cs
  let (exponent, cs) ← readExponent cs
  return (⟨negative, whole, fraction, exponent⟩, cs)

/-- The number at the start of a text. -/
def readNumeral : List Char → Option (Numeral × List Char)
  | '-' :: cs => readMagnitude true cs
  | cs => readMagnitude false cs

end MatView.Json
