import MatView.Decimal.Shortest

/-!
# Written forms of decimals

A floating-point number is written positionally (`0.001`, `12.5`) while its exponent is small, and
in scientific notation (`1e+16`) otherwise. Where the border lies depends on the format of the
number; whether a positive exponent has a sign is a choice.

## Main definitions

* `Decimal.Layout`: the choices of a written form.
* `Decimal.write`: the text of a decimal.
* `Decimal.Layout.writeFinite`: the text of a finite number.
-/

namespace MatView.Decimal

/-- The written form of the numbers of a format. -/
structure Layout where
  format : Binary.Format
  /-- The least exponent that is written positionally. -/
  least : Int
  /-- The greatest exponent that is written positionally. -/
  greatest : Int
  /-- Whether a positive exponent has a sign. -/
  plus : Bool
  deriving DecidableEq

namespace Layout

/-- Numbers of 32 bits are written positionally from `0.000001` on and below `10 ^ 13`. -/
def single (plus : Bool) : Layout := ⟨Binary.binary32, -6, 12, plus⟩

/-- Numbers of 64 bits are written positionally from `0.00001` on and below `10 ^ 16`. -/
def double (plus : Bool) : Layout := ⟨Binary.binary64, -5, 15, plus⟩

end Layout

/-- The digits in front of the point and behind it, where the point stands `n` digits from the
left. -/
def splitPoint (digits : List Char) (n : Nat) : List Char × List Char :=
  (digits.take n ++ List.replicate (n - digits.length) '0',
    if digits.length ≤ n then ['0'] else digits.drop n)

/-- The text of a decimal with a point and no exponent. -/
def writePositional (d : Decimal) : List Char :=
  if 0 ≤ d.exponent then
    let (front, back) := splitPoint d.digits (d.exponent.toNat + 1)
    front ++ '.' :: back
  else
    '0' :: '.' :: List.replicate ((-d.exponent).toNat - 1) '0' ++ d.digits

/-- The text of a decimal with an exponent. -/
def writeScientific (layout : Layout) (d : Decimal) : List Char :=
  let mantissa :=
    match d.digits with
    | [] => ['0']
    | [c] => [c]
    | c :: rest => c :: '.' :: rest
  let sign := if d.exponent < 0 then ['-'] else if layout.plus then ['+'] else []
  mantissa ++ 'e' :: sign ++ Nat.toDigits 10 d.exponent.natAbs

/-- The text of a decimal. -/
def write (layout : Layout) (d : Decimal) : List Char :=
  if layout.least ≤ d.exponent && d.exponent ≤ layout.greatest then writePositional d
  else writeScientific layout d

namespace Layout

/-- The text of the number `m * 2 ^ q`. Zero is written `0.0`. -/
def writeFinite (layout : Layout) (negative : Bool) (m : Nat) (q : Int) : List Char :=
  (if negative then ['-'] else []) ++
    if m == 0 then ['0', '.', '0'] else Decimal.write layout (shortest layout.format m q)

end Layout

end MatView.Decimal
