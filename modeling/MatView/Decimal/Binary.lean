/-!
# Binary floating-point numbers

Floating-point cells and values are kept as bit patterns of the two usual interchange formats and
are computed with as exact fractions: a finite number is `m * 2 ^ q` for a natural `m`. Rounding to
a format takes the nearest number of the format, and of two equally near ones the one whose last
bit is zero.

## Main definitions

* `Binary.Format`, `binary32`, `binary64`: the two formats.
* `Binary.Format.decode`, `Binary.Format.round`: from bits to a fraction and back from a fraction
  to bits.
* `Binary32`, `Binary64`: bit patterns, with `Binary64.narrow` and `Binary32.widen` between them.
-/

namespace MatView

namespace Binary

/-! ## Formats -/

/-- A binary interchange format: a sign, an exponent field and a fraction field. -/
structure Format where
  exponentBits : Nat
  fractionBits : Nat
  deriving DecidableEq

/-- The 32-bit format. -/
def binary32 : Format := ⟨8, 23⟩

/-- The 64-bit format. -/
def binary64 : Format := ⟨11, 52⟩

/-- What a bit pattern stands for. A finite number is `mantissa * 2 ^ exponent`, up to its sign. -/
inductive Datum
  | nan
  | infinite (negative : Bool)
  | finite (negative : Bool) (mantissa : Nat) (exponent : Int)
  deriving DecidableEq

namespace Format

/-- The exponent of the least positive number of the format. -/
def leastExponent (f : Format) : Int :=
  2 - Nat.pow 2 (f.exponentBits - 1) - f.fractionBits

/-- The exponent field that marks infinities and NaN. -/
def topField (f : Format) : Nat :=
  Nat.pow 2 f.exponentBits - 1

/-- The magnitude of infinity, as bits. -/
def infinity (f : Format) : Nat :=
  f.topField * Nat.pow 2 f.fractionBits

/-- The sign bit. -/
def signBit (f : Format) : Nat :=
  Nat.pow 2 (f.exponentBits + f.fractionBits)

/-- A quiet NaN, as bits. -/
def quietNan (f : Format) : Nat :=
  f.infinity + Nat.pow 2 (f.fractionBits - 1)

/-- What the bit pattern `bits` stands for. -/
def decode (f : Format) (bits : Nat) : Datum :=
  let negative := bits / f.signBit % 2 == 1
  let field := bits / Nat.pow 2 f.fractionBits % Nat.pow 2 f.exponentBits
  let fraction := bits % Nat.pow 2 f.fractionBits
  if field == f.topField then
    if fraction == 0 then .infinite negative else .nan
  else if field == 0 then .finite negative fraction f.leastExponent
  else .finite negative (Nat.pow 2 f.fractionBits + fraction) (f.leastExponent + (field - 1))

end Format

/-! ## Rounding -/

/-- The natural number nearest to `num / den`; of two equally near ones the even one. -/
def roundDiv (num den : Nat) : Nat :=
  let q := num / den
  let twice := 2 * (num % den)
  if twice < den then q
  else if den < twice then q + 1
  else q + q % 2

/-- The fraction `m * 2 ^ q`, as numerator and denominator. -/
def scale (m : Nat) (q : Int) : Nat × Nat :=
  (m * Nat.pow 2 q.toNat, Nat.pow 2 (-q).toNat)

/-- The greatest `e` with `2 ^ e ≤ num / den`, for a positive fraction. -/
def binaryOrder (num den : Nat) : Int :=
  let e : Int := (num.log2 : Int) - (den.log2 : Int)
  let (a, b) := scale den e
  if num * b < a then e - 1 else e

/-- The bits of the number of the format nearest to `num / den`. Magnitudes beyond the greatest
finite number become infinity. -/
def Format.round (f : Format) (num den : Nat) : Nat :=
  if num == 0 then 0
  else
    let q := max (binaryOrder num den - f.fractionBits) f.leastExponent
    let (a, b) := scale den q
    let m := roundDiv (num * b) a
    let bits := (q - f.leastExponent).toNat * Nat.pow 2 f.fractionBits + m
    min bits f.infinity

/-- The bits in format `g` of the number with bits `bits` in format `f`, rounded. -/
def convert (f g : Format) (bits : Nat) : Nat :=
  match f.decode bits with
  | .nan => g.quietNan
  | .infinite negative => (if negative then g.signBit else 0) + g.infinity
  | .finite negative m q =>
    let (num, den) := scale m q
    (if negative then g.signBit else 0) + g.round num den

end Binary

/-! ## The two formats -/

/-- A 32-bit floating-point number, as its bit pattern. -/
structure Binary32 where
  bits : UInt32
  deriving DecidableEq

/-- A 64-bit floating-point number, as its bit pattern. -/
structure Binary64 where
  bits : UInt64
  deriving DecidableEq

namespace Binary32

/-- What the number stands for. -/
def datum (x : Binary32) : Binary.Datum :=
  Binary.binary32.decode x.bits.toNat

/-- The same number in 64 bits. -/
def widen (x : Binary32) : Binary64 :=
  ⟨.ofNat (Binary.convert Binary.binary32 Binary.binary64 x.bits.toNat)⟩

end Binary32

namespace Binary64

/-- What the number stands for. -/
def datum (x : Binary64) : Binary.Datum :=
  Binary.binary64.decode x.bits.toNat

/-- The nearest 32-bit number. -/
def narrow (x : Binary64) : Binary32 :=
  ⟨.ofNat (Binary.convert Binary.binary64 Binary.binary32 x.bits.toNat)⟩

/-- The number nearest to the fraction `num / den`. -/
def ofFraction (num den : Nat) : Binary64 :=
  ⟨.ofNat (Binary.binary64.round num den)⟩

/-- The number nearest to a natural number. -/
def ofNat (n : Nat) : Binary64 :=
  ofFraction n 1

/-- Zero. -/
def zero : Binary64 := ⟨0⟩

/-- The magnitude of a finite number as a fraction; zero for all others. -/
def fraction (x : Binary64) : Nat × Nat :=
  match x.datum with
  | .finite _ m q => Binary.scale m q
  | _ => (0, 1)

/-- The rounded product of two positive finite numbers. -/
def mul (x y : Binary64) : Binary64 :=
  let (a, b) := x.fraction
  let (c, d) := y.fraction
  ofFraction (a * c) (b * d)

/-- The rounded quotient of two positive finite numbers. -/
def div (x y : Binary64) : Binary64 :=
  let (a, b) := x.fraction
  let (c, d) := y.fraction
  ofFraction (a * d) (b * c)

/-- The number nearest to `10 ^ e`. -/
def powerOfTen (e : Nat) : Binary64 :=
  ofNat (Nat.pow 10 e)

/-- Whether the number is an infinity. -/
def isInfinite (x : Binary64) : Bool :=
  match x.datum with
  | .infinite _ => true
  | _ => false

/-- The number with the sign bit set. -/
def negate (x : Binary64) : Binary64 :=
  ⟨x.bits ||| .ofNat Binary.binary64.signBit⟩

end Binary64

end MatView
