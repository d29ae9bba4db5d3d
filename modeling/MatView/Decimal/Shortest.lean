import MatView.Decimal.Binary

/-!
# Shortest decimals

A floating-point number is written with the fewest decimal digits that read back as the same
number, and of those with the digits nearest to its value. All real numbers that read back as
`m * 2 ^ q` form an interval around it, whose ends belong to it exactly if `m` is even. If a decimal
grid has a point in the interval, then one of the two neighbours of the number on that grid is in
it, so these two are tried on ever finer grids.

## Main definitions

* `Decimal`: significant digits and the exponent of the first of them.
* `Decimal.shortest`: the shortest decimal of a positive number of a format.
-/

namespace MatView

/-- The number `d.ddd * 10 ^ exponent` with the given digits. -/
structure Decimal where
  digits : List Char
  exponent : Int
  deriving DecidableEq

namespace Decimal

/-- Whether `a * 10 ^ i` is at most `b * 2 ^ j`. -/
def leScaled (a : Nat) (i : Int) (b : Nat) (j : Int) : Bool :=
  a * Nat.pow 10 i.toNat * Nat.pow 2 (-j).toNat ≤ b * Nat.pow 2 j.toNat * Nat.pow 10 (-i).toNat

/-- Whether `a * 10 ^ i` is less than `b * 2 ^ j`. -/
def ltScaled (a : Nat) (i : Int) (b : Nat) (j : Int) : Bool :=
  a * Nat.pow 10 i.toNat * Nat.pow 2 (-j).toNat < b * Nat.pow 2 j.toNat * Nat.pow 10 (-i).toNat

/-- The greatest `e` with `10 ^ e ≤ m * 2 ^ q`, for a positive `m`. The first guess comes from the
binary order and is off by at most one. -/
def order (m : Nat) (q : Int) : Int :=
  let guess := Int.fdiv (((m.log2 : Int) + q) * 30103) 100000
  if leScaled 1 (guess + 1) m q then guess + 1
  else if leScaled 1 guess m q then guess
  else guess - 1

/-- The reals that read back as `m * 2 ^ q`, with ends in units of `2 ^ (q - 2)`. -/
structure Interval where
  low : Nat
  high : Nat
  unit : Int
  closed : Bool

/-- The interval of `m * 2 ^ q`. Below a power of two the numbers of the format lie twice as dense,
so the lower end is nearer there. -/
def interval (f : Binary.Format) (m : Nat) (q : Int) : Interval :=
  let tight := m == Nat.pow 2 f.fractionBits && f.leastExponent < q
  ⟨if tight then 4 * m - 1 else 4 * m - 2, 4 * m + 2, q - 2, m % 2 == 0⟩

namespace Interval

/-- Whether `c * 10 ^ k` lies in the interval. -/
def contains (v : Interval) (c : Nat) (k : Int) : Bool :=
  if v.closed then !ltScaled c k v.low v.unit && leScaled c k v.high v.unit
  else !leScaled c k v.low v.unit && ltScaled c k v.high v.unit

end Interval

/-- The point of the grid of multiples of `10 ^ k` that is nearest to `m * 2 ^ q` among those that
read back as it. A tie goes to the even point. -/
def onGrid (v : Interval) (m : Nat) (q k : Int) : Option Nat :=
  let num := m * Nat.pow 2 q.toNat * Nat.pow 10 (-k).toNat
  let den := Nat.pow 2 (-q).toNat * Nat.pow 10 k.toNat
  let below := num / den
  let near := Binary.roundDiv num den
  if near != 0 && v.contains near k then some near
  else if below != 0 && v.contains below k then some below
  else if v.contains (below + 1) k then some (below + 1)
  else none

/-- The first hit on grids of ever more digits. -/
def search (v : Interval) (m : Nat) (q : Int) : Nat → Int → Nat × Int
  | 0, k =>
    let num := m * Nat.pow 2 q.toNat * Nat.pow 10 (-k).toNat
    (Binary.roundDiv num (Nat.pow 2 (-q).toNat * Nat.pow 10 k.toNat), k)
  | tries + 1, k =>
    match onGrid v m q k with
    | some c => (c, k)
    | none => search v m q tries (k - 1)

/-- The digits without the zeros at their end. -/
def dropZeros (ds : List Char) : List Char :=
  (ds.reverse.dropWhile (· == '0')).reverse

/-- The shortest decimal that reads back as the positive number `m * 2 ^ q` of the format. No
number of the two formats needs more than seventeen digits. -/
def shortest (f : Binary.Format) (m : Nat) (q : Int) : Decimal :=
  let (c, k) := search (interval f m q) m q 17 (order m q)
  let ds := Nat.toDigits 10 c
  ⟨dropZeros ds, k + ds.length - 1⟩

end Decimal

end MatView
