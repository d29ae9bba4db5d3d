import MatView.Unicode.Blank

/-!
# Integers in texts

An integer setting is a run of ASCII digits with an optional sign, between any blanks. Digits of
other bases stand for characters within constants.
-/

namespace MatView.Text

/-- The number that a non-empty run of digits stands for. -/
def natural? (cs : List Char) : Option Nat :=
  if cs.isEmpty || !cs.all Char.isDigit then none else some (Nat.ofDigitChars 10 cs 0)

/-- The value of a digit in a base of at most sixteen. -/
def digit? (base : Nat) (c : Char) : Option Nat :=
  let value :=
    if c.isDigit then c.toNat - '0'.toNat
    else if 'a' ≤ c ∧ c ≤ 'f' then c.toNat - 'a'.toNat + 10
    else if 'A' ≤ c ∧ c ≤ 'F' then c.toNat - 'A'.toNat + 10
    else base
  if value < base then some value else none

/-- The number that digits in a base stand for, behind those that were read already. -/
def ofDigits? (base : Nat) : Nat → List Char → Option Nat
  | n, [] => some n
  | n, c :: cs => (digit? base c).bind fun d => ofDigits? base (n * base + d) cs

/-- The integer that digits with an optional sign stand for. -/
def integer? : List Char → Option Int
  | '-' :: cs => (natural? cs).map fun n => -(n : Int)
  | '+' :: cs => (natural? cs).map fun n => (n : Int)
  | cs => (natural? cs).map fun n => (n : Int)

/-- The integer of 64 bits that a text stands for. -/
def int64? (cs : List Char) : Option Int64 :=
  (integer? (Unicode.trim cs)).bind fun i =>
    if Int64.minValue.toInt ≤ i ∧ i ≤ Int64.maxValue.toInt then some (.ofInt i) else none

end MatView.Text
