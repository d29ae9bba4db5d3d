import MatView.Decimal.Layout
import MatView.Logical.Value

/-!
# Values as JSON text

A value is written without spaces. The text drops the type of a value: integers of both widths are
written alike, bytes become the array of their numbers and a map the array of its entries, each an
array of two. A floating-point number that is not finite is written `null`.

## Main definitions

* `escapeChar`, `printString`: string literals.
* `printFloat`: floating-point numbers.
* `print`: the text of a value.
* `printRow`: the text of a row.
-/

namespace MatView.Json

/-! ## Numbers and strings -/

/-- The escape of a control character by its number. -/
def escapeUnit (c : Char) : List Char :=
  let digit (n : Nat) := Nat.digitChar n
  ['\\', 'u', '0', '0', digit (c.toNat / 16), digit (c.toNat % 16)]

/-- How a character is written inside a string literal. -/
def escapeChar (c : Char) : List Char :=
  if c == '"' then ['\\', '"']
  else if c == '\\' then ['\\', '\\']
  else if c == Char.ofNat 8 then ['\\', 'b']
  else if c == Char.ofNat 12 then ['\\', 'f']
  else if c == '\n' then ['\\', 'n']
  else if c == '\r' then ['\\', 'r']
  else if c == '\t' then ['\\', 't']
  else if c.toNat < 0x20 then escapeUnit c
  else [c]

/-- The string literal of a text. -/
def printString (cs : List Char) : List Char :=
  '"' :: cs.flatMap escapeChar ++ ['"']

/-- The text of an integer. -/
def printInt (i : Int) : List Char :=
  if i < 0 then '-' :: Nat.toDigits 10 i.natAbs else Nat.toDigits 10 i.natAbs

/-- The text of a floating-point number. -/
def printFloat (layout : Decimal.Layout) (x : Binary.Datum) : List Char :=
  match x with
  | .finite negative m q => layout.writeFinite negative m q
  | _ => ['n', 'u', 'l', 'l']

/-! ## Values -/

/-- Texts in order, with commas between them. -/
def commaSeparated : List (List Char) → List Char
  | [] => []
  | [cs] => cs
  | cs :: rest => cs ++ ',' :: commaSeparated rest

/-- The array of items that are already written. -/
def printArray (items : List (List Char)) : List Char :=
  '[' :: commaSeparated items ++ [']']

mutual

/-- The text of a value. -/
def print : Value → List Char
  | .null => ['n', 'u', 'l', 'l']
  | .boolean true => ['t', 'r', 'u', 'e']
  | .boolean false => ['f', 'a', 'l', 's', 'e']
  | .int n => printInt n.toInt
  | .bigint n => printInt n.toInt
  | .float x => printFloat (.single true) x.datum
  | .double x => printFloat (.double true) x.datum
  | .string s => printString s.toList
  | .bytes bs => printArray (bs.map fun b => Nat.toDigits 10 b.toNat)
  | .map entries => printArray (printEntries entries)
  | .list items => printArray (printItems items)

/-- The texts of the items of a list. -/
def printItems : List Value → List (List Char)
  | [] => []
  | v :: vs => print v :: printItems vs

/-- The texts of the entries of a map. -/
def printEntries : List (Value × Value) → List (List Char)
  | [] => []
  | (k, v) :: es => printArray [print k, print v] :: printEntries es

end

/-- The text of a row: the array of its values. -/
def printRow (r : Row) : List Char :=
  print (.list r.values)

end MatView.Json
