import MatView.Sql.Reader
import MatView.Sql.Vocabulary
import MatView.Text.Integer

/-!
# Reading constants

Constants are numbers, texts, truth values, the missing value and places that are filled in later.
Where a clause asks for a text, a name will do.

## Main definitions

* `Constant`: a constant with its text in normal form.
* `constant`: any constant.
* `natural`, `literal`, `textual`: constants of one kind.
-/

namespace MatView.Sql

open Reader

/-- The kinds of constants that some clauses tell apart. -/
inductive ConstantKind
  | number
  | text
  | placeholder
  | other
  deriving DecidableEq

/-- A constant with its text in normal form. -/
structure Constant where
  kind : ConstantKind
  text : String
  deriving DecidableEq

namespace Constant

/-- The constant that a token is on its own. -/
def ofToken? : Token → Option Constant
  | .number text long => some ⟨.number, if long then text ++ "L" else text⟩
  | .literal value => some ⟨.text, quoted '\'' value⟩
  | .constant mark value => some ⟨.other, mark.text value⟩
  | .placeholder text => some ⟨.placeholder, text⟩
  | .word ⟨value, some '"'⟩ => some ⟨.text, quoted '"' value⟩
  | t =>
    match t.keyword? with
    | some "TRUE" => some ⟨.other, "true"⟩
    | some "FALSE" => some ⟨.other, "false"⟩
    | some "NULL" => some ⟨.other, "NULL"⟩
    | _ => none

end Constant

/-- Reads the name of a place behind the symbol before it. -/
def placeName : Reader String := do
  match ← next with
  | .word name => return name.value
  | .number text false => return text
  | _ => fail

/-- Reads a constant. -/
def constant : Reader Constant := do
  match ← next with
  | .symbol ":" => return ⟨.placeholder, ":" ++ (← placeName)⟩
  | .symbol "@" => return ⟨.placeholder, "@" ++ (← placeName)⟩
  | t =>
    match Constant.ofToken? t with
    | some c => return c
    | none => fail

/-- Reads the text of a constant of some kinds. -/
def constantOf (kinds : List ConstantKind) : Reader String := do
  let c ← constant
  if kinds.contains c.kind then return c.text else fail

/-- Reads a number, or a place for one. -/
def quantity : Reader String := constantOf [.number, .placeholder]

/-- Reads a number with an optional sign. -/
def signedQuantity : Reader String := do
  if ← symbol? "+" then return "+" ++ (← quantity)
  else if ← symbol? "-" then return "-" ++ (← quantity)
  else quantity

/-- Reads a natural number below a bound. -/
def naturalBelow (bound : Nat) : Reader String := do
  match ← next with
  | .number text _ =>
    match Text.natural? text.toList with
    | some n => if n < bound then return toString n else fail
    | none => fail
  | _ => fail

/-- Reads a natural number of 64 bits. -/
def natural : Reader String := naturalBelow UInt64.size

/-- Reads a text between single quotes. -/
def literal : Reader String := do
  match ← next with
  | .literal value => return value
  | _ => fail

/-- Reads a text: between single quotes, escaped or not, or a name that is no reserved word. -/
def textual : Reader String := do
  match ← next with
  | .literal value => return value
  | .constant .escaped value => return value
  | .constant .unicode value => return value
  | .word name => if (Token.word name).isPlainWord then return name.value else fail
  | _ => fail

end MatView.Sql
