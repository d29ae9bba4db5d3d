import MatView.Sql.Command
import MatView.Sql.Lexer

/-!
# Statements of a text

A text holds statements with semicolons between them. Empty statements do not count. After a
statement nothing but a semicolon, the end of the text or the word `END` may follow, and what stands
behind `END` is not looked at.

## Main definitions

* `statements?`: the statements of a text.
* `theStatement`: the only statement of a text.
-/

namespace MatView.Sql

/-- How many levels a statement may have. -/
def maxDepth : Nat := 50

/-- The statements of a text, unless it does not follow the grammar. -/
def statements? (text : String) : Option (List Statement) := do
  let tokens ← tokens? text
  match (statements (statementAt maxDepth)).run tokens with
  | .ok (found, _) => some found
  | .error _ => none

/-- The only statement of a text. -/
def theStatement (text : String) : Except Error Statement :=
  match statements? text with
  | none => .error (.statement .grammar text)
  | some [s] => .ok s
  | some found => .error (.statement (.count found.length) text)

end MatView.Sql
