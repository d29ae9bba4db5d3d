import MatView.Sql.Expression

/-!
# Reading tables of documents

A document can be read as a table: a path leads to what becomes the rows, and further paths lead
from there to the columns. A column may hold a table itself.

## Main definitions

* `documentColumnUpTo`: a column.
* `documentTable`: a table.
-/

namespace MatView.Sql

open Reader

/-- Reads what a column holds if its path leads nowhere or to something else. The first part tells
whether its path leads nowhere. -/
def replacement : Reader (Bool × String) := do
  let value ←
    match ← oneOf ["NULL", "ERROR", "DEFAULT"] with
    | "DEFAULT" => pure ("DEFAULT " ++ (← constant).text)
    | word => pure word
  keyword "ON"
  match ← oneOf ["EMPTY", "ERROR"] with
  | "EMPTY" => return (true, " " ++ value ++ " ON EMPTY")
  | _ => return (false, " " ++ value ++ " ON ERROR")

/-- Reads a column of one value behind its name. -/
def documentValue : Reader String := do
  let type ← dataType
  let exists? ← flag "EXISTS"
  keyword "PATH"
  let path ← constant
  let found ← many (startsWith ["NULL", "ERROR", "DEFAULT"]) replacement
  let last (empty : Bool) : String := (found.reverse.lookup empty).getD ""
  return " " ++ type ++ exists? ++ " PATH " ++ path.text ++ last true ++ last false

/-- Reads a column in which at most `n` tables lie within one another. -/
def documentColumnUpTo : Nat → Reader String
  | 0 => fail
  | n + 1 => do
    if ← keyword? "NESTED" then
      skip (keyword? "PATH")
      let path ← constant
      keyword "COLUMNS"
      let columns ← parenList (documentColumnUpTo n)
      return "NESTED PATH " ++ path.text ++ " COLUMNS " ++ parens (commas columns)
    else
      let name ← ident
      if ← keyword? "FOR" then
        keyword "ORDINALITY"
        return name.text ++ " FOR ORDINALITY"
      else return name.text ++ (← documentValue)

/-- Reads a table of a document behind its first word. -/
def documentTable (inner : Inner) : Reader String := inParens do
  let document ← inner.text
  symbol ","
  let path ← constant
  keyword "COLUMNS"
  let columns ← parenList (documentColumnUpTo (← remaining))
  return "JSON_TABLE" ++ parens (document ++ ", " ++ path.text ++ " COLUMNS" ++
    parens (commas columns))

end MatView.Sql
