import MatView.Sql.Select

/-!
# Reading changes of rows

Rows are inserted, updated and deleted. An insertion or an update may stand where a query does, so
they have a text in normal form.

## Main definitions

* `Change`: a change with its text.
* `assignments`: new values for columns.
* `insertion`, `update`, `deletion`: the changes, behind their first word.
-/

namespace MatView.Sql

open Reader

/-- A change of rows with its text in normal form. -/
structure Change where
  kind : CommandKind
  text : String
  deriving DecidableEq

/-- The formats of files. -/
def fileFormats : List String :=
  ["AVRO", "JSONFILE", "ORC", "PARQUET", "RCFILE", "SEQUENCEFILE", "TEXTFILE"]

section

variable (inner : Inner)

/-! ## Common clauses -/

/-- Reads the columns that a new value is for. -/
def assignmentTarget : Reader String := do
  if ← atSymbol "(" then return parens (commas ((← parenList objectName).map dotted))
  else return dotted (← objectName)

/-- Reads a new value for a column. -/
def assignment : Reader String := do
  let target ← assignmentTarget
  symbol "="
  return target ++ " = " ++ (← inner.text)

/-- Reads new values for columns. -/
def assignments : Reader String := return commas (← commaList (assignment inner))

/-- Reads what is given back of the changed rows. -/
def returned : Reader String := do
  if ← keyword? "RETURNING" then
    return " RETURNING " ++ commas ((← items inner).map Item.text)
  else return ""

/-! ## Insertions -/

/-- Reads which rows are in conflict with inserted ones. -/
def conflictTarget : Reader String := do
  if ← keywords? ["ON", "CONSTRAINT"] then return " ON CONSTRAINT " ++ dotted (← objectName)
  else if ← atSymbol "(" then return " " ++ parens (commas ((← columnNames).map Ident.text))
  else return ""

/-- Reads what happens to rows in conflict with inserted ones. -/
def conflict : Reader String := do
  if ← keyword? "ON" then
    if ← keyword? "CONFLICT" then
      let target ← conflictTarget
      keyword "DO"
      if ← keyword? "NOTHING" then return " ON CONFLICT" ++ target ++ " DO NOTHING"
      else
        keywords ["UPDATE", "SET"]
        let values ← assignments inner
        return " ON CONFLICT" ++ target ++ " DO UPDATE SET " ++ values ++ (← inner.clause "WHERE")
    else
      keywords ["DUPLICATE", "KEY", "UPDATE"]
      return " ON DUPLICATE KEY UPDATE " ++ (← assignments inner)
  else return ""

/-- Reads the name of inserted rows. -/
def insertedAlias : Reader String := do
  if ← keyword? "AS" then
    let name ← objectName
    let columns ← columnNames?
    let rest := if columns.isEmpty then "" else " " ++ parens (commas (columns.map Ident.text))
    return " AS " ++ dotted name ++ rest
  else return ""

/-- Reads the rows that are inserted, with the columns that they fill. -/
def insertedRows : Reader String := do
  if ← keywords? ["DEFAULT", "VALUES"] then return "DEFAULT VALUES"
  else
    let columns ← columnNames?
    let front := if columns.isEmpty then "" else parens (commas (columns.map Ident.text)) ++ " "
    let part ←
      if ← keyword? "PARTITION" then pure ("PARTITION " ++ (← inner.tuple) ++ " ") else pure ""
    return front ++ part ++ (← inner.query).text

/-- Reads the rest of an insertion into files. -/
def fileInsertion (front : String) : Reader Change := do
  let path ← textual
  let format ←
    if ← keywords? ["STORED", "AS"] then pure (" STORED AS " ++ (← oneOf fileFormats)) else pure ""
  let q ← inner.query
  return ⟨.other, front ++ " DIRECTORY '" ++ path ++ "'" ++ format ++ " " ++ q.text⟩

/-- Reads the rest of an insertion. -/
def insertion : Reader Change := do
  let priority ← flags [["LOW_PRIORITY"], ["DELAYED"], ["HIGH_PRIORITY"]]
  let lenient ← flag "IGNORE"
  let fresh ← flag "OVERWRITE"
  let into ← flag "INTO"
  let near ← flag "LOCAL"
  if ← keyword? "DIRECTORY" then fileInsertion inner ("INSERT" ++ fresh ++ near)
  else
    let table ← flag "TABLE"
    let name ← objectName
    let rows ← insertedRows inner
    let naming ← insertedAlias
    let conflict ← conflict inner
    let returned ← returned inner
    return ⟨.insert, "INSERT" ++ priority ++ lenient ++ fresh ++ into ++ table ++ " " ++
      dotted name ++ " " ++ rows ++ naming ++ conflict ++ returned⟩

/-! ## Updates and deletions -/

/-- Reads the rest of an update. -/
def update : Reader Change := do
  let t ← table inner
  keyword "SET"
  let values ← assignments inner
  let source? ← option? (keyword? "FROM") (table inner)
  let condition ← inner.clause "WHERE"
  let returned ← returned inner
  return ⟨.update, "UPDATE " ++ t.text ++ " SET " ++ values ++
    behind " FROM " (source?.map Table.text) ++ condition ++ returned⟩

/-- Reads how many rows there are at most, if the word for it is next. Without a bound there is no
text. -/
def limit? : Reader (Option String) := do
  if ← keyword? "LIMIT" then
    if ← keyword? "ALL" then return none else return some (← inner.text)
  else return none

/-- Reads the rest of a deletion. -/
def deletion : Reader CommandKind := do
  skip (keyword? "FROM")
  skip (commaList (table inner))
  skipIf (keyword? "USING") (commaList (table inner))
  skip (inner.clause "WHERE")
  skip (returned inner)
  skip (orderClause? inner)
  skip (limit? inner)
  return .delete

end

end MatView.Sql
