import MatView.Sql.Relation

/-!
# Reading select lists

A select list asks for columns and other expressions of the rows that its clauses leave. A star asks
for all columns; options behind it leave some out, replace or rename them.

## Main definitions

* `item`: an element of a select list.
* `grouping?`, `connection?`, `windows`: the clauses with a form of their own.
* `selectHead`, `tables`, `selectClauses`: the parts of a select list with its clauses.
* `select`: a select list with its clauses.
-/

namespace MatView.Sql

open Reader

/-- The words that are no column unless they are quoted. -/
def reservedAsColumns : List String := ["FROM"]

section

variable (inner : Inner)

/-! ## Elements -/

/-- Reads one name, or several between parentheses, with a reader for a name. -/
def oneOrSeveral (name : Reader String) : Reader String := do
  if ← atSymbol "(" then return parens (commas (← parenList name)) else name

/-- Reads the pattern that columns have to match. -/
def columnPattern? : Reader (Option String) :=
  option? (keyword? "ILIKE") (return " ILIKE " ++ quoted '\'' (← literal))

/-- Reads the columns that a star leaves out, where a pattern is an alternative. -/
def exclusions : Reader String := do
  match ← columnPattern? with
  | some text => return text
  | none =>
    if ← keyword? "EXCLUDE" then return " EXCLUDE " ++ (← oneOrSeveral (return (← ident).text))
    else return ""

/-- Reads the columns that a star leaves out by another word. -/
def exceptions : Reader String := do
  if ← keyword? "EXCEPT" then
    let names ← if ← atSymbol "(" then columnNames else pure [← ident]
    return " EXCEPT " ++ parens (commas (names.map Ident.text))
  else return ""

/-- Reads the columns that other values replace. -/
def replacements : Reader String := do
  if ← keyword? "REPLACE" then
    return " REPLACE " ++ parens (commas (← parenList do
      let e ← inner.text
      let mark ← flag "AS"
      return e ++ mark ++ " " ++ (← ident).text))
  else return ""

/-- Reads the columns that get another name. -/
def renamings : Reader String := do
  if ← keyword? "RENAME" then
    return " RENAME " ++ (← oneOrSeveral do
      let name ← ident
      skip (keyword? "AS")
      return name.text ++ " AS " ++ (← ident).text)
  else return ""

/-- Reads the options of a star. -/
def starOptions : Reader String := do
  let left ← exclusions
  let more ← exceptions
  let replaced ← replacements inner
  return left ++ more ++ replaced ++ (← renamings)

/-- Reads an element of a select list. -/
def item : Reader Item := do
  match ← wildcard? with
  | some text => return .wildcard (text ++ (← starOptions inner))
  | none =>
    let e ← inner.whole
    match e with
    | .column [name] => if (Token.word name).isAmong reservedAsColumns then fail
    | _ => pure ()
    return .value e (← alias? reservedForColumns)

/-- Reads the elements of a select list. -/
def items : Reader (List Item) := commaList (item inner)

/-! ## Before the elements -/

/-- Reads whether equal rows are dropped. -/
def distinction? : Reader (Option String) := do
  let all ← keyword? "ALL"
  if ← keyword? "DISTINCT" then
    if all then fail
    else if ← keyword? "ON" then
      let es ← inParens (listBefore ")" inner.whole)
      return some (" DISTINCT ON " ++ parens (Expr.listText es))
    else return some " DISTINCT"
  else return none

/-- Reads how many rows are taken from the top. -/
def top : Reader String := do
  if ← keyword? "TOP" then
    let quantity ← if ← atSymbol "(" then pure (parens (← inParens inner.text)) else natural
    let unit ← flag "PERCENT"
    let ties ← flags [["WITH", "TIES"]]
    return " TOP " ++ quantity ++ unit ++ ties
  else return ""

/-! ## Behind the elements -/

/-- Reads where the rows are written to. -/
def target : Reader String := do
  if ← keyword? "INTO" then
    let temporary := if (← oneOf? ["TEMP", "TEMPORARY"]).isSome then " TEMPORARY" else ""
    let unlogged ← flag "UNLOGGED"
    let table ← flag "TABLE"
    return " INTO" ++ temporary ++ unlogged ++ table ++ " " ++ dotted (← objectName)
  else return ""

/-- The words that are no name of a column of a view that depends on a row. -/
def reservedForViews : List String := ["WHERE", "GROUP", "CLUSTER", "HAVING", "LATERAL"]

/-- Reads a view that depends on a row, behind its first words. -/
def lateralView : Reader String := do
  let outer ← flag "OUTER"
  let e ← inner.text
  let name ← objectName
  let columns := (← commaList (alias? reservedForViews)).filterMap id
  let names := if columns.isEmpty then "" else " AS " ++ commas (columns.map Ident.text)
  return " LATERAL VIEW" ++ outer ++ " " ++ e ++ " " ++ dotted name ++ names

/-- Reads expressions between parentheses, or one without them where it may stand alone. -/
def groupingSet (alone : Bool) : Reader String := do
  if alone && !(← atSymbol "(") then inner.text
  else
    let es ← inParens (listBefore ")" inner.whole)
    match es with
    | [e] => return if alone then e.text else parens e.text
    | _ => return parens (Expr.listText es)

/-- Reads an element of a grouping. -/
def groupingItem : Reader String := do
  match ← phrase? [["GROUPING", "SETS"], ["CUBE"], ["ROLLUP"]] with
  | some word =>
    let sets ← parenList (groupingSet inner (word != "GROUPING SETS"))
    return word ++ " " ++ parens (commas sets)
  | none =>
    match ← peek, ← peekSecond with
    | some (.symbol "("), some (.symbol ")") =>
      skip next
      skip next
      return "()"
    | _, _ => inner.text

/-- Reads how rows are grouped. -/
def grouping? : Reader (Option String) :=
  option? (keywords? ["GROUP", "BY"]) do
    let elements ←
      if ← keyword? "ALL" then pure "ALL" else pure (commas (← commaList (groupingItem inner)))
    let totals ←
      many (keyword? "WITH") (return " WITH " ++ (← oneOf ["ROLLUP", "CUBE", "TOTALS"]))
    return "GROUP BY " ++ elements ++ String.join totals

/-- Reads a clause of expressions if its words are next. -/
def listClause (word : String) : Reader String := do
  if ← keywords? [word, "BY"] then return " " ++ word ++ " BY " ++ (← inner.listText)
  else return ""

/-- Reads windows with their names. -/
def windows : Reader String := do
  let named : Reader String := do
    let name ← ident
    keyword "AS"
    return name.text ++ " AS " ++ (← window inner (operand inner))
  if ← keyword? "WINDOW" then return " WINDOW " ++ commas (← commaList named) else return ""

/-- Reads the windows and the condition on the values in them, in either order. -/
def windowClauses : Reader String := do
  let first ← windows inner
  let condition ← inner.clause "QUALIFY"
  if first.isEmpty && !condition.isEmpty then return condition ++ (← windows inner)
  else return first ++ condition

/-- Reads how rows follow one another. -/
def succession : Reader String := do
  keywords ["CONNECT", "BY"]
  return " CONNECT BY " ++ Expr.listText (← commaList (inner.linked 0))

/-- Reads which rows come first. -/
def beginning : Reader String := do
  keywords ["START", "WITH"]
  return " START WITH " ++ (← inner.text)

/-- Reads how rows are arranged in trees. The two parts may stand in either order. -/
def connection : Reader String := do
  if ← startsWith ["CONNECT"] then
    let links ← succession inner
    return (← beginning inner) ++ links
  else if ← startsWith ["START"] then
    let first ← beginning inner
    return first ++ (← succession inner)
  else return ""

/-- A select list with what stands before it and where its rows are written to. -/
structure SelectHead where
  distinct? : Option String
  top : String
  items : List Item
  target : String

/-- The text of a select list, from its word on. -/
def SelectHead.text (h : SelectHead) : String :=
  "SELECT" ++ h.distinct?.getD "" ++ h.top ++ " " ++ commas (h.items.map Item.text) ++ h.target

/-- Reads a select list up to its tables. -/
def selectHead : Reader SelectHead := do
  keyword "SELECT"
  let distinct? ← distinction? inner
  let top ← top inner
  let items ← items inner
  return ⟨distinct?, top, items, ← target⟩

/-- Reads the tables that rows are taken from. -/
def tables : Reader (List Table) := do
  if ← keyword? "FROM" then commaList (table inner) else return []

/-- Reads the clauses behind the tables. The first part of the result tells whether there is a
condition on the rows. -/
def selectClauses : Reader (Bool × String) := do
  let views ← many (keywords? ["LATERAL", "VIEW"]) (lateralView inner)
  let early ← inner.clause "PREWHERE"
  let hasWhere ← startsWith ["WHERE"]
  let condition ← inner.clause "WHERE"
  let groups ← grouping? inner
  let clusters ← listClause inner "CLUSTER"
  let distribution ← listClause inner "DISTRIBUTE"
  let sorting ← listClause inner "SORT"
  let having ← inner.clause "HAVING"
  let windows ← windowClauses inner
  let connection ← connection inner
  return (hasWhere, String.join views ++ early ++ condition ++ behind " " groups ++ clusters ++
    distribution ++ sorting ++ having ++ windows ++ connection)

/-- Reads a select list with its clauses. -/
def select : Reader (Select × String) := do
  let head ← selectHead inner
  let tables ← tables inner
  let (hasWhere, clauses) ← selectClauses inner
  let source := if tables.isEmpty then "" else " FROM " ++ commas (tables.map Table.text)
  return (⟨head.distinct?.isSome, head.items, tables, hasWhere⟩, head.text ++ source ++ clauses)

end

end MatView.Sql
