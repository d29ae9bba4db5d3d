import MatView.Query.Basic
import MatView.Sql.Statement

/-!
# Queries of statements

A statement is served if it selects columns of at most one table. What is asked for beyond that is
refused, and the first part that is refused is reported: the kind of statement, the kind of query,
dropping equal rows, several tables, joins, a source that is no table, and then the select list.

## Main definitions

* `Projection.ofItems`: the columns of a select list.
* `Query.ofStatement`: what matters of a statement.
* `Query.parse`: what matters of a text.
-/

namespace MatView

/-- What an element of a select list asks for; `none` is a wildcard. -/
def SelectedColumn.ofItem : Sql.Item → Except Error (Option SelectedColumn)
  | .wildcard _ => .ok none
  | .value (.column parts) name? =>
    .ok (some ⟨(parts.getLast?.map (·.value)).getD "", name?.map (·.value)⟩)
  | .value e _ => .error (.unsupportedQuery (.expression e.text))

/-- What the elements of a select list ask for, up to the first that is no column. -/
def SelectedColumn.ofItems : List Sql.Item → Except Error (List (Option SelectedColumn))
  | [] => .ok []
  | item :: rest => do
    let c ← SelectedColumn.ofItem item
    let cs ← SelectedColumn.ofItems rest
    return c :: cs

/-- The columns that a select list asks for: all of them, or those it names. -/
def Projection.ofItems (items : List Sql.Item) : Except Error Projection := do
  let found ← SelectedColumn.ofItems items
  let columns := found.filterMap id
  if found.contains none then
    if columns.isEmpty then return .all else .error (.unsupportedQuery .mixedWildcard)
  else if columns.isEmpty then .error (.unsupportedQuery .emptyProjection)
  else return .columns columns

/-- The source of a `FROM` clause of at most one table. -/
def FromClause.ofTables : List Sql.Table → Except Error (Option FromClause)
  | [] => .ok none
  | [t] =>
    if !t.joins.isEmpty then .error (.unsupportedQuery .join)
    else
      match t.factor.relation with
      | .table name _ => .ok (some ⟨Sql.dotted name, t.factor.alias?.map (·.name.value)⟩)
      | _ => .error (.unresolvedSource .notATable)
  | _ => .error (.unsupportedQuery .manyTables)

namespace Query

/-- What matters of a select list and its clauses. -/
def ofSelect (s : Sql.Select) : Except Error Query := do
  if s.distinct then .error (.unsupportedQuery .distinct)
  let from? ← FromClause.ofTables s.tables
  let projection ← Projection.ofItems s.items
  return { from?, projection, hasWhere := s.hasWhere }

/-- What matters of a statement. -/
def ofStatement : Sql.Statement → Except Error Query
  | .query ⟨.select s, _⟩ => ofSelect s
  | .query ⟨.other, _⟩ => .error (.unsupportedQuery .setOperation)
  | .command kind => .error (.unsupportedQuery (.command kind))

/-- What matters of a text with one statement. -/
def parse (text : String) : Except Error Query := do
  ofStatement (← Sql.theStatement text)

end Query

end MatView
