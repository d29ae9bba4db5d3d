import MatView.Sql.DocumentTable
import MatView.Sql.RowPattern

/-!
# Reading relations

A query takes its rows from relations: tables, queries between parentheses, lists of values, calls
and joins of all these. Rows can be turned into columns and back behind most of them.

## Main definitions

* `tableAlias?`: the alias of a relation.
* `rows`: a list of values.
* `joinMark?`, `joinCondition`: what joins relations.
* `factor`: a relation.
* `table`: a relation with what is joined to it.
-/

namespace MatView.Sql

open Reader

/-- The words that are no alias of a relation unless `AS` stands before them. -/
def reservedForTables : List String :=
  ["WITH", "EXPLAIN", "ANALYZE", "SELECT", "WHERE", "GROUP", "SORT", "HAVING", "ORDER", "PIVOT",
    "UNPIVOT", "TOP", "LATERAL", "VIEW", "LIMIT", "OFFSET", "FETCH", "UNION", "EXCEPT",
    "INTERSECT", "ON", "JOIN", "INNER", "CROSS", "FULL", "LEFT", "RIGHT", "NATURAL", "USING",
    "CLUSTER", "DISTRIBUTE", "GLOBAL", "OUTER", "SET", "QUALIFY", "WINDOW", "END", "FOR",
    "PARTITION", "PREWHERE", "SETTINGS", "FORMAT", "START", "CONNECT", "MATCH_RECOGNIZE"]

/-- The words that are no alias of a column unless `AS` stands before them. -/
def reservedForColumns : List String :=
  ["WITH", "EXPLAIN", "ANALYZE", "SELECT", "WHERE", "GROUP", "SORT", "HAVING", "ORDER", "TOP",
    "LATERAL", "VIEW", "LIMIT", "OFFSET", "FETCH", "UNION", "EXCEPT", "INTERSECT", "CLUSTER",
    "DISTRIBUTE", "RETURNING", "FROM", "INTO", "END"]

/-- Reads the alias of a relation if there is one. -/
def tableAlias? : Reader (Option Alias) := do
  match ← alias? reservedForTables with
  | some name => return some ⟨name, ← columnNames?⟩
  | none => return none

/-- Reads settings with their values. -/
def settings : Reader String := do
  let setting : Reader String := do
    let key ← ident
    symbol "="
    return key.text ++ " = " ++ (← constant).text
  return "SETTINGS " ++ commas (← commaList setting)

section

variable (inner : Inner)

/-! ## Values and calls -/

/-- Reads rows of values behind their first word. -/
def rows : Reader String := do
  let row : Reader (Bool × String) := do
    let marked ← keyword? "ROW"
    return (marked, ← inner.tuple)
  let found ← commaList row
  let front := if found.any Prod.fst then "ROW" else ""
  return "VALUES " ++ commas (found.map fun r => front ++ r.2)

/-- Reads at most `n` arguments of a table, up to the closing parenthesis. The last one may be a
list of settings. -/
def tableArgumentsUpTo : Nat → Reader (List String)
  | 0 => fail
  | n + 1 => do
    if ← keyword? "SETTINGS" then
      let text ← settings
      symbol ")"
      return [text]
    else
      let text ← argument inner
      if ← symbol? "," then return text :: (← tableArgumentsUpTo n)
      else
        symbol ")"
        return [text]

/-- Reads the arguments of a table if there are any. -/
def tableArguments? : Reader String := do
  if ← symbol? "(" then
    if ← symbol? ")" then return "()"
    else return parens (commas (← tableArgumentsUpTo inner (← remaining)))
  else return ""

/-! ## Rows into columns -/

/-- Reads an expression that may have a name behind `AS`. -/
def maybeNamed (e : Reader String) : Reader String := do
  let text ← e
  return text ++ behind " AS " ((← option? (keyword? "AS") ident).map Ident.text)

/-- Reads the call of a function by a name without its quotes. -/
def plainCall : Reader String := do
  match ← next with
  | .word name => return (← call inner (operand inner) name.value).text
  | _ => fail

/-- Reads the values that become columns. -/
def pivotValues : Reader String := do
  if ← keyword? "ANY" then return "ANY" ++ behind " " (← orderClause? inner)
  else if ← Inner.atQuery then return (← inner.query).text
  else return commas (← commaList (maybeNamed inner.text))

/-- Reads how the values of a column become columns. -/
def pivot : Reader String := do
  return " PIVOT" ++ parens (← inParens do
    let functions ← commaList (maybeNamed (plainCall inner))
    keyword "FOR"
    let column ← objectName
    keyword "IN"
    let values ← inParens (pivotValues inner)
    let missing? ← option? (keywords? ["DEFAULT", "ON", "NULL"]) (inParens inner.text)
    return commas functions ++ " FOR " ++ dotted column ++ " IN " ++ parens values ++
      behind " DEFAULT ON NULL " (missing?.map parens))

/-- Reads how columns become the values of a column. -/
def unpivot : Reader String := do
  return " UNPIVOT" ++ parens (← inParens do
    let value ← ident
    keyword "FOR"
    let name ← ident
    keyword "IN"
    let columns ← columnNames
    return value.text ++ " FOR " ++ name.text ++ " IN " ++
      parens (commas (columns.map Ident.text)))

/-- Reads at most `n` turns of a relation. -/
def turnedUpTo : Nat → Factor → Reader Factor
  | 0, f => return f
  | n + 1, f => do
    match ← oneOf? ["PIVOT", "UNPIVOT"] with
    | none => return f
    | some word =>
      let text ← if word == "PIVOT" then pivot inner else unpivot
      turnedUpTo n ⟨.derived (f.text ++ text), ← tableAlias?, ""⟩

/-- Reads how the rows and columns of a relation are turned. -/
def turned (f : Factor) : Reader Factor := do turnedUpTo inner (← remaining) f

/-! ## Relations without joins -/

/-- Reads a query between parentheses as a relation. -/
def derivedTable (front : String) : Reader Factor := do
  let text ← inner.enclosedQuery
  return ⟨.derived (front ++ text), ← tableAlias?, ""⟩

/-- Reads a relation that depends on the rows of those before it, behind its first word. -/
def lateralTable : Reader Factor := do
  if ← atSymbol "(" then derivedTable inner "LATERAL "
  else
    let name ← objectName
    let args ← inParens (listBefore ")" (argument inner))
    return ⟨.derived ("LATERAL " ++ dotted name ++ parens (commas args)), ← tableAlias?, ""⟩

/-- Reads the elements of arrays as a relation, behind its first word. -/
def unnested : Reader Factor := do
  let arrays ← inner.tuple
  let numbered ← flags [["WITH", "ORDINALITY"]]
  let alias? ← tableAlias?
  let offset ←
    if ← keyword? "WITH" then
      if ← keyword? "OFFSET" then
        let name? ← Reader.alias? reservedForColumns
        pure (" WITH OFFSET" ++ behind " AS " (name?.map Ident.text))
      else pure ""
    else pure ""
  return ⟨.derived ("UNNEST" ++ arrays ++ numbered), alias?, offset⟩

/-- Reads hints for a table. -/
def tableHints : Reader String := do
  match ← peek, ← peekSecond with
  | some t, some (.symbol "(") =>
    if t.isAmong ["WITH"] then
      skip next
      return " WITH " ++ (← inner.tuple)
    else return ""
  | _, _ => return ""

/-- Reads what follows the name of a table. Its rows may be turned and matched against a pattern. -/
def tableBehind (name : List Ident) : Reader Factor := do
  let parts? ← option? (keyword? "PARTITION") columnNames
  let parts := behind "PARTITION " (parts?.map fun names => parens (commas (names.map Ident.text)))
  let args ← tableArguments? inner
  let numbered ← flags [["WITH", "ORDINALITY"]]
  let alias? ← tableAlias?
  let f ← turned inner ⟨.table name (parts ++ args ++ numbered), alias?, ← tableHints inner⟩
  if ← keyword? "MATCH_RECOGNIZE" then
    let found ← rowMatch inner
    return ⟨.derived (f.text ++ " MATCH_RECOGNIZE" ++ found), ← tableAlias?, ""⟩
  else return f

/-- Reads a table as a relation. -/
def namedTable : Reader Factor := do
  tableBehind inner (← objectName)

/-- Reads a relation that has no parentheses around it. -/
def simpleFactor : Reader Factor := do
  match (← peek).bind Token.keyword?, ← peekSecond with
  | some "LATERAL", _ =>
    skip next
    lateralTable inner
  | some "TABLE", _ =>
    skip next
    let text ← inParens inner.text
    return ⟨.derived ("TABLE" ++ parens text), ← tableAlias?, ""⟩
  | some "VALUES", some (.symbol "(") =>
    skip next
    let text ← rows inner
    return ⟨.derived (parens text), ← tableAlias?, ""⟩
  | some "UNNEST", _ =>
    skip next
    unnested inner
  | some "JSON_TABLE", some (.symbol "(") =>
    skip next
    let text ← documentTable inner
    return ⟨.derived text, ← tableAlias?, ""⟩
  | _, _ => namedTable inner

/-! ## Joins -/

/-- What follows the right side of a join. -/
inductive JoinTail
  | nothing
  /-- A condition, which may be missing. -/
  | condition
  /-- A condition on the nearest rows, and then another one. -/
  | nearest
  deriving DecidableEq

/-- What joins two relations: the text between them and what follows the second. -/
structure JoinMark where
  text : String
  tail : JoinTail
  deriving DecidableEq

/-- Reads from which sides of a join rows are kept, with the word that ends it. -/
def joinSide? : Reader (Option String) := do
  match ← oneOf? ["INNER", "JOIN", "LEFT", "RIGHT", "FULL"] with
  | none => return none
  | some "JOIN" => return some ""
  | some "INNER" =>
    keyword "JOIN"
    return some ""
  | some "FULL" =>
    skip (keyword? "OUTER")
    keyword "JOIN"
    return some " FULL"
  | some side =>
    match ← oneOf ["OUTER", "SEMI", "ANTI", "JOIN"] with
    | "JOIN" => return some (" " ++ side)
    | "OUTER" =>
      keyword "JOIN"
      return some (" " ++ side)
    | kind =>
      keyword "JOIN"
      return some (" " ++ side ++ " " ++ kind)

/-- Reads what joins the next relation, up to that relation. The word `GLOBAL` is taken even if no
join follows. -/
def joinMark? : Reader (Option JoinMark) := do
  let front ← flag "GLOBAL"
  match ← oneOf? ["CROSS", "OUTER", "ASOF"] with
  | some "CROSS" => return some ⟨front ++ " CROSS " ++ (← oneOf ["JOIN", "APPLY"]) ++ " ", .nothing⟩
  | some "OUTER" =>
    keyword "APPLY"
    return some ⟨front ++ " OUTER APPLY ", .nothing⟩
  | some _ =>
    keyword "JOIN"
    return some ⟨front ++ " ASOF JOIN ", .nearest⟩
  | none =>
    let natural ← flag "NATURAL"
    match ← joinSide? with
    | some side =>
      let tail := if natural.isEmpty then JoinTail.condition else JoinTail.nothing
      return some ⟨front ++ natural ++ side ++ " JOIN ", tail⟩
    | none => if natural.isEmpty then return none else fail

/-- Reads the condition of a join. -/
def joinCondition : Reader String := do
  if ← keyword? "ON" then return " ON " ++ (← inner.text)
  else if ← keyword? "USING" then
    return " USING" ++ parens (commas ((← columnNames).map Ident.text))
  else return ""

/-- Reads what follows the right side of a join. -/
def joinTail : JoinTail → Reader String
  | .nothing => return ""
  | .condition => joinCondition inner
  | .nearest => do
    keyword "MATCH_CONDITION"
    let nearest ← inParens inner.text
    return " MATCH_CONDITION " ++ parens nearest ++ (← joinCondition inner)

/-- Reads at most `n` joins, with `factor` for what is joined. -/
def joinsUpTo (factor : Reader Factor) : Nat → Reader (List String)
  | 0 => return []
  | n + 1 => do
    match ← joinMark? with
    | none => return []
    | some mark =>
      let f ← factor
      let tail ← joinTail inner mark.tail
      return (mark.text ++ f.text ++ tail) :: (← joinsUpTo factor n)

/-- Reads what stands between parentheses and is no query: a join, or a relation that may also have
its alias behind the parentheses. -/
def enclosedTable (t : Table) : Reader Factor := do
  symbol ")"
  let outer? ← tableAlias?
  match t.joins, t.factor.relation with
  | [], .joined _ => return ⟨.joined t.text, outer?, ""⟩
  | [], _ =>
    match t.factor.alias?, outer? with
    | some _, some _ => fail
    | own?, _ => return { t.factor with alias? := own?.or outer? }
  | _, _ => return ⟨.joined t.text, outer?, ""⟩

/-- Reads a relation in which at most `n` parentheses lie around one another. -/
def factorUpTo : Nat → Reader Factor
  | 0 => fail
  | n + 1 => do
    if ← atSymbol "(" then
      match ← attempt (derivedTable inner "") with
      | some f => turned inner f
      | none =>
        symbol "("
        let first ← factorUpTo n
        let joins ← joinsUpTo inner (factorUpTo n) (← remaining)
        enclosedTable ⟨first, joins⟩
    else simpleFactor inner

/-- Reads a relation. -/
def factor : Reader Factor := do
  factorUpTo inner (← remaining)

/-- Reads a relation with what is joined to it. -/
def table : Reader Table := do
  let first ← factor inner
  return ⟨first, ← joinsUpTo inner (factor inner) (← remaining)⟩

end

end MatView.Sql
