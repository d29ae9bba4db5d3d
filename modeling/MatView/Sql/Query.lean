import MatView.Sql.Change

/-!
# Reading queries

A query is a select list with its clauses, a set operation over queries, a list of values or a query
in parentheses. Before it may stand queries that have names within it, behind it the order of its
rows and their limits. A change of rows may stand in its place behind named queries.

## Main definitions

* `body`: what a query consists of.
* `Limits`: how many rows a query skips and takes.
* `locks`: what happens to the rows of a query.
* `queryTail`: what follows the body of a query.
* `queryExpr`: a query.
* `level`: the readers at a depth.
-/

namespace MatView.Sql

open Reader

/-- Reads the name of a table, with its schema, as a query. Two tokens behind a name without a
schema are taken too. -/
def tableQuery : Reader String := do
  let first ← next
  let second? ← attempt next
  let third? ← attempt next
  match first, second?, third? with
  | .word schema, some (.symbol "."), some (.word name) =>
    return "TABLE " ++ schema.value ++ "." ++ name.value
  | _, some (.symbol "."), _ => fail
  | .word name, _, _ => return "TABLE " ++ name.value
  | _, _, _ => fail

section

variable (inner : Inner)

/-! ## Bodies -/

/-- Reads what a query consists of, up to a set operation. -/
def simpleBody : Reader QueryExpr := do
  if ← startsWith ["SELECT"] then
    let (s, text) ← select inner
    return ⟨.select s, text⟩
  else if ← keyword? "VALUES" then return ⟨.other, ← rows inner⟩
  else if ← keyword? "TABLE" then return ⟨.other, ← tableQuery⟩
  else return ⟨.other, ← inner.enclosedQuery⟩

/-- Reads a set operation and its right side. -/
def setOperation (operator : String) : Reader String := do
  let which ←
    flags [["DISTINCT", "BY", "NAME"], ["BY", "NAME"], ["ALL", "BY", "NAME"], ["ALL"],
      ["DISTINCT"]]
  let right ← simpleBody inner
  return " " ++ operator ++ which ++ " " ++ right.text

/-- Reads at most `n` set operations. -/
def setOperationsUpTo : Nat → Reader (List String)
  | 0 => return []
  | n + 1 => do
    match ← oneOf? ["UNION", "EXCEPT", "INTERSECT"] with
    | none => return []
    | some operator =>
      let text ← setOperation inner operator
      return text :: (← setOperationsUpTo n)

/-- Reads what a query consists of. -/
def body : Reader QueryExpr := do
  let first ← simpleBody inner
  match ← setOperationsUpTo inner (← remaining) with
  | [] => return first
  | others => return ⟨.other, String.join (first.text :: others)⟩

/-! ## Order and limits -/

/-- Reads how the gaps between ordered rows are filled. -/
def interpolation : Reader String := do
  if ← keyword? "INTERPOLATE" then
    if ← atSymbol "(" then
      let value : Reader String := do
        let name ← ident
        let e? ← option? (keyword? "AS") inner.text
        return name.text ++ behind " AS " e?
      return " INTERPOLATE " ++ parens (commas (← inParens (listBefore ")" value)))
    else return " INTERPOLATE"
  else return ""

/-- Reads the order of the rows. -/
def order : Reader String := do
  match ← orderClause? inner with
  | some text => return " " ++ text ++ (← interpolation inner)
  | none => return ""

/-- How many rows a query skips and takes. -/
structure Limits where
  limit? : Option String
  offset? : Option String

/-- Reads how many rows are skipped. -/
def offset : Reader String := do
  let e ← inner.text
  return e ++ (← flags [["ROW"], ["ROWS"]])

/-- Reads one of the limits, or both, that are not there yet. -/
def moreLimits (l : Limits) : Reader Limits := do
  let limit? ← if l.limit?.isNone then limit? inner else pure l.limit?
  let offset? ←
    if l.offset?.isNone then option? (keyword? "OFFSET") (offset inner) else pure l.offset?
  if limit?.isSome && offset?.isNone then
    if ← symbol? "," then return ⟨some (← inner.text), limit?⟩
  return ⟨limit?, offset?⟩

/-- Reads the limits of a query, in either order, and what they apply to. -/
def limits : Reader String := do
  let l ← moreLimits inner (← moreLimits inner ⟨none, none⟩)
  let group? ← option? (keyword? "BY") inner.listText
  return behind " LIMIT " l.limit? ++ behind " OFFSET " l.offset? ++ behind " BY " group?

/-- Reads how many rows are fetched. -/
def fetching : Reader String := do
  if ← keyword? "FETCH" then
    skip (oneOf ["FIRST", "NEXT"])
    let quantity ←
      if (← oneOf? ["ROW", "ROWS"]).isSome then pure ""
      else
        let c ← constant
        let unit ← flag "PERCENT"
        skip (oneOf ["ROW", "ROWS"])
        pure (" " ++ c.text ++ unit)
    return " FETCH FIRST" ++ quantity ++ " ROWS " ++ (← phrase [["ONLY"], ["WITH", "TIES"]])
  else return ""

/-! ## Locks and formats -/

/-- Reads a text between parentheses, and gives it between quotes as it is. -/
def enclosedText : Reader String := return parens ("'" ++ (← inParens textual) ++ "'")

/-- Reads a text between parentheses if there is one. -/
def enclosedText? : Reader String := do
  if ← atSymbol "(" then enclosedText else return ""

/-- Reads options, each behind a comma, and gives them in the order in which they are listed. The
root element has a name. What is no option is left for what follows. -/
def formOptions (options : List String) : Reader String := do
  let found ← many (symbol? ",") do
    let name := (← phrase? (options.map (·.splitOn " "))).getD ""
    let rest ← if name == "ROOT" then enclosedText else pure ""
    return (name, ", " ++ name ++ rest)
  return String.join (options.filterMap fun name => found.reverse.lookup name)

/-- Reads how the rows are written as one text. -/
def rowForm? : Reader (Option String) := do
  match ← oneOf? ["XML", "JSON", "BROWSE"] with
  | some "XML" =>
    let form ← oneOf ["RAW", "AUTO", "EXPLICIT", "PATH"]
    let name ← if form == "RAW" || form == "PATH" then enclosedText? else pure ""
    let options ← formOptions ["BINARY BASE64", "TYPE", "ROOT", "ELEMENTS"]
    return some ("FOR XML " ++ form ++ name ++ options)
  | some "JSON" =>
    let form ← oneOf ["AUTO", "PATH"]
    return some ("FOR JSON " ++ form ++
      (← formOptions ["ROOT", "INCLUDE_NULL_VALUES", "WITHOUT_ARRAY_WRAPPER"]))
  | some _ => return some "FOR BROWSE"
  | none => return none

/-- Reads a lock on the rows. -/
def lock : Reader String := do
  let kind ← oneOf ["UPDATE", "SHARE"]
  let table? ← option? (keyword? "OF") objectName
  let waiting ← flags [["NOWAIT"], ["SKIP", "LOCKED"]]
  return "FOR " ++ kind ++ behind " OF " (table?.map dotted) ++ waiting

/-- Reads at most `n` locks on the rows, or a form in which they are written, which comes last. -/
def locksUpTo : Nat → Reader (List String)
  | 0 => return []
  | n + 1 => do
    if ← keyword? "FOR" then
      match ← rowForm? with
      | some text => return [text]
      | none =>
        let text ← lock
        return text :: (← locksUpTo n)
    else return []

/-- Reads the locks on the rows. -/
def locks : Reader String := do
  return String.join ((← locksUpTo (← remaining)).map (" " ++ ·))

/-- Reads the format of the answer. -/
def format : Reader String := do
  if ← keyword? "FORMAT" then
    if ← keyword? "NULL" then return " FORMAT NULL" else return " FORMAT " ++ (← ident).text
  else return ""

/-! ## Queries -/

/-- Reads a query that has a name within another. -/
def commonTable : Reader String := do
  let name ← ident
  let columns ← if ← startsWith ["AS"] then pure [] else columnNames?
  keyword "AS"
  let text ← inner.enclosedQuery
  let source? ← option? (keyword? "FROM") ident
  return Alias.text ⟨name, columns⟩ ++ " AS " ++ text ++ behind " FROM " (source?.map Ident.text)

/-- Reads the queries that have names within a query. -/
def commonTables : Reader String := do
  if ← keyword? "WITH" then
    let recursive ← flag "RECURSIVE"
    return "WITH" ++ recursive ++ " " ++ commas (← commaList (commonTable inner)) ++ " "
  else return ""

/-- Reads what follows the body of a query, and gives its text. -/
def queryTail : Reader String := do
  let order ← order inner
  let limits ← limits inner
  let settings? ← option? (keyword? "SETTINGS") settings
  let fetching ← fetching
  let locks ← locks
  return order ++ limits ++ behind " " settings? ++ fetching ++ locks ++ (← format)

/-- Reads a query. -/
def queryExpr : Reader QueryExpr := do
  let front ← commonTables inner
  match ← oneOf? ["INSERT", "UPDATE"] with
  | some "INSERT" => return ⟨.other, front ++ (← insertion inner).text⟩
  | some _ => return ⟨.other, front ++ (← update inner).text⟩
  | none =>
    let q ← body inner
    return ⟨q.body, front ++ q.text ++ (← queryTail inner)⟩

end

/-- The readers that may go down a number of levels. Behind `prior`, expressions may refer to the
row before. -/
def level : Bool → Nat → Inner
  | prior, 0 => ⟨fun _ => throw .tooDeep, throw .tooDeep, prior, fun _ => throw .tooDeep⟩
  | prior, n + 1 =>
    { expr := fun strength => exprAbove (level prior n) strength
      query := queryExpr (level prior n)
      prior
      linked := fun strength => exprAbove (level true n) strength }

end MatView.Sql
