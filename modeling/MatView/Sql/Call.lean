import MatView.Sql.TimeField

/-!
# Reading calls

A call has arguments, clauses that follow them between the same parentheses, and clauses behind the
parentheses. One of these describes the window of rows that the function is applied to.

## Main definitions

* `wildcard?`: `*` and `t.*`.
* `orderItem`: an element of an order.
* `arguments`: what stands between the parentheses of a call.
* `windowBody`: the window of a function.
* `call`: a call behind the name of its function.
-/

namespace MatView.Sql

open Reader

/-! ## Wildcards -/

/-- Reads names, each behind a point, up to a star. -/
def wildcardTail : Nat → Reader (List Ident)
  | 0 => fail
  | n + 1 => do
    symbol "."
    if ← symbol? "*" then return []
    else
      let name ← ident
      return name :: (← wildcardTail n)

/-- Reads `*` or `t.*` if it is next. -/
def wildcard? : Reader (Option String) := do
  if ← symbol? "*" then return some "*"
  else
    attempt do
      let first ← ident
      let others ← wildcardTail (← remaining)
      return dotted (first :: others) ++ ".*"

section

variable (inner : Inner)

/-! ## Orders -/

/-- Reads how the gaps between values are filled. -/
def filling : Reader String := do
  if ← keywords? ["WITH", "FILL"] then
    let first ← inner.clause "FROM"
    let last ← inner.clause "TO"
    let step ← inner.clause "STEP"
    return " WITH FILL" ++ first ++ last ++ step
  else return ""

/-- Reads an element of an order. -/
def orderItem : Reader String := do
  let e ← inner.text
  let direction ← flags [["ASC"], ["DESC"]]
  let nulls ← flags [["NULLS", "FIRST"], ["NULLS", "LAST"]]
  return e ++ direction ++ nulls ++ (← filling inner)

/-- Reads the elements of an order. -/
def orderItems : Reader String := return commas (← commaList (orderItem inner))

/-- Reads an order if its words are next. -/
def orderClause? : Reader (Option String) :=
  option? (keywords? ["ORDER", "BY"]) (return "ORDER BY " ++ (← orderItems inner))

/-! ## Arguments -/

/-- Reads `*`, `t.*` or an expression. -/
def wildcardOrExpr : Reader String := do
  match ← wildcard? with
  | some text => return text
  | none => inner.text

/-- Reads an argument of a function, which may have a name. -/
def argument : Reader String := do
  match ← peekSecond with
  | some (.symbol "=>") =>
    let name ← ident
    skip next
    return name.text ++ " => " ++ (← wildcardOrExpr inner)
  | some (.symbol ":=") =>
    let name ← ident
    skip next
    return name.text ++ " := " ++ (← inner.text)
  | _ => wildcardOrExpr inner

/-- Reads whether missing values count. -/
def nullTreatment? : Reader (Option String) := do
  match ← oneOf? ["RESPECT", "IGNORE"] with
  | some word =>
    keyword "NULLS"
    return some (word ++ " NULLS")
  | none => return none

/-- Reads what fills a list that is cut off, if something does. -/
def overflowFiller : Reader String := do
  match ← peek with
  | some (.literal _) | some (.constant .escaped _) | some (.constant .unicode _) =>
    return " " ++ (← inner.text)
  | some (.constant mark _) =>
    if mark == .national || mark == .hexadecimal then return " " ++ (← inner.text) else fail
  | some t => if t.isAmong ["WITH", "WITHOUT"] then return "" else fail
  | none => fail

/-- Reads what happens when a list becomes too long. -/
def overflow? : Reader (Option String) := do
  if ← keywords? ["ON", "OVERFLOW"] then
    if ← keyword? "ERROR" then return some "ON OVERFLOW ERROR"
    else
      keyword "TRUNCATE"
      let filler ← overflowFiller inner
      let which ← oneOf ["WITH", "WITHOUT"]
      keyword "COUNT"
      return some ("ON OVERFLOW TRUNCATE" ++ filler ++ " " ++ which ++ " COUNT")
  else return none

/-- Reads which of several values is meant. -/
def extreme? : Reader (Option String) :=
  option? (keyword? "HAVING") do
    let which ← oneOf ["MIN", "MAX"]
    return "HAVING " ++ which ++ " " ++ (← inner.text)

/-- What stands between the parentheses of a call. -/
structure Arguments where
  text : String
  /-- Whether it says if missing values count. -/
  treatsNulls : Bool

/-- Reads what stands between the parentheses of a call, behind the opening one. -/
def argumentList : Reader Arguments := do
  if ← symbol? ")" then return ⟨"()", false⟩
  else
    let all ← keyword? "ALL"
    let distinct ← keyword? "DISTINCT"
    if all && distinct then fail
    let args ← commaList (argument inner)
    let nulls ← nullTreatment?
    let order ← orderClause? inner
    let limit ← option? (keyword? "LIMIT") (return "LIMIT " ++ (← inner.text))
    let extreme ← extreme? inner
    let separator ← option? (keyword? "SEPARATOR") (return "SEPARATOR " ++ (← constant).text)
    let overflow ← overflow? inner
    symbol ")"
    let front := if all then "ALL " else if distinct then "DISTINCT " else ""
    let clauses := [nulls, order, limit, extreme, separator, overflow].filterMap id
    return ⟨parens (front ++ " ".intercalate (commas args :: clauses)), nulls.isSome⟩

/-- Reads the arguments of a function. -/
def arguments : Reader String := do
  symbol "("
  return (← argumentList inner).text

/-- Reads the arguments of a function if there are any. -/
def arguments? : Reader String := do
  if ← atSymbol "(" then arguments inner else return ""

/-! ## Windows -/

/-- Reads a span of time behind its first word, with a reader for its value. -/
def interval (value : Reader Expr) : Reader String := do
  let e ← value
  return "INTERVAL " ++ e.text ++ (← intervalQualifier)

/-- Reads a bound of the rows of a window. A text is the value of a span of time. -/
def windowBound (value : Reader Expr) : Reader String := do
  if ← keywords? ["CURRENT", "ROW"] then return "CURRENT ROW"
  else
    let distance ←
      if ← keyword? "UNBOUNDED" then pure "UNBOUNDED"
      else
        match ← peek with
        | some (.literal _) => interval value
        | _ => inner.text
    return distance ++ " " ++ (← oneOf ["PRECEDING", "FOLLOWING"])

/-- Reads which rows of a window are taken. -/
def windowFrame (value : Reader Expr) : Reader String := do
  let unit ← oneOf ["ROWS", "RANGE", "GROUPS"]
  if ← keyword? "BETWEEN" then
    let first ← windowBound inner value
    keyword "AND"
    return unit ++ " BETWEEN " ++ first ++ " AND " ++ (← windowBound inner value)
  else return unit ++ " " ++ (← windowBound inner value)

/-- Reads the description of a window, behind the opening parenthesis. -/
def windowBody (value : Reader Expr) : Reader String := do
  let name ←
    if (← peek).any Token.isPlainWord then pure (some (← ident).text) else pure none
  let parts ←
    option? (keywords? ["PARTITION", "BY"]) (return "PARTITION BY " ++ (← inner.listText))
  let order ← orderClause? inner
  let frame ← if ← atSymbol ")" then pure none else pure (some (← windowFrame inner value))
  symbol ")"
  return parens (" ".intercalate ([name, parts, order, frame].filterMap id))

/-- Reads a window: a description between parentheses or the name of one. -/
def window (value : Reader Expr) : Reader String := do
  if ← symbol? "(" then windowBody inner value else return (← ident).text

/-! ## Calls -/

/-- Reads a call behind the name of its function, which may have parameters before its arguments.
`value` reads the value of a span of time. -/
def call (value : Reader Expr) (name : String) : Reader Expr := do
  symbol "("
  let first ← argumentList inner
  let second? ← option? (symbol? "(") (argumentList inner)
  let args := second?.getD first
  let parameters := if second?.isSome then first.text else ""
  let group ←
    option? (keywords? ["WITHIN", "GROUP"]) (inParens do
      keywords ["ORDER", "BY"]
      return "WITHIN GROUP (ORDER BY " ++ (← orderItems inner) ++ ")")
  let nulls ← if args.treatsNulls then pure none else nullTreatment?
  let window? ← option? (keyword? "OVER") (return "OVER " ++ (← window inner value))
  let clauses := [group, nulls, window?].filterMap id
  return .compound (" ".intercalate ((name ++ parameters ++ args.text) :: clauses))

end

end MatView.Sql
