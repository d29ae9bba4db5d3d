import MatView.Sql.Expression

/-!
# Reading patterns of rows

Rows that follow one another can be matched against a pattern, as characters of a text can: the
pattern is made of symbols, each of which stands for the rows that satisfy a condition.

## Main definitions

* `repetition?`: how often a part of a pattern is repeated.
* `patternUpTo`: a pattern.
* `rowMatch`: a match of rows, with what is asked for of it.
-/

namespace MatView.Sql

open Reader

/-! ## Patterns -/

/-- Reads the least and the greatest number of repetitions behind the opening brace. -/
def repetitionRange : Reader String := do
  let count := naturalBelow UInt32.size
  if ← symbol? "," then return "," ++ (← count)
  else
    let least ← count
    if ← symbol? "," then
      if ← atSymbol "\x7d" then return least ++ "," else return least ++ "," ++ (← count)
    else return least

/-- Reads how often what stands before is repeated, if this is said next. -/
def repetition? : Reader (Option String) := do
  match ← peek with
  | some (.symbol "*") =>
    skip next
    return some "*"
  | some (.symbol "+") =>
    skip next
    return some "+"
  | some (.placeholder "?") =>
    skip next
    return some "?"
  | some (.symbol "\x7b") =>
    return some ("\x7b" ++ (← between "\x7b" "\x7d" repetitionRange) ++ "\x7d")
  | _ => return none

/-- Reads at most `n` repetitions of one another. -/
def repetitionsUpTo : Nat → Reader String
  | 0 => return ""
  | n + 1 => do
    match ← repetition? with
    | some text => return text ++ (← repetitionsUpTo n)
    | none => return ""

/-- Reads the smallest part of a pattern, where `pattern` reads what stands between parentheses. -/
def patternAtom (pattern : Reader String) : Reader String := do
  match ← peek with
  | some (.symbol "^") =>
    skip next
    return "^"
  | some (.placeholder "$") =>
    skip next
    return "$"
  | some (.symbol "\x7b") =>
    let name ← between "\x7b" "\x7d" (between "-" "-" ident)
    return "\x7b- " ++ name.text ++ " -\x7d"
  | some (.symbol "(") => return "( " ++ (← inParens pattern) ++ " )"
  | _ =>
    let name ← ident
    if name == ⟨"PERMUTE", none⟩ then
      return "PERMUTE" ++ parens (commas ((← columnNames).map Ident.text))
    else return name.text

/-- Reads a pattern in which at most `n` parentheses and bars lie within one another. -/
def patternUpTo : Nat → Reader String
  | 0 => fail
  | n + 1 => do
    let part : Reader String := do
      let atom ← patternAtom (patternUpTo n)
      return atom ++ (← repetitionsUpTo (← remaining))
    let first ← part
    let others ← many (return !((← atSymbol ")") || (← atSymbol "|"))) part
    let parts := " ".intercalate (first :: others)
    if ← symbol? "|" then return parts ++ " | " ++ (← patternUpTo n) else return parts

/-- Reads a pattern between parentheses. -/
def rowPattern : Reader String := inParens do patternUpTo (← remaining)

/-! ## Matches -/

section

variable (inner : Inner)

/-- Reads which rows a match gives. -/
def rowsPerMatch : Reader String := do
  if ← keywords? ["ONE", "ROW", "PER", "MATCH"] then return "ONE ROW PER MATCH "
  else if ← keywords? ["ALL", "ROWS", "PER", "MATCH"] then
    let unmatched ←
      flags [["SHOW", "EMPTY", "MATCHES"], ["OMIT", "EMPTY", "MATCHES"],
        ["WITH", "UNMATCHED", "ROWS"]]
    return "ALL ROWS PER MATCH" ++ unmatched ++ " "
  else return ""

/-- Reads where the next match starts. -/
def nextMatch : Reader String := do
  if ← keywords? ["AFTER", "MATCH", "SKIP"] then
    let place ←
      phrase [["PAST", "LAST", "ROW"], ["TO", "NEXT", "ROW"], ["TO", "FIRST"], ["TO", "LAST"]]
    let name ←
      if place == "TO FIRST" || place == "TO LAST" then pure (" " ++ (← ident).text) else pure ""
    return "AFTER MATCH SKIP " ++ place ++ name ++ " "
  else return ""

/-- Reads a value that a match gives. -/
def measure : Reader String := do
  let e ← inner.text
  skip (keyword? "AS")
  return e ++ " AS " ++ (← ident).text

/-- Reads the condition that a symbol of a pattern stands for. -/
def symbolCondition : Reader String := do
  let name ← ident
  keyword "AS"
  return name.text ++ " AS " ++ (← inner.text)

/-- Reads a match of rows behind its first word. -/
def rowMatch : Reader String := inParens do
  let parts? ← option? (keywords? ["PARTITION", "BY"]) inner.listText
  let order? ← orderClause? inner
  let measures? ← option? (keyword? "MEASURES") (commaList (measure inner))
  let kept ← rowsPerMatch
  let next ← nextMatch
  keyword "PATTERN"
  let pattern ← rowPattern
  keyword "DEFINE"
  let symbols ← commaList (symbolCondition inner)
  return parens ((parts?.elim "" fun text => "PARTITION BY " ++ text ++ " ") ++
    (order?.elim "" (· ++ " ")) ++
    (measures?.elim "" fun texts => "MEASURES " ++ commas texts ++ " ") ++ kept ++ next ++
    "PATTERN " ++ parens pattern ++ " DEFINE " ++ commas symbols)

end

end MatView.Sql
