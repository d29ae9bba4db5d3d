import MatView.Sql.Call

/-!
# Reading forms of their own

Some functions are called with words between their arguments instead of commas. Each form is read
behind the word that it starts with.

## Main definitions

* `choice`, `conversion`, `recoding`: choosing and converting values.
* `extraction`, `rounding`, `position`, `substring`, `overlay`, `trim`: parts of values.
* `textSearch`, `recordLiteral`, `dictionary`, `mapLiteral`, `arrayElements`: the others.
-/

namespace MatView.Sql

open Reader

section

variable (inner : Inner)

/-! ## Choosing and converting -/

/-- Reads the rest of a choice between cases. -/
def choice : Reader String := do
  let subject ← if ← startsWith ["WHEN"] then pure "" else pure (" " ++ (← inner.text))
  keyword "WHEN"
  let branch : Reader String := do
    let condition ← inner.text
    keyword "THEN"
    return " WHEN " ++ condition ++ " THEN " ++ (← inner.text)
  let first ← branch
  let others ← many (keyword? "WHEN") branch
  let last ← inner.clause "ELSE"
  keyword "END"
  return "CASE" ++ subject ++ String.join (first :: others) ++ last ++ " END"

/-- Reads in which form a value is converted. -/
def conversionFormat? : Reader String := do
  if ← keyword? "FORMAT" then
    let form ← constant
    let zone? ← option? (keywords? ["AT", "TIME", "ZONE"]) constant
    return " FORMAT " ++ form.text ++ behind " AT TIME ZONE " (zone?.map Constant.text)
  else return ""

/-- Reads the rest of a conversion to a type. -/
def conversion (word : String) : Reader String := do
  return word ++ parens (← inParens do
    let e ← inner.text
    keyword "AS"
    let type ← dataType
    return e ++ " AS " ++ type ++ (← conversionFormat?))

/-- Reads the rest of a conversion to a type or to a set of characters. -/
def recoding (word : String) : Reader String := do
  return word ++ parens (← inParens do
    let e ← inner.text
    if ← keyword? "USING" then return e ++ " USING " ++ dotted (← objectName)
    else
      symbol ","
      let type ← dataType
      let set? ← option? (keywords? ["CHARACTER", "SET"]) objectName
      return e ++ ", " ++ type ++ behind " CHARACTER SET " (set?.map dotted))

/-- Reads the rest of a test for rows. -/
def existence : Reader String := do
  return "EXISTS " ++ (← inner.enclosedQuery)

/-! ## Parts of values -/

/-- Reads the rest of the extraction of a part of a point in time. -/
def extraction : Reader String := do
  return "EXTRACT" ++ parens (← inParens do
    let field ← timeField
    if ← keyword? "FROM" then return field ++ " FROM " ++ (← inner.text)
    else
      symbol ","
      return field ++ ", " ++ (← inner.text))

/-- Reads the rest of the rounding to a part of a point in time or to a number of digits. -/
def rounding (word : String) : Reader String := do
  return word ++ parens (← inParens do
    let e ← inner.text
    if ← keyword? "TO" then return e ++ " TO " ++ (← timeField)
    else if ← symbol? "," then return e ++ ", " ++ (← constantOf [.number])
    else return e)

/-- Reads the rest of a search for the position of a text. What is looked for ends before an
operator that binds no more tightly than `strength`, which is that of `IN`. -/
def position (strength : Nat) : Reader String := do
  return "POSITION" ++ parens (← inParens do
    let part ← inner.expr strength
    keyword "IN"
    return part.text ++ " IN " ++ (← inner.text))

/-- Reads the rest of the choice of a part of a text. -/
def substring : Reader String := do
  return "SUBSTRING" ++ parens (← inParens do
    let e ← inner.text
    let special ← symbol? ","
    let start? ←
      if special then pure (some (← inner.text)) else option? (keyword? "FROM") inner.text
    let length? ←
      if ← keyword? "FOR" then pure (some (← inner.text)) else option? (symbol? ",") inner.text
    return e ++ behind (if special then ", " else " FROM ") start? ++
      behind (if special then ", " else " FOR ") length?)

/-- Reads the rest of the replacement of a part of a text. -/
def overlay : Reader String := do
  return "OVERLAY" ++ parens (← inParens do
    let e ← inner.text
    keyword "PLACING"
    let what ← inner.text
    keyword "FROM"
    let start ← inner.text
    return e ++ " PLACING " ++ what ++ " FROM " ++ start ++ (← inner.clause "FOR"))

/-- Reads the rest of the removal of characters at the ends of a text. -/
def trim : Reader String := do
  return "TRIM" ++ parens (← inParens do
    let side ← oneOf? ["BOTH", "LEADING", "TRAILING"]
    let front := side.elim "" (· ++ " ")
    let e ← inner.text
    if ← keyword? "FROM" then return front ++ e ++ " FROM " ++ (← inner.text)
    else if ← symbol? "," then return e ++ ", " ++ (← inner.listText)
    else return front ++ e)

/-! ## Collections -/

/-- Reads the elements of an array between brackets. -/
def arrayElements : Reader String := do
  return "[" ++ Expr.listText (← between "[" "]" (listBefore "]" inner.whole)) ++ "]"

/-- Reads pairs of keys and values between braces. -/
def pairs (key : Reader String) : Reader String := do
  let pair : Reader String := do
    let k ← key
    symbol ":"
    return k ++ ": " ++ (← inner.text)
  return "\x7b" ++ commas (← between "\x7b" "\x7d" (listBefore "\x7d" pair)) ++ "\x7d"

/-- Reads values by the names of their keys. -/
def dictionary : Reader String := pairs inner (return (← ident).text)

/-- Reads the rest of a map from values to values. -/
def mapLiteral : Reader String := return "MAP " ++ (← pairs inner inner.text)

/-- Reads the rest of a record, whose members may have types or else names. -/
def recordLiteral : Reader String := do
  let (members, closesOuter) ← recordMembers (typeUpTo (← remaining))
  if closesOuter then fail
  let value : Reader String := do
    let e ← inner.text
    if ← keyword? "AS" then
      if members.isEmpty then return e ++ " AS " ++ (← ident).text else fail
    else return e
  return recordText members ++ parens (commas (← parenList value))

/-! ## Searches -/

/-- Reads the rest of a search for words in columns. -/
def textSearch : Reader String := do
  let columns ← columnNames
  keyword "AGAINST"
  let query ← inParens do
    let words ← constant
    let mode ←
      flags [["IN", "NATURAL", "LANGUAGE", "MODE", "WITH", "QUERY", "EXPANSION"],
        ["IN", "NATURAL", "LANGUAGE", "MODE"], ["IN", "BOOLEAN", "MODE"],
        ["WITH", "QUERY", "EXPANSION"]]
    return words.text ++ mode
  return "MATCH " ++ parens (commas (columns.map Ident.text)) ++ " AGAINST " ++ parens query

end

end MatView.Sql
