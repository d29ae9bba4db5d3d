import MatView.Sql.TypeName

/-!
# Reading parts of points in time

Parts of a point in time are named by words of the language, which are written in upper case, or by
names of any other kind. A span of time has a value and up to two parts, each with a precision.

## Main definitions

* `timeField`: the name of a part.
* `intervalQualifier`: the parts of a span of time.
-/

namespace MatView.Sql

open Reader

/-- The parts that a span of time may be counted in. -/
def timeUnits : List String :=
  ["YEAR", "MONTH", "WEEK", "DAY", "HOUR", "MINUTE", "SECOND", "CENTURY", "DECADE", "DOW", "DOY",
    "EPOCH", "ISODOW", "ISOYEAR", "JULIAN", "MICROSECOND", "MICROSECONDS", "MILLENIUM",
    "MILLENNIUM", "MILLISECOND", "MILLISECONDS", "NANOSECOND", "NANOSECONDS", "QUARTER",
    "TIMEZONE", "TIMEZONE_HOUR", "TIMEZONE_MINUTE"]

/-- The parts that no span of time is counted in. -/
def otherTimeFields : List String :=
  ["DATE", "DATETIME", "DAYOFWEEK", "DAYOFYEAR", "ISOWEEK", "TIME", "TIMEZONE_ABBR",
    "TIMEZONE_REGION"]

/-- Reads the name of a part of a point in time. A week may start on a given day. -/
def timeField : Reader String := do
  match ← oneOf? (timeUnits ++ otherTimeFields) with
  | some "WEEK" =>
    if ← atSymbol "(" then return "WEEK" ++ parens (← inParens ident).text else return "WEEK"
  | some word => return word
  | none => return (← ident).text

/-- Reads a precision with a blank before it, if there is one. -/
def fieldPrecision? : Reader String := do
  if ← atSymbol "(" then return " " ++ (← typeSize) else return ""

/-- Reads the precisions of seconds: how many digits stand before and behind the point. -/
def secondPrecision? : Reader String := do
  if ← atSymbol "(" then
    return " " ++ parens (← inParens do
      let digits ← natural
      if ← symbol? "," then return digits ++ ", " ++ (← natural) else return digits)
  else return ""

/-- Reads the parts of a span of time behind its value. -/
def intervalQualifier : Reader String := do
  let first ← if ← startsWith timeUnits then timeField else pure ""
  let front := if first.isEmpty then "" else " " ++ first
  if first == "SECOND" then return front ++ (← secondPrecision?)
  else
    let digits ← fieldPrecision?
    if ← keyword? "TO" then
      let last ← timeField
      let lastDigits ← if last == "SECOND" then fieldPrecision? else pure ""
      return front ++ digits ++ " TO " ++ last ++ lastDigits
    else return front ++ digits

end MatView.Sql
