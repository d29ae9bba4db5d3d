import MatView.Sql.Form

/-!
# Reading expressions

An expression is an operand followed by operators, each with what it applies to. Operators bind with
a strength; reading at a strength stops at the first operator that does not bind more tightly.

A standard type before a text makes a constant of that type, wherever an operand may stand, and even
if the text is written as a name. This is tried first.

## Main definitions

* `Binding`: the strengths.
* `operand`, `extend`: what an expression is made of.
* `exprAbove`: an expression at a strength.
-/

namespace MatView.Sql

open Reader

namespace Binding

/-- Of the shift to another zone of time. -/
def zone : Nat := 41

/-- Of products. The sign of a number binds as tightly. -/
def product : Nat := 40

/-- Of sums. -/
def sum : Nat := 30

/-- Of comparisons and tests for membership. -/
def comparison : Nat := 20

/-- Of tests against a pattern. -/
def pattern : Nat := 19

/-- Of a negation. -/
def negation : Nat := 15

/-- The operators that are symbols. -/
def symbols : List (String × Nat) :=
  [("::", 50), ("!", 50), ("[", 50), ("&&", 50), ("^@", 50),
    ("*", product), ("/", product), ("//", product), ("%", product), ("||", product),
    ("+", sum), ("-", sum), ("&", 23), ("^", 22), ("#", 22), ("<<", 22), (">>", 22), ("|", 21),
    ("=", comparison), ("==", comparison), ("<>", comparison), ("<", comparison),
    (">", comparison), ("<=", comparison), (">=", comparison), ("<=>", comparison),
    ("~", comparison), ("~*", comparison), ("!~", comparison), ("!~*", comparison),
    ("~~", comparison), ("~~*", comparison), ("!~~", comparison), ("!~~*", comparison),
    ("->", 16), ("->>", 16), ("#>", 16), ("#>>", 16), ("@>", 16), ("<@", 16), ("#-", 16),
    ("@?", 16), ("@@", 16)]

/-- The operators that can be negated. -/
def negatable : List (String × Nat) :=
  [("IN", comparison), ("BETWEEN", comparison), ("LIKE", pattern), ("ILIKE", pattern),
    ("SIMILAR", pattern), ("REGEXP", pattern), ("RLIKE", pattern)]

/-- The operators that are words. -/
def words : List (String × Nat) :=
  ("OR", 5) :: ("AND", 10) :: ("IS", 17) :: ("OPERATOR", comparison) :: ("XOR", 24) ::
    ("DIV", product) :: negatable

/-- The strength in a table, and zero for what is no operator. -/
def find (table : List (String × Nat)) (text : Option String) : Nat :=
  (text.bind fun t => table.lookup t).getD 0

/-- How tightly tokens bind what stands before them. -/
def ofTokens : List Token → Nat
  | [] => 0
  | .symbol text :: _ => find symbols (some text)
  | t :: behind =>
    match t.keyword? with
    | some "NOT" => find negatable (behind.head?.bind Token.keyword?)
    | some "AT" =>
      if (behind.take 2).map Token.keyword? == [some "TIME", some "ZONE"] then zone else 0
    | word => find words word

/-- How tightly the next tokens bind what stands before them. -/
def ahead : Reader Nat := return ofTokens (← get)

end Binding

section

variable (inner : Inner)

/-! ## Operands -/

/-- Reads the rest of a negation. -/
def negation : Reader Expr := do
  if ← keyword? "EXISTS" then return .compound ("NOT " ++ (← existence inner))
  else return .compound ("NOT " ++ (← inner.expr Binding.negation).text)

/-- Reads what stands between parentheses: a query, an expression or several ones. A point behind
the parentheses takes a member. -/
def nested : Reader Expr := do
  let e ← inParens do
    if ← Inner.atQuery then return Expr.subquery (← inner.query).text
    else return Expr.compound (parens (← inner.listText))
  if ← symbol? "." then
    match ← next with
    | .word name => return .compound (e.text ++ "." ++ name.text)
    | _ => fail
  else return e

/-- The functions that are called without parentheses. -/
def bareFunctions : List String := ["CURRENT_CATALOG", "CURRENT_USER", "SESSION_USER", "USER"]

/-- The functions that may be called without parentheses. -/
def timeFunctions : List String :=
  ["CURRENT_DATE", "CURRENT_TIME", "CURRENT_TIMESTAMP", "LOCALTIME", "LOCALTIMESTAMP"]

/-- Reads a text in a named set of characters, behind the name of the set. -/
def introduced (name : Ident) : Reader Expr := do
  match ← next with
  | .literal value => return .compound (name.value ++ " " ++ quoted '\'' value)
  | .constant mark value => return .compound (name.value ++ " " ++ mark.text value)
  | _ => fail

/-- Whether a text that a name before it may introduce is next. -/
def atIntroduced : Reader Bool := do
  match ← peek with
  | some (.literal _) => return true
  | some (.constant mark _) => return mark == .hexadecimal
  | _ => return false

/-- Reads what starts with a name: a column, a call or a text in a set of characters. -/
def named (value : Reader Expr) (name : Ident) : Reader Expr := do
  if name.value.toList.head? == some '_' && (← atIntroduced) then introduced name
  else
    let parts := name :: (← many (symbol? ".") ident)
    if ← atSymbol "(" then call inner value (dotted parts) else return .column parts

/-- The reader of the rest of a form that starts with a word, if there is such a form. -/
def form? (value : Reader Expr) (name : Ident) (word : String) : Option (Reader String) :=
  match word with
  | "TRUE" => some (return "true")
  | "FALSE" => some (return "false")
  | "NULL" => some (return "NULL")
  | "CASE" => some (choice inner)
  | "CONVERT" | "TRY_CONVERT" => some (recoding inner word)
  | "CAST" | "TRY_CAST" | "SAFE_CAST" => some (conversion inner word)
  | "EXISTS" => some (existence inner)
  | "EXTRACT" => some (extraction inner)
  | "CEIL" | "FLOOR" => some (rounding inner word)
  | "SUBSTRING" => some (substring inner)
  | "OVERLAY" => some (overlay inner)
  | "TRIM" => some (trim inner)
  | "INTERVAL" => some (interval value)
  | "MATCH" => some textSearch
  | "STRUCT" => some (recordLiteral inner)
  | _ =>
    if bareFunctions.contains word then some (return name.text)
    else if timeFunctions.contains word then some (return name.text ++ (← arguments? inner))
    else none

/-- Reads what starts with a word that stands for itself before certain symbols only. -/
def wordedBefore (value : Reader Expr) (name : Ident) (word symbol : String) : Reader Expr := do
  match word, symbol with
  | "POSITION", "(" =>
    match ← attempt (position inner Binding.comparison) with
    | some text => return .compound text
    | none => call inner value name.text
  | "ARRAY", "[" => return .compound ("ARRAY" ++ (← arrayElements inner))
  | "ARRAY", "(" => return .compound ("ARRAY" ++ (← inner.enclosedQuery))
  | "MAP", "\x7b" => return .compound (← mapLiteral inner)
  | _, _ => named inner value name

/-- Reads what starts with a word. -/
def worded (value : Reader Expr) (name : Ident) : Reader Expr := do
  match (Token.word name).keyword? with
  | some "NOT" => negation inner
  | some word =>
    match form? inner value name word with
    | some rest => return .compound (← rest)
    | none =>
      if inner.prior && word == "PRIOR" then
        return .compound ("PRIOR " ++ (← inner.expr Binding.sum).text)
      else
        match ← peek with
        | some (.symbol text) => wordedBefore inner value name word text
        | _ => named inner value name
  | none => named inner value name

/-- Reads a constant of a standard type or a span of time. -/
def typedLiteral (value : Reader Expr) : Reader Expr := do
  let type ← typeName
  match type.kind with
  | .standard => return .compound (type.text ++ " " ++ quoted '\'' (← textual))
  | .interval => return .compound (← interval value)
  | .named => fail

/-- Reads an operand that is not typed. -/
def bareOperand (value : Reader Expr) : Reader Expr := do
  match ← peek with
  | some (.word name) =>
    skip next
    worded inner value name
  | some (.symbol "(") => nested inner
  | some (.symbol "[") => return .compound (← arrayElements inner)
  | some (.symbol "\x7b") => return .compound (← dictionary inner)
  | some (.symbol "-") =>
    skip next
    return .compound ("-" ++ (← inner.expr Binding.product).text)
  | some (.symbol "+") =>
    skip next
    return .compound ("+" ++ (← inner.expr Binding.product).text)
  | _ => return .compound (← constant).text

/-- Reads an operand with at most `n` spans of time within one another. -/
def operandUpTo : Nat → Reader Expr
  | 0 => fail
  | n + 1 => do
    match ← attempt (typedLiteral (operandUpTo n)) with
    | some e => return e
    | none =>
      let e ← bareOperand inner (operandUpTo n)
      if ← keyword? "COLLATE" then
        return .compound (e.text ++ " COLLATE " ++ dotted (← objectName))
      else return e

/-- Reads an operand. -/
def operand : Reader Expr := do operandUpTo inner ((← remaining) + 1)

/-! ## Operators -/

/-- The operators that compare with a set of values. -/
def quantifiable : List String := ["=", "<>", "<", ">", "<=", ">="]

/-- Reads a set of values between parentheses, and gives its text. -/
def valueSet (strength : Nat) : Reader String := do
  unless ← atSymbol "(" do fail
  if (← peekSecond).any (·.isAmong ["SELECT", "WITH"]) then
    match ← inner.expr strength with
    | .subquery text => return parens text
    | e => return parens e.text
  else return parens (← inParens (inner.expr strength)).text

/-- Reads the right side of an operator. -/
def rightSide (operator : String) (strength : Nat) : Reader String := do
  match ← oneOf? ["ANY", "ALL", "SOME"] with
  | none => return (← inner.expr strength).text
  | some word =>
    let values ← valueSet inner strength
    if quantifiable.contains operator then return word ++ values else fail

/-- Reads the rest of a test behind `IS`. -/
def test : Reader String := do
  let negated ← keyword? "NOT"
  let subject ←
    match ← oneOf? ["NULL", "TRUE", "FALSE", "UNKNOWN"] with
    | some word => pure word
    | none =>
      keywords ["DISTINCT", "FROM"]
      pure ("DISTINCT FROM " ++ (← inner.text))
  return (if negated then "IS NOT " else "IS ") ++ subject

/-- Reads the rest of a test against a pattern. -/
def patternTest (word : String) : Reader String := do
  let pattern ← inner.expr Binding.pattern
  let mark ← if ← keyword? "ESCAPE" then pure (" ESCAPE '" ++ (← textual) ++ "'") else pure ""
  return word ++ " " ++ pattern.text ++ mark

/-- Reads the rest of a test for membership. -/
def containment : Reader String := do
  if ← keyword? "UNNEST" then return "IN UNNEST" ++ parens (← inParens inner.text)
  else
    return "IN " ++ parens (← inParens do
      if ← Inner.atQuery then return (← inner.query).text else inner.listText)

/-- Reads the rest of an operator that can be negated. -/
def membership : Reader String := do
  match (← next).keyword? with
  | some "IN" => containment inner
  | some "BETWEEN" =>
    let low ← inner.expr Binding.comparison
    keyword "AND"
    let high ← inner.expr Binding.comparison
    return "BETWEEN " ++ low.text ++ " AND " ++ high.text
  | some "LIKE" => patternTest inner ("LIKE" ++ (← flag "ANY"))
  | some "ILIKE" => patternTest inner ("ILIKE" ++ (← flag "ANY"))
  | some "SIMILAR" =>
    keyword "TO"
    patternTest inner "SIMILAR TO"
  | some "REGEXP" =>
    skip (keyword? "RLIKE")
    return "REGEXP " ++ (← inner.expr Binding.pattern).text
  | some "RLIKE" => return "RLIKE " ++ (← inner.expr Binding.pattern).text
  | _ => fail

/-- Reads the name of an operator between parentheses. -/
def operatorName : Reader String := do
  return "OPERATOR" ++ parens (← inParens do
    let first ← next
    let others ← many (symbol? ".") next
    return ".".intercalate ((first :: others).map Token.text))

/-- Reads what follows a bound of a range of elements: another bound and a stride, each of which may
be missing, up to the closing bracket. -/
def sliceTail : Reader String := do
  if ← symbol? "]" then return ":]"
  else
    let upper ← inner.text
    if ← symbol? "]" then return ":" ++ upper ++ "]"
    else
      symbol ":"
      if ← symbol? "]" then return ":" ++ upper ++ "]"
      else
        let stride ← inner.text
        symbol "]"
        return ":" ++ upper ++ ":" ++ stride ++ "]"

/-- Reads the rest of the choice of elements behind the opening bracket. -/
def subscript : Reader String := do
  if ← symbol? ":" then return "[" ++ (← sliceTail inner)
  else
    let index ← inner.text
    if ← symbol? "]" then return "[" ++ index ++ "]"
    else
      symbol ":"
      return "[" ++ index ++ (← sliceTail inner)

/-- Reads an operator that is a symbol, and what it applies to besides what stands before it. -/
def extendBySymbol (left : Expr) (text : String) (strength : Nat) : Reader Expr := do
  match text with
  | "::" => return .compound (left.text ++ "::" ++ (← dataType))
  | "!" => return .compound (left.text ++ "!")
  | "[" => return .compound (left.text ++ (← subscript inner))
  | "#" => fail
  | _ =>
    let operator := if text == "==" then "=" else text
    return .compound (left.text ++ " " ++ operator ++ " " ++ (← rightSide inner operator strength))

/-- Reads an operator of a strength and what it applies to besides what stands before it. -/
def extend (left : Expr) (strength : Nat) : Reader Expr := do
  let apart (right : String) : Expr := .compound (left.text ++ " " ++ right)
  match ← peek with
  | some (.symbol text) =>
    skip next
    extendBySymbol inner left text strength
  | _ =>
    match ← oneOf? ["AND", "OR", "XOR", "IS", "NOT", "AT", "OPERATOR", "DIV"] with
    | some "IS" => return apart (← test inner)
    | some "NOT" => return apart ("NOT " ++ (← membership inner))
    | some "AT" =>
      keywords ["TIME", "ZONE"]
      return apart ("AT TIME ZONE " ++ (← inner.expr strength).text)
    | some "OPERATOR" =>
      let name ← operatorName
      return apart (name ++ " " ++ (← rightSide inner name strength))
    | some "DIV" => fail
    | some word => return apart (word ++ " " ++ (← rightSide inner word strength))
    | none => return apart (← membership inner)

/-- Reads at most `n` operators that bind more tightly than a strength. -/
def extendWhile (strength : Nat) : Nat → Expr → Reader Expr
  | 0, left => return left
  | n + 1, left => do
    let found ← Binding.ahead
    if strength < found then extendWhile strength n (← extend inner left found)
    else return left

/-- Reads an expression up to the first operator that does not bind more tightly. -/
def exprAbove (strength : Nat) : Reader Expr := do
  let left ← operand inner
  extendWhile inner strength (← remaining) left

end

end MatView.Sql
