import MatView.Sql.Tree

/-!
# Readers of statements

A reader takes tokens from the front of a statement. It fails if they do not follow the grammar, or
if the statement is nested too deeply. The first kind of failure can be recovered from by reading
the tokens in another way, the second cannot.

Expressions and queries contain one another. The readers for what lies one level deeper are handed
down as `Inner`, so that each reader is an ordinary function.

## Main definitions

* `Fault`, `Reader`: readers and their failures.
* `peek`, `keyword?`, `symbol?` and their kin: reading one token.
* `attempt`, `option?`: reading what may be missing.
* `many`, `commaList`: reading repetitions.
* `ident`, `objectName`, `alias?`: reading names.
* `Inner`: the readers for what lies deeper.
-/

namespace MatView.Sql

/-! ## Readers and their failures -/

/-- Why a statement cannot be read. -/
inductive Fault
  | grammar
  | tooDeep
  deriving DecidableEq

/-- Takes tokens from the front of a statement. -/
abbrev Reader := StateT (List Token) (Except Fault)

namespace Reader

variable {α : Type}

/-- The tokens do not follow the grammar. -/
def fail : Reader α := throw .grammar

/-- How many tokens are left. -/
def remaining : Reader Nat := return (← get).length

/-! ## Single tokens -/

/-- The next token, which stays. -/
def peek : Reader (Option Token) := return (← get).head?

/-- The token behind the next, which stays. -/
def peekSecond : Reader (Option Token) := return (← get)[1]?

/-- Whether a symbol is next. -/
def atSymbol (text : String) : Reader Bool := return (← peek) == some (.symbol text)

/-- Whether no token is left. -/
def atEnd : Reader Bool := return (← get).isEmpty

/-- Takes the next token. -/
def next : Reader Token := do
  match ← get with
  | [] => fail
  | t :: rest => set rest; return t

/-- Takes the next token if it satisfies a condition. -/
def takeIf (p : Token → Bool) : Reader Bool := do
  match ← get with
  | [] => return false
  | t :: rest => if p t then set rest; return true else return false

/-- Takes a symbol if it is next. -/
def symbol? (text : String) : Reader Bool := takeIf (· == .symbol text)

/-- Takes a symbol. -/
def symbol (text : String) : Reader Unit := do
  unless ← symbol? text do fail

/-- Takes a reserved word if it is next. -/
def keyword? (word : String) : Reader Bool := takeIf (·.keyword? == some word)

/-- Takes a reserved word. -/
def keyword (word : String) : Reader Unit := do
  unless ← keyword? word do fail

/-- Takes reserved words that follow one another. -/
def keywords (words : List String) : Reader Unit := words.forM keyword

/-- Takes one of some reserved words if it is next. -/
def oneOf? (words : List String) : Reader (Option String) := do
  match (← peek).bind Token.keyword? with
  | some word => if words.contains word then let _ ← next; return some word else return none
  | none => return none

/-- Takes one of some reserved words. -/
def oneOf (words : List String) : Reader String := do
  match ← oneOf? words with
  | some word => return word
  | none => fail

/-- Takes reserved words that follow one another, if all are there. -/
def keywords? (words : List String) : Reader Bool := do
  let tokens ← get
  if (tokens.take words.length).map Token.keyword? == words.map some then
    set (tokens.drop words.length)
    return true
  else return false

/-- Takes the first of some phrases that is there. -/
def phrase? : List (List String) → Reader (Option String)
  | [] => return none
  | words :: others => do
    if ← keywords? words then return some (" ".intercalate words) else phrase? others

/-- Takes the first of some phrases that is there. -/
def phrase (phrases : List (List String)) : Reader String := do
  match ← phrase? phrases with
  | some text => return text
  | none => fail

/-- Takes a reserved word if it is next, and gives its text with a blank before it. -/
def flag (word : String) : Reader String := do
  return if ← keyword? word then " " ++ word else ""

/-- Takes the first of some phrases that is there, and gives its text with a blank before it. -/
def flags (phrases : List (List String)) : Reader String := do
  return behind " " (← phrase? phrases)

/-- Whether the next token is one of some reserved words. -/
def startsWith (words : List String) : Reader Bool :=
  return (← peek).any (·.isAmong words)

/-! ## Choices and repetitions -/

/-- Reads, or takes nothing if the tokens do not follow the grammar. -/
def attempt (r : Reader α) : Reader (Option α) := fun tokens =>
  match r tokens with
  | .ok (a, rest) => .ok (some a, rest)
  | .error .grammar => .ok (none, tokens)
  | .error .tooDeep => .error .tooDeep

/-- Takes what the first of two readers finds, or else what the second finds. -/
def either (a b : Reader Bool) : Reader Bool := do
  if ← a then return true else b

/-- Looks for something only if a condition holds. -/
def onlyIf (condition : Bool) (r : Reader Bool) : Reader Bool :=
  if condition then r else return false

/-- Whether a reader finds something. -/
def finds (r : Reader (Option α)) : Reader Bool := return (← r).isSome

/-- Reads what `ahead` announces, if it does. -/
def option? (ahead : Reader Bool) (r : Reader α) : Reader (Option α) := do
  if ← ahead then return some (← r) else return none

/-- Reads and forgets what was read. -/
def skip (r : Reader α) : Reader Unit := do
  let _ ← r

/-- Reads what `ahead` announces, if it does, and forgets it. -/
def skipIf (ahead : Reader Bool) (r : Reader α) : Reader Unit := do
  if ← ahead then skip r

/-- Reads at most `n` elements, each announced by `ahead`. -/
def manyUpTo (ahead : Reader Bool) (element : Reader α) : Nat → Reader (List α)
  | 0 => return []
  | n + 1 => do
    if ← ahead then
      let a ← element
      return a :: (← manyUpTo ahead element n)
    else return []

/-- Reads elements as long as `ahead` takes the token that announces one. -/
def many (ahead : Reader Bool) (element : Reader α) : Reader (List α) := do
  manyUpTo ahead element (← remaining)

/-- Reads elements with commas between them. -/
def commaList (element : Reader α) : Reader (List α) := do
  let first ← element
  return first :: (← many (symbol? ",") element)

/-- Reads elements with commas between them, or none if the closing symbol is next. -/
def listBefore (closing : String) (element : Reader α) : Reader (List α) := do
  if ← atSymbol closing then return [] else commaList element

/-- Reads something between two symbols. -/
def between (opening closing : String) (r : Reader α) : Reader α := do
  symbol opening
  let a ← r
  symbol closing
  return a

/-- Reads something between parentheses. -/
def inParens (r : Reader α) : Reader α := between "(" ")" r

/-- Reads elements with commas between them, all between parentheses. -/
def parenList (element : Reader α) : Reader (List α) := inParens (commaList element)

/-! ## Names -/

/-- Reads a name. A text between single quotes is a name too. -/
def ident : Reader Ident := do
  match ← next with
  | .word name => return name
  | .literal value => return ⟨value, some '\''⟩
  | _ => fail

/-- Reads a dotted name. -/
def objectName : Reader (List Ident) := do
  let first ← ident
  return first :: (← many (symbol? ".") ident)

/-- Reads names between parentheses. -/
def columnNames : Reader (List Ident) := parenList ident

/-- Reads names between parentheses if there are any. -/
def columnNames? : Reader (List Ident) := do
  if ← atSymbol "(" then columnNames else return []

/-- Reads an alias if there is one. Without `AS` some words are no alias. -/
def alias? (reserved : List String) : Reader (Option Ident) := do
  let marked ← keyword? "AS"
  match ← peek with
  | some (.literal value) => let _ ← next; return some ⟨value, some '\''⟩
  | some (.word name) =>
    if marked || !(Token.word name).isAmong reserved then
      let _ ← next
      return some name
    else return none
  | _ => if marked then fail else return none

end Reader

/-- The readers for what lies one level deeper. -/
structure Inner where
  /-- Reads an expression up to the first operator that does not bind more tightly. -/
  expr : Nat → Reader Expr
  query : Reader QueryExpr
  /-- Whether an expression may refer to the row before by `PRIOR`. -/
  prior : Bool
  /-- Reads an expression that may refer to the row before. -/
  linked : Nat → Reader Expr

namespace Inner

/-- Reads a whole expression. -/
def whole (inner : Inner) : Reader Expr := inner.expr 0

/-- Reads expressions with commas between them. -/
def exprs (inner : Inner) : Reader (List Expr) := Reader.commaList inner.whole

/-- Reads the text of a whole expression. -/
def text (inner : Inner) : Reader String := return (← inner.whole).text

/-- Reads expressions with commas between them, and gives their text. -/
def listText (inner : Inner) : Reader String := return Expr.listText (← inner.exprs)

/-- Reads expressions between parentheses, and gives their text. -/
def tuple (inner : Inner) : Reader String := return parens (← Reader.inParens inner.listText)

/-- Reads a query between parentheses, and gives its text. -/
def enclosedQuery (inner : Inner) : Reader String :=
  return parens (← Reader.inParens inner.query).text

/-- Reads a clause of one expression if its word is next. -/
def clause (inner : Inner) (word : String) : Reader String := do
  if ← Reader.keyword? word then return " " ++ word ++ " " ++ (← inner.text) else return ""

/-- Whether a query is next. -/
def atQuery : Reader Bool := Reader.startsWith ["SELECT", "WITH"]

end Inner

end MatView.Sql
