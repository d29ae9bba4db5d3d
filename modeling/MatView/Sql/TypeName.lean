import MatView.Sql.Constant

/-!
# Reading types

A type is a standard type, which has a spelling of its own however it is written, or any other name,
with arguments that are not understood. Types may contain types. Two closing angles that follow one
another are one token, so a type may close what lies around it.

## Main definitions

* `TypeName`: a type with its text in normal form.
* `sizedSpelling?`: the standard types that contain no types.
* `dataType`: any type.
-/

namespace MatView.Sql

open Reader

/-- The kinds of types that are told apart before a text. -/
inductive TypeKind
  | standard
  | interval
  | named
  deriving DecidableEq

/-- A type with its text in normal form. -/
structure TypeName where
  kind : TypeKind
  text : String
  /-- Whether its last angles close what lies around it, too. -/
  closesOuter : Bool := false
  deriving DecidableEq

/-! ## Sizes -/

/-- Reads a size between parentheses. -/
def typeSize : Reader String := return parens (← inParens natural)

/-- Reads a size between parentheses if there is one. -/
def typeSize? : Reader String := do
  if ← atSymbol "(" then typeSize else return ""

/-- Reads a length of texts between parentheses if there is one. -/
def textLength? : Reader String := do
  if ← atSymbol "(" then
    return parens (← inParens do
      if ← keyword? "MAX" then return "MAX"
      else return (← natural) ++ (← flags [["CHARACTERS"], ["OCTETS"]]))
  else return ""

/-- Reads a precision and a scale between parentheses if they are there. -/
def precision? : Reader String := do
  if ← atSymbol "(" then
    return parens (← inParens do
      let digits ← natural
      if ← symbol? "," then return digits ++ "," ++ (← natural) else return digits)
  else return ""

/-- Reads whether times are kept with a zone. -/
def timeZone? : Reader String := do
  match ← oneOf? ["WITH", "WITHOUT"] with
  | some word =>
    keywords ["TIME", "ZONE"]
    return " " ++ word ++ " TIME ZONE"
  | none => return ""

/-! ## Standard types -/

/-- The types without a size, and how they are written. -/
def plainTypes : List (String × String) :=
  [("BOOLEAN", "BOOLEAN"), ("BOOL", "BOOL"), ("REAL", "REAL"), ("FLOAT4", "FLOAT4"),
    ("FLOAT8", "FLOAT8"), ("FLOAT32", "Float32"), ("FLOAT64", "FLOAT64"), ("INT16", "Int16"),
    ("INT32", "Int32"), ("INT64", "INT64"), ("INT128", "Int128"), ("INT256", "Int256"),
    ("UINT8", "UInt8"), ("UINT16", "UInt16"), ("UINT32", "UInt32"), ("UINT64", "UInt64"),
    ("UINT128", "UInt128"), ("UINT256", "UInt256"), ("UUID", "UUID"), ("DATE", "DATE"),
    ("DATE32", "Date32"), ("JSON", "JSON"), ("JSONB", "JSONB"), ("REGCLASS", "REGCLASS"),
    ("TEXT", "TEXT"), ("BYTEA", "BYTEA"), ("TRIGGER", "TRIGGER")]

/-- The types with an optional size. -/
def sizedTypes : List String :=
  ["FLOAT", "CLOB", "BINARY", "VARBINARY", "BLOB", "BYTES", "DATETIME", "STRING", "TIMESTAMPTZ",
    "TIMETZ"]

/-- The types of integers, which may be unsigned. -/
def integerTypes : List String :=
  ["TINYINT", "INT2", "SMALLINT", "MEDIUMINT", "INT", "INT4", "INT8", "INTEGER", "BIGINT"]

/-- The types of decimal numbers. -/
def decimalTypes : List String := ["NUMERIC", "DECIMAL", "DEC", "BIGNUMERIC", "BIGDECIMAL"]

/-- Reads what follows a type of characters. -/
def characterType (word : String) : Reader String := do
  if ← keyword? "VARYING" then return word ++ " VARYING" ++ (← textLength?)
  else if ← keywords? ["LARGE", "OBJECT"] then return word ++ " LARGE OBJECT" ++ (← typeSize?)
  else return word ++ (← textLength?)

/-- Reads the texts of an enumeration. -/
def enumeration (word : String) : Reader String := do
  let members ← parenList literal
  return word ++ parens (commas (members.map (quoted '\'')))

/-- Reads the size and the zone of a point in time. -/
def instantType : Reader String := do
  return "DateTime64" ++ parens (← inParens do
    let digits ← natural
    if ← symbol? "," then return digits ++ ", '" ++ (← textual) ++ "'" else return digits)

/-- How to read what follows the first word of a standard type that contains no types, and to give
the text of the whole. -/
def sizedSpelling? (word : String) : Option (Reader String) :=
  match plainTypes.lookup word with
  | some spelling => some (return spelling)
  | none =>
    if sizedTypes.contains word then some (return word ++ (← typeSize?))
    else if integerTypes.contains word then
      some (return word ++ (← typeSize?) ++ (← flag "UNSIGNED"))
    else if decimalTypes.contains word then some (return word ++ (← precision?))
    else
      match word with
      | "DOUBLE" => some (return word ++ (← flag "PRECISION"))
      | "VARCHAR" | "NVARCHAR" => some (return word ++ (← textLength?))
      | "CHARACTER" | "CHAR" => some (characterType word)
      | "TIMESTAMP" | "TIME" => some (return word ++ (← typeSize?) ++ (← timeZone?))
      | "ENUM" | "SET" => some (enumeration word)
      | "FIXEDSTRING" => some (return "FixedString" ++ (← typeSize))
      | "DATETIME64" => some instantType
      | _ => none

/-! ## Other types -/

/-- Reads the arguments of a type that is no standard type. Commas between them may be missing. -/
def typeArguments : Nat → Reader (List String)
  | 0 => fail
  | n + 1 => do
    match ← next with
    | .symbol ")" => return []
    | .symbol "," => typeArguments n
    | .word name => return name.plainText :: (← typeArguments n)
    | .number text _ => return text :: (← typeArguments n)
    | .literal value => return value :: (← typeArguments n)
    | _ => fail

/-- Reads a type that is no standard type. -/
def namedType : Reader TypeName := do
  match ← peek with
  | some (.word _) =>
    let name ← objectName
    let arguments ← if ← symbol? "(" then typeArguments (← remaining) else pure []
    let rest := if arguments.isEmpty then "" else parens (commas arguments)
    return ⟨.named, dotted name ++ rest, false⟩
  | _ => fail

/-! ## Types of types -/

/-- Reads the angle that closes a type, unless a type within it has closed it already. The result
tells whether it also closes what lies around it. -/
def closingAngle (closed : Bool) : Reader Bool := do
  if closed then return false
  else if ← symbol? ">" then return false
  else
    symbol ">>"
    return true

/-- Reads a type in its place, where it closes nothing around it. -/
def closedType (type : Reader TypeName) : Reader String := do
  let t ← type
  if t.closesOuter then fail else return t.text

/-- Reads a member of a record: a type that may have a name before it. -/
def member (type : Reader TypeName) : Reader TypeName := do
  match ← peek, ← peekSecond with
  | some (.word name), some (.word _) =>
    skip next
    let t ← type
    return { t with text := name.text ++ " " ++ t.text }
  | _, _ => type

/-- Reads at most `n` members of a record, up to the angle that closes it. -/
def membersUpTo (type : Reader TypeName) : Nat → Reader (List String × Bool)
  | 0 => fail
  | n + 1 => do
    let m ← member type
    if ← symbol? "," then
      if m.closesOuter then fail
      else
        let (others, closed) ← membersUpTo type n
        return (m.text :: others, closed)
    else return ([m.text], m.closesOuter)

/-- Reads the members of a record between angles if there are any. The second part tells whether
they close what lies around the record. -/
def recordMembers (type : Reader TypeName) : Reader (List String × Bool) := do
  if ← symbol? "<" then
    let (members, closed) ← membersUpTo type (← remaining)
    return (members, ← closingAngle closed)
  else return ([], false)

/-- The text of the members of a record. -/
def recordText (members : List String) : String :=
  if members.isEmpty then "STRUCT" else "STRUCT<" ++ commas members ++ ">"

/-- Reads a name and its type. -/
def namedMember (type : Reader TypeName) : Reader String := do
  let name ← ident
  return name.text ++ " " ++ (← closedType type)

/-- Reads what follows the first word of a type that contains types. -/
def nestingType (type : Reader TypeName) (word : String) : Reader TypeName := do
  match word with
  | "ARRAY" =>
    symbol "<"
    let t ← type
    return ⟨.standard, "ARRAY<" ++ t.text ++ ">", ← closingAngle t.closesOuter⟩
  | "STRUCT" =>
    let (members, closes) ← recordMembers type
    return ⟨.standard, recordText members, closes⟩
  | "UNION" =>
    return ⟨.standard, "UNION" ++ parens (commas (← parenList (namedMember type))), false⟩
  | "NULLABLE" =>
    return ⟨.standard, "Nullable" ++ parens (← inParens (closedType type)), false⟩
  | "LOWCARDINALITY" =>
    return ⟨.standard, "LowCardinality" ++ parens (← inParens (closedType type)), false⟩
  | "MAP" =>
    let (key, value) ← inParens do
      let key ← closedType type
      symbol ","
      return (key, ← closedType type)
    return ⟨.standard, "Map" ++ parens (key ++ ", " ++ value), false⟩
  | "TUPLE" =>
    let members ← parenList (member type)
    return ⟨.standard, "Tuple" ++ parens (commas (members.map TypeName.text)), false⟩
  | _ =>
    return ⟨.standard, "Nested" ++ parens (commas (← parenList (namedMember type))), false⟩

/-- The first words of types that contain types. -/
def nestingTypes : List String :=
  ["ARRAY", "STRUCT", "UNION", "NULLABLE", "LOWCARDINALITY", "MAP", "TUPLE", "NESTED"]

/-- Reads the size of an array behind the type of its elements. -/
def arraySize : Reader String := do
  let size? ← attempt natural
  symbol "]"
  return "[" ++ size?.getD "" ++ "]"

/-- Reads a type that contains at most `n` types within one another. -/
def typeUpTo : Nat → Reader TypeName
  | 0 => fail
  | n + 1 => do
    let word := ((← peek).bind Token.keyword?).getD ""
    let base ←
      match sizedSpelling? word with
      | some rest =>
        skip next
        pure ⟨.standard, ← rest, false⟩
      | none =>
        if word == "INTERVAL" then
          skip next
          pure ⟨.interval, word, false⟩
        else if nestingTypes.contains word then
          skip next
          nestingType (typeUpTo n) word
        else namedType
    let sizes ← many (symbol? "[") arraySize
    if sizes.isEmpty then return base
    else return ⟨.standard, String.join (base.text :: sizes), base.closesOuter⟩

/-- Reads a type. -/
def typeName : Reader TypeName := do
  let t ← typeUpTo (← remaining)
  if t.closesOuter then fail else return t

/-- Reads a type, and gives its text. -/
def dataType : Reader String := return (← typeName).text

end MatView.Sql
