import MatView.Sql.Query

/-!
# Reading definitions

Tables, views and other things are created by commands. Nothing of them matters but whether a table
is created and that they are well formed.

## Main definitions

* `columnDefinition`, `tableConstraint?`: what a table consists of.
* `tableDefinition`, `viewDefinition`, `indexDefinition`: definitions behind their first words.
-/

namespace MatView.Sql

open Reader

/-! ## Common parts -/

/-- Reads `IF EXISTS` if it is next. -/
def ifThere : Reader Unit := skip (keywords? ["IF", "EXISTS"])

/-- Reads `IF NOT EXISTS` if it is next. -/
def unlessThere : Reader Bool := keywords? ["IF", "NOT", "EXISTS"]

/-- Reads on which servers something happens. -/
def onCluster : Reader Unit := skipIf (keywords? ["ON", "CLUSTER"]) ident

/-- Reads what happens to what depends on a dropped or changed thing. -/
def dependents : Reader Unit := skip (oneOf? ["CASCADE", "RESTRICT"])

/-- Reads what happens to rows that refer to a changed one. -/
def referentialAction : Reader Unit :=
  skip (phrase [["RESTRICT"], ["CASCADE"], ["SET", "NULL"], ["NO", "ACTION"], ["SET", "DEFAULT"]])

/-- Which aspects of a condition on a table have been settled. -/
structure Settled where
  deferrable : Bool := false
  initially : Bool := false
  enforced : Bool := false

/-- Reads at most `n` aspects of when a condition is checked, each of them once. -/
def characteristicsUpTo : Nat → Settled → Reader Unit
  | 0, _ => return
  | n + 1, s => do
    if ← onlyIf (!s.deferrable) (finds (phrase? [["NOT", "DEFERRABLE"], ["DEFERRABLE"]])) then
      characteristicsUpTo n { s with deferrable := true }
    else if ← onlyIf (!s.initially) (keyword? "INITIALLY") then
      skip (oneOf ["DEFERRED", "IMMEDIATE"])
      characteristicsUpTo n { s with initially := true }
    else if ← onlyIf (!s.enforced) (finds (phrase? [["ENFORCED"], ["NOT", "ENFORCED"]])) then
      characteristicsUpTo n { s with enforced := true }
    else return

/-- Reads when a condition is checked. -/
def characteristics : Reader Unit := characteristicsUpTo 3 {}

/-- Reads what happens to rows that refer to a deleted or updated one, each of them once. -/
def referentialActions (onDelete onUpdate : Bool) : Nat → Reader Unit
  | 0 => return
  | n + 1 => do
    if ← onlyIf onDelete (keywords? ["ON", "DELETE"]) then
      referentialAction
      referentialActions false onUpdate n
    else if ← onlyIf onUpdate (keywords? ["ON", "UPDATE"]) then
      referentialAction
      referentialActions onDelete false n
    else return

/-- Reads what a reference to another table does, behind the columns it refers to. -/
def referenceTail : Reader Unit := do
  referentialActions true true 2
  characteristics

/-- Reads the options of a sequence of numbers. -/
def sequenceOptions : Reader Unit := do
  skipIf (keyword? "INCREMENT") do
    skip (keyword? "BY")
    skip signedQuantity
  if ← keyword? "MINVALUE" then skip signedQuantity
  else skip (keywords? ["NO", "MINVALUE"])
  if ← keyword? "MAXVALUE" then skip signedQuantity
  else skip (keywords? ["NO", "MAXVALUE"])
  skipIf (keyword? "START") do
    skip (keyword? "WITH")
    skip signedQuantity
  skipIf (keyword? "CACHE") signedQuantity
  skip (phrase? [["NO", "CYCLE"], ["CYCLE"]])

/-- Reads the options of a sequence of numbers between parentheses if there are any. -/
def sequenceOptions? : Reader Unit := do
  if ← atSymbol "(" then inParens sequenceOptions

section

variable (inner : Inner)

/-- Reads an expression between parentheses. -/
def enclosedExpr : Reader Unit := skip (inParens inner.whole)

/-! ## Options -/

/-- Reads how a table is split by the ranges of a column. -/
def rangeSplit : Reader Unit := inParens do
  skip ident
  keyword "RANGE"
  skip (oneOf? ["LEFT", "RIGHT"])
  keywords ["FOR", "VALUES"]
  skip inner.tuple

/-- Reads how the rows of a table are stored. -/
def clusteredIndex : Reader Unit := do
  match ← phrase [["COLUMNSTORE", "INDEX", "ORDER"], ["COLUMNSTORE", "INDEX"], ["INDEX"]] with
  | "COLUMNSTORE INDEX ORDER" => skip columnNames
  | "INDEX" =>
    skip (parenList do
      skip ident
      skip (oneOf? ["ASC", "DESC"]))
  | _ => return

/-- Reads an option: a name and its value, or one of some forms. -/
def setting : Reader Unit := do
  if ← startsWith ["HEAP"] then skip ident
  else if ← keyword? "PARTITION" then rangeSplit inner
  else if ← keyword? "CLUSTERED" then clusteredIndex
  else
    skip ident
    symbol "="
    skip inner.whole

/-- Reads options between parentheses. The result tells whether there are any. -/
def settingList : Reader Bool := do
  return !(← inParens (listBefore ")" (setting inner))).isEmpty

/-- Reads options behind a word if it is next. -/
def settings? (word : String) : Reader Unit := skipIf (keyword? word) (settingList inner)

/-! ## Columns -/

/-- Reads how the values of a column are computed, behind the word `AS`. -/
def computation : Reader Unit := do
  enclosedExpr inner
  skip (oneOf? ["STORED", "VIRTUAL"])

/-- Reads how the values of a column are generated. Without a known way there is no option. -/
def generation : Reader Bool := do
  match ← phrase? [["ALWAYS", "AS", "IDENTITY"], ["BY", "DEFAULT", "AS", "IDENTITY"],
      ["ALWAYS", "AS"]] with
  | some "ALWAYS AS" =>
    if ← atSymbol "(" then
      computation inner
      return true
    else return false
  | some _ =>
    sequenceOptions?
    return true
  | none => return false

/-- Reads a reference to another table, behind its first word. -/
def reference : Reader Unit := do
  skip objectName
  skip columnNames?
  referenceTail

/-- Reads the first and the next number of a column that counts. -/
def identity : Reader Unit := do
  if ← symbol? "(" then
    skip signedQuantity
    symbol ","
    skip signedQuantity
    symbol ")"

/-- The options of a column that are complete in themselves. -/
def bareColumnOptions : List (List String) :=
  [["NOT", "NULL"], ["NULL"], ["AUTO_INCREMENT"], ["AUTOINCREMENT"], ["ASC"], ["DESC"]]

/-- The options of a column that take an expression. -/
def valueColumnOptions : List (List String) :=
  [["DEFAULT"], ["MATERIALIZED"], ["ALIAS"], ["ON", "UPDATE"]]

/-- Reads an option of a column if there is one. -/
def columnOption? : Reader Bool := do
  if (← phrase? bareColumnOptions).isSome then return true
  else if (← phrase? valueColumnOptions).isSome then
    skip inner.whole
    return true
  else
    let found ←
      phrase? [["CHARACTER", "SET"], ["COMMENT"], ["EPHEMERAL"], ["PRIMARY", "KEY"], ["UNIQUE"],
        ["REFERENCES"], ["CHECK"], ["GENERATED"], ["OPTIONS"], ["AS"], ["IDENTITY"],
        ["ON", "CONFLICT"]]
    match found with
    | none => return false
    | some "GENERATED" => generation inner
    | some word =>
      match word with
      | "CHARACTER SET" => skip objectName
      | "COMMENT" => skip literal
      | "EPHEMERAL" => unless (← atSymbol ",") || (← atSymbol ")") do skip inner.whole
      | "PRIMARY KEY" | "UNIQUE" => characteristics
      | "REFERENCES" => reference
      | "CHECK" => enclosedExpr inner
      | "OPTIONS" => skip (settingList inner)
      | "AS" => computation inner
      | "IDENTITY" => identity
      | _ => skip (oneOf ["ROLLBACK", "ABORT", "FAIL", "IGNORE", "REPLACE"])
      return true

/-- Reads an option of a column, its condition with a name, or its collation, if there is one. -/
def columnPart? : Reader Bool := do
  if ← keyword? "CONSTRAINT" then
    skip ident
    if ← columnOption? inner then return true else fail
  else if ← columnOption? inner then return true
  else if ← keyword? "COLLATE" then
    skip objectName
    return true
  else return false

/-- Reads the definition of a column. -/
def columnDefinition : Reader Unit := do
  skip ident
  skip dataType
  skipIf (keyword? "COLLATE") objectName
  skip (many (columnPart? inner) (pure ()))

/-! ## Conditions on tables -/

/-- Reads a kind of index if its first word is next. -/
def indexKind? : Reader Bool := do
  if ← keyword? "USING" then
    skip (oneOf ["BTREE", "HASH"])
    return true
  else return false

/-- Reads an option of an index if there is one. -/
def indexOption? : Reader Bool := do
  if ← indexKind? then return true
  else if ← keyword? "COMMENT" then
    skip textual
    return true
  else return false

/-- Reads the columns of a key, behind its first words. -/
def key : Reader Unit := do
  skip (attempt ident)
  skip indexKind?
  skip columnNames
  skip (many indexOption? (pure ()))
  characteristics

/-- Reads a key of another table, behind its first word. -/
def foreignKey : Reader Unit := do
  keyword "KEY"
  skip columnNames
  keyword "REFERENCES"
  skip objectName
  skip columnNames
  referenceTail

/-- Reads an index of a table, behind its first word. -/
def tableIndex : Reader Unit := do
  unless ← startsWith ["USING"] do skip (attempt ident)
  skip indexKind?
  skip columnNames

/-- Reads an index for words or places, behind its first word. -/
def searchIndex : Reader Unit := do
  skip (oneOf? ["KEY", "INDEX"])
  skip (attempt ident)
  skip columnNames

/-- Reads a condition on a table, or one of its keys, if there is one. -/
def tableConstraint? : Reader Bool := do
  let named ← keyword? "CONSTRAINT"
  if named then skip ident
  match ← oneOf? ["UNIQUE", "PRIMARY", "FOREIGN", "CHECK"] with
  | some "UNIQUE" =>
    skip (oneOf? ["KEY", "INDEX"])
    key
    return true
  | some "PRIMARY" =>
    keyword "KEY"
    key
    return true
  | some "FOREIGN" =>
    foreignKey
    return true
  | some _ =>
    enclosedExpr inner
    return true
  | none =>
    if named then fail
    match ← oneOf? ["INDEX", "KEY", "FULLTEXT", "SPATIAL"] with
    | none => return false
    | some word =>
      if word == "INDEX" || word == "KEY" then tableIndex else searchIndex
      return true

/-- Reads a column of a table or a condition on it. -/
def tableElement : Reader Unit := do
  unless ← tableConstraint? inner do
    match ← peek with
    | some (.word _) => columnDefinition inner
    | _ => fail

/-- Reads the columns of a table if there are any. -/
def tableElements : Reader Unit := do
  if ← symbol? "(" then
    unless ← symbol? ")" do
      skip (commaList (tableElement inner))
      symbol ")"

/-! ## Tables -/

/-- Reads what ends the lines and fields of rows in files. -/
def rowDelimiter? : Reader Bool := do
  match ← oneOf? ["FIELDS", "COLLECTION", "MAP", "LINES", "NULL"] with
  | none => return false
  | some word =>
    let behindWord :=
      match word with
      | "COLLECTION" => ["ITEMS", "TERMINATED", "BY"]
      | "MAP" => ["KEYS", "TERMINATED", "BY"]
      | "NULL" => ["DEFINED", "AS"]
      | _ => ["TERMINATED", "BY"]
    if ← keywords? behindWord then
      skip ident
      if word == "FIELDS" then skipIf (keywords? ["ESCAPED", "BY"]) ident
      return true
    else return false

/-- Reads how the rows of a table are written in files, behind its first word. -/
def rowFormat : Reader Unit := do
  keyword "FORMAT"
  match ← oneOf? ["SERDE", "DELIMITED"] with
  | some "SERDE" => skip textual
  | _ => skip (many rowDelimiter? (pure ()))

/-- Reads where and in which format the rows of a table are stored, if it is said next. -/
def storage? : Reader Bool := do
  if ← keywords? ["WITH", "SERDEPROPERTIES"] then
    skip (parenList (setting inner))
    return true
  else
    match ← oneOf? ["ROW", "STORED", "LOCATION"] with
    | none => return false
    | some "ROW" =>
      rowFormat
      return true
    | some "STORED" =>
      keyword "AS"
      if ← keyword? "INPUTFORMAT" then
        skip inner.whole
        keyword "OUTPUTFORMAT"
        skip inner.whole
      else skip (oneOf fileFormats)
      return true
    | some _ =>
      skip textual
      return true

/-- Reads where and how the rows of a table are stored. -/
def storage : Reader Unit := skip (many (storage? inner) (pure ()))

/-- Reads the columns by which the files of a table are split. -/
def splitting : Reader Unit :=
  skipIf (keywords? ["PARTITIONED", "BY"]) (parenList (columnDefinition inner))

/-- Reads how the rows of a table are gathered. -/
def gathering : Reader Unit :=
  skipIf (keywords? ["CLUSTERED", "BY"]) do
    skip columnNames
    skipIf (keywords? ["SORTED", "BY"]) (parenList (orderItem inner))
    keyword "INTO"
    skip quantity
    keyword "BUCKETS"

/-- Reads the engine of a table and where it starts to count. -/
def engine : Reader Unit := do
  skipIf (keyword? "ENGINE") do
    symbol "="
    skip wordToken
    if ← atSymbol "(" then skip columnNames
  skipIf (keyword? "AUTO_INCREMENT") do
    skip (symbol? "=")
    skip (naturalBelow UInt32.size)
where
  /-- Reads a name that is no text. -/
  wordToken : Reader Unit := do
    match ← next with
    | .word _ => return
    | _ => fail

/-- Reads the keys of a table that stand behind its columns, and what its rows are split by. -/
def arrangement : Reader Unit := do
  skipIf (keywords? ["PRIMARY", "KEY"]) inner.whole
  skipIf (keywords? ["ORDER", "BY"]) do
    if ← atSymbol "(" then skip (inParens (listBefore ")" inner.whole)) else skip inner.whole
  skipIf (keywords? ["PARTITION", "BY"]) inner.whole
  skipIf (keywords? ["CLUSTER", "BY"]) (commaList ident)
  settings? inner "OPTIONS"

/-- Reads how the texts of a table are written. -/
def characterSet : Reader Unit := do
  skipIf (keywords? ["DEFAULT", "CHARSET"]) do
    symbol "="
    engine.wordToken
  skipIf (keyword? "COLLATE") do
    symbol "="
    engine.wordToken

/-- Reads a comment on a table. -/
def tableComment : Reader Unit :=
  skipIf (keyword? "COMMENT") do
    skip (symbol? "=")
    skip literal

/-- Reads the definition of a table. -/
def tableDefinition : Reader Unit := do
  skip unlessThere
  skip objectName
  onCluster
  skipIf (finds (oneOf? ["LIKE", "ILIKE"])) (attempt objectName)
  skipIf (keyword? "CLONE") (attempt objectName)
  tableElements inner
  skip (keywords? ["WITHOUT", "ROWID"])
  splitting inner
  gathering inner
  storage inner
  settings? inner "WITH"
  settings? inner "TBLPROPERTIES"
  engine
  arrangement inner
  characterSet
  skipIf (keywords? ["ON", "COMMIT"]) (phrase [["DELETE", "ROWS"], ["PRESERVE", "ROWS"], ["DROP"]])
  skip (keyword? "STRICT")
  tableComment
  skipIf (keyword? "AS") inner.query

/-- Reads the definition of a table whose rows are stored elsewhere. -/
def externalTable : Reader Unit := do
  keyword "TABLE"
  skip unlessThere
  skip objectName
  tableElements inner
  splitting inner
  storage inner
  settings? inner "TBLPROPERTIES"

/-- Reads the definition of a table that a module provides. -/
def virtualTable : Reader Unit := do
  keyword "TABLE"
  skip unlessThere
  skip objectName
  keyword "USING"
  skip ident
  if ← atSymbol "(" then skip (inParens (listBefore ")" ident))

/-! ## Views and indexes -/

/-- Reads a column of a view. -/
def viewColumn : Reader Unit := do
  skip ident
  if ← startsWith ["OPTIONS", "COMMENT"] then skip (columnOption? inner)

/-- Reads the definition of a view. -/
def viewDefinition : Reader Unit := do
  skip (keyword? "MATERIALIZED")
  keyword "VIEW"
  skip unlessThere
  skip objectName
  if ← atSymbol "(" then skip (inParens (listBefore ")" (viewColumn inner)))
  settings? inner "WITH"
  skipIf (keyword? "CLUSTER") do
    keyword "BY"
    skip columnNames?
  settings? inner "OPTIONS"
  skipIf (keyword? "TO") objectName
  skipIf (keyword? "COMMENT") do
    symbol "="
    skip literal
  keyword "AS"
  skip inner.query
  skip (keywords? ["WITH", "NO", "SCHEMA", "BINDING"])

/-- Reads the definition of an index. -/
def indexDefinition : Reader Unit := do
  skip (keyword? "CONCURRENTLY")
  let checked ← unlessThere
  unless ← onlyIf (!checked) (keyword? "ON") do
    skip objectName
    keyword "ON"
  skip objectName
  skipIf (keyword? "USING") ident
  skip (parenList (orderItem inner))
  skipIf (keyword? "INCLUDE") columnNames
  skipIf (keyword? "NULLS") do
    skip (keyword? "NOT")
    keyword "DISTINCT"
  skipIf (keyword? "WITH") inner.tuple
  skip (inner.clause "WHERE")

end

end MatView.Sql
