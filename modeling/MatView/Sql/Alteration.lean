import MatView.Sql.Routine

/-!
# Reading alterations

Tables, views and other things are altered and dropped by commands. Nothing of an alteration matters
but that it is well formed.

## Main definitions

* `tableAlteration`: a change of a table.
* `alteration`: any change of a thing that was created.
* `drop`: what is dropped.
-/

namespace MatView.Sql

open Reader

/-! ## Dropping -/

/-- The things that are dropped alike. -/
def droppedKinds : List String :=
  ["TABLE", "VIEW", "INDEX", "ROLE", "SCHEMA", "SEQUENCE", "STAGE", "TYPE"]

/-- Reads the names of dropped things of a kind, and what happens to what depends on them. -/
def droppedThings (kind : String) : Reader Unit := do
  ifThere
  skip (commaList objectName)
  let cascade ← keyword? "CASCADE"
  let restrict ← keyword? "RESTRICT"
  let purge ← keyword? "PURGE"
  if cascade && restrict || kind == "ROLE" && (cascade || restrict || purge) then fail

section

variable (inner : Inner)

/-- Reads what is dropped. -/
def drop : Reader CommandKind := do
  skip (keyword? "TEMPORARY")
  match ← oneOf? droppedKinds with
  | some kind =>
    droppedThings kind
    return .drop
  | none =>
    match ← oneOf ["FUNCTION", "PROCEDURE", "POLICY", "TRIGGER", "SECRET"] with
    | "SECRET" =>
      ifThere
      skip ident
      skipIf (keyword? "FROM") ident
    | "POLICY" =>
      ifThere
      skip ident
      keyword "ON"
      skip objectName
      dependents
    | "TRIGGER" =>
      ifThere
      skip objectName
      keyword "ON"
      skip objectName
      dependents
    | _ =>
      ifThere
      skip (commaList (signature inner))
      dependents
    return .other

/-! ## Tables -/

/-- Reads the place of a new column. -/
def columnPlace : Reader Unit := do
  unless ← keyword? "FIRST" do skipIf (keyword? "AFTER") ident

/-- Reads what is precomputed from a table. -/
def precomputed : Reader Unit := do
  skip unlessThere
  skip ident
  inParens do
    keyword "SELECT"
    skip (items inner)
    skip (grouping? inner)
    skip (order inner)

/-- Reads the new parts of a table, behind their first word. -/
def parts : Reader Unit := do
  skip inner.tuple
  skip (many (keyword? "PARTITION") inner.tuple)

/-- Reads what is added to a table. -/
def addition : Reader Unit := do
  if ← tableConstraint? inner then return
  else if ← keyword? "PROJECTION" then precomputed inner
  else
    skip unlessThere
    if ← keyword? "PARTITION" then parts inner
    else
      skip (keyword? "COLUMN")
      skip unlessThere
      columnDefinition inner
      columnPlace

/-- Reads what is dropped from a table. -/
def removal : Reader Unit := do
  let phrases :=
    [["IF", "EXISTS", "PARTITION"], ["PARTITION"], ["CONSTRAINT"], ["PRIMARY", "KEY"],
      ["PROJECTION"]]
  match ← phrase? phrases with
  | some "PRIMARY KEY" => return
  | some "CONSTRAINT" =>
    ifThere
    skip ident
    skip (keyword? "CASCADE")
  | some "PROJECTION" =>
    ifThere
    skip ident
  | some _ => skip inner.tuple
  | none =>
    skip (keyword? "COLUMN")
    ifThere
    skip ident
    skip (keyword? "CASCADE")

/-- Reads the new name of a table or of a column. -/
def newName : Reader Unit := do
  if ← keyword? "TO" then skip objectName
  else
    skip (keyword? "COLUMN")
    skip ident
    keyword "TO"
    skip ident

/-- Reads which rules of a table are switched on or off. -/
def switching (phrases : List (List String)) : Reader Unit := do
  unless ← keywords? ["ROW", "LEVEL", "SECURITY"] do
    skip (phrase phrases)
    skip ident

/-- Reads the new definition of a column, behind its name. -/
def redefinition : Reader Unit := do
  skip dataType
  skip (many (columnOption? inner) (pure ()))
  columnPlace

/-- Reads a change of a column. -/
def columnAlteration : Reader Unit := do
  skip (keyword? "COLUMN")
  skip ident
  let phrases :=
    [["SET", "NOT", "NULL"], ["DROP", "NOT", "NULL"], ["SET", "DEFAULT"], ["DROP", "DEFAULT"],
      ["SET", "DATA", "TYPE"], ["ADD", "GENERATED"]]
  match ← phrase phrases with
  | "SET DEFAULT" => skip inner.whole
  | "SET DATA TYPE" => skip dataType
  | "ADD GENERATED" =>
    skip (phrase? [["ALWAYS"], ["BY", "DEFAULT"]])
    keywords ["AS", "IDENTITY"]
    sequenceOptions?
  | _ => return

/-- Reads the precomputed part of a table that something happens to. -/
def precomputedPart : Reader Unit := do
  ifThere
  skip ident
  skipIf (keywords? ["IN", "PARTITION"]) ident

/-- The first words of the changes of a table. -/
def tableAlterations : List (List String) :=
  [["ADD"], ["RENAME"], ["DISABLE"], ["ENABLE"], ["CLEAR", "PROJECTION"],
    ["MATERIALIZE", "PROJECTION"], ["DROP"], ["PARTITION"], ["CHANGE"], ["MODIFY"], ["ALTER"],
    ["SWAP"], ["OWNER", "TO"], ["ATTACH"], ["DETACH"], ["FREEZE"], ["UNFREEZE"],
    ["SET", "TBLPROPERTIES"]]

/-- Reads a change of a table. -/
def tableAlteration : Reader Unit := do
  match ← phrase tableAlterations with
  | "ADD" => addition inner
  | "RENAME" => newName
  | "DISABLE" => switching [["RULE"], ["TRIGGER"]]
  | "ENABLE" =>
    switching [["ALWAYS", "RULE"], ["ALWAYS", "TRIGGER"], ["REPLICA", "RULE"],
      ["REPLICA", "TRIGGER"], ["RULE"], ["TRIGGER"]]
  | "DROP" => removal inner
  | "PARTITION" =>
    skip inner.tuple
    keywords ["RENAME", "TO", "PARTITION"]
    skip inner.tuple
  | "CHANGE" =>
    skip (keyword? "COLUMN")
    skip ident
    skip ident
    redefinition inner
  | "MODIFY" =>
    skip (keyword? "COLUMN")
    skip ident
    redefinition inner
  | "ALTER" => columnAlteration inner
  | "SWAP" =>
    keyword "WITH"
    skip objectName
  | "OWNER TO" => skip ident
  | "ATTACH" | "DETACH" =>
    skip (oneOf ["PART", "PARTITION"])
    skip inner.whole
  | "FREEZE" | "UNFREEZE" =>
    skip (oneOf ["PART", "PARTITION"])
    skip inner.whole
    skipIf (keyword? "WITH") do
      keyword "NAME"
      skip ident
  | "SET TBLPROPERTIES" => skip (parenList (setting inner))
  | _ => precomputedPart

/-! ## Any change -/

/-- Reads a change of a policy. -/
def policyAlteration : Reader Unit := do
  skip ident
  keyword "ON"
  skip objectName
  if ← keyword? "RENAME" then
    keyword "TO"
    skip ident
  else
    skipIf (keyword? "TO") (commaList ident)
    policyConditions inner

/-- Reads a change of a thing that was created. -/
def alteration : Reader Unit := do
  match ← oneOf ["VIEW", "TABLE", "INDEX", "POLICY"] with
  | "VIEW" =>
    skip objectName
    skip columnNames?
    settings? inner "WITH"
    keyword "AS"
    skip inner.query
  | "TABLE" =>
    ifThere
    skip (keyword? "ONLY")
    skip objectName
    onCluster
    skip (commaList (tableAlteration inner))
    skipIf (finds (phrase? [["LOCATION"], ["SET", "LOCATION"]])) ident
  | "INDEX" =>
    skip objectName
    keywords ["RENAME", "TO"]
    skip objectName
  | _ => policyAlteration inner

end

end MatView.Sql
