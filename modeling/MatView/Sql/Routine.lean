import MatView.Sql.Definition

/-!
# Reading definitions of routines and of rights

Functions, procedures and triggers hold what is run, roles and policies who may do something. All of
them are created by commands that are read only to see whether they are well formed.

## Main definitions

* `functionDefinition`, `procedureDefinition`, `triggerDefinition`: what is run.
* `policyDefinition`, `roleDefinition`, `secretDefinition`: who may do something.
* `schemaDefinition`, `sequenceDefinition`, `typeDefinition`, `extensionDefinition`: other things.
-/

namespace MatView.Sql

open Reader

/-! ## Places and kinds -/

/-- Reads the definition of a schema. -/
def schemaDefinition : Reader Unit := do
  skip unlessThere
  if ← keyword? "AUTHORIZATION" then skip ident
  else
    skip objectName
    skipIf (keyword? "AUTHORIZATION") ident

/-- Reads the definition of a database. -/
def databaseDefinition : Reader Unit := do
  skip unlessThere
  skip objectName
  skip (many (finds (oneOf? ["LOCATION", "MANAGEDLOCATION"])) textual)

/-- Reads the definition of a role. -/
def roleDefinition : Reader Unit := do
  skip unlessThere
  skip (commaList objectName)
  skip (keyword? "WITH")

/-- Reads the definition of a sequence of numbers. -/
def sequenceDefinition : Reader Unit := do
  skip unlessThere
  skip objectName
  skipIf (keyword? "AS") dataType
  sequenceOptions
  skipIf (keywords? ["OWNED", "BY"]) objectName

/-- Reads at most `n` fields of a type, up to the closing parenthesis. A comma may stand before
it. -/
def fieldsUpTo (field : Reader Unit) : Nat → Reader Unit
  | 0 => fail
  | n + 1 => do
    field
    let comma ← symbol? ","
    if ← symbol? ")" then return
    else if comma then fieldsUpTo field n
    else fail

/-- Reads the definition of a type. -/
def typeDefinition : Reader Unit := do
  skip objectName
  keyword "AS"
  if ← keyword? "ENUM" then skip (inParens (listBefore ")" ident))
  else if ← symbol? "(" then
    unless ← symbol? ")" do
      fieldsUpTo (do
        skip ident
        skip dataType
        skipIf (keyword? "COLLATE") objectName) (← remaining)

/-- Reads the definition of an extension. -/
def extensionDefinition : Reader Unit := do
  skip unlessThere
  skip ident
  skipIf (keyword? "WITH") do
    skipIf (keyword? "SCHEMA") ident
    skipIf (keyword? "VERSION") ident
    skip (keyword? "CASCADE")

/-- Reads the definition of a secret. -/
def secretDefinition : Reader Unit := do
  skip unlessThere
  unless ← atSymbol "(" do
    if ← keyword? "IN" then skip ident
    else
      skip ident
      skipIf (keyword? "IN") ident
  inParens do
    keyword "TYPE"
    skip ident
    skipIf (symbol? ",") (commaList do
      skip ident
      skip ident)

section

variable (inner : Inner)

/-! ## Functions -/

/-- Reads a parameter of a function: its type, with a name before it or without one. -/
def parameter : Reader Unit := do
  skip (oneOf? ["IN", "OUT", "INOUT"])
  let type ← typeName
  if type.kind == .named then skip typeName
  skipIf (either (keyword? "DEFAULT") (symbol? "=")) inner.whole

/-- Reads the name of a function, with its parameters if they are there. -/
def signature : Reader Unit := do
  skip objectName
  if ← atSymbol "(" then skip (inParens (listBefore ")" (parameter inner)))

/-- Which parts of a function have been given. -/
structure Given where
  body : Bool := false
  language : Bool := false
  behavior : Bool := false
  nulls : Bool := false
  parallel : Bool := false

/-- Reads the text of a function. -/
def functionText : Reader Unit := do
  match ← peek with
  | some (.constant (.verbatim opening _) _) =>
    if opening.toList.head? == some '$' then skip next else fail
  | _ => skip textual

/-- Reads a part of a function, each of which is given once. -/
def functionPart? (g : Given) : Reader (Option Given) := do
  let part ←
    phrase? [["AS"], ["LANGUAGE"], ["IMMUTABLE"], ["STABLE"], ["VOLATILE"],
      ["CALLED", "ON", "NULL", "INPUT"], ["RETURNS", "NULL", "ON", "NULL", "INPUT"], ["STRICT"],
      ["PARALLEL"], ["RETURN"]]
  match part with
  | none => return none
  | some "AS" =>
    functionText
    once g.body { g with body := true }
  | some "RETURN" =>
    skip inner.whole
    once g.body { g with body := true }
  | some "LANGUAGE" =>
    skip ident
    once g.language { g with language := true }
  | some "PARALLEL" =>
    skip (oneOf ["UNSAFE", "RESTRICTED", "SAFE"])
    once g.parallel { g with parallel := true }
  | some word =>
    if ["IMMUTABLE", "STABLE", "VOLATILE"].contains word then
      once g.behavior { g with behavior := true }
    else once g.nulls { g with nulls := true }
where
  /-- What has been given, unless it was given before. -/
  once (before : Bool) (g : Given) : Reader (Option Given) :=
    if before then fail else return some g

/-- Reads at most `n` parts of a function. -/
def functionPartsUpTo : Nat → Given → Reader Unit
  | 0, _ => return
  | n + 1, g => do
    match ← functionPart? inner g with
    | some g => functionPartsUpTo n g
    | none => return

/-- Reads the definition of a function. -/
def functionDefinition : Reader Unit := do
  skip objectName
  skip (inParens (listBefore ")" (parameter inner)))
  skipIf (keyword? "RETURNS") dataType
  functionPartsUpTo inner 6 {}

/-- Reads the definition of a shorthand for an expression or for a query. -/
def shorthandDefinition : Reader Unit := do
  skip objectName
  skip (inParens (listBefore ")" do
    skip ident
    skipIf (either (symbol? ":=") (symbol? "=>")) inner.whole))
  keyword "AS"
  if ← keyword? "TABLE" then skip inner.query else skip inner.whole

/-- Reads the definition of a procedure, with a reader for its statements. -/
def procedureDefinition (block : Reader Unit) : Reader Unit := do
  skip objectName
  if ← symbol? "(" then
    unless ← symbol? ")" do
      fieldsUpTo (do
        match ← peek with
        | some (.word _) =>
          skip ident
          skip dataType
        | _ => return) (← remaining)
  keywords ["AS", "BEGIN"]
  block
  keyword "END"

/-! ## Triggers -/

/-- Reads when a trigger is run. -/
def triggerEvent : Reader Unit := do
  match ← oneOf ["INSERT", "UPDATE", "DELETE", "TRUNCATE"] with
  | "UPDATE" => skipIf (keyword? "OF") (commaList ident)
  | _ => return

/-- Reads a name for the rows before or after a change, if there is one. The word for these rows may
stand without a name. -/
def referencedRows? : Reader Bool := do
  if (← oneOf? ["OLD", "NEW"]).isNone then return false
  else if ← keyword? "TABLE" then
    skip (keyword? "AS")
    skip objectName
    return true
  else return false

/-- Reads the definition of a trigger. -/
def triggerDefinition : Reader Unit := do
  skip objectName
  skip (phrase [["BEFORE"], ["AFTER"], ["INSTEAD", "OF"]])
  triggerEvent
  skip (many (keyword? "OR") triggerEvent)
  keyword "ON"
  skip objectName
  skipIf (keyword? "FROM") objectName
  characteristics
  skipIf (keyword? "REFERENCING") (many referencedRows? (pure ()))
  keyword "FOR"
  skip (keyword? "EACH")
  skip (oneOf ["ROW", "STATEMENT"])
  skip (inner.clause "WHEN")
  keyword "EXECUTE"
  skip (oneOf ["FUNCTION", "PROCEDURE"])
  signature inner

/-! ## Policies -/

/-- Reads which rows a policy is about. -/
def policyConditions : Reader Unit := do
  skipIf (keyword? "USING") (enclosedExpr inner)
  skipIf (keywords? ["WITH", "CHECK"]) (enclosedExpr inner)

/-- Reads the definition of a policy. -/
def policyDefinition : Reader Unit := do
  skip ident
  keyword "ON"
  skip objectName
  skipIf (keyword? "AS") (oneOf ["PERMISSIVE", "RESTRICTIVE"])
  skipIf (keyword? "FOR") (oneOf ["ALL", "SELECT", "INSERT", "UPDATE", "DELETE"])
  skipIf (keyword? "TO") (commaList ident)
  policyConditions inner

end

end MatView.Sql
