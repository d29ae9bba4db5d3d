import MatView.Config.Basic
import MatView.Json.Record
import MatView.Text.Integer

/-!
# Reading a configuration

Settings come from a JSON document or from environment variables. What a source does not mention
keeps its default or its former value, and the result is validated.

## Main definitions

* `Config.ofJson`: from the text of a document.
* `Config.ofFile`: from the content of a file.
* `Config.override`: from environment variables.
-/

namespace MatView.Config

/-! ## Documents -/

/-- The names of the settings in a document, in their order. -/
def fieldNames : List String :=
  ["key_column", "scan_clause", "inject_key_column", "float_precision", "window_placeholder"]

/-- A field that is absent keeps the value `old`. -/
def fieldOr {α : Type} (old : α) (read? : Json.Tree → Option α) : Option Json.Tree → Option α
  | none => some old
  | some t => read? t

/-- The settings that a document holds. -/
def ofTree? (t : Json.Tree) : Option Config := do
  match ← t.fields? fieldNames with
  | [key, scan, inject, precision, placeholder] =>
    return {
      keyColumn := ← fieldOr default.keyColumn Json.Tree.string? key
      scanClause := ← fieldOr default.scanClause Json.Tree.string? scan
      injectKeyColumn := ← fieldOr default.injectKeyColumn Json.Tree.bool? inject
      floatPrecision :=
        ← fieldOr default.floatPrecision (Json.Tree.choice? FloatPrecision.ofName?) precision
      windowPlaceholder := ← fieldOr default.windowPlaceholder Json.Tree.int64? placeholder }
  | _ => none

/-- Reads settings from the text of a JSON document. -/
def ofJson (s : String) : Except Error Config :=
  match (Json.Tree.read? s.toList).bind ofTree? with
  | some c => c.validate
  | none => .error (.config .document)

/-- Reads settings from a file, given its bytes if it exists. -/
def ofFile (content : Option (List UInt8)) : Except Error Config :=
  match content with
  | none => .error (.file .missing)
  | some bs =>
    match Utf8.decode bs with
    | .ok s => ofJson s
    | .error _ => .error (.file .notUtf8)

/-! ## Environment variables -/

/-- The environment variables that override settings, each set to a text or not set. -/
structure Variables where
  keyColumn : Option String := none
  scanClause : Option String := none
  injectKeyColumn : Option String := none
  floatPrecision : Option String := none
  windowPlaceholder : Option String := none
  deriving DecidableEq

namespace Variables

/-- The variables as a table from their names shows them. -/
def ofLookup (lookup : String → Option String) : Variables where
  keyColumn := lookup "MVQ_KEY_COLUMN"
  scanClause := lookup "MVQ_SCAN_CLAUSE"
  injectKeyColumn := lookup "MVQ_INJECT_KEY_COLUMN"
  floatPrecision := lookup "MVQ_FLOAT_PRECISION"
  windowPlaceholder := lookup "MVQ_WINDOW_PLACEHOLDER"

end Variables

/-- The truth value of a switch: `true` or `1`, `false` or `0`, in any case and between blanks. No
letter beyond ASCII has one of the letters of these words as its lower-case form. -/
def switch? (s : String) : Option Bool :=
  let folded := Text.lowerAscii (String.ofList (Unicode.trim s.toList))
  if folded == "true" || folded == "1" then some true
  else if folded == "false" || folded == "0" then some false
  else none

/-- A variable that is not set keeps the value `old`; one that cannot be read is an error. -/
def variableOr {α : Type} (old : α) (read? : String → Option α) (fault : String → ConfigFault) :
    Option String → Except Error α
  | none => .ok old
  | some s =>
    match read? s with
    | some a => .ok a
    | none => .error (.config (fault s))

/-- The settings with the variables that are set in place of the former values. -/
def override (c : Config) (vars : Variables) : Except Error Config := do
  let inject ←
    variableOr c.injectKeyColumn switch? .injectVariable vars.injectKeyColumn
  let precision ←
    variableOr c.floatPrecision FloatPrecision.parse? .precisionVariable vars.floatPrecision
  let placeholder ←
    variableOr c.windowPlaceholder (fun s => Text.int64? s.toList) .placeholderVariable
      vars.windowPlaceholder
  validate {
    keyColumn := vars.keyColumn.getD c.keyColumn
    scanClause := vars.scanClause.getD c.scanClause
    injectKeyColumn := inject
    floatPrecision := precision
    windowPlaceholder := placeholder }

end MatView.Config
