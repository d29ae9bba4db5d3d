import MatView.Error

/-!
# Configuration

How statements are adapted to the store and rows are decoded depends on a few settings.

## Main definitions

* `FloatPrecision`: how 64-bit floating-point columns are read.
* `Config`: the settings, with their defaults.
* `Config.validate`: refuses settings that would damage an adapted statement.
-/

namespace MatView

/-- The precision in which 64-bit floating-point columns are read. -/
inductive FloatPrecision
  | narrow
  | wide
  deriving DecidableEq

namespace FloatPrecision

/-- The name of a precision. -/
def name : FloatPrecision → String
  | narrow => "narrow"
  | wide => "wide"

/-- The precision with the name `s`. -/
def ofName? (s : String) : Option FloatPrecision :=
  [narrow, wide].find? (·.name == s)

@[simp] theorem ofName?_name (p : FloatPrecision) : ofName? p.name = some p := by
  cases p <;> decide

/-- Reads the name of a precision in any case and between any blanks. -/
def parse? (s : String) : Option FloatPrecision :=
  ofName? (Text.lowerAscii (String.ofList (Unicode.trim s.toList)))

end FloatPrecision

/-- The settings. -/
structure Config where
  /-- The physical column that holds the key of a row. -/
  keyColumn : String := "rowkey"
  /-- The clause that lets the store evaluate predicates on other columns. -/
  scanClause : String := "ALLOW FILTERING"
  /-- Whether the key column is added to explicit select lists. -/
  injectKeyColumn : Bool := true
  floatPrecision : FloatPrecision := .narrow
  /-- The window bounds of a row whose key cannot be decoded. -/
  windowPlaceholder : Int64 := 0
  deriving DecidableEq

namespace Config

/-- The settings that apply where none are given. -/
def default : Config := {}

/-- What is wrong with the settings, if something is. The key column must be a plain identifier and
the scan clause must not end a statement. -/
def fault? (c : Config) : Option ConfigFault :=
  if (Unicode.trim c.keyColumn.toList).isEmpty then some .emptyKeyColumn
  else if !c.keyColumn.toList.all Text.isPlain then some (.keyColumn c.keyColumn)
  else if c.scanClause.toList.contains ';' then some .scanClause
  else none

/-- The settings, if nothing is wrong with them. -/
def validate (c : Config) : Except Error Config :=
  match c.fault? with
  | some fault => .error (.config fault)
  | none => .ok c

/-- Valid settings are returned as they are. -/
theorem eq_of_validate {c d : Config} (h : c.validate = .ok d) : d = c ∧ c.fault? = none := by
  unfold validate at h
  cases hf : c.fault? <;> simp_all

end Config

end MatView
