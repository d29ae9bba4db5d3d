import MatView.Logical.DataType
import MatView.Window.Format

/-!
# Sources

A source is a stream, a table or a materialized view with a declared schema. The rows of tables and
views lie in a physical table of the store.

## Main definitions

* `Field`, `Schema`: the declared columns, an optional key and the values.
* `Schema.find?`, `Schema.isKey`: looking columns up by name.
* `SourceKind`, `Source`: what is registered in a catalog.
-/

namespace MatView

/-- A named column with its declared type. -/
structure Field where
  name : String
  type : DataType
  deriving DecidableEq

/-- The declared columns of a source. -/
structure Schema where
  key : Option Field
  values : List Field
  deriving DecidableEq

namespace Schema

/-- The key and the values, the key first. -/
def fields (s : Schema) : List Field :=
  s.key.toList ++ s.values

/-- The first column with the given name. -/
def find? (s : Schema) (name : String) : Option Field :=
  s.fields.find? fun f => Text.sameName f.name name

/-- Whether the given name is the name of the key. -/
def isKey (s : Schema) (name : String) : Bool :=
  s.key.any fun f => Text.sameName f.name name

/-- What is found is declared, and under the name it was looked up by. -/
theorem find?_some {s : Schema} {name : String} {f : Field} (h : s.find? name = some f) :
    f ∈ s.fields ∧ Text.sameName f.name name = true := by
  exact ⟨List.mem_of_find?_eq_some h, by simpa using List.find?_some h⟩

/-- The key is found under its own name. -/
theorem find?_of_isKey {s : Schema} {name : String} (h : s.isKey name = true) :
    s.find? name = s.key := by
  cases hk : s.key with
  | none => simp [isKey, hk] at h
  | some f =>
    simp only [isKey, hk, Option.any_some] at h
    simp [find?, fields, hk, h]

end Schema

/-- The kind of a source. -/
inductive SourceKind
  | stream
  | table
  | materializedView
  deriving DecidableEq

namespace SourceKind

/-- The name of a kind. -/
def name : SourceKind → String
  | stream => "STREAM"
  | table => "TABLE"
  | materializedView => "MATERIALIZED_VIEW"

/-- The kind with the name `s`. -/
def ofName? (s : String) : Option SourceKind :=
  [stream, table, materializedView].find? (·.name == s)

@[simp] theorem ofName?_name (k : SourceKind) : ofName? k.name = some k := by
  cases k <;> decide

/-- Whether sources of the kind have rows in the store. Streams have none. -/
def hasRows : SourceKind → Bool
  | stream => false
  | table => true
  | materializedView => true

end SourceKind

/-- A source and the physical table of its rows. A source that a windowed aggregation produced has
a key format. -/
structure Source where
  name : String
  kind : SourceKind := .table
  schema : Schema
  physicalName : String
  keyFormat : Option KeyFormat := none
  deriving DecidableEq

namespace Source

/-- Whether a windowed aggregation produced the source. -/
def isWindowed (s : Source) : Bool :=
  s.keyFormat.isSome

end Source

end MatView
