import MatView.Catalog.Source
import MatView.Unicode.Utf8

/-!
# Errors

Every failing operation names its cause. The wording of a cause is fixed in one place, `message`.
An error is a *precondition* error if it says that a query cannot be served at all; such errors are
found before the store is asked.

## Main definitions

* `Error`: the causes, in groups.
* `Error.message`: the wording.
* `Error.isPrecondition`: the errors that no query to the store precedes.

## Main statements

* `Error.bind_eq_ok`: when two steps in a row succeed.
-/

namespace MatView

/-! ## Queries -/

/-- Why a query names no source to be looked up. -/
inductive SourceFault
  /-- The query has no `FROM` clause. -/
  | missing
  /-- The `FROM` clause holds something other than a name. -/
  | notATable
  deriving DecidableEq

namespace SourceFault

/-- The wording of the cause. -/
def message : SourceFault → String
  | missing => "query has no FROM source"
  | notATable => "FROM must name a source table"

end SourceFault

/-- The statements that are no queries. -/
inductive CommandKind
  | insert
  | update
  | delete
  | createTable
  | drop
  | other
  deriving DecidableEq

namespace CommandKind

/-- What such a statement is called. -/
def label : CommandKind → String
  | insert => "INSERT"
  | update => "UPDATE"
  | delete => "DELETE"
  | createTable => "CREATE TABLE"
  | drop => "DROP"
  | other => "other than SELECT"

end CommandKind

/-- What a query asks for that a materialized view does not serve. -/
inductive Unsupported
  | command (kind : CommandKind)
  | setOperation
  | distinct
  | manyTables
  | join
  | expression (text : String)
  | mixedWildcard
  | emptyProjection
  /-- The query has a predicate, but its text has no `WHERE`. -/
  | predicateNotInText
  /-- The source does not follow the first `FROM` of the text. -/
  | sourceNotInText (source : String)
  /-- The text has no `SELECT`. -/
  | selectNotInText
  deriving DecidableEq

namespace Unsupported

/-- The feature that is not served. -/
def feature : Unsupported → String
  | command kind => "statement " ++ kind.label
  | setOperation => "set operations and VALUES"
  | distinct => "SELECT DISTINCT"
  | manyTables => "Multiple tables in FROM clause"
  | join => "JOIN"
  | expression text => "projection expression '" ++ text ++ "'"
  | mixedWildcard => "wildcard mixed with named columns"
  | emptyProjection => "empty projection"
  | predicateNotInText => "predicate outside the statement text"
  | sourceNotInText source => "FROM source '" ++ source ++ "' not found in statement text"
  | selectNotInText => "statement without SELECT"

/-- What to write instead. -/
def hint : Unsupported → String
  | command _ => "Only SELECT can be served from a materialized view"
  | setOperation => "Use a single SELECT"
  | distinct => "Materialized views hold one row per key, drop DISTINCT"
  | manyTables => "Query a single materialized view"
  | join => "Query a single materialized view"
  | expression _ => "Only plain column references can be read from the store"
  | mixedWildcard => "Use either SELECT * or an explicit column list"
  | emptyProjection => "Select at least one column"
  | predicateNotInText => "The parsed query has a WHERE clause the text does not contain"
  | sourceNotInText _ => "Reference the source by its plain name"
  | selectNotInText => "Only SELECT can be served from a materialized view"

end Unsupported

/-- Why a text is not one statement. -/
inductive StatementFault
  /-- The text does not follow the grammar. -/
  | grammar
  /-- The text holds another number of statements. -/
  | count (found : Nat)
  deriving DecidableEq

namespace StatementFault

/-- The wording of the cause. -/
def message : StatementFault → String
  | grammar => "<sql>"
  | count found => "expected one statement, found " ++ toString found

end StatementFault

/-! ## The store and keys -/

/-- What goes wrong between a query and the cells of its result. -/
inductive StoreFault
  /-- The store is set to fail. -/
  | failing (message : String)
  | noTarget (query : String)
  | missingColumn (name : String)
  | timestampRange (seconds : Int)
  deriving DecidableEq

namespace StoreFault

/-- The wording of the cause. -/
def message : StoreFault → String
  | failing message => message
  | noTarget query => "no FROM target in '" ++ query ++ "'"
  | missingColumn name => "column '" ++ name ++ "' not in result set"
  | timestampRange seconds =>
    "timestamp " ++ toString seconds ++ "s does not fit in epoch milliseconds"

end StoreFault

/-- Why a windowed key cannot be decoded or encoded. -/
inductive KeyFault
  | tooShort (window : WindowType) (length : Nat)
  | endOverflow (start size : Int64)
  | reversed (start stop : Int64)
  | notUtf8 (fault : Utf8.Fault)
  | intLength (length : Nat)
  | bigintLength (length : Nat)
  | notJson
  | encoding (typeName : String) (expected : KeyEncoding)
  | notWindowed (source : String)
  | nullColumn (column : String)
  | columnType (column typeName : String)
  /-- A failure with a text of its own. -/
  | custom (message : String)
  deriving DecidableEq

namespace KeyFault

/-- The wording of the cause. -/
def message : KeyFault → String
  | tooShort window length =>
    window.name ++ " windowed key needs at least " ++ toString window.suffixLength ++
      " bytes, got " ++ toString length
  | endOverflow start size =>
    "window end overflows: " ++ toString start.toInt ++ " + " ++ toString size.toInt
  | reversed start stop =>
    "session window starts after it ends: " ++ toString start.toInt ++ " > " ++
      toString stop.toInt
  | notUtf8 fault => "inner key is not UTF-8: " ++ fault.message
  | intLength length => "INT key needs 4 bytes, got " ++ toString length
  | bigintLength length => "expected 8 bytes, got " ++ toString length
  | notJson => "inner key is not JSON: <json>"
  | encoding typeName expected => "cannot encode " ++ typeName ++ " key as " ++ expected.label
  | notWindowed source => "source '" ++ source ++ "' is not windowed"
  | nullColumn column => "key column '" ++ column ++ "' is null"
  | columnType column typeName =>
    "key column '" ++ column ++ "' holds " ++ typeName ++ ", expected BYTES or STRING"
  | custom message => message

end KeyFault

/-! ## Documents and files -/

/-- What is wrong with a configuration. -/
inductive ConfigFault
  /-- The document is no configuration. -/
  | document
  | emptyKeyColumn
  | keyColumn (name : String)
  | scanClause
  | injectVariable (value : String)
  | precisionVariable (value : String)
  | placeholderVariable (value : String)
  deriving DecidableEq

namespace ConfigFault

/-- The wording of the cause. -/
def message : ConfigFault → String
  | document => "<json>"
  | emptyKeyColumn => "key_column must not be empty"
  | keyColumn name => "key_column '" ++ name ++ "' is not a plain identifier"
  | scanClause => "scan_clause must not contain a statement separator"
  | injectVariable value => "MVQ_INJECT_KEY_COLUMN: expected true/false/1/0, got '" ++ value ++ "'"
  | precisionVariable value => "MVQ_FLOAT_PRECISION: unknown precision '" ++ value ++ "'"
  | placeholderVariable value => "MVQ_WINDOW_PLACEHOLDER: not an integer '" ++ value ++ "'"

end ConfigFault

/-- Why a description of types or sources cannot be read. -/
inductive FormatFault
  /-- The document is no list of sources. -/
  | document
  | unknownType (name : String)
  deriving DecidableEq

namespace FormatFault

/-- The wording of the cause. -/
def message : FormatFault → String
  | document => "<json>"
  | unknownType name => "Unsupported logical type: " ++ name

end FormatFault

/-- Why a file cannot be read. -/
inductive FileFault
  | missing
  | notUtf8
  deriving DecidableEq

namespace FileFault

/-- The wording of the cause. -/
def message : FileFault → String
  | missing => "No such file or directory (os error 2)"
  | notUtf8 => "stream did not contain valid UTF-8"

end FileFault

/-! ## Errors -/

/-- Why an operation fails. -/
inductive Error
  | unresolvedSource (fault : SourceFault)
  | sourceNotFound (name : String)
  /-- The source has no rows in the store. -/
  | incompatibleSource (name : String) (kind : SourceKind)
  | columnNotFound (source column : String)
  | unsupportedQuery (what : Unsupported)
  | statement (fault : StatementFault) (text : String)
  | store (fault : StoreFault)
  | typeMismatch (column expected actual : String)
  | key (fault : KeyFault)
  | config (fault : ConfigFault)
  | format (fault : FormatFault)
  /-- A cell whose time zone cannot be shown. -/
  | timeZone (name : String)
  | file (fault : FileFault)
  deriving DecidableEq

namespace Error

/-- The wording of an error. -/
def message : Error → String
  | unresolvedSource fault => "unresolved source: " ++ fault.message
  | sourceNotFound name => "source '" ++ name ++ "' not found"
  | incompatibleSource name kind =>
    "incompatible data type for '" ++ name ++ "'; got " ++ kind.name ++ ", expected " ++
      SourceKind.table.name
  | columnNotFound source column =>
    "column '" ++ column ++ "' not found in source '" ++ source ++ "'"
  | unsupportedQuery what =>
    "query feature not supported: " ++ what.feature ++ "\nHint: " ++ what.hint
  | statement fault text => "SQL parse error: " ++ fault.message ++ "\nSQL: " ++ text
  | store fault => "store error: " ++ fault.message
  | typeMismatch column expected actual =>
    "type mismatch on '" ++ column ++ "': expected " ++ expected ++ ", got " ++ actual
  | key fault => "key decode error: " ++ fault.message
  | config fault => "config error: " ++ fault.message
  | format fault => "serialization error: " ++ fault.message
  | timeZone name =>
    "arrow error: Parser error: Invalid timezone \"" ++ name ++
      "\": only offset based timezones supported without chrono-tz feature"
  | file fault => "io error: " ++ fault.message

/-- Whether the error says that a query cannot be served, whatever the store holds. -/
def isPrecondition : Error → Bool
  | unresolvedSource _ => true
  | sourceNotFound _ => true
  | incompatibleSource _ _ => true
  | columnNotFound _ _ => true
  | unsupportedQuery _ => true
  | statement _ _ => true
  | _ => false

end Error

/-! ## Steps that may fail -/

/-- Two steps succeed if the first does and the second does with what it found. -/
theorem Error.bind_eq_ok {α β : Type} {first : Except Error α} {next : α → Except Error β} {b : β} :
    (first >>= next) = .ok b ↔ ∃ a, first = .ok a ∧ next a = .ok b := by
  cases first <;> simp [bind, Except.bind]

/-- Reads the name of a declared type. -/
def DataType.read (s : String) : Except Error DataType :=
  match parse s with
  | .ok type => .ok type
  | .error name => .error (.format (.unknownType name))

end MatView
