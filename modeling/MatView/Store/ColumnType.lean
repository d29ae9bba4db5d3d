import MatView.Unicode.Graphic

/-!
# Column types of result sets

The store sends its results as typed columns. Some types differ only in how wide their offsets are
or where their bytes lie (`utf8`, `largeUtf8` and `utf8View`).

## Main definitions

* `ColumnType`: the types.
* `ColumnType.describe`: the name of a type in error messages.
-/

namespace MatView

/-! ## Types -/

/-- The unit of a timestamp. -/
inductive TimeUnit
  | second
  | millisecond
  | microsecond
  | nanosecond
  deriving DecidableEq

namespace TimeUnit

/-- The name of a unit. -/
def label : TimeUnit → String
  | second => "Second"
  | millisecond => "Millisecond"
  | microsecond => "Microsecond"
  | nanosecond => "Nanosecond"

/-- How many of the units make a second. -/
def perSecond : TimeUnit → Nat
  | second => 1
  | millisecond => 1000
  | microsecond => 1000000
  | nanosecond => 1000000000

end TimeUnit

/-- The type of a column of a result set. -/
inductive ColumnType
  | null
  | boolean
  | int8
  | int16
  | int32
  | int64
  | uint8
  | uint16
  | uint32
  | uint64
  | float32
  | float64
  | utf8
  | largeUtf8
  | utf8View
  | binary
  | largeBinary
  | fixedSizeBinary (width : Int)
  /-- Texts that are stored once each and referred to by number. -/
  | dictionary
  /-- Days since 1970. -/
  | date32
  /-- Milliseconds since 1970. -/
  | date64
  | timestamp (unit : TimeUnit) (zone : Option String)
  /-- Unscaled integers and the number of their decimals. -/
  | decimal (precision scale : Int)
  | list (item : ColumnType)
  | largeList (item : ColumnType)
  | map (key value : ColumnType)
  | struct (fields : List (String × ColumnType))

namespace ColumnType

/-! ## Descriptions -/

/-- How a character of a name is shown between quotes. A character without a mark of its own is
shown by its number. -/
def quoteChar (c : Char) : List Char :=
  if c == '"' || c == '\\' then ['\\', c]
  else if c == '\n' then ['\\', 'n']
  else if c == '\r' then ['\\', 'r']
  else if c == '\t' then ['\\', 't']
  else if c.toNat == 0 then ['\\', '0']
  else if Unicode.isGraphic c then [c]
  else "\\u\x7b".toList ++ Nat.toDigits 16 c.toNat ++ ['\x7d']

/-- A name between quotes. -/
def quote (s : String) : String :=
  "\"" ++ String.ofList (s.toList.flatMap quoteChar) ++ "\""

/-- The description of a field, given that of its type. -/
def describeField (name type : String) (nullable : Bool) : String :=
  "Field \x7b name: " ++ quote name ++ ", data_type: " ++ type ++ ", nullable: " ++
    (if nullable then "true" else "false") ++
    ", dict_id: 0, dict_is_ordered: false, metadata: \x7b\x7d \x7d"

/-- The description of a structure, given those of its fields. -/
def describeStruct (fields : List String) : String :=
  "Struct([" ++ ", ".intercalate fields ++ "])"

mutual

/-- The name of a type in error messages. -/
def describe : ColumnType → String
  | null => "Null"
  | boolean => "Boolean"
  | int8 => "Int8"
  | int16 => "Int16"
  | int32 => "Int32"
  | int64 => "Int64"
  | uint8 => "UInt8"
  | uint16 => "UInt16"
  | uint32 => "UInt32"
  | uint64 => "UInt64"
  | float32 => "Float32"
  | float64 => "Float64"
  | utf8 => "Utf8"
  | largeUtf8 => "LargeUtf8"
  | utf8View => "Utf8View"
  | binary => "Binary"
  | largeBinary => "LargeBinary"
  | fixedSizeBinary width => "FixedSizeBinary(" ++ toString width ++ ")"
  | dictionary => "Dictionary(Int32, Utf8)"
  | date32 => "Date32"
  | date64 => "Date64"
  | timestamp unit none => "Timestamp(" ++ unit.label ++ ", None)"
  | timestamp unit (some zone) => "Timestamp(" ++ unit.label ++ ", Some(" ++ quote zone ++ "))"
  | decimal precision scale =>
    "Decimal128(" ++ toString precision ++ ", " ++ toString scale ++ ")"
  | list item => "List(" ++ describeField "item" item.describe true ++ ")"
  | largeList item => "LargeList(" ++ describeField "item" item.describe true ++ ")"
  | map key value =>
    "Map(" ++
      describeField "entries"
        (describeStruct
          [describeField "keys" key.describe false, describeField "values" value.describe true])
        false ++
      ", false)"
  | struct fields => describeStruct (describeFields fields)

/-- The descriptions of the fields of a structure. -/
def describeFields : List (String × ColumnType) → List String
  | [] => []
  | (name, type) :: rest => describeField name type.describe true :: describeFields rest

end

/-- Whether the type is the one whose columns hold nothing. -/
def isNull : ColumnType → Bool
  | null => true
  | _ => false

end ColumnType

end MatView
