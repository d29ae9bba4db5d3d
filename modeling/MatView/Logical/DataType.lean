import MatView.Text.Ascii
import MatView.Unicode.Blank

/-!
# Logical types

The closed set of types that a schema can declare for a column, with their names.

## Main definitions

* `DataType`: the types.
* `DataType.name`: the canonical name of a type.
* `DataType.ofName?`: the type that a canonical name stands for.
* `DataType.parse`: reading a type name as a person writes it.
-/

namespace MatView

/-- The declared type of a column. -/
inductive DataType
  | string
  | boolean
  | int8
  | int16
  | int32
  | integer
  | int64
  | bigint
  | float32
  | float64
  | double
  | map
  | bytes
  | timestamp
  | decimal
  | array
  | struct
  deriving DecidableEq

namespace DataType

/-- The canonical name of a type. -/
def name : DataType → String
  | string => "STRING"
  | boolean => "BOOLEAN"
  | int8 => "INT8"
  | int16 => "INT16"
  | int32 => "INT32"
  | integer => "INTEGER"
  | int64 => "INT64"
  | bigint => "BIGINT"
  | float32 => "FLOAT32"
  | float64 => "FLOAT64"
  | double => "DOUBLE"
  | map => "MAP"
  | bytes => "BYTES"
  | timestamp => "TIMESTAMP"
  | decimal => "DECIMAL"
  | array => "ARRAY"
  | struct => "STRUCT"

/-- All types. -/
def all : List DataType :=
  [string, boolean, int8, int16, int32, integer, int64, bigint, float32, float64, double, map,
   bytes, timestamp, decimal, array, struct]

theorem mem_all (t : DataType) : t ∈ all := by
  cases t <;> decide

/-- The type with the canonical name `s`. -/
def ofName? (s : String) : Option DataType :=
  all.find? (·.name == s)

/-- Every type is found under its own name. -/
@[simp] theorem ofName?_name (t : DataType) : ofName? t.name = some t := by
  cases t <;> decide

/-- Reads a type name in any case and between any blanks. `VARCHAR` and `INT` are second names of
`STRING` and `INTEGER`. A name that stands for no type is handed back as it was compared. -/
def parse (s : String) : Except String DataType :=
  let folded := Text.upperAscii (String.ofList (Unicode.trim s.toList))
  if folded == "VARCHAR" then .ok string
  else if folded == "INT" then .ok integer
  else
    match ofName? folded with
    | some t => .ok t
    | none => .error folded

end DataType

end MatView
