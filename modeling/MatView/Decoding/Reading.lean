import MatView.Config.Basic
import MatView.Store.Read

/-!
# Reading columns by declared type

The declared type of a column decides how its cells are read. Types without a reading of their own
are read by the generic one. Only 64-bit floating-point types depend on the configured
precision.

## Main definitions

* `Reading`: the ways of reading a column.
* `Reading.ofType`: the reading of a declared type.
* `ResultRow.readBy`, `ResultRow.readAs`: the value of a column in a row.
-/

namespace MatView

/-- A way of reading a column. -/
inductive Reading
  | string
  | boolean
  | int32
  | int64
  | float32
  | float64
  | map
  | generic
  deriving DecidableEq

namespace Reading

/-- The name of a reading. -/
def label : Reading → String
  | string => "String"
  | boolean => "Boolean"
  | int32 => "Int32"
  | int64 => "Int64"
  | float32 => "Float32"
  | float64 => "Float64"
  | map => "Map"
  | generic => "Generic"

/-- The reading of a 64-bit floating-point type. -/
def ofPrecision : FloatPrecision → Reading
  | .narrow => float32
  | .wide => float64

/-- The reading of a declared type. -/
def ofType (type : DataType) (precision : FloatPrecision) : Reading :=
  match type with
  | .string => string
  | .boolean => boolean
  | .int8 | .int16 | .int32 | .integer => int32
  | .int64 | .bigint => int64
  | .float32 => float32
  | .float64 | .double => ofPrecision precision
  | .map => map
  | .bytes | .timestamp | .decimal | .array | .struct => generic

/-- The value that an optional reading stands for. -/
def orNull {α : Type} (f : α → Value) : Option α → Value
  | some a => f a
  | none => .null

end Reading

namespace ResultRow

/-- The value of a column, read in a given way. -/
def readBy (r : ResultRow) (reading : Reading) (column : String) : Except Error Value :=
  match reading with
  | .string => (r.readString column).map (Reading.orNull .string)
  | .boolean => (r.readBool column).map (Reading.orNull .boolean)
  | .int32 => (r.readInt32 column).map (Reading.orNull .int)
  | .int64 => (r.readInt64 column).map (Reading.orNull .bigint)
  | .float32 => (r.readFloat32 column).map (Reading.orNull .float)
  | .float64 => (r.readFloat64 column).map (Reading.orNull .double)
  | .map => (r.readMap column).map (Reading.orNull .map)
  | .generic => r.readAny column

/-- The value of a column, read as its declared type asks. -/
def readAs (r : ResultRow) (column : String) (type : DataType) (precision : FloatPrecision) :
    Except Error Value :=
  r.readBy (.ofType type precision) column

end ResultRow

end MatView
