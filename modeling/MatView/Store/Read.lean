import MatView.Store.CellValue

/-!
# Reading cells by column name

A row is read column by column. A reading of a fixed type reads the columns of the types that it
knows and answers nothing for a null cell; any other column is a type mismatch. The generic reading
reads every column. The first column whose name is the given one up to ASCII case is the one read.

## Main definitions

* `ResultRow.find`: the cell of a column.
* `ResultRow.readString`, …, `ResultRow.readMap`: reading as a type.
* `ResultRow.readAny`: reading whatever the type is.
-/

namespace MatView

/-! ## Cells -/

namespace Cell

/-- The answer of a typed reading for a column whose type it does not read. The cells of a column of
type `null` do not count as null here. -/
def refuse {α : Type} (c : Cell) (column expected : String) : Except Error (Option α) :=
  if c.content.isNone && !c.type.isNull then .ok none
  else .error (.typeMismatch column expected c.type.describe)

/-- The text of a cell. -/
def readString (column : String) : Cell → Except Error (Option String)
  | ⟨_, .utf8, s⟩ => .ok s
  | ⟨_, .largeUtf8, s⟩ => .ok s
  | c => c.refuse column "Utf8"

/-- The truth value of a cell. -/
def readBool (column : String) : Cell → Except Error (Option Bool)
  | ⟨_, .boolean, b⟩ => .ok b
  | c => c.refuse column "Boolean"

/-- The integer of a cell of at most 32 bits. -/
def readInt32 (column : String) : Cell → Except Error (Option Int32)
  | ⟨_, .int8, n⟩ => .ok (n.map fun n => .ofInt n.toInt)
  | ⟨_, .int16, n⟩ => .ok (n.map fun n => .ofInt n.toInt)
  | ⟨_, .int32, n⟩ => .ok n
  | c => c.refuse column "Int32"

/-- The integer of a cell of at most 64 bits. -/
def readInt64 (column : String) : Cell → Except Error (Option Int64)
  | ⟨_, .int8, n⟩ => .ok (n.map fun n => .ofInt n.toInt)
  | ⟨_, .int16, n⟩ => .ok (n.map fun n => .ofInt n.toInt)
  | ⟨_, .int32, n⟩ => .ok (n.map fun n => .ofInt n.toInt)
  | ⟨_, .int64, n⟩ => .ok n
  | c => c.refuse column "Int64"

/-- The floating-point number of a cell in 32 bits. -/
def readFloat32 (column : String) : Cell → Except Error (Option Binary32)
  | ⟨_, .float32, x⟩ => .ok x
  | ⟨_, .float64, x⟩ => .ok (x.map Binary64.narrow)
  | c => c.refuse column "Float32"

/-- The floating-point number of a cell in 64 bits. -/
def readFloat64 (column : String) : Cell → Except Error (Option Binary64)
  | ⟨_, .float32, x⟩ => .ok (x.map Binary32.widen)
  | ⟨_, .float64, x⟩ => .ok x
  | c => c.refuse column "Float64"

/-- The entries of a map cell. -/
def readMap (column : String) : Cell → Except Error (Option (List (Value × Value)))
  | ⟨_, .map _ _, none⟩ => .ok none
  | ⟨_, .map key value, some entries⟩ => (ColumnType.entryValues key value entries).map some
  | c => c.refuse column "Map"

/-- The value of a cell. -/
def value (c : Cell) : Except Error Value :=
  c.type.cellValue c.content

end Cell

/-! ## Rows -/

namespace ResultRow

/-- The cell of the first column with the given name. -/
def find (r : ResultRow) (column : String) : Except Error Cell :=
  match r.cells.find? fun c => Text.sameName c.name column with
  | some c => .ok c
  | none => .error (.store (.missingColumn column))

/-- The text in a column. -/
def readString (r : ResultRow) (column : String) : Except Error (Option String) := do
  (← r.find column).readString column

/-- The truth value in a column. -/
def readBool (r : ResultRow) (column : String) : Except Error (Option Bool) := do
  (← r.find column).readBool column

/-- The integer of at most 32 bits in a column. -/
def readInt32 (r : ResultRow) (column : String) : Except Error (Option Int32) := do
  (← r.find column).readInt32 column

/-- The integer of at most 64 bits in a column. -/
def readInt64 (r : ResultRow) (column : String) : Except Error (Option Int64) := do
  (← r.find column).readInt64 column

/-- The floating-point number in a column, in 32 bits. -/
def readFloat32 (r : ResultRow) (column : String) : Except Error (Option Binary32) := do
  (← r.find column).readFloat32 column

/-- The floating-point number in a column, in 64 bits. -/
def readFloat64 (r : ResultRow) (column : String) : Except Error (Option Binary64) := do
  (← r.find column).readFloat64 column

/-- The entries of the map in a column. -/
def readMap (r : ResultRow) (column : String) : Except Error (Option (List (Value × Value))) := do
  (← r.find column).readMap column

/-- The value in a column. -/
def readAny (r : ResultRow) (column : String) : Except Error Value := do
  (← r.find column).value

end ResultRow

end MatView
