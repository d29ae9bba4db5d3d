import MatView.Decimal.Binary
import MatView.Store.ColumnType

/-!
# Cells

The content of a cell is typed by its column, so no cell can hold what its column does not. A cell
without content is null. A column of type `null` has no content at all.

## Main definitions

* `ColumnType.Content`: the contents of the cells of a column.
* `Cell`: a cell with the name and type of its column.
* `Column`, `Batch`: part of a result set, all columns equally long.
-/

namespace MatView

mutual

/-- What the cells of a column may hold. -/
def ColumnType.Content : ColumnType → Type
  | .null => Empty
  | .boolean => Bool
  | .int8 => Int8
  | .int16 => Int16
  | .int32 => Int32
  | .int64 => Int64
  | .uint8 => UInt8
  | .uint16 => UInt16
  | .uint32 => UInt32
  | .uint64 => UInt64
  | .float32 => Binary32
  | .float64 => Binary64
  | .utf8 => String
  | .largeUtf8 => String
  | .utf8View => String
  | .binary => List UInt8
  | .largeBinary => List UInt8
  | .fixedSizeBinary _ => List UInt8
  | .dictionary => String
  | .date32 => Int32
  | .date64 => Int64
  | .timestamp _ _ => Int64
  | .decimal _ _ => Int
  | .list item => List (Option item.Content)
  | .largeList item => List (Option item.Content)
  | .map key value => List (key.Content × Option value.Content)
  | .struct fields => FieldContents fields

/-- What the cells of a column of structures hold, field by field. -/
def ColumnType.FieldContents : List (String × ColumnType) → Type
  | [] => Unit
  | (_, type) :: rest => Option type.Content × FieldContents rest

end

/-- A cell with the name and type of its column. -/
structure Cell where
  name : String
  type : ColumnType
  content : Option type.Content

/-- One row of a result set. -/
structure ResultRow where
  cells : List Cell

/-- A column of `height` cells. -/
structure Column (height : Nat) where
  name : String
  type : ColumnType
  cells : Vector (Option type.Content) height

namespace Column

/-- The cell of a column in the row `i`. -/
def cell {height : Nat} (c : Column height) (i : Fin height) : Cell :=
  ⟨c.name, c.type, c.cells[i]⟩

end Column

/-- Part of a result set: columns that are all equally long. -/
structure Batch where
  height : Nat
  columns : List (Column height)

namespace Batch

/-- The row `i` of a batch. -/
def row (b : Batch) (i : Fin b.height) : ResultRow :=
  ⟨b.columns.map (·.cell i)⟩

/-- The rows of a batch in their order. -/
def rows (b : Batch) : List ResultRow :=
  (List.finRange b.height).map b.row

@[simp] theorem length_rows (b : Batch) : b.rows.length = b.height := by
  simp [rows]

end Batch

end MatView
