import MatView.Catalog.Source
import MatView.Query.Basic

/-!
# Plans

A plan resolves the projection of a query against the schema of its source. It is made once for a
query, before the store is asked, and is the only place where an unknown column is noticed.

## Main definitions

* `Origin`, `PlanColumn`, `Plan`.
* `Plan.build`: the plan of a projection.
* `Plan.columnNames`, `Plan.width`: the shape of the result.
-/

namespace MatView

/-- Where the values of a planned column come from. -/
inductive Origin
  /-- The column called `column` in the result set, read as `type` asks. -/
  | field (column : String) (type : DataType)
  /-- The grouping key of a windowed source. -/
  | windowedKey
  deriving DecidableEq

/-- A column of the result. -/
structure PlanColumn where
  outputName : String
  source : Origin
  deriving DecidableEq

/-- A resolved projection. -/
structure Plan where
  columns : List PlanColumn
  windowed : Bool
  deriving DecidableEq

namespace Plan

/-- The column of a value field in the projection of all columns. -/
def valueColumn (f : Field) : PlanColumn :=
  ⟨f.name, .field f.name f.type⟩

/-- The declared column that a selected column refers to: the one of its own name, else the one of
its output name. -/
def resolve? (schema : Schema) (item : SelectedColumn) : Option Field :=
  (schema.find? item.column).or (schema.find? item.outputName)

/-- The column of a selected column. The store returns it under its output name. -/
def selectedColumn (source : Source) (item : SelectedColumn) : Except Error PlanColumn :=
  match resolve? source.schema item with
  | none => .error (.columnNotFound source.name item.column)
  | some f =>
    if source.isWindowed && source.schema.isKey f.name then
      .ok ⟨item.outputName, .windowedKey⟩
    else .ok ⟨item.outputName, .field item.outputName f.type⟩

/-- The columns of selected columns, up to the first that is unknown. -/
def selectedColumns (source : Source) : List SelectedColumn → Except Error (List PlanColumn)
  | [] => .ok []
  | item :: rest => do
    let column ← selectedColumn source item
    let columns ← selectedColumns source rest
    return column :: columns

/-- The plan of a projection. -/
def build (projection : Projection) (source : Source) : Except Error Plan :=
  match projection with
  | .all => .ok ⟨source.schema.values.map valueColumn, source.isWindowed⟩
  | .columns items => do
    let columns ← selectedColumns source items
    return ⟨columns, source.isWindowed⟩

/-- A plan knows whether its source has windows. -/
theorem windowed_of_build {projection : Projection} {source : Source} {p : Plan}
    (h : build projection source = .ok p) : p.windowed = source.isWindowed := by
  cases projection with
  | all =>
    cases h
    rfl
  | columns items =>
    obtain ⟨columns, -, h⟩ := Error.bind_eq_ok.1 h
    cases h
    rfl

/-- The names of the window bounds of a windowed result. -/
def windowNames : List String := ["WINDOWSTART", "WINDOWEND"]

/-- The output names of the planned columns. -/
def outputNames (p : Plan) : List String :=
  p.columns.map (·.outputName)

/-- The names of the columns of the result. -/
def columnNames (p : Plan) : List String :=
  p.outputNames ++ if p.windowed then windowNames else []

/-- How many values a row of the result has. -/
def width (p : Plan) : Nat :=
  p.columns.length + if p.windowed then 2 else 0

/-- Every value of the result has a name. -/
theorem length_columnNames (p : Plan) : p.columnNames.length = p.width := by
  cases h : p.windowed <;> simp [columnNames, width, outputNames, windowNames, h]

end Plan

end MatView
