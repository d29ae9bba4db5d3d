import MatView.Decoding.Reading
import MatView.Query.Plan
import MatView.Window.Key

/-!
# Decoding rows

A row of a result set is decoded by a plan. For a windowed source the key of the row is decoded
once; a key that cannot be decoded leaves its own values empty and harms nothing else.

## Main definitions

* `KeyLookup.windowedKey`: the windowed key of a row.
* `Decoder.decodePlanned`: the row that a plan asks for.
* `Decoder.decode`: the same for a projection.
-/

namespace MatView

/-! ## Keys -/

/-- Where the key of a row is found and how it is decoded. -/
structure KeyLookup where
  keyColumn : String
  reader : KeyReader := WindowedKey.decode

namespace KeyLookup

/-- The bytes in the key column. -/
def rawKey (d : KeyLookup) (r : ResultRow) : Except Error (List UInt8) := do
  match ← r.readAny d.keyColumn with
  | .bytes bs => return bs
  | .string s => return Utf8.ofString s
  | .null => .error (.key (.nullColumn d.keyColumn))
  | v => .error (.key (.columnType d.keyColumn v.typeName))

/-- The windowed key of a row of the given source. -/
def windowedKey (d : KeyLookup) (r : ResultRow) (source : Source) : Except Error WindowedKey := do
  match source.keyFormat with
  | none => .error (.key (.notWindowed source.name))
  | some format =>
    let raw ← d.rawKey r
    match d.reader format raw with
    | .ok key => return key
    | .error fault => .error (.key fault)

end KeyLookup

/-! ## Rows -/

/-- How rows are decoded. -/
structure Decoder where
  keys : KeyLookup
  precision : FloatPrecision
  windowPlaceholder : Int64

namespace Decoder

/-- The decoder of a configuration, with a way of reading keys. -/
def ofConfig (c : Config) (reader : KeyReader) : Decoder where
  keys := ⟨c.keyColumn, reader⟩
  precision := c.floatPrecision
  windowPlaceholder := c.windowPlaceholder

/-- The windowed key of a row, if it can be decoded and the plan asks for it. -/
def windowedKey? (d : Decoder) (r : ResultRow) (plan : Plan) (source : Source) :
    Option WindowedKey :=
  if plan.windowed then (d.keys.windowedKey r source).toOption else none

/-- The value of a planned column. -/
def columnValue (d : Decoder) (r : ResultRow) (key : Option WindowedKey) :
    Origin → Except Error Value
  | .field column type => r.readAs column type d.precision
  | .windowedKey => .ok ((key.map (·.key)).getD .null)

/-- The values of planned columns, up to the first that cannot be read. -/
def columnValues (d : Decoder) (r : ResultRow) (key : Option WindowedKey) :
    List PlanColumn → Except Error (List Value)
  | [] => .ok []
  | c :: rest => do
    let v ← d.columnValue r key c.source
    let vs ← d.columnValues r key rest
    return v :: vs

theorem columnValues_eq_mapM (d : Decoder) (r : ResultRow) (key : Option WindowedKey)
    (columns : List PlanColumn) :
    d.columnValues r key columns = columns.mapM fun c => d.columnValue r key c.source := by
  induction columns with
  | nil => rfl
  | cons c rest ih => rw [columnValues, List.mapM_cons, ih]

/-- The bounds of the window of a row, as values. -/
def boundValues (d : Decoder) (key : Option WindowedKey) : List Value :=
  match key with
  | some k => [.bigint k.window.start, .bigint k.window.stop]
  | none => [.bigint d.windowPlaceholder, .bigint d.windowPlaceholder]

@[simp] theorem length_boundValues (d : Decoder) (key : Option WindowedKey) :
    (d.boundValues key).length = 2 := by
  cases key <;> rfl

/-- The row that a plan asks for. -/
def decodePlanned (d : Decoder) (r : ResultRow) (plan : Plan) (source : Source) :
    Except Error Row := do
  let key := d.windowedKey? r plan source
  let values ← d.columnValues r key plan.columns
  return ⟨values ++ if plan.windowed then d.boundValues key else []⟩

/-- The row that a projection asks for. -/
def decode (d : Decoder) (r : ResultRow) (projection : Projection) (source : Source) :
    Except Error Row := do
  let plan ← Plan.build projection source
  d.decodePlanned r plan source

end Decoder

end MatView
