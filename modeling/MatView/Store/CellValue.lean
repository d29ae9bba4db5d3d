import MatView.Error
import MatView.Logical.Value
import MatView.Store.CellText

/-!
# Cells as values

Every cell has a value, whatever its type: integers become the narrower of the two integer values
that holds their type, moments epoch milliseconds, lists and maps are converted entry by entry, and
a structure becomes a map from the names of its fields. A type without a value of its own is
converted to its text.

## Main definitions

* `epochMillis`: epoch milliseconds of a timestamp.
* `ColumnType.cellValue`: the value of a cell.
-/

namespace MatView

/-- Epoch milliseconds of a timestamp. Finer units are cut off toward zero; seconds that do not fit
are refused. -/
def epochMillis (unit : TimeUnit) (value : Int64) : Except Error Int64 :=
  match unit with
  | .second =>
    let millis := value.toInt * 1000
    if Int64.minValue.toInt ≤ millis ∧ millis ≤ Int64.maxValue.toInt then .ok (.ofInt millis)
    else .error (.store (.timestampRange value.toInt))
  | .millisecond => .ok value
  | .microsecond => .ok (.ofInt (value.toInt.tdiv 1000))
  | .nanosecond => .ok (.ofInt (value.toInt.tdiv 1000000))

/-- The value of an unsigned integer of 64 bits: a double if it has no signed form. -/
def unsignedValue (n : UInt64) : Value :=
  if n ≤ Int64.maxValue.toUInt64 then .bigint (.ofNat n.toNat)
  else .double (Binary64.ofNat n.toNat)

/-- Converts the keys and values of entries, up to the first failure. -/
def convertEntries {K V : Type} (ofKey : K → Except Error Value)
    (ofValue : V → Except Error Value) : List (K × V) → Except Error (List (Value × Value))
  | [] => .ok []
  | (k, v) :: rest => do
    let k ← ofKey k
    let v ← ofValue v
    let rest ← convertEntries ofKey ofValue rest
    return (k, v) :: rest

/-- Converts the items of a list, up to the first failure. -/
def convertItems {A : Type} (ofItem : A → Except Error Value) : List A → Except Error (List Value)
  | [] => .ok []
  | a :: rest => do
    let v ← ofItem a
    let vs ← convertItems ofItem rest
    return v :: vs

namespace ColumnType

/-- The value of a cell whose type has none of its own: its text. -/
def textValue (type : ColumnType) (content : Option type.Content) : Except Error Value :=
  match type.badZone? with
  | some zone => .error (.timeZone zone)
  | none => .ok (.string (String.ofList (type.cellText content).text))

mutual

/-- The value of a cell. -/
def cellValue : (type : ColumnType) → Option type.Content → Except Error Value
  | _, none => .ok .null
  | boolean, some b => .ok (.boolean b)
  | int8, some n => .ok (.int (.ofInt n.toInt))
  | int16, some n => .ok (.int (.ofInt n.toInt))
  | int32, some n => .ok (.int n)
  | int64, some n => .ok (.bigint n)
  | uint8, some n => .ok (.int (.ofNat n.toNat))
  | uint16, some n => .ok (.int (.ofNat n.toNat))
  | uint32, some n => .ok (.bigint (.ofNat n.toNat))
  | uint64, some n => .ok (unsignedValue n)
  | float32, some x => .ok (.float x)
  | float64, some x => .ok (.double x)
  | utf8, some s => .ok (.string s)
  | largeUtf8, some s => .ok (.string s)
  | binary, some bs => .ok (.bytes bs)
  | largeBinary, some bs => .ok (.bytes bs)
  | timestamp unit _, some value => (epochMillis unit value).map .bigint
  | date32, some days => .ok (.int days)
  | decimal precision scale, some unscaled =>
    .ok (.string (String.ofList (decimalText precision scale unscaled)))
  | list item, some cells => (convertItems item.cellValue cells).map .list
  | map key value, some entries =>
    (convertEntries (fun k => key.cellValue (some k)) value.cellValue entries).map .map
  | struct fields, some contents => (fieldValues fields contents).map .map
  | utf8View, some s => textValue utf8View (some s)
  | fixedSizeBinary width, some bs => textValue (fixedSizeBinary width) (some bs)
  | dictionary, some s => textValue dictionary (some s)
  | date64, some ms => textValue date64 (some ms)
  | largeList item, some cells => textValue (largeList item) (some cells)

/-- The fields of a structure under their names. -/
def fieldValues : (fields : List (String × ColumnType)) → FieldContents fields →
    Except Error (List (Value × Value))
  | [], _ => .ok []
  | (name, type) :: rest, (content, contents) => do
    let v ← type.cellValue content
    let vs ← fieldValues rest contents
    return (.string name, v) :: vs

end

/-- The entries of a map cell. -/
def entryValues (key value : ColumnType) (entries : List (key.Content × Option value.Content)) :
    Except Error (List (Value × Value)) :=
  convertEntries (fun k => key.cellValue (some k)) value.cellValue entries

end ColumnType

end MatView
