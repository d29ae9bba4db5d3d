import MatView.Decimal.Binary

/-!
# Logical values

The values of a decoded row. A value carries its own type, so a row needs no schema to be read.

## Main definitions

* `Value`: one value, possibly with values inside it.
* `Value.typeName`: the label of a value's type.
* `Row`: the values of one decoded row, in the order of the query's columns.
-/

namespace MatView

/-- One value of a decoded row. The entries of a map keep the order of the store. -/
inductive Value
  | null
  | boolean (b : Bool)
  | int (n : Int32)
  | bigint (n : Int64)
  | float (x : Binary32)
  | double (x : Binary64)
  | string (s : String)
  | bytes (bs : List UInt8)
  | map (entries : List (Value × Value))
  | list (items : List Value)

namespace Value

/-! ## The type of a value -/

/-- Whether the value is null. -/
def isNull : Value → Bool
  | null => true
  | _ => false

/-- The label of the value's type. -/
def typeName : Value → String
  | null => "NULL"
  | boolean _ => "BOOLEAN"
  | int _ => "INTEGER"
  | bigint _ => "BIGINT"
  | float _ => "FLOAT"
  | double _ => "DOUBLE"
  | string _ => "STRING"
  | bytes _ => "BYTES"
  | map _ => "MAP"
  | list _ => "ARRAY"

theorem isNull_iff {v : Value} : v.isNull = true ↔ v = null := by
  cases v <;> simp [isNull]

/-! ## Equality -/

mutual

/-- Decides equality of values. Floating-point numbers are compared as bit patterns. -/
def decEq : (v w : Value) → Decidable (v = w)
  | null, w => by cases w <;> first | exact isTrue rfl | exact isFalse nofun
  | boolean a, w => by
    cases w
    case boolean b => exact decidable_of_iff (a = b) (by simp)
    all_goals exact isFalse nofun
  | int a, w => by
    cases w
    case int b => exact decidable_of_iff (a = b) (by simp)
    all_goals exact isFalse nofun
  | bigint a, w => by
    cases w
    case bigint b => exact decidable_of_iff (a = b) (by simp)
    all_goals exact isFalse nofun
  | float a, w => by
    cases w
    case float b => exact decidable_of_iff (a = b) (by simp)
    all_goals exact isFalse nofun
  | double a, w => by
    cases w
    case double b => exact decidable_of_iff (a = b) (by simp)
    all_goals exact isFalse nofun
  | string a, w => by
    cases w
    case string b => exact decidable_of_iff (a = b) (by simp)
    all_goals exact isFalse nofun
  | bytes a, w => by
    cases w
    case bytes b => exact decidable_of_iff (a = b) (by simp)
    all_goals exact isFalse nofun
  | map a, w =>
    match w with
    | map b => match decEqEntries a b with
      | isTrue h => isTrue (by rw [h])
      | isFalse h => isFalse (by simpa using h)
    | null | boolean _ | int _ | bigint _ | float _ | double _ | string _ | bytes _ | list _ =>
      isFalse nofun
  | list a, w =>
    match w with
    | list b => match decEqList a b with
      | isTrue h => isTrue (by rw [h])
      | isFalse h => isFalse (by simpa using h)
    | null | boolean _ | int _ | bigint _ | float _ | double _ | string _ | bytes _ | map _ =>
      isFalse nofun

/-- Decides equality of lists of values. -/
def decEqList : (vs ws : List Value) → Decidable (vs = ws)
  | [], [] => isTrue rfl
  | [], _ :: _ => isFalse nofun
  | _ :: _, [] => isFalse nofun
  | v :: vs, w :: ws =>
    match decEq v w, decEqList vs ws with
    | isTrue h, isTrue g => isTrue (by rw [h, g])
    | isFalse h, _ => isFalse (fun e => h (List.cons.inj e).1)
    | _, isFalse g => isFalse (fun e => g (List.cons.inj e).2)

/-- Decides equality of lists of map entries. -/
def decEqEntries : (es fs : List (Value × Value)) → Decidable (es = fs)
  | [], [] => isTrue rfl
  | [], _ :: _ => isFalse nofun
  | _ :: _, [] => isFalse nofun
  | (k, v) :: es, (l, w) :: fs =>
    match decEq k l, decEq v w, decEqEntries es fs with
    | isTrue h, isTrue g, isTrue i => isTrue (by rw [h, g, i])
    | isFalse h, _, _ => isFalse (fun e => h (Prod.mk.inj (List.cons.inj e).1).1)
    | _, isFalse g, _ => isFalse (fun e => g (Prod.mk.inj (List.cons.inj e).1).2)
    | _, _, isFalse i => isFalse (fun e => i (List.cons.inj e).2)

end

instance : DecidableEq Value := decEq

end Value

/-! ## Rows -/

/-- The values of one decoded row, in the order of the query's columns. -/
structure Row where
  values : List Value
  deriving DecidableEq

namespace Row

/-- The row without values. -/
def empty : Row := ⟨[]⟩

/-- The row with one more value at its end. -/
def push (r : Row) (v : Value) : Row :=
  ⟨r.values ++ [v]⟩

/-- How many values the row has. -/
def length (r : Row) : Nat :=
  r.values.length

/-- Whether the row has no value. -/
def isEmpty (r : Row) : Bool :=
  r.values.isEmpty

/-- The value at position `i`. -/
def get? (r : Row) (i : Nat) : Option Value :=
  r.values[i]?

@[simp] theorem values_empty : empty.values = [] := rfl

@[simp] theorem values_push (r : Row) (v : Value) : (r.push v).values = r.values ++ [v] := rfl

@[simp] theorem length_push (r : Row) (v : Value) : (r.push v).length = r.length + 1 := by
  simp [length]

theorem get?_length_push (r : Row) (v : Value) : (r.push v).get? r.length = some v := by
  simp [get?, push, length]

end Row

end MatView
