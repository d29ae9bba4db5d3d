/-!
# Formats of windowed keys

A windowed aggregation stores its rows under the grouping key followed by the bounds of the window.
A format says which windows these are and how the grouping key is encoded.

## Main definitions

* `WindowType`, `KeyEncoding`, `KeyFormat`.
* `WindowType.suffixLength`: the bytes that the bounds take.
-/

namespace MatView

/-- The windows of an aggregation. -/
inductive WindowType
  /-- Windows of one size that do not overlap. The key carries the start only. -/
  | tumbling (size : Int64)
  /-- Windows of one size that may overlap. The key carries the start only. -/
  | hopping (size advance : Int64)
  /-- Windows that gaps in the data delimit. The key carries both bounds. -/
  | session
  deriving DecidableEq

namespace WindowType

/-- The name of a kind of windows. -/
def name : WindowType → String
  | tumbling _ => "TUMBLING"
  | hopping _ _ => "HOPPING"
  | session => "SESSION"

/-- How many bytes the bounds take at the end of a key. -/
def suffixLength : WindowType → Nat
  | tumbling _ => 8
  | hopping _ _ => 8
  | session => 16

/-- The size that all windows have, if they have one. -/
def size? : WindowType → Option Int64
  | tumbling size => some size
  | hopping size _ => some size
  | session => none

/-- The distance between the starts of overlapping windows. -/
def advance? : WindowType → Option Int64
  | hopping _ advance => some advance
  | _ => none

end WindowType

/-- How the grouping key is encoded. -/
inductive KeyEncoding
  /-- UTF-8 text. -/
  | string
  /-- An integer of four bytes, the greatest first. -/
  | int
  /-- An integer of eight bytes, the greatest first. -/
  | bigint
  /-- A JSON document. -/
  | json
  deriving DecidableEq

namespace KeyEncoding

/-- The name of an encoding in a catalog. -/
def name : KeyEncoding → String
  | string => "STRING"
  | int => "INT"
  | bigint => "BIGINT"
  | json => "JSON"

/-- The name of an encoding in error messages. -/
def label : KeyEncoding → String
  | string => "String"
  | int => "Int"
  | bigint => "BigInt"
  | json => "Json"

/-- The encoding with the catalog name `s`. -/
def ofName? (s : String) : Option KeyEncoding :=
  [string, int, bigint, json].find? (·.name == s)

@[simp] theorem ofName?_name (e : KeyEncoding) : ofName? e.name = some e := by
  cases e <;> decide

end KeyEncoding

/-- The format of the keys of a windowed source. -/
structure KeyFormat where
  window : WindowType
  encoding : KeyEncoding := .string
  deriving DecidableEq

end MatView
