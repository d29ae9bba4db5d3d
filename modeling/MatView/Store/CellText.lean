import MatView.Decimal.Layout
import MatView.Store.Cell
import MatView.Text.Calendar

/-!
# Cells as text

Every cell has a text. Nested cells are written in brackets and null ones as nothing. A moment that
has no calendar date ends the text with a note of the failure.

## Main definitions

* `decimalText`: the text of an unscaled integer with a number of decimals.
* `Shown`: a text that may have ended early.
* `ColumnType.badZone?`: the first time zone of a type that cannot be shown.
* `ColumnType.cellText`: the text of a cell.
-/

namespace MatView

/-! ## Numbers with decimals -/

/-- The text of the number `unscaled * 10 ^ -scale`. No more digits than the precision are kept, the
first ones; a negative scale puts zeros after them. -/
def decimalText (precision scale unscaled : Int) : List Char :=
  let sign := if unscaled < 0 then ['-'] else []
  let digits := Nat.toDigits 10 unscaled.natAbs
  let kept := digits.take precision.toNat
  let places := scale.toNat
  sign ++
    if scale ≤ 0 then kept ++ List.replicate (-scale).toNat '0'
    else if places < digits.length then
      kept.take (kept.length - places) ++ '.' :: kept.drop (kept.length - places)
    else '0' :: '.' :: List.replicate (places - digits.length) '0' ++ digits

/-! ## Texts that end early -/

/-- A text, and whether a failure ended it. -/
structure Shown where
  text : List Char
  failed : Bool := false

namespace Shown

/-- A text that comes after another one, unless that one failed. -/
def append (a b : Shown) : Shown :=
  if a.failed then a else ⟨a.text ++ b.text, b.failed⟩

instance : Append Shown := ⟨append⟩

/-- A whole text. -/
def ofString (s : String) : Shown := ⟨s.toList, false⟩

/-- Texts with a comma and a space between them. -/
def separated : List Shown → Shown
  | [] => ofString ""
  | [s] => s
  | s :: rest => s ++ ofString ", " ++ separated rest

/-- Texts between an opening and a closing mark. -/
def enclosed (opening closing : String) (items : List Shown) : Shown :=
  ofString opening ++ separated items ++ ofString closing

/-- The note of a number that is no moment of the calendar. -/
def outOfRange (value : Int) (what : String) (type : ColumnType) : Shown :=
  ⟨("ERROR: Cast error: Failed to convert " ++ toString value ++ " to " ++ what ++ " for " ++
    type.describe).toList, true⟩

end Shown

/-! ## Texts of single types -/

/-- The text of a floating-point number. -/
def floatText (layout : Decimal.Layout) : Binary.Datum → List Char
  | .nan => "NaN".toList
  | .infinite negative => if negative then "-inf".toList else "inf".toList
  | .finite negative m q => layout.writeFinite negative m q

/-- The text of a truth value. -/
def booleanText (b : Bool) : String :=
  if b then "true" else "false"

/-- The text of bytes: two hexadecimal digits each. -/
def hexText (bs : List UInt8) : List Char :=
  bs.flatMap fun b => [Nat.digitChar (b.toNat / 16), Nat.digitChar (b.toNat % 16)]

/-- The text of an instant. -/
def instantText (t : Text.Instant) (value : Int) (what : String) (type : ColumnType) : Shown :=
  if t.hasDate then ⟨t.write, false⟩ else .outOfRange value what type

/-- The text of a timestamp, in its zone if it has one. -/
def timestampText (unit : TimeUnit) (zone : Option String) (value : Int) : Shown :=
  let t := Text.Instant.ofTicks unit.perSecond value
  match zone.bind Text.zoneOffset? with
  | some offset =>
    if t.hasDate then ⟨t.writeAt offset, false⟩
    else .outOfRange value "datetime" (.timestamp unit zone)
  | none => instantText t value "datetime" (.timestamp unit zone)

/-! ## Cells -/

namespace ColumnType

mutual

/-- The first time zone of a type that is not written as an offset. -/
def badZone? : ColumnType → Option String
  | timestamp _ (some zone) => if (Text.zoneOffset? zone).isSome then none else some zone
  | list item => item.badZone?
  | largeList item => item.badZone?
  | map key value => key.badZone?.or value.badZone?
  | struct fields => badFieldZone? fields
  | _ => none

/-- The first such time zone in the types of fields. -/
def badFieldZone? : List (String × ColumnType) → Option String
  | [] => none
  | (_, type) :: rest => type.badZone?.or (badFieldZone? rest)

end

mutual

/-- The text of a cell. -/
def cellText : (type : ColumnType) → Option type.Content → Shown
  | _, none => .ofString ""
  | boolean, some b => .ofString (booleanText b)
  | int8, some n => .ofString (toString n.toInt)
  | int16, some n => .ofString (toString n.toInt)
  | int32, some n => .ofString (toString n.toInt)
  | int64, some n => .ofString (toString n.toInt)
  | uint8, some n => .ofString (toString n.toNat)
  | uint16, some n => .ofString (toString n.toNat)
  | uint32, some n => .ofString (toString n.toNat)
  | uint64, some n => .ofString (toString n.toNat)
  | float32, some x => ⟨floatText (.single false) x.datum, false⟩
  | float64, some x => ⟨floatText (.double false) x.datum, false⟩
  | utf8, some s => .ofString s
  | largeUtf8, some s => .ofString s
  | utf8View, some s => .ofString s
  | binary, some bs => ⟨hexText bs, false⟩
  | largeBinary, some bs => ⟨hexText bs, false⟩
  | fixedSizeBinary _, some bs => ⟨hexText bs, false⟩
  | dictionary, some s => .ofString s
  | date32, some days =>
    let t : Text.Instant := ⟨days.toInt * 86400, 0⟩
    if t.hasDate then ⟨(Text.Date.ofDays days.toInt).write, false⟩
    else .outOfRange days.toInt "temporal" date32
  | date64, some ms => instantText (.ofTicks 1000 ms.toInt) ms.toInt "temporal" date64
  | timestamp unit zone, some value => timestampText unit zone value.toInt
  | decimal precision scale, some unscaled => ⟨decimalText precision scale unscaled, false⟩
  | list item, some cells => .enclosed "[" "]" (cells.map item.cellText)
  | largeList item, some cells => .enclosed "[" "]" (cells.map item.cellText)
  | map key value, some entries =>
    .enclosed "\x7b" "\x7d" (entries.map fun e =>
      key.cellText (some e.1) ++ Shown.ofString ": " ++ value.cellText e.2)
  | struct fields, some contents => .enclosed "\x7b" "\x7d" (fieldTexts fields contents)

/-- The texts of the fields of a structure, each after its name. -/
def fieldTexts : (fields : List (String × ColumnType)) → FieldContents fields → List Shown
  | [], _ => []
  | (name, type) :: rest, (content, contents) =>
    (Shown.ofString (name ++ ": ") ++ type.cellText content) :: fieldTexts rest contents

end

end ColumnType

end MatView
