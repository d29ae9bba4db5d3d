import MatView.Error
import MatView.Json.Print
import MatView.Json.ToValue

/-!
# Windowed keys

A windowed key is the encoded grouping key followed by the bounds of its window, eight bytes each
with the greatest first. Windows of one size carry their start only; session windows carry their
end and then their start.

## Main definitions

* `Window`, `WindowedKey`.
* `wordBytes`, `wordValue`: integers as bytes.
* `WindowedKey.encode`, `WindowedKey.decode`: the codec.
* `KeyReader`: any way of decoding keys.
-/

namespace MatView

/-- A window from `start` up to but not including `stop`, in epoch milliseconds. -/
structure Window where
  start : Int64
  stop : Int64
  deriving DecidableEq

/-- A grouping key and the window of its row. -/
structure WindowedKey where
  key : Value
  window : Window
  deriving DecidableEq

/-- A way of decoding keys. -/
abbrev KeyReader := KeyFormat → List UInt8 → Except KeyFault WindowedKey

/-! ## Integers as bytes -/

/-- The last `width` bytes of a number, the greatest first. -/
def wordBytes : Nat → Nat → List UInt8
  | 0, _ => []
  | width + 1, n => UInt8.ofNat (n / Nat.pow 256 width) :: wordBytes width n

/-- The number that bytes stand for, the greatest first. -/
def wordValue (bs : List UInt8) : Nat :=
  bs.foldl (fun n b => 256 * n + b.toNat) 0

@[simp] theorem length_wordBytes (width n : Nat) : (wordBytes width n).length = width := by
  induction width with
  | zero => rfl
  | succ w ih => simp [wordBytes, ih]

/-- The eight bytes of an integer. -/
def int64Bytes (n : Int64) : List UInt8 :=
  wordBytes 8 n.toUInt64.toNat

/-- The four bytes of an integer. -/
def int32Bytes (n : Int32) : List UInt8 :=
  wordBytes 4 n.toUInt32.toNat

/-- The integer of eight bytes. -/
def int64OfBytes (bs : List UInt8) : Int64 :=
  (UInt64.ofNat (wordValue bs)).toInt64

/-- The integer of four bytes. -/
def int32OfBytes (bs : List UInt8) : Int32 :=
  (UInt32.ofNat (wordValue bs)).toInt32

@[simp] theorem length_int64Bytes (n : Int64) : (int64Bytes n).length = 8 := by
  simp [int64Bytes]

@[simp] theorem length_int32Bytes (n : Int32) : (int32Bytes n).length = 4 := by
  simp [int32Bytes]

/-- The sum of two integers if it has 64 bits. -/
def addInt64? (a b : Int64) : Option Int64 :=
  let sum := a.toInt + b.toInt
  if Int64.minValue.toInt ≤ sum ∧ sum ≤ Int64.maxValue.toInt then some (.ofInt sum) else none

/-! ## Windows -/

/-- The bytes of the bounds of a window. -/
def Window.suffix (type : WindowType) (w : Window) : List UInt8 :=
  match type with
  | .session => int64Bytes w.stop ++ int64Bytes w.start
  | _ => int64Bytes w.start

@[simp] theorem Window.length_suffix (type : WindowType) (w : Window) :
    (w.suffix type).length = type.suffixLength := by
  cases type <;> simp [suffix, WindowType.suffixLength]

/-- The window of the given size that starts at the bytes of `suffix`. -/
def Window.ofStart (size : Int64) (suffix : List UInt8) : Except KeyFault Window :=
  let start := int64OfBytes suffix
  match addInt64? start size with
  | some stop => .ok ⟨start, stop⟩
  | none => .error (.endOverflow start size)

/-- The window whose bounds are the bytes of `suffix`, the end first. -/
def Window.ofBounds (suffix : List UInt8) : Except KeyFault Window :=
  let stop := int64OfBytes (suffix.take 8)
  let start := int64OfBytes (suffix.drop 8)
  if stop < start then .error (.reversed start stop) else .ok ⟨start, stop⟩

/-- The window that the end of a key describes. -/
def Window.ofSuffix (type : WindowType) (suffix : List UInt8) : Except KeyFault Window :=
  match type with
  | .tumbling size => Window.ofStart size suffix
  | .hopping size _ => Window.ofStart size suffix
  | .session => Window.ofBounds suffix

/-! ## Keys -/

/-- The encoded grouping key. -/
def KeyEncoding.encode : KeyEncoding → Value → Except KeyFault (List UInt8)
  | .string, .string s => .ok (Utf8.ofString s)
  | .int, .int n => .ok (int32Bytes n)
  | .bigint, .bigint n => .ok (int64Bytes n)
  | .json, v => .ok (Utf8.bytes (Json.print v))
  | e, v => .error (.encoding v.typeName e)

/-- The grouping key that bytes encode. -/
def KeyEncoding.decode (e : KeyEncoding) (bs : List UInt8) : Except KeyFault Value :=
  match e with
  | .string =>
    match Utf8.decode bs with
    | .ok s => .ok (.string s)
    | .error fault => .error (.notUtf8 fault)
  | .int =>
    if bs.length = 4 then .ok (.int (int32OfBytes bs)) else .error (.intLength bs.length)
  | .bigint =>
    if bs.length = 8 then .ok (.bigint (int64OfBytes bs)) else .error (.bigintLength bs.length)
  | .json =>
    match Utf8.decode bs with
    | .ok s =>
      match Json.readDocument? s.toList with
      | some v => .ok v
      | none => .error .notJson
    | .error _ => .error .notJson

namespace WindowedKey

/-- The bytes of a key. Windows of one size do not store their end. -/
def encode (f : KeyFormat) (k : WindowedKey) : Except KeyFault (List UInt8) := do
  let inner ← f.encoding.encode k.key
  return inner ++ k.window.suffix f.window

/-- The key that bytes encode. The bounds are read before the grouping key. -/
def decode : KeyReader := fun f bs =>
  if bs.length < f.window.suffixLength then .error (.tooShort f.window bs.length)
  else do
    let cut := bs.length - f.window.suffixLength
    let window ← Window.ofSuffix f.window (bs.drop cut)
    let key ← f.encoding.decode (bs.take cut)
    return { key, window }

end WindowedKey

end MatView
