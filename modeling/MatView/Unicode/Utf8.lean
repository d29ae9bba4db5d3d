/-!
# UTF-8 byte strings

Texts travel as bytes. Decoding accepts exactly the encodings of texts; a byte string that is none
is described by the place of its first fault.

## Main definitions

* `bytes`: the UTF-8 encoding of a list of characters.
* `decode`: the text that a byte string encodes, or the first fault in it.
* `Fault`: where a byte string stops being UTF-8.
-/

namespace MatView.Utf8

/-! ## Encoding -/

/-- The UTF-8 encoding of a list of characters. -/
def bytes (cs : List Char) : List UInt8 :=
  cs.flatMap String.utf8EncodeChar

/-- The UTF-8 encoding of a text. -/
def ofString (s : String) : List UInt8 :=
  bytes s.toList

@[simp] theorem bytes_nil : bytes [] = [] := rfl

@[simp] theorem bytes_cons (c : Char) (cs : List Char) :
    bytes (c :: cs) = String.utf8EncodeChar c ++ bytes cs := rfl

@[simp] theorem bytes_append (cs ds : List Char) : bytes (cs ++ ds) = bytes cs ++ bytes ds := by
  simp [bytes]

/-- A text takes the bytes of its characters. -/
@[simp] theorem length_bytes_cons (c : Char) (cs : List Char) :
    (bytes (c :: cs)).length = c.utf8Size + (bytes cs).length := by
  simp [String.length_utf8EncodeChar]

/-! ## Faults -/

/-- Where a byte string stops being UTF-8. -/
inductive Fault
  /-- After `index` valid bytes come `length` bytes that start no character. -/
  | invalid (length index : Nat)
  /-- After `index` valid bytes the string ends inside a character. -/
  | incomplete (index : Nat)
  deriving DecidableEq

namespace Fault

/-- The description of a fault. -/
def message : Fault → String
  | invalid length index =>
    "invalid utf-8 sequence of " ++ toString length ++ " bytes from index " ++ toString index
  | incomplete index => "incomplete utf-8 byte sequence from index " ++ toString index

end Fault

/-- The bytes that continue a character. -/
def isContinuation (b : UInt8) : Bool :=
  0x80 ≤ b && b ≤ 0xBF

/-- For the first byte of a character: how many bytes follow it, and the range of the second. -/
def tailOf (b : UInt8) : Option (Nat × UInt8 × UInt8) :=
  if b < 0x80 then some (0, 0, 0)
  else if b < 0xC2 then none
  else if b < 0xE0 then some (1, 0x80, 0xBF)
  else if b == 0xE0 then some (2, 0xA0, 0xBF)
  else if b == 0xED then some (2, 0x80, 0x9F)
  else if b < 0xF0 then some (2, 0x80, 0xBF)
  else if b == 0xF0 then some (3, 0x90, 0xBF)
  else if b < 0xF4 then some (3, 0x80, 0xBF)
  else if b == 0xF4 then some (3, 0x80, 0x8F)
  else none

/-- The fault met when `count` continuation bytes are still due and `seen` bytes of the character
at `index` were good. -/
def tailFault (index seen : Nat) : Nat → List UInt8 → Option Fault
  | 0, _ => none
  | _ + 1, [] => some (.incomplete index)
  | n + 1, b :: rest =>
    if isContinuation b then tailFault index (seen + 1) n rest else some (.invalid seen index)

/-- The fault of the character that starts with `b`, if it has one. -/
def charFault (index : Nat) (b : UInt8) (rest : List UInt8) : Option Fault :=
  match tailOf b with
  | none => some (.invalid 1 index)
  | some (0, _, _) => none
  | some (n + 1, low, high) =>
    match rest with
    | [] => some (.incomplete index)
    | c :: rest => if low ≤ c && c ≤ high then tailFault index 2 n rest else some (.invalid 1 index)

/-- How many bytes follow the first byte `b` of a character. -/
def tailLength (b : UInt8) : Nat :=
  match tailOf b with
  | some (n, _, _) => n
  | none => 0

/-- The first fault from position `index` on, when the next `due` bytes belong to a character that
was found good. A string without a fault counts as one that ends too early; `decode` never asks
for it. -/
def faultFrom (index due : Nat) : List UInt8 → Fault
  | [] => .incomplete index
  | b :: rest =>
    match due with
    | due + 1 => faultFrom (index + 1) due rest
    | 0 =>
      match charFault index b rest with
      | some fault => fault
      | none => faultFrom (index + 1) (tailLength b) rest

/-! ## Decoding -/

/-- The text that a byte string encodes, or the first fault in it. -/
def decode (bs : List UInt8) : Except Fault String :=
  match String.fromUTF8? ⟨bs.toArray⟩ with
  | some s => .ok s
  | none => .error (faultFrom 0 0 bs)

end MatView.Utf8
