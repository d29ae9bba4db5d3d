import MatView.Unicode.Blank
import MatView.Unicode.Utf8

/-!
# Keywords in statement texts

A statement is searched for a keyword byte by byte. A match is a whole word: the bytes next to it
belong to no identifier, where every byte of a character beyond ASCII counts as part of one. What
stands between single or double quotes is passed over. Offsets count bytes.

## Main definitions

* `Quoting`: what the search knows about quotes.
* `keywordOffset`: the first place of a keyword.
* `Span`, `fromSpan`: the identifier that follows `FROM`.
* `takeBytes`, `dropBytes`: cutting a text at an offset.

## Main statements

* `takeBytes_append_dropBytes`: a cut loses nothing.
* `takeBytes_append`, `dropBytes_append`: a cut at the end of a part separates it from the rest.
-/

namespace MatView.Text

/-! ## Quotes -/

/-- Whether a place lies outside quotes, in a literal or in a quoted identifier. -/
inductive Quoting
  | outside
  | literal
  | identifier
  deriving DecidableEq

/-- The byte of a single quote. -/
def singleQuote : UInt8 := 0x27

/-- The byte of a double quote. -/
def doubleQuote : UInt8 := 0x22

namespace Quoting

/-- What is known after one more byte. A quote of the other kind means nothing between quotes, and
a doubled quote leaves and enters again. -/
def step : Quoting → UInt8 → Quoting
  | outside, b =>
    if b == singleQuote then literal else if b == doubleQuote then identifier else outside
  | literal, b => if b == singleQuote then outside else literal
  | identifier, b => if b == doubleQuote then outside else identifier

/-- What is known after some bytes from the start of a text. -/
def after (bs : List UInt8) : Quoting :=
  bs.foldl step outside

@[simp] theorem after_nil : after [] = outside := rfl

theorem after_append (bs cs : List UInt8) : after (bs ++ cs) = cs.foldl step (after bs) := by
  simp [after]

end Quoting

/-! ## Searching for a keyword -/

/-- Whether a byte may belong to an identifier. -/
def isWordByte (b : UInt8) : Bool :=
  (0x30 ≤ b && b ≤ 0x39) || (0x41 ≤ b && b ≤ 0x5A) || (0x61 ≤ b && b ≤ 0x7A) || b == 0x5F ||
    0x80 ≤ b

/-- A byte with the case of ASCII letters folded. -/
def foldByte (b : UInt8) : UInt8 :=
  if 0x41 ≤ b && b ≤ 0x5A then b + 0x20 else b

/-- Whether a text starts with a keyword, in any case. -/
def startsWith : List UInt8 → List UInt8 → Bool
  | [], _ => true
  | _ :: _, [] => false
  | k :: ks, b :: bs => foldByte k == foldByte b && startsWith ks bs

/-- Whether no identifier goes on at a neighbour of a word. -/
def isEdge : Option UInt8 → Bool
  | some b => !isWordByte b
  | none => true

/-- Whether a keyword stands as a word at the start of a text, after the byte `before`. -/
def isWordAt (keyword : List UInt8) (before : Option UInt8) (bs : List UInt8) : Bool :=
  startsWith keyword bs && isEdge before && isEdge (bs[keyword.length]?)

/-- Searches the rest of a text for a keyword. `offset` bytes were passed, `before` is the last of
them and `state` what is known about quotes; places before `start` do not count. -/
def scan (keyword : List UInt8) (start offset : Nat) (before : Option UInt8) (state : Quoting) :
    List UInt8 → Option Nat
  | [] => none
  | b :: bs =>
    if state == .outside && start ≤ offset && isWordAt keyword before (b :: bs) then some offset
    else scan keyword start (offset + 1) (some b) (state.step b) bs

/-- The offset of the first place of a keyword that is not before `start`. -/
def keywordOffsetFrom (text keyword : List UInt8) (start : Nat) : Option Nat :=
  if keyword.isEmpty then none else scan keyword start 0 none .outside text

/-- The offset of the first place of a keyword in a text. -/
def keywordOffset (text : List Char) (keyword : String) : Option Nat :=
  keywordOffsetFrom (Utf8.bytes text) (Utf8.ofString keyword) 0

/-! ## Cutting at an offset -/

/-- The characters that end within the first `n` bytes of a text. -/
def takeBytes : Nat → List Char → List Char
  | _, [] => []
  | n, c :: cs => if c.utf8Size ≤ n then c :: takeBytes (n - c.utf8Size) cs else []

/-- The characters that do not end within the first `n` bytes of a text. -/
def dropBytes : Nat → List Char → List Char
  | _, [] => []
  | n, c :: cs => if c.utf8Size ≤ n then dropBytes (n - c.utf8Size) cs else c :: cs

@[simp] theorem takeBytes_zero (cs : List Char) : takeBytes 0 cs = [] := by
  cases cs with
  | nil => rfl
  | cons c cs => simp [takeBytes, Nat.not_le.2 c.utf8Size_pos]

@[simp] theorem dropBytes_zero (cs : List Char) : dropBytes 0 cs = cs := by
  cases cs with
  | nil => rfl
  | cons c cs => simp [dropBytes, Nat.not_le.2 c.utf8Size_pos]

/-- A cut at the end of a part yields this part. -/
theorem takeBytes_append (front back : List Char) :
    takeBytes (Utf8.bytes front).length (front ++ back) = front := by
  induction front with
  | nil => simp
  | cons c cs ih =>
    rw [List.cons_append, Utf8.length_bytes_cons, takeBytes, if_pos (Nat.le_add_right _ _),
      Nat.add_sub_cancel_left, ih]

/-- A cut at the end of a part leaves what follows it. -/
theorem dropBytes_append (front back : List Char) :
    dropBytes (Utf8.bytes front).length (front ++ back) = back := by
  induction front with
  | nil => simp
  | cons c cs ih =>
    rw [List.cons_append, Utf8.length_bytes_cons, dropBytes, if_pos (Nat.le_add_right _ _),
      Nat.add_sub_cancel_left, ih]

/-- A cut loses nothing. -/
@[simp] theorem takeBytes_append_dropBytes (n : Nat) (cs : List Char) :
    takeBytes n cs ++ dropBytes n cs = cs := by
  induction cs generalizing n with
  | nil => rfl
  | cons c cs ih =>
    by_cases h : c.utf8Size ≤ n <;> simp [takeBytes, dropBytes, h, ih]

/-! ## What follows a keyword -/

/-- How many bytes the blanks at the start of a text take. -/
def leadingBlanks (cs : List Char) : Nat :=
  (Utf8.bytes (cs.takeWhile Unicode.isBlank)).length

/-- How many bytes the identifier at the start of a text takes, with its dotted parts. -/
def identifierLength (bs : List UInt8) : Nat :=
  (bs.takeWhile fun b => isWordByte b || b == 0x2E).length

/-- A stretch of a text, by the offset and the number of its bytes. -/
structure Span where
  start : Nat
  length : Nat
  deriving DecidableEq

namespace Span

/-- The offset behind the stretch. -/
def stop (s : Span) : Nat :=
  s.start + s.length

/-- The characters of the stretch. -/
def slice (s : Span) (cs : List Char) : List Char :=
  takeBytes s.length (dropBytes s.start cs)

end Span

/-- The offset of the first character that is no blank behind a keyword that stands at `offset`. -/
def behindKeyword (text : List Char) (keyword : String) (offset : Nat) : Nat :=
  let after := offset + (Utf8.ofString keyword).length
  after + leadingBlanks (dropBytes after text)

/-- The identifier that follows the first `FROM` of a text. It may be empty. -/
def fromSpan (text : List Char) : Option Span :=
  (keywordOffset text "FROM").map fun offset =>
    let start := behindKeyword text "FROM" offset
    ⟨start, identifierLength (Utf8.bytes (dropBytes start text))⟩

end MatView.Text
