import MatView.Decoding.Decoder
import MatView.Proofs.Window.Codec

/-!
# Keys in columns of several types

A key column holds the bytes of a key as they are, or as the text that they encode. The key that is
read from it does not depend on the type of the column, with one exception: a column of byte strings
of a fixed size is read as hexadecimal digits, two for each byte, and these are taken for the key.

## Main definitions

* `Cell.Holds`: the cells that hold a byte string.
* `hexBytes`: the hexadecimal digits of a byte string.

## Main statements

* `Cell.value_of_holds`: what such a cell is read as.
* `KeyLookup.windowedKey_of_holds`: the key is read from the bytes that the column holds, if and
  only if the column has no fixed size.
* `KeyLookup.fixedSize_never_decodes`: digits never stand for the key that they are the digits of.
-/

namespace MatView

/-! ## Hexadecimal digits as bytes -/

/-- The byte of a hexadecimal digit. -/
def hexByte (n : Nat) : UInt8 :=
  .ofNat (Nat.digitChar n).toNat

/-- The bytes of the hexadecimal digits of a byte string. -/
def hexBytes (bs : List UInt8) : List UInt8 :=
  bs.flatMap fun b => [hexByte (b.toNat / 16), hexByte (b.toNat % 16)]

section

variable {bs : List UInt8}

theorem utf8EncodeChar_digitChar {n : Nat} (h : n < 16) :
    String.utf8EncodeChar (Nat.digitChar n) = [hexByte n] := by
  have hdigits : ∀ n < 16, String.utf8EncodeChar (Nat.digitChar n) = [hexByte n] := by decide
  exact hdigits n h

theorem bytes_hexText (bs : List UInt8) : Utf8.bytes (hexText bs) = hexBytes bs := by
  induction bs with
  | nil => rfl
  | cons b bs ih =>
    have hb : b.toNat < 256 := b.toNat_lt
    have hhigh := utf8EncodeChar_digitChar (n := b.toNat / 16) (by omega)
    have hlow := utf8EncodeChar_digitChar (n := b.toNat % 16) (by omega)
    simp only [hexText, hexBytes, List.flatMap_cons, Utf8.bytes_append, Utf8.bytes_cons,
      Utf8.bytes_nil, hhigh, hlow] at ih ⊢
    rw [ih]
    rfl

@[simp] theorem length_hexBytes (bs : List UInt8) : (hexBytes bs).length = 2 * bs.length := by
  induction bs with
  | nil => rfl
  | cons b bs ih =>
    simp only [hexBytes, List.flatMap_cons, List.length_append, List.length_cons,
      List.length_nil] at ih ⊢
    omega

/-- No bytes but none are their own digits. -/
theorem hexBytes_eq_self_iff : hexBytes bs = bs ↔ bs = [] := by
  constructor
  · intro h
    have hlength := length_hexBytes bs
    rw [h] at hlength
    exact List.eq_nil_of_length_eq_zero (by omega)
  · rintro rfl
    rfl

end

/-! ## Cells that hold bytes -/

/-- Whether the cells of a type are byte strings of one size. -/
def ColumnType.isFixedSize : ColumnType → Bool
  | fixedSizeBinary _ => true
  | _ => false

namespace Cell

/-- The cells that hold a byte string: as bytes, or as the text that they encode. -/
inductive Holds : Cell → List UInt8 → Prop
  | binary (name : String) (bs : List UInt8) : Holds ⟨name, .binary, some bs⟩ bs
  | largeBinary (name : String) (bs : List UInt8) : Holds ⟨name, .largeBinary, some bs⟩ bs
  | fixedSizeBinary (name : String) (width : Int) (bs : List UInt8) :
    Holds ⟨name, .fixedSizeBinary width, some bs⟩ bs
  | utf8 (name s : String) : Holds ⟨name, .utf8, some s⟩ (Utf8.ofString s)
  | largeUtf8 (name s : String) : Holds ⟨name, .largeUtf8, some s⟩ (Utf8.ofString s)
  | utf8View (name s : String) : Holds ⟨name, .utf8View, some s⟩ (Utf8.ofString s)
  | dictionary (name s : String) : Holds ⟨name, .dictionary, some s⟩ (Utf8.ofString s)

variable {c : Cell} {bs : List UInt8}

/-- A cell that holds bytes is read as these bytes, as the text that they encode, or as the text of
their digits. -/
theorem value_of_holds (h : c.Holds bs) :
    (c.type.isFixedSize = false ∧
      (c.value = .ok (.bytes bs) ∨ ∃ s, c.value = .ok (.string s) ∧ Utf8.ofString s = bs)) ∨
    (c.type.isFixedSize = true ∧ ∃ s, c.value = .ok (.string s) ∧ Utf8.ofString s = hexBytes bs) := by
  cases h with
  | binary | largeBinary => exact .inl ⟨rfl, .inl (by simp [value, ColumnType.cellValue])⟩
  | utf8 name s | largeUtf8 name s =>
    exact .inl ⟨rfl, .inr ⟨s, by simp [value, ColumnType.cellValue], rfl⟩⟩
  | utf8View name s | dictionary name s =>
    have htext : String.ofList (Shown.ofString s).text = s := String.ofList_toList
    exact .inl ⟨rfl, .inr ⟨s, by
      simp [value, ColumnType.cellValue, ColumnType.textValue, ColumnType.badZone?,
        ColumnType.cellText, htext], rfl⟩⟩
  | fixedSizeBinary name width =>
    refine .inr ⟨rfl, String.ofList (hexText bs), ?_, ?_⟩
    · simp [value, ColumnType.cellValue, ColumnType.textValue, ColumnType.badZone?,
        ColumnType.cellText]
    · rw [Utf8.ofString, String.toList_ofList, bytes_hexText]

end Cell

/-! ## Keys -/

namespace KeyLookup

variable {d : KeyLookup} {r : ResultRow} {source : Source} {format : KeyFormat} {column : String}
  {c : Cell} {bs : List UInt8}

theorem mapError_eq_ok {k : WindowedKey} {read : Except KeyFault WindowedKey} :
    read.mapError Error.key = .ok k ↔ read = .ok k := by
  cases read <;> simp [Except.mapError]

/-- The bytes that are taken for the key: those that the column holds, or their digits. -/
theorem rawKey_of_holds (hcell : r.find d.keyColumn = .ok c) (hholds : c.Holds bs) :
    d.rawKey r = .ok (if c.type.isFixedSize then hexBytes bs else bs) := by
  have hread : r.readAny d.keyColumn = c.value := by
    rw [ResultRow.readAny, hcell]
    rfl
  rw [rawKey, hread]
  obtain ⟨hsize, hvalue | ⟨s, hvalue, rfl⟩⟩ | ⟨hsize, s, hvalue, hs⟩ := Cell.value_of_holds hholds
  · rw [hvalue, hsize]
    rfl
  · rw [hvalue, hsize]
    rfl
  · rw [hvalue, hsize, if_pos rfl, ← hs]
    rfl

/-- The key of a row is what is read from these bytes. -/
theorem windowedKey_of_cell (hformat : source.keyFormat = some format)
    (hcell : r.find d.keyColumn = .ok c) (hholds : c.Holds bs) :
    d.windowedKey r source =
      (d.reader format (if c.type.isFixedSize then hexBytes bs else bs)).mapError .key := by
  rw [windowedKey, hformat]
  simp only [rawKey_of_holds hcell hholds, bind, Except.bind]
  cases d.reader format _ <;> rfl

/-- Whatever way of reading keys is used, the key of a row of a windowed source is read from the
bytes that its key column holds, unless they have a fixed size: then it is read from their digits,
which are other bytes unless there are none. -/
theorem windowedKey_of_holds (hformat : source.keyFormat = some format)
    (hcell : r.find column = .ok c) (hholds : c.Holds bs) :
    (c.type.isFixedSize = false → ∀ reader : KeyReader,
      (KeyLookup.mk column reader).windowedKey r source = (reader format bs).mapError .key) ∧
    (c.type.isFixedSize = true → ∀ reader : KeyReader,
      (KeyLookup.mk column reader).windowedKey r source =
        (reader format (hexBytes bs)).mapError .key) ∧
    ((∀ reader : KeyReader,
        (KeyLookup.mk column reader).windowedKey r source = (reader format bs).mapError .key) ↔
      (c.type.isFixedSize = true → bs = [])) := by
  have hread : ∀ reader : KeyReader, (KeyLookup.mk column reader).windowedKey r source =
      (reader format (if c.type.isFixedSize then hexBytes bs else bs)).mapError .key :=
    fun _ => windowedKey_of_cell hformat hcell hholds
  refine ⟨fun hsize reader => ?_, fun hsize reader => ?_, ?_, ?_⟩
  · simpa [hsize] using hread reader
  · simpa [hsize] using hread reader
  · -- a reader that gives back the bytes it was given tells them from their digits
    intro h hsize
    have hecho := (h fun _ raw => .ok ⟨.bytes raw, ⟨0, 0⟩⟩).symm.trans (hread _)
    rw [hsize, if_pos rfl] at hecho
    injection hecho with hecho
    injection hecho with hbytes
    injection hbytes with hbytes
    exact hexBytes_eq_self_iff.1 hbytes.symm
  · intro h reader
    rw [hread reader]
    cases hsize : c.type.isFixedSize with
    | false => rfl
    | true =>
      rw [h hsize]
      rfl

/-- The number of views of a user, in windows of 100 ms. -/
def userViews : Source where
  name := "USERVIEWS"
  schema := ⟨some ⟨"ROWKEY", .string⟩, [⟨"COL0", .bigint⟩]⟩
  physicalName := "views_v3"
  keyFormat := some ⟨.tumbling 100, .string⟩

/-- A column of repeated texts holds the bytes that they encode. -/
theorem key_of_dictionary :
    userViews.keyFormat = some ⟨.tumbling 100, .string⟩ ∧
    (KeyLookup.mk "rowkey" WindowedKey.decode).windowedKey
        ⟨[⟨"ROWKEY", .dictionary, some "k\x00\x00\x00\x00\x00\x00\x00\x10"⟩]⟩ userViews =
      .ok ⟨.string "k", ⟨16, 116⟩⟩ := by
  have hkey : WindowedKey.decode ⟨.tumbling 100, .string⟩
      (Utf8.ofString "k\x00\x00\x00\x00\x00\x00\x00\x10") = .ok ⟨.string "k", ⟨16, 116⟩⟩ :=
    WindowedKey.decode_eq_ok_iff.2
      ⟨Utf8.ofString "k", by rw [KeyEncoding.decode, Utf8.decode_ofString], rfl, by decide⟩
  refine ⟨rfl, ?_⟩
  rw [(windowedKey_of_holds (c := ⟨"ROWKEY", .dictionary, _⟩) rfl rfl (.dictionary _ _)).1 rfl, hkey]
  rfl

/-- Digits are never read as the key that they are the digits of: a text or an integer that is
decoded from a column of a fixed size is not the key that the column holds. -/
theorem fixedSize_never_decodes {k : WindowedKey} (hformat : source.keyFormat = some format)
    (hcell : r.find column = .ok c) (hholds : c.Holds bs) (hsize : c.type.isFixedSize = true)
    (hencoding : format.encoding ≠ .json)
    (h : (KeyLookup.mk column WindowedKey.decode).windowedKey r source = .ok k) :
    WindowedKey.decode format bs ≠ .ok k := by
  intro hheld
  have hread : (WindowedKey.decode format (hexBytes bs)).mapError Error.key = .ok k := by
    rw [← h, windowedKey_of_cell (d := ⟨column, WindowedKey.decode⟩) hformat hcell hholds, hsize]
    rfl
  have hdigits : WindowedKey.decode format (hexBytes bs) = .ok k := mapError_eq_ok.1 hread
  obtain ⟨inner, hinner, -, hbs⟩ := WindowedKey.decode_eq_ok_iff.1 hheld
  obtain ⟨inner', hinner', -, hdigits⟩ := WindowedKey.decode_eq_ok_iff.1 hdigits
  -- texts and integers have one encoding, so the bytes would be their own digits
  rw [KeyEncoding.decode_eq_ok_iff hencoding] at hinner hinner'
  rw [hinner', Except.ok.injEq] at hinner
  have hempty : bs = [] := hexBytes_eq_self_iff.1 (by rw [hdigits, hbs, hinner])
  have hlength := congrArg List.length hbs
  rw [hempty, List.length_append, Window.length_suffix] at hlength
  have hsuffix : 0 < format.window.suffixLength := by
    cases format.window <;> simp [WindowType.suffixLength]
  simp only [List.length_nil] at hlength
  omega

/-- The nine bytes of the key `k` in the window from 16 on, in a column of a fixed size: another key
in another window is read. -/
theorem fixedSize_key_misread :
    Cell.Holds ⟨"rowkey", .fixedSizeBinary 9, some [107, 0, 0, 0, 0, 0, 0, 0, 16]⟩
      [107, 0, 0, 0, 0, 0, 0, 0, 16] ∧
    WindowedKey.decode ⟨.tumbling 100, .string⟩ [107, 0, 0, 0, 0, 0, 0, 0, 16] =
      .ok ⟨.string "k", ⟨16, 116⟩⟩ ∧
    (KeyLookup.mk "rowkey" WindowedKey.decode).windowedKey
        ⟨[⟨"rowkey", .fixedSizeBinary 9, some [107, 0, 0, 0, 0, 0, 0, 0, 16]⟩]⟩ userViews =
      .ok ⟨.string "6b00000000", ⟨3472328296227680560, 3472328296227680660⟩⟩ ∧
    (KeyLookup.mk "rowkey" WindowedKey.decode).windowedKey
        ⟨[⟨"rowkey", .fixedSizeBinary 9, some [107, 0, 0, 0, 0, 0, 0, 0, 16]⟩]⟩ userViews ≠
      (WindowedKey.decode ⟨.tumbling 100, .string⟩ [107, 0, 0, 0, 0, 0, 0, 0, 16]).mapError
        .key := by
  have hheld : WindowedKey.decode ⟨.tumbling 100, .string⟩ [107, 0, 0, 0, 0, 0, 0, 0, 16] =
      .ok ⟨.string "k", ⟨16, 116⟩⟩ :=
    WindowedKey.decode_eq_ok_iff.2
      ⟨Utf8.ofString "k", by rw [KeyEncoding.decode, Utf8.decode_ofString], rfl, by decide⟩
  have hdigits : WindowedKey.decode ⟨.tumbling 100, .string⟩
      (hexBytes [107, 0, 0, 0, 0, 0, 0, 0, 16]) =
        .ok ⟨.string "6b00000000", ⟨3472328296227680560, 3472328296227680660⟩⟩ :=
    WindowedKey.decode_eq_ok_iff.2
      ⟨Utf8.ofString "6b00000000", by rw [KeyEncoding.decode, Utf8.decode_ofString], rfl, by decide⟩
  have hread : (KeyLookup.mk "rowkey" WindowedKey.decode).windowedKey
      ⟨[⟨"rowkey", .fixedSizeBinary 9, some [107, 0, 0, 0, 0, 0, 0, 0, 16]⟩]⟩ userViews =
        .ok ⟨.string "6b00000000", ⟨3472328296227680560, 3472328296227680660⟩⟩ := by
    have hformat : userViews.keyFormat = some ⟨.tumbling 100, .string⟩ := rfl
    rw [windowedKey_of_cell (c := ⟨"rowkey", .fixedSizeBinary 9, _⟩) hformat rfl
      (.fixedSizeBinary _ _ _)]
    simp only [ColumnType.isFixedSize, if_true, hdigits]
    rfl
  refine ⟨.fixedSizeBinary _ _ _, hheld, hread, ?_⟩
  rw [hread, hheld]
  simp [Except.mapError]

end KeyLookup

end MatView
