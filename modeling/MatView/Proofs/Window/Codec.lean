import Mathlib.Algebra.Group.Nat.Defs
import Mathlib.Algebra.Ring.Int.Defs
import MatView.Window.Key

/-!
# The codec of windowed keys

The grouping keys that are texts and integers have one encoding each, and every byte string that is
read as such a key is its encoding. The bounds of a window have one encoding too, but a window of
one size is stored without its end: what is read back ends where the size says, and is refused if
this end has no 64 bits. The two bounds of other windows are refused if they are reversed.

## Main definitions

* `WindowType.Admits`: the windows that a format gives back.

## Main statements

* `wordValue_wordBytes`, `wordBytes_wordValue`: integers and their bytes.
* `Utf8.decode_eq_ok_iff`, `KeyEncoding.decode_eq_ok_iff`, `Window.ofSuffix_eq_ok_iff`: the parts
  of a key and their bytes.
* `WindowedKey.decode_append`: a key is read from its two parts.
* `WindowedKey.exact_codec`: decoding is the inverse of encoding.
-/

namespace MatView

/-! ## Integers as bytes -/

section

variable {b : UInt8} {bs cs : List UInt8}

/-- Bytes that follow a number move it up and add what they stand for. -/
theorem foldl_wordValue (n : Nat) (bs : List UInt8) :
    bs.foldl (fun n b => 256 * n + b.toNat) n = n * 256 ^ bs.length + wordValue bs := by
  induction bs generalizing n with
  | nil => simp [wordValue]
  | cons b bs ih =>
    have hcons : wordValue (b :: bs) = (256 * 0 + b.toNat) * 256 ^ bs.length + wordValue bs := ih _
    rw [List.foldl_cons, ih, hcons, List.length_cons, Nat.pow_succ]
    grind

theorem wordValue_cons (b : UInt8) (bs : List UInt8) :
    wordValue (b :: bs) = b.toNat * 256 ^ bs.length + wordValue bs := by
  have h : wordValue (b :: bs) = (256 * 0 + b.toNat) * 256 ^ bs.length + wordValue bs :=
    foldl_wordValue _ bs
  rw [h, Nat.mul_zero, Nat.zero_add]

theorem wordValue_lt (bs : List UInt8) : wordValue bs < 256 ^ bs.length := by
  induction bs with
  | nil => simp [wordValue]
  | cons b bs ih =>
    have hb : b.toNat + 1 ≤ 256 := b.toNat_lt
    have hmul := Nat.mul_le_mul_right (256 ^ bs.length) hb
    rw [wordValue_cons, List.length_cons, Nat.pow_succ]
    grind

/-- Byte strings of one length that stand for one number are the same. -/
theorem wordValue_inj (hlength : bs.length = cs.length) (h : wordValue bs = wordValue cs) :
    bs = cs := by
  induction bs generalizing cs with
  | nil => exact (List.eq_nil_of_length_eq_zero hlength.symm).symm
  | cons b bs ih =>
    cases cs with
    | nil => cases hlength
    | cons c cs =>
      have hlength' : bs.length = cs.length := Nat.succ.inj hlength
      have hbs := wordValue_lt bs
      have hcs := wordValue_lt cs
      rw [wordValue_cons, wordValue_cons, ← hlength'] at h
      rw [← hlength'] at hcs
      have hhead : b.toNat = c.toNat := by
        have hdiv := congrArg (· / 256 ^ bs.length) h
        have hpos : 0 < 256 ^ bs.length := Nat.pow_pos (by decide)
        simpa only [Nat.mul_comm _ (256 ^ bs.length), Nat.mul_add_div hpos, Nat.div_eq_of_lt hbs,
          Nat.div_eq_of_lt hcs, Nat.add_zero] using hdiv
      have htail : wordValue bs = wordValue cs := by
        rw [hhead] at h
        exact Nat.add_left_cancel h
      rw [UInt8.toNat_inj.1 hhead, ih hlength' htail]

theorem wordValue_wordBytes (width n : Nat) : wordValue (wordBytes width n) = n % 256 ^ width := by
  induction width with
  | zero => simp [wordBytes, wordValue, Nat.mod_one]
  | succ width ih =>
    rw [wordBytes, wordValue_cons, length_wordBytes, ih, Nat.mod_pow_succ, Nat.mul_comm,
      Nat.add_comm]
    rfl

theorem wordBytes_wordValue (bs : List UInt8) : wordBytes bs.length (wordValue bs) = bs := by
  apply wordValue_inj (length_wordBytes _ _)
  rw [wordValue_wordBytes, Nat.mod_eq_of_lt (wordValue_lt bs)]

@[simp] theorem int64OfBytes_int64Bytes (n : Int64) : int64OfBytes (int64Bytes n) = n := by
  have hlt : n.toUInt64.toNat < 256 ^ 8 := n.toUInt64.toNat_lt
  rw [int64OfBytes, int64Bytes, wordValue_wordBytes, Nat.mod_eq_of_lt hlt, UInt64.ofNat_toNat,
    Int64.toInt64_toUInt64]

@[simp] theorem int32OfBytes_int32Bytes (n : Int32) : int32OfBytes (int32Bytes n) = n := by
  have hlt : n.toUInt32.toNat < 256 ^ 4 := n.toUInt32.toNat_lt
  rw [int32OfBytes, int32Bytes, wordValue_wordBytes, Nat.mod_eq_of_lt hlt, UInt32.ofNat_toNat,
    Int32.toInt32_toUInt32]

theorem int64Bytes_int64OfBytes (h : bs.length = 8) : int64Bytes (int64OfBytes bs) = bs := by
  have hlt := wordValue_lt bs
  rw [h] at hlt
  have hvalue : (int64OfBytes bs).toUInt64.toNat = wordValue bs := UInt64.toNat_ofNat_of_lt' hlt
  rw [int64Bytes, hvalue, ← h, wordBytes_wordValue]

theorem int32Bytes_int32OfBytes (h : bs.length = 4) : int32Bytes (int32OfBytes bs) = bs := by
  have hlt := wordValue_lt bs
  rw [h] at hlt
  have hvalue : (int32OfBytes bs).toUInt32.toNat = wordValue bs := UInt32.toNat_ofNat_of_lt' hlt
  rw [int32Bytes, hvalue, ← h, wordBytes_wordValue]

end

/-! ## Texts as bytes -/

namespace Utf8

theorem toByteArray_eq (s : String) : s.toByteArray = ⟨(ofString s).toArray⟩ := by
  apply ByteArray.ext
  rw [← String.ofList_toList (s := s), String.toByteArray_ofList]
  simp [List.utf8Encode, ofString, bytes]

/-- A byte string is read as a text if and only if it is the encoding of this text. -/
theorem decode_eq_ok_iff {bs : List UInt8} {s : String} : decode bs = .ok s ↔ bs = ofString s := by
  unfold decode String.fromUTF8?
  split
  · rename_i found hfound
    split at hfound
    · cases hfound
      rw [Except.ok.injEq, ← String.toByteArray_inj, toByteArray_eq s]
      simp [String.fromUTF8]
    · cases hfound
  · rename_i hnone
    split at hnone
    · cases hnone
    · rename_i hvalid
      constructor
      · intro h
        cases h
      · rintro rfl
        exact absurd (toByteArray_eq s ▸ s.isValidUTF8) hvalid

@[simp] theorem decode_ofString (s : String) : decode (ofString s) = .ok s :=
  decode_eq_ok_iff.2 rfl

end Utf8

/-! ## Windows -/

theorem addInt64?_eq_some_iff {a b c : Int64} :
    addInt64? a b = some c ↔ c.toInt = a.toInt + b.toInt := by
  have hmin : Int64.minValue.toInt = -2 ^ 63 := rfl
  have hmax : Int64.maxValue.toInt = 2 ^ 63 - 1 := rfl
  have hlow := c.le_toInt
  have hhigh := c.toInt_lt
  simp only [addInt64?, hmin, hmax]
  split
  · rename_i hrange
    have hsum : (Int64.ofInt (a.toInt + b.toInt)).toInt = a.toInt + b.toInt :=
      Int64.toInt_ofInt_of_le hrange.1 (by omega)
    rw [Option.some.injEq, ← Int64.toInt_inj, hsum]
    exact eq_comm
  · simp only [reduceCtorEq, false_iff]
    omega

theorem addInt64?_eq_none_iff {a b : Int64} :
    addInt64? a b = none ↔ a.toInt + b.toInt < -2 ^ 63 ∨ 2 ^ 63 ≤ a.toInt + b.toInt := by
  have hmin : Int64.minValue.toInt = -2 ^ 63 := rfl
  have hmax : Int64.maxValue.toInt = 2 ^ 63 - 1 := rfl
  simp only [addInt64?, hmin, hmax]
  split
  · simp only [reduceCtorEq, false_iff]
    omega
  · simp only [true_iff]
    omega

/-- The windows that a format gives back: those that have its size, or do not end before they
start. -/
def WindowType.Admits (type : WindowType) (w : Window) : Prop :=
  match type.size? with
  | some size => w.stop.toInt = w.start.toInt + size.toInt
  | none => w.start ≤ w.stop

namespace Window

variable {type : WindowType} {suffix : List UInt8} {w : Window}

/-- What the stored bounds of a window are read as: the window from its start on that has the size
of the format, or the window itself. -/
inductive Restores (type : WindowType) (w : Window) : Except KeyFault Window → Prop
  | sized {size stop : Int64} (hsize : type.size? = some size)
      (hstop : stop.toInt = w.start.toInt + size.toInt) : Restores type w (.ok ⟨w.start, stop⟩)
  | overflow {size : Int64} (hsize : type.size? = some size)
      (hstop : w.start.toInt + size.toInt < -2 ^ 63 ∨ 2 ^ 63 ≤ w.start.toInt + size.toInt) :
      Restores type w (.error (.endOverflow w.start size))
  | bounds (hsize : type.size? = none) (hle : w.start ≤ w.stop) : Restores type w (.ok w)
  | reversed (hsize : type.size? = none) (hlt : w.stop < w.start) :
      Restores type w (.error (.reversed w.start w.stop))

theorem ofBounds_append (stop start : Int64) :
    ofBounds (int64Bytes stop ++ int64Bytes start) =
      if stop < start then .error (.reversed start stop) else .ok ⟨start, stop⟩ := by
  have htake : (int64Bytes stop ++ int64Bytes start).take 8 = int64Bytes stop :=
    List.take_left' (length_int64Bytes stop)
  have hdrop : (int64Bytes stop ++ int64Bytes start).drop 8 = int64Bytes start :=
    List.drop_left' (length_int64Bytes stop)
  rw [ofBounds, htake, hdrop, int64OfBytes_int64Bytes, int64OfBytes_int64Bytes]

/-- The stored bounds of a window are read as the format says. -/
theorem restores_ofSuffix (type : WindowType) (w : Window) :
    w.Restores type (ofSuffix type (w.suffix type)) := by
  have hsized : ∀ size, type.size? = some size →
      w.Restores type (ofStart size (int64Bytes w.start)) := by
    intro size hsize
    simp only [ofStart, int64OfBytes_int64Bytes]
    cases hstop : addInt64? w.start size with
    | some stop => exact .sized hsize (addInt64?_eq_some_iff.1 hstop)
    | none => exact .overflow hsize (addInt64?_eq_none_iff.1 hstop)
  cases type with
  | tumbling size => exact hsized size rfl
  | hopping size advance => exact hsized size rfl
  | session =>
    rw [suffix, ofSuffix, ofBounds_append]
    split
    · rename_i hlt
      exact .reversed rfl hlt
    · rename_i hle
      exact .bounds rfl (Int64.not_lt.1 hle)

/-- A window that the format gives back is read back as it is. -/
theorem ofSuffix_suffix (h : type.Admits w) : ofSuffix type (w.suffix type) = .ok w := by
  have hrestores := restores_ofSuffix type w
  revert hrestores
  generalize ofSuffix type (w.suffix type) = read
  rintro (⟨hsize, hstop⟩ | ⟨hsize, hstop⟩ | ⟨hsize, hle⟩ | ⟨hsize, hlt⟩)
  · rename_i size stop
    simp only [WindowType.Admits, hsize, ← hstop] at h
    rw [← Int64.toInt_inj.1 h]
  · simp only [WindowType.Admits, hsize] at h
    have hlow := w.stop.le_toInt
    have hhigh := w.stop.toInt_lt
    omega
  · rfl
  · simp only [WindowType.Admits, hsize] at h
    exact absurd h (Int64.not_le.2 hlt)

/-- As many bytes as the bounds take are those of some window. -/
theorem exists_suffix (h : suffix.length = type.suffixLength) :
    ∃ w : Window, suffix = w.suffix type := by
  have hstart : suffix.length = 8 → ∃ w : Window, suffix = int64Bytes w.start := fun h8 =>
    ⟨⟨int64OfBytes suffix, 0⟩, (int64Bytes_int64OfBytes h8).symm⟩
  cases type with
  | tumbling size => exact hstart h
  | hopping size advance => exact hstart h
  | session =>
    have htake : (suffix.take 8).length = 8 := by
      rw [List.length_take, h]
      rfl
    have hdrop : (suffix.drop 8).length = 8 := by
      rw [List.length_drop, h]
      rfl
    refine ⟨⟨int64OfBytes (suffix.drop 8), int64OfBytes (suffix.take 8)⟩, ?_⟩
    rw [Window.suffix, int64Bytes_int64OfBytes htake, int64Bytes_int64OfBytes hdrop,
      List.take_append_drop]

/-- Bytes are read as a window that the format gives back, and are its bounds. -/
theorem ofSuffix_eq_ok_iff (hlength : suffix.length = type.suffixLength) :
    ofSuffix type suffix = .ok w ↔ type.Admits w ∧ suffix = w.suffix type := by
  constructor
  · intro h
    obtain ⟨stored, rfl⟩ := exists_suffix hlength
    have hrestores := restores_ofSuffix type stored
    rw [h] at hrestores
    cases hrestores with
    | sized hsize hstop =>
      refine ⟨by simpa only [WindowType.Admits, hsize] using hstop, ?_⟩
      cases type with
      | tumbling size => rfl
      | hopping size advance => rfl
      | session => cases hsize
    | bounds hsize hle => exact ⟨by simpa only [WindowType.Admits, hsize] using hle, rfl⟩
  · rintro ⟨hadmits, rfl⟩
    exact ofSuffix_suffix hadmits

end Window

/-! ## Grouping keys -/

/-- A byte string is read as a grouping key that is no document if and only if it is the encoding of
this key. -/
theorem KeyEncoding.decode_eq_ok_iff {e : KeyEncoding} (he : e ≠ .json) {bs : List UInt8}
    {key : Value} : e.decode bs = .ok key ↔ e.encode key = .ok bs := by
  cases e with
  | string =>
    constructor
    · intro h
      simp only [decode] at h
      split at h
      · rename_i s hs
        cases h
        rw [encode, ← Utf8.decode_eq_ok_iff.1 hs]
      · cases h
    · intro h
      cases key <;> cases h
      rw [decode, Utf8.decode_ofString]
  | int =>
    constructor
    · intro h
      simp only [decode] at h
      split at h
      · rename_i hlength
        cases h
        rw [encode, int32Bytes_int32OfBytes hlength]
      · cases h
    · intro h
      cases key <;> cases h
      simp [decode]
  | bigint =>
    constructor
    · intro h
      simp only [decode] at h
      split at h
      · rename_i hlength
        cases h
        rw [encode, int64Bytes_int64OfBytes hlength]
      · cases h
    · intro h
      cases key <;> cases h
      simp [decode]
  | json => exact absurd rfl he

/-! ## Keys -/

namespace WindowedKey

variable {f : KeyFormat} {inner suffix bs : List UInt8} {k : WindowedKey}

theorem bind_eq_ok {α β : Type} {first : Except KeyFault α} {next : α → Except KeyFault β} {b : β} :
    (first >>= next) = .ok b ↔ ∃ a, first = .ok a ∧ next a = .ok b := by
  cases first <;> simp [bind, Except.bind]

/-- The bounds of the window stand behind the grouping key. -/
theorem encode_eq_ok_iff : encode f k = .ok bs ↔
    ∃ inner, f.encoding.encode k.key = .ok inner ∧ bs = inner ++ k.window.suffix f.window := by
  rw [encode, bind_eq_ok]
  constructor
  · rintro ⟨inner, hinner, h⟩
    cases h
    exact ⟨inner, hinner, rfl⟩
  · rintro ⟨inner, hinner, rfl⟩
    exact ⟨inner, hinner, rfl⟩

/-- A key is read from its two parts, the bounds of the window first. -/
theorem decode_append (h : suffix.length = f.window.suffixLength) :
    decode f (inner ++ suffix) = do
      let window ← Window.ofSuffix f.window suffix
      let key ← f.encoding.decode inner
      return { key, window } := by
  have hlength : (inner ++ suffix).length - f.window.suffixLength = inner.length := by
    rw [List.length_append]
    omega
  have hlong : ¬ (inner ++ suffix).length < f.window.suffixLength := by
    rw [List.length_append]
    omega
  simp only [decode, if_neg hlong, hlength, List.take_left, List.drop_left]

/-- A byte string is read as a key if it ends with the bounds of a window that the format gives
back, and what stands before them is read as the grouping key. -/
theorem decode_eq_ok_iff : decode f bs = .ok k ↔ ∃ inner, f.encoding.decode inner = .ok k.key ∧
    f.window.Admits k.window ∧ bs = inner ++ k.window.suffix f.window := by
  constructor
  · intro h
    by_cases hshort : bs.length < f.window.suffixLength
    · rw [decode, if_pos hshort] at h
      cases h
    · have hlength : (bs.drop (bs.length - f.window.suffixLength)).length =
          f.window.suffixLength := by
        rw [List.length_drop]
        omega
      rw [← List.take_append_drop (bs.length - f.window.suffixLength) bs,
        decode_append hlength] at h
      obtain ⟨window, hwindow, h⟩ := bind_eq_ok.1 h
      obtain ⟨key, hkey, h⟩ := bind_eq_ok.1 h
      cases h
      obtain ⟨hadmits, hsuffix⟩ := (Window.ofSuffix_eq_ok_iff hlength).1 hwindow
      refine ⟨_, hkey, hadmits, ?_⟩
      rw [← hsuffix, List.take_append_drop]
  · rintro ⟨inner, hinner, hadmits, rfl⟩
    rw [decode_append (Window.length_suffix _ _), Window.ofSuffix_suffix hadmits]
    exact bind_eq_ok.2 ⟨_, rfl, bind_eq_ok.2 ⟨_, hinner, rfl⟩⟩

/-- A grouping key that is a text or an integer, and the bounds of its window, have one encoding. It
is read back as this key, with the window that its stored bounds stand for. -/
theorem exact_codec (hf : f.encoding ≠ .json) :
    (∀ bs k, decode f bs = .ok k ↔ f.window.Admits k.window ∧ encode f k = .ok bs) ∧
    (∀ bs k, encode f k = .ok bs → ∃ read, k.window.Restores f.window read ∧
      decode f bs = read.map (WindowedKey.mk k.key)) ∧
    ∀ bs bs' k, decode f bs = .ok k → decode f bs' = .ok k → bs = bs' := by
  have hiff : ∀ bs k, decode f bs = .ok k ↔ f.window.Admits k.window ∧ encode f k = .ok bs := by
    intro bs k
    rw [decode_eq_ok_iff, encode_eq_ok_iff]
    constructor
    · rintro ⟨inner, hinner, hadmits, rfl⟩
      exact ⟨hadmits, inner, (KeyEncoding.decode_eq_ok_iff hf).1 hinner, rfl⟩
    · rintro ⟨hadmits, inner, hinner, rfl⟩
      exact ⟨inner, (KeyEncoding.decode_eq_ok_iff hf).2 hinner, hadmits, rfl⟩
  refine ⟨hiff, fun bs k h => ?_, fun bs bs' k h h' => ?_⟩
  · obtain ⟨inner, hinner, rfl⟩ := encode_eq_ok_iff.1 h
    refine ⟨_, Window.restores_ofSuffix f.window k.window, ?_⟩
    rw [decode_append (Window.length_suffix _ _), (KeyEncoding.decode_eq_ok_iff hf).2 hinner]
    cases Window.ofSuffix f.window (k.window.suffix f.window) <;> rfl
  · have hbytes := ((hiff bs k).1 h).2
    rw [((hiff bs' k).1 h').2, Except.ok.injEq] at hbytes
    exact hbytes.symm

/-- A key of four bytes that is stored without the end of its window is read back with this end. -/
theorem hopping_key_read_back : (KeyFormat.mk (.hopping 60000 10000) .int).encoding ≠ .json ∧
    decode ⟨.hopping 60000 10000, .int⟩ [255, 255, 255, 254, 0, 0, 0, 0, 0, 0, 3, 232] =
      .ok ⟨.int (-2), ⟨1000, 61000⟩⟩ :=
  ⟨by decide, ((exact_codec (by decide)).1 _ _).2 ⟨rfl, rfl⟩⟩

end WindowedKey

end MatView
