import MatView.Text.Ascii
import MatView.Text.Keyword

/-!
# Characters and their bytes

The keyword search looks at the bytes of a text. Every question that it asks of a byte is one about
characters: a byte below 0x80 is a character of ASCII, and the bytes of any other character all
count as parts of identifiers.

## Main definitions

* `isWordChar`: whether a character may belong to an identifier.
* `Boundary`: whether no identifier goes on at a neighbour.

## Main statements

* `of_ascii`: what holds of 128 characters holds of all ASCII.
* `isEdge_head_bytes`, `isEdge_last_bytes`: the neighbours of a place, as bytes and as characters.
-/

namespace MatView.Text

/-- Whether a character may belong to an identifier, as every one beyond ASCII may. -/
def isWordChar (c : Char) : Bool :=
  isPlain c || 0x80 ≤ c.toNat

/-- No identifier goes on at a neighbour of a place. -/
def Boundary (neighbour : Option Char) : Prop :=
  ∀ c, neighbour = some c → isWordChar c = false

@[simp] theorem boundary_none : Boundary none := nofun

@[simp] theorem boundary_some {c : Char} : Boundary (some c) ↔ isWordChar c = false := by
  simp [Boundary]

/-! ## ASCII -/

/-- A fact on ASCII holds if it holds of each of its characters. -/
theorem of_ascii {p : Char → Prop} (h : ∀ n < 0x80, p (Char.ofNat n)) (c : Char)
    (hc : c.toNat < 0x80) : p c := by
  have hp := h c.toNat hc
  rwa [Char.ofNat_toNat] at hp

theorem toLower_of_wide {c : Char} (h : 0x80 ≤ c.toNat) : c.toLower = c := by
  have hupper : ¬ (65 ≤ c.val ∧ c.val ≤ 90) := by
    have hc : 0x80 ≤ c.val.toNat := h
    have hz : (90 : UInt32).toNat = 90 := rfl
    rw [UInt32.le_iff_toNat_le, UInt32.le_iff_toNat_le]
    omega
  exact dif_neg hupper

theorem toNat_toLower_lt {c : Char} (h : c.toNat < 0x80) : c.toLower.toNat < 0x80 :=
  of_ascii (p := fun c => c.toLower.toNat < 0x80) (by decide) c h

/-- Folding to lower case undoes folding to upper case. -/
theorem toLower_toUpper {c : Char} (h : c.toNat < 0x80) : c.toUpper.toLower = c.toLower :=
  of_ascii (p := fun c => c.toUpper.toLower = c.toLower) (by decide) c h

theorem toUpper_of_wide {c : Char} (h : 0x80 ≤ c.toNat) : c.toUpper = c := by
  have hlower : ¬ (97 ≤ c.val ∧ c.val ≤ 122) := by
    have hc : 0x80 ≤ c.val.toNat := h
    have hz : (122 : UInt32).toNat = 122 := rfl
    rw [UInt32.le_iff_toNat_le, UInt32.le_iff_toNat_le]
    omega
  exact dif_neg hlower

/-- What the upper-case form of a character satisfies is decided over ASCII. -/
theorem of_toUpper {p : Char → Char → Prop} (h : ∀ n < 0x80, p (Char.ofNat n) (Char.ofNat n).toUpper)
    (hwide : ∀ c, p c c) (c : Char) : p c c.toUpper := by
  by_cases hc : c.toNat < 0x80
  · exact of_ascii (p := fun c => p c c.toUpper) h c hc
  · rw [toUpper_of_wide (Nat.le_of_not_lt hc)]
    exact hwide c

theorem toLower_of_toUpper (c : Char) : c.toUpper.toLower = c.toLower :=
  of_toUpper (p := fun c d => d.toLower = c.toLower) (by decide) (fun _ => rfl) c

theorem toNat_lt_of_isPlain {c : Char} (h : isPlain c = true) : c.toNat < 0x80 := by
  simp only [isPlain, Bool.or_eq_true, beq_iff_eq] at h
  obtain h | rfl := h
  · have hranges : ((decide (65 ≤ c.val ∧ c.val ≤ 90) || (decide (97 ≤ c.val) && decide (c.val ≤ 122)))
        || (decide (48 ≤ c.val) && decide (c.val ≤ 57))) = true := h
    have hval : c.toNat = c.val.toNat := rfl
    simp only [Bool.or_eq_true, Bool.and_eq_true, decide_eq_true_eq, UInt32.le_iff_toNat_le,
      UInt32.reduceToNat] at hranges
    omega
  · decide

/-! ## The bytes of a character -/

/-- A character of ASCII is one byte. -/
theorem utf8EncodeChar_of_ascii {c : Char} (h : c.toNat < 0x80) :
    String.utf8EncodeChar c = [UInt8.ofNat c.toNat] := by
  have hval : c.val.toNat ≤ 127 := Nat.le_of_lt_succ h
  unfold String.utf8EncodeChar
  simp only [hval, if_true]
  rfl

/-- All bytes of a character beyond ASCII are beyond ASCII. -/
theorem le_of_mem_utf8EncodeChar {c : Char} (h : 0x80 ≤ c.toNat) {b : UInt8}
    (hb : b ∈ String.utf8EncodeChar c) : 0x80 ≤ b := by
  have hval : 127 < c.val.toNat := h
  unfold String.utf8EncodeChar at hb
  simp only at hb
  split at hb
  · omega
  · split at hb
    · simp only [List.mem_cons, List.not_mem_nil, or_false] at hb
      rcases hb with rfl | rfl <;> rw [UInt8.le_iff_toNat_le] <;> simp <;> omega
    · split at hb
      · simp only [List.mem_cons, List.not_mem_nil, or_false] at hb
        rcases hb with rfl | rfl | rfl <;> rw [UInt8.le_iff_toNat_le] <;> simp <;> omega
      · simp only [List.mem_cons, List.not_mem_nil, or_false] at hb
        rcases hb with rfl | rfl | rfl | rfl <;> rw [UInt8.le_iff_toNat_le] <;> simp <;> omega

theorem utf8EncodeChar_ne_nil (c : Char) : String.utf8EncodeChar c ≠ [] := by
  rw [← List.length_pos_iff, String.length_utf8EncodeChar]
  exact c.utf8Size_pos

theorem isWordByte_of_ascii {c : Char} (h : c.toNat < 0x80) :
    isWordByte (UInt8.ofNat c.toNat) = isWordChar c :=
  of_ascii (p := fun c => isWordByte (UInt8.ofNat c.toNat) = isWordChar c) (by decide) c h

theorem foldByte_of_ascii {c : Char} (h : c.toNat < 0x80) :
    foldByte (UInt8.ofNat c.toNat) = UInt8.ofNat c.toLower.toNat :=
  of_ascii (p := fun c => foldByte (UInt8.ofNat c.toNat) = UInt8.ofNat c.toLower.toNat) (by decide)
    c h

theorem isWordByte_of_wide {b : UInt8} (h : 0x80 ≤ b) : isWordByte b = true := by
  simp [isWordByte, h]

theorem foldByte_of_wide {b : UInt8} (h : 0x80 ≤ b) : foldByte b = b := by
  have hb : ¬ b ≤ 0x5A := by
    intro hle
    exact absurd (UInt8.le_trans h hle) (by decide)
  simp [foldByte, hb]

/-- A byte beyond ASCII is no quote. -/
theorem Quoting.step_of_wide (state : Quoting) {b : UInt8} (h : 0x80 ≤ b) : state.step b = state := by
  have hsingle : b ≠ singleQuote := by
    rintro rfl
    exact absurd h (by decide)
  have hdouble : b ≠ doubleQuote := by
    rintro rfl
    exact absurd h (by decide)
  cases state <;> simp [Quoting.step, hsingle, hdouble]

theorem Quoting.foldl_step_of_wide (state : Quoting) {bs : List UInt8} (h : ∀ b ∈ bs, 0x80 ≤ b) :
    bs.foldl Quoting.step state = state := by
  induction bs generalizing state with
  | nil => rfl
  | cons b bs ih =>
    obtain ⟨hb, hbs⟩ := List.forall_mem_cons.1 h
    rw [List.foldl_cons, Quoting.step_of_wide state hb, ih state hbs]

/-- The ASCII characters of two equal bytes are equal. -/
theorem eq_of_ofNat_eq {c d : Char} (hc : c.toNat < 0x80) (hd : d.toNat < 0x80)
    (h : UInt8.ofNat c.toNat = UInt8.ofNat d.toNat) : c = d := by
  have hnat : c.toNat = d.toNat := by
    have := congrArg UInt8.toNat h
    simp only [UInt8.toNat_ofNat'] at this
    omega
  rw [← Char.ofNat_toNat c, ← Char.ofNat_toNat d, hnat]

/-! ## Neighbours -/

/-- The neighbour on the right of a place, as a byte and as a character. -/
theorem isEdge_head_bytes (cs : List Char) :
    isEdge (Utf8.bytes cs)[0]? = true ↔ Boundary cs.head? := by
  cases cs with
  | nil => simp [isEdge]
  | cons c cs =>
    by_cases hc : c.toNat < 0x80
    · simp [utf8EncodeChar_of_ascii hc, isEdge, isWordByte_of_ascii hc]
    · have hwide : 0x80 ≤ c.toNat := Nat.le_of_not_lt hc
      obtain ⟨b, bs, hbs⟩ := List.exists_cons_of_ne_nil (utf8EncodeChar_ne_nil c)
      have hb : 0x80 ≤ b := le_of_mem_utf8EncodeChar hwide (by simp [hbs])
      simp [hbs, isEdge, isWordByte_of_wide hb, isWordChar, hwide]

/-- The neighbour on the left of a place, as a byte and as a character. -/
theorem isEdge_last_bytes (cs : List Char) :
    isEdge (Utf8.bytes cs).getLast? = true ↔ Boundary cs.getLast? := by
  obtain rfl | ⟨front, c, rfl⟩ := List.eq_nil_or_concat cs
  · simp [isEdge]
  · have hlast : (Utf8.bytes (front.concat c)).getLast? =
        some ((String.utf8EncodeChar c).getLast (utf8EncodeChar_ne_nil c)) := by
      simp [List.getLast?_eq_some_getLast (utf8EncodeChar_ne_nil c)]
    rw [hlast, List.concat_eq_append, List.getLast?_concat]
    by_cases hc : c.toNat < 0x80
    · simp [utf8EncodeChar_of_ascii hc, isEdge, isWordByte_of_ascii hc]
    · have hwide : 0x80 ≤ c.toNat := Nat.le_of_not_lt hc
      have hb := le_of_mem_utf8EncodeChar hwide (List.getLast_mem (utf8EncodeChar_ne_nil c))
      simp [isEdge, isWordByte_of_wide hb, isWordChar, hwide]

end MatView.Text
