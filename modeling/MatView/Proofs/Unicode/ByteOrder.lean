import Mathlib.Tactic.SplitIfs
import MatView.Unicode.Utf8

/-!
# The order of texts and of their bytes

Texts are compared character by character. The UTF-8 form keeps this order: of two characters, the
smaller one has the smaller bytes, and no character begins with the bytes of another one.

## Main statements

* `Utf8.utf8EncodeChar_append_lt`: characters in front of any bytes.
* `Utf8.ofString_lt`: texts.
-/

namespace MatView.Utf8

theorem ofNat_cons_lt_iff {a b : Nat} {as bs : List UInt8} :
    UInt8.ofNat a :: as < UInt8.ofNat b :: bs ↔
      a % 256 < b % 256 ∨ a % 256 = b % 256 ∧ as < bs := by
  rw [List.cons_lt_cons_iff, UInt8.lt_iff_toNat_lt, ← UInt8.toNat_inj, UInt8.toNat_ofNat',
    UInt8.toNat_ofNat']

theorem toNat_lt_of_char (c : Char) : c.val.toNat < 0x110000 := by
  have hvalid := c.valid
  simp only [UInt32.isValidChar, Nat.isValidChar] at hvalid
  omega

/-- The bytes of the smaller character are smaller, whatever follows either. -/
theorem utf8EncodeChar_append_lt {c d : Char} (h : c < d) (cs ds : List UInt8) :
    String.utf8EncodeChar c ++ cs < String.utf8EncodeChar d ++ ds := by
  have hlt : c.val.toNat < d.val.toNat := UInt32.lt_iff_toNat_lt.1 h
  have hbound := toNat_lt_of_char d
  unfold String.utf8EncodeChar
  generalize c.val.toNat = m at *
  generalize d.val.toNat = n at *
  -- Four bytes hold digits to the base 64, each of them found by dividing the one above it.
  have hdigits : ∀ k : Nat, k / 4096 = k / 64 / 64 ∧ k / 262144 = k / 64 / 64 / 64 := by
    intro k
    simp [Nat.div_div_eq_div_mul]
  simp only [(hdigits m).1, (hdigits m).2, (hdigits n).1, (hdigits n).2]
  split_ifs <;> simp only [List.cons_append, List.nil_append, ofNat_cons_lt_iff] <;> omega

theorem bytes_lt {cs ds : List Char} (h : cs < ds) : bytes cs < bytes ds := by
  induction cs generalizing ds with
  | nil =>
    cases ds with
    | nil => exact absurd h (List.not_lt_nil _)
    | cons d ds =>
      have hne : bytes (d :: ds) ≠ [] := by
        rw [← List.length_pos_iff, length_bytes_cons]
        exact Nat.add_pos_left d.utf8Size_pos _
      obtain ⟨b, bs, hbs⟩ := List.exists_cons_of_ne_nil hne
      rw [hbs]
      exact List.nil_lt_cons b bs
  | cons c cs ih =>
    cases ds with
    | nil => exact absurd h (List.not_lt_nil _)
    | cons d ds =>
      obtain hlt | ⟨rfl, hlt⟩ := List.cons_lt_cons_iff.1 h
      · exact utf8EncodeChar_append_lt hlt _ _
      · exact List.append_left_lt (ih hlt)

/-- The order of texts is the one of their bytes. -/
theorem ofString_lt {s t : String} (h : s < t) : ofString s < ofString t :=
  bytes_lt h

end MatView.Utf8
