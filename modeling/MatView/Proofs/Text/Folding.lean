import MatView.Proofs.Text.Words
import MatView.Proofs.Unicode.Casing

/-!
# Texts in another letter case

A text is searched, cut and upper-cased without regard to the case of ASCII letters: texts that are
spelled alike have their keywords at the same offsets, are cut into parts that are spelled alike,
and have one upper-case form. The reason is the same each time: the answer for a text is the one for
its lower-case form, byte by byte or character by character.

## Main statements

* `keywordOffset_congr`: the places of keywords.
* `Alike.takeBytes`: the parts of a text.
* `Alike.upperChars_eq`: the upper-case form.
* `sameName_iff_upperAscii`: names are equal up to case if and only if their upper-case forms are.
-/

namespace MatView

namespace Text

variable {s t : List Char}

/-! ## Characters -/

/-- What the lower-case form of a character satisfies is decided over ASCII. -/
theorem of_toLower {p : Char → Char → Prop}
    (h : ∀ n < 0x80, p (Char.ofNat n) (Char.ofNat n).toLower)
    (hwide : ∀ c, p c c) (c : Char) : p c c.toLower := by
  by_cases hc : c.toNat < 0x80
  · exact of_ascii (p := fun c => p c c.toLower) h c hc
  · rw [toLower_of_wide (Nat.le_of_not_lt hc)]
    exact hwide c

theorem toUpper_of_toLower (c : Char) : c.toLower.toUpper = c.toUpper :=
  of_toLower (p := fun c d => d.toUpper = c.toUpper) (by decide) (fun _ => rfl) c

theorem toLower_idem (c : Char) : c.toLower.toLower = c.toLower :=
  of_toLower (p := fun c d => d.toLower = c.toLower) (by decide) (fun _ => rfl) c

@[simp] theorem utf8Size_toLower (c : Char) : c.toLower.utf8Size = c.utf8Size :=
  of_toLower (p := fun c d => d.utf8Size = c.utf8Size) (by decide) (fun _ => rfl) c

/-- Two letters differ in case if their forms in either case are equal. -/
theorem toLower_eq_iff_toUpper_eq {c d : Char} : c.toLower = d.toLower ↔ c.toUpper = d.toUpper := by
  constructor
  · intro h
    rw [← toUpper_of_toLower c, h, toUpper_of_toLower]
  · intro h
    rw [← toLower_of_toUpper c, h, toLower_of_toUpper]

/-! ## Names -/

theorem sameName_iff_upperAscii {a b : String} :
    sameName a b = true ↔ upperAscii a = upperAscii b := by
  have hchars : ∀ as bs : List Char, as.map Char.toLower = bs.map Char.toLower ↔
      as.map Char.toUpper = bs.map Char.toUpper := by
    intro as
    induction as with
    | nil => simp
    | cons a as ih =>
      intro bs
      cases bs with
      | nil => simp
      | cons b bs => simp [ih, toLower_eq_iff_toUpper_eq]
  rw [sameName_iff_alike, Alike, hchars, upperAscii, upperAscii, String.ofList_inj]

theorem lowerAscii_idem (name : String) : lowerAscii (lowerAscii name) = lowerAscii name := by
  have hidem : Char.toLower ∘ Char.toLower = Char.toLower := funext toLower_idem
  rw [lowerAscii, lowerAscii, String.toList_ofList, List.map_map, hidem]

theorem lowerAscii_append (a b : String) : lowerAscii (a ++ b) = lowerAscii a ++ lowerAscii b := by
  simp [lowerAscii]

/-- Texts around names that are equal up to case are equal up to case. -/
theorem sameName_append {a b c d : String} (hab : sameName a b = true) (hcd : sameName c d = true) :
    sameName (a ++ c) (b ++ d) = true := by
  rw [sameName_iff] at *
  rw [lowerAscii_append, lowerAscii_append, hab, hcd]

/-! ## Bytes -/

/-- A fact on bytes holds if it holds of each of them. -/
theorem of_byte {p : UInt8 → Prop} (h : ∀ n < 256, p (UInt8.ofNat n)) (b : UInt8) : p b := by
  have hp := h b.toNat b.toNat_lt
  rwa [UInt8.ofNat_toNat] at hp

theorem foldByte_idem (b : UInt8) : foldByte (foldByte b) = foldByte b :=
  of_byte (p := fun b => foldByte (foldByte b) = foldByte b) (by decide +kernel) b

theorem isWordByte_foldByte (b : UInt8) : isWordByte (foldByte b) = isWordByte b :=
  of_byte (p := fun b => isWordByte (foldByte b) = isWordByte b) (by decide +kernel) b

theorem Quoting.step_foldByte (state : Quoting) (b : UInt8) :
    state.step (foldByte b) = state.step b := by
  refine of_byte (p := fun b => state.step (foldByte b) = state.step b) ?_ b
  cases state <;> decide +kernel

theorem isEdge_foldByte (neighbour : Option UInt8) :
    isEdge (neighbour.map foldByte) = isEdge neighbour := by
  cases neighbour with
  | none => rfl
  | some b => simp [isEdge, isWordByte_foldByte]

/-- The bytes of a text in lower case. -/
theorem bytes_toLower (cs : List Char) :
    Utf8.bytes (cs.map Char.toLower) = (Utf8.bytes cs).map foldByte := by
  induction cs with
  | nil => rfl
  | cons c cs ih =>
    rw [List.map_cons, Utf8.bytes_cons, Utf8.bytes_cons, List.map_append, ih]
    congr 1
    by_cases hc : c.toNat < 0x80
    · rw [utf8EncodeChar_of_ascii hc, utf8EncodeChar_of_ascii (toNat_toLower_lt hc),
        List.map_singleton, foldByte_of_ascii hc]
    · have hwide : 0x80 ≤ c.toNat := Nat.le_of_not_lt hc
      have hbytes : ∀ b ∈ String.utf8EncodeChar c, foldByte b = b := fun b hb =>
        foldByte_of_wide (le_of_mem_utf8EncodeChar hwide hb)
      rw [toLower_of_wide hwide, List.map_congr_left hbytes, List.map_id']

/-! ## Searching -/

theorem startsWith_foldByte (ks bs : List UInt8) :
    startsWith ks (bs.map foldByte) = startsWith ks bs := by
  induction ks generalizing bs with
  | nil => rfl
  | cons k ks ih =>
    cases bs with
    | nil => rfl
    | cons b bs => simp [startsWith, foldByte_idem, ih]

theorem isWordAt_foldByte (keyword : List UInt8) (before : Option UInt8) (bs : List UInt8) :
    isWordAt keyword (before.map foldByte) (bs.map foldByte) = isWordAt keyword before bs := by
  simp only [isWordAt, startsWith_foldByte, List.getElem?_map, isEdge_foldByte]

/-- The search does not tell the two cases of a letter apart. -/
theorem scan_foldByte (keyword : List UInt8) (start offset : Nat) (before : Option UInt8)
    (state : Quoting) (bs : List UInt8) :
    scan keyword start offset (before.map foldByte) state (bs.map foldByte) =
      scan keyword start offset before state bs := by
  induction bs generalizing offset before state with
  | nil => rfl
  | cons b bs ih =>
    have hword := isWordAt_foldByte keyword before (b :: bs)
    have hrest := ih (offset + 1) (some b) (state.step b)
    simp only [List.map_cons, Option.map_some] at hword hrest ⊢
    simp only [scan, hword, Quoting.step_foldByte, hrest]

theorem keywordOffset_toLower (cs : List Char) (keyword : String) :
    keywordOffset (cs.map Char.toLower) keyword = keywordOffset cs keyword := by
  have hscan := scan_foldByte (Utf8.ofString keyword) 0 0 none .outside (Utf8.bytes cs)
  simp only [keywordOffset, keywordOffsetFrom, bytes_toLower]
  rw [← hscan]
  rfl

/-- Texts that are spelled alike have their keywords at the same offsets. -/
theorem keywordOffset_congr (h : Alike s t) (keyword : String) :
    keywordOffset s keyword = keywordOffset t keyword := by
  rw [← keywordOffset_toLower s, h, keywordOffset_toLower]

/-! ## Cutting and upper-casing -/

theorem takeBytes_toLower (n : Nat) (cs : List Char) :
    takeBytes n (cs.map Char.toLower) = (takeBytes n cs).map Char.toLower := by
  induction cs generalizing n with
  | nil => rfl
  | cons c cs ih =>
    simp only [List.map_cons, takeBytes, utf8Size_toLower, ih]
    split <;> rfl

/-- Texts that are spelled alike are cut into parts that are spelled alike. -/
theorem Alike.takeBytes (h : Alike s t) (n : Nat) : Alike (takeBytes n s) (takeBytes n t) := by
  rw [Alike, ← takeBytes_toLower, h, takeBytes_toLower]

/-- Texts that are spelled alike have one upper-case form. -/
theorem Alike.upperChars_eq (h : Alike s t) : Unicode.upperChars s = Unicode.upperChars t := by
  have hupper : s.map Char.toUpper = t.map Char.toUpper := by
    have hfold := congrArg (List.map Char.toUpper) h
    simpa only [List.map_map, Function.comp_def, toUpper_of_toLower] using hfold
  rw [← Unicode.upperChars_toUpper s, hupper, Unicode.upperChars_toUpper]

/-- Names that are equal up to case have one upper-case form. -/
theorem upperChars_eq_of_sameName {a b : String} (h : sameName a b = true) :
    Unicode.upperChars a.toList = Unicode.upperChars b.toList :=
  (sameName_iff_alike.1 h).upperChars_eq

end Text

end MatView
