import MatView.Proofs.Text.Characters
import MatView.Unicode.Upper

/-!
# Upper case and identifiers

Folding to upper case turns identifiers into identifiers and leaves all else as it is: quotes,
blanks of ASCII, dots and other signs are neither made nor lost.

## Main statements

* `isWordChar_of_mem_upperChar`: a character may belong to an identifier if and only if its
  upper-case form may.
* `eq_of_mem_upperChar`: what belongs to no identifier is neither made nor lost.
* `sameName_upper`: a plain name is found under its upper-case form.
-/

namespace MatView.Unicode

open Text (isWordChar isPlain sameName lowerAscii of_ascii)

/-! ## The tables -/

/-- Whether the characters from `low` to `high` exist and lie beyond ASCII. -/
def isWideRange (low high : Nat) : Bool :=
  0x80 ≤ low && (high < 0xD800 || 0xE000 ≤ low && high < 0x110000)

/-- The characters of such a range are beyond ASCII. -/
theorem le_toNat_of_isWideRange {low high n : Nat} (h : isWideRange low high = true)
    (hlow : low ≤ n) (hhigh : n ≤ high) : 0x80 ≤ (Char.ofNat n).toNat := by
  simp only [isWideRange, Bool.and_eq_true, Bool.or_eq_true, decide_eq_true_eq] at h
  have hvalid : n.isValidChar := by
    unfold Nat.isValidChar
    omega
  have hnat : (Char.ofNat n).toNat = n := by
    rw [Char.ofNat, dif_pos hvalid]
    rfl
  omega

theorem isWordChar_of_isWideRange {low high n : Nat} (h : isWideRange low high = true)
    (hlow : low ≤ n) (hhigh : n ≤ high) : isWordChar (Char.ofNat n) = true := by
  simp [isWordChar, le_toNat_of_isWideRange h hlow hhigh]

namespace CaseRun

/-- Whether the upper-case forms of a run may belong to identifiers: a run of one letter may lead to
ASCII, a longer one leads beyond it. -/
def leadsToWords (r : CaseRun) : Bool :=
  (r.first == r.last && isWordChar (Char.ofNat r.target)) ||
    isWideRange r.target (r.target + (r.last - r.first))

theorem isWordChar_image {r : CaseRun} {n : Nat} (h : r.leadsToWords = true)
    (hn : r.covers n = true) : isWordChar (Char.ofNat (r.image n)) = true := by
  simp only [covers, Bool.and_eq_true, decide_eq_true_eq] at hn
  obtain ⟨⟨hfirst, hlast⟩, -⟩ := hn
  simp only [leadsToWords, Bool.or_eq_true, Bool.and_eq_true, beq_iff_eq] at h
  obtain ⟨hone, htarget⟩ | hwide := h
  · have hn : n = r.first := by omega
    simpa [image, hn] using htarget
  · refine isWordChar_of_isWideRange hwide ?_ ?_ <;> simp only [image] <;> omega

end CaseRun

theorem leadsToWords_of_mem : ∀ r ∈ upperRuns, r.leadsToWords = true := by
  decide +kernel

theorem expansions_words :
    ∀ e ∈ upperExpansions, e.2 ≠ [] ∧ ∀ n ∈ e.2, isWordChar (Char.ofNat n) = true := by
  decide +kernel

theorem mem_of_lookup_eq_some {n : Nat} {image : List Nat} {table : List (Nat × List Nat)}
    (h : table.lookup n = some image) : (n, image) ∈ table := by
  induction table with
  | nil => cases h
  | cons e table ih =>
    obtain ⟨m, other⟩ := e
    by_cases hm : n = m
    · subst hm
      simp_all
    · have hne : (n == m) = false := by simpa using hm
      rw [List.lookup_cons, hne] at h
      exact List.mem_cons_of_mem _ (ih h)

/-- The upper-case form of a character beyond ASCII may belong to an identifier. -/
theorem upperWide_words {c : Char} (h : 0x80 ≤ c.toNat) :
    upperWide c.toNat ≠ [] ∧ ∀ n ∈ upperWide c.toNat, isWordChar (Char.ofNat n) = true := by
  unfold upperWide
  split
  · rename_i image himage
    exact expansions_words _ (mem_of_lookup_eq_some himage)
  · split
    · rename_i r hr
      have hcovers : r.covers c.toNat = true := by simpa using List.find?_some hr
      have hleads := leadsToWords_of_mem r (List.mem_of_find?_eq_some hr)
      simp [CaseRun.isWordChar_image hleads hcovers]
    · simp [isWordChar, h]

/-! ## Characters -/

theorem upperChar_ne_nil (c : Char) : upperChar c ≠ [] := by
  unfold upperChar
  split
  · simp
  · rename_i h
    simpa using (upperWide_words (Nat.le_of_not_lt h)).1

/-- A character may belong to an identifier if and only if its upper-case form may. -/
theorem isWordChar_of_mem_upperChar {c d : Char} (h : d ∈ upperChar c) :
    isWordChar d = isWordChar c := by
  by_cases hc : c.toNat < 0x80
  · rw [upperChar_of_ascii hc, List.mem_singleton] at h
    subst h
    exact of_ascii (p := fun c => isWordChar c.toUpper = isWordChar c) (by decide) c hc
  · have hwide : 0x80 ≤ c.toNat := Nat.le_of_not_lt hc
    simp only [upperChar, hc, if_false, List.mem_map] at h
    obtain ⟨n, hn, rfl⟩ := h
    rw [(upperWide_words hwide).2 n hn]
    simp [isWordChar, hwide]

/-- What belongs to no identifier has no other upper-case form. -/
theorem upperChar_eq_self {c : Char} (h : isWordChar c = false) : upperChar c = [c] := by
  have hc : c.toNat < 0x80 := by
    simp only [isWordChar, Bool.or_eq_false_iff, decide_eq_false_iff_not] at h
    omega
  have hupper : isWordChar c = false → c.toUpper = c :=
    of_ascii (p := fun c => isWordChar c = false → c.toUpper = c) (by decide) c hc
  rw [upperChar_of_ascii hc, hupper h]

/-- What belongs to no identifier is the upper-case form of nothing else. -/
theorem eq_of_mem_upperChar {c d : Char} (h : d ∈ upperChar c) (hd : isWordChar d = false) :
    c = d := by
  rw [isWordChar_of_mem_upperChar h] at hd
  rw [upperChar_eq_self hd, List.mem_singleton] at h
  exact h.symm

/-! ## Texts -/

theorem getLast?_upperChars_concat (front : List Char) (c : Char) :
    (upperChars (front.concat c)).getLast? =
      some ((upperChar c).getLast (upperChar_ne_nil c)) := by
  simp [List.getLast?_eq_some_getLast (upperChar_ne_nil c)]

/-- The last character of an upper-case text that belongs to no identifier is the last one of the
text. -/
theorem getLast?_of_upperChars {cs : List Char} {d : Char} (h : (upperChars cs).getLast? = some d)
    (hd : isWordChar d = false) : cs.getLast? = some d := by
  obtain rfl | ⟨front, c, rfl⟩ := List.eq_nil_or_concat cs
  · cases h
  · have hlast : d ∈ upperChar c := by
      rw [getLast?_upperChars_concat, Option.some.injEq] at h
      subst h
      exact List.getLast_mem _
    simp [eq_of_mem_upperChar hlast hd]

/-- A text that does not end in an identifier ends like its upper-case form. -/
theorem getLast?_upperChars {cs : List Char} {c : Char} (h : cs.getLast? = some c)
    (hc : isWordChar c = false) : (upperChars cs).getLast? = some c := by
  obtain ⟨front, rfl⟩ := List.getLast?_eq_some_iff.1 h
  simp [upperChar_eq_self hc]

/-- The letters of ASCII have upper-case forms of their own. -/
theorem upperChars_of_ascii {cs : List Char} (h : ∀ c ∈ cs, c.toNat < 0x80) :
    upperChars cs = cs.map Char.toUpper := by
  induction cs with
  | nil => rfl
  | cons c cs ih =>
    obtain ⟨hc, hcs⟩ := List.forall_mem_cons.1 h
    rw [upperChars_cons, upperChar_of_ascii hc, ih hcs]
    rfl

/-- The letters of ASCII may be in upper case already. -/
theorem upperChars_toUpper (cs : List Char) :
    upperChars (cs.map Char.toUpper) = upperChars cs := by
  have hchar : ∀ c : Char, upperChar c.toUpper = upperChar c :=
    Text.of_toUpper (p := fun c d => upperChar d = upperChar c) (by decide) (fun _ => rfl)
  induction cs with
  | nil => rfl
  | cons c cs ih => rw [List.map_cons, upperChars_cons, upperChars_cons, hchar, ih]

/-! ## Plain names -/

theorem upperChars_of_plain {cs : List Char} (h : ∀ c ∈ cs, isPlain c = true) :
    upperChars cs = cs.map Char.toUpper :=
  upperChars_of_ascii fun c hc => Text.toNat_lt_of_isPlain (h c hc)

/-- A plain name in upper case is plain. -/
theorem isPlain_of_mem_upperChars {cs : List Char} (h : ∀ c ∈ cs, isPlain c = true) :
    ∀ d ∈ upperChars cs, isPlain d = true := by
  rw [upperChars_of_plain h]
  intro d hd
  obtain ⟨c, hc, rfl⟩ := List.mem_map.1 hd
  exact of_ascii (p := fun c => isPlain c = true → isPlain c.toUpper = true) (by decide) c
    (Text.toNat_lt_of_isPlain (h c hc)) (h c hc)

/-- A plain name is found under its upper-case form. -/
theorem sameName_upper {name : String} (h : ∀ c ∈ name.toList, isPlain c = true) :
    sameName (upper name) name = true := by
  have hfold : name.toList.map (Char.toLower ∘ Char.toUpper) = name.toList.map Char.toLower := by
    refine List.map_congr_left fun c hc => ?_
    exact Text.toLower_toUpper (Text.toNat_lt_of_isPlain (h c hc))
  simp [Text.sameName_iff, lowerAscii, upper, upperChars_of_plain h, hfold]

end MatView.Unicode
