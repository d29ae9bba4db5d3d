import Mathlib.Data.List.TakeWhile
import Mathlib.Tactic.SplitIfs
import MatView.Config.Load
import MatView.Proofs.Text.Target

/-!
# Spellings of settings

A variable spells a setting between any blanks of any script. Words are spelled in any case of the
letters of ASCII, and integers with an optional sign and any number of leading zeros. The readings
of a text succeed exactly where it is such a spelling, and return what it spells.

## Main definitions

* `Unicode.Padded`: a text between blanks.
* `Config.SpellsWord`, `Config.SpellsSwitch`, `Config.SpellsPrecision`, `Config.SpellsInteger`.

## Main statements

* `Config.switch?_eq_some_iff`, `FloatPrecision.parse?_eq_some_iff`, `Text.int64?_eq_some_iff`: the
  readings of a text.
-/

namespace MatView

open Text (isPlain lowerAscii Alike)

/-! ## Texts between blanks -/

namespace Unicode

variable {core cs : List Char}

/-- The text `cs` is `core` with blanks at both ends, if any. -/
def Padded (core cs : List Char) : Prop :=
  ∃ before after, cs = before ++ core ++ after ∧ (∀ c ∈ before, isBlank c = true) ∧
    ∀ c ∈ after, isBlank c = true

theorem isBlank_of_isPlain {c : Char} (h : isPlain c = true) : isBlank c = false :=
  Text.of_ascii (p := fun c => isPlain c = true → isBlank c = false) (by decide +kernel) c
    (Text.toNat_lt_of_isPlain h) h

theorem padded_trim (cs : List Char) : Padded (trim cs) cs := by
  refine ⟨cs.takeWhile isBlank, ((trimStart cs).reverse.takeWhile isBlank).reverse, ?_,
    fun c hc => Text.of_mem_takeWhile hc,
    fun c hc => Text.of_mem_takeWhile (List.mem_reverse.1 hc)⟩
  rw [trim, List.append_assoc, trimEnd_append_blanks, blanks_append_trimStart]

/-- A text that has blanks at its ends only is found between them. -/
theorem trim_eq_iff (hcore : ∀ c ∈ core, isBlank c = false) :
    trim cs = core ↔ Padded core cs := by
  constructor
  · rintro rfl
    exact padded_trim cs
  · rintro ⟨before, after, rfl, hbefore, hafter⟩
    rw [trim, trimStart, List.append_assoc, List.dropWhile_append_of_pos hbefore, trimEnd]
    cases core with
    | nil =>
      rw [List.nil_append, List.dropWhile_eq_nil_iff.2 hafter]
      rfl
    | cons c core =>
      -- The first character is no blank, and the last one is none either.
      have hstop : ∀ d, (c :: core).reverse.head? = some d → isBlank d = false := fun d hd =>
        hcore d (List.mem_reverse.1 (List.mem_of_head? hd))
      have hreverse : ∀ d ∈ after.reverse, isBlank d = true := fun d hd =>
        hafter d (List.mem_reverse.1 hd)
      rw [List.cons_append, List.dropWhile_cons_of_neg (by simp [hcore c List.mem_cons_self]),
        ← List.cons_append, List.reverse_append, (Text.takeWhile_append_stop hreverse hstop).2,
        List.reverse_reverse]

end Unicode

open Unicode (isBlank trim Padded)

/-! ## Words -/

namespace Config

variable {s word : String}

/-- A text spells a word in any case. -/
def SpellsWord (word s : String) : Prop :=
  ∃ core, Padded core s.toList ∧ Alike core word.toList

/-- The lower-case form of a text between its blanks shows which word it spells. -/
theorem lowerAscii_trim_eq_iff (hplain : ∀ c ∈ word.toList, isPlain c = true)
    (hlower : lowerAscii word = word) :
    lowerAscii (String.ofList (trim s.toList)) = word ↔ SpellsWord word s := by
  have halike : lowerAscii (String.ofList (trim s.toList)) = word ↔
      Alike (trim s.toList) word.toList := by
    rw [← String.toList_ofList (l := trim s.toList), ← Text.sameName_iff_alike, Text.sameName_iff,
      hlower, String.toList_ofList]
  rw [halike]
  constructor
  · exact fun h => ⟨_, Unicode.padded_trim _, h⟩
  · rintro ⟨core, hpadded, h⟩
    have hcore : ∀ c ∈ core, isBlank c = false := fun c hc =>
      Unicode.isBlank_of_isPlain (h.isPlain hplain c hc)
    rwa [(Unicode.trim_eq_iff hcore).2 hpadded]

/-- The words for the positions of a switch. -/
def switchWords : Bool → List String
  | true => ["true", "1"]
  | false => ["false", "0"]

/-- A text spells a position of a switch. -/
def SpellsSwitch (s : String) (b : Bool) : Prop :=
  ∃ word ∈ switchWords b, SpellsWord word s

theorem spellsSwitch_iff {b : Bool} :
    SpellsSwitch s b ↔ lowerAscii (String.ofList (trim s.toList)) ∈ switchWords b := by
  have hall : (switchWords b).all (fun word => word.toList.all isPlain) = true := by
    cases b <;> decide
  have hplain : ∀ word ∈ switchWords b, ∀ c ∈ word.toList, isPlain c = true := fun word hword =>
    List.all_eq_true.1 (List.all_eq_true.1 hall word hword)
  have hlower : ∀ word ∈ switchWords b, lowerAscii word = word := by
    cases b <;> decide
  constructor
  · rintro ⟨word, hword, h⟩
    rwa [(lowerAscii_trim_eq_iff (hplain word hword) (hlower word hword)).2 h]
  · exact fun h => ⟨_, h, (lowerAscii_trim_eq_iff (hplain _ h) (hlower _ h)).1 rfl⟩

/-- A switch is read where one of its positions is spelled. -/
theorem switch?_eq_some_iff {b : Bool} : switch? s = some b ↔ SpellsSwitch s b := by
  rw [spellsSwitch_iff, switch?]
  generalize lowerAscii (String.ofList (trim s.toList)) = folded
  have hon : (folded == "true" || folded == "1") = true ↔ folded ∈ switchWords true := by
    simp [switchWords]
  have hoff : (folded == "false" || folded == "0") = true ↔ folded ∈ switchWords false := by
    simp [switchWords]
  have hne : folded ∈ switchWords true → folded ∉ switchWords false := by
    intro hmem
    simp only [switchWords, List.mem_cons, List.not_mem_nil, or_false] at hmem
    obtain rfl | rfl := hmem <;> decide
  by_cases htrue : folded ∈ switchWords true
  · rw [if_pos (hon.2 htrue)]
    cases b with
    | true => simp [htrue]
    | false => simp [hne htrue]
  · rw [if_neg (mt hon.1 htrue)]
    by_cases hfalse : folded ∈ switchWords false
    · rw [if_pos (hoff.2 hfalse)]
      cases b <;> simp [htrue, hfalse]
    · rw [if_neg (mt hoff.1 hfalse)]
      cases b <;> simp [htrue, hfalse]

/-- A text spells a precision. -/
def SpellsPrecision (s : String) (p : FloatPrecision) : Prop :=
  SpellsWord p.name s

end Config

namespace FloatPrecision

variable {s : String} {p : FloatPrecision}

theorem ofName?_eq_some_iff : ofName? s = some p ↔ s = p.name := by
  constructor
  · intro h
    exact (beq_iff_eq.1 (List.find?_some h :)).symm
  · rintro rfl
    exact ofName?_name p

/-- A precision is read where it is spelled. -/
theorem parse?_eq_some_iff : parse? s = some p ↔ Config.SpellsPrecision s p := by
  have hplain : ∀ c ∈ p.name.toList, isPlain c = true :=
    List.all_eq_true.1 (by cases p <;> decide)
  have hlower : lowerAscii p.name = p.name := by
    cases p <;> decide
  rw [parse?, ofName?_eq_some_iff, Config.lowerAscii_trim_eq_iff hplain hlower,
    Config.SpellsPrecision]

end FloatPrecision

/-! ## Integers -/

namespace Text

/-- A run of decimal digits. -/
def IsDigits (cs : List Char) : Prop :=
  cs ≠ [] ∧ ∀ c ∈ cs, c.isDigit = true

/-- Decimal digits with an optional sign, and the integer that they stand for. -/
inductive Numeral : List Char → Int → Prop
  | unsigned {digits : List Char} (h : IsDigits digits) :
    Numeral digits (Nat.ofDigitChars 10 digits 0)
  | positive {digits : List Char} (h : IsDigits digits) :
    Numeral ('+' :: digits) (Nat.ofDigitChars 10 digits 0)
  | negative {digits : List Char} (h : IsDigits digits) :
    Numeral ('-' :: digits) (-(Nat.ofDigitChars 10 digits 0 : Int))

variable {cs : List Char} {i : Int}

theorem natural?_eq_some_iff {n : Nat} :
    natural? cs = some n ↔ IsDigits cs ∧ Nat.ofDigitChars 10 cs 0 = n := by
  have hdigits : (cs.isEmpty || !cs.all Char.isDigit) = true ↔ ¬ IsDigits cs := by
    simp only [IsDigits, Bool.or_eq_true, List.isEmpty_iff, Bool.not_eq_true', List.all_eq_false]
    grind
  rw [natural?]
  by_cases h : IsDigits cs
  · rw [if_neg fun hnone => hdigits.1 hnone h]
    simp [h]
  · rw [if_pos (hdigits.2 h)]
    simp [h]

/-- What stands behind a sign, if any, is read as digits. -/
theorem signed_eq_some_iff {sign : Int → Int} :
    Option.map sign (do let n ← natural? cs; pure (n : Int)) = some i ↔
      IsDigits cs ∧ sign (Nat.ofDigitChars 10 cs 0) = i := by
  cases hnatural : natural? cs with
  | none =>
    have hdigits : ¬ IsDigits cs := fun h => by
      rw [natural?_eq_some_iff.2 ⟨h, rfl⟩] at hnatural
      cases hnatural
    simp [hdigits]
  | some n =>
    obtain ⟨hdigits, rfl⟩ := natural?_eq_some_iff.1 hnatural
    simp [hdigits]

theorem integer?_eq_some_iff : integer? cs = some i ↔ Numeral cs i := by
  constructor
  · intro h
    unfold integer? at h
    split at h
    · obtain ⟨hdigits, rfl⟩ := signed_eq_some_iff.1 h
      exact .negative hdigits
    · obtain ⟨hdigits, rfl⟩ := signed_eq_some_iff.1 h
      exact .positive hdigits
    · obtain ⟨hdigits, rfl⟩ := signed_eq_some_iff.1 h
      exact .unsigned hdigits
  · intro h
    cases h with
    | unsigned h =>
      unfold integer?
      -- Digits do not start with a sign.
      split
      · cases h.2 '-' List.mem_cons_self
      · cases h.2 '+' List.mem_cons_self
      · exact signed_eq_some_iff.2 ⟨h, rfl⟩
    | positive h => exact signed_eq_some_iff.2 ⟨h, rfl⟩
    | negative h => exact signed_eq_some_iff.2 ⟨h, rfl⟩

theorem IsDigits.isBlank_eq_false (h : IsDigits cs) : ∀ c ∈ cs, isBlank c = false := fun c hc =>
  Unicode.isBlank_of_isPlain (by simp [isPlain, Char.isAlphanum, h.2 c hc])

/-- There are no blanks in a numeral. -/
theorem Numeral.isBlank_eq_false (h : Numeral cs i) : ∀ c ∈ cs, isBlank c = false := by
  cases h with
  | unsigned h => exact h.isBlank_eq_false
  | positive h => exact List.forall_mem_cons.2 ⟨by decide, h.isBlank_eq_false⟩
  | negative h => exact List.forall_mem_cons.2 ⟨by decide, h.isBlank_eq_false⟩

/-- An integer of 64 bits is read where a numeral for it stands between blanks. -/
theorem int64?_eq_some_iff {n : Int64} :
    int64? cs = some n ↔ ∃ core, Padded core cs ∧ Numeral core n.toInt := by
  have hread : int64? cs = some n ↔ integer? (trim cs) = some n.toInt := by
    rw [int64?, Option.bind_eq_some_iff]
    constructor
    · rintro ⟨i, hi, hn⟩
      split_ifs at hn with hrange
      cases hn
      rw [hi, Int64.toInt_ofInt_of_le hrange.1 (Int.lt_add_one_of_le hrange.2)]
    · exact fun h => ⟨_, h, by
        rw [if_pos ⟨Int64.minValue_le_toInt n, Int64.toInt_le n⟩, Int64.ofInt_toInt]⟩
  rw [hread, integer?_eq_some_iff]
  constructor
  · exact fun h => ⟨_, Unicode.padded_trim cs, h⟩
  · rintro ⟨core, hpadded, h⟩
    rwa [(Unicode.trim_eq_iff h.isBlank_eq_false).2 hpadded]

end Text

/-- A text spells an integer. -/
def Config.SpellsInteger (s : String) (n : Int64) : Prop :=
  ∃ core, Padded core s.toList ∧ Text.Numeral core n.toInt

end MatView
