import Mathlib.Order.Nat
import MatView.Proofs.Text.Folding

/-!
# The first whole word outside quotes

The search passes over a text once and keeps the byte that it passed last and what it knows about
quotes. This is enough to find the first place that is described without a search: the keyword is
spelled there in any case, no identifier goes on at either side, and the text in front of it, read
with its quotes and doubled quotes, ends outside of them. It does not matter whether the search is
to start between quotes, and what follows the byte behind the found word may be cut off.

## Main definitions

* `Quoting.read`: a text read with its quotes, where a doubled quote belongs to what they enclose.
* `WordAt`: a keyword stands at an offset as a whole word outside quotes.

## Main statements

* `Quoting.read_eq_foldl`: it is as good to leave the quotes at a doubled quote and to enter again.
* `scan_eq_some_iff`: what is found when the text in front of a place was passed.
* `wordAt_append_iff`: words of a text and of its beginnings.
-/

namespace MatView.Text

/-! ## Quotes -/

namespace Quoting

/-- The state behind a byte that stands outside quotes. -/
def opened (b : UInt8) : Quoting :=
  if b == singleQuote then literal else if b == doubleQuote then identifier else outside

/-- Whether a byte is the quote that ends a state. -/
def endsAt : Quoting → UInt8 → Bool
  | outside, _ => false
  | literal, b => b == singleQuote
  | identifier, b => b == doubleQuote

/-- The state behind a text. Between quotes, a doubled quote of their kind belongs to what they
enclose, and so does a quote of the other kind. -/
def read : Quoting → List UInt8 → Quoting
  | state, [] => state
  | outside, b :: bs => (opened b).read bs
  | state, [b] => if state.endsAt b then outside else state
  | state, b :: c :: bs =>
    if state.endsAt b then
      if state.endsAt c then state.read bs else outside.read (c :: bs)
    else state.read (c :: bs)

/-- Between quotes, a byte ends the state or means nothing. -/
theorem step_of_ne_outside {state : Quoting} (h : state ≠ outside) (b : UInt8) :
    state.step b = if state.endsAt b then outside else state := by
  cases state with
  | outside => exact absurd rfl h
  | literal => rfl
  | identifier => rfl

/-- The quote that ends a state enters it from outside. -/
theorem step_outside_of_endsAt {state : Quoting} {b : UInt8} (h : state.endsAt b = true) :
    outside.step b = state := by
  cases state with
  | outside => cases h
  | literal => simp [step, beq_iff_eq.1 h]
  | identifier => simp [step, beq_iff_eq.1 h, doubleQuote, singleQuote]

/-- Reading a doubled quote as one is as good as leaving the quotes and entering them again. -/
theorem read_eq_foldl (state : Quoting) (bs : List UInt8) :
    state.read bs = bs.foldl step state := by
  fun_induction read state bs with
  | case1 => rfl
  | case2 b bs ih => rw [ih, List.foldl_cons]; rfl
  | case3 state b hne hend => simp [step_of_ne_outside hne, hend]
  | case4 state b hne hend => simp [step_of_ne_outside hne, hend]
  | case5 state b c bs hne hend hdouble ih =>
    rw [ih, List.foldl_cons, List.foldl_cons, step_of_ne_outside hne, if_pos hend,
      step_outside_of_endsAt hdouble]
  | case6 state b c bs hne hend hdouble ih =>
    rw [ih, List.foldl_cons (l := c :: bs), step_of_ne_outside hne, if_pos hend]
  | case7 state b c bs hne hend ih =>
    rw [ih, List.foldl_cons (l := c :: bs), step_of_ne_outside hne, if_neg hend]

end Quoting

/-! ## Words -/

/-- A byte is a character of ASCII in one of its cases. -/
def IsCaseOf (b : UInt8) (c : Char) : Prop :=
  b = UInt8.ofNat c.toLower.toNat ∨ b = UInt8.ofNat c.toUpper.toNat

/-- A keyword stands at the offset `i` of a text, as a whole word outside quotes. -/
structure WordAt (keyword : String) (text : List UInt8) (i : Nat) : Prop where
  unquoted : Quoting.outside.read (text.take i) = .outside
  spelled : ∀ j c, keyword.toList[j]? = some c → ∃ b, text[i + j]? = some b ∧ IsCaseOf b c
  left : ∀ b, 0 < i → text[i - 1]? = some b → isWordByte b = false
  right : ∀ b, text[i + keyword.length]? = some b → isWordByte b = false

variable {keyword : String} {front back text : List UInt8} {start i : Nat}

theorem toLower_or_toUpper {c : Char} (h : c.toNat < 0x80) : c = c.toLower ∨ c = c.toUpper :=
  of_ascii (p := fun c => c = c.toLower ∨ c = c.toUpper) (by decide) c h

theorem toNat_toUpper_lt {c : Char} (h : c.toNat < 0x80) : c.toUpper.toNat < 0x80 :=
  of_ascii (p := fun c => c.toUpper.toNat < 0x80) (by decide) c h

/-- A byte below 0x80 is a character of ASCII. -/
theorem exists_ascii {b : UInt8} (h : b < 0x80) :
    ∃ d : Char, d.toNat < 0x80 ∧ b = UInt8.ofNat d.toNat :=
  ⟨Char.ofNat b.toNat, of_byte (p := fun b => b < 0x80 → (Char.ofNat b.toNat).toNat < 0x80 ∧
    b = UInt8.ofNat (Char.ofNat b.toNat).toNat) (by decide +kernel) b h⟩

/-- Bytes are compared with a keyword up to case. -/
theorem foldByte_eq_iff_isCaseOf {c : Char} (hc : c.toNat < 0x80) {b : UInt8} :
    foldByte (UInt8.ofNat c.toNat) = foldByte b ↔ IsCaseOf b c := by
  have hlower := toNat_toLower_lt hc
  have hupper := toNat_toUpper_lt hc
  rw [foldByte_of_ascii hc]
  by_cases hb : b < 0x80
  · obtain ⟨d, hd, rfl⟩ := exists_ascii hb
    rw [foldByte_of_ascii hd]
    constructor
    · intro h
      have hfold : d.toLower = c.toLower := (eq_of_ofNat_eq hlower (toNat_toLower_lt hd) h).symm
      obtain hcase | hcase := toLower_or_toUpper hd
      · exact .inl (by rw [hcase, hfold])
      · exact .inr (by rw [hcase, toLower_eq_iff_toUpper_eq.1 hfold])
    · rintro (h | h)
      · rw [eq_of_ofNat_eq hd hlower h, toLower_idem]
      · rw [eq_of_ofNat_eq hd hupper h, toLower_of_toUpper]
  · have hwide : 0x80 ≤ b := UInt8.not_lt.1 hb
    have hne {d : Char} (hd : d.toNat < 0x80) : b ≠ UInt8.ofNat d.toNat := by
      rintro rfl
      rw [UInt8.le_iff_toNat_le, UInt8.toNat_ofNat'] at hwide
      have h80 : (0x80 : UInt8).toNat = 0x80 := rfl
      omega
    rw [foldByte_of_wide hwide]
    exact iff_of_false (hne hlower).symm fun h => h.elim (hne hlower) (hne hupper)

/-- A keyword is spelled where its bytes are matched. -/
theorem startsWith_iff {ks : List Char} (hks : ∀ k ∈ ks, isPlain k = true) {bs : List UInt8} :
    startsWith (Utf8.bytes ks) bs = true ↔
      ∀ (j : Nat) c, ks[j]? = some c → ∃ b, bs[j]? = some b ∧ IsCaseOf b c := by
  induction ks generalizing bs with
  | nil => simp [startsWith]
  | cons k ks ih =>
    obtain ⟨hk, hks⟩ := List.forall_mem_cons.1 hks
    have hascii := toNat_lt_of_isPlain hk
    rw [Utf8.bytes_cons, utf8EncodeChar_of_ascii hascii, List.singleton_append]
    cases bs with
    | nil =>
      refine iff_of_false (by simp [startsWith]) fun h => ?_
      obtain ⟨b, hb, -⟩ := h 0 k rfl
      cases hb
    | cons b bs =>
      rw [startsWith, Bool.and_eq_true, beq_iff_eq, foldByte_eq_iff_isCaseOf hascii, ih hks]
      constructor
      · rintro ⟨hb, hrest⟩ j c hj
        cases j with
        | zero =>
          cases hj
          exact ⟨b, rfl, hb⟩
        | succ j => exact hrest j c hj
      · intro h
        refine ⟨?_, fun j c hj => h (j + 1) c hj⟩
        obtain ⟨b, hb, hcase⟩ := h 0 k rfl
        cases hb
        exact hcase

theorem isEdge_iff {neighbour : Option UInt8} :
    isEdge neighbour = true ↔ ∀ b, neighbour = some b → isWordByte b = false := by
  cases neighbour <;> simp [isEdge]

/-- A place is tested by what was passed in front of it and by what follows. -/
theorem wordAt_length_iff (hk : IsKeyword keyword) : WordAt keyword (front ++ back) front.length ↔
    Quoting.after front = .outside ∧
      isWordAt (Utf8.ofString keyword) front.getLast? back = true := by
  have hlength : (Utf8.ofString keyword).length = keyword.length := by
    rw [Utf8.ofString, length_bytes_of_plain hk.plain, String.length_toList]
  have hread : Quoting.outside.read ((front ++ back).take front.length) = Quoting.after front := by
    rw [List.take_left, Quoting.read_eq_foldl, Quoting.after]
  have hright (j : Nat) : (front ++ back)[front.length + j]? = back[j]? := by
    rw [List.getElem?_append_right (Nat.le_add_right _ _), Nat.add_sub_cancel_left]
  have hleft : (∀ b, 0 < front.length → (front ++ back)[front.length - 1]? = some b →
      isWordByte b = false) ↔ isEdge front.getLast? = true := by
    rw [isEdge_iff, List.getLast?_eq_getElem?]
    refine forall_congr' fun b => ?_
    by_cases hfront : 0 < front.length
    · rw [List.getElem?_append_left (by omega)]
      simp [hfront]
    · have hnil : front = [] := List.length_eq_zero_iff.1 (by omega)
      simp [hnil]
  rw [isWordAt, Bool.and_eq_true, Bool.and_eq_true, Utf8.ofString, startsWith_iff hk.plain, ← hleft,
    isEdge_iff, ← Utf8.ofString, hlength]
  constructor
  · intro h
    exact ⟨hread ▸ h.unquoted, ⟨by simpa only [hright] using h.spelled, h.left⟩,
      by simpa only [hright] using h.right⟩
  · rintro ⟨houtside, ⟨hspelled, hleft⟩, hedge⟩
    exact ⟨hread ▸ houtside, by simpa only [hright] using hspelled, hleft,
      by simpa only [hright] using hedge⟩

/-- A word lies within the text. -/
theorem WordAt.lt_length (hk : IsKeyword keyword) (h : WordAt keyword text i) :
    i < text.length := by
  obtain ⟨k, ks, hks⟩ := List.exists_cons_of_ne_nil hk.ne_nil
  obtain ⟨b, hb, -⟩ := h.spelled 0 k (by simp [hks])
  exact (List.getElem?_eq_some_iff.1 hb).1

/-! ## The search -/

/-- A place without a word can be passed over. -/
theorem setOf_succ_le {p : Nat → Prop} {n : Nat} (h : ¬ p n) :
    {j | n + 1 ≤ j ∧ p j} = {j | n ≤ j ∧ p j} := by
  ext j
  refine and_congr_left fun hj => ?_
  have hne : n ≠ j := by
    rintro rfl
    exact h hj
  exact ⟨Nat.le_of_succ_le, fun hle => Nat.lt_of_le_of_ne hle hne⟩

/-- If all of `front` was passed, the search finds the first word behind it. -/
theorem scan_eq_some_iff (hk : IsKeyword keyword) :
    scan (Utf8.ofString keyword) start front.length front.getLast? (Quoting.after front) back =
      some i ↔ IsLeast {j | front.length ≤ j ∧ start ≤ j ∧ WordAt keyword (front ++ back) j} i := by
  induction back generalizing front with
  | nil =>
    refine iff_of_false (by simp [scan]) ?_
    rintro ⟨⟨hle, -, hword⟩, -⟩
    have hlt := hword.lt_length hk
    rw [List.append_nil] at hlt
    omega
  | cons b bs ih =>
    have htest : (Quoting.after front == .outside && decide (start ≤ front.length) &&
        isWordAt (Utf8.ofString keyword) front.getLast? (b :: bs)) = true ↔
          start ≤ front.length ∧ WordAt keyword (front ++ b :: bs) front.length := by
      rw [wordAt_length_iff hk]
      simp [and_assoc, and_left_comm]
    rw [scan]
    by_cases hword : start ≤ front.length ∧ WordAt keyword (front ++ b :: bs) front.length
    · rw [if_pos (htest.2 hword), Option.some.injEq]
      have hleast : IsLeast {j | front.length ≤ j ∧ start ≤ j ∧
          WordAt keyword (front ++ b :: bs) j} front.length :=
        ⟨⟨Nat.le_refl _, hword⟩, fun j hj => hj.1⟩
      exact ⟨fun h => h ▸ hleast, fun h => Nat.le_antisymm (hleast.2 h.1) (h.2 hleast.1)⟩
    · have hbehind := @ih (front ++ [b])
      have hafter : Quoting.after (front ++ [b]) = (Quoting.after front).step b := by
        rw [Quoting.after_append]
        rfl
      rw [List.length_append, List.getLast?_concat, hafter, List.append_assoc] at hbehind
      rw [if_neg fun h => hword (htest.1 h), ← setOf_succ_le hword]
      exact hbehind

/-- The search finds the first word that is not before `start`. -/
theorem keywordOffsetFrom_eq_some_iff (hk : IsKeyword keyword) :
    keywordOffsetFrom text (Utf8.ofString keyword) start = some i ↔
      IsLeast {j | start ≤ j ∧ WordAt keyword text j} i := by
  obtain ⟨k, ks, hks⟩ := List.exists_cons_of_ne_nil hk.ne_nil
  have hne : (Utf8.ofString keyword).isEmpty = false := by simp [Utf8.ofString, hks]
  rw [keywordOffsetFrom, hne]
  simpa using @scan_eq_some_iff keyword [] text start i hk

/-- The search finds nothing if and only if there is no such word. -/
theorem keywordOffsetFrom_eq_none_iff (hk : IsKeyword keyword) :
    keywordOffsetFrom text (Utf8.ofString keyword) start = none ↔
      ∀ j, start ≤ j → ¬ WordAt keyword text j := by
  classical
  rw [Option.eq_none_iff_forall_ne_some]
  constructor
  · intro h j hj hword
    have hleast := Nat.isLeast_find (p := fun j => start ≤ j ∧ WordAt keyword text j) ⟨j, hj, hword⟩
    exact h _ ((keywordOffsetFrom_eq_some_iff hk).2 hleast)
  · intro h i hi
    obtain ⟨hi, hword⟩ := ((keywordOffsetFrom_eq_some_iff hk).1 hi).1
    exact h i hi hword

/-! ## Beginnings of a text -/

/-- Whether a number is the least one with a property is decided up to this number. -/
theorem isLeast_congr {p q : Nat → Prop} (h : ∀ j ≤ i, p j ↔ q j) :
    IsLeast {j | p j} i ↔ IsLeast {j | q j} i := by
  have hleast {r : Nat → Prop} : IsLeast {j | r j} i ↔ r i ∧ ∀ j < i, ¬ r j :=
    and_congr_right fun _ => ⟨fun hmin j hj hr => Nat.not_le.2 hj (hmin hr),
      fun hnone j hr => Nat.not_lt.1 fun hj => hnone j hj hr⟩
  rw [hleast, hleast, h i le_rfl]
  exact and_congr_right fun _ => forall₂_congr fun j hj => not_congr (h j hj.le)

/-- Whether a word stands at an offset depends on the text up to the byte behind it. -/
theorem WordAt.congr {other : List UInt8} (h : WordAt keyword text i)
    (hother : text.take (i + keyword.length + 1) = other.take (i + keyword.length + 1)) :
    WordAt keyword other i := by
  have hget {j : Nat} (hj : j < i + keyword.length + 1) : other[j]? = text[j]? := by
    rw [← List.getElem?_take_of_lt hj, ← hother, List.getElem?_take_of_lt hj]
  have htake : other.take i = text.take i := by
    have hle : i ≤ i + keyword.length + 1 := by omega
    rw [← Nat.min_eq_left hle, ← List.take_take, ← hother, List.take_take]
  refine ⟨htake ▸ h.unquoted, fun j c hc => ?_, fun b hpos hb => ?_, fun b hb => ?_⟩
  · have hj : j < keyword.length := by
      rw [← String.length_toList]
      exact (List.getElem?_eq_some_iff.1 hc).1
    rw [hget (by omega)]
    exact h.spelled j c hc
  · rw [hget (by omega)] at hb
    exact h.left b hpos hb
  · rw [hget (by omega)] at hb
    exact h.right b hb

/-- A beginning of a text holds the words of the text that end in front of its last byte. -/
theorem wordAt_append_iff (h : i + keyword.length < front.length) :
    WordAt keyword (front ++ back) i ↔ WordAt keyword front i := by
  have htake : (front ++ back).take (i + keyword.length + 1) =
      front.take (i + keyword.length + 1) := List.take_append_of_le_length h
  exact ⟨fun hword => hword.congr htake, fun hword => hword.congr htake.symm⟩

/-- The search for a keyword finds the first whole word outside quotes that is not before `start`,
and nothing if there is none. What it finds in a text, it finds in each beginning of the text that
holds the found word and the byte behind it, and the other way round. -/
theorem first_word_found (hk : IsKeyword keyword) (text : List UInt8) (start : Nat) :
    (∀ i, keywordOffsetFrom text (Utf8.ofString keyword) start = some i ↔
      IsLeast {j | start ≤ j ∧ WordAt keyword text j} i) ∧
    (keywordOffsetFrom text (Utf8.ofString keyword) start = none ↔
      ∀ j, start ≤ j → ¬ WordAt keyword text j) ∧
    ∀ (front back : List Char) (i : Nat), i + keyword.length < (Utf8.bytes front).length →
      (keywordOffset front keyword = some i ↔ keywordOffset (front ++ back) keyword = some i) := by
  refine ⟨fun i => keywordOffsetFrom_eq_some_iff hk, keywordOffsetFrom_eq_none_iff hk,
    fun front back i hi => ?_⟩
  have hword {j : Nat} (hj : j ≤ i) : WordAt keyword (Utf8.bytes front ++ Utf8.bytes back) j ↔
      WordAt keyword (Utf8.bytes front) j := wordAt_append_iff (by omega)
  rw [keywordOffset, keywordOffset, keywordOffsetFrom_eq_some_iff hk,
    keywordOffsetFrom_eq_some_iff hk, Utf8.bytes_append]
  exact isLeast_congr fun j hj => and_congr_right fun _ => (hword hj).symm

/-- A `FROM` in a literal with a doubled quote, one in a quoted name, one that is part of another
word and one that stands before `start` are passed over. -/
theorem from_found_behind_quotes : IsKeyword "FROM" ∧
    IsLeast {j | 12 ≤ j ∧ WordAt "FROM"
      (Utf8.ofString "from 'it''s from', \"a'from\", éfrom From t, FROM") j} 36 ∧
    (∀ j, 37 ≤ j → ¬ WordAt "FROM"
      (Utf8.ofString "from 'it''s from', \"a'from\", éfrom From t") j) ∧
    (keywordOffset "select 'from' From t".toList "FROM" = some 14 ↔
      keywordOffset ("select 'from' From t".toList ++ " where 'from".toList) "FROM" = some 14) := by
  obtain ⟨hfound, -, hbeginning⟩ := first_word_found isKeyword_from
    (Utf8.ofString "from 'it''s from', \"a'from\", éfrom From t, FROM") 12
  have hnone := (first_word_found isKeyword_from
    (Utf8.ofString "from 'it''s from', \"a'from\", éfrom From t") 37).2.1.1 (by decide +kernel)
  refine ⟨isKeyword_from, (hfound 36).1 (by decide +kernel), hnone, ?_⟩
  exact hbeginning _ _ _ (by decide +kernel)

end MatView.Text
