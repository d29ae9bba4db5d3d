import MatView.Proofs.Text.Target
import MatView.Proofs.Unicode.UpperForms

/-!
# Searching an upper-case text

A statement is searched for `FROM` after it was put in upper case, which moves offsets and makes
letters of ASCII out of others. The search finds the same place all the same: upper case keeps
quotes, blanks and the edges of names, and only the four letters of ASCII become the word `FROM`.

## Main definitions

* `SpellsFrom`: a text starts with the word `FROM`.

## Main statements

* `starts_upperChars_iff`, `clear_upperChars_iff`: where `FROM` stands in an upper-case text.
* `keywordOffset_upperChars`: the search finds the upper-case form of the place.
* `target_upperChars`: the name behind `FROM` is the upper-case form of the name.
* `Starts.exists_cut`: the place behind a keyword of an upper-case text is a place of the text.
-/

namespace MatView.Text

open Unicode

variable {front part back cs ds : List Char} {c d : Char}

/-! ## Stretches of characters -/

section

variable {p : Char → Bool}

theorem takeWhile_upperChars (hp : ∀ c, ∀ d ∈ upperChar c, p d = p c) (cs : List Char) :
    (upperChars cs).takeWhile p = upperChars (cs.takeWhile p) ∧
      (upperChars cs).dropWhile p = upperChars (cs.dropWhile p) := by
  induction cs with
  | nil => exact ⟨rfl, rfl⟩
  | cons c cs ih =>
    by_cases hc : p c = true
    · have hall : ∀ d ∈ upperChar c, p d = true := fun d hd => (hp c d hd).trans hc
      rw [upperChars_cons, List.takeWhile_append_of_pos hall, List.dropWhile_append_of_pos hall,
        List.takeWhile_cons_of_pos hc, List.dropWhile_cons_of_pos hc, ih.1, ih.2]
      exact ⟨rfl, rfl⟩
    · obtain ⟨d, ds, hds⟩ := List.exists_cons_of_ne_nil (upperChar_ne_nil c)
      have hd : ¬ p d = true := by rwa [hp c d (by simp [hds])]
      rw [upperChars_cons, hds, List.cons_append, List.takeWhile_cons_of_neg hd,
        List.dropWhile_cons_of_neg hd, List.takeWhile_cons_of_neg hc, List.dropWhile_cons_of_neg hc,
        upperChars_cons, hds]
      exact ⟨rfl, rfl⟩

end

/-- A character may belong to a dotted name if and only if its upper-case form may. -/
theorem isNameChar_of_mem_upperChar (h : d ∈ upperChar c) : isNameChar d = isNameChar c := by
  by_cases hc : isWordChar c = true
  · simp [isNameChar, isWordChar_of_mem_upperChar h, hc]
  · rw [Bool.not_eq_true] at hc
    rw [upperChar_eq_self hc, List.mem_singleton] at h
    rw [h]

/-! ## Quotes and edges -/

/-- No part of an identifier is a quote. -/
theorem Quoting.foldl_step_of_words (state : Quoting) (h : ∀ c ∈ cs, isWordChar c = true) :
    (Utf8.bytes cs).foldl Quoting.step state = state := by
  induction cs with
  | nil => rfl
  | cons c cs ih =>
    obtain ⟨hc, hcs⟩ := List.forall_mem_cons.1 h
    have hchar : (String.utf8EncodeChar c).foldl Quoting.step state = state := by
      by_cases hascii : c.toNat < 0x80
      · rw [utf8EncodeChar_of_ascii hascii]
        have hstep : ∀ state : Quoting, isWordChar c = true → state.step (UInt8.ofNat c.toNat) = state :=
          fun state => of_ascii
            (p := fun c => isWordChar c = true → state.step (UInt8.ofNat c.toNat) = state)
            (by cases state <;> decide) c hascii
        exact hstep state hc
      · exact Quoting.foldl_step_of_wide state fun b =>
          le_of_mem_utf8EncodeChar (Nat.le_of_not_lt hascii)
    rw [Utf8.bytes_cons, List.foldl_append, hchar, ih hcs]

/-- Upper case neither makes nor loses a quote. -/
theorem Quoting.foldl_step_upperChars (state : Quoting) (cs : List Char) :
    (Utf8.bytes (upperChars cs)).foldl Quoting.step state =
      (Utf8.bytes cs).foldl Quoting.step state := by
  induction cs generalizing state with
  | nil => rfl
  | cons c cs ih =>
    rw [upperChars_cons, Utf8.bytes_append, ← List.singleton_append, Utf8.bytes_append,
      List.foldl_append, List.foldl_append, ih]
    congr 1
    by_cases hc : isWordChar c = true
    · rw [Quoting.foldl_step_of_words state fun d hd => (isWordChar_of_mem_upperChar hd).trans hc,
        Quoting.foldl_step_of_words state (by simpa using hc)]
    · rw [upperChar_eq_self (by simpa using hc)]

theorem after_upperChars (cs : List Char) :
    Quoting.after (Utf8.bytes (upperChars cs)) = Quoting.after (Utf8.bytes cs) :=
  Quoting.foldl_step_upperChars .outside cs

theorem boundary_getLast?_upperChars :
    Boundary (upperChars cs).getLast? ↔ Boundary cs.getLast? := by
  obtain rfl | ⟨front, c, rfl⟩ := List.eq_nil_or_concat cs
  · rfl
  · rw [getLast?_upperChars_concat, boundary_some, isWordChar_of_mem_upperChar (List.getLast_mem _),
      List.concat_eq_append, List.getLast?_concat, boundary_some]

theorem boundary_head?_upperChars : Boundary (upperChars cs).head? ↔ Boundary cs.head? := by
  cases cs with
  | nil => rfl
  | cons c cs =>
    obtain ⟨d, ds, hds⟩ := List.exists_cons_of_ne_nil (upperChar_ne_nil c)
    rw [upperChars_cons, hds, List.cons_append, List.head?_cons, List.head?_cons, boundary_some,
      boundary_some, isWordChar_of_mem_upperChar (c := c) (by simp [hds])]

/-! ## The word `FROM` -/

/-- A text starts with the word `FROM`, in any case. -/
def SpellsFrom (cs : List Char) : Prop :=
  ∃ word rest, cs = word ++ rest ∧ Alike word "FROM".toList ∧ Boundary rest.head?

theorem starts_from_iff : Starts "FROM" front back ↔
    Quoting.after (Utf8.bytes front) = .outside ∧ Boundary front.getLast? ∧ SpellsFrom back := by
  constructor
  · intro h
    refine ⟨h.outside, h.left, wordOf "FROM" back, back.drop "FROM".toList.length,
      (List.take_append_drop _ _).symm, h.spells, ?_⟩
    rw [List.head?_drop]
    exact h.right
  · rintro ⟨houtside, hleft, word, rest, rfl, hword, hright⟩
    have hlength := hword.length_eq
    refine ⟨houtside, hleft, ?_, ?_⟩
    · rwa [List.take_left' hlength]
    · rwa [← hlength, ← List.head?_drop, List.drop_left]

/-- Only letters of ASCII have an upper-case form that leads into the word `FROM`. -/
theorem exists_letter (h : upperChars cs = d :: ds) (hd : ¬ PassesFrom (d :: ds)) :
    ∃ c rest, cs = c :: rest ∧ c.toLower = d.toLower ∧ upperChars rest = ds := by
  cases cs with
  | nil => cases h
  | cons c rest =>
    rw [upperChars_cons] at h
    by_cases hc : c.toNat < 0x80
    · rw [upperChar_of_ascii hc] at h
      obtain ⟨rfl, hrest⟩ := List.cons.inj h
      exact ⟨c, rest, rfl, (toLower_of_toUpper c).symm, hrest⟩
    · exact absurd (h ▸ (passesFrom_upperChar (Nat.le_of_not_lt hc)).append _) hd

/-- The four letters of the word `FROM`. -/
theorem Alike.letters {word : List Char} (h : Alike word "FROM".toList) :
    ∃ f r o m, word = [f, r, o, m] ∧ f.toLower = 'f' ∧ r.toLower = 'r' ∧ o.toLower = 'o' ∧
      m.toLower = 'm' := by
  have hletters : word.map Char.toLower = ['f', 'r', 'o', 'm'] := h
  simp only [List.map_eq_cons_iff, List.map_eq_nil_iff] at hletters
  obtain ⟨f, -, rfl, hf, r, -, rfl, hr, o, -, rfl, ho, m, -, rfl, hm, rfl⟩ := hletters
  exact ⟨f, r, o, m, rfl, hf, hr, ho, hm⟩

/-- Only a text that starts with the letters of `FROM` has an upper-case form that does. -/
theorem exists_word {word rest : List Char} (h : upperChars cs = word ++ rest)
    (hword : Alike word "FROM".toList) : ∃ other behind, cs = other ++ behind ∧
      Alike other "FROM".toList ∧ upperChars behind = rest := by
  obtain ⟨f, r, o, m, rfl, hf, hr, ho, hm⟩ := hword.letters
  obtain ⟨f', cs, rfl, hf', h⟩ := exists_letter h (by simp [PassesFrom, hf, hr])
  obtain ⟨r', cs, rfl, hr', h⟩ := exists_letter h (by simp [PassesFrom, hr])
  obtain ⟨o', cs, rfl, ho', h⟩ := exists_letter h (by simp [PassesFrom, ho])
  obtain ⟨m', cs, rfl, hm', h⟩ := exists_letter h (by cases rest <;> simp [PassesFrom, hm])
  refine ⟨[f', r', o', m'], cs, rfl, ?_, h⟩
  simp [Alike, hf', hr', ho', hm', hf, hr, ho, hm]

/-- Upper case neither makes nor loses the word `FROM` at the start of a text. -/
theorem spellsFrom_upperChars_iff : SpellsFrom (upperChars cs) ↔ SpellsFrom cs := by
  constructor
  · rintro ⟨word, rest, h, hword, hright⟩
    obtain ⟨other, behind, rfl, hother, rfl⟩ := exists_word h hword
    exact ⟨other, behind, rfl, hother, boundary_head?_upperChars.1 hright⟩
  · rintro ⟨word, rest, rfl, hword, hright⟩
    refine ⟨upperChars word, upperChars rest, upperChars_append _ _, ?_,
      boundary_head?_upperChars.2 hright⟩
    have hascii := fun c hc => toNat_lt_of_isPlain (hword.isPlain isKeyword_from.plain c hc)
    rw [upperChars_of_ascii hascii, Alike, List.map_map]
    rw [← hword]
    exact List.map_congr_left fun c _ => toLower_of_toUpper c

/-- The word `FROM` stands in an upper-case text where it stands in the text. -/
theorem starts_upperChars_iff :
    Starts "FROM" (upperChars front) (upperChars back) ↔ Starts "FROM" front back := by
  rw [starts_from_iff, starts_from_iff, after_upperChars, boundary_getLast?_upperChars,
    spellsFrom_upperChars_iff]

/-! ## The search -/

/-- No keyword starts in the middle of a word. -/
theorem clear_behind_word {keyword : String} (h : ∀ d ∈ c :: part, isWordChar d = true) :
    Clear keyword (front ++ [c]) part back := by
  intro p q hpart _ hstarts
  obtain ⟨d, hd⟩ : ∃ d, (c :: p).getLast? = some d := ⟨_, List.getLast?_eq_some_getLast (by simp)⟩
  have hmem : d ∈ c :: part := by
    have hprefix : c :: part = c :: p ++ q := by rw [hpart, List.cons_append]
    exact hprefix ▸ List.mem_append_left q (List.mem_of_getLast? hd)
  have hlast : (front ++ [c] ++ p).getLast? = some d := by
    rw [List.append_assoc, List.singleton_append, List.getLast?_append, hd]
    rfl
  have hleft := hstarts.left
  rw [hlast, boundary_some, h d hmem] at hleft
  cases hleft

/-- The word `FROM` stands in a part of an upper-case text if and only if it stands in that part of
the text. -/
theorem clear_upperChars_iff :
    Clear "FROM" (upperChars front) (upperChars part) (upperChars back) ↔
      Clear "FROM" front part back := by
  induction part generalizing front with
  | nil => simp
  | cons c part ih =>
    obtain ⟨d, ds, hds⟩ := List.exists_cons_of_ne_nil (upperChar_ne_nil c)
    have hstarts : Starts "FROM" (upperChars front) (d :: ds ++ (upperChars part ++ upperChars back)) ↔
        Starts "FROM" front (c :: part ++ back) := by
      have hplace := @starts_upperChars_iff front (c :: part ++ back)
      rwa [upperChars_append, upperChars_cons, hds, List.append_assoc] at hplace
    -- Behind its first character, the upper-case form of a letter is the middle of a word.
    have hmiddle : Clear "FROM" (upperChars front ++ [d]) ds (upperChars part ++ upperChars back) := by
      cases hc : isWordChar c with
      | false =>
        rw [upperChar_eq_self hc, List.cons.injEq] at hds
        exact hds.2 ▸ clear_nil
      | true =>
        exact clear_behind_word fun x hx => (isWordChar_of_mem_upperChar (hds ▸ hx)).trans hc
    have hfront : upperChars front ++ d :: ds = upperChars (front ++ [c]) := by simp [hds]
    rw [upperChars_cons, hds, clear_append, clear_cons, hstarts, hfront, ih, clear_cons]
    simp [hmiddle]

/-- The first place of `FROM` is kept by upper case. -/
theorem first_upperChars_iff :
    First "FROM" (upperChars front) (upperChars back) ↔ First "FROM" front back := by
  have hclear : Clear "FROM" [] (upperChars front) (upperChars back) ↔ Clear "FROM" [] front back :=
    @clear_upperChars_iff [] front back
  exact ⟨fun h => ⟨starts_upperChars_iff.1 h.starts, hclear.1 h.clear⟩,
    fun h => ⟨starts_upperChars_iff.2 h.starts, hclear.2 h.clear⟩⟩

/-- The search in an upper-case text finds the upper-case form of the place in the text. -/
theorem keywordOffset_upperChars (text : List Char) :
    keywordOffset (upperChars text) "FROM" = (keywordOffset text "FROM").map fun n =>
      (Utf8.bytes (upperChars (takeBytes n text))).length := by
  cases h : keywordOffset text "FROM" with
  | none =>
    have hclear := (keywordOffset_eq_none_iff isKeyword_from).1 h
    exact (keywordOffset_eq_none_iff isKeyword_from).2 ((@clear_upperChars_iff [] text []).2 hclear)
  | some n =>
    obtain ⟨front, back, rfl, hfirst, rfl⟩ := (keywordOffset_eq_some_iff isKeyword_from).1 h
    rw [upperChars_append, (first_upperChars_iff.2 hfirst).keywordOffset_eq isKeyword_from,
      Option.map_some, takeBytes_append]

/-! ## What follows `FROM` -/

/-- The parts of an upper-case text that starts with the word `FROM`. -/
theorem take_upperChars (h : SpellsFrom back) :
    wordOf "FROM" (upperChars back) = upperChars (wordOf "FROM" back) ∧
      (upperChars back).drop "FROM".toList.length = upperChars (back.drop "FROM".toList.length) := by
  obtain ⟨word, rest, rfl, hword, -⟩ := h
  have hlength := hword.length_eq
  have hupper : (upperChars word).length = "FROM".toList.length := by
    rw [upperChars_of_ascii fun c hc =>
      toNat_lt_of_isPlain (hword.isPlain isKeyword_from.plain c hc), List.length_map, hlength]
  rw [wordOf, wordOf, upperChars_append, List.take_left' hupper, List.take_left' hlength,
    List.drop_left' hupper, List.drop_left' hlength]
  exact ⟨rfl, rfl⟩

theorem blanksBehind_upperChars (h : SpellsFrom back) :
    blanksBehind "FROM" (upperChars back) = upperChars (blanksBehind "FROM" back) := by
  rw [blanksBehind, (take_upperChars h).2,
    (takeWhile_upperChars (fun _ _ => isBlank_of_mem_upperChar) _).1, blanksBehind]

theorem restBehind_upperChars (h : SpellsFrom back) :
    restBehind "FROM" (upperChars back) = upperChars (restBehind "FROM" back) := by
  rw [restBehind, (take_upperChars h).2,
    (takeWhile_upperChars (fun _ _ => isBlank_of_mem_upperChar) _).2, restBehind]

/-- The name behind `FROM` in an upper-case text is the upper-case form of the name in the text. -/
theorem target_upperChars (h : SpellsFrom back) :
    target (upperChars back) = upperChars (target back) := by
  rw [target, restBehind_upperChars h,
    (takeWhile_upperChars (fun _ _ => isNameChar_of_mem_upperChar) _).1, target]

theorem behindTarget_upperChars (h : SpellsFrom back) :
    behindTarget (upperChars back) = upperChars (behindTarget back) := by
  rw [behindTarget, restBehind_upperChars h,
    (takeWhile_upperChars (fun _ _ => isNameChar_of_mem_upperChar) _).2, behindTarget]

/-- Behind a keyword and its blanks an upper-case text is cut where the text can be cut. -/
theorem Starts.exists_cut {keyword : String} {text more : List Char}
    (h : Starts keyword front back) (htext : front ++ back = upperChars text ++ more)
    (hle : front ++ wordOf keyword back ++ blanksBehind keyword back <+: upperChars text) :
    ∃ before behind, text = before ++ behind ∧
      front ++ wordOf keyword back ++ blanksBehind keyword back = upperChars before ∧
      restBehind keyword back = upperChars behind ++ more := by
  obtain ⟨rest, hrest⟩ := hle
  have hbehind : restBehind keyword back = rest ++ more := by
    rw [append_eq_parts keyword front back, ← hrest, List.append_assoc _ rest] at htext
    exact List.append_cancel_left htext
  obtain ⟨before, behind, rfl, hbefore, rfl⟩ := by
    refine Unicode.exists_cut hrest.symm ?_
    obtain hlast | hright := h.cut_behind
    · exact .inl fun d hd => .inr (hlast d hd)
    · exact .inr fun e he => hright e (by rw [hbehind, List.head?_append, he]; rfl)
  exact ⟨before, behind, rfl, hbefore, hbehind⟩

/-- A stretch of a text, in the upper-case form of the text. -/
def Span.inUpper (s : Span) (text : List Char) : Span where
  start := (Utf8.bytes (upperChars (takeBytes s.start text))).length
  length := (Utf8.bytes (upperChars (s.slice text))).length

/-- The stretch of the name in an upper-case text is the stretch of the name in the text, and its
characters are those of the name in upper case. -/
theorem fromSpan_upperChars (text : List Char) :
    fromSpan (upperChars text) = (fromSpan text).map (·.inUpper text) ∧
      ∀ s, fromSpan text = some s → (s.inUpper text).slice (upperChars text) =
        upperChars (s.slice text) := by
  cases h : keywordOffset text "FROM" with
  | none =>
    have hnone : fromSpan text = none := by rw [fromSpan, h, Option.map_none]
    rw [fromSpan, keywordOffset_upperChars, h, hnone]
    refine ⟨rfl, fun s hs => ?_⟩
    cases hs
  | some n =>
    obtain ⟨front, back, rfl, hfirst, -⟩ := (keywordOffset_eq_some_iff isKeyword_from).1 h
    have hspells := (starts_from_iff.1 hfirst.starts).2.2
    have hspan : (Span.mk
        (Utf8.bytes (front ++ wordOf "FROM" back ++ blanksBehind "FROM" back)).length
        (Utf8.bytes (target back)).length).inUpper (front ++ back) =
          ⟨(Utf8.bytes (upperChars front ++ wordOf "FROM" (upperChars back) ++
            blanksBehind "FROM" (upperChars back))).length,
              (Utf8.bytes (target (upperChars back))).length⟩ := by
      rw [Span.inUpper, slice_fromSpan, append_eq_parts "FROM" front back, takeBytes_append,
        (take_upperChars hspells).1, blanksBehind_upperChars hspells, target_upperChars hspells]
      simp only [upperChars_append]
    rw [fromSpan_eq hfirst, upperChars_append, fromSpan_eq (first_upperChars_iff.2 hfirst)]
    refine ⟨by rw [Option.map_some, hspan], ?_⟩
    rintro s ⟨⟩
    rw [hspan, slice_fromSpan, slice_fromSpan, target_upperChars hspells]

end MatView.Text
