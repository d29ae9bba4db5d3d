import MatView.Proofs.Sql.Lexing

/-!
# Texts that agree up to a cut

Blanks and semicolons at the end of a text are cut off, and a blank and something else is put in
their place. Neither a blank nor a semicolon closes a text between quotes or goes on with a run of
characters, so what is read in front of the cut does not depend on what stands behind it.

## Main definitions

* `isTrailing`: blanks and semicolons.
* `Cut`: two texts that agree up to a cut.
* `Follows`: what is read off two such texts is the same, and they still agree up to the cut.

## Main statements

* `Cut.takeWhile`, `Cut.isPrefixOf`: runs of characters and symbols end before the cut.
* `quotedBody_follows`, `slashedBody_follows`, `tripledBody_follows`, `escapedBody_follows`,
  `unicodeBody_follows`, `dollarBody_follows`, `taggedBody_follows`: texts between quotes end before
  the cut.
-/

namespace MatView.Sql

open Lexer Literal
open Unicode (isBlank)

/-! ## Blanks and semicolons -/

/-- A blank or a semicolon. -/
def isTrailing (c : Char) : Bool :=
  isBlank c || c == ';'

/-- A text of blanks and semicolons. -/
def Trailing (cs : List Char) : Prop :=
  ∀ c ∈ cs, isTrailing c = true

/-- The blanks and the semicolon. -/
def trailingChars : List Char :=
  [0x9, 0xA, 0xB, 0xC, 0xD, 0x20, 0x3B, 0x85, 0xA0, 0x1680, 0x2000, 0x2001, 0x2002, 0x2003, 0x2004,
    0x2005, 0x2006, 0x2007, 0x2008, 0x2009, 0x200A, 0x2028, 0x2029, 0x202F, 0x205F, 0x3000].map
    Char.ofNat

theorem mem_trailingChars {c : Char} (h : isTrailing c = true) : c ∈ trailingChars := by
  refine List.mem_map.2 ⟨c.toNat, ?_, Char.ofNat_toNat c⟩
  obtain hblank | hsemicolon := Bool.or_eq_true_iff.1 h
  · simp only [isBlank, Unicode.blankRanges, Unicode.inRanges_iff, List.mem_cons, List.not_mem_nil,
      or_false, exists_eq_or_imp, exists_eq_left] at hblank
    simp only [List.mem_cons, List.not_mem_nil, or_false]
    omega
  · rw [eq_of_beq hsemicolon]
    decide

/-- A character that goes on with no name, no number and no symbol. -/
structure Breaks (c : Char) : Prop where
  word : isWordPart c = false
  number : Unicode.isNumeric c = false
  tag : (Unicode.isAlphanumeric c || c == '_') = false
  digit : c.isDigit = false
  based : ∀ base ∈ [8, 16], Text.digit? base c = none
  symbol : ∀ s ∈ longSymbols, c ∉ s.toList

/-- `Breaks`, computed. -/
def breaks (c : Char) : Bool :=
  !isWordPart c && !Unicode.isNumeric c && !(Unicode.isAlphanumeric c || c == '_') && !c.isDigit &&
    [8, 16].all (fun base => (Text.digit? base c).isNone) &&
    longSymbols.all fun s => !s.toList.contains c

theorem Breaks.of_breaks {c : Char} (h : breaks c = true) : Breaks c := by
  simp only [breaks, Bool.and_eq_true, Bool.not_eq_true', List.all_eq_true, Option.isNone_iff_eq_none,
    List.contains_eq_mem, decide_eq_false_iff_not] at h
  obtain ⟨⟨⟨⟨⟨hword, hnumber⟩, htag⟩, hdigit⟩, hbased⟩, hsymbol⟩ := h
  exact ⟨hword, hnumber, htag, hdigit, hbased, hsymbol⟩

/-- Neither blanks nor semicolons go on with a name, a number or a symbol. -/
theorem breaks_of_isTrailing {c : Char} (h : isTrailing c = true) : Breaks c := by
  have hall : trailingChars.all breaks = true := by decide +kernel
  exact .of_breaks (List.all_eq_true.1 hall c (mem_trailingChars h))

theorem ne_of_isTrailing {c d : Char} (hc : isTrailing c = true) (hd : isTrailing d = false) :
    c ≠ d := by
  rintro rfl
  rw [hc] at hd
  cases hd

theorem beq_of_isTrailing {c d : Char} (hc : isTrailing c = true) (hd : isTrailing d = false) :
    (c == d) = false :=
  beq_eq_false_iff_ne.2 (ne_of_isTrailing hc hd)

@[simp] theorem trailing_nil : Trailing [] := by
  simp [Trailing]

@[simp] theorem trailing_cons {c : Char} {cs : List Char} :
    Trailing (c :: cs) ↔ isTrailing c = true ∧ Trailing cs := by
  simp [Trailing]

theorem Trailing.head?_beq {c : Char} {cs : List Char} (h : Trailing cs)
    (hc : isTrailing c = false) : (cs.head? == some c) = false := by
  cases cs with
  | nil => rfl
  | cons d cs => simpa using ne_of_isTrailing (trailing_cons.1 h).1 hc

theorem Trailing.drop {cs : List Char} (h : Trailing cs) (n : Nat) : Trailing (cs.drop n) :=
  fun c hc => h c (List.mem_of_mem_drop hc)

/-! ## Texts with a cut -/

/-- Two texts that agree up to a cut, where the first one goes on with `back`, and the second one
with a space and `rest`. -/
inductive Cut (back rest : List Char) : List Char → List Char → Prop
  | here : Cut back rest back (' ' :: rest)
  | cons (c : Char) {cs ds : List Char} (others : Cut back rest cs ds) :
    Cut back rest (c :: cs) (c :: ds)

section

variable {back rest cs ds : List Char} {c : Char} {p : Char → Bool}

namespace Cut

theorem of_append (front back rest : List Char) :
    Cut back rest (front ++ back) (front ++ ' ' :: rest) := by
  induction front with
  | nil => exact .here
  | cons c front ih => exact .cons c ih

theorem exists_front (h : Cut back rest cs ds) :
    ∃ front, cs = front ++ back ∧ ds = front ++ ' ' :: rest := by
  induction h with
  | here => exact ⟨[], rfl, rfl⟩
  | cons c _ ih =>
    obtain ⟨front, rfl, rfl⟩ := ih
    exact ⟨c :: front, rfl, rfl⟩

/-- The texts agree in a character that stands before the cut. -/
theorem cons_left (h : Cut back rest (c :: cs) ds) (hback : Trailing back)
    (hc : isTrailing c = false) : ∃ ds', ds = c :: ds' ∧ Cut back rest cs ds' := by
  cases h with
  | here => simp [hc] at hback
  | cons _ others => exact ⟨_, rfl, others⟩

theorem cons_right (h : Cut back rest cs (c :: ds)) (hc : isTrailing c = false) :
    ∃ cs', cs = c :: cs' ∧ Cut back rest cs' ds := by
  cases h with
  | here => cases hc
  | cons _ others => exact ⟨_, rfl, others⟩

theorem head?_beq (h : Cut back rest cs ds) (hback : Trailing back) (hc : isTrailing c = false) :
    (cs.head? == some c) = (ds.head? == some c) := by
  rw [Bool.eq_iff_iff, beq_iff_eq, beq_iff_eq, List.head?_eq_some_iff, List.head?_eq_some_iff]
  constructor
  · rintro ⟨cs', rfl⟩
    obtain ⟨ds', rfl, -⟩ := h.cons_left hback hc
    exact ⟨ds', rfl⟩
  · rintro ⟨ds', rfl⟩
    obtain ⟨cs', rfl, -⟩ := h.cons_right hc
    exact ⟨cs', rfl⟩

/-- A run of characters ends at the cut if neither blanks nor semicolons go on with it. -/
theorem takeWhile (h : Cut back rest cs ds) (hback : Trailing back)
    (hp : ∀ c, isTrailing c = true → p c = false) : cs.takeWhile p = ds.takeWhile p ∧
      Cut back rest (cs.dropWhile p) (ds.dropWhile p) := by
  induction h with
  | here =>
    have hspace : p ' ' = false := hp ' ' (by decide)
    have hback' : back.takeWhile p = [] ∧ back.dropWhile p = back := by
      cases back with
      | nil => exact ⟨rfl, rfl⟩
      | cons c cs => simp [hp c (trailing_cons.1 hback).1]
    simp only [hback'.1, hback'.2, List.takeWhile_cons, List.dropWhile_cons, hspace]
    exact ⟨rfl, .here⟩
  | cons c others ih =>
    simp only [List.takeWhile_cons, List.dropWhile_cons]
    split
    · exact ⟨congrArg _ ih.1, ih.2⟩
    · exact ⟨rfl, .cons c others⟩

/-- A run of characters ends before the cut, or reaches it. -/
theorem dropWhile (h : Cut back rest cs ds) (p : Char → Bool) :
    Cut back rest (cs.dropWhile p) (ds.dropWhile p) ∨
      ∃ front, cs = front ++ back ∧ ∀ c ∈ front, p c = true := by
  induction h with
  | here => exact .inr ⟨[], rfl, by simp⟩
  | cons c others ih =>
    simp only [List.dropWhile_cons]
    split
    · rename_i hc
      refine ih.imp_right ?_
      rintro ⟨front, rfl, hfront⟩
      exact ⟨c :: front, rfl, List.forall_mem_cons.2 ⟨hc, hfront⟩⟩
    · exact .inl (.cons c others)

/-- What the texts start with, if it has neither blanks nor semicolons. -/
theorem isPrefixOf (h : Cut back rest cs ds) (hback : Trailing back) {word : List Char}
    (hword : ∀ c ∈ word, isTrailing c = false) : word.isPrefixOf cs = word.isPrefixOf ds ∧
      (word.isPrefixOf cs = true →
        Cut back rest (cs.drop word.length) (ds.drop word.length)) := by
  induction word generalizing cs ds with
  | nil => exact ⟨rfl, fun _ => h⟩
  | cons c word ih =>
    obtain ⟨hc, hword⟩ := List.forall_mem_cons.1 hword
    cases h with
    | here =>
      have hspace : c ≠ ' ' := by
        rintro rfl
        cases hc
      have hback' : (c :: word).isPrefixOf back = false := by
        cases back with
        | nil => rfl
        | cons b bs =>
          have hb : c ≠ b := (ne_of_isTrailing (trailing_cons.1 hback).1 hc).symm
          simp [List.isPrefixOf, hb]
      simp [hback', List.isPrefixOf, hspace]
    | cons d others =>
      obtain ⟨hstarts, hdrop⟩ := ih others hword
      simp only [List.isPrefixOf, hstarts, List.length_cons, List.drop_succ_cons, true_and,
        Bool.and_eq_true]
      exact fun h => hdrop (hstarts.trans h.2)

/-- A number of characters stands before the cut, or nothing but blanks and semicolons is left. -/
theorem take (h : Cut back rest cs ds) (hback : Trailing back) (n : Nat) :
    (cs.take n = ds.take n ∧ n ≤ cs.length ∧ n ≤ ds.length ∧
      Cut back rest (cs.drop n) (ds.drop n)) ∨ Trailing (cs.drop n) := by
  induction n generalizing cs ds with
  | zero => exact .inl ⟨rfl, Nat.zero_le _, Nat.zero_le _, h⟩
  | succ n ih =>
    cases h with
    | here => exact .inr (hback.drop _)
    | cons c others =>
      refine (ih others).imp (fun hcut => ?_) fun htrailing => htrailing
      obtain ⟨htake, hcs, hds, hdrop⟩ := hcut
      exact ⟨by rw [List.take_succ_cons, List.take_succ_cons, htake], Nat.succ_le_succ hcs,
        Nat.succ_le_succ hds, hdrop⟩

theorem length_eq (h : Cut back rest cs ds) :
    cs.length + rest.length + 1 = ds.length + back.length := by
  obtain ⟨front, rfl, rfl⟩ := h.exists_front
  simp only [List.length_append, List.length_cons]
  omega

end Cut

/-! ## What is read off them -/

/-- What is read off the first of two texts is read off the second one too, and behind it they still
agree up to the cut. -/
def Follows {α : Type} (back rest : List Char) (x y : Option (α × List Char)) : Prop :=
  ∀ a after, x = some (a, after) → ∃ after', y = some (a, after') ∧ Cut back rest after after'

namespace Follows

variable {α β : Type} {x y : Option (α × List Char)}

theorem none (y : Option (α × List Char)) : Follows back rest none y := by
  rintro a after ⟨⟩

theorem some (a : α) (h : Cut back rest cs ds) : Follows back rest (some (a, cs)) (some (a, ds)) := by
  rintro a after ⟨⟩
  exact ⟨ds, rfl, h⟩

theorem map (h : Follows back rest x y) (f : α → β) :
    Follows back rest (x.map fun (a, after) => (f a, after))
      (y.map fun (a, after) => (f a, after)) := by
  intro b after hx
  obtain ⟨⟨a, after⟩, rfl, hb⟩ := Option.map_eq_some_iff.1 hx
  cases hb
  obtain ⟨after', rfl, hcut⟩ := h a after rfl
  exact ⟨after', rfl, hcut⟩

theorem cons {body body' : Literal.Body} (h : Follows back rest body body') (c : Char) :
    Follows back rest (body.cons c) (body'.cons c) :=
  h.map _

end Follows

/-! ## Texts between quotes -/

variable {quote : Char}

theorem quotedBody_close (h : (cs.head? == some quote) = false) :
    quotedBody quote (quote :: cs) = some ([], cs) := by
  cases cs with
  | nil => simp [quotedBody]
  | cons d cs => simp_all [quotedBody]

theorem quotedBody_other (hc : (c == quote) = false) :
    quotedBody quote (c :: cs) = (quotedBody quote cs).cons c := by
  cases cs <;> simp [quotedBody, hc, Literal.Body.cons]

/-- Without a quote there is no end. -/
theorem quotedBody_of_trailing (hquote : isTrailing quote = false) (h : Trailing cs) :
    quotedBody quote cs = none := by
  induction cs with
  | nil => rfl
  | cons c cs ih =>
    obtain ⟨hc, hcs⟩ := trailing_cons.1 h
    rw [quotedBody_other (beq_of_isTrailing hc hquote), ih hcs]
    rfl

theorem quotedBody_follows (hback : Trailing back) (hquote : isTrailing quote = false)
    (h : Cut back rest cs ds) : Follows back rest (quotedBody quote cs) (quotedBody quote ds) := by
  -- a quote that closes the text is not doubled behind the cut either
  have hclose : ∀ {cs ds}, Cut back rest cs ds → (cs.head? == some quote) = false →
      Follows back rest (some ([], cs)) (quotedBody quote (quote :: ds)) := by
    intro cs ds h hcs
    rw [quotedBody_close ((h.head?_beq hback hquote).symm.trans hcs)]
    exact .some [] h
  fun_induction quotedBody quote cs generalizing ds with
  | case1 => exact .none _
  | case2 c hc =>
    obtain rfl := eq_of_beq hc
    obtain ⟨ds₁, rfl, h₁⟩ := h.cons_left hback hquote
    exact hclose h₁ rfl
  | case3 c hc => exact .none _
  | case4 c d cs hc hd ih =>
    obtain rfl := eq_of_beq hc
    obtain rfl := eq_of_beq hd
    obtain ⟨ds₁, rfl, h₁⟩ := h.cons_left hback hquote
    obtain ⟨ds₂, rfl, h₂⟩ := h₁.cons_left hback hquote
    simpa [quotedBody] using (ih h₂).cons _
  | case5 c d cs hc hd =>
    obtain rfl := eq_of_beq hc
    obtain ⟨ds₁, rfl, h₁⟩ := h.cons_left hback hquote
    exact hclose h₁ (by simpa using hd)
  | case6 c d cs hc ih =>
    cases h with
    | here =>
      rw [quotedBody_of_trailing hquote (trailing_cons.1 hback).2]
      exact .none _
    | @cons _ _ ds others =>
      have hds : quotedBody quote (c :: ds) = (quotedBody quote ds).cons c :=
        quotedBody_other (by simpa using hc)
      rw [hds]
      exact (ih others).cons c

theorem slashedBody_close (h : (cs.head? == some '\'') = false) :
    slashedBody ('\'' :: cs) = some ([], cs) := by
  cases cs with
  | nil => simp [slashedBody]
  | cons d cs => simp_all [slashedBody]

theorem slashedBody_other (hc : (c == '\'') = false) (hslash : (c == '\\') = false) :
    slashedBody (c :: cs) = (slashedBody cs).cons c := by
  cases cs <;> simp [slashedBody, hc, hslash, Literal.Body.cons]

theorem slashedBody_of_trailing (h : Trailing cs) : slashedBody cs = none := by
  induction cs with
  | nil => rfl
  | cons c cs ih =>
    obtain ⟨hc, hcs⟩ := trailing_cons.1 h
    rw [slashedBody_other (beq_of_isTrailing hc (by decide))
      (beq_of_isTrailing hc (by decide)), ih hcs]
    rfl

theorem slashedBody_follows (hback : Trailing back) (h : Cut back rest cs ds) :
    Follows back rest (slashedBody cs) (slashedBody ds) := by
  have hquote : isTrailing '\'' = false := by decide
  have hclose : ∀ {cs ds}, Cut back rest cs ds → (cs.head? == some '\'') = false →
      Follows back rest (some ([], cs)) (slashedBody ('\'' :: ds)) := by
    intro cs ds h hcs
    rw [slashedBody_close ((h.head?_beq hback hquote).symm.trans hcs)]
    exact .some [] h
  fun_induction slashedBody cs generalizing ds with
  | case1 => exact .none _
  | case2 c hc =>
    obtain rfl := eq_of_beq hc
    obtain ⟨ds₁, rfl, h₁⟩ := h.cons_left hback hquote
    exact hclose h₁ rfl
  | case3 c hc => exact .none _
  | case4 c d cs hc hd ih =>
    obtain rfl := eq_of_beq hc
    obtain rfl := eq_of_beq hd
    obtain ⟨ds₁, rfl, h₁⟩ := h.cons_left hback hquote
    obtain ⟨ds₂, rfl, h₂⟩ := h₁.cons_left hback hquote
    simpa [slashedBody] using (ih h₂).cons _
  | case5 c d cs hc hd =>
    obtain rfl := eq_of_beq hc
    obtain ⟨ds₁, rfl, h₁⟩ := h.cons_left hback hquote
    exact hclose h₁ (by simpa using hd)
  | case6 c d cs hc hslash ih =>
    obtain rfl := eq_of_beq hslash
    obtain ⟨ds₁, rfl, h₁⟩ := h.cons_left hback (by decide)
    cases h₁ with
    | here =>
      rw [slashedBody_of_trailing (trailing_cons.1 hback).2]
      exact .none _
    | cons _ others => simpa [slashedBody] using (ih others).cons _
  | case7 c d cs hc hslash ih =>
    cases h with
    | here =>
      rw [slashedBody_of_trailing (trailing_cons.1 hback).2]
      exact .none _
    | @cons _ _ ds others =>
      have hds : slashedBody (c :: ds) = (slashedBody ds).cons c :=
        slashedBody_other (by simpa using hc) (by simpa using hslash)
      rw [hds]
      exact (ih others).cons c

theorem tripledBody_of_trailing (hquote : isTrailing quote = false) (h : Trailing cs) :
    tripledBody quote cs = none := by
  induction cs with
  | nil => rfl
  | cons c cs ih =>
    obtain ⟨hc, hcs⟩ := trailing_cons.1 h
    have hne : (c == quote) = false := beq_of_isTrailing hc hquote
    rw [tripledBody, hne, ih hcs]
    rfl

theorem take_two_beq (quote : Char) (cs : List Char) :
    (cs.take 2 == [quote, quote]) = [quote, quote].isPrefixOf cs := by
  match cs with
  | [] => simp
  | [c] => simp [List.isPrefixOf]
  | c :: d :: cs =>
    rw [Bool.eq_iff_iff]
    simp only [List.take_succ_cons, List.take_zero, beq_iff_eq, List.cons.injEq, and_true,
      List.isPrefixOf, Bool.and_eq_true]
    exact and_congr eq_comm eq_comm

theorem tripledBody_follows (hback : Trailing back) (hquote : isTrailing quote = false)
    (h : Cut back rest cs ds) : Follows back rest (tripledBody quote cs) (tripledBody quote ds) := by
  have hquotes : ∀ c ∈ [quote, quote], isTrailing c = false := by simpa using hquote
  fun_induction tripledBody quote cs generalizing ds with
  | case1 => exact .none _
  | case2 c cs hc =>
    obtain ⟨hc, htake⟩ := Bool.and_eq_true_iff.1 hc
    obtain rfl := eq_of_beq hc
    obtain ⟨ds₁, rfl, h₁⟩ := h.cons_left hback hquote
    rw [take_two_beq] at htake
    obtain ⟨hstarts, hdrop⟩ := h₁.isPrefixOf hback hquotes
    simp only [tripledBody, take_two_beq, ← hstarts, htake, hc, Bool.and_self, if_true]
    exact .some [] (hdrop htake)
  | case3 c cs hc ih =>
    cases h with
    | here =>
      rw [tripledBody_of_trailing hquote (trailing_cons.1 hback).2]
      exact .none _
    | @cons _ _ ds others =>
      rw [take_two_beq, (others.isPrefixOf hback hquotes).1, ← take_two_beq] at hc
      rw [tripledBody, if_neg hc]
      exact (ih others).cons c

/-! ## Texts with backslashes -/

/-- What is read off the first of two texts is read off the second one too, or nothing but blanks
and semicolons is left. -/
def FollowsOrEnds {α : Type} (back rest : List Char) (x y : Option (α × List Char)) : Prop :=
  ∀ a after, x = some (a, after) →
    (∃ after', y = some (a, after') ∧ Cut back rest after after') ∨ Trailing after

theorem Follows.orEnds {α : Type} {x y : Option (α × List Char)} (h : Follows back rest x y) :
    FollowsOrEnds back rest x y :=
  fun a after hx => .inl (h a after hx)

theorem codedChar?_follows (hback : Trailing back) (h : Cut back rest cs ds) (n : Nat) :
    FollowsOrEnds back rest (codedChar? n cs) (codedChar? n ds) := by
  intro d after hx
  unfold codedChar? at hx ⊢
  dsimp only at hx ⊢
  split at hx
  · cases hx
  · obtain ⟨c, hc, hx⟩ := Option.bind_eq_some_iff.1 hx
    split at hx
    · cases hx
    · rename_i hzero
      cases hx
      refine (h.take hback n).imp (fun hcut => ?_) fun htrailing => htrailing
      obtain ⟨htake, -, hds, hdrop⟩ := hcut
      rw [htake] at hc
      refine ⟨ds.drop n, ?_, hdrop⟩
      rw [if_neg (Nat.not_lt.2 hds), hc, Option.bind_some, if_neg hzero]

/-- The digits at the start of a text end at the cut. -/
theorem digits_cut (hback : Trailing back) (h : Cut back rest cs ds) {base : Nat}
    (hbase : base ∈ [8, 16]) (n : Nat) : digits base n cs = digits base n ds ∧
      Cut back rest (cs.drop (digits base n cs).length) (ds.drop (digits base n cs).length) := by
  unfold digits
  induction n generalizing cs ds with
  | zero => exact ⟨rfl, h⟩
  | succ n ih =>
    cases h with
    | here =>
      have hnone : ∀ cs, Trailing cs → (cs.take (n + 1)).takeWhile (fun c =>
          (Text.digit? base c).isSome) = [] := by
        rintro (_ | ⟨c, cs⟩) hcs
        · rfl
        · have hc := (breaks_of_isTrailing (trailing_cons.1 hcs).1).based base hbase
          simp [hc]
      have hspace := (breaks_of_isTrailing (c := ' ') (by decide)).based base hbase
      rw [hnone back hback]
      simp only [List.take_succ_cons, List.takeWhile_cons, hspace]
      exact ⟨rfl, .here⟩
    | cons c others =>
      simp only [List.take_succ_cons, List.takeWhile_cons]
      split
      · obtain ⟨hdigits, hdrop⟩ := ih others
        exact ⟨congrArg _ hdigits, hdrop⟩
      · exact ⟨rfl, .cons c others⟩

theorem codedChar?_suffix {n : Nat} {d : Char} {after : List Char}
    (h : codedChar? n cs = some (d, after)) : after = cs.drop n := by
  unfold codedChar? at h
  dsimp only at h
  split at h
  · cases h
  · obtain ⟨c, -, h⟩ := Option.bind_eq_some_iff.1 h
    split at h
    · cases h
    · cases h
      rfl

theorem escapedChar?_suffix {d : Char} {after : List Char} (h : escapedChar? cs = some (d, after)) :
    ∃ n, after = cs.drop n := by
  unfold escapedChar? at h
  split at h
  · cases h
  · cases h; exact ⟨1, rfl⟩
  · cases h; exact ⟨1, rfl⟩
  · cases h; exact ⟨1, rfl⟩
  · cases h; exact ⟨1, rfl⟩
  · cases h; exact ⟨1, rfl⟩
  · exact ⟨5, by rw [codedChar?_suffix h]; rfl⟩
  · exact ⟨9, by rw [codedChar?_suffix h]; rfl⟩
  · split at h
    · cases h; exact ⟨1, rfl⟩
    · obtain ⟨c, -, h⟩ := Option.map_eq_some_iff.1 h
      cases h
      exact ⟨_ + 1, rfl⟩
  · split at h
    · split at h
      · cases h
      · cases h; exact ⟨1, rfl⟩
    · obtain ⟨c, -, h⟩ := Option.map_eq_some_iff.1 h
      cases h
      exact ⟨_, rfl⟩

theorem escapedChar?_x (cs : List Char) : escapedChar? ('x' :: cs) =
    if (digits 16 2 cs).isEmpty then some ('x', cs)
    else (byteChar? (Text.ofDigits? 16 0 (digits 16 2 cs))).map fun d =>
      (d, cs.drop (digits 16 2 cs).length) := by
  simp only [escapedChar?]
  cases digits 16 2 cs <;> rfl

/-- The characters that have a meaning of their own behind a backslash. -/
def escapeLetters : List Char :=
  ['b', 'f', 'n', 'r', 't', 'u', 'U', 'x']

theorem escapedChar?_other (hc : c ∉ escapeLetters) : escapedChar? (c :: cs) =
    if (digits 8 3 (c :: cs)).isEmpty then if c == '\x00' then none else some (c, cs)
    else (byteChar? (Text.ofDigits? 8 0 (digits 8 3 (c :: cs)))).map fun d =>
      (d, (c :: cs).drop (digits 8 3 (c :: cs)).length) := by
  unfold escapedChar?
  split
  case h_1 heq => cases heq
  case h_10 heq =>
    cases heq
    cases digits 8 3 (c :: cs) <;> rfl
  all_goals
    rename_i heq
    cases heq
    exact absurd (by decide) hc

/-- A byte that is written in digits. -/
theorem byteChar?_follows (hback : Trailing back) (h : Cut back rest cs ds) {base : Nat}
    (hbase : base ∈ [8, 16]) (n : Nat) : FollowsOrEnds back rest
      ((byteChar? (Text.ofDigits? base 0 (digits base n cs))).map fun d =>
        (d, cs.drop (digits base n cs).length))
      ((byteChar? (Text.ofDigits? base 0 (digits base n ds))).map fun d =>
        (d, ds.drop (digits base n ds).length)) := by
  intro d after hx
  obtain ⟨hdigits, hdrop⟩ := digits_cut hback h hbase n
  obtain ⟨d', hd, hx⟩ := Option.map_eq_some_iff.1 hx
  cases hx
  rw [hdigits] at hd hdrop
  rw [hd, hdigits]
  exact .inl ⟨_, rfl, hdrop⟩

theorem escapedChar?_follows (hback : Trailing back) (h : Cut back rest cs ds) :
    FollowsOrEnds back rest (escapedChar? cs) (escapedChar? ds) := by
  cases h with
  | here =>
    intro d after hx
    obtain ⟨n, rfl⟩ := escapedChar?_suffix hx
    exact .inr (hback.drop n)
  | @cons c cs ds others =>
    have hsome : ∀ d : Char, FollowsOrEnds back rest (some (d, cs)) (some (d, ds)) := fun d =>
      (Follows.some d others).orEnds
    by_cases hc : c ∈ escapeLetters
    · simp only [escapeLetters, List.mem_cons, List.not_mem_nil, or_false] at hc
      obtain rfl | rfl | rfl | rfl | rfl | rfl | rfl | rfl := hc
      · exact hsome _
      · exact hsome _
      · exact hsome _
      · exact hsome _
      · exact hsome _
      · exact codedChar?_follows hback others 4
      · exact codedChar?_follows hback others 8
      · have hdigits : digits 16 2 cs = digits 16 2 ds := (digits_cut hback others (by decide) 2).1
        rw [escapedChar?_x, escapedChar?_x]
        by_cases hempty : (digits 16 2 cs).isEmpty = true
        · rw [if_pos hempty, if_pos (hdigits ▸ hempty)]
          exact hsome _
        · rw [if_neg hempty, if_neg (hdigits ▸ hempty)]
          exact byteChar?_follows hback others (by decide) 2
    · have hcut : Cut back rest (c :: cs) (c :: ds) := .cons c others
      have hdigits : digits 8 3 (c :: cs) = digits 8 3 (c :: ds) :=
        (digits_cut hback hcut (by decide) 3).1
      rw [escapedChar?_other hc, escapedChar?_other hc]
      by_cases hempty : (digits 8 3 (c :: cs)).isEmpty = true
      · have hempty' : (digits 8 3 (c :: ds)).isEmpty = true := hdigits ▸ hempty
        rw [if_pos hempty, if_pos hempty']
        split
        · exact (Follows.none _).orEnds
        · exact hsome _
      · have hempty' : ¬ (digits 8 3 (c :: ds)).isEmpty = true := hdigits ▸ hempty
        rw [if_neg hempty, if_neg hempty']
        exact byteChar?_follows hback hcut (by decide) 3

/-- What is left behind a cut is as long as before, whatever is read in front of it. -/
theorem Cut.length_lt {mid mid' : List Char} {n : Nat} (h : Cut back rest cs ds)
    (hmid : Cut back rest mid mid') (hle : mid.length ≤ cs.length) (hn : ds.length < n) :
    mid'.length < n := by
  have hcs := h.length_eq
  have hmid := hmid.length_eq
  omega

theorem hexadecimal_follows (hback : Trailing back) (h : Cut back rest cs ds) (n : Nat) :
    FollowsOrEnds back rest (unicodeChar?.hexadecimal n cs) (unicodeChar?.hexadecimal n ds) := by
  intro d after hx
  unfold unicodeChar?.hexadecimal at hx ⊢
  split at hx
  · cases hx
  · obtain ⟨c, hc, hx⟩ := Option.map_eq_some_iff.1 hx
    cases hx
    refine (h.take hback n).imp (fun hcut => ?_) fun htrailing => htrailing
    obtain ⟨htake, -, hds, hdrop⟩ := hcut
    refine ⟨ds.drop n, ?_, hdrop⟩
    rw [if_neg (Nat.not_lt.2 hds), ← htake, hc]
    rfl

theorem hexadecimal_suffix {n : Nat} {d : Char} {after : List Char}
    (h : unicodeChar?.hexadecimal n cs = some (d, after)) : after = cs.drop n := by
  unfold unicodeChar?.hexadecimal at h
  split at h
  · cases h
  · obtain ⟨c, -, h⟩ := Option.map_eq_some_iff.1 h
    cases h
    rfl

theorem unicodeChar?_suffix {d : Char} {after : List Char}
    (h : unicodeChar? cs = some (d, after)) : ∃ n, after = cs.drop n := by
  unfold unicodeChar? at h
  split at h
  · cases h
    exact ⟨1, rfl⟩
  · exact ⟨7, by rw [hexadecimal_suffix h]; rfl⟩
  · exact ⟨4, hexadecimal_suffix h⟩

theorem unicodeChar?_follows (hback : Trailing back) (h : Cut back rest cs ds) :
    FollowsOrEnds back rest (unicodeChar? cs) (unicodeChar? ds) := by
  unfold unicodeChar?
  split
  · obtain ⟨ds', rfl, others⟩ := h.cons_left hback (by decide)
    exact (Follows.some _ others).orEnds
  · obtain ⟨ds', rfl, others⟩ := h.cons_left hback (by decide)
    exact hexadecimal_follows hback others 6
  · rename_i hslash hplus
    split
    · obtain ⟨cs', rfl, -⟩ := h.cons_right (by decide)
      exact absurd rfl (hslash cs')
    · obtain ⟨cs', rfl, -⟩ := h.cons_right (by decide)
      exact absurd rfl (hplus cs')
    · exact hexadecimal_follows hback h 4

/-- Reads a text of at most `n` characters in which backslashes stand before what `decode` reads. -/
def codedUpTo (decode : List Char → Option (Char × List Char)) : Nat → List Char → Literal.Body
  | 0, _ => none
  | _ + 1, [] => none
  | n + 1, c :: cs =>
    if c == '\'' then
      if cs.head? == some '\'' then (codedUpTo decode n (cs.drop 1)).cons c else some ([], cs)
    else if c == '\\' then (decode cs).bind fun (d, after) => (codedUpTo decode n after).cons d
    else (codedUpTo decode n cs).cons c

theorem escapedUpTo_eq (n : Nat) (cs : List Char) :
    escapedUpTo n cs = codedUpTo escapedChar? n cs := by
  induction n generalizing cs with
  | zero => rfl
  | succ n ih => cases cs <;> simp only [escapedUpTo, codedUpTo, ih]

theorem unicodeUpTo_eq (n : Nat) (cs : List Char) :
    unicodeUpTo n cs = codedUpTo unicodeChar? n cs := by
  induction n generalizing cs with
  | zero => rfl
  | succ n ih => cases cs <;> simp only [unicodeUpTo, codedUpTo, ih]

section

variable {decode : List Char → Option (Char × List Char)}

theorem codedUpTo_of_trailing (h : Trailing cs) (n : Nat) : codedUpTo decode n cs = none := by
  induction n generalizing cs with
  | zero => rfl
  | succ n ih =>
    cases cs with
    | nil => rfl
    | cons c cs =>
      obtain ⟨hc, hcs⟩ := trailing_cons.1 h
      have hquote : (c == '\'') = false := beq_of_isTrailing hc (by decide)
      have hslash : (c == '\\') = false := beq_of_isTrailing hc (by decide)
      simp [codedUpTo, hquote, hslash, ih hcs, Literal.Body.cons]

/-- A code that is read over the cut leaves no quote that closes the text. -/
theorem codedUpTo_follows (hback : Trailing back)
    (hsuffix : ∀ {cs d after}, decode cs = some (d, after) → ∃ n, after = cs.drop n)
    (hdecode : ∀ {cs ds}, Cut back rest cs ds → FollowsOrEnds back rest (decode cs) (decode ds))
    (h : Cut back rest cs ds) {n m : Nat} (hm : ds.length < m) :
    Follows back rest (codedUpTo decode n cs) (codedUpTo decode m ds) := by
  induction n generalizing cs ds m with
  | zero => exact .none _
  | succ n ih =>
    obtain ⟨m, rfl⟩ := Nat.exists_eq_succ_of_ne_zero (Nat.ne_zero_of_lt hm)
    cases cs with
    | nil => exact .none _
    | cons c cs =>
      cases h with
      | here =>
        rw [codedUpTo_of_trailing hback]
        exact .none _
      | @cons _ _ ds others =>
        have hlength : ds.length < m := Nat.lt_of_succ_lt_succ hm
        simp only [codedUpTo, others.head?_beq hback (c := '\'') (by decide)]
        split
        · split
          · rename_i hhead
            obtain ⟨ds', rfl⟩ := List.head?_eq_some_iff.1 (eq_of_beq hhead)
            obtain ⟨cs', rfl, others'⟩ := others.cons_right (by decide)
            exact (ih others' (Nat.lt_of_succ_lt hlength)).cons c
          · exact .some [] others
        · split
          · intro text after hx
            obtain ⟨⟨d, mid⟩, hd, hx⟩ := Option.bind_eq_some_iff.1 hx
            obtain ⟨mid', hd', hmid⟩ | htrailing := hdecode others d mid hd
            · obtain ⟨k, rfl⟩ := hsuffix hd
              have hmid' := others.length_lt hmid (by simp) hlength
              obtain ⟨after', hy, hcut⟩ := (ih hmid hmid').cons d text after hx
              exact ⟨after', Option.bind_eq_some_iff.2 ⟨_, hd', hy⟩, hcut⟩
            · dsimp only at hx
              rw [codedUpTo_of_trailing htrailing] at hx
              cases hx
          · exact (ih others hlength).cons c

end

theorem escapedBody_follows (hback : Trailing back) (h : Cut back rest cs ds) :
    Follows back rest (escapedBody cs) (escapedBody ds) := by
  simp only [escapedBody, escapedUpTo_eq]
  exact codedUpTo_follows hback escapedChar?_suffix (escapedChar?_follows hback) h
    (Nat.lt_succ_self _)

theorem unicodeBody_follows (hback : Trailing back) (h : Cut back rest cs ds) :
    Follows back rest (unicodeBody cs) (unicodeBody ds) := by
  simp only [unicodeBody, unicodeUpTo_eq]
  exact codedUpTo_follows hback unicodeChar?_suffix (unicodeChar?_follows hback) h
    (Nat.lt_succ_self _)

/-! ## Texts between dollar signs -/

theorem dollarBody_other (h : (c == '$' && cs.head? == some '$') = false) :
    dollarBody (c :: cs) = (dollarBody cs).cons c := by
  cases cs <;> simp_all [dollarBody, Literal.Body.cons]

theorem dollarBody_of_trailing (h : Trailing cs) : dollarBody cs = none := by
  induction cs with
  | nil => rfl
  | cons c cs ih =>
    obtain ⟨hc, hcs⟩ := trailing_cons.1 h
    have hdollar : (c == '$') = false := beq_of_isTrailing hc (by decide)
    rw [dollarBody_other (by simp [hdollar]), ih hcs]
    rfl

theorem dollarBody_follows (hback : Trailing back) (h : Cut back rest cs ds) :
    Follows back rest (dollarBody cs) (dollarBody ds) := by
  fun_induction dollarBody cs generalizing ds with
  | case1 => exact .none _
  | case2 => exact .none _
  | case3 c d cs hc =>
    obtain ⟨hc, hd⟩ := Bool.and_eq_true_iff.1 hc
    obtain rfl := eq_of_beq hc
    obtain rfl := eq_of_beq hd
    obtain ⟨ds₁, rfl, h₁⟩ := h.cons_left hback (by decide)
    obtain ⟨ds₂, rfl, h₂⟩ := h₁.cons_left hback (by decide)
    exact .some [] h₂
  | case4 c d cs hc ih =>
    cases h with
    | here =>
      rw [dollarBody_of_trailing (trailing_cons.1 hback).2]
      exact .none _
    | @cons _ _ ds others =>
      have hds : dollarBody (c :: ds) = (dollarBody ds).cons c := by
        refine dollarBody_other ?_
        rw [← others.head?_beq hback (by decide)]
        simpa using hc
      rw [hds]
      exact (ih others).cons c

/-- A tag is compared up to the cut, or nothing but blanks and semicolons is left. -/
theorem tagPart_cut (hback : Trailing back) (h : Cut back rest cs ds) (tag : List Char) :
    (tagPart tag cs = tagPart tag ds ∧ Cut back rest (cs.drop (tagPart tag cs).length)
      (ds.drop (tagPart tag cs).length)) ∨ Trailing (cs.drop (tagPart tag cs).length) := by
  induction tag generalizing cs ds with
  | nil =>
    have hnil : ∀ cs, tagPart [] cs = [] := by
      rintro (_ | _) <;> rfl
    rw [hnil, hnil]
    exact .inl ⟨rfl, h⟩
  | cons t tag ih =>
    cases h with
    | here => exact .inr (hback.drop _)
    | cons c others =>
      simp only [tagPart]
      split
      · exact (ih others).imp (fun hcut => ⟨congrArg _ hcut.1, hcut.2⟩) fun htrailing => htrailing
      · exact .inl ⟨rfl, others⟩

theorem taggedUpTo_of_trailing {tag : List Char} (h : Trailing cs) (n : Nat) :
    taggedUpTo tag n cs = none := by
  induction n generalizing cs with
  | zero => rfl
  | succ n ih =>
    cases cs with
    | nil => rfl
    | cons c cs =>
      obtain ⟨hc, hcs⟩ := trailing_cons.1 h
      have hdollar : (c == '$') = false := beq_of_isTrailing hc (by decide)
      simp [taggedUpTo, hdollar, ih hcs, Literal.Body.cons]

theorem taggedUpTo_follows (hback : Trailing back) (h : Cut back rest cs ds) {tag : List Char}
    {n m : Nat} (hm : ds.length < m) :
    Follows back rest (taggedUpTo tag n cs) (taggedUpTo tag m ds) := by
  induction n generalizing cs ds m with
  | zero => exact .none _
  | succ n ih =>
    obtain ⟨m, rfl⟩ := Nat.exists_eq_succ_of_ne_zero (Nat.ne_zero_of_lt hm)
    cases cs with
    | nil => exact .none _
    | cons c cs =>
      cases h with
      | here =>
        rw [taggedUpTo_of_trailing hback]
        exact .none _
      | @cons _ _ ds others =>
        have hlength : ds.length < m := Nat.lt_of_succ_lt_succ hm
        simp only [taggedUpTo]
        split
        · obtain ⟨hpart, hdrop⟩ | htrailing := tagPart_cut hback others tag
          · rw [← hpart, ← hdrop.head?_beq hback (by decide)]
            split
            · rename_i hclose
              obtain ⟨cs', hcs'⟩ :=
                List.head?_eq_some_iff.1 (eq_of_beq (Bool.and_eq_true_iff.1 hclose).2)
              rw [hcs'] at hdrop ⊢
              obtain ⟨ds', hds', others'⟩ := hdrop.cons_left hback (by decide)
              rw [hds']
              exact .some [] others'
            · exact (ih hdrop (others.length_lt hdrop (by simp) hlength)).map _
          · rw [taggedUpTo_of_trailing htrailing]
            rw [htrailing.head?_beq (by decide), Bool.and_false, if_neg (by decide)]
            exact .none _
        · exact (ih others hlength).cons c

theorem taggedBody_follows (hback : Trailing back) (h : Cut back rest cs ds) (tag : List Char) :
    Follows back rest (taggedBody tag cs) (taggedBody tag ds) :=
  taggedUpTo_follows hback h (Nat.lt_succ_self _)

end

end MatView.Sql
