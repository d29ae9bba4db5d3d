import Mathlib.Data.List.Find
import Mathlib.Data.List.TakeWhile
import MatView.Proofs.Sql.Cut

/-!
# Tokens up to a cut

A text ends in blanks and semicolons, which are cut off. Each token in front of the cut is the same
one if a blank and anything else is put behind it. There are two exceptions: a line comment that the
cut leaves open, and a number sign or an at sign directly before the cut, which makes a name with the
character behind it unless this is a space.

## Main definitions

* `Agree`: what is read off two texts with a cut is the same, and they still agree up to the cut.
* `CommentReaches`, `WordReaches`, `Crosses`: the exceptions.
* `ReadsTo`: tokens that are read in front of a cut, whatever comes behind it.

## Main statements

* `step_follows`: a step in front of the cut.
* `exists_readsTo`: a text is read up to the cut, or up to an exception.
* `Crosses.read`: what is read over the cut.
* `semicolons_of_trailing`: the tokens of what is cut off.
-/

namespace MatView.Sql

open Lexer Literal
open Unicode (isBlank)

section

variable {back rest cs ds : List Char} {c : Char}

/-! ## Words, numbers and symbols -/

/-- What is read is the same, and behind it the texts still agree up to the cut. -/
def Agree {α : Type} (back rest : List Char) (x y : α × List Char) : Prop :=
  x.1 = y.1 ∧ Cut back rest x.2 y.2

theorem Agree.follows {α : Type} {x y : α × List Char} (h : Agree back rest x y) :
    Follows back rest (some x) (some y) := by
  obtain ⟨a, cs⟩ := x
  obtain ⟨b, ds⟩ := y
  obtain ⟨rfl, hcut⟩ := h
  exact .some a hcut

theorem word_agree (hback : Trailing back) (h : Cut back rest cs ds) (start : List Char) :
    Agree back rest (word start cs) (word start ds) := by
  obtain ⟨htake, hdrop⟩ := h.takeWhile hback fun c hc => (breaks_of_isTrailing hc).word
  exact ⟨by rw [word, word, htake], hdrop⟩

theorem fraction_agree (hback : Trailing back) (h : Cut back rest cs ds) :
    Agree back rest (fraction cs) (fraction ds) := by
  unfold fraction
  split
  · obtain ⟨ds₁, rfl, h₁⟩ := h.cons_left hback (by decide)
    obtain ⟨htake, hdrop⟩ := h₁.takeWhile hback fun c hc => (breaks_of_isTrailing hc).digit
    refine ⟨?_, hdrop⟩
    show '.' :: _ = '.' :: _
    rw [htake]
  · rename_i hpoint
    split
    · obtain ⟨cs₁, rfl, -⟩ := h.cons_right (by decide)
      exact absurd rfl (hpoint cs₁)
    · exact ⟨rfl, h⟩

/-- The sign at the start of a text. -/
theorem sign_cut (hback : Trailing back) (h : Cut back rest cs ds) :
    (cs.take 1).filter (fun c => c == '+' || c == '-') =
        (ds.take 1).filter (fun c => c == '+' || c == '-') ∧
      Cut back rest (cs.drop ((cs.take 1).filter fun c => c == '+' || c == '-').length)
        (ds.drop ((cs.take 1).filter fun c => c == '+' || c == '-').length) := by
  cases h with
  | here =>
    have hnone : (back.take 1).filter (fun c => c == '+' || c == '-') = [] := by
      cases back with
      | nil => rfl
      | cons b bs =>
        have hb := (trailing_cons.1 hback).1
        have hplus : (b == '+') = false := beq_of_isTrailing hb (by decide)
        have hminus : (b == '-') = false := beq_of_isTrailing hb (by decide)
        simp [hplus, hminus]
    rw [hnone]
    exact ⟨rfl, .here⟩
  | cons c others =>
    cases hc : (c == '+' || c == '-') with
    | true =>
      simp only [List.take_succ_cons, List.take_zero, List.filter_cons, hc]
      exact ⟨trivial, others⟩
    | false =>
      simp only [List.take_succ_cons, List.take_zero, List.filter_cons, hc]
      exact ⟨trivial, .cons c others⟩

theorem exponent_agree (hback : Trailing back) (h : Cut back rest cs ds) :
    Agree back rest (exponent cs) (exponent ds) := by
  cases h with
  | here =>
    have hnone : exponent back = ([], back) := by
      cases back with
      | nil => rfl
      | cons b bs =>
        have hb := (trailing_cons.1 hback).1
        have hlower : (b == 'e') = false := beq_of_isTrailing hb (by decide)
        have hupper : (b == 'E') = false := beq_of_isTrailing hb (by decide)
        simp [exponent, hlower, hupper]
    rw [hnone]
    exact ⟨rfl, .here⟩
  | @cons e cs ds others =>
    obtain ⟨hsign, hdrop⟩ := sign_cut hback others
    obtain ⟨htake, hrest⟩ := hdrop.takeWhile hback fun c hc =>
      (breaks_of_isTrailing hc).digit
    simp only [exponent, ← hsign, ← htake]
    split
    · split
      · exact ⟨rfl, .cons e others⟩
      · exact ⟨rfl, hrest⟩
    · exact ⟨rfl, .cons e others⟩

theorem decimal_agree (hback : Trailing back) (h : Cut back rest cs ds) :
    Agree back rest (decimal cs) (decimal ds) := by
  obtain ⟨hwhole, hcut⟩ := h.takeWhile hback fun c hc => (breaks_of_isTrailing hc).digit
  have hfraction := fraction_agree hback hcut
  simp only [decimal, ← hwhole]
  revert hfraction
  rcases fraction (cs.dropWhile Char.isDigit) with ⟨part, mid⟩
  rcases fraction (ds.dropWhile Char.isDigit) with ⟨part', mid'⟩
  rintro ⟨rfl, hmid⟩
  have hexponent := exponent_agree hback hmid
  dsimp only at hmid hexponent ⊢
  split
  · exact ⟨rfl, hmid⟩
  · revert hexponent
    rcases exponent mid with ⟨power, behind⟩
    rcases exponent mid' with ⟨power', behind'⟩
    rintro ⟨rfl, hbehind⟩
    dsimp only at hbehind ⊢
    split
    · obtain ⟨ds₁, rfl, h₁⟩ := hbehind.cons_left hback (by decide)
      exact ⟨rfl, h₁⟩
    · rename_i hlong
      split
      · obtain ⟨cs₁, rfl, -⟩ := hbehind.cons_right (by decide)
        exact absurd rfl (hlong cs₁)
      · exact ⟨rfl, hbehind⟩

theorem drop_takeWhile (p : Char → Bool) (cs : List Char) :
    cs.drop (cs.takeWhile p).length = cs.dropWhile p := by
  induction cs with
  | nil => rfl
  | cons c cs ih => by_cases hc : p c = true <;> simp [hc, ih]

theorem number_agree (hback : Trailing back) (h : Cut back rest cs ds) :
    Agree back rest (number cs) (number ds) := by
  unfold number
  split
  · obtain ⟨ds₁, rfl, h₁⟩ := h.cons_left hback (by decide)
    obtain ⟨ds₂, rfl, h₂⟩ := h₁.cons_left hback (by decide)
    obtain ⟨htake, hdrop⟩ := h₂.takeWhile (p := fun c => (Text.digit? 16 c).isSome) hback
      fun c hc => by simp [(breaks_of_isTrailing hc).based 16 (by decide)]
    simp only [drop_takeWhile]
    rw [htake]
    exact ⟨rfl, hdrop⟩
  · rename_i hhex
    split
    · obtain ⟨cs₁, rfl, h₁⟩ := h.cons_right (by decide)
      obtain ⟨cs₂, rfl, -⟩ := h₁.cons_right (by decide)
      exact absurd rfl (hhex cs₂)
    · exact decimal_agree hback h

/-- The longest symbol at the start of a text ends at the cut. -/
theorem symbol_agree (hback : Trailing back) (h : Cut back rest cs ds) (c : Char) :
    Agree back rest (Lexer.symbol c cs) (Lexer.symbol c ds) := by
  have hstarts : ∀ s ∈ longSymbols, s.toList.isPrefixOf (c :: cs) = s.toList.isPrefixOf (c :: ds) ∧
      (s.toList.isPrefixOf (c :: cs) = true →
        Cut back rest ((c :: cs).drop s.toList.length) ((c :: ds).drop s.toList.length)) := by
    intro s hs
    refine (Cut.cons c h).isPrefixOf hback fun d hd => ?_
    cases hd' : isTrailing d with
    | false => rfl
    | true => exact absurd hd ((breaks_of_isTrailing hd').symbol s hs)
  have hfind : longSymbols.find? (fun s => s.toList.isPrefixOf (c :: cs)) =
      longSymbols.find? fun s => s.toList.isPrefixOf (c :: ds) :=
    List.find?_congr fun s hs => (hstarts s hs).1
  simp only [Lexer.symbol, ← hfind]
  split
  · rename_i found hfound
    have hdrop := (hstarts found (List.mem_of_find?_eq_some hfound)).2
      (by simpa using List.find?_some hfound)
    rw [String.length_toList] at hdrop
    exact ⟨rfl, hdrop⟩
  · exact ⟨rfl, h⟩

/-! ## Constants and comments -/

theorem constant_follows {body body' : Literal.Body} (h : Follows back rest body body') (mark : Mark) :
    Follows back rest (Lexer.constant mark body) (Lexer.constant mark body') :=
  h.map fun text => (some (.constant mark (String.ofList text)) : Option Token)

theorem Cut.exists_cons (h : Cut back rest cs ds) : ∃ d ds', ds = d :: ds' := by
  cases h with
  | here => exact ⟨_, _, rfl⟩
  | cons c _ => exact ⟨_, _, rfl⟩

theorem raw_follows (hback : Trailing back) (h : Cut back rest cs ds) {quote : Char}
    (hquote : isTrailing quote = false) :
    Follows back rest (raw quote cs) (raw quote ds) := by
  have hempty : ∀ {cs ds}, Cut back rest cs ds → (cs.head? == some quote) = false →
      Follows back rest (some (some (.constant (.letter 'R' quote.toString) ""), cs))
        (raw quote (quote :: ds)) := by
    intro cs ds h hcs
    obtain ⟨d, ds, rfl⟩ := h.exists_cons
    have hd : (d == quote) = false := by
      simpa using (h.head?_beq hback hquote).symm.trans hcs
    have hraw : raw quote (quote :: d :: ds) =
        some (some (.constant (.letter 'R' quote.toString) ""), d :: ds) := by
      simp [raw, hd]
    rw [hraw]
    exact .some _ h
  fun_cases raw quote cs with
  | case1 a b cs hquotes quotes =>
    obtain ⟨ha, hb⟩ := Bool.and_eq_true_iff.1 hquotes
    obtain rfl := eq_of_beq ha
    obtain rfl := eq_of_beq hb
    obtain ⟨ds₁, rfl, h₁⟩ := h.cons_left hback hquote
    obtain ⟨ds₂, rfl, h₂⟩ := h₁.cons_left hback hquote
    simp only [raw, BEq.rfl, Bool.and_self, if_true]
    exact constant_follows (tripledBody_follows hback hquote h₂) _
  | case2 a b cs hquotes ha =>
    obtain rfl := eq_of_beq ha
    obtain ⟨ds₁, rfl, h₁⟩ := h.cons_left hback hquote
    exact hempty h₁ (by simpa using hquotes)
  | case3 a b cs hquotes ha =>
    cases h with
    | here =>
      rw [quotedBody_of_trailing hquote hback]
      exact .none _
    | @cons _ _ ds others =>
      obtain ⟨d, ds, rfl⟩ := others.exists_cons
      have hraw : raw quote (a :: d :: ds) =
          Lexer.constant (.letter 'R' quote.toString) (quotedBody quote (a :: d :: ds)) := by
        simp [raw, ha]
      rw [hraw]
      exact constant_follows (quotedBody_follows hback hquote (.cons a others)) _
  | case4 a ha =>
    obtain rfl := eq_of_beq ha
    obtain ⟨ds₁, rfl, h₁⟩ := h.cons_left hback hquote
    exact hempty h₁ rfl
  | case5 a ha => exact .none _
  | case6 => exact .none _

/-- A letter and a quote start the same constant. -/
theorem marked?_follows (hback : Trailing back) (h : Cut back rest cs ds) (letter : Char) :
    (marked? letter cs = none ∧ marked? letter ds = none) ∨
      ∃ x y, marked? letter cs = some x ∧ marked? letter ds = some y ∧ Follows back rest x y := by
  have hquote : isTrailing '\'' = false := by decide
  have hdouble : isTrailing '"' = false := by decide
  fun_cases marked? letter cs with
  | case1 behind hletter =>
    obtain ⟨ds₁, rfl, h₁⟩ := h.cons_left hback hquote
    exact .inr ⟨_, _, rfl, by simp [marked?, hletter],
      constant_follows (quotedBody_follows hback hquote h₁) _⟩
  | case2 behind hletter =>
    obtain ⟨ds₁, rfl, h₁⟩ := h.cons_left hback hdouble
    exact .inr ⟨_, _, rfl, by simp [marked?, hletter],
      constant_follows (quotedBody_follows hback hdouble h₁) _⟩
  | case3 behind hletter =>
    obtain ⟨ds₁, rfl, h₁⟩ := h.cons_left hback hquote
    exact .inr ⟨_, _, rfl, by simp [marked?, hletter], raw_follows hback h₁ hquote⟩
  | case4 behind hletter =>
    obtain ⟨ds₁, rfl, h₁⟩ := h.cons_left hback hdouble
    exact .inr ⟨_, _, rfl, by simp [marked?, hletter], raw_follows hback h₁ hdouble⟩
  | case5 behind hletter =>
    obtain ⟨ds₁, rfl, h₁⟩ := h.cons_left hback hquote
    exact .inr ⟨_, _, rfl, by simp [marked?, hletter],
      constant_follows (slashedBody_follows hback h₁) _⟩
  | case6 behind hletter =>
    obtain ⟨ds₁, rfl, h₁⟩ := h.cons_left hback hquote
    exact .inr ⟨_, _, rfl, by simp [marked?, hletter],
      constant_follows (slashedBody_follows hback h₁) _⟩
  | case7 behind hletter =>
    obtain ⟨ds₁, rfl, h₁⟩ := h.cons_left hback hquote
    exact .inr ⟨_, _, rfl, by simp [marked?, hletter],
      constant_follows (escapedBody_follows hback h₁) _⟩
  | case8 behind hletter =>
    obtain ⟨ds₁, rfl, h₁⟩ := h.cons_left hback (by decide)
    obtain ⟨ds₂, rfl, h₂⟩ := h₁.cons_left hback hquote
    exact .inr ⟨_, _, rfl, by simp [marked?, hletter],
      constant_follows (unicodeBody_follows hback h₂) _⟩
  | case9 =>
    rename_i hb hb' hr hr' hn hx he hu
    -- a constant of the second text has its quote before the cut
    refine .inl ⟨rfl, ?_⟩
    fun_cases marked? letter ds with
    | case1 behind hletter =>
      obtain ⟨cs₁, rfl, -⟩ := h.cons_right hquote
      exact (hb cs₁ hletter rfl).elim
    | case2 behind hletter =>
      obtain ⟨cs₁, rfl, -⟩ := h.cons_right hdouble
      exact (hb' cs₁ hletter rfl).elim
    | case3 behind hletter =>
      obtain ⟨cs₁, rfl, -⟩ := h.cons_right hquote
      exact (hr cs₁ hletter rfl).elim
    | case4 behind hletter =>
      obtain ⟨cs₁, rfl, -⟩ := h.cons_right hdouble
      exact (hr' cs₁ hletter rfl).elim
    | case5 behind hletter =>
      obtain ⟨cs₁, rfl, -⟩ := h.cons_right hquote
      exact (hn cs₁ hletter rfl).elim
    | case6 behind hletter =>
      obtain ⟨cs₁, rfl, -⟩ := h.cons_right hquote
      exact (hx cs₁ hletter rfl).elim
    | case7 behind hletter =>
      obtain ⟨cs₁, rfl, -⟩ := h.cons_right hquote
      exact (he cs₁ hletter rfl).elim
    | case8 behind hletter =>
      obtain ⟨cs₁, rfl, h₁⟩ := h.cons_right (by decide)
      obtain ⟨cs₂, rfl, -⟩ := h₁.cons_right hquote
      exact (hu cs₂ hletter rfl).elim
    | case9 => rfl

/-- A comment that is closed is closed before the cut. -/
theorem behindComment_of_trailing {last : Char} (h : Trailing cs) (depth : Nat) :
    behindComment depth last cs = none := by
  induction cs generalizing depth last with
  | nil => rfl
  | cons c cs ih =>
    obtain ⟨hc, hcs⟩ := trailing_cons.1 h
    have hstar : (c == '*') = false := beq_of_isTrailing hc (by decide)
    have hslash : (c == '/') = false := beq_of_isTrailing hc (by decide)
    simp [behindComment, hstar, hslash, ih hcs]

theorem behindComment_follows (hback : Trailing back) (h : Cut back rest cs ds) (depth : Nat)
    (last : Char) {after : List Char} (hafter : behindComment depth last cs = some after) :
    ∃ after', behindComment depth last ds = some after' ∧ Cut back rest after after' := by
  induction h generalizing depth last with
  | here =>
    rw [behindComment_of_trailing hback] at hafter
    cases hafter
  | @cons c cs ds others ih =>
    simp only [behindComment] at hafter ⊢
    by_cases hopen : (last == '/' && c == '*') = true
    · rw [if_pos hopen] at hafter ⊢
      exact ih _ _ hafter
    rw [if_neg hopen] at hafter ⊢
    by_cases hclose : (last == '*' && c == '/') = true
    · rw [if_pos hclose] at hafter ⊢
      cases depth with
      | zero =>
        cases hafter
        exact ⟨ds, rfl, others⟩
      | succ outer => exact ih _ _ hafter
    rw [if_neg hclose] at hafter ⊢
    exact ih _ _ hafter

theorem dollar_follows (hback : Trailing back) (h : Cut back rest cs ds) :
    Follows back rest (dollar cs) (dollar ds) := by
  have hdollar : isTrailing '$' = false := by decide
  unfold dollar
  split
  · obtain ⟨ds₁, rfl, h₁⟩ := h.cons_left hback hdollar
    exact constant_follows (dollarBody_follows hback h₁) _
  · rename_i hplain
    split
    · obtain ⟨cs₁, rfl, -⟩ := h.cons_right hdollar
      exact absurd rfl (hplain cs₁)
    · obtain ⟨htake, hdrop⟩ := h.takeWhile hback fun c hc => (breaks_of_isTrailing hc).tag
      dsimp only
      rw [← htake]
      split
      · rename_i heq
        rw [heq] at hdrop
        obtain ⟨ds₁, hds, h₁⟩ := hdrop.cons_left hback hdollar
        rw [hds]
        exact constant_follows (taggedBody_follows hback h₁ _) _
      · rename_i htag
        split
        · rename_i heq
          rw [heq] at hdrop
          obtain ⟨cs₁, hcs, -⟩ := hdrop.cons_right hdollar
          exact absurd hcs (htag cs₁)
        · exact .some _ hdrop

/-! ## One step -/

/-- A line comment that starts with a character reaches the cut. -/
def CommentReaches (back : List Char) (c : Char) (cs : List Char) : Prop :=
  c = '-' ∧ ∃ w, cs = '-' :: w ++ back ∧ '\n' ∉ w

/-- A number sign or an at sign at the cut makes a name with what was cut off. -/
def WordReaches (back : List Char) (c : Char) (cs : List Char) : Prop :=
  ∃ d b, back = d :: b ∧ d ≠ ' ' ∧
    ((c = '#' ∨ c = '@') ∧ cs = back ∨ c = '@' ∧ cs = '@' :: back)

theorem hash_follows (hback : Trailing back) (h : Cut back rest cs ds) :
    WordReaches back '#' cs ∨ Agree back rest (Lexer.hash cs) (Lexer.hash ds) := by
  cases h with
  | here =>
    cases back with
    | nil => exact .inr (symbol_agree hback .here '#')
    | cons d b =>
      by_cases hd : d = ' '
      · subst hd
        exact .inr (symbol_agree hback .here '#')
      · exact .inl ⟨d, b, rfl, hd, .inl ⟨.inl rfl, rfl⟩⟩
  | @cons c cs ds others =>
    refine .inr ?_
    simp only [Lexer.hash]
    split
    · exact symbol_agree hback (.cons c others) '#'
    · exact word_agree hback others _

theorem atSign_follows (hback : Trailing back) (h : Cut back rest cs ds) :
    WordReaches back '@' cs ∨ Agree back rest (atSign cs) (atSign ds) := by
  have hsymbol : ∀ {cs ds}, Cut back rest cs ds →
      Agree back rest (Lexer.symbol '@' cs) (Lexer.symbol '@' ds) :=
    fun h => symbol_agree hback h '@'
  cases h with
  | here =>
    cases back with
    | nil => exact .inr (hsymbol .here)
    | cons d b =>
      by_cases hd : d = ' '
      · subst hd
        cases b <;> exact .inr (hsymbol .here)
      · exact .inl ⟨d, b, rfl, hd, .inl ⟨.inr rfl, rfl⟩⟩
  | @cons c cs ds others =>
    by_cases hat : c = '@'
    · subst hat
      cases others with
      | here =>
        cases back with
        | nil => exact .inr (hsymbol (.cons '@' .here))
        | cons d b =>
          by_cases hd : d = ' '
          · subst hd
            exact .inr (hsymbol (.cons '@' .here))
          · exact .inl ⟨d, b, rfl, hd, .inr ⟨rfl, rfl⟩⟩
      | @cons d cs ds others =>
        refine .inr ?_
        simp only [atSign]
        split
        · exact hsymbol (.cons '@' (.cons d others))
        · exact word_agree hback others _
    · refine .inr ?_
      rw [atSign_cons hat, atSign_cons hat]
      split
      · exact hsymbol (.cons c others)
      · exact word_agree hback others _

/-- A line comment ends before the cut, or reaches it. -/
theorem lineComment_follows (hback : Trailing back) (h : Cut back rest cs ds)
    (hhead : (cs.head? == some '-') = true) :
    CommentReaches back '-' cs ∨
      Cut back rest (cs.dropWhile (· != '\n')) (ds.dropWhile (· != '\n')) := by
  obtain hcut | ⟨front, rfl, hfront⟩ := h.dropWhile (· != '\n')
  · exact .inr hcut
  · cases front with
    | nil =>
      rw [List.nil_append, hback.head?_beq (by decide)] at hhead
      cases hhead
    | cons d front =>
      obtain rfl : d = '-' := by simpa using hhead
      refine .inl ⟨rfl, front, rfl, fun hmem => ?_⟩
      exact absurd (hfront _ (List.mem_cons_of_mem _ hmem)) (by decide)

/-- A comment that is opened in front of the cut is closed there. -/
theorem comment_follows (hback : Trailing back) (h : Cut back rest cs ds)
    (hhead : (cs.head? == some '*') = true) :
    Follows back rest ((behindComment 0 ' ' (cs.drop 1)).map ((none : Option Token), ·))
      ((behindComment 0 ' ' (ds.drop 1)).map ((none : Option Token), ·)) := by
  obtain ⟨cs₁, rfl⟩ := List.head?_eq_some_iff.1 (eq_of_beq hhead)
  obtain ⟨ds₁, rfl, h₁⟩ := h.cons_left hback (by decide)
  intro token? after hx
  obtain ⟨after, hafter, hx⟩ := Option.map_eq_some_iff.1 hx
  cases hx
  obtain ⟨after', hafter', hcut⟩ := behindComment_follows hback h₁ 0 ' ' hafter
  exact ⟨after', Option.map_eq_some_iff.2 ⟨_, hafter', rfl⟩, hcut⟩

/-- A step ends before the cut, or leaves the texts agreeing up to it. There are two exceptions. -/
theorem step_follows (hback : Trailing back) (h : Cut back rest cs ds) (c : Char) :
    CommentReaches back c cs ∨ WordReaches back c cs ∨
      Follows back rest (Lexer.step c cs) (Lexer.step c ds) := by
  have hagree : ∀ {x y : Lexer.Step}, Agree back rest x y →
      CommentReaches back c cs ∨ WordReaches back c cs ∨ Follows back rest (some x) (some y) :=
    fun h => .inr (.inr h.follows)
  generalize hread : Lexer.step c cs = read
  have hbranch := branch_step c cs
  rw [hread] at hbranch
  cases hbranch with
  | blank hc =>
    rw [(Branch.blank hc).step_eq]
    exact .inr (.inr (.some none h))
  | marked hblank hstart hmarked =>
    obtain ⟨hcs, -⟩ | ⟨x, y, hcs, hds, hfollows⟩ := marked?_follows hback h c
    · rw [hcs] at hmarked
      cases hmarked
    · rw [hcs, Option.some.injEq] at hmarked
      subst hmarked
      rw [(Branch.marked hblank hstart hds).step_eq]
      exact .inr (.inr hfollows)
  | word hblank hstart hmarked =>
    obtain ⟨-, hds⟩ | ⟨x, y, hcs, -⟩ := marked?_follows hback h c
    · rw [(Branch.word hblank hstart hds).step_eq]
      exact hagree (word_agree hback h [c])
    · rw [hmarked] at hcs
      cases hcs
  | quoted hc =>
    have hkept : isTrailing c = false := by obtain rfl | rfl := hc <;> decide
    rw [(Branch.quoted hc).step_eq]
    exact .inr (.inr ((quotedBody_follows hback hkept h).map fun body =>
      (some (.word ⟨String.ofList body, some c⟩) : Option Token)))
  | literal =>
    rw [(Branch.literal ds).step_eq]
    exact .inr (.inr ((quotedBody_follows hback (by decide) h).map fun body =>
      (some (.literal (String.ofList body)) : Option Token)))
  | number hc =>
    rw [(Branch.number hc).step_eq]
    exact hagree (number_agree hback (.cons c h))
  | point =>
    rw [(Branch.point ds).step_eq]
    exact hagree (number_agree hback (.cons '.' h))
  | line behind =>
    obtain ⟨ds', rfl, -⟩ := h.cons_left hback (by decide)
    rw [(Branch.line ds').step_eq]
    exact (lineComment_follows hback h rfl).imp_right fun hcut => .inr (.some none hcut)
  | comment behind =>
    obtain ⟨ds', rfl, -⟩ := h.cons_left hback (by decide)
    rw [(Branch.comment ds').step_eq]
    exact .inr (.inr (comment_follows hback h rfl))
  | dollar =>
    rw [(Branch.dollar ds).step_eq]
    exact .inr (.inr (dollar_follows hback h))
  | placeholder =>
    obtain ⟨htake, hdrop⟩ := h.takeWhile hback fun c hc => (breaks_of_isTrailing hc).number
    rw [(Branch.placeholder ds).step_eq, ← htake]
    exact .inr (.inr (.some _ hdrop))
  | hash =>
    rw [(Branch.hash ds).step_eq]
    exact .inr ((hash_follows hback h).imp_right Agree.follows)
  | atSign =>
    rw [(Branch.atSign ds).step_eq]
    exact .inr ((atSign_follows hback h).imp_right Agree.follows)
  | symbol hblank hstart hdigit hother hline hcomment =>
    -- What follows the character in front of the cut opens no comment behind it either.
    have hhead (d : Char) (hd : isTrailing d = false) (hne : cs.head? ≠ some d) :
        ds.head? ≠ some d := by
      rw [← beq_eq_false_iff_ne, ← h.head?_beq hback hd]
      exact beq_eq_false_iff_ne.2 hne
    rw [(Branch.symbol hblank hstart hdigit hother (fun hc => hhead '-' rfl (hline hc))
      fun hc => hhead '*' rfl (hcomment hc)).step_eq]
    exact hagree (symbol_agree hback h c)

end

/-! ## Runs up to the cut -/

section

variable {back front left : List Char} {stem tokens : List Token} {k n : Nat} {c : Char}
  {token? : Option Token} {cs rest after : List Char}

/-- Tokens are read off the front of a text up to `left`, whether what is behind `front` is cut off
or not. -/
def ReadsTo (back front : List Char) (k : Nat) (stem : List Token) (left : List Char) : Prop :=
  Lexes k (front ++ back) stem (left ++ back) ∧
    ∀ rest, Lexes k (front ++ ' ' :: rest) stem (left ++ ' ' :: rest)

/-- A token that starts before the cut goes on behind it. -/
def Crosses (back left : List Char) : Prop :=
  ∃ c w, left = c :: w ∧ (CommentReaches back c (w ++ back) ∨ WordReaches back c (w ++ back))

theorem ReadsTo.cons (hstep : Lexer.step c (front ++ back) = some (token?, after ++ back))
    (hcut : ∀ rest, Lexer.step c (front ++ ' ' :: rest) = some (token?, after ++ ' ' :: rest))
    (h : ReadsTo back after k stem left) :
    ReadsTo back (c :: front) (k + 1) (token?.toList ++ stem) left :=
  ⟨.step hstep h.1, fun rest => .step (hcut rest) (h.2 rest)⟩

/-- A step that crosses no cut is made in the same way whatever is put behind the cut. -/
theorem step_of_not_crosses (hback : Trailing back) (hnot : ¬ Crosses back (c :: front))
    (hstep : Lexer.step c (front ++ back) = some (token?, after)) :
    ∃ mid, after = mid ++ back ∧
      ∀ rest, Lexer.step c (front ++ ' ' :: rest) = some (token?, mid ++ ' ' :: rest) := by
  have hfollows : ∀ rest, Follows back rest (Lexer.step c (front ++ back))
      (Lexer.step c (front ++ ' ' :: rest)) := by
    intro rest
    obtain hcomment | hword | hfollows := step_follows hback (.of_append front back rest) c
    · exact absurd ⟨c, front, rfl, .inl hcomment⟩ hnot
    · exact absurd ⟨c, front, rfl, .inr hword⟩ hnot
    · exact hfollows
  obtain ⟨after', -, hcut⟩ := hfollows [] token? after hstep
  obtain ⟨mid, rfl, -⟩ := hcut.exists_front
  refine ⟨mid, rfl, fun rest => ?_⟩
  obtain ⟨after', hstep', hcut⟩ := hfollows rest token? _ hstep
  obtain ⟨mid', hmid, rfl⟩ := hcut.exists_front
  rwa [List.append_cancel_right hmid]

/-- A text is read up to the cut, or up to a token that crosses it. -/
theorem exists_readsTo (hback : Trailing back) (h : Lexes n (front ++ back) tokens []) :
    ∃ k stem left, ReadsTo back front k stem left ∧ (left = [] ∨ Crosses back left) := by
  induction n generalizing front tokens with
  | zero =>
    generalize hcs : front ++ back = cs at h
    cases h
    obtain ⟨rfl, -⟩ := List.append_eq_nil_iff.1 hcs
    exact ⟨0, [], [], ⟨.done _, fun _ => .done _⟩, .inl rfl⟩
  | succ n ih =>
    cases front with
    | nil => exact ⟨0, [], [], ⟨.done _, fun _ => .done _⟩, .inl rfl⟩
    | cons c front =>
      by_cases hcross : Crosses back (c :: front)
      · exact ⟨0, [], c :: front, ⟨.done _, fun _ => .done _⟩, .inr hcross⟩
      · cases h with
        | step hstep hothers =>
          obtain ⟨mid, rfl, hcut⟩ := step_of_not_crosses hback hcross hstep
          obtain ⟨k, stem, left, hreads, hleft⟩ := ih hothers
          exact ⟨k + 1, _, left, hreads.cons hstep hcut, hleft⟩

/-! ## Behind the cut -/

/-- Of blanks and semicolons only the semicolons are tokens. -/
theorem step_of_isTrailing (hc : isTrailing c = true)
    (hstep : Lexer.step c cs = some (token?, after)) :
    after = cs ∧ ∀ t ∈ token?, t = .symbol ";" := by
  obtain hblank | hsemicolon := Bool.or_eq_true_iff.1 hc
  · rw [Lexer.step, if_pos hblank] at hstep
    cases hstep
    exact ⟨rfl, by simp⟩
  · rw [eq_of_beq hsemicolon] at hstep
    have hfirst : Lexer.step ';' cs = some (some (.symbol ";"), cs) := rfl
    rw [hfirst] at hstep
    cases hstep
    exact ⟨rfl, by simp⟩

theorem semicolons_of_trailing (hcs : Trailing cs) (h : Lexes n cs tokens rest) :
    ∀ t ∈ tokens, t = .symbol ";" := by
  induction h with
  | done => simp
  | step hstep _ ih =>
    obtain ⟨hc, hcs⟩ := trailing_cons.1 hcs
    obtain ⟨rfl, htoken⟩ := step_of_isTrailing hc hstep
    exact List.forall_mem_append.2 ⟨fun t ht => htoken t (by simpa using ht), ih hcs⟩

/-- A line comment goes on to the end of its line. -/
theorem step_comment (cs : List Char) :
    Lexer.step '-' ('-' :: cs) = some (none, cs.dropWhile (· != '\n')) := rfl

theorem CommentReaches.read (hback : Trailing back) (h : CommentReaches back c (cs ++ back))
    (hrest : '\n' ∉ rest) : ∃ after, Trailing after ∧
      Lexer.step c (cs ++ back) = some (none, after) ∧
        Lexer.step c (cs ++ ' ' :: rest) = some (none, []) := by
  obtain ⟨rfl, w, hw, hline⟩ := h
  obtain rfl := List.append_cancel_right hw
  have hdrop : ∀ {cs : List Char}, '\n' ∉ cs → ∀ c ∈ cs, (c != '\n') = true := by
    intro cs hcs c hc
    simpa using fun h : c = '\n' => hcs (h ▸ hc)
  refine ⟨back.dropWhile (· != '\n'), fun d hd => hback d ?_, ?_, ?_⟩
  · exact (List.dropWhile_sublist _).subset hd
  · rw [List.cons_append, step_comment, List.dropWhile_append_of_pos (hdrop hline)]
  · have hall : '\n' ∉ w ++ ' ' :: rest := by simp [hline, hrest]
    rw [List.cons_append, step_comment, List.dropWhile_eq_nil_iff.2 (hdrop hall)]

/-- A number sign is the start of a name in front of anything that is cut off but a space. -/
theorem hash_of_isTrailing {d : Char} (hd : isTrailing d = true) (hspace : d ≠ ' ') (b : List Char) :
    Lexer.hash (d :: b) = word ['#', d] b := by
  have hhyphen : (d == '-') = false := beq_of_isTrailing hd (by decide)
  have hgreater : (d == '>') = false := beq_of_isTrailing hd (by decide)
  simp [Lexer.hash, hhyphen, hgreater, hspace]

theorem atSign_of_isTrailing {d : Char} (hd : isTrailing d = true) (hspace : d ≠ ' ')
    (b : List Char) : atSign (d :: b) = word ['@', d] b := by
  have hsymbols : ['>', '?', ' ', '\'', '"', backquote].all (fun e => e == ' ' || !isTrailing e) =
      true := by decide
  have hnot : d ∉ ['>', '?', ' ', '\'', '"', backquote] := fun hmem => by
    have hkept := List.all_eq_true.1 hsymbols d hmem
    simp [hd, hspace] at hkept
  rw [atSign_cons (ne_of_isTrailing hd (by decide)), List.contains_eq_mem, decide_eq_false hnot]
  rfl

/-- A number sign or an at sign is a symbol in front of a space, and the start of a name in front
of anything else that is cut off. -/
theorem WordReaches.read (hback : Trailing back) (h : WordReaches back c (cs ++ back))
    (rest : List Char) :
    ∃ name s after, s ≠ ";" ∧ Trailing after ∧
      Lexer.step c (cs ++ back) = some (some (.word name), after) ∧
        Lexer.step c (cs ++ ' ' :: rest) = some (some (.symbol s), ' ' :: rest) := by
  obtain ⟨d, b, rfl, hspace, hcs⟩ := h
  obtain ⟨hd, hb⟩ := trailing_cons.1 hback
  suffices hword : ∃ s start, s ≠ ";" ∧ Lexer.step c (cs ++ d :: b) = some (word start b) ∧
      Lexer.step c (cs ++ ' ' :: rest) = some (some (.symbol s), ' ' :: rest) by
    obtain ⟨s, start, hs, hstep, hsymbol⟩ := hword
    exact ⟨_, s, b.dropWhile isWordPart, hs,
      fun e he => hb e ((List.dropWhile_sublist _).subset he), hstep, hsymbol⟩
  obtain ⟨hc, hcs⟩ | ⟨rfl, hcs⟩ := hcs
  · obtain rfl : cs = [] := by simpa using hcs
    obtain rfl | rfl := hc
    · exact ⟨"#", ['#', d], by decide, congrArg some (hash_of_isTrailing hd hspace b), rfl⟩
    · exact ⟨"@", ['@', d], by decide, congrArg some (atSign_of_isTrailing hd hspace b), rfl⟩
  · have hcs' : cs ++ d :: b = ['@'] ++ d :: b := hcs
    obtain rfl : cs = ['@'] := List.append_cancel_right hcs'
    have hname : atSign ('@' :: d :: b) = word ['@', '@', d] b := by simp [atSign, hspace]
    exact ⟨"@@", ['@', '@', d], by decide, congrArg some hname, rfl⟩

/-- What is read over the cut: a comment, or a name where there is a symbol once it is cut. -/
theorem Crosses.read (hback : Trailing back) (h : Crosses back left) (hrest : '\n' ∉ rest) :
    (∃ after, Trailing after ∧ Lexes 1 (left ++ back) [] after ∧
      Lexes 1 (left ++ ' ' :: rest) [] []) ∨
    ∃ name s after, s ≠ ";" ∧ Trailing after ∧ Lexes 1 (left ++ back) [.word name] after ∧
      Lexes 1 (left ++ ' ' :: rest) [.symbol s] (' ' :: rest) := by
  obtain ⟨c, w, rfl, hcomment | hword⟩ := h
  · obtain ⟨after, hafter, hwhole, hcut⟩ := hcomment.read hback hrest
    exact .inl ⟨after, hafter, .step hwhole (.done _), .step hcut (.done _)⟩
  · obtain ⟨name, s, after, hs, hafter, hwhole, hcut⟩ := hword.read hback rest
    exact .inr ⟨name, s, after, hs, hafter, .step hwhole (.done _), .step hcut (.done _)⟩

end

end MatView.Sql
