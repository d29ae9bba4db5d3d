import MatView.Proofs.Sql.Cut

/-!
# What is left of a text

Whatever is read off the front of a text, the rest is an end of the text. A step of the lexer takes
at least one character, so a text has at most as many steps as characters.

## Main definitions

* `Leaves`: the rest behind what is read is an end of the text.

## Main statements

* `step_suffix`: what a step leaves.
* `Lexes.steps_le`: the number of steps.
* `tokens?_eq_some`: the tokens of a text are those that are read up to its end in any number of
  steps.
-/

namespace MatView.Sql

open Lexer Literal

/-- The rest behind what is read is an end of the text. -/
def Leaves {α : Type} (cs : List Char) (x : Option (α × List Char)) : Prop :=
  ∀ a after, x = some (a, after) → after <:+ cs

namespace Leaves

variable {α β : Type} {cs after : List Char} {x : Option (α × List Char)}

theorem none (cs : List Char) : Leaves cs (none : Option (α × List Char)) := by
  rintro a after ⟨⟩

theorem some (a : α) (h : after <:+ cs) : Leaves cs (some (a, after)) := by
  rintro b after ⟨⟩
  exact h

theorem map (h : Leaves cs x) (f : α → β) :
    Leaves cs (x.map fun (a, after) => (f a, after)) := by
  intro b after hx
  obtain ⟨⟨a, after⟩, rfl, hb⟩ := Option.map_eq_some_iff.1 hx
  cases hb
  exact h a after rfl

theorem cons {body : Literal.Body} (h : Leaves cs body) (c : Char) : Leaves cs (body.cons c) :=
  h.map _

theorem mono {ds : List Char} (h : Leaves cs x) (hcs : cs <:+ ds) : Leaves ds x :=
  fun a after hx => (h a after hx).trans hcs

theorem behind (h : Leaves cs x) (c : Char) : Leaves (c :: cs) x :=
  h.mono (List.suffix_cons c cs)

end Leaves

section

variable {quote c : Char} {cs after : List Char}

/-! ## Texts between quotes -/

theorem quotedBody_leaves (quote : Char) (cs : List Char) : Leaves cs (quotedBody quote cs) := by
  fun_induction quotedBody quote cs with
  | case1 => exact .none _
  | case2 => exact .some _ List.nil_suffix
  | case3 => exact .none _
  | case4 c d cs _ _ ih => exact ((ih.behind d).behind c).cons c
  | case5 c d cs => exact .some _ (List.suffix_cons c _)
  | case6 c d cs _ ih => exact (ih.behind c).cons c

theorem slashedBody_leaves (cs : List Char) : Leaves cs (slashedBody cs) := by
  fun_induction slashedBody cs with
  | case1 => exact .none _
  | case2 => exact .some _ List.nil_suffix
  | case3 => exact .none _
  | case4 c d cs _ _ ih => exact ((ih.behind d).behind c).cons _
  | case5 c d cs => exact .some _ (List.suffix_cons c _)
  | case6 c d cs _ _ ih => exact ((ih.behind d).behind c).cons _
  | case7 c d cs _ _ ih => exact (ih.behind c).cons _

theorem tripledBody_leaves (quote : Char) (cs : List Char) : Leaves cs (tripledBody quote cs) := by
  fun_induction tripledBody quote cs with
  | case1 => exact .none _
  | case2 c cs => exact .some _ ((List.drop_suffix 2 cs).trans (List.suffix_cons c _))
  | case3 c cs _ ih => exact (ih.behind c).cons _

theorem codedUpTo_leaves {decode : List Char → Option (Char × List Char)}
    (hdecode : ∀ {cs d after}, decode cs = some (d, after) → ∃ n, after = cs.drop n) (n : Nat)
    (cs : List Char) : Leaves cs (codedUpTo decode n cs) := by
  induction n generalizing cs with
  | zero => exact .none _
  | succ n ih =>
    cases cs with
    | nil => exact .none _
    | cons c cs =>
      simp only [codedUpTo]
      split
      · split
        · exact (((ih _).mono (List.drop_suffix 1 cs)).behind c).cons _
        · exact .some _ (List.suffix_cons c _)
      · split
        · intro text after hx
          obtain ⟨⟨d, mid⟩, hd, hx⟩ := Option.bind_eq_some_iff.1 hx
          obtain ⟨k, rfl⟩ := hdecode hd
          exact (((ih _).mono (List.drop_suffix k cs)).behind c).cons d text after hx
        · exact ((ih _).behind c).cons _

theorem escapedBody_leaves (cs : List Char) : Leaves cs (escapedBody cs) := by
  rw [escapedBody, escapedUpTo_eq]
  exact codedUpTo_leaves escapedChar?_suffix _ cs

theorem unicodeBody_leaves (cs : List Char) : Leaves cs (unicodeBody cs) := by
  rw [unicodeBody, unicodeUpTo_eq]
  exact codedUpTo_leaves unicodeChar?_suffix _ cs

/-! ## Texts between dollar signs and comments -/

theorem dollarBody_leaves (cs : List Char) : Leaves cs (dollarBody cs) := by
  fun_induction dollarBody cs with
  | case1 => exact .none _
  | case2 => exact .none _
  | case3 c d cs => exact .some _ ((List.suffix_cons d cs).trans (List.suffix_cons c _))
  | case4 c d cs _ ih => exact (ih.behind c).cons _

theorem taggedUpTo_leaves (tag : List Char) (n : Nat) (cs : List Char) :
    Leaves cs (taggedUpTo tag n cs) := by
  induction n generalizing cs with
  | zero => exact .none _
  | succ n ih =>
    cases cs with
    | nil => exact .none _
    | cons c cs =>
      have hafter : cs.drop (tagPart tag cs).length <:+ c :: cs :=
        (List.drop_suffix _ cs).trans (List.suffix_cons c _)
      simp only [taggedUpTo]
      split
      · split
        · exact .some _ ((List.drop_suffix 1 _).trans hafter)
        · exact ((ih _).mono hafter).map _
      · exact ((ih cs).behind c).cons _

theorem behindComment_suffix {depth : Nat} {last : Char}
    (h : behindComment depth last cs = some after) : after <:+ cs := by
  induction cs generalizing depth last with
  | nil => cases h
  | cons c cs ih =>
    have hbehind : ∀ {depth last}, behindComment depth last cs = some after → after <:+ c :: cs :=
      fun h => (ih h).trans (List.suffix_cons c cs)
    simp only [behindComment] at h
    split at h
    · exact hbehind h
    · split at h
      · split at h
        · obtain rfl := Option.some.inj h
          exact List.suffix_cons c _
        · exact hbehind h
      · exact hbehind h

/-! ## Numbers and symbols -/

theorem exponent_suffix (cs : List Char) : (exponent cs).2 <:+ cs := by
  unfold exponent
  split
  · rename_i e cs
    dsimp only
    split
    · split
      · exact List.suffix_rfl
      · exact ((List.dropWhile_suffix _).trans (List.drop_suffix _ cs)).trans (List.suffix_cons e cs)
    · exact List.suffix_rfl
  · exact List.suffix_rfl

theorem fraction_suffix (cs : List Char) : (fraction cs).2 <:+ cs := by
  unfold fraction
  split
  · exact (List.dropWhile_suffix _).trans (List.suffix_cons _ _)
  · exact List.suffix_rfl

theorem decimal_suffix {ds : List Char} (h : (fraction (cs.dropWhile Char.isDigit)).2 <:+ ds) :
    (decimal cs).2 <:+ ds := by
  unfold decimal
  revert h
  rcases fraction (cs.dropWhile Char.isDigit) with ⟨part, rest⟩
  intro hpart
  dsimp only at hpart ⊢
  split
  · exact hpart
  · have hpower := (exponent_suffix rest).trans hpart
    split
    · rename_i behind hbehind
      rw [hbehind] at hpower
      exact (List.suffix_cons _ _).trans hpower
    · exact hpower

/-- A number has at least one character. -/
theorem number_suffix (hc : (c.isDigit || c == '.') = true) : (number (c :: cs)).2 <:+ cs := by
  unfold number
  split
  · rename_i rest heq
    cases heq
    exact (List.drop_suffix _ rest).trans (List.suffix_cons 'x' rest)
  · refine decimal_suffix ?_
    cases hdigit : c.isDigit with
    | true =>
      rw [List.dropWhile_cons_of_pos hdigit]
      exact (fraction_suffix _).trans (List.dropWhile_suffix _)
    | false =>
      rw [hdigit, Bool.false_or] at hc
      rw [List.dropWhile_cons_of_neg (by simp [hdigit]), eq_of_beq hc]
      exact List.dropWhile_suffix _

theorem symbol_suffix (c : Char) (cs : List Char) : (Lexer.symbol c cs).2 <:+ cs := by
  unfold Lexer.symbol
  split
  · rename_i found hfound
    have hpos : ∀ s ∈ longSymbols, s.length ≠ 0 := by decide
    obtain ⟨k, hk⟩ :=
      Nat.exists_eq_succ_of_ne_zero (hpos found (List.mem_of_find?_eq_some hfound))
    rw [hk]
    exact List.drop_suffix k cs
  · exact List.suffix_rfl

theorem word_suffix (start cs : List Char) : (word start cs).2 <:+ cs :=
  List.dropWhile_suffix _

theorem hash_suffix (cs : List Char) : (Lexer.hash cs).2 <:+ cs := by
  unfold Lexer.hash
  split
  · exact symbol_suffix _ _
  · split
    · exact symbol_suffix _ _
    · exact (word_suffix _ _).trans (List.suffix_cons _ _)

theorem atSign_suffix (cs : List Char) : (atSign cs).2 <:+ cs := by
  unfold atSign
  split
  · exact symbol_suffix _ _
  · exact symbol_suffix _ _
  · rename_i c cs
    split
    · exact symbol_suffix _ _
    · exact (word_suffix _ _).trans ((List.suffix_cons c cs).trans (List.suffix_cons _ _))
  · split
    · exact symbol_suffix _ _
    · exact (word_suffix _ _).trans (List.suffix_cons _ _)

/-! ## Constants -/

theorem constant_leaves {body : Literal.Body} (h : Leaves cs body) (mark : Mark) :
    Leaves cs (Lexer.constant mark body) :=
  h.map fun text => (some (.constant mark (String.ofList text)) : Option Token)

theorem raw_leaves (quote : Char) (cs : List Char) : Leaves cs (raw quote cs) := by
  fun_cases raw quote cs with
  | case1 a b cs => exact constant_leaves (((tripledBody_leaves _ _).behind b).behind a) _
  | case2 a b cs => exact .some _ (List.suffix_cons a _)
  | case3 a b cs => exact constant_leaves (quotedBody_leaves _ _) _
  | case4 a => exact .some _ List.nil_suffix
  | case5 => exact .none _
  | case6 => exact .none _

theorem marked?_leaves {letter : Char} {found : Option Lexer.Step}
    (h : marked? letter cs = some found) : Leaves cs found := by
  unfold marked? at h
  split at h
  · cases h; exact constant_leaves ((quotedBody_leaves _ _).behind _) _
  · cases h; exact constant_leaves ((quotedBody_leaves _ _).behind _) _
  · cases h; exact (raw_leaves _ _).behind _
  · cases h; exact (raw_leaves _ _).behind _
  · cases h; exact constant_leaves ((slashedBody_leaves _).behind _) _
  · cases h; exact constant_leaves ((slashedBody_leaves _).behind _) _
  · cases h; exact constant_leaves ((escapedBody_leaves _).behind _) _
  · cases h; exact constant_leaves (((unicodeBody_leaves _).behind _).behind _) _
  · cases h

theorem dollar_leaves (cs : List Char) : Leaves cs (dollar cs) := by
  unfold dollar
  split
  · exact constant_leaves ((dollarBody_leaves _).behind _) _
  · dsimp only
    split
    · rename_i behind heq
      refine constant_leaves (((taggedUpTo_leaves _ _ behind).behind '$').mono ?_) _
      rw [← heq]
      exact List.dropWhile_suffix _
    · exact .some _ (List.dropWhile_suffix _)

/-! ## Steps -/

theorem step_leaves (c : Char) (cs : List Char) : Leaves cs (Lexer.step c cs) := by
  have hbranch := branch_step c cs
  generalize Lexer.step c cs = read at hbranch ⊢
  cases hbranch with
  | blank => exact .some _ List.suffix_rfl
  | marked _ _ hmarked => exact marked?_leaves hmarked
  | word => exact .some _ (word_suffix [c] cs)
  | quoted =>
    exact (quotedBody_leaves c cs).map fun body =>
      (some (.word ⟨String.ofList body, some c⟩) : Option Token)
  | literal =>
    exact (quotedBody_leaves '\'' cs).map fun body =>
      (some (.literal (String.ofList body)) : Option Token)
  | number hc => exact .some _ (number_suffix (by rw [hc, Bool.true_or]))
  | point =>
    have hpoint : (number ('.' :: cs)).2 <:+ cs := number_suffix rfl
    exact .some _ hpoint
  | line behind => exact .some _ ((List.dropWhile_suffix _).trans (List.suffix_cons _ _))
  | comment behind =>
    intro token? after hx
    obtain ⟨mid, hmid, hx⟩ := Option.map_eq_some_iff.1 hx
    cases hx
    exact (behindComment_suffix hmid).trans (List.suffix_cons _ _)
  | dollar => exact dollar_leaves cs
  | placeholder => exact .some _ (List.dropWhile_suffix _)
  | hash => exact .some _ (hash_suffix cs)
  | atSign => exact .some _ (atSign_suffix cs)
  | symbol => exact .some _ (symbol_suffix c cs)

/-- What a step leaves is an end of the text behind its first character. -/
theorem step_suffix {token? : Option Token} (h : Lexer.step c cs = some (token?, after)) :
    after <:+ cs :=
  step_leaves c cs token? after h

/-- A text has at most as many steps as characters. -/
theorem Lexes.steps_le {n : Nat} {tokens : List Token} (h : Lexes n cs tokens after) :
    n + after.length ≤ cs.length := by
  induction h with
  | done => exact Nat.le_of_eq (Nat.zero_add _)
  | step hstep _ ih =>
    have hlength := (step_suffix hstep).length_le
    rw [List.length_cons]
    omega

/-- The tokens of a text are those that are read up to its end in any number of steps. -/
theorem tokens?_eq_some {tokens : List Token} :
    tokens? (String.ofList cs) = some tokens ↔ ∃ n, Lexes n cs tokens [] := by
  rw [tokens?_eq_some_iff]
  constructor
  · rintro ⟨n, -, h⟩
    exact ⟨n, h⟩
  · rintro ⟨n, h⟩
    exact ⟨n, Nat.le_of_add_right_le h.steps_le, h⟩

/-- The tokens of a text are those that are read off its front and those of the rest. -/
theorem Lexes.tokens?_eq_some {n : Nat} {tokens all : List Token} (h : Lexes n cs tokens after) :
    tokens? (String.ofList cs) = some all ↔
      ∃ others, tokens? (String.ofList after) = some others ∧ all = tokens ++ others := by
  simp only [Sql.tokens?_eq_some]
  constructor
  · rintro ⟨k, hall⟩
    obtain ⟨k, others, -, rfl, hothers⟩ := h.exists_rest hall
    exact ⟨others, ⟨k, hothers⟩, rfl⟩
  · rintro ⟨others, ⟨k, hothers⟩, rfl⟩
    exact ⟨_, h.append hothers⟩

end

end MatView.Sql
