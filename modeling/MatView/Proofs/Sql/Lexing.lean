import MatView.Sql.Lexer
import MatView.Proofs.Text.Target

/-!
# Reading tokens piece by piece

The tokens of a text are read one after the other, each with the whole rest of the text in sight,
since the longest one is taken. A text is read in pieces by stopping in between. A dotted name is
such a piece: what its tokens are does not depend on what follows it, as long as nothing makes its
last part longer and no quote behind it makes a constant of it.

## Main definitions

* `Lexes`, `readTokens`: reading tokens off the front of a text.
* `Branch`: what a text may start with, and what is read then.
* `NameRead`: tokens that start with a dotted name.
* `nameTokens`: the tokens of a dotted name without quotes.

## Main statements

* `tokens?_eq_some_iff`: the tokens of a text are those that are read up to its end.
* `Lexes.exists_rest`: reading on behind a piece.
* `branch_step`, `Branch.step_eq`: a step takes exactly one branch.
* `Lexes.of_name`, `lexes_name`: the tokens of a dotted name.
-/

namespace MatView.Sql

open Lexer
open Unicode (isBlank)
open Text (isNameChar)

/-! ## Pieces -/

/-- Tokens are read off the front of a text in a number of steps, up to `back`. -/
inductive Lexes : Nat → List Char → List Token → List Char → Prop
  | done (cs : List Char) : Lexes 0 cs [] cs
  | step {n : Nat} {c : Char} {rest after back : List Char} {token? : Option Token}
      {tokens : List Token} (first : Lexer.step c rest = some (token?, after))
      (others : Lexes n after tokens back) :
      Lexes (n + 1) (c :: rest) (token?.toList ++ tokens) back

namespace Lexes

variable {m n : Nat} {cs mid back : List Char} {tokens more : List Token}

theorem append (first : Lexes m cs tokens mid) (others : Lexes n mid more back) :
    Lexes (n + m) cs (tokens ++ more) back := by
  induction first with
  | done => exact others
  | step hstep _ ih =>
    rw [List.append_assoc]
    exact .step hstep (ih others)

/-- A text of which a piece is read first is read on behind it. -/
theorem exists_rest (first : Lexes m cs tokens mid) (whole : Lexes n cs more []) :
    ∃ k others, n = k + m ∧ more = tokens ++ others ∧ Lexes k mid others [] := by
  induction first generalizing n more with
  | done => exact ⟨n, more, rfl, rfl, whole⟩
  | step hstep _ ih =>
    cases whole with
    | step hstep' hothers =>
      rw [hstep, Option.some.injEq, Prod.mk.injEq] at hstep'
      obtain ⟨rfl, rfl⟩ := hstep'
      obtain ⟨k, others, rfl, rfl, hrest⟩ := ih hothers
      exact ⟨k, others, rfl, by rw [List.append_assoc], hrest⟩

/-- A text has one sequence of tokens. -/
theorem unique (h : Lexes m cs tokens []) (h' : Lexes n cs more []) : tokens = more := by
  obtain ⟨k, others, -, rfl, hothers⟩ := h.exists_rest h'
  cases hothers
  rw [List.append_nil]

end Lexes

/-- Reads tokens off the front of a text in a number of steps. -/
def readTokens : Nat → List Char → Option (List Token × List Char)
  | 0, cs => some ([], cs)
  | _ + 1, [] => none
  | n + 1, c :: rest => do
    let (token?, after) ← Lexer.step c rest
    let (tokens, back) ← readTokens n after
    return (token?.toList ++ tokens, back)

theorem lexes_of_readTokens {n : Nat} {cs back : List Char} {tokens : List Token}
    (h : readTokens n cs = some (tokens, back)) : Lexes n cs tokens back := by
  induction n generalizing cs tokens with
  | zero =>
    cases h
    exact .done _
  | succ n ih =>
    cases cs with
    | nil => cases h
    | cons c rest =>
      obtain ⟨⟨token?, after⟩, hstep, h⟩ := Option.bind_eq_some_iff.1 h
      obtain ⟨⟨others, back'⟩, hothers, h⟩ := Option.bind_eq_some_iff.1 h
      cases h
      exact .step hstep (ih hothers)

theorem tokensFrom_eq_some_iff {n : Nat} {cs : List Char} {tokens : List Token} :
    tokensFrom n cs = some tokens ↔ ∃ k, k ≤ n ∧ Lexes k cs tokens [] := by
  constructor
  · intro h
    induction n generalizing cs tokens with
    | zero =>
      cases cs with
      | nil =>
        cases h
        exact ⟨0, Nat.le_refl 0, .done []⟩
      | cons c rest => cases h
    | succ n ih =>
      cases cs with
      | nil =>
        cases h
        exact ⟨0, Nat.zero_le _, .done []⟩
      | cons c rest =>
        obtain ⟨⟨token?, after⟩, hstep, h⟩ := Option.bind_eq_some_iff.1 h
        obtain ⟨others, hothers, h⟩ := Option.bind_eq_some_iff.1 h
        cases h
        obtain ⟨k, hk, hlexes⟩ := ih hothers
        exact ⟨k + 1, Nat.succ_le_succ hk, .step hstep hlexes⟩
  · rintro ⟨k, hk, h⟩
    induction k generalizing n cs tokens with
    | zero =>
      cases h
      cases n <;> rfl
    | succ k ih =>
      cases h with
      | step hstep hothers =>
        have hpos : n ≠ 0 := Nat.ne_of_gt (Nat.lt_of_lt_of_le k.succ_pos hk)
        obtain ⟨n, rfl⟩ := Nat.exists_eq_succ_of_ne_zero hpos
        have htokens := ih (Nat.le_of_succ_le_succ hk) hothers
        exact Option.bind_eq_some_iff.2 ⟨_, hstep, Option.bind_eq_some_iff.2 ⟨_, htokens, rfl⟩⟩

theorem tokens?_eq_some_iff {cs : List Char} {tokens : List Token} :
    tokens? (String.ofList cs) = some tokens ↔ ∃ k, k ≤ cs.length ∧ Lexes k cs tokens [] := by
  rw [tokens?, String.toList_ofList, tokensFrom_eq_some_iff]

/-! ## The branches of a step -/

/-- A digit is no blank, starts no name and is no quote. -/
theorem of_isDigit {c : Char} (h : c.isDigit = true) : isBlank c = false ∧ isWordStart c = false ∧
    (c == '"' || c == backquote) = false ∧ (c == '\'') = false := by
  have hascii := Text.toNat_lt_of_isPlain (c := c) (by simp [Text.isPlain, Char.isAlphanum, h])
  exact Text.of_ascii (p := fun c => c.isDigit = true → isBlank c = false ∧
    isWordStart c = false ∧ (c == '"' || c == backquote) = false ∧ (c == '\'') = false)
    (by decide +kernel) c hascii h

/-- The branches of a step: what a text may start with, and what is read then. -/
inductive Branch : Char → List Char → Option Lexer.Step → Prop
  | blank {c : Char} {rest : List Char} (hc : isBlank c = true) : Branch c rest (some (none, rest))
  | marked {c : Char} {rest : List Char} {found : Option Lexer.Step} (hblank : isBlank c = false)
      (hstart : isWordStart c = true) (hmarked : marked? c rest = some found) :
      Branch c rest found
  | word {c : Char} {rest : List Char} (hblank : isBlank c = false) (hstart : isWordStart c = true)
      (hmarked : marked? c rest = none) : Branch c rest (some (Lexer.word [c] rest))
  | quoted {c : Char} {rest : List Char} (hc : c = '"' ∨ c = backquote) :
      Branch c rest ((Literal.quotedBody c rest).map fun (body, after) =>
        (some (.word ⟨String.ofList body, some c⟩), after))
  | literal (rest : List Char) :
      Branch '\'' rest ((Literal.quotedBody '\'' rest).map fun (body, after) =>
        (some (.literal (String.ofList body)), after))
  | number {c : Char} {rest : List Char} (hc : c.isDigit = true) :
      Branch c rest (some (Lexer.number (c :: rest)))
  | point (rest : List Char) : Branch '.' rest (some (Lexer.number ('.' :: rest)))
  | line (rest : List Char) :
      Branch '-' ('-' :: rest) (some (none, rest.dropWhile (· != '\n')))
  | comment (rest : List Char) :
      Branch '/' ('*' :: rest) ((behindComment 0 ' ' rest).map fun after => (none, after))
  | dollar (rest : List Char) : Branch '$' rest (Lexer.dollar rest)
  | placeholder (rest : List Char) :
      Branch '?' rest (some (some (.placeholder ("?" ++ String.ofList
        (rest.takeWhile Unicode.isNumeric))), rest.dropWhile Unicode.isNumeric))
  | hash (rest : List Char) : Branch '#' rest (some (Lexer.hash rest))
  | atSign (rest : List Char) : Branch '@' rest (some (Lexer.atSign rest))
  | symbol {c : Char} {rest : List Char} (hblank : isBlank c = false)
      (hstart : isWordStart c = false) (hdigit : c.isDigit = false)
      (hother : c ∉ ['"', backquote, '\'', '.', '$', '?', '#', '@'])
      (hline : c = '-' → rest.head? ≠ some '-') (hcomment : c = '/' → rest.head? ≠ some '*') :
      Branch c rest (some (Lexer.symbol c rest))

/-- A step takes one of the branches. -/
theorem branch_step (c : Char) (rest : List Char) : Branch c rest (Lexer.step c rest) := by
  unfold Lexer.step
  by_cases hblank : isBlank c = true
  · rw [if_pos hblank]
    exact .blank hblank
  rw [if_neg hblank]
  rw [Bool.not_eq_true] at hblank
  by_cases hstart : isWordStart c = true
  · rw [if_pos hstart]
    cases hmarked : marked? c rest with
    | none => exact .word hblank hstart hmarked
    | some found => exact .marked hblank hstart hmarked
  rw [if_neg hstart]
  rw [Bool.not_eq_true] at hstart
  by_cases hquote : (c == '"' || c == backquote) = true
  · rw [if_pos hquote]
    exact .quoted (by simpa using hquote)
  rw [if_neg hquote]
  by_cases hliteral : (c == '\'') = true
  · obtain rfl := eq_of_beq hliteral
    exact .literal rest
  rw [if_neg hliteral]
  by_cases hnumber : (c.isDigit || c == '.') = true
  · rw [if_pos hnumber]
    obtain hdigit | hpoint := Bool.or_eq_true_iff.1 hnumber
    · exact .number hdigit
    · obtain rfl := eq_of_beq hpoint
      exact .point rest
  rw [if_neg hnumber]
  by_cases hline : (c == '-' && rest.head? == some '-') = true
  · obtain ⟨hc, hhead⟩ := Bool.and_eq_true_iff.1 hline
    obtain rfl := eq_of_beq hc
    obtain ⟨behind, rfl⟩ := List.head?_eq_some_iff.1 (eq_of_beq hhead)
    exact .line behind
  rw [if_neg hline]
  by_cases hcomment : (c == '/' && rest.head? == some '*') = true
  · obtain ⟨hc, hhead⟩ := Bool.and_eq_true_iff.1 hcomment
    obtain rfl := eq_of_beq hc
    obtain ⟨behind, rfl⟩ := List.head?_eq_some_iff.1 (eq_of_beq hhead)
    exact .comment behind
  rw [if_neg hcomment]
  by_cases hdollar : (c == '$') = true
  · obtain rfl := eq_of_beq hdollar
    exact .dollar rest
  rw [if_neg hdollar]
  by_cases hholder : (c == '?') = true
  · obtain rfl := eq_of_beq hholder
    exact .placeholder rest
  rw [if_neg hholder]
  by_cases hhash : (c == '#') = true
  · obtain rfl := eq_of_beq hhash
    exact .hash rest
  rw [if_neg hhash]
  by_cases hat : (c == '@') = true
  · obtain rfl := eq_of_beq hat
    exact .atSign rest
  rw [if_neg hat]
  simp only [Bool.or_eq_true, Bool.and_eq_true, beq_iff_eq, not_or, not_and,
    Bool.not_eq_true] at hquote hliteral hnumber hline hcomment hdollar hholder hhash hat
  exact .symbol hblank hstart hnumber.1 (by simp [*]) hline hcomment

/-- No other branch is open where one is. -/
theorem Branch.step_eq {c : Char} {rest : List Char} {read : Option Lexer.Step}
    (h : Branch c rest read) : Lexer.step c rest = read := by
  cases h with
  | blank hc => simp [Lexer.step, hc]
  | marked hblank hstart hmarked => simp [Lexer.step, hblank, hstart, hmarked]
  | word hblank hstart hmarked => simp [Lexer.step, hblank, hstart, hmarked]
  | quoted hc => obtain rfl | rfl := hc <;> rfl
  | number hc =>
    obtain ⟨hblank, hstart, hquote, hliteral⟩ := of_isDigit hc
    simp [Lexer.step, hblank, hstart, hquote, hliteral, hc]
  | symbol hblank hstart hdigit hother hline hcomment =>
    simp only [List.mem_cons, List.not_mem_nil, or_false, not_or] at hother
    simp only [Lexer.step, hblank, hstart, hdigit, hother, beq_iff_eq, Bool.or_eq_true,
      Bool.and_eq_true, Bool.false_eq_true, or_self, if_false]
    rw [if_neg (not_and.2 hline), if_neg (not_and.2 hcomment)]
  | _ => rfl

/-! ## The first token -/

/-- The name that a token is on its own. -/
def Token.ident? : Token → Option Ident
  | .word name => some name
  | .literal value => some ⟨value, some '\''⟩
  | _ => none

/-- A token was read that is no name. Only a parenthesis is read as one. -/
def IsNoName (c : Char) (token? : Option Token) : Prop :=
  ∃ t, token? = some t ∧ t.ident? = none ∧ (t = .symbol "(" → c = '(')

/-- A token was read that is a name which starts with a character, or no name. -/
def StartsWith (c : Char) (token? : Option Token) : Prop :=
  ∃ t, token? = some t ∧ ∀ i, t.ident? = some i → ∃ cs, i.text.toList = c :: cs

section

variable {c : Char} {rest after : List Char} {token? : Option Token}

theorem IsNoName.startsWith (h : IsNoName c token?) : StartsWith c token? := by
  obtain ⟨t, rfl, ht, -⟩ := h
  refine ⟨t, rfl, fun i hi => ?_⟩
  rw [ht] at hi
  cases hi

theorem isNoName_constant {mark : Mark} {body : Literal.Body}
    (h : Lexer.constant mark body = some (token?, after)) : IsNoName c token? := by
  obtain ⟨⟨text, rest⟩, -, h⟩ := Option.map_eq_some_iff.1 h
  cases h
  exact ⟨_, rfl, rfl, by simp⟩

theorem isNoName_raw {quote : Char} (h : Lexer.raw quote rest = some (token?, after)) :
    IsNoName c token? := by
  unfold Lexer.raw at h
  split at h
  · dsimp only at h
    split at h
    · exact isNoName_constant h
    · split at h
      · cases h
        exact ⟨_, rfl, rfl, by simp⟩
      · exact isNoName_constant h
  · split at h
    · cases h
      exact ⟨_, rfl, rfl, by simp⟩
    · cases h
  · cases h

theorem isNoName_marked (h : marked? c rest = some (some (token?, after))) : IsNoName c token? := by
  unfold marked? at h
  split at h
  all_goals first
    | exact isNoName_constant (Option.some.inj h)
    | exact isNoName_raw (Option.some.inj h)
    | cases h

theorem isNoName_number (c : Char) (cs : List Char) : IsNoName c (number cs).1 := by
  unfold number
  split
  · exact ⟨_, rfl, rfl, by simp⟩
  · unfold decimal
    dsimp only
    split
    · exact ⟨_, rfl, rfl, by simp⟩
    · split <;> exact ⟨_, rfl, rfl, by simp⟩

theorem isNoName_dollar (h : dollar rest = some (token?, after)) : IsNoName c token? := by
  unfold dollar at h
  split at h
  · exact isNoName_constant h
  · dsimp only at h
    split at h
    · exact isNoName_constant h
    · cases h
      exact ⟨_, rfl, rfl, by simp⟩

theorem isNoName_symbol (c : Char) (rest : List Char) : IsNoName c (Lexer.symbol c rest).1 := by
  unfold Lexer.symbol
  split
  · rename_i found hfound
    refine ⟨_, rfl, rfl, fun h => ?_⟩
    have hmem := List.mem_of_find?_eq_some hfound
    have hno : ∀ text ∈ longSymbols, (if text == "!=" then "<>" else text) ≠ "(" := by decide
    exact absurd (Token.symbol.inj h) (hno found hmem)
  · refine ⟨_, rfl, rfl, fun h => ?_⟩
    have hchars := congrArg String.toList (Token.symbol.inj h)
    simpa using hchars

theorem startsWith_word (c : Char) (start rest : List Char) :
    StartsWith c (word (c :: start) rest).1 := by
  refine ⟨_, rfl, fun i hi => ?_⟩
  cases hi
  exact ⟨_, String.toList_ofList⟩

theorem startsWith_quoted (quote : Char) (text : String) :
    StartsWith quote (some (.word ⟨text, some quote⟩)) := by
  refine ⟨_, rfl, fun i hi => ?_⟩
  cases hi
  exact ⟨_, String.toList_ofList⟩

theorem startsWith_literal (text : String) : StartsWith '\'' (some (.literal text)) := by
  refine ⟨_, rfl, fun i hi => ?_⟩
  cases hi
  exact ⟨_, String.toList_ofList⟩

theorem startsWith_hash (rest : List Char) : StartsWith '#' (Lexer.hash rest).1 := by
  unfold Lexer.hash
  split
  · exact (isNoName_symbol _ _).startsWith
  · split
    · exact (isNoName_symbol _ _).startsWith
    · exact startsWith_word _ _ _

/-- An at sign in front of any other character. -/
theorem atSign_cons (hc : c ≠ '@') : atSign (c :: rest) =
    if ['>', '?', ' ', '\'', '"', backquote].contains c then Lexer.symbol '@' (c :: rest)
    else word ['@', c] rest := by
  cases rest <;> simp [atSign, hc]

theorem startsWith_atSign (rest : List Char) : StartsWith '@' (atSign rest).1 := by
  unfold atSign
  split
  · exact (isNoName_symbol _ _).startsWith
  · exact (isNoName_symbol _ _).startsWith
  · split
    · exact (isNoName_symbol _ _).startsWith
    · exact startsWith_word _ _ _
  · split
    · exact (isNoName_symbol _ _).startsWith
    · exact startsWith_word _ _ _

/-- What a step reads. A character that may belong to the name of a table starts a word that goes on
as far as possible, or no name. -/
theorem step_cases (h : Lexer.step c rest = some (token?, after)) :
    (token? = none ∧ (isNameChar c = true → isBlank c = true)) ∨
    (isBlank c = false ∧ IsNoName c token?) ∨
    (isBlank c = false ∧ isNameChar c = false ∧ StartsWith c token?) ∨
    (isBlank c = false ∧ isWordStart c = true ∧ (token?, after) = word [c] rest) := by
  have hbranch := branch_step c rest
  rw [h] at hbranch
  generalize hread : some (token?, after) = read at hbranch
  cases hbranch with
  | blank hc =>
    cases hread
    exact .inl ⟨rfl, fun _ => hc⟩
  | marked hblank _ hmarked =>
    subst hread
    exact .inr (.inl ⟨hblank, isNoName_marked hmarked⟩)
  | word hblank hstart _ => exact .inr (.inr (.inr ⟨hblank, hstart, Option.some.inj hread⟩))
  | quoted hc =>
    obtain ⟨⟨body, behind⟩, -, hread⟩ := Option.map_eq_some_iff.1 hread.symm
    cases hread
    have hquote : isBlank c = false ∧ isNameChar c = false := by
      obtain rfl | rfl := hc <;> decide
    exact .inr (.inr (.inl ⟨hquote.1, hquote.2, startsWith_quoted _ _⟩))
  | literal =>
    obtain ⟨⟨body, behind⟩, -, hread⟩ := Option.map_eq_some_iff.1 hread.symm
    cases hread
    exact .inr (.inr (.inl ⟨by decide, by decide, startsWith_literal _⟩))
  | number hc =>
    have hnumber := isNoName_number c (c :: rest)
    rw [← Option.some.inj hread] at hnumber
    exact .inr (.inl ⟨(of_isDigit hc).1, hnumber⟩)
  | point =>
    have hnumber := isNoName_number '.' ('.' :: rest)
    rw [← Option.some.inj hread] at hnumber
    exact .inr (.inl ⟨by decide, hnumber⟩)
  | line =>
    cases hread
    exact .inl ⟨rfl, by decide⟩
  | comment =>
    obtain ⟨behind, -, hread⟩ := Option.map_eq_some_iff.1 hread.symm
    cases hread
    exact .inl ⟨rfl, by decide⟩
  | dollar => exact .inr (.inl ⟨by decide, isNoName_dollar hread.symm⟩)
  | placeholder =>
    cases hread
    exact .inr (.inl ⟨by decide, _, rfl, rfl, by simp⟩)
  | hash =>
    have hhash := startsWith_hash rest
    rw [← Option.some.inj hread] at hhash
    exact .inr (.inr (.inl ⟨by decide, by decide, hhash⟩))
  | atSign =>
    have hat := startsWith_atSign rest
    rw [← Option.some.inj hread] at hat
    exact .inr (.inr (.inl ⟨by decide, by decide, hat⟩))
  | symbol hblank =>
    have hsymbol := isNoName_symbol c rest
    rw [← Option.some.inj hread] at hsymbol
    exact .inr (.inl ⟨hblank, hsymbol⟩)

/-- A letter that neither a quote nor an ampersand follows makes no constant. -/
theorem marked?_eq_none (h : ∀ d, rest.head? = some d → d ≠ '\'' ∧ d ≠ '"' ∧ d ≠ '&') :
    marked? c rest = none := by
  unfold marked?
  split
  all_goals first
    | rfl
    | simp at h

end

/-- A point that no digit follows is a symbol, and other points are parts of numbers. -/
theorem step_point_iff {rest after : List Char} :
    Lexer.step '.' rest = some (some (.symbol "."), after) ↔
      after = rest ∧ ∀ c, rest.head? = some c → c.isDigit = false := by
  have hstep : Lexer.step '.' rest = some (decimal ('.' :: rest)) := rfl
  have hpoint : Char.isDigit '.' = false := rfl
  rw [hstep, Option.some.injEq]
  cases rest with
  | nil =>
    constructor
    · intro h
      cases h
      exact ⟨rfl, by simp⟩
    · rintro ⟨rfl, -⟩
      rfl
  | cons c cs =>
    cases hc : c.isDigit with
    | false =>
      have hsymbol : decimal ('.' :: c :: cs) = (some (.symbol "."), c :: cs) := by
        simp [decimal, fraction, hpoint, hc]
      rw [hsymbol, Prod.mk.injEq]
      constructor
      · rintro ⟨-, rfl⟩
        exact ⟨rfl, fun d hd => Option.some.inj hd ▸ hc⟩
      · rintro ⟨rfl, -⟩
        exact ⟨rfl, rfl⟩
    | true =>
      have hnumber : (decimal ('.' :: c :: cs)).1 ≠ some (.symbol ".") := by
        simp only [decimal, fraction, List.takeWhile_cons, List.dropWhile_cons, hpoint, hc]
        simp only [if_true, Bool.false_eq_true, if_false, List.isEmpty_nil, Bool.true_and]
        rw [if_neg (by simp [hc])]
        split <;> simp
      exact ⟨fun h => absurd (congrArg Prod.fst h) hnumber, fun h => by simp [hc] at h⟩

/-! ## Dotted names -/

/-- Tokens start with a dotted name, behind which `rest` comes. -/
inductive NameRead : List Token → List Ident → List Token → Prop
  | last {t : Token} {i : Ident} {rest : List Token} (ht : t.ident? = some i)
      (hrest : rest.head? ≠ some (.symbol ".")) : NameRead (t :: rest) [i] rest
  | more {t : Token} {i : Ident} {tokens rest : List Token} {name : List Ident}
      (ht : t.ident? = some i) (others : NameRead tokens name rest) :
      NameRead (t :: .symbol "." :: tokens) (i :: name) rest

/-- The tokens of a dotted name. -/
def nameTokens : List Ident → List Token
  | [] => []
  | [i] => [.word i]
  | i :: name => .word i :: .symbol "." :: nameTokens name

/-- A name that is written without quotes. -/
structure Ident.IsBare (i : Ident) : Prop where
  unquoted : i.quote? = none
  spelled : ∃ c cs, i.value.toList = c :: cs ∧ isBlank c = false ∧ isWordStart c = true ∧
    ∀ d ∈ cs, isWordPart d = true

theorem NameRead.ne_nil {tokens rest : List Token} {name : List Ident}
    (h : NameRead tokens name rest) : name ≠ [] := by
  cases h <;> exact List.cons_ne_nil _ _

theorem nameTokens_cons {i : Ident} {name : List Ident} (h : name ≠ []) :
    nameTokens (i :: name) = .word i :: .symbol "." :: nameTokens name := by
  cases name with
  | nil => exact absurd rfl h
  | cons j js => rfl

theorem toList_dotted_cons {i : Ident} {name : List Ident} (h : name ≠ []) :
    (dotted (i :: name)).toList = i.text.toList ++ '.' :: (dotted name).toList := by
  cases name with
  | nil => exact absurd rfl h
  | cons j js => simp [dotted, String.intercalate_cons_cons]

theorem dotted_singleton (i : Ident) : dotted [i] = i.text := String.intercalate_singleton

theorem toList_dotted_append {name : List Ident} (hne : name ≠ []) (last : Ident) :
    (dotted (name ++ [last])).toList = (dotted name).toList ++ '.' :: last.text.toList := by
  induction name with
  | nil => exact absurd rfl hne
  | cons i name ih =>
    by_cases hnil : name = []
    · subst hnil
      rw [List.singleton_append, toList_dotted_cons (List.cons_ne_nil last []), dotted_singleton,
        dotted_singleton]
    · rw [List.cons_append, toList_dotted_cons (by simp), ih hnil, toList_dotted_cons hnil,
        List.append_assoc]
      rfl

theorem nameTokens_append {name : List Ident} (hne : name ≠ []) (last : Ident) :
    nameTokens (name ++ [last]) = nameTokens name ++ [.symbol ".", .word last] := by
  induction name with
  | nil => exact absurd rfl hne
  | cons i name ih =>
    by_cases hnil : name = []
    · subst hnil
      rfl
    · rw [List.cons_append, nameTokens_cons (by simp), ih hnil, nameTokens_cons hnil]
      rfl

/-- The tokens of a dotted name are read as this name. -/
theorem nameRead_nameTokens {name : List Ident} {rest : List Token} (hne : name ≠ [])
    (hrest : rest.head? ≠ some (.symbol ".")) : NameRead (nameTokens name ++ rest) name rest := by
  induction name with
  | nil => exact absurd rfl hne
  | cons i name ih =>
    by_cases hnil : name = []
    · subst hnil
      exact .last rfl hrest
    · rw [nameTokens_cons hnil]
      exact .more rfl (ih hnil)

theorem NameRead.head?_ne {tokens rest : List Token} {name : List Ident}
    (h : NameRead tokens name rest) : rest.head? ≠ some (.symbol ".") := by
  induction h with
  | last _ hrest => exact hrest
  | more _ _ ih => exact ih

/-- A name does not go on with what is no name. -/
theorem not_nameRead {name found : List Ident} {t : Token} {others rest : List Token}
    (hne : name ≠ []) (ht : t.ident? = none) :
    ¬ NameRead (nameTokens name ++ .symbol "." :: t :: others) found rest := by
  induction name generalizing found with
  | nil => exact absurd rfl hne
  | cons i name ih =>
    by_cases hnil : name = []
    · subst hnil
      intro h
      cases h with
      | last _ hrest => exact hrest rfl
      | more _ hread =>
        cases hread with
        | last hi _ =>
          rw [ht] at hi
          cases hi
        | more hi _ =>
          rw [ht] at hi
          cases hi
    · rw [nameTokens_cons hnil]
      intro h
      cases h with
      | last _ hrest => exact hrest rfl
      | more _ hread => exact ih hnil hread

theorem Ident.IsBare.text_eq {i : Ident} (h : i.IsBare) : i.text = i.value := by
  rw [Ident.text, h.unquoted]

namespace Lexes

variable {n : Nat} {cs back post : List Char} {tokens rest : List Token} {t : Token} {i : Ident}

/-- The first character of a name that is read is no blank. -/
theorem exists_text (h : Lexes n cs (t :: tokens) back) (hi : t.ident? = some i) :
    ∃ c w, i.text.toList = c :: w ∧ isBlank c = false := by
  generalize htokens : t :: tokens = all at h
  induction h with
  | done => cases htokens
  | @step n c after rest back token? others hstep _ ih =>
    cases token? with
    | none => exact ih htokens
    | some t' =>
      cases htokens
      have hstarts : isBlank c = false ∧ StartsWith c (some t) := by
        obtain ⟨htoken, -⟩ | ⟨hblank, hno⟩ | ⟨hblank, -, hstarts⟩ | ⟨hblank, -, hword⟩ :=
          step_cases hstep
        · cases htoken
        · exact ⟨hblank, hno.startsWith⟩
        · exact ⟨hblank, hstarts⟩
        · have hfirst : some t = (word [c] after).1 := congrArg Prod.fst hword
          exact ⟨hblank, hfirst ▸ startsWith_word c [] after⟩
      obtain ⟨hblank, t', ht, hname⟩ := hstarts
      cases ht
      obtain ⟨w, hw⟩ := hname i hi
      exact ⟨c, w, hw, hblank⟩

/-- What starts like the name of a table starts with no parenthesis. -/
theorem head?_ne_open {c : Char} (h : Lexes n (c :: cs) tokens []) (hname : isNameChar c = true)
    (hblank : isBlank c = false) : tokens.head? ≠ some (.symbol "(") := by
  cases h with
  | @step k _ _ after _ token? others hstep hothers =>
    obtain ⟨-, hskip⟩ | ⟨-, t, rfl, -, hopen⟩ | ⟨-, hother, -⟩ | ⟨-, -, hword⟩ := step_cases hstep
    · rw [hskip hname] at hblank
      cases hblank
    · intro hhead
      cases hopen (Option.some.inj hhead)
      exact absurd hname (by decide)
    · rw [hother] at hname
      cases hname
    · cases hword
      simp

/-- A constant is no name. -/
theorem exists_noName {c : Char} {found : Option Lexer.Step} (h : Lexes n (c :: cs) tokens [])
    (hblank : isBlank c = false) (hstart : isWordStart c = true)
    (hmarked : marked? c cs = some found) :
    ∃ t others, tokens = t :: others ∧ t.ident? = none := by
  cases h with
  | @step k _ _ after _ token? others hstep hothers =>
    have hfound := (Branch.marked hblank hstart hmarked).step_eq.symm.trans hstep
    obtain ⟨t, rfl, ht, -⟩ := isNoName_marked (hmarked.trans (congrArg some hfound))
    exact ⟨t, others, rfl, ht⟩

/-- A name is read as a whole off the front of a text that starts with it. -/
theorem of_ident (h : Lexes n (i.text.toList ++ post) (t :: tokens) []) (hi : t.ident? = some i)
    (hchars : ∀ c ∈ i.text.toList, isNameChar c = true) :
    i.IsBare ∧ t = .word i ∧ (∀ c, post.head? = some c → isWordPart c = false) ∧
      ∃ k, n = k + 1 ∧ Lexes k post tokens [] := by
  obtain ⟨c, w, hw, hblank⟩ := h.exists_text hi
  have hname : isNameChar c = true := hchars c (hw ▸ List.mem_cons_self)
  rw [hw, List.cons_append] at h
  generalize htokens : t :: tokens = all at h
  cases h with
  | @step k _ _ after _ token? others hstep hothers =>
    obtain ⟨-, hskip⟩ | ⟨-, t', rfl, hno, -⟩ | ⟨-, hother, -⟩ | ⟨-, hstart, hword⟩ :=
      step_cases hstep
    · rw [hskip hname] at hblank
      cases hblank
    · cases htokens
      rw [hno] at hi
      cases hi
    · rw [hother] at hname
      cases hname
    · cases hword
      cases htokens
      cases hi
      have htake : (w ++ post).takeWhile isWordPart = w := by
        simpa [Ident.text] using hw
      obtain ⟨hpart, hdrop, hhead⟩ := Text.of_takeWhile_append htake
      rw [hdrop] at hothers
      exact ⟨⟨rfl, c, w, hw, hblank, hstart, hpart⟩, rfl, hhead, k, rfl, hothers⟩

/-- A point that is a symbol is read alone. -/
theorem of_point (h : Lexes n ('.' :: cs) (.symbol "." :: tokens) []) :
    ∃ k, n = k + 1 ∧ Lexes k cs tokens [] := by
  generalize htokens : Token.symbol "." :: tokens = all at h
  cases h with
  | @step k _ _ after _ token? others hstep hothers =>
    cases token? with
    | none =>
      obtain ⟨-, hskip⟩ | ⟨-, t, ht, -⟩ | ⟨-, -, t, ht, -⟩ | ⟨-, -, hword⟩ := step_cases hstep
      · exact absurd (hskip rfl) (by decide)
      · cases ht
      · cases ht
      · cases hword
    | some t =>
      cases htokens
      obtain ⟨rfl, -⟩ := step_point_iff.1 hstep
      exact ⟨k, rfl, hothers⟩

/-- A dotted name is read as a whole off the front of a text that starts with it. -/
theorem of_name {name : List Ident} (hread : NameRead tokens name rest)
    (h : Lexes n ((dotted name).toList ++ post) tokens [])
    (hchars : ∀ c ∈ (dotted name).toList, isNameChar c = true) :
    (∀ i ∈ name, i.IsBare) ∧ tokens = nameTokens name ++ rest ∧
      (∀ c, post.head? = some c → isWordPart c = false) ∧
      ∃ k, n = k + (nameTokens name).length ∧ Lexes k post rest [] := by
  induction hread generalizing n with
  | @last t i rest ht hrest =>
    rw [dotted_singleton] at h hchars
    obtain ⟨hbare, rfl, hhead, k, rfl, hothers⟩ := h.of_ident ht hchars
    exact ⟨by simpa using hbare, rfl, hhead, k, rfl, hothers⟩
  | @more t i tokens rest name ht hothers ih =>
    have hne := hothers.ne_nil
    rw [toList_dotted_cons hne] at h hchars
    rw [List.append_assoc, List.cons_append] at h
    obtain ⟨hbare, rfl, -, k, rfl, hbehind⟩ :=
      h.of_ident ht fun c hc => hchars c (List.mem_append_left _ hc)
    obtain ⟨m, rfl, hrest⟩ := hbehind.of_point
    obtain ⟨hbares, rfl, hhead, k, rfl, hpost⟩ := ih hrest fun c hc =>
      hchars c (List.mem_append_right _ (List.mem_cons_of_mem _ hc))
    refine ⟨List.forall_mem_cons.2 ⟨hbare, hbares⟩, ?_, hhead, k, ?_, hpost⟩
    · rw [nameTokens_cons hne]
      rfl
    · rw [nameTokens_cons hne]
      rfl

end Lexes

theorem not_quote_of_isWordPart {c : Char} (h : isWordPart c = true) :
    c ≠ '\'' ∧ c ≠ '"' ∧ c ≠ '&' := by
  refine ⟨?_, ?_, ?_⟩ <;>
  · rintro rfl
    revert h
    decide

theorem isDigit_of_isWordStart {c : Char} (h : isWordStart c = true) : c.isDigit = false := by
  rw [Bool.eq_false_iff]
  intro hdigit
  rw [(of_isDigit hdigit).2.1] at h
  cases h

/-- A name is read off the front of a text if nothing behind it makes it longer and no constant
starts with it. -/
theorem lexes_ident {i : Ident} {post : List Char} (hbare : i.IsBare)
    (hpost : ∀ c, post.head? = some c → isWordPart c = false)
    (hmarked : ∀ c w, i.value.toList = c :: w → marked? c (w ++ post) = none) :
    Lexes 1 (i.text.toList ++ post) [.word i] post := by
  obtain ⟨c, w, hvalue, hblank, hstart, hpart⟩ := hbare.spelled
  have hstep := (Branch.word hblank hstart (hmarked c w hvalue)).step_eq
  obtain ⟨htake, hdrop⟩ := Text.takeWhile_append_stop hpart hpost
  have hi : i = ⟨String.ofList (c :: w), none⟩ := by
    rw [← hvalue, String.ofList_toList, ← hbare.unquoted]
  rw [word, htake, hdrop, List.singleton_append, ← hi] at hstep
  rw [hbare.text_eq, hvalue]
  exact .step hstep (.done post)

/-- No constant starts with a part of a name that a point follows. -/
theorem marked?_point {i : Ident} {c : Char} {w rest : List Char} (hbare : i.IsBare)
    (hw : i.value.toList = c :: w) : marked? c (w ++ '.' :: rest) = none := by
  refine marked?_eq_none fun d hd => ?_
  obtain ⟨c', w', hvalue, -, -, hpart⟩ := hbare.spelled
  rw [hw] at hvalue
  cases hvalue
  cases w with
  | nil =>
    cases hd
    decide
  | cons e w =>
    cases hd
    exact not_quote_of_isWordPart (hpart d List.mem_cons_self)

theorem exists_dotted {name : List Ident} (hne : name ≠ []) (hbare : ∀ i ∈ name, i.IsBare) :
    ∃ c w, (dotted name).toList = c :: w ∧ isWordStart c = true := by
  obtain ⟨i, others, rfl⟩ := List.exists_cons_of_ne_nil hne
  have hi := hbare i List.mem_cons_self
  obtain ⟨c, w, hvalue, -, hstart, -⟩ := hi.spelled
  by_cases hnil : others = []
  · subst hnil
    exact ⟨c, w, by rw [dotted_singleton, hi.text_eq, hvalue], hstart⟩
  · refine ⟨c, w ++ '.' :: (dotted others).toList, ?_, hstart⟩
    rw [toList_dotted_cons hnil, hi.text_eq, hvalue, List.cons_append]

/-- A dotted name is read off the front of a text if nothing behind it makes it longer and no
constant starts with its last part. -/
theorem lexes_name {name : List Ident} {post : List Char} (hne : name ≠ [])
    (hbare : ∀ i ∈ name, i.IsBare) (hpost : ∀ c, post.head? = some c → isWordPart c = false)
    (hmarked : ∀ i, name.getLast? = some i → ∀ c w, i.value.toList = c :: w →
      marked? c (w ++ post) = none) :
    Lexes (nameTokens name).length ((dotted name).toList ++ post) (nameTokens name) post := by
  induction name with
  | nil => exact absurd rfl hne
  | cons i name ih =>
    obtain ⟨hi, hname⟩ := List.forall_mem_cons.1 hbare
    by_cases hnil : name = []
    · subst hnil
      rw [dotted_singleton]
      exact lexes_ident hi hpost (hmarked i rfl)
    · have hothers := ih hnil hname fun j hj => hmarked j (by
        rw [List.getLast?_cons, hj]
        rfl)
      have hpoint : Lexer.step '.' ((dotted name).toList ++ post) =
          some (some (.symbol "."), (dotted name).toList ++ post) := by
        refine step_point_iff.2 ⟨rfl, fun c hc => ?_⟩
        obtain ⟨d, w, hw, hstart⟩ := exists_dotted hnil hname
        rw [hw] at hc
        cases hc
        exact isDigit_of_isWordStart hstart
      have hfirst : Lexes 1 (i.text.toList ++ '.' :: ((dotted name).toList ++ post)) [.word i]
          ('.' :: ((dotted name).toList ++ post)) := by
        refine lexes_ident hi (fun c hc => ?_) fun c w hw => marked?_point hi hw
        cases hc
        decide
      rw [toList_dotted_cons hnil, nameTokens_cons hnil, List.append_assoc]
      exact hfirst.append (.step hpoint hothers)

end MatView.Sql
