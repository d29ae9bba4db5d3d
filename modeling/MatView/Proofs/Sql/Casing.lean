import MatView.Proofs.Sql.SelectList
import MatView.Proofs.Unicode.Casing

/-!
# Names in upper case

A text that holds nothing but names, commas and points has the same tokens in upper case, up to the
case of the names. Constants and numbers may have others: the letter in front of a constant keeps
its meaning, but what stands in it may not, and `0x` starts a number in lower case only.

Upper-casing one letter of ASCII after the other commutes with every test of the lexer, because no
test tells the two cases of a letter apart and no letter becomes a symbol.

## Main definitions

* `Token.asciiUpper`: a name with the letters of ASCII in upper case.
* `Token.IsNamePart`: the tokens that dotted names and lists of them are made of.

## Main statements

* `step_toUpper`: the first token of a text in upper case.
* `Lexes.toUpper`: all tokens of a text of names in upper case.
-/

namespace MatView

open Text

namespace Sql

open Lexer
open Unicode (isBlank)

/-- A text with the letters of ASCII in upper case. -/
def asciiUpper (text : String) : String :=
  String.ofList (text.toList.map Char.toUpper)

theorem isBlank_toUpper (c : Char) : isBlank c.toUpper = isBlank c :=
  of_toUpper (p := fun c d => isBlank d = isBlank c) (by decide +kernel) (fun _ => rfl) c

theorem isWordStart_toUpper (c : Char) : isWordStart c.toUpper = isWordStart c :=
  of_toUpper (p := fun c d => isWordStart d = isWordStart c) (by decide +kernel) (fun _ => rfl) c

theorem isWordPart_toUpper (c : Char) : isWordPart c.toUpper = isWordPart c :=
  of_toUpper (p := fun c d => isWordPart d = isWordPart c) (by decide +kernel) (fun _ => rfl) c

/-- No other character than itself becomes one that is no letter. -/
theorem toUpper_eq_iff {d : Char} (hd : d.isAlpha = false) (c : Char) : c.toUpper = d ↔ c = d := by
  have hletter : c.toUpper = c ∨ c.isAlpha = true ∧ c.toUpper.isAlpha = true :=
    of_toUpper (p := fun c u => u = c ∨ c.isAlpha = true ∧ u.isAlpha = true) (by decide)
      (fun _ => .inl rfl) c
  obtain hsame | ⟨hc, hupper⟩ := hletter
  · rw [hsame]
  · refine iff_of_false ?_ ?_ <;>
    · rintro rfl
      simp_all

theorem beq_toUpper {d : Char} (hd : d.isAlpha = false) (c : Char) :
    (c.toUpper == d) = (c == d) := by
  rw [Bool.eq_iff_iff, beq_iff_eq, beq_iff_eq]
  exact toUpper_eq_iff hd c

theorem exists_cons_of_toUpper {d : Char} (hd : d.isAlpha = false) {cs behind : List Char}
    (hcs : cs.map Char.toUpper = d :: behind) :
    ∃ rest, cs = d :: rest ∧ rest.map Char.toUpper = behind := by
  obtain ⟨c, rest, rfl, hc, hrest⟩ := List.map_eq_cons_iff.1 hcs
  exact ⟨rest, by rw [(toUpper_eq_iff hd c).1 hc], hrest⟩

theorem marked?_toUpper {c : Char} {rest : List Char} (h : marked? c rest = none) :
    marked? c.toUpper (rest.map Char.toUpper) = none := by
  unfold marked? at h ⊢
  rw [toLower_of_toUpper]
  split
  case h_9 => rfl
  case h_8 hletter hrest =>
    obtain ⟨rest, rfl, hquote⟩ := exists_cons_of_toUpper (by decide) hrest
    obtain ⟨rest, rfl, -⟩ := exists_cons_of_toUpper (by decide) hquote
    rw [hletter] at h
    cases h
  case h_2 hletter hrest | h_4 hletter hrest =>
    obtain ⟨rest, rfl, -⟩ := exists_cons_of_toUpper (by decide) hrest
    rw [hletter] at h
    cases h
  all_goals
    rename_i hletter hrest
    obtain ⟨rest, rfl, -⟩ := exists_cons_of_toUpper (by decide) hrest
    rw [hletter] at h
    cases h

/-- What was read between quotes, in upper case. -/
def bodyUpper (body : Literal.Body) : Literal.Body :=
  body.map fun (body, after) => (body.map Char.toUpper, after.map Char.toUpper)

theorem bodyUpper_cons (c : Char) (body : Literal.Body) :
    bodyUpper (body.cons c) = (bodyUpper body).cons c.toUpper := by
  cases body <;> rfl

theorem quotedBody_toUpper {quote : Char} (hquote : quote.isAlpha = false) (cs : List Char) :
    Literal.quotedBody quote (cs.map Char.toUpper) =
      bodyUpper (Literal.quotedBody quote cs) := by
  induction cs using Literal.quotedBody.induct quote with
  | case1 => rfl
  | case2 c hc =>
    simp only [List.map_cons, List.map_nil, Literal.quotedBody, beq_toUpper hquote, hc]
    rfl
  | case3 c hc =>
    simp only [Bool.not_eq_true] at hc
    simp only [List.map_cons, List.map_nil, Literal.quotedBody, beq_toUpper hquote, hc]
    rfl
  | case4 c d rest hc hd ih =>
    simp only [List.map_cons, Literal.quotedBody, beq_toUpper hquote, hc, hd, if_true, ih,
      bodyUpper_cons]
  | case5 c d rest hc hd =>
    simp only [Bool.not_eq_true] at hd
    simp only [List.map_cons, Literal.quotedBody, beq_toUpper hquote, hc, hd, if_true]
    rfl
  | case6 c d rest hc ih =>
    simp only [Bool.not_eq_true] at hc
    rw [List.map_cons] at ih
    simp only [List.map_cons, Literal.quotedBody, beq_toUpper hquote, hc, Bool.false_eq_true,
      if_false, ih, bodyUpper_cons]

theorem takeWhile_toUpper {p : Char → Bool} (h : ∀ c, p c.toUpper = p c) (cs : List Char) :
    (cs.map Char.toUpper).takeWhile p = (cs.takeWhile p).map Char.toUpper := by
  rw [List.takeWhile_map]
  simp only [Function.comp_def, h]

theorem dropWhile_toUpper {p : Char → Bool} (h : ∀ c, p c.toUpper = p c) (cs : List Char) :
    (cs.map Char.toUpper).dropWhile p = (cs.dropWhile p).map Char.toUpper := by
  rw [List.dropWhile_map]
  simp only [Function.comp_def, h]

theorem behindComment_toUpper (depth : Nat) (last : Char) (cs : List Char) :
    behindComment depth last.toUpper (cs.map Char.toUpper) =
      (behindComment depth last cs).map (List.map Char.toUpper) := by
  have hslash := beq_toUpper (show '/'.isAlpha = false by decide)
  have hstar := beq_toUpper (show '*'.isAlpha = false by decide)
  induction cs generalizing depth last with
  | nil => rfl
  | cons c cs ih =>
    simp only [List.map_cons, behindComment, hslash, hstar, ih]
    split
    · rfl
    · split
      · cases depth <;> rfl
      · rfl

/-- A name with the letters of ASCII in upper case. -/
def Ident.asciiUpper (i : Ident) : Ident :=
  ⟨Sql.asciiUpper i.value, i.quote?⟩

/-- A name with the letters of ASCII in upper case, as a token. Other tokens stay. -/
def Token.asciiUpper : Token → Token
  | word name => word name.asciiUpper
  | literal value => literal (Sql.asciiUpper value)
  | t => t

/-- A token that names are made of. -/
def Token.IsNamePart (t : Token) : Prop :=
  t.ident? ≠ none ∨ t = .symbol "." ∨ t = .symbol ","

theorem word_toUpper (start rest : List Char) :
    word (start.map Char.toUpper) (rest.map Char.toUpper) =
      ((word start rest).1.map Token.asciiUpper, (word start rest).2.map Char.toUpper) := by
  simp only [word, takeWhile_toUpper isWordPart_toUpper, dropWhile_toUpper isWordPart_toUpper,
    Option.map_some, Token.asciiUpper, Ident.asciiUpper, asciiUpper, String.toList_ofList,
    List.map_append]

theorem Token.IsNamePart.of_symbol {text : String} (h : (Token.symbol text).IsNamePart) :
    text = "." ∨ text = "," := by
  obtain h | h | h := h
  · exact absurd rfl h
  · exact .inl (Token.symbol.inj h)
  · exact .inr (Token.symbol.inj h)

theorem not_isNamePart {t : Token} (hi : t.ident? = none) (hs : ∀ text, t ≠ .symbol text) :
    ¬ t.IsNamePart := by
  rintro (h | h | h)
  · exact h hi
  · exact hs _ h
  · exact hs _ h

theorem isDigit_toUpper (c : Char) : c.toUpper.isDigit = c.isDigit :=
  of_toUpper (p := fun c d => d.isDigit = c.isDigit) (by decide) (fun _ => rfl) c

section

variable {c : Char} {rest after : List Char} {token? : Option Token}

/-- A token was read that names are not made of. -/
def NoNamePart (token? : Option Token) : Prop :=
  ∃ t, token? = some t ∧ ¬ t.IsNamePart

theorem noNamePart_constant {mark : Mark} {body : Literal.Body}
    (h : Lexer.constant mark body = some (token?, after)) : NoNamePart token? := by
  obtain ⟨⟨text, rest⟩, -, h⟩ := Option.map_eq_some_iff.1 h
  cases h
  exact ⟨_, rfl, not_isNamePart rfl nofun⟩

theorem noNamePart_raw {quote : Char} (h : Lexer.raw quote rest = some (token?, after)) :
    NoNamePart token? := by
  unfold Lexer.raw at h
  split at h
  · dsimp only at h
    split at h
    · exact noNamePart_constant h
    · split at h
      · cases h
        exact ⟨_, rfl, not_isNamePart rfl nofun⟩
      · exact noNamePart_constant h
  · split at h
    · cases h
      exact ⟨_, rfl, not_isNamePart rfl nofun⟩
    · cases h
  · cases h

theorem noNamePart_marked (h : marked? c rest = some (some (token?, after))) :
    NoNamePart token? := by
  unfold marked? at h
  split at h
  all_goals first
    | exact noNamePart_constant (Option.some.inj h)
    | exact noNamePart_raw (Option.some.inj h)
    | cases h

theorem noNamePart_dollar (h : dollar rest = some (token?, after)) : NoNamePart token? := by
  unfold dollar at h
  split at h
  · exact noNamePart_constant h
  · dsimp only at h
    split at h
    · exact noNamePart_constant h
    · cases h
      exact ⟨_, rfl, not_isNamePart rfl nofun⟩

theorem noNamePart_decimal (hc : c.isDigit = true) : NoNamePart (decimal (c :: rest)).1 := by
  unfold decimal
  simp only [List.takeWhile_cons, hc, if_true, List.isEmpty_cons, Bool.false_and,
    Bool.false_eq_true, if_false]
  split <;> exact ⟨_, rfl, not_isNamePart rfl nofun⟩

theorem noNamePart_number (hc : c.isDigit = true) : NoNamePart (number (c :: rest)).1 := by
  unfold number
  split
  · exact ⟨_, rfl, not_isNamePart rfl nofun⟩
  · exact noNamePart_decimal hc

theorem decimal_cases (cs : List Char) :
    (decimal cs).1 = some (.symbol ".") ∨ NoNamePart (decimal cs).1 := by
  unfold decimal
  dsimp only
  split
  · exact .inl rfl
  · split <;> exact .inr ⟨_, rfl, not_isNamePart rfl nofun⟩

theorem step_point_toUpper (h : Lexer.step '.' rest = some (token?, after))
    (hname : ¬ NoNamePart token?) : Lexer.step '.' (rest.map Char.toUpper) =
      some (token?.map Token.asciiUpper, after.map Char.toUpper) := by
  have hdecimal : decimal ('.' :: rest) = (token?, after) := Option.some.inj h
  obtain hpoint | hno := decimal_cases ('.' :: rest)
  · rw [hdecimal] at hpoint
    obtain rfl : token? = some (.symbol ".") := hpoint
    obtain ⟨rfl, hdigit⟩ := step_point_iff.1 h
    refine step_point_iff.2 ⟨rfl, fun d hd => ?_⟩
    rw [List.head?_map] at hd
    obtain ⟨e, he, rfl⟩ := Option.map_eq_some_iff.1 hd
    rw [isDigit_toUpper]
    exact hdigit e he
  · rw [hdecimal] at hno
    exact absurd hno hname

/-- What stands between quotes is the token of its text, in upper case too. -/
theorem quoted_toUpper (token : String → Token)
    (htoken : ∀ text, (token text).asciiUpper = token (asciiUpper text))
    (hquote : c.isAlpha = false)
    (h : (Literal.quotedBody c rest).map (fun (body, after) =>
      (some (token (String.ofList body)), after)) = some (token?, after)) :
    (Literal.quotedBody c (rest.map Char.toUpper)).map (fun (body, after) =>
      (some (token (String.ofList body)), after)) =
        some (token?.map Token.asciiUpper, after.map Char.toUpper) := by
  obtain ⟨⟨body, behind⟩, hbody, h⟩ := Option.map_eq_some_iff.1 h
  cases h
  rw [quotedBody_toUpper hquote, hbody]
  simp only [bodyUpper, Option.map_some, htoken, asciiUpper, String.toList_ofList]

theorem noNamePart_symbol (hpoint : c ≠ '.') (hcomma : c ≠ ',') :
    NoNamePart (Lexer.symbol c rest).1 := by
  unfold Lexer.symbol
  split
  · rename_i found hfound
    have hmem := List.mem_of_find?_eq_some hfound
    have hno : ∀ text ∈ longSymbols, (if text == "!=" then "<>" else text) ≠ "." ∧
        (if text == "!=" then "<>" else text) ≠ "," := by decide
    exact ⟨_, rfl, fun h => h.of_symbol.elim (hno found hmem).1 (hno found hmem).2⟩
  · have hchar : ∀ d : Char, c.toString = d.toString → c = d := by
      intro d hd
      simpa using congrArg String.toList hd
    exact ⟨_, rfl, fun h =>
      h.of_symbol.elim (fun h => hpoint (hchar '.' h)) fun h => hcomma (hchar ',' h)⟩

theorem symbol_ne (hname : ¬ NoNamePart token?) (hpoint : c ≠ '.') (hcomma : c ≠ ',') :
    Lexer.symbol c rest ≠ (token?, after) := by
  intro hsymbol
  have hno : NoNamePart (Lexer.symbol c rest).1 := noNamePart_symbol hpoint hcomma
  rw [hsymbol] at hno
  exact hname hno

theorem hash_toUpper (h : Lexer.hash rest = (token?, after)) (hname : ¬ NoNamePart token?) :
    Lexer.hash (rest.map Char.toUpper) =
      (token?.map Token.asciiUpper, after.map Char.toUpper) := by
  have hsymbol : Lexer.symbol '#' rest ≠ (token?, after) :=
    symbol_ne hname (by decide) (by decide)
  cases rest with
  | nil => exact absurd h hsymbol
  | cons c behind =>
    simp only [Lexer.hash] at h
    split at h
    · exact absurd h hsymbol
    · rename_i hc
      have hword := word_toUpper ['#', c] behind
      rw [h] at hword
      simp (disch := decide) only [List.map_cons, Lexer.hash, beq_toUpper, hc]
      exact hword

theorem atSign_toUpper (h : atSign rest = (token?, after)) (hname : ¬ NoNamePart token?) :
    atSign (rest.map Char.toUpper) = (token?.map Token.asciiUpper, after.map Char.toUpper) := by
  have hsymbol : Lexer.symbol '@' rest ≠ (token?, after) :=
    symbol_ne hname (by decide) (by decide)
  cases rest with
  | nil => exact absurd h hsymbol
  | cons c behind =>
    by_cases hc : c = '@'
    · subst hc
      cases behind with
      | nil => exact absurd h hsymbol
      | cons d behind =>
        simp only [atSign] at h
        split at h
        · exact absurd h hsymbol
        · rename_i hd
          have hword := word_toUpper ['@', '@', d] behind
          rw [h] at hword
          have hself : '@'.toUpper = '@' := rfl
          simp (disch := decide) only [List.map_cons, hself, atSign, beq_toUpper, hd]
          exact hword
    · rw [atSign_cons hc] at h
      split at h
      · exact absurd h hsymbol
      · rename_i hno
        have hword := word_toUpper ['@', c] behind
        rw [h] at hword
        have hcontains : ['>', '?', ' ', '\'', '"', backquote].contains c.toUpper =
            ['>', '?', ' ', '\'', '"', backquote].contains c :=
          of_toUpper (p := fun c d => ['>', '?', ' ', '\'', '"', backquote].contains d =
            ['>', '?', ' ', '\'', '"', backquote].contains c) (by decide) (fun _ => rfl) c
        rw [List.map_cons, atSign_cons fun hupper => hc ((toUpper_eq_iff rfl c).1 hupper),
          hcontains, if_neg hno]
        exact hword

/-- A step that reads a part of a name, or nothing, takes the same branch in upper case. -/
theorem step_toUpper (h : Lexer.step c rest = some (token?, after))
    (hname : ¬ NoNamePart token?) : Lexer.step c.toUpper (rest.map Char.toUpper) =
      some (token?.map Token.asciiUpper, after.map Char.toUpper) := by
  have hbranch := branch_step c rest
  rw [h] at hbranch
  generalize hread : some (token?, after) = read at hbranch
  cases hbranch with
  | blank hc =>
    cases hread
    exact (Branch.blank ((isBlank_toUpper c).trans hc)).step_eq
  | marked _ _ hmarked =>
    subst hread
    exact absurd (noNamePart_marked hmarked) hname
  | word hblank hstart hmarked =>
    have hword := word_toUpper [c] rest
    rw [← Option.some.inj hread] at hword
    exact (Branch.word ((isBlank_toUpper c).trans hblank) ((isWordStart_toUpper c).trans hstart)
      (marked?_toUpper hmarked)).step_eq.trans (congrArg some hword)
  | quoted hc =>
    have hletter : c.isAlpha = false := by obtain rfl | rfl := hc <;> rfl
    rw [(toUpper_eq_iff hletter c).2 rfl, (Branch.quoted hc).step_eq]
    exact quoted_toUpper (fun text => .word ⟨text, some c⟩) (fun _ => rfl) hletter hread.symm
  | literal =>
    exact (Branch.literal _).step_eq.trans
      (quoted_toUpper .literal (fun _ => rfl) rfl hread.symm)
  | number hc =>
    have hno : NoNamePart (number (c :: rest)).1 := noNamePart_number hc
    rw [← Option.some.inj hread] at hno
    exact absurd hno hname
  | point => exact step_point_toUpper h hname
  | line behind =>
    cases hread
    rw [← dropWhile_toUpper fun d => congrArg not (beq_toUpper (d := '\n') rfl d)]
    exact (Branch.line _).step_eq
  | comment behind =>
    obtain ⟨back, hback, hread⟩ := Option.map_eq_some_iff.1 hread.symm
    cases hread
    have hupper := behindComment_toUpper 0 ' ' behind
    rw [hback] at hupper
    exact (Branch.comment _).step_eq.trans (congrArg (Option.map _) hupper)
  | dollar => exact absurd (noNamePart_dollar hread.symm) hname
  | placeholder =>
    cases hread
    exact absurd ⟨_, rfl, not_isNamePart rfl nofun⟩ hname
  | hash =>
    exact (Branch.hash _).step_eq.trans
      (congrArg some (hash_toUpper (Option.some.inj hread).symm hname))
  | atSign =>
    exact (Branch.atSign _).step_eq.trans
      (congrArg some (atSign_toUpper (Option.some.inj hread).symm hname))
  | symbol _ _ _ hother =>
    by_cases hcomma : c = ','
    · subst hcomma
      cases hread
      rfl
    · have hpoint : c ≠ '.' := by
        rintro rfl
        exact hother (by decide)
      exact absurd (Option.some.inj hread).symm (symbol_ne hname hpoint hcomma)

end

/-- A text of names is read alike in upper case. -/
theorem Lexes.toUpper {n : Nat} {cs back : List Char} {tokens : List Token}
    (h : Lexes n cs tokens back) (hnames : ∀ t ∈ tokens, t.IsNamePart) :
    Lexes n (cs.map Char.toUpper) (tokens.map Token.asciiUpper) (back.map Char.toUpper) := by
  induction h with
  | done => exact .done _
  | @step n c rest after back token? tokens hstep _ ih =>
    have hname : ¬ NoNamePart token? := by
      rintro ⟨t, rfl, ht⟩
      exact ht (hnames t (by simp))
    have hothers := ih fun t ht => hnames t (List.mem_append_right _ ht)
    have hread : token?.toList.map Token.asciiUpper = (token?.map Token.asciiUpper).toList := by
      cases token? <;> rfl
    rw [List.map_append, hread]
    exact .step (step_toUpper hstep hname) hothers

end Sql

end MatView
