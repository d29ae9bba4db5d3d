import MatView.Proofs.Sql.Lexing
import MatView.Sql.Reader

/-!
# What readers take

A reader that is put together from others takes what these take, one after the other. The readers of
single tokens and of names are described by the tokens that they take, so that the readers of the
grammar can be taken apart and put together again at these places.

## Main statements

* `Reader.bind_eq_ok`: what two readers take one after the other.
* `Reader.keyword_eq_ok`, `Reader.takeIf_eq_ok_true`: what is taken as a single token.
* `Reader.objectName_eq_ok`: what is taken as a dotted name.
* `NameRead.unique`: tokens start with one dotted name at most.
-/

namespace MatView.Sql.Reader

variable {α β : Type} {x : Reader α} {f : α → Reader β} {a : α} {b : β}
  {tokens mid rest : List Token} {t : Token}

theorem bind_eq_ok : (x >>= f) tokens = .ok (b, rest) ↔
    ∃ a mid, x tokens = .ok (a, mid) ∧ f a mid = .ok (b, rest) := by
  change (x tokens >>= fun r => f r.1 r.2) = .ok (b, rest) ↔ _
  cases x tokens with
  | error e =>
    constructor
    · intro h
      cases h
    · rintro ⟨_, _, h, -⟩
      cases h
  | ok r =>
    constructor
    · intro h
      exact ⟨r.1, r.2, rfl, h⟩
    · rintro ⟨_, _, h, hf⟩
      cases h
      exact hf

theorem bind_of_ok (h : x tokens = .ok (a, mid)) : (x >>= f) tokens = f a mid := by
  change (x tokens >>= fun r => f r.1 r.2) = f a mid
  rw [h]
  rfl

theorem bind_congr_of_eq {y : Reader α} (h : x tokens = y tokens) :
    (x >>= f) tokens = (y >>= f) tokens := by
  change (x tokens >>= fun r => f r.1 r.2) = (y tokens >>= fun r => f r.1 r.2)
  rw [h]

theorem pure_eq_ok {c : α} :
    (pure a : Reader α) tokens = .ok (c, rest) ↔ a = c ∧ tokens = rest := by
  constructor
  · intro h
    cases h
    exact ⟨rfl, rfl⟩
  · rintro ⟨rfl, rfl⟩
    rfl

/-! ## Single tokens -/

theorem peek_run (tokens : List Token) : peek tokens = .ok (tokens.head?, tokens) := rfl

theorem peekSecond_run (tokens : List Token) : peekSecond tokens = .ok (tokens[1]?, tokens) := rfl

theorem atSymbol_run (text : String) (tokens : List Token) :
    atSymbol text tokens = .ok (tokens.head? == some (.symbol text), tokens) := rfl

theorem takeIf_cons_of_pos {p : Token → Bool} (h : p t = true) :
    takeIf p (t :: rest) = .ok (true, rest) := by
  change (if p t = true then _ else _ : Reader Bool) (t :: rest) = _
  rw [if_pos h]
  rfl

theorem takeIf_of_neg {p : Token → Bool} (h : ∀ t, tokens.head? = some t → p t = false) :
    takeIf p tokens = .ok (false, tokens) := by
  cases tokens with
  | nil => rfl
  | cons t rest =>
    change (if p t = true then _ else _ : Reader Bool) (t :: rest) = _
    rw [if_neg (by simp [h t rfl])]
    rfl

theorem takeIf_eq_ok_true {p : Token → Bool} (h : takeIf p tokens = .ok (true, rest)) :
    ∃ t, tokens = t :: rest ∧ p t = true := by
  cases tokens with
  | nil => cases h
  | cons t others =>
    cases ht : p t with
    | false =>
      rw [takeIf_of_neg fun t' h' => by cases h'; exact ht] at h
      cases h
    | true =>
      rw [takeIf_cons_of_pos ht] at h
      cases h
      exact ⟨t, rfl, ht⟩

theorem takeIf_eq_ok_false {p : Token → Bool} (h : takeIf p tokens = .ok (false, rest)) :
    rest = tokens ∧ ∀ t, tokens.head? = some t → p t = false := by
  cases tokens with
  | nil =>
    cases h
    exact ⟨rfl, by simp⟩
  | cons t others =>
    cases ht : p t with
    | true =>
      rw [takeIf_cons_of_pos ht] at h
      cases h
    | false =>
      rw [takeIf_of_neg fun t' h' => by cases h'; exact ht] at h
      cases h
      exact ⟨rfl, fun t' h' => by cases h'; exact ht⟩

/-- A reserved word was read. -/
theorem keyword_eq_ok {word : String} {u : Unit} (h : keyword word tokens = .ok (u, rest)) :
    ∃ t, tokens = t :: rest ∧ t.keyword? = some word := by
  obtain ⟨found, mid, hfound, hdone⟩ := bind_eq_ok.1 h
  cases found with
  | false => cases hdone
  | true =>
    obtain ⟨t, rfl, ht⟩ := takeIf_eq_ok_true hfound
    cases hdone
    exact ⟨t, rfl, eq_of_beq ht⟩

theorem symbol?_cons (text : String) (rest : List Token) :
    symbol? text (.symbol text :: rest) = .ok (true, rest) :=
  takeIf_cons_of_pos (by simp)

theorem symbol?_of_ne {text : String} (h : tokens.head? ≠ some (.symbol text)) :
    symbol? text tokens = .ok (false, tokens) := by
  refine takeIf_of_neg fun t ht => ?_
  rw [beq_eq_false_iff_ne]
  rintro rfl
  exact h ht

theorem oneOf?_none {words : List String}
    (h : ∀ word, tokens.head?.bind Token.keyword? = some word → word ∉ words) :
    oneOf? words tokens = .ok (none, tokens) := by
  unfold oneOf?
  rw [bind_of_ok (peek_run tokens)]
  cases hword : tokens.head?.bind Token.keyword? with
  | none => rfl
  | some word =>
    have hnot : words.contains word = false := by simpa using h word hword
    simp only [hnot]
    rfl

theorem isAmong_eq_true {word : String} {words : List String} (ht : t.keyword? = some word)
    (hword : word ∈ words) : t.isAmong words = true := by
  rw [Token.isAmong, ht, Option.any_some]
  simpa using hword

theorem startsWith_cons {word : String} {words : List String} (ht : t.keyword? = some word)
    (hword : word ∈ words) : startsWith words (t :: rest) = .ok (true, t :: rest) := by
  change Except.ok (t.isAmong words, t :: rest) = _
  rw [isAmong_eq_true ht hword]

/-! ## Names -/

theorem ident_eq_ok {i : Ident} : ident tokens = .ok (i, rest) ↔
    ∃ t, tokens = t :: rest ∧ t.ident? = some i := by
  cases tokens with
  | nil =>
    constructor
    · intro h
      cases h
    · rintro ⟨t, h, -⟩
      cases h
  | cons t others =>
    constructor
    · intro h
      cases t <;> cases h <;> exact ⟨_, rfl, rfl⟩
    · rintro ⟨t, h, hi⟩
      cases h
      cases t <;> cases hi <;> rfl

/-- The rest of a dotted name, as far as the number of tokens allows. -/
theorem manyUpTo_ident_eq_ok {n : Nat} {name : List Ident} (hn : tokens.length ≤ n) :
    manyUpTo (symbol? ".") ident n tokens = .ok (name, rest) ↔
      (name = [] ∧ rest = tokens ∧ tokens.head? ≠ some (.symbol ".")) ∨
      ∃ others, tokens = .symbol "." :: others ∧ NameRead others name rest := by
  induction n generalizing tokens name with
  | zero =>
    obtain rfl : tokens = [] := List.eq_nil_of_length_eq_zero (Nat.le_zero.1 hn)
    constructor
    · intro h
      cases h
      exact .inl ⟨rfl, rfl, by simp⟩
    · rintro (⟨rfl, rfl, -⟩ | ⟨others, h, -⟩)
      · rfl
      · cases h
  | succ n ih =>
    by_cases hpoint : tokens.head? = some (.symbol ".")
    · obtain ⟨others, rfl⟩ := List.head?_eq_some_iff.1 hpoint
      rw [manyUpTo, bind_of_ok (symbol?_cons "." others), if_pos rfl, bind_eq_ok]
      constructor
      · rintro ⟨i, mid, hi, h⟩
        obtain ⟨t, rfl, ht⟩ := ident_eq_ok.1 hi
        obtain ⟨others, rest', hothers, h⟩ := bind_eq_ok.1 h
        obtain ⟨rfl, rfl⟩ := pure_eq_ok.1 h
        have hlength : mid.length ≤ n := by
          simp only [List.length_cons] at hn
          omega
        obtain ⟨rfl, rfl, hrest⟩ | ⟨behind, rfl, hread⟩ := (ih hlength).1 hothers
        · exact .inr ⟨_, rfl, .last ht hrest⟩
        · exact .inr ⟨_, rfl, .more ht hread⟩
      · rintro (⟨-, -, h⟩ | ⟨others', h, hread⟩)
        · exact absurd hpoint h
        · cases h
          cases hread with
          | @last t i _ ht hrest =>
            have hlength : rest.length ≤ n := by
              simp only [List.length_cons] at hn
              omega
            exact ⟨i, rest, ident_eq_ok.2 ⟨t, rfl, ht⟩, bind_eq_ok.2 ⟨[], rest,
              (ih hlength).2 (.inl ⟨rfl, rfl, hrest⟩), rfl⟩⟩
          | @more t i behind _ name ht hread =>
            have hlength : (Token.symbol "." :: behind).length ≤ n := by
              simp only [List.length_cons] at hn ⊢
              omega
            exact ⟨i, _, ident_eq_ok.2 ⟨t, rfl, ht⟩, bind_eq_ok.2 ⟨name, rest,
              (ih hlength).2 (.inr ⟨behind, rfl, hread⟩), rfl⟩⟩
    · rw [manyUpTo, bind_of_ok (symbol?_of_ne hpoint), if_neg Bool.false_ne_true]
      constructor
      · intro h
        obtain ⟨rfl, rfl⟩ := pure_eq_ok.1 h
        exact .inl ⟨rfl, rfl, hpoint⟩
      · rintro (⟨rfl, rfl, -⟩ | ⟨others, rfl, -⟩)
        · rfl
        · exact absurd rfl hpoint

/-- What is read as a dotted name. -/
theorem objectName_eq_ok {name : List Ident} :
    objectName tokens = .ok (name, rest) ↔ NameRead tokens name rest := by
  have hmany : ∀ mid : List Token, many (symbol? ".") ident mid =
      manyUpTo (symbol? ".") ident mid.length mid := fun _ => rfl
  rw [objectName, bind_eq_ok]
  constructor
  · rintro ⟨i, mid, hi, h⟩
    obtain ⟨t, rfl, ht⟩ := ident_eq_ok.1 hi
    obtain ⟨others, rest', hothers, h⟩ := bind_eq_ok.1 h
    obtain ⟨rfl, rfl⟩ := pure_eq_ok.1 h
    rw [hmany] at hothers
    obtain ⟨rfl, rfl, hrest⟩ | ⟨behind, rfl, hread⟩ :=
      (manyUpTo_ident_eq_ok (Nat.le_refl _)).1 hothers
    · exact .last ht hrest
    · exact .more ht hread
  · intro h
    cases h with
    | @last t i _ ht hrest =>
      exact ⟨i, rest, ident_eq_ok.2 ⟨t, rfl, ht⟩, bind_eq_ok.2 ⟨[], rest,
        (manyUpTo_ident_eq_ok (Nat.le_refl _)).2 (.inl ⟨rfl, rfl, hrest⟩), rfl⟩⟩
    | @more t i behind _ name ht hread =>
      exact ⟨i, _, ident_eq_ok.2 ⟨t, rfl, ht⟩, bind_eq_ok.2 ⟨name, rest,
        (manyUpTo_ident_eq_ok (Nat.le_refl _)).2 (.inr ⟨behind, rfl, hread⟩), rfl⟩⟩

end MatView.Sql.Reader

namespace MatView.Sql

open Reader

/-- Tokens start with one dotted name at most. -/
theorem NameRead.unique {tokens rest rest' : List Token} {name name' : List Ident}
    (h : NameRead tokens name rest) (h' : NameRead tokens name' rest') :
    name' = name ∧ rest' = rest := by
  have heq := objectName_eq_ok.2 h
  rw [objectName_eq_ok.2 h', Except.ok.injEq, Prod.mk.injEq] at heq
  exact heq

end MatView.Sql
