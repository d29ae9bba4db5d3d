import MatView.Proofs.Sql.Reading
import MatView.Sql.Expression

/-!
# Expressions that are columns

Of all expressions, only the bare dotted name is a column. What is read as a column is therefore
nothing but the name, with no operator and no parenthesis behind it.

## Main definitions

* `Apart`: readers that never find a column.
* `Completes`: readers behind a name that find a column only if the name goes on.

## Main statements

* `exprAbove_column`: what is read as a column is a dotted name.
-/

namespace MatView.Sql

open Reader

/-! ## Readers that find no column -/

/-- A reader that never finds a column. -/
def Apart (r : Reader Expr) : Prop :=
  ∀ tokens parts rest, r tokens ≠ .ok (.column parts, rest)

namespace Apart

variable {α : Type} {x : Reader α} {f : α → Reader Expr}

theorem bind (h : ∀ a, Apart (f a)) : Apart (x >>= f) := by
  intro tokens parts rest hx
  obtain ⟨a, mid, -, ha⟩ := bind_eq_ok.1 hx
  exact h a mid parts rest ha

theorem compound (text : String) : Apart (pure (.compound text)) := by
  rintro tokens parts rest ⟨⟩

theorem subquery (text : String) : Apart (pure (.subquery text)) := by
  rintro tokens parts rest ⟨⟩

theorem fail : Apart Reader.fail := by
  rintro tokens parts rest ⟨⟩

theorem ite {c : Prop} [Decidable c] {r s : Reader Expr} (hr : Apart r) (hs : Apart s) :
    Apart (if c then r else s) := by
  split
  · exact hr
  · exact hs

theorem inParens {r : Reader Expr} (h : Apart r) : Apart (Reader.inParens r) := by
  intro tokens parts rest hr
  obtain ⟨_, mid, -, hr⟩ := bind_eq_ok.1 hr
  obtain ⟨e, mid', he, hr⟩ := bind_eq_ok.1 hr
  obtain ⟨_, mid'', -, hr⟩ := bind_eq_ok.1 hr
  obtain ⟨rfl, -⟩ := pure_eq_ok.1 hr
  exact h _ _ _ he

theorem text {x : Reader String} {g : String → String} :
    Apart (do return .compound (g (← x))) :=
  bind fun _ => compound _

end Apart

section

variable {inner : Inner} {value : Reader Expr} {name : Ident}

theorem apart_negation : Apart (negation inner) :=
  .bind fun _ => .ite .text (.bind fun _ => .compound _)

theorem apart_nested : Apart (nested inner) := by
  intro tokens parts rest h
  have hinside : Apart (inParens do
      if ← Inner.atQuery then return Expr.subquery (← inner.query).text
      else return Expr.compound (parens (← inner.listText))) :=
    .inParens (.bind fun _ => .ite (.bind fun _ => .subquery _) .text)
  obtain ⟨e, mid, he, h⟩ := bind_eq_ok.1 h
  obtain ⟨pointed, mid', -, h⟩ := bind_eq_ok.1 h
  cases pointed with
  | true =>
    obtain ⟨t, mid'', -, h⟩ := bind_eq_ok.1 h
    cases t <;> cases h
  | false =>
    obtain ⟨rfl, -⟩ := pure_eq_ok.1 h
    exact hinside _ _ _ he

theorem apart_call (text : String) : Apart (call inner value text) := by
  refine .bind fun _ => .bind fun _ => .bind fun _ => .bind fun _ => .ite ?_ ?_
  · exact .bind fun _ => .bind fun _ => .compound _
  · exact .bind fun _ => .bind fun _ => .compound _

theorem apart_typedLiteral : Apart (typedLiteral value) := by
  refine .bind fun type => ?_
  cases type.kind with
  | standard => exact .text
  | interval => exact .bind fun _ => .compound _
  | named => exact .fail

theorem apart_extendBySymbol (left : Expr) (text : String) (strength : Nat) :
    Apart (extendBySymbol inner left text strength) := by
  unfold extendBySymbol
  split
  · exact .bind fun _ => .compound _
  · exact .compound _
  · exact .bind fun _ => .compound _
  · exact .fail
  · exact .bind fun _ => .compound _

theorem apart_extend (left : Expr) (strength : Nat) : Apart (extend inner left strength) := by
  unfold extend
  refine .bind fun t => ?_
  split
  · exact .bind fun _ => apart_extendBySymbol _ _ _
  · refine .bind fun word? => ?_
    split
    · exact .bind fun _ => .compound _
    · exact .bind fun _ => .compound _
    · exact .bind fun _ => .bind fun _ => .compound _
    · exact .bind fun _ => .bind fun _ => .compound _
    · exact .fail
    · exact .bind fun _ => .compound _
    · exact .bind fun _ => .compound _

end

/-! ## Columns -/

/-- A reader behind a name that finds a column only if the name goes on as a dotted one, with no
parenthesis behind it. -/
def Completes (name : Ident) (r : Reader Expr) : Prop :=
  ∀ tokens parts rest, r tokens = .ok (.column parts, rest) →
    NameRead (.word name :: tokens) parts rest ∧ rest.head? ≠ some (.symbol "(")

section

variable {inner : Inner} {value : Reader Expr} {name : Ident} {parts : List Ident}
  {tokens rest : List Token}

theorem Apart.completes {r : Reader Expr} (h : Apart r) : Completes name r :=
  fun tokens parts rest hr => absurd hr (h tokens parts rest)

/-- A look at the tokens takes none of them. -/
theorem Completes.bind_look {α : Type} {x : Reader α} {f : α → Reader Expr}
    (hx : ∀ tokens, ∃ a, x tokens = .ok (a, tokens)) (h : ∀ a, Completes name (f a)) :
    Completes name (x >>= f) := by
  intro tokens parts rest hr
  obtain ⟨a, ha⟩ := hx tokens
  rw [bind_of_ok ha] at hr
  exact h a tokens parts rest hr

theorem Completes.ite {c : Prop} [Decidable c] {r s : Reader Expr} (hr : Completes name r)
    (hs : Completes name s) : Completes name (if c then r else s) := by
  split
  · exact hr
  · exact hs

theorem atIntroduced_run (tokens : List Token) : ∃ a, atIntroduced tokens = .ok (a, tokens) := by
  unfold atIntroduced
  rw [bind_of_ok (peek_run tokens)]
  generalize tokens.head? = t
  split <;> exact ⟨_, rfl⟩

theorem apart_introduced : Apart (introduced name) := by
  refine .bind fun t => ?_
  cases t <;> first | exact .compound _ | exact .fail

/-- A name is a column if no parenthesis stands behind it. -/
theorem completes_parts : Completes name (do
    let parts := name :: (← many (symbol? ".") ident)
    if ← atSymbol "(" then call inner value (dotted parts) else return .column parts) := by
  intro tokens parts rest h
  obtain ⟨others, mid, hothers, h⟩ := bind_eq_ok.1 h
  rw [bind_of_ok (atSymbol_run "(" mid)] at h
  cases hopen : mid.head? == some (Token.symbol "(") with
  | true =>
    rw [hopen] at h
    exact absurd h (apart_call _ _ _ _)
  | false =>
    rw [hopen] at h
    cases h
    refine ⟨objectName_eq_ok.1 (bind_eq_ok.2 ⟨name, tokens, rfl, ?_⟩), by simpa using hopen⟩
    exact bind_eq_ok.2 ⟨others, _, hothers, rfl⟩

theorem completes_named : Completes name (named inner value name) :=
  .bind_look atIntroduced_run fun _ => .ite apart_introduced.completes completes_parts

theorem completes_wordedBefore (word text : String) :
    Completes name (wordedBefore inner value name word text) := by
  unfold wordedBefore
  split
  · refine Apart.completes (.bind fun found => ?_)
    cases found with
    | some text => exact .compound _
    | none => exact apart_call _
  · exact Apart.completes .text
  · exact Apart.completes .text
  · exact Apart.completes (.bind fun _ => .compound _)
  · exact completes_named

theorem completes_worded : Completes name (worded inner value name) := by
  unfold worded
  split
  · exact apart_negation.completes
  · split
    · exact Apart.completes (.bind fun _ => .compound _)
    · refine .ite (Apart.completes (.bind fun _ => .compound _)) ?_
      refine .bind_look (fun tokens => ⟨_, peek_run tokens⟩) fun t => ?_
      split
      · exact completes_wordedBefore _ _
      · exact completes_named
  · exact completes_named

/-- An operand that is a column is a dotted name. -/
theorem bareOperand_column (h : bareOperand inner value tokens = .ok (.column parts, rest)) :
    NameRead tokens parts rest ∧ rest.head? ≠ some (.symbol "(") := by
  unfold bareOperand at h
  rw [bind_of_ok (peek_run tokens)] at h
  have happart : ∀ {r : Reader Expr}, Apart r → r tokens = .ok (.column parts, rest) →
      NameRead tokens parts rest ∧ rest.head? ≠ some (.symbol "(") :=
    fun hr h => absurd h (hr _ _ _)
  generalize hhead : tokens.head? = t at h
  split at h
  · rename_i name
    obtain ⟨others, rfl⟩ := List.head?_eq_some_iff.1 hhead
    exact completes_worded _ _ _ h
  · exact happart apart_nested h
  · exact happart (.bind fun _ => .compound _) h
  · exact happart (.bind fun _ => .compound _) h
  · exact happart (.bind fun _ => .bind fun _ => .compound _) h
  · exact happart (.bind fun _ => .bind fun _ => .compound _) h
  · exact happart (.bind fun _ => .compound _) h

theorem attempt_eq_ok {α : Type} {r : Reader α} {a? : Option α}
    (h : attempt r tokens = .ok (a?, rest)) :
    (∃ a, a? = some a ∧ r tokens = .ok (a, rest)) ∨
      (a? = none ∧ rest = tokens ∧ r tokens = .error .grammar) := by
  unfold attempt at h
  split at h
  · rename_i hr
    cases h
    exact .inl ⟨_, rfl, hr⟩
  · rename_i hr
    cases h
    exact .inr ⟨rfl, rfl, hr⟩
  · cases h

theorem operandUpTo_column {n : Nat} (h : operandUpTo inner n tokens = .ok (.column parts, rest)) :
    NameRead tokens parts rest ∧ rest.head? ≠ some (.symbol "(") := by
  cases n with
  | zero => cases h
  | succ n =>
    obtain ⟨typed?, mid, htyped, hbare⟩ := bind_eq_ok.1 h
    obtain ⟨e, rfl, hread⟩ | ⟨rfl, rfl, -⟩ := attempt_eq_ok htyped
    · obtain ⟨rfl, -⟩ := pure_eq_ok.1 hbare
      exact absurd hread (apart_typedLiteral _ _ _)
    · obtain ⟨e, mid', he, hcollate⟩ := bind_eq_ok.1 hbare
      obtain ⟨collated, mid'', hcollated, hdone⟩ := bind_eq_ok.1 hcollate
      cases collated with
      | true =>
        obtain ⟨name, _, -, hdone⟩ := bind_eq_ok.1 hdone
        cases hdone
      | false =>
        obtain ⟨rfl, rfl⟩ := pure_eq_ok.1 hdone
        obtain ⟨rfl, -⟩ := takeIf_eq_ok_false hcollated
        exact bareOperand_column he

/-- Nothing with an operator is a column. -/
theorem extendWhile_column {strength n : Nat} {left : Expr}
    (h : extendWhile inner strength n left tokens = .ok (.column parts, rest)) :
    left = .column parts ∧ rest = tokens := by
  have hstop : ∀ n left tokens, (∀ parts, left ≠ .column parts) → ∀ rest,
      extendWhile inner strength n left tokens ≠ .ok (.column parts, rest) := by
    intro n
    induction n with
    | zero =>
      intro left tokens hleft rest h
      cases h
      exact hleft _ rfl
    | succ n ih =>
      intro left tokens hleft rest h
      obtain ⟨found, mid, -, h⟩ := bind_eq_ok.1 h
      split at h
      · obtain ⟨e, mid', he, h⟩ := bind_eq_ok.1 h
        refine ih e mid' ?_ rest h
        rintro parts rfl
        exact apart_extend _ _ _ _ _ he
      · cases h
        exact hleft _ rfl
  cases n with
  | zero =>
    cases h
    exact ⟨rfl, rfl⟩
  | succ n =>
    obtain ⟨found, mid, hfound, h⟩ := bind_eq_ok.1 h
    cases hfound
    split at h
    · obtain ⟨e, mid', he, h⟩ := bind_eq_ok.1 h
      refine absurd h (hstop n e mid' ?_ rest)
      rintro parts rfl
      exact apart_extend _ _ _ _ _ he
    · cases h
      exact ⟨rfl, rfl⟩

/-- What is read as a column is a dotted name, with no operator and no parenthesis behind it. -/
theorem exprAbove_column {strength : Nat}
    (h : exprAbove inner strength tokens = .ok (.column parts, rest)) :
    NameRead tokens parts rest ∧ rest.head? ≠ some (.symbol "(") := by
  obtain ⟨left, mid, hleft, h⟩ := bind_eq_ok.1 h
  obtain ⟨count, mid', hcount, h⟩ := bind_eq_ok.1 h
  cases hcount
  obtain ⟨rfl, rfl⟩ := extendWhile_column h
  obtain ⟨n, mid', hn, hleft⟩ := bind_eq_ok.1 hleft
  cases hn
  exact operandUpTo_column hleft

end

end MatView.Sql
