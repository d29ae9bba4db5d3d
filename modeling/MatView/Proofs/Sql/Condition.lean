import MatView.Proofs.Query.Outer
import MatView.Proofs.Sql.SelectList

/-!
# The condition of a query

The condition of a query starts at the word `WHERE` of its outer `SELECT`, behind the tables. It is
found by reading everything in front of it, so that no other `WHERE` is taken for it: neither one in
a common table nor one in a derived table or between quotes.

## Main definitions

* `toCondition`: reading a query up to its condition.
* `OuterWhere`: the tokens of a query from the word of its condition on.

## Main statements

* `Query.exists_outerWhere`: a query with tables and a condition comes to its word.
-/

namespace MatView

open Sql Reader

namespace Sql

/-- Reads a statement up to where the condition of its outer query may stand. -/
def toCondition (inner : Inner) : Reader Unit := do
  skip (opening inner)
  skip (commaList (table inner))
  skip (many (keywords? ["LATERAL", "VIEW"]) (lateralView inner))
  skip (inner.clause "PREWHERE")

/-- The outer query of a statement has a condition, and `region` starts at its word `WHERE`. -/
def OuterWhere (tokens region : List Token) : Prop :=
  toCondition (level false (maxDepth - 2)) tokens = .ok ((), region) ∧
    ∃ t others, region = t :: others ∧ t.keyword? = some "WHERE"

section

variable {α : Type} {inner : Inner} {n : Nat} {tokens mid rest : List Token} {s : Select}
  {q : QueryExpr} {text clauses : String}

theorem skip_of_ok {r : Reader α} {a : α} (h : r tokens = .ok (a, rest)) :
    skip r tokens = .ok ((), rest) :=
  bind_eq_ok.2 ⟨a, rest, h, rfl⟩

theorem startsWith_run (words : List String) (tokens : List Token) :
    startsWith words tokens = .ok (tokens.head?.any (·.isAmong words), tokens) := rfl

/-- One of some words is taken, or nothing. -/
theorem oneOf?_cases {words : List String} {word? : Option String}
    (h : oneOf? words tokens = .ok (word?, rest)) :
    word? = none ∧ rest = tokens ∨ ∃ word ∈ words, word? = some word := by
  rw [oneOf?, bind_of_ok (peek_run tokens)] at h
  cases hword : tokens.head?.bind Token.keyword? with
  | none =>
    rw [hword] at h
    obtain ⟨rfl, rfl⟩ := pure_eq_ok.1 h
    exact .inl ⟨rfl, rfl⟩
  | some word =>
    rw [hword] at h
    dsimp only at h
    by_cases hmem : words.contains word = true
    · rw [if_pos hmem] at h
      obtain ⟨_, _, -, h⟩ := bind_eq_ok.1 h
      obtain ⟨rfl, -⟩ := pure_eq_ok.1 h
      exact .inr ⟨word, by simpa using hmem, rfl⟩
    · rw [if_neg hmem] at h
      obtain ⟨rfl, rfl⟩ := pure_eq_ok.1 h
      exact .inl ⟨rfl, rfl⟩

/-- A word that a text starts with is its first token. -/
theorem exists_keyword_of_startsWith {word : String}
    (h : startsWith [word] tokens = .ok (true, rest)) :
    rest = tokens ∧ ∃ t others, tokens = t :: others ∧ t.keyword? = some word := by
  rw [startsWith_run, Except.ok.injEq, Prod.mk.injEq] at h
  obtain ⟨hfirst, rfl⟩ := h
  obtain ⟨t, ht, hword⟩ := (Option.any_eq_true _ _).1 hfirst
  obtain ⟨others, rfl⟩ := List.head?_eq_some_iff.1 ht
  obtain ⟨found, hfound, hmem⟩ := (Option.any_eq_true _ _).1 hword
  obtain rfl : found = word := by simpa using hmem
  exact ⟨rfl, t, others, rfl, hfound⟩

/-- What is read as a select list starts with its word. -/
theorem keyword_of_simpleBody (h : simpleBody inner tokens = .ok (⟨.select s, text⟩, rest)) :
    ∃ mid, keyword "SELECT" tokens = .ok ((), mid) := by
  obtain ⟨isSelect, m₁, hselect, hbody⟩ := bind_eq_ok.1 h
  cases isSelect with
  | true =>
    obtain ⟨rfl, -⟩ := exists_keyword_of_startsWith hselect
    rw [if_pos rfl] at hbody
    obtain ⟨⟨s', text'⟩, m₂, hlist, -⟩ := bind_eq_ok.1 hbody
    obtain ⟨head, m₃, hhead, -⟩ := bind_eq_ok.1 hlist
    obtain ⟨⟨⟩, mid, hword, -⟩ := bind_eq_ok.1 hhead
    exact ⟨mid, hword⟩
  | false =>
    rw [if_neg Bool.false_ne_true] at hbody
    obtain ⟨isValues, m₂, -, hbody'⟩ := bind_eq_ok.1 hbody
    cases isValues with
    | true =>
      obtain ⟨found, m₃, -, hfound⟩ := bind_eq_ok.1 hbody'
      cases hfound
    | false =>
      rw [if_neg Bool.false_ne_true] at hbody'
      obtain ⟨isTable, m₃, -, hbody''⟩ := bind_eq_ok.1 hbody'
      cases isTable <;>
      · obtain ⟨found, m₄, -, hfound⟩ := bind_eq_ok.1 hbody''
        cases hfound

/-- A query that is read as a select list starts with this list, if need be behind common tables. -/
theorem commonTables_of_queryExpr (h : queryExpr inner tokens = .ok (⟨.select s, text⟩, rest)) :
    ∃ front mid mid', commonTables inner tokens = .ok (front, mid) ∧
      keyword "SELECT" mid = .ok ((), mid') := by
  obtain ⟨front, m₁, hfront, hquery⟩ := bind_eq_ok.1 h
  obtain ⟨change?, m₂, hchange, hlist⟩ := bind_eq_ok.1 hquery
  obtain ⟨rfl, rfl⟩ | ⟨word, hword, rfl⟩ := oneOf?_cases hchange
  · obtain ⟨q, m₃, hbody, htail⟩ := bind_eq_ok.1 hlist
    obtain ⟨tail, m₄, -, hdone⟩ := bind_eq_ok.1 htail
    obtain ⟨heq, -⟩ := pure_eq_ok.1 hdone
    obtain ⟨first, m₅, hfirst, hoperations⟩ := bind_eq_ok.1 hbody
    obtain ⟨count, m₆, -, hoperations'⟩ := bind_eq_ok.1 hoperations
    obtain ⟨operations, m₇, -, hwhole⟩ := bind_eq_ok.1 hoperations'
    cases operations with
    | cons o os =>
      obtain ⟨rfl, -⟩ := pure_eq_ok.1 hwhole
      cases heq
    | nil =>
      obtain ⟨rfl, -⟩ := pure_eq_ok.1 hwhole
      obtain ⟨body, text'⟩ := first
      cases heq
      obtain ⟨mid, hmid⟩ := keyword_of_simpleBody hfirst
      exact ⟨front, m₂, mid, hfront, hmid⟩
  · -- a change of rows in place of the list is no select list
    simp only [List.mem_cons, List.not_mem_nil, or_false] at hword
    obtain rfl | rfl := hword
    · obtain ⟨_, _, -, hdone⟩ := bind_eq_ok.1 hlist
      cases hdone
    · obtain ⟨_, _, -, hdone⟩ := bind_eq_ok.1 hlist
      cases hdone

theorem atStatementQuery_eq_ok {isQuery : Bool}
    (h : atStatementQuery tokens = .ok (isQuery, rest)) : rest = tokens := by
  rw [atStatementQuery, bind_of_ok (atSymbol_run "(" tokens)] at h
  by_cases hopen : (tokens.head? == some (.symbol "(")) = true
  · rw [if_pos hopen] at h
    exact (pure_eq_ok.1 h).2.symm
  · rw [if_neg hopen, startsWith_run, Except.ok.injEq, Prod.mk.injEq] at h
    exact h.2.symm

/-- A statement is a query if it is read as one. -/
theorem queryExpr_of_statementAt (h : statementAt (n + 2) tokens = .ok (.query q, rest)) :
    queryExpr (level false n) tokens = .ok (q, rest) := by
  obtain ⟨isQuery, m₁, hquery, hfound⟩ := bind_eq_ok.1 h
  obtain rfl := atStatementQuery_eq_ok hquery
  cases isQuery with
  | true =>
    rw [if_pos rfl] at hfound
    obtain ⟨found, m₂, hexpr, hdone⟩ := bind_eq_ok.1 hfound
    cases hdone
    exact hexpr
  | false =>
    rw [if_neg Bool.false_ne_true] at hfound
    obtain ⟨t, m₂, -, hcommand⟩ := bind_eq_ok.1 hfound
    cases hword : t.keyword? with
    | none =>
      rw [hword] at hcommand
      cases hcommand
    | some word =>
      rw [hword] at hcommand
      obtain ⟨kind, m₃, -, hdone⟩ := bind_eq_ok.1 hcommand
      cases hdone

/-- A statement that is one select list comes to the word `SELECT`. -/
theorem listOpening_of_statements
    (h : statements (statementAt (n + 2)) tokens = .ok ([.query ⟨.select s, text⟩], rest)) :
    ∃ front mid, listOpening (level false n) tokens = .ok (front, mid) := by
  obtain ⟨count, m₀, hcount, hstatements⟩ := bind_eq_ok.1 h
  obtain ⟨rfl, rfl⟩ := pure_eq_ok.1 hcount
  obtain ⟨semis, m₁, hsemis, hfirst⟩ := bind_eq_ok.1 hstatements
  rw [bind_of_ok (peek_run m₁)] at hfirst
  cases hhead : m₁.head? with
  | none =>
    rw [hhead] at hfirst
    obtain ⟨heq, -⟩ := pure_eq_ok.1 hfirst
    cases heq
  | some t =>
    rw [hhead] at hfirst
    dsimp only at hfirst
    rw [Bool.true_or, if_pos rfl] at hfirst
    obtain ⟨st, m₂, hst, hothers⟩ := bind_eq_ok.1 hfirst
    obtain ⟨others, m₃, -, hdone⟩ := bind_eq_ok.1 hothers
    obtain ⟨heq, -⟩ := pure_eq_ok.1 hdone
    cases heq
    obtain ⟨front, mid, mid', hfront, hselect⟩ :=
      commonTables_of_queryExpr (queryExpr_of_statementAt hst)
    exact ⟨front, mid', bind_eq_ok.2 ⟨_, _, skip_of_ok hsemis, bind_eq_ok.2 ⟨_, _, hfront,
      bind_eq_ok.2 ⟨_, _, hselect, rfl⟩⟩⟩⟩

/-- The clauses of a select list with a condition come to its word. -/
theorem where_of_selectClauses (h : selectClauses inner tokens = .ok ((true, clauses), rest)) :
    ∃ views mid early region, many (keywords? ["LATERAL", "VIEW"]) (lateralView inner) tokens =
        .ok (views, mid) ∧ inner.clause "PREWHERE" mid = .ok (early, region) ∧
      ∃ t others, region = t :: others ∧ t.keyword? = some "WHERE" := by
  obtain ⟨views, m₁, hviews, h⟩ := bind_eq_ok.1 h
  obtain ⟨early, m₂, hearly, h⟩ := bind_eq_ok.1 h
  obtain ⟨hasWhere, m₃, hwhere, h⟩ := bind_eq_ok.1 h
  obtain ⟨condition, m₄, -, h⟩ := bind_eq_ok.1 h
  obtain ⟨groups, m₅, -, h⟩ := bind_eq_ok.1 h
  obtain ⟨clusters, m₆, -, h⟩ := bind_eq_ok.1 h
  obtain ⟨distribution, m₇, -, h⟩ := bind_eq_ok.1 h
  obtain ⟨sorting, m₈, -, h⟩ := bind_eq_ok.1 h
  obtain ⟨having, m₉, -, h⟩ := bind_eq_ok.1 h
  obtain ⟨windows, m₁₀, -, h⟩ := bind_eq_ok.1 h
  obtain ⟨connection, m₁₁, -, h⟩ := bind_eq_ok.1 h
  obtain ⟨heq, -⟩ := pure_eq_ok.1 h
  cases heq
  obtain ⟨-, t, others, rfl, ht⟩ := exists_keyword_of_startsWith hwhere
  exact ⟨views, m₁, early, _, hviews, hearly, t, others, rfl, ht⟩

/-- A statement with tables and a condition comes to the word of this condition. -/
theorem exists_outerWhere_of_statements {last : List Token}
    (h : statements (statementAt maxDepth) tokens = .ok ([.query ⟨.select s, text⟩], last))
    (htables : s.tables ≠ []) (hwhere : s.hasWhere = true) : ∃ region, OuterWhere tokens region := by
  obtain ⟨front, mid, hlist⟩ := listOpening_of_statements (n := maxDepth - 2) h
  obtain ⟨head, m, hhead, -, htail⟩ := exists_listHead_of_statements hlist h
  obtain ⟨rest, hfrom⟩ := htail htables
  have hopening := opening_of_listOpening hlist hhead hfrom
  obtain ⟨m₁, hbehind, -⟩ := (statements_eq_ok hopening).1 ⟨text, last, h⟩
  obtain ⟨tables, hasWhere, clauses, m₂, m₃, hfound, hclauses, -, rfl⟩ :=
    behindOpening_eq_ok.1 hbehind
  cases hwhere
  obtain ⟨views, m₄, early, region, hviews, hearly, hregion⟩ := where_of_selectClauses hclauses
  exact ⟨region, bind_eq_ok.2 ⟨_, _, skip_of_ok hopening, bind_eq_ok.2 ⟨_, _, skip_of_ok hfound,
    bind_eq_ok.2 ⟨_, _, skip_of_ok hviews, skip_of_ok hearly⟩⟩⟩, hregion⟩

end

end Sql

/-- A query of a table with a condition comes to the word of this condition. -/
theorem Query.exists_outerWhere {text : String} {q : Query} (hq : parse text = .ok q)
    (hfrom : q.from? ≠ none) (hwhere : q.hasWhere = true) :
    ∃ tokens region, tokens? text = some tokens ∧ OuterWhere tokens region := by
  obtain ⟨tokens, st, last, htokens, hlast, hst⟩ := parse_eq_ok.1 hq
  obtain ⟨s, text', rfl, hs⟩ := ofStatement_eq_ok hst
  have hne := tables_ne_nil_of_ofSelect hs hfrom
  obtain ⟨-, from?, projection, -, -, rfl⟩ := ofSelect_eq_ok.1 hs
  obtain ⟨region, hregion⟩ := exists_outerWhere_of_statements hlast hne hwhere
  exact ⟨tokens, region, htokens, hregion⟩

end MatView
