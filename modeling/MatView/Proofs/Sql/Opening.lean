import MatView.Proofs.Sql.Tables
import MatView.Sql.Statement

/-!
# The opening of a query

The opening of a query is what stands before its tables: its common tables and the outer `SELECT`
with its select list, up to the word `FROM`. Whether a text is one query, and what it asks for,
depends on what its opening was read as and on what is read behind it.

## Main definitions

* `opening`, `behindOpening`: reading a query in two pieces.
* `behindSelect`: reading on behind a select list.
* `SelectHead.withTables`: a select list from its pieces.

## Main statements

* `statements_eq_ok`: a text with an opening is read piece by piece.
* `behindOpening_eq_ok`: what is read behind an opening.
* `behindOpening_of_table`: the rest of a query is read the same under another name of its table.
-/

namespace MatView.Sql

open Reader

/-! ## Two pieces of a query -/

section

variable (inner : Inner)

/-- Reads a statement up to the word `FROM` of its outer `SELECT`. -/
def opening : Reader (String × SelectHead) := do
  skip (many (symbol? ";") (pure ()))
  let front ← commonTables inner
  let head ← selectHead inner
  keyword "FROM"
  return (front, head)

/-- The select list of an opening, with its clauses. -/
def SelectHead.withTables (head : SelectHead) (tables : List Table) (hasWhere : Bool) : Select :=
  ⟨head.distinct?.isSome, head.items, tables, hasWhere⟩

/-- Reads a query on behind its opening. -/
def behindOpening (head : SelectHead) : Reader Select := do
  let tables ← commaList (table inner)
  let (hasWhere, _) ← selectClauses inner
  match ← setOperationsUpTo inner (← remaining) with
  | [] =>
    skip (queryTail inner)
    return head.withTables tables hasWhere
  | _ => fail

/-- Reads on behind a select list that is a query of its own. -/
def behindSelect : Reader Unit := do
  match ← setOperationsUpTo inner (← remaining) with
  | [] => skip (queryTail inner)
  | _ => fail

end

section

variable {inner : Inner} {n k : Nat} {tokens mid rest : List Token} {front : String}
  {head : SelectHead} {s : Select}

theorem opening_start (h : opening inner tokens = .ok ((front, head), rest)) :
    ∃ semis mid mid' mid'', many (symbol? ";") (pure ()) tokens = .ok (semis, mid) ∧
      commonTables inner mid = .ok (front, mid') ∧ selectHead inner mid' = .ok (head, mid'') ∧
      keyword "FROM" mid'' = .ok ((), rest) := by
  obtain ⟨_, m₁, hskip, h⟩ := bind_eq_ok.1 h
  obtain ⟨semis, m₁', hsemis, hskip⟩ := bind_eq_ok.1 hskip
  obtain ⟨-, rfl⟩ := pure_eq_ok.1 hskip
  obtain ⟨front', m₂, hfront, h⟩ := bind_eq_ok.1 h
  obtain ⟨head', m₃, hhead, h⟩ := bind_eq_ok.1 h
  obtain ⟨_, m₄, hfrom, h⟩ := bind_eq_ok.1 h
  obtain ⟨heq, rfl⟩ := pure_eq_ok.1 h
  cases heq
  exact ⟨semis, _, _, _, hsemis, hfront, hhead, hfrom⟩

/-- All semicolons in front of a token are taken. -/
theorem many_semicolons {semis : List Token} (hsemis : ∀ t ∈ semis, t = .symbol ";") {t : Token}
    (ht : t ≠ .symbol ";") (rest : List Token) :
    ∃ us, many (symbol? ";") (pure ()) (semis ++ t :: rest) = .ok (us, t :: rest) := by
  have hupTo : ∀ k, semis.length ≤ k → ∃ us,
      manyUpTo (symbol? ";") (pure ()) k (semis ++ t :: rest) = .ok (us, t :: rest) := by
    induction semis with
    | nil =>
      rintro (_ | k) -
      · exact ⟨[], rfl⟩
      · have hnot : (t :: rest).head? ≠ some (.symbol ";") := by simpa using ht
        exact ⟨[], bind_eq_ok.2 ⟨false, _, symbol?_of_ne hnot, rfl⟩⟩
    | cons s semis ih =>
      obtain ⟨rfl, hothers⟩ := List.forall_mem_cons.1 hsemis
      rintro (_ | k) hk
      · simp at hk
      · obtain ⟨us, hus⟩ := ih hothers k (by simpa using hk)
        exact ⟨() :: us, bind_eq_ok.2 ⟨true, _, symbol?_cons ";" _,
          bind_eq_ok.2 ⟨(), _, rfl, bind_eq_ok.2 ⟨us, _, hus, rfl⟩⟩⟩⟩
  exact hupTo _ (by simp)

/-- What a query or a select list starts with is no parenthesis. -/
theorem atStatementQuery_cons {t : Token} {word : String} (ht : t.keyword? = some word)
    (hword : word ∈ ["SELECT", "WITH", "VALUES"]) (others : List Token) :
    atStatementQuery (t :: others) = .ok (true, t :: others) := by
  have hopen : ((t :: others).head? == some (Token.symbol "(")) = false := by
    rw [beq_eq_false_iff_ne]
    rintro heq
    cases heq
    cases ht
  unfold atStatementQuery
  rw [bind_of_ok (atSymbol_run "(" _), hopen]
  exact startsWith_cons ht hword

/-- A statement that comes to the word `SELECT`, if need be behind common tables, is a query. -/
theorem statements_of_select {semis : List Unit} {mid' mid'' : List Token}
    (hsemis : many (symbol? ";") (pure ()) tokens = .ok (semis, mid))
    (hfront : commonTables (level false n) mid = .ok (front, mid'))
    (hselect : keyword "SELECT" mid' = .ok ((), mid'')) :
    statements (statementAt (n + 2)) tokens = (do
      let q ← queryExpr (level false n)
      return Statement.query q :: (← statementsUpTo (statementAt (n + 2)) false tokens.length))
      mid := by
  obtain ⟨t, others, rfl, word, ht, hword⟩ : ∃ t others, mid = t :: others ∧
      ∃ word, t.keyword? = some word ∧ word ∈ ["SELECT", "WITH", "VALUES"] := by
    obtain ⟨named, m₁, hnamed, hfront⟩ := bind_eq_ok.1 hfront
    cases named with
    | true =>
      obtain ⟨t, rfl, ht⟩ := takeIf_eq_ok_true hnamed
      exact ⟨t, m₁, rfl, "WITH", eq_of_beq ht, by decide⟩
    | false =>
      obtain ⟨-, rfl⟩ := pure_eq_ok.1 hfront
      obtain ⟨rfl, -⟩ := takeIf_eq_ok_false hnamed
      obtain ⟨t, rfl, ht⟩ := keyword_eq_ok hselect
      exact ⟨t, mid'', rfl, "SELECT", ht, by decide⟩
  have hquery := atStatementQuery_cons ht hword others
  change statementsUpTo (statementAt (n + 2)) true (tokens.length + 1) tokens = _
  rw [statementsUpTo, bind_of_ok hsemis, bind_of_ok (peek_run _)]
  simp only [List.head?_cons, Bool.true_or, if_true]
  have hstatement : statementAt (n + 2) (t :: others) = (do
      return Statement.query (← queryExpr (level false n))) (t :: others) := by
    rw [statementAt, statementWith, bind_of_ok hquery]
    rfl
  rw [bind_congr_of_eq hstatement, bind_assoc]
  simp only [pure_bind]

/-- The select list of a query is read on behind its opening. -/
theorem select_of_opening {mid' mid'' last : List Token} {s : Select}
    (hhead : selectHead inner mid' = .ok (head, mid''))
    (hfrom : keyword? "FROM" mid'' = .ok (true, rest)) :
    (∃ text, select inner mid' = .ok ((s, text), last)) ↔ ∃ tables hasWhere clauses m₁,
      commaList (table inner) rest = .ok (tables, m₁) ∧
      selectClauses inner m₁ = .ok ((hasWhere, clauses), last) ∧
      s = head.withTables tables hasWhere := by
  have htables : tables inner mid'' = commaList (table inner) rest := bind_of_ok hfrom
  unfold select
  rw [bind_of_ok hhead]
  constructor
  · rintro ⟨text, h⟩
    obtain ⟨found, m₁, hfound, h⟩ := bind_eq_ok.1 h
    obtain ⟨⟨hasWhere, clauses⟩, m₂, hclauses, h⟩ := bind_eq_ok.1 h
    obtain ⟨heq, rfl⟩ := pure_eq_ok.1 h
    cases heq
    exact ⟨found, hasWhere, clauses, m₁, htables ▸ hfound, hclauses, rfl⟩
  · rintro ⟨found, hasWhere, clauses, m₁, hfound, hclauses, rfl⟩
    exact ⟨_, bind_eq_ok.2 ⟨_, _, htables.trans hfound, bind_eq_ok.2 ⟨_, _, hclauses, rfl⟩⟩⟩

/-- A query that consists of a select list is this list and what stands behind it. -/
theorem queryExpr_of_select {mid' mid'' last : List Token} {s : Select}
    (hfront : commonTables inner mid = .ok (front, mid'))
    (hselect : keyword "SELECT" mid' = .ok ((), mid'')) :
    (∃ text, queryExpr inner mid = .ok (⟨.select s, text⟩, last)) ↔
      ∃ text m₁, select inner mid' = .ok ((s, text), m₁) ∧
        behindSelect inner m₁ = .ok ((), last) := by
  obtain ⟨t, rfl, ht⟩ := keyword_eq_ok hselect
  have hchange : oneOf? ["INSERT", "UPDATE"] (t :: mid'') = .ok (none, t :: mid'') := by
    refine oneOf?_none fun word hword => ?_
    have hword' : t.keyword? = some word := hword
    rw [ht] at hword'
    cases hword'
    decide
  have hsimple : simpleBody inner (t :: mid'') =
      (do let r ← select inner; return QueryExpr.mk (.select r.1) r.2) (t :: mid'') := by
    unfold simpleBody
    rw [bind_of_ok (startsWith_cons ht List.mem_cons_self)]
    rfl
  unfold queryExpr
  rw [bind_of_ok hfront, bind_of_ok hchange]
  dsimp only
  constructor
  · rintro ⟨text, h⟩
    obtain ⟨q, m₁, hbody, h⟩ := bind_eq_ok.1 h
    obtain ⟨tail, m₂, htail, h⟩ := bind_eq_ok.1 h
    obtain ⟨heq, rfl⟩ := pure_eq_ok.1 h
    obtain ⟨first, m₃, hfirst, hbody⟩ := bind_eq_ok.1 hbody
    obtain ⟨count, m₄, hcount, hbody⟩ := bind_eq_ok.1 hbody
    obtain ⟨operations, m₅, hoperations, hbody⟩ := bind_eq_ok.1 hbody
    cases operations with
    | cons o os =>
      obtain ⟨rfl, -⟩ := pure_eq_ok.1 hbody
      cases heq
    | nil =>
      obtain ⟨rfl, rfl⟩ := pure_eq_ok.1 hbody
      rw [hsimple] at hfirst
      obtain ⟨⟨s', text'⟩, m₆, hlist, hfirst⟩ := bind_eq_ok.1 hfirst
      obtain ⟨rfl, rfl⟩ := pure_eq_ok.1 hfirst
      cases heq
      have hskip : skip (queryTail inner) m₅ = .ok ((), m₂) := bind_eq_ok.2 ⟨_, _, htail, rfl⟩
      exact ⟨text', _, hlist, bind_eq_ok.2 ⟨_, _, hcount,
        bind_eq_ok.2 ⟨_, _, hoperations, hskip⟩⟩⟩
  · rintro ⟨text, m₁, hlist, h⟩
    obtain ⟨count, m₂, hcount, h⟩ := bind_eq_ok.1 h
    obtain ⟨operations, m₃, hoperations, h⟩ := bind_eq_ok.1 h
    cases operations with
    | cons o os => cases h
    | nil =>
      obtain ⟨tail, m₄, htail, h⟩ := bind_eq_ok.1 h
      obtain ⟨-, rfl⟩ := pure_eq_ok.1 h
      have hfirst : simpleBody inner (t :: mid'') = .ok (⟨.select s, text⟩, m₁) := by
        rw [hsimple, bind_of_ok hlist]
        rfl
      have hbody : body inner (t :: mid'') = .ok (⟨.select s, text⟩, m₃) :=
        bind_eq_ok.2 ⟨_, _, hfirst, bind_eq_ok.2 ⟨_, _, hcount,
          bind_eq_ok.2 ⟨_, _, hoperations, rfl⟩⟩⟩
      exact ⟨_, bind_eq_ok.2 ⟨_, _, hbody, bind_eq_ok.2 ⟨_, _, htail, rfl⟩⟩⟩

/-- Behind an opening come the tables and the other clauses of the select list, and then its end. -/
theorem behindOpening_eq_ok : behindOpening inner head tokens = .ok (s, rest) ↔
    ∃ tables hasWhere clauses m₁ m₂, commaList (table inner) tokens = .ok (tables, m₁) ∧
      selectClauses inner m₁ = .ok ((hasWhere, clauses), m₂) ∧
      behindSelect inner m₂ = .ok ((), rest) ∧ s = head.withTables tables hasWhere := by
  constructor
  · intro h
    obtain ⟨found, m₁, hfound, h⟩ := bind_eq_ok.1 h
    obtain ⟨⟨hasWhere, clauses⟩, m₂, hclauses, h⟩ := bind_eq_ok.1 h
    obtain ⟨count, m₃, hcount, h⟩ := bind_eq_ok.1 h
    obtain ⟨operations, m₄, hoperations, h⟩ := bind_eq_ok.1 h
    cases operations with
    | cons o os => cases h
    | nil =>
      obtain ⟨_, m₅, htail, h⟩ := bind_eq_ok.1 h
      obtain ⟨rfl, rfl⟩ := pure_eq_ok.1 h
      exact ⟨found, hasWhere, clauses, m₁, m₂, hfound, hclauses,
        bind_eq_ok.2 ⟨_, _, hcount, bind_eq_ok.2 ⟨_, _, hoperations, htail⟩⟩, rfl⟩
  · rintro ⟨found, hasWhere, clauses, m₁, m₂, hfound, hclauses, h, rfl⟩
    obtain ⟨count, m₃, hcount, h⟩ := bind_eq_ok.1 h
    obtain ⟨operations, m₄, hoperations, h⟩ := bind_eq_ok.1 h
    cases operations with
    | cons o os => cases h
    | nil =>
      exact bind_eq_ok.2 ⟨_, _, hfound, bind_eq_ok.2 ⟨_, _, hclauses, bind_eq_ok.2 ⟨_, _, hcount,
        bind_eq_ok.2 ⟨_, _, hoperations, bind_eq_ok.2 ⟨_, _, h, rfl⟩⟩⟩⟩⟩

/-- A query that has a select list is read by its parts. -/
theorem queryExpr_of_opening {mid' mid'' last : List Token} {s : Select}
    (hfront : commonTables inner mid = .ok (front, mid'))
    (hhead : selectHead inner mid' = .ok (head, mid''))
    (hfrom : keyword "FROM" mid'' = .ok ((), rest)) :
    (∃ text, queryExpr inner mid = .ok (⟨.select s, text⟩, last)) ↔
      behindOpening inner head rest = .ok (s, last) := by
  obtain ⟨⟨⟩, m₀, hselect, -⟩ := bind_eq_ok.1 hhead
  have hfound : keyword? "FROM" mid'' = .ok (true, rest) := by
    obtain ⟨t, rfl, ht⟩ := keyword_eq_ok hfrom
    exact takeIf_cons_of_pos (by simp [ht])
  rw [queryExpr_of_select hfront hselect, behindOpening_eq_ok]
  constructor
  · rintro ⟨text, m, hlist, h⟩
    obtain ⟨found, hasWhere, clauses, m₁, hfound, hclauses, rfl⟩ :=
      (select_of_opening hhead hfound).1 ⟨text, hlist⟩
    exact ⟨found, hasWhere, clauses, m₁, m, hfound, hclauses, h, rfl⟩
  · rintro ⟨found, hasWhere, clauses, m₁, m, htables, hclauses, h, rfl⟩
    obtain ⟨text, hlist⟩ := (select_of_opening hhead hfound).2
      ⟨found, hasWhere, clauses, m₁, htables, hclauses, rfl⟩
    exact ⟨text, m, hlist, h⟩

/-- A statement ends: no further one comes, or the word `END` without a semicolon before it. -/
def Ends (tokens : List Token) : Prop :=
  ∃ semis mid, many (symbol? ";") (pure ()) tokens = .ok (semis, mid) ∧
    (mid = [] ∨ semis = [] ∧ ∃ t others, mid = t :: others ∧ t.isAmong ["END"] = true)

theorem statementsUpTo_nil_iff {st : Reader Statement} :
    (∃ rest, statementsUpTo st false (k + 1) tokens = .ok ([], rest)) ↔ Ends tokens := by
  unfold statementsUpTo
  constructor
  · rintro ⟨rest, h⟩
    obtain ⟨semis, mid, hsemis, h⟩ := bind_eq_ok.1 h
    refine ⟨semis, mid, hsemis, ?_⟩
    rw [bind_of_ok (peek_run mid)] at h
    cases mid with
    | nil => exact .inl rfl
    | cons t others =>
      cases semis with
      | cons u us =>
        obtain ⟨s, m₁, -, h⟩ := bind_eq_ok.1 h
        obtain ⟨ss, m₂, -, h⟩ := bind_eq_ok.1 h
        obtain ⟨heq, -⟩ := pure_eq_ok.1 h
        cases heq
      | nil =>
        refine .inr ⟨rfl, t, others, rfl, ?_⟩
        cases ht : t.isAmong ["END"] with
        | true => rfl
        | false =>
          simp only [List.head?_cons, List.isEmpty_nil, Bool.not_true, Bool.or_self, ht] at h
          cases h
  · rintro ⟨semis, mid, hsemis, hmid⟩
    rw [bind_of_ok hsemis, bind_of_ok (peek_run mid)]
    obtain rfl | ⟨rfl, t, others, rfl, ht⟩ := hmid
    · exact ⟨_, rfl⟩
    · simp only [List.head?_cons, List.isEmpty_nil, Bool.not_true, Bool.or_self, ht]
      exact ⟨_, rfl⟩

/-- A text with an opening holds one statement if this is read to its end behind the opening. -/
theorem statements_eq_ok (h : opening (level false n) tokens = .ok ((front, head), rest)) :
    (∃ text last, statements (statementAt (n + 2)) tokens =
      .ok ([.query ⟨.select s, text⟩], last)) ↔
      ∃ mid, behindOpening (level false n) head rest = .ok (s, mid) ∧ Ends mid := by
  obtain ⟨semis, mid, mid', mid'', hsemis, hfront, hhead, hfrom⟩ := opening_start h
  obtain ⟨k, hk⟩ : ∃ k, tokens.length = k + 1 := by
    cases tokens with
    | nil => cases h
    | cons t others => exact ⟨others.length, rfl⟩
  obtain ⟨⟨⟩, m₀, hselect, -⟩ := bind_eq_ok.1 hhead
  rw [statements_of_select hsemis hfront hselect, hk]
  constructor
  · rintro ⟨text, last, h⟩
    obtain ⟨q, m₁, hq, h⟩ := bind_eq_ok.1 h
    obtain ⟨others, m₂, hothers, h⟩ := bind_eq_ok.1 h
    obtain ⟨heq, rfl⟩ := pure_eq_ok.1 h
    cases heq
    exact ⟨m₁, (queryExpr_of_opening hfront hhead hfrom).1 ⟨text, hq⟩,
      statementsUpTo_nil_iff.1 ⟨m₂, hothers⟩⟩
  · rintro ⟨m₁, hbehind, hends⟩
    obtain ⟨text, hq⟩ := (queryExpr_of_opening hfront hhead hfrom).2 hbehind
    obtain ⟨m₂, hothers⟩ := (statementsUpTo_nil_iff (k := k)).2 hends
    exact ⟨text, m₂, bind_eq_ok.2 ⟨_, _, hq, bind_eq_ok.2 ⟨_, _, hothers, rfl⟩⟩⟩

/-- Behind an opening, a query is read in the same way whatever its select list is. -/
theorem behindOpening_withTables (h : behindOpening inner head tokens = .ok (s, rest)) :
    s = head.withTables s.tables s.hasWhere ∧ ∀ other : SelectHead,
      behindOpening inner other tokens = .ok (other.withTables s.tables s.hasWhere, rest) := by
  obtain ⟨found, hasWhere, clauses, m₁, m₂, hfound, hclauses, hend, rfl⟩ :=
    behindOpening_eq_ok.1 h
  exact ⟨rfl, fun other =>
    behindOpening_eq_ok.2 ⟨_, _, clauses, m₁, m₂, hfound, hclauses, hend, rfl⟩⟩

/-- The tables of a query are what is read first behind its opening. -/
theorem tables_of_behindOpening (h : behindOpening inner head tokens = .ok (s, rest)) :
    ∃ mid, commaList (table inner) tokens = .ok (s.tables, mid) := by
  obtain ⟨found, hasWhere, clauses, m₁, m₂, hfound, -, -, rfl⟩ := behindOpening_eq_ok.1 h
  exact ⟨m₁, hfound⟩

/-- Behind an opening, what starts as a table does has the name of one. -/
theorem exists_name_of_behindOpening (h : behindOpening inner head tokens = .ok (s, rest))
    (hstarts : StartsName tokens) : ∃ name mid, NameRead tokens name mid := by
  obtain ⟨m₁, hfound⟩ := tables_of_behindOpening h
  obtain ⟨t, m₂, ht, -⟩ := bind_eq_ok.1 hfound
  exact exists_name_of_table ht hstarts

/-- The rest of a query of one table is read the same under another name. -/
theorem behindOpening_of_table {t : Table} {name : List Ident} {args : String}
    (h : behindOpening inner head tokens = .ok (s, rest)) (hs : s.tables = [t])
    (ht : t.factor.relation = .table name args) (hopen : tokens.head? ≠ some (.symbol "(")) :
    StartsName tokens ∧ ∃ mid, NameRead tokens name mid ∧ ∀ tokens' name',
      NameRead tokens' name' mid → StartsName tokens' → behindOpening inner head tokens' = .ok
        ({ s with tables := [⟨{ t.factor with relation := .table name' args }, t.joins⟩] }, rest) := by
  obtain ⟨found, hasWhere, clauses, m₁, m₂, hfound, hclauses, hend, rfl⟩ :=
    behindOpening_eq_ok.1 h
  obtain rfl : found = [t] := hs
  obtain ⟨first, m₃, hfirst, hfound⟩ := bind_eq_ok.1 hfound
  obtain ⟨others, m₄, hothers, hfound⟩ := bind_eq_ok.1 hfound
  obtain ⟨heq, rfl⟩ := pure_eq_ok.1 hfound
  cases heq
  obtain ⟨hstarts, mid, hread, hother⟩ := table_of_table ht hfirst hopen
  refine ⟨hstarts, mid, hread, fun tokens' name' hread' hstarts' => ?_⟩
  have hfound' : commaList (table inner) tokens' =
      .ok ([⟨{ t.factor with relation := .table name' args }, t.joins⟩], m₄) :=
    bind_eq_ok.2 ⟨_, _, hother tokens' name' hread' hstarts',
      bind_eq_ok.2 ⟨_, _, hothers, rfl⟩⟩
  exact behindOpening_eq_ok.2 ⟨_, hasWhere, clauses, m₄, m₂, hfound', hclauses, hend, rfl⟩

end

end MatView.Sql
