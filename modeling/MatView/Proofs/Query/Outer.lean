import MatView.Proofs.Sql.Opening
import MatView.Proofs.Sql.Rest
import MatView.Query.OfStatement

/-!
# The table of the outer query

A text is read as a query of the table whose name follows the `FROM` of its outer `SELECT`. What
stands in front of that name is an opening if the grammar reads it in the same way whatever follows.
Behind an opening, another name makes the same query of another table, if it is read as a name of a
table there. A name with one more part is, unless the new part becomes the letter in front of a
constant. What stands in an opening does not matter for the table.

## Main definitions

* `Sql.IsOpening`: a text in front of the tables of an outer `SELECT`.
* `Sql.ReadsTable`: a text that starts with a table of a given name.
* `Query.Placed`: a query whose table is named behind an opening.
* `Query.Unmarked`: the last part of a name that starts no constant.

## Main statements

* `Query.source_of_readsTable`: behind an opening, the table that is read is the source.
* `Query.Placed.parse_renamed`: the query of another table.
* `Query.Placed.parse_qualified`, `Query.Placed.unmarked_of_parse`: a qualified text is a query if
  and only if no constant starts there.
-/

namespace MatView

open Sql Reader
open Lexer (isWordPart)
open Text (isNameChar)

/-! ## Statements and queries -/

namespace Sql

variable {text : String}

theorem statements?_eq_some {found : List Statement} : statements? text = some found ↔
    ∃ tokens last, tokens? text = some tokens ∧
      statements (statementAt maxDepth) tokens = .ok (found, last) := by
  rw [statements?]
  constructor
  · intro h
    obtain ⟨tokens, htokens, h⟩ := Option.bind_eq_some_iff.1 h
    split at h
    · rename_i last hlast
      cases h
      exact ⟨tokens, last, htokens, hlast⟩
    · cases h
  · rintro ⟨tokens, last, htokens, hlast⟩
    have hrun : (statements (statementAt maxDepth)).run tokens = .ok (found, last) := hlast
    refine Option.bind_eq_some_iff.2 ⟨tokens, htokens, ?_⟩
    rw [hrun]

theorem theStatement_eq_ok {st : Statement} :
    theStatement text = .ok st ↔ statements? text = some [st] := by
  unfold theStatement
  split
  · rename_i h
    simp [h]
  · rename_i s h
    simp [h]
  · rename_i found hmany h
    constructor
    · intro h'
      cases h'
    · intro h'
      rw [h, Option.some.injEq] at h'
      exact absurd h' (hmany st)

end Sql

namespace Query

variable {text : String} {q : Query} {s : Select} {clause : FromClause}

theorem parse_eq_ok : parse text = .ok q ↔ ∃ tokens st last, tokens? text = some tokens ∧
    statements (statementAt maxDepth) tokens = .ok ([st], last) ∧ ofStatement st = .ok q := by
  rw [parse, Error.bind_eq_ok]
  simp only [theStatement_eq_ok, statements?_eq_some]
  constructor
  · rintro ⟨st, ⟨tokens, last, htokens, hlast⟩, hq⟩
    exact ⟨tokens, st, last, htokens, hlast, hq⟩
  · rintro ⟨tokens, st, last, htokens, hlast, hq⟩
    exact ⟨st, ⟨tokens, last, htokens, hlast⟩, hq⟩

/-- Only a select list is served. -/
theorem ofStatement_eq_ok {st : Statement} (h : ofStatement st = .ok q) :
    ∃ s text, st = .query ⟨.select s, text⟩ ∧ ofSelect s = .ok q := by
  unfold ofStatement at h
  split at h
  · exact ⟨_, _, rfl, h⟩
  · cases h
  · cases h

/-- The source of a `FROM` clause is the name of its only table. -/
theorem ofTables_eq_ok {tables : List Table} :
    FromClause.ofTables tables = .ok (some clause) ↔
      ∃ (f : Factor) (name : List Ident) (args : String), tables = [⟨f, []⟩] ∧
        f.relation = .table name args ∧ clause = ⟨dotted name, f.alias?.map (·.name.value)⟩ := by
  constructor
  · intro h
    unfold FromClause.ofTables at h
    split at h
    · cases h
    · rename_i t
      split at h
      · cases h
      · rename_i hjoins
        split at h
        · rename_i name args hrelation
          cases h
          obtain ⟨f, joins⟩ := t
          have hnil : joins = [] := by simpa using hjoins
          subst hnil
          exact ⟨f, name, args, rfl, hrelation, rfl⟩
        · cases h
    · cases h
  · rintro ⟨f, name, args, rfl, hrelation, rfl⟩
    simp [FromClause.ofTables, hrelation]

/-- A query is served if its parts are, and if equal rows are kept. -/
theorem ofSelect_eq_ok : ofSelect s = .ok q ↔ s.distinct = false ∧ ∃ from? projection,
    FromClause.ofTables s.tables = .ok from? ∧ Projection.ofItems s.items = .ok projection ∧
      q = ⟨from?, projection, s.hasWhere⟩ := by
  unfold ofSelect
  cases hdistinct : s.distinct with
  | true =>
    constructor
    · intro h
      cases h
    · rintro ⟨h, -⟩
      cases h
  | false =>
    constructor
    · intro h
      obtain ⟨from?, hfrom, h⟩ := Error.bind_eq_ok.1 h
      obtain ⟨projection, hprojection, h⟩ := Error.bind_eq_ok.1 h
      cases h
      exact ⟨rfl, from?, projection, hfrom, hprojection, rfl⟩
    · rintro ⟨-, from?, projection, hfrom, hprojection, rfl⟩
      exact Error.bind_eq_ok.2 ⟨from?, hfrom, Error.bind_eq_ok.2 ⟨projection, hprojection, rfl⟩⟩

theorem tables_ne_nil_of_ofSelect (hs : ofSelect s = .ok q) (hfrom : q.from? ≠ none) :
    s.tables ≠ [] := by
  intro hnil
  obtain ⟨-, from?, projection, htables, -, rfl⟩ := ofSelect_eq_ok.1 hs
  rw [hnil] at htables
  cases htables
  exact hfrom rfl

/-- A text with an opening is a query if its rest is the rest of a query. -/
theorem parse_of_opening {tokens rest : List Token} {front : String} {head : SelectHead}
    (htokens : tokens? text = some tokens)
    (hopening : opening (level false (maxDepth - 2)) tokens = .ok ((front, head), rest)) :
    parse text = .ok q ↔ ∃ s mid,
      behindOpening (level false (maxDepth - 2)) head rest = .ok (s, mid) ∧ Ends mid ∧
        ofSelect s = .ok q := by
  have hstatements := fun s => statements_eq_ok (s := s) hopening
  rw [parse_eq_ok]
  constructor
  · rintro ⟨tokens', st, last, htokens', hlast, hq⟩
    rw [htokens, Option.some.injEq] at htokens'
    subst htokens'
    obtain ⟨s, text, rfl, hs⟩ := ofStatement_eq_ok hq
    obtain ⟨mid, hbehind, hends⟩ := (hstatements s).1 ⟨text, last, hlast⟩
    exact ⟨s, mid, hbehind, hends, hs⟩
  · rintro ⟨s, mid, hbehind, hends, hs⟩
    obtain ⟨text', last, hlast⟩ := (hstatements s).2 ⟨mid, hbehind, hends⟩
    exact ⟨tokens, _, last, htokens, hlast, hs⟩

end Query

/-! ## Openings of texts -/

/-- A text in front of the tables of an outer `SELECT`: whatever follows, the same tokens are read
off it, and with them the grammar comes to the tables. -/
def Sql.IsOpening (front : List Char) : Prop :=
  ∃ n tokens found, (∀ back, Lexes n (front ++ back) tokens back) ∧
    ∀ rest, opening (level false (maxDepth - 2)) (tokens ++ rest) = .ok (found, rest)

/-- A text starts with a table: what it names first, behind the word `FROM`, is one table of the
given name. -/
def Sql.ReadsTable (name : String) (text : List Char) : Prop :=
  ∃ n tokens tables rest clause, Lexes n text tokens [] ∧
    commaList (Sql.table (level false (maxDepth - 2))) tokens = .ok (tables, rest) ∧
    FromClause.ofTables tables = .ok (some clause) ∧ clause.source = name

/-- A text that starts with the name of its table has tokens that start with this name. -/
theorem Sql.ReadsTable.exists_name {name : String} {post : List Char}
    (h : ReadsTable name (name.toList ++ post)) (hchars : ∀ c ∈ name.toList, isNameChar c = true)
    (hblank : ∃ c cs, name.toList = c :: cs ∧ Unicode.isBlank c = false) :
    ∃ n tokens parts k rest, Lexes n (name.toList ++ post) tokens [] ∧
      NameRead tokens parts rest ∧ dotted parts = name ∧ StartsName tokens ∧
      Lexes k post rest [] := by
  obtain ⟨n, tokens, tables, last, clause, hlexes, htables, hclause, hname⟩ := h
  obtain ⟨f, parts, args, rfl, hrelation, rfl⟩ := Query.ofTables_eq_ok.1 hclause
  obtain ⟨t, m₁, ht, hothers⟩ := bind_eq_ok.1 htables
  obtain ⟨others, m₂, -, hdone⟩ := bind_eq_ok.1 hothers
  cases hdone
  obtain ⟨c, cs, hcons, hc⟩ := hblank
  have hopen : tokens.head? ≠ some (.symbol "(") := by
    have hfirst := hlexes
    rw [hcons, List.cons_append] at hfirst
    exact hfirst.head?_ne_open (hchars c (hcons ▸ List.mem_cons_self)) hc
  obtain ⟨hstarts, rest, hread, -⟩ := table_of_table hrelation ht hopen
  obtain rfl : dotted parts = name := hname
  obtain ⟨-, -, -, k, -, hrest⟩ := hlexes.of_name hread hchars
  exact ⟨n, tokens, parts, k, rest, hlexes, hread, rfl, hstarts, hrest⟩

namespace Query

variable {q : Query} {clause : FromClause} {front post : List Char} {name table : String}

/-- A query with an opening is read piece by piece. -/
theorem parse_of_isOpening {back : List Char} (hfront : IsOpening front)
    (hq : parse (String.ofList (front ++ back)) = .ok q) :
    ∃ n tokens opened, (∀ back, Lexes n (front ++ back) tokens back) ∧
      (∀ rest, opening (level false (maxDepth - 2)) (tokens ++ rest) = .ok (opened, rest)) ∧
      ∃ k others s mid, Lexes k back others [] ∧
        behindOpening (level false (maxDepth - 2)) opened.2 others = .ok (s, mid) ∧ Ends mid ∧
        ofSelect s = .ok q := by
  obtain ⟨n, tokens, ⟨opened, head⟩, hlexes, hopening⟩ := hfront
  obtain ⟨all, st, last, hall, -, -⟩ := parse_eq_ok.1 hq
  obtain ⟨k, hwhole⟩ := tokens?_eq_some.1 hall
  obtain ⟨k, others, -, rfl, hothers⟩ := (hlexes _).exists_rest hwhole
  obtain ⟨s, mid, hbehind, hends, hs⟩ := (parse_of_opening hall (hopening others)).1 hq
  exact ⟨n, tokens, (opened, head), hlexes, hopening, k, others, s, mid, hothers, hbehind, hends,
    hs⟩

/-- Behind an opening, the table that a text starts with is the source of the query. -/
theorem source_of_readsTable {back : List Char} (hfront : IsOpening front)
    (hq : parse (String.ofList (front ++ back)) = .ok q) (hclause : q.from? = some clause)
    (h : ReadsTable name back) : clause.source = name := by
  obtain ⟨_, _, _, -, -, k, others, s, mid, hothers, hbehind, -, hs⟩ :=
    parse_of_isOpening hfront hq
  obtain ⟨n, tokens, tables, rest, found, htokens, hread, hfound, rfl⟩ := h
  obtain rfl := hothers.unique htokens
  obtain ⟨m, htables⟩ := tables_of_behindOpening hbehind
  rw [hread, Except.ok.injEq, Prod.mk.injEq] at htables
  obtain ⟨-, from?, projection, hfrom, -, rfl⟩ := ofSelect_eq_ok.1 hs
  rw [← htables.1, hfound, Except.ok.injEq] at hfrom
  obtain rfl : from? = some clause := hclause
  exact congrArg FromClause.source (Option.some.inj hfrom).symm

/-- Behind an opening, a query starts with its table. -/
theorem readsTable_of_parse {back : List Char} (hfront : IsOpening front)
    (hq : parse (String.ofList (front ++ back)) = .ok q) (hclause : q.from? = some clause) :
    ReadsTable clause.source back := by
  obtain ⟨_, _, _, -, -, k, others, s, mid, hothers, hbehind, -, hs⟩ :=
    parse_of_isOpening hfront hq
  obtain ⟨m, htables⟩ := tables_of_behindOpening hbehind
  obtain ⟨-, from?, projection, hfrom, -, rfl⟩ := ofSelect_eq_ok.1 hs
  obtain rfl : from? = some clause := hclause
  exact ⟨k, others, s.tables, m, clause, hothers, htables, hfrom, rfl⟩

-- The tables behind a common table come after the second `FROM`.
example : IsOpening "WITH e AS (SELECT * FROM t) SELECT * FROM ".toList :=
  ⟨22, [.word ⟨"WITH", none⟩, .word ⟨"e", none⟩, .word ⟨"AS", none⟩, .symbol "(",
    .word ⟨"SELECT", none⟩, .symbol "*", .word ⟨"FROM", none⟩, .word ⟨"t", none⟩, .symbol ")",
    .word ⟨"SELECT", none⟩, .symbol "*", .word ⟨"FROM", none⟩],
    ("WITH e AS (SELECT * FROM t) ", ⟨none, "", [.wildcard "*"], ""⟩),
    fun _ => lexes_of_readTokens rfl, fun _ => rfl⟩

/-- A query whose only table is named behind an opening: the tokens of the opening, of the name and
of the rest, and how the rest is read behind other names. -/
structure Placed (front post : List Char) (q : Query) (clause : FromClause) where
  steps : Nat
  tokens : List Token
  opened : String × SelectHead
  lexes_front : ∀ back, Lexes steps (front ++ back) tokens back
  opening_front : ∀ rest,
    opening (level false (maxDepth - 2)) (tokens ++ rest) = .ok (opened, rest)
  name : List Ident
  dotted_name : dotted name = clause.source
  ne_nil : name ≠ []
  isBare : ∀ i ∈ name, i.IsBare
  restSteps : Nat
  rest : List Token
  lexes_post : Lexes restSteps post rest []
  isWordPart_head : ∀ c, post.head? = some c → isWordPart c = false
  head?_rest : rest.head? ≠ some (.symbol ".")
  startsName : StartsName (nameTokens name ++ rest)
  renamed : ∀ tokens' name', NameRead tokens' name' rest → StartsName tokens' →
    ∃ s mid, behindOpening (level false (maxDepth - 2)) opened.2 tokens' = .ok (s, mid) ∧
      Ends mid ∧ ofSelect s =
        .ok { q with from? := some { clause with source := dotted name' } }

/-- Behind an opening, the name of the table is read as a whole. -/
theorem exists_placed (hfront : IsOpening front)
    (hq : parse (String.ofList (front ++ (clause.source.toList ++ post))) = .ok q)
    (hclause : q.from? = some clause) (hchars : ∀ c ∈ clause.source.toList, isNameChar c = true)
    (hblank : ∃ c cs, clause.source.toList = c :: cs ∧ Unicode.isBlank c = false) :
    Nonempty (Placed front post q clause) := by
  obtain ⟨n, tokens, opened, hread, hopening, k, others, s, mid, hothers, hbehind, hends, hs⟩ :=
    parse_of_isOpening hfront hq
  obtain ⟨hdistinct, from?, projection, hfrom, hprojection, rfl⟩ := ofSelect_eq_ok.1 hs
  cases hclause
  obtain ⟨f, name, args, htables, hrelation, rfl⟩ := ofTables_eq_ok.1 hfrom
  obtain ⟨c, cs, hsource, hc⟩ := hblank
  have hopen : others.head? ≠ some (.symbol "(") := by
    have hcons := hothers
    rw [hsource, List.cons_append] at hcons
    exact hcons.head?_ne_open (hchars c (hsource ▸ List.mem_cons_self)) hc
  obtain ⟨hstarts, rest, hname, hrenamed⟩ := behindOpening_of_table hbehind htables hrelation hopen
  obtain ⟨hbare, rfl, hpost, k, -, hrest⟩ := hothers.of_name hname hchars
  refine ⟨⟨n, tokens, opened, hread, hopening, name, rfl, hname.ne_nil, hbare, k, rest, hrest,
    hpost, hname.head?_ne, hstarts, fun tokens' name' hread' hstarts' => ?_⟩⟩
  exact ⟨_, _, hrenamed tokens' name' hread' hstarts', hends, ofSelect_eq_ok.2
    ⟨hdistinct, _, _, ofTables_eq_ok.2 ⟨_, _, _, rfl, rfl, rfl⟩, hprojection, rfl⟩⟩

/-! ## Other names -/

/-- No constant starts with the last part of a name. -/
def Unmarked (table : String) (post : List Char) : Prop :=
  ∀ c w, table.toList = c :: w → Lexer.marked? c (w ++ post) = none

namespace Placed

/-- A text with another name in the place of the table is the same query of another source. -/
theorem parse_renamed (p : Placed front post q clause) {n : Nat} {text : List Char}
    {tokens : List Token} {parts : List Ident} (hlexes : Lexes n (text ++ post) tokens [])
    (hread : NameRead tokens parts p.rest) (hstarts : StartsName tokens) :
    parse (String.ofList (front ++ (text ++ post))) =
      .ok { q with from? := some { clause with source := dotted parts } } := by
  obtain ⟨s, mid, hbehind, hends, hs⟩ := p.renamed tokens parts hread hstarts
  have hall : tokens? (String.ofList (front ++ (text ++ post))) = some (p.tokens ++ tokens) :=
    tokens?_eq_some.2 ⟨_, (p.lexes_front _).append hlexes⟩
  exact (parse_of_opening hall (p.opening_front _)).2 ⟨s, mid, hbehind, hends, hs⟩

/-- A text with the name of another table in the place of the table is a query of it. -/
theorem parse_of_readsTable (p : Placed front post q clause)
    (h : ReadsTable name (name.toList ++ post)) (hchars : ∀ c ∈ name.toList, isNameChar c = true)
    (hblank : ∃ c cs, name.toList = c :: cs ∧ Unicode.isBlank c = false) :
    parse (String.ofList (front ++ (name.toList ++ post))) =
      .ok { q with from? := some { clause with source := name } } := by
  obtain ⟨n, tokens, parts, k, rest, hlexes, hread, rfl, hstarts, hrest⟩ :=
    h.exists_name hchars hblank
  obtain rfl := hrest.unique p.lexes_post
  exact p.parse_renamed hlexes hread hstarts

/-- The tokens of a name with one more part start a table too. -/
theorem startsName_point (p : Placed front post q clause) (rest : List Token) :
    StartsName (nameTokens p.name ++ .symbol "." :: rest) := by
  have hstart : (nameTokens p.name ++ .symbol "." :: rest).head? =
        (nameTokens p.name ++ p.rest).head? ∧
      (nameTokens p.name ++ .symbol "." :: rest)[1]? = some (.symbol ".") := by
    obtain ⟨i, others, hname⟩ := List.exists_cons_of_ne_nil p.ne_nil
    rw [hname]
    cases others with
    | nil => exact ⟨rfl, rfl⟩
    | cons j js => exact ⟨rfl, rfl⟩
  exact p.startsName.of_point hstart.1 hstart.2

/-- A qualified text is the same query of the qualified source. -/
theorem parse_qualified (p : Placed front post q clause) (htable : (Ident.mk table none).IsBare)
    (hmarked : Unmarked table post) :
    parse (String.ofList (front ++ (clause.source.toList ++ '.' :: table.toList ++ post))) =
      .ok { q with from? := some { clause with source := clause.source ++ "." ++ table } } := by
  -- The qualified name is read in place of the name, and everything else as before.
  let last : Ident := ⟨table, none⟩
  have hdotted : (dotted (p.name ++ [last])).toList =
      clause.source.toList ++ '.' :: table.toList := by
    rw [toList_dotted_append p.ne_nil last, p.dotted_name]
    rfl
  have hbares : ∀ i ∈ p.name ++ [last], i.IsBare := by
    simpa [or_imp, forall_and] using ⟨p.isBare, htable⟩
  have hname : Lexes (nameTokens (p.name ++ [last])).length
      ((dotted (p.name ++ [last])).toList ++ post) (nameTokens (p.name ++ [last])) post := by
    refine lexes_name (by simp) hbares p.isWordPart_head fun i hi c w hw => ?_
    rw [List.getLast?_concat] at hi
    cases hi
    exact hmarked c w hw
  have hread : NameRead (nameTokens (p.name ++ [last]) ++ p.rest) (p.name ++ [last]) p.rest :=
    nameRead_nameTokens (by simp) p.head?_rest
  have hstarts : StartsName (nameTokens (p.name ++ [last]) ++ p.rest) := by
    rw [nameTokens_append p.ne_nil, List.append_assoc]
    exact p.startsName_point _
  have hsource : clause.source ++ "." ++ table = dotted (p.name ++ [last]) := by
    rw [← String.toList_inj, hdotted]
    simp
  rw [← hdotted, hsource]
  exact p.parse_renamed (hname.append p.lexes_post) hread hstarts

/-- A qualified text whose last part starts a constant is no query. -/
theorem unmarked_of_parse (p : Placed front post q clause) (htable : (Ident.mk table none).IsBare)
    {sent : Query} (hsent : parse (String.ofList
      (front ++ (clause.source.toList ++ '.' :: table.toList ++ post))) = .ok sent) :
    Unmarked table post := by
  intro c w hw
  cases hmarked : Lexer.marked? c (w ++ post) with
  | none => rfl
  | some found =>
    obtain ⟨d, ds, htable', hblank, hstart, -⟩ := htable.spelled
    have hd : table.toList = d :: ds := htable'
    rw [hw] at hd
    cases hd
    -- Up to the point, the text is read as before.
    obtain ⟨all, st, last, hall, -, -⟩ := parse_eq_ok.1 hsent
    obtain ⟨k, hlexes⟩ := tokens?_eq_some.1 hall
    obtain ⟨k, others, rfl, rfl, hothers⟩ := (p.lexes_front _).exists_rest hlexes
    rw [hw, ← p.dotted_name, List.append_assoc, List.cons_append, List.cons_append] at hothers
    have hname : Lexes (nameTokens p.name).length
        ((dotted p.name).toList ++ '.' :: c :: (w ++ post)) (nameTokens p.name)
        ('.' :: c :: (w ++ post)) :=
      lexes_name p.ne_nil p.isBare (by simpa using (by decide : isWordPart '.' = false))
        fun i hi c' w' hw' => marked?_point (p.isBare i (List.mem_of_getLast? hi)) hw'
    obtain ⟨k, others, rfl, rfl, hpoint⟩ := hname.exists_rest hothers
    have hstep : Lexer.step '.' (c :: (w ++ post)) = some (some (.symbol "."), c :: (w ++ post)) :=
      step_point_iff.2 ⟨rfl, by simpa using isDigit_of_isWordStart hstart⟩
    obtain ⟨k, others, rfl, rfl, hbehind⟩ := (Lexes.step hstep (.done _)).exists_rest hpoint
    -- What is read behind the point is no name.
    obtain ⟨t, others, rfl, ht⟩ := hbehind.exists_noName hblank hstart hmarked
    obtain ⟨s, mid, hs, -, -⟩ := (parse_of_opening hall (p.opening_front _)).1 hsent
    obtain ⟨name, mid, hread⟩ := exists_name_of_behindOpening hs (p.startsName_point (t :: others))
    exact absurd hread (not_nameRead p.ne_nil ht)

end Placed

end Query

end MatView
