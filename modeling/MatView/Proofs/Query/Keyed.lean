import MatView.Proofs.Query.NameList

/-!
# The query of a keyed text

The adapter writes the key column behind the first `SELECT` that a search for this word finds, and
behind the blanks there. The store may read the text by the grammar, for which the select list
begins somewhere else: behind `ALL`, behind another `SELECT`, or nowhere, if the key column becomes
a part of the word `SELECT`. The keyed text is a query with the key column in front of its columns
if and only if the found `SELECT` is that of the outer select list, ends at a blank, and has its
list behind it, and the text without the key column is a query of these columns.

## Main definitions

* `Query.Selects`: texts that are queries of given columns.
* `Query.ListsColumns`: tokens of a select list of given columns.
* `Sql.StartsList`: select lists with no word of their `SELECT` in front.
* `Adapter.KeyPlace`: the place where the key column is put.
* `Adapter.OuterList`: where the outer select list begins.

## Main statements

* `Query.selects_keyed_of_isListOpening`: the key column where the outer select list begins.
* `Query.ListsColumns.keyed_iff`, `Query.UpperList.listsColumns_of_keyed`: the key column in front
  of the tokens of a select list, put there and taken away.
* `Adapter.parse_keyed_iff`: when a keyed text has the key column in front of its columns.
-/

namespace MatView

open Sql Reader Text

/-! ## The key column in front of a select list -/

namespace Query

variable {text keyed : String} {columns : List SelectedColumn} {others : List Token}

/-- A text is a query of a table that selects the given columns. -/
def Selects (text : String) (columns : List SelectedColumn) : Prop :=
  ∃ q, parse text = .ok q ∧ q.from? ≠ none ∧ q.projection = .columns columns

/-- Tokens behind a select list that make a query of a table with it, whatever the list is. -/
def FollowsList (tokens : List Token) : Prop :=
  ∃ rest tables hasWhere last clause, keyword "FROM" tokens = .ok ((), rest) ∧
    commaList (table (level false (maxDepth - 2))) rest = .ok (tables, last) ∧
    FromClause.ofTables tables = .ok (some clause) ∧ ∀ head : SelectHead, ∃ last,
      behindOpening (level false (maxDepth - 2)) head rest =
        .ok (head.withTables tables hasWhere, last) ∧ Ends last

/-- Tokens of a select list that asks for the given columns, with what follows it. -/
def ListsColumns (columns : List SelectedColumn) (tokens : List Token) : Prop :=
  ∃ head m, listHead (level false (maxDepth - 2)) tokens = .ok (head, m) ∧ FollowsList m ∧
    head.distinct? = none ∧ columns ≠ [] ∧ SelectedColumn.AskFor head.items columns

/-- A text selects what is listed behind its outer `SELECT`. -/
theorem selects_of_listOpening {tokens : List Token} {front : String}
    (htokens : tokens? text = some tokens)
    (hlist : listOpening (level false (maxDepth - 2)) tokens = .ok (front, others)) :
    Selects text columns ↔ ListsColumns columns others := by
  constructor
  · rintro ⟨q, hq, hfrom, hcolumns⟩
    obtain ⟨head, m, rest, s, last, hhead, hword, hbehind, hends, hs⟩ :=
      (parse_of_listOpening htokens hlist hfrom).1 hq
    obtain ⟨hdistinct, hne, hask⟩ := askFor_of_parse hbehind hs hcolumns
    obtain ⟨-, from?, projection, hfound, -, rfl⟩ := ofSelect_eq_ok.1 hs
    obtain ⟨clause, rfl⟩ := Option.ne_none_iff_exists'.1 hfrom
    obtain ⟨last', htables⟩ := tables_of_behindOpening hbehind
    exact ⟨head, m, hhead, ⟨rest, s.tables, s.hasWhere, last', clause, hword, htables, hfound,
      fun other => ⟨last, (behindOpening_withTables hbehind).2 other, hends⟩⟩, hdistinct, hne, hask⟩
  · rintro ⟨head, m, hhead, ⟨rest, tables, hasWhere, _, clause, hword, -, hfound, hbehind⟩,
      hdistinct, hne, hask⟩
    obtain ⟨last, hbehind, hends⟩ := hbehind head
    have hs : ofSelect (head.withTables tables hasWhere) =
        .ok ⟨some clause, .columns columns, hasWhere⟩ :=
      ofSelect_eq_ok.2 ⟨by simp [SelectHead.withTables, hdistinct], _, _, hfound,
        Projection.ofItems_columns.2 ⟨hne, hask⟩, rfl⟩
    have hfrom : (Query.mk (some clause) (.columns columns) hasWhere).from? ≠ none :=
      Option.some_ne_none clause
    exact ⟨_, (parse_of_listOpening htokens hlist hfrom).2
      ⟨head, m, rest, _, last, hhead, hword, hbehind, hends, hs⟩, hfrom, rfl⟩

section

variable {head : SelectHead} {m : List Token} {c : SelectedColumn} {word : String}

/-- A select list with the key column in front of it has one more column. The second element is the
first column, and it ends. -/
theorem exists_first_of_keyed
    (hkeyed : listHead (level false (maxDepth - 2)) (keyToken :: .symbol "," :: others) =
      .ok (head, m)) (hfollows : FollowsList m)
    (hask : SelectedColumn.AskFor head.items (c :: columns)) :
    ∃ items d ds parts name? mid, head.items = keyItem :: items ∧ columns = d :: ds ∧
      SelectedColumn.AskFor items columns ∧ (d.column, d.alias?) = columnOf parts name? ∧
      item (level false (maxDepth - 2)) others = .ok (.value (.column parts) name?, mid) ∧
      EndsItem mid := by
  obtain ⟨rest, tables, -, last, -, hfrom, htables, -⟩ := hfollows
  obtain ⟨first, more, mid, hitems, hfirst, hends⟩ := exists_item_of_keyed hkeyed hfrom htables
  rw [hitems] at hask
  obtain ⟨-, hask⟩ := List.forall₂_cons.1 hask
  obtain ⟨d, ds, hd, -, rfl⟩ := List.forall₂_cons_left_iff.1 hask
  obtain ⟨parts, name?, rfl, hcolumn⟩ := SelectedColumn.ofItem_eq_some hd
  exact ⟨_, d, ds, parts, name?, mid, hitems, rfl, hask, hcolumn, hfirst, hends⟩

/-- If a select list asks for one more column with the key column in front of it, no word of the
`SELECT` stands there: in front of the tables, the first element would be this word. -/
theorem not_listWord_of_listsColumns (hplain : ListsColumns columns others)
    (hkeyed : ListsColumns (c :: columns) (keyToken :: .symbol "," :: others))
    (hword : others.head?.bind Token.keyword? = some word) : word ∉ listWords := by
  intro hmem
  obtain ⟨head, m, hhead, -, hdistinct, -, hask⟩ := hplain
  obtain ⟨head', m', hhead', hfollows, -, -, hask'⟩ := hkeyed
  obtain ⟨items, d, ds, parts, name?, mid, -, rfl, -, hcolumn, hfirst, hends⟩ :=
    exists_first_of_keyed hhead' hfollows hask'
  obtain ⟨t, ht, hkeyword⟩ := Option.bind_eq_some_iff.1 hword
  obtain ⟨tokens, rfl⟩ := List.head?_eq_some_iff.1 ht
  obtain ⟨i, is, hi, -, hitems⟩ := List.forall₂_cons_right_iff.1 hask
  obtain ⟨parts', name'?, rfl, hcolumn'⟩ := SelectedColumn.ofItem_eq_some hi
  exact not_columnOf_listWord hkeyword hmem hhead hdistinct hitems hfirst hends
    (hcolumn'.symm.trans hcolumn)

/-- If a select list in upper case asks for the columns in upper case with the key column in front
of it, no word of the `SELECT` stands there. -/
theorem UpperList.not_listWord (l : UpperList columns others) (hascii : ∀ c ∈ columns, c.IsAscii)
    (hkeyed : listHead (level false (maxDepth - 2)) (keyToken :: .symbol "," :: others) =
      .ok (head, m)) (hfollows : FollowsList m)
    (hask : SelectedColumn.AskFor head.items (c :: columns.map SelectedColumn.upper))
    (hword : others.head?.bind Token.keyword? = some word) : word ∉ "DISTINCT" :: listWords := by
  obtain ⟨items, d, ds, parts, name?, mid, -, hcolumns, -, hcolumn, hfirst, hends⟩ :=
    exists_first_of_keyed hkeyed hfollows hask
  obtain ⟨e, es, rfl, rfl, rfl⟩ := List.map_eq_cons_iff.1 hcolumns
  obtain ⟨i, is, hi, -, hitems⟩ := List.forall₂_cons_right_iff.1 l.askFor
  have hupper := SelectedColumn.ofItem_asciiUpper (hascii e List.mem_cons_self) hi
  obtain ⟨parts', name'?, rfl, -⟩ := SelectedColumn.ofItem_eq_some hi
  obtain ⟨parts'', name''?, heq, hcolumn'⟩ := SelectedColumn.ofItem_eq_some hupper
  cases heq
  have hplain := l.keyword?_head hword
  intro hmem
  obtain rfl | hmem := List.mem_cons.1 hmem
  · exact ne_distinct_of_listHead l.distinct?_head hplain l.listHead_tokens rfl
  · rw [l.eq_upperBefore] at hfirst
    exact not_columnOf_listWord_asciiUpper l.isNamePart l.rest_ne_nil hplain hmem l.listHead_tokens
      l.distinct?_head hitems hfirst hends (hcolumn'.symm.trans hcolumn)

/-- The key column in front of a select list makes one of one more column if and only if no word of
the `SELECT` stands there. -/
theorem ListsColumns.keyed_iff (h : ListsColumns columns others) :
    ListsColumns (⟨"ROWKEY", none⟩ :: columns) (keyToken :: .symbol "," :: others) ↔
      ∀ word, others.head?.bind Token.keyword? = some word → word ∉ listWords := by
  constructor
  · exact fun hkeyed _ => not_listWord_of_listsColumns h hkeyed
  · intro hword
    obtain ⟨head, m, hhead, hfollows, hdistinct, -, hask⟩ := h
    exact ⟨_, m, listHead_keyed hask.isColumn hdistinct hword hhead, hfollows, hdistinct,
      List.cons_ne_nil _ _, .cons rfl hask⟩

/-- If the key column in front of a select list in upper case makes one of one more column, the list
is one of the columns in upper case. -/
theorem UpperList.listsColumns_of_keyed (l : UpperList columns others)
    (hascii : ∀ c ∈ columns, c.IsAscii)
    (h : ListsColumns (c :: columns.map SelectedColumn.upper) (keyToken :: .symbol "," :: others)) :
    ListsColumns (columns.map SelectedColumn.upper) others := by
  obtain ⟨head, m, hhead, hfollows, hdistinct, -, hask⟩ := h
  obtain ⟨items, d, ds, -, -, -, hitems, hcolumns, hasked, -⟩ :=
    exists_first_of_keyed hhead hfollows hask
  exact ⟨_, m, listHead_of_keyed hasked.isColumn hitems
    (fun _ => l.not_listWord hascii hhead hfollows hask) hhead, hfollows, hdistinct,
    hcolumns ▸ List.cons_ne_nil d ds, hasked⟩

end

end Query

/-! ## Texts in front of a select list -/

namespace Sql

/-- A select list with no word of its `SELECT` in front of it. -/
def StartsList (list : List Char) : Prop :=
  ∀ n tokens, Lexes n list tokens [] → ∀ word, tokens.head?.bind Token.keyword? = some word →
    word ∉ listWords

/-- A text of nothing but semicolons and what is skipped, whatever follows. -/
def IsStart (front : List Char) : Prop :=
  ∃ n semis, (∀ back, Lexes n (front ++ back) semis back) ∧ ∀ t ∈ semis, t = .symbol ";"

theorem startsList_iff {list : List Char} {tokens : List Token}
    (htokens : tokens? (String.ofList list) = some tokens) : StartsList list ↔
      ∀ word, tokens.head?.bind Token.keyword? = some word → word ∉ listWords := by
  obtain ⟨n, hlexes⟩ := tokens?_eq_some.1 htokens
  constructor
  · exact fun h => h n tokens hlexes
  · intro h m others hothers
    rwa [hothers.unique hlexes]

theorem lexes_key (back : List Char) :
    Lexes 3 ("ROWKEY, ".toList ++ back) [keyToken, .symbol ","] back :=
  lexes_of_readTokens rfl

end Sql

namespace Query

variable {q sent : Query} {front lead list between back : List Char} {columns : List SelectedColumn}
  {text : String}

/-- A text selects what is listed where its outer select list begins. -/
theorem selects_of_opensList (hfront : OpensList front back) :
    Selects (String.ofList (front ++ back)) columns ↔
      ∃ others, tokens? (String.ofList back) = some others ∧ ListsColumns columns others := by
  obtain ⟨n, opened, front', hlexes, hopening⟩ := hfront
  constructor
  · rintro ⟨q, hq, hselects⟩
    obtain ⟨all, -, -, hall, -⟩ := parse_eq_ok.1 hq
    obtain ⟨others, hothers, rfl⟩ := hlexes.tokens?_eq_some.1 hall
    exact ⟨others, hothers, (selects_of_listOpening hall (hopening others)).1 ⟨q, hq, hselects⟩⟩
  · rintro ⟨others, hothers, h⟩
    have hall := hlexes.tokens?_eq_some.2 ⟨others, hothers, rfl⟩
    exact (selects_of_listOpening hall (hopening others)).2 h

/-- A text with the key column behind an opening of its select list selects what is listed there
with the key column in front. -/
theorem selects_of_key (hlead : IsListOpening lead) :
    Selects (String.ofList (lead ++ ("ROWKEY, ".toList ++ list))) columns ↔
      ∃ others, tokens? (String.ofList list) = some others ∧
        ListsColumns columns (keyToken :: .symbol "," :: others) := by
  rw [selects_of_opensList (hlead.opensList _)]
  simp only [(lexes_key list).tokens?_eq_some]
  constructor
  · rintro ⟨_, ⟨others, hothers, rfl⟩, h⟩
    exact ⟨others, hothers, h⟩
  · rintro ⟨others, hothers, h⟩
    exact ⟨_, ⟨others, hothers, rfl⟩, h⟩

/-- A text with the key column behind an opening of its select list is a query of one more column,
if no word of the `SELECT` stands there. -/
theorem selects_keyed_of_isListOpening (hlead : IsListOpening lead)
    (hplain : Selects (String.ofList (lead ++ list)) columns) :
    Selects (String.ofList (lead ++ ("ROWKEY, ".toList ++ list))) (⟨"ROWKEY", none⟩ :: columns) ↔
      StartsList list := by
  obtain ⟨others, hothers, hlists⟩ := (selects_of_opensList (hlead.opensList list)).1 hplain
  rw [selects_of_key hlead, startsList_iff hothers, ← hlists.keyed_iff]
  simp [hothers]

/-- A query of the key column and the columns of a statement in upper case has a select list with no
word of the `SELECT` in front, and without the key column it is a query of the columns, if the
statement has the same select list. -/
theorem startsList_of_selects {statement : List Char} (hlists : SameList statement (lead ++ list))
    (hq : parse (String.ofList statement) = .ok q) (hcolumns : q.projection = .columns columns)
    (hascii : ∀ c ∈ columns, c.IsAscii) (hlead : IsListOpening lead)
    (hsent : Selects (String.ofList (lead ++ ("ROWKEY, ".toList ++ list)))
      (⟨"ROWKEY", none⟩ :: columns.map SelectedColumn.upper)) :
    StartsList list ∧
      Selects (String.ofList (lead ++ list)) (columns.map SelectedColumn.upper) := by
  obtain ⟨others, hothers, hkeyed⟩ := (selects_of_key hlead).1 hsent
  obtain ⟨l⟩ := exists_upperList hlists hq hcolumns rfl (hlead.opensList list) hothers
  have hplain := (selects_of_opensList (hlead.opensList list)).2
    ⟨others, hothers, l.listsColumns_of_keyed hascii hkeyed⟩
  exact ⟨(selects_keyed_of_isListOpening hlead hplain).1 hsent, hplain⟩

/-- A word that the key column makes longer starts no query. -/
theorem not_parse_of_isStart (hfront : IsStart front) :
    parse (String.ofList (front ++ ("SELECTROWKEY,".toList ++ list))) ≠ .ok q := by
  intro hq
  obtain ⟨n, semis, hlexes, hsemis⟩ := hfront
  obtain ⟨all, st, last, hall, hlast, -⟩ := parse_eq_ok.1 hq
  obtain ⟨others, hothers, rfl⟩ := (hlexes _).tokens?_eq_some.1 hall
  have hword : Lexes 1 ("SELECTROWKEY,".toList ++ list) [.word ⟨"SELECTROWKEY", none⟩]
      (',' :: list) := lexes_of_readTokens rfl
  obtain ⟨more, -, rfl⟩ := hword.tokens?_eq_some.1 hothers
  obtain ⟨us, hmany⟩ := many_semicolons hsemis (t := .word ⟨"SELECTROWKEY", none⟩) (by decide) more
  have hstatements : statementsUpTo (statementAt maxDepth) true
      ((semis ++ .word ⟨"SELECTROWKEY", none⟩ :: more).length + 1)
      (semis ++ .word ⟨"SELECTROWKEY", none⟩ :: more) = .ok ([st], last) := hlast
  rw [statementsUpTo, bind_of_ok hmany, bind_of_ok (peek_run _)] at hstatements
  simp only [List.head?_cons, Bool.true_or, if_true] at hstatements
  obtain ⟨found, m, hfound, -⟩ := bind_eq_ok.1 hstatements
  -- No statement is called by this word.
  cases hfound

end Query

namespace Adapter

variable {a : Adapter} {statement text : String} {q : Query} {source : Source}
  {bare lead list : List Char}

/-! ## The place of the key column -/

/-- The key column is put between two parts of a text: behind its first `SELECT` and the blanks
there. -/
def KeyPlace (bare lead list : List Char) : Prop :=
  ∃ before selected, bare = before ++ selected ∧ First "SELECT" before selected ∧
    lead = before ++ wordOf "SELECT" selected ++ blanksBehind "SELECT" selected ∧
    list = restBehind "SELECT" selected

/-- The key column has one place in a text. -/
theorem KeyPlace.unique {lead' list' : List Char} (h : KeyPlace bare lead list)
    (h' : KeyPlace bare lead' list') : lead = lead' ∧ list = list' := by
  obtain ⟨before, selected, rfl, hfirst, rfl, rfl⟩ := h
  obtain ⟨before', selected', htext, hfirst', rfl, rfl⟩ := h'
  obtain ⟨rfl, rfl⟩ := hfirst.unique isKeyword_select hfirst' htext
  exact ⟨rfl, rfl⟩

theorem KeyPlace.append_eq (h : KeyPlace bare lead list) : lead ++ list = bare := by
  obtain ⟨before, selected, rfl, -, rfl, rfl⟩ := h
  rw [append_eq_parts "SELECT" before selected]

theorem KeyPlace.inject_eq (h : KeyPlace bare lead list) :
    a.inject bare = .ok (lead ++ (a.keyColumn.toList ++ [',', ' '] ++ list)) := by
  obtain ⟨before, selected, rfl, hfirst, rfl, rfl⟩ := h
  rw [inject_of_first hfirst]
  simp only [List.append_assoc]

theorem KeyPlace.isListOpening (h : KeyPlace bare lead list) (hnames : ListsNames statement.toList)
    (hwhere : q.hasWhere = false)
    (hbare : a.withoutKey.adapt statement q source = .ok (String.ofList bare)) :
    IsListOpening lead := by
  obtain ⟨before, selected, htext, hfirst, rfl, rfl⟩ := h
  exact isListOpening_of_listsNames hnames hwhere hbare hfirst htext

/-- The outer select list of a keyed text begins where the key column is put or behind it, or the
key column makes its `SELECT` another word. -/
def OuterList (lead list : List Char) : Prop :=
  IsListOpening lead ∨
    (∃ between back, list = between ++ back ∧ OpensList (lead ++ between) back ∧
      OpensList (lead ++ ("ROWKEY, ".toList ++ between)) back) ∨
    ∃ before, lead = before ++ "SELECT".toList ∧ IsStart before

/-- Without a predicate, the adapted text is the text without the key column, with the key column at
its place if it is added at all. -/
theorem adapt_of_no_where (hwhere : q.hasWhere = false)
    (h : a.adapt statement q source = .ok text) :
    ∃ bare, a.withoutKey.adapt statement q source = .ok (String.ofList bare) ∧
      if a.injects q.projection then ∃ keyed, a.inject bare = .ok keyed ∧ text = String.ofList keyed
      else text = String.ofList bare := by
  obtain ⟨clause, head, predicate, qualified, keyed, hclause, hsplit, hqualified, hkeyed, rfl⟩ :=
    adapt_eq_ok_iff.1 h
  have hplain := adapt_withoutKey (a := a) hclause hsplit hqualified
  have htail : a.tail q.hasWhere predicate = [] := by simp [tail, hwhere]
  rw [htail, List.append_nil] at hplain ⊢
  refine ⟨qualified, hplain, ?_⟩
  split at hkeyed
  · rename_i hinjects
    rw [if_pos hinjects]
    exact ⟨keyed, hkeyed, rfl⟩
  · rename_i hinjects
    rw [if_neg hinjects]
    cases hkeyed
    rfl

/-- What is put in front of a select list by default. -/
theorem keyColumn_default : (ofConfig .default).keyColumn.toList ++ [',', ' '] =
    "ROWKEY, ".toList := by
  decide

theorem exists_keyPlace {keyed : List Char} (h : a.inject bare = .ok keyed) :
    ∃ lead list, KeyPlace bare lead list := by
  obtain ⟨before, selected, rfl, hfirst, -⟩ := inject_eq h
  exact ⟨_, _, before, selected, rfl, hfirst, rfl, rfl⟩

/-! ## The columns of a keyed text -/

/-- Where the outer select list begins decides whether the key column is in front of it. -/
theorem selects_keyed_iff {columns : List SelectedColumn}
    (hplain : Query.Selects (String.ofList (lead ++ list)) columns) (houter : OuterList lead list) :
    Query.Selects (String.ofList (lead ++ ("ROWKEY, ".toList ++ list)))
      (⟨"ROWKEY", none⟩ :: columns) ↔ IsListOpening lead ∧ StartsList list := by
  by_cases hlead : IsListOpening lead
  · rw [Query.selects_keyed_of_isListOpening hlead hplain]
    exact (and_iff_right hlead).symm
  · refine iff_of_false ?_ fun hboth => hlead hboth.1
    rintro ⟨sent, hsent, -, hsentColumns⟩
    obtain hlead' | ⟨between, back, rfl, hopens, hopensKeyed⟩ | ⟨before, rfl, hstart⟩ := houter
    · exact hlead hlead'
    · -- The outer list is behind the key column, so it is the same list.
      obtain ⟨plain, hplain, -, hcolumns⟩ := hplain
      simp only [← List.append_assoc] at hplain hsent hopens hopensKeyed
      have hsame := Query.projection_eq_of_opensList hopens hopensKeyed hplain hsent
      rw [hsentColumns, hcolumns] at hsame
      have hlength := congrArg List.length (Projection.columns.inj hsame)
      simp at hlength
    · rw [List.append_assoc] at hsent
      exact Query.not_parse_of_isStart hstart hsent

/-- A text with the select list of a statement in upper case is a query of the key column and the
columns in upper case if the key column is in front of this list and the text without it is a query
of the columns. -/
theorem selects_keyed_upper_iff {chars : List Char} {items : List SelectedColumn}
    (hlists : SameList chars (lead ++ list)) (hq : Query.parse (String.ofList chars) = .ok q)
    (hitems : q.projection = .columns items) (hascii : ∀ c ∈ items, c.IsAscii)
    (houter : OuterList lead list) :
    Query.Selects (String.ofList (lead ++ ("ROWKEY, ".toList ++ list)))
        (⟨"ROWKEY", none⟩ :: items.map SelectedColumn.upper) ↔
      IsListOpening lead ∧ StartsList list ∧
        Query.Selects (String.ofList (lead ++ list)) (items.map SelectedColumn.upper) := by
  constructor
  · intro hkeyed
    obtain hlead | ⟨between, back, rfl, hopens, hopensKeyed⟩ | ⟨before, rfl, hstart⟩ := houter
    · exact ⟨hlead, Query.startsList_of_selects hlists hq hitems hascii hlead hkeyed⟩
    · -- The outer list is behind the key column, so it has the columns of the statement only.
      obtain ⟨sent, hsent, -, hcolumns⟩ := hkeyed
      simp only [← List.append_assoc] at hsent hopensKeyed
      have hsame := Query.columns_of_sameList hlists hq hitems hascii (List.append_assoc ..).symm
        hopens hopensKeyed hsent hcolumns
      have hlength := congrArg List.length hsame
      simp at hlength
    · obtain ⟨sent, hsent, -⟩ := hkeyed
      rw [List.append_assoc] at hsent
      exact absurd hsent (Query.not_parse_of_isStart hstart)
  · rintro ⟨hlead, hstarts, hplain⟩
    exact (Query.selects_keyed_of_isListOpening hlead hplain).2 hstarts

/-- Without a predicate, an adapted text is the text without the key column if a column refers to
the key. Otherwise it has the key column at its place.

Let the outer select list of the text without the key column be that of the statement in upper case
(`SameList`). It is one if the statement lists nothing but names (`ListsNames`), and then the place
of the key column is the beginning of this list. The columns of the text without the key column are
those of the statement in upper case. Let also the outer select list begin at the place of the key
column or behind it (`OuterList`). Then the adapted text is a query of the key column and the
columns in upper case if and only if the place of the key column is the beginning of the list, no
word of the `SELECT` stands there, and the text without the key column is a query of these
columns. -/
theorem parse_keyed_iff {items : List SelectedColumn} (hq : Query.parse statement = .ok q)
    (hitems : q.projection = .columns items) (hascii : ∀ c ∈ items, c.IsAscii)
    (hwhere : q.hasWhere = false) (h : (ofConfig .default).adapt statement q source = .ok text) :
    ∃ bare, (ofConfig .default).withoutKey.adapt statement q source = .ok (String.ofList bare) ∧
      (ListsNames statement.toList → SameList statement.toList bare ∧
        ∀ lead list, KeyPlace bare lead list → IsListOpening lead) ∧
      (∀ plain columns, Query.parse (String.ofList bare) = .ok plain →
        plain.projection = .columns columns → SameList statement.toList bare →
        columns = items.map SelectedColumn.upper) ∧
      if items.any fun c => sameName c.column "ROWKEY" then text = String.ofList bare
      else ∃ lead list, KeyPlace bare lead list ∧
        text = String.ofList (lead ++ ("ROWKEY, ".toList ++ list)) ∧
        (OuterList lead list →
          (∀ columns, Query.Selects (String.ofList bare) columns →
            (Query.Selects text (⟨"ROWKEY", none⟩ :: columns) ↔
              IsListOpening lead ∧ StartsList list)) ∧
          (SameList statement.toList bare →
            (Query.Selects text (⟨"ROWKEY", none⟩ :: items.map SelectedColumn.upper) ↔
              IsListOpening lead ∧ StartsList list ∧
                Query.Selects (String.ofList bare) (items.map SelectedColumn.upper)))) := by
  obtain ⟨bare, hbare, htext⟩ := adapt_of_no_where hwhere h
  have hinjects : (ofConfig .default).injects q.projection =
      !items.any fun c => sameName c.column "ROWKEY" := by
    rw [hitems]
    rfl
  have hchars := hq
  rw [← String.ofList_toList (s := statement)] at hchars
  refine ⟨bare, hbare, fun hnames => ⟨sameList_of_listsNames hnames hwhere hbare,
    fun _ _ hplace => hplace.isListOpening hnames hwhere hbare⟩,
    fun plain columns hplain hcolumns hlists => ?_, ?_⟩
  · obtain ⟨front, back, rfl, hopens⟩ := hlists.exists_opensList
    exact Query.columns_of_sameList hlists hchars hitems hascii rfl hopens hopens hplain hcolumns
  rw [hinjects] at htext
  split
  · rename_i hnamed
    simpa [hnamed] using htext
  · rename_i hnamed
    rw [if_pos (by simpa using hnamed)] at htext
    obtain ⟨keyed, hkeyed, rfl⟩ := htext
    obtain ⟨lead, list, hplace⟩ := exists_keyPlace hkeyed
    rw [hplace.inject_eq, keyColumn_default, Except.ok.injEq] at hkeyed
    subst hkeyed
    obtain rfl := hplace.append_eq
    exact ⟨lead, list, hplace, rfl, fun houter => ⟨fun columns hplain =>
      selects_keyed_iff hplain houter, fun hlists =>
        selects_keyed_upper_iff hlists hchars hitems hascii houter⟩⟩

/-- A source with one value column. -/
def orders : Source where
  name := "ORDERS"
  schema := ⟨some ⟨"ROWKEY", .string⟩, [⟨"COL0", .bigint⟩]⟩
  physicalName := "orders_v1"

/-- A query of a value column under another name. -/
def ordersQuery : Query where
  from? := some ⟨"orders", some "o"⟩
  projection := .columns [⟨"col0", some "c"⟩]

/-- A comment between the `SELECT` and its list does not matter. -/
theorem parse_keyed_orders : ∃ plain sent,
    Query.parse "SELECT /* CENTS */ COL0 AS C FROM ORDERS.orders_v1 AS O" = .ok plain ∧
      plain.projection = .columns ([⟨"col0", some "c"⟩].map SelectedColumn.upper) ∧
      Query.parse "SELECT ROWKEY, /* CENTS */ COL0 AS C FROM ORDERS.orders_v1 AS O" = .ok sent ∧
      sent.from? ≠ none ∧ sent.projection =
        .columns (⟨"ROWKEY", none⟩ :: [⟨"col0", some "c"⟩].map SelectedColumn.upper) := by
  have hq : Query.parse "SELECT /* cents */ col0 AS c FROM orders AS o" = .ok ordersQuery :=
    eq_ok_of_toOption (by decide +kernel)
  have hplain : Query.parse "SELECT /* CENTS */ COL0 AS C FROM ORDERS.orders_v1 AS O" =
      .ok { from? := some ⟨"ORDERS.orders_v1", some "O"⟩,
            projection := .columns [⟨"COL0", some "C"⟩] } := eq_ok_of_toOption (by decide +kernel)
  have hascii : ∀ c ∈ [SelectedColumn.mk "col0" (some "c")], c.IsAscii := by
    simp only [List.forall_mem_singleton]
    exact ⟨by simp, fun name hname => by cases hname; simp⟩
  have htext : (ofConfig .default).adapt "SELECT /* cents */ col0 AS c FROM orders AS o" ordersQuery
      orders = .ok "SELECT ROWKEY, /* CENTS */ COL0 AS C FROM ORDERS.orders_v1 AS O" := rfl
  have hplainText : (ofConfig .default).withoutKey.adapt
      "SELECT /* cents */ col0 AS c FROM orders AS o" ordersQuery orders =
        .ok "SELECT /* CENTS */ COL0 AS C FROM ORDERS.orders_v1 AS O" := rfl
  obtain ⟨bare, hbare, hsame, hcolumns, hkeyed⟩ := parse_keyed_iff hq rfl hascii rfl htext
  rw [hplainText, Except.ok.injEq] at hbare
  obtain rfl : bare = "SELECT /* CENTS */ COL0 AS C FROM ORDERS.orders_v1 AS O".toList := by
    rw [hbare, String.toList_ofList]
  rw [if_neg (by decide)] at hkeyed
  obtain ⟨lead, list, hplace, -, hiff⟩ := hkeyed
  have hselect : IsListOpening "SELECT ".toList :=
    ⟨2, [.word ⟨"SELECT", none⟩], _, fun _ => lexes_of_readTokens rfl, fun _ => rfl⟩
  have hopening : IsOpening "SELECT /* cents */ col0 AS c FROM ".toList :=
    ⟨12, [.word ⟨"SELECT", none⟩, .word ⟨"col0", none⟩, .word ⟨"AS", none⟩, .word ⟨"c", none⟩,
      .word ⟨"FROM", none⟩], _, fun _ => lexes_of_readTokens rfl, fun _ => rfl⟩
  have hname : listUpToTables "/* cents */ col0 AS c ".toList "FROM orders AS o".toList =
      "/* cents */ col0 AS c FROM ".toList := by decide +kernel
  have hfrom := first_of_keywordOffset isKeyword_from (n := 29)
    (show keywordOffset "SELECT /* cents */ col0 AS c FROM orders AS o".toList "FROM" = some 29 by
      decide +kernel)
  have hlist : NameList "SELECT ".toList "/* cents */ col0 AS c ".toList
      "FROM orders AS o".toList :=
    { exists_select := ⟨"SELECT".toList, [' '], rfl, rfl, List.cons_ne_nil _ _,
        List.forall_mem_singleton.2 (by decide)⟩
      first_from := hfrom
      isOuterList := ⟨hselect, hopening⟩
      exists_space := ⟨"/* cents */ col0 AS c FROM".toList, hname⟩
      isAscii := by
        rw [hname]
        simp
      exists_names := ⟨10,
        [.word ⟨"col0", none⟩, .word ⟨"AS", none⟩, .word ⟨"c", none⟩, .word ⟨"FROM", none⟩],
        lexes_of_readTokens rfl, by simp [Token.IsNamePart, Token.ident?]⟩ }
  obtain ⟨hlists, hleads⟩ := hsame ⟨_, _, _, by decide, hlist⟩
  have hlead := hleads lead list hplace
  -- The key column is put behind the `SELECT` and its blank, where the outer list begins.
  have hfirst := first_of_keywordOffset isKeyword_select (n := 0)
    (show keywordOffset "SELECT /* CENTS */ COL0 AS C FROM ORDERS.orders_v1 AS O".toList
      "SELECT" = some 0 by decide +kernel)
  have hplace' : KeyPlace "SELECT /* CENTS */ COL0 AS C FROM ORDERS.orders_v1 AS O".toList
      "SELECT ".toList "/* CENTS */ COL0 AS C FROM ORDERS.orders_v1 AS O".toList :=
    ⟨_, _, by decide +kernel, hfirst, by decide +kernel, by decide +kernel⟩
  obtain ⟨rfl, rfl⟩ := hplace.unique hplace'
  have hstarts : StartsList "/* CENTS */ COL0 AS C FROM ORDERS.orders_v1 AS O".toList := by
    intro n tokens htokens word hword
    have hlist : Lexes 17 "/* CENTS */ COL0 AS C FROM ORDERS.orders_v1 AS O".toList
        [.word ⟨"COL0", none⟩, .word ⟨"AS", none⟩, .word ⟨"C", none⟩, .word ⟨"FROM", none⟩,
          .word ⟨"ORDERS", none⟩, .symbol ".", .word ⟨"orders_v1", none⟩, .word ⟨"AS", none⟩,
          .word ⟨"O", none⟩] [] := lexes_of_readTokens rfl
    rw [htokens.unique hlist] at hword
    cases hword
    decide
  have hitems := hcolumns _ _ (hbare ▸ hplain) rfl hlists
  rw [← hbare] at hiff
  obtain ⟨sent, hsent, hfrom, hprojection⟩ := ((hiff (.inl hlead)).2 hlists).2
    ⟨hlead, hstarts, _, hplain, nofun, congrArg Projection.columns hitems⟩
  exact ⟨_, sent, hplain, congrArg Projection.columns hitems, hsent, hfrom, hprojection⟩

/-- The first word of a select list may be its `ALL`. Behind the key column it is a column. -/
theorem word_read_as_column :
    (Query.parse "SELECT ALL col0 FROM orders").toOption =
      some { from? := some ⟨"orders", none⟩, projection := .columns [⟨"col0", none⟩] } ∧
    (ofConfig .default).adapt "SELECT ALL col0 FROM orders"
        { from? := some ⟨"orders", none⟩, projection := .columns [⟨"col0", none⟩] } orders =
      .ok "SELECT ROWKEY, ALL COL0 FROM ORDERS.orders_v1" ∧
    (Query.parse "SELECT ROWKEY, ALL COL0 FROM ORDERS.orders_v1").toOption =
      some { from? := some ⟨"ORDERS.orders_v1", none⟩,
             projection := .columns [⟨"ROWKEY", none⟩, ⟨"ALL", some "COL0"⟩] } :=
  ⟨by decide +kernel, rfl, by decide +kernel⟩

end Adapter

end MatView
