import Mathlib.Data.List.Forall2
import MatView.Proofs.Sql.UpperList

/-!
# The columns of the outer query

The columns of a query are read off its outer select list, whatever stands in front of it. A select
list of columns in upper case is one of the columns in upper case.

## Main definitions

* `SelectedColumn.AskFor`: the elements of a select list that ask for given columns.
* `Sql.IsListOpening`, `Sql.OpensList`: texts in front of the outer select list.
* `Sql.SameList`: texts whose outer select lists are the same up to upper case.
* `Query.UpperList`: tokens that start with a select list in upper case.

## Main statements

* `Query.parse_of_listOpening`: a query is read in pieces, cut in front of its select list.
* `Query.projection_eq_of_opensList`: the projection depends on the outer select list only.
* `Query.exists_upperList`: wherever a select list in upper case begins, its tokens are found.
* `Query.columns_of_sameList`: a select list in upper case asks for the columns in upper case.
-/

namespace MatView

open Sql Reader

/-! ## Columns of a query -/

/-- A column with its names in upper case. -/
def SelectedColumn.upper (c : SelectedColumn) : SelectedColumn :=
  ⟨Unicode.upper c.column, c.alias?.map Unicode.upper⟩

namespace SelectedColumn

/-- A column whose names are of ASCII. -/
def IsAscii (c : SelectedColumn) : Prop :=
  (∀ d ∈ c.column.toList, d.toNat < 0x80) ∧
    ∀ name, c.alias? = some name → ∀ d ∈ name.toList, d.toNat < 0x80

variable {items : List Item} {found : List (Option SelectedColumn)} {columns : List SelectedColumn}

theorem ofItem_eq_some {i : Item} {c : SelectedColumn} (h : ofItem i = .ok (some c)) :
    ∃ parts name?, i = .value (.column parts) name? ∧
      (c.column, c.alias?) = columnOf parts name? := by
  cases i with
  | wildcard text => cases h
  | value e name? =>
    cases e with
    | column parts =>
      cases h
      exact ⟨parts, name?, rfl, rfl⟩
    | _ => cases h

theorem eq_map_some (h : none ∉ found) : found = (found.filterMap id).map some := by
  induction found with
  | nil => rfl
  | cons c? rest ih =>
    cases c? with
    | none => simp at h
    | some c =>
      have hrest := ih fun hmem => h (List.mem_cons_of_mem _ hmem)
      simpa using hrest

/-- The elements that ask for the given columns, one by one. -/
def AskFor (items : List Item) (columns : List SelectedColumn) : Prop :=
  List.Forall₂ (fun i c => ofItem i = .ok (some c)) items columns

theorem ofItems_of_askFor (h : AskFor items columns) : ofItems items = .ok (columns.map some) := by
  induction h with
  | nil => rfl
  | cons hi _ ih => exact Error.bind_eq_ok.2 ⟨_, hi, Error.bind_eq_ok.2 ⟨_, ih, rfl⟩⟩

theorem askFor_of_ofItems (h : ofItems items = .ok (columns.map some)) : AskFor items columns := by
  induction items generalizing columns with
  | nil =>
    cases columns with
    | nil => exact .nil
    | cons c cs => cases h
  | cons i is ih =>
    obtain ⟨c?, hc, h⟩ := Error.bind_eq_ok.1 h
    obtain ⟨cs?, hcs, h⟩ := Error.bind_eq_ok.1 h
    cases columns with
    | nil => cases h
    | cons c cs =>
      obtain ⟨rfl, rfl⟩ := List.cons.inj (Except.ok.inj h)
      exact .cons hc (ih hcs)

theorem AskFor.isColumn (h : AskFor items columns) : ∀ i ∈ items, i.IsColumn := by
  induction h with
  | nil => simp
  | cons hi _ ih =>
    obtain ⟨parts, name?, rfl, -⟩ := ofItem_eq_some hi
    exact List.forall_mem_cons.2 ⟨⟨parts, name?, rfl⟩, ih⟩

end SelectedColumn

/-- A projection of columns is a select list that asks for them. -/
theorem Projection.ofItems_columns {items : List Item} {columns : List SelectedColumn} :
    ofItems items = .ok (.columns columns) ↔
      columns ≠ [] ∧ SelectedColumn.AskFor items columns := by
  constructor
  · intro h
    obtain ⟨found, hfound, h⟩ := Error.bind_eq_ok.1 h
    dsimp only at h
    split at h
    · split at h <;> cases h
    · rename_i hnone
      split at h
      · cases h
      · rename_i hsome
        cases h
        have hall : found = (found.filterMap id).map some :=
          SelectedColumn.eq_map_some (by simpa using hnone)
        rw [hall] at hfound
        exact ⟨by simpa using hsome, SelectedColumn.askFor_of_ofItems hfound⟩
  · rintro ⟨hne, h⟩
    refine Error.bind_eq_ok.2 ⟨_, SelectedColumn.ofItems_of_askFor h, ?_⟩
    simp [hne]
    rfl

/-! ## Queries cut in front of their select list -/

namespace Query

variable {text : String} {q : Query} {tokens mid : List Token} {front : String}

/-- A text that comes to an outer `SELECT` is a query of a table if its list and its rest are
read. -/
theorem parse_of_listOpening (htokens : tokens? text = some tokens)
    (hlist : listOpening (level false (maxDepth - 2)) tokens = .ok (front, mid))
    (hfrom : q.from? ≠ none) : parse text = .ok q ↔ ∃ head m rest s last,
      listHead (level false (maxDepth - 2)) mid = .ok (head, m) ∧
      keyword "FROM" m = .ok ((), rest) ∧
      behindOpening (level false (maxDepth - 2)) head rest = .ok (s, last) ∧ Ends last ∧
      ofSelect s = .ok q := by
  constructor
  · intro h
    obtain ⟨tokens', st, last, htokens', hlast, hq⟩ := parse_eq_ok.1 h
    rw [htokens, Option.some.injEq] at htokens'
    subst htokens'
    obtain ⟨s, text', rfl, hs⟩ := ofStatement_eq_ok hq
    obtain ⟨head, m, hhead, -, htail⟩ := exists_listHead_of_statements hlist hlast
    obtain ⟨rest, hword⟩ := htail (tables_ne_nil_of_ofSelect hs hfrom)
    obtain ⟨s', last', hbehind, hends, hs'⟩ :=
      (parse_of_opening htokens (opening_of_listOpening hlist hhead hword)).1 h
    exact ⟨head, m, rest, s', last', hhead, hword, hbehind, hends, hs'⟩
  · rintro ⟨head, m, rest, s, last, hhead, hword, hbehind, hends, hs⟩
    exact (parse_of_opening htokens (opening_of_listOpening hlist hhead hword)).2
      ⟨s, last, hbehind, hends, hs⟩

/-- The columns of a query are asked for by its select list. -/
theorem askFor_of_parse {head : SelectHead} {s : Select} {rest last : List Token}
    {columns : List SelectedColumn}
    (hbehind : behindOpening (level false (maxDepth - 2)) head rest = .ok (s, last))
    (hs : ofSelect s = .ok q) (hcolumns : q.projection = .columns columns) :
    head.distinct? = none ∧ columns ≠ [] ∧ SelectedColumn.AskFor head.items columns := by
  obtain ⟨hdistinct, from?, projection, -, hprojection, rfl⟩ := ofSelect_eq_ok.1 hs
  obtain ⟨hs, -⟩ := behindOpening_withTables hbehind
  rw [hs] at hdistinct hprojection
  obtain rfl : projection = .columns columns := hcolumns
  exact ⟨by simpa [SelectHead.withTables] using hdistinct, Projection.ofItems_columns.1 hprojection⟩

end Query

/-! ## Texts in front of a select list -/

namespace Sql

/-- A text in front of the outer select list of a statement: whatever follows, the same tokens are
read off it, and with them the grammar comes to the list. -/
def IsListOpening (front : List Char) : Prop :=
  ∃ n tokens opened, (∀ back, Lexes n (front ++ back) tokens back) ∧
    ∀ rest, listOpening (level false (maxDepth - 2)) (tokens ++ rest) = .ok (opened, rest)

/-- The outer select list of a statement begins between two parts of its text. -/
def OpensList (front back : List Char) : Prop :=
  ∃ n tokens opened, Lexes n (front ++ back) tokens back ∧
    ∀ rest, listOpening (level false (maxDepth - 2)) (tokens ++ rest) = .ok (opened, rest)

theorem IsListOpening.opensList {front : List Char} (h : IsListOpening front) (back : List Char) :
    OpensList front back := by
  obtain ⟨n, tokens, opened, hlexes, hopening⟩ := h
  exact ⟨n, tokens, opened, hlexes back, hopening⟩

end Sql

namespace Query

variable {q sent : Query} {front back : List Char}

/-- The projection of a query is read off its outer select list. -/
theorem exists_head_of_opensList (hfront : OpensList front back)
    (hq : parse (String.ofList (front ++ back)) = .ok q) :
    ∃ others head m, tokens? (String.ofList back) = some others ∧
      listHead (level false (maxDepth - 2)) others = .ok (head, m) ∧ head.distinct? = none ∧
      Projection.ofItems head.items = .ok q.projection := by
  obtain ⟨n, tokens, opened, hlexes, hopening⟩ := hfront
  obtain ⟨all, st, last, hall, hlast, hst⟩ := parse_eq_ok.1 hq
  obtain ⟨others, hothers, rfl⟩ := hlexes.tokens?_eq_some.1 hall
  obtain ⟨s, text, rfl, hs⟩ := ofStatement_eq_ok hst
  obtain ⟨head, m, hhead, hselect, -⟩ := exists_listHead_of_statements (hopening others) hlast
  obtain ⟨hdistinct, from?, projection, -, hprojection, rfl⟩ := ofSelect_eq_ok.1 hs
  rw [hselect] at hdistinct hprojection
  exact ⟨others, head, m, hothers, hhead, by simpa [SelectHead.withTables] using hdistinct,
    hprojection⟩

/-- The projection of a query depends on its outer select list only. -/
theorem projection_eq_of_opensList {front' : List Char} (hfront : OpensList front back)
    (hfront' : OpensList front' back) (hq : parse (String.ofList (front ++ back)) = .ok q)
    (hsent : parse (String.ofList (front' ++ back)) = .ok sent) :
    q.projection = sent.projection := by
  obtain ⟨others, head, m, hothers, hhead, -, hitems⟩ := exists_head_of_opensList hfront hq
  obtain ⟨others', head', m', hothers', hhead', -, hitems'⟩ :=
    exists_head_of_opensList hfront' hsent
  obtain rfl := Option.some.inj (hothers.symm.trans hothers')
  rw [hhead', Except.ok.injEq, Prod.mk.injEq] at hhead
  obtain ⟨rfl, -⟩ := hhead
  rw [hitems, Except.ok.injEq] at hitems'
  exact hitems'

end Query

/-! ## Select lists in upper case -/

namespace Sql

/-- The outer select list of a statement, with its `FROM`, behind what stands in front of it. -/
def IsOuterList (front list : List Char) : Prop :=
  IsListOpening front ∧ IsOpening (front ++ list)

/-- The outer select list of one text is that of another in upper case: the same tokens are read off
it, up to the case of the names, and they are nothing but names, commas and points. -/
def SameList (text upper : List Char) : Prop :=
  ∃ front list back front' back', text = front ++ list ++ back ∧
    upper = front' ++ (Unicode.upperChars list ++ back') ∧ IsOuterList front list ∧
    OpensList front' (Unicode.upperChars list ++ back') ∧
    ∃ n tokens m, Lexes n list tokens [] ∧ (∀ t ∈ tokens, t.IsNamePart) ∧
      Lexes m (Unicode.upperChars list ++ back') (tokens.map Token.asciiUpper) back'

theorem SameList.exists_opensList {text upper : List Char} (h : SameList text upper) :
    ∃ front back, upper = front ++ back ∧ OpensList front back := by
  obtain ⟨_, _, _, front, _, -, rfl, -, hopens, -⟩ := h
  exact ⟨front, _, rfl, hopens⟩

theorem upper_of_ascii {text : String} (h : ∀ c ∈ text.toList, c.toNat < 0x80) :
    Unicode.upper text = asciiUpper text :=
  congrArg String.ofList (Unicode.upperChars_of_ascii h)

/-- Behind a list opening, an opening has a select list. -/
theorem listHead_of_opening {inner : Inner} {tokens mid rest : List Token} {front front' : String}
    {head : SelectHead} (hlist : listOpening inner tokens = .ok (front, mid))
    (h : opening inner tokens = .ok ((front', head), rest)) :
    ∃ m, listHead inner mid = .ok (head, m) ∧ keyword "FROM" m = .ok ((), rest) := by
  obtain ⟨semis, m₁, m₂, hsemis, hfront, hselect⟩ := listOpening_eq_ok hlist
  obtain ⟨semis', m₁', m₂', m₃', hsemis', hfront', hhead, hfrom⟩ := opening_start h
  rw [hsemis, Except.ok.injEq, Prod.mk.injEq] at hsemis'
  obtain ⟨-, rfl⟩ := hsemis'
  rw [hfront, Except.ok.injEq, Prod.mk.injEq] at hfront'
  obtain ⟨-, rfl⟩ := hfront'
  obtain ⟨_, m, hword, hhead⟩ := bind_eq_ok.1 hhead
  rw [hselect, Except.ok.injEq, Prod.mk.injEq] at hword
  obtain ⟨-, rfl⟩ := hword
  exact ⟨_, hhead, hfrom⟩

end Sql

namespace SelectedColumn

variable {items : List Item} {columns columns' : List SelectedColumn} {i : Item}
  {c c' : SelectedColumn}

theorem ofItem_asciiUpper (hascii : c.IsAscii) (h : ofItem i = .ok (some c)) :
    ofItem i.asciiUpper = .ok (some c.upper) := by
  obtain ⟨parts, name?, rfl, -⟩ := ofItem_eq_some h
  cases h
  obtain ⟨hcolumn, halias⟩ := hascii
  have hlast : (((parts.map Ident.asciiUpper).getLast?.map (·.value)).getD "") =
      Unicode.upper ((parts.getLast?.map (·.value)).getD "") := by
    rw [upper_of_ascii hcolumn, List.getLast?_map]
    cases parts.getLast? <;> rfl
  have hname : (name?.map Ident.asciiUpper).map (·.value) =
      (name?.map (·.value)).map Unicode.upper := by
    cases name? with
    | none => rfl
    | some name => exact congrArg some (upper_of_ascii (halias _ rfl)).symm
  simp only [Item.asciiUpper, ofItem, hlast, hname, upper]

/-- In upper case, the elements of a select list ask for the columns in upper case. -/
theorem AskFor.asciiUpper (hascii : ∀ c ∈ columns, c.IsAscii) (h : AskFor items columns) :
    AskFor (items.map Item.asciiUpper) (columns.map SelectedColumn.upper) := by
  induction h with
  | nil => exact .nil
  | cons hi _ ih =>
    obtain ⟨hc, hcs⟩ := List.forall_mem_cons.1 hascii
    exact .cons (ofItem_asciiUpper hc hi) (ih hcs)

theorem AskFor.unique (h : AskFor items columns) (h' : AskFor items columns') :
    columns' = columns := by
  have hfound := ofItems_of_askFor h
  rw [ofItems_of_askFor h', Except.ok.injEq] at hfound
  exact List.map_injective_iff.2 (fun _ _ => Option.some.inj) hfound

end SelectedColumn

namespace Query

variable {q plain : Query} {front list back text upper : List Char}
  {columns columns' : List SelectedColumn} {others : List Token}

/-- The columns of a query are asked for by the list that is its outer select list. -/
theorem exists_head_of_isOuterList (hlist : IsOuterList front list)
    (hq : parse (String.ofList (front ++ list ++ back)) = .ok q)
    (hcolumns : q.projection = .columns columns) :
    ∃ k tokens head m, Lexes k list tokens [] ∧
      listHead (level false (maxDepth - 2)) tokens = .ok (head, m) ∧ m ≠ [] ∧
      head.distinct? = none ∧ SelectedColumn.AskFor head.items columns := by
  obtain ⟨⟨n, tokens, front', hlexes, hlist⟩, hopening⟩ := hlist
  obtain ⟨n', all, opened, hall, hopening, _, _, s, mid, -, hbehind, -, hs⟩ :=
    parse_of_isOpening hopening hq
  have hwhole := hall []
  rw [List.append_nil] at hwhole
  obtain ⟨k, others, -, rfl, hothers⟩ := (hlexes list).exists_rest hwhole
  have hopening := hopening []
  rw [List.append_nil] at hopening
  obtain ⟨m, hhead, hfrom⟩ := listHead_of_opening (hlist others) hopening
  obtain ⟨hdistinct, -, hask⟩ := askFor_of_parse hbehind hs hcolumns
  obtain ⟨t, rfl, -⟩ := keyword_eq_ok hfrom
  exact ⟨k, others, opened.2, _, hothers, hhead, List.cons_ne_nil _ _, hdistinct, hask⟩

/-- Tokens that start with a select list in upper case: the tokens that it had before, which are
those of names, and how they were read as a list that asks for the columns. -/
structure UpperList (columns : List SelectedColumn) (others : List Token) where
  tokens : List Token
  more : List Token
  eq_upperBefore : others = upperBefore more tokens
  isNamePart : ∀ t ∈ tokens, t.IsNamePart
  head : SelectHead
  rest : List Token
  listHead_tokens : listHead (level false (maxDepth - 2)) tokens = .ok (head, rest)
  rest_ne_nil : rest ≠ []
  distinct?_head : head.distinct? = none
  askFor : SelectedColumn.AskFor head.items columns

/-- Wherever the select list of a text in upper case is found to begin, the tokens there start with
the list in upper case. -/
theorem exists_upperList (hlists : SameList text upper)
    (hq : parse (String.ofList text) = .ok q) (hcolumns : q.projection = .columns columns)
    (hupper : upper = front ++ back) (hfront : OpensList front back)
    (hothers : tokens? (String.ofList back) = some others) :
    Nonempty (UpperList columns others) := by
  obtain ⟨start, list, post, start', post', rfl, htext, hlist, hopens, n, tokens, m, hlexes, hnames,
    hread⟩ := hlists
  obtain ⟨_, _, head, rest, htokens, hhead, hrest, hdistinct, hask⟩ :=
    exists_head_of_isOuterList hlist hq hcolumns
  obtain rfl := hlexes.unique htokens
  obtain ⟨_, opening, _, hopening, hlistOpening⟩ := hfront
  obtain ⟨_, opening', _, hopening', hlistOpening'⟩ := hopens
  -- Both openings are read off the same tokens, so they leave the same ones.
  have hwhole := hopening.tokens?_eq_some.2 ⟨others, hothers, rfl⟩
  rw [← hupper, htext] at hwhole
  obtain ⟨others', hothers', hsame⟩ := hopening'.tokens?_eq_some.1 hwhole
  have hleft := hlistOpening others
  rw [hsame, hlistOpening', Except.ok.injEq, Prod.mk.injEq] at hleft
  obtain ⟨-, rfl⟩ := hleft
  obtain ⟨more, -, rfl⟩ := hread.tokens?_eq_some.1 hothers'
  exact ⟨⟨tokens, more, rfl, hnames, head, rest, hhead, hrest, hdistinct, hask⟩⟩

/-- The first word of a select list in upper case is the one it had before. -/
theorem UpperList.keyword?_head (l : UpperList columns others) {word : String}
    (hword : others.head?.bind Token.keyword? = some word) :
    l.tokens.head?.bind Token.keyword? = some word := by
  have hne := ne_nil_of_listHead l.isNamePart l.rest_ne_nil l.distinct?_head l.askFor.isColumn
    l.listHead_tokens
  rw [l.eq_upperBefore, head?_upperBefore hne] at hword
  simpa [Option.bind_map, Function.comp_def] using hword

/-- A select list in upper case asks for the columns in upper case. -/
theorem UpperList.columns_eq (l : UpperList columns others) (hascii : ∀ c ∈ columns, c.IsAscii)
    {head : SelectHead} {rest : List Token}
    (hhead : listHead (level false (maxDepth - 2)) others = .ok (head, rest))
    (hdistinct : head.distinct? = none) (hask : SelectedColumn.AskFor head.items columns') :
    columns' = columns.map SelectedColumn.upper := by
  rw [l.eq_upperBefore] at hhead
  have hitems := listHead_asciiUpper l.isNamePart l.rest_ne_nil l.distinct?_head hdistinct
    l.askFor.isColumn hask.isColumn l.listHead_tokens hhead
  rw [hitems] at hask
  exact (l.askFor.asciiUpper hascii).unique hask

/-- A query with the select list of another in upper case has its columns in upper case. -/
theorem columns_of_sameList (hlists : SameList text upper)
    (hq : parse (String.ofList text) = .ok q) (hcolumns : q.projection = .columns columns)
    (hascii : ∀ c ∈ columns, c.IsAscii) (hupper : upper = front ++ back)
    (hfront : OpensList front back) {front' : List Char} (hfront' : OpensList front' back)
    (hplain : parse (String.ofList (front' ++ back)) = .ok plain)
    (hcolumns' : plain.projection = .columns columns') :
    columns' = columns.map SelectedColumn.upper := by
  obtain ⟨others, head, rest, hothers, hhead, hdistinct, hitems⟩ :=
    exists_head_of_opensList hfront' hplain
  obtain ⟨l⟩ := exists_upperList hlists hq hcolumns hupper hfront hothers
  rw [hcolumns'] at hitems
  exact l.columns_eq hascii hhead hdistinct (Projection.ofItems_columns.1 hitems).2

end Query

end MatView
