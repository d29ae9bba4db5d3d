import MatView.Proofs.Query.Outer
import MatView.Proofs.Sql.Columns

/-!
# The select list of a query

A query is read up to the `SELECT` of its outer select list, then the list, then the rest. A name
with a comma behind it is read as one more column in front of the list, unless one of the words that
belong to the `SELECT` itself stands there. Behind the name, such a word would be a column too, and
never the one that the list began with before.

## Main definitions

* `listOpening`, `listHead`: reading an opening in two pieces.
* `listWords`: the words that belong to the `SELECT`.
* `keyItem`: the element that a name alone is.

## Main statements

* `exists_listHead_of_statements`: a query that comes to an outer `SELECT` has its list there.
* `listHead_keyed`: a name in front of a select list is read as one more column.
* `not_columnOf_listWord`: behind the name, a word of the `SELECT` is no column of the list.
-/

namespace MatView.Sql

open Reader

/-! ## Two pieces of an opening -/

section

variable (inner : Inner)

/-- Reads a statement up to the word `SELECT` of its outer select list. -/
def listOpening : Reader String := do
  skip (many (symbol? ";") (pure ()))
  let front ← commonTables inner
  keyword "SELECT"
  return front

/-- Reads a select list behind its word, up to its tables. -/
def listHead : Reader SelectHead := do
  let distinct? ← distinction? inner
  let top ← top inner
  let items ← items inner
  return ⟨distinct?, top, items, ← target⟩

end

section

variable {inner : Inner} {n : Nat} {tokens mid rest : List Token} {front : String}
  {head : SelectHead} {s : Select}

theorem listOpening_eq_ok (h : listOpening inner tokens = .ok (front, mid)) :
    ∃ semis m₁ m₂, many (symbol? ";") (pure ()) tokens = .ok (semis, m₁) ∧
      commonTables inner m₁ = .ok (front, m₂) ∧ keyword "SELECT" m₂ = .ok ((), mid) := by
  obtain ⟨_, m₁, hskip, h⟩ := bind_eq_ok.1 h
  obtain ⟨semis, m₁', hsemis, hskip⟩ := bind_eq_ok.1 hskip
  obtain ⟨-, rfl⟩ := pure_eq_ok.1 hskip
  obtain ⟨front', m₂, hfront, h⟩ := bind_eq_ok.1 h
  obtain ⟨_, m₃, hselect, h⟩ := bind_eq_ok.1 h
  obtain ⟨rfl, rfl⟩ := pure_eq_ok.1 h
  exact ⟨semis, _, _, hsemis, hfront, hselect⟩

theorem listHead_eq_ok : listHead inner tokens = .ok (head, rest) ↔ ∃ m₁ m₂ m₃,
    distinction? inner tokens = .ok (head.distinct?, m₁) ∧ top inner m₁ = .ok (head.top, m₂) ∧
    items inner m₂ = .ok (head.items, m₃) ∧ target m₃ = .ok (head.target, rest) := by
  constructor
  · intro h
    obtain ⟨distinct?, m₁, hdistinct, h⟩ := bind_eq_ok.1 h
    obtain ⟨number, m₂, hnumber, h⟩ := bind_eq_ok.1 h
    obtain ⟨found, m₃, hfound, h⟩ := bind_eq_ok.1 h
    obtain ⟨goal, m₄, hgoal, h⟩ := bind_eq_ok.1 h
    obtain ⟨rfl, rfl⟩ := pure_eq_ok.1 h
    exact ⟨m₁, m₂, m₃, hdistinct, hnumber, hfound, hgoal⟩
  · rintro ⟨m₁, m₂, m₃, hdistinct, hnumber, hfound, hgoal⟩
    exact bind_eq_ok.2 ⟨_, _, hdistinct, bind_eq_ok.2 ⟨_, _, hnumber, bind_eq_ok.2 ⟨_, _, hfound,
      bind_eq_ok.2 ⟨_, _, hgoal, rfl⟩⟩⟩⟩

theorem items_eq_ok {found : List Item} : items inner tokens = .ok (found, rest) ↔
    ∃ first others m, found = first :: others ∧ item inner tokens = .ok (first, m) ∧
      many (symbol? ",") (item inner) m = .ok (others, rest) := by
  constructor
  · intro h
    obtain ⟨first, m, hfirst, h⟩ := bind_eq_ok.1 h
    obtain ⟨others, m', hothers, h⟩ := bind_eq_ok.1 h
    obtain ⟨rfl, rfl⟩ := pure_eq_ok.1 h
    exact ⟨first, others, m, rfl, hfirst, hothers⟩
  · rintro ⟨first, others, m, rfl, hfirst, hothers⟩
    exact bind_eq_ok.2 ⟨first, m, hfirst, bind_eq_ok.2 ⟨others, rest, hothers, rfl⟩⟩

/-- An opening is read by its two pieces and the word behind them. -/
theorem opening_of_listOpening (hlist : listOpening inner tokens = .ok (front, mid))
    {m : List Token} (hhead : listHead inner mid = .ok (head, m))
    (hfrom : keyword "FROM" m = .ok ((), rest)) :
    opening inner tokens = .ok ((front, head), rest) := by
  obtain ⟨semis, m₁, m₂, hsemis, hfront, hselect⟩ := listOpening_eq_ok hlist
  have hskip : skip (many (symbol? ";") (pure ())) tokens = .ok ((), m₁) :=
    bind_eq_ok.2 ⟨_, _, hsemis, rfl⟩
  have hselected : selectHead inner m₂ = .ok (head, m) := bind_eq_ok.2 ⟨_, _, hselect, hhead⟩
  exact bind_eq_ok.2 ⟨_, _, hskip, bind_eq_ok.2 ⟨_, _, hfront, bind_eq_ok.2 ⟨_, _, hselected,
    bind_eq_ok.2 ⟨_, _, hfrom, rfl⟩⟩⟩⟩

/-- A query that comes to an outer `SELECT` has its select list there, and its tables behind. -/
theorem exists_listHead_of_statements
    (hlist : listOpening (level false n) tokens = .ok (front, mid)) {text : String}
    {last : List Token}
    (h : statements (statementAt (n + 2)) tokens = .ok ([.query ⟨.select s, text⟩], last)) :
    ∃ head m, listHead (level false n) mid = .ok (head, m) ∧
      s = head.withTables s.tables s.hasWhere ∧
      (s.tables ≠ [] → ∃ rest, keyword "FROM" m = .ok ((), rest)) := by
  obtain ⟨semis, m₁, m₂, hsemis, hfront, hselect⟩ := listOpening_eq_ok hlist
  rw [statements_of_select hsemis hfront hselect] at h
  obtain ⟨q, m₃, hq, h⟩ := bind_eq_ok.1 h
  obtain ⟨others, m₄, -, h⟩ := bind_eq_ok.1 h
  obtain ⟨heq, -⟩ := pure_eq_ok.1 h
  cases heq
  obtain ⟨text', m₅, hselected, -⟩ := (queryExpr_of_select hfront hselect).1 ⟨text, hq⟩
  obtain ⟨head, m₆, hhead, hselected⟩ := bind_eq_ok.1 hselected
  obtain ⟨found, m₇, hfound, hselected⟩ := bind_eq_ok.1 hselected
  obtain ⟨clauses, m₈, -, hselected⟩ := bind_eq_ok.1 hselected
  obtain ⟨heq, -⟩ := pure_eq_ok.1 hselected
  cases heq
  obtain ⟨_, m₉, hword, hhead⟩ := bind_eq_ok.1 hhead
  rw [hselect] at hword
  cases hword
  refine ⟨head, m₆, hhead, rfl, fun htables => ?_⟩
  obtain ⟨fromFound, m, hfrom, hfound⟩ := bind_eq_ok.1 hfound
  cases fromFound with
  | false =>
    obtain ⟨rfl, -⟩ := pure_eq_ok.1 hfound
    exact absurd rfl htables
  | true => exact ⟨m, bind_eq_ok.2 ⟨true, m, hfrom, rfl⟩⟩

end

/-! ## Columns of a select list -/

section

variable {n k : Nat} {tokens mid rest : List Token} {parts : List Ident} {name? : Option Ident}
  {reserved : List String} {items : List Item}

theorem NameRead.length_lt {name : List Ident} (h : NameRead tokens name rest) :
    rest.length < tokens.length := by
  induction h with
  | last => simp
  | more _ _ ih =>
    simp only [List.length_cons]
    omega

theorem NameRead.exists_ident {name : List Ident} (h : NameRead tokens name rest) :
    ∃ t others i, tokens = t :: others ∧ t.ident? = some i := by
  cases h with
  | last ht => exact ⟨_, _, _, rfl, ht⟩
  | more ht => exact ⟨_, _, _, rfl, ht⟩

/-- An alias is a name, with `AS` before it or of no reserved word. What is left is no name, or a
reserved word. -/
theorem alias?_cases (h : alias? reserved tokens = .ok (name?, rest)) :
    (name? = none ∧ rest = tokens ∧ ∀ t i, tokens.head? = some t → t.ident? = some i →
      t.isAmong reserved = true) ∨
    ∃ t i, name? = some i ∧ t.ident? = some i ∧
      (tokens = t :: rest ∧ t.isAmong reserved = false ∨
        ∃ a, tokens = a :: t :: rest ∧ a.keyword? = some "AS") := by
  obtain ⟨marked, mid, hmarked, h⟩ := bind_eq_ok.1 h
  rw [bind_of_ok (peek_run mid)] at h
  have hmid : mid = tokens ∧ marked = false ∨
      ∃ a, tokens = a :: mid ∧ a.keyword? = some "AS" ∧ marked = true := by
    cases marked with
    | false => exact .inl ⟨(takeIf_eq_ok_false hmarked).1, rfl⟩
    | true =>
      obtain ⟨a, rfl, ha⟩ := takeIf_eq_ok_true hmarked
      exact .inr ⟨a, rfl, eq_of_beq ha, rfl⟩
  have hnone : mid.head?.bind Token.ident? = none → marked = false → name? = none → mid = rest →
      (name? = none ∧ rest = tokens ∧ ∀ t i, tokens.head? = some t → t.ident? = some i →
        t.isAmong reserved = true) := by
    rintro hhead rfl rfl rfl
    obtain ⟨rfl, -⟩ | ⟨a, -, -, ⟨⟩⟩ := hmid
    refine ⟨rfl, rfl, fun t i ht hi => ?_⟩
    rw [ht, Option.bind_some, hi] at hhead
    cases hhead
  have hsome : ∀ t i, mid = t :: rest → t.ident? = some i → name? = some i →
      (marked = false → t.isAmong reserved = false) → ∃ t i, name? = some i ∧ t.ident? = some i ∧
      (tokens = t :: rest ∧ t.isAmong reserved = false ∨
        ∃ a, tokens = a :: t :: rest ∧ a.keyword? = some "AS") := by
    rintro t i rfl hi rfl hreserved
    refine ⟨t, i, rfl, hi, ?_⟩
    obtain ⟨rfl, rfl⟩ | ⟨a, rfl, ha, -⟩ := hmid
    · exact .inl ⟨rfl, hreserved rfl⟩
    · exact .inr ⟨a, rfl, ha⟩
  cases mid with
  | nil =>
    cases marked with
    | true => cases h
    | false =>
      cases h
      exact .inl (hnone rfl rfl rfl rfl)
  | cons t others =>
    cases t with
    | literal value =>
      cases h
      exact .inr (hsome _ _ rfl rfl rfl fun _ => rfl)
    | word name =>
      simp only [List.head?_cons] at h
      split at h
      · rename_i hfree
        cases h
        refine .inr (hsome _ _ rfl rfl rfl fun hmarked => ?_)
        simpa [hmarked] using hfree
      · rename_i hreserved
        obtain ⟨rfl, rfl⟩ := pure_eq_ok.1 h
        simp only [Bool.or_eq_true, Bool.not_eq_true', not_or, Bool.not_eq_true,
          Bool.not_eq_false] at hreserved
        obtain ⟨rfl, -⟩ | ⟨a, -, -, rfl⟩ := hmid
        · refine .inl ⟨rfl, rfl, fun t i ht _ => ?_⟩
          cases ht
          exact hreserved.2
        · cases hreserved.1
    | _ =>
      cases marked with
      | true => cases h
      | false =>
        cases h
        exact .inl (hnone rfl rfl rfl rfl)

/-- The column that an element of a select list is, if it is one. -/
def Item.IsColumn (i : Item) : Prop :=
  ∃ parts name?, i = .value (.column parts) name?

theorem wildcard?_none (h : wildcard? tokens = .ok (none, rest)) : rest = tokens := by
  obtain ⟨starred, mid, hstarred, hdotted⟩ := bind_eq_ok.1 h
  cases starred with
  | true => cases hdotted
  | false =>
    obtain ⟨rfl, -⟩ := takeIf_eq_ok_false hstarred
    have hattempt : attempt (do
        let first ← ident
        let others ← wildcardTail (← remaining)
        return dotted (first :: others) ++ ".*") mid = .ok (none, rest) := hdotted
    obtain ⟨a, ha, -⟩ | ⟨-, hrest, -⟩ := attempt_eq_ok hattempt
    · cases ha
    · exact hrest

/-- An element that is a column is a dotted name with an alias. -/
theorem item_column
    (h : item (level false (n + 1)) tokens = .ok (.value (.column parts) name?, rest)) :
    ∃ mid, NameRead tokens parts mid ∧ mid.head? ≠ some (.symbol "(") ∧
      alias? reservedForColumns mid = .ok (name?, rest) ∧
      ∀ name, parts = [name] → (Token.word name).isAmong reservedAsColumns = false := by
  obtain ⟨star?, m, hstar, hvalue⟩ := bind_eq_ok.1 h
  cases star? with
  | some text =>
    obtain ⟨options, m', -, hdone⟩ := bind_eq_ok.1 hvalue
    cases hdone
  | none =>
    obtain rfl := wildcard?_none hstar
    obtain ⟨e, mid, he, hbehind⟩ := bind_eq_ok.1 hvalue
    have halias : ∀ {e : Expr} {mid : List Token},
        (do return Item.value e (← alias? reservedForColumns) : Reader Item) mid =
          .ok (.value (.column parts) name?, rest) →
        e = .column parts ∧ alias? reservedForColumns mid = .ok (name?, rest) := by
      intro e mid h
      obtain ⟨found, m', hfound, hdone⟩ := bind_eq_ok.1 h
      cases hdone
      exact ⟨rfl, hfound⟩
    have hcolumn : e = .column parts ∧ alias? reservedForColumns mid = .ok (name?, rest) ∧
        ∀ name, parts = [name] → (Token.word name).isAmong reservedAsColumns = false := by
      dsimp only at hbehind
      split at hbehind
      · rename_i name
        split at hbehind
        · cases hbehind
        · rename_i hfree
          obtain ⟨he, hdone⟩ := halias hbehind
          cases he
          refine ⟨rfl, hdone, fun other hother => ?_⟩
          cases hother
          simpa using hfree
      · rename_i hmany
        obtain ⟨he, hdone⟩ := halias hbehind
        exact ⟨he, hdone, fun name hname => absurd (hname ▸ he) (hmany name)⟩
    obtain ⟨rfl, hdone, hfree⟩ := hcolumn
    obtain ⟨hname, hopen⟩ := exprAbove_column he
    exact ⟨mid, hname, hopen, hdone, hfree⟩

theorem length_alias?_le (h : alias? reserved tokens = .ok (name?, rest)) :
    rest.length ≤ tokens.length := by
  obtain ⟨-, rfl, -⟩ | ⟨t, i, -, -, ⟨rfl, -⟩ | ⟨a, rfl, -⟩⟩ := alias?_cases h
  · exact Nat.le_refl _
  · simp
  · simp only [List.length_cons]
    omega

/-- An element that is a column takes at least one token. -/
theorem length_item_lt {i : Item} (hi : i.IsColumn)
    (h : item (level false (n + 1)) tokens = .ok (i, rest)) : rest.length < tokens.length := by
  obtain ⟨parts, name?, rfl⟩ := hi
  obtain ⟨mid, hname, -, halias, -⟩ := item_column h
  exact Nat.lt_of_le_of_lt (length_alias?_le halias) hname.length_lt

/-- Columns with commas before them are read in any sufficient number of steps. -/
theorem manyUpTo_columns {m : Nat} (hitems : ∀ i ∈ items, i.IsColumn) (hm : tokens.length ≤ m)
    (hk : tokens.length ≤ k)
    (h : manyUpTo (symbol? ",") (item (level false (n + 1))) m tokens = .ok (items, rest)) :
    manyUpTo (symbol? ",") (item (level false (n + 1))) k tokens = .ok (items, rest) := by
  induction m generalizing tokens items k with
  | zero =>
    obtain rfl : tokens = [] := List.eq_nil_of_length_eq_zero (Nat.le_zero.1 hm)
    cases h
    cases k <;> rfl
  | succ m ih =>
    obtain ⟨found, mid, hfound, hbehind⟩ := bind_eq_ok.1 h
    cases found with
    | false =>
      obtain ⟨rfl, rfl⟩ := pure_eq_ok.1 hbehind
      cases k with
      | zero =>
        obtain ⟨rfl, -⟩ := takeIf_eq_ok_false hfound
        rfl
      | succ k => exact bind_eq_ok.2 ⟨false, mid, hfound, rfl⟩
    | true =>
      obtain ⟨t, rfl, -⟩ := takeIf_eq_ok_true hfound
      obtain ⟨i, mid', hi, hmore⟩ := bind_eq_ok.1 hbehind
      obtain ⟨others, rest', hothers, hdone⟩ := bind_eq_ok.1 hmore
      obtain ⟨rfl, rfl⟩ := pure_eq_ok.1 hdone
      obtain ⟨hcolumn, hcolumns⟩ := List.forall_mem_cons.1 hitems
      have hlength := length_item_lt hcolumn hi
      rw [List.length_cons] at hm hk
      obtain ⟨k, rfl⟩ : ∃ j, k = j + 1 := ⟨k - 1, by omega⟩
      exact bind_eq_ok.2 ⟨true, mid, hfound, bind_eq_ok.2 ⟨i, mid', hi, bind_eq_ok.2
        ⟨others, rest', ih hcolumns (by omega) (by omega) hothers, rfl⟩⟩⟩

/-- The elements behind one more are read as a list of their own. -/
theorem items_of_behind_comma
    (h : many (symbol? ",") (item (level false (n + 1))) (.symbol "," :: tokens) =
      .ok (items, rest)) :
    ∃ first others mid, items = first :: others ∧
      item (level false (n + 1)) tokens = .ok (first, mid) ∧
      manyUpTo (symbol? ",") (item (level false (n + 1))) tokens.length mid =
        .ok (others, rest) := by
  have h : manyUpTo (symbol? ",") (item (level false (n + 1))) (tokens.length + 1)
    (.symbol "," :: tokens) = .ok (items, rest) := h
  rw [manyUpTo, bind_of_ok (symbol?_cons "," tokens)] at h
  obtain ⟨first, mid, hfirst, h⟩ := bind_eq_ok.1 h
  obtain ⟨others, mid', hothers, h⟩ := bind_eq_ok.1 h
  obtain ⟨rfl, rfl⟩ := pure_eq_ok.1 h
  exact ⟨first, others, mid, rfl, hfirst, hothers⟩

/-- Columns are read behind one more as they are read alone. -/
theorem behind_comma_eq_ok (hitems : ∀ i ∈ items, i.IsColumn) :
    many (symbol? ",") (item (level false (n + 1))) (.symbol "," :: tokens) = .ok (items, rest) ↔
      Sql.items (level false (n + 1)) tokens = .ok (items, rest) := by
  constructor
  · intro h
    obtain ⟨first, others, mid, rfl, hfirst, hothers⟩ := items_of_behind_comma h
    obtain ⟨hcolumn, hcolumns⟩ := List.forall_mem_cons.1 hitems
    have hlength := length_item_lt hcolumn hfirst
    exact items_eq_ok.2 ⟨first, others, mid, rfl, hfirst,
      manyUpTo_columns hcolumns (Nat.le_of_lt hlength) (Nat.le_refl _) hothers⟩
  · intro h
    obtain ⟨first, others, mid, rfl, hfirst, hothers⟩ := items_eq_ok.1 h
    obtain ⟨hcolumn, hcolumns⟩ := List.forall_mem_cons.1 hitems
    have hlength := length_item_lt hcolumn hfirst
    have hmore := manyUpTo_columns hcolumns (Nat.le_refl _) (Nat.le_of_lt hlength) hothers
    have hall : manyUpTo (symbol? ",") (item (level false (n + 1))) (tokens.length + 1)
        (.symbol "," :: tokens) = .ok (first :: others, rest) :=
      bind_eq_ok.2 ⟨true, tokens, symbol?_cons "," tokens, bind_eq_ok.2 ⟨first, mid, hfirst,
        bind_eq_ok.2 ⟨others, rest, hmore, rfl⟩⟩⟩
    exact hall

end

/-! ## One more column in front -/

/-- The words of a `SELECT` that stand in front of its list and keep equal rows. -/
def listWords : List String := ["ALL", "TOP"]

/-- The key column as a token. -/
def keyToken : Token := .word ⟨"ROWKEY", none⟩

/-- The key column as an element of a select list. -/
def keyItem : Item := .value (.column [⟨"ROWKEY", none⟩]) none

section

variable {inner : Inner} {n : Nat} {tokens mid rest : List Token} {t : Token} {word text : String}
  {distinct? : Option String} {head : SelectHead}

/-- Equal rows are kept where nothing, or `ALL`, stands behind the `SELECT`. -/
theorem distinction?_none (h : distinction? inner tokens = .ok (none, rest)) :
    (rest = tokens ∧ ∀ t, tokens.head? = some t →
      t.keyword? ≠ some "ALL" ∧ t.keyword? ≠ some "DISTINCT") ∨
      ∃ t, tokens = t :: rest ∧ t.keyword? = some "ALL" := by
  obtain ⟨all, mid, hall, hbehind⟩ := bind_eq_ok.1 h
  obtain ⟨dropped, mid', hdropped, hdone⟩ := bind_eq_ok.1 hbehind
  cases dropped with
  | true =>
    cases all with
    | true => cases hdone
    | false =>
      obtain ⟨on, m, -, hdone⟩ := bind_eq_ok.1 hdone
      cases on with
      | true =>
        obtain ⟨es, m', -, hdone⟩ := bind_eq_ok.1 hdone
        cases hdone
      | false => cases hdone
  | false =>
    cases hdone
    obtain ⟨rfl, hkept⟩ := takeIf_eq_ok_false hdropped
    cases all with
    | true =>
      obtain ⟨t, rfl, ht⟩ := takeIf_eq_ok_true hall
      exact .inr ⟨t, rfl, eq_of_beq ht⟩
    | false =>
      obtain ⟨rfl, hnot⟩ := takeIf_eq_ok_false hall
      exact .inl ⟨rfl, fun t ht => ⟨by simpa using hnot t ht, by simpa using hkept t ht⟩⟩

theorem natural_eq_ok (h : natural tokens = .ok (text, rest)) :
    ∃ number long, tokens.head? = some (.number number long) := by
  cases tokens with
  | nil => cases h
  | cons t others =>
    cases t with
    | number number long => exact ⟨number, long, rfl⟩
    | _ => cases h

/-- A number or a parenthesis follows the word `TOP`. -/
theorem top_cases (h : top inner tokens = .ok (text, rest)) :
    (text = "" ∧ rest = tokens ∧ ∀ t, tokens.head? = some t → t.keyword? ≠ some "TOP") ∨
      ∃ t others, tokens = t :: others ∧ t.keyword? = some "TOP" ∧
        (others.head? = some (.symbol "(") ∨
          ∃ number long, others.head? = some (.number number long)) := by
  obtain ⟨found, mid, hfound, hbehind⟩ := bind_eq_ok.1 h
  cases found with
  | false =>
    cases hbehind
    obtain ⟨rfl, hnot⟩ := takeIf_eq_ok_false hfound
    exact .inl ⟨rfl, rfl, fun t ht => by simpa using hnot t ht⟩
  | true =>
    obtain ⟨t, rfl, ht⟩ := takeIf_eq_ok_true hfound
    refine .inr ⟨t, mid, rfl, eq_of_beq ht, ?_⟩
    simp only [if_true] at hbehind
    rw [bind_of_ok (atSymbol_run "(" mid)] at hbehind
    cases hopen : mid.head? == some (Token.symbol "(") with
    | true => exact .inl (eq_of_beq hopen)
    | false =>
      rw [hopen] at hbehind
      obtain ⟨quantity, m, hquantity, -⟩ := bind_eq_ok.1 hbehind
      exact .inr (natural_eq_ok hquantity)

theorem distinction?_key (inner : Inner) (rest : List Token) :
    distinction? inner (keyToken :: rest) = .ok (none, keyToken :: rest) := rfl

theorem top_key (inner : Inner) (rest : List Token) :
    top inner (keyToken :: rest) = .ok ("", keyToken :: rest) := rfl

/-- The key column is read as an element of its own if a comma stands behind it. -/
theorem item_key (rest : List Token) :
    item (level false (maxDepth - 2)) (keyToken :: .symbol "," :: rest) =
      .ok (keyItem, .symbol "," :: rest) := rfl

/-- With the key column in front, a select list is its element and those behind the comma. -/
theorem listHead_key_eq_ok :
    listHead (level false (maxDepth - 2)) (keyToken :: .symbol "," :: tokens) = .ok (head, rest) ↔
      ∃ others m, head.distinct? = none ∧ head.top = "" ∧ head.items = keyItem :: others ∧
        many (symbol? ",") (item (level false (maxDepth - 2))) (.symbol "," :: tokens) =
          .ok (others, m) ∧ target m = .ok (head.target, rest) := by
  rw [listHead_eq_ok]
  constructor
  · rintro ⟨m₁, m₂, m₃, hdistinct, hnumber, hitems, hgoal⟩
    rw [distinction?_key] at hdistinct
    obtain ⟨hnone, rfl⟩ := Prod.mk.inj (Except.ok.inj hdistinct)
    rw [top_key] at hnumber
    obtain ⟨hempty, rfl⟩ := Prod.mk.inj (Except.ok.inj hnumber)
    obtain ⟨first, others, m, hitems, hfirst, hothers⟩ := items_eq_ok.1 hitems
    rw [item_key] at hfirst
    obtain ⟨rfl, rfl⟩ := Prod.mk.inj (Except.ok.inj hfirst)
    exact ⟨others, m₃, hnone.symm, hempty.symm, hitems, hothers, hgoal⟩
  · rintro ⟨others, m, hdistinct, hnumber, hitems, hothers, hgoal⟩
    rw [hdistinct, hnumber, hitems]
    exact ⟨_, _, m, distinction?_key _ _, top_key _ _,
      items_eq_ok.2 ⟨_, _, _, rfl, item_key tokens, hothers⟩, hgoal⟩

/-- The key column in front of a select list is one more column, if no word of the `SELECT` stands
there. -/
theorem listHead_keyed (hitems : ∀ i ∈ head.items, i.IsColumn) (hdistinct : head.distinct? = none)
    (hword : ∀ word, tokens.head?.bind Token.keyword? = some word → word ∉ listWords)
    (h : listHead (level false (maxDepth - 2)) tokens = .ok (head, rest)) :
    listHead (level false (maxDepth - 2)) (keyToken :: .symbol "," :: tokens) =
      .ok ({ head with items := keyItem :: head.items }, rest) := by
  obtain ⟨m₁, m₂, m₃, hd, hnumber, hread, hgoal⟩ := listHead_eq_ok.1 h
  rw [hdistinct] at hd
  have hnot : ∀ t, tokens.head? = some t → t.keyword? ≠ some "ALL" ∧ t.keyword? ≠ some "TOP" := by
    intro t ht
    constructor <;>
    · intro hkeyword
      refine hword _ (by rw [ht]; exact hkeyword) ?_
      decide
  obtain ⟨rfl, -⟩ | ⟨t, rfl, ht⟩ := distinction?_none hd
  · obtain ⟨htop, rfl, -⟩ | ⟨t, others, rfl, ht, -⟩ := top_cases hnumber
    · exact listHead_key_eq_ok.2
        ⟨_, m₃, hdistinct, htop, rfl, (behind_comma_eq_ok hitems).2 hread, hgoal⟩
    · exact absurd ht (hnot t rfl).2
  · exact absurd ht (hnot t rfl).1

theorem ne_distinct_of_listHead (hdistinct : head.distinct? = none)
    (hword : tokens.head?.bind Token.keyword? = some word)
    (h : listHead inner tokens = .ok (head, rest)) : word ≠ "DISTINCT" := by
  obtain ⟨m₁, m₂, m₃, hd, -⟩ := listHead_eq_ok.1 h
  rw [hdistinct] at hd
  obtain ⟨t, ht, hkeyword⟩ := Option.bind_eq_some_iff.1 hword
  rintro rfl
  obtain ⟨-, hnot⟩ | ⟨s, rfl, hs⟩ := distinction?_none hd
  · exact (hnot t ht).2 hkeyword
  · cases ht
    rw [hkeyword] at hs
    exact absurd (Option.some.inj hs) (by decide)

/-- Without a word of the `SELECT` in front, nothing is read there. -/
theorem distinction?_of_not_mem (hword : ∀ word, tokens.head?.bind Token.keyword? = some word →
    word ∉ ["ALL", "DISTINCT"]) : distinction? inner tokens = .ok (none, tokens) := by
  have hnone : ∀ word ∈ ["ALL", "DISTINCT"], keyword? word tokens = .ok (false, tokens) := by
    intro word hmem
    refine takeIf_of_neg fun t ht => ?_
    rw [beq_eq_false_iff_ne]
    intro hkeyword
    exact hword word (by rw [ht]; exact hkeyword) hmem
  unfold distinction?
  rw [bind_of_ok (hnone "ALL" (by decide)), bind_of_ok (hnone "DISTINCT" (by decide))]
  rfl

theorem top_of_ne (hword : ∀ t, tokens.head? = some t → t.keyword? ≠ some "TOP") :
    top inner tokens = .ok ("", tokens) := by
  have hnone : keyword? "TOP" tokens = .ok (false, tokens) :=
    takeIf_of_neg fun t ht => by simpa using hword t ht
  unfold top
  rw [bind_of_ok hnone]
  rfl

/-- A select list with the key column in front is a select list without it, if no word of the
`SELECT` stands behind it. -/
theorem listHead_of_keyed {items : List Item} (hitems : ∀ i ∈ items, i.IsColumn)
    (hhead : head.items = keyItem :: items)
    (hword : ∀ word, tokens.head?.bind Token.keyword? = some word → word ∉ "DISTINCT" :: listWords)
    (h : listHead (level false (maxDepth - 2)) (keyToken :: .symbol "," :: tokens) =
      .ok (head, rest)) :
    listHead (level false (maxDepth - 2)) tokens = .ok ({ head with items := items }, rest) := by
  obtain ⟨others, m, hdistinct, hnumber, hothers, hbehind, hgoal⟩ := listHead_key_eq_ok.1 h
  obtain rfl : others = items := (List.cons.inj (hothers.symm.trans hhead)).2
  have hdistinction : distinction? (level false (maxDepth - 2)) tokens = .ok (none, tokens) := by
    refine distinction?_of_not_mem fun word hother hmem => hword word hother ?_
    simp only [List.mem_cons, List.not_mem_nil, or_false] at hmem
    obtain rfl | rfl := hmem <;> decide
  have htop : top (level false (maxDepth - 2)) tokens = .ok ("", tokens) := by
    refine top_of_ne fun t ht hkeyword => hword "TOP" (by rw [ht]; exact hkeyword) ?_
    decide
  rw [← hdistinct] at hdistinction
  rw [← hnumber] at htop
  exact listHead_eq_ok.2
    ⟨_, _, m, hdistinction, htop, (behind_comma_eq_ok hitems).1 hbehind, hgoal⟩

/-! ## Words of the `SELECT` -/

/-- Behind an element stands a comma, or a word and then the name of a table. -/
def EndsItem (tokens : List Token) : Prop :=
  tokens.head? = some (.symbol ",") ∨ ∃ t others word, tokens = t :: others ∧
    t.keyword? = some word ∧ word ∈ ["INTO", "FROM"] ∧ others.head? ≠ some (.symbol ".")

theorem target_point (rest : List Token) {t : Token} (ht : t.keyword? = some "INTO") :
    ∃ fault, target (t :: .symbol "." :: rest) = .error fault := by
  have hfound : keyword? "INTO" (t :: .symbol "." :: rest) = .ok (true, .symbol "." :: rest) :=
    takeIf_cons_of_pos (by simp [ht])
  unfold target
  rw [bind_of_ok hfound]
  exact ⟨.grammar, rfl⟩

theorem table_point (inner : Inner) (rest : List Token) :
    table inner (.symbol "." :: rest) = .error .grammar := rfl

/-- Where a select list is read to its end, and then a table, each element ends. -/
theorem endsItem_of_tables {k : Nat} {element : Reader Item} {items : List Item}
    {tables : List Table} {m₁ m₂ m₃ : List Token}
    (hmany : manyUpTo (symbol? ",") element k tokens = .ok (items, m₁))
    (htarget : target m₁ = .ok (text, m₂)) (hfrom : keyword "FROM" m₂ = .ok ((), m₃))
    (htables : commaList (table inner) m₃ = .ok (tables, rest)) : EndsItem tokens := by
  have hstop : tokens.head? = some (.symbol ",") ∨ m₁ = tokens := by
    cases k with
    | zero =>
      cases hmany
      exact .inr rfl
    | succ k =>
      obtain ⟨found, mid, hfound, hbehind⟩ := bind_eq_ok.1 hmany
      cases found with
      | true =>
        obtain ⟨t, rfl, ht⟩ := takeIf_eq_ok_true hfound
        exact .inl (by rw [List.head?_cons, eq_of_beq ht])
      | false =>
        obtain ⟨-, rfl⟩ := pure_eq_ok.1 hbehind
        exact .inr (takeIf_eq_ok_false hfound).1
  obtain hcomma | rfl := hstop
  · exact .inl hcomma
  obtain ⟨found, mid, hfound, hbehind⟩ := bind_eq_ok.1 htarget
  cases found with
  | true =>
    obtain ⟨t, rfl, ht⟩ := takeIf_eq_ok_true hfound
    refine .inr ⟨t, mid, "INTO", rfl, eq_of_beq ht, by decide, fun hpoint => ?_⟩
    obtain ⟨others, rfl⟩ := List.head?_eq_some_iff.1 hpoint
    obtain ⟨fault, hfault⟩ := target_point others (eq_of_beq ht)
    rw [hfault] at htarget
    cases htarget
  | false =>
    cases hbehind
    obtain ⟨rfl, -⟩ := takeIf_eq_ok_false hfound
    obtain ⟨t, rfl, ht⟩ := keyword_eq_ok hfrom
    refine .inr ⟨t, m₃, "FROM", rfl, ht, by decide, fun hpoint => ?_⟩
    obtain ⟨others, rfl⟩ := List.head?_eq_some_iff.1 hpoint
    obtain ⟨first, m, hfirst, -⟩ := bind_eq_ok.1 htables
    rw [table_point] at hfirst
    cases hfirst

theorem keyword?_of_ident {t : Token} {i : Ident} {word : String} (hi : t.ident? = some i)
    (hword : t.keyword? = some word) : Unicode.upper i.value = word := by
  cases t with
  | word name =>
    obtain ⟨value, quote?⟩ := name
    cases quote? with
    | none =>
      cases hi
      cases hword
      rfl
    | some q => cases hword
  | _ => cases hword

theorem exists_ident_of_keyword? (hword : t.keyword? = some word) : ∃ i, t.ident? = some i := by
  cases t with
  | word name => exact ⟨name, rfl⟩
  | _ => cases hword

theorem not_endsItem_point (rest : List Token) : ¬ EndsItem (.symbol "." :: rest) := by
  rintro (h | ⟨t, others, word, heq, hword, -⟩)
  · exact absurd h (by simp)
  · cases heq
    cases hword

/-- An element ends with no name but a word in front of a table. -/
theorem EndsItem.of_ident {i : Ident} {others : List Token} (h : EndsItem (t :: others))
    (hi : t.ident? = some i) : ∃ word, t.keyword? = some word ∧ word ∈ ["INTO", "FROM"] ∧
      others.head? ≠ some (.symbol ".") := by
  obtain hcomma | ⟨t', others', word, heq, hword, hmem, hpoint⟩ := h
  · cases hcomma
    cases hi
  · cases heq
    exact ⟨word, hword, hmem, hpoint⟩

/-- The words in front of a table are no alias. -/
theorem isAmong_reservedForColumns (hword : t.keyword? = some word)
    (hmem : word ∈ ["INTO", "FROM"]) : t.isAmong reservedForColumns = true := by
  refine isAmong_eq_true hword ?_
  simp only [List.mem_cons, List.not_mem_nil, or_false] at hmem
  obtain rfl | rfl := hmem <;> decide

/-- What a name is as a column of the result. -/
def columnOf (parts : List Ident) (name? : Option Ident) : String × Option String :=
  ((parts.getLast?.map (·.value)).getD "", name?.map (·.value))

/-- A name on its own cannot be read in place of the column behind it: they are called alike, so
this column has an alias behind its name, where only the next element may come. -/
theorem not_columnOf_shifted {parts : List Ident} {name? alias? : Option Ident} {i : Ident}
    {m : List Token} (hi : t.ident? = some i) (hword : t.keyword? = some word)
    (hname : NameRead tokens parts m)
    (hplain : Reader.alias? reservedForColumns m = .ok (name?, rest))
    (hshifted : Reader.alias? reservedForColumns tokens = .ok (alias?, mid)) (hends : EndsItem mid)
    (hwords : word ∉ ["INTO", "FROM", "AS"]) :
    columnOf parts name? ≠ columnOf [i] alias? := by
  intro heq
  obtain ⟨hvalue, halias⟩ := Prod.mk.inj heq
  have hvalue : (parts.getLast?.map (·.value)).getD "" = i.value := hvalue
  -- A part of a name that is the word of another token is not called `i`.
  have hother : ∀ (s : Token) (j : Ident) (other : String), s.ident? = some j →
      s.keyword? = some other → other ∈ ["INTO", "FROM", "AS"] → parts ≠ [j] := by
    rintro s j other hj hs hmem rfl
    have hvalue : j.value = i.value := hvalue
    rw [← keyword?_of_ident hi hword, ← hvalue, keyword?_of_ident hj hs] at hwords
    exact hwords hmem
  obtain ⟨rfl, rfl, hreserved⟩ | ⟨s, j, rfl, hs, ⟨rfl, hfree⟩ | ⟨a, rfl, ha⟩⟩ :=
    alias?_cases hshifted
  · obtain ⟨s, others, j, rfl, hj⟩ := hname.exists_ident
    obtain ⟨other, hother', hmem, hpoint⟩ := hends.of_ident hj
    cases hname with
    | last hj' =>
      rw [hj] at hj'
      cases hj'
      exact hother s j other hj hother' (List.mem_append_left ["AS"] hmem) rfl
    | more => exact hpoint rfl
  · cases hname with
    | last hj =>
      rw [hs] at hj
      cases hj
      obtain ⟨rfl, -, -⟩ | ⟨s', j', rfl, hs', ⟨rfl, hfree'⟩ | ⟨a, rfl, ha⟩⟩ := alias?_cases hplain
      · cases halias
      · obtain ⟨other, hother', hmem, -⟩ := hends.of_ident hs'
        rw [isAmong_reservedForColumns hother' hmem] at hfree'
        cases hfree'
      · obtain ⟨b, hb⟩ := exists_ident_of_keyword? ha
        obtain ⟨other, hother', hmem, -⟩ := hends.of_ident hb
        rw [ha, Option.some.injEq] at hother'
        subst hother'
        exact absurd hmem (by decide)
    | more => exact not_endsItem_point _ hends
  · cases hname with
    | last hj => exact hother a _ "AS" hj ha (by decide) rfl
    | more => cases hs

/-- A number is no alias and ends no element. -/
theorem not_endsItem_number {number : String} {long : Bool} {alias? : Option Ident}
    (hhead : tokens.head? = some (.number number long))
    (h : Reader.alias? reservedForColumns tokens = .ok (alias?, mid)) : ¬ EndsItem mid := by
  intro hends
  obtain ⟨others, rfl⟩ := List.head?_eq_some_iff.1 hhead
  obtain ⟨-, rfl, -⟩ | ⟨s, j, -, hs, ⟨heq, -⟩ | ⟨a, heq, ha⟩⟩ := alias?_cases h
  · obtain hcomma | ⟨t, others, word, heq, hword, -⟩ := hends
    · exact absurd hcomma (by simp)
    · cases heq
      cases hword
  · cases heq
    cases hs
  · cases heq
    cases ha

/-- The word `TOP` is no alias and ends no element. -/
theorem not_endsItem_top {alias? : Option Ident} (ht : t.keyword? = some "TOP")
    (h : Reader.alias? reservedForColumns (t :: tokens) = .ok (alias?, mid)) : ¬ EndsItem mid := by
  intro hends
  have hreserved : t.isAmong reservedForColumns = true := isAmong_eq_true ht (by decide)
  obtain ⟨i, hi⟩ := exists_ident_of_keyword? ht
  obtain ⟨-, rfl, -⟩ | ⟨s, j, -, -, ⟨heq, hfree⟩ | ⟨a, heq, ha⟩⟩ := alias?_cases h
  · obtain ⟨other, hother, hmem, -⟩ := hends.of_ident hi
    rw [ht, Option.some.injEq] at hother
    subst hother
    exact absurd hmem (by decide)
  · cases heq
    rw [hreserved] at hfree
    cases hfree
  · cases heq
    rw [ht] at ha
    exact absurd (Option.some.inj ha) (by decide)

/-- A word in front of an element is no column that is called as this element. -/
theorem not_columnOf_item {parts parts' : List Ident} {name? alias? : Option Ident}
    {m : List Token} (hword : t.keyword? = some word) (hwords : word ∉ ["INTO", "FROM", "AS"])
    (hname : NameRead tokens parts m)
    (hplain : Reader.alias? reservedForColumns m = .ok (name?, rest))
    (hkeyed : item (level false (n + 1)) (t :: tokens) = .ok (.value (.column parts') alias?, mid))
    (hends : EndsItem mid) : columnOf parts name? ≠ columnOf parts' alias? := by
  obtain ⟨m', hname', -, halias', -⟩ := item_column hkeyed
  cases hname' with
  | last hi => exact not_columnOf_shifted hi hword hname hplain halias' hends hwords
  | more =>
    obtain ⟨s, others, j, heq, hj⟩ := hname.exists_ident
    cases heq
    cases hj

theorem listWord_of_mem (hmem : word ∈ listWords) : word ∉ ["INTO", "FROM", "AS"] := by
  simp only [listWords, List.mem_cons, List.not_mem_nil, or_false] at hmem
  obtain rfl | rfl := hmem <;> decide

/-- A word of the `SELECT` is no column of a list that it stands in front of. -/
theorem not_columnOf_listWord {parts parts' : List Ident} {name? alias? : Option Ident}
    {others : List Item} (hword : t.keyword? = some word) (hmem : word ∈ listWords)
    (hplain : listHead (level false (n + 1)) (t :: tokens) = .ok (head, rest))
    (hdistinct : head.distinct? = none)
    (hitems : head.items = .value (.column parts) name? :: others)
    (hkeyed : item (level false (n + 1)) (t :: tokens) = .ok (.value (.column parts') alias?, mid))
    (hends : EndsItem mid) : columnOf parts name? ≠ columnOf parts' alias? := by
  obtain ⟨m₁, m₂, m₃, hd, hnumber, hread, -⟩ := listHead_eq_ok.1 hplain
  rw [hdistinct] at hd
  obtain ⟨first, more, m₄, heq, hfirst, -⟩ := items_eq_ok.1 hread
  rw [hitems] at heq
  cases heq
  obtain ⟨m, hname, -, halias, -⟩ := item_column hfirst
  obtain ⟨rfl, hnot⟩ | ⟨t', heq, -⟩ := distinction?_none hd
  · -- The word is `TOP`, and a number is behind it.
    obtain ⟨-, -, hnotTop⟩ | ⟨t', others, heq, -, hbehind⟩ := top_cases hnumber
    · simp only [listWords, List.mem_cons, List.not_mem_nil, or_false] at hmem
      obtain rfl | rfl := hmem
      · exact absurd hword (hnot t rfl).1
      · exact absurd hword (hnotTop t rfl)
    · cases heq
      obtain ⟨m', hname', hopen, halias', -⟩ := item_column hkeyed
      cases hname' with
      | last =>
        obtain hparen | ⟨number, long, hnumber⟩ := hbehind
        · exact absurd hparen hopen
        · exact absurd hends (not_endsItem_number hnumber halias')
      | more => simp at hbehind
  · -- The word is `ALL`, and the list or `TOP` is behind it.
    cases heq
    obtain ⟨-, rfl, -⟩ | ⟨top, others, rfl, htop, -⟩ := top_cases hnumber
    · exact not_columnOf_item hword (listWord_of_mem hmem) hname halias hkeyed hends
    · obtain ⟨m', hname', -, halias', -⟩ := item_column hkeyed
      obtain ⟨j, hj⟩ := exists_ident_of_keyword? htop
      cases hname' with
      | last => exact absurd hends (not_endsItem_top htop halias')
      | more => cases hj

/-- Behind the key column, the list in front of its tables begins with an element that ends. -/
theorem exists_item_of_keyed {m last : List Token} {tables : List Table}
    (h : listHead (level false (maxDepth - 2)) (keyToken :: .symbol "," :: tokens) = .ok (head, m))
    (hfrom : keyword "FROM" m = .ok ((), rest))
    (htables : commaList (table inner) rest = .ok (tables, last)) :
    ∃ first others mid, head.items = keyItem :: first :: others ∧
      item (level false (maxDepth - 2)) tokens = .ok (first, mid) ∧ EndsItem mid := by
  obtain ⟨behind, m₁, -, -, hitems, hbehind, hgoal⟩ := listHead_key_eq_ok.1 h
  obtain ⟨first, others, mid, rfl, hfirst, hothers⟩ := items_of_behind_comma hbehind
  exact ⟨first, others, mid, hitems, hfirst, endsItem_of_tables hothers hgoal hfrom htables⟩

end

end MatView.Sql
