import MatView.Proofs.Sql.Casing

/-!
# Select lists in upper case

Reserved words are recognized in any case, so a select list is read alike in upper case, token by
token, and whatever follows it. Only the result is looked at: if the list is one of columns both
times, the columns are the same up to case.

## Main definitions

* `Item.asciiUpper`: a column with the letters of its names in upper case.

## Main statements

* `item_asciiUpper`: one column of a select list in upper case.
* `listHead_asciiUpper`: all columns of a select list in upper case.
* `not_columnOf_listWord_asciiUpper`: behind the key column, a word of the `SELECT` is no column of
  the list in upper case.
-/

namespace MatView.Sql

open Reader

/-- A column with its names in upper case. -/
def Item.asciiUpper : Item → Item
  | .value (.column parts) name? =>
    .value (.column (parts.map Ident.asciiUpper)) (name?.map Ident.asciiUpper)
  | i => i

section

variable {n k : Nat} {tokens mid rest rest' : List Token} {t : Token} {parts : List Ident}
  {name? : Option Ident} {reserved : List String} {i i' : Item} {items items' : List Item}

@[simp] theorem keyword?_asciiUpper (t : Token) : t.asciiUpper.keyword? = t.keyword? := by
  cases t with
  | word name =>
    obtain ⟨value, quote?⟩ := name
    cases quote? with
    | none =>
      refine congrArg some ?_
      simp only [Unicode.upper, asciiUpper, String.toList_ofList, Unicode.upperChars_toUpper]
    | some q => rfl
  | _ => rfl

@[simp] theorem ident?_asciiUpper (t : Token) :
    t.asciiUpper.ident? = t.ident?.map Ident.asciiUpper := by
  cases t <;> rfl

theorem asciiUpper_eq_symbol {text : String} : t.asciiUpper = .symbol text ↔ t = .symbol text := by
  cases t <;> simp [Token.asciiUpper]

/-- Tokens in upper case, with others behind them. -/
def upperBefore (more tokens : List Token) : List Token :=
  tokens.map Token.asciiUpper ++ more

@[simp] theorem upperBefore_cons (more : List Token) (t : Token) (tokens : List Token) :
    upperBefore more (t :: tokens) = t.asciiUpper :: upperBefore more tokens := rfl

variable {more : List Token}

theorem head?_upperBefore (hne : tokens ≠ []) :
    (upperBefore more tokens).head? = tokens.head?.map Token.asciiUpper := by
  obtain ⟨t, tokens, rfl⟩ := List.exists_cons_of_ne_nil hne
  rfl

/-- A dotted name that does not reach the end is read alike in upper case. -/
theorem NameRead.asciiUpper {name : List Ident} (h : NameRead tokens name rest)
    (hrest : rest ≠ []) :
    NameRead (upperBefore more tokens) (name.map Ident.asciiUpper) (upperBefore more rest) := by
  induction h with
  | last ht hpoint =>
    refine .last (by simp [ht]) fun hhead => hpoint ?_
    have hupper := (head?_upperBefore hrest).symm.trans hhead
    obtain ⟨t, ht', hsymbol⟩ := Option.map_eq_some_iff.1 hupper
    rw [ht', asciiUpper_eq_symbol.1 hsymbol]
  | more ht _ ih => exact .more (by simp [ht]) (ih hrest)

theorem takeIf_asciiUpper {p : Token → Bool} (hp : ∀ t : Token, p t.asciiUpper = p t) {b : Bool}
    (hne : tokens ≠ []) (h : takeIf p tokens = .ok (b, rest)) :
    takeIf p (upperBefore more tokens) = .ok (b, upperBefore more rest) := by
  cases b with
  | true =>
    obtain ⟨t, rfl, ht⟩ := takeIf_eq_ok_true h
    exact takeIf_cons_of_pos (by rw [hp, ht])
  | false =>
    obtain ⟨rfl, hnot⟩ := takeIf_eq_ok_false h
    refine takeIf_of_neg fun t ht => ?_
    rw [head?_upperBefore hne] at ht
    obtain ⟨s, hs, rfl⟩ := Option.map_eq_some_iff.1 ht
    rw [hp, hnot s hs]

theorem keyword?_taken_asciiUpper {word : String} {b : Bool} (hne : tokens ≠ [])
    (h : Reader.keyword? word tokens = .ok (b, rest)) :
    Reader.keyword? word (upperBefore more tokens) = .ok (b, upperBefore more rest) :=
  takeIf_asciiUpper (fun t => by rw [keyword?_asciiUpper]) hne h

theorem symbol?_asciiUpper {text : String} {b : Bool} (hne : tokens ≠ [])
    (h : symbol? text tokens = .ok (b, rest)) :
    symbol? text (upperBefore more tokens) = .ok (b, upperBefore more rest) := by
  refine takeIf_asciiUpper (fun t => ?_) hne h
  rw [Bool.eq_iff_iff, beq_iff_eq, beq_iff_eq]
  exact asciiUpper_eq_symbol

theorem ne_nil_of_alias? (hrest : rest ≠ []) (h : alias? reserved tokens = .ok (name?, rest)) :
    tokens ≠ [] := by
  rintro rfl
  exact hrest (List.eq_nil_of_length_eq_zero (Nat.le_zero.1 (length_alias?_le h)))

/-- An alias is read alike in upper case, if something is left behind it. -/
theorem alias?_asciiUpper (h : alias? reserved tokens = .ok (name?, rest)) (hrest : rest ≠ []) :
    alias? reserved (upperBefore more tokens) =
      .ok (name?.map Ident.asciiUpper, upperBefore more rest) := by
  have hne := ne_nil_of_alias? hrest h
  obtain ⟨marked, mid, hmarked, h⟩ := bind_eq_ok.1 h
  unfold alias?
  rw [bind_of_ok (keyword?_taken_asciiUpper hne hmarked), bind_of_ok (peek_run _)]
  rw [bind_of_ok (peek_run mid)] at h
  cases mid with
  | nil =>
    cases marked with
    | true => cases h
    | false =>
      cases h
      exact absurd rfl hrest
  | cons t others =>
    cases t with
    | literal value =>
      cases h
      rfl
    | word name =>
      have hamong : (Token.word name.asciiUpper).isAmong reserved =
          (Token.word name).isAmong reserved :=
        congrArg (·.any reserved.contains) (keyword?_asciiUpper (.word name))
      simp only [List.head?_cons] at h
      simp only [upperBefore_cons, Token.asciiUpper, List.head?_cons, hamong]
      split at h
      · rename_i hfree
        cases h
        rw [if_pos hfree]
        rfl
      · rename_i hreserved
        cases h
        rw [if_neg hreserved]
        rfl
    | _ =>
      cases marked with
      | true => cases h
      | false =>
        cases h
        rfl

/-- An element that is a column both ways is the column in upper case. -/
theorem item_asciiUpper (hi : i.IsColumn) (hi' : i'.IsColumn) (hrest : rest ≠ [])
    (h : item (level false (n + 1)) tokens = .ok (i, rest))
    (h' : item (level false (n + 1)) (upperBefore more tokens) = .ok (i', rest')) :
    i' = i.asciiUpper ∧ rest' = upperBefore more rest := by
  obtain ⟨parts, name?, rfl⟩ := hi
  obtain ⟨parts', name'?, rfl⟩ := hi'
  obtain ⟨mid, hname, -, halias, -⟩ := item_column h
  obtain ⟨mid', hname', -, halias', -⟩ := item_column h'
  have hmid := ne_nil_of_alias? hrest halias
  obtain ⟨rfl, rfl⟩ := (hname.asciiUpper hmid).unique hname'
  rw [alias?_asciiUpper halias hrest, Except.ok.injEq, Prod.mk.injEq] at halias'
  obtain ⟨rfl, rfl⟩ := halias'
  exact ⟨rfl, rfl⟩

/-- Where elements leave something, something was there. -/
theorem ne_nil_of_manyUpTo {α : Type} {element : Reader α} {found : List α} (hrest : rest ≠ [])
    (h : manyUpTo (symbol? ",") element k tokens = .ok (found, rest)) : tokens ≠ [] := by
  rintro rfl
  cases k <;>
  · cases h
    exact hrest rfl

theorem manyUpTo_asciiUpper (hitems : ∀ i ∈ items, i.IsColumn)
    (hitems' : ∀ i ∈ items', i.IsColumn) (hrest : rest ≠ [])
    (h : manyUpTo (symbol? ",") (item (level false (n + 1))) k tokens = .ok (items, rest))
    (h' : manyUpTo (symbol? ",") (item (level false (n + 1))) k (upperBefore more tokens) =
      .ok (items', rest')) :
    items' = items.map Item.asciiUpper ∧ rest' = upperBefore more rest := by
  induction k generalizing tokens items items' with
  | zero =>
    cases h
    cases h'
    exact ⟨rfl, rfl⟩
  | succ k ih =>
    have hne := ne_nil_of_manyUpTo hrest h
    obtain ⟨found, mid, hfound, hbehind⟩ := bind_eq_ok.1 h
    rw [manyUpTo, bind_of_ok (symbol?_asciiUpper hne hfound)] at h'
    cases found with
    | false =>
      cases hbehind
      cases h'
      exact ⟨rfl, rfl⟩
    | true =>
      obtain ⟨i, m, hi, hbehind⟩ := bind_eq_ok.1 hbehind
      obtain ⟨others, m₁, hothers, hbehind⟩ := bind_eq_ok.1 hbehind
      obtain ⟨rfl, rfl⟩ := pure_eq_ok.1 hbehind
      obtain ⟨i', m', hi', h'⟩ := bind_eq_ok.1 h'
      obtain ⟨others', m₁', hothers', h'⟩ := bind_eq_ok.1 h'
      obtain ⟨rfl, rfl⟩ := pure_eq_ok.1 h'
      obtain ⟨hcolumn, hcolumns⟩ := List.forall_mem_cons.1 hitems
      obtain ⟨hcolumn', hcolumns'⟩ := List.forall_mem_cons.1 hitems'
      have hm := ne_nil_of_manyUpTo hrest hothers
      obtain ⟨rfl, rfl⟩ := item_asciiUpper hcolumn hcolumn' hm hi hi'
      obtain ⟨rfl, rfl⟩ := ih hcolumns hcolumns' hothers hothers'
      exact ⟨rfl, rfl⟩

theorem items_asciiUpper (hitems : ∀ i ∈ items, i.IsColumn) (hitems' : ∀ i ∈ items', i.IsColumn)
    (hrest : rest ≠ []) (h : Sql.items (level false (n + 1)) tokens = .ok (items, rest))
    (h' : Sql.items (level false (n + 1)) (upperBefore more tokens) = .ok (items', rest')) :
    items' = items.map Item.asciiUpper := by
  obtain ⟨i, others, m, rfl, hi, hothers⟩ := items_eq_ok.1 h
  obtain ⟨i', others', m', rfl, hi', hothers'⟩ := items_eq_ok.1 h'
  obtain ⟨hcolumn, hcolumns⟩ := List.forall_mem_cons.1 hitems
  obtain ⟨hcolumn', hcolumns'⟩ := List.forall_mem_cons.1 hitems'
  have hm := ne_nil_of_manyUpTo hrest hothers
  obtain ⟨rfl, rfl⟩ := item_asciiUpper hcolumn hcolumn' hm hi hi'
  have hothers' : manyUpTo (symbol? ",") (item (level false (n + 1)))
      (upperBefore more m).length (upperBefore more m) = .ok (others', rest') := hothers'
  -- The list in upper case may take as many steps as there are tokens with those behind it.
  have hlength : m.length ≤ (upperBefore more m).length := by simp [upperBefore]
  have hsteps := manyUpTo_columns hcolumns (Nat.le_refl _) hlength hothers
  obtain ⟨rfl, -⟩ := manyUpTo_asciiUpper hcolumns hcolumns' hrest hsteps hothers'
  rfl

theorem distinction?_asciiUpper {inner : Inner} (hne : tokens ≠ [])
    (h : distinction? inner tokens = .ok (none, rest))
    (h' : distinction? inner (upperBefore more tokens) = .ok (none, rest')) :
    rest' = upperBefore more rest := by
  obtain ⟨t, tokens, rfl⟩ := List.exists_cons_of_ne_nil hne
  obtain ⟨rfl, hnot⟩ | ⟨_, heq, ht⟩ := distinction?_none h
  · obtain ⟨rfl, -⟩ | ⟨_, heq', ht'⟩ := distinction?_none h'
    · rfl
    · cases heq'
      exact absurd (keyword?_asciiUpper t ▸ ht') (hnot t rfl).1
  · cases heq
    obtain ⟨rfl, hnot⟩ | ⟨_, heq', -⟩ := distinction?_none h'
    · exact absurd ((keyword?_asciiUpper t).trans ht) (hnot _ rfl).1
    · cases heq'
      rfl

/-- Where only parts of names stand, no quantity is given. -/
theorem rest_of_top {inner : Inner} {text : String} (hnames : ∀ t ∈ tokens, t.IsNamePart)
    (h : top inner tokens = .ok (text, rest)) :
    rest = tokens ∧ ∀ t, tokens.head? = some t → t.keyword? ≠ some "TOP" := by
  obtain ⟨-, hsame⟩ | ⟨t, others, rfl, -, hbehind⟩ := top_cases h
  · exact hsame
  · obtain hopen | ⟨number, long, hnumber⟩ := hbehind
    · obtain ⟨more, rfl⟩ := List.head?_eq_some_iff.1 hopen
      have hname : (Token.symbol "(").IsNamePart := hnames _ (by simp)
      exact absurd hname.of_symbol (by decide)
    · obtain ⟨more, rfl⟩ := List.head?_eq_some_iff.1 hnumber
      have hname : (Token.number number long).IsNamePart := hnames _ (by simp)
      exact absurd hname (not_isNamePart rfl nofun)

theorem ne_nil_of_target {text : String} (hrest : rest ≠ []) (h : target mid = .ok (text, rest)) :
    mid ≠ [] := by
  rintro rfl
  cases h
  exact hrest rfl

/-- In a list of names that goes on, the elements come behind the word `ALL`, if it is there. -/
theorem listHead_of_names {inner : Inner} {head : SelectHead} (hnames : ∀ t ∈ tokens, t.IsNamePart)
    (hrest : rest ≠ []) (hdistinct : head.distinct? = none)
    (h : listHead inner tokens = .ok (head, rest)) :
    ∃ mid m, distinction? inner tokens = .ok (none, mid) ∧
      (∀ t, mid.head? = some t → t.keyword? ≠ some "TOP") ∧
      Sql.items inner mid = .ok (head.items, m) ∧ m ≠ [] := by
  obtain ⟨m₁, m₂, m₃, hd, hnumber, hread, hgoal⟩ := listHead_eq_ok.1 h
  rw [hdistinct] at hd
  have hnames₁ : ∀ t ∈ m₁, t.IsNamePart := by
    obtain ⟨rfl, -⟩ | ⟨t, rfl, -⟩ := distinction?_none hd
    · exact hnames
    · exact fun t ht => hnames t (List.mem_cons_of_mem _ ht)
  obtain ⟨rfl, hnot⟩ := rest_of_top hnames₁ hnumber
  exact ⟨m₂, m₃, hd, hnot, hread, ne_nil_of_target hrest hgoal⟩

theorem ne_nil_of_items {m : List Token} (hitems : ∀ i ∈ items, i.IsColumn)
    (h : Sql.items (level false (n + 1)) tokens = .ok (items, m)) : tokens ≠ [] := by
  obtain ⟨i, others, m₁, rfl, hi, -⟩ := items_eq_ok.1 h
  rintro rfl
  exact absurd (length_item_lt (hitems i List.mem_cons_self) hi) (Nat.not_lt_zero _)

theorem ne_nil_of_distinction? {inner : Inner} (hrest : rest ≠ [])
    (h : distinction? inner tokens = .ok (none, rest)) : tokens ≠ [] := by
  obtain ⟨rfl, -⟩ | ⟨t, rfl, -⟩ := distinction?_none h
  · exact hrest
  · exact List.cons_ne_nil _ _

theorem ne_nil_of_listHead {head : SelectHead} (hnames : ∀ t ∈ tokens, t.IsNamePart)
    (hrest : rest ≠ []) (hdistinct : head.distinct? = none) (hitems : ∀ i ∈ head.items, i.IsColumn)
    (h : listHead (level false (n + 1)) tokens = .ok (head, rest)) : tokens ≠ [] := by
  obtain ⟨mid, m, hd, -, hread, -⟩ := listHead_of_names hnames hrest hdistinct h
  exact ne_nil_of_distinction? (ne_nil_of_items hitems hread) hd

/-- A select list of columns is read alike in upper case, whatever follows it, if it is one of
columns again. -/
theorem listHead_asciiUpper {head head' : SelectHead} (hnames : ∀ t ∈ tokens, t.IsNamePart)
    (hrest : rest ≠ []) (hdistinct : head.distinct? = none) (hdistinct' : head'.distinct? = none)
    (hitems : ∀ i ∈ head.items, i.IsColumn) (hitems' : ∀ i ∈ head'.items, i.IsColumn)
    (h : listHead (level false (n + 1)) tokens = .ok (head, rest))
    (h' : listHead (level false (n + 1)) (upperBefore more tokens) = .ok (head', rest')) :
    head'.items = head.items.map Item.asciiUpper := by
  obtain ⟨mid, m, hd, hnot, hread, hm⟩ := listHead_of_names hnames hrest hdistinct h
  obtain ⟨m₁', m₂', m₃', hd', hnumber', hread', -⟩ := listHead_eq_ok.1 h'
  rw [hdistinct'] at hd'
  have hmid := ne_nil_of_items hitems hread
  obtain rfl := distinction?_asciiUpper (ne_nil_of_distinction? hmid hd) hd hd'
  obtain ⟨-, rfl, -⟩ | ⟨t, others, htop, ht, -⟩ := top_cases hnumber'
  · exact items_asciiUpper hitems hitems' hm hread hread'
  · have hhead := congrArg List.head? htop
    rw [head?_upperBefore hmid] at hhead
    obtain ⟨s, hs, rfl⟩ := Option.map_eq_some_iff.1 hhead
    exact absurd ((keyword?_asciiUpper s).symm.trans ht) (hnot s hs)

/-- Behind the key column, a word that stood in front of a list of names is no column of this list
in upper case. -/
theorem not_columnOf_listWord_asciiUpper {head : SelectHead} {parts' : List Ident}
    {alias? : Option Ident} {others : List Item} {word : String}
    (hnames : ∀ t ∈ tokens, t.IsNamePart) (hrest : rest ≠ [])
    (hword : tokens.head?.bind Token.keyword? = some word) (hmem : word ∈ listWords)
    (hplain : listHead (level false (n + 1)) tokens = .ok (head, rest))
    (hdistinct : head.distinct? = none)
    (hitems : head.items = .value (.column parts) name? :: others)
    (hkeyed : item (level false (n + 1)) (upperBefore more tokens) =
      .ok (.value (.column parts') alias?, mid))
    (hends : EndsItem mid) :
    columnOf (parts.map Ident.asciiUpper) (name?.map Ident.asciiUpper) ≠
      columnOf parts' alias? := by
  obtain ⟨m₁, m, hd, hnot, hread, hm⟩ := listHead_of_names hnames hrest hdistinct hplain
  obtain ⟨first, more, m₂, heq, hfirst, hmore⟩ := items_eq_ok.1 hread
  rw [hitems] at heq
  cases heq
  have hm₂ := ne_nil_of_manyUpTo hm hmore
  obtain ⟨m₄, hname, -, halias, -⟩ := item_column hfirst
  obtain ⟨t, ht, hkeyword⟩ := Option.bind_eq_some_iff.1 hword
  obtain ⟨tokens, rfl⟩ := List.head?_eq_some_iff.1 ht
  obtain ⟨rfl, hnone⟩ | ⟨_, heq, -⟩ := distinction?_none hd
  · -- The word in front is neither `ALL` nor `TOP`.
    simp only [listWords, List.mem_cons, List.not_mem_nil, or_false] at hmem
    obtain rfl | rfl := hmem
    · exact absurd hkeyword (hnone t rfl).1
    · exact absurd hkeyword (hnot t rfl)
  · cases heq
    exact not_columnOf_item ((keyword?_asciiUpper t).trans hkeyword) (listWord_of_mem hmem)
      (hname.asciiUpper (ne_nil_of_alias? hm₂ halias)) (alias?_asciiUpper halias hm₂) hkeyed hends

end

end MatView.Sql
