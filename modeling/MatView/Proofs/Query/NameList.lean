import MatView.Proofs.Query.Columns
import MatView.Proofs.Query.Head
import MatView.Proofs.Sql.CutTokens
import MatView.Proofs.Text.Folding

/-!
# Statements that list names

A statement may start with its `SELECT`, list nothing but names of ASCII, and have the tables of its
outer `SELECT` behind the first `FROM` that a search finds. Then the adapted text has the same
select list in upper case, and the place of the key column is the beginning of this list.

The select list ends with a space, and no comment is open there. So it is read alike whatever
follows, and what follows in the adapted text is the name of another table.

## Main definitions

* `Sql.NameList`: a statement in front of its first `FROM`, and from there on.
* `Sql.ListsNames`: statements that list names.

## Main statements

* `Sql.isListOpening_select`: behind a `SELECT` and blanks comes the select list.
* `Sql.lexes_upper_of_isOuterList`: a select list of names in upper case, whatever follows it.
* `Adapter.sameList_of_listsNames`: the adapted text has the same select list in upper case.
* `Adapter.isListOpening_of_listsNames`: the first `SELECT` of the adapted text is in front of it.
-/

namespace MatView

open Sql Reader Text Unicode

/-! ## The front of a statement -/

namespace Sql

variable {blanks back front list : List Char} {n : Nat} {tokens : List Token}

theorem lexes_blanks (hblanks : ∀ c ∈ blanks, isBlank c = true) (back : List Char) :
    Lexes blanks.length (blanks ++ back) [] back := by
  induction blanks with
  | nil => exact .done _
  | cons c blanks ih =>
    obtain ⟨hc, hblanks⟩ := List.forall_mem_cons.1 hblanks
    exact .step (Branch.blank hc).step_eq (ih hblanks)

/-- Behind a `SELECT` and blanks comes the select list. -/
theorem isListOpening_select (hne : blanks ≠ []) (hblanks : ∀ c ∈ blanks, isBlank c = true) :
    IsListOpening ("SELECT".toList ++ blanks) := by
  have hbare : (Ident.mk "SELECT" none).IsBare :=
    ⟨rfl, 'S', "ELECT".toList, by decide, by decide, by decide +kernel,
      List.all_eq_true.1 (by decide +kernel)⟩
  obtain ⟨c, cs, rfl⟩ := List.exists_cons_of_ne_nil hne
  refine ⟨(c :: cs).length + 1, [.word ⟨"SELECT", none⟩], _, fun back => ?_, fun rest => rfl⟩
  have hstop : Lexer.isWordPart c = false :=
    (breaks_of_isTrailing (Bool.or_eq_true_iff.2 (.inl (hblanks c List.mem_cons_self)))).word
  have hword : Lexes 1 ("SELECT".toList ++ (c :: cs ++ back)) [.word ⟨"SELECT", none⟩]
      (c :: cs ++ back) := by
    refine lexes_ident hbare (fun d hd => ?_) fun d w hw => ?_
    · cases hd
      exact hstop
    · cases hw
      rfl
  rw [List.append_assoc]
  exact hword.append (lexes_blanks hblanks back)

/-! ## The select list -/

/-- Whatever follows an outer select list, it is read off the text in front of that. -/
theorem IsOuterList.lexes (h : IsOuterList front list) (hlist : Lexes n list tokens [])
    {more : List Token} {k : Nat} (hback : Lexes k back more []) :
    ∃ m, Lexes m (list ++ back) (tokens ++ more) [] := by
  obtain ⟨⟨_, opened, _, hfront, -⟩, _, all, _, hall, -⟩ := h
  have hwhole := hall []
  simp only [List.append_nil] at hwhole
  obtain ⟨_, others, -, rfl, hothers⟩ := (hfront list).exists_rest hwhole
  obtain rfl := hlist.unique hothers
  have hwhole := (hall back).append hback
  rw [List.append_assoc] at hwhole
  obtain ⟨m, others, -, hsame, hothers⟩ := (hfront _).exists_rest hwhole
  rw [List.append_assoc] at hsame
  exact ⟨m, List.append_cancel_left hsame ▸ hothers⟩

/-- An outer select list of names that ends with a space is read alike in upper case, whatever
follows it. -/
theorem lexes_upper_of_isOuterList {w : List Char} (h : IsOuterList front (w ++ [' ']))
    (hlexes : Lexes n (w ++ [' ']) tokens []) (hnames : ∀ t ∈ tokens, t.IsNamePart) :
    ∃ k, ∀ rest, Lexes k ((w ++ [' ']).map Char.toUpper ++ rest) (tokens.map Token.asciiUpper)
      rest := by
  have hback : Trailing [' '] := List.forall_mem_singleton.2 (by decide)
  have hspace : ∀ rest,
      (w ++ [' ']).map Char.toUpper ++ rest = w.map Char.toUpper ++ ' ' :: rest := by
    simp
  have hupper := hlexes.toUpper hnames
  rw [← List.append_nil (List.map _ _), hspace] at hupper
  obtain ⟨k, stem, left, ⟨-, hreads⟩, rfl | ⟨c, v, rfl, hcomment | ⟨_, _, heq, hne, -⟩⟩⟩ :=
    exists_readsTo hback hupper
  · have hread : ∀ rest, Lexes (1 + k) (w.map Char.toUpper ++ ' ' :: rest) (stem ++ []) rest :=
      fun rest => (hreads rest).append (.step (Branch.blank (by decide)).step_eq (.done rest))
    obtain rfl := (List.append_nil stem ▸ hread []).unique hupper
    exact ⟨1 + k, fun rest => by simpa only [hspace, List.append_nil] using hread rest⟩
  · -- A comment at the end of the list would hide the names behind it.
    have hread : ∀ rest, '\n' ∉ rest →
        Lexes (1 + k) (w.map Char.toUpper ++ ' ' :: rest) (stem ++ []) [] := fun rest hrest => by
      obtain ⟨_, -, -, hstep⟩ := hcomment.read hback hrest
      exact (hreads rest).append (.step hstep (.done []))
    have hname : Lexes 1 ['X'] [.word ⟨"X", none⟩] [] := lexes_of_readTokens rfl
    obtain ⟨m, hmore⟩ := h.lexes hlexes hname
    have hmoreUpper := hmore.toUpper fun t ht => ?_
    · rw [List.map_append, hspace] at hmoreUpper
      have hshort := (hread [] (by simp)).unique hupper
      have hlong := (hread ['X'] (by simp)).unique hmoreUpper
      rw [hshort, List.map_append] at hlong
      have hlength := congrArg List.length hlong
      simp at hlength
    · obtain ht | ht := List.mem_append.1 ht
      · exact hnames t ht
      · obtain rfl := List.mem_singleton.1 ht
        exact .inl nofun
  · cases heq
    exact absurd rfl hne

/-! ## Statements -/

/-- A select list of which the columns stand in front of its `FROM`, with this word and the blanks
behind it. -/
def listUpToTables (columns back : List Char) : List Char :=
  columns ++ wordOf "FROM" back ++ blanksBehind "FROM" back

/-- A statement in three parts: its `SELECT`, the columns, and the text from the first `FROM` on.
The columns and the `FROM` are the outer select list, which ends with a space and holds nothing but
names, commas and points of ASCII. -/
structure NameList (select columns back : List Char) : Prop where
  exists_select : ∃ word blanks, select = word ++ blanks ∧ Alike word "SELECT".toList ∧
    blanks ≠ [] ∧ ∀ c ∈ blanks, isBlank c = true
  first_from : First "FROM" (select ++ columns) back
  isOuterList : IsOuterList select (listUpToTables columns back)
  exists_space : ∃ w, listUpToTables columns back = w ++ [' ']
  isAscii : ∀ c ∈ select ++ listUpToTables columns back, c.toNat < 0x80
  exists_names : ∃ n tokens, Lexes n (listUpToTables columns back) tokens [] ∧
    ∀ t ∈ tokens, t.IsNamePart

/-- A statement that lists nothing but names in front of its first `FROM`. -/
def ListsNames (statement : List Char) : Prop :=
  ∃ select columns back, statement = select ++ columns ++ back ∧ NameList select columns back

namespace NameList

variable {select columns : List Char}

/-- In upper case, the `SELECT` is followed by the same blanks. -/
theorem exists_upper_select (h : NameList select columns back) : ∃ blanks,
    upperChars select = "SELECT".toList ++ blanks ∧ blanks ≠ [] ∧
      ∀ c ∈ blanks, isBlank c = true ∧ isWordChar c = false := by
  obtain ⟨word, blanks, rfl, hword, hne, hblanks⟩ := h.exists_select
  have hascii : ∀ c ∈ blanks, c.toNat < 0x80 := fun c hc =>
    h.isAscii c (List.mem_append_left _ (List.mem_append_right _ hc))
  have hplain : ∀ c ∈ blanks, c.toUpper = c ∧ isWordChar c = false := fun c hc =>
    of_ascii (p := fun c => isBlank c = true → c.toUpper = c ∧ isWordChar c = false) (by decide) c
      (hascii c hc) (hblanks c hc)
  have hupper : upperChars blanks = blanks := by
    rw [upperChars_of_ascii hascii]
    exact (List.map_congr_left fun c hc => (hplain c hc).1).trans (List.map_id' blanks)
  refine ⟨blanks, ?_, hne, fun c hc => ⟨hblanks c hc, (hplain c hc).2⟩⟩
  rw [upperChars_append, Text.Alike.upperChars_eq hword, hupper]
  rfl

end NameList

/-- The first `SELECT` of a text that starts with it opens the select list. -/
theorem isListOpening_of_first {blanks behind before selected : List Char} (hne : blanks ≠ [])
    (hblanks : ∀ c ∈ blanks, isBlank c = true ∧ isWordChar c = false)
    (hfirst : First "SELECT" before selected)
    (htext : "SELECT".toList ++ blanks ++ behind = before ++ selected) :
    IsListOpening (before ++ wordOf "SELECT" selected ++ blanksBehind "SELECT" selected) := by
  obtain ⟨c, cs, rfl⟩ := List.exists_cons_of_ne_nil hne
  obtain ⟨hc, hplain⟩ := hblanks c List.mem_cons_self
  have hstarts : Starts "SELECT" [] ("SELECT".toList ++ (c :: cs ++ behind)) :=
    ⟨rfl, boundary_none, rfl, boundary_some.2 hplain⟩
  rw [List.append_assoc] at htext
  obtain ⟨rfl, rfl⟩ := (first_of_starts_nil hstarts).unique isKeyword_select hfirst htext
  have hbehind : blanksBehind "SELECT" ("SELECT".toList ++ (c :: cs ++ behind)) =
      c :: (cs ++ behind).takeWhile isBlank := List.takeWhile_cons_of_pos hc
  exact isListOpening_select (hbehind ▸ List.cons_ne_nil _ _) fun d hd => of_mem_takeWhile hd

end Sql

namespace Adapter

variable {a : Adapter} {statement : String} {q : Query} {source : Source} {bare : List Char}

/-- An adapted text without the key column has the list of a statement that lists names in upper
case, behind its `SELECT` in upper case. -/
theorem exists_list_of_nameList {select columns back : List Char}
    (hnames : NameList select columns back)
    (hstatement : statement.toList = select ++ columns ++ back) (hwhere : q.hasWhere = false)
    (h : a.withoutKey.adapt statement q source = .ok (String.ofList bare)) :
    ∃ post, bare = upperChars select ++ (upperChars (listUpToTables columns back) ++ post) := by
  obtain ⟨clause, head, predicate, qualified, keyed, -, hsplit, hqualified, hkeyed, htext⟩ :=
    adapt_eq_ok_iff.1 h
  obtain ⟨hhead, hpredicate⟩ := split_eq hsplit
  simp only [hwhere, Bool.false_eq_true, if_false] at hpredicate
  obtain ⟨front, behind, rfl, hfirst, -, -, rfl⟩ := qualify_upperChars_eq hqualified
  rw [hpredicate, List.append_nil, hstatement] at hhead
  obtain ⟨rfl, rfl⟩ := hnames.first_from.unique isKeyword_from hfirst hhead
  simp only [injects_withoutKey, Bool.false_eq_true, if_false, Except.ok.injEq] at hkeyed
  have hbare := String.ofList_injective htext
  simp only [← hkeyed, upperChars_append, List.append_assoc] at hbare
  exact ⟨_, by simpa only [listUpToTables, upperChars_append, List.append_assoc] using hbare⟩

/-- The adapted text has the select list of a statement that lists names in upper case. -/
theorem sameList_of_listsNames (hnames : ListsNames statement.toList) (hwhere : q.hasWhere = false)
    (h : a.withoutKey.adapt statement q source = .ok (String.ofList bare)) :
    SameList statement.toList bare := by
  obtain ⟨select, columns, back, hstatement, hlist⟩ := hnames
  obtain ⟨post, rfl⟩ := exists_list_of_nameList hlist hstatement hwhere h
  obtain ⟨blanks, hselect, hne, hblanks⟩ := hlist.exists_upper_select
  have hopening := isListOpening_select hne fun c hc => (hblanks c hc).1
  obtain ⟨n, tokens, hlexes, hparts⟩ := hlist.exists_names
  obtain ⟨w, hspace⟩ := hlist.exists_space
  have houter := hlist.isOuterList
  rw [hspace] at houter hlexes
  obtain ⟨k, hupper⟩ := lexes_upper_of_isOuterList houter hlexes hparts
  have hascii := upperChars_of_ascii fun c hc => hlist.isAscii c (List.mem_append_right select hc)
  rw [← hspace] at houter hlexes hupper
  refine ⟨select, listUpToTables columns back, restBehind "FROM" back, upperChars select, post, ?_,
    rfl, houter, ?_, n, tokens, k, hlexes, hparts, ?_⟩
  · rw [hstatement, append_eq_parts "FROM" (select ++ columns) back]
    simp only [listUpToTables, List.append_assoc]
  · rw [hselect]
    exact hopening.opensList _
  · rw [hascii]
    exact hupper post

/-- The first `SELECT` of the adapted text opens the select list of a statement that lists names. -/
theorem isListOpening_of_listsNames {before selected : List Char}
    (hnames : ListsNames statement.toList) (hwhere : q.hasWhere = false)
    (h : a.withoutKey.adapt statement q source = .ok (String.ofList bare))
    (hfirst : First "SELECT" before selected) (htext : bare = before ++ selected) :
    IsListOpening (before ++ wordOf "SELECT" selected ++ blanksBehind "SELECT" selected) := by
  obtain ⟨select, columns, back, hstatement, hlist⟩ := hnames
  obtain ⟨post, rfl⟩ := exists_list_of_nameList hlist hstatement hwhere h
  obtain ⟨blanks, hselect, hne, hblanks⟩ := hlist.exists_upper_select
  rw [hselect] at htext
  exact isListOpening_of_first hne hblanks hfirst htext

end Adapter

end MatView
