import MatView.Proofs.Query.Addressed
import MatView.Proofs.Query.Outer

/-!
# The query of an adapted text

An adapted text is itself a statement, and the store may read it by the grammar. The adapter has
written the physical table behind the name that follows the first `FROM` that a search for this word
finds. The search knows quotes, but no comments, no backticks and no queries in parentheses, so the
`FROM` of the outer `SELECT` may be another one. The adapted text is a query of the physical table
if and only if the found `FROM` is that of the outer `SELECT`, the name of the physical table does
not become the letter in front of a constant, and the text without it is a query of the source.

## Main definitions

* `Adapter.Leads`: what stands in front of the qualified name and behind it.
* `Adapter.OnlyQualifies`: nothing but the name of the source is changed.
* `Adapter.OuterFrom`: the grammar comes to its tables at the name or behind it.
* `Query.Addresses`: a text is a query of a source.

## Main statements

* `Adapter.exists_leads`: an adapted text by these parts.
* `Adapter.parse_adapt_iff`: when an adapted text is a query of the physical table.
-/

namespace MatView

open Sql Text
open Unicode (isBlank)

namespace Adapter

/-! ## The parts of an adapted text -/

/-- An adapted text has `lead` in front of the name of its source and `post` behind it, if this name
follows the first `FROM` of the head. The key column stands in front of this `FROM`. -/
def Leads (a : Adapter) (statement : String) (q : Query) (lead post : List Char) : Prop :=
  ∃ head predicate front back keyed, split statement.toList q.hasWhere = .ok (head, predicate) ∧
    Unicode.upperChars head = front ++ back ∧ First "FROM" front back ∧
    (if a.injects q.projection then a.inject front else .ok front) = .ok keyed ∧
    lead = keyed ++ wordOf "FROM" back ++ blanksBehind "FROM" back ∧
    post = behindTarget back ++ a.tail q.hasWhere predicate

/-- Of a statement nothing but the name of its source is changed: it is in upper case, has no
predicate and gets no key column. -/
structure OnlyQualifies (a : Adapter) (statement : String) (q : Query) : Prop where
  no_where : q.hasWhere = false
  no_key : a.injects q.projection = false
  upper_eq : Unicode.upper statement = statement

end Adapter

namespace Heading

variable {before word blanks list back : List Char} {a : Adapter}

/-- What comes before the `FROM` is enough to find the `SELECT` and its list. -/
theorem inject_front (h : Heading before word blanks list back) :
    a.inject (before ++ word ++ blanks ++ list) =
      .ok (before ++ word ++ blanks ++ a.keyColumn.toList ++ [',', ' '] ++ list) := by
  have hlength : "SELECT".toList.length + 1 ≤ (word ++ blanks ++ list).length := h.length_lt
  have hfirst : First "SELECT" before (word ++ blanks ++ list) := by
    refine h.select.congr_back ?_
    rw [List.take_append_of_le_length hlength]
  have hword : word.length = "SELECT".toList.length := h.length_word
  have hhead : ∀ c, list.head? = some c → isBlank c = false := by
    intro c hc
    refine h.isBlank_head c ?_
    rw [List.head?_append, hc, Option.some_or]
  obtain ⟨hword, hblanks, hlist⟩ := parts_of_append hword h.isBlank_of_mem hhead
  have hinject := Adapter.inject_of_first (a := a) hfirst
  rw [hword, hblanks, hlist] at hinject
  simpa only [List.append_assoc] using hinject

end Heading

/-- A text is a query of the source of the given name. -/
def Query.Addresses (text name : String) : Prop :=
  ∃ q, Query.parse text = .ok q ∧ q.from?.map (·.source) = some name

namespace Adapter

variable {a : Adapter} {statement text : String} {q : Query} {source : Source}

/-- The name that is qualified stands at one place. -/
theorem Leads.unique {lead lead' post post' : List Char} (h : a.Leads statement q lead post)
    (h' : a.Leads statement q lead' post') : lead = lead' ∧ post = post' := by
  obtain ⟨head, predicate, front, back, keyed, hsplit, hhead, hfrom, hkeyed, rfl, rfl⟩ := h
  obtain ⟨head', predicate', front', back', keyed', hsplit', hhead', hfrom', hkeyed', rfl, rfl⟩ :=
    h'
  rw [hsplit, Except.ok.injEq, Prod.mk.injEq] at hsplit'
  obtain ⟨rfl, rfl⟩ := hsplit'
  obtain ⟨rfl, rfl⟩ := hfrom.unique isKeyword_from hfrom' (hhead.symm.trans hhead')
  rw [hkeyed, Except.ok.injEq] at hkeyed'
  exact ⟨by rw [hkeyed'], rfl⟩

/-- The key column is put in front of the first `FROM`, whatever follows this word. -/
theorem exists_keyed_front {head predicate front back keyed : List Char}
    (hselect : a.injects q.projection = true → SelectFirst statement q.hasWhere)
    (hsplit : split statement.toList q.hasWhere = .ok (head, predicate))
    (hhead : Unicode.upperChars head = front ++ back) (hfrom : First "FROM" front back)
    (hne : target back ≠ [])
    (hkeyed : (if a.injects q.projection then
      a.inject (front ++ qualifiedFrom back source.physicalName) else
      .ok (front ++ qualifiedFrom back source.physicalName)) = .ok keyed) :
    ∃ front', (if a.injects q.projection then a.inject front else .ok front) = .ok front' ∧
      keyed = front' ++ qualifiedFrom back source.physicalName := by
  cases hinjects : a.injects q.projection with
  | false =>
    simp only [hinjects] at hkeyed
    cases hkeyed
    exact ⟨front, rfl, rfl⟩
  | true =>
    simp only [hinjects, if_true] at hkeyed ⊢
    obtain ⟨before, word, blanks, list, rfl, heading⟩ :=
      exists_heading (hselect hinjects) hsplit hhead hfrom
    have htake := take_qualifiedFrom source.physicalName hfrom.starts hne []
    rw [List.append_nil] at htake
    have hinject := inject_heading (a := a) (heading.congr_back htake)
    simp only [List.append_assoc] at hkeyed hinject
    rw [hinject, Except.ok.injEq] at hkeyed
    refine ⟨_, heading.inject_front, ?_⟩
    rw [← hkeyed]
    simp only [List.append_assoc]

/-- An adapted text has the physical table behind the name of its source, which starts with no blank
and holds no characters but those of names. Without the physical table, it is the statement if
nothing else is changed. -/
theorem exists_leads (hselect : a.injects q.projection = true → SelectFirst statement q.hasWhere)
    (h : a.adapt statement q source = .ok text) :
    ∃ clause lead post, q.source = .ok clause ∧ a.Leads statement q lead post ∧
      (∀ c ∈ Unicode.upperChars clause.source.toList, isNameChar c = true) ∧
      (∃ c cs, Unicode.upperChars clause.source.toList = c :: cs ∧ isBlank c = false) ∧
      text = String.ofList (lead ++ (Unicode.upperChars clause.source.toList ++
        '.' :: source.physicalName.toList ++ post)) ∧
      (a.OnlyQualifies statement q →
        String.ofList (lead ++ (Unicode.upperChars clause.source.toList ++ post)) = statement) := by
  obtain ⟨clause, head, predicate, qualified, keyed, hclause, hsplit, hqualified, hkeyed, rfl⟩ :=
    adapt_eq_ok_iff.1 h
  obtain ⟨front, back, hhead, hfrom, hne, htarget, rfl⟩ := qualify_eq hqualified
  have hchars : ∀ c ∈ target back, isNameChar c = true := fun _ => of_mem_takeWhile
  have hblank : ∃ c cs, target back = c :: cs ∧ isBlank c = false := by
    obtain ⟨c, cs, hc⟩ := List.exists_cons_of_ne_nil hne
    refine ⟨c, cs, hc, isBlank_head?_restBehind "FROM" back ?_⟩
    rw [restBehind_eq, hc]
    rfl
  rw [htarget] at hchars hblank
  obtain ⟨front', hfront', hkeyed'⟩ := exists_keyed_front hselect hsplit hhead hfrom hne hkeyed
  refine ⟨clause, _, _, hclause, ⟨head, predicate, front, back, front', hsplit, hhead, hfrom,
    hfront', rfl, rfl⟩, hchars, hblank, ?_, fun honly => ?_⟩
  · rw [hkeyed', ← htarget]
    simp only [qualifiedFrom, List.append_assoc, List.cons_append]
  · obtain ⟨hwhere, hkey, hupper⟩ := honly
    obtain ⟨hstatement, hpredicate⟩ := split_eq hsplit
    simp only [hwhere, Bool.false_eq_true, if_false] at hpredicate
    simp only [hkey, Bool.false_eq_true, if_false, Except.ok.injEq] at hfront'
    have htail : a.tail q.hasWhere predicate = [] := by simp [tail, hwhere]
    have htext : front' ++ wordOf "FROM" back ++ blanksBehind "FROM" back ++ (target back ++
        (behindTarget back ++ a.tail q.hasWhere predicate)) = front ++ back := by
      rw [append_eq_parts "FROM" front back, restBehind_eq, ← hfront', htail, List.append_nil]
    rw [← htarget, htext, ← hhead]
    rw [hpredicate, List.append_nil] at hstatement
    rw [← hstatement]
    exact hupper

/-! ## The table of the outer query -/

/-- The tables of the outer `SELECT` come where a name is qualified or behind the qualified name,
and start with that name. -/
def OuterFrom (lead post : List Char) (name table : String) : Prop :=
  IsOpening lead ∧ ReadsTable name (name.toList ++ post) ∨
    ∃ between back, post = between ++ back ∧
      IsOpening (lead ++ (name.toList ++ '.' :: table.toList ++ between)) ∧ ReadsTable name back

/-- A letter or an underscore, with letters, digits and underscores behind it, all of ASCII. -/
def IsIdentifier (name : String) : Prop :=
  ∃ c cs, name.toList = c :: cs ∧ isPlain c = true ∧ c.isDigit = false ∧
    ∀ d ∈ cs, isPlain d = true

theorem IsIdentifier.isBare {name : String} (h : IsIdentifier name) :
    (Ident.mk name none).IsBare := by
  obtain ⟨c, cs, hname, hc, hdigit, hcs⟩ := h
  have hstart : isPlain c = true → c.isDigit = false →
      isBlank c = false ∧ Lexer.isWordStart c = true :=
    of_ascii (p := fun c => isPlain c = true → c.isDigit = false →
      isBlank c = false ∧ Lexer.isWordStart c = true) (by decide +kernel) c (toNat_lt_of_isPlain hc)
  have hpart : ∀ d, isPlain d = true → Lexer.isWordPart d = true := fun d hd =>
    of_ascii (p := fun d => isPlain d = true → Lexer.isWordPart d = true) (by decide) d
      (toNat_lt_of_isPlain hd) hd
  obtain ⟨hblank, hword⟩ := hstart hc hdigit
  exact ⟨rfl, c, cs, hname, hblank, hword, fun d hd => hpart d (hcs d hd)⟩

/-- Behind an opening, a query of the physical table is one of the source without it, if the source
is read there. -/
theorem unqualified_of_addresses {lead post : List Char} {name table : String}
    (htable : IsIdentifier table) (hlead : IsOpening lead)
    (hreads : ReadsTable name (name.toList ++ post))
    (hchars : ∀ c ∈ name.toList, isNameChar c = true)
    (hblank : ∃ c cs, name.toList = c :: cs ∧ isBlank c = false)
    (h : Query.Addresses (String.ofList (lead ++ (name.toList ++ '.' :: table.toList ++ post)))
      (name ++ "." ++ table)) :
    Query.Unmarked table post ∧
      Query.Addresses (String.ofList (lead ++ (name.toList ++ post))) name := by
  obtain ⟨sent, hsent, hsource⟩ := h
  obtain ⟨found, hfrom, hfound⟩ := Option.map_eq_some_iff.1 hsource
  have htext : found.source.toList = name.toList ++ '.' :: table.toList := by
    rw [hfound]
    simp
  have hfoundChars : ∀ c ∈ found.source.toList, isNameChar c = true := by
    obtain ⟨d, ds, hds, hd, -, hplain⟩ := htable
    rw [htext, hds]
    simp only [List.forall_mem_append, List.forall_mem_cons]
    have hword : ∀ c, isPlain c = true → isNameChar c = true := fun c hc => by
      simp [isNameChar, isWordChar, hc]
    exact ⟨hchars, rfl, hword d hd, fun c hc => hword c (hplain c hc)⟩
  have hfoundBlank : ∃ c cs, found.source.toList = c :: cs ∧ isBlank c = false := by
    obtain ⟨c, cs, hcons, hc⟩ := hblank
    exact ⟨c, _, by rw [htext, hcons, List.cons_append], hc⟩
  rw [← htext] at hsent
  obtain ⟨p⟩ := Query.exists_placed hlead hsent hfrom hfoundChars hfoundBlank
  have hplain := p.parse_of_readsTable hreads hchars hblank
  obtain ⟨p'⟩ : Nonempty (Query.Placed lead post _ { found with source := name }) :=
    Query.exists_placed hlead hplain rfl hchars hblank
  rw [htext] at hsent
  exact ⟨p'.unmarked_of_parse htable.isBare hsent, _, hplain, rfl⟩

/-- An adapted text has the physical table behind the name of its source, if a key column that is
added to it stands in front of that name (`SelectFirst`). Let the tables of the outer `SELECT` come
at this name or behind it, and start with it (`OuterFrom`). Then the adapted text is a query of the
physical table if and only if the name stands behind the `FROM` of the outer `SELECT`, the physical
table is no letter in front of a constant, and the text without the physical table is a query of the
source in upper case. That text is the statement if nothing else is changed. -/
theorem parse_adapt_iff (hphysical : IsIdentifier source.physicalName)
    (hq : Query.parse statement = .ok q)
    (hselect : a.injects q.projection = true → SelectFirst statement q.hasWhere)
    (h : a.adapt statement q source = .ok text) :
    ∃ clause lead post, q.source = .ok clause ∧ a.Leads statement q lead post ∧
      text = String.ofList (lead ++ (Unicode.upperChars clause.source.toList ++
        '.' :: source.physicalName.toList ++ post)) ∧
      (a.OnlyQualifies statement q → Query.parse (String.ofList
        (lead ++ (Unicode.upperChars clause.source.toList ++ post))) = .ok q) ∧
      (OuterFrom lead post (Unicode.upper clause.source) source.physicalName →
        (Query.Addresses text (Unicode.upper clause.source ++ "." ++ source.physicalName) ↔
          IsOpening lead ∧ Query.Unmarked source.physicalName post ∧
            Query.Addresses (String.ofList
              (lead ++ (Unicode.upperChars clause.source.toList ++ post)))
              (Unicode.upper clause.source))) := by
  obtain ⟨clause, lead, post, hclause, hleads, hchars, hblank, rfl, honly⟩ := exists_leads hselect h
  refine ⟨clause, lead, post, hclause, hleads, rfl, fun hsame => ?_, fun houter => ?_⟩
  · rw [honly hsame]
    exact hq
  have hupper : (Unicode.upper clause.source).toList = Unicode.upperChars clause.source.toList :=
    String.toList_ofList
  rw [← hupper] at hchars hblank ⊢
  constructor
  · intro hsent
    obtain ⟨hlead, hreads⟩ | ⟨between, back, rfl, hlead, hreads⟩ := houter
    · exact ⟨hlead, unqualified_of_addresses hphysical hlead hreads hchars hblank hsent⟩
    · -- The tables are behind the name, so they do not start with the physical table.
      obtain ⟨sent, hsent, hsource⟩ := hsent
      obtain ⟨found, hfrom, hfound⟩ := Option.map_eq_some_iff.1 hsource
      rw [← List.append_assoc, ← List.append_assoc, List.append_assoc lead] at hsent
      have hname := Query.source_of_readsTable hlead hsent hfrom hreads
      rw [hname] at hfound
      have hlength := congrArg (fun name => name.toList.length) hfound
      simp only [String.toList_append, List.length_append] at hlength
      have hpoint : ".".toList.length = 1 := rfl
      omega
  · rintro ⟨hlead, hmarked, plain, hplain, hsource⟩
    obtain ⟨found, hfrom, hfound⟩ := Option.map_eq_some_iff.1 hsource
    rw [← hfound] at hchars hblank hplain ⊢
    obtain ⟨p⟩ := Query.exists_placed hlead hplain hfrom hchars hblank
    exact ⟨_, p.parse_qualified hphysical.isBare hmarked, rfl⟩

/-- A source with one value column. -/
def events : Source where
  name := "EVENTS"
  schema := ⟨some ⟨"ROWKEY", .string⟩, [⟨"COL0", .bigint⟩]⟩
  physicalName := "events_v1"

/-- A query of a value column. -/
def eventsQuery : Query where
  from? := some ⟨"events", some "e"⟩
  projection := .columns [⟨"col0", none⟩]

/-- A comment between the columns and the `FROM` does not matter. -/
theorem parse_adapted_events : ∃ sent,
    Query.parse "SELECT ROWKEY, COL0 /* CENTS */ FROM EVENTS.events_v1 AS E" = .ok sent ∧
      sent.from?.map (·.source) = some "EVENTS.events_v1" := by
  have hphysical : IsIdentifier events.physicalName :=
    ⟨'e', "vents_v1".toList, by decide, by decide, by decide, List.all_eq_true.1 (by decide)⟩
  have hq : Query.parse "SELECT col0 /* cents */ FROM events AS e" = .ok eventsQuery :=
    eq_ok_of_toOption (by decide +kernel)
  have hselect : SelectFirst "SELECT col0 /* cents */ FROM events AS e" eventsQuery.hasWhere := by
    intro head predicate hsplit
    cases hsplit
    exact ⟨0, 24, by decide +kernel, by decide +kernel, by decide⟩
  have htext : (ofConfig .default).adapt "SELECT col0 /* cents */ FROM events AS e" eventsQuery
      events = .ok "SELECT ROWKEY, COL0 /* CENTS */ FROM EVENTS.events_v1 AS E" := rfl
  obtain ⟨clause, lead, post, hclause, hleads, -, -, hiff⟩ :=
    parse_adapt_iff hphysical hq (fun _ => hselect) htext
  cases hclause
  have hfrom := first_of_keywordOffset isKeyword_from (n := 24)
    (show keywordOffset "SELECT COL0 /* CENTS */ FROM EVENTS AS E".toList "FROM" = some 24 by
      decide +kernel)
  have hleads' : (ofConfig .default).Leads "SELECT col0 /* cents */ FROM events AS e" eventsQuery
      "SELECT ROWKEY, COL0 /* CENTS */ FROM ".toList " AS E".toList :=
    ⟨"SELECT col0 /* cents */ FROM events AS e".toList, [], _, _,
      "SELECT ROWKEY, COL0 /* CENTS */ ".toList, rfl, by decide +kernel, hfrom, rfl,
      by decide +kernel, by decide +kernel⟩
  obtain ⟨rfl, rfl⟩ := hleads.unique hleads'
  have hopening : IsOpening "SELECT ROWKEY, COL0 /* CENTS */ FROM ".toList :=
    ⟨11, [.word ⟨"SELECT", none⟩, .word ⟨"ROWKEY", none⟩, .symbol ",", .word ⟨"COL0", none⟩,
      .word ⟨"FROM", none⟩], _, fun _ => lexes_of_readTokens rfl, fun _ => rfl⟩
  have hplain : Query.parse (String.ofList ("SELECT ROWKEY, COL0 /* CENTS */ FROM ".toList ++
      ("EVENTS".toList ++ " AS E".toList))) =
        .ok { from? := some ⟨"EVENTS", some "E"⟩,
              projection := .columns [⟨"ROWKEY", none⟩, ⟨"COL0", none⟩] } :=
    eq_ok_of_toOption (by decide +kernel)
  have hmarked : Query.Unmarked events.physicalName " AS E".toList := by
    intro c w hw
    cases hw
    decide
  exact (hiff (.inl ⟨hopening, Query.readsTable_of_parse hopening hplain rfl⟩)).2
    ⟨hopening, hmarked, _, hplain, rfl⟩

/-- The first `FROM` of a statement with a common table may be the one within it. Then the outer
query reads the source without its physical table. -/
theorem common_table_qualified :
    (Query.parse "WITH e AS (SELECT * FROM events) SELECT * FROM events").toOption =
      some { from? := some ⟨"events", none⟩, projection := .all } ∧
    IsIdentifier events.physicalName ∧
    (ofConfig .default).adapt "WITH e AS (SELECT * FROM events) SELECT * FROM events"
        { from? := some ⟨"events", none⟩, projection := .all } events =
      .ok "WITH E AS (SELECT * FROM EVENTS.events_v1) SELECT * FROM EVENTS" ∧
    (Query.parse "WITH E AS (SELECT * FROM EVENTS.events_v1) SELECT * FROM EVENTS").toOption =
      some { from? := some ⟨"EVENTS", none⟩, projection := .all } :=
  ⟨by decide +kernel,
    ⟨'e', "vents_v1".toList, by decide, by decide, by decide, List.all_eq_true.1 (by decide)⟩,
    rfl, by decide +kernel⟩

end Adapter

end MatView
