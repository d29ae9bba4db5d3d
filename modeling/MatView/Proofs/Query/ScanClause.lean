import Mathlib.Data.List.Basic
import MatView.Proofs.Query.Adapted
import MatView.Proofs.Query.KeyClash
import MatView.Proofs.Sql.Condition
import MatView.Proofs.Sql.CutTokens
import MatView.Proofs.Sql.Rest

/-!
# The scan clause

The scan clause is put in place of the blanks at the end of a predicate and of one semicolon there,
which is put back behind it. It takes effect if it is read as the end of the one statement, behind
the condition of its outer query, whose tokens are the same as before. It does so if and only if what
stands in front of it is read as a whole and has no semicolon. It does not after two semicolons, in
a line comment, or where it separates a number sign from a semicolon.

## Main definitions

* `Adapter.stem`, `Adapter.cutOff`, `Adapter.terminator`: the parts of a predicate.
* `Adapter.InForce`: the scan clause ends the one statement of a text.

## Main statements

* `Adapter.scanClause_inForce_iff`: when the scan clause takes effect.
-/

namespace MatView

open Sql

/-! ## Tokens without semicolons -/

namespace Sql

variable {tokens before closing : List Token} {t : Token}

/-- The tokens that are no semicolons. -/
def withoutSemicolons (tokens : List Token) : List Token :=
  tokens.filter (· ≠ .symbol ";")

@[simp] theorem withoutSemicolons_append (tokens others : List Token) :
    withoutSemicolons (tokens ++ others) = withoutSemicolons tokens ++ withoutSemicolons others :=
  List.filter_append ..

theorem withoutSemicolons_eq_nil (h : ∀ t ∈ tokens, t = .symbol ";") :
    withoutSemicolons tokens = [] :=
  List.filter_eq_nil_iff.2 fun t ht => by simp [h t ht]

theorem withoutSemicolons_eq_self (h : .symbol ";" ∉ tokens) : withoutSemicolons tokens = tokens :=
  List.filter_eq_self.2 fun t ht => by simpa using fun heq : t = .symbol ";" => h (heq ▸ ht)

theorem withoutSemicolons_kept (hclosing : ∀ t ∈ closing, t = .symbol ";") :
    withoutSemicolons (tokens ++ closing) = withoutSemicolons tokens := by
  rw [withoutSemicolons_append, withoutSemicolons_eq_nil hclosing, List.append_nil]

theorem semicolon_not_mem_withoutSemicolons (tokens : List Token) :
    .symbol ";" ∉ withoutSemicolons tokens := by
  simp [withoutSemicolons]

/-- What stands before a token that is no semicolon has none, if semicolons stand at the end only. -/
theorem semicolon_not_mem_of_append {others : List Token} (ht : t ≠ .symbol ";")
    (hbefore : .symbol ";" ∉ before) (hclosing : ∀ t ∈ closing, t = .symbol ";")
    (h : tokens ++ t :: others = before ++ closing) : .symbol ";" ∉ tokens := by
  obtain ⟨more, rfl, -⟩ | ⟨more, -, rfl⟩ := List.append_eq_append_iff.1 h
  · exact fun hmem => hbefore (List.mem_append_left _ hmem)
  · exact absurd (hclosing t (List.mem_append_right _ List.mem_cons_self)) ht

theorem getLast?_of_append {front others back : List Token} {last : Token} (ht : t ∈ others)
    (h : front ++ others = back ++ [last]) : others.getLast? = some last := by
  have hlast := congrArg List.getLast? h
  rwa [List.getLast?_append_of_ne_nil _ (List.ne_nil_of_mem ht), List.getLast?_concat] at hlast

/-- The number of tokens behind the last `WHERE`. -/
def behindWhere (tokens : List Token) : Nat :=
  (tokens.reverse.takeWhile fun t => t.keyword? != some "WHERE").length

theorem behindWhere_append {others : List Token} (ht : t ∈ others)
    (hword : t.keyword? = some "WHERE") (tokens : List Token) :
    behindWhere (tokens ++ others) = behindWhere others := by
  rw [behindWhere, behindWhere, List.reverse_append, List.takeWhile_append, if_neg]
  intro hall
  have hself := List.takeWhile_eq_self_iff.1
    ((List.takeWhile_prefix _).eq_of_length hall) t (List.mem_reverse.2 ht)
  simp [hword] at hself

/-- A text that ends in a condition does not end in this condition and something more. -/
theorem append_ne_of_where {others more : List Token} (ht : t ∈ others)
    (hword : t.keyword? = some "WHERE") (hmore : ∀ u ∈ more, u.keyword? ≠ some "WHERE")
    (hne : more ≠ []) (front back : List Token) : front ++ others ≠ back ++ others ++ more := by
  intro h
  have hcount := congrArg behindWhere h
  have hlonger : behindWhere (others ++ more) = more.length + behindWhere others := by
    have hall : ∀ u ∈ more.reverse, (u.keyword? != some "WHERE") = true := fun u hu => by
      simpa using hmore u (List.mem_reverse.1 hu)
    rw [behindWhere, behindWhere, List.reverse_append, List.takeWhile_append_of_pos hall,
      List.length_append, List.length_reverse]
  rw [behindWhere_append ht hword, List.append_assoc,
    behindWhere_append (List.mem_append_left _ ht) hword, hlonger] at hcount
  have hpos := List.length_pos_iff.2 hne
  omega

end Sql

namespace Adapter

variable {a : Adapter} {predicate : List Char}

/-! ## The parts of a predicate -/

/-- The predicate up to what the scan clause is put in place of. -/
def stem (predicate : List Char) : List Char :=
  let body := Unicode.trimEnd predicate
  match body.reverse with
  | ';' :: rest => Unicode.trimEnd rest.reverse
  | _ => body

/-- What the scan clause is put in place of. -/
def cutOff (predicate : List Char) : List Char :=
  predicate.drop (stem predicate).length

/-- The semicolon that is put back behind the scan clause. -/
def terminator (predicate : List Char) : List Char :=
  match (Unicode.trimEnd predicate).reverse with
  | ';' :: _ => [';']
  | _ => []

theorem addScanClause_eq (a : Adapter) (predicate : List Char) :
    a.addScanClause predicate =
      stem predicate ++ ' ' :: (a.scanClause.toList ++ terminator predicate) := by
  simp only [addScanClause, stem, terminator]
  split <;> simp_all

theorem exists_trimEnd (cs : List Char) :
    ∃ blanks, cs = Unicode.trimEnd cs ++ blanks ∧ Trailing blanks := by
  refine ⟨_, (Unicode.trimEnd_append_blanks cs).symm, fun c hc => ?_⟩
  have hblank := Text.of_mem_takeWhile (List.mem_reverse.1 hc)
  simp [isTrailing, hblank]

/-- A predicate is its stem, and blanks and semicolons behind it. -/
theorem exists_cutOff (predicate : List Char) :
    ∃ back, predicate = stem predicate ++ back ∧ Trailing back := by
  obtain ⟨blanks, hpredicate, hblanks⟩ := exists_trimEnd predicate
  unfold stem
  dsimp only
  split
  · rename_i rest hbody
    obtain ⟨blanks', hrest, hblanks'⟩ := exists_trimEnd rest.reverse
    refine ⟨blanks' ++ ';' :: blanks, ?_, ?_⟩
    · have hbody' : Unicode.trimEnd predicate = rest.reverse ++ [';'] := by
        rw [← List.reverse_reverse (Unicode.trimEnd predicate), hbody, List.reverse_cons]
      calc predicate = Unicode.trimEnd predicate ++ blanks := hpredicate
        _ = rest.reverse ++ [';'] ++ blanks := by rw [hbody']
        _ = Unicode.trimEnd rest.reverse ++ blanks' ++ [';'] ++ blanks := by rw [← hrest]
        _ = Unicode.trimEnd rest.reverse ++ (blanks' ++ ';' :: blanks) := by simp
    · have hclosing : Trailing (';' :: blanks) := trailing_cons.2 ⟨by decide, hblanks⟩
      exact List.forall_mem_append.2 ⟨hblanks', hclosing⟩
  · exact ⟨blanks, hpredicate, hblanks⟩

theorem cutOff_eq {back : List Char} (h : predicate = stem predicate ++ back) :
    cutOff predicate = back := by
  have hdrop := congrArg (List.drop (stem predicate).length) h
  rwa [List.drop_left] at hdrop

@[simp] theorem stem_append_cutOff (predicate : List Char) :
    stem predicate ++ cutOff predicate = predicate := by
  obtain ⟨back, hpredicate, -⟩ := exists_cutOff predicate
  rw [cutOff_eq hpredicate, ← hpredicate]

theorem trailing_cutOff (predicate : List Char) : Trailing (cutOff predicate) := by
  obtain ⟨back, hpredicate, hback⟩ := exists_cutOff predicate
  rwa [cutOff_eq hpredicate]

/-! ## The scan clause in force -/

/-- The tokens of the scan clause. -/
def scanTokens : List Token :=
  [.word ⟨"ALLOW", none⟩, .word ⟨"FILTERING", none⟩]

/-- The scan clause of a text is in force: it comes directly behind the condition `region`, whose
tokens are all there, and semicolons stand behind it only. -/
def InForce (text : String) (region : List Token) : Prop :=
  ∃ before closing,
    tokens? text = some (before ++ withoutSemicolons region ++ scanTokens ++ closing) ∧
      .symbol ";" ∉ before ∧ ∀ t ∈ closing, t = .symbol ";"

variable {adapted left : List Char} {all found region read before : List Token} {k : Nat}

theorem terminator_cases (predicate : List Char) :
    terminator predicate = [] ∨ terminator predicate = [';'] := by
  unfold terminator
  split
  · exact .inr rfl
  · exact .inl rfl

/-- The scan clause and a semicolon behind it are read as they are. -/
theorem exists_lexes_clause (predicate : List Char) :
    ∃ n closing, Lexes n (' ' :: ("ALLOW FILTERING".toList ++ terminator predicate))
        (scanTokens ++ closing) [] ∧ ∀ t ∈ closing, t = .symbol ";" := by
  obtain hnone | hsome := terminator_cases predicate
  · rw [hnone]
    exact ⟨4, [], lexes_of_readTokens rfl, by simp⟩
  · rw [hsome]
    exact ⟨5, [.symbol ";"], lexes_of_readTokens rfl, by simp⟩

/-- What is read up to the scan clause is followed by the clause. -/
theorem tokens?_of_readsTo (hclause : a.scanClause = "ALLOW FILTERING")
    (hreads : ReadsTo (cutOff predicate) (adapted ++ stem predicate) k read [])
    (hwhole : tokens? (String.ofList (adapted ++ predicate)) = some all) :
    withoutSemicolons all = withoutSemicolons read ∧ ∃ closing, (∀ t ∈ closing, t = .symbol ";") ∧
      tokens? (String.ofList (adapted ++ a.addScanClause predicate)) =
        some (read ++ scanTokens ++ closing) := by
  obtain ⟨m, hlexes⟩ := tokens?_eq_some.1 hwhole
  rw [← stem_append_cutOff predicate, ← List.append_assoc] at hlexes
  obtain ⟨n, semis, -, rfl, hsemis⟩ := hreads.1.exists_rest hlexes
  obtain ⟨n', closing, hend, hclosing⟩ := exists_lexes_clause predicate
  refine ⟨withoutSemicolons_kept (semicolons_of_trailing (trailing_cutOff predicate) hsemis),
    closing, hclosing, ?_⟩
  rw [addScanClause_eq, hclause, ← List.append_assoc, List.append_assoc read]
  exact tokens?_eq_some.2 ⟨n' + k, (hreads.2 _).append hend⟩

/-- A token that crosses the cut is a comment that swallows the scan clause, or a name that becomes a
symbol in front of it. -/
theorem tokens?_of_crosses (hclause : a.scanClause = "ALLOW FILTERING")
    (hreads : ReadsTo (cutOff predicate) (adapted ++ stem predicate) k read left)
    (hcross : Crosses (cutOff predicate) left)
    (hwhole : tokens? (String.ofList (adapted ++ predicate)) = some all)
    (hfound : tokens? (String.ofList (adapted ++ a.addScanClause predicate)) = some found) :
    (withoutSemicolons all = withoutSemicolons read ∧ found = read) ∨
      ∃ name s closing, s ≠ ";" ∧ (∀ t ∈ closing, t = .symbol ";") ∧
        withoutSemicolons all = withoutSemicolons read ++ [.word name] ∧
        found = read ++ .symbol s :: (scanTokens ++ closing) := by
  obtain ⟨m, hlexes⟩ := tokens?_eq_some.1 hwhole
  rw [← stem_append_cutOff predicate, ← List.append_assoc] at hlexes
  obtain ⟨n, others, -, rfl, hothers⟩ := hreads.1.exists_rest hlexes
  obtain ⟨m', hlexes'⟩ := tokens?_eq_some.1 hfound
  rw [addScanClause_eq, hclause, ← List.append_assoc] at hlexes'
  obtain ⟨n', others', -, rfl, hothers'⟩ := (hreads.2 _).exists_rest hlexes'
  have hline : '\n' ∉ "ALLOW FILTERING".toList ++ terminator predicate := by
    obtain hend | hend := terminator_cases predicate <;>
    · rw [hend]
      decide
  obtain ⟨after, hafter, hcomment, hcut⟩ | ⟨name, s, after, hs, hafter, hword, hcut⟩ :=
    hcross.read (trailing_cutOff predicate) hline
  · left
    obtain ⟨_, semis, -, rfl, hsemis⟩ := hcomment.exists_rest hothers
    obtain ⟨_, more, -, rfl, hmore⟩ := hcut.exists_rest hothers'
    cases hmore
    rw [List.append_nil]
    exact ⟨withoutSemicolons_kept (semicolons_of_trailing hafter hsemis), rfl⟩
  · right
    obtain ⟨_, semis, -, rfl, hsemis⟩ := hword.exists_rest hothers
    obtain ⟨_, more, -, rfl, hmore⟩ := hcut.exists_rest hothers'
    obtain ⟨_, closing, hend, hclosing⟩ := exists_lexes_clause predicate
    obtain rfl := hend.unique hmore
    refine ⟨name, s, closing, hs, hclosing, ?_, by simp⟩
    rw [← List.append_assoc, withoutSemicolons_kept (semicolons_of_trailing hafter hsemis),
      withoutSemicolons_append]
    rfl

theorem semicolon_not_mem_inForce (hbefore : .symbol ";" ∉ before) (region : List Token) :
    .symbol ";" ∉ before ++ withoutSemicolons region ++ scanTokens := by
  simp only [List.mem_append, not_or]
  exact ⟨⟨hbefore, semicolon_not_mem_withoutSemicolons region⟩, by decide⟩

/-- Where nothing crosses the cut, a scan clause in force has no semicolon in front of it. -/
theorem semicolon_not_mem_of_inForce (hclause : a.scanClause = "ALLOW FILTERING")
    (hreads : ReadsTo (cutOff predicate) (adapted ++ stem predicate) k read [])
    (hwhole : tokens? (String.ofList (adapted ++ predicate)) = some all)
    (h : InForce (String.ofList (adapted ++ a.addScanClause predicate)) region) :
    .symbol ";" ∉ read := by
  obtain ⟨front, closing, htext, hfront, hclosing⟩ := h
  obtain ⟨-, closing', -, hfound⟩ := tokens?_of_readsTo hclause hreads hwhole
  rw [htext, Option.some.injEq] at hfound
  have hallow : read ++ .word ⟨"ALLOW", none⟩ :: (.word ⟨"FILTERING", none⟩ :: closing') =
      front ++ withoutSemicolons region ++ scanTokens ++ closing := by
    rw [hfound]
    simp [scanTokens]
  exact semicolon_not_mem_of_append (by decide) (semicolon_not_mem_inForce hfront region) hclosing
    hallow

/-- Where a token crosses the cut, the scan clause is not in force. -/
theorem not_inForce_of_crosses (hclause : a.scanClause = "ALLOW FILTERING") {t : Token}
    (hmem : t ∈ withoutSemicolons region) (ht : t.keyword? = some "WHERE")
    (hreads : ReadsTo (cutOff predicate) (adapted ++ stem predicate) k read left)
    (hcross : Crosses (cutOff predicate) left)
    (hwhole : tokens? (String.ofList (adapted ++ predicate)) = some (before ++ region)) :
    ¬ InForce (String.ofList (adapted ++ a.addScanClause predicate)) region := by
  rintro ⟨front, closing, htext, hfront, hclosing⟩
  have htext' : withoutSemicolons (front ++ withoutSemicolons region ++ scanTokens ++ closing) =
      front ++ withoutSemicolons region ++ scanTokens := by
    rw [withoutSemicolons_kept hclosing,
      withoutSemicolons_eq_self (semicolon_not_mem_inForce hfront region)]
  obtain ⟨hall, hfound⟩ | ⟨name, s, closing', hs, hclosing', hall, hfound⟩ :=
    tokens?_of_crosses hclause hreads hcross hwhole htext
  · -- a text whose condition is its end has no scan clause behind it
    rw [hfound, ← hall, withoutSemicolons_append] at htext'
    exact append_ne_of_where hmem ht (by decide) (by decide) _ _ htext'
  · -- the condition ends in a name, and in front of the clause there is a symbol
    have hsymbol : withoutSemicolons [.symbol s] = [.symbol s] :=
      withoutSemicolons_eq_self (by simpa using hs.symm)
    have hends : withoutSemicolons read ++ [.symbol s] = front ++ withoutSemicolons region := by
      rw [hfound, List.append_cons, ← List.append_assoc, withoutSemicolons_kept hclosing',
        withoutSemicolons_append, withoutSemicolons_append, hsymbol] at htext'
      exact List.append_cancel_right htext'
    have hlast := getLast?_of_append hmem hends.symm
    rw [withoutSemicolons_append] at hall
    rw [getLast?_of_append hmem hall] at hlast
    cases hlast

/-- The scan clause comes into force where everything in front of it is read as a whole, and no
semicolon is read there. -/
theorem inForce_iff (hclause : a.scanClause = "ALLOW FILTERING") {t : Token} {others : List Token}
    (hregion : region = t :: others) (ht : t.keyword? = some "WHERE")
    (hwhole : tokens? (String.ofList (adapted ++ predicate)) = some (before ++ region)) :
    InForce (String.ofList (adapted ++ a.addScanClause predicate)) region ↔
      ∃ k read, ReadsTo (cutOff predicate) (adapted ++ stem predicate) k read [] ∧
        .symbol ";" ∉ read := by
  constructor
  · intro h
    have hmem : t ∈ withoutSemicolons region := by
      refine List.mem_filter.2 ⟨hregion ▸ List.mem_cons_self, ?_⟩
      suffices hne : t ≠ .symbol ";" by simpa using hne
      rintro rfl
      cases ht
    obtain ⟨m, hlexes⟩ := tokens?_eq_some.1 hwhole
    rw [← stem_append_cutOff predicate, ← List.append_assoc] at hlexes
    obtain ⟨k, read, left, hreads, rfl | hcross⟩ :=
      exists_readsTo (trailing_cutOff predicate) hlexes
    · exact ⟨k, read, hreads, semicolon_not_mem_of_inForce hclause hreads hwhole h⟩
    · exact absurd h (not_inForce_of_crosses hclause hmem ht hreads hcross hwhole)
  · rintro ⟨k, read, hreads, hread⟩
    obtain ⟨hall, closing, hclosing, htext⟩ := tokens?_of_readsTo hclause hreads hwhole
    refine ⟨withoutSemicolons before, closing, ?_, semicolon_not_mem_withoutSemicolons _, hclosing⟩
    rw [htext, ← withoutSemicolons_append, hall, withoutSemicolons_eq_self hread]

/-- Two texts are read up to a place from which on they are the same, and the condition `region`
comes at or behind this place. -/
def ReadOnAlike (text other : List Char) (region : List Token) : Prop :=
  ∃ m n k found before skipped behind, Lexes m text found behind ∧ Lexes n other before behind ∧
    Lexes k behind (skipped ++ region) []

/-- The scan clause of a statement with a condition takes effect if and only if what stands in front
of it in the adapted text is read as a whole, whatever comes behind it, and no semicolon is read
there. The head has to be adapted to one that is read up to the same place. -/
theorem scanClause_inForce_iff {statement text : String} {q : Query} {source : Source}
    (hq : Query.parse statement = .ok q) (hwhere : q.hasWhere = true)
    (h : (ofConfig .default).adapt statement q source = .ok text) :
    ∃ tokens region head predicate adapted, tokens? statement = some tokens ∧
      OuterWhere tokens region ∧ split statement.toList true = .ok (head, predicate) ∧
      text = String.ofList (adapted ++ (ofConfig .default).addScanClause predicate) ∧
      (ReadOnAlike statement.toList (adapted ++ predicate) region →
        (InForce text region ↔ ∃ k read,
          ReadsTo (cutOff predicate) (adapted ++ stem predicate) k read [] ∧
            .symbol ";" ∉ read)) := by
  obtain ⟨clause, head, predicate, qualified, adapted, hclause, hsplit, -, -, rfl⟩ :=
    adapt_eq_ok_iff.1 h
  have hfrom : q.from? ≠ none := by
    intro hnone
    rw [Query.source, hnone] at hclause
    cases hclause
  obtain ⟨tokens, region, htokens, hregion⟩ := Query.exists_outerWhere hq hfrom hwhere
  rw [hwhere] at hsplit
  rw [tail, hwhere, if_pos rfl]
  refine ⟨tokens, region, head, predicate, adapted, htokens, hregion, hsplit, rfl, ?_⟩
  rintro ⟨m, n, k, found, before, skipped, behind, -, hbefore, hbehind⟩
  obtain ⟨-, t, others, hword, ht⟩ := hregion
  have hwhole : tokens? (String.ofList (adapted ++ predicate)) =
      some (before ++ skipped ++ region) := by
    rw [List.append_assoc]
    exact tokens?_eq_some.2 ⟨_, hbefore.append hbehind⟩
  exact inForce_iff rfl hword ht hwhole

/-- The query of a statement that asks for all columns under a condition. -/
def filtered : Query where
  from? := some ⟨"matview", none⟩
  projection := .all
  hasWhere := true

theorem eq_of_ofList_append {front front' back : List Char}
    (h : String.ofList (front ++ back) = String.ofList (front' ++ back)) : front = front' :=
  List.append_cancel_right (String.ofList_injective h)

/-- The tokens of a condition that compares a column with a text. -/
def comparison : List Token :=
  [.word ⟨"WHERE", none⟩, .word ⟨"col1", none⟩, .symbol "=", .literal "aBc", .symbol ";"]

/-- Blanks around the semicolon do not matter. -/
theorem scanClause_before_semicolon :
    (ofConfig .default).adapt "SELECT * FROM matview WHERE col1 = 'aBc' ; " filtered materialized =
      .ok "SELECT * FROM MATVIEW.test2 WHERE col1 = 'aBc' ALLOW FILTERING;" ∧
    (∃ tokens, tokens? "SELECT * FROM matview WHERE col1 = 'aBc' ; " = some tokens ∧
      OuterWhere tokens comparison) ∧
    InForce "SELECT * FROM MATVIEW.test2 WHERE col1 = 'aBc' ALLOW FILTERING;" comparison := by
  have hq : Query.parse "SELECT * FROM matview WHERE col1 = 'aBc' ; " = .ok filtered :=
    eq_ok_of_toOption (by decide +kernel)
  have htext : (ofConfig .default).adapt "SELECT * FROM matview WHERE col1 = 'aBc' ; " filtered
      materialized = .ok "SELECT * FROM MATVIEW.test2 WHERE col1 = 'aBc' ALLOW FILTERING;" := rfl
  obtain ⟨tokens, region, head, predicate, adapted, htokens, hregion, hsplit, hadapted, hiff⟩ :=
    scanClause_inForce_iff hq rfl htext
  obtain rfl : predicate = "WHERE col1 = 'aBc' ; ".toList := by
    cases hsplit
    rfl
  obtain rfl : "SELECT * FROM MATVIEW.test2 ".toList = adapted := eq_of_ofList_append hadapted
  have hfound : tokens? "SELECT * FROM matview WHERE col1 = 'aBc' ; " =
      some (.word ⟨"SELECT", none⟩ :: .symbol "*" :: .word ⟨"FROM", none⟩ ::
        .word ⟨"matview", none⟩ :: comparison) := rfl
  have hrun : toCondition (level false (maxDepth - 2)) (.word ⟨"SELECT", none⟩ :: .symbol "*" ::
      .word ⟨"FROM", none⟩ :: .word ⟨"matview", none⟩ :: comparison) = .ok ((), comparison) := rfl
  obtain rfl := Option.some.inj (htokens.symm.trans hfound)
  obtain rfl := (Prod.mk.inj (Except.ok.inj (hregion.1.symm.trans hrun))).2
  refine ⟨htext, ⟨_, htokens, hregion⟩, (hiff ?_).2 ?_⟩
  · exact ⟨8, 10, 10, _, _, [], "WHERE col1 = 'aBc' ; ".toList, lexes_of_readTokens rfl,
      lexes_of_readTokens rfl, lexes_of_readTokens rfl⟩
  · have hstem : stem "WHERE col1 = 'aBc' ; ".toList = "WHERE col1 = 'aBc'".toList := rfl
    have hcut : cutOff "WHERE col1 = 'aBc' ; ".toList = " ; ".toList := rfl
    rw [hstem, hcut]
    exact ⟨17, [.word ⟨"SELECT", none⟩, .symbol "*", .word ⟨"FROM", none⟩,
      .word ⟨"MATVIEW", none⟩, .symbol ".", .word ⟨"test2", none⟩, .word ⟨"WHERE", none⟩,
      .word ⟨"col1", none⟩, .symbol "=", .literal "aBc"],
      ⟨lexes_of_readTokens rfl, fun _ => lexes_of_readTokens rfl⟩, by decide⟩

/-- The first of two semicolons stays in front of the scan clause, and a line comment swallows it. -/
theorem scanClause_behind_semicolon :
    Query.parse "SELECT * FROM matview WHERE a=1;;" = .ok filtered ∧
    (ofConfig .default).adapt "SELECT * FROM matview WHERE a=1;;" filtered materialized =
      .ok "SELECT * FROM MATVIEW.test2 WHERE a=1; ALLOW FILTERING;" ∧
    (∀ region, ¬ InForce "SELECT * FROM MATVIEW.test2 WHERE a=1; ALLOW FILTERING;" region) ∧
    Query.parse "SELECT * FROM matview WHERE a=1 -- cents" = .ok filtered ∧
    (ofConfig .default).adapt "SELECT * FROM matview WHERE a=1 -- cents" filtered materialized =
      .ok "SELECT * FROM MATVIEW.test2 WHERE a=1 -- cents ALLOW FILTERING" ∧
    ∀ region, ¬ InForce "SELECT * FROM MATVIEW.test2 WHERE a=1 -- cents ALLOW FILTERING" region := by
  refine ⟨eq_ok_of_toOption (by decide +kernel), rfl, ?_, eq_ok_of_toOption (by decide +kernel), rfl,
    ?_⟩
  · rintro region ⟨before, closing, htext, hbefore, hclosing⟩
    have hfound : tokens? "SELECT * FROM MATVIEW.test2 WHERE a=1; ALLOW FILTERING;" =
        some ([.word ⟨"SELECT", none⟩, .symbol "*", .word ⟨"FROM", none⟩, .word ⟨"MATVIEW", none⟩,
          .symbol ".", .word ⟨"test2", none⟩, .word ⟨"WHERE", none⟩, .word ⟨"a", none⟩,
          .symbol "=", .number "1" false, .symbol ";"] ++ .word ⟨"ALLOW", none⟩ ::
            [.word ⟨"FILTERING", none⟩, .symbol ";"]) := rfl
    exact semicolon_not_mem_of_append (by decide) (semicolon_not_mem_inForce hbefore region) hclosing
      (Option.some.inj (hfound.symm.trans htext)) (by decide)
  · rintro region ⟨before, closing, htext, -, -⟩
    have hfound : tokens? "SELECT * FROM MATVIEW.test2 WHERE a=1 -- cents ALLOW FILTERING" =
        some [.word ⟨"SELECT", none⟩, .symbol "*", .word ⟨"FROM", none⟩, .word ⟨"MATVIEW", none⟩,
          .symbol ".", .word ⟨"test2", none⟩, .word ⟨"WHERE", none⟩, .word ⟨"a", none⟩,
          .symbol "=", .number "1" false] := rfl
    have hallow : .word ⟨"ALLOW", none⟩ ∈
        before ++ withoutSemicolons region ++ scanTokens ++ closing := by
      simp [scanTokens]
    rw [← Option.some.inj (hfound.symm.trans htext)] at hallow
    exact absurd hallow (by decide)

end Adapter

end MatView
