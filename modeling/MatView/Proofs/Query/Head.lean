import MatView.Proofs.Query.Adapted
import MatView.Proofs.Text.UpperSearch

/-!
# The head of a statement

A head is put in upper case before its source is looked for. The name that is found is the one that
stands behind the first `FROM` of the statement itself, and the head that is sent is the upper-case
form of the head that was given, but for the physical table behind this name.

## Main definitions

* `SourceCut`: a statement cut around the name behind its first `FROM`.

## Main statements

* `exists_sourceCut`: what an adapted text consists of, if no key column is added.
* `adapt_scans_upper_case`: looking for the source in an upper-case text is as good as looking for it
  in the text.
-/

namespace MatView

open Text Unicode

/-- A statement in four parts: `token` is the name behind its first `FROM`, and `predicate` starts at
its first `WHERE`, if the query has a predicate. -/
structure SourceCut (hasWhere : Bool) (pre token post predicate : List Char) : Prop where
  behind_from : ∃ front word blanks, pre = front ++ word ++ blanks ∧ Alike word "FROM".toList ∧
    (∀ c ∈ blanks, isBlank c = true) ∧
      First "FROM" front (word ++ blanks ++ token ++ post ++ predicate)
  token_ne_nil : token ≠ []
  token_starts : ∀ c, token.head? = some c → isBlank c = false
  token_name : ∀ c ∈ token, isNameChar c = true
  token_ends : ∀ c, post.head? = some c → isNameChar c = false
  predicate_starts : if hasWhere then First "WHERE" (pre ++ token ++ post) predicate
    else predicate = []

namespace Adapter

variable {a : Adapter} {statement text : String} {q : Query} {source : Source}

/-- The first `FROM` of a head is the first one of the statement, if a name follows it there. -/
theorem first_of_head {front back : List Char} (h : First "FROM" front back) (hname : target back ≠ [])
    (predicate : List Char) : First "FROM" front (back ++ predicate) := by
  refine h.congr_back ?_
  have hlength : "FROM".toList.length + 1 ≤ back.length := by
    have hparts := congrArg List.length (append_eq_parts "FROM" [] back)
    rw [restBehind_eq] at hparts
    simp only [List.nil_append, List.length_append, h.starts.length_wordOf] at hparts
    have := List.length_pos_iff.2 hname
    omega
  exact (List.take_append_of_le_length hlength).symm

/-- A head is qualified at the name behind the first `FROM` of the head as it was given. -/
theorem qualify_upperChars_eq {head qualified : List Char} {name physicalName : String}
    (h : qualify (upperChars head) name physicalName = .ok qualified) :
    ∃ front back, head = front ++ back ∧ First "FROM" front back ∧ target back ≠ [] ∧
      upperChars (target back) = upperChars name.toList ∧
      qualified = upperChars (front ++ wordOf "FROM" back ++ blanksBehind "FROM" back) ++
        upperChars (target back) ++ '.' :: physicalName.toList ++ upperChars (behindTarget back) := by
  obtain ⟨upperFront, upperBack, hupper, hfirst, hne, htarget, rfl⟩ := qualify_eq h
  have hoffset := hfirst.keywordOffset_eq isKeyword_from
  rw [← hupper, keywordOffset_upperChars] at hoffset
  obtain ⟨n, hn, -⟩ := Option.map_eq_some_iff.1 hoffset
  obtain ⟨front, back, rfl, hplace, -⟩ := exists_first isKeyword_from hn
  rw [upperChars_append] at hupper
  obtain ⟨rfl, rfl⟩ := hfirst.unique isKeyword_from (first_upperChars_iff.2 hplace) hupper.symm
  have hspells := (starts_from_iff.1 hplace.starts).2.2
  rw [target_upperChars hspells] at hne htarget
  refine ⟨front, back, rfl, hplace, ?_, htarget, ?_⟩
  · intro hnil
    exact hne (by rw [hnil, upperChars_nil])
  · simp only [qualifiedFrom, target_upperChars hspells, behindTarget_upperChars hspells,
      blanksBehind_upperChars hspells, (take_upperChars hspells).1, upperChars_append,
      List.append_assoc, List.cons_append]

/-- A qualified head is the head of the statement in upper case, with the physical table behind the
name of its source. -/
theorem exists_cut_of_qualify {chars head predicate qualified : List Char} {hasWhere : Bool}
    {name physicalName : String} (hsplit : split chars hasWhere = .ok (head, predicate))
    (hqualified : qualify (upperChars head) name physicalName = .ok qualified) :
    ∃ pre token post, chars = pre ++ token ++ post ++ predicate ∧
      SourceCut hasWhere pre token post predicate ∧
      upperChars token = upperChars name.toList ∧
      qualified = upperChars pre ++ upperChars token ++ '.' :: physicalName.toList ++
        upperChars post := by
  obtain ⟨front, back, rfl, hfirst, hne, hname, rfl⟩ := qualify_upperChars_eq hqualified
  obtain ⟨hstatement, hpredicate⟩ := split_eq hsplit
  have hback : back = wordOf "FROM" back ++ blanksBehind "FROM" back ++ target back ++
      behindTarget back := by
    rw [List.append_assoc, ← restBehind_eq]
    exact append_eq_parts "FROM" [] back
  have hhead : front ++ back = front ++ wordOf "FROM" back ++ blanksBehind "FROM" back ++
      target back ++ behindTarget back := by
    rw [append_eq_parts "FROM" front back, restBehind_eq]
    simp only [List.append_assoc]
  rw [hhead] at hstatement hpredicate
  refine ⟨front ++ wordOf "FROM" back ++ blanksBehind "FROM" back, target back,
    behindTarget back, hstatement, ?_, hname, rfl⟩
  exact {
    behind_from := ⟨front, wordOf "FROM" back, blanksBehind "FROM" back, rfl, hfirst.starts.spells,
      fun c hc => of_mem_takeWhile hc, hback ▸ first_of_head hfirst hne predicate⟩
    token_ne_nil := hne
    token_starts := fun c hc => by
      have hrest : (restBehind "FROM" back).head? = some c := by
        rw [restBehind_eq, List.head?_append, hc]
        rfl
      exact head?_dropWhile_eq_false hrest
    token_name := fun c hc => of_mem_takeWhile hc
    token_ends := fun c hc => head?_dropWhile_eq_false hc
    predicate_starts := hpredicate }

/-- Without the key column, an adapted text is the statement with its head in upper case and the
physical table behind the name of its source. -/
theorem exists_sourceCut (h : a.adapt statement q source = .ok text)
    (hkey : a.injects q.projection = false) : ∃ clause pre token post predicate,
      q.source = .ok clause ∧ statement.toList = pre ++ token ++ post ++ predicate ∧
      SourceCut q.hasWhere pre token post predicate ∧
      upperChars token = upperChars clause.source.toList ∧
      text = String.ofList (upperChars pre ++ upperChars token ++ '.' :: source.physicalName.toList ++
        upperChars post ++ a.tail q.hasWhere predicate) := by
  obtain ⟨clause, head, predicate, qualified, keyed, hclause, hsplit, hqualified, hkeyed, rfl⟩ :=
    adapt_eq_ok_iff.1 h
  simp only [hkey, Bool.false_eq_true, if_false, Except.ok.injEq] at hkeyed
  obtain ⟨pre, token, post, hstatement, hcut, hname, rfl⟩ := exists_cut_of_qualify hsplit hqualified
  exact ⟨clause, pre, token, post, predicate, hclause, hstatement, hcut, hname, by rw [← hkeyed]⟩

/-- Looking for the source in the upper-case form of a statement is as good as looking for it in the
statement: the first `FROM` and the name behind it are those of the statement, in upper case. So no
other part of a head is changed by qualifying it. -/
theorem adapt_scans_upper_case (statement : String) :
    keywordOffset (upperChars statement.toList) "FROM" =
      (keywordOffset statement.toList "FROM").map (fun n =>
        (Utf8.bytes (upperChars (takeBytes n statement.toList))).length) ∧
    fromSpan (upperChars statement.toList) =
      (fromSpan statement.toList).map (·.inUpper statement.toList) ∧
    (∀ s, fromSpan statement.toList = some s →
      (s.inUpper statement.toList).slice (upperChars statement.toList) =
        upperChars (s.slice statement.toList)) ∧
    ∀ (a : Adapter) (q : Query) (source : Source) (text : String),
      a.adapt statement q source = .ok text → a.injects q.projection = false →
      ∃ clause pre token post predicate,
        q.source = .ok clause ∧ statement.toList = pre ++ token ++ post ++ predicate ∧
        SourceCut q.hasWhere pre token post predicate ∧
        upperChars token = upperChars clause.source.toList ∧
        text = String.ofList (upperChars pre ++ upperChars token ++ '.' :: source.physicalName.toList ++
          upperChars post ++ a.tail q.hasWhere predicate) :=
  ⟨keywordOffset_upperChars _, (fromSpan_upperChars _).1, (fromSpan_upperChars _).2,
    fun _ _ _ _ => exists_sourceCut⟩

/-- A ligature in front of a source and the `ß` in its name grow when they are put in upper case. -/
theorem measures_scanned_in_upper_case : ∃ (a : Adapter) (q : Query) (source : Source),
    a.adapt "select ﬁ, 'from' from \u00a0maß m where ﬁ = 1" q source =
      .ok "SELECT FI, 'FROM' FROM \u00a0MASS.t M where ﬁ = 1 ALLOW FILTERING" ∧
    fromSpan "select ﬁ, 'from' from \u00a0maß m where ﬁ = 1".toList = some ⟨26, 4⟩ ∧
    Span.slice ⟨25, 4⟩ (upperChars "select ﬁ, 'from' from \u00a0maß m where ﬁ = 1".toList) =
      "MASS".toList ∧
    ∃ clause pre token post predicate, q.source = .ok clause ∧
      "select ﬁ, 'from' from \u00a0maß m where ﬁ = 1".toList = pre ++ token ++ post ++ predicate ∧
      SourceCut q.hasWhere pre token post predicate ∧
      upperChars token = upperChars clause.source.toList ∧
      "SELECT FI, 'FROM' FROM \u00a0MASS.t M where ﬁ = 1 ALLOW FILTERING" =
        String.ofList (upperChars pre ++ upperChars token ++ '.' :: source.physicalName.toList ++
          upperChars post ++ a.tail q.hasWhere predicate) := by
  have htext : Adapter.adapt ⟨"ROWKEY", "ALLOW FILTERING", true⟩
      "select ﬁ, 'from' from \u00a0maß m where ﬁ = 1"
      ⟨some ⟨"maß", some "m"⟩, .all, true⟩ ⟨"maß", .table, ⟨none, []⟩, "t", none⟩ =
        .ok "SELECT FI, 'FROM' FROM \u00a0MASS.t M where ﬁ = 1 ALLOW FILTERING" :=
    eq_ok_of_toOption (by decide +kernel)
  have hspan : fromSpan "select ﬁ, 'from' from \u00a0maß m where ﬁ = 1".toList = some ⟨26, 4⟩ := by
    decide +kernel
  obtain ⟨-, -, hname, hparts⟩ :=
    adapt_scans_upper_case "select ﬁ, 'from' from \u00a0maß m where ﬁ = 1"
  refine ⟨_, _, _, htext, hspan, ?_, hparts _ _ _ _ htext rfl⟩
  have hupper : Span.inUpper ⟨26, 4⟩ "select ﬁ, 'from' from \u00a0maß m where ﬁ = 1".toList =
      ⟨25, 4⟩ := by decide +kernel
  have hslice := hname _ hspan
  rw [hupper] at hslice
  exact hslice.trans (by decide +kernel)

end Adapter

end MatView
