import MatView.Proofs.Query.Adapted

/-!
# Semicolons of an adapted text

Upper case neither makes nor loses semicolons, and the scan clause is put in front of the semicolon
at the end of a predicate, not in its place. An adapted text has the semicolons of the statement and
those of the texts that are put into it: the physical table, the key column and the scan clause.

## Main statements

* `Unicode.count_upperChars`, `Unicode.count_trim`: characters that are neither made nor lost.
* `Adapter.count_addScanClause`: the semicolons of a predicate with the scan clause.
* `Adapter.count_adapt`: the semicolons of an adapted text.
-/

namespace MatView

namespace Unicode

variable {c : Char}

/-- What belongs to no identifier is as frequent in upper case. -/
theorem count_upperChars (hc : Text.isWordChar c = false) (cs : List Char) :
    (upperChars cs).count c = cs.count c := by
  induction cs with
  | nil => rfl
  | cons d cs ih =>
    rw [upperChars_cons, List.count_append, ih, List.count_cons, Nat.add_comm]
    by_cases hd : d = c
    · subst hd
      simp [upperChar_eq_self hc]
    · have hnot : c ∉ upperChar d := fun hmem => hd (eq_of_mem_upperChar hmem hc)
      simp [List.count_eq_zero_of_not_mem hnot, hd]

theorem count_takeWhile_isBlank (hc : isBlank c = false) (cs : List Char) :
    (cs.takeWhile isBlank).count c = 0 := by
  refine List.count_eq_zero.2 fun hmem => ?_
  rw [Text.of_mem_takeWhile hmem] at hc
  cases hc

theorem count_trimStart (hc : isBlank c = false) (cs : List Char) :
    (trimStart cs).count c = cs.count c := by
  have hparts := congrArg (List.count c) (blanks_append_trimStart cs)
  rwa [List.count_append, count_takeWhile_isBlank hc, Nat.zero_add] at hparts

theorem count_trimEnd (hc : isBlank c = false) (cs : List Char) :
    (trimEnd cs).count c = cs.count c := by
  have hparts := congrArg (List.count c) (trimEnd_append_blanks cs)
  rwa [List.count_append, List.count_reverse, count_takeWhile_isBlank hc, Nat.add_zero] at hparts

/-- What is no blank is as frequent in a trimmed text. -/
theorem count_trim (hc : isBlank c = false) (cs : List Char) : (trim cs).count c = cs.count c := by
  rw [trim, count_trimEnd hc, count_trimStart hc]

end Unicode

namespace Adapter

variable {a : Adapter} {statement text : String} {q : Query} {source : Source}

theorem count_split {chars head predicate : List Char} {hasWhere : Bool}
    (h : split chars hasWhere = .ok (head, predicate)) :
    head.count ';' + predicate.count ';' = chars.count ';' := by
  rw [(split_eq h).1, List.count_append]

theorem count_qualify {head qualified : List Char} {name physicalName : String}
    (h : qualify head name physicalName = .ok qualified) :
    qualified.count ';' = head.count ';' + physicalName.toList.count ';' := by
  obtain ⟨front, back, rfl, -, -, -, rfl⟩ := qualify_eq h
  rw [Text.append_eq_parts "FROM" front back, Text.restBehind_eq, qualifiedFrom]
  have hdot : '.' ≠ ';' := by decide
  simp only [List.count_append, List.count_cons_of_ne hdot]
  omega

theorem count_inject {head keyed : List Char} (h : a.inject head = .ok keyed) :
    keyed.count ';' = head.count ';' + a.keyColumn.toList.count ';' := by
  obtain ⟨front, back, rfl, -, rfl⟩ := inject_eq h
  have hcomma : [',', ' '].count ';' = 0 := rfl
  rw [Text.append_eq_parts "SELECT" front back]
  simp only [List.count_append, hcomma]
  omega

/-- The semicolon at the end of a predicate is put back behind the scan clause. -/
theorem count_addScanClause (a : Adapter) (predicate : List Char) :
    (a.addScanClause predicate).count ';' =
      predicate.count ';' + a.scanClause.toList.count ';' := by
  have hblank : Unicode.isBlank ';' = false := by decide
  have hspace : ' ' ≠ ';' := by decide
  have hbody := Unicode.count_trimEnd hblank predicate
  rw [addScanClause]
  split
  · rename_i rest hrest
    have hend : [';'].count ';' = 1 := rfl
    rw [← List.count_reverse, hrest, List.count_cons_self] at hbody
    simp only [List.count_append, List.count_cons_of_ne hspace, Unicode.count_trimEnd hblank,
      List.count_reverse, hend]
    omega
  · rw [List.count_append, List.count_cons_of_ne hspace, hbody]

/-- The semicolons that come with what is put into a statement. -/
def addedSemicolons (a : Adapter) (q : Query) (source : Source) : Nat :=
  source.physicalName.toList.count ';' +
    (if a.injects q.projection then a.keyColumn.toList.count ';' else 0) +
    if q.hasWhere then a.scanClause.toList.count ';' else 0

/-- An adapted text has the semicolons of the statement and of what is put into it. -/
theorem count_adapt (h : a.adapt statement q source = .ok text) :
    text.toList.count ';' = statement.toList.count ';' + a.addedSemicolons q source := by
  obtain ⟨clause, head, predicate, qualified, keyed, -, hsplit, hqualified, hkeyed, rfl⟩ :=
    adapt_eq_ok_iff.1 h
  have hstatement := count_split hsplit
  have hhead := count_qualify hqualified
  rw [Unicode.count_upperChars (by decide)] at hhead
  have hkey : keyed.count ';' = qualified.count ';' +
      if a.injects q.projection then a.keyColumn.toList.count ';' else 0 := by
    by_cases hinjects : a.injects q.projection = true
    · simp only [hinjects, if_true] at hkeyed ⊢
      exact count_inject hkeyed
    · simp only [hinjects] at hkeyed ⊢
      cases hkeyed
      rfl
  have htail : (a.tail q.hasWhere predicate).count ';' = predicate.count ';' +
      if q.hasWhere then a.scanClause.toList.count ';' else 0 := by
    cases hwhere : q.hasWhere with
    | true => exact a.count_addScanClause predicate
    | false =>
      rw [hwhere] at hsplit
      cases hsplit
      rfl
  rw [String.toList_ofList, List.count_append, hkey, htail, addedSemicolons]
  omega

/-- A key column and a scan clause without semicolons add none. -/
theorem addedSemicolons_eq (hkey : ';' ∉ a.keyColumn.toList) (hscan : ';' ∉ a.scanClause.toList)
    (q : Query) (source : Source) :
    a.addedSemicolons q source = source.physicalName.toList.count ';' := by
  simp [addedSemicolons, List.count_eq_zero_of_not_mem hkey, List.count_eq_zero_of_not_mem hscan]

end Adapter

end MatView
