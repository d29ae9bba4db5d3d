import MatView.Proofs.Text.Target
import MatView.Proofs.Unicode.Casing
import MatView.Query.Adapter

/-!
# The parts of an adapted text

Each step of adapting a statement cuts a text at the first place of a keyword. The adapted text is
described by these parts: the qualified head, the key column behind its first `SELECT`, and the
predicate.

## Main definitions

* `Adapter.withoutKey`: the adapter that adds no key column.
* `Adapter.qualifiedFrom`: the part from `FROM` on, with the physical table behind its name.

## Main statements

* `Adapter.adapt_eq_ok_iff`: an adapted text is made in these steps.
* `Adapter.qualify_eq`, `Adapter.inject_eq`: what the steps do to the parts of a head.
* `Adapter.adapt_keyed`: the key column is put behind the first `SELECT`, and nothing else changes.
-/

namespace MatView

open Text

namespace Text

variable {keyword : String} {front back : List Char}

/-- A keyword found by the search stands at its first place. -/
theorem exists_first (hk : IsKeyword keyword) {text : List Char} {n : Nat}
    (h : keywordOffset text keyword = some n) : ∃ front back, text = front ++ back ∧
      First keyword front back ∧ n = (Utf8.bytes front).length :=
  (keywordOffset_eq_some_iff hk).1 h

theorem first_of_keywordOffset (hk : IsKeyword keyword) {text : List Char} {n : Nat}
    (h : keywordOffset text keyword = some n) :
    First keyword (takeBytes n text) (dropBytes n text) := by
  obtain ⟨front, back, rfl, hfirst, rfl⟩ := exists_first hk h
  rwa [takeBytes_append, dropBytes_append]

/-- A text has one first place of a keyword. -/
theorem First.unique (hk : IsKeyword keyword) {front' back' : List Char}
    (h : First keyword front back) (h' : First keyword front' back')
    (htext : front ++ back = front' ++ back') : front = front' ∧ back = back' := by
  have hoffset : (Utf8.bytes front).length = (Utf8.bytes front').length := by
    have hsome := h.keywordOffset_eq hk
    rw [htext, h'.keywordOffset_eq hk] at hsome
    exact (Option.some.inj hsome).symm
  have hfront : front = front' := by
    rw [← takeBytes_append front back, hoffset, htext, takeBytes_append]
  subst hfront
  exact ⟨rfl, List.append_cancel_left htext⟩

end Text

namespace Adapter

variable {a : Adapter} {statement text : String} {q : Query} {source : Source}

/-- The adapter that adds no key column. -/
def withoutKey (a : Adapter) : Adapter :=
  { a with injectKeyColumn := false }

/-- A text from `FROM` on, with the physical table behind its name. -/
def qualifiedFrom (back : List Char) (physicalName : String) : List Char :=
  wordOf "FROM" back ++ blanksBehind "FROM" back ++ target back ++ '.' :: physicalName.toList ++
    behindTarget back

/-- What is added to an adapted head. -/
def tail (a : Adapter) (hasWhere : Bool) (predicate : List Char) : List Char :=
  if hasWhere then a.addScanClause predicate else []

/-! ## The steps -/

/-- What a computation returns is decided where its errors are not. -/
theorem eq_ok_of_toOption {α β : Type} {x : Except α β} {b : β} (h : x.toOption = some b) :
    x = .ok b := by
  cases x with
  | error e => cases h
  | ok c => exact congrArg Except.ok (Option.some.inj h)

/-- An adapted text is cut, qualified, keyed and put together again. -/
theorem adapt_eq_ok_iff : a.adapt statement q source = .ok text ↔
    ∃ clause head predicate qualified keyed, q.source = .ok clause ∧
      split statement.toList q.hasWhere = .ok (head, predicate) ∧
      qualify (Unicode.upperChars head) clause.source source.physicalName = .ok qualified ∧
      (if a.injects q.projection then a.inject qualified else .ok qualified) = .ok keyed ∧
      text = String.ofList (keyed ++ a.tail q.hasWhere predicate) := by
  constructor
  · intro h
    obtain ⟨clause, hclause, h⟩ := Error.bind_eq_ok.1 h
    obtain ⟨⟨head, predicate⟩, hsplit, h⟩ := Error.bind_eq_ok.1 h
    obtain ⟨qualified, hqualified, h⟩ := Error.bind_eq_ok.1 h
    refine ⟨clause, head, predicate, qualified, ?_⟩
    by_cases hinjects : a.injects q.projection
    · simp only [hinjects, if_true] at h ⊢
      obtain ⟨keyed, hkeyed, h⟩ := Error.bind_eq_ok.1 h
      cases h
      exact ⟨keyed, hclause, hsplit, hqualified, hkeyed, rfl⟩
    · simp only [hinjects] at h ⊢
      cases h
      exact ⟨qualified, hclause, hsplit, hqualified, rfl, rfl⟩
  · rintro ⟨clause, head, predicate, qualified, keyed, hclause, hsplit, hqualified, hkeyed, rfl⟩
    refine Error.bind_eq_ok.2 ⟨clause, hclause, Error.bind_eq_ok.2 ⟨(head, predicate), hsplit,
      Error.bind_eq_ok.2 ⟨qualified, hqualified, ?_⟩⟩⟩
    by_cases hinjects : a.injects q.projection
    · simp only [hinjects, if_true] at hkeyed ⊢
      exact Error.bind_eq_ok.2 ⟨keyed, hkeyed, rfl⟩
    · simp only [hinjects] at hkeyed ⊢
      cases hkeyed
      rfl

/-- A statement is cut at its first `WHERE`, if at all. -/
theorem split_eq {chars head predicate : List Char} {hasWhere : Bool}
    (h : split chars hasWhere = .ok (head, predicate)) : chars = head ++ predicate ∧
      if hasWhere then First "WHERE" head predicate else predicate = [] := by
  unfold split at h
  cases hasWhere with
  | false =>
    cases h
    simp
  | true =>
    simp only [if_true] at h ⊢
    split at h
    · rename_i offset hoffset
      obtain ⟨front, back, rfl, hfirst, rfl⟩ := exists_first isKeyword_where hoffset
      rw [takeBytes_append, dropBytes_append] at h
      cases h
      exact ⟨rfl, hfirst⟩
    · cases h

/-- A qualified head has the physical table behind the name that follows its first `FROM`, and this
name is the source in upper case. -/
theorem qualify_eq {head qualified : List Char} {name physicalName : String}
    (h : qualify head name physicalName = .ok qualified) :
    ∃ front back, head = front ++ back ∧ First "FROM" front back ∧ target back ≠ [] ∧
      target back = Unicode.upperChars name.toList ∧
      qualified = front ++ qualifiedFrom back physicalName := by
  unfold qualify at h
  split at h
  · cases h
  · rename_i span hspan
    obtain ⟨offset, hoffset, -⟩ := Option.map_eq_some_iff.1 hspan
    obtain ⟨front, back, rfl, hfirst, -⟩ := exists_first isKeyword_from hoffset
    rw [fromSpan_eq hfirst, Option.some.injEq] at hspan
    subst hspan
    rw [slice_fromSpan] at h
    dsimp only at h
    split at h
    · cases h
    · rename_i htoken
      simp only [Bool.or_eq_true, List.isEmpty_iff, bne_iff_ne, not_or, ne_eq,
        Decidable.not_not] at htoken
      refine ⟨front, back, rfl, hfirst, htoken.1, htoken.2, ?_⟩
      have htext : front ++ back = (front ++ wordOf "FROM" back ++ blanksBehind "FROM" back ++
          target back) ++ behindTarget back := by
        rw [append_eq_parts "FROM" front back, restBehind_eq]
        simp only [List.append_assoc]
      have hstop := dropBytes_append (front ++ wordOf "FROM" back ++ blanksBehind "FROM" back ++
        target back) (behindTarget back)
      rw [← htext, Utf8.bytes_append, List.length_append] at hstop
      rw [Span.stop, hstop, append_eq_parts "FROM" front back, takeBytes_append] at h
      cases h
      simp only [qualifiedFrom, List.append_assoc, List.cons_append]

/-- The key column is put behind the first `SELECT` of a head. -/
theorem inject_of_first {front back : List Char} (h : First "SELECT" front back) :
    a.inject (front ++ back) = .ok (front ++ wordOf "SELECT" back ++ blanksBehind "SELECT" back ++
      a.keyColumn.toList ++ [',', ' '] ++ restBehind "SELECT" back) := by
  rw [inject, h.keywordOffset_eq isKeyword_select]
  dsimp only
  rw [behindKeyword_eq isKeyword_select h.starts, append_eq_parts "SELECT" front back,
    takeBytes_append, dropBytes_append]

/-- A keyed head has the key column behind its first `SELECT`. -/
theorem inject_eq {head keyed : List Char} (h : a.inject head = .ok keyed) :
    ∃ front back, head = front ++ back ∧ First "SELECT" front back ∧
      keyed = front ++ wordOf "SELECT" back ++ blanksBehind "SELECT" back ++
        a.keyColumn.toList ++ [',', ' '] ++ restBehind "SELECT" back := by
  cases hoffset : keywordOffset head "SELECT" with
  | none =>
    rw [inject, hoffset] at h
    cases h
  | some offset =>
    obtain ⟨front, back, rfl, hfirst, -⟩ := exists_first isKeyword_select hoffset
    rw [inject_of_first hfirst] at h
    cases h
    exact ⟨front, back, rfl, hfirst, rfl⟩

/-! ## The key column -/

@[simp] theorem injects_withoutKey (projection : Projection) :
    a.withoutKey.injects projection = false := by
  cases projection <;> rfl

@[simp] theorem tail_withoutKey (hasWhere : Bool) (predicate : List Char) :
    a.withoutKey.tail hasWhere predicate = a.tail hasWhere predicate := rfl

/-- Without the key column, the adapted text is the qualified head and its tail. -/
theorem adapt_withoutKey {clause : FromClause} {head predicate qualified : List Char}
    (hclause : q.source = .ok clause)
    (hsplit : split statement.toList q.hasWhere = .ok (head, predicate))
    (hqualified :
      qualify (Unicode.upperChars head) clause.source source.physicalName = .ok qualified) :
    a.withoutKey.adapt statement q source =
      .ok (String.ofList (qualified ++ a.tail q.hasWhere predicate)) :=
  adapt_eq_ok_iff.2 ⟨clause, head, predicate, qualified, qualified, hclause, hsplit, hqualified,
    by simp, rfl⟩

/-- What is put in front of a select list. -/
def keyPrefix (a : Adapter) (projection : Projection) : List Char :=
  if a.injects projection then a.keyColumn.toList ++ [',', ' '] else []

/-- Adapting a statement puts the key column in front of its select list if the projection does not
name it. Nothing else depends on the key column. -/
theorem adapt_keyed (h : a.adapt statement q source = .ok text) :
    ∃ front back, a.withoutKey.adapt statement q source = .ok (String.ofList (front ++ back)) ∧
      text = String.ofList (front ++ a.keyPrefix q.projection ++ back) ∧
      (a.injects q.projection = true → ∃ before selected, First "SELECT" before selected ∧
        front = before ++ wordOf "SELECT" selected ++ blanksBehind "SELECT" selected) := by
  obtain ⟨clause, head, predicate, qualified, keyed, hclause, hsplit, hqualified, hkeyed, rfl⟩ :=
    adapt_eq_ok_iff.1 h
  have hplain := adapt_withoutKey (a := a) hclause hsplit hqualified
  by_cases hinjects : a.injects q.projection = true
  · simp only [hinjects, if_true] at hkeyed
    obtain ⟨before, selected, rfl, hfirst, rfl⟩ := inject_eq hkeyed
    refine ⟨before ++ wordOf "SELECT" selected ++ blanksBehind "SELECT" selected,
      restBehind "SELECT" selected ++ a.tail q.hasWhere predicate, ?_, ?_, ?_⟩
    · rw [hplain, append_eq_parts "SELECT" before selected]
      simp only [List.append_assoc]
    · simp only [keyPrefix, hinjects, if_true, List.append_assoc]
    · exact fun _ => ⟨before, selected, hfirst, rfl⟩
  · simp only [hinjects] at hkeyed
    cases hkeyed
    exact ⟨[], qualified ++ a.tail q.hasWhere predicate, hplain, by simp [keyPrefix, hinjects],
      fun hkey => absurd hkey hinjects⟩

end Adapter

end MatView
