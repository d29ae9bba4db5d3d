import MatView.Proofs.Query.Adapted

/-!
# Cuts between characters

Texts are cut at offsets that count bytes. A cut inside a character, or behind the end of the text,
has no answer. Here the adapter and the store run once more with checked cuts: each offset at which
a text is cut, replaced or added to is looked at first, and the run stops at a bad one. No run
stops, and the answers are those without checks. The reason is the same each time: a keyword, the
blanks behind it and the name behind these end between two characters, whatever the script is and
whether the text is a statement, a head in upper case or a head with its table.

## Main definitions

* `Text.isBoundary`: whether a text can be cut at an offset, by the byte that stands there.
* `Text.take?`, `Text.drop?`, `Text.Span.slice?`: cuts that are checked.
* `Checked`: the result of a run that stops at a bad cut.
* `Adapter.adapt?`, `Store.tableOf?`: the runs with checked cuts.

## Main statements

* `Text.isBoundary_iff`: a text can be cut between its characters and nowhere else.
* `Text.boundaries_of_keywordOffset`, `Text.boundaries_of_fromSpan`: where the searches lead to.
* `Adapter.run_adapt?`, `Store.run_tableOf?`: no run stops at a cut.
-/

namespace MatView

namespace Utf8

/-- The first byte of a character continues none, and all others do. -/
theorem utf8EncodeChar_eq_cons (c : Char) : ∃ b bs, String.utf8EncodeChar c = b :: bs ∧
    isContinuation b = false ∧ ∀ d ∈ bs, isContinuation d = true := by
  have hfirst (n : Nat) (h : n < 0x80 ∨ 0xC0 ≤ n) (hlt : n < 0x100) :
      isContinuation (UInt8.ofNat n) = false := by
    simp only [isContinuation, Bool.and_eq_false_iff, decide_eq_false_iff_not,
      UInt8.le_iff_toNat_le, UInt8.toNat_ofNat', UInt8.reduceToNat]
    omega
  have hrest (ns : List Nat) : ∀ d ∈ ns.map fun n => UInt8.ofNat (n % 64 + 128),
      isContinuation d = true := by
    intro d hd
    obtain ⟨n, -, rfl⟩ := List.mem_map.1 hd
    simp only [isContinuation, Bool.and_eq_true, decide_eq_true_eq, UInt8.le_iff_toNat_le,
      UInt8.toNat_ofNat', UInt8.reduceToNat]
    omega
  unfold String.utf8EncodeChar
  simp only
  split
  · exact ⟨_, _, rfl, hfirst _ (by omega) (by omega), nofun⟩
  · split
    · exact ⟨_, _, rfl, hfirst _ (by omega) (by omega), hrest [_]⟩
    · split
      · exact ⟨_, _, rfl, hfirst _ (by omega) (by omega), hrest [_, _]⟩
      · exact ⟨_, _, rfl, hfirst _ (by omega) (by omega), hrest [_, _, _]⟩

end Utf8

namespace Text

/-- Whether a text can be cut at an offset: the byte there continues no character, or the offset is
the end of the text. -/
def isBoundary (cs : List Char) (n : Nat) : Bool :=
  match (Utf8.bytes cs)[n]? with
  | some b => !Utf8.isContinuation b
  | none => n == (Utf8.bytes cs).length

/-- The part of a text in front of an offset, if the text can be cut there. -/
def take? (n : Nat) (cs : List Char) : Option (List Char) :=
  if isBoundary cs n then some (takeBytes n cs) else none

/-- The part of a text from an offset on, if the text can be cut there. -/
def drop? (n : Nat) (cs : List Char) : Option (List Char) :=
  if isBoundary cs n then some (dropBytes n cs) else none

/-- The characters of a stretch, if the text can be cut at both its ends. -/
def Span.slice? (s : Span) (cs : List Char) : Option (List Char) :=
  if isBoundary cs s.start && isBoundary cs s.stop then some (s.slice cs) else none

/-- `behindKeyword` with a checked cut: the blanks are counted in what is cut off behind the
keyword. -/
def behindKeyword? (text : List Char) (keyword : String) (offset : Nat) : Option Nat :=
  let after := offset + (Utf8.ofString keyword).length
  (drop? after text).map fun rest => after + leadingBlanks rest

/-- `fromSpan` with checked cuts: the name is measured in what is cut off behind the blanks. -/
def fromSpan? (text : List Char) : Option (Option Span) :=
  match keywordOffset text "FROM" with
  | none => some none
  | some offset => do
    let start ← behindKeyword? text "FROM" offset
    let rest ← drop? start text
    return some ⟨start, identifierLength (Utf8.bytes rest)⟩

end Text

open Text

/-- The result of a run that stops, with neither an answer nor an error, where a text cannot be
cut. -/
abbrev Checked : Type → Type :=
  ExceptT Error Option

/-! ## Runs with checked cuts -/

namespace Adapter

/-- `split` with checked cuts. -/
def split? (statement : List Char) (hasWhere : Bool) : Checked (List Char × List Char) :=
  if hasWhere then
    match keywordOffset statement "WHERE" with
    | some offset => do
      let head ← take? offset statement
      let predicate ← drop? offset statement
      return (head, predicate)
    | none => throw (.unsupportedQuery .predicateNotInText)
  else return (statement, [])

/-- `qualify` with checked cuts: the name is cut out of the head, compared and replaced. -/
def qualify? (head : List Char) (source physicalName : String) : Checked (List Char) := do
  match ← fromSpan? head with
  | none => throw (.unsupportedQuery (.sourceNotInText source))
  | some span =>
    let token ← span.slice? head
    if token.isEmpty || token != Unicode.upperChars source.toList then
      throw (.unsupportedQuery (.sourceNotInText source))
    else
      let front ← take? span.start head
      let behind ← drop? span.stop head
      return front ++ token ++ '.' :: physicalName.toList ++ behind

/-- `inject` with checked cuts. -/
def inject? (a : Adapter) (head : List Char) : Checked (List Char) :=
  match keywordOffset head "SELECT" with
  | none => throw (.unsupportedQuery .selectNotInText)
  | some offset => do
    let place ← behindKeyword? head "SELECT" offset
    let front ← take? place head
    let behind ← drop? place head
    return front ++ a.keyColumn.toList ++ [',', ' '] ++ behind

/-- `adapt` with checked cuts. -/
def adapt? (a : Adapter) (statement : String) (query : Query) (source : Source) :
    Checked String := do
  let clause ← query.source
  let (head, predicate) ← split? statement.toList query.hasWhere
  let head ← qualify? (Unicode.upperChars head) clause.source source.physicalName
  let head ← if a.injects query.projection then a.inject? head else pure head
  return String.ofList (head ++ if query.hasWhere then a.addScanClause predicate else [])

end Adapter

/-- `tableOf` with checked cuts. -/
def Store.tableOf? (query : String) : Checked String := do
  match ← fromSpan? query.toList with
  | none => throw (.store (.noTarget query))
  | some span =>
    let table := lastPart (← span.slice? query.toList)
    if table.isEmpty then throw (.store (.noTarget query))
    else return keyOf (String.ofList table)

/-! ## Boundaries -/

namespace Text

variable {text : List Char} {keyword : String} {n : Nat} {s : Span}

theorem isBoundary_zero (cs : List Char) : isBoundary cs 0 = true := by
  cases cs with
  | nil => rfl
  | cons c cs =>
    obtain ⟨b, bs, hbytes, hfirst, -⟩ := Utf8.utf8EncodeChar_eq_cons c
    simp [isBoundary, hbytes, hfirst]

/-- Behind its first character, a text can be cut where the rest can. -/
theorem isBoundary_cons_add (c : Char) (cs : List Char) (n : Nat) :
    isBoundary (c :: cs) (c.utf8Size + n) = isBoundary cs n := by
  have hsize : (String.utf8EncodeChar c).length = c.utf8Size := String.length_utf8EncodeChar c
  have hget : (Utf8.bytes (c :: cs))[c.utf8Size + n]? = (Utf8.bytes cs)[n]? := by
    rw [Utf8.bytes_cons, List.getElem?_append_right (by omega)]
    congr 1
    omega
  rw [isBoundary, isBoundary, hget, Utf8.length_bytes_cons]
  split
  · rfl
  · rw [Bool.eq_iff_iff, beq_iff_eq, beq_iff_eq, Nat.add_left_cancel_iff]

/-- A text cannot be cut inside its first character. -/
theorem isBoundary_cons_of_lt {c : Char} (cs : List Char) (hpos : 0 < n) (hlt : n < c.utf8Size) :
    isBoundary (c :: cs) n = false := by
  obtain ⟨b, bs, hbytes, -, hrest⟩ := Utf8.utf8EncodeChar_eq_cons c
  have hsize := String.length_utf8EncodeChar c
  obtain ⟨m, rfl⟩ := Nat.exists_eq_add_of_lt hpos
  rw [hbytes, List.length_cons] at hsize
  have hm : m < bs.length := by omega
  have hget : (Utf8.bytes (c :: cs))[0 + m + 1]? = some bs[m] := by
    simp [hbytes, List.getElem?_append_left hm, hm]
  rw [isBoundary, hget]
  simp [hrest _ (List.getElem_mem hm)]

/-- A text can be cut between its characters and nowhere else. -/
theorem isBoundary_iff {cs : List Char} : isBoundary cs n = true ↔
    ∃ front back, cs = front ++ back ∧ n = (Utf8.bytes front).length := by
  induction cs generalizing n with
  | nil =>
    have hzero : isBoundary [] n = true ↔ n = 0 := by simp [isBoundary]
    rw [hzero]
    constructor
    · rintro rfl
      exact ⟨[], [], rfl, rfl⟩
    · rintro ⟨front, back, htext, rfl⟩
      rw [(List.append_eq_nil_iff.1 htext.symm).1]
      rfl
  | cons c cs ih =>
    constructor
    · intro h
      obtain rfl | hpos := Nat.eq_zero_or_pos n
      · exact ⟨[], c :: cs, rfl, rfl⟩
      · obtain hlt | hle := Nat.lt_or_ge n c.utf8Size
        · rw [isBoundary_cons_of_lt cs hpos hlt] at h
          cases h
        · obtain ⟨m, rfl⟩ := Nat.exists_eq_add_of_le hle
          rw [isBoundary_cons_add] at h
          obtain ⟨front, back, rfl, rfl⟩ := ih.1 h
          exact ⟨c :: front, back, rfl, (Utf8.length_bytes_cons c front).symm⟩
    · rintro ⟨front, back, htext, rfl⟩
      cases front with
      | nil => exact isBoundary_zero _
      | cons d front =>
        obtain ⟨rfl, rfl⟩ := List.cons.inj htext
        rw [Utf8.length_bytes_cons, isBoundary_cons_add]
        exact ih.2 ⟨front, back, rfl, rfl⟩

example : isBoundary "aé".toList 1 = true ∧ isBoundary "aé".toList 2 = false ∧
    isBoundary "aé".toList 3 = true ∧ isBoundary "aé".toList 4 = false := by
  decide

theorem isBoundary_append (front back : List Char) :
    isBoundary (front ++ back) (Utf8.bytes front).length = true :=
  isBoundary_iff.2 ⟨front, back, rfl, rfl⟩

theorem take?_eq (h : isBoundary text n = true) : take? n text = some (takeBytes n text) :=
  if_pos h

theorem drop?_eq (h : isBoundary text n = true) : drop? n text = some (dropBytes n text) :=
  if_pos h

/-- A keyword, and what comes behind it and its blanks, starts between two characters. -/
theorem boundaries_of_keywordOffset (hk : IsKeyword keyword)
    (h : keywordOffset text keyword = some n) :
    isBoundary text n = true ∧ behindKeyword? text keyword n = some (behindKeyword text keyword n) ∧
      isBoundary text (behindKeyword text keyword n) = true := by
  obtain ⟨front, back, rfl, hfirst, rfl⟩ := exists_first hk h
  refine ⟨isBoundary_append front back, ?_, ?_⟩
  · have hafter : (Utf8.bytes front).length + (Utf8.ofString keyword).length =
        (Utf8.bytes (front ++ wordOf keyword back)).length := by
      rw [Utf8.ofString, length_bytes_of_plain hk.plain, Utf8.bytes_append, List.length_append,
        hfirst.starts.length_bytes_wordOf hk]
    have hboundary := isBoundary_append (front ++ wordOf keyword back)
      (blanksBehind keyword back ++ restBehind keyword back)
    rw [← hafter, ← List.append_assoc, ← append_eq_parts] at hboundary
    rw [behindKeyword?, drop?_eq hboundary]
    rfl
  · rw [behindKeyword_eq hk hfirst.starts]
    have hboundary := isBoundary_append (front ++ wordOf keyword back ++ blanksBehind keyword back)
      (restBehind keyword back)
    rwa [← append_eq_parts] at hboundary

/-- The name behind the first `FROM` is found with checked cuts. -/
theorem fromSpan?_eq (text : List Char) : fromSpan? text = some (fromSpan text) := by
  unfold fromSpan? fromSpan
  cases h : keywordOffset text "FROM" with
  | none => rfl
  | some offset =>
    obtain ⟨-, hplace, hboundary⟩ := boundaries_of_keywordOffset isKeyword_from h
    simp [hplace, drop?_eq hboundary]

/-- The name behind the first `FROM` lies between two places where the text can be cut. -/
theorem boundaries_of_fromSpan (h : fromSpan text = some s) :
    isBoundary text s.start = true ∧ isBoundary text s.stop = true := by
  obtain ⟨offset, hoffset, -⟩ := Option.map_eq_some_iff.1 h
  obtain ⟨front, back, rfl, hfirst, -⟩ := exists_first isKeyword_from hoffset
  rw [fromSpan_eq hfirst, Option.some.injEq] at h
  subst h
  have htext := append_eq_parts "FROM" front back
  constructor
  · rw [htext]
    exact isBoundary_append _ _
  · rw [restBehind_eq, ← List.append_assoc] at htext
    rw [htext, Span.stop, ← List.length_append, ← Utf8.bytes_append]
    exact isBoundary_append _ _

theorem slice?_of_fromSpan (h : fromSpan text = some s) : s.slice? text = some (s.slice text) := by
  obtain ⟨hstart, hstop⟩ := boundaries_of_fromSpan h
  rw [Span.slice?, hstart, hstop]
  rfl

end Text

/-! ## The runs -/

namespace Checked

variable {α β : Type}

/-- A good cut does not stop a run. -/
theorem cut_bind {x : Option α} {r : α} (hx : x = some r) (f : α → Checked β) :
    ((x : Checked α) >>= f) = f r := by
  subst hx
  rfl

/-- A run with checked cuts goes on as the run without checks does, if its steps do. -/
theorem run_bind {x : Checked α} {y : Except Error α} {f : α → Checked β} {g : α → Except Error β}
    (hx : x.run = some y) (hf : ∀ r, (f r).run = some (g r)) : (x >>= f).run = some (y >>= g) := by
  rw [ExceptT.run_bind, hx]
  cases y with
  | error e => rfl
  | ok r => exact hf r

end Checked

namespace Adapter

theorem run_split? (statement : List Char) (hasWhere : Bool) :
    (split? statement hasWhere).run = some (split statement hasWhere) := by
  cases hasWhere with
  | false => rfl
  | true =>
    simp only [split?, split, if_true]
    cases h : keywordOffset statement "WHERE" with
    | none => rfl
    | some offset =>
      obtain ⟨hcut, -⟩ := boundaries_of_keywordOffset isKeyword_where h
      simp only [Checked.cut_bind (take?_eq hcut), Checked.cut_bind (drop?_eq hcut)]
      rfl

theorem run_qualify? (head : List Char) (source physicalName : String) :
    (qualify? head source physicalName).run = some (qualify head source physicalName) := by
  rw [qualify?, qualify, Checked.cut_bind (fromSpan?_eq head)]
  cases h : fromSpan head with
  | none => rfl
  | some span =>
    obtain ⟨hstart, hstop⟩ := boundaries_of_fromSpan h
    simp only [Checked.cut_bind (slice?_of_fromSpan h), Checked.cut_bind (take?_eq hstart),
      Checked.cut_bind (drop?_eq hstop)]
    split <;> rfl

theorem run_inject? (a : Adapter) (head : List Char) :
    (a.inject? head).run = some (a.inject head) := by
  unfold inject? inject
  cases h : keywordOffset head "SELECT" with
  | none => rfl
  | some offset =>
    obtain ⟨-, hplace, hcut⟩ := boundaries_of_keywordOffset isKeyword_select h
    simp only [Checked.cut_bind hplace, Checked.cut_bind (take?_eq hcut),
      Checked.cut_bind (drop?_eq hcut)]
    rfl

/-- Adapting a statement never stops at a cut. -/
theorem run_adapt? (a : Adapter) (statement : String) (q : Query) (source : Source) :
    (a.adapt? statement q source).run = some (a.adapt statement q source) := by
  refine Checked.run_bind rfl fun clause => Checked.run_bind (run_split? _ _) fun parts =>
    Checked.run_bind (run_qualify? _ _ _) fun qualified => ?_
  cases a.injects q.projection with
  | false => rfl
  | true => exact Checked.run_bind (a.run_inject? qualified) fun keyed => rfl

end Adapter

/-- Finding the table of a query never stops at a cut. -/
theorem Store.run_tableOf? (query : String) :
    (tableOf? query).run = some (tableOf query) := by
  rw [tableOf?, tableOf, Checked.cut_bind (fromSpan?_eq _)]
  cases h : fromSpan query.toList with
  | none => rfl
  | some span =>
    simp only [Checked.cut_bind (slice?_of_fromSpan h)]
    split <;> rfl

/-- No cut falls inside a character or behind the end of the text that is cut: with checked cuts,
each statement is adapted, or refused, as it is without, and so is the table of each text found. -/
theorem Adapter.cuts_between_characters (a : Adapter) (statement : String) (q : Query)
    (source : Source) (text : String) :
    (a.adapt? statement q source).run = some (a.adapt statement q source) ∧
      (Store.tableOf? text).run = some (Store.tableOf text) :=
  ⟨run_adapt? a statement q source, Store.run_tableOf? text⟩

end MatView
