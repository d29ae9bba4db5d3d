import Mathlib.Logic.Function.Basic
import MatView.Decoding.Reading
import MatView.Proofs.Decoding.Nulls

/-!
# Offsets of two widths

Texts, byte strings and lists can be sent with offsets of two widths. The generic reading does not
tell the widths of texts and byte strings apart, at any depth of lists, maps and structures. Lists
with wide offsets have no reading of their own: they are read as their text. The two columns are
read alike until the first such list is come to.

## Main definitions

* `ColumnType.Widening`: a column type with some of its offsets made wide.
* `Widening.content`: the content of a cell in the wider column.
* `Widening.Reaches`: a list with wide offsets is come to when a cell is read.
* `Widening.KeepsLists`: only offsets of texts and byte strings are made wide.
* `Follows`: the result in the wider column against the one that it should equal.

## Main statements

* `Widening.cellValue_follows`: a cell is read alike in both columns, unless such a list is come to.
* `ResultRow.readAny_widened_iff`: the same for the columns of a row.
-/

namespace MatView

/-! ## Results that should be equal -/

/-- An operation gives a result. -/
def Reads {α : Type} (result : Except Error α) : Prop :=
  ∃ a, result = .ok a

/-- The result `wide` is the result `narrow`, unless something was come to in between: then it is
another one. -/
structure Follows {α : Type} (reached : Prop) (narrow wide : Except Error α) : Prop where
  same : ¬ reached → wide = narrow
  differs : reached → ∀ a, narrow = .ok a → wide ≠ .ok a

namespace Follows

variable {α β : Type} {p q : Prop} {narrow wide : Except Error α}

theorem refl (result : Except Error α) : Follows False result result :=
  ⟨fun _ => rfl, False.elim⟩

theorem congr (h : Follows p narrow wide) (hpq : q ↔ p) : Follows q narrow wide :=
  ⟨fun hq => h.same (mt hpq.2 hq), fun hq => h.differs (hpq.1 hq)⟩

/-- Two steps in a row: something was come to in the first, or in the second one if the first gave a
result. The result of the second step shows the one of the first. -/
theorem bind {next next' : α → Except Error β} (h : Follows p narrow wide)
    (hnext : ∀ a, Follows q (next a) (next' a))
    (hshows : ∀ a a' b, next a = .ok b → next' a' = .ok b → a = a') :
    Follows (p ∨ Reads narrow ∧ q) (narrow >>= next) (wide >>= next') where
  same hnot := by
    rw [not_or] at hnot
    rw [h.same hnot.1]
    cases narrow with
    | error fault => rfl
    | ok a => exact (hnext a).same fun hq => hnot.2 ⟨⟨a, rfl⟩, hq⟩
  differs hreached b hb hwide := by
    obtain ⟨a, rfl, hb⟩ := Error.bind_eq_ok.1 hb
    obtain ⟨a', rfl, hb'⟩ := Error.bind_eq_ok.1 hwide
    obtain rfl := hshows a a' b hb hb'
    obtain hp | ⟨-, hq⟩ := hreached
    · exact h.differs hp a rfl rfl
    · exact (hnext a).differs hq b hb hb'

theorem map {f : α → β} (hf : Function.Injective f) (h : Follows p narrow wide) :
    Follows p (narrow.map f) (wide.map f) where
  same hp := by rw [h.same hp]
  differs hp b hb hwide := by
    obtain ⟨a, rfl, rfl⟩ := Cell.map_eq_ok.1 hb
    obtain ⟨a', rfl, ha⟩ := Cell.map_eq_ok.1 hwide
    exact h.differs hp a rfl (by rw [hf ha])

theorem pure {f : α → β} (hf : Function.Injective f) (h : Follows p narrow wide) :
    Follows p (do let a ← narrow; return f a) (do let a ← wide; return f a) := by
  have hmap := h.map hf
  cases narrow <;> cases wide <;> exact hmap

/-- Equality of the two results, when something may have been come to: then both fail, in the same
way. -/
theorem eq_iff (h : Follows p narrow wide) :
    wide = narrow ↔ (p → ∃ fault, narrow = .error fault ∧ wide = .error fault) := by
  constructor
  · rintro rfl hp
    cases hresult : wide with
    | error fault => exact ⟨fault, rfl, rfl⟩
    | ok a => exact absurd hresult (h.differs hp a hresult)
  · intro hfail
    by_cases hp : p
    · obtain ⟨fault, hnarrow, hwide⟩ := hfail hp
      rw [hnarrow, hwide]
    · exact h.same hp

end Follows

/-- Something is come to in a list, where the items in front of it are read. -/
def Meets {A : Type} (reads meets : A → Prop) : List A → Prop
  | [] => False
  | a :: rest => meets a ∨ reads a ∧ Meets reads meets rest

theorem not_meets {A : Type} {reads meets : A → Prop} (h : ∀ a, ¬ meets a) (items : List A) :
    ¬ Meets reads meets items := by
  induction items with
  | nil => exact False.elim
  | cons a rest ih => simp [Meets, h a, ih]

/-- The first item of a list that is read shows. -/
theorem head_eq {α : Type} {rest rest' : Except Error (List α)} {a a' : α} {out : List α}
    (h : (do let tail ← rest; return a :: tail) = .ok out)
    (h' : (do let tail ← rest'; return a' :: tail) = .ok out) : a = a' := by
  obtain ⟨tail, -, htail⟩ := Error.bind_eq_ok.1 h
  obtain ⟨tail', -, htail'⟩ := Error.bind_eq_ok.1 h'
  cases htail
  cases htail'
  rfl

theorem convertItems_follows {A B : Type} {f : A → Except Error Value} {g : B → Except Error Value}
    {h : A → B} {meets : A → Prop} (hfg : ∀ a, Follows (meets a) (f a) (g (h a)))
    (items : List A) : Follows (Meets (fun a => Reads (f a)) meets items) (convertItems f items)
      (convertItems g (items.map h)) := by
  induction items with
  | nil => exact .refl _
  | cons a rest ih =>
    exact (hfg a).bind (fun v => ih.pure List.cons_injective) fun _ _ _ => head_eq

theorem convertEntries_follows {K K' V V' : Type} {readKey : K → Except Error Value}
    (readKey' : K' → Except Error Value) (widenKey : K → K') {readValue : V → Except Error Value}
    {readValue' : V' → Except Error Value} {widenValue : V → V'} {meetsKey : K → Prop}
    {meetsValue : V → Prop}
    (hkey : ∀ k, Follows (meetsKey k) (readKey k) (readKey' (widenKey k)))
    (hvalue : ∀ v, Follows (meetsValue v) (readValue v) (readValue' (widenValue v)))
    (entries : List (K × V)) :
    Follows (Meets (fun e => Reads (readKey e.1) ∧ Reads (readValue e.2))
        (fun e => meetsKey e.1 ∨ Reads (readKey e.1) ∧ meetsValue e.2) entries)
      (convertEntries readKey readValue entries)
      (convertEntries readKey' readValue'
        (entries.map fun e => (widenKey e.1, widenValue e.2))) := by
  induction entries with
  | nil => exact .refl _
  | cons e rest ih =>
    obtain ⟨key, value⟩ := e
    have hrest : ∀ k v : Value, Function.Injective (List.cons (k, v)) := fun _ _ =>
      List.cons_injective
    refine Follows.congr ((hkey key).bind (fun k => (hvalue value).bind
      (fun v => ih.pure (hrest k v)) fun v v' out h h' => ?_) fun k k' out h h' => ?_)
      (by simp only [Meets]; tauto)
    · exact (Prod.mk.inj (head_eq h h')).2
    · obtain ⟨v, -, h⟩ := Error.bind_eq_ok.1 h
      obtain ⟨v', -, h'⟩ := Error.bind_eq_ok.1 h'
      exact (Prod.mk.inj (head_eq h h')).1

/-! ## Wider types -/

namespace ColumnType

/-- Whether the cells of a type hold no other cells. -/
def isScalar : ColumnType → Bool
  | list _ | largeList _ | map _ _ | struct _ => false
  | _ => true

mutual

/-- Some of the offsets of a type are made wide, at any depth. -/
inductive Widening : ColumnType → ColumnType → Type
  | scalar {type : ColumnType} (h : type.isScalar = true) : Widening type type
  | utf8 : Widening .utf8 .largeUtf8
  | binary : Widening .binary .largeBinary
  | list {item wide : ColumnType} (w : Widening item wide) : Widening (.list item) (.list wide)
  | largeList {item wide : ColumnType} (w : Widening item wide) :
    Widening (.list item) (.largeList wide)
  | map {key wideKey value wideValue : ColumnType} (k : Widening key wideKey)
    (v : Widening value wideValue) : Widening (.map key value) (.map wideKey wideValue)
  | struct {fields wide : List (String × ColumnType)} (ws : FieldsWidening fields wide) :
    Widening (.struct fields) (.struct wide)

/-- Some of the offsets in the fields of a structure are made wide. -/
inductive FieldsWidening : List (String × ColumnType) → List (String × ColumnType) → Type
  | nil : FieldsWidening [] []
  | cons {name : String} {type wide : ColumnType} {rest wideRest : List (String × ColumnType)}
    (w : Widening type wide) (ws : FieldsWidening rest wideRest) :
    FieldsWidening ((name, type) :: rest) ((name, wide) :: wideRest)

end

mutual

/-- The content of a cell in the wider column. -/
def Widening.content : {type wide : ColumnType} → Widening type wide → type.Content → wide.Content
  | _, _, .scalar _, c => c
  | _, _, .utf8, s => s
  | _, _, .binary, bs => bs
  | _, _, .list w, cells => List.map (Option.map w.content) cells
  | _, _, .largeList w, cells => List.map (Option.map w.content) cells
  | _, _, .map k v, entries => List.map (fun e => (k.content e.1, e.2.map v.content)) entries
  | _, _, .struct ws, contents => ws.contents contents

/-- The contents of the fields of a structure in the wider column. -/
def FieldsWidening.contents : {fields wide : List (String × ColumnType)} →
    FieldsWidening fields wide → FieldContents fields → FieldContents wide
  | _, _, .nil, contents => contents
  | _, _, .cons w ws, (c, contents) => (c.map w.content, ws.contents contents)

end

mutual

/-- A list whose offsets were made wide is come to when a cell is read from its start. -/
def Widening.Reaches : {type wide : ColumnType} → Widening type wide → type.Content → Prop
  | _, _, .scalar _, _ => False
  | _, _, .utf8, _ => False
  | _, _, .binary, _ => False
  | .list item, _, .list w, cells =>
    Meets (fun cell => Reads (item.cellValue cell)) (fun cell => ∃ c ∈ cell, w.Reaches c) cells
  | _, _, .largeList _, _ => True
  | .map key value, _, .map k v, entries =>
    Meets (fun e => Reads (key.cellValue (some e.1)) ∧ Reads (value.cellValue e.2))
      (fun e => k.Reaches e.1 ∨
        Reads (key.cellValue (some e.1)) ∧ ∃ c ∈ e.2, v.Reaches c) entries
  | _, _, .struct ws, contents => ws.Reaches contents

/-- Such a list is come to in the fields of a structure. -/
def FieldsWidening.Reaches : {fields wide : List (String × ColumnType)} →
    FieldsWidening fields wide → FieldContents fields → Prop
  | _, _, .nil, _ => False
  | (_, type) :: _, _, .cons w ws, (cell, contents) =>
    (∃ c ∈ cell, w.Reaches c) ∨ Reads (type.cellValue cell) ∧ ws.Reaches contents

end

mutual

/-- No offsets of lists are made wide. -/
def Widening.KeepsLists : {type wide : ColumnType} → Widening type wide → Prop
  | _, _, .scalar _ => True
  | _, _, .utf8 => True
  | _, _, .binary => True
  | _, _, .list w => w.KeepsLists
  | _, _, .largeList _ => False
  | _, _, .map k v => k.KeepsLists ∧ v.KeepsLists
  | _, _, .struct ws => ws.KeepsLists

/-- No offsets of lists are made wide in the fields of a structure. -/
def FieldsWidening.KeepsLists : {fields wide : List (String × ColumnType)} →
    FieldsWidening fields wide → Prop
  | _, _, .nil => True
  | _, _, .cons w ws => w.KeepsLists ∧ ws.KeepsLists

end

/-! ## Reading the wider column -/

theorem follows_of_content {type wide : ColumnType} {w : Widening type wide}
    (h : ∀ c, Follows (w.Reaches c) (type.cellValue (some c)) (wide.cellValue (some (w.content c))))
    (cell : Option type.Content) : Follows (∃ c ∈ cell, w.Reaches c) (type.cellValue cell)
      (wide.cellValue (cell.map w.content)) := by
  cases cell with
  | none =>
    refine Follows.congr ?_ (q := ∃ c ∈ none, w.Reaches c) (p := False) (by simp)
    simp only [Option.map_none, cellValue]
    exact .refl _
  | some c => simpa using h c

mutual

/-- A cell is read alike in both columns, unless a list whose offsets were made wide is come to. -/
theorem Widening.cellValue_follows : {type wide : ColumnType} → (w : Widening type wide) →
    (c : type.Content) → Follows (w.Reaches c) (type.cellValue (some c))
      (wide.cellValue (some (w.content c)))
  | _, _, .scalar _, c => by
    simp only [Widening.Reaches, Widening.content]
    exact .refl _
  | _, _, .utf8, s => by
    simp only [Widening.Reaches, Widening.content, cellValue]
    exact .refl _
  | _, _, .binary, bs => by
    simp only [Widening.Reaches, Widening.content, cellValue]
    exact .refl _
  | .list item, _, .list w, cells => by
    simp only [Widening.Reaches, Widening.content, cellValue]
    exact (convertItems_follows (follows_of_content w.cellValue_follows) cells).map
      fun _ _ => Value.list.inj
  | .list item, .largeList wide, .largeList w, cells => by
    simp only [Widening.Reaches, Widening.content, cellValue]
    -- A text is no list, whatever the items are.
    refine ⟨fun h => absurd trivial h, fun _ v hv htext => ?_⟩
    obtain ⟨values, -, rfl⟩ := Cell.map_eq_ok.1 hv
    unfold textValue at htext
    split at htext <;> cases htext
  | .map key value, .map wideKey _, .map k v, entries => by
    simp only [Widening.Reaches, Widening.content, cellValue]
    exact (convertEntries_follows (fun c => wideKey.cellValue (some c)) k.content
      k.cellValue_follows (follows_of_content v.cellValue_follows) entries).map
        fun _ _ => Value.map.inj
  | .struct fields, _, .struct ws, contents => by
    simp only [Widening.Reaches, Widening.content, cellValue]
    exact (ws.fieldValues_follows contents).map fun _ _ => Value.map.inj

theorem FieldsWidening.fieldValues_follows : {fields wide : List (String × ColumnType)} →
    (ws : FieldsWidening fields wide) → (contents : FieldContents fields) →
      Follows (ws.Reaches contents) (fieldValues fields contents)
        (fieldValues wide (ws.contents contents))
  | _, _, .nil, contents => by
    simp only [FieldsWidening.Reaches, FieldsWidening.contents]
    exact .refl _
  | (name, type) :: rest, _, .cons w ws, (cell, contents) => by
    simp only [FieldsWidening.Reaches, FieldsWidening.contents, fieldValues]
    exact (follows_of_content w.cellValue_follows cell).bind
      (fun v => (ws.fieldValues_follows contents).pure List.cons_injective)
      fun _ _ _ h h' => (Prod.mk.inj (head_eq h h')).2

end

mutual

/-- No list with wide offsets is come to where no offsets of lists are made wide. -/
theorem Widening.KeepsLists.not_reaches : {type wide : ColumnType} → {w : Widening type wide} →
    w.KeepsLists → (c : type.Content) → ¬ w.Reaches c
  | _, _, .scalar _, _, _ => by simp [Widening.Reaches]
  | _, _, .utf8, _, _ => by simp [Widening.Reaches]
  | _, _, .binary, _, _ => by simp [Widening.Reaches]
  | _, _, .list w, h, cells => by
    simp only [Widening.KeepsLists] at h
    simp only [Widening.Reaches]
    refine not_meets (fun cell => ?_) cells
    rintro ⟨c, -, hc⟩
    exact Widening.KeepsLists.not_reaches h c hc
  | _, _, .largeList _, h, _ => by simp [Widening.KeepsLists] at h
  | _, _, .map k v, h, entries => by
    simp only [Widening.KeepsLists] at h
    simp only [Widening.Reaches]
    refine not_meets (fun e => ?_) entries
    rintro (hkey | ⟨-, c, -, hc⟩)
    · exact Widening.KeepsLists.not_reaches h.1 e.1 hkey
    · exact Widening.KeepsLists.not_reaches h.2 c hc
  | _, _, .struct ws, h, contents => by
    simp only [Widening.KeepsLists] at h
    simp only [Widening.Reaches]
    exact FieldsWidening.KeepsLists.not_reaches h contents

theorem FieldsWidening.KeepsLists.not_reaches : {fields wide : List (String × ColumnType)} →
    {ws : FieldsWidening fields wide} → ws.KeepsLists → (contents : FieldContents fields) →
      ¬ ws.Reaches contents
  | _, _, .nil, _, _ => by simp [FieldsWidening.Reaches]
  | _, _, .cons w ws, h, (cell, contents) => by
    simp only [FieldsWidening.KeepsLists] at h
    simp only [FieldsWidening.Reaches]
    rintro (⟨c, -, hc⟩ | ⟨-, hrest⟩)
    · exact Widening.KeepsLists.not_reaches h.1 c hc
    · exact FieldsWidening.KeepsLists.not_reaches h.2 contents hrest

end

end ColumnType

/-! ## Rows -/

/-- A cell of a column, and of the same column with some of its offsets made wide. -/
structure WidenedCell where
  name : String
  type : ColumnType
  wide : ColumnType
  widening : type.Widening wide
  content : Option type.Content

namespace WidenedCell

/-- The cell in the column as it was. -/
def narrowed (p : WidenedCell) : Cell :=
  ⟨p.name, p.type, p.content⟩

/-- The cell in the wider column. -/
def widened (p : WidenedCell) : Cell :=
  ⟨p.name, p.wide, p.content.map p.widening.content⟩

/-- A list whose offsets were made wide is come to when the cell is read. -/
def Reaches (p : WidenedCell) : Prop :=
  ∃ c ∈ p.content, p.widening.Reaches c

theorem value_follows (p : WidenedCell) : Follows p.Reaches p.narrowed.value p.widened.value :=
  ColumnType.follows_of_content p.widening.cellValue_follows p.content

theorem not_reaches {p : WidenedCell} (h : p.widening.KeepsLists) : ¬ p.Reaches := by
  rintro ⟨c, -, hc⟩
  exact h.not_reaches c hc

/-- A row of the columns as they were. -/
def narrowRow (ps : List WidenedCell) : ResultRow :=
  ⟨ps.map narrowed⟩

/-- The row of the wider columns. -/
def wideRow (ps : List WidenedCell) : ResultRow :=
  ⟨ps.map widened⟩

/-- A list whose offsets were made wide is come to when a column is read. -/
def ReachesIn (ps : List WidenedCell) (column : String) : Prop :=
  ∃ p, ps.find? (fun p => Text.sameName p.name column) = some p ∧ p.Reaches

end WidenedCell

namespace ResultRow

open WidenedCell

variable {ps : List WidenedCell} {column : String}

theorem readAny_follows (ps : List WidenedCell) (column : String) :
    Follows (ReachesIn ps column) ((narrowRow ps).readAny column)
      ((wideRow ps).readAny column) := by
  have hnarrow : ((fun c : Cell => Text.sameName c.name column) ∘ narrowed) =
      fun p => Text.sameName p.name column := rfl
  have hwide : ((fun c : Cell => Text.sameName c.name column) ∘ widened) =
      fun p => Text.sameName p.name column := rfl
  simp only [readAny, find, narrowRow, wideRow, List.find?_map, hnarrow, hwide, ReachesIn]
  cases ps.find? fun p => Text.sameName p.name column with
  | none => exact (Follows.refl _).congr (by simp)
  | some p => exact p.value_follows.congr (by simp)

/-- A column is read alike whatever the widths of the offsets of its texts and byte strings are. If
those of lists are made wide too, then it is read alike if and only if no such list is come to, or
the reading fails alike anyway. An array that could be read is another value then. -/
theorem readAny_widened_iff (ps : List WidenedCell) (column : String) :
    ((∀ p ∈ ps, p.widening.KeepsLists) →
      (wideRow ps).readAny column = (narrowRow ps).readAny column) ∧
    ((wideRow ps).readAny column = (narrowRow ps).readAny column ↔
      (ReachesIn ps column → ∃ fault, (narrowRow ps).readAny column = .error fault ∧
        (wideRow ps).readAny column = .error fault)) ∧
    ∀ precision v, (narrowRow ps).readAs column .array precision = .ok v →
      ((wideRow ps).readAs column .array precision = .ok v ↔ ¬ ReachesIn ps column) := by
  have hfollows := readAny_follows ps column
  refine ⟨fun h => hfollows.same ?_, hfollows.eq_iff, fun precision v hv => ?_⟩
  · rintro ⟨p, hp, hreaches⟩
    exact not_reaches (h p (List.mem_of_find?_eq_some hp)) hreaches
  · constructor
    · intro hwide hreached
      exact hfollows.differs hreached v hv hwide
    · intro hnot
      exact (hfollows.same hnot).trans hv

/-- A list of texts, in a column of lists of texts with wide offsets. -/
def tags : WidenedCell where
  name := "tags"
  type := .list .utf8
  wide := .list .largeUtf8
  widening := .list .utf8
  content := some [some "a", none]

/-- A list of texts with wide offsets is read as the same list. -/
theorem tags_read_alike : tags.widening.KeepsLists ∧
    (narrowRow [tags]).readAny "TAGS" = .ok (.list [.string "a", .null]) ∧
    (wideRow [tags]).readAny "TAGS" = .ok (.list [.string "a", .null]) ∧
    (wideRow [tags]).readAs "TAGS" .array .narrow = .ok (.list [.string "a", .null]) := by
  have hkeeps : tags.widening.KeepsLists := by
    simp [tags, ColumnType.Widening.KeepsLists]
  obtain ⟨halike, -, harray⟩ := readAny_widened_iff [tags] "TAGS"
  have hread : (narrowRow [tags]).readAny "TAGS" = .ok (.list [.string "a", .null]) := rfl
  have hnot : ¬ ReachesIn [tags] "TAGS" := by
    rintro ⟨p, hp, hreaches⟩
    obtain rfl := List.mem_singleton.1 (List.mem_of_find?_eq_some hp)
    exact not_reaches hkeeps hreaches
  exact ⟨hkeeps, hread, (halike (by simpa using hkeeps)).trans hread,
    (harray .narrow _ hread).2 hnot⟩

/-- A list of integers, in a column of lists with wide offsets. -/
def numbers : WidenedCell where
  name := "c"
  type := .list .int32
  wide := .largeList .int32
  widening := .largeList (.scalar rfl)
  content := some [some (1 : Int32), some (2 : Int32)]

/-- An array in a column of lists with wide offsets is read as a text. -/
theorem wide_list_read_as_text :
    (narrowRow [numbers]).readAs "c" .array .narrow = .ok (.list [.int 1, .int 2]) ∧
    (wideRow [numbers]).readAs "c" .array .narrow = .ok (.string "[1, 2]") ∧
    (Except.ok (.string "[1, 2]") : Except Error Value) ≠ .ok (.list [.int 1, .int 2]) :=
  ⟨rfl, rfl, by simp⟩

end ResultRow

end MatView
