import MatView.Proofs.Service.Faults
import MatView.Service.Basic

/-!
# Null cells

A cell without content is null, and every way of reading answers nothing for it, whatever its type
and whatever type is asked for. The cells of a column of type `null` are the exception: they have no
content, but only the generic reading knows that they are null.

## Main definitions

* `ResultRow.AnswersNone`: a way of reading answers nothing for a cell.
* `ResultRow.FailsAt`: the faults of cells that are not null.

## Main statements

* `Cell.value_eq_null_iff`: no cell with a content is read as null.
* `ResultRow.answersNone_iff`: when a way of reading answers nothing.
* `Service.answer_among_failsAt`: a null cell makes no query fail, unless its column has type `null`.
* `Service.null_read_alike`: all ways of reading agree on what is null, if and only if the column
  has another type than `null`.
-/

namespace MatView

open Error

/-! ## Cells -/

namespace Cell

variable {α : Type}

theorem map_eq_ok {β : Type} {f : α → β} {result : Except Error α} {b : β} :
    result.map f = .ok b ↔ ∃ a, result = .ok a ∧ f a = b := by
  cases result <;> simp [Except.map]

theorem map_eq_error {β : Type} {f : α → β} {result : Except Error α} {fault : Error} :
    result.map f = .error fault ↔ result = .error fault := by
  cases result <;> simp [Except.map]

theorem textValue_ne_null (type : ColumnType) (content : Option type.Content) :
    type.textValue content ≠ .ok .null := by
  unfold ColumnType.textValue
  split <;> simp

/-- A cell is read as null if and only if it has no content. -/
theorem value_eq_null_iff {c : Cell} : c.value = .ok .null ↔ c.content = none := by
  obtain ⟨name, type, content⟩ := c
  cases content with
  | none => simp [value, ColumnType.cellValue]
  | some content =>
    simp only [value, reduceCtorEq, iff_false]
    cases type with
    | null => cases content
    | uint64 =>
      simp only [ColumnType.cellValue, unsignedValue]
      split <;> simp
    | utf8View | fixedSizeBinary | dictionary | date64 | largeList =>
      simpa only [ColumnType.cellValue] using textValue_ne_null _ _
    | timestamp | list | map | struct =>
      simp [ColumnType.cellValue, map_eq_ok]
    | _ => simp [ColumnType.cellValue]

/-- A reading of one type answers nothing for the null cells of all types but `null`, and for no
other cell. -/
def SkipsNull (read : String → Cell → Except Error (Option α)) : Prop :=
  ∀ column c, read column c = .ok none ↔ c.content = none ∧ c.type.isNull = false

theorem refuse_eq_none_iff {c : Cell} {column expected : String} :
    (c.refuse column expected : Except Error (Option α)) = .ok none ↔
      c.content = none ∧ c.type.isNull = false := by
  simp [refuse]

/-- An answer that holds something whenever the cell does. -/
theorem ok_eq_none_iff {c : Cell} {answer : Option α} (hanswer : answer = none ↔ c.content = none)
    (htype : c.type.isNull = false) : (.ok answer : Except Error (Option α)) = .ok none ↔
      c.content = none ∧ c.type.isNull = false := by
  simp [hanswer, htype]

theorem readString_skipsNull : SkipsNull readString := by
  intro column c
  unfold readString
  split
  · exact ok_eq_none_iff .rfl rfl
  · exact ok_eq_none_iff .rfl rfl
  · exact refuse_eq_none_iff

theorem readBool_skipsNull : SkipsNull readBool := by
  intro column c
  unfold readBool
  split
  · exact ok_eq_none_iff .rfl rfl
  · exact refuse_eq_none_iff

theorem readInt32_skipsNull : SkipsNull readInt32 := by
  intro column c
  unfold readInt32
  split
  · exact ok_eq_none_iff Option.map_eq_none_iff rfl
  · exact ok_eq_none_iff Option.map_eq_none_iff rfl
  · exact ok_eq_none_iff .rfl rfl
  · exact refuse_eq_none_iff

theorem readInt64_skipsNull : SkipsNull readInt64 := by
  intro column c
  unfold readInt64
  split
  · exact ok_eq_none_iff Option.map_eq_none_iff rfl
  · exact ok_eq_none_iff Option.map_eq_none_iff rfl
  · exact ok_eq_none_iff Option.map_eq_none_iff rfl
  · exact ok_eq_none_iff .rfl rfl
  · exact refuse_eq_none_iff

theorem readFloat32_skipsNull : SkipsNull readFloat32 := by
  intro column c
  unfold readFloat32
  split
  · exact ok_eq_none_iff .rfl rfl
  · exact ok_eq_none_iff Option.map_eq_none_iff rfl
  · exact refuse_eq_none_iff

theorem readFloat64_skipsNull : SkipsNull readFloat64 := by
  intro column c
  unfold readFloat64
  split
  · exact ok_eq_none_iff Option.map_eq_none_iff rfl
  · exact ok_eq_none_iff .rfl rfl
  · exact refuse_eq_none_iff

theorem readMap_skipsNull : SkipsNull readMap := by
  intro column c
  unfold readMap
  split
  · exact ok_eq_none_iff (iff_of_true rfl rfl) rfl
  · simp [map_eq_ok]
  · exact refuse_eq_none_iff

end Cell

/-! ## Rows -/

namespace ResultRow

variable {r : ResultRow} {column : String} {c : Cell} {reading : Reading} {α : Type}

/-- A way of reading answers nothing for the cell of a column. The generic reading then answers
null. -/
def AnswersNone (r : ResultRow) (column : String) : Reading → Prop
  | .string => r.readString column = .ok none
  | .boolean => r.readBool column = .ok none
  | .int32 => r.readInt32 column = .ok none
  | .int64 => r.readInt64 column = .ok none
  | .float32 => r.readFloat32 column = .ok none
  | .float64 => r.readFloat64 column = .ok none
  | .map => r.readMap column = .ok none
  | .generic => r.readAny column = .ok .null

theorem readAny_of_find (hcell : r.find column = .ok c) : r.readAny column = c.value := by
  rw [readAny, hcell]
  rfl

/-- A way of reading answers nothing for cells without content, but only the generic one does so
for those of a column of type `null`. -/
theorem answersNone_iff (hcell : r.find column = .ok c) : r.AnswersNone column reading ↔
    c.content = none ∧ (c.type.isNull = false ∨ reading = .generic) := by
  have htyped : ∀ {α : Type} {read : String → Cell → Except Error (Option α)},
      Cell.SkipsNull read → ((do (read column) (← r.find column)) = .ok none ↔
        c.content = none ∧ c.type.isNull = false) := by
    intro α read hread
    rw [hcell]
    exact hread column c
  cases reading with
  | generic =>
    have hvalue : r.AnswersNone column .generic ↔ c.value = .ok .null := by
      rw [AnswersNone, readAny_of_find hcell]
    simp [hvalue, Cell.value_eq_null_iff]
  | string => exact (htyped Cell.readString_skipsNull).trans (by simp)
  | boolean => exact (htyped Cell.readBool_skipsNull).trans (by simp)
  | int32 => exact (htyped Cell.readInt32_skipsNull).trans (by simp)
  | int64 => exact (htyped Cell.readInt64_skipsNull).trans (by simp)
  | float32 => exact (htyped Cell.readFloat32_skipsNull).trans (by simp)
  | float64 => exact (htyped Cell.readFloat64_skipsNull).trans (by simp)
  | map => exact (htyped Cell.readMap_skipsNull).trans (by simp)

theorem map_orNull_eq_null {f : α → Value} (hf : ∀ a, f a ≠ .null)
    {answer : Except Error (Option α)} :
    answer.map (Reading.orNull f) = .ok .null ↔ answer = .ok none := by
  rcases answer with fault | answer | a
  · simp [Except.map]
  · simp [Except.map, Reading.orNull]
  · simp [Except.map, Reading.orNull, hf a]

/-- A cell is read as null if the reading of the declared type answers nothing. -/
theorem readBy_eq_null_iff :
    r.readBy reading column = .ok .null ↔ r.AnswersNone column reading := by
  cases reading with
  | generic => exact .rfl
  | string => exact map_orNull_eq_null (f := .string) (by simp)
  | boolean => exact map_orNull_eq_null (f := .boolean) (by simp)
  | int32 => exact map_orNull_eq_null (f := .int) (by simp)
  | int64 => exact map_orNull_eq_null (f := .bigint) (by simp)
  | float32 => exact map_orNull_eq_null (f := .float) (by simp)
  | float64 => exact map_orNull_eq_null (f := .double) (by simp)
  | map => exact map_orNull_eq_null (f := .map) (by simp)

/-- The faults of cells that are not null: the cell cannot be read as a planned column asks, and
has a content or a column of type `null`. -/
def FailsAt (r : ResultRow) (p : Plan) (precision : FloatPrecision) (fault : Error) : Prop :=
  ∃ planned ∈ p.columns, ∃ column type, planned.source = .field column type ∧
    r.readAs column type precision = .error fault ∧
    ∀ c, r.find column = .ok c → c.content = none → c.type.isNull = true

end ResultRow

/-! ## Answers -/

theorem Decoder.decodePlanned_among_failsAt (d : Decoder) (r : ResultRow) (p : Plan)
    (source : Source) : Among (r.FailsAt p d.precision) (d.decodePlanned r p source) := by
  refine Among.bind ?_ fun _ _ => among_pure _
  rw [columnValues_eq_mapM]
  refine Among.mapM fun planned hplanned => ?_
  cases hsource : planned.source with
  | windowedKey => exact among_ok _
  | field column type =>
    intro fault hfault
    refine ⟨planned, hplanned, column, type, hsource, hfault, fun c hcell hnone => ?_⟩
    cases htype : c.type.isNull with
    | true => rfl
    | false =>
      have hnull : r.readAs column type d.precision = .ok .null :=
        ResultRow.readBy_eq_null_iff.2
          ((ResultRow.answersNone_iff hcell).2 ⟨hnone, .inl htype⟩)
      have hread : r.readAs column type d.precision = .error fault := hfault
      rw [hnull] at hread
      cases hread

theorem Service.decodeRows_among_failsAt (v : Service) (p : Prepared) (rows : List ResultRow) :
    Among (fun fault => ∃ r ∈ rows, r.FailsAt p.plan v.decoder.precision fault)
      (v.decodeRows p rows) := by
  rw [decodeRows_eq_mapM]
  exact Among.mapM fun r hr fault hfault =>
    ⟨r, hr, v.decoder.decodePlanned_among_failsAt r _ _ fault hfault⟩

/-- Once the store has answered, a query fails only at a cell that is not null. -/
theorem Service.answer_among_failsAt {v : Service} {catalog : Catalog} {s : Store}
    {statement : String} {q : Query} {p : Prepared} {rows : List ResultRow}
    (hprepare : v.prepare catalog statement q = .ok p) (hrows : s.answer p.text = .ok rows) :
    Among (fun fault => ∃ r ∈ rows, r.FailsAt p.plan v.decoder.precision fault)
      (v.answer catalog s statement q).1 := by
  rw [answer_of_prepare hprepare, hrows]
  exact v.decodeRows_among_failsAt p rows

/-- A cell that the generic reading finds null is null for every reading of one type, and for every
declared type, if and only if its column has another type than `null`. What any reading finds null
is null for the generic one. So, once the store has answered, a query fails only at a cell that has
a content or a column of type `null`. -/
theorem Service.null_read_alike {r : ResultRow} {column : String} {c : Cell}
    (hcell : r.find column = .ok c) :
    (r.readAny column = .ok .null →
      ((∀ reading, r.AnswersNone column reading) ↔ c.type.isNull = false) ∧
      ∀ type precision, r.readAs column type precision = .ok .null ↔
        c.type.isNull = false ∨ Reading.ofType type precision = .generic) ∧
    (∀ reading, r.AnswersNone column reading → r.readAny column = .ok .null) ∧
    ∀ (v : Service) (catalog : Catalog) (s : Store) (statement : String) (q : Query) (p : Prepared)
      (rows : List ResultRow), v.prepare catalog statement q = .ok p →
      s.answer p.text = .ok rows →
      Among (fun fault => ∃ r ∈ rows, r.FailsAt p.plan v.decoder.precision fault)
        (v.answer catalog s statement q).1 := by
  refine ⟨fun hnull => ?_, fun reading hreading => ?_, fun v catalog s statement q p rows => ?_⟩
  · have hnone : c.content = none := by
      rwa [ResultRow.readAny_of_find hcell, Cell.value_eq_null_iff] at hnull
    refine ⟨⟨fun hall => ?_, fun htype reading => ?_⟩, fun type precision => ?_⟩
    · have hstring := (ResultRow.answersNone_iff hcell).1 (hall .string)
      simpa using hstring.2
    · exact (ResultRow.answersNone_iff hcell).2 ⟨hnone, .inl htype⟩
    · rw [ResultRow.readAs, ResultRow.readBy_eq_null_iff, ResultRow.answersNone_iff hcell]
      simp [hnone]
  · have hnone := ((ResultRow.answersNone_iff hcell).1 hreading).1
    rwa [ResultRow.readAny_of_find hcell, Cell.value_eq_null_iff]
  · exact answer_among_failsAt

/-- A missing integer is a missing text and a missing map too. -/
theorem Service.null_integer_read :
    ResultRow.find ⟨[⟨"col0", .int64, none⟩]⟩ "COL0" = .ok ⟨"col0", .int64, none⟩ ∧
    ResultRow.readAny ⟨[⟨"col0", .int64, none⟩]⟩ "COL0" = .ok .null ∧
    ResultRow.readString ⟨[⟨"col0", .int64, none⟩]⟩ "COL0" = .ok none ∧
    ResultRow.readMap ⟨[⟨"col0", .int64, none⟩]⟩ "COL0" = .ok none ∧
    ResultRow.readAs ⟨[⟨"col0", .int64, none⟩]⟩ "COL0" .double .narrow = .ok .null := by
  have hcell : ResultRow.find ⟨[⟨"col0", .int64, none⟩]⟩ "COL0" = .ok ⟨"col0", .int64, none⟩ := rfl
  have h := null_read_alike hcell
  have hnull : ResultRow.readAny ⟨[⟨"col0", .int64, none⟩]⟩ "COL0" = .ok .null := h.2.1 .string rfl
  have hall := (h.1 hnull).1.2 rfl
  exact ⟨hcell, hnull, hall .string, hall .map, ((h.1 hnull).2 .double .narrow).2 (.inl rfl)⟩

/-- A column of type `null` is null for the generic reading only. -/
theorem ResultRow.null_column_refused :
    readAny ⟨[⟨"c", .null, none⟩]⟩ "c" = .ok .null ∧
    readString ⟨[⟨"c", .null, none⟩]⟩ "c" = .error (.typeMismatch "c" "Utf8" "Null") ∧
    readAs ⟨[⟨"c", .null, none⟩]⟩ "c" .string .narrow =
      .error (.typeMismatch "c" "Utf8" "Null") :=
  ⟨rfl, rfl, rfl⟩

end MatView
