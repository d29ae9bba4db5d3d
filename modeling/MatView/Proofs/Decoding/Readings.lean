import MatView.Proofs.Decoding.Nulls

/-!
# Readings of one cell

A cell can be read in eight ways: seven of one type each and the generic one. A reading of one type
refuses the columns of most types, but where it answers it does not contradict the generic reading:
both find the cell null, or they find the same value, in the width that was asked for.

## Main definitions

* `Agrees`: a reading of one type does not contradict the generic reading.
* `FloatsAgree`: the two readings of floating-point numbers and the generic one.
* `Value.Recast`: a value and the value of the same cell in another width.
* `ResultRow.ReadingsAgree`: the readings of one cell agree.

## Main statements

* `Cell.readString_agrees`, …, `Cell.readMap_agrees`: no reading of one type contradicts the generic
  one.
* `Cell.floatsAgree`: the two readings of floating-point numbers refuse the same cells.
* `ResultRow.readBy_recast`: no way of reading gives a cell another value than the generic one.
* `ResultRow.readings_agree`: the readings of every cell agree.
-/

namespace MatView

/-! ## Agreement -/

/-- A reading of one type does not contradict the generic reading: both find a value, and the two
values are related, or both find the cell null, or the reading of one type fails. -/
inductive Agrees {α : Type} (R : α → Value → Prop) :
    Except Error (Option α) → Except Error Value → Prop
  | value {a : α} {v : Value} (h : R a v) : Agrees R (.ok (some a)) (.ok v)
  | null : Agrees R (.ok none) (.ok .null)
  | refused (fault : Error) (generic : Except Error Value) : Agrees R (.error fault) generic

/-- The readings of floating-point numbers and the generic reading: all find the number of the cell,
each in its width, or all find the cell null, or the first two fail. -/
inductive FloatsAgree : Except Error (Option Binary32) → Except Error (Option Binary64) →
    Except Error Value → Prop
  | single (x : Binary32) : FloatsAgree (.ok (some x)) (.ok (some x.widen)) (.ok (.float x))
  | double (x : Binary64) : FloatsAgree (.ok (some x.narrow)) (.ok (some x)) (.ok (.double x))
  | null : FloatsAgree (.ok none) (.ok none) (.ok .null)
  | refused (fault fault' : Error) (generic : Except Error Value) :
    FloatsAgree (.error fault) (.error fault') generic

namespace Value

/-- A value is the integer `n`, in 64 bits or in 32. -/
def IsInteger (n : Int64) (v : Value) : Prop :=
  v = .bigint n ∨ ∃ m : Int32, v = .int m ∧ m.toInt = n.toInt

/-- A value and the value that the generic reading has for the same cell: the same one, or the same
number in another width. -/
inductive Recast : Value → Value → Prop
  | same (v : Value) : Recast v v
  | integer {n : Int64} {v : Value} (h : v.IsInteger n) : Recast (.bigint n) v
  | single (x : Binary64) : Recast (.float x.narrow) (.double x)
  | double (x : Binary32) : Recast (.double x.widen) (.float x)

theorem Recast.of_eq {v w : Value} (h : w = v) : v.Recast w := by
  subst h
  exact .same w

/-- An integer of 32 bits is the same one in 64 bits. -/
theorem isInteger_ofInt {z : Int} (hlo : -2147483648 ≤ z) (hhi : z < 2147483648) :
    IsInteger (.ofInt z) (.int (.ofInt z)) := by
  refine .inr ⟨_, rfl, ?_⟩
  rw [Int32.toInt_ofInt_of_le hlo hhi, Int64.toInt_ofInt_of_le (by omega) (by omega)]

end Value

/-- What a reading of one type and the generic reading answer is the same value up to its width. -/
theorem Agrees.exists_recast {α : Type} {R : α → Value → Prop} {f : α → Value}
    {answer : Except Error (Option α)} {generic : Except Error Value} {v : Value}
    (h : Agrees R answer generic) (hR : ∀ a w, R a w → (f a).Recast w)
    (hanswer : answer.map (Reading.orNull f) = .ok v) : ∃ w, generic = .ok w ∧ v.Recast w := by
  cases h with
  | value h =>
    cases hanswer
    exact ⟨_, rfl, hR _ _ h⟩
  | null =>
    cases hanswer
    exact ⟨.null, rfl, .same .null⟩
  | refused fault => cases hanswer

namespace FloatsAgree

variable {single : Except Error (Option Binary32)} {double : Except Error (Option Binary64)}
  {generic : Except Error Value}

theorem agrees_single (h : FloatsAgree single double generic) :
    Agrees (fun x v => (Value.float x).Recast v) single generic := by
  cases h with
  | single x => exact .value (.same _)
  | double x => exact .value (.single x)
  | null => exact .null
  | refused fault => exact .refused fault _

theorem agrees_double (h : FloatsAgree single double generic) :
    Agrees (fun x v => (Value.double x).Recast v) double generic := by
  cases h with
  | single x => exact .value (.double x)
  | double x => exact .value (.same _)
  | null => exact .null
  | refused _ fault => exact .refused fault _

end FloatsAgree

/-! ## Cells -/

namespace Cell

variable {α : Type} {R : α → Value → Prop} {c : Cell} {column expected name : String}

theorem refuse_ne_some {a : α} : c.refuse column expected ≠ .ok (some a) := by
  unfold refuse
  split <;> simp

/-- A refusal answers nothing for null cells only. -/
theorem refuse_agrees : Agrees R (c.refuse column expected) c.value := by
  cases hanswer : (c.refuse column expected : Except Error (Option α)) with
  | error fault => exact .refused fault _
  | ok answer =>
    cases answer with
    | none =>
      have hnone := (refuse_eq_none_iff.1 hanswer).1
      rw [value_eq_null_iff.2 hnone]
      exact .null
    | some a => exact absurd hanswer refuse_ne_some

/-- A reading that converts the content of a cell. -/
theorem agrees_of_map (type : ColumnType) {content : Option type.Content} {f : type.Content → α}
    (h : ∀ x, ∃ v, type.cellValue (some x) = .ok v ∧ R (f x) v) :
    Agrees R (.ok (content.map f)) (Cell.value ⟨name, type, content⟩) := by
  cases content with
  | none =>
    rw [value_eq_null_iff.2 rfl]
    exact .null
  | some x =>
    obtain ⟨v, hv, hR⟩ := h x
    rw [value, hv]
    exact .value hR

/-- A reading that answers the content of a cell as it is. -/
theorem agrees_of_content (type : ColumnType) {content : Option type.Content}
    {R : type.Content → Value → Prop} (h : ∀ x, ∃ v, type.cellValue (some x) = .ok v ∧ R x v) :
    Agrees R (.ok content) (Cell.value ⟨name, type, content⟩) := by
  simpa using agrees_of_map type (f := id) h

theorem readString_agrees (column : String) (c : Cell) :
    Agrees (fun s v => v = .string s) (c.readString column) c.value := by
  unfold readString
  split
  · exact agrees_of_content .utf8 fun s => ⟨.string s, rfl, rfl⟩
  · exact agrees_of_content .largeUtf8 fun s => ⟨.string s, rfl, rfl⟩
  · exact refuse_agrees

theorem readBool_agrees (column : String) (c : Cell) :
    Agrees (fun b v => v = .boolean b) (c.readBool column) c.value := by
  unfold readBool
  split
  · exact agrees_of_content .boolean fun b => ⟨.boolean b, rfl, rfl⟩
  · exact refuse_agrees

theorem readInt32_agrees (column : String) (c : Cell) :
    Agrees (fun n v => v = .int n) (c.readInt32 column) c.value := by
  unfold readInt32
  split
  · exact agrees_of_map .int8 fun n => ⟨.int (.ofInt n.toInt), rfl, rfl⟩
  · exact agrees_of_map .int16 fun n => ⟨.int (.ofInt n.toInt), rfl, rfl⟩
  · exact agrees_of_content .int32 fun n => ⟨.int n, rfl, rfl⟩
  · exact refuse_agrees

theorem readInt64_agrees (column : String) (c : Cell) :
    Agrees Value.IsInteger (c.readInt64 column) c.value := by
  unfold readInt64
  split
  · refine agrees_of_map .int8 fun (n : Int8) => ⟨.int (.ofInt n.toInt), rfl, ?_⟩
    have hlo := n.le_toInt
    have hhi := n.toInt_lt
    exact Value.isInteger_ofInt (by omega) (by omega)
  · refine agrees_of_map .int16 fun (n : Int16) => ⟨.int (.ofInt n.toInt), rfl, ?_⟩
    have hlo := n.le_toInt
    have hhi := n.toInt_lt
    exact Value.isInteger_ofInt (by omega) (by omega)
  · refine agrees_of_map .int32 fun (n : Int32) => ⟨.int n, rfl, ?_⟩
    have h := Value.isInteger_ofInt n.le_toInt n.toInt_lt
    rwa [Int32.ofInt_toInt] at h
  · exact agrees_of_content .int64 fun n => ⟨.bigint n, rfl, .inl rfl⟩
  · exact refuse_agrees

theorem map_widened {A : Type} {content : Option A} {n : Int32} {f : A → Int32} {g : A → Int64}
    (hfg : ∀ a, g a = (f a).toInt64)
    (h : (.ok (content.map f) : Except Error _) = .ok (some n)) :
    (.ok (content.map g) : Except Error _) = .ok (some n.toInt64) := by
  obtain ⟨a, rfl, rfl⟩ := Option.map_eq_some_iff.1 (Except.ok.inj h)
  rw [Option.map_some, hfg]

/-- What the reading of 32 bits finds, that of 64 bits finds too. -/
theorem readInt64_of_readInt32 {n : Int32} (h : c.readInt32 column = .ok (some n)) :
    c.readInt64 column = .ok (some n.toInt64) := by
  unfold readInt32 at h
  split at h
  · exact map_widened (fun (m : Int8) => by simp) h
  · exact map_widened (fun (m : Int16) => by simp) h
  · cases h
    have hn : Int64.ofInt n.toInt = n.toInt64 := by simp
    exact congrArg (fun m => Except.ok (some m)) hn
  · exact absurd h refuse_ne_some

/-- The generic reading of a map cell fails where the reading of maps does. -/
theorem value_map {key value : ColumnType} {entries : (ColumnType.map key value).Content} :
    Cell.value ⟨name, .map key value, some entries⟩ =
      (ColumnType.entryValues key value entries).map .map := by
  unfold Cell.value ColumnType.cellValue
  rfl

theorem readMap_agrees (column : String) (c : Cell) :
    Agrees (fun entries v => v = .map entries) (c.readMap column) c.value := by
  unfold readMap
  split
  · exact .null
  · rename_i name key value entries
    rw [value_map]
    cases ColumnType.entryValues key value entries with
    | error fault => exact .refused fault _
    | ok entries => exact .value rfl
  · exact refuse_agrees

theorem value_of_readMap_error {key value : ColumnType}
    {entries : (ColumnType.map key value).Content} {fault : Error}
    (h : readMap column ⟨name, .map key value, some entries⟩ = .error fault) :
    Cell.value ⟨name, .map key value, some entries⟩ = .error fault := by
  have hentries : ColumnType.entryValues key value entries = .error fault :=
    map_eq_error.1 h
  rw [value_map, hentries]
  rfl

theorem floatsAgree (column : String) (c : Cell) :
    FloatsAgree (c.readFloat32 column) (c.readFloat64 column) c.value := by
  obtain ⟨name, type, content⟩ := c
  cases type with
  | float32 =>
    cases content with
    | none => exact .null
    | some x => exact .single x
  | float64 =>
    cases content with
    | none => exact .null
    | some x => exact .double x
  | null =>
    cases content with
    | none => exact .refused _ _ _
    | some content => cases content
  | _ =>
    cases content with
    | none => exact .null
    | some x => exact .refused _ _ _

end Cell

/-! ## Rows -/

namespace ResultRow

variable {α : Type} {R : α → Value → Prop} {r : ResultRow} {column : String} {fault : Error}

/-- A way of reading fails for a column. -/
def FailsWith (r : ResultRow) (column : String) (fault : Error) : Reading → Prop
  | .string => r.readString column = .error fault
  | .boolean => r.readBool column = .error fault
  | .int32 => r.readInt32 column = .error fault
  | .int64 => r.readInt64 column = .error fault
  | .float32 => r.readFloat32 column = .error fault
  | .float64 => r.readFloat64 column = .error fault
  | .map => r.readMap column = .error fault
  | .generic => r.readAny column = .error fault

/-- The readings of the cell of a column agree. -/
structure ReadingsAgree (r : ResultRow) (column : String) : Prop where
  /-- All fail alike if there is no such column. -/
  missing : (∀ c ∈ r.cells, ¬ Text.sameName c.name column) →
    ∀ reading, r.FailsWith column (.store (.missingColumn column)) reading
  string : Agrees (fun s v => v = .string s) (r.readString column) (r.readAny column)
  boolean : Agrees (fun b v => v = .boolean b) (r.readBool column) (r.readAny column)
  int32 : Agrees (fun n v => v = .int n) (r.readInt32 column) (r.readAny column)
  int64 : Agrees Value.IsInteger (r.readInt64 column) (r.readAny column)
  /-- What is read in 32 bits is read in 64 bits too. -/
  widened : ∀ n, r.readInt32 column = .ok (some n) → r.readInt64 column = .ok (some n.toInt64)
  floats : FloatsAgree (r.readFloat32 column) (r.readFloat64 column) (r.readAny column)
  map : Agrees (fun entries v => v = .map entries) (r.readMap column) (r.readAny column)
  /-- A map that cannot be read fails alike in the generic reading. -/
  brokenMap : ∀ name key value entries fault,
    r.find column = .ok ⟨name, .map key value, some entries⟩ →
    r.readMap column = .error fault → r.readAny column = .error fault
  /-- Under no declared type has the cell another value than in the generic reading. -/
  declared : ∀ type precision v, r.readAs column type precision = .ok v →
    ∃ w, r.readAny column = .ok w ∧ v.Recast w

theorem find_of_missing (h : ∀ c ∈ r.cells, ¬ Text.sameName c.name column) :
    r.find column = .error (.store (.missingColumn column)) := by
  have hnone : r.cells.find? (fun c => Text.sameName c.name column) = none :=
    List.find?_eq_none.2 h
  rw [find, hnone]

theorem failsWith_of_find (hfind : r.find column = .error fault) (reading : Reading) :
    r.FailsWith column fault reading := by
  cases reading with
  | string => rw [FailsWith, readString, hfind]; rfl
  | boolean => rw [FailsWith, readBool, hfind]; rfl
  | int32 => rw [FailsWith, readInt32, hfind]; rfl
  | int64 => rw [FailsWith, readInt64, hfind]; rfl
  | float32 => rw [FailsWith, readFloat32, hfind]; rfl
  | float64 => rw [FailsWith, readFloat64, hfind]; rfl
  | map => rw [FailsWith, readMap, hfind]; rfl
  | generic => rw [FailsWith, readAny, hfind]; rfl

/-- A reading that agrees with the generic one on every cell agrees with it on every column. -/
theorem agrees_of_cell {read : Cell → Except Error (Option α)} (r : ResultRow) (column : String)
    (h : ∀ c, Agrees R (read c) c.value) : Agrees R (r.find column >>= read) (r.readAny column) := by
  cases hfind : r.find column with
  | error fault => exact .refused fault _
  | ok c =>
    rw [readAny, hfind]
    exact h c

theorem floatsAgree (r : ResultRow) (column : String) :
    FloatsAgree (r.readFloat32 column) (r.readFloat64 column) (r.readAny column) := by
  rw [readFloat32, readFloat64, readAny]
  cases r.find column with
  | error fault => exact .refused fault fault _
  | ok c => exact c.floatsAgree column

theorem readInt64_of_readInt32 {n : Int32} (h : r.readInt32 column = .ok (some n)) :
    r.readInt64 column = .ok (some n.toInt64) := by
  rw [readInt32] at h
  rw [readInt64]
  cases hfind : r.find column with
  | error fault =>
    rw [hfind] at h
    cases h
  | ok c =>
    rw [hfind] at h
    exact Cell.readInt64_of_readInt32 h

theorem readAny_of_readMap_error {name : String} {key value : ColumnType}
    {entries : (ColumnType.map key value).Content}
    (hfind : r.find column = .ok ⟨name, .map key value, some entries⟩)
    (h : r.readMap column = .error fault) : r.readAny column = .error fault := by
  have hcell : Cell.readMap column ⟨name, .map key value, some entries⟩ = .error fault := by
    rw [readMap, hfind] at h
    exact h
  rw [readAny_of_find hfind]
  exact Cell.value_of_readMap_error hcell

/-- No way of reading gives a cell another value than the generic one. -/
theorem readBy_recast {reading : Reading} {v : Value} (h : r.readBy reading column = .ok v) :
    ∃ w, r.readAny column = .ok w ∧ v.Recast w := by
  cases reading with
  | string =>
    exact (r.agrees_of_cell column (Cell.readString_agrees column)).exists_recast
      (fun _ _ => .of_eq) h
  | boolean =>
    exact (r.agrees_of_cell column (Cell.readBool_agrees column)).exists_recast
      (fun _ _ => .of_eq) h
  | int32 =>
    exact (r.agrees_of_cell column (Cell.readInt32_agrees column)).exists_recast
      (fun _ _ => .of_eq) h
  | int64 =>
    exact (r.agrees_of_cell column (Cell.readInt64_agrees column)).exists_recast
      (fun _ _ => .integer) h
  | float32 => exact (r.floatsAgree column).agrees_single.exists_recast (fun _ _ => id) h
  | float64 => exact (r.floatsAgree column).agrees_double.exists_recast (fun _ _ => id) h
  | map =>
    exact (r.agrees_of_cell column (Cell.readMap_agrees column)).exists_recast
      (fun _ _ => .of_eq) h
  | generic => exact ⟨v, h, .same v⟩

/-- Readings of one type and the generic reading never contradict each other. -/
theorem readings_agree (r : ResultRow) (column : String) : r.ReadingsAgree column where
  missing hmissing := failsWith_of_find (find_of_missing hmissing)
  string := r.agrees_of_cell column (Cell.readString_agrees column)
  boolean := r.agrees_of_cell column (Cell.readBool_agrees column)
  int32 := r.agrees_of_cell column (Cell.readInt32_agrees column)
  int64 := r.agrees_of_cell column (Cell.readInt64_agrees column)
  widened _ := readInt64_of_readInt32
  floats := r.floatsAgree column
  map := r.agrees_of_cell column (Cell.readMap_agrees column)
  brokenMap _ _ _ _ _ := readAny_of_readMap_error
  declared _ _ _ := readBy_recast

/-- The number of a cell of 16 bits is the same in 32 bits, in 64 bits and in the generic reading. -/
theorem small_number_read :
    readInt32 ⟨[⟨"col0", .int16, some (-7 : Int16)⟩]⟩ "COL0" = .ok (some (-7)) ∧
    readInt64 ⟨[⟨"col0", .int16, some (-7 : Int16)⟩]⟩ "COL0" = .ok (some (-7)) ∧
    ∃ w, readAny ⟨[⟨"col0", .int16, some (-7 : Int16)⟩]⟩ "COL0" = .ok w ∧
      (Value.bigint (-7)).Recast w := by
  have h := readings_agree ⟨[⟨"col0", .int16, some (-7 : Int16)⟩]⟩ "COL0"
  have hnarrow : readInt32 ⟨[⟨"col0", .int16, some (-7 : Int16)⟩]⟩ "COL0" = .ok (some (-7)) := rfl
  have hwide := h.widened _ hnarrow
  exact ⟨hnarrow, hwide, h.declared .bigint .narrow _ rfl⟩

end ResultRow

end MatView
