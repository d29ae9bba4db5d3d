import MatView.Proofs.Query.Items
import MatView.Service.Basic

/-!
# On which side of the store a query fails

Serving a query has a part before the store is asked and a part behind it. Every error of the first
part is a precondition error and no error of the second part is one, so an error tells whether the
store was asked.

## Main definitions

* `Error.Among`: a result that fails, if it does, with an error of a class.

## Main statements

* `Query.parse_among`, `Service.prepare_among`: before the store, all errors are preconditions.
* `Store.answer_among`, `Service.decodeRows_among`: behind it, none is.
-/

namespace MatView

variable {α β : Type}

/-! ## Classes of errors -/

namespace Error

/-- If the result is an error, it belongs to the class. -/
def Among (p : Error → Prop) (result : Except Error α) : Prop :=
  ∀ fault, result = .error fault → p fault

variable {p : Error → Prop}

@[simp] theorem among_ok (a : α) : Among p (.ok a : Except Error α) := by
  intro fault h
  cases h

@[simp] theorem among_pure (a : α) : Among p (pure a : Except Error α) := among_ok a

@[simp] theorem among_error {fault : Error} :
    Among p (.error fault : Except Error α) ↔ p fault := by
  constructor
  · exact fun h => h fault rfl
  · intro h other heq
    cases heq
    exact h

theorem Among.bind {first : Except Error α} {next : α → Except Error β} (hfirst : Among p first)
    (hnext : ∀ a, first = .ok a → Among p (next a)) : Among p (first >>= next) := by
  cases first with
  | error fault => exact among_error.2 (hfirst fault rfl)
  | ok a => exact hnext a rfl

theorem Among.mapM {f : α → Except Error β} {items : List α} (h : ∀ a ∈ items, Among p (f a)) :
    Among p (items.mapM f) := by
  intro fault hfault
  obtain ⟨front, a, back, rfl, -, ha⟩ := mapM_eq_error_iff.1 hfault
  exact h a (List.mem_append_right _ List.mem_cons_self) fault ha

theorem Among.map {result : Except Error α} (f : α → β) (h : Among p result) :
    Among p (result.map f) := by
  cases result with
  | error fault => exact among_error.2 (h fault rfl)
  | ok a => exact among_ok (f a)

/-- The errors that say that a query cannot be served. -/
def Precondition (fault : Error) : Prop := fault.isPrecondition = true

/-- The errors that need an answer of the store. -/
def Late (fault : Error) : Prop := fault.isPrecondition = false

/-- The error is about what is in a cell: it is no precondition error, and no column is missed. -/
def OfCell (fault : Error) : Prop :=
  fault.Late ∧ ∀ column, fault ≠ .store (.missingColumn column)

end Error

open Error

/-! ## Before the store -/

theorem SelectedColumn.ofItems_among (items : List Sql.Item) :
    Among Precondition (SelectedColumn.ofItems items) := by
  induction items with
  | nil => exact among_ok _
  | cons item rest ih =>
    refine Among.bind ?_ fun _ _ => Among.bind ih fun _ _ => among_pure _
    unfold SelectedColumn.ofItem
    split <;> simp [Precondition, isPrecondition]

theorem Projection.ofItems_among (items : List Sql.Item) :
    Among Precondition (Projection.ofItems items) := by
  refine Among.bind (SelectedColumn.ofItems_among items) fun found _ => ?_
  dsimp only
  split_ifs <;> simp [Precondition, isPrecondition]

theorem FromClause.ofTables_among (tables : List Sql.Table) :
    Among Precondition (FromClause.ofTables tables) := by
  unfold FromClause.ofTables
  split
  · exact among_ok _
  · split_ifs
    · simp [Precondition, isPrecondition]
    · split <;> simp [Precondition, isPrecondition]
  · simp [Precondition, isPrecondition]

theorem Query.ofSelect_among (s : Sql.Select) : Among Precondition (Query.ofSelect s) := by
  unfold Query.ofSelect
  dsimp only
  split_ifs
  · exact Among.bind (by simp [Precondition, isPrecondition]) fun _ h => nomatch h
  · exact Among.bind (FromClause.ofTables_among _) fun _ _ =>
      Among.bind (Projection.ofItems_among _) fun _ _ => among_pure _

/-- A text that is no query is refused with a precondition error. -/
theorem Query.parse_among (text : String) : Among Precondition (Query.parse text) := by
  refine Among.bind ?_ fun statement _ => ?_
  · unfold Sql.theStatement
    split <;> simp [Precondition, isPrecondition]
  · unfold Query.ofStatement
    split
    · exact Query.ofSelect_among _
    · simp [Precondition, isPrecondition]
    · simp [Precondition, isPrecondition]

theorem Query.source_among (q : Query) : Among Precondition q.source := by
  unfold Query.source
  split <;> simp [Precondition, isPrecondition]

theorem Catalog.resolve_among (c : Catalog) (name : String) :
    Among Precondition (c.resolve name) := by
  unfold Catalog.resolve
  split
  · simp [Precondition, isPrecondition]
  · split_ifs <;> simp [Precondition, isPrecondition]

theorem Plan.selectedColumns_among (source : Source) (items : List SelectedColumn) :
    Among Precondition (Plan.selectedColumns source items) := by
  rw [Plan.selectedColumns_eq_mapM]
  refine Among.mapM fun item _ => ?_
  unfold Plan.selectedColumn
  split
  · simp [Precondition, isPrecondition]
  · split_ifs <;> simp

theorem Plan.build_among (projection : Projection) (source : Source) :
    Among Precondition (Plan.build projection source) := by
  cases projection with
  | all => exact among_ok _
  | columns items =>
    exact Among.bind (Plan.selectedColumns_among source items) fun _ _ => among_pure _

theorem Adapter.split_among (statement : List Char) (hasWhere : Bool) :
    Among Precondition (Adapter.split statement hasWhere) := by
  unfold Adapter.split
  split_ifs
  · split <;> simp [Precondition, isPrecondition]
  · exact among_ok _

theorem Adapter.qualify_among (head : List Char) (source physicalName : String) :
    Among Precondition (Adapter.qualify head source physicalName) := by
  unfold Adapter.qualify
  split
  · simp [Precondition, isPrecondition]
  · dsimp only
    split_ifs <;> simp [Precondition, isPrecondition]

theorem Adapter.inject_among (a : Adapter) (head : List Char) :
    Among Precondition (a.inject head) := by
  unfold Adapter.inject
  split <;> simp [Precondition, isPrecondition]

theorem Adapter.adapt_among (a : Adapter) (statement : String) (q : Query) (source : Source) :
    Among Precondition (a.adapt statement q source) := by
  refine Among.bind (Query.source_among q) fun clause _ =>
    Among.bind (Adapter.split_among _ _) fun parts _ =>
      Among.bind (Adapter.qualify_among _ _ _) fun head _ => ?_
  by_cases h : a.injects q.projection
  · simp only [h, if_true]
    exact Among.bind (Adapter.inject_among a head) fun _ _ => among_pure _
  · simp only [h]
    exact Among.bind (among_ok _) fun _ _ => among_pure _

/-- What fails before the store is asked fails with a precondition error. -/
theorem Service.prepare_among (v : Service) (c : Catalog) (statement : String) (q : Query) :
    Among Precondition (v.prepare c statement q) :=
  Among.bind (Query.source_among q) fun _ _ => Among.bind (Catalog.resolve_among c _) fun _ _ =>
    Among.bind (Plan.build_among _ _) fun _ _ =>
      Among.bind (Adapter.adapt_among _ _ _ _) fun _ _ => among_pure _

/-! ## Behind the store -/

theorem epochMillis_among (unit : TimeUnit) (value : Int64) :
    Among OfCell (epochMillis unit value) := by
  unfold epochMillis
  split
  · dsimp only
    split_ifs <;> simp [OfCell, Late, isPrecondition]
  all_goals exact among_ok _

theorem convertItems_among {A : Type} {ofItem : A → Except Error Value}
    (h : ∀ a, Among OfCell (ofItem a)) (items : List A) : Among OfCell (convertItems ofItem items) := by
  induction items with
  | nil => exact among_ok _
  | cons a rest ih => exact Among.bind (h a) fun _ _ => Among.bind ih fun _ _ => among_pure _

theorem convertEntries_among {K V : Type} {ofKey : K → Except Error Value}
    {ofValue : V → Except Error Value} (hkey : ∀ k, Among OfCell (ofKey k))
    (hvalue : ∀ v, Among OfCell (ofValue v)) (entries : List (K × V)) :
    Among OfCell (convertEntries ofKey ofValue entries) := by
  induction entries with
  | nil => exact among_ok _
  | cons e rest ih =>
    exact Among.bind (hkey _) fun _ _ => Among.bind (hvalue _) fun _ _ =>
      Among.bind ih fun _ _ => among_pure _

namespace ColumnType

theorem textValue_among (type : ColumnType) (content : Option type.Content) :
    Among OfCell (type.textValue content) := by
  unfold textValue
  split <;> simp [OfCell, Late, isPrecondition]

mutual

theorem cellValue_among : (type : ColumnType) → (content : Option type.Content) →
    Among OfCell (type.cellValue content)
  | type, none => by rw [cellValue]; exact among_ok _
  | .null, some e => nomatch e
  | .timestamp unit _, some value => by
    rw [cellValue]
    exact (epochMillis_among unit value).map _
  | .list item, some cells => by
    rw [cellValue]
    exact (convertItems_among (fun cell => cellValue_among item cell) cells).map _
  | .map keyType valueType, some entries => by
    rw [cellValue]
    exact (convertEntries_among (fun k => cellValue_among keyType (some k))
      (fun v => cellValue_among valueType v) entries).map _
  | .struct fields, some contents => by
    rw [cellValue]
    exact (fieldValues_among fields contents).map _
  | .utf8View, some _ => by rw [cellValue]; exact textValue_among _ _
  | .fixedSizeBinary _, some _ => by rw [cellValue]; exact textValue_among _ _
  | .dictionary, some _ => by rw [cellValue]; exact textValue_among _ _
  | .date64, some _ => by rw [cellValue]; exact textValue_among _ _
  | .largeList _, some _ => by rw [cellValue]; exact textValue_among _ _
  | .boolean, some _ | .int8, some _ | .int16, some _ | .int32, some _ | .int64, some _
  | .uint8, some _ | .uint16, some _ | .uint32, some _ | .uint64, some _
  | .float32, some _ | .float64, some _ | .utf8, some _ | .largeUtf8, some _
  | .binary, some _ | .largeBinary, some _ | .date32, some _ | .decimal _ _, some _ => by
    rw [cellValue]; exact among_ok _

theorem fieldValues_among : (fields : List (String × ColumnType)) →
    (contents : FieldContents fields) → Among OfCell (fieldValues fields contents)
  | [], _ => by rw [fieldValues]; exact among_ok _
  | (name, type) :: rest, (content, contents) => by
    rw [fieldValues]
    exact Among.bind (cellValue_among type content) fun _ _ =>
      Among.bind (fieldValues_among rest contents) fun _ _ => among_pure _

end

end ColumnType

theorem Cell.refuse_among (c : Cell) (column expected : String) :
    Among OfCell (c.refuse column expected : Except Error (Option α)) := by
  unfold Cell.refuse
  split_ifs <;> simp [OfCell, Late, isPrecondition]

theorem ResultRow.find_among (r : ResultRow) (column : String) : Among Late (r.find column) := by
  unfold ResultRow.find
  split <;> simp [Late, isPrecondition]

namespace ResultRow

variable {r : ResultRow} {reading : Reading} {column : String} {c : Cell} {fault : Error}

/-- A column that is not there is missed by every way of reading. -/
theorem readBy_of_find_error (hfind : r.find column = .error fault) :
    r.readBy reading column = .error fault := by
  cases reading <;>
    simp only [readBy, readString, readBool, readInt32, readInt64, readFloat32, readFloat64, readMap,
      readAny, hfind, bind, Except.bind, Except.map]

/-- Reading a cell fails for what is in the cell. -/
theorem readBy_among_of_find (hfind : r.find column = .ok c) :
    Among OfCell (r.readBy reading column) := by
  cases reading <;>
    simp only [readBy, readString, readBool, readInt32, readInt64, readFloat32, readFloat64, readMap,
      readAny, hfind, bind, Except.bind]
  case generic => exact c.type.cellValue_among c.content
  case map =>
    refine Among.map _ ?_
    unfold Cell.readMap
    split
    · exact among_ok _
    · exact (convertEntries_among (fun _ => ColumnType.cellValue_among _ _)
        (fun _ => ColumnType.cellValue_among _ _) _).map _
    · exact Cell.refuse_among _ _ _
  all_goals
    refine Among.map _ ?_
    first
      | unfold Cell.readString | unfold Cell.readBool | unfold Cell.readInt32
      | unfold Cell.readInt64 | unfold Cell.readFloat32 | unfold Cell.readFloat64
    split <;> first | exact among_ok _ | exact Cell.refuse_among _ _ _

/-- A cell that cannot be read as its declared type asks fails behind the store. -/
theorem readBy_among (r : ResultRow) (reading : Reading) (column : String) :
    Among Late (r.readBy reading column) := by
  cases hfind : r.find column with
  | error fault =>
    rw [readBy_of_find_error hfind]
    exact among_error.2 (r.find_among column fault hfind)
  | ok c => exact fun fault hfault => (readBy_among_of_find hfind fault hfault).1

end ResultRow

theorem Decoder.columnValues_among (d : Decoder) (r : ResultRow) (key : Option WindowedKey)
    (columns : List PlanColumn) : Among Late (d.columnValues r key columns) := by
  rw [columnValues_eq_mapM]
  refine Among.mapM fun c _ => ?_
  cases c.source with
  | field column type => exact r.readBy_among _ column
  | windowedKey => exact among_ok _

theorem Decoder.decodePlanned_among (d : Decoder) (r : ResultRow) (plan : Plan) (source : Source) :
    Among Late (d.decodePlanned r plan source) :=
  Among.bind (d.columnValues_among r _ _) fun _ _ => among_pure _

/-- What fails while the rows are decoded fails with no precondition error. Errors of keys do not
come this far. -/
theorem Service.decodeRows_among (v : Service) (p : Prepared) (rows : List ResultRow) :
    Among Late (v.decodeRows p rows) := by
  rw [decodeRows_eq_mapM]
  exact Among.mapM fun r _ => v.decoder.decodePlanned_among r _ _

/-- What the store refuses it refuses with no precondition error. -/
theorem Store.answer_among (s : Store) (query : String) : Among Late (s.answer query) := by
  unfold Store.answer
  split
  · simp [Late, isPrecondition]
  · refine Among.bind ?_ fun _ _ => among_pure _
    unfold Store.tableOf
    split
    · simp [Late, isPrecondition]
    · dsimp only
      split_ifs <;> simp [Late, isPrecondition]

end MatView
