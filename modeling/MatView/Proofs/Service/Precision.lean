import MatView.Proofs.Decoding.Items
import MatView.Proofs.Outcome
import MatView.Service.Basic

/-!
# Answers in two precisions

The configured precision decides how columns that are declared as 64-bit floating-point numbers are
read, and nothing else. The two readings of such numbers accept the same cells, so a query is answered
in both precisions or in none, with rows that differ in the width of these numbers only. Where it is
not answered, the two errors name one column and the type that it has; only the type that was asked
for may be another.

## Main definitions

* `Config.inPrecision`: settings with another precision.
* `Value.InPrecisions`, `Error.InPrecisions`: one number, and one failure, in both precisions.
* `Plan.InPrecisions`: one row in both precisions.

## Main statements

* `ResultRow.readFloats_inPrecisions`: the two readings accept the same cells.
* `Decoder.decodePlanned_inPrecisions`: a row is decoded in both precisions or in none.
* `Service.answer_in_two_precisions`: so is the answer to a query.
-/

namespace MatView

/-! ## One result in both precisions -/

/-- The settings with another precision. -/
def Config.inPrecision (c : Config) (precision : FloatPrecision) : Config :=
  { c with floatPrecision := precision }

/-- The decoder with another precision. -/
def Decoder.inPrecision (d : Decoder) (precision : FloatPrecision) : Decoder :=
  { d with precision }

/-- The value of a floating-point cell in 32 bits and in 64 bits. -/
inductive Value.InPrecisions : Value → Value → Prop
  | null : InPrecisions .null .null
  | single (x : Binary32) : InPrecisions (.float x) (.double x.widen)
  | double (x : Binary64) : InPrecisions (.float x.narrow) (.double x)

/-- A failure in both precisions: the same error, or one column that holds no numbers. -/
inductive Error.InPrecisions : Error → Error → Prop
  | same (fault : Error) : InPrecisions fault fault
  | refused (column actual : String) :
    InPrecisions (.typeMismatch column "Float32" actual) (.typeMismatch column "Float64" actual)

instance : Std.Refl Error.InPrecisions := ⟨.same⟩

/-! ## Columns -/

/-- Whether a type is declared for floating-point numbers of 64 bits. -/
def DataType.isFloat64 : DataType → Bool
  | float64 | double => true
  | _ => false

/-- Whether a planned column is read as floating-point numbers of 64 bits. -/
def Origin.isFloat64 : Origin → Bool
  | field _ type => type.isFloat64
  | windowedKey => false

/-- The values of a planned column in both precisions: other columns have the same value. -/
inductive Origin.InPrecisions (o : Origin) (v w : Value) : Prop
  | float64 (ho : o.isFloat64 = true) (h : v.InPrecisions w)
  | other (ho : o.isFloat64 = false) (h : v = w)

namespace Origin.InPrecisions

variable {o : Origin} {v w : Value}

theorem of_isFloat64 (h : o.InPrecisions v w) (ho : o.isFloat64 = true) : v.InPrecisions w := by
  cases h with
  | float64 _ h => exact h
  | other hother => rw [ho] at hother; cases hother

theorem eq_of_not_isFloat64 (h : o.InPrecisions v w) (ho : o.isFloat64 = false) : v = w := by
  cases h with
  | float64 hfloat => rw [ho] at hfloat; cases hfloat
  | other _ h => exact h

end Origin.InPrecisions

namespace Reading

variable {type : DataType}

theorem ofType_of_isFloat64 (h : type.isFloat64 = true) (precision : FloatPrecision) :
    ofType type precision = ofPrecision precision := by
  cases type <;> first | rfl | cases h

/-- No other type is read by the precision. -/
theorem ofType_of_not_isFloat64 (h : type.isFloat64 = false) (precision other : FloatPrecision) :
    ofType type precision = ofType type other := by
  cases type <;> first | rfl | cases h

end Reading

/-- The two readings of floating-point numbers accept the same cells. -/
theorem Cell.readFloats_inPrecisions (column : String) (c : Cell) :
    RelatedOutcome Error.InPrecisions Value.InPrecisions
      ((c.readFloat32 column).map (Reading.orNull .float))
      ((c.readFloat64 column).map (Reading.orNull .double)) := by
  obtain ⟨name, type, content⟩ := c
  cases type with
  | float32 =>
    cases content with
    | none => exact .done .null
    | some x => exact .done (.single x)
  | float64 =>
    cases content with
    | none => exact .done .null
    | some x => exact .done (.double x)
  | null =>
    cases content with
    | none => exact .failed (.refused column _)
    | some content => cases content
  | _ =>
    cases content with
    | none => exact .done .null
    | some x => exact .failed (.refused column _)

namespace ResultRow

theorem readFloats_inPrecisions (r : ResultRow) (column : String) :
    RelatedOutcome Error.InPrecisions Value.InPrecisions (r.readBy .float32 column)
      (r.readBy .float64 column) := by
  simp only [readBy, readFloat32, readFloat64]
  cases r.find column with
  | error fault => exact .failed (.same fault)
  | ok c => exact c.readFloats_inPrecisions column

/-- A column that is read in both precisions. -/
theorem readAs_inPrecisions (r : ResultRow) (column : String) (type : DataType) :
    RelatedOutcome Error.InPrecisions (Origin.field column type).InPrecisions
      (r.readAs column type .narrow) (r.readAs column type .wide) := by
  cases htype : type.isFloat64 with
  | true =>
    rw [readAs, readAs, Reading.ofType_of_isFloat64 htype, Reading.ofType_of_isFloat64 htype]
    exact (r.readFloats_inPrecisions column).imp fun v w => .float64 htype
  | false =>
    rw [readAs, readAs, Reading.ofType_of_not_isFloat64 htype .narrow .wide]
    exact RelatedOutcome.rfl.imp fun v w => .other htype

end ResultRow

/-! ## Rows -/

/-- Rows of a plan in both precisions: they are equal, but for the values of columns that are read as
floating-point numbers of 64 bits. -/
structure Plan.InPrecisions (p : Plan) (row row' : Row) : Prop where
  length : row.length = p.width
  length' : row'.length = p.width
  float64 : ∀ i c, p.columns[i]? = some c → c.source.isFloat64 = true →
    ∃ v w, row.get? i = some v ∧ row'.get? i = some w ∧ v.InPrecisions w
  other : ∀ i, (∀ c, p.columns[i]? = some c → c.source.isFloat64 = false) →
    row.get? i = row'.get? i

namespace Decoder

variable (d : Decoder) (r : ResultRow) (key : Option WindowedKey)

theorem columnValue_inPrecisions (o : Origin) :
    RelatedOutcome Error.InPrecisions o.InPrecisions ((d.inPrecision .narrow).columnValue r key o)
      ((d.inPrecision .wide).columnValue r key o) := by
  cases o with
  | field column type => exact r.readAs_inPrecisions column type
  | windowedKey => exact .done (.other rfl rfl)

/-- Planned columns are read up to the same one in both precisions. -/
theorem columnValues_inPrecisions (columns : List PlanColumn) :
    RelatedOutcome Error.InPrecisions
      (fun vs ws => vs.length = columns.length ∧ ws.length = columns.length ∧
        ∀ (i : Nat) (c : PlanColumn), columns[i]? = some c →
          ∃ v w, vs[i]? = some v ∧ ws[i]? = some w ∧ c.source.InPrecisions v w)
      ((d.inPrecision .narrow).columnValues r key columns)
      ((d.inPrecision .wide).columnValues r key columns) := by
  induction columns with
  | nil => exact .done (by simp)
  | cons c rest ih =>
    refine (d.columnValue_inPrecisions r key c.source).bind fun v w hvw => ih.bind fun vs ws h => ?_
    obtain ⟨hvs, hws, hrest⟩ := h
    refine .done ⟨by simp [hvs], by simp [hws], fun i found hfound => ?_⟩
    cases i with
    | zero =>
      cases hfound
      exact ⟨v, w, rfl, rfl, hvw⟩
    | succ i => exact hrest i found hfound

/-- A row is decoded in both precisions or in none. -/
theorem decodePlanned_inPrecisions (p : Plan) (source : Source) :
    RelatedOutcome Error.InPrecisions p.InPrecisions
      ((d.inPrecision .narrow).decodePlanned r p source)
      ((d.inPrecision .wide).decodePlanned r p source) := by
  -- The key of the row and the bounds of its window do not depend on the precision.
  refine (d.columnValues_inPrecisions r (d.windowedKey? r p source) p.columns).bind fun vs ws h => ?_
  obtain ⟨hvs, hws, hcolumns⟩ := h
  have hwidth (xs : List Value) (hxs : xs.length = p.columns.length) : (Row.mk (xs ++
      if p.windowed then d.boundValues (d.windowedKey? r p source) else [])).length = p.width := by
    cases hwindowed : p.windowed <;> simp [Row.length, Plan.width, hxs, hwindowed]
  refine .done ⟨hwidth vs hvs, hwidth ws hws, fun i c hc hfloat => ?_, fun i hother => ?_⟩
  · obtain ⟨v, w, hv, hw, hvw⟩ := hcolumns i c hc
    refine ⟨v, w, ?_, ?_, hvw.of_isFloat64 hfloat⟩
    · rw [Row.get?, List.getElem?_append_left (List.getElem?_eq_some_iff.1 hv).1, hv]
    · rw [Row.get?, List.getElem?_append_left (List.getElem?_eq_some_iff.1 hw).1, hw]
  · rw [Row.get?, Row.get?]
    cases hc : p.columns[i]? with
    | some c =>
      obtain ⟨v, w, hv, hw, hvw⟩ := hcolumns i c hc
      rw [List.getElem?_append_left (List.getElem?_eq_some_iff.1 hv).1, hv,
        List.getElem?_append_left (List.getElem?_eq_some_iff.1 hw).1, hw,
        hvw.eq_of_not_isFloat64 (hother c hc)]
    | none =>
      -- Behind the columns stand the bounds of the window.
      have hi : p.columns.length ≤ i := List.getElem?_eq_none_iff.1 hc
      rw [List.getElem?_append_right (hvs ▸ hi), List.getElem?_append_right (hws ▸ hi), hvs, hws]
      rfl

end Decoder

/-! ## Answers -/

namespace Service

variable (v : Service)

/-- The service with another precision. -/
def inPrecision (precision : FloatPrecision) : Service :=
  { v with decoder := v.decoder.inPrecision precision }

/-- A result set is decoded row by row in both precisions or in none. -/
theorem decodeRows_inPrecisions (p : Prepared) (rows : List ResultRow) :
    RelatedOutcome Error.InPrecisions (List.Forall₂ p.plan.InPrecisions)
      ((v.inPrecision .narrow).decodeRows p rows) ((v.inPrecision .wide).decodeRows p rows) := by
  induction rows with
  | nil => exact .done .nil
  | cons r rest ih =>
    exact (v.decoder.decodePlanned_inPrecisions r p.plan p.source).bind fun row row' h =>
      ih.bind fun out out' hout => .done (.cons h hout)

/-- A query leaves the same trace in the store in both precisions. It is answered in both or in none:
with as many rows, that differ in the columns planned as floating-point numbers of 64 bits only, or
with one failure, that names the same column and the same type of that column. -/
theorem answer_in_two_precisions (c : Config) (reader : KeyReader) (catalog : Catalog) (s : Store)
    (statement : String) (q : Query) :
    ((ofConfig (c.inPrecision .narrow) reader).answer catalog s statement q).2 =
        ((ofConfig (c.inPrecision .wide) reader).answer catalog s statement q).2 ∧
      RelatedOutcome Error.InPrecisions
        (fun rows rows' => ∃ p, (ofConfig c reader).prepare catalog statement q = .ok p ∧
          List.Forall₂ p.plan.InPrecisions rows rows')
        ((ofConfig (c.inPrecision .narrow) reader).answer catalog s statement q).1
        ((ofConfig (c.inPrecision .wide) reader).answer catalog s statement q).1 := by
  -- Nothing that is known before the store is asked depends on the precision.
  have hprepare (precision : FloatPrecision) :
      (ofConfig (c.inPrecision precision) reader).prepare catalog statement q =
        (ofConfig c reader).prepare catalog statement q := rfl
  rw [answer, answer, hprepare .narrow, hprepare .wide]
  cases (ofConfig c reader).prepare catalog statement q with
  | error fault => exact ⟨rfl, .failed (.same fault)⟩
  | ok p =>
    refine ⟨rfl, (RelatedOutcome.rfl (x := s.answer p.text)).bind fun rows _ h => ?_⟩
    subst h
    exact ((ofConfig c reader).decodeRows_inPrecisions p rows).imp fun out out' hout =>
      ⟨p, rfl, hout⟩

end Service

end MatView
