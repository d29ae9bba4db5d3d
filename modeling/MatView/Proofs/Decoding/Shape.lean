import MatView.Proofs.Decoding.Items
import MatView.Proofs.Service.Routing
import MatView.Proofs.Window.Codec

/-!
# The shape of decoded rows

A plan fixes how many values a row has, and for most columns also of which type they are: the
declared type of a column decides it, and for the key of a windowed source the encoding of the key
does. A value of such a column has that type or is null. Columns that are read generically and keys
that are documents hold values of any type.

## Main definitions

* `ValueType`, `Value.type?`: the types of values.
* `DataType.valueType?`, `KeyEncoding.valueType?`: the type that a column gives its values.
* `Plan.types`, `Row.HasTypes`: the types of the columns of a plan, and the rows that have them.
* `Row.SameTypes`: rows that agree column by column.

## Main statements

* `ResultRow.readBy_fits`: every reading gives values of its own type.
* `KeyEncoding.fits_of_decode`: every encoding gives keys of its own type.
* `Decoder.decodePlanned_hasTypes`: a decoded row has the types of its plan.
* `Service.decoded_as_planned`: decoded rows have the width and the types of their plan.
-/

namespace MatView

/-! ## Types of values -/

/-- The types of the values that are not null. -/
inductive ValueType
  | boolean
  | int
  | bigint
  | float
  | double
  | string
  | bytes
  | map
  | list
  deriving DecidableEq

/-- The type of a value that is not null. -/
def Value.type? : Value → Option ValueType
  | null => none
  | boolean _ => some .boolean
  | int _ => some .int
  | bigint _ => some .bigint
  | float _ => some .float
  | double _ => some .double
  | string _ => some .string
  | bytes _ => some .bytes
  | map _ => some .map
  | list _ => some .list

/-- A value fits a column: it is null, or it has the type of the column if there is one. -/
def Value.Fits (t? : Option ValueType) (v : Value) : Prop :=
  v = .null ∨ ∀ t, t? = some t → v.type? = some t

/-- The type of the values of a declared type, if it has one. Only 64-bit floating-point types depend
on the precision. -/
def DataType.valueType? (precision : FloatPrecision) : DataType → Option ValueType
  | string => some .string
  | boolean => some .boolean
  | int8 | int16 | int32 | integer => some .int
  | int64 | bigint => some .bigint
  | float32 => some .float
  | float64 | double =>
    match precision with
    | .narrow => some .float
    | .wide => some .double
  | map => some .map
  | bytes | timestamp | decimal | array | struct => none

/-- The type of the keys of an encoding, if it has one. A document is of any type. -/
def KeyEncoding.valueType? : KeyEncoding → Option ValueType
  | string => some .string
  | int => some .int
  | bigint => some .bigint
  | json => none

/-- The type of the keys of a windowed source, if they have one. -/
def Source.keyType? (s : Source) : Option ValueType :=
  s.keyFormat.bind (·.encoding.valueType?)

/-! ## Types of columns -/

/-- The type of the values of a planned column, if it has one. -/
def Origin.type? (precision : FloatPrecision) (keyType? : Option ValueType) :
    Origin → Option ValueType
  | field _ type => type.valueType? precision
  | windowedKey => keyType?

/-- The types of the columns of a result. -/
def Plan.types (p : Plan) (precision : FloatPrecision) (keyType? : Option ValueType) :
    List (Option ValueType) :=
  p.columns.map (·.source.type? precision keyType?) ++
    if p.windowed then [some .bigint, some .bigint] else []

/-- A row fits columns of the given types, value by value. -/
def Row.HasTypes (types : List (Option ValueType)) (row : Row) : Prop :=
  List.Forall₂ Value.Fits types row.values

/-- Rows agree column by column: they are equally long, and where a column has a type, two values that
are not null are of one type. -/
def Row.SameTypes (types : List (Option ValueType)) (a b : Row) : Prop :=
  a.length = b.length ∧ ∀ i t v w, types[i]? = some (some t) → a.get? i = some v →
    b.get? i = some w → v = .null ∨ w = .null ∨ v.type? = w.type?

/-- How many columns a projection has. -/
def Projection.count (schema : Schema) : Projection → Nat
  | all => schema.values.length
  | columns items => items.length

/-! ## Values that are read -/

namespace Value

theorem fits_null (t? : Option ValueType) : Fits t? .null :=
  .inl rfl

theorem fits_none (v : Value) : v.Fits none :=
  .inr fun _ h => nomatch h

theorem fits_of_type? {t? : Option ValueType} {v : Value} (h : v.type? = t?) : v.Fits t? :=
  .inr fun _ ht => h.trans ht

end Value

/-- The type of the values of a reading, if it has one. -/
def Reading.type? : Reading → Option ValueType
  | string => some .string
  | boolean => some .boolean
  | int32 => some .int
  | int64 => some .bigint
  | float32 => some .float
  | float64 => some .double
  | map => some .map
  | generic => none

theorem Reading.type?_ofType (type : DataType) (precision : FloatPrecision) :
    (Reading.ofType type precision).type? = type.valueType? precision := by
  cases type <;> cases precision <;> rfl

section

variable {α : Type} {f : α → Value} {t? : Option ValueType} {v : Value}

/-- A value that stands for an optional reading is null or what was read. -/
theorem fits_of_map_orNull {answer : Except Error (Option α)} (hf : ∀ a, (f a).type? = t?)
    (h : answer.map (Reading.orNull f) = .ok v) : v.Fits t? := by
  rcases answer with fault | answer | a
  · cases h
  · cases h
    exact Value.fits_null t?
  · cases h
    exact Value.fits_of_type? (hf a)

end

/-- Every reading gives values of its own type. -/
theorem ResultRow.readBy_fits {r : ResultRow} {reading : Reading} {column : String} {v : Value}
    (h : r.readBy reading column = .ok v) : v.Fits reading.type? := by
  cases reading with
  | string => exact fits_of_map_orNull (f := .string) (fun _ => rfl) h
  | boolean => exact fits_of_map_orNull (f := .boolean) (fun _ => rfl) h
  | int32 => exact fits_of_map_orNull (f := .int) (fun _ => rfl) h
  | int64 => exact fits_of_map_orNull (f := .bigint) (fun _ => rfl) h
  | float32 => exact fits_of_map_orNull (f := .float) (fun _ => rfl) h
  | float64 => exact fits_of_map_orNull (f := .double) (fun _ => rfl) h
  | map => exact fits_of_map_orNull (f := .map) (fun _ => rfl) h
  | generic => exact v.fits_none

/-- Every encoding gives keys of its own type. -/
theorem KeyEncoding.fits_of_decode {e : KeyEncoding} {bs : List UInt8} {v : Value}
    (h : e.decode bs = .ok v) : v.Fits e.valueType? := by
  cases e with
  | string =>
    simp only [decode] at h
    split at h
    · cases h
      exact Value.fits_of_type? rfl
    · cases h
  | int =>
    simp only [decode] at h
    split_ifs at h
    cases h
    exact Value.fits_of_type? rfl
  | bigint =>
    simp only [decode] at h
    split_ifs at h
    cases h
    exact Value.fits_of_type? rfl
  | json => exact v.fits_none

/-! ## Rows -/

/-- A windowed key is read from bytes, in the format of its source. -/
theorem KeyLookup.exists_of_windowedKey {d : KeyLookup} {r : ResultRow} {source : Source}
    {k : WindowedKey} (h : d.windowedKey r source = .ok k) :
    ∃ format raw, source.keyFormat = some format ∧ d.reader format raw = .ok k := by
  unfold windowedKey at h
  cases hformat : source.keyFormat with
  | none =>
    rw [hformat] at h
    cases h
  | some format =>
    rw [hformat] at h
    obtain ⟨raw, -, h⟩ := Error.bind_eq_ok.1 h
    refine ⟨format, raw, rfl, ?_⟩
    cases hread : d.reader format raw with
    | error fault =>
      rw [hread] at h
      cases h
    | ok key =>
      rw [hread] at h
      cases h
      rfl

namespace Decoder

variable {d : Decoder} {r : ResultRow} {plan : Plan} {source : Source} {row : Row}
  {keyType? : Option ValueType}

/-- The keys that are decoded for a source have a type, if there is one. -/
def KeysFit (d : Decoder) (source : Source) (keyType? : Option ValueType) : Prop :=
  ∀ r k, d.keys.windowedKey r source = .ok k → k.key.Fits keyType?

theorem keysFit_none (d : Decoder) (source : Source) : d.KeysFit source none :=
  fun _ k _ => k.key.fits_none

/-- The keys of a windowed source have the type of their encoding. -/
theorem keysFit_keyType? (hreader : d.keys.reader = WindowedKey.decode) :
    d.KeysFit source source.keyType? := by
  intro r k h
  obtain ⟨format, raw, hformat, hread⟩ := KeyLookup.exists_of_windowedKey h
  rw [hreader] at hread
  obtain ⟨inner, hkey, -⟩ := WindowedKey.decode_eq_ok_iff.1 hread
  rw [Source.keyType?, hformat]
  exact KeyEncoding.fits_of_decode hkey

/-- A planned column is read as a value of its type. -/
theorem columnValue_fits (hkeys : d.KeysFit source keyType?) {c : PlanColumn} {v : Value}
    (h : d.columnValue r (d.windowedKey? r plan source) c.source = .ok v) :
    v.Fits (c.source.type? d.precision keyType?) := by
  cases hsource : c.source with
  | field column type =>
    rw [hsource] at h
    rw [Origin.type?, ← Reading.type?_ofType]
    exact ResultRow.readBy_fits h
  | windowedKey =>
    rw [hsource] at h
    cases h
    unfold windowedKey?
    split_ifs with hwindowed
    · cases hkey : d.keys.windowedKey r source with
      | error fault => exact Value.fits_null _
      | ok k => exact hkeys r k hkey
    · exact Value.fits_null _

/-- The bounds of a window are integers. -/
theorem boundValues_fit (d : Decoder) (key : Option WindowedKey) :
    List.Forall₂ Value.Fits [some .bigint, some .bigint] (d.boundValues key) := by
  cases key with
  | none => exact .cons (Value.fits_of_type? rfl) (.cons (Value.fits_of_type? rfl) .nil)
  | some k => exact .cons (Value.fits_of_type? rfl) (.cons (Value.fits_of_type? rfl) .nil)

/-- A decoded row has the types of its plan. -/
theorem decodePlanned_hasTypes (hkeys : d.KeysFit source keyType?)
    (h : d.decodePlanned r plan source = .ok row) :
    row.HasTypes (plan.types d.precision keyType?) := by
  obtain ⟨values, hvalues, rfl⟩ := decodePlanned_eq_ok_iff.1 h
  refine List.rel_append ?_ ?_
  · rw [List.forall₂_map_left_iff]
    exact hvalues.imp fun c v hv => columnValue_fits hkeys hv
  · unfold bounds
    split_ifs
    · exact boundValues_fit d _
    · exact .nil

end Decoder

/-! ## Widths -/

@[simp] theorem Plan.length_types (p : Plan) (precision : FloatPrecision)
    (keyType? : Option ValueType) : (p.types precision keyType?).length = p.width := by
  cases h : p.windowed <;> simp [types, width, h]

/-- A plan has a column for each column of its projection, and two for the bounds of a window. -/
theorem Plan.width_of_build {projection : Projection} {source : Source} {plan : Plan}
    (h : build projection source = .ok plan) :
    plan.width = projection.count source.schema + if source.isWindowed then 2 else 0 := by
  have hcolumns : plan.columns.length = projection.count source.schema := by
    cases projection with
    | all =>
      cases h
      exact List.length_map _
    | columns items => exact (build_columns_eq_ok_iff.1 h).1.length_eq.symm
  rw [width, hcolumns, windowed_of_build h]

/-- Rows with the same types agree column by column. -/
theorem Row.HasTypes.sameTypes {types : List (Option ValueType)} {a b : Row}
    (ha : a.HasTypes types) (hb : b.HasTypes types) : a.SameTypes types b := by
  refine ⟨ha.length_eq.symm.trans hb.length_eq, fun i t v w ht hv hw => ?_⟩
  obtain ⟨v', hv', hvt⟩ := exists_getElem?_of_forall₂ ha ht
  obtain ⟨w', hw', hwt⟩ := exists_getElem?_of_forall₂ hb ht
  rw [get?, hv'] at hv
  rw [get?, hw'] at hw
  cases hv
  cases hw
  rcases hvt with hnull | hvt
  · exact .inl hnull
  rcases hwt with hnull | hwt
  · exact .inr (.inl hnull)
  · exact .inr (.inr ((hvt t rfl).trans (hwt t rfl).symm))

/-! ## Answers -/

namespace Service

variable {v : Service} {p : Prepared} {found : List ResultRow} {rows : List Row} {row : Row}

/-- Every decoded row is the one of a row of the store. -/
theorem exists_of_mem_decodeRows (h : v.decodeRows p found = .ok rows) (hrow : row ∈ rows) :
    ∃ r, v.decoder.decodePlanned r p.plan p.source = .ok row := by
  have hspec := v.decodeRows_spec p found
  rw [h] at hspec
  have hdecoded : found.map (fun r => v.decoder.decodePlanned r p.plan p.source) =
      rows.map .ok := hspec
  have hmem : Except.ok row ∈ found.map fun r => v.decoder.decodePlanned r p.plan p.source := by
    rw [hdecoded]
    exact List.mem_map_of_mem hrow
  obtain ⟨r, -, hr⟩ := List.mem_map.1 hmem
  exact ⟨r, hr⟩

/-- The rows of an answer have the types of its plan. -/
theorem hasTypes_of_mem_answer {catalog : Catalog} {s : Store} {statement : String} {q : Query}
    {keyType? : Option ValueType} (hprepare : v.prepare catalog statement q = .ok p)
    (hanswer : (v.answer catalog s statement q).1 = .ok rows)
    (hkeys : v.decoder.KeysFit p.source keyType?) (hrow : row ∈ rows) :
    row.HasTypes (p.plan.types v.decoder.precision keyType?) := by
  rw [answer_of_prepare hprepare] at hanswer
  obtain ⟨found, -, hrows⟩ := Error.bind_eq_ok.1 hanswer
  obtain ⟨r, hr⟩ := exists_of_mem_decodeRows hrows hrow
  exact Decoder.decodePlanned_hasTypes hkeys hr

/-- Decoded rows have the width of their plan, which is the number of projected columns and two more
for a windowed source, and they have its types: each value is null or of the type that its declared
type and the precision fix, or the encoding of the key if it is one that is read as usual. The bounds
of a window are integers at the end of the row. So the rows of one answer agree column by column. -/
theorem decoded_as_planned (config : Config) (reader : KeyReader) :
    (∀ (r : ResultRow) (projection : Projection) (source : Source) (row : Row),
      (Decoder.ofConfig config reader).decode r projection source = .ok row →
        ∃ plan, Plan.build projection source = .ok plan ∧ row.length = plan.width ∧
          plan.columnNames.length = plan.width ∧
          plan.width = projection.count source.schema + (if source.isWindowed then 2 else 0) ∧
          row.HasTypes (plan.types config.floatPrecision none) ∧
          (reader = WindowedKey.decode →
            row.HasTypes (plan.types config.floatPrecision source.keyType?)) ∧
          (source.isWindowed = true → ∃ start stop,
            row.values.drop plan.columns.length = [.bigint start, .bigint stop])) ∧
    ∀ (catalog : Catalog) (s : Store) (statement : String) (q : Query) (p : Prepared)
      (rows : List Row), (Service.ofConfig config reader).prepare catalog statement q = .ok p →
        ((Service.ofConfig config reader).answer catalog s statement q).1 = .ok rows →
          ∀ a ∈ rows, ∀ b ∈ rows, a.SameTypes (p.plan.types config.floatPrecision none) b ∧
            (reader = WindowedKey.decode →
              a.SameTypes (p.plan.types config.floatPrecision p.source.keyType?) b) := by
  constructor
  · intro r projection source row h
    obtain ⟨plan, hplan, hrow⟩ := Error.bind_eq_ok.1 h
    have htypes := Decoder.decodePlanned_hasTypes (Decoder.keysFit_none _ source) hrow
    have hlength : row.length = plan.width := by
      rw [Row.length, ← List.Forall₂.length_eq htypes, Plan.length_types]
    refine ⟨plan, hplan, hlength, plan.length_columnNames, Plan.width_of_build hplan, htypes,
      fun hreader => Decoder.decodePlanned_hasTypes (Decoder.keysFit_keyType? hreader) hrow,
      fun hwindowed => ?_⟩
    obtain ⟨values, hvalues, rfl⟩ := Decoder.decodePlanned_eq_ok_iff.1 hrow
    rw [List.drop_left' hvalues.length_eq.symm, Decoder.bounds, Plan.windowed_of_build hplan,
      if_pos hwindowed]
    cases (Decoder.ofConfig config reader).windowedKey? r plan source with
    | none => exact ⟨_, _, rfl⟩
    | some k => exact ⟨_, _, rfl⟩
  · intro catalog s statement q p rows hprepare hanswer a ha b hb
    have hrow : ∀ keyType?, (Service.ofConfig config reader).decoder.KeysFit p.source keyType? →
        ∀ row ∈ rows, row.HasTypes (p.plan.types config.floatPrecision keyType?) :=
      fun keyType? hkeys row hmem => hasTypes_of_mem_answer hprepare hanswer hkeys hmem
    constructor
    · have hnone := hrow none (Decoder.keysFit_none _ _)
      exact (hnone a ha).sameTypes (hnone b hb)
    · intro hreader
      have htyped := hrow p.source.keyType? (Decoder.keysFit_keyType? hreader)
      exact (htyped a ha).sameTypes (htyped b hb)

/-- The mean reading of a device, by session. -/
def deviceMeans : Source where
  name := "DEVICEMEANS"
  schema := ⟨some ⟨"DEVICE", .int32⟩, [⟨"MEAN", .double⟩]⟩
  physicalName := "means_v1"
  keyFormat := some ⟨.session, .int⟩

/-- A store with two sessions. The second has no mean, and its key is damaged. -/
def meansStore : Store :=
  .insert .empty "means_v1" ⟨2,
    [⟨"rowkey", .binary, #v[some ([0, 0, 0, 7] ++ int64Bytes 2000 ++ int64Bytes 1000), some []]⟩,
      ⟨"mean", .float64, #v[some ⟨0x3FF8000000000000⟩, none]⟩]⟩

/-- The devices and their means. -/
def meansQuery : Query where
  from? := some ⟨"deviceMeans", none⟩
  projection := .columns [⟨"device", none⟩, ⟨"mean", none⟩]

/-- The values of a session with a key and of one without are of the same types. -/
theorem means_same_types :
    ((ofConfig .default WindowedKey.decode).answer (Catalog.empty.register deviceMeans) meansStore
      "SELECT device, mean FROM deviceMeans" meansQuery).1 = .ok
        [⟨[.int 7, .float ⟨0x3FC00000⟩, .bigint 1000, .bigint 2000]⟩,
          ⟨[.null, .null, .bigint 0, .bigint 0]⟩] ∧
    Row.HasTypes [some .int, some .float, some .bigint, some .bigint]
      ⟨[.int 7, .float ⟨0x3FC00000⟩, .bigint 1000, .bigint 2000]⟩ ∧
    Row.SameTypes [some .int, some .float, some .bigint, some .bigint]
      ⟨[.int 7, .float ⟨0x3FC00000⟩, .bigint 1000, .bigint 2000]⟩
      ⟨[.null, .null, .bigint 0, .bigint 0]⟩ := by
  have hplanned := decoded_as_planned .default WindowedKey.decode
  have hrow : (Decoder.ofConfig .default WindowedKey.decode).decode
      ⟨[⟨"rowkey", .binary, some ([0, 0, 0, 7] ++ int64Bytes 2000 ++ int64Bytes 1000)⟩,
        ⟨"mean", .float64, some ⟨0x3FF8000000000000⟩⟩]⟩ meansQuery.projection deviceMeans =
      .ok ⟨[.int 7, .float ⟨0x3FC00000⟩, .bigint 1000, .bigint 2000]⟩ := rfl
  have hanswer : ((ofConfig .default WindowedKey.decode).answer
      (Catalog.empty.register deviceMeans) meansStore "SELECT device, mean FROM deviceMeans"
      meansQuery).1 = .ok [⟨[.int 7, .float ⟨0x3FC00000⟩, .bigint 1000, .bigint 2000]⟩,
        ⟨[.null, .null, .bigint 0, .bigint 0]⟩] := rfl
  obtain ⟨plan, hplan, -, -, -, -, htypes, -⟩ := hplanned.1 _ _ _ _ hrow
  cases hplan
  have hsame := hplanned.2 _ _ _ _ _ _ rfl hanswer _ List.mem_cons_self _
    (List.mem_cons_of_mem _ List.mem_cons_self)
  exact ⟨hanswer, htypes rfl, hsame.2 rfl⟩

end Service

end MatView
