import MatView.Proofs.Query.Respelled
import MatView.Service.Basic

/-!
# Answers to respelled queries

Every step from a statement to its answer looks names up without regard to case: the source in the
catalog, the columns in its schema and in the rows of the store. Respelled queries are therefore
answered with the same rows, or fail with errors that are worded alike, and the store is asked for
one text in both cases.

## Main statements

* `ResultRow.readAs_alike`: a column is read alike under each spelling of its name.
* `Service.prepare_alike`: respelled queries are prepared alike.
* `Service.respelled_answer`: respelled queries are adapted and answered alike.
-/

namespace MatView

open Text (sameName sameName_congr)

/-! ## Sources -/

/-- A source is found under each spelling of its name. -/
theorem Catalog.resolve_alike (c : Catalog) {a b : String} (h : sameName a b = true) :
    AlikeOutcome (· = ·) (c.resolve a) (c.resolve b) := by
  have hfind : c.find? a = c.find? b := by
    rw [find?, find?, keyOf, Text.sameName_iff_upperAscii.1 h, keyOf]
  unfold resolve
  rw [← hfind]
  split
  · exact .failed (Error.sourceNotFound_alike h)
  · exact .rfl

/-! ## Reading columns -/

namespace Cell

variable {α : Type} {a b : String}

/-- A reading of cells in which the name of the column matters for the wording of errors only. -/
def IgnoresCase (read : String → Cell → Except Error (Option α)) : Prop :=
  ∀ c a b, sameName a b = true → AlikeOutcome (· = ·) (read a c) (read b c)

theorem refuse_alike (c : Cell) (expected : String) (h : sameName a b = true) :
    AlikeOutcome (· = ·) (c.refuse a expected : Except Error (Option α)) (c.refuse b expected) := by
  unfold refuse
  split
  · exact .rfl
  · exact .failed (Error.typeMismatch_alike expected c.type.describe h)

theorem readString_ignoresCase : IgnoresCase readString := by
  rintro ⟨name, type, content⟩ a b h
  cases type <;> first | exact .rfl | exact refuse_alike _ _ h

theorem readBool_ignoresCase : IgnoresCase readBool := by
  rintro ⟨name, type, content⟩ a b h
  cases type <;> first | exact .rfl | exact refuse_alike _ _ h

theorem readInt32_ignoresCase : IgnoresCase readInt32 := by
  rintro ⟨name, type, content⟩ a b h
  cases type <;> first | exact .rfl | exact refuse_alike _ _ h

theorem readInt64_ignoresCase : IgnoresCase readInt64 := by
  rintro ⟨name, type, content⟩ a b h
  cases type <;> first | exact .rfl | exact refuse_alike _ _ h

theorem readFloat32_ignoresCase : IgnoresCase readFloat32 := by
  rintro ⟨name, type, content⟩ a b h
  cases type <;> first | exact .rfl | exact refuse_alike _ _ h

theorem readFloat64_ignoresCase : IgnoresCase readFloat64 := by
  rintro ⟨name, type, content⟩ a b h
  cases type <;> first | exact .rfl | exact refuse_alike _ _ h

theorem readMap_ignoresCase : IgnoresCase readMap := by
  rintro ⟨name, type, content⟩ a b h
  cases type with
  | map => cases content <;> exact .rfl
  | _ => exact refuse_alike _ _ h

end Cell

namespace ResultRow

variable {α : Type} {a b : String}

/-- A cell is found under each spelling of the name of its column. -/
theorem find_alike (r : ResultRow) (h : sameName a b = true) :
    AlikeOutcome (· = ·) (r.find a) (r.find b) := by
  simp only [find, sameName_congr h]
  split
  · exact .rfl
  · exact .failed (Error.missingColumn_alike h)

/-- A reading of cells reads a column under each spelling of its name. -/
theorem find_bind_alike (r : ResultRow) {read : String → Cell → Except Error (Option α)}
    (hread : Cell.IgnoresCase read) (h : sameName a b = true) :
    AlikeOutcome (· = ·) (r.find a >>= read a) (r.find b >>= read b) := by
  refine (r.find_alike h).bind fun c other hc => ?_
  subst hc
  exact hread c a b h

/-- A column is read alike under each spelling of its name. -/
theorem readAs_alike (r : ResultRow) (h : sameName a b = true) (type : DataType)
    (precision : FloatPrecision) :
    AlikeOutcome (· = ·) (r.readAs a type precision) (r.readAs b type precision) := by
  unfold readAs readBy
  cases Reading.ofType type precision with
  | string => exact (r.find_bind_alike Cell.readString_ignoresCase h).map _
  | boolean => exact (r.find_bind_alike Cell.readBool_ignoresCase h).map _
  | int32 => exact (r.find_bind_alike Cell.readInt32_ignoresCase h).map _
  | int64 => exact (r.find_bind_alike Cell.readInt64_ignoresCase h).map _
  | float32 => exact (r.find_bind_alike Cell.readFloat32_ignoresCase h).map _
  | float64 => exact (r.find_bind_alike Cell.readFloat64_ignoresCase h).map _
  | map => exact (r.find_bind_alike Cell.readMap_ignoresCase h).map _
  | generic =>
    refine (r.find_alike h).bind fun c other hc => ?_
    subst hc
    exact .rfl

end ResultRow

/-! ## Decoding -/

namespace Decoder

variable {d : Decoder} {plan plan' : Plan} {columns others : List PlanColumn}

theorem columnValue_alike (r : ResultRow) (key : Option WindowedKey) {origin other : Origin}
    (h : origin.Alike other) :
    AlikeOutcome (· = ·) (d.columnValue r key origin) (d.columnValue r key other) := by
  cases h with
  | field type hname => exact r.readAs_alike hname type d.precision
  | windowedKey => exact .rfl

theorem columnValues_alike (r : ResultRow) (key : Option WindowedKey)
    (h : List.Forall₂ (fun c d : PlanColumn => c.source.Alike d.source) columns others) :
    AlikeOutcome (· = ·) (d.columnValues r key columns) (d.columnValues r key others) := by
  induction h with
  | nil => exact .rfl
  | cons hc _ ih =>
    refine (columnValue_alike r key hc).bind fun v v' hv => ih.bind fun vs vs' hvs => ?_
    subst hv hvs
    exact .rfl

/-- A row is decoded alike by plans with the same columns up to case. -/
theorem decodePlanned_alike (r : ResultRow) (source : Source) (h : plan.Alike plan') :
    AlikeOutcome (· = ·) (d.decodePlanned r plan source) (d.decodePlanned r plan' source) := by
  -- The key is looked up by the name that is configured, not by one of the query.
  have hkey : d.windowedKey? r plan source = d.windowedKey? r plan' source := by
    rw [windowedKey?, windowedKey?, h.windowed]
  unfold decodePlanned
  rw [hkey, h.windowed]
  refine (columnValues_alike r _ h.columns).bind fun values values' hvalues => ?_
  subst hvalues
  exact .rfl

end Decoder

/-! ## Answers -/

/-- Prepared queries of one source and one text, with plans that read the same columns. -/
structure Prepared.Alike (p p' : Prepared) : Prop where
  source : p.source = p'.source
  plan : p.plan.Alike p'.plan
  text : p.text = p'.text

namespace Service

variable {v : Service} {q r : Query} {s t : String}

theorem decodeRows_alike {p p' : Prepared} (h : p.Alike p') (rows : List ResultRow) :
    AlikeOutcome (· = ·) (v.decodeRows p rows) (v.decodeRows p' rows) := by
  induction rows with
  | nil => exact .rfl
  | cons row rest ih =>
    unfold decodeRows
    rw [← h.source]
    refine (Decoder.decodePlanned_alike row _ h.plan).bind fun out out' hout =>
      ih.bind fun outs outs' houts => ?_
    subst hout houts
    exact .rfl

/-- Respelled queries are prepared alike. -/
theorem prepare_alike (hq : q.Alike r) (h : Respelled q.hasWhere s t) (c : Catalog) :
    AlikeOutcome Prepared.Alike (v.prepare c s q) (v.prepare c t r) := by
  refine (Query.source_alike hq).bind fun clause other hname =>
    (c.resolve_alike hname).bind fun source source' hsource => ?_
  subst hsource
  refine (Plan.build_alike hq.projection source).bind fun plan plan' hplan =>
    (Adapter.adapt_alike hq h source).bind fun text text' htext => ?_
  exact .done ⟨rfl, hplan, htext⟩

/-- The letter case of a query in front of its predicate does not matter. Respelled queries are
adapted to one text, or fail alike; they are answered with the same rows, or fail alike; and both
leave the store with the same log, which has gained the one text if it has gained any. -/
theorem respelled_answer (hq : q.Alike r) (h : Respelled q.hasWhere s t) :
    (∀ source, AlikeOutcome (· = ·) (v.adapter.adapt s q source) (v.adapter.adapt t r source)) ∧
    ∀ c store, AlikeOutcome (· = ·) (v.answer c store s q).1 (v.answer c store t r).1 ∧
      (v.answer c store s q).2 = (v.answer c store t r).2 ∧
      ∃ asked : List String, asked.length ≤ 1 ∧
        (v.answer c store s q).2 = { store with log := store.log ++ asked } := by
  refine ⟨Adapter.adapt_alike hq h, fun c store => ?_⟩
  have hprepare := prepare_alike (v := v) hq h c
  unfold answer
  generalize v.prepare c s q = first, v.prepare c t r = second at hprepare ⊢
  cases hprepare with
  | failed hfault => exact ⟨.failed hfault, rfl, [], by simp, by simp⟩
  | @done p p' hp =>
    dsimp only
    rw [← hp.text]
    refine ⟨?_, rfl, [p.text], by simp, rfl⟩
    refine RelatedOutcome.rfl.bind fun rows rows' hrows => ?_
    subst hrows
    exact decodeRows_alike hp rows

/-- A view of account balances. -/
def balances : Source where
  name := "BALANCES"
  schema := ⟨some ⟨"ROWKEY", .string⟩, [⟨"AMOUNT", .bigint⟩]⟩
  physicalName := "balances_v1"

/-- A store with one balance. -/
def balancesStore : Store :=
  Store.empty.insert "balances_v1" ⟨1, [⟨"amount", .int64, #v[some (250 : Int64)]⟩]⟩

/-- A query of the amounts, in the given spelling of its names. -/
def amountQuery (source column : String) : Query where
  from? := some ⟨source, none⟩
  projection := .columns [⟨column, none⟩]
  hasWhere := true

/-- What a statement that asks for the amounts is answered. -/
def answerAmounts (statement source column : String) : Except Error (List Row) × Store :=
  (ofConfig .default WindowedKey.decode).answer (.ofList [balances]) balancesStore statement
    (amountQuery source column)

/-- The amounts are asked for in two spellings, with one answer and one text for the store. -/
theorem amounts_respelled :
    (amountQuery "balances" "Amount").Alike (amountQuery "Balances" "AMOUNT") ∧
    Respelled true "select Amount from balances where Amount > 10"
      "SELECT AMOUNT FROM Balances where Amount > 10" ∧
    AlikeOutcome (· = ·)
      (answerAmounts "select Amount from balances where Amount > 10" "balances" "Amount").1
      (answerAmounts "SELECT AMOUNT FROM Balances where Amount > 10" "Balances" "AMOUNT").1 ∧
    (answerAmounts "select Amount from balances where Amount > 10" "balances" "Amount").1 =
      .ok [⟨[.bigint 250]⟩] ∧
    (answerAmounts "SELECT AMOUNT FROM Balances where Amount > 10" "Balances" "AMOUNT").2.log =
      ["SELECT ROWKEY, AMOUNT FROM BALANCES.balances_v1 where Amount > 10 ALLOW FILTERING"] := by
  have hq : (amountQuery "balances" "Amount").Alike (amountQuery "Balances" "AMOUNT") :=
    ⟨.some (by decide +kernel), .columns (.cons ⟨by decide +kernel, .none⟩ .nil), rfl⟩
  have h : Respelled true "select Amount from balances where Amount > 10"
      "SELECT AMOUNT FROM Balances where Amount > 10" := by
    refine ⟨Text.sameName_iff_alike.1 (by decide +kernel), fun _ offset hoffset => ?_⟩
    have hplace : Text.keywordOffset "select Amount from balances where Amount > 10".toList
        "WHERE" = some 28 := by decide +kernel
    cases hoffset.symm.trans hplace
    decide +kernel
  have hanswer := (respelled_answer (v := ofConfig .default WindowedKey.decode) hq h).2
    (.ofList [balances]) balancesStore
  exact ⟨hq, h, hanswer.1, by decide +kernel, by decide +kernel⟩

end Service

end MatView
