import MatView.Proofs.Decoding.Items
import MatView.Proofs.Outcome
import MatView.Service.Basic

/-!
# Damaged keys

The key of a row of a windowed source is decoded once, and a key that cannot be decoded is masked:
the row is answered without its key and with a placeholder for its window. Two result sets that
differ in the key column only are therefore decoded alike, row by row: with the same fault, or with
rows that differ in the values of the key and the window only.

## Main definitions

* `SameOutcome`: two results that fail alike or are related.
* `ResultRow.AgreeApart`: rows that are read alike outside a column.
* `Plan.SparesColumn`: plans that read a column as a key only.
* `Plan.AlikeRows`: decoded rows that differ in the values of the key and the window only.
* `Plan.HoldsKey`: decoded rows with a given key and the bounds of its window.

## Main statements

* `Decoder.sameOutcome_decodePlanned`: rows that differ in their keys are decoded alike.
* `Decoder.decodePlanned_holdsKey`: where the key and the window of a row are found in the answer.
* `Service.damage_stays_in_key`: a damaged key harms nothing but its own values.
-/

namespace MatView

open Text (sameName)

/-! ## Two results -/

/-- Two results that are failures of one cause, or values in a relation. -/
abbrev SameOutcome {α β : Type} (R : α → β → Prop) : Except Error α → Except Error β → Prop :=
  RelatedOutcome (· = ·) R

/-! ## Rows that differ in one column -/

namespace ResultRow

/-- Rows of which every other column than the given one is read alike, in every way of reading. -/
def AgreeApart (column : String) (r r' : ResultRow) : Prop :=
  ∀ other, sameName other column = false →
    ∀ reading, r.readBy reading other = r'.readBy reading other

/-- Rows that have the same cells apart from those of a column are read alike apart from it. -/
theorem agreeApart_of_cells {column : String} {r r' : ResultRow}
    (h : r.cells.filter (fun c => !sameName c.name column) =
      r'.cells.filter fun c => !sameName c.name column) : AgreeApart column r r' := by
  intro other hother reading
  have hskip : ∀ s : ResultRow, s.cells.find? (fun c => sameName c.name other) =
      (s.cells.filter fun c => !sameName c.name column).find? fun c => sameName c.name other := by
    intro s
    rw [List.find?_filter]
    congr 1
    funext c
    cases hc : sameName c.name other with
    | false => simp
    | true =>
      have hapart : sameName c.name column = false := by
        cases hcolumn : sameName c.name column with
        | false => rfl
        | true =>
          rw [Text.sameName_comm] at hc
          rw [Text.sameName_trans hc hcolumn] at hother
          cases hother
      simp [hapart]
  have hfind : r.find other = r'.find other := by
    rw [find, find, hskip r, hskip r', h]
  cases reading <;>
    simp only [readBy, readString, readBool, readInt32, readInt64, readFloat32, readFloat64,
      readMap, readAny, hfind]

end ResultRow

/-! ## Decoding -/

namespace Plan

/-- A plan that reads a column as a key only. -/
def SparesColumn (p : Plan) (column : String) : Prop :=
  ∀ c ∈ p.columns, ∀ other type, c.source = .field other type → sameName other column = false

/-- Decoded rows of one length with the same values of all planned columns that are no keys. -/
def AlikeRows (p : Plan) (row row' : Row) : Prop :=
  row.length = p.width ∧ row'.length = p.width ∧
    ∀ i c, p.columns[i]? = some c → c.source ≠ .windowedKey → row.get? i = row'.get? i

/-- A row has a key at the planned keys and the bounds of a window at its end. -/
def HoldsKey (p : Plan) (row : Row) (key start stop : Value) : Prop :=
  (∀ i c, p.columns[i]? = some c → c.source = .windowedKey → row.get? i = some key) ∧
    row.values.drop p.columns.length = [start, stop]

end Plan

namespace Decoder

variable {d : Decoder} {r r' : ResultRow} {key key' : Option WindowedKey}
  {columns : List PlanColumn} {values : List Value} {plan : Plan} {source : Source} {row : Row}

/-- A planned column that is no key is read alike in rows that agree apart from a column it does not
read. -/
theorem columnValue_congr {column : String} {c : PlanColumn} (h : r.AgreeApart column r')
    (hspares : ∀ other type, c.source = .field other type → sameName other column = false)
    (hc : c.source ≠ .windowedKey) (key key' : Option WindowedKey) :
    d.columnValue r key c.source = d.columnValue r' key' c.source := by
  cases hsource : c.source with
  | field other type => exact h other (hspares other type hsource) _
  | windowedKey => exact absurd hsource hc

/-- Planned columns are read alike in rows that agree apart from a column which they do not read,
but for the keys among them. -/
theorem sameOutcome_columnValues {column : String} (h : r.AgreeApart column r')
    (hspares : ∀ c ∈ columns, ∀ other type, c.source = .field other type →
      sameName other column = false) :
    SameOutcome (fun vs vs' => vs.length = columns.length ∧ vs'.length = columns.length ∧
        ∀ (i : Nat) (c : PlanColumn), columns[i]? = some c → c.source ≠ .windowedKey →
          vs[i]? = vs'[i]?)
      (d.columnValues r key columns) (d.columnValues r' key' columns) := by
  induction columns with
  | nil => exact .done (by simp)
  | cons c rest ih =>
    obtain ⟨hc, hrest⟩ := List.forall_mem_cons.1 hspares
    have hvalue : SameOutcome (fun v v' => c.source ≠ .windowedKey → v = v')
        (d.columnValue r key c.source) (d.columnValue r' key' c.source) := by
      by_cases hkey : c.source = .windowedKey
      · rw [hkey]
        exact .done fun hne => absurd rfl hne
      · rw [columnValue_congr h hc hkey key key']
        cases d.columnValue r' key' c.source with
        | error fault => exact .failed rfl
        | ok v => exact .done fun _ => rfl
    refine hvalue.bind fun v v' hv => (ih hrest).bind fun vs vs' hvs => ?_
    obtain ⟨hlength, hlength', hvs⟩ := hvs
    refine .done ⟨by simp [hlength], by simp [hlength'], fun i found hfound hne => ?_⟩
    cases i with
    | zero =>
      cases hfound
      exact congrArg some (hv hne)
    | succ i => exact hvs i found hfound hne

/-- Rows that agree apart from the key column are decoded alike. -/
theorem sameOutcome_decodePlanned (h : r.AgreeApart d.keys.keyColumn r')
    (hspares : plan.SparesColumn d.keys.keyColumn) :
    SameOutcome plan.AlikeRows (d.decodePlanned r plan source)
      (d.decodePlanned r' plan source) := by
  refine (sameOutcome_columnValues h hspares).bind fun vs vs' hvs => ?_
  obtain ⟨hlength, hlength', hvs⟩ := hvs
  refine .done ⟨?_, ?_, fun i c hc hne => ?_⟩
  · cases hwindowed : plan.windowed <;> simp [Row.length, Plan.width, hlength, hwindowed]
  · cases hwindowed : plan.windowed <;> simp [Row.length, Plan.width, hlength', hwindowed]
  · have hi : i < plan.columns.length := (List.getElem?_eq_some_iff.1 hc).1
    rw [Row.get?, Row.get?, List.getElem?_append_left (hlength ▸ hi),
      List.getElem?_append_left (hlength' ▸ hi)]
    exact hvs i c hc hne

/-- The values of the planned keys are the decoded key, or null. -/
theorem get?_of_windowedKey {columns : List PlanColumn} {bounds : List Value}
    (h : List.Forall₂ (fun c v => d.columnValue r key c.source = .ok v) columns values) {i : Nat}
    {c : PlanColumn} (hc : columns[i]? = some c) (hsource : c.source = .windowedKey) :
    (Row.mk (values ++ bounds)).get? i = some ((key.map (·.key)).getD .null) := by
  obtain ⟨v, hv, hread⟩ := exists_getElem?_of_forall₂ h hc
  obtain ⟨hi, -⟩ := List.getElem?_eq_some_iff.1 hv
  rw [hsource] at hread
  cases hread
  rw [Row.get?, List.getElem?_append_left hi, hv]

/-- A decoded row of a windowed source has its key at the planned keys and its window at the end. A
key that is not decoded leaves null and the placeholder there. -/
theorem decodePlanned_holdsKey (hwindowed : plan.windowed = true)
    (h : d.decodePlanned r plan source = .ok row) :
    (∀ fault, d.keys.windowedKey r source = .error fault →
      plan.HoldsKey row .null (.bigint d.windowPlaceholder) (.bigint d.windowPlaceholder)) ∧
    ∀ k, d.keys.windowedKey r source = .ok k →
      plan.HoldsKey row k.key (.bigint k.window.start) (.bigint k.window.stop) := by
  obtain ⟨values, hvalues, rfl⟩ := decodePlanned_eq_ok_iff.1 h
  have hkey : d.windowedKey? r plan source = (d.keys.windowedKey r source).toOption := by
    rw [windowedKey?, if_pos hwindowed]
  rw [hkey] at hvalues
  have hlength : values.length = plan.columns.length := hvalues.length_eq.symm
  rw [bounds, if_pos hwindowed, hkey]
  constructor
  · intro fault hfault
    rw [hfault] at hvalues ⊢
    exact ⟨fun i c hc hsource => get?_of_windowedKey hvalues hc hsource, List.drop_left' hlength⟩
  · intro k hk
    rw [hk] at hvalues ⊢
    exact ⟨fun i c hc hsource => get?_of_windowedKey hvalues hc hsource, List.drop_left' hlength⟩

end Decoder

/-! ## Answers -/

/-- Stores whose tables have related rows answer alike. -/
theorem Store.sameOutcome_answer {R : ResultRow → ResultRow → Prop} {s s' : Store}
    (hfailure : s.failure = s'.failure)
    (hrows : ∀ table, List.Forall₂ R (s.rows table) (s'.rows table)) (text : String) :
    SameOutcome (List.Forall₂ R) (s.answer text) (s'.answer text) := by
  unfold answer
  rw [← hfailure]
  cases s.failure with
  | some message => exact .failed rfl
  | none =>
    refine (RelatedOutcome.rfl (x := tableOf text)).bind fun table _ h => ?_
    subst h
    exact .done (hrows table)

namespace Service

variable {v : Service} {p : Prepared}

/-- Result sets whose rows agree apart from the key column are decoded alike, row by row. -/
theorem sameOutcome_decodeRows {rows rows' : List ResultRow}
    (h : List.Forall₂ (ResultRow.AgreeApart v.decoder.keys.keyColumn) rows rows')
    (hspares : p.plan.SparesColumn v.decoder.keys.keyColumn) :
    SameOutcome (List.Forall₂ p.plan.AlikeRows) (v.decodeRows p rows) (v.decodeRows p rows') := by
  induction h with
  | nil => exact .done .nil
  | cons hrow _ ih =>
    exact (Decoder.sameOutcome_decodePlanned hrow hspares).bind fun row row' halike =>
      ih.bind fun out out' hout => .done (.cons halike hout)

/-- A query is answered alike from tables whose rows agree apart from the key column. -/
theorem sameOutcome_answer {c : Catalog} {statement : String} {q : Query} {s s' : Store}
    (hprepare : v.prepare c statement q = .ok p)
    (hspares : p.plan.SparesColumn v.decoder.keys.keyColumn) (hfailure : s.failure = s'.failure)
    (hrows : ∀ table, List.Forall₂ (ResultRow.AgreeApart v.decoder.keys.keyColumn) (s.rows table)
      (s'.rows table)) :
    SameOutcome (List.Forall₂ p.plan.AlikeRows) (v.answer c s statement q).1
      (v.answer c s' statement q).1 := by
  rw [answer_of_prepare hprepare, answer_of_prepare hprepare]
  exact (Store.sameOutcome_answer hfailure hrows p.text).bind fun rows rows' h =>
    sameOutcome_decodeRows h hspares

/-- A damaged key harms nothing but its own values. Rows that agree apart from the key column are
decoded alike; a key that is not decoded leaves null for itself and placeholders for its window; and
tables that agree apart from the key column give the same number of rows, in the same order and with
the same other values. -/
theorem damage_stays_in_key {config : Config} {reader : KeyReader} {projection : Projection}
    {source : Source} {plan : Plan} (hwindowed : source.isWindowed = true)
    (hplan : Plan.build projection source = .ok plan)
    (hspares : plan.SparesColumn config.keyColumn) :
    (∀ r r' : ResultRow, r.AgreeApart config.keyColumn r' →
      SameOutcome plan.AlikeRows ((Decoder.ofConfig config reader).decodePlanned r plan source)
        ((Decoder.ofConfig config reader).decodePlanned r' plan source)) ∧
    (∀ r row, (Decoder.ofConfig config reader).decodePlanned r plan source = .ok row →
      (∀ fault, (Decoder.ofConfig config reader).keys.windowedKey r source = .error fault →
        plan.HoldsKey row .null (.bigint config.windowPlaceholder)
          (.bigint config.windowPlaceholder)) ∧
      ∀ k, (Decoder.ofConfig config reader).keys.windowedKey r source = .ok k →
        plan.HoldsKey row k.key (.bigint k.window.start) (.bigint k.window.stop)) ∧
    ∀ (catalog : Catalog) (statement : String) (q : Query) (text : String) (s s' : Store),
      (Service.ofConfig config reader).prepare catalog statement q = .ok ⟨source, plan, text⟩ →
      s.failure = s'.failure →
      (∀ table, List.Forall₂ (ResultRow.AgreeApart config.keyColumn) (s.rows table)
        (s'.rows table)) →
      SameOutcome (List.Forall₂ plan.AlikeRows)
        ((Service.ofConfig config reader).answer catalog s statement q).1
        ((Service.ofConfig config reader).answer catalog s' statement q).1 := by
  have hplanned : plan.windowed = true := (Plan.windowed_of_build hplan).trans hwindowed
  refine ⟨fun r r' h => Decoder.sameOutcome_decodePlanned h hspares,
    fun r row h => Decoder.decodePlanned_holdsKey (d := .ofConfig config reader) hplanned h,
    fun catalog statement q text s s' hprepare hfailure hrows => ?_⟩
  exact sameOutcome_answer (v := .ofConfig config reader) hprepare hspares hfailure hrows

/-- The number of views of a region, by the hour. -/
def regionViews : Source where
  name := "REGIONVIEWS"
  schema := ⟨some ⟨"ROWKEY", .string⟩, [⟨"COL0", .bigint⟩]⟩
  physicalName := "views_v2"
  keyFormat := some ⟨.tumbling 3600000, .string⟩

/-- The plan of the regions and their numbers of views. -/
def viewsByRegion : Plan :=
  ⟨[⟨"rowkey", .windowedKey⟩, ⟨"col0", .field "col0" .bigint⟩], true⟩

/-- A row of `regionViews` whose key is null is answered as if it had a key, but for the key and the
window. -/
theorem region_without_key : regionViews.isWindowed = true ∧
    Plan.build (.columns [⟨"rowkey", none⟩, ⟨"col0", none⟩]) regionViews = .ok viewsByRegion ∧
    viewsByRegion.SparesColumn Config.default.keyColumn ∧
    (∀ count : Option Int64, SameOutcome viewsByRegion.AlikeRows
      ((Decoder.ofConfig .default WindowedKey.decode).decodePlanned
        ⟨[⟨"rowkey", .binary, some [101, 117, 0, 0, 0, 0, 0, 0, 3, 232]⟩, ⟨"col0", .int64, count⟩]⟩
        viewsByRegion regionViews)
      ((Decoder.ofConfig .default WindowedKey.decode).decodePlanned
        ⟨[⟨"rowkey", .utf8, none⟩, ⟨"col0", .int64, count⟩]⟩ viewsByRegion regionViews)) ∧
    ∀ (count : Option Int64) row, (Decoder.ofConfig .default WindowedKey.decode).decodePlanned
        ⟨[⟨"rowkey", .utf8, none⟩, ⟨"col0", .int64, count⟩]⟩ viewsByRegion regionViews = .ok row →
      viewsByRegion.HoldsKey row .null (.bigint Config.default.windowPlaceholder)
        (.bigint Config.default.windowPlaceholder) := by
  have hspares : viewsByRegion.SparesColumn Config.default.keyColumn := by
    intro c hc other type hsource
    simp only [viewsByRegion, List.mem_cons, List.not_mem_nil, or_false] at hc
    obtain rfl | rfl := hc
    · cases hsource
    · cases hsource
      decide
  have h := @damage_stays_in_key .default WindowedKey.decode
    (.columns [⟨"rowkey", none⟩, ⟨"col0", none⟩]) regionViews _ rfl rfl hspares
  refine ⟨rfl, rfl, hspares, fun count => h.1 _ _ (ResultRow.agreeApart_of_cells ?_),
    fun count row hrow => (h.2.1 _ row hrow).1 (.key (.nullColumn "rowkey")) rfl⟩
  rfl

end Service

end MatView
