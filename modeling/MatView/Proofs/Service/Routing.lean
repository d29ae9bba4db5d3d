import MatView.Proofs.Query.Addressed
import MatView.Proofs.Query.Items
import MatView.Service.Basic

/-!
# Which rows answer a query

A query is answered from the physical table of its source: the rows of this table are decoded one by
one in the order in which they were inserted, and no other table matters. The exception is a statement
that the key column misroutes.

## Main definitions

* `DecodesTo`: the result of decoding rows one by one.

## Main statements

* `Service.decodeRows_spec`: rows are decoded one by one, up to the first fault.
* `Service.answer_from_own_table`: a query is answered from the physical table of its source.
-/

namespace MatView

open Text

/-- Each row is decoded, or the first row that cannot be decoded is reported. -/
def DecodesTo (decode : ResultRow → Except Error Row) (rows : List ResultRow) :
    Except Error (List Row) → Prop
  | .ok out => rows.map decode = out.map .ok
  | .error fault => ∃ front r back, rows = front ++ r :: back ∧
      (∀ good ∈ front, ∃ row, decode good = .ok row) ∧ decode r = .error fault

namespace Service

/-- The rows of a result set are decoded one by one, up to the first fault. -/
theorem decodeRows_spec (v : Service) (p : Prepared) (rows : List ResultRow) :
    DecodesTo (fun r => v.decoder.decodePlanned r p.plan p.source) rows (v.decodeRows p rows) := by
  rw [decodeRows_eq_mapM]
  cases h : rows.mapM fun r => v.decoder.decodePlanned r p.plan p.source with
  | error fault => exact Error.mapM_eq_error_iff.1 h
  | ok out =>
    have hrows := Error.mapM_eq_ok_iff.1 h
    rw [DecodesTo, ← List.forall₂_eq_eq_eq, List.forall₂_map_left_iff, List.forall₂_map_right_iff]
    exact hrows

/-- The parts that a prepared query is made of. -/
theorem prepare_eq_ok {v : Service} {c : Catalog} {statement : String} {q : Query} {p : Prepared}
    (h : v.prepare c statement q = .ok p) : ∃ clause, q.source = .ok clause ∧
      c.resolve clause.source = .ok p.source ∧ Plan.build q.projection p.source = .ok p.plan ∧
      v.adapter.adapt statement q p.source = .ok p.text := by
  obtain ⟨clause, hclause, h⟩ := Error.bind_eq_ok.1 h
  obtain ⟨source, hsource, h⟩ := Error.bind_eq_ok.1 h
  obtain ⟨plan, hplan, h⟩ := Error.bind_eq_ok.1 h
  obtain ⟨text, htext, h⟩ := Error.bind_eq_ok.1 h
  cases h
  exact ⟨clause, hclause, hsource, hplan, htext⟩

/-- A prepared query is answered from the table that its text reads. -/
theorem answer_of_tableOf {v : Service} {c : Catalog} {s : Store} {statement table : String}
    {q : Query} {p : Prepared} (h : v.prepare c statement q = .ok p) (hs : s.failure = none)
    (htable : Store.tableOf p.text = .ok table) :
    (v.answer c s statement q).1 = v.decodeRows p (s.rows table) := by
  have hanswer : s.answer p.text = .ok (s.rows table) := by
    rw [Store.answer, hs]
    exact Error.bind_eq_ok.2 ⟨table, htable, rfl⟩
  rw [answer_of_prepare h, hanswer]
  rfl

variable {config : Config} {reader : KeyReader} {c : Catalog} {statement : String} {q : Query}
  {p : Prepared}

/-- The key column of an adapter is plain if the configured one is. -/
theorem isPlain_keyColumn (h : ∀ k ∈ config.keyColumn.toList, isPlain k = true) :
    ∀ k ∈ (Adapter.ofConfig config).keyColumn.toList, isPlain k = true := by
  rw [Adapter.ofConfig, Unicode.toList_upper]
  exact Unicode.isPlain_of_mem_upperChars h

/-- The key column of an adapter is no `FROM` if the configured one is not. -/
theorem not_alike_keyColumn {word : String} (h : ∀ k ∈ config.keyColumn.toList, isPlain k = true)
    (hne : sameName config.keyColumn word = false) :
    ¬ Alike (Adapter.ofConfig config).keyColumn.toList word.toList := by
  intro halike
  have hupper : sameName (Unicode.upper config.keyColumn) word = true := sameName_iff_alike.2 halike
  have hsame : sameName config.keyColumn (Unicode.upper config.keyColumn) = true := by
    rw [sameName_comm]
    exact Unicode.sameName_upper h
  rw [sameName_trans hsame hupper] at hne
  cases hne

/-- A prepared query reads the physical table of its source unless it is misrouted. It is answered
with the rows of this table, one by one in their order, and no other table matters. -/
theorem answer_from_own_table (hkey : ∀ k ∈ config.keyColumn.toList, isPlain k = true)
    (hkeyNe : sameName config.keyColumn "FROM" = false)
    (hphysical : ∀ ch ∈ p.source.physicalName.toList, isWordChar ch = true)
    (hphysicalNe : p.source.physicalName ≠ "")
    (hdot : ∀ clause, q.source = .ok clause → clause.source.toList.getLast? ≠ some '.')
    (hselect : (Adapter.ofConfig config).injects q.projection = true →
      Adapter.SelectFirst statement q.hasWhere)
    (h : (ofConfig config reader).prepare c statement q = .ok p) :
    (Store.tableOf p.text = .ok (Store.keyOf p.source.physicalName) ↔
      ¬ (Adapter.ofConfig config).Misroutes statement q p.source) ∧
    (¬ (Adapter.ofConfig config).Misroutes statement q p.source → ∀ s : Store, s.failure = none →
      DecodesTo (fun r => (Decoder.ofConfig config reader).decodePlanned r p.plan p.source)
        ((s.batches (Store.keyOf p.source.physicalName)).flatMap Batch.rows)
        ((ofConfig config reader).answer c s statement q).1 ∧
      ∀ other : Store, other.failure = none →
        other.batches (Store.keyOf p.source.physicalName) =
          s.batches (Store.keyOf p.source.physicalName) →
        ((ofConfig config reader).answer c other statement q).1 =
          ((ofConfig config reader).answer c s statement q).1) := by
  obtain ⟨clause, -, -, -, htext⟩ := prepare_eq_ok h
  have hplain := isPlain_keyColumn hkey
  have hother := not_alike_keyColumn hkey hkeyNe
  have hphysicalList : p.source.physicalName.toList ≠ [] := by
    intro hnil
    exact hphysicalNe (String.toList_inj.1 hnil)
  have hiff := Adapter.tableOf_adapt_iff hplain hother hphysical hphysicalList hdot hselect htext
  refine ⟨hiff, fun hmis s hs => ?_⟩
  have hanswer : ∀ s : Store, s.failure = none →
      ((ofConfig config reader).answer c s statement q).1 =
        (ofConfig config reader).decodeRows p (s.rows (Store.keyOf p.source.physicalName)) :=
    fun s hs => answer_of_tableOf h hs (hiff.2 hmis)
  refine ⟨?_, fun other hfailure hbatches => ?_⟩
  · rw [hanswer s hs]
    exact decodeRows_spec _ p _
  · rw [hanswer s hs, hanswer other hfailure, Store.rows, Store.rows, hbatches]

/-- A view without windows. -/
def totals : Source where
  name := "TOTALS"
  schema := ⟨some ⟨"ROWKEY", .string⟩, [⟨"COL0", .bigint⟩]⟩
  physicalName := "totals_v1"

/-- A query of a value column. -/
def totalsQuery : Query where
  from? := some ⟨"totals", none⟩
  projection := .columns [⟨"col0", none⟩]

/-- A store with one batch of totals and one of another table. -/
def totalsStore : Store :=
  (Store.empty.insert "totals_v1" ⟨1, [⟨"col0", .int64, #v[some (500 : Int64)]⟩]⟩).insert "t"
    ⟨1, [⟨"col0", .int64, #v[some (99 : Int64)]⟩]⟩

/-- The totals are answered from their own table. -/
theorem totals_from_own_table :
    Store.tableOf "SELECT ROWKEY, COL0 FROM TOTALS.totals_v1" = .ok "totals_v1" ∧
    DecodesTo (fun r => (Decoder.ofConfig .default WindowedKey.decode).decodePlanned r
        ⟨[⟨"col0", .field "col0" .bigint⟩], false⟩ totals)
      ((totalsStore.batches "totals_v1").flatMap Batch.rows)
      ((ofConfig .default WindowedKey.decode).answer (.ofList [totals]) totalsStore
        "SELECT col0 FROM totals" totalsQuery).1 := by
  have hprepare : (ofConfig .default WindowedKey.decode).prepare (.ofList [totals])
      "SELECT col0 FROM totals" totalsQuery =
        .ok ⟨totals, ⟨[⟨"col0", .field "col0" .bigint⟩], false⟩,
          "SELECT ROWKEY, COL0 FROM TOTALS.totals_v1"⟩ := rfl
  have hselect : Adapter.SelectFirst "SELECT col0 FROM totals" totalsQuery.hasWhere := by
    intro head predicate hsplit
    cases hsplit
    exact ⟨0, 12, by decide +kernel, by decide +kernel, by decide⟩
  have hdot : ∀ clause, totalsQuery.source = .ok clause →
      clause.source.toList.getLast? ≠ some '.' := by
    intro clause hclause
    cases hclause
    decide
  have h := answer_from_own_table (List.all_eq_true.1 (by decide)) (by decide +kernel)
    (List.all_eq_true.1 (by decide)) (by decide) hdot (fun _ => hselect) hprepare
  have htable : Store.tableOf "SELECT ROWKEY, COL0 FROM TOTALS.totals_v1" = .ok "totals_v1" := rfl
  exact ⟨htable, (h.2 (h.1.1 htable) totalsStore rfl).1⟩

/-- A no-break space in front of a column `FROM` hides it until the key column stands between them.
Then the text reads the table behind that word. -/
theorem hidden_from_reads_other_table :
    (ofConfig .default WindowedKey.decode).prepare (.ofList [totals])
        "SELECT \u00a0FROM t FROM totals" totalsQuery =
      .ok ⟨totals, ⟨[⟨"col0", .field "col0" .bigint⟩], false⟩,
        "SELECT \u00a0ROWKEY, FROM T FROM TOTALS.totals_v1"⟩ ∧
    Adapter.SelectFirst "SELECT \u00a0FROM t FROM totals" totalsQuery.hasWhere ∧
    Store.tableOf "SELECT \u00a0ROWKEY, FROM T FROM TOTALS.totals_v1" = .ok "t" ∧
    Store.keyOf totals.physicalName = "totals_v1" ∧
    ((ofConfig .default WindowedKey.decode).answer (.ofList [totals]) totalsStore
      "SELECT \u00a0FROM t FROM totals" totalsQuery).1 = .ok [⟨[.bigint 99]⟩] := by
  refine ⟨rfl, ?_, rfl, by decide +kernel, rfl⟩
  intro head predicate hsplit
  cases hsplit
  exact ⟨0, 16, by decide +kernel, by decide +kernel, by decide⟩

end Service

end MatView
