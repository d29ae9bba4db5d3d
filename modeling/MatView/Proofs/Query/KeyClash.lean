import Mathlib.Tactic.SplitIfs
import MatView.Proofs.Query.KeyFetch

/-!
# Whether an added key column hides a projected one

The key column is added in front of a select list that does not refer to it, and it is returned
under its own name. A projected column is looked up under its output name, and what is found is the
first column that is returned under that name. With output names that are told apart, this is the
projected column itself, or the key in front of it when an alias spells the name of the key.

## Main definitions

* `Adapter.place`: the place of a projected column in the select list that is sent.
* `Adapter.Hides`: the added key column hides a projected column.

## Main statements

* `Adapter.findIdx?_fetched`: the first column returned under an output name.
* `Adapter.hides_iff`: only an alias is hidden.
* `Adapter.projected_found_iff`: a projected column is found at its own place if and only if it is
  not hidden.
-/

namespace MatView

open Text (sameName)

/-! ## Planned columns -/

namespace Plan

/-- A column that is looked up in the result set is looked up under its output name. -/
theorem column_of_selectedColumn {source : Source} {item : SelectedColumn} {c : PlanColumn}
    {column : String} {type : DataType} (h : selectedColumn source item = .ok c)
    (hc : c.source = .field column type) : column = item.outputName := by
  unfold selectedColumn at h
  split at h
  · cases h
  · split_ifs at h with hkey
    · cases h
      cases hc
    · cases h
      cases hc
      rfl

/-- The columns of a plan are those of its projection, in their order. -/
theorem getElem?_selectedColumns {source : Source} {items : List SelectedColumn}
    {columns : List PlanColumn} (h : selectedColumns source items = .ok columns) {i : Nat}
    {c : PlanColumn} (hi : columns[i]? = some c) :
    ∃ item, items[i]? = some item ∧ selectedColumn source item = .ok c := by
  induction items generalizing columns i with
  | nil =>
    cases h
    cases hi
  | cons item rest ih =>
    obtain ⟨first, hfirst, h⟩ := Error.bind_eq_ok.1 h
    obtain ⟨others, hothers, h⟩ := Error.bind_eq_ok.1 h
    cases h
    cases i with
    | zero =>
      cases hi
      exact ⟨item, rfl, hfirst⟩
    | succ i => exact ih hothers hi

end Plan

/-! ## The place of a projected column -/

namespace Adapter

variable {a : Adapter} {items : List SelectedColumn} {item : SelectedColumn} {i : Nat}

/-- The place of a projected column in the select list that is sent. -/
def place (a : Adapter) (items : List SelectedColumn) (i : Nat) : Nat :=
  (if a.injects (.columns items) then 1 else 0) + i

/-- The added key column is returned under the output name of a projected column. -/
def Hides (a : Adapter) (items : List SelectedColumn) (item : SelectedColumn) : Prop :=
  a.injects (.columns items) = true ∧ sameName a.keyColumn item.outputName = true

instance (a : Adapter) (items : List SelectedColumn) (item : SelectedColumn) :
    Decidable (a.Hides items item) :=
  inferInstanceAs (Decidable (_ ∧ _))

/-- Among output names that are told apart, the first spelling of one of them is that one. -/
theorem findIdx?_outputName
    (hdistinct : items.Pairwise fun c d => sameName c.outputName d.outputName = false)
    (hi : items[i]? = some item) :
    items.findIdx? (fun c => sameName c.outputName item.outputName) = some i := by
  obtain ⟨hlt, rfl⟩ := List.getElem?_eq_some_iff.1 hi
  refine List.findIdx?_eq_some_iff_getElem.2 ⟨hlt, Text.sameName_self _, fun j hj => ?_⟩
  rw [Bool.not_eq_true]
  exact List.pairwise_iff_getElem.1 hdistinct j i (by omega) hlt hj

/-- The first column that is returned under the output name of a projected column is that column,
unless the added key column hides it. -/
theorem findIdx?_fetched
    (hdistinct : items.Pairwise fun c d => sameName c.outputName d.outputName = false)
    (hi : items[i]? = some item) :
    (a.fetched items).findIdx? (fun f => sameName f.name item.outputName) =
      some (if a.Hides items item then 0 else a.place items i) := by
  have hplace : (items.map fun c => Fetched.mk c.column c.outputName).findIdx?
      (fun f => sameName f.name item.outputName) = some i := by
    rw [List.findIdx?_map]
    exact findIdx?_outputName hdistinct hi
  by_cases hinjects : a.injects (.columns items) = true
  · cases hname : sameName a.keyColumn item.outputName with
    | true => simp [fetched, Hides, hinjects, hname, List.findIdx?_cons]
    | false =>
      simp [fetched, Hides, place, hinjects, hname, List.findIdx?_cons, hplace, Nat.add_comm]
  · simp [fetched, Hides, place, hinjects, hplace]

/-- A projected column stands at its place. -/
theorem getElem?_fetched (hi : items[i]? = some item) :
    (a.fetched items)[a.place items i]? = some ⟨item.column, item.outputName⟩ := by
  unfold fetched place
  split_ifs <;> simp [hi, Nat.add_comm 1]

/-- What a row that the store returns holds under the output name of a projected column: what was
asked for there, unless the added key column hides it. -/
theorem find_projected {base r : ResultRow}
    (hdistinct : items.Pairwise fun c d => sameName c.outputName d.outputName = false)
    (hi : items[i]? = some item) (hr : base.project (a.fetched items) = .ok r) :
    r.find item.outputName = if a.Hides items item
      then Fetched.cell ⟨a.keyColumn, a.keyColumn⟩ base
      else Fetched.cell ⟨item.column, item.outputName⟩ base := by
  obtain ⟨cells, hcells, hr⟩ := Error.bind_eq_ok.1 hr
  cases hr
  rw [ResultRow.find_fetch hcells, List.find?_eq_bind_findIdx?_getElem?,
    findIdx?_fetched hdistinct hi, Option.bind_some]
  split_ifs with hhides
  · simp [fetched, hhides.1]
  · rw [getElem?_fetched hi]

/-- Only an alias is hidden: a column that spells the name of the key keeps the key column from
being added. -/
theorem hides_iff {keyColumn : String} (hkey : sameName a.keyColumn keyColumn = true)
    (hitem : item ∈ items) : a.Hides items item ↔
      a.injectKeyColumn = true ∧ (∀ c ∈ items, sameName c.column keyColumn = false) ∧
        ∃ name, item.alias? = some name ∧ sameName name keyColumn = true := by
  have hsame := Text.sameName_congr hkey
  have hinjects : a.injects (.columns items) = true ↔
      a.injectKeyColumn = true ∧ ∀ c ∈ items, sameName c.column keyColumn = false := by
    simp [injects, hsame]
  rw [Hides, hinjects, Text.sameName_comm, hsame, and_assoc]
  refine and_congr_right fun _ => and_congr_right fun hnone => ?_
  cases halias : item.alias? with
  -- Without an alias the output name is the column, and no column spells the name of an added key.
  | none => simp [SelectedColumn.outputName, halias, hnone item hitem]
  | some name => simp [SelectedColumn.outputName, halias]

end Adapter

/-! ## What is found under the name of a projected column -/

/-- An alias of a projection spells the name of the key column, which is added to it. -/
def AliasHidden (config : Config) (items : List SelectedColumn) (item : SelectedColumn) : Prop :=
  config.injectKeyColumn = true ∧ (∀ c ∈ items, sameName c.column config.keyColumn = false) ∧
    ∃ name, item.alias? = some name ∧ sameName name config.keyColumn = true

/-- A column that is looked up in the rows of an adapted statement is found at its own place if and
only if its alias does not spell the name of an added key column. Otherwise the key is found. -/
theorem projected_found_iff {config : Config} {source : Source} {statement text : String}
    {q : Query} {items : List SelectedColumn} {plan : Plan}
    (hplain : ∀ c ∈ config.keyColumn.toList, Text.isPlain c = true)
    (hitems : q.projection = .columns items)
    (hdistinct : items.Pairwise fun c d => sameName c.outputName d.outputName = false)
    (hplan : Plan.build q.projection source = .ok plan)
    (htext : (Adapter.ofConfig config).adapt statement q source = .ok text) :
    (∃ front back, (Adapter.ofConfig config).withoutKey.adapt statement q source =
        .ok (String.ofList (front ++ back)) ∧ text = String.ofList
          (front ++ (Adapter.ofConfig config).keyPrefix (.columns items) ++ back)) ∧
      ∀ i planned column type, plan.columns[i]? = some planned →
        planned.source = .field column type →
          ∃ item, items[i]? = some item ∧ column = item.outputName ∧
            (((Adapter.ofConfig config).fetched items).findIdx?
                (fun f => sameName f.name column) =
                  some ((Adapter.ofConfig config).place items i) ↔
              ¬ AliasHidden config items item) ∧
            ∀ base r, base.project ((Adapter.ofConfig config).fetched items) = .ok r →
              (¬ AliasHidden config items item →
                r.find column = Fetched.cell ⟨item.column, column⟩ base) ∧
              (AliasHidden config items item → ∃ key, sameName key config.keyColumn = true ∧
                r.find column = Fetched.cell ⟨key, key⟩ base) := by
  have hkey : sameName (Adapter.ofConfig config).keyColumn config.keyColumn = true :=
    Unicode.sameName_upper hplain
  constructor
  · obtain ⟨front, back, hplainText, hkeyed, -⟩ := Adapter.adapt_keyed htext
    exact ⟨front, back, hplainText, hitems ▸ hkeyed⟩
  · intro i planned column type hi hsource
    rw [hitems] at hplan
    obtain ⟨columns, hcolumns, hplan⟩ := Error.bind_eq_ok.1 hplan
    cases hplan
    obtain ⟨item, hitem, hselected⟩ := Plan.getElem?_selectedColumns hcolumns hi
    have hcolumn := Plan.column_of_selectedColumn hselected hsource
    subst hcolumn
    have hhides : (Adapter.ofConfig config).Hides items item ↔ AliasHidden config items item :=
      Adapter.hides_iff hkey (List.mem_of_getElem? hitem)
    refine ⟨item, hitem, rfl, ?_, fun base r hr => ?_⟩
    · rw [Adapter.findIdx?_fetched hdistinct hitem, ← hhides]
      split_ifs with h
      · simp only [Option.some.injEq, Adapter.place, h.1, h, not_true, if_true, iff_false]
        omega
      · simp [h]
    · have hfind := Adapter.find_projected hdistinct hitem hr
      refine ⟨fun h => ?_, fun h => ⟨_, hkey, ?_⟩⟩
      · rw [hfind, if_neg (mt hhides.1 h)]
      · rw [hfind, if_pos (hhides.2 h)]

/-- A view without windows. -/
def materialized : Source where
  name := "MATVIEW"
  schema := ⟨some ⟨"ROWKEY", .string⟩, [⟨"COL0", .bigint⟩]⟩
  physicalName := "test2"

/-- A projection of the value column under another name. -/
def renamed (name : String) : List SelectedColumn :=
  [⟨"col0", some name⟩]

/-- The query of such a projection. -/
def renamedQuery (name : String) : Query where
  from? := some ⟨"matview", none⟩
  projection := .columns (renamed name)

/-- A projected column with an alias of its own is found behind the key. -/
theorem renamed_column_found :
    (Adapter.ofConfig .default).adapt "SELECT col0 AS total FROM matview" (renamedQuery "total")
      materialized = .ok "SELECT ROWKEY, COL0 AS TOTAL FROM MATVIEW.test2" ∧
    ((Adapter.ofConfig .default).fetched (renamed "total")).findIdx?
      (fun f => sameName f.name "total") = some 1 ∧
    ∀ base r, base.project ((Adapter.ofConfig .default).fetched (renamed "total")) = .ok r →
      r.find "total" = Fetched.cell ⟨"col0", "total"⟩ base := by
  have htext : (Adapter.ofConfig .default).adapt "SELECT col0 AS total FROM matview"
      (renamedQuery "total") materialized =
        .ok "SELECT ROWKEY, COL0 AS TOTAL FROM MATVIEW.test2" := rfl
  obtain ⟨item, hitem, -, hplace, hfind⟩ := (@projected_found_iff .default materialized _ _ _ _
    ⟨[⟨"total", .field "total" .bigint⟩], false⟩ (List.all_eq_true.1 (by decide)) rfl
    (List.pairwise_singleton _ _) rfl htext).2 0 _ "total" .bigint rfl rfl
  cases hitem
  have hshown : ¬ AliasHidden .default (renamed "total") ⟨"col0", some "total"⟩ := by
    rintro ⟨-, -, name, halias, hname⟩
    cases halias
    exact absurd hname (by decide +kernel)
  exact ⟨htext, hplace.2 hshown, fun base r hr => (hfind base r hr).1 hshown⟩

/-- A projected column whose alias is the name of the key is hidden by the added key column: it is
looked up under its alias, and the first column of that name is the key. -/
theorem renamed_to_key_hidden :
    (Adapter.ofConfig .default).adapt "SELECT col0 AS rowkey FROM matview" (renamedQuery "rowkey")
      materialized = .ok "SELECT ROWKEY, COL0 AS ROWKEY FROM MATVIEW.test2" ∧
    Plan.build (renamedQuery "rowkey").projection materialized =
      .ok ⟨[⟨"rowkey", .field "rowkey" .bigint⟩], false⟩ ∧
    (Adapter.ofConfig .default).place (renamed "rowkey") 0 = 1 ∧
    ((Adapter.ofConfig .default).fetched (renamed "rowkey")).findIdx?
      (fun f => sameName f.name "rowkey") = some 0 ∧
    ∀ base r, base.project ((Adapter.ofConfig .default).fetched (renamed "rowkey")) = .ok r →
      r.find "rowkey" = Fetched.cell ⟨"ROWKEY", "ROWKEY"⟩ base := by
  have hhides :
      (Adapter.ofConfig .default).Hides (renamed "rowkey") ⟨"col0", some "rowkey"⟩ := by
    decide +kernel
  have hitem : (renamed "rowkey")[0]? = some ⟨"col0", some "rowkey"⟩ := rfl
  have hdistinct : (renamed "rowkey").Pairwise fun c d =>
      sameName c.outputName d.outputName = false := List.pairwise_singleton _ _
  refine ⟨rfl, rfl, rfl, ?_, fun base r hr => ?_⟩
  · have hfirst := Adapter.findIdx?_fetched (a := .ofConfig .default) hdistinct hitem
    rw [if_pos hhides] at hfirst
    exact hfirst
  · have hfind := Adapter.find_projected hdistinct hitem hr
    rw [if_pos hhides] at hfind
    exact hfind

end MatView
