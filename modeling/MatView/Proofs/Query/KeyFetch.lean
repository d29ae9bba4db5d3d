import MatView.Decoding.Decoder
import MatView.Proofs.Query.Adapted

/-!
# Whether a windowed query fetches its key

A select list names columns, and the store returns each of them under its output name. Whether the
key column is added to a list depends on the columns that it refers to, but the key of a row is
looked up by output name. The two agree as long as the first column that is returned under the name
of the key is the key.

## Main definitions

* `Fetched`, `ResultRow.project`: select lists and the rows that a store returns for them.
* `Adapter.fetched`: the select list of an adapted statement.
* `FetchesKey`: the key is found in the rows that are returned.
* `KeepsKey`: a projection does not hide the key.

## Main statements

* `rawKey_project_iff`: the key is found in every row if and only if the list fetches it.
* `windowed_key_fetched_iff`: an adapted statement fetches the key if and only if its projection does
  not hide it.
-/

namespace MatView

open Text (sameName)

/-! ## Select lists -/

/-- A column that the store is asked for, and the name that it is returned under. -/
structure Fetched where
  column : String
  name : String
  deriving DecidableEq

/-- The column of a row of a table under its new name. -/
def Fetched.cell (f : Fetched) (base : ResultRow) : Except Error Cell := do
  let c ← base.find f.column
  return ⟨f.name, c.type, c.content⟩

namespace ResultRow

/-- The columns of a row of a table that a select list asks for. -/
def fetch (base : ResultRow) : List Fetched → Except Error (List Cell)
  | [] => .ok []
  | f :: rest => do
    let c ← f.cell base
    let cs ← base.fetch rest
    return c :: cs

/-- The row that a store returns for a row of a table. -/
def project (base : ResultRow) (list : List Fetched) : Except Error ResultRow := do
  let cells ← base.fetch list
  return ⟨cells⟩

end ResultRow

/-- The select list of an adapted statement: the key column if it is added, and the columns of the
projection in their order. -/
def Adapter.fetched (a : Adapter) (items : List SelectedColumn) : List Fetched :=
  (if a.injects (.columns items) then [⟨a.keyColumn, a.keyColumn⟩] else []) ++
    items.map fun c => ⟨c.column, c.outputName⟩

/-- The first column that a list returns under the name of the key is the key. -/
def FetchesKey (keyColumn : String) (list : List Fetched) : Prop :=
  ∃ f, list.find? (fun f => sameName f.name keyColumn) = some f ∧
    sameName f.column keyColumn = true

/-- A projection does not hide the key: it does not refer to it at all, or the first column that it
returns under the name of the key is the key. -/
def KeepsKey (keyColumn : String) (items : List SelectedColumn) : Prop :=
  (∀ c ∈ items, sameName c.column keyColumn = false) ∨
    ∃ c, items.find? (fun c => sameName c.outputName keyColumn) = some c ∧
      sameName c.column keyColumn = true

/-! ## What the store returns -/

variable {base r : ResultRow} {list : List Fetched} {keyColumn : String}

/-- Spellings of one name are found alike. -/
theorem ResultRow.find_congr {a b : String} {c : Cell} (h : sameName a b = true)
    (hfind : base.find a = .ok c) : base.find b = .ok c := by
  have hfold : ∀ c : Cell, sameName c.name a = sameName c.name b := by
    intro c
    simp [sameName, Text.sameName_iff.1 h]
  simp only [find, hfold] at hfind ⊢
  split at hfind
  · exact hfind
  · cases hfind

/-- The cells of a returned row have the names and contents that its list asks for. -/
theorem Fetched.cell_eq_ok_iff {f : Fetched} {c : Cell} : f.cell base = .ok c ↔
    ∃ found, base.find f.column = .ok found ∧ c = ⟨f.name, found.type, found.content⟩ := by
  constructor
  · intro h
    obtain ⟨found, hfound, h⟩ := Error.bind_eq_ok.1 h
    cases h
    exact ⟨found, hfound, rfl⟩
  · rintro ⟨found, hfound, rfl⟩
    exact Error.bind_eq_ok.2 ⟨found, hfound, rfl⟩

theorem ResultRow.cell_of_fetch {cells : List Cell} (h : base.fetch list = .ok cells) :
    ∀ f ∈ list, ∃ c, f.cell base = .ok c := by
  induction list generalizing cells with
  | nil => simp
  | cons f rest ih =>
    obtain ⟨c, hc, h⟩ := Error.bind_eq_ok.1 h
    obtain ⟨cs, hcs, -⟩ := Error.bind_eq_ok.1 h
    exact List.forall_mem_cons.2 ⟨⟨c, hc⟩, ih hcs⟩

/-- A row is returned if all columns of the list are there. -/
theorem ResultRow.exists_fetch (h : ∀ f ∈ list, ∃ c, f.cell base = .ok c) :
    ∃ cells, base.fetch list = .ok cells := by
  induction list with
  | nil => exact ⟨[], rfl⟩
  | cons f rest ih =>
    obtain ⟨⟨c, hc⟩, hrest⟩ := List.forall_mem_cons.1 h
    obtain ⟨cs, hcs⟩ := ih hrest
    exact ⟨c :: cs, Error.bind_eq_ok.2 ⟨c, hc, Error.bind_eq_ok.2 ⟨cs, hcs, rfl⟩⟩⟩

/-- What is found in a returned row under a name is the first column returned under it. -/
theorem ResultRow.find_fetch {cells : List Cell} (h : base.fetch list = .ok cells)
    (name : String) : (ResultRow.mk cells).find name =
      match list.find? fun f => sameName f.name name with
      | some f => f.cell base
      | none => .error (.store (.missingColumn name)) := by
  induction list generalizing cells with
  | nil =>
    cases h
    rfl
  | cons f rest ih =>
    obtain ⟨c, hc, h⟩ := Error.bind_eq_ok.1 h
    obtain ⟨cs, hcs, h⟩ := Error.bind_eq_ok.1 h
    cases h
    have hname : c.name = f.name := by
      obtain ⟨found, -, rfl⟩ := Fetched.cell_eq_ok_iff.1 hc
      rfl
    have htail := ih hcs
    by_cases hf : sameName f.name name = true
    · simp [find, hname, hf, hc]
    · simp only [Bool.not_eq_true] at hf
      simpa [find, hname, hf] using htail

/-- A list that fetches the key returns each row with its own key. -/
theorem KeyLookup.rawKey_project (d : KeyLookup) (h : FetchesKey d.keyColumn list)
    (hr : base.project list = .ok r) : d.rawKey r = d.rawKey base := by
  obtain ⟨f, hf, hcolumn⟩ := h
  obtain ⟨cells, hcells, hr⟩ := Error.bind_eq_ok.1 hr
  cases hr
  obtain ⟨c, hc⟩ := ResultRow.cell_of_fetch hcells f (List.mem_of_find?_eq_some hf)
  obtain ⟨found, hfound, rfl⟩ := Fetched.cell_eq_ok_iff.1 hc
  have hbase := ResultRow.find_congr hcolumn hfound
  have hreturned := ResultRow.find_fetch hcells d.keyColumn
  rw [hf] at hreturned
  have hread : (ResultRow.mk cells).readAny d.keyColumn = base.readAny d.keyColumn := by
    simp only [ResultRow.readAny, hreturned, hc, hbase]
    rfl
  simp only [rawKey, hread]

/-- A column with one text if it is the key and with another one if it is not. -/
def markedCell (keyColumn column : String) : Cell :=
  ⟨column, .utf8, some (if sameName column keyColumn then "key" else "")⟩

/-- A row of a table that tells its key from its other columns. -/
def markedRow (keyColumn : String) (list : List Fetched) : ResultRow :=
  ⟨(keyColumn :: list.map (·.column)).map (markedCell keyColumn)⟩

theorem find_markedRow (keyColumn : String) (list : List Fetched) {column : String}
    (h : column ∈ keyColumn :: list.map (·.column)) :
    ∃ name, sameName name column = true ∧
      (markedRow keyColumn list).find column = .ok (markedCell keyColumn name) := by
  obtain ⟨name, hname⟩ : ∃ name,
      (keyColumn :: list.map (·.column)).find? (fun n => sameName n column) = some name := by
    rw [← Option.isSome_iff_exists, List.find?_isSome]
    exact ⟨column, h, Text.sameName_self column⟩
  refine ⟨name, by simpa using List.find?_some hname, ?_⟩
  have hfind : ((fun c : Cell => sameName c.name column) ∘ markedCell keyColumn) =
      fun n => sameName n column := rfl
  rw [ResultRow.find, markedRow, List.find?_map, hfind, hname]
  rfl

/-- The key is found in every row if and only if the list fetches it. -/
theorem rawKey_project_iff (d : KeyLookup) (list : List Fetched) :
    (∀ base r, base.project list = .ok r → d.rawKey r = d.rawKey base) ↔
      FetchesKey d.keyColumn list := by
  constructor
  · intro h
    have hcells : ∀ f ∈ list, ∃ c, f.cell (markedRow d.keyColumn list) = .ok c := by
      intro f hf
      obtain ⟨name, -, hfind⟩ := find_markedRow d.keyColumn list
        (List.mem_cons_of_mem _ (List.mem_map_of_mem hf))
      exact ⟨_, Fetched.cell_eq_ok_iff.2 ⟨_, hfind, rfl⟩⟩
    obtain ⟨cells, hfetch⟩ := ResultRow.exists_fetch hcells
    have hkey := h _ ⟨cells⟩ (Error.bind_eq_ok.2 ⟨cells, hfetch, rfl⟩)
    have hbase : d.rawKey (markedRow d.keyColumn list) = .ok (Utf8.ofString "key") := by
      obtain ⟨name, hname, hfind⟩ := find_markedRow d.keyColumn list
        (List.mem_cons_self : d.keyColumn ∈ _)
      simp only [KeyLookup.rawKey, ResultRow.readAny, hfind, markedCell, hname]
      rfl
    have hreturned := ResultRow.find_fetch hfetch d.keyColumn
    rw [hbase] at hkey
    cases hf : list.find? fun f => sameName f.name d.keyColumn with
    | none =>
      rw [hf] at hreturned
      simp only [KeyLookup.rawKey, ResultRow.readAny, hreturned] at hkey
      cases hkey
    | some f =>
      refine ⟨f, hf, ?_⟩
      obtain ⟨name, hname, hfind⟩ := find_markedRow d.keyColumn list
        (List.mem_cons_of_mem _ (List.mem_map_of_mem (List.mem_of_find?_eq_some hf)))
      have hcell := Fetched.cell_eq_ok_iff.2 ⟨_, hfind, rfl⟩
      cases hcolumn : sameName f.column d.keyColumn with
      | true => rfl
      | false =>
        -- The column that is returned in place of the key holds the other text.
        have hother : sameName name d.keyColumn = false := by
          simpa [sameName, Text.sameName_iff.1 hname] using hcolumn
        rw [hf] at hreturned
        simp only [KeyLookup.rawKey, ResultRow.readAny, hreturned, hcell, markedCell,
          hother] at hkey
        cases hkey
  · intro h base r hr
    exact d.rawKey_project h hr

/-! ## What a projection asks for -/

/-- The key column is added exactly to the lists that do not refer to it. -/
theorem fetchesKey_iff {a : Adapter} (hkey : sameName a.keyColumn keyColumn = true)
    (hinject : a.injectKeyColumn = true) (items : List SelectedColumn) :
    FetchesKey keyColumn (a.fetched items) ↔ KeepsKey keyColumn items := by
  have hsame : ∀ column, sameName column a.keyColumn = sameName column keyColumn := by
    intro column
    simp [sameName, Text.sameName_iff.1 hkey]
  have hfind : (items.map fun c : SelectedColumn => Fetched.mk c.column c.outputName).find?
        (fun f => sameName f.name keyColumn) =
      (items.find? fun c => sameName c.outputName keyColumn).map
        fun c => ⟨c.column, c.outputName⟩ := List.find?_map ..
  by_cases hnamed : ∃ c ∈ items, sameName c.column keyColumn = true
  · have hinjects : a.injects (.columns items) = false := by
      simpa [Adapter.injects, hinject, hsame] using hnamed
    have hnot : ¬ ∀ c ∈ items, sameName c.column keyColumn = false := by
      intro h
      obtain ⟨c, hc, hname⟩ := hnamed
      rw [h c hc] at hname
      cases hname
    have hlist : a.fetched items = items.map fun c => ⟨c.column, c.outputName⟩ := by
      simp [Adapter.fetched, hinjects]
    simp only [FetchesKey, KeepsKey, hlist, hfind, hnot, false_or]
    constructor
    · rintro ⟨f, hf, hcolumn⟩
      obtain ⟨c, hc, rfl⟩ := Option.map_eq_some_iff.1 hf
      exact ⟨c, hc, hcolumn⟩
    · rintro ⟨c, hc, hcolumn⟩
      exact ⟨⟨c.column, c.outputName⟩, by simp [hc], hcolumn⟩
  · have hnone : ∀ c ∈ items, sameName c.column keyColumn = false := by
      simpa using hnamed
    have hinjects : a.injects (.columns items) = true := by
      simpa [Adapter.injects, hinject, hsame] using hnone
    constructor
    · exact fun _ => .inl hnone
    · intro _
      exact ⟨⟨a.keyColumn, a.keyColumn⟩, by simp [Adapter.fetched, hinjects, hkey], hkey⟩

/-- An adapted statement over a windowed source fetches the key of every row if and only if its
projection does not hide the key. Then the window of a returned row is the one of its own key. -/
theorem windowed_key_fetched_iff {config : Config} {reader : KeyReader} {source : Source}
    {statement text : String} {q : Query} {items : List SelectedColumn} {plan : Plan}
    (hplain : ∀ c ∈ config.keyColumn.toList, Text.isPlain c = true)
    (hinject : config.injectKeyColumn = true) (hwindowed : source.isWindowed = true)
    (hitems : q.projection = .columns items) (hplan : Plan.build q.projection source = .ok plan)
    (htext : (Adapter.ofConfig config).adapt statement q source = .ok text) :
    (∃ front back, (Adapter.ofConfig config).withoutKey.adapt statement q source =
        .ok (String.ofList (front ++ back)) ∧ text = String.ofList
          (front ++ (Adapter.ofConfig config).keyPrefix (.columns items) ++ back)) ∧
      (FetchesKey config.keyColumn ((Adapter.ofConfig config).fetched items) ↔
        KeepsKey config.keyColumn items) ∧
      ((∀ base r, base.project ((Adapter.ofConfig config).fetched items) = .ok r →
          (Decoder.ofConfig config reader).keys.rawKey r =
            (Decoder.ofConfig config reader).keys.rawKey base) ↔
        KeepsKey config.keyColumn items) ∧
      (KeepsKey config.keyColumn items → ∀ base r,
        base.project ((Adapter.ofConfig config).fetched items) = .ok r →
          (Decoder.ofConfig config reader).windowedKey? r plan source =
            ((Decoder.ofConfig config reader).keys.windowedKey base source).toOption) := by
  have hkey : sameName (Adapter.ofConfig config).keyColumn config.keyColumn = true :=
    Unicode.sameName_upper hplain
  have hfetches := fetchesKey_iff hkey hinject items
  have hreads := rawKey_project_iff (Decoder.ofConfig config reader).keys
    ((Adapter.ofConfig config).fetched items)
  have hplanned : plan.windowed = true := (Plan.windowed_of_build hplan).trans hwindowed
  refine ⟨?_, hfetches, hreads.trans hfetches, ?_⟩
  · obtain ⟨front, back, hplainText, hkeyed, -⟩ := Adapter.adapt_keyed htext
    exact ⟨front, back, hplainText, hitems ▸ hkeyed⟩
  · intro hkeeps base r hr
    have hraw := hreads.2 (hfetches.2 hkeeps) base r hr
    simp only [Decoder.windowedKey?, hplanned, if_true, KeyLookup.windowedKey, hraw]

/-- A view with windows of one hour. -/
def hourlyViews : Source where
  name := "PAGEVIEWS"
  schema := ⟨some ⟨"ROWKEY", .string⟩, [⟨"COL0", .bigint⟩]⟩
  physicalName := "views_v1"
  keyFormat := some ⟨.tumbling 3600000, .string⟩

/-- A projection of a value column fetches the key, so each row has its own window. -/
theorem value_column_fetches_key :
    (Adapter.ofConfig .default).adapt "SELECT col0 FROM pageviews"
        { from? := some ⟨"pageviews", none⟩, projection := .columns [⟨"col0", none⟩] } hourlyViews =
      .ok "SELECT ROWKEY, COL0 FROM PAGEVIEWS.views_v1" ∧
    KeepsKey "rowkey" [⟨"col0", none⟩] ∧
    ∀ base r, base.project ((Adapter.ofConfig .default).fetched [⟨"col0", none⟩]) = .ok r →
      (Decoder.ofConfig .default WindowedKey.decode).windowedKey? r
          ⟨[⟨"col0", .field "col0" .bigint⟩], true⟩ hourlyViews =
        ((Decoder.ofConfig .default WindowedKey.decode).keys.windowedKey base
          hourlyViews).toOption := by
  have hkeeps : KeepsKey "rowkey" [⟨"col0", none⟩] := .inl (by decide)
  have htext : (Adapter.ofConfig .default).adapt "SELECT col0 FROM pageviews"
      { from? := some ⟨"pageviews", none⟩, projection := .columns [⟨"col0", none⟩] } hourlyViews =
        .ok "SELECT ROWKEY, COL0 FROM PAGEVIEWS.views_v1" := rfl
  have h := @windowed_key_fetched_iff .default WindowedKey.decode _ _ _ _ _ _
    (List.all_eq_true.1 (by decide)) rfl rfl rfl rfl htext
  exact ⟨htext, hkeeps, h.2.2.2 hkeeps⟩

/-- A projection that renames the key hides it: the statement refers to the key, so the key column is
not added, and no row has a window. -/
theorem renamed_key_not_fetched :
    (Adapter.ofConfig .default).adapt "SELECT rowkey AS k, col0 FROM pageviews"
        { from? := some ⟨"pageviews", none⟩
          projection := .columns [⟨"rowkey", some "k"⟩, ⟨"col0", none⟩] } hourlyViews =
      .ok "SELECT ROWKEY AS K, COL0 FROM PAGEVIEWS.views_v1" ∧
    Plan.build (.columns [⟨"rowkey", some "k"⟩, ⟨"col0", none⟩]) hourlyViews =
      .ok ⟨[⟨"k", .windowedKey⟩, ⟨"col0", .field "col0" .bigint⟩], true⟩ ∧
    hourlyViews.isWindowed = true ∧
    ¬ FetchesKey "rowkey"
      ((Adapter.ofConfig .default).fetched [⟨"rowkey", some "k"⟩, ⟨"col0", none⟩]) ∧
    ∀ base r : ResultRow, base.project
        ((Adapter.ofConfig .default).fetched [⟨"rowkey", some "k"⟩, ⟨"col0", none⟩]) = .ok r →
      (Decoder.ofConfig .default WindowedKey.decode).windowedKey? r
        ⟨[⟨"k", .windowedKey⟩, ⟨"col0", .field "col0" .bigint⟩], true⟩ hourlyViews = none := by
  have hnone : ((Adapter.ofConfig .default).fetched [⟨"rowkey", some "k"⟩, ⟨"col0", none⟩]).find?
      (fun f => sameName f.name "rowkey") = none := by decide +kernel
  refine ⟨rfl, rfl, rfl, ?_, ?_⟩
  · rintro ⟨f, hf, -⟩
    rw [hnone] at hf
    cases hf
  · intro base r hr
    obtain ⟨cells, hcells, hr⟩ := Error.bind_eq_ok.1 hr
    cases hr
    have hfind := ResultRow.find_fetch hcells "rowkey"
    rw [hnone] at hfind
    have hraw : (Decoder.ofConfig .default WindowedKey.decode).keys.rawKey ⟨cells⟩ =
        .error (.store (.missingColumn "rowkey")) := by
      have hcolumn : (Decoder.ofConfig .default WindowedKey.decode).keys.keyColumn = "rowkey" := rfl
      simp only [KeyLookup.rawKey, ResultRow.readAny, hcolumn, hfind]
      rfl
    simp only [Decoder.windowedKey?, KeyLookup.windowedKey, hourlyViews, hraw]
    rfl

end MatView
