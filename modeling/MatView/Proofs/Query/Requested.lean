import MatView.Proofs.Decoding.Nulls
import MatView.Proofs.Query.Head
import MatView.Proofs.Query.KeyClash

/-!
# The names that columns are asked for under

A head is put in upper case in every script, so the store is asked for a column under the upper-case
form of its output name. The column is looked up in the result set under the output name itself, and
there only the letters of ASCII are compared without regard to case. The two names agree if and only
if no letter beyond ASCII has another upper-case form.

## Main definitions

* `Unicode.FixedBeyondAscii`: upper case changes nothing but letters of ASCII.
* `Names`: names that stand in a text, one behind the other.
* `Adapter.requested`: the names that an adapted statement asks the store for.
* `Adapter.Asks`: the parts of an adapted text, and the place of these names in it.
* `Plan.Reads`: the names that are looked up in the result set.

## Main statements

* `Unicode.sameName_upper_iff`: when a name is found under its upper-case form.
* `Adapter.exists_asks`: the names that are asked for stand in the adapted text.
* `Decoder.decodePlanned_eq_missing`: only a name that is looked up is missed.
* `requested_found_iff`: rows with the names that were asked for can be decoded if and only if upper
  case changes nothing but letters of ASCII in the names that are looked up.
-/

namespace MatView

open Text (sameName Alike wordOf blanksBehind restBehind append_eq_parts)

/-! ## Names in upper case -/

namespace Unicode

/-- Upper case changes no character beyond ASCII. -/
def FixedBeyondAscii (cs : List Char) : Prop :=
  ∀ c ∈ cs, 0x80 ≤ c.toNat → upperChar c = [c]

instance : DecidablePred FixedBeyondAscii := fun cs =>
  List.decidableBAll (fun c : Char => 0x80 ≤ c.toNat → upperChar c = [c]) cs

theorem FixedBeyondAscii.alike {cs : List Char} (h : FixedBeyondAscii cs) :
    Alike (upperChars cs) cs := by
  induction cs with
  | nil => rfl
  | cons c cs ih =>
    obtain ⟨hc, hcs⟩ := List.forall_mem_cons.1 h
    by_cases hascii : c.toNat < 0x80
    · rw [upperChars_cons, upperChar_of_ascii hascii, List.singleton_append, Alike.cons_iff]
      exact ⟨Text.toLower_of_toUpper c, ih hcs⟩
    · rw [upperChars_cons, hc (Nat.le_of_not_lt hascii), List.singleton_append, Alike.cons_iff]
      exact ⟨rfl, ih hcs⟩

/-- Texts that are spelled alike have the same characters beyond ASCII. -/
theorem mem_of_alike {cs ds : List Char} {d : Char} (h : Alike cs ds) (hd : d ∈ ds)
    (hwide : 0x80 ≤ d.toNat) : d ∈ cs := by
  have hlower : d.toLower ∈ cs.map Char.toLower := by
    rw [show cs.map Char.toLower = ds.map Char.toLower from h]
    exact List.mem_map_of_mem hd
  rw [Text.toLower_of_wide hwide] at hlower
  obtain ⟨c, hc, rfl⟩ := List.mem_map.1 hlower
  by_cases hascii : c.toNat < 0x80
  · exact absurd (Text.toNat_toLower_lt hascii) (Nat.not_lt.2 hwide)
  · rwa [Text.toLower_of_wide (Nat.le_of_not_lt hascii)]

/-- What is found under an upper-case form has no other upper-case form beyond ASCII. -/
theorem fixedBeyondAscii_of_found {name other : String}
    (h : sameName (upper name) other = true) : FixedBeyondAscii other.toList := by
  intro d hd hwide
  rw [Text.sameName_iff_alike, toList_upper] at h
  obtain ⟨c, -, hdc⟩ := List.mem_flatMap.1 (mem_of_alike h hd hwide)
  exact upperChar_of_mem hdc

/-- A name is found under its upper-case form if and only if upper case changes nothing but letters of
ASCII in it. -/
theorem sameName_upper_iff {name : String} :
    sameName (upper name) name = true ↔ FixedBeyondAscii name.toList := by
  refine ⟨fixedBeyondAscii_of_found, fun h => ?_⟩
  rw [Text.sameName_iff_alike, toList_upper]
  exact h.alike

end Unicode

/-! ## Names in a text -/

/-- Names stand in a text, one behind the other. -/
def Names : List String → List Char → Prop
  | [], _ => True
  | name :: names, cs => ∃ gap rest, cs = gap ++ name.toList ++ rest ∧ Names names rest

namespace Names

variable {names : List String} {cs : List Char}

theorem prepend (h : Names names cs) (front : List Char) : Names names (front ++ cs) := by
  cases names with
  | nil => trivial
  | cons name names =>
    obtain ⟨gap, rest, rfl, hrest⟩ := h
    exact ⟨front ++ gap, rest, by simp only [List.append_assoc], hrest⟩

theorem append (h : Names names cs) (more : List Char) : Names names (cs ++ more) := by
  induction names generalizing cs with
  | nil => trivial
  | cons name names ih =>
    obtain ⟨gap, rest, rfl, hrest⟩ := h
    exact ⟨gap, rest ++ more, List.append_assoc _ _ _, ih hrest⟩

/-- The names of a text stand in its upper-case form, in upper case. -/
theorem upperChars (h : Names names cs) :
    Names (names.map Unicode.upper) (Unicode.upperChars cs) := by
  induction names generalizing cs with
  | nil => trivial
  | cons name names ih =>
    obtain ⟨gap, rest, rfl, hrest⟩ := h
    refine ⟨Unicode.upperChars gap, Unicode.upperChars rest, ?_, ih hrest⟩
    rw [Unicode.upperChars_append, Unicode.upperChars_append, Unicode.toList_upper]

end Names

/-! ## What the store is asked for -/

namespace Adapter

variable {a : Adapter} {statement text : String} {q : Query} {items : List SelectedColumn}
  {source : Source}

/-- The names that an adapted statement asks the store for: the key column if it is added, and the
output names of the projection in upper case. -/
def requested (a : Adapter) (items : List SelectedColumn) : List String :=
  (if a.injects (.columns items) then [a.keyColumn] else []) ++
    (items.map (·.outputName)).map Unicode.upper

/-- Where a list of columns is written, the adapted list has the names that are asked for. -/
theorem names_requested {list : List Char} (h : Names (items.map (·.outputName)) list)
    (more : List Char) : Names (a.requested items)
      (a.keyPrefix (.columns items) ++ (Unicode.upperChars list ++ more)) := by
  have hlist := h.upperChars.append more
  unfold requested keyPrefix
  split
  · exact ⟨[], [',', ' '] ++ (Unicode.upperChars list ++ more), by simp, hlist.prepend _⟩
  · exact hlist

/-- An adapted text consists of the statement with its head in upper case and the physical table
behind the name of its source, and of the key column between `lead` and `behind`. If this place is in
front of the source, it is one of the statement. Where the list behind it has the output names of the
projection, the adapted text has the names that are asked for. -/
structure Asks (a : Adapter) (q : Query) (items : List SelectedColumn) (source : Source)
    (pre token post predicate lead behind : List Char) (text : String) : Prop where
  parts : lead ++ behind = Unicode.upperChars pre ++ Unicode.upperChars token ++
    '.' :: source.physicalName.toList ++ Unicode.upperChars post ++ a.tail q.hasWhere predicate
  text_eq : text = String.ofList (lead ++ a.keyPrefix q.projection ++ behind)
  names : lead <+: Unicode.upperChars pre → ∃ before list, pre = before ++ list ∧
    lead = Unicode.upperChars before ∧ (Names (items.map (·.outputName)) list →
      Names (a.requested items) (a.keyPrefix q.projection ++ behind))

/-- Every adapted text asks for the names of its projection in upper case. -/
theorem exists_asks (h : a.adapt statement q source = .ok text)
    (hitems : q.projection = .columns items) : ∃ clause pre token post predicate lead behind,
      q.source = .ok clause ∧ statement.toList = pre ++ token ++ post ++ predicate ∧
      SourceCut q.hasWhere pre token post predicate ∧
      a.Asks q items source pre token post predicate lead behind text := by
  obtain ⟨clause, head, predicate, qualified, keyed, hclause, hsplit, hqualified, hkeyed, rfl⟩ :=
    adapt_eq_ok_iff.1 h
  obtain ⟨pre, token, post, hstatement, hcut, -, hparts⟩ := exists_cut_of_qualify hsplit hqualified
  by_cases hinjects : a.injects q.projection = true
  · simp only [hinjects, if_true] at hkeyed
    obtain ⟨front, selected, hselected, hfirst, rfl⟩ := inject_eq hkeyed
    refine ⟨clause, pre, token, post, predicate,
      front ++ wordOf "SELECT" selected ++ blanksBehind "SELECT" selected,
      restBehind "SELECT" selected ++ a.tail q.hasWhere predicate, hclause, hstatement, hcut, ?_, ?_,
      fun hle => ?_⟩
    · rw [← List.append_assoc, ← append_eq_parts, ← hselected, hparts]
    · simp only [keyPrefix, hinjects, if_true, List.append_assoc]
    · simp only [hselected, List.append_assoc (Unicode.upperChars pre)] at hparts
      obtain ⟨before, list, rfl, hlead, hrest⟩ := hfirst.starts.exists_cut hparts hle
      refine ⟨before, list, rfl, hlead, fun hlist => ?_⟩
      rw [hrest, hitems, List.append_assoc]
      exact names_requested hlist _
  · simp only [hinjects] at hkeyed
    cases hkeyed
    refine ⟨clause, pre, token, post, predicate, [], qualified ++ a.tail q.hasWhere predicate, hclause,
      hstatement, hcut, ?_, ?_, ?_⟩
    · rw [List.nil_append, hparts]
    · simp [keyPrefix, hinjects]
    · intro _
      refine ⟨[], pre, rfl, rfl, fun hlist => ?_⟩
      rw [hparts, hitems]
      simp only [List.append_assoc]
      exact names_requested hlist _

/-- With the settings of a configuration, all names that are asked for are in upper case. -/
theorem exists_upper_of_requested {config : Config} {name : String}
    (h : name ∈ (ofConfig config).requested items) : ∃ other, name = Unicode.upper other := by
  obtain hkey | hitem := List.mem_append.1 h
  · split at hkey
    · exact ⟨config.keyColumn, List.mem_singleton.1 hkey⟩
    · cases hkey
  · obtain ⟨other, -, rfl⟩ := List.mem_map.1 hitem
    exact ⟨other, rfl⟩

end Adapter

/-! ## What is looked up -/

/-- The names under which planned columns are looked up in the result set. -/
def Plan.Reads (p : Plan) (column : String) : Prop :=
  ∃ c ∈ p.columns, ∃ type, c.source = .field column type

/-- A column is looked up under the output name of its item. -/
theorem Plan.item_of_getElem? {items : List SelectedColumn} {source : Source} {p : Plan}
    (h : build (.columns items) source = .ok p) {i : Nat} {c : PlanColumn} {column : String}
    {type : DataType} (hi : p.columns[i]? = some c) (hc : c.source = .field column type) :
    ∃ item, items[i]? = some item ∧ column = item.outputName := by
  obtain ⟨columns, hcolumns, h⟩ := Error.bind_eq_ok.1 h
  cases h
  obtain ⟨item, hitem, hplanned⟩ := getElem?_selectedColumns hcolumns hi
  exact ⟨item, hitem, column_of_selectedColumn hplanned hc⟩

theorem Plan.Reads.mem_outputNames {items : List SelectedColumn} {source : Source} {p : Plan}
    {column : String} (h : p.Reads column) (hplan : build (.columns items) source = .ok p) :
    column ∈ items.map (·.outputName) := by
  obtain ⟨c, hmem, type, hc⟩ := h
  obtain ⟨i, hi⟩ := List.mem_iff_getElem?.1 hmem
  obtain ⟨item, hitem, rfl⟩ := item_of_getElem? hplan hi hc
  exact List.mem_map_of_mem (List.mem_of_getElem? hitem)

namespace ResultRow

variable {r : ResultRow} {column other : String} {fault : Error} {reading : Reading}

/-- A row has no column of the given name. -/
def Misses (r : ResultRow) (column : String) : Prop :=
  ∀ c ∈ r.cells, sameName c.name column = false

theorem find_eq_error_iff :
    r.find column = .error fault ↔ r.Misses column ∧ fault = .store (.missingColumn column) := by
  cases hcell : r.cells.find? fun c => sameName c.name column with
  | none =>
    have hmisses : r.Misses column := fun c hc => by simpa using List.find?_eq_none.1 hcell c hc
    simp [find, hcell, hmisses, eq_comm]
  | some c =>
    have hfound : ¬ r.Misses column := fun hmisses =>
      absurd (hmisses c (List.mem_of_find?_eq_some hcell)) (by simpa using List.find?_some hcell)
    simp [find, hcell, hfound]

theorem mem_of_find {c : Cell} (h : r.find column = .ok c) : c ∈ r.cells := by
  unfold find at h
  split at h
  · rename_i found hfound
    cases h
    exact List.mem_of_find?_eq_some hfound
  · cases h

/-- Only a column that is not there is missed. -/
theorem misses_of_readBy (h : r.readBy reading column = .error (.store (.missingColumn other))) :
    r.Misses column ∧ other = column := by
  cases hfind : r.find column with
  | error fault =>
    obtain ⟨hmisses, rfl⟩ := find_eq_error_iff.1 hfind
    rw [readBy_of_find_error hfind] at h
    cases h
    exact ⟨hmisses, rfl⟩
  | ok c => exact absurd rfl ((readBy_among_of_find hfind _ h).2 other)

/-- A row of nothing but null cells. -/
def nulls (names : List String) : ResultRow :=
  ⟨names.map fun name => ⟨name, .utf8, none⟩⟩

@[simp] theorem names_nulls (names : List String) : (nulls names).cells.map (·.name) = names := by
  simp [nulls, Function.comp_def]

theorem misses_nulls_iff {names : List String} :
    (nulls names).Misses column ↔ ∀ name ∈ names, sameName name column = false := by
  simp [Misses, nulls]

/-- A null cell can be read in every way, so only missing columns cannot. -/
theorem misses_of_readBy_nulls {names : List String}
    (h : (nulls names).readBy reading column = .error fault) :
    (nulls names).Misses column ∧ fault = .store (.missingColumn column) := by
  cases hfind : (nulls names).find column with
  | error other =>
    obtain ⟨hmisses, rfl⟩ := find_eq_error_iff.1 hfind
    rw [readBy_of_find_error hfind] at h
    cases h
    exact ⟨hmisses, rfl⟩
  | ok c =>
    obtain ⟨name, -, rfl⟩ := List.mem_map.1 (mem_of_find hfind)
    rw [readBy_eq_null_iff.2 ((answersNone_iff hfind).2 ⟨rfl, .inl rfl⟩)] at h
    cases h

end ResultRow

namespace Decoder

variable {d : Decoder} {r : ResultRow} {p : Plan} {source : Source} {fault : Error} {column : String}

/-- A row cannot be decoded if a planned column cannot be read. -/
theorem decodePlanned_eq_error (h : d.decodePlanned r p source = .error fault) :
    ∃ column type, p.Reads column ∧ r.readAs column type d.precision = .error fault := by
  obtain hvalues | ⟨_, -, h⟩ := Error.bind_eq_error.1 h
  · rw [columnValues_eq_mapM] at hvalues
    obtain ⟨front, c, back, hcolumns, -, hvalue⟩ := Error.mapM_eq_error_iff.1 hvalues
    cases hsource : c.source with
    | windowedKey =>
      rw [hsource] at hvalue
      cases hvalue
    | field column type =>
      rw [hsource] at hvalue
      exact ⟨column, type, ⟨c, by simp [hcolumns], type, hsource⟩, hvalue⟩
  · cases h

/-- Only a name that is looked up is missed. -/
theorem decodePlanned_eq_missing
    (h : d.decodePlanned r p source = .error (.store (.missingColumn column))) :
    p.Reads column ∧ r.Misses column := by
  obtain ⟨other, type, hreads, hread⟩ := decodePlanned_eq_error h
  obtain ⟨hmisses, rfl⟩ := ResultRow.misses_of_readBy hread
  exact ⟨hreads, hmisses⟩

/-- A row of null cells misses a name that is looked up and not there. -/
theorem exists_missing_of_nulls {names : List String} (hreads : p.Reads column)
    (hmisses : (ResultRow.nulls names).Misses column) :
    ∃ other, d.decodePlanned (.nulls names) p source = .error (.store (.missingColumn other)) := by
  cases h : d.decodePlanned (.nulls names) p source with
  | error fault =>
    obtain ⟨other, type, -, hread⟩ := decodePlanned_eq_error h
    obtain ⟨-, rfl⟩ := ResultRow.misses_of_readBy_nulls hread
    exact ⟨other, rfl⟩
  | ok row =>
    obtain ⟨values, hvalues, -⟩ := Error.bind_eq_ok.1 h
    obtain ⟨c, hc, type, hsource⟩ := hreads
    obtain ⟨front, back, hcolumns⟩ := List.append_of_mem hc
    rw [columnValues_eq_mapM, hcolumns, Error.mapM_append_eq_ok_iff] at hvalues
    obtain ⟨-, others, -, hothers, -⟩ := hvalues
    rw [List.mapM_cons] at hothers
    obtain ⟨v, hv, -⟩ := Error.bind_eq_ok.1 hothers
    rw [hsource, columnValue, ResultRow.readAs,
      ResultRow.readBy_of_find_error (ResultRow.find_eq_error_iff.2 ⟨hmisses, rfl⟩)] at hv
    cases hv

end Decoder

/-! ## Asked for and looked up -/

/-- Every column is asked for under the upper-case form of its output name, in every script. It is
found under this name if and only if upper case changes nothing but letters of ASCII in it. So rows
with the names that were asked for can be decoded without a missing column if and only if this holds
of every name that is looked up. -/
theorem requested_found_iff {config : Config} {statement text : String} {q : Query}
    {items : List SelectedColumn} {source : Source} {plan : Plan}
    (hitems : q.projection = .columns items) (hplan : Plan.build q.projection source = .ok plan)
    (htext : (Adapter.ofConfig config).adapt statement q source = .ok text) :
    (∃ clause pre token post predicate lead behind,
      q.source = .ok clause ∧ statement.toList = pre ++ token ++ post ++ predicate ∧
      SourceCut q.hasWhere pre token post predicate ∧
      (Adapter.ofConfig config).Asks q items source pre token post predicate lead behind text) ∧
    (∀ (i : Nat) c column type, plan.columns[i]? = some c → c.source = .field column type →
      ∃ item, items[i]? = some item ∧ column = item.outputName ∧
        Unicode.upper item.outputName ∈ (Adapter.ofConfig config).requested items ∧
        (sameName (Unicode.upper item.outputName) column = true ↔
          Unicode.FixedBeyondAscii column.toList)) ∧
    ((∀ reader r, r.cells.map (·.name) = (Adapter.ofConfig config).requested items → ∀ column,
        (Decoder.ofConfig config reader).decodePlanned r plan source ≠
          .error (.store (.missingColumn column))) ↔
      ∀ column, plan.Reads column → Unicode.FixedBeyondAscii column.toList) := by
  rw [hitems] at hplan
  have hrequested : ∀ {name}, name ∈ items.map (·.outputName) →
      Unicode.upper name ∈ (Adapter.ofConfig config).requested items := fun hname =>
    List.mem_append_right _ (List.mem_map_of_mem hname)
  refine ⟨Adapter.exists_asks htext hitems, ?_, ?_, ?_⟩
  · intro i c column type hi hc
    obtain ⟨item, hitem, rfl⟩ := Plan.item_of_getElem? hplan hi hc
    exact ⟨item, hitem, rfl, hrequested (List.mem_map_of_mem (List.mem_of_getElem? hitem)),
      Unicode.sameName_upper_iff⟩
  · -- A row of null cells fails for nothing but a name that is not there.
    intro hdecodes column hreads
    by_contra hfixed
    have hmisses : (ResultRow.nulls ((Adapter.ofConfig config).requested items)).Misses column := by
      refine ResultRow.misses_nulls_iff.2 fun name hname => ?_
      obtain ⟨other, rfl⟩ := Adapter.exists_upper_of_requested hname
      exact Bool.eq_false_iff.2 fun hfound =>
        hfixed (Unicode.fixedBeyondAscii_of_found hfound)
    obtain ⟨other, hmissing⟩ := Decoder.exists_missing_of_nulls hreads hmisses
    exact hdecodes WindowedKey.decode _ (ResultRow.names_nulls _) other hmissing
  · intro hfixed reader r hnames column hmissing
    obtain ⟨hreads, hmisses⟩ := Decoder.decodePlanned_eq_missing hmissing
    have hname := hrequested (hreads.mem_outputNames hplan)
    rw [← hnames] at hname
    obtain ⟨c, hc, hcolumn⟩ := List.mem_map.1 hname
    have hfound := Unicode.sameName_upper_iff.2 (hfixed column hreads)
    rw [← hcolumn, hmisses c hc] at hfound
    cases hfound

/-- A source with a column in a script without case. -/
def prices : Source where
  name := "PRICES"
  schema := ⟨some ⟨"ROWKEY", .string⟩, [⟨"価格", .bigint⟩, ⟨"COL0", .bigint⟩]⟩
  physicalName := "prices_v1"

/-- The plan of this column and of a column under another name. -/
def pricesPlan : Plan where
  columns := [⟨"価格", .field "価格" .bigint⟩, ⟨"Ölpreis", .field "Ölpreis" .bigint⟩]
  windowed := false

/-- A name without case and a name with a capital beyond ASCII are found. -/
theorem prices_found :
    (Adapter.ofConfig .default).adapt "select 価格, col0 as Ölpreis from prices"
        { from? := some ⟨"prices", none⟩
          projection := .columns [⟨"価格", none⟩, ⟨"col0", some "Ölpreis"⟩] } prices =
      .ok "SELECT ROWKEY, 価格, COL0 AS ÖLPREIS FROM PRICES.prices_v1" ∧
    (Adapter.ofConfig .default).requested [⟨"価格", none⟩, ⟨"col0", some "Ölpreis"⟩] =
      ["ROWKEY", "価格", "ÖLPREIS"] ∧
    sameName (Unicode.upper "Ölpreis") "Ölpreis" = true ∧
    ∀ reader r, r.cells.map (·.name) = ["ROWKEY", "価格", "ÖLPREIS"] → ∀ column,
      (Decoder.ofConfig .default reader).decodePlanned r pricesPlan prices ≠
        .error (.store (.missingColumn column)) := by
  have htext : (Adapter.ofConfig .default).adapt "select 価格, col0 as Ölpreis from prices"
      { from? := some ⟨"prices", none⟩
        projection := .columns [⟨"価格", none⟩, ⟨"col0", some "Ölpreis"⟩] } prices =
          .ok "SELECT ROWKEY, 価格, COL0 AS ÖLPREIS FROM PRICES.prices_v1" :=
    Adapter.eq_ok_of_toOption (by decide +kernel)
  have hnames : (Adapter.ofConfig .default).requested [⟨"価格", none⟩, ⟨"col0", some "Ölpreis"⟩] =
      ["ROWKEY", "価格", "ÖLPREIS"] := by decide +kernel
  have hplan : Plan.build (.columns [⟨"価格", none⟩, ⟨"col0", some "Ölpreis"⟩]) prices =
      .ok pricesPlan := Adapter.eq_ok_of_toOption (by decide +kernel)
  obtain ⟨-, hfound, hdecodes⟩ := requested_found_iff rfl hplan htext
  obtain ⟨item, -, hcolumn, -, hname⟩ :=
    hfound 1 ⟨"Ölpreis", .field "Ölpreis" .bigint⟩ "Ölpreis" .bigint rfl rfl
  rw [← hcolumn] at hname
  rw [hnames] at hdecodes
  refine ⟨htext, hnames, hname.2 (by decide +kernel), hdecodes.2 ?_⟩
  rintro column ⟨c, hc, type, hsource⟩
  simp only [pricesPlan, List.mem_cons, List.not_mem_nil, or_false] at hc
  obtain rfl | rfl := hc <;> cases hsource <;> decide +kernel

/-- A source with a column whose name has a capital beyond ASCII. -/
def accented : Source where
  name := "MATVIEW"
  schema := ⟨some ⟨"ROWKEY", .string⟩, [⟨"é", .bigint⟩]⟩
  physicalName := "test2"

/-- A small letter beyond ASCII is asked for in upper case, and not found in a row that has it so. -/
theorem accent_missed :
    (Adapter.ofConfig .default).adapt "SELECT é FROM matview"
        { from? := some ⟨"matview", none⟩, projection := .columns [⟨"é", none⟩] } accented =
      .ok "SELECT ROWKEY, É FROM MATVIEW.test2" ∧
    (Adapter.ofConfig .default).requested [⟨"é", none⟩] = ["ROWKEY", "É"] ∧
    Plan.build (.columns [⟨"é", none⟩]) accented = .ok ⟨[⟨"é", .field "é" .bigint⟩], false⟩ ∧
    sameName "É" "é" = false ∧
    (Decoder.ofConfig .default WindowedKey.decode).decodePlanned
        ⟨[⟨"ROWKEY", .utf8, some "k"⟩, ⟨"É", .int64, some (5 : Int64)⟩]⟩
        ⟨[⟨"é", .field "é" .bigint⟩], false⟩ accented =
      .error (.store (.missingColumn "é")) :=
  ⟨Adapter.eq_ok_of_toOption (by decide +kernel), by decide +kernel,
    Adapter.eq_ok_of_toOption (by decide +kernel), by decide +kernel, rfl⟩

end MatView
