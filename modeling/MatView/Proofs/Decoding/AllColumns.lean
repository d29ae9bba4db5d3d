import MatView.Decoding.Decoder
import MatView.Proofs.Query.Items

/-!
# All columns and the list of their names

A projection of all columns copies the declared values of the source, one by one, while a projection
that lists their names looks each of them up. What is looked up is the first column of that name, the
key before all values, and the key of a windowed source is not read as a column. The two projections
are planned alike as long as this gives each value its own type and none of them the key.

## Main definitions

* `Schema.valueNames`: the projection that lists the names of all values.
* `Source.ReadsByName`: a value is found under its name, as it is declared.

## Main statements

* `Plan.exists_build_valueNames`: the names of the values can always be planned.
* `Plan.build_valueNames_iff`: when they are planned like all columns.
* `Decoder.all_columns_by_name`: names that are told apart are decoded like all columns.
-/

namespace MatView

open Text (sameName)

/-! ## Values and their names -/

namespace Schema

variable {s : Schema} {f : Field}

/-- The projection that lists the names of all values, in their order. -/
def valueNames (s : Schema) : List SelectedColumn :=
  s.values.map fun f => ⟨f.name, none⟩

theorem mem_fields_of_mem_values (h : f ∈ s.values) : f ∈ s.fields :=
  List.mem_append_right _ h

/-- Something is found under the name of a declared column. -/
theorem exists_find?_of_mem (h : f ∈ s.fields) :
    ∃ g, s.find? f.name = some g ∧ sameName g.name f.name = true := by
  cases hfind : s.find? f.name with
  | none =>
    have hnone := List.find?_eq_none.1 hfind f h
    simp at hnone
  | some g => exact ⟨g, rfl, (find?_some hfind).2⟩

/-- Among names that are told apart, each column is found under its own. -/
theorem find?_of_distinct (hdistinct : s.fields.Pairwise fun f g => sameName f.name g.name = false)
    (h : f ∈ s.fields) : s.find? f.name = some f := by
  unfold find?
  generalize s.fields = columns at hdistinct h
  induction hdistinct with
  | nil => cases h
  | @cons g rest hfirst _ ih =>
    rcases List.mem_cons.1 h with rfl | hrest
    · simp
    · rw [List.find?_cons_of_neg (by simp [hfirst f hrest])]
      exact ih hrest

/-- Among names that are told apart, no value has the name of the key. -/
theorem isKey_of_distinct (hdistinct : s.fields.Pairwise fun f g => sameName f.name g.name = false)
    (h : f ∈ s.values) : s.isKey f.name = false := by
  cases hkey : s.key with
  | none => simp [isKey, hkey]
  | some k =>
    have hk : ∀ g ∈ s.values, sameName k.name g.name = false := by
      have hfields : s.fields = k :: s.values := by simp [fields, hkey]
      rw [hfields] at hdistinct
      exact (List.pairwise_cons.1 hdistinct).1
    simpa [isKey, hkey] using hk f h

end Schema

/-- A value is found under its name as it is declared: what is looked up has its type, and it is not
the key of a windowed source. -/
def Source.ReadsByName (s : Source) (f : Field) : Prop :=
  (s.schema.find? f.name).map (·.type) = some f.type ∧
    (s.isWindowed = true → s.schema.isKey f.name = false)

/-! ## Plans -/

namespace Plan

variable {source : Source} {f g : Field}

/-- The column of a name, given what is found under it. -/
theorem selectedColumn_of_find? (hg : source.schema.find? f.name = some g) :
    selectedColumn source ⟨f.name, none⟩ = .ok ⟨f.name,
      if source.isWindowed && source.schema.isKey f.name then .windowedKey
      else .field f.name g.type⟩ := by
  have hname : sameName g.name f.name = true := (Schema.find?_some hg).2
  have hkey : source.schema.isKey g.name = source.schema.isKey f.name := by
    simp only [Schema.isKey, Text.sameName_congr hname]
  simp only [selectedColumn, resolve?, SelectedColumn.outputName, hg, Option.some_or,
    Option.getD_none, hkey]
  split_ifs <;> rfl

/-- The name of a value is planned like the value itself if it is found under its name. -/
theorem selectedColumn_eq_valueColumn_iff (hf : f ∈ source.schema.values) :
    selectedColumn source ⟨f.name, none⟩ = .ok (valueColumn f) ↔ source.ReadsByName f := by
  obtain ⟨g, hg, -⟩ := Schema.exists_find?_of_mem (Schema.mem_fields_of_mem_values hf)
  rw [selectedColumn_of_find? hg, Source.ReadsByName, hg, valueColumn]
  cases source.isWindowed <;> cases source.schema.isKey f.name <;> simp

/-- The names of the values can always be planned. -/
theorem exists_build_valueNames (source : Source) :
    ∃ plan, build (.columns source.schema.valueNames) source = .ok plan := by
  cases hplan : build (.columns source.schema.valueNames) source with
  | ok plan => exact ⟨plan, rfl⟩
  | error fault =>
    obtain ⟨front, item, back, hitems, -, hunknown, -⟩ := build_columns_eq_error_iff.1 hplan
    have hitem : item ∈ source.schema.valueNames := by
      rw [hitems]
      exact List.mem_append_right _ List.mem_cons_self
    obtain ⟨f, hf, rfl⟩ := List.mem_map.1 hitem
    exact absurd ⟨f, Schema.mem_fields_of_mem_values hf, .inl (Text.sameName_self _)⟩ hunknown

/-- The names of the values are planned like all columns if and only if each value is found under its
name, as it is declared. -/
theorem build_valueNames_iff (source : Source) :
    build (.columns source.schema.valueNames) source = build .all source ↔
      ∀ f ∈ source.schema.values, source.ReadsByName f := by
  rw [build, build_columns_eq_ok_iff, Schema.valueNames, List.forall₂_map_left_iff,
    List.forall₂_map_right_iff, List.forall₂_same]
  exact ⟨fun h f hf => (selectedColumn_eq_valueColumn_iff hf).1 (h.1 f hf),
    fun h => ⟨fun f hf => (selectedColumn_eq_valueColumn_iff hf).2 (h f hf), rfl⟩⟩

end Plan

/-! ## Rows -/

/-- The names of the values can always be planned, and the plan is the one of all columns if and only
if each value is found under its name, as it is declared. Names that are told apart, the key among
them, are decoded like all columns: to the same values, or with the same error. -/
theorem Decoder.all_columns_by_name (source : Source) :
    (∃ plan, Plan.build (.columns source.schema.valueNames) source = .ok plan ∧
      (Plan.build .all source = .ok plan ↔
        ∀ f ∈ source.schema.values, source.ReadsByName f)) ∧
    ((source.schema.fields.Pairwise fun f g => sameName f.name g.name = false) →
      ∀ (d : Decoder) (r : ResultRow),
        d.decode r (.columns source.schema.valueNames) source = d.decode r .all source) := by
  constructor
  · obtain ⟨plan, hplan⟩ := Plan.exists_build_valueNames source
    refine ⟨plan, hplan, ?_⟩
    rw [← Plan.build_valueNames_iff, hplan, eq_comm]
  · intro hdistinct d r
    have hreads : ∀ f ∈ source.schema.values, source.ReadsByName f := by
      intro f hf
      refine ⟨?_, fun _ => Schema.isKey_of_distinct hdistinct hf⟩
      rw [Schema.find?_of_distinct hdistinct (Schema.mem_fields_of_mem_values hf)]
      rfl
    rw [decode, decode, (Plan.build_valueNames_iff source).2 hreads]

/-- The number of visits of a page, by session. -/
def pageVisits : Source where
  name := "PAGEVISITS"
  schema := ⟨some ⟨"PAGE", .string⟩, [⟨"Visits", .int64⟩, ⟨"referrer", .string⟩]⟩
  physicalName := "visits_v1"
  keyFormat := some ⟨.session, .string⟩

/-- No row of `pageVisits` is decoded otherwise if its columns are named. -/
theorem Decoder.page_visits_by_name :
    (Plan.build .all pageVisits =
      .ok ⟨[⟨"Visits", .field "Visits" .int64⟩, ⟨"referrer", .field "referrer" .string⟩], true⟩) ∧
    (∀ f ∈ pageVisits.schema.values, pageVisits.ReadsByName f) ∧
    ∀ (d : Decoder) (r : ResultRow),
      d.decode r (.columns [⟨"Visits", none⟩, ⟨"referrer", none⟩]) pageVisits =
        d.decode r .all pageVisits := by
  obtain ⟨⟨plan, hplan, hsame⟩, hdecoded⟩ := all_columns_by_name pageVisits
  have hall : Plan.build .all pageVisits = .ok plan := hplan
  exact ⟨rfl, hsame.1 hall, hdecoded (by decide)⟩

end MatView
