import Mathlib.Data.List.Forall2
import Mathlib.Tactic.SplitIfs
import MatView.Query.Plan

/-!
# Plans are made item by item

Each projected column is resolved by itself: whether it is known and what it becomes depends on no
other column of the projection. A plan is therefore put together from the plans of the parts of its
projection, and fails at the first column that is unknown.

## Main definitions

* `Schema.Declares`: a schema declares a projected column, under its own name or its output name.

## Main statements

* `Error.mapM_eq_ok_iff`, `Error.mapM_eq_error_iff`: when a step over a list succeeds, and where it
  fails.
* `Plan.build_columns_eq_ok_iff`: the plan of a projection, column by column.
* `Plan.build_append_eq_ok_iff`: the plan of two projections, one behind the other.
* `Plan.build_columns_eq_error_iff`: the error of a projection.
-/

namespace MatView

open Text (sameName)

/-! ## Steps over a list -/

namespace Error

variable {α β : Type} {f : α → Except Error β} {items others : List α} {out : List β}
  {fault : Error}

/-- Two steps in a row fail if the first does, or if it succeeds and the second fails. -/
theorem bind_eq_error {first : Except Error α} {next : α → Except Error β} :
    (first >>= next) = .error fault ↔
      first = .error fault ∨ ∃ a, first = .ok a ∧ next a = .error fault := by
  cases first <;> simp [bind, Except.bind]

/-- A step over a list succeeds if it does so for each item, and gives the results in their
order. -/
theorem mapM_eq_ok_iff :
    items.mapM f = .ok out ↔ List.Forall₂ (fun a b => f a = .ok b) items out := by
  induction items generalizing out with
  | nil =>
    rw [List.mapM_nil, List.forall₂_nil_left_iff]
    exact ⟨fun h => (Except.ok.inj h).symm, fun h => congrArg Except.ok h.symm⟩
  | cons a rest ih =>
    rw [List.mapM_cons, bind_eq_ok, List.forall₂_cons_left_iff]
    constructor
    · rintro ⟨b, hb, h⟩
      obtain ⟨bs, hbs, h⟩ := bind_eq_ok.1 h
      cases h
      exact ⟨b, bs, hb, ih.1 hbs, rfl⟩
    · rintro ⟨b, bs, hb, hbs, rfl⟩
      exact ⟨b, hb, bind_eq_ok.2 ⟨bs, ih.2 hbs, rfl⟩⟩

/-- A step over a list fails as it does for the first item for which it fails. -/
theorem mapM_eq_error_iff : items.mapM f = .error fault ↔
    ∃ front item back, items = front ++ item :: back ∧ (∀ a ∈ front, ∃ b, f a = .ok b) ∧
      f item = .error fault := by
  induction items with
  | nil =>
    constructor
    · rintro ⟨⟩
    · rintro ⟨front, item, back, h, -⟩
      simp at h
  | cons a rest ih =>
    rw [List.mapM_cons, bind_eq_error]
    constructor
    · rintro (ha | ⟨b, hb, h⟩)
      · exact ⟨[], a, rest, rfl, by simp, ha⟩
      · obtain hrest | ⟨bs, -, h⟩ := bind_eq_error.1 h
        · obtain ⟨front, item, back, rfl, hfront, hitem⟩ := ih.1 hrest
          exact ⟨a :: front, item, back, rfl, List.forall_mem_cons.2 ⟨⟨b, hb⟩, hfront⟩, hitem⟩
        · cases h
    · rintro ⟨front, item, back, h, hfront, hitem⟩
      cases front with
      | nil =>
        cases h
        exact .inl hitem
      | cons first front =>
        cases h
        obtain ⟨⟨b, hb⟩, hfront⟩ := List.forall_mem_cons.1 hfront
        exact .inr ⟨b, hb, bind_eq_error.2 (.inl (ih.2 ⟨front, item, back, rfl, hfront, hitem⟩))⟩

/-- A step over two lists, one behind the other, succeeds if it does so over both. -/
theorem mapM_append_eq_ok_iff : (items ++ others).mapM f = .ok out ↔
    ∃ front back, items.mapM f = .ok front ∧ others.mapM f = .ok back ∧ out = front ++ back := by
  rw [List.mapM_append, bind_eq_ok]
  refine exists_congr fun front => ?_
  constructor
  · rintro ⟨hfront, h⟩
    obtain ⟨back, hback, h⟩ := bind_eq_ok.1 h
    cases h
    exact ⟨back, hfront, hback, rfl⟩
  · rintro ⟨back, hfront, hback, rfl⟩
    exact ⟨hfront, bind_eq_ok.2 ⟨back, hback, rfl⟩⟩

/-- It fails as it does over the first list, or else as it does over the second. -/
theorem mapM_append_eq_error_iff : (items ++ others).mapM f = .error fault ↔
    items.mapM f = .error fault ∨
      (∃ front, items.mapM f = .ok front) ∧ others.mapM f = .error fault := by
  rw [List.mapM_append, bind_eq_error]
  refine or_congr .rfl ?_
  constructor
  · rintro ⟨front, hfront, h⟩
    obtain hback | ⟨back, -, h⟩ := bind_eq_error.1 h
    · exact ⟨⟨front, hfront⟩, hback⟩
    · cases h
  · rintro ⟨⟨front, hfront⟩, hback⟩
    exact ⟨front, hfront, bind_eq_error.2 (.inl hback)⟩

end Error

/-! ## Known columns -/

/-- A schema declares a projected column: the key or a value has its name or its output name. -/
def Schema.Declares (s : Schema) (item : SelectedColumn) : Prop :=
  ∃ f ∈ s.fields, sameName f.name item.column = true ∨ sameName f.name item.outputName = true

namespace Plan

variable {source : Source} {item : SelectedColumn} {items p q : List SelectedColumn} {plan : Plan}
  {fault : Error}

/-- A projected column refers to no declared column if the schema does not declare it. -/
theorem resolve?_eq_none_iff {schema : Schema} :
    resolve? schema item = none ↔ ¬ schema.Declares item := by
  rw [resolve?, Option.or_eq_none_iff, Schema.find?, Schema.find?, List.find?_eq_none,
    List.find?_eq_none, Schema.Declares]
  push Not
  exact ⟨fun h f hf => ⟨h.1 f hf, h.2 f hf⟩, fun h => ⟨fun f hf => (h f hf).1, fun f hf => (h f hf).2⟩⟩

/-- A column that is not declared is named in the error, with its source. -/
theorem selectedColumn_eq_error_iff : selectedColumn source item = .error fault ↔
    ¬ source.schema.Declares item ∧ fault = .columnNotFound source.name item.column := by
  rw [← resolve?_eq_none_iff]
  cases hfield : resolve? source.schema item with
  | none => simp [selectedColumn, hfield, eq_comm]
  | some f =>
    simp only [selectedColumn, hfield]
    split_ifs <;> simp

/-- A column is planned if it is declared. -/
theorem exists_selectedColumn_iff :
    (∃ c, selectedColumn source item = .ok c) ↔ source.schema.Declares item := by
  cases hc : selectedColumn source item with
  | error fault => simpa using (selectedColumn_eq_error_iff.1 hc).1
  | ok c =>
    have hdeclared : source.schema.Declares item := by
      by_contra hnot
      rw [selectedColumn_eq_error_iff.2 ⟨hnot, rfl⟩] at hc
      cases hc
    simpa using hdeclared

/-! ## Plans -/

theorem selectedColumns_eq_mapM (source : Source) (items : List SelectedColumn) :
    selectedColumns source items = items.mapM (selectedColumn source) := by
  induction items with
  | nil => rfl
  | cons item rest ih => rw [selectedColumns, List.mapM_cons, ih]

/-- The plan of a projection has the columns of its items, in their order. -/
theorem build_columns_eq_ok_iff : build (.columns items) source = .ok plan ↔
    List.Forall₂ (fun item c => selectedColumn source item = .ok c) items plan.columns ∧
      plan.windowed = source.isWindowed := by
  rw [← Error.mapM_eq_ok_iff, ← selectedColumns_eq_mapM, build, Error.bind_eq_ok]
  constructor
  · rintro ⟨columns, hcolumns, h⟩
    cases h
    exact ⟨hcolumns, rfl⟩
  · rintro ⟨hcolumns, hwindowed⟩
    exact ⟨plan.columns, hcolumns, by rw [← hwindowed]; rfl⟩

/-- A projection in two parts is planned if both parts are, and has the columns of both. -/
theorem build_append_eq_ok_iff : build (.columns (p ++ q)) source = .ok plan ↔
    ∃ a b, build (.columns p) source = .ok a ∧ build (.columns q) source = .ok b ∧
      plan = ⟨a.columns ++ b.columns, source.isWindowed⟩ := by
  simp only [build_columns_eq_ok_iff, ← Error.mapM_eq_ok_iff, Error.mapM_append_eq_ok_iff]
  constructor
  · rintro ⟨⟨front, back, hfront, hback, hcolumns⟩, hwindowed⟩
    refine ⟨⟨front, _⟩, ⟨back, _⟩, ⟨hfront, rfl⟩, ⟨hback, rfl⟩, ?_⟩
    rw [← hcolumns, ← hwindowed]
  · rintro ⟨a, b, ⟨ha, -⟩, ⟨hb, -⟩, rfl⟩
    exact ⟨⟨a.columns, b.columns, ha, hb, rfl⟩, rfl⟩

/-- A projection is not planned if one of its columns is not declared. The error names the first
one. -/
theorem build_columns_eq_error_iff : build (.columns items) source = .error fault ↔
    ∃ front item back, items = front ++ item :: back ∧
      (∀ known ∈ front, source.schema.Declares known) ∧ ¬ source.schema.Declares item ∧
        fault = .columnNotFound source.name item.column := by
  have hfails : build (.columns items) source = .error fault ↔
      items.mapM (selectedColumn source) = .error fault := by
    rw [build, Error.bind_eq_error, selectedColumns_eq_mapM]
    exact or_iff_left fun ⟨_, _, h⟩ => nomatch h
  rw [hfails, Error.mapM_eq_error_iff]
  simp only [exists_selectedColumn_iff, selectedColumn_eq_error_iff]

end Plan

end MatView
