import Mathlib.Data.List.Forall2
import Mathlib.Tactic.SplitIfs
import MatView.Proofs.Outcome
import MatView.Proofs.Text.Folding
import MatView.Query.Adapter
import MatView.Query.Plan

/-!
# Statements in another letter case

A query names its source and its columns without regard to case. A statement that is spelled with
other letters in front of its predicate is adapted to the same text and planned alike: what follows
from a name depends on its folded form only, and so does the place of a keyword. The names
themselves come back in errors, so two respelled queries fail with errors of one kind that are
worded alike.

## Main definitions

* `Error.Kind`, `Error.Alike`: errors of one kind that are worded alike.
* `AlikeOutcome`: results that fail alike or are related.
* `Respelled`: statements that differ in case in front of the predicate.
* `Query.Alike`, `Plan.Alike`: queries and plans with the same names up to case.

## Main statements

* `Adapter.adapt_alike`: respelled statements are adapted to one text.
* `Plan.build_alike`: respelled queries are planned alike.
-/

namespace MatView

open Text (Alike sameName sameName_congr)

/-! ## Errors -/

namespace Error

/-- The kinds of errors. -/
inductive Kind
  | unresolvedSource
  | sourceNotFound
  | incompatibleSource
  | columnNotFound
  | unsupportedQuery
  | statement
  | store
  | typeMismatch
  | key
  | config
  | format
  | timeZone
  | file
  deriving DecidableEq

/-- The kind of an error. -/
def kind : Error → Kind
  | .unresolvedSource _ => .unresolvedSource
  | .sourceNotFound _ => .sourceNotFound
  | .incompatibleSource _ _ => .incompatibleSource
  | .columnNotFound _ _ => .columnNotFound
  | .unsupportedQuery _ => .unsupportedQuery
  | .statement _ _ => .statement
  | .store _ => .store
  | .typeMismatch _ _ _ => .typeMismatch
  | .key _ => .key
  | .config _ => .config
  | .format _ => .format
  | .timeZone _ => .timeZone
  | .file _ => .file

/-- Errors of one kind whose messages are equal up to case. -/
structure Alike (e f : Error) : Prop where
  kind_eq : e.kind = f.kind
  message : sameName e.message f.message = true

theorem Alike.refl (e : Error) : e.Alike e :=
  ⟨rfl, Text.sameName_self _⟩

instance : Std.Refl Alike := ⟨.refl⟩

variable {a b : String}

/-- A text around a name is the same up to case for each spelling of the name. -/
theorem sameName_around (front back : String) (h : sameName a b = true) :
    sameName (front ++ a ++ back) (front ++ b ++ back) = true :=
  Text.sameName_append (Text.sameName_append (Text.sameName_self front) h) (Text.sameName_self back)

/-- A text in front of another is the same up to case in each spelling of it. -/
theorem sameName_behind (back : String) (h : sameName a b = true) :
    sameName (a ++ back) (b ++ back) = true :=
  Text.sameName_append h (Text.sameName_self back)

theorem sourceNotFound_alike (h : sameName a b = true) :
    (sourceNotFound a).Alike (.sourceNotFound b) :=
  ⟨rfl, sameName_around _ _ h⟩

theorem columnNotFound_alike (source : String) (h : sameName a b = true) :
    (columnNotFound source a).Alike (.columnNotFound source b) :=
  ⟨rfl, sameName_behind _ (sameName_behind _ (sameName_around _ _ h))⟩

theorem sourceNotInText_alike (h : sameName a b = true) :
    (unsupportedQuery (.sourceNotInText a)).Alike (.unsupportedQuery (.sourceNotInText b)) :=
  ⟨rfl, sameName_behind _ (sameName_around _ _ (sameName_around _ _ h))⟩

theorem missingColumn_alike (h : sameName a b = true) :
    (store (.missingColumn a)).Alike (.store (.missingColumn b)) :=
  ⟨rfl, Text.sameName_append (Text.sameName_self _) (sameName_around _ _ h)⟩

theorem typeMismatch_alike (expected actual : String) (h : sameName a b = true) :
    (typeMismatch a expected actual).Alike (.typeMismatch b expected actual) :=
  ⟨rfl, sameName_behind _ (sameName_behind _ (sameName_behind _ (sameName_around _ _ h)))⟩

end Error

/-! ## Results -/

/-- Two results that are failures worded alike, or values in a relation. -/
abbrev AlikeOutcome {α β : Type} (R : α → β → Prop) : Except Error α → Except Error β → Prop :=
  RelatedOutcome Error.Alike R

/-! ## Queries -/

/-- Two statements that differ in the case of letters only, and from their first `WHERE` on not at
all if there is a predicate. -/
structure Respelled (hasWhere : Bool) (s t : String) : Prop where
  alike : Text.Alike s.toList t.toList
  predicate : hasWhere = true → ∀ offset, Text.keywordOffset s.toList "WHERE" = some offset →
    Text.dropBytes offset s.toList = Text.dropBytes offset t.toList

/-- Projected columns with the same names up to case. -/
structure SelectedColumn.Alike (c d : SelectedColumn) : Prop where
  column : sameName c.column d.column = true
  alias? : Option.Rel (fun a b => sameName a b = true) c.alias? d.alias?

/-- Projections of the same columns up to case. -/
inductive Projection.Alike : Projection → Projection → Prop
  | all : Alike .all .all
  | columns {items others : List SelectedColumn}
      (h : List.Forall₂ SelectedColumn.Alike items others) :
      Alike (.columns items) (.columns others)

/-- Queries of one source with the same names up to case. -/
structure Query.Alike (q r : Query) : Prop where
  source : Option.Rel (fun c d => sameName c.source d.source = true) q.from? r.from?
  projection : q.projection.Alike r.projection
  hasWhere : q.hasWhere = r.hasWhere

theorem SelectedColumn.Alike.outputName {c d : SelectedColumn} (h : c.Alike d) :
    sameName c.outputName d.outputName = true := by
  obtain ⟨column, alias?⟩ := c
  obtain ⟨column', alias'?⟩ := d
  obtain ⟨hcolumn, halias⟩ := h
  cases halias with
  | none => exact hcolumn
  | some halias => exact halias

theorem Query.source_alike {q r : Query} (h : q.Alike r) :
    AlikeOutcome (fun c d => sameName c.source d.source = true) q.source r.source := by
  obtain ⟨hsource, -, -⟩ := h
  obtain ⟨from?, _, _⟩ := q
  obtain ⟨from'?, _, _⟩ := r
  cases hsource with
  | none => exact .failed (.refl _)
  | some hname => exact .done hname

/-! ## Adapted texts -/

namespace Adapter

variable {a : Adapter} {hasWhere : Bool} {s t : String}

/-- Whether the key column is added does not depend on the spelling of the columns. -/
theorem injects_alike {projection other : Projection} (h : projection.Alike other) :
    a.injects projection = a.injects other := by
  cases h with
  | all => rfl
  | columns h =>
    have hany : ∀ {items others : List SelectedColumn},
        List.Forall₂ SelectedColumn.Alike items others →
          (items.any fun c => sameName c.column a.keyColumn) =
            others.any fun c => sameName c.column a.keyColumn := by
      intro items others h
      induction h with
      | nil => rfl
      | cons hc _ ih =>
        rw [List.any_cons, List.any_cons, ih, Text.sameName_comm, sameName_congr hc.column,
          Text.sameName_comm]
    simp only [injects, hany h]

/-- Respelled statements are cut at the same place, with one predicate. -/
theorem split_alike (h : Respelled hasWhere s t) :
    AlikeOutcome (fun x y => Alike x.1 y.1 ∧ x.2 = y.2) (split s.toList hasWhere)
      (split t.toList hasWhere) := by
  unfold split
  cases hasWhere with
  | false => exact .done ⟨h.alike, rfl⟩
  | true =>
    simp only [if_true, ← Text.keywordOffset_congr h.alike "WHERE"]
    cases hoffset : Text.keywordOffset s.toList "WHERE" with
    | none => exact .failed (.refl _)
    | some offset => exact .done ⟨h.alike.takeBytes offset, h.predicate rfl offset hoffset⟩

/-- A head is qualified for each spelling of its source. -/
theorem qualify_alike (head : List Char) {name other : String} (h : sameName name other = true)
    (physicalName : String) :
    AlikeOutcome (· = ·) (qualify head name physicalName) (qualify head other physicalName) := by
  have hfault := Error.sourceNotInText_alike h
  unfold qualify
  rw [Text.upperChars_eq_of_sameName h]
  split
  · exact .failed hfault
  · dsimp only
    split_ifs
    · exact .failed hfault
    · exact .done rfl

/-- Respelled statements are adapted to one text. -/
theorem adapt_alike {q r : Query} (hq : q.Alike r) (h : Respelled q.hasWhere s t)
    (source : Source) : AlikeOutcome (· = ·) (a.adapt s q source) (a.adapt t r source) := by
  unfold adapt
  rw [← hq.hasWhere, ← injects_alike hq.projection]
  refine (Query.source_alike hq).bind fun clause other hname => (split_alike h).bind ?_
  rintro ⟨head, predicate⟩ ⟨head', predicate'⟩ ⟨halike, hpredicate⟩
  dsimp only at halike hpredicate ⊢
  subst hpredicate
  -- Once they are upper-cased, the heads are one text.
  rw [← halike.upperChars_eq]
  refine (qualify_alike _ hname source.physicalName).bind ?_
  rintro qualified _ rfl
  exact .rfl

end Adapter

/-! ## Plans -/

/-- Origins with the same column up to case. -/
inductive Origin.Alike : Origin → Origin → Prop
  | field {column other : String} (type : DataType) (h : sameName column other = true) :
      Alike (.field column type) (.field other type)
  | windowedKey : Alike .windowedKey .windowedKey

/-- Plans that read the same columns, as the same types. -/
structure Plan.Alike (p p' : Plan) : Prop where
  columns : List.Forall₂ (fun c d : PlanColumn => c.source.Alike d.source) p.columns p'.columns
  windowed : p.windowed = p'.windowed

/-- A column is declared under each spelling of its name. -/
theorem Schema.find?_alike (s : Schema) {a b : String} (h : sameName a b = true) :
    s.find? a = s.find? b := by
  simp only [find?, sameName_congr h]

namespace Plan

variable {source : Source} {c d : SelectedColumn} {items others : List SelectedColumn}

theorem selectedColumn_alike (h : c.Alike d) :
    AlikeOutcome (fun x y : PlanColumn => x.source.Alike y.source) (selectedColumn source c)
      (selectedColumn source d) := by
  have hresolve : resolve? source.schema c = resolve? source.schema d := by
    rw [resolve?, resolve?, source.schema.find?_alike h.column,
      source.schema.find?_alike h.outputName]
  unfold selectedColumn
  rw [hresolve]
  split
  · exact .failed (Error.columnNotFound_alike source.name h.column)
  · split_ifs
    · exact .done .windowedKey
    · exact .done (.field _ h.outputName)

theorem selectedColumns_alike (h : List.Forall₂ SelectedColumn.Alike items others) :
    AlikeOutcome (List.Forall₂ fun x y : PlanColumn => x.source.Alike y.source)
      (selectedColumns source items) (selectedColumns source others) := by
  induction h with
  | nil => exact .done .nil
  | cons hc _ ih =>
    exact (selectedColumn_alike hc).bind fun _ _ hcolumn =>
      ih.bind fun _ _ hcolumns => .done (.cons hcolumn hcolumns)

/-- Respelled projections are planned alike. -/
theorem build_alike {projection other : Projection} (h : projection.Alike other) (source : Source) :
    AlikeOutcome Plan.Alike (build projection source) (build other source) := by
  cases h with
  | all =>
    refine .done ⟨?_, rfl⟩
    rw [List.forall₂_map_left_iff, List.forall₂_map_right_iff, List.forall₂_same]
    exact fun f _ => .field f.type (Text.sameName_self f.name)
  | columns h =>
    exact (selectedColumns_alike h).bind fun _ _ hcolumns => .done ⟨hcolumns, rfl⟩

end Plan

end MatView
