import MatView.Proofs.Config.Spelling
import MatView.Proofs.Query.Semicolons
import MatView.Proofs.Service.Routing

/-!
# Settings from outside

Settings are valid if the key column is a plain name and the scan clause has no semicolon. All settings
that are loaded are valid, and valid settings put no semicolon into a statement. The variables of the
environment override settings one by one: each decides its own setting and none else.

## Main definitions

* `Config.Valid`: settings that a statement is not damaged by.
* `Config.Overridden`: settings with the variables that are set in place of the former values.
* `Config.Loaded`: settings from a document or from the environment.

## Main statements

* `Config.override_eq_ok_iff`, `Config.exists_override_iff`: what overriding settings returns, and when.
* `Config.override_again`: overriding settings twice is overriding them once.
* `Config.overrides_exact_and_valid`: overriding is exact, and loaded settings keep the number of semicolons.
-/

namespace MatView.Config

variable {c d : Config}

/-! ## Valid settings -/

/-- A name that can stand in a select list as it is. -/
def IsKeyColumn (name : String) : Prop :=
  name ≠ "" ∧ ∀ k ∈ name.toList, Text.isPlain k = true

/-- A clause that does not end a statement. -/
def IsScanClause (clause : String) : Prop :=
  ';' ∉ clause.toList

/-- Settings that a statement is not damaged by. -/
structure Valid (c : Config) : Prop where
  keyColumn : IsKeyColumn c.keyColumn
  scanClause : IsScanClause c.scanClause

theorem fault?_eq_none_iff : c.fault? = none ↔ c.Valid := by
  have hkey : (Unicode.trim c.keyColumn.toList).isEmpty = false ∧
      (!c.keyColumn.toList.all Text.isPlain) = false ↔ IsKeyColumn c.keyColumn := by
    rw [Bool.not_eq_false', List.all_eq_true, IsKeyColumn, and_congr_left_iff]
    intro hplain
    have htrim : Unicode.trim c.keyColumn.toList = c.keyColumn.toList :=
      (Unicode.trim_eq_iff fun k hk => Unicode.isBlank_of_isPlain (hplain k hk)).2
        ⟨[], [], by simp⟩
    rw [htrim, List.isEmpty_eq_false_iff, ne_eq, ne_eq, ← String.toList_eq_nil_iff]
  have hscan : c.scanClause.toList.contains ';' = false ↔ IsScanClause c.scanClause := by
    simp [IsScanClause]
  have hvalid : c.Valid ↔ IsKeyColumn c.keyColumn ∧ IsScanClause c.scanClause :=
    ⟨fun h => ⟨h.1, h.2⟩, fun h => ⟨h.1, h.2⟩⟩
  rw [hvalid, ← hkey, ← hscan, fault?]
  cases (Unicode.trim c.keyColumn.toList).isEmpty <;>
    cases !c.keyColumn.toList.all Text.isPlain <;>
      cases c.scanClause.toList.contains ';' <;> simp

instance : Decidable c.Valid := decidable_of_iff _ fault?_eq_none_iff

theorem validate_eq_ok_iff : c.validate = .ok d ↔ d = c ∧ c.Valid := by
  rw [← fault?_eq_none_iff]
  constructor
  · exact eq_of_validate
  · rintro ⟨rfl, h⟩
    rw [validate, h]

/-! ## Variables -/

section

variable {α : Type} {spells : String → α → Prop} {old a : α} {text? : Option String}

/-- A setting with the value that a variable spells, or with its old value if it is not set. -/
inductive Sets (spells : String → α → Prop) (old : α) : Option String → α → Prop
  | unset : Sets spells old none old
  | set {s : String} {a : α} (h : spells s a) : Sets spells old (some s) a

/-- A variable that is not set, or spells some value. -/
def Accepts (spells : String → α → Prop) (text? : Option String) : Prop :=
  ∀ s, text? = some s → ∃ a, spells s a

theorem exists_sets_iff : (∃ a, Sets spells old text? a) ↔ Accepts spells text? := by
  constructor
  · rintro ⟨a, h⟩ s rfl
    cases h with
    | set h => exact ⟨a, h⟩
  · intro h
    cases text? with
    | none => exact ⟨old, .unset⟩
    | some s =>
      obtain ⟨a, ha⟩ := h s rfl
      exact ⟨a, .set ha⟩

/-- A variable that set a value sets it again. -/
theorem Sets.again (h : Sets spells old text? a) : Sets spells a text? a := by
  cases h with
  | unset => exact .unset
  | set h => exact .set h

/-- A text that is taken as it is. -/
theorem sets_eq_iff {old a : String} : Sets Eq old text? a ↔ a = text?.getD old := by
  constructor
  · rintro (_ | rfl) <;> rfl
  · rintro rfl
    cases text? with
    | none => exact .unset
    | some s => exact .set rfl

theorem variableOr_eq_ok_iff {read? : String → Option α} (fault : String → ConfigFault)
    (hread : ∀ s a, read? s = some a ↔ spells s a) :
    variableOr old read? fault text? = .ok a ↔ Sets spells old text? a := by
  cases text? with
  | none =>
    rw [variableOr, Except.ok.injEq]
    constructor
    · rintro rfl
      exact .unset
    · rintro ⟨⟩
      rfl
  | some s =>
    have hset : Sets spells old (some s) a ↔ read? s = some a := by
      rw [hread]
      constructor
      · rintro (_ | h)
        exact h
      · exact .set
    rw [hset, variableOr]
    cases read? s <;> simp

end

/-! ## Overriding settings -/

variable {lookup : String → Option String}

/-- The settings `d` are the settings `c` with the values of the variables that are set. Each setting
depends on its own variable only. -/
structure Overridden (c : Config) (lookup : String → Option String) (d : Config) : Prop where
  keyColumn : Sets Eq c.keyColumn (lookup "MVQ_KEY_COLUMN") d.keyColumn
  scanClause : Sets Eq c.scanClause (lookup "MVQ_SCAN_CLAUSE") d.scanClause
  injectKeyColumn :
    Sets SpellsSwitch c.injectKeyColumn (lookup "MVQ_INJECT_KEY_COLUMN") d.injectKeyColumn
  floatPrecision :
    Sets SpellsPrecision c.floatPrecision (lookup "MVQ_FLOAT_PRECISION") d.floatPrecision
  windowPlaceholder :
    Sets SpellsInteger c.windowPlaceholder (lookup "MVQ_WINDOW_PLACEHOLDER") d.windowPlaceholder

/-- Overriding settings returns the overridden settings if they are valid. -/
theorem override_eq_ok_iff :
    c.override (.ofLookup lookup) = .ok d ↔ c.Overridden lookup d ∧ d.Valid := by
  constructor
  · intro h
    obtain ⟨inject, hinject, h⟩ := Error.bind_eq_ok.1 h
    obtain ⟨precision, hprecision, h⟩ := Error.bind_eq_ok.1 h
    obtain ⟨placeholder, hplaceholder, h⟩ := Error.bind_eq_ok.1 h
    obtain ⟨rfl, hvalid⟩ := validate_eq_ok_iff.1 h
    exact ⟨⟨sets_eq_iff.2 rfl, sets_eq_iff.2 rfl,
      (variableOr_eq_ok_iff _ fun _ _ => switch?_eq_some_iff).1 hinject,
      (variableOr_eq_ok_iff _ fun _ _ => FloatPrecision.parse?_eq_some_iff).1 hprecision,
      (variableOr_eq_ok_iff _ fun _ _ => Text.int64?_eq_some_iff).1 hplaceholder⟩, hvalid⟩
  · rintro ⟨h, hvalid⟩
    have hinject :=
      (variableOr_eq_ok_iff .injectVariable fun _ _ => switch?_eq_some_iff).2 h.injectKeyColumn
    have hprecision := (variableOr_eq_ok_iff .precisionVariable fun _ _ =>
      FloatPrecision.parse?_eq_some_iff).2 h.floatPrecision
    have hplaceholder := (variableOr_eq_ok_iff .placeholderVariable fun _ _ =>
      Text.int64?_eq_some_iff).2 h.windowPlaceholder
    have hd : d = { d with
        keyColumn := (lookup "MVQ_KEY_COLUMN").getD c.keyColumn
        scanClause := (lookup "MVQ_SCAN_CLAUSE").getD c.scanClause } := by
      rw [← sets_eq_iff.1 h.keyColumn, ← sets_eq_iff.1 h.scanClause]
    exact Error.bind_eq_ok.2 ⟨_, hinject, Error.bind_eq_ok.2 ⟨_, hprecision,
      Error.bind_eq_ok.2 ⟨_, hplaceholder, validate_eq_ok_iff.2 ⟨hd, hd ▸ hvalid⟩⟩⟩⟩

/-- What the variables and the settings `c` must be like for overriding `c` to succeed. -/
structure Overridable (c : Config) (lookup : String → Option String) : Prop where
  injectKeyColumn : Accepts SpellsSwitch (lookup "MVQ_INJECT_KEY_COLUMN")
  floatPrecision : Accepts SpellsPrecision (lookup "MVQ_FLOAT_PRECISION")
  windowPlaceholder : Accepts SpellsInteger (lookup "MVQ_WINDOW_PLACEHOLDER")
  keyColumn : IsKeyColumn ((lookup "MVQ_KEY_COLUMN").getD c.keyColumn)
  scanClause : IsScanClause ((lookup "MVQ_SCAN_CLAUSE").getD c.scanClause)

/-- Settings can be overridden if every variable is accepted and the result is valid. -/
theorem exists_override_iff :
    (∃ d, c.override (.ofLookup lookup) = .ok d) ↔ c.Overridable lookup := by
  simp only [override_eq_ok_iff]
  constructor
  · rintro ⟨d, h, hvalid⟩
    exact {
      injectKeyColumn := exists_sets_iff.1 ⟨_, h.injectKeyColumn⟩
      floatPrecision := exists_sets_iff.1 ⟨_, h.floatPrecision⟩
      windowPlaceholder := exists_sets_iff.1 ⟨_, h.windowPlaceholder⟩
      keyColumn := sets_eq_iff.1 h.keyColumn ▸ hvalid.keyColumn
      scanClause := sets_eq_iff.1 h.scanClause ▸ hvalid.scanClause }
  · intro h
    obtain ⟨inject, hinject⟩ := exists_sets_iff.2 h.injectKeyColumn
    obtain ⟨precision, hprecision⟩ := exists_sets_iff.2 h.floatPrecision
    obtain ⟨placeholder, hplaceholder⟩ := exists_sets_iff.2 h.windowPlaceholder
    exact ⟨⟨_, _, inject, precision, placeholder⟩,
      ⟨sets_eq_iff.2 rfl, sets_eq_iff.2 rfl, hinject, hprecision, hplaceholder⟩,
      ⟨h.keyColumn, h.scanClause⟩⟩

/-- Overriding settings twice is overriding them once. -/
theorem override_again (h : c.override (.ofLookup lookup) = .ok d) :
    d.override (.ofLookup lookup) = .ok d := by
  obtain ⟨h, hvalid⟩ := override_eq_ok_iff.1 h
  exact override_eq_ok_iff.2 ⟨⟨h.keyColumn.again, h.scanClause.again, h.injectKeyColumn.again,
    h.floatPrecision.again, h.windowPlaceholder.again⟩, hvalid⟩

/-! ## Loaded settings -/

/-- Settings from a document or from the environment. -/
inductive Loaded : Config → Prop
  | document {s : String} {c : Config} (h : ofJson s = .ok c) : Loaded c
  | environment {c d : Config} {lookup : String → Option String}
    (h : c.override (.ofLookup lookup) = .ok d) : Loaded d

/-- Settings from a file are those of the document in it. -/
theorem loaded_of_ofFile {content : Option (List UInt8)} (h : ofFile content = .ok c) :
    c.Loaded := by
  unfold ofFile at h
  split at h
  · cases h
  · split at h
    · exact .document h
    · cases h

theorem Loaded.valid (h : c.Loaded) : c.Valid := by
  cases h with
  | document h =>
    unfold ofJson at h
    split at h
    · obtain ⟨rfl, hvalid⟩ := validate_eq_ok_iff.1 h
      exact hvalid
    · cases h
  | environment h => exact (override_eq_ok_iff.1 h).2

/-- Valid settings put no semicolon into a statement. -/
theorem Valid.count_adapt {statement text : String} {q : Query} {source : Source} (hc : c.Valid)
    (h : (Adapter.ofConfig c).adapt statement q source = .ok text) :
    text.toList.count ';' =
      statement.toList.count ';' + source.physicalName.toList.count ';' := by
  have hkey : ';' ∉ (Adapter.ofConfig c).keyColumn.toList := fun hmem => by
    cases Service.isPlain_keyColumn hc.keyColumn.2 ';' hmem
  have hscan : ';' ∉ (Adapter.ofConfig c).scanClause.toList := by
    rw [Adapter.ofConfig, String.toList_ofList, ← List.count_eq_zero,
      Unicode.count_trim (by decide), List.count_eq_zero]
    exact hc.scanClause
  rw [Adapter.count_adapt h, Adapter.addedSemicolons_eq hkey hscan]

/-- Overriding settings succeeds exactly if every variable is accepted and the result is valid. Then
each setting comes from its own variable or stays as it was, and overriding the result changes nothing.
Loaded settings are valid, so an adapted text has the semicolons of the statement and of the name of
the physical table. -/
theorem overrides_exact_and_valid :
    (∀ (c : Config) (lookup : String → Option String),
      ((∃ d, c.override (.ofLookup lookup) = .ok d) ↔ c.Overridable lookup) ∧
      (∀ d, c.override (.ofLookup lookup) = .ok d ↔ c.Overridden lookup d ∧ d.Valid) ∧
      ∀ d, c.override (.ofLookup lookup) = .ok d → d.override (.ofLookup lookup) = .ok d) ∧
    ∀ c : Config, c.Loaded → c.Valid ∧
      ∀ (statement : String) (q : Query) (source : Source) (text : String),
        (Adapter.ofConfig c).adapt statement q source = .ok text →
          text.toList.count ';' =
            statement.toList.count ';' + source.physicalName.toList.count ';' :=
  ⟨fun _ _ => ⟨exists_override_iff, fun _ => override_eq_ok_iff, fun _ => override_again⟩,
    fun _ h => ⟨h.valid, fun _ _ _ _ => h.valid.count_adapt⟩⟩

/-- An environment that turns a switch off and marks windows without a key. -/
def quietEnvironment : String → Option String
  | "MVQ_INJECT_KEY_COLUMN" => some " FALSE"
  | "MVQ_WINDOW_PLACEHOLDER" => some "-01\t"
  | _ => none

/-- The default settings in this environment. -/
def quietSettings : Config := { injectKeyColumn := false, windowPlaceholder := -1 }

/-- They stay as they are there, and leave a statement its one semicolon. -/
theorem quiet_environment :
    default.override (.ofLookup quietEnvironment) = .ok quietSettings ∧
    quietSettings.override (.ofLookup quietEnvironment) = .ok quietSettings ∧
    default.Overridden quietEnvironment quietSettings ∧ quietSettings.Valid ∧
    (Adapter.ofConfig quietSettings).adapt "select col0 from totals;" Service.totalsQuery
      Service.totals = .ok "SELECT COL0 FROM TOTALS.totals_v1;" ∧
    "SELECT COL0 FROM TOTALS.totals_v1;".toList.count ';' =
      "select col0 from totals;".toList.count ';' + "totals_v1".toList.count ';' := by
  have hoverride : default.override (.ofLookup quietEnvironment) = .ok quietSettings := by
    decide +kernel
  have hadapt : (Adapter.ofConfig quietSettings).adapt "select col0 from totals;"
      Service.totalsQuery Service.totals = .ok "SELECT COL0 FROM TOTALS.totals_v1;" := rfl
  obtain ⟨-, hiff, hagain⟩ := overrides_exact_and_valid.1 default quietEnvironment
  obtain ⟨hvalid, hcount⟩ := overrides_exact_and_valid.2 quietSettings (.environment hoverride)
  exact ⟨hoverride, hagain _ hoverride, ((hiff _).1 hoverride).1, hvalid, hadapt,
    hcount _ _ _ _ hadapt⟩

end MatView.Config
