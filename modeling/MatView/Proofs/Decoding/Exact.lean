import Mathlib.Logic.Relator
import MatView.Proofs.Decoding.Nulls
import MatView.Proofs.Store.Milliseconds

/-!
# Types that are read without loss

The generic reading turns the cells of most types into values that show all of their content. Such
types are built from truth values, integers, texts, byte strings, days and timestamps that are no
finer than milliseconds, by lists, maps and structures. Of two cells with one value the contents are
equal, down to where a null stands in them, and only a timestamp that counts too many seconds makes a
cell unreadable.

## Main definitions

* `ColumnType.Exact`: the types.
* `ColumnType.seconds`: the timestamps inside a cell that count seconds.
* `Converts`: how a conversion ends, given the seconds inside of what is converted.
* `Faithful`: a conversion that loses nothing.

## Main statements

* `ColumnType.Exact.converts`: a cell is read if the seconds inside it fit in milliseconds.
* `ColumnType.Exact.faithful`: cells with one value are one cell.
* `ColumnType.value_determines_cell`: both, and no cell with a content becomes null.
-/

namespace MatView

open Function (Injective)

/-! ## Conversions of lists -/

section

variable {A B C : Type}

theorem convertItems_eq_mapM (f : A → Except Error Value) (items : List A) :
    convertItems f items = items.mapM f := by
  induction items with
  | nil => rfl
  | cons a rest ih => rw [convertItems, List.mapM_cons, ih]

/-- Converts the key and the value of an entry. -/
def convertEntry {K V : Type} (ofKey : K → Except Error Value) (ofValue : V → Except Error Value)
    (e : K × V) : Except Error (Value × Value) := do
  let k ← ofKey e.1
  let v ← ofValue e.2
  return (k, v)

theorem convertEntries_eq_mapM {K V : Type} (ofKey : K → Except Error Value)
    (ofValue : V → Except Error Value) (entries : List (K × V)) :
    convertEntries ofKey ofValue entries = entries.mapM (convertEntry ofKey ofValue) := by
  induction entries with
  | nil => rfl
  | cons e rest ih =>
    rw [convertEntries, List.mapM_cons, ih, convertEntry]
    cases ofKey e.1 with
    | error fault => rfl
    | ok k => cases ofValue e.2 <;> rfl

/-! ## Conversions that lose nothing -/

/-- A conversion loses nothing: what has the same result is the same. -/
def Faithful (f : A → Except Error B) : Prop :=
  Relator.LeftUnique fun a out => f a = .ok out

namespace Faithful

variable {f : A → Except Error B}

theorem of_injective {g : A → B} (hg : Injective g) : Faithful fun a => .ok (g a) := by
  intro a b out ha hb
  exact hg ((Except.ok.inj ha).trans (Except.ok.inj hb).symm)

theorem map {g : B → C} (hg : Injective g) (hf : Faithful f) : Faithful fun a => (f a).map g := by
  intro a b out ha hb
  obtain ⟨v, hv, rfl⟩ := Cell.map_eq_ok.1 ha
  obtain ⟨w, hw, hvw⟩ := Cell.map_eq_ok.1 hb
  exact hf hv (hg hvw ▸ hw)

/-- Two results beside each other show what both were made from. -/
theorem pair {A' B' : Type} {g : A' → Except Error B'} (hf : Faithful f) (hg : Faithful g) :
    Faithful fun p : A × A' => (do let b ← f p.1; let c ← g p.2; return (b, c)) := by
  intro p q out hp hq
  obtain ⟨b, hb, hp⟩ := Error.bind_eq_ok.1 hp
  obtain ⟨c, hc, hp⟩ := Error.bind_eq_ok.1 hp
  obtain ⟨b', hb', hq⟩ := Error.bind_eq_ok.1 hq
  obtain ⟨c', hc', hq⟩ := Error.bind_eq_ok.1 hq
  cases hp
  cases hq
  exact Prod.ext (hf hb hb') (hg hc hc')

theorem mapM (hf : Faithful f) : Faithful fun items : List A => items.mapM f := by
  intro items others out hitems hothers
  exact Relator.LeftUnique.forall₂ hf (Error.mapM_eq_ok_iff.1 hitems) (Error.mapM_eq_ok_iff.1 hothers)

theorem convertItems {ofItem : A → Except Error Value} (h : Faithful ofItem) :
    Faithful (convertItems ofItem) := by
  rw [funext (convertItems_eq_mapM ofItem)]
  exact h.mapM

theorem convertEntries {K V : Type} {ofKey : K → Except Error Value}
    {ofValue : V → Except Error Value} (hkey : Faithful ofKey) (hvalue : Faithful ofValue) :
    Faithful (convertEntries ofKey ofValue) := by
  rw [funext (convertEntries_eq_mapM ofKey ofValue)]
  exact (hkey.pair hvalue).mapM

end Faithful

/-! ## Conversions of seconds -/

/-- How a conversion ends, given the seconds inside of what is converted: it has a result if their
milliseconds all fit, and is refused at the first ones that do not. -/
inductive Converts (ns : List Int64) : Except Error B → Prop
  | done (out : B) (h : ∀ n ∈ ns, FitsMillis n) : Converts ns (.ok out)
  | refused (front : List Int64) (n : Int64) (back : List Int64) (hns : ns = front ++ n :: back)
    (hfront : ∀ m ∈ front, FitsMillis m) (hn : ¬ FitsMillis n) :
    Converts ns (.error (.store (.timestampRange n.toInt)))

namespace Converts

variable {ns ms : List Int64} {result : Except Error A}

theorem none (out : A) : Converts [] (.ok out) :=
  .done out (by simp)

/-- What is converted behind seconds that fit. -/
theorem behind (h : Converts ms result) (hfront : ∀ n ∈ ns, FitsMillis n) :
    Converts (ns ++ ms) result := by
  cases h with
  | done out hall => exact .done out (List.forall_mem_append.2 ⟨hfront, hall⟩)
  | refused front n back hms hall hn =>
    exact .refused (ns ++ front) n back (by simp [hms]) (List.forall_mem_append.2 ⟨hfront, hall⟩) hn

theorem bind {next : A → Except Error B} (h : Converts ns result)
    (hnext : ∀ a, Converts ms (next a)) : Converts (ns ++ ms) (result >>= next) := by
  cases h with
  | done a hall => exact (hnext a).behind hall
  | refused front n back hns hall hn => exact .refused front n (back ++ ms) (by simp [hns]) hall hn

theorem pure (f : A → B) (h : Converts ns result) :
    Converts ns (do let a ← result; return f a) := by
  have hbind := h.bind fun a => Converts.none (f a)
  rw [List.append_nil] at hbind
  exact hbind

theorem map (f : A → B) (h : Converts ns result) : Converts ns (result.map f) := by
  cases h with
  | done a hall => exact .done (f a) hall
  | refused front n back hns hfront hn => exact .refused front n back hns hfront hn

theorem mapM {seconds : A → List Int64} {f : A → Except Error B}
    (h : ∀ a, Converts (seconds a) (f a)) (items : List A) :
    Converts (items.flatMap seconds) (items.mapM f) := by
  induction items with
  | nil => exact .none []
  | cons a rest ih =>
    rw [List.flatMap_cons, List.mapM_cons]
    exact (h a).bind fun b => ih.pure (b :: ·)

theorem convertItems {seconds : A → List Int64} {ofItem : A → Except Error Value}
    (h : ∀ a, Converts (seconds a) (ofItem a)) (items : List A) :
    Converts (items.flatMap seconds) (convertItems ofItem items) := by
  rw [convertItems_eq_mapM]
  exact mapM h items

theorem convertEntries {K V : Type} {keySeconds : K → List Int64} {valueSeconds : V → List Int64}
    {ofKey : K → Except Error Value} {ofValue : V → Except Error Value}
    (hkey : ∀ k, Converts (keySeconds k) (ofKey k))
    (hvalue : ∀ v, Converts (valueSeconds v) (ofValue v)) (entries : List (K × V)) :
    Converts (entries.flatMap fun e => keySeconds e.1 ++ valueSeconds e.2)
      (convertEntries ofKey ofValue entries) := by
  rw [convertEntries_eq_mapM]
  exact mapM (fun e => (hkey e.1).bind fun k => (hvalue e.2).pure fun v => (k, v)) entries

/-- A conversion has a result if and only if all seconds fit. -/
theorem exists_ok_iff (h : Converts ns result) :
    (∃ out, result = .ok out) ↔ ∀ n ∈ ns, FitsMillis n := by
  cases h with
  | done out hall => exact ⟨fun _ => hall, fun _ => ⟨out, rfl⟩⟩
  | refused front n back hns hfront hn =>
    constructor
    · rintro ⟨_, ⟨⟩⟩
    · exact fun hall => absurd (hall n (by simp [hns])) hn

/-- A conversion fails for seconds that do not fit. -/
theorem exists_of_error (h : Converts ns result) (fault : Error) (hresult : result = .error fault) :
    ∃ n ∈ ns, ¬ FitsMillis n ∧ fault = .store (.timestampRange n.toInt) := by
  cases h with
  | done out hall => cases hresult
  | refused front n back hns hfront hn =>
    cases hresult
    exact ⟨n, by simp [hns], hn, rfl⟩

end Converts

end

namespace ColumnType

/-! ## The types -/

/-- Whether the cells of a type hold no other cells and show all of their content in their value. -/
def isExactScalar : ColumnType → Bool
  | boolean | int8 | int16 | int32 | int64 | uint8 | uint16 | uint32 => true
  | utf8 | largeUtf8 | binary | largeBinary | date32 => true
  | timestamp .second _ | timestamp .millisecond _ => true
  | _ => false

/-- The types whose cells are read without loss: exact scalars, and lists, maps and structures of
such types. -/
inductive Exact : ColumnType → Prop
  | scalar {type : ColumnType} (h : type.isExactScalar = true) : Exact type
  | list {item : ColumnType} (h : Exact item) : Exact (.list item)
  | map {key value : ColumnType} (hkey : Exact key) (hvalue : Exact value) : Exact (.map key value)
  | struct {fields : List (String × ColumnType)} (h : ∀ f ∈ fields, Exact f.2) : Exact (.struct fields)

mutual

/-- The timestamps inside a cell that count seconds, in their order. -/
def seconds : (type : ColumnType) → Option type.Content → List Int64
  | timestamp .second _, some value => [value]
  | list item, some cells => cells.flatMap item.seconds
  | map key value, some entries =>
    entries.flatMap fun e => key.seconds (some e.1) ++ value.seconds e.2
  | struct fields, some contents => fieldSeconds fields contents
  | _, _ => []

/-- The timestamps inside the fields of a structure that count seconds. -/
def fieldSeconds : (fields : List (String × ColumnType)) → FieldContents fields → List Int64
  | [], _ => []
  | (_, type) :: rest, (content, contents) => type.seconds content ++ fieldSeconds rest contents

end

variable {type : ColumnType} {fields : List (String × ColumnType)}

/-! ## Which cells are read -/

theorem fieldValues_converts
    (h : ∀ f ∈ fields, ∀ cell, Converts (f.2.seconds cell) (f.2.cellValue cell))
    (contents : FieldContents fields) :
    Converts (fieldSeconds fields contents) (fieldValues fields contents) := by
  induction fields with
  | nil => exact .none []
  | cons field rest ih =>
    obtain ⟨name, type⟩ := field
    obtain ⟨cell, contents⟩ := contents
    obtain ⟨hfield, hrest⟩ := List.forall_mem_cons.1 h
    simp only [fieldSeconds, fieldValues]
    exact (hfield cell).bind fun v => (ih hrest contents).pure ((.string name, v) :: ·)

@[simp] theorem seconds_none (type : ColumnType) : type.seconds none = [] := by
  cases type with
  | timestamp unit zone => cases unit <;> rfl
  | _ => rfl

/-- Null cells are read. -/
theorem converts_of_content (h : ∀ content : type.Content,
    Converts (type.seconds (some content)) (type.cellValue (some content)))
    (cell : Option type.Content) : Converts (type.seconds cell) (type.cellValue cell) := by
  cases cell with
  | some content => exact h content
  | none =>
    rw [cellValue, seconds_none]
    exact .none Value.null

/-- A timestamp that counts seconds is read if they fit. -/
theorem converts_second (value : Int64) : Converts [value] (epochMillis .second value) := by
  by_cases hfits : FitsMillis value
  · rw [epochMillis_second, if_pos hfits]
    exact .done _ (by simpa using hfits)
  · rw [epochMillis_second, if_neg hfits]
    exact .refused [] value [] rfl (by simp) hfits

/-- Scalars are read, unless they are seconds that do not fit. -/
theorem converts_of_scalar (h : type.isExactScalar = true) (content : type.Content) :
    Converts (type.seconds (some content)) (type.cellValue (some content)) := by
  cases type with
  | timestamp unit zone =>
    simp only [cellValue]
    cases unit with
    | second =>
      simp only [seconds]
      exact (converts_second content).map Value.bigint
    | millisecond => exact .none _
    | microsecond | nanosecond => cases h
  | null | uint64 | float32 | float64 | utf8View | fixedSizeBinary | dictionary | date64 | decimal
  | list | largeList | map | struct => cases h
  | _ => exact .none _

/-- A cell of an exact type is read if and only if the seconds inside it fit in milliseconds. It is
refused for the first ones that do not. -/
theorem Exact.converts (h : type.Exact) (cell : Option type.Content) :
    Converts (type.seconds cell) (type.cellValue cell) := by
  induction h with
  | scalar h => exact converts_of_content (converts_of_scalar h) cell
  | list h ih =>
    refine converts_of_content (fun cells => ?_) cell
    simp only [seconds, cellValue]
    exact (Converts.convertItems ih cells).map Value.list
  | map hkey hvalue ihkey ihvalue =>
    refine converts_of_content (fun entries => ?_) cell
    simp only [seconds, cellValue]
    exact (Converts.convertEntries (fun k => ihkey (some k)) ihvalue entries).map Value.map
  | struct h ih =>
    refine converts_of_content (fun contents => ?_) cell
    simp only [seconds, cellValue]
    exact (fieldValues_converts ih contents).map Value.map

/-! ## What values show -/

/-- A value of a cell shows whether the cell is null. -/
theorem faithful_of_content (h : Faithful fun content : type.Content => type.cellValue (some content)) :
    Faithful type.cellValue := by
  have hnull : ∀ {cell : Option type.Content}, type.cellValue cell = .ok .null → cell = none :=
    fun {cell} h => (Cell.value_eq_null_iff (c := ⟨"", type, cell⟩)).1 h
  intro a b v ha hb
  cases a with
  | none =>
    rw [cellValue, Except.ok.injEq] at ha
    subst ha
    exact (hnull hb).symm
  | some content =>
    cases b with
    | none =>
      rw [cellValue, Except.ok.injEq] at hb
      subst hb
      cases hnull ha
    | some other => rw [h ha hb]

theorem faithful_fieldValues (h : ∀ f ∈ fields, Faithful f.2.cellValue) :
    Faithful (fieldValues fields) := by
  induction fields with
  | nil => exact fun _ _ _ _ _ => rfl
  | cons field rest ih =>
    obtain ⟨name, type⟩ := field
    obtain ⟨hfield, hrest⟩ := List.forall_mem_cons.1 h
    rintro ⟨a, as⟩ ⟨b, bs⟩ out ha hb
    simp only [fieldValues] at ha hb
    obtain ⟨v, hv, ha⟩ := Error.bind_eq_ok.1 ha
    obtain ⟨vs, hvs, ha⟩ := Error.bind_eq_ok.1 ha
    obtain ⟨w, hw, hb⟩ := Error.bind_eq_ok.1 hb
    obtain ⟨ws, hws, hb⟩ := Error.bind_eq_ok.1 hb
    cases ha
    cases hb
    rw [hfield hv hw, ih hrest hvs hws]

/-- Contents that have a value each, and no two of them the same one. -/
theorem faithful_of_injective {g : type.Content → Value}
    (hcell : ∀ content, type.cellValue (some content) = .ok (g content)) (hg : Injective g) :
    Faithful type.cellValue := by
  refine faithful_of_content ?_
  rw [funext hcell]
  exact .of_injective hg

/-- Integers that fit in 32 bits are told apart there. -/
theorem faithful_of_int32 {z : type.Content → Int} (hz : Injective z)
    (hrange : ∀ content, -2 ^ 31 ≤ z content ∧ z content < 2 ^ 31)
    (hcell : ∀ content, type.cellValue (some content) = .ok (.int (.ofInt (z content)))) :
    Faithful type.cellValue := by
  refine faithful_of_injective hcell fun m n hmn => hz ?_
  have hm := Int32.toInt_ofInt_of_le (hrange m).1 (hrange m).2
  have hn := Int32.toInt_ofInt_of_le (hrange n).1 (hrange n).2
  rw [← hm, Value.int.inj hmn, hn]

theorem faithful_of_nat31 {z : type.Content → Nat} (hz : Injective z)
    (hlt : ∀ content, z content < 2 ^ 31)
    (hcell : ∀ content, type.cellValue (some content) = .ok (.int (.ofNat (z content)))) :
    Faithful type.cellValue := by
  refine faithful_of_int32 (z := fun content => z content) (fun m n hmn => ?_) (fun n => ?_) fun n => ?_
  · exact hz (Int.ofNat_inj.1 hmn)
  · have hn := hlt n
    omega
  · rw [hcell, Int32.ofInt_eq_ofNat]

/-- A count of seconds or milliseconds is shown by its milliseconds. -/
theorem faithful_epochMillis {unit : TimeUnit} (h : unit = .second ∨ unit = .millisecond) :
    Faithful (epochMillis unit) := by
  intro a b millis ha hb
  obtain rfl | rfl := h
  · have ha := (epochMillis_second_eq_ok_iff.1 ha).2
    have hb := (epochMillis_second_eq_ok_iff.1 hb).2
    exact Int64.toInt_inj.1 (by omega)
  · exact (Except.ok.inj ha).trans (Except.ok.inj hb).symm

/-- The value of a scalar shows its content. -/
theorem faithful_of_scalar (h : type.isExactScalar = true) : Faithful type.cellValue := by
  cases type with
  | null | uint64 | float32 | float64 | utf8View | fixedSizeBinary | dictionary | date64 | decimal
  | list | largeList | map | struct => cases h
  | boolean => exact faithful_of_injective (fun _ => rfl) fun _ _ => Value.boolean.inj
  | int8 =>
    refine faithful_of_int32 (fun _ _ => Int8.toInt_inj.1) (fun n : Int8 => ?_) fun _ => rfl
    have hlo := n.le_toInt
    have hhi := n.toInt_lt
    omega
  | int16 =>
    refine faithful_of_int32 (fun _ _ => Int16.toInt_inj.1) (fun n : Int16 => ?_) fun _ => rfl
    have hlo := n.le_toInt
    have hhi := n.toInt_lt
    omega
  | uint8 =>
    refine faithful_of_nat31 (fun _ _ => UInt8.toNat_inj.1) (fun n : UInt8 => ?_) fun _ => rfl
    exact n.toNat_lt.trans (by decide)
  | uint16 =>
    refine faithful_of_nat31 (fun _ _ => UInt16.toNat_inj.1) (fun n : UInt16 => ?_) fun _ => rfl
    exact n.toNat_lt.trans (by decide)
  | uint32 =>
    refine faithful_of_injective (fun _ => rfl) fun (m n : UInt32) hmn => ?_
    have hm := Int64.toInt_ofNat_of_lt (m.toNat_lt.trans (by decide))
    have hn := Int64.toInt_ofNat_of_lt (n.toNat_lt.trans (by decide))
    rw [Value.bigint.inj hmn, hn] at hm
    exact UInt32.toNat_inj.1 (by exact_mod_cast hm.symm)
  | int32 => exact faithful_of_injective (fun _ => rfl) fun _ _ => Value.int.inj
  | int64 => exact faithful_of_injective (fun _ => rfl) fun _ _ => Value.bigint.inj
  | utf8 => exact faithful_of_injective (fun _ => rfl) fun _ _ => Value.string.inj
  | largeUtf8 => exact faithful_of_injective (fun _ => rfl) fun _ _ => Value.string.inj
  | binary => exact faithful_of_injective (fun _ => rfl) fun _ _ => Value.bytes.inj
  | largeBinary => exact faithful_of_injective (fun _ => rfl) fun _ _ => Value.bytes.inj
  | date32 => exact faithful_of_injective (fun _ => rfl) fun _ _ => Value.int.inj
  | timestamp unit zone =>
    have hunit : unit = .second ∨ unit = .millisecond := by
      cases unit <;> simp_all [isExactScalar]
    refine faithful_of_content ?_
    simp only [cellValue]
    exact (faithful_epochMillis hunit).map fun _ _ => Value.bigint.inj

/-- The value of a cell of an exact type shows the cell. -/
theorem Exact.faithful (h : type.Exact) : Faithful type.cellValue := by
  induction h with
  | scalar h => exact faithful_of_scalar h
  | list h ih =>
    refine faithful_of_content ?_
    simp only [cellValue]
    exact ih.convertItems.map fun _ _ => Value.list.inj
  | map hkey hvalue ihkey ihvalue =>
    refine faithful_of_content ?_
    simp only [cellValue]
    have hkeys : Faithful fun k => ColumnType.cellValue _ (some k) := fun a b v ha hb =>
      Option.some.inj (ihkey ha hb)
    exact (hkeys.convertEntries ihvalue).map fun _ _ => Value.map.inj
  | struct h ih =>
    refine faithful_of_content ?_
    simp only [cellValue]
    exact (faithful_fieldValues ih).map fun _ _ => Value.map.inj

/-- Cells of exact types are read without loss. A cell is read unless a timestamp inside it counts
seconds that do not fit in milliseconds, no cell with a content becomes null, and cells with one value
are equal. -/
theorem value_determines_cell (h : type.Exact) :
    (∀ cell : Option type.Content,
      ((∃ v, type.cellValue cell = .ok v) ↔ ∀ n ∈ type.seconds cell, FitsMillis n) ∧
      (∀ fault, type.cellValue cell = .error fault → ∃ n ∈ type.seconds cell,
        ¬ FitsMillis n ∧ fault = .store (.timestampRange n.toInt)) ∧
      (type.cellValue cell = .ok .null ↔ cell = none)) ∧
    ∀ (a b : Option type.Content) (v : Value),
      type.cellValue a = .ok v → type.cellValue b = .ok v → a = b := by
  refine ⟨fun cell => ⟨(h.converts cell).exists_ok_iff, ?_, ?_⟩, fun a b v ha hb => ?_⟩
  · exact (h.converts cell).exists_of_error
  · exact Cell.value_eq_null_iff (c := ⟨"", type, cell⟩)
  · exact h.faithful ha hb

/-- The visits to pages, by the name of the page: when they were, in seconds, and how many. -/
def visitsType : ColumnType :=
  .map .utf8 (.list (.struct [("at", .timestamp .second none), ("count", .uint16)]))

/-- The cell of one page with one group of visits, at the given second, and a missing one. -/
def visitsCell (second : Int64) (count : Option UInt16) : Option visitsType.Content :=
  some [("home", some [some (some second, count, ()), none])]

/-- Visits are read without loss: where a count is missing shows in the value. -/
theorem visits_without_loss : visitsType.Exact ∧
    visitsType.cellValue (visitsCell 1700000000 none) =
      .ok (.map [(.string "home", .list [.map [(.string "at", .bigint 1700000000000),
        (.string "count", .null)], .null])]) ∧
    (∀ cell, visitsType.cellValue cell = visitsType.cellValue (visitsCell 1700000000 none) →
      cell = visitsCell 1700000000 none) ∧
    ¬ ∃ v, visitsType.cellValue (visitsCell 9223372036854776 (some 7)) = .ok v := by
  have hexact : visitsType.Exact := by
    refine .map (.scalar rfl) (.list (.struct fun f hf => ?_))
    simp only [List.mem_cons, List.not_mem_nil, or_false] at hf
    obtain rfl | rfl := hf <;> exact .scalar rfl
  obtain ⟨hcells, hequal⟩ := value_determines_cell hexact
  refine ⟨hexact, rfl, fun cell hcell => hequal cell _ _ hcell rfl, fun hread => ?_⟩
  have hfits := (hcells _).1.1 hread 9223372036854776 (by decide)
  exact absurd hfits (by decide)

end ColumnType

end MatView
