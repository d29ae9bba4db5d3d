import MatView.Decoding.Decoder
import MatView.Proofs.Query.Items

/-!
# Rows are decoded item by item

The value of a projected column depends on the row and on the column only: the key of the row is
decoded once and is the same for all columns. A row decoded for two projections, one behind the other,
is put together from the rows decoded for each, and taking projected columns again, leaving some out
or changing their order does the same to the values.

## Main definitions

* `PickedAt`: items picked from a list, at given places.
* `Decoder.bounds`: the window of a row, behind the values of the planned columns.

## Main statements

* `Decoder.decodePlanned_eq_ok_iff`, `Decoder.decodePlanned_eq_error_iff`: when a row is decoded.
* `Decoder.decodePlanned_append`, `Decoder.decodePlanned_append_eq_error_iff`: decoding for two
  projections.
* `Decoder.decode_picked`: decoding for columns picked from a projection.
* `Decoder.decoded_itemwise`: planning and decoding are item-wise.
-/

namespace MatView

/-! ## Picked items -/

/-- A list is picked from another one: its items are those that stand at the given places. -/
def PickedAt {α : Type} (places : List Nat) (all picked : List α) : Prop :=
  List.Forall₂ (fun i a => all[i]? = some a) places picked

section

variable {α β : Type} {R : α → β → Prop} {as : List α} {bs : List β} {places : List Nat}

/-- Lists that are related item by item have related items at each place. -/
theorem exists_getElem?_of_forall₂ (h : List.Forall₂ R as bs) {i : Nat} {a : α}
    (ha : as[i]? = some a) : ∃ b, bs[i]? = some b ∧ R a b := by
  induction h generalizing i with
  | nil => simp at ha
  | cons hfirst _ ih =>
    cases i with
    | zero =>
      cases ha
      exact ⟨_, rfl, hfirst⟩
    | succ i => exact ih ha

namespace PickedAt

/-- There is one list of the items at given places. -/
theorem unique {xs ys : List α} (hx : PickedAt places as xs) (hy : PickedAt places as ys) :
    xs = ys := by
  induction hx generalizing ys with
  | nil =>
    cases hy
    rfl
  | cons ha _ ih =>
    obtain _ | ⟨hb, hrest⟩ := hy
    rw [ih hrest, Option.some.inj (ha.symm.trans hb)]

/-- What is related to the items of a list can be picked along with them. -/
theorem of_forall₂ {picked : List α} (hpicked : PickedAt places as picked)
    (h : List.Forall₂ R as bs) : ∃ others, PickedAt places bs others ∧ List.Forall₂ R picked others := by
  induction hpicked with
  | nil => exact ⟨[], .nil, .nil⟩
  | cons ha _ ih =>
    obtain ⟨b, hb, hab⟩ := exists_getElem?_of_forall₂ h ha
    obtain ⟨others, hothers, hrest⟩ := ih
    exact ⟨b :: others, .cons hb hothers, .cons hab hrest⟩

/-- What is picked from a list is picked from it with anything behind it. -/
theorem append {picked : List α} (hpicked : PickedAt places as picked) (back : List α) :
    PickedAt places (as ++ back) picked := by
  refine List.Forall₂.imp (fun i a ha => ?_) hpicked
  obtain ⟨hi, -⟩ := List.getElem?_eq_some_iff.1 ha
  rwa [List.getElem?_append_left hi]

end PickedAt

end

namespace Decoder

variable {d : Decoder} {r : ResultRow} {source : Source} {plan a b : Plan} {row : Row}
  {fault : Error}

/-! ## Planned columns -/

/-- The window of a row, behind the values of the planned columns. -/
def bounds (d : Decoder) (r : ResultRow) (plan : Plan) (source : Source) : List Value :=
  if plan.windowed then d.boundValues (d.windowedKey? r plan source) else []

@[simp] theorem length_bounds (d : Decoder) (r : ResultRow) (plan : Plan) (source : Source) :
    (d.bounds r plan source).length = if plan.windowed then 2 else 0 := by
  unfold bounds
  split_ifs <;> simp

/-- Plans that agree on whether there are windows have the same key and window for a row. -/
theorem windowedKey?_congr (h : a.windowed = b.windowed) :
    d.windowedKey? r a source = d.windowedKey? r b source := by
  rw [windowedKey?, windowedKey?, h]

theorem bounds_congr (h : a.windowed = b.windowed) : d.bounds r a source = d.bounds r b source := by
  rw [bounds, bounds, windowedKey?_congr h, h]

/-- A row is decoded if each planned column is read. Its values are theirs, and the window. -/
theorem decodePlanned_eq_ok_iff : d.decodePlanned r plan source = .ok row ↔
    ∃ values, List.Forall₂ (fun c v =>
        d.columnValue r (d.windowedKey? r plan source) c.source = .ok v) plan.columns values ∧
      row = ⟨values ++ d.bounds r plan source⟩ := by
  simp only [← Error.mapM_eq_ok_iff, ← columnValues_eq_mapM]
  constructor
  · intro h
    obtain ⟨values, hvalues, h⟩ := Error.bind_eq_ok.1 h
    cases h
    exact ⟨values, hvalues, rfl⟩
  · rintro ⟨values, hvalues, rfl⟩
    exact Error.bind_eq_ok.2 ⟨values, hvalues, rfl⟩

/-- A row is not decoded if a planned column cannot be read. -/
theorem decodePlanned_eq_error_iff : d.decodePlanned r plan source = .error fault ↔
    (plan.columns.mapM fun c => d.columnValue r (d.windowedKey? r plan source) c.source) =
      .error fault := by
  rw [decodePlanned, Error.bind_eq_error, columnValues_eq_mapM]
  exact or_iff_left fun ⟨_, _, h⟩ => nomatch h

/-! ## Two projections -/

variable {x y : Row}

/-- Rows decoded by two plans are put together to the row that is decoded by a plan with the columns
of both. The three have the same window. -/
theorem decodePlanned_append (hwindowed : a.windowed = b.windowed)
    (ha : d.decodePlanned r a source = .ok x) (hb : d.decodePlanned r b source = .ok y) :
    ∃ xs ys window, x = ⟨xs ++ window⟩ ∧ y = ⟨ys ++ window⟩ ∧ xs.length = a.columns.length ∧
      ys.length = b.columns.length ∧ window.length = (if b.windowed then 2 else 0) ∧
      d.decodePlanned r ⟨a.columns ++ b.columns, b.windowed⟩ source = .ok ⟨xs ++ ys ++ window⟩ := by
  obtain ⟨xs, hxs, rfl⟩ := decodePlanned_eq_ok_iff.1 ha
  obtain ⟨ys, hys, rfl⟩ := decodePlanned_eq_ok_iff.1 hb
  refine ⟨xs, ys, d.bounds r b source, ?_, rfl, hxs.length_eq.symm, hys.length_eq.symm,
    length_bounds d r b source, decodePlanned_eq_ok_iff.2 ⟨xs ++ ys, ?_, rfl⟩⟩
  · rw [bounds_congr hwindowed]
  · rw [windowedKey?_congr hwindowed] at hxs
    exact List.rel_append hxs hys

/-- A row is not decoded by a plan with the columns of two if it is not decoded by the first, or else
not by the second. -/
theorem decodePlanned_append_eq_error_iff (hwindowed : a.windowed = b.windowed) :
    d.decodePlanned r ⟨a.columns ++ b.columns, b.windowed⟩ source = .error fault ↔
      d.decodePlanned r a source = .error fault ∨
        (∃ x, d.decodePlanned r a source = .ok x) ∧ d.decodePlanned r b source = .error fault := by
  have hdecodes : (∃ x, d.decodePlanned r a source = .ok x) ↔ ∃ values,
      (a.columns.mapM fun c => d.columnValue r (d.windowedKey? r a source) c.source) =
        .ok values := by
    simp only [decodePlanned_eq_ok_iff, ← Error.mapM_eq_ok_iff]
    exact ⟨fun ⟨_, values, h, _⟩ => ⟨values, h⟩, fun ⟨values, h⟩ => ⟨_, values, h, rfl⟩⟩
  rw [decodePlanned_eq_error_iff, Error.mapM_append_eq_error_iff, hdecodes,
    decodePlanned_eq_error_iff, decodePlanned_eq_error_iff, windowedKey?_congr hwindowed]
  rfl

/-- A row is decoded by a plan with the columns of two if it is decoded by both. -/
theorem exists_decodePlanned_append_iff (hwindowed : a.windowed = b.windowed) :
    (∃ row, d.decodePlanned r ⟨a.columns ++ b.columns, b.windowed⟩ source = .ok row) ↔
      (∃ x, d.decodePlanned r a source = .ok x) ∧ ∃ y, d.decodePlanned r b source = .ok y := by
  constructor
  · rintro ⟨row, hrow⟩
    cases ha : d.decodePlanned r a source with
    | error fault =>
      rw [(decodePlanned_append_eq_error_iff hwindowed).2 (.inl ha)] at hrow
      cases hrow
    | ok x =>
      cases hb : d.decodePlanned r b source with
      | error fault =>
        rw [(decodePlanned_append_eq_error_iff hwindowed).2 (.inr ⟨⟨x, ha⟩, hb⟩)] at hrow
        cases hrow
      | ok y => exact ⟨⟨x, rfl⟩, y, rfl⟩
  · rintro ⟨⟨x, ha⟩, y, hb⟩
    obtain ⟨xs, ys, window, -, -, -, -, -, hrow⟩ := decodePlanned_append hwindowed ha hb
    exact ⟨_, hrow⟩

/-! ## Picked columns -/

variable {items picked : List SelectedColumn} {places : List Nat}

/-- A row that is decoded for a projection is decoded for columns picked from it, whatever their
number and order. Its values are picked in the same way, and its window is the same. -/
theorem decode_picked (h : d.decode r (.columns items) source = .ok row)
    (hpicked : PickedAt places items picked) :
    ∃ values, PickedAt places row.values values ∧
      d.decode r (.columns picked) source = .ok ⟨values ++ row.values.drop items.length⟩ := by
  obtain ⟨plan, hplan, hrow⟩ := Error.bind_eq_ok.1 h
  obtain ⟨hcolumns, hwindowed⟩ := Plan.build_columns_eq_ok_iff.1 hplan
  obtain ⟨all, hall, rfl⟩ := decodePlanned_eq_ok_iff.1 hrow
  obtain ⟨columns, hplaces, hselected⟩ := hpicked.of_forall₂ hcolumns
  obtain ⟨values, hvalues, hread⟩ := hplaces.of_forall₂ hall
  have hsame : (Plan.mk columns source.isWindowed).windowed = plan.windowed := hwindowed.symm
  refine ⟨values, hvalues.append _, Error.bind_eq_ok.2
    ⟨⟨columns, source.isWindowed⟩, Plan.build_columns_eq_ok_iff.2 ⟨hselected, rfl⟩, ?_⟩⟩
  have hlength : items.length = all.length := hcolumns.length_eq.trans hall.length_eq
  rw [List.drop_left' hlength.symm, ← bounds_congr hsame]
  exact decodePlanned_eq_ok_iff.2 ⟨values, by rwa [windowedKey?_congr hsame], rfl⟩

/-! ## Both together -/

/-- Planning and decoding are item-wise. A projection in two parts is planned if both parts are, and
the error of a plan names the first column that is not declared. A row is decoded for both parts if it
is for each: to the values of the first, the values of the second and the window that it has for each.
It fails as it does for the first part, or else as it does for the second. Columns picked from a projection get the
values at their places. -/
theorem decoded_itemwise (source : Source) :
    (∀ p q plan, Plan.build (.columns (p ++ q)) source = .ok plan ↔
      ∃ a b, Plan.build (.columns p) source = .ok a ∧ Plan.build (.columns q) source = .ok b ∧
        plan = ⟨a.columns ++ b.columns, source.isWindowed⟩) ∧
    (∀ items fault, Plan.build (.columns items) source = .error fault ↔
      ∃ front item back, items = front ++ item :: back ∧
        (∀ known ∈ front, source.schema.Declares known) ∧ ¬ source.schema.Declares item ∧
          fault = .columnNotFound source.name item.column) ∧
    (∀ (d : Decoder) (r : ResultRow) (p q : List SelectedColumn) (a b plan : Plan),
      Plan.build (.columns p) source = .ok a → Plan.build (.columns q) source = .ok b →
      Plan.build (.columns (p ++ q)) source = .ok plan →
        ((∃ row, d.decodePlanned r plan source = .ok row) ↔
          (∃ x, d.decodePlanned r a source = .ok x) ∧
            ∃ y, d.decodePlanned r b source = .ok y) ∧
        (∀ x y, d.decodePlanned r a source = .ok x → d.decodePlanned r b source = .ok y →
          ∃ xs ys window, x = ⟨xs ++ window⟩ ∧ y = ⟨ys ++ window⟩ ∧ xs.length = p.length ∧
            ys.length = q.length ∧ window.length = (if source.isWindowed then 2 else 0) ∧
              d.decodePlanned r plan source = .ok ⟨xs ++ ys ++ window⟩) ∧
        ∀ fault, d.decodePlanned r plan source = .error fault ↔
          d.decodePlanned r a source = .error fault ∨
            (∃ x, d.decodePlanned r a source = .ok x) ∧
              d.decodePlanned r b source = .error fault) ∧
    ∀ (d : Decoder) (r : ResultRow) (items picked : List SelectedColumn) (places : List Nat)
      (row : Row), d.decode r (.columns items) source = .ok row → PickedAt places items picked →
        ∃ values, PickedAt places row.values values ∧
          d.decode r (.columns picked) source = .ok ⟨values ++ row.values.drop items.length⟩ := by
  refine ⟨fun p q plan => Plan.build_append_eq_ok_iff,
    fun items fault => Plan.build_columns_eq_error_iff, ?_,
    fun d r items picked places row h hpicked => decode_picked h hpicked⟩
  intro d r p q a b plan ha hb hplan
  have hab : plan = ⟨a.columns ++ b.columns, b.windowed⟩ := by
    obtain ⟨a', b', ha', hb', rfl⟩ := Plan.build_append_eq_ok_iff.1 hplan
    rw [ha] at ha'
    rw [hb] at hb'
    cases ha'
    cases hb'
    rw [Plan.windowed_of_build hb]
  have hwindowed : a.windowed = b.windowed :=
    (Plan.windowed_of_build ha).trans (Plan.windowed_of_build hb).symm
  obtain ⟨hp, -⟩ := Plan.build_columns_eq_ok_iff.1 ha
  obtain ⟨hq, -⟩ := Plan.build_columns_eq_ok_iff.1 hb
  subst hab
  refine ⟨exists_decodePlanned_append_iff hwindowed, ?_, ?_⟩
  · intro x y hx hy
    rw [hp.length_eq, hq.length_eq, ← Plan.windowed_of_build hb]
    exact decodePlanned_append hwindowed hx hy
  · intro fault
    exact decodePlanned_append_eq_error_iff hwindowed

/-- Invoices with their customers. -/
def invoices : Source where
  name := "INVOICES"
  schema := ⟨some ⟨"ID", .bigint⟩, [⟨"CUSTOMER", .string⟩, ⟨"AMOUNT", .bigint⟩]⟩
  physicalName := "invoices_v1"

/-- A row of `invoices`. -/
def invoiceRow : ResultRow :=
  ⟨[⟨"customer", .utf8, some "eu"⟩, ⟨"amount", .int64, some (500 : Int64)⟩]⟩

/-- A customer and an amount are read one behind the other, and the amount can be read twice. -/
theorem invoice_picked :
    (ofConfig .default WindowedKey.decode).decode invoiceRow
      (.columns [⟨"customer", none⟩, ⟨"amount", none⟩]) invoices =
        .ok ⟨[.string "eu", .bigint 500]⟩ ∧
    (ofConfig .default WindowedKey.decode).decode invoiceRow
      (.columns [⟨"amount", none⟩, ⟨"customer", none⟩, ⟨"amount", none⟩]) invoices =
        .ok ⟨[.bigint 500, .string "eu", .bigint 500]⟩ := by
  obtain ⟨-, -, hparts, hpicks⟩ := decoded_itemwise invoices
  have hboth : (ofConfig .default WindowedKey.decode).decode invoiceRow
      (.columns [⟨"customer", none⟩, ⟨"amount", none⟩]) invoices =
        .ok ⟨[.string "eu", .bigint 500]⟩ := by
    obtain ⟨-, hvalues, -⟩ := hparts (ofConfig .default WindowedKey.decode) invoiceRow
      [⟨"customer", none⟩] [⟨"amount", none⟩] _ _ _ rfl rfl rfl
    obtain ⟨xs, ys, window, hx, hy, -, -, hwindow, hrow⟩ := hvalues _ _ rfl rfl
    obtain rfl := List.eq_nil_of_length_eq_zero hwindow
    rw [List.append_nil] at hx hy hrow
    cases hx
    cases hy
    exact hrow
  refine ⟨hboth, ?_⟩
  obtain ⟨values, hvalues, hrow⟩ := hpicks _ _ _
    [⟨"amount", none⟩, ⟨"customer", none⟩, ⟨"amount", none⟩] [1, 0, 1] _ hboth
    (.cons rfl (.cons rfl (.cons rfl .nil)))
  have hamounts : PickedAt [1, 0, 1] [Value.string "eu", .bigint 500]
      [.bigint 500, .string "eu", .bigint 500] := .cons rfl (.cons rfl (.cons rfl .nil))
  rw [hvalues.unique hamounts] at hrow
  exact hrow

end Decoder

end MatView
