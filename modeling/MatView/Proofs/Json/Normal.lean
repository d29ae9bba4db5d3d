import MatView.Json.ToValue

/-!
# Values that documents stand for

JSON text knows neither the width of an integer nor bytes nor maps whose keys are no names. The
normal form of a value is what is left of it in its text.

## Main definitions

* `Value.all`: a property of a value and of all values inside it.
* `Value.normal`: the normal form of a value.
* `Value.nesting`: how deep lists and maps are nested in a value.
* `Value.IsDocument`: the values that documents stand for.

## Main statements

* `Value.normal_eq_self_iff`: the values that are their own normal form.
* `Json.Tree.isDocument_of_toValue?`: documents stand for nothing else.
-/

namespace MatView

namespace Value

/-! ## Values inside values -/

mutual

/-- Whether a value and all values inside it have a property. -/
def all (p : Value → Bool) : Value → Bool
  | .map entries => p (.map entries) && allEntries p entries
  | .list items => p (.list items) && allItems p items
  | .null => p .null
  | .boolean b => p (.boolean b)
  | .int n => p (.int n)
  | .bigint n => p (.bigint n)
  | .float x => p (.float x)
  | .double x => p (.double x)
  | .string s => p (.string s)
  | .bytes bs => p (.bytes bs)

/-- Whether all values in a list have a property, with all values inside them. -/
def allItems (p : Value → Bool) : List Value → Bool
  | [] => true
  | v :: vs => all p v && allItems p vs

/-- Whether all keys and values of entries have a property, with all values inside them. -/
def allEntries (p : Value → Bool) : List (Value × Value) → Bool
  | [] => true
  | (k, v) :: es => all p k && all p v && allEntries p es

end

/-- Whether the value is a map. -/
def isMap : Value → Bool
  | .map _ => true
  | _ => false

/-- Whether the value is a floating-point number. -/
def isFloating : Value → Bool
  | .float _ | .double _ => true
  | _ => false

/-- Whether the value is of a type that documents have. -/
def isDocumentary : Value → Bool
  | .int _ | .float _ | .bytes _ => false
  | _ => true

/-! ## Normal forms -/

mutual

/-- The value that is left of a value in its text: integers of one width, and lists for bytes and
for the entries of a map. -/
def normal : Value → Value
  | .int n => .bigint n.toInt64
  | .bytes bs => .list (bs.map fun b => .bigint (.ofInt b.toNat))
  | .map entries => .list (normalEntries entries)
  | .list items => .list (normalItems items)
  | .null => .null
  | .boolean b => .boolean b
  | .bigint n => .bigint n
  | .float x => .float x
  | .double x => .double x
  | .string s => .string s

/-- The normal forms of the items of a list. -/
def normalItems : List Value → List Value
  | [] => []
  | v :: vs => normal v :: normalItems vs

/-- The normal forms of the entries of a map, each a list of two. -/
def normalEntries : List (Value × Value) → List Value
  | [] => []
  | (k, v) :: es => .list [normal k, normal v] :: normalEntries es

end

mutual

/-- How deep lists and maps are nested in a value. -/
def nesting : Value → Nat
  | .map entries => nestingEntries entries + 1
  | .list items => nestingItems items + 1
  | _ => 0

/-- How deep lists and maps are nested in the items of a list. -/
def nestingItems : List Value → Nat
  | [] => 0
  | v :: vs => max (nesting v) (nestingItems vs)

/-- How deep lists and maps are nested in the entries of a map. -/
def nestingEntries : List (Value × Value) → Nat
  | [] => 0
  | (k, v) :: es => max (max (nesting k) (nesting v)) (nestingEntries es)

end

mutual

/-- A value of types that documents have is its own normal form if there is no map in it. -/
theorem normal_eq_self_iff : (v : Value) → v.all isDocumentary = true →
    (v.normal = v ↔ v.all (!·.isMap) = true)
  | .map entries, _ => by simp [normal, all, isMap]
  | .list items, h => by
    simp only [all, isDocumentary, Bool.true_and] at h
    simp only [normal, list.injEq, all, isMap, Bool.not_false, Bool.true_and]
    exact normalItems_eq_self_iff items h
  | .int _, h => by cases h
  | .float _, h => by cases h
  | .bytes _, h => by cases h
  | .null, _ | .boolean _, _ | .bigint _, _ | .double _, _ | .string _, _ => by
    simp [normal, all, isMap]

theorem normalItems_eq_self_iff : (vs : List Value) → allItems isDocumentary vs = true →
    (normalItems vs = vs ↔ allItems (!·.isMap) vs = true)
  | [], _ => by simp [normalItems, allItems]
  | v :: vs, h => by
    simp only [allItems, Bool.and_eq_true] at h
    simp only [normalItems, List.cons.injEq, allItems, Bool.and_eq_true,
      normal_eq_self_iff v h.1, normalItems_eq_self_iff vs h.2]

end

/-! ## Lists of values -/

section

variable {vs : List Value}

theorem allItems_iff {p : Value → Bool} : allItems p vs = true ↔ ∀ v ∈ vs, v.all p = true := by
  induction vs with
  | nil => simp [allItems]
  | cons v vs ih => simp [allItems, ih]

theorem normalItems_eq_map (vs : List Value) : normalItems vs = vs.map normal := by
  induction vs with
  | nil => rfl
  | cons v vs ih => rw [normalItems, ih, List.map_cons]

theorem nestingItems_le_iff {depth : Nat} :
    nestingItems vs ≤ depth ↔ ∀ v ∈ vs, v.nesting ≤ depth := by
  induction vs with
  | nil => simp [nestingItems]
  | cons v vs ih => rw [nestingItems, Nat.max_le, ih, List.forall_mem_cons]

end

/-- A value of the types that documents have, nested no deeper than allowed. -/
def IsDocument (depth : Nat) (v : Value) : Prop :=
  v.all isDocumentary = true ∧ v.nesting ≤ depth

end Value

namespace Json

/-! ## Values of documents -/

section

variable {p : String × Value → Prop}

theorem forall_mem_insertEntry {name : String} {v : Value} {entries : List (String × Value)}
    (hnew : p (name, v)) (h : ∀ e ∈ entries, p e) : ∀ e ∈ insertEntry name v entries, p e := by
  induction entries with
  | nil => simpa [insertEntry] using hnew
  | cons e rest ih =>
    obtain ⟨other, w⟩ := e
    simp only [List.mem_cons, forall_eq_or_imp] at h
    unfold insertEntry
    split
    · exact List.forall_mem_cons.2 ⟨hnew, h.2⟩
    · split
      · exact List.forall_mem_cons.2 ⟨hnew, List.forall_mem_cons.2 h⟩
      · exact List.forall_mem_cons.2 ⟨h.1, ih h.2⟩

/-- Sorting adds no entry. -/
theorem forall_mem_sortEntries {entries : List (String × Value)} (h : ∀ e ∈ entries, p e) :
    ∀ e ∈ sortEntries entries, p e := by
  suffices hfold : ∀ (entries sorted : List (String × Value)), (∀ e ∈ entries, p e) →
      (∀ e ∈ sorted, p e) →
      ∀ e ∈ entries.foldl (fun sorted e => insertEntry e.1 e.2 sorted) sorted, p e from
    hfold entries [] h (by simp)
  intro entries
  induction entries with
  | nil => exact fun sorted _ h => h
  | cons e rest ih =>
    intro sorted h hsorted
    simp only [List.mem_cons, forall_eq_or_imp] at h
    exact ih _ h.2 (forall_mem_insertEntry h.1 hsorted)

end

/-- The entries that stand for members of an object with values of the given nesting. -/
theorem isDocument_named {depth : Nat} {entries : List (String × Value)}
    (h : ∀ e ∈ entries, e.2.IsDocument depth) :
    (Value.map (entries.map fun e => (.string e.1, e.2))).IsDocument (depth + 1) := by
  suffices hentries : ∀ entries : List (String × Value), (∀ e ∈ entries, e.2.IsDocument depth) →
      Value.allEntries Value.isDocumentary (entries.map fun e => (.string e.1, e.2)) = true ∧
      Value.nestingEntries (entries.map fun e => (.string e.1, e.2)) ≤ depth by
    obtain ⟨hall, hnesting⟩ := hentries entries h
    exact ⟨by simpa [Value.all, Value.isDocumentary] using hall, Nat.succ_le_succ hnesting⟩
  intro entries h
  induction entries with
  | nil => exact ⟨rfl, Nat.zero_le _⟩
  | cons e rest ih =>
    obtain ⟨⟨hall, hnesting⟩, hrest⟩ := List.forall_mem_cons.1 h
    obtain ⟨hallRest, hnestingRest⟩ := ih hrest
    simp only [List.map_cons, Value.allEntries, Value.all, Value.isDocumentary, Bool.true_and,
      Bool.and_eq_true, Value.nestingEntries, Value.nesting]
    exact ⟨⟨hall, hallRest⟩, by omega⟩

mutual

/-- A document stands for a value of the types that documents have, nested no deeper than allowed.
-/
theorem Tree.isDocument_of_toValue? {depth : Nat} {v : Value} : (t : Tree) →
    t.toValue? depth = some v → v.IsDocument depth
  | .null, h | .bool _, h => by
    cases h
    exact ⟨rfl, Nat.zero_le _⟩
  | .number n, h => by
    simp only [Tree.toValue?, Numeral.toValue?] at h
    cases hn : n.toInt64? with
    | some i =>
      rw [hn] at h
      cases h
      exact ⟨rfl, Nat.zero_le _⟩
    | none =>
      rw [hn] at h
      obtain ⟨x, -, rfl⟩ := Option.map_eq_some_iff.1 h
      exact ⟨rfl, Nat.zero_le _⟩
  | .string ps, h => by
    obtain ⟨s, -, rfl⟩ := Option.map_eq_some_iff.1 h
    exact ⟨rfl, Nat.zero_le _⟩
  | .array items, h => by
    cases depth with
    | zero => cases h
    | succ depth =>
      obtain ⟨vs, hvs, rfl⟩ := Option.map_eq_some_iff.1 h
      obtain ⟨hall, hnesting⟩ := isDocument_of_toValues? items hvs
      exact ⟨hall, Nat.succ_le_succ hnesting⟩
  | .object members, h => by
    cases depth with
    | zero => cases h
    | succ depth =>
      obtain ⟨entries, hentries, rfl⟩ := Option.map_eq_some_iff.1 h
      exact isDocument_named (forall_mem_sortEntries (isDocument_of_toEntries? members hentries))

theorem isDocument_of_toValues? {depth : Nat} {vs : List Value} : (ts : List Tree) →
    toValues? depth ts = some vs →
    Value.allItems Value.isDocumentary vs = true ∧ Value.nestingItems vs ≤ depth
  | [], h => by
    cases h
    exact ⟨rfl, Nat.zero_le _⟩
  | t :: ts, h => by
    simp only [toValues?] at h
    split at h
    · rename_i v vs hv hvs
      cases h
      obtain ⟨hall, hnesting⟩ := t.isDocument_of_toValue? hv
      obtain ⟨halls, hnestings⟩ := isDocument_of_toValues? ts hvs
      exact ⟨by rw [Value.allItems, hall, halls]; rfl, Nat.max_le.2 ⟨hnesting, hnestings⟩⟩
    · cases h

theorem isDocument_of_toEntries? {depth : Nat} {entries : List (String × Value)} :
    (ms : List (List Piece × Tree)) → toEntries? depth ms = some entries →
    ∀ e ∈ entries, e.2.IsDocument depth
  | [], h => by
    cases h
    simp
  | (name, t) :: ms, h => by
    simp only [toEntries?] at h
    split at h
    · rename_i hv hentries
      cases h
      exact List.forall_mem_cons.2
        ⟨t.isDocument_of_toValue? hv, isDocument_of_toEntries? ms hentries⟩
    · cases h

end

end Json

end MatView
