import MatView.Catalog.Source

/-!
# Catalogs

A catalog holds at most one source for each name, where names are equal up to ASCII case. A later
registration replaces an earlier one.

## Main definitions

* `Catalog.register`, `Catalog.deregister`: changes.
* `Catalog.find?`: the source of a name.
* `Catalog.sources`, `Catalog.materialized`: listings sorted by name.

## Main statements

* `Catalog.find?_register`, `Catalog.find?_deregister`: what is found after a change.
-/

namespace MatView

/-- The registered sources under their folded names. -/
structure Catalog where
  entries : List (String × Source)
  deriving DecidableEq

namespace Catalog

/-- The catalog without sources. -/
def empty : Catalog := ⟨[]⟩

/-- The name under which a source is kept. -/
def keyOf (name : String) : String :=
  Text.upperAscii name

/-- The source registered under a name. -/
def find? (c : Catalog) (name : String) : Option Source :=
  c.entries.lookup (keyOf name)

/-- The entries under all other names. -/
def without (c : Catalog) (key : String) : List (String × Source) :=
  c.entries.filter fun e => e.1 != key

/-- The catalog with a source in place of any of the same name. -/
def register (c : Catalog) (s : Source) : Catalog :=
  ⟨(keyOf s.name, s) :: c.without (keyOf s.name)⟩

/-- The catalog without the source of a name. -/
def deregister (c : Catalog) (name : String) : Catalog :=
  ⟨c.without (keyOf name)⟩

/-- The catalog of sources that are registered one after the other. -/
def ofList (sources : List Source) : Catalog :=
  sources.foldl register empty

/-- How many sources are registered. -/
def size (c : Catalog) : Nat :=
  c.entries.length

/-- Whether no source is registered. -/
def isEmpty (c : Catalog) : Bool :=
  c.entries.isEmpty

/-- Puts a source in its place in a list that is sorted by name. -/
def insertByName (s : Source) : List Source → List Source
  | [] => [s]
  | t :: ts => if s.name ≤ t.name then s :: t :: ts else t :: insertByName s ts

/-- The sources sorted by name. -/
def sources (c : Catalog) : List Source :=
  (c.entries.map Prod.snd).foldr insertByName []

/-- The sources that have rows in the store, sorted by name. -/
def materialized (c : Catalog) : List Source :=
  c.sources.filter (·.kind.hasRows)

/-! ## Looking up after a change -/

@[simp] theorem find?_empty (name : String) : empty.find? name = none := rfl

theorem lookup_filter_ne {key other : String} {entries : List (String × Source)}
    (h : other ≠ key) :
    (entries.filter fun e => e.1 != key).lookup other = entries.lookup other := by
  induction entries with
  | nil => rfl
  | cons e es ih =>
    obtain ⟨k, s⟩ := e
    by_cases hk : k = key
    · subst hk
      have : (other == k) = false := by simpa using h
      simp [List.lookup_cons, ih, this]
    · simp [hk, List.lookup_cons, ih]

theorem lookup_filter_self (key : String) (entries : List (String × Source)) :
    (entries.filter fun e => e.1 != key).lookup key = none := by
  induction entries with
  | nil => rfl
  | cons e es ih =>
    obtain ⟨k, s⟩ := e
    by_cases hk : k = key
    · simp [hk, ih]
    · have : (key == k) = false := by simpa using fun h => hk h.symm
      simp [hk, List.lookup_cons, ih, this]

/-- A registration is found under every spelling of its name and hides no other name. -/
theorem find?_register (c : Catalog) (s : Source) (name : String) :
    (c.register s).find? name = if keyOf name = keyOf s.name then some s else c.find? name := by
  by_cases h : keyOf name = keyOf s.name
  · simp [register, find?, h]
  · have : (keyOf name == keyOf s.name) = false := by simpa using h
    simp [register, find?, List.lookup_cons, h, this, without, lookup_filter_ne h]

/-- A name is not found after its source was removed; all others are found as before. -/
theorem find?_deregister (c : Catalog) (gone name : String) :
    (c.deregister gone).find? name = if keyOf name = keyOf gone then none else c.find? name := by
  by_cases h : keyOf name = keyOf gone
  · simp [deregister, find?, without, h, lookup_filter_self]
  · simp [deregister, find?, without, h, lookup_filter_ne h]

end Catalog

end MatView
