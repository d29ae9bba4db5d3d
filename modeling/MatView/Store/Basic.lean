import MatView.Error
import MatView.Store.Cell
import MatView.Text.Keyword

/-!
# The store

The store holds physical tables, each a sequence of batches, under names without regard to ASCII
case. A query is answered with all rows of the table that its first `FROM` names; predicates are not
looked at. Every query that reaches the store is recorded, also those that fail.

## Main definitions

* `Store.insert`, `Store.clear`: the content of tables.
* `Store.breakWith`, `Store.repair`: making the store fail.
* `Store.tableOf`: the table that a query names.
* `Store.ask`: the answer to a query, and the store after it.

## Main statements

* `Store.batches_insert`, `Store.batches_clear`: what a change does to each table.
-/

namespace MatView

/-- Physical tables, the queries so far and the failure that is set. -/
structure Store where
  tables : List (String × Batch)
  log : List String
  failure : Option String

namespace Store

/-- The store without tables. -/
def empty : Store := ⟨[], [], none⟩

/-- The name under which a table is kept. -/
def keyOf (name : String) : String :=
  Text.lowerAscii name

/-- The store with one more batch at the end of a table. -/
def insert (s : Store) (table : String) (b : Batch) : Store :=
  { s with tables := s.tables ++ [(keyOf table, b)] }

/-- The store with a table emptied. -/
def clear (s : Store) (table : String) : Store :=
  { s with tables := s.tables.filter fun t => t.1 != keyOf table }

/-- The store that answers every query with a failure. -/
def breakWith (s : Store) (message : String) : Store :=
  { s with failure := some message }

/-- The store that answers queries again. -/
def repair (s : Store) : Store :=
  { s with failure := none }

/-- The batches of a table, by the name it is kept under. -/
def batches (s : Store) (key : String) : List Batch :=
  (s.tables.filter fun t => t.1 == key).map Prod.snd

/-- The rows of a table, by the name it is kept under. -/
def rows (s : Store) (key : String) : List ResultRow :=
  (s.batches key).flatMap Batch.rows

/-! ## Answering queries -/

/-- The part of a dotted name behind its last dot. -/
def lastPart (name : List Char) : List Char :=
  (name.reverse.takeWhile (· != '.')).reverse

/-- The name of the table that a query reads, as it is kept: the last part of the identifier behind
the first `FROM`. -/
def tableOf (query : String) : Except Error String :=
  match Text.fromSpan query.toList with
  | none => .error (.store (.noTarget query))
  | some span =>
    let table := lastPart (span.slice query.toList)
    if table.isEmpty then .error (.store (.noTarget query))
    else .ok (keyOf (String.ofList table))

/-- The store after a query was recorded. -/
def record (s : Store) (query : String) : Store :=
  { s with log := s.log ++ [query] }

/-- The answer to a query. -/
def answer (s : Store) (query : String) : Except Error (List ResultRow) :=
  match s.failure with
  | some message => .error (.store (.failing message))
  | none => do
    let table ← tableOf query
    return s.rows table

/-- The answer to a query, and the store after it. -/
def ask (s : Store) (query : String) : Except Error (List ResultRow) × Store :=
  (s.answer query, s.record query)

/-! ## What a change does to a table -/

@[simp] theorem log_record (s : Store) (query : String) :
    (s.record query).log = s.log ++ [query] := rfl

@[simp] theorem batches_insert (s : Store) (table : String) (b : Batch) (key : String) :
    (s.insert table b).batches key =
      s.batches key ++ if keyOf table = key then [b] else [] := by
  by_cases h : keyOf table = key <;> simp [batches, insert, h]

/-- A cleared table is empty and no other table changes. -/
theorem batches_clear (s : Store) (table key : String) :
    (s.clear table).batches key = if keyOf table = key then [] else s.batches key := by
  by_cases h : keyOf table = key
  · subst h
    simp [batches, clear, List.filter_filter]
  · simp only [batches, clear, List.filter_filter, h, if_false]
    congr 1
    apply List.filter_congr
    intro t _
    by_cases ht : t.1 = key
    · simp [ht, Ne.symm h]
    · simp [ht]

end Store

end MatView
