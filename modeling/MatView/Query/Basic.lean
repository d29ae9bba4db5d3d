import MatView.Error

/-!
# Queries

Of a parsed statement only three things matter: the source it reads, the columns it projects and
whether it has a predicate.

## Main definitions

* `FromClause`, `SelectedColumn`, `Projection`, `Query`.
* `Query.source`: the source, or the error of a query without one.
-/

namespace MatView

/-- The source of a query and its alias. -/
structure FromClause where
  source : String
  alias? : Option String := none
  deriving DecidableEq

/-- A projected column and its alias. -/
structure SelectedColumn where
  column : String
  alias? : Option String := none
  deriving DecidableEq

namespace SelectedColumn

/-- The name of the column in the result: the alias if there is one. -/
def outputName (c : SelectedColumn) : String :=
  c.alias?.getD c.column

end SelectedColumn

/-- The columns that a query asks for. -/
inductive Projection
  /-- All value columns of the source. -/
  | all
  | columns (items : List SelectedColumn)
  deriving DecidableEq

namespace Projection

/-- Whether all columns are asked for. -/
def isAll : Projection → Bool
  | all => true
  | columns _ => false

end Projection

/-- What matters of a parsed statement. -/
structure Query where
  from? : Option FromClause
  projection : Projection
  hasWhere : Bool := false
  deriving DecidableEq

namespace Query

/-- The source of a query. -/
def source (q : Query) : Except Error FromClause :=
  match q.from? with
  | some clause => .ok clause
  | none => .error (.unresolvedSource .missing)

end Query

end MatView
