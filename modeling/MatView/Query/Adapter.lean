import MatView.Catalog.Source
import MatView.Config.Basic
import MatView.Query.Basic
import MatView.Text.Keyword
import MatView.Unicode.Upper

/-!
# Adapting statements to the store

A statement is cut at its first `WHERE` into a head and a predicate. The head is upper-cased, its
source is qualified with the physical table, and the key column is put in front of an explicit
select list that does not name it. The predicate stays as it is, and the scan clause is added at its
end, before a semicolon.

A statement without a predicate is all head, so its literals are upper-cased too.

## Main definitions

* `Adapter.ofConfig`: the settings that matter.
* `Adapter.qualify`, `Adapter.inject`, `Adapter.addScanClause`: the steps.
* `Adapter.adapt`: the text for the store.
-/

namespace MatView

/-- How statements are adapted. -/
structure Adapter where
  keyColumn : String
  scanClause : String
  injectKeyColumn : Bool

namespace Adapter

/-- The adapter of a configuration. -/
def ofConfig (c : Config) : Adapter where
  keyColumn := Unicode.upper c.keyColumn
  scanClause := String.ofList (Unicode.trim c.scanClause.toList)
  injectKeyColumn := c.injectKeyColumn

/-! ## The steps -/

/-- A statement cut at its first `WHERE`, if the query has a predicate. -/
def split (statement : List Char) (hasWhere : Bool) : Except Error (List Char × List Char) :=
  if hasWhere then
    match Text.keywordOffset statement "WHERE" with
    | some offset => .ok (Text.takeBytes offset statement, Text.dropBytes offset statement)
    | none => .error (.unsupportedQuery .predicateNotInText)
  else .ok (statement, [])

/-- The head with the physical table behind its source. The source must be what follows the first
`FROM`. -/
def qualify (head : List Char) (source physicalName : String) : Except Error (List Char) :=
  match Text.fromSpan head with
  | none => .error (.unsupportedQuery (.sourceNotInText source))
  | some span =>
    let token := span.slice head
    if token.isEmpty || token != Unicode.upperChars source.toList then
      .error (.unsupportedQuery (.sourceNotInText source))
    else
      .ok (Text.takeBytes span.start head ++ token ++ '.' :: physicalName.toList ++
        Text.dropBytes span.stop head)

/-- The head with the key column in front of its select list. -/
def inject (a : Adapter) (head : List Char) : Except Error (List Char) :=
  match Text.keywordOffset head "SELECT" with
  | none => .error (.unsupportedQuery .selectNotInText)
  | some offset =>
    let place := Text.behindKeyword head "SELECT" offset
    .ok (Text.takeBytes place head ++ a.keyColumn.toList ++ [',', ' '] ++
      Text.dropBytes place head)

/-- Whether the key column has to be added to a projection. -/
def injects (a : Adapter) : Projection → Bool
  | .all => false
  | .columns items =>
    a.injectKeyColumn && !items.any fun c => Text.sameName c.column a.keyColumn

/-- The predicate with the scan clause at its end. -/
def addScanClause (a : Adapter) (predicate : List Char) : List Char :=
  let body := Unicode.trimEnd predicate
  match body.reverse with
  | ';' :: rest => Unicode.trimEnd rest.reverse ++ ' ' :: a.scanClause.toList ++ [';']
  | _ => body ++ ' ' :: a.scanClause.toList

/-! ## The whole -/

/-- The text that asks the store for what a statement asks of a source. -/
def adapt (a : Adapter) (statement : String) (query : Query) (source : Source) :
    Except Error String := do
  let clause ← query.source
  let (head, predicate) ← split statement.toList query.hasWhere
  let head ← qualify (Unicode.upperChars head) clause.source source.physicalName
  let head ← if a.injects query.projection then a.inject head else .ok head
  return String.ofList (head ++ if query.hasWhere then a.addScanClause predicate else [])

end Adapter

end MatView
