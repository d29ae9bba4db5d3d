import MatView.Error
import MatView.Sql.Token

/-!
# Statements

A statement is kept as far as answers depend on it. Of an expression that is no column only the
normal form of its text matters: single blanks between words, reserved words in upper case, nothing
else changed. Queries carry their text too, because they can stand inside expressions.

## Main definitions

* `Expr`, `Item`: expressions and what a select list is made of.
* `Relation`, `Factor`, `Table`: what a `FROM` clause is made of.
* `Select`, `QueryExpr`, `Statement`.
-/

namespace MatView.Sql

/-- A column, a query, or the text of another expression. -/
inductive Expr
  | column (parts : List Ident)
  /-- The text of a query between parentheses. -/
  | subquery (text : String)
  | compound (text : String)
  deriving DecidableEq

/-- Texts with commas between them. -/
def commas (texts : List String) : String :=
  ", ".intercalate texts

/-- A text between parentheses. -/
def parens (text : String) : String :=
  "(" ++ text ++ ")"

/-- A text behind another, if there is one. -/
def behind (front : String) (text? : Option String) : String :=
  text?.elim "" (front ++ ·)

namespace Expr

/-- The text of an expression in normal form. -/
def text : Expr → String
  | column parts => dotted parts
  | subquery text => parens text
  | compound text => text

/-- The text of expressions with commas between them. -/
def listText (es : List Expr) : String :=
  commas (es.map Expr.text)

end Expr

/-- An element of a select list. -/
inductive Item
  | wildcard (text : String)
  | value (e : Expr) (alias? : Option Ident)
  deriving DecidableEq

namespace Item

/-- The text of an element in normal form. -/
def text : Item → String
  | wildcard text => text
  | value e none => e.text
  | value e (some name) => e.text ++ " AS " ++ name.text

end Item

/-- The alias of a relation, with names for its columns. -/
structure Alias where
  name : Ident
  columns : List Ident
  deriving DecidableEq

namespace Alias

/-- The text of an alias in normal form. -/
def text (a : Alias) : String :=
  if a.columns.isEmpty then a.name.text
  else a.name.text ++ " " ++ parens (commas (a.columns.map Ident.text))

end Alias

/-- What rows are taken from. -/
inductive Relation
  /-- A table, with the text of what stands between its name and its alias. -/
  | table (name : List Ident) (arguments : String)
  /-- The text of a query or of another source that is no table. -/
  | derived (text : String)
  /-- The text of a join between parentheses. -/
  | joined (text : String)
  deriving DecidableEq

namespace Relation

/-- The text of a relation in normal form. -/
def text : Relation → String
  | table name arguments => dotted name ++ arguments
  | derived text => text
  | joined text => parens text

end Relation

/-- A relation with its alias and the text of what stands behind it. -/
structure Factor where
  relation : Relation
  alias? : Option Alias
  hints : String := ""
  deriving DecidableEq

namespace Factor

/-- The text of a relation with its alias in normal form. -/
def text (f : Factor) : String :=
  f.relation.text ++ behind " AS " (f.alias?.map Alias.text) ++ f.hints

end Factor

/-- An element of a `FROM` clause: a relation and the texts of what is joined to it. -/
structure Table where
  factor : Factor
  joins : List String
  deriving DecidableEq

namespace Table

/-- The text of a table in normal form. -/
def text (t : Table) : String :=
  String.join (t.factor.text :: t.joins)

end Table

/-- What a query selects. -/
structure Select where
  distinct : Bool
  items : List Item
  tables : List Table
  hasWhere : Bool
  deriving DecidableEq

/-- What a query consists of. -/
inductive Body
  | select (s : Select)
  /-- A set operation, a list of values or a query in parentheses. -/
  | other
  deriving DecidableEq

/-- A query with its text in normal form. -/
structure QueryExpr where
  body : Body
  text : String
  deriving DecidableEq

/-- A statement. -/
inductive Statement
  | query (q : QueryExpr)
  | command (kind : CommandKind)
  deriving DecidableEq

end MatView.Sql
