import MatView.Json.Tree
import MatView.Logical.Value

/-!
# Values of JSON documents

A document read in full stands for a value. Integers of 64 bits become big integers and all other
numbers doubles. The members of an object become the entries of a map from their names, in the
order of the names; of members with one name the last one counts. Nesting is limited, numbers must
be in range and escaped surrogates paired.

## Main definitions

* `nestingLimit`: how deep arrays and objects may be nested.
* `Tree.toValue?`: the value of a document.
-/

namespace MatView.Json

/-- How deep arrays and objects may be nested. -/
def nestingLimit : Nat := 127

/-- The text of a string literal. -/
def string? (ps : List Piece) : Option String :=
  (text? ps).map String.ofList

/-- Puts an entry in its place in a list that is sorted by name, over one of the same name. -/
def insertEntry (name : String) (v : Value) : List (String × Value) → List (String × Value)
  | [] => [(name, v)]
  | (other, w) :: rest =>
    if name == other then (name, v) :: rest
    else if name < other then (name, v) :: (other, w) :: rest
    else (other, w) :: insertEntry name v rest

/-- The entries sorted by name, the last one of each name. -/
def sortEntries (entries : List (String × Value)) : List (String × Value) :=
  entries.foldl (fun sorted e => insertEntry e.1 e.2 sorted) []

/-- The value of a number. -/
def Numeral.toValue? (n : Numeral) : Option Value :=
  match n.toInt64? with
  | some i => some (.bigint i)
  | none => n.toDouble?.map .double

mutual

/-- The value of a document in which `depth` levels of nesting are left. -/
def Tree.toValue? (depth : Nat) : Tree → Option Value
  | .null => some .null
  | .bool b => some (.boolean b)
  | .number n => n.toValue?
  | .string ps => (string? ps).map .string
  | .array items =>
    match depth with
    | 0 => none
    | depth + 1 => (toValues? depth items).map .list
  | .object members =>
    match depth with
    | 0 => none
    | depth + 1 =>
      (toEntries? depth members).map fun entries =>
        .map ((sortEntries entries).map fun e => (.string e.1, e.2))

/-- The values of the items of an array. -/
def toValues? (depth : Nat) : List Tree → Option (List Value)
  | [] => some []
  | t :: ts =>
    match t.toValue? depth, toValues? depth ts with
    | some v, some vs => some (v :: vs)
    | _, _ => none

/-- The names and values of the members of an object. -/
def toEntries? (depth : Nat) : List (List Piece × Tree) → Option (List (String × Value))
  | [] => some []
  | (name, t) :: ms =>
    match string? name, t.toValue? depth, toEntries? depth ms with
    | some name, some v, some entries => some ((name, v) :: entries)
    | _, _, _ => none

end

/-- The value that a text holds as a JSON document. -/
def readDocument? (cs : List Char) : Option Value :=
  (Tree.read? cs).bind (·.toValue? nestingLimit)

end MatView.Json
