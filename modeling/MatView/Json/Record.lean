import MatView.Json.ToValue

/-!
# Records in JSON documents

A record with named fields is written as an object with one member for each field, or as an array
of the fields in order. An object may have members that the record does not know, but none of its
own twice; an array has no more items than the record has fields. A field that is absent is left
to the reader of the record.

## Main definitions

* `Tree.fields?`: the fields of a record.
* `Tree.string?`, `Tree.bool?`, `Tree.int64?`, `Tree.items?`: fields of simple types.
* `Tree.choice?`: a field that holds one of finitely many names.
-/

namespace MatView.Json

/-! ## Fields -/

/-- The members of an object under their names. -/
def named? : List (List Piece × Tree) → Option (List (String × Tree))
  | [] => some []
  | (ps, t) :: ms =>
    match string? ps, named? ms with
    | some name, some rest => some ((name, t) :: rest)
    | _, _ => none

/-- The member called `name`, which an object has once or not at all. -/
def member? (name : String) (ms : List (String × Tree)) : Option (Option Tree) :=
  match ms.filter (·.1 == name) with
  | [] => some none
  | [(_, t)] => some (some t)
  | _ => none

/-- The members called `names`, in this order. -/
def members? (names : List String) (ms : List (String × Tree)) : Option (List (Option Tree)) :=
  names.mapM (member? · ms)

/-- The items of an array as the first of `count` fields. -/
def positional? (count : Nat) (items : List Tree) : Option (List (Option Tree)) :=
  if items.length ≤ count then
    some (items.map some ++ List.replicate (count - items.length) none)
  else none

/-! ## Simple types -/

namespace Tree

/-- The fields of a record whose fields are called `names`, in this order. -/
def fields? (names : List String) : Tree → Option (List (Option Tree))
  | .object ms => (named? ms).bind (members? names)
  | .array items => positional? names.length items
  | _ => none

/-- The text of a string. -/
def string? : Tree → Option String
  | .string ps => Json.string? ps
  | _ => none

/-- A truth value. -/
def bool? : Tree → Option Bool
  | .bool b => some b
  | _ => none

/-- An integer of 64 bits. -/
def int64? : Tree → Option Int64
  | .number n => n.toInt64?
  | _ => none

/-- The items of an array. -/
def items? : Tree → Option (List Tree)
  | .array items => some items
  | _ => none

/-- Whether the document is `null`. -/
def isNull : Tree → Bool
  | .null => true
  | _ => false

/-- The alternative whose name is written, as a string or as an object of one member `null`. -/
def choice? {α : Type} (ofName? : String → Option α) : Tree → Option α
  | .string ps => (Json.string? ps).bind ofName?
  | .object [(ps, .null)] => (Json.string? ps).bind ofName?
  | _ => none

end Tree

end MatView.Json
