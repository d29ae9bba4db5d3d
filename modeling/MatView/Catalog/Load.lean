import MatView.Catalog.Basic
import MatView.Error
import MatView.Json.Record

/-!
# Reading a catalog

A catalog is written as a JSON array of sources. Its sources are registered in their order.

## Main definitions

* `sourceOfTree?`: a source, with its schema and key format.
* `Catalog.ofJson`: from the text of a document.
* `Catalog.ofFile`: from the content of a file.
-/

namespace MatView.Catalog

open Json (Tree)

/-! ## Fields and schemas -/

/-- A field that may be absent or `null`. -/
def optional? {α : Type} (read? : Tree → Option α) : Option Tree → Option (Option α)
  | none => some none
  | some t => if t.isNull then some none else (read? t).map some

/-- A field that may not be absent. -/
def required? {α : Type} (read? : Tree → Option α) : Option Tree → Option α
  | none => none
  | some t => read? t

/-- A declared column. -/
def fieldOfTree? (t : Tree) : Option Field := do
  match ← t.fields? ["name", "data_type"] with
  | [name, type] =>
    return {
      name := ← required? Tree.string? name
      type := ← required? (Tree.choice? DataType.ofName?) type }
  | _ => none

/-- The declared columns of a source. The key may be absent. -/
def schemaOfTree? (t : Tree) : Option Schema := do
  match ← t.fields? ["key", "value_fields"] with
  | [key, values] =>
    return {
      key := ← optional? fieldOfTree? key
      values := ← required? (fun t => t.items?.bind (·.mapM fieldOfTree?)) values }
  | _ => none

/-! ## Key formats -/

/-- How deep the parts of a window description may be nested, below the list of sources, the
source, its key format and the description itself. -/
def windowDepth : Nat := Json.nestingLimit - 4

/-- The windows called `tag`, with the parts of their description. Session windows know no fields:
their description may have members, but no items. -/
def windowOfParts? (tag : String) (parts : Tree) : Option WindowType := do
  if tag == "TUMBLING" then
    match ← parts.fields? ["size_ms"] with
    | [size] => return .tumbling (← required? Tree.int64? size)
    | _ => none
  else if tag == "HOPPING" then
    match ← parts.fields? ["size_ms", "advance_ms"] with
    | [size, advance] =>
      return .hopping (← required? Tree.int64? size) (← required? Tree.int64? advance)
    | _ => none
  else if tag == "SESSION" then
    match parts with
    | .array (_ :: _) => none
    | _ => return .session
  else none

/-- The description of windows: an object whose member `type` names them, or an array whose first
item does. All other parts are read in full before the name is looked at. -/
def windowOfTree? : Tree → Option WindowType
  | .object ms => do
    let named ← Json.named? ms
    let tag ← required? Tree.string? (← Json.member? "type" named)
    let rest := (ms.zip named).filter fun m => m.2.1 != "type"
    let _ ← rest.mapM fun m => m.2.2.toValue? windowDepth
    windowOfParts? tag (.object (rest.map Prod.fst))
  | .array (t :: rest) => do
    let tag ← t.string?
    let _ ← rest.mapM (·.toValue? windowDepth)
    windowOfParts? tag (.array rest)
  | _ => none

/-- The format of windowed keys. Keys are text unless another encoding is named. -/
def keyFormatOfTree? (t : Tree) : Option KeyFormat := do
  match ← t.fields? ["window", "key_encoding"] with
  | [window, encoding] =>
    let window ← required? windowOfTree? window
    match encoding with
    | none => return { window }
    | some e => return { window, encoding := ← e.choice? KeyEncoding.ofName? }
  | _ => none

/-! ## Sources -/

/-- A source. -/
def sourceOfTree? (t : Tree) : Option Source := do
  match ← t.fields? ["name", "kind", "schema", "physical_name", "key_format"] with
  | [name, kind, schema, physicalName, keyFormat] =>
    return {
      name := ← required? Tree.string? name
      kind := ← required? (Tree.choice? SourceKind.ofName?) kind
      schema := ← required? schemaOfTree? schema
      physicalName := ← required? Tree.string? physicalName
      keyFormat := ← optional? keyFormatOfTree? keyFormat }
  | _ => none

/-- The sources that a document lists. -/
def sourcesOfTree? (t : Tree) : Option (List Source) :=
  t.items?.bind (·.mapM sourceOfTree?)

/-- Reads a catalog from the text of a JSON document. -/
def ofJson (s : String) : Except Error Catalog :=
  match (Tree.read? s.toList).bind sourcesOfTree? with
  | some sources => .ok (ofList sources)
  | none => .error (.format .document)

/-- Reads a catalog from a file, given its bytes if it exists. -/
def ofFile (content : Option (List UInt8)) : Except Error Catalog :=
  match content with
  | none => .error (.file .missing)
  | some bs =>
    match Utf8.decode bs with
    | .ok s => ofJson s
    | .error _ => .error (.file .notUtf8)

end MatView.Catalog
