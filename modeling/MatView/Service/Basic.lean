import MatView.Catalog.Basic
import MatView.Decoding.Decoder
import MatView.Query.Adapter
import MatView.Query.OfStatement
import MatView.Store.Basic

/-!
# Serving queries

A query is prepared in three steps that do not ask the store: its source is looked up, its
projection is planned and its text is adapted. Only then is the store asked, once, and each of its
rows is decoded by the plan.

## Main definitions

* `Catalog.resolve`: the source of a query.
* `Service`: how queries are served.
* `Service.storeText`: the text for the store.
* `Service.prepare`: all that is known before the store is asked.
* `Service.answer`, `Service.answerText`: the answer to a query, and the store after it.

## Main statements

* `Service.storeText_of_prepare`: a prepared query has the text that `storeText` shows.
* `Service.answer_of_prepare`: a prepared query is answered with the decoded rows of the store.
* `Service.log_answer`: the store is asked exactly for what was prepared.
-/

namespace MatView

/-- The source of a name, if it has rows in the store. -/
def Catalog.resolve (c : Catalog) (name : String) : Except Error Source :=
  match c.find? name with
  | none => .error (.sourceNotFound name)
  | some source =>
    if source.kind.hasRows then .ok source
    else .error (.incompatibleSource source.name source.kind)

/-- A query that the store can be asked. -/
structure Prepared where
  source : Source
  plan : Plan
  text : String

/-- How queries are served. -/
structure Service where
  adapter : Adapter
  decoder : Decoder

namespace Service

/-- The service of a configuration, with a way of reading keys. -/
def ofConfig (c : Config) (reader : KeyReader) : Service :=
  ⟨.ofConfig c, .ofConfig c reader⟩

/-- The text that asks the store for what a query asks for. -/
def storeText (v : Service) (c : Catalog) (statement : String) (q : Query) :
    Except Error String := do
  let clause ← q.source
  let source ← c.resolve clause.source
  v.adapter.adapt statement q source

/-- All that is known of a query before the store is asked. -/
def prepare (v : Service) (c : Catalog) (statement : String) (q : Query) :
    Except Error Prepared := do
  let clause ← q.source
  let source ← c.resolve clause.source
  let plan ← Plan.build q.projection source
  let text ← v.adapter.adapt statement q source
  return { source, plan, text }

/-- The decoded rows, up to the first that cannot be decoded. -/
def decodeRows (v : Service) (p : Prepared) : List ResultRow → Except Error (List Row)
  | [] => .ok []
  | r :: rest => do
    let row ← v.decoder.decodePlanned r p.plan p.source
    let rows ← v.decodeRows p rest
    return row :: rows

theorem decodeRows_eq_mapM (v : Service) (p : Prepared) (rows : List ResultRow) :
    v.decodeRows p rows = rows.mapM fun r => v.decoder.decodePlanned r p.plan p.source := by
  induction rows with
  | nil => rfl
  | cons r rest ih => rw [decodeRows, List.mapM_cons, ih]

/-- The answer to a query, and the store after it. -/
def answer (v : Service) (c : Catalog) (s : Store) (statement : String) (q : Query) :
    Except Error (List Row) × Store :=
  match v.prepare c statement q with
  | .error fault => (.error fault, s)
  | .ok p => ((s.answer p.text).bind (v.decodeRows p), s.record p.text)

/-- The answer to a statement, and the store after it. -/
def answerText (v : Service) (c : Catalog) (s : Store) (statement : String) :
    Except Error (List Row) × Store :=
  match Query.parse statement with
  | .error fault => (.error fault, s)
  | .ok q => v.answer c s statement q

/-! ## What is shown and what is recorded -/

/-- A prepared query has the text that `storeText` shows. -/
theorem storeText_of_prepare {v : Service} {c : Catalog} {statement : String} {q : Query}
    {p : Prepared} (h : v.prepare c statement q = .ok p) :
    v.storeText c statement q = .ok p.text := by
  obtain ⟨clause, hclause, h⟩ := Error.bind_eq_ok.1 h
  obtain ⟨source, hsource, h⟩ := Error.bind_eq_ok.1 h
  obtain ⟨plan, _, h⟩ := Error.bind_eq_ok.1 h
  obtain ⟨text, htext, h⟩ := Error.bind_eq_ok.1 h
  cases h
  exact Error.bind_eq_ok.2 ⟨clause, hclause, Error.bind_eq_ok.2 ⟨source, hsource, htext⟩⟩

/-- A prepared query is answered with the decoded rows of the store. -/
theorem answer_of_prepare {v : Service} {c : Catalog} {s : Store} {statement : String} {q : Query}
    {p : Prepared} (h : v.prepare c statement q = .ok p) :
    (v.answer c s statement q).1 = s.answer p.text >>= v.decodeRows p := by
  rw [answer, h]
  rfl

/-- The store is asked for what was prepared, once, and not at all if nothing was. -/
theorem log_answer (v : Service) (c : Catalog) (s : Store) (statement : String) (q : Query) :
    (v.answer c s statement q).2.log =
      s.log ++ ((v.prepare c statement q).toOption.map (·.text)).toList := by
  unfold answer
  cases v.prepare c statement q <;> simp [Except.toOption]

end Service

end MatView
