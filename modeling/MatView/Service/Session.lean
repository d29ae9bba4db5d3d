import MatView.Service.Basic

/-!
# Sessions

A session is a catalog, a store and a service that live through a sequence of steps. Each step is
answered, and leaves the session for the next.

## Main definitions

* `Session`, `Step`, `Answer`.
* `Session.step`: the answer to a step, and the session after it.
* `Session.run`: the answers to a sequence of steps.

## Main statements

* `Session.run_append`: a sequence of steps can be run in two parts.
-/

namespace MatView

/-- What lives through the steps of a session. -/
structure Session where
  catalog : Catalog
  store : Store
  service : Service

/-- What can be asked of a session. -/
inductive Step
  | register (source : Source)
  | deregister (name : String)
  | find (name : String)
  | list
  | insert (table : String) (b : Batch)
  | clear (table : String)
  /-- Let the store fail from now on. -/
  | breakWith (message : String)
  | repair
  /-- Serve queries by another configuration. -/
  | configure (config : Config) (reader : KeyReader)
  | resolve (name : String)
  | storeText (statement : String) (q : Query)
  | query (statement : String) (q : Query)
  | statement (text : String)
  /-- Ask the store itself. -/
  | ask (text : String)

/-- What a session answers. -/
inductive Answer
  | done
  /-- The source that is or was registered under a name. -/
  | source (found : Option Source)
  | listing (catalog : Catalog)
  | text (found : String)
  | rows (found : List Row)
  | resultRows (found : List ResultRow)
  | failure (fault : Error)

namespace Answer

/-- The answer that a result is. -/
def ofExcept {α : Type} (ok : α → Answer) : Except Error α → Answer
  | .ok a => ok a
  | .error fault => failure fault

end Answer

namespace Session

/-- The session without sources and tables. -/
def start (service : Service) : Session := ⟨.empty, .empty, service⟩

/-- The answer to a step, and the session after it. -/
def step (s : Session) : Step → Answer × Session
  | .register source =>
    (.source (s.catalog.find? source.name), { s with catalog := s.catalog.register source })
  | .deregister name =>
    (.source (s.catalog.find? name), { s with catalog := s.catalog.deregister name })
  | .find name => (.source (s.catalog.find? name), s)
  | .list => (.listing s.catalog, s)
  | .insert table b => (.done, { s with store := s.store.insert table b })
  | .clear table => (.done, { s with store := s.store.clear table })
  | .breakWith message => (.done, { s with store := s.store.breakWith message })
  | .repair => (.done, { s with store := s.store.repair })
  | .configure config reader => (.done, { s with service := .ofConfig config reader })
  | .resolve name => (.ofExcept (fun source => .source (some source)) (s.catalog.resolve name), s)
  | .storeText statement q => (.ofExcept .text (s.service.storeText s.catalog statement q), s)
  | .query statement q =>
    let (rows, store) := s.service.answer s.catalog s.store statement q
    (.ofExcept .rows rows, { s with store })
  | .statement text =>
    let (rows, store) := s.service.answerText s.catalog s.store text
    (.ofExcept .rows rows, { s with store })
  | .ask text =>
    let (rows, store) := s.store.ask text
    (.ofExcept .resultRows rows, { s with store })

/-- The answers to steps, and the session after them. -/
def run (s : Session) : List Step → List Answer × Session
  | [] => ([], s)
  | first :: rest =>
    let (answer, next) := s.step first
    let (answers, last) := next.run rest
    (answer :: answers, last)

/-- A sequence of steps can be run in two parts. -/
theorem run_append (s : Session) (first second : List Step) :
    s.run (first ++ second) =
      ((s.run first).1 ++ ((s.run first).2.run second).1, ((s.run first).2.run second).2) := by
  induction first generalizing s with
  | nil => rfl
  | cons step rest ih => simp [run, ih]

end Session

end MatView
