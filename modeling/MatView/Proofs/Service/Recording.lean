import MatView.Proofs.Service.Faults
import MatView.Service.Session

/-!
# What sessions ask the store

The log of the store holds every query that reached it. A step that serves a query adds at most one
text to the log: none if and only if the query is refused with a precondition error, and otherwise
the text that is shown for the same query. A direct question adds itself. No other step adds
anything, and every step leaves all but the one part of the session that it is about.

## Main definitions

* `Session.OnlyLogs`: a session that has changed in its log at most.
* `Session.Serves`, `Session.Asks`: what a step that asks the store may do.
* `Session.Records`: what any step may do, given what it adds to the log.

## Main statements

* `Session.step_records`: every step does only that.
* `Session.log_prefix_run`: a run extends the log at its end.
* `Session.run_records`: both, for each step behind each run.
-/

namespace MatView.Session

open Error (Among Late)

/-- The session `next` differs from `s` in its log at most. -/
structure OnlyLogs (s next : Session) : Prop where
  catalog_eq : next.catalog = s.catalog
  service_eq : next.service = s.service
  tables_eq : next.store.tables = s.store.tables
  failure_eq : next.store.failure = s.store.failure

/-- What happens to a session `s` when it serves a statement whose query is `parsed`: `answer` is the
answer, `next` the session after it and `asked` what the log gained. -/
structure Serves (s : Session) (statement : String) (parsed : Except Error Query)
    (answer : Answer) (next : Session) (asked : List String) : Prop extends s.OnlyLogs next where
  atMostOnce : asked.length ≤ 1
  asked_eq_nil_iff : asked = [] ↔ ∃ fault, answer = .failure fault ∧ fault.isPrecondition = true
  shown : ∀ text ∈ asked,
    ∃ q, parsed = .ok q ∧ s.service.storeText s.catalog statement q = .ok text
  failing : asked ≠ [] → ∀ message, s.store.failure = some message →
    answer = .failure (.store (.failing message))

/-- What happens to a session `s` when its store is asked for a text itself. -/
structure Asks (s : Session) (text : String) (answer : Answer) (next : Session)
    (asked : List String) : Prop extends s.OnlyLogs next where
  asked_eq : asked = [text]
  failing : ∀ message, s.store.failure = some message →
    answer = .failure (.store (.failing message))

/-- What happens to a session when it takes a step, given what the log gained. A step changes nothing
but what it is about, and only the steps that ask the store are about its log. -/
def Records (s : Session) (step : Step) (answer : Answer) (next : Session)
    (asked : List String) : Prop :=
  match step with
  | .query statement q => s.Serves statement (.ok q) answer next asked
  | .statement text => s.Serves text (Query.parse text) answer next asked
  | .ask text => s.Asks text answer next asked
  | .find _ | .list | .resolve _ | .storeText _ _ => asked = [] ∧ next = s
  | .register _ | .deregister _ =>
    asked = [] ∧ next.store = s.store ∧ next.service = s.service
  | .insert _ _ | .clear _ =>
    asked = [] ∧ next.catalog = s.catalog ∧ next.service = s.service ∧
      next.store.failure = s.store.failure
  | .breakWith _ | .repair =>
    asked = [] ∧ next.catalog = s.catalog ∧ next.service = s.service ∧
      next.store.tables = s.store.tables
  | .configure _ _ => asked = [] ∧ next.catalog = s.catalog ∧ next.store = s.store

/-! ## Serving a query -/

/-- A query that was refused before the store was asked leaves the session as it was. -/
theorem serves_refused (s : Session) (statement : String) (parsed : Except Error Query)
    {fault : Error} (h : fault.isPrecondition = true) :
    s.Serves statement parsed (.failure fault) s [] where
  atMostOnce := Nat.zero_le 1
  asked_eq_nil_iff := ⟨fun _ => ⟨fault, rfl, h⟩, fun _ => rfl⟩
  shown := nofun
  failing := fun hne => absurd rfl hne
  catalog_eq := rfl
  service_eq := rfl
  tables_eq := rfl
  failure_eq := rfl

/-- What is behind the store fails with no precondition error. -/
theorem answer_of_asked {answer : Except Error (List Row)} (h : Among Late answer) {fault : Error}
    (hfault : Answer.ofExcept .rows answer = .failure fault) : fault.isPrecondition = false := by
  cases answer with
  | ok rows => cases hfault
  | error other =>
    cases hfault
    exact Error.among_error.1 h

/-- A query that was prepared is asked once, whatever the store answers. -/
theorem serves_prepared (s : Session) {statement : String} {q : Query} {p : Prepared}
    (h : s.service.prepare s.catalog statement q = .ok p) :
    s.Serves statement (.ok q)
      (.ofExcept .rows ((s.store.answer p.text).bind (s.service.decodeRows p)))
      { s with store := s.store.record p.text } [p.text] where
  atMostOnce := Nat.le_refl 1
  asked_eq_nil_iff := by
    refine ⟨nofun, ?_⟩
    rintro ⟨fault, hfault, hpre⟩
    have hlate : Among Late ((s.store.answer p.text).bind (s.service.decodeRows p)) :=
      Error.Among.bind (s.store.answer_among p.text) fun rows _ => s.service.decodeRows_among p rows
    rw [answer_of_asked hlate hfault] at hpre
    cases hpre
  shown := by
    intro text htext
    rw [List.mem_singleton.1 htext]
    exact ⟨q, rfl, Service.storeText_of_prepare h⟩
  failing := by
    intro _ message hmessage
    simp [Store.answer, hmessage, Except.bind, Answer.ofExcept]
  catalog_eq := rfl
  service_eq := rfl
  tables_eq := rfl
  failure_eq := rfl

/-- Serving a query adds nothing to the log or the one text that was prepared. -/
theorem query_records (s : Session) (statement : String) (q : Query) :
    ∃ asked, (s.step (.query statement q)).2.store.log = s.store.log ++ asked ∧
      s.Serves statement (.ok q) (s.step (.query statement q)).1
        (s.step (.query statement q)).2 asked := by
  simp only [step, Service.answer]
  cases h : s.service.prepare s.catalog statement q with
  | error fault =>
    exact ⟨[], by simp, s.serves_refused statement _ (Service.prepare_among _ _ _ _ fault h)⟩
  | ok p => exact ⟨[p.text], rfl, s.serves_prepared h⟩

/-- The store itself is asked for any text, and fails if it is set to. -/
theorem ask_records (s : Session) (text : String) :
    s.Asks text (s.step (.ask text)).1 (s.step (.ask text)).2 [text] where
  asked_eq := rfl
  failing := by
    intro message hmessage
    simp [step, Store.ask, Store.answer, hmessage, Answer.ofExcept]
  catalog_eq := rfl
  service_eq := rfl
  tables_eq := rfl
  failure_eq := rfl

/-- A text is served as the query it stands for. -/
theorem statement_records (s : Session) (text : String) :
    ∃ asked, (s.step (.statement text)).2.store.log = s.store.log ++ asked ∧
      s.Serves text (Query.parse text) (s.step (.statement text)).1
        (s.step (.statement text)).2 asked := by
  simp only [step, Service.answerText]
  cases h : Query.parse text with
  | error fault =>
    exact ⟨[], by simp, s.serves_refused text _ (Query.parse_among text fault h)⟩
  | ok q => exact s.query_records text q

/-! ## Steps and runs -/

/-- Every step extends the log at its end, by what its kind allows. -/
theorem step_records (s : Session) (step : Step) :
    ∃ asked, (s.step step).2.store.log = s.store.log ++ asked ∧
      s.Records step (s.step step).1 (s.step step).2 asked := by
  cases step with
  | query statement q => exact s.query_records statement q
  | statement text => exact s.statement_records text
  | ask text => exact ⟨[text], rfl, s.ask_records text⟩
  | find | list | resolve | storeText => exact ⟨[], (List.append_nil _).symm, rfl, rfl⟩
  | register | deregister | configure => exact ⟨[], (List.append_nil _).symm, rfl, rfl, rfl⟩
  | insert | clear | breakWith | repair =>
    exact ⟨[], (List.append_nil _).symm, rfl, rfl, rfl, rfl⟩

/-- A run extends the log at its end. -/
theorem log_prefix_run (s : Session) (steps : List Step) :
    s.store.log <+: (s.run steps).2.store.log := by
  induction steps generalizing s with
  | nil => exact List.prefix_rfl
  | cons step rest ih =>
    obtain ⟨asked, hlog, -⟩ := s.step_records step
    have hstep : s.store.log <+: (s.step step).2.store.log := ⟨asked, hlog.symm⟩
    exact hstep.trans (ih (s.step step).2)

/-- Behind every run, the log has only grown at its end, and the next step adds to it what its kind
allows: a step that serves a query adds nothing if it is refused with a precondition error, and else
the one text that is shown for the query. -/
theorem run_records (s : Session) (steps : List Step) (step : Step) :
    s.store.log <+: (s.run steps).2.store.log ∧
      ∃ asked, ((s.run steps).2.step step).2.store.log = (s.run steps).2.store.log ++ asked ∧
        (s.run steps).2.Records step ((s.run steps).2.step step).1
          ((s.run steps).2.step step).2 asked :=
  ⟨s.log_prefix_run steps, (s.run steps).2.step_records step⟩

end MatView.Session
