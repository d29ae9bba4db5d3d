import Mathlib.Data.List.DropRight
import Mathlib.Data.List.Induction
import MatView.Proofs.Text.Folding
import MatView.Service.Session

/-!
# What a history of calls leaves in a store

A store answers a query with what its calls have left: the failure that was set last, or else all
batches that were inserted into the table since it was last cleared, in their order. The log lists
every query that was asked. So calls on different tables may change places.

## Main definitions

* `Store.Call`, `Store.after`: calls, and the store behind a history of them.
* `Store.asked`, `Store.failing`, `Store.held`: what matters of a history.
* `Store.Recalls`: what a store answers behind a history.

## Main statements

* `Store.log_call`, `Store.failure_call`, `Store.batches_call`: what one call changes.
* `Store.recalls_after`: what a history leaves.
* `Store.history_answered`: the same, and which calls may change places.
-/

namespace MatView.Store

open Text (sameName)

/-! ## Calls -/

/-- What can be asked of a store. -/
inductive Call
  | insert (table : String) (b : Batch)
  | clear (table : String)
  | breakWith (message : String)
  | repair
  | ask (query : String)

namespace Call

/-- The query that a call asks. -/
def asked? : Call → Option String
  | ask query => some query
  | _ => none

/-- The failure that a call sets or takes back. -/
def setting? : Call → Option (Option String)
  | breakWith message => some (some message)
  | repair => some none
  | _ => none

/-- Whether a call clears a table. -/
def clears (table : String) : Call → Bool
  | clear cleared => sameName cleared table
  | _ => false

/-- The batch that a call inserts into a table. -/
def inserted? (table : String) : Call → Option Batch
  | insert other b => if sameName other table then some b else none
  | _ => none

/-- The table that a call changes. -/
def changed? : Call → Option String
  | insert table _ => some table
  | clear table => some table
  | _ => none

end Call

/-- The store after a call. -/
def call (s : Store) : Call → Store
  | .insert table b => s.insert table b
  | .clear table => s.clear table
  | .breakWith message => s.breakWith message
  | .repair => s.repair
  | .ask query => (s.ask query).2

/-- The store behind a history of calls. -/
def after (calls : List Call) : Store :=
  calls.foldl call empty

/-! ## What matters of a history -/

/-- The queries of a history. -/
def asked (calls : List Call) : List String :=
  calls.filterMap Call.asked?

/-- The failure that was set last, unless it was taken back since. -/
def failing (calls : List Call) : Option String :=
  (calls.filterMap Call.setting?).getLast?.join

/-- The batches that were inserted into a table since it was last cleared. -/
def held (calls : List Call) (table : String) : List Batch :=
  (calls.rtakeWhile fun call => !call.clears table).filterMap (·.inserted? table)

variable (calls : List Call) (call : Call) (table : String)

@[simp] theorem asked_concat : asked (calls ++ [call]) = asked calls ++ call.asked?.toList := by
  rw [asked, List.filterMap_append]
  cases h : call.asked? <;> simp [asked, h]

@[simp] theorem failing_concat :
    failing (calls ++ [call]) = call.setting?.getD (failing calls) := by
  rw [failing, List.filterMap_append]
  cases h : call.setting? <;> simp [failing, h]

@[simp] theorem held_concat : held (calls ++ [call]) table =
    if call.clears table then [] else held calls table ++ (call.inserted? table).toList := by
  rw [held, List.rtakeWhile_concat]
  cases hclears : call.clears table with
  | true => simp
  | false => cases h : call.inserted? table <;> simp [held, h]

/-! ## What one call changes -/

variable (s : Store)

theorem log_call : (s.call call).log = s.log ++ call.asked?.toList := by
  cases call <;> simp [Store.call, Call.asked?, Store.insert, Store.clear, breakWith, repair, ask]

theorem failure_call : (s.call call).failure = call.setting?.getD s.failure := by
  cases call <;> rfl

theorem keyOf_eq_iff {table other : String} :
    keyOf other = keyOf table ↔ sameName other table = true :=
  Text.sameName_iff.symm

theorem batches_call : (s.call call).batches (keyOf table) =
    if call.clears table then []
    else s.batches (keyOf table) ++ (call.inserted? table).toList := by
  cases call with
  | insert other b =>
    simp only [Store.call, batches_insert, keyOf_eq_iff, Call.clears, Call.inserted?]
    split <;> simp
  | clear other => simp [Store.call, batches_clear, keyOf_eq_iff, Call.clears, Call.inserted?]
  | _ => simp [Store.call, Call.clears, Call.inserted?, batches, breakWith, repair, ask, record]

/-! ## What a history leaves -/

theorem after_concat : after (calls ++ [call]) = (after calls).call call := by
  simp [after]

theorem log_after : (after calls).log = asked calls := by
  induction calls using List.reverseRecOn with
  | nil => rfl
  | append_singleton calls call ih => rw [after_concat, log_call, ih, asked_concat]

theorem failure_after : (after calls).failure = failing calls := by
  induction calls using List.reverseRecOn with
  | nil => rfl
  | append_singleton calls call ih => rw [after_concat, failure_call, ih, failing_concat]

theorem batches_after : (after calls).batches (keyOf table) = held calls table := by
  induction calls using List.reverseRecOn with
  | nil => rfl
  | append_singleton calls call ih => rw [after_concat, batches_call, ih, held_concat]

/-- What a store answers behind a history, and what its log shows. A batch is answered row by row:
its row `i` has a cell for each of its columns, with the content that the column has there. -/
structure Recalls (s : Store) (calls : List Call) : Prop where
  log_eq : s.log = asked calls
  answer_failing : ∀ query message, failing calls = some message →
    (s.ask query).1 = .error (.store (.failing message))
  answer_table : ∀ query table, failing calls = none → tableOf query = .ok table →
    (s.ask query).1 =
      .ok ((held calls table).flatMap fun b => (List.finRange b.height).map fun i =>
        ⟨b.columns.map fun c => ⟨c.name, c.type, c.cells[i]⟩⟩)
  answer_no_table : ∀ query fault, failing calls = none → tableOf query = .error fault →
    (s.ask query).1 = .error fault ∧ fault = .store (.noTarget query)

/-- A table is named as it is kept. -/
theorem keyOf_of_tableOf {query table : String} (h : tableOf query = .ok table) :
    keyOf table = table := by
  unfold tableOf at h
  split at h
  · cases h
  · dsimp only at h
    split at h
    · cases h
    · rw [← Except.ok.inj h]
      exact Text.lowerAscii_idem _

theorem noTarget_of_tableOf {query : String} {fault : Error} (h : tableOf query = .error fault) :
    fault = .store (.noTarget query) := by
  unfold tableOf at h
  split at h
  · cases h
    rfl
  · dsimp only at h
    split at h
    · cases h
      rfl
    · cases h

theorem recalls_after : (after calls).Recalls calls where
  log_eq := log_after calls
  answer_failing := by
    intro query message hfailing
    simp [ask, answer, failure_after, hfailing]
  answer_table := by
    intro query table hfailing htable
    have hbatches := batches_after calls table
    rw [keyOf_of_tableOf htable] at hbatches
    have hanswer : (after calls).answer query = .ok ((after calls).rows table) := by
      rw [answer, failure_after, hfailing]
      exact Error.bind_eq_ok.2 ⟨table, htable, rfl⟩
    rw [ask, hanswer, rows, hbatches]
    rfl
  answer_no_table := by
    intro query fault hfailing htable
    refine ⟨?_, noTarget_of_tableOf htable⟩
    simp only [ask, answer, failure_after, hfailing, htable]
    rfl

/-! ## Calls on different tables -/

variable {calls : List Call} {call first second : Call} {table other query : String}

/-- A call that changes a table neither asks nor sets a failure. -/
theorem quiet_of_changed? (h : call.changed? = some other) :
    call.asked? = none ∧ call.setting? = none := by
  cases call <;> simp_all [Call.changed?, Call.asked?, Call.setting?]

/-- A call that changes a table spares all others. -/
theorem spares_of_changed? (h : call.changed? = some other) (hne : sameName other table = false) :
    call.clears table = false ∧ call.inserted? table = none := by
  cases call <;> simp_all [Call.changed?, Call.clears, Call.inserted?]

theorem held_concat_of_spares (h : call.changed? = some other)
    (hne : sameName other table = false) : held (calls ++ [call]) table = held calls table := by
  obtain ⟨hclears, hinserted⟩ := spares_of_changed? h hne
  simp [hclears, hinserted]

/-- Two histories with the same queries, the same failure and the same batches are told apart by no
answer. -/
theorem ask_after_congr {calls' : List Call} (hfailing : failing calls = failing calls')
    (hheld : ∀ table, tableOf query = .ok table → held calls table = held calls' table) :
    ((after calls).ask query).1 = ((after calls').ask query).1 := by
  have h := recalls_after calls
  have h' := recalls_after calls'
  cases hset : failing calls with
  | some message =>
    rw [h.answer_failing query message hset, h'.answer_failing query message (hfailing ▸ hset)]
  | none =>
    have hset' : failing calls' = none := hfailing ▸ hset
    cases htable : tableOf query with
    | ok table =>
      rw [h.answer_table query table hset htable, h'.answer_table query table hset' htable,
        hheld table htable]
    | error fault =>
      rw [(h.answer_no_table query fault hset htable).1,
        (h'.answer_no_table query fault hset' htable).1]

/-- Of two calls that change different tables, one spares the table in question. -/
theorem held_pair_swap (hfirst : first.changed? = some table)
    (hsecond : second.changed? = some other) (hne : sameName table other = false) (name : String) :
    held (calls ++ [first] ++ [second]) name = held (calls ++ [second] ++ [first]) name := by
  rw [held_concat, held_concat (calls ++ [second])]
  -- A name spells at most one of the two tables, so one of the calls does not matter for it.
  cases hname : sameName table name with
  | false =>
    obtain ⟨hclears, hinserted⟩ := spares_of_changed? hfirst hname
    rw [held_concat_of_spares hfirst hname, held_concat, hclears, hinserted]
    simp
  | true =>
    have hother : sameName other name = false := by
      rwa [Text.sameName_comm, Text.sameName_congr hname] at hne
    obtain ⟨hclears, hinserted⟩ := spares_of_changed? hsecond hother
    rw [held_concat_of_spares hsecond hother, held_concat, hclears, hinserted]
    simp

/-- Changes of different tables leave the same behind in either order, whatever follows. -/
theorem history_swap (calls : List Call) (hfirst : first.changed? = some table)
    (hsecond : second.changed? = some other) (hne : sameName table other = false)
    (more : List Call) :
    asked (calls ++ first :: second :: more) = asked (calls ++ second :: first :: more) ∧
    failing (calls ++ first :: second :: more) = failing (calls ++ second :: first :: more) ∧
    ∀ name, held (calls ++ first :: second :: more) name =
      held (calls ++ second :: first :: more) name := by
  induction more using List.reverseRecOn with
  | nil =>
    obtain ⟨hasked, hsetting⟩ := quiet_of_changed? hfirst
    obtain ⟨hasked', hsetting'⟩ := quiet_of_changed? hsecond
    have hsplit : ∀ a b : Call, calls ++ [a, b] = calls ++ [a] ++ [b] := by simp
    rw [hsplit, hsplit]
    refine ⟨?_, ?_, held_pair_swap hfirst hsecond hne⟩
    · simp only [asked_concat, hasked, hasked']
    · simp only [failing_concat, hsetting, hsetting', Option.getD_none]
  | append_singleton more call ih =>
    obtain ⟨hasked, hfailing, hheld⟩ := ih
    have hsplit : ∀ a b : Call,
        calls ++ a :: b :: (more ++ [call]) = calls ++ a :: b :: more ++ [call] := by simp
    simp only [hsplit, asked_concat, failing_concat, held_concat, hasked, hfailing, hheld,
      implies_true, and_self]

/-! ## Sessions -/

/-- What a step of a session does to its store is done by calls. -/
theorem exists_calls_step (s : Session) (step : Step) :
    ∃ calls : List Call, (s.step step).2.store = calls.foldl Store.call s.store := by
  cases step with
  | insert table b => exact ⟨[.insert table b], rfl⟩
  | clear table => exact ⟨[.clear table], rfl⟩
  | breakWith message => exact ⟨[.breakWith message], rfl⟩
  | repair => exact ⟨[.repair], rfl⟩
  | ask query => exact ⟨[.ask query], rfl⟩
  | query statement q =>
    simp only [Session.step, Service.answer]
    cases s.service.prepare s.catalog statement q with
    | error fault => exact ⟨[], rfl⟩
    | ok p => exact ⟨[.ask p.text], rfl⟩
  | statement text =>
    simp only [Session.step, Service.answerText]
    cases Query.parse text with
    | error fault => exact ⟨[], rfl⟩
    | ok q =>
      simp only [Service.answer]
      cases s.service.prepare s.catalog text q with
      | error fault => exact ⟨[], rfl⟩
      | ok p => exact ⟨[.ask p.text], rfl⟩
  | _ => exact ⟨[], rfl⟩

/-- The store of a session has a history of calls. -/
theorem exists_calls_run (service : Service) (steps : List Step) :
    ∃ calls, ((Session.start service).run steps).2.store = after calls := by
  induction steps using List.reverseRecOn with
  | nil => exact ⟨[], rfl⟩
  | append_singleton steps step ih =>
    obtain ⟨calls, hcalls⟩ := ih
    obtain ⟨more, hmore⟩ := exists_calls_step ((Session.start service).run steps).2 step
    refine ⟨calls ++ more, ?_⟩
    rw [Session.run_append, after, List.foldl_append, ← after, ← hcalls, ← hmore]
    rfl

/-- A store loses, repeats and reorders nothing, whatever the history of its calls is. Changes of
different tables may change places, a question may change places with a change of a table that it
does not read, and no question matters for the next one. The store of every session has such a
history. -/
theorem history_answered (calls : List Call) :
    (after calls).Recalls calls ∧
    (∀ first second table other, first.changed? = some table → second.changed? = some other →
      sameName table other = false → ∀ more,
        (after (calls ++ first :: second :: more)).log =
          (after (calls ++ second :: first :: more)).log ∧
        ∀ query, ((after (calls ++ first :: second :: more)).ask query).1 =
          ((after (calls ++ second :: first :: more)).ask query).1) ∧
    (∀ change table query other, change.changed? = some table → tableOf query = .ok other →
      sameName table other = false →
        after (calls ++ [change, .ask query]) = after (calls ++ [.ask query, change]) ∧
        ((after (calls ++ [change])).ask query).1 = ((after calls).ask query).1) ∧
    (∀ earlier query,
      ((after (calls ++ [.ask earlier])).ask query).1 = ((after calls).ask query).1) ∧
    ∀ service steps, ∃ calls, ((Session.start service).run steps).2.store = after calls := by
  refine ⟨recalls_after calls, fun first second table other hfirst hsecond hne more => ?_,
    fun change table query other hchange htable hne => ⟨?_, ?_⟩, fun earlier query => ?_,
    exists_calls_run⟩
  · obtain ⟨hasked, hfailing, hheld⟩ := history_swap calls hfirst hsecond hne more
    refine ⟨?_, fun query => ask_after_congr hfailing fun name _ => hheld name⟩
    rw [log_after, log_after, hasked]
  · simp only [after, List.foldl_append, List.foldl_cons, List.foldl_nil]
    cases change with
    | insert | clear => rfl
    | breakWith | repair | ask => simp [Call.changed?] at hchange
  · obtain ⟨-, hsetting⟩ := quiet_of_changed? hchange
    refine ask_after_congr ?_ fun name hname => ?_
    · rw [failing_concat, hsetting, Option.getD_none]
    · rw [htable, Except.ok.injEq] at hname
      exact held_concat_of_spares hchange (hname ▸ hne)
  · refine ask_after_congr (failing_concat calls _) fun name _ => ?_
    simp [Call.clears, Call.inserted?]

end MatView.Store
