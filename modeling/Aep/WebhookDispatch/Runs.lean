import Aep.Library.Result
import Aep.WebhookDispatch.Dispatcher

namespace Aep.WebhookDispatch

open Transaction

namespace Database

def event (database : Database) (deduplicationKey : String) : Option EventRow :=
  database.events.find? fun row => row.deduplicationKey = deduplicationKey

def request (database : Database) (eventId : String) : Option OutboxRow :=
  database.outbox.find? fun row => row.eventId = eventId

def failure (database : Database) (eventId : String) : Option FailureRow :=
  database.failures.find? fun row => row.eventId = eventId

/-- The requests that a consumer still has to take, in the order of their events. -/
def pendingRequests (database : Database) : List OutboxRow :=
  (database.outbox.filter fun row => row.status = .pending).insertionSort fun first second =>
    first.eventId ≤ second.eventId

def accept (database : Database) (new : Submission) : Database :=
  { database with events := database.events ++ [new.eventRow], outbox := database.outbox ++ [new.requestRow] }

def complete (database : Database) (eventId : String) : Database :=
  { database with outbox := database.outbox.map (completing eventId) }

def fail (database : Database) (row : FailureRow) : Database :=
  if database.failed row.eventId then database else { database with failures := database.failures ++ [row] }

/-- Every event has one request and every request one event, and no event has two failures. -/
structure Consistent (database : Database) : Prop where
  keys : (database.events.map EventRow.deduplicationKey).Nodup
  ids : (database.events.map EventRow.eventId).Nodup
  requests : database.outbox.map OutboxRow.eventId = database.events.map EventRow.eventId
  failures : (database.failures.map FailureRow.eventId).Nodup

/-- What stays of a database: its events and failures, and of its requests all but that they may be completed. -/
structure Keeps (before after : Database) : Prop where
  event : ∀ key row, before.event key = some row → after.event key = some row
  request : ∀ id row, before.request id = some row →
    after.request id = some row ∨ after.request id = some { row with status := .completed }
  failure : ∀ id row, before.failure id = some row → after.failure id = some row

section Invariant

variable {database before middle after : Database}

theorem consistent_empty : Consistent {} := ⟨List.nodup_nil, List.nodup_nil, rfl, List.nodup_nil⟩

theorem Keeps.refl (database : Database) : database.Keeps database :=
  ⟨fun _ _ found => found, fun _ _ found => .inl found, fun _ _ found => found⟩

theorem Keeps.trans (first : before.Keeps middle) (second : middle.Keeps after) : before.Keeps after := by
  refine ⟨fun key row found => second.event key row (first.event key row found), fun id row found => ?_,
    fun id row found => second.failure id row (first.failure id row found)⟩
  rcases first.request id row found with same | completed
  · exact second.request id row same
  · rcases second.request id _ completed with same | again
    · exact .inr same
    · exact .inr again

theorem find?_append_of_some {α : Type} {rows new : List α} {test : α → Bool} {row : α}
    (found : rows.find? test = some row) : (rows ++ new).find? test = some row := by
  simp [List.find?_append, found]

theorem not_mem_of_any_false {α : Type} {rows : List α} {field : α → String} {wanted : String}
    (absent : (rows.any fun row => decide (field row = wanted)) = false) : wanted ∉ rows.map field := by
  simp only [List.any_eq_false, decide_eq_true_eq] at absent
  rintro member
  obtain ⟨row, present, same⟩ := List.mem_map.mp member
  exact absent row present same

theorem nodup_append_one {α : Type} {rows : List α} {field : α → String} {row : α}
    (distinct : (rows.map field).Nodup) (absent : field row ∉ rows.map field) :
    ((rows ++ [row]).map field).Nodup := by
  rw [List.map_append, List.map_singleton]
  exact List.nodup_append.mpr ⟨distinct, by simp, by
    intro old member new single
    rw [List.mem_singleton.mp single]
    rintro rfl
    exact absent member⟩

theorem Consistent.accept (consistent : database.Consistent) {new : Submission}
    (newKey : (database.events.any fun row => decide (row.deduplicationKey = new.deduplicationKey)) = false)
    (newId : database.recorded new.eventId = false) : (database.accept new).Consistent := by
  constructor
  · exact nodup_append_one consistent.keys (not_mem_of_any_false newKey)
  · exact nodup_append_one consistent.ids (not_mem_of_any_false newId)
  · change (database.outbox ++ [new.requestRow]).map OutboxRow.eventId =
      (database.events ++ [new.eventRow]).map EventRow.eventId
    simp only [List.map_append, consistent.requests]
    rfl
  · exact consistent.failures

theorem keeps_accept (database : Database) (new : Submission) : database.Keeps (database.accept new) :=
  ⟨fun _ _ found => find?_append_of_some found, fun _ _ found => .inl (find?_append_of_some found),
    fun _ _ found => found⟩

theorem completing_eventId (eventId : String) (row : OutboxRow) : (completing eventId row).eventId = row.eventId := by
  unfold completing
  split <;> rfl

theorem Consistent.complete (consistent : database.Consistent) (eventId : String) :
    (database.complete eventId).Consistent := by
  refine ⟨consistent.keys, consistent.ids, ?_, consistent.failures⟩
  change (database.outbox.map (completing eventId)).map OutboxRow.eventId = database.events.map EventRow.eventId
  rw [← consistent.requests, List.map_map]
  exact List.map_congr_left fun row _ => completing_eventId eventId row

theorem request_complete (database : Database) (eventId id : String) :
    (database.complete eventId).request id = (database.request id).map (completing eventId) := by
  unfold request complete
  simp only [List.find?_map, Function.comp_def, completing_eventId]

theorem keeps_complete (database : Database) (eventId : String) : database.Keeps (database.complete eventId) := by
  refine ⟨fun _ _ found => found, fun id row found => ?_, fun _ _ found => found⟩
  rw [request_complete, found]
  unfold completing
  by_cases same : row.eventId = eventId
  · exact .inr (by simp [same])
  · exact .inl (by simp [same])

theorem Consistent.fail (consistent : database.Consistent) (row : FailureRow) : (database.fail row).Consistent := by
  unfold Database.fail
  cases present : database.failed row.eventId with
  | true => simpa using consistent
  | false =>
    simp only [Bool.false_eq_true, ↓reduceIte]
    exact ⟨consistent.keys, consistent.ids, consistent.requests,
      nodup_append_one consistent.failures (not_mem_of_any_false present)⟩

theorem keeps_fail (database : Database) (row : FailureRow) : database.Keeps (database.fail row) := by
  unfold Database.fail
  split
  · exact .refl database
  · exact ⟨fun _ _ found => found, fun _ _ found => .inl found, fun _ _ found => find?_append_of_some found⟩

theorem Consistent.not_pending (consistent : database.Consistent) {id : String} {row : OutboxRow}
    (found : database.request id = some row) (completed : row.status = .completed) :
    ∀ pending ∈ database.pendingRequests, pending.eventId ≠ id := by
  intro other member same
  simp only [pendingRequests, List.mem_insertionSort, List.mem_filter, decide_eq_true_eq] at member
  have named : row.eventId = id := by simpa using List.find?_some found
  have distinct : (database.outbox.map OutboxRow.eventId).Nodup := consistent.requests ▸ consistent.ids
  have equal : other = row := List.inj_on_of_nodup_map distinct member.1 (List.mem_of_find?_eq_some found)
    (same.trans named.symm)
  rw [← equal, member.2] at completed
  cases completed

end Invariant

end Database

section Specs

variable {database after : Database}

@[simp] theorem completes_perform {op : Statement} {answer : op.Answer} :
    Completes Statement.run (perform op) database answer after ↔ op.run database = .ok (answer, after) :=
  completes_call_ret

theorem selectEvent_eq (database : Database) (key : String) :
    (Statement.selectEvent key).run database = .ok ((database.event key).map EventRow.event, database) := rfl

theorem submission_completes {new : Submission} {result : DispatchAcceptance}
    (completes : Completes Statement.run new.body database result after) :
    (∃ row, database.event new.deduplicationKey = some row ∧ result = ⟨false, row.event⟩ ∧ after = database) ∨
      database.event new.deduplicationKey = none ∧
        (database.events.any fun row => decide (row.deduplicationKey = new.deduplicationKey)) = false ∧
        database.recorded new.eventId = false ∧ result = ⟨true, new.event⟩ ∧ after = database.accept new := by
  unfold Submission.body at completes
  simp only [completes_bind, completes_perform, selectEvent_eq, Except.ok.injEq] at completes
  obtain ⟨_, _, ⟨rfl, rfl⟩, completes⟩ := completes
  cases found : database.event new.deduplicationKey with
  | some row =>
    rw [found] at completes
    obtain ⟨rfl, rfl⟩ := completes_pure.mp completes
    exact .inl ⟨row, rfl, rfl, rfl⟩
  | none =>
    rw [found] at completes
    simp only [Option.map_none, completes_bind, completes_perform, completes_pure] at completes
    obtain ⟨_, middle, inserted, _, _, requested, rfl, rfl⟩ := completes
    simp only [Statement.run] at inserted requested
    split at inserted
    · cases inserted
    · rename_i newKey
      split at inserted
      · cases inserted
      · rename_i newId
        cases inserted
        split at requested
        · cases requested
        · split at requested
          · cases requested
          · cases requested
            exact .inr ⟨rfl, Bool.eq_false_iff.mpr newKey, Bool.eq_false_iff.mpr newId, rfl, rfl⟩

theorem completion_completes {eventId : String} {result : Unit}
    (completes : Completes Statement.run (completionBody eventId) database result after) :
    after = database.complete eventId := by
  unfold completionBody at completes
  obtain ⟨rowcount, middle, updated, completes⟩ := completes_bind.mp completes
  have done := completes_perform.mp updated
  cases done
  split at completes
  · cases completes
  · exact (completes_pure.mp completes).2

theorem failure_completes {row : FailureRow} {result : Unit}
    (completes : Completes Statement.run (failureBody row) database result after) :
    after = (database.fail row).complete row.eventId := by
  unfold failureBody at completes
  obtain ⟨present, middle, selected, completes⟩ := completes_bind.mp completes
  have done := completes_perform.mp selected
  cases done
  split at completes
  · simp only [completes_bind, completes_perform, completes_pure] at completes
    obtain ⟨_, _, inserted, _, _, updated, -, rfl⟩ := completes
    cases updated
    simp only [Statement.run] at inserted
    unfold Database.fail
    split at inserted
    · rename_i present
      cases inserted
      rw [if_pos present]
      rfl
    · rename_i absent
      split at inserted
      · cases inserted
      · cases inserted
        rw [if_neg absent]
        rfl
  · cases completes

end Specs

section Calls

variable {strip : String → String} {call : Call} {faults : Faults PyError} {database : Database}

/-- What a call makes of the database when it returns. -/
inductive Wrote (strip : String → String) (database : Database) : Call → Reply → Database → Prop where
  | known {event : Record} {traceId : String} {new : Submission} {row : EventRow}
      (checked : submission strip event traceId = .ok new) (found : database.event new.deduplicationKey = some row) :
      Wrote strip database (.submit event traceId) (.acceptance ⟨false, row.event⟩) database
  | accepted {event : Record} {traceId : String} {new : Submission} (checked : submission strip event traceId = .ok new)
      (unknown : database.event new.deduplicationKey = none)
      (newKey : (database.events.any fun row => decide (row.deduplicationKey = new.deduplicationKey)) = false)
      (newId : database.recorded new.eventId = false) :
      Wrote strip database (.submit event traceId) (.acceptance ⟨true, new.event⟩) (database.accept new)
  | completed {eventId : String} : Wrote strip database (.markCompleted eventId) .done (database.complete eventId)
  | failed {row : FailureRow} :
      Wrote strip database (.markFailed row) .done ((database.fail row).complete row.eventId)

theorem wrote_of_completes {body : Body Reply} {reply : Reply} {after : Database} (checked : call.body strip = .ok body)
    (completes : Completes Statement.run body database reply after) : Wrote strip database call reply after := by
  cases call with
  | submit event traceId =>
    simp only [Call.body, Result.bind_eq_ok, Result.pure_eq_ok] at checked
    obtain ⟨new, submitted, rfl⟩ := checked
    simp only [completes_bind, completes_pure] at completes
    obtain ⟨result, _, completes, rfl, rfl⟩ := completes
    rcases submission_completes completes with ⟨row, found, rfl, rfl⟩ | ⟨unknown, newKey, newId, rfl, rfl⟩
    · exact .known submitted found
    · exact .accepted submitted unknown newKey newId
  | markCompleted eventId =>
    simp only [Call.body, Result.bind_eq_ok, Result.pure_eq_ok] at checked
    obtain ⟨_, -, rfl⟩ := checked
    simp only [completes_bind, completes_pure] at completes
    obtain ⟨_, _, completes, rfl, rfl⟩ := completes
    rw [completion_completes completes]
    exact .completed
  | markFailed row =>
    simp only [Call.body, Result.bind_eq_ok, Result.pure_eq_ok] at checked
    obtain ⟨_, -, rfl⟩ := checked
    simp only [completes_bind, completes_pure] at completes
    obtain ⟨_, _, completes, rfl, rfl⟩ := completes
    rw [failure_completes completes]
    exact .failed

theorem wrote_of_returned {reply : Reply} (returned : (call.run strip faults database).1 = .returned reply) :
    Wrote strip database call reply (call.run strip faults database).2 := by
  unfold Call.run at returned ⊢
  cases checked : call.body strip with
  | error error => simp [checked] at returned
  | ok body =>
    simp only [checked] at returned ⊢
    exact wrote_of_completes checked (run_returned returned)

theorem Wrote.keeps {reply : Reply} {after : Database} (wrote : Wrote strip database call reply after) :
    database.Keeps after := by
  cases wrote with
  | known _ _ => exact .refl database
  | accepted _ _ _ _ => exact database.keeps_accept _
  | completed => exact database.keeps_complete _
  | failed => exact (database.keeps_fail _).trans (Database.keeps_complete _ _)

theorem Wrote.consistent {reply : Reply} {after : Database} (wrote : Wrote strip database call reply after)
    (consistent : database.Consistent) : after.Consistent := by
  cases wrote with
  | known _ _ => exact consistent
  | accepted _ _ newKey newId => exact consistent.accept newKey newId
  | completed => exact consistent.complete _
  | failed => exact (consistent.fail _).complete _

theorem call_keeps (kept : Database → Database → Prop) (refl : kept database database)
    (writes : ∀ reply after, Wrote strip database call reply after → kept database after) :
    kept database (call.run strip faults database).2 := by
  unfold Call.run
  cases checked : call.body strip with
  | error error => exact refl
  | ok body => exact run_keeps refl fun reply after completes => writes reply after (wrote_of_completes checked completes)

end Calls

section Runs

variable (strip : String → String)

theorem runAll_append (first second : List (Call × Faults PyError)) (database : Database) :
    runAll strip (first ++ second) database = runAll strip second (runAll strip first database) := by
  induction first generalizing database with
  | nil => rfl
  | cons step rest ih => exact ih _

theorem runAll_keeps (calls : List (Call × Faults PyError)) (database : Database) :
    database.Keeps (runAll strip calls database) := by
  induction calls generalizing database with
  | nil => exact .refl database
  | cons step rest ih =>
    have first : database.Keeps (step.1.run strip step.2 database).2 :=
      call_keeps Database.Keeps (.refl database) fun _ _ wrote => wrote.keeps
    exact first.trans (ih _)

theorem runAll_consistent (calls : List (Call × Faults PyError)) (database : Database)
    (consistent : database.Consistent) : (runAll strip calls database).Consistent := by
  induction calls generalizing database with
  | nil => exact consistent
  | cons step rest ih =>
    exact ih _ (call_keeps (fun _ after => after.Consistent) consistent
      fun _ _ wrote => wrote.consistent consistent)

def AcceptsNew (database : Database) : Prop :=
  ∀ event traceId faults stored,
    ((Call.submit event traceId).run strip faults database).1 = .returned (.acceptance ⟨true, stored⟩) →
    stored = event ∧ ∃ key row, requiredText strip event "deduplicationKey" = .ok key ∧ row.event = event ∧
      database.event key = none ∧ ((Call.submit event traceId).run strip faults database).2.event key = some row

/-- A submission with a key that is taken writes nothing, and what it returns is the event of the key, not accepted. -/
def ReturnsPrior (before after : Database) : Prop :=
  ∀ key row, before.event key = some row → ∀ event traceId faults,
    requiredText strip event "deduplicationKey" = .ok key →
    ((Call.submit event traceId).run strip faults after).2 = after ∧
      ∀ reply, ((Call.submit event traceId).run strip faults after).1 = .returned reply →
        reply = .acceptance ⟨false, row.event⟩

def StaysRetired (before after : Database) : Prop :=
  ∀ id row, before.request id = some row → row.status = .completed →
    ∀ pending ∈ after.pendingRequests, pending.eventId ≠ id

theorem staysRetired {before after : Database} (keeps : before.Keeps after) (consistent : after.Consistent) :
    StaysRetired before after := by
  intro id row found completed
  rcases keeps.request id row found with same | again
  · exact consistent.not_pending same completed
  · exact consistent.not_pending again rfl

theorem submission_ok {event : Record} {traceId : String} {new : Submission}
    (checked : submission strip event traceId = .ok new) :
    requiredText strip event "deduplicationKey" = .ok new.deduplicationKey ∧ new.event = event := by
  unfold submission at checked
  split at checked
  · rename_i key _ keyed
    split at checked
    · cases checked
    · cases checked
      exact ⟨keyed, rfl⟩
  · cases checked
  · cases checked

theorem acceptsNew (database : Database) : AcceptsNew strip database := by
  intro event traceId faults stored returned
  have wrote := wrote_of_returned returned
  generalize ((Call.submit event traceId).run strip faults database).2 = after at wrote ⊢
  cases wrote with
  | accepted checked unknown newKey newId =>
    rename_i new
    obtain ⟨keyed, same⟩ := submission_ok strip checked
    refine ⟨same, new.deduplicationKey, new.eventRow, keyed, same, unknown, ?_⟩
    unfold Database.event at unknown ⊢
    simp [Database.accept, List.find?_append, unknown, Submission.eventRow]

theorem returnsPrior {before after : Database} (keeps : before.Keeps after) : ReturnsPrior strip before after := by
  intro key row found event traceId faults keyed
  have kept := keeps.event key row found
  have written (reply : Reply) (written : Database) (wrote : Wrote strip after (.submit event traceId) reply written) :
      written = after ∧ reply = .acceptance ⟨false, row.event⟩ := by
    cases wrote with
    | known checked known =>
      have same := (submission_ok strip checked).1
      rw [keyed] at same
      cases same
      rw [kept] at known
      cases known
      exact ⟨rfl, rfl⟩
    | accepted checked unknown _ _ =>
      have same := (submission_ok strip checked).1
      rw [keyed] at same
      cases same
      rw [kept] at unknown
      cases unknown
  constructor
  · exact call_keeps (fun before later => later = before) rfl fun reply later wrote => (written reply later wrote).1
  · exact fun reply returned => (written reply _ (wrote_of_returned returned)).2

/-- Whatever calls are made in whatever order and wherever they fail, events and requests stay one to one, a key keeps
    its first event, a completed request stays completed, and an event keeps its first failure. -/
theorem dispatcher_runs (earlier later : List (Call × Faults PyError)) :
    let before := runAll strip earlier {}
    let after := runAll strip (earlier ++ later) {}
    before.Consistent ∧ before.Keeps after ∧ StaysRetired before after ∧ AcceptsNew strip before ∧
      ReturnsPrior strip before after := by
  intro before after
  have kept : before.Keeps after := by
    change (runAll strip earlier {}).Keeps (runAll strip (earlier ++ later) {})
    rw [runAll_append]
    exact runAll_keeps strip later _
  have consistent : ∀ calls, (runAll strip calls {}).Consistent := fun calls =>
    runAll_consistent strip calls {} Database.consistent_empty
  exact ⟨consistent earlier, kept, staysRetired kept (consistent _), acceptsNew strip before, returnsPrior strip kept⟩

end Runs

end Aep.WebhookDispatch
