import Aep.Library.Transaction
import Aep.RuntimeStore.Objects

namespace Aep.WebhookDispatch

open RuntimeStore

structure EventRow where
  deduplicationKey : String
  eventId : String
  event : Record
  deriving DecidableEq

inductive Status where
  | pending
  | completed
  deriving DecidableEq

structure OutboxRow where
  eventId : String
  traceId : String
  request : Record
  status : Status
  deriving DecidableEq

structure FailureRow where
  eventId : String
  failureClass : String
  message : String
  failedAt : String
  deriving DecidableEq

structure Database where
  events : List EventRow := []
  outbox : List OutboxRow := []
  failures : List FailureRow := []
  deriving DecidableEq

inductive Statement where
  | selectEvent (deduplicationKey : String)
  | insertEvent (row : EventRow)
  | insertRequest (row : OutboxRow)
  | selectRequest (eventId : String)
  | insertFailure (row : FailureRow)
  | completeRequest (eventId : String)

def Statement.Answer : Statement → Type
  | .selectEvent _ => Option Record
  | .selectRequest _ => Bool
  | .completeRequest _ => Nat
  | _ => Unit

abbrev Statements : Interface := ⟨Statement, Statement.Answer⟩

abbrev Body (α : Type) : Type := Program Statements PyError α

def integrityError (message : String) : PyError := { errorClass := .otherException, message }

namespace Database

variable (database : Database)

def requested (eventId : String) : Bool := database.outbox.any fun row => row.eventId = eventId

def recorded (eventId : String) : Bool := database.events.any fun row => row.eventId = eventId

def failed (eventId : String) : Bool := database.failures.any fun row => row.eventId = eventId

/-- The row of a request with its status set, as an update of the table leaves it. -/
def completing (eventId : String) (row : OutboxRow) : OutboxRow :=
  if row.eventId = eventId then { row with status := .completed } else row

end Database

/-- A statement on the tables with their keys: the primary key and the unique id of an event, the primary keys of the
    other tables, and their references to an event. -/
def Statement.run : (op : Statement) → Database → Except PyError (op.Answer × Database)
  | .selectEvent key, database =>
    .ok ((database.events.find? fun row => row.deduplicationKey = key).map EventRow.event, database)
  | .insertEvent row, database =>
    if database.events.any fun other => other.deduplicationKey = row.deduplicationKey then
      .error (integrityError "UNIQUE constraint failed: github_webhook_events.deduplication_key")
    else if database.recorded row.eventId then
      .error (integrityError "UNIQUE constraint failed: github_webhook_events.event_id")
    else .ok ((), { database with events := database.events ++ [row] })
  | .insertRequest row, database =>
    if database.requested row.eventId then
      .error (integrityError "UNIQUE constraint failed: reconciliation_outbox.event_id")
    else if database.recorded row.eventId = false then .error (integrityError "FOREIGN KEY constraint failed")
    else .ok ((), { database with outbox := database.outbox ++ [row] })
  | .selectRequest eventId, database => .ok (database.requested eventId, database)
  | .insertFailure row, database =>
    if database.failed row.eventId then .ok ((), database)
    else if database.recorded row.eventId = false then .error (integrityError "FOREIGN KEY constraint failed")
    else .ok ((), { database with failures := database.failures ++ [row] })
  | .completeRequest eventId, database =>
    .ok (database.outbox.countP fun row => row.eventId = eventId,
      { database with outbox := database.outbox.map (Database.completing eventId) })

def perform (op : Statement) : Body op.Answer := .call op .ret

/-- Result of atomically accepting an Event and its reconciliation request. -/
structure DispatchAcceptance where
  accepted : Bool
  event : Record
  deriving DecidableEq

section Calls

variable (strip : String → String)

def requiredText (value : Record) (field : String) : Except PyError String :=
  match value.field field with
  | .str candidate =>
    if strip candidate = "" then .error (valueError ("event." ++ field ++ " must be a non-empty string"))
    else .ok (strip candidate)
  | _ => .error (valueError ("event." ++ field ++ " must be a non-empty string"))

structure Submission where
  eventId : String
  deduplicationKey : String
  traceId : String
  event : Record

def submission (event : Record) (traceId : String) : Except PyError Submission :=
  match requiredText strip event "id", requiredText strip event "deduplicationKey" with
  | .ok eventId, .ok deduplicationKey =>
    if strip traceId = "" then .error (valueError "trace_id must not be empty")
    else .ok { eventId, deduplicationKey, traceId, event }
  | .error error, _ => .error error
  | _, .error error => .error error

namespace Submission

variable (new : Submission)

def eventRow : EventRow := ⟨new.deduplicationKey, new.eventId, new.event⟩

def request : Record :=
  [("event", .obj new.event), ("eventId", .str new.eventId), ("traceId", .str new.traceId)]

def requestRow : OutboxRow := ⟨new.eventId, new.traceId, new.request, .pending⟩

def body : Body DispatchAcceptance := do
  match ← perform (.selectEvent new.deduplicationKey) with
  | some (prior : Record) => return ⟨false, prior⟩
  | none => do
    let _ ← perform (.insertEvent new.eventRow)
    let _ ← perform (.insertRequest new.requestRow)
    return ⟨true, new.event⟩

end Submission

def requestNotFound (eventId : String) : PyError :=
  keyError ("reconciliation request " ++ (Json.str eventId).repr ++ " was not found")

def completionBody (eventId : String) : Body Unit := do
  let rowcount : Nat ← perform (.completeRequest eventId)
  if rowcount ≠ 1 then .raise (requestNotFound eventId) else return ()

def failureBody (row : FailureRow) : Body Unit := do
  let present : Bool ← perform (.selectRequest row.eventId)
  if present then do
    let _ ← perform (.insertFailure row)
    let _ ← perform (.completeRequest row.eventId)
    return ()
  else .raise (requestNotFound row.eventId)

/-- What a call returns: an acceptance, or nothing. -/
inductive Reply where
  | acceptance (result : DispatchAcceptance)
  | done
  deriving DecidableEq

inductive Call where
  | submit (event : Record) (traceId : String)
  | markCompleted (eventId : String)
  | markFailed (row : FailureRow)

def checkIdentity (eventId : String) : Except PyError Unit :=
  if strip eventId = "" then .error (valueError "event_id must not be empty") else .ok ()

def checkFailure (row : FailureRow) : Except PyError Unit :=
  if strip row.eventId = "" ∨ strip row.failureClass = "" ∨ strip row.message = "" then
    .error (valueError "failure identity, class, and message are required")
  else .ok ()

def Call.body : Call → Except PyError (Body Reply)
  | .submit event traceId => do
    let new ← submission strip event traceId
    return do return .acceptance (← new.body)
  | .markCompleted eventId => do
    checkIdentity strip eventId
    return do
      completionBody eventId
      return .done
  | .markFailed row => do
    checkFailure strip row
    return do
      failureBody row
      return .done

def Call.run (call : Call) (faults : Faults PyError) (database : Database) : Ended PyError Reply × Database :=
  match call.body strip with
  | .error error => (.raised error, database)
  | .ok body => Transaction.run Statement.run body faults database

def runAll : List (Call × Faults PyError) → Database → Database
  | [], database => database
  | (call, faults) :: rest, database => runAll rest (call.run strip faults database).2

end Calls

end Aep.WebhookDispatch
