import Aep.WorkflowScheduler.TaskExecution

namespace Aep.WorkflowScheduler

open RuntimeStore

inductive TaskStatus where
  | pending
  | running
  | succeeded
  | failed
  | awaitingApproval
  deriving DecidableEq

def TaskStatus.value : TaskStatus → String
  | .pending => "PENDING"
  | .running => "RUNNING"
  | .succeeded => "SUCCEEDED"
  | .failed => "FAILED"
  | .awaitingApproval => "AWAITING_APPROVAL"

/-- The events of the audit trail of a TaskExecution. -/
inductive TaskEvent where
  | queued
  | started
  | awaitingApproval
  | succeeded
  | failed
  deriving DecidableEq

namespace TaskEvent

def eventType : TaskEvent → String
  | .queued => "TaskExecutionQueued"
  | .started => "TaskExecutionStarted"
  | .awaitingApproval => "TaskExecutionAwaitingApproval"
  | .succeeded => "TaskExecutionSucceeded"
  | .failed => "TaskExecutionFailed"

def status : TaskEvent → TaskStatus
  | .queued => .pending
  | .started => .running
  | .awaitingApproval => .awaitingApproval
  | .succeeded => .succeeded
  | .failed => .failed

end TaskEvent

def invalidInput (message : String) : PyError := { errorClass := .invalidSchedulerInputError, message }

variable (platform : Platform)

def validateRuntimeRecord (record : Record) (schemaName : String) : Except PyError Unit :=
  validated platform schemaName record fun violated =>
    invalidInput ("invalid " ++ ((record.get? "kind").getD (.str "runtime object")).text ++ " at " ++ violated.1 ++
      ": " ++ violated.2)

def eventId (taskExecutionId : String) (event : TaskEvent) : String :=
  "executionevent-" ++ platform.uuid5 ("execution-event:" ++ taskExecutionId ++ ":" ++ event.eventType)

def failurePayload (taskExecution : Record) (event : TaskEvent) : Except PyError Record :=
  match event, taskExecution.field "failure" with
  | .failed, .obj failure => do
    let failureClass ← item failure "class"
    return [("failureClass", failureClass), ("retryable", (Dict.get? failure "retryable").getD (.bool false))]
  | _, _ => .ok []

def eventRecord (taskExecution : Record) (event : TaskEvent) (sequence : Int) (timestamp : String) :
    Except PyError Record := do
  let taskExecutionId := (← item taskExecution "id").text
  let traceId ← item taskExecution "traceId"
  let workflowExecutionId ← item taskExecution "workflowExecutionId"
  let taskRef ← asDict (← item taskExecution "taskRef")
  let attempt ← item taskExecution "attempt"
  let failure ← failurePayload taskExecution event
  return [
    ("apiVersion", .str "aep.dev/v1alpha1"), ("kind", .str "ExecutionEvent"),
    ("id", .str (eventId platform taskExecutionId event)), ("traceId", traceId), ("createdAt", .str timestamp),
    ("updatedAt", .str timestamp),
    ("provenance", .obj [("actor", .str "workflow-scheduler"), ("workflowExecutionId", workflowExecutionId),
      ("taskExecutionId", .str taskExecutionId), ("resourceRefs", .arr [.obj taskRef])]),
    ("eventType", .str event.eventType),
    ("subject", .obj [("kind", .str "TaskExecution"), ("id", .str taskExecutionId)]), ("sequence", .int sequence),
    ("emittedAt", .str timestamp),
    ("payload", .obj ([("status", .str event.status.value), ("attempt", attempt)] ++ failure))]

def emittedEvent (taskExecution : Record) (event : TaskEvent) (sequence : Int) (timestamp : String) :
    Except PyError Record := do
  let record ← eventRecord platform taskExecution event sequence timestamp
  validateRuntimeRecord platform record "executionevent.schema.json"
  return record

def emit (taskExecution : Record) (event : TaskEvent) (sequence : Int) (timestamp : String) : Prog Record := do
  let record ← Prog.check (emittedEvent platform taskExecution event sequence timestamp)
  Prog.store (.appendEvent (.obj record))

/-- The record that a transition is about to leave, from which its event is made. -/
def preview (taskExecution : Record) (status : TaskStatus) (timestamp : String) (changes : Record) : Record :=
  let updated := ((taskExecution.update changes).set "status" (.str status.value)).set "updatedAt" (.str timestamp)
  match status with
  | .running => updated.setDefault "startedAt" (.str timestamp)
  | .succeeded | .failed => updated.setDefault "completedAt" (.str timestamp)
  | _ => updated

def transitionSequence (status : TaskStatus) : Int := if status = .running then 2 else 3

def transitionAndEmit (taskExecution : Record) (status : TaskStatus) (event : TaskEvent) (timestamp : String)
    (changes : Record) : Prog Record := do
  let record ← Prog.check (emittedEvent platform (preview taskExecution status timestamp changes) event
    (transitionSequence status) timestamp)
  Prog.commitTaskExecutionTransition (idOf taskExecution) status.value (taskExecution.field "workflowExecutionId").text
    record (statusOf taskExecution).text timestamp changes

end Aep.WorkflowScheduler

namespace Aep.WorkflowScheduler

open RuntimeStore

section Results

variable (platform : Platform)

def FAILURE_DETAIL_FIELDS : List String :=
  ["reason", "path", "declaredMaxBytesHint", "blobSize", "appliedTrustedCeiling", "predicateType",
    "inspectionStrategy", "evaluationComplete", "operation", "phase", "category", "errno"]

def isBoundedText (limit : Nat) : Json → Bool
  | .str text => text ≠ "" ∧ text.length ≤ limit
  | _ => false

def isNonNegative : Json → Bool
  | .int value => 0 ≤ value
  | _ => false

def isBool : Json → Bool
  | .bool _ => true
  | _ => false

def checkFields (details : Record) (fields : List String) (valid : Json → Bool) (rule : String) : Except PyError Unit :=
  match fields.find? fun field => !valid (details.field field) with
  | some field => .error (valueError ("failure details " ++ field ++ " must be " ++ rule))
  | none => .ok ()

def orNull (valid : Json → Bool) (value : Json) : Bool := value = .null ∨ valid value

def presentIn (details : Record) (fields : List String) : List String := fields.filter (· ∈ details.keys)

def validateFailureDetails (details : Record) : Except PyError Unit := do
  Result.raiseIf (8 < details.length) (valueError "failure details must contain at most eight properties")
  Result.raiseIf (∃ field ∈ details.keys, field ∉ FAILURE_DETAIL_FIELDS)
    (valueError "failure details contain unapproved fields")
  checkFields details ["reason", "path", "predicateType", "inspectionStrategy"] (orNull (isBoundedText 4096))
    "bounded text or null"
  checkFields details (presentIn details ["operation", "phase", "category"]) (isBoundedText 128) "bounded text"
  checkFields details ["declaredMaxBytesHint", "blobSize", "appliedTrustedCeiling"] (orNull isNonNegative)
    "a non-negative integer or null"
  checkFields details (presentIn details ["evaluationComplete"]) isBool "boolean"
  checkFields details ["errno"] (orNull isNonNegative) "a non-negative integer or null"

def TaskExecutionResult.validate (result : TaskExecutionResult) : Except PyError Unit :=
  if result.succeeded = true then
    if result.failureClass ≠ none ∨ result.message ≠ none ∨ result.retryNotBefore ≠ none ∨ result.details ≠ none then
      .error (valueError "successful Task result cannot contain failure details")
    else .ok ()
  else if result.approval ≠ none then
    if result.failureClass ≠ none ∨ result.message ≠ none then
      .error (valueError "approval wait cannot also be a failure")
    else .ok ()
  else if result.failureClass = none ∨ result.message = none ∨ result.message = some "" then
    .error (valueError "failed Task result requires classification and message")
  else do
    match result.details with
    | some details => validateFailureDetails details
    | none => .ok ()
    Result.raiseIf (∃ notBefore ∈ result.retryNotBefore,
        result.failureClass ≠ some .recoverable ∨ platform.isRfc3339Timestamp notBefore = false)
      (valueError "retry_not_before requires a recoverable failure and RFC3339 timestamp")

def executorFailure (exceptionName : String) : TaskExecutionResult where
  succeeded := false
  failureClass := some .recoverable
  message := some (platform.strip ("Task executor failed: " ++ exceptionName))

def settle : Executed → TaskExecutionResult
  | .raised exceptionName => executorFailure platform exceptionName
  | .returnedOther => executorFailure platform "TypeError"
  | .returned result =>
    match result.validate platform with
    | .ok () => result
    | .error _ => executorFailure platform "ValueError"

def failureRecord (result : TaskExecutionResult) : Record :=
  let message := (result.message.filter (· ≠ "")).getD "Task execution failed"
  [("class", .str ((result.failureClass.map FailureClass.value).getD "")), ("message", .str message),
    ("retryable", .bool (result.failureClass = some .recoverable))] ++
    (result.retryNotBefore.map fun time => ("retryNotBefore", Json.str time)).toList ++
    (result.details.map fun details => ("details", Json.obj details)).toList

def terminalStatus (result : TaskExecutionResult) : TaskStatus := if result.succeeded then .succeeded else .failed

def terminalEvent (result : TaskExecutionResult) : TaskEvent := if result.succeeded then .succeeded else .failed

def terminalChanges (result : TaskExecutionResult) : Record :=
  if result.succeeded then [] else [("failure", .obj (failureRecord result))]

def terminalEvidence (result : TaskExecutionResult) : Record :=
  ("status", .str (terminalStatus result).value) :: terminalChanges result

end Results

section Diagnostics

def boundedDiagnostic (value : Record) (key : String) : Record :=
  match value.field key with
  | .str text => if text = "" then [] else [(key, .str (text.take 128).toString)]
  | _ => []

def diagnosticErrno (value : Record) : Record :=
  match value.field "errno" with
  | .null => [("errno", .null)]
  | .int errno => if 0 ≤ errno then [("errno", .int errno)] else []
  | _ => []

def safePersistenceDetails (value : Record) : Record :=
  let found : Record := boundedDiagnostic value "operation" ++ boundedDiagnostic value "phase" ++
    boundedDiagnostic value "category" ++ diagnosticErrno value
  ((found.setDefault "operation" (.str "append_execution_event")).setDefault "phase" (.str "unknown")).setDefault
    "category" (.str "store_error")

def lastEight (items : List Json) : List Json := items.drop (items.length - 8)

def appendPersistenceDiagnostic (runtimeObject details : Record) : Except PyError (List Json) := do
  let existing ← iterate ((runtimeObject.get? "persistenceDiagnostics").getD (.arr []))
  return lastEight (existing.filter Json.isMapping ++ [.obj details])

def releasedFence (diagnostic : Record) : Bool :=
  diagnostic.field "operation" = .str "writer_fence" ∧ diagnostic.field "phase" = .str "release"

def canRecoverStart (diagnostic : Record) : Bool :=
  (diagnostic.field "operation" = .str "checkpoint" ∧
    diagnostic.field "phase" ∈ (["temporary_create", "temporary_write", "file_sync", "replace",
      "directory_sync"].map Json.str)) ∨ releasedFence diagnostic

def canAdoptCommittedStart (diagnostic : Record) : Bool :=
  (diagnostic.field "operation" = .str "checkpoint" ∧ diagnostic.field "phase" = .str "directory_sync") ∨
    releasedFence diagnostic

end Diagnostics

end Aep.WorkflowScheduler
