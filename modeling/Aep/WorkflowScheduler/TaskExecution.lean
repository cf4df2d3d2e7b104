import Aep.Library.Program
import Aep.RuntimeStore.Durable
import Aep.WorkflowScheduler.TaskDag

namespace Aep.WorkflowScheduler

open RuntimeStore

/-- What the scheduler leaves to Python's standard library and to the JSON Schema validator. -/
structure Platform where
  uuid5 : String → String
  sha256 : String → String
  strip : String → String
  isRfc3339Timestamp : String → Bool
  /-- The instant of a timestamp, or none where datetime.fromisoformat raises. -/
  instant : String → Option Int
  /-- The path and the message of the first violation of a schema. -/
  violation : String → Record → Option (String × String)
  recursionLimit : Nat

inductive FailureClass where
  | recoverable
  | configuration
  | evaluation
  | policy
  | permanent
  deriving DecidableEq

def FailureClass.value : FailureClass → String
  | .recoverable => "RECOVERABLE"
  | .configuration => "CONFIGURATION"
  | .evaluation => "EVALUATION"
  | .policy => "POLICY"
  | .permanent => "PERMANENT"

structure TaskExecutionResult where
  succeeded : Bool
  failureClass : Option FailureClass := none
  message : Option String := none
  retryNotBefore : Option String := none
  details : Option Record := none
  approval : Option Record := none
  deriving DecidableEq

/-- How an executor ends: with a result, with another value, or with an exception of a named type. -/
inductive Executed where
  | returned (result : TaskExecutionResult)
  | returnedOther
  | raised (exceptionName : String)

/-- The calls of a scheduler or an approval gate that another one can come in between. -/
inductive Call where
  | clock
  /-- The store's own clock. -/
  | now
  | uuid4
  | execute (task : Resource) (running : Record)
  | get (objectId : String)
  | listByWorkflowExecution (workflowExecutionId : String)
  | listByTaskExecution (taskExecutionId : String)
  | store (operation : Operation)

def Call.Answer : Call → Type
  | .clock => Json
  | .now => String
  | .uuid4 => String
  | .execute .. => Executed
  | .get _ => Except PyError (Option Record)
  | .listByWorkflowExecution _ => Except PyError (List Record)
  | .listByTaskExecution _ => Except PyError (List Record)
  | .store _ => Except PyError Reply

abbrev Calls : Interface := ⟨Call, Call.Answer⟩

abbrev Prog (α : Type) : Type := Program Calls PyError α

namespace Prog

def ask (call : Call) : Prog call.Answer := .call call .ret

def fail {α : Type} (error : PyError) : Prog α := .raise error

def check {α : Type} (result : Except PyError α) : Prog α := Program.liftExcept result

def clock : Prog Json := ask .clock

def uuid4 : Prog String := ask .uuid4

def execute (task : Resource) (running : Record) : Prog Executed := ask (.execute task running)

def get (objectId : String) : Prog (Option Record) := do
  let found : Except PyError (Option Record) ← ask (.get objectId)
  check found

def listByWorkflowExecution (workflowExecutionId : String) : Prog (List Record) := do
  let found : Except PyError (List Record) ← ask (.listByWorkflowExecution workflowExecutionId)
  check found

def listByTaskExecution (taskExecutionId : String) : Prog (List Record) := do
  let found : Except PyError (List Record) ← ask (.listByTaskExecution taskExecutionId)
  check found

/-- The record of a reply. No operation that is used so replies with anything else. -/
def record : Except PyError Reply → Prog Record
  | .ok (.record value) => .ret value
  | .ok _ => .cut
  | .error error => .raise error

def store (operation : Operation) : Prog Record := do
  let reply : Except PyError Reply ← ask (.store operation)
  record reply

def updateStatus (objectId status expectedStatus updatedAt : String) (changes : Record) : Prog Record := do
  let now : String ← ask .now
  store (.updateStatus objectId status (some expectedStatus) (some updatedAt) changes now)

def appendTaskExecutionId (workflowExecutionId taskExecutionId updatedAt : String) : Prog Record := do
  let now : String ← ask .now
  store (.appendTaskExecutionId workflowExecutionId taskExecutionId (some updatedAt) now)

def commitTaskExecutionTransition (taskExecutionId status workflowExecutionId : String) (event : Record)
    (expectedStatus updatedAt : String) (changes : Record) : Prog Record := do
  let now : String ← ask .now
  store (.commitTaskExecutionTransition taskExecutionId status workflowExecutionId (.obj event) expectedStatus
    updatedAt changes now)

def tryCatch {α β : Type} (program : Prog α) (next : Except PyError α → Prog β) : Prog β := do
  let result ← Program.attempt program
  next result

def forEach {α : Type} (body : α → Prog Unit) : List α → Prog Unit
  | [] => return ()
  | item :: rest => do
    body item
    forEach body rest

def collect {α β : Type} (body : α → Prog β) : List α → Prog (List β)
  | [] => return []
  | item :: rest => do
    let first ← body item
    return first :: (← collect body rest)

end Prog

def item (fields : Record) (key : String) : Except PyError Json :=
  match fields.get? key with
  | some value => .ok value
  | none => .error (keyError key)

def asDict (value : Json) : Except PyError Record :=
  match value.asRecord? with
  | some fields => .ok fields
  | none => .error (typeError (value.repr ++ " is not a mapping"))

def iterate : Json → Except PyError (List Json)
  | .arr items => .ok items
  | .str text => .ok (text.toList.map fun c => .str (String.singleton c))
  | .obj fields => .ok ((Dict.keys fields).map .str)
  | value => .error (typeError (value.repr ++ " is not iterable"))

def statusOf (record : Record) : Json := record.field "status"

def idOf (record : Record) : String := (record.field "id").text

end Aep.WorkflowScheduler

namespace Aep.WorkflowScheduler

open RuntimeStore

variable (platform : Platform)

section Correlation

def contractError (message : String) : PyError := { errorClass := .observabilityContractError, message }

def requireText (value : Json) (field : String) : Except PyError String :=
  match value.asString?.map platform.strip with
  | none | some "" => .error (contractError (field ++ " must be a non-empty string"))
  | some text => .ok text

/-- The provider-neutral fields propagated across service boundaries. -/
structure CorrelationContext where
  traceId : String
  workflowExecutionId : String
  taskExecutionId : Option String

def optionalText (value : Json) (field : String) : Except PyError (Option String) :=
  if value = .null then .ok none else some <$> requireText platform value field

def fromBoundaryFields (fields : Record) : Except PyError CorrelationContext := do
  let traceId ← requireText platform (fields.field "traceId") "traceId"
  let workflowExecutionId ← requireText platform (fields.field "workflowExecutionId") "workflowExecutionId"
  let taskExecutionId ← optionalText platform (fields.field "taskExecutionId") "taskExecutionId"
  return ⟨traceId, workflowExecutionId, taskExecutionId⟩

def oneIdentity (candidates : List Json) (field : String) : Except PyError String := do
  match ← candidates.mapM fun candidate => requireText platform candidate field with
  | [] => .error (contractError ("conflicting " ++ field ++ " values"))
  | first :: rest =>
    if rest.all (· = first) then .ok first else .error (contractError ("conflicting " ++ field ++ " values"))

def fromRuntimeObject (value : Record) : Except PyError CorrelationContext := do
  let provenance := ((value.field "provenance").asRecord?).getD []
  let kind := value.field "kind"
  let present (candidates : List Json) := candidates.filter (· ≠ .null)
  let workflows := present [
    if kind = .str "WorkflowExecution" then value.field "id" else .null,
    value.field "workflowExecutionId", provenance.field "workflowExecutionId"]
  let tasks := present [
    if kind = .str "TaskExecution" then value.field "id" else .null,
    value.field "taskExecutionId", provenance.field "taskExecutionId"]
  let workflowExecutionId ← oneIdentity platform workflows "workflowExecutionId"
  let taskExecutionId ←
    if tasks = [] then .ok none else some <$> oneIdentity platform tasks "taskExecutionId"
  let traceId ← requireText platform (value.field "traceId") "traceId"
  return ⟨traceId, workflowExecutionId, taskExecutionId⟩

/-- One boundary context against the explicit identity and that of the provenance. -/
def bindCorrelation (context : CorrelationContext) (taskExecutionId : String) (provenance : Record) :
    Except PyError CorrelationContext :=
  let workflow := provenance.field "workflowExecutionId"
  let task := provenance.field "taskExecutionId"
  if context.taskExecutionId ≠ some taskExecutionId then
    .error (contractError "taskExecutionId conflicts with the correlation context")
  else if workflow ≠ .null ∧ workflow ≠ .str context.workflowExecutionId then
    .error (contractError "provenance.workflowExecutionId conflicts with the correlation context")
  else if task ≠ .null ∧ some task ≠ context.taskExecutionId.map Json.str then
    .error (contractError "provenance.taskExecutionId conflicts with the correlation context")
  else .ok context

end Correlation

section Lifecycle

structure NewAttempt where
  executionId : String
  workflowExecutionId : String
  taskRef : Record
  attempt : Int
  correlation : CorrelationContext
  timestamp : String
  provenance : Record
  dependencyTaskExecutionIds : List Json

def taskExecutionRecord (new : NewAttempt) (traceId : String) : Record := [
  ("apiVersion", .str "aep.dev/v1alpha1"), ("kind", .str "TaskExecution"), ("id", .str new.executionId),
  ("traceId", .str traceId), ("createdAt", .str new.timestamp), ("updatedAt", .str new.timestamp),
  ("provenance", .obj new.provenance), ("workflowExecutionId", .str new.workflowExecutionId),
  ("taskRef", .obj new.taskRef), ("attempt", .int new.attempt), ("status", .str "PENDING"),
  ("dependencyTaskExecutionIds", .arr new.dependencyTaskExecutionIds)]

def taskIdentity (taskRef : Record) : Except PyError String := do
  let kind ← item taskRef "kind"
  let name ← item taskRef "name"
  let version ← item taskRef "version"
  return kind.text ++ ":" ++ name.text ++ ":" ++ version.text

def validated (schema : String) (record : Record) (error : String × String → PyError) : Except PyError Unit :=
  match platform.violation schema record with
  | none => .ok ()
  | some violated => .error (error violated)

def invalidTaskReference (violated : String × String) : PyError where
  errorClass := .invalidTaskReferenceError
  message := "invalid Task reference at " ++ violated.1 ++ ": " ++ violated.2

def invalidTaskExecution (violated : String × String) : PyError :=
  valueError ("invalid TaskExecution at " ++ violated.1 ++ ": " ++ violated.2)

def deterministicKey (workflowExecutionId identity : String) (attempt : Int) : String :=
  "task-execution:" ++ workflowExecutionId ++ ":" ++ identity ++ ":" ++ toString attempt

def newTaskExecution (new : NewAttempt) : Except PyError (Record × String) := do
  Result.raiseIf (new.attempt < 1) (valueError "attempt must be positive")
  validated platform "taskRef" new.taskRef invalidTaskReference
  let context ← bindCorrelation new.correlation new.executionId new.provenance
  Result.raiseIf (context.workflowExecutionId ≠ new.workflowExecutionId)
    (valueError "workflow_execution_id conflicts with the correlation context")
  let record := taskExecutionRecord new context.traceId
  let identity ← taskIdentity new.taskRef
  validated platform "taskexecution.schema.json" record invalidTaskExecution
  return (record, deterministicKey new.workflowExecutionId identity new.attempt)

def create (new : NewAttempt) : Prog Record := do
  let (record, key) ← Prog.check (newTaskExecution platform new)
  Prog.store (.create (.obj record) key)

def taskNotFound (executionId : String) : PyError :=
  valueError ("TaskExecution " ++ (Json.str executionId).repr ++ " was not found")

def requireTask (executionId : String) : Prog Record := do
  match ← Prog.get executionId with
  | none => Prog.fail (taskNotFound executionId)
  | some record =>
    if record.field "kind" = .str "TaskExecution" then return record
    else Prog.fail (valueError
      ("runtime object " ++ (Json.str executionId).repr ++ " is not a TaskExecution"))

def retryNotAllowed : PyError where
  errorClass := .taskRetryNotAllowedError
  message := "only failed recoverable TaskExecutions may be retried"

def failureClassOf (record : Record) : Option Json := (record.field "failure").asRecord?.map (·.field "class")

def asInt : Json → Except PyError Int
  | .int value => .ok value
  | value => .error (typeError (value.repr ++ " is not an integer"))

def retryOf (previous : Record) (executionId newExecutionId timestamp : String) : Except PyError NewAttempt := do
  Result.raiseIf (statusOf previous ≠ .str "FAILED" ∨ failureClassOf previous ≠ some (.str "RECOVERABLE"))
    retryNotAllowed
  let provenance ← asDict (← item previous "provenance")
  let context ← fromRuntimeObject platform previous
  let workflowExecutionId ← item previous "workflowExecutionId"
  let taskRef ← asDict (← item previous "taskRef")
  let attempt ← asInt (← item previous "attempt")
  let dependencies ← iterate ((previous.get? "dependencyTaskExecutionIds").getD (.arr []))
  return {
    executionId := newExecutionId
    workflowExecutionId := workflowExecutionId.text
    taskRef
    attempt := attempt + 1
    correlation := { context with taskExecutionId := some newExecutionId }
    timestamp
    provenance := provenance.set "parentId" (.str executionId)
    dependencyTaskExecutionIds := dependencies }

def retry (executionId newExecutionId timestamp : String) : Prog Record := do
  let previous ← requireTask executionId
  let new ← Prog.check (retryOf platform previous executionId newExecutionId timestamp)
  create platform new

end Lifecycle

end Aep.WorkflowScheduler
