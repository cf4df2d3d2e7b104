import Aep.Library.Float64
import Aep.Library.Program
import Aep.Library.Result
import Aep.RuntimeStore.Objects
import Aep.WorkflowScheduler.TaskExecution

namespace Aep.ToolRuntime

open RuntimeStore
open WorkflowScheduler (CorrelationContext)

inductive ToolResultStatus where
  | succeeded
  | failed
  | denied
  | timedOut
  deriving DecidableEq

inductive ToolFailureClass where
  | validation
  | policy
  | timeout
  | adapter
  | startup
  | nonzeroExit
  | boundary
  | notFound
  | io
  | configuration
  deriving DecidableEq

def ToolResultStatus.value : ToolResultStatus → String
  | .succeeded => "SUCCEEDED"
  | .failed => "FAILED"
  | .denied => "DENIED"
  | .timedOut => "TIMED_OUT"

def ToolFailureClass.value : ToolFailureClass → String
  | .validation => "VALIDATION"
  | .policy => "POLICY"
  | .timeout => "TIMEOUT"
  | .adapter => "ADAPTER"
  | .startup => "STARTUP"
  | .nonzeroExit => "NONZERO_EXIT"
  | .boundary => "BOUNDARY"
  | .notFound => "NOT_FOUND"
  | .io => "IO"
  | .configuration => "CONFIGURATION"

structure ToolCaller where
  kind : String
  id : String

def ToolCaller.asRecord (caller : ToolCaller) : Record := [("kind", .str caller.kind), ("id", .str caller.id)]

/-- A request for one non-model Tool execution, with the checks that later code counts on. -/
structure ToolRequest where
  toolRef : Record
  input : Record
  caller : ToolCaller
  capabilities : List String
  timeoutMs : Int
  correlation : CorrelationContext
  positive : 1 ≤ timeoutMs

structure ToolMetrics where
  durationMs : Nat
  cpuMs : Option Nat := none
  memoryBytes : Option Nat := none
  deriving DecidableEq

def ToolMetrics.asRecord (metrics : ToolMetrics) : Record :=
  [("durationMs", .int metrics.durationMs)] ++ (metrics.cpuMs.map fun cpu => ("cpuMs", Json.int cpu)).toList ++
    (metrics.memoryBytes.map fun memory => ("memoryBytes", Json.int memory)).toList

/-- Normalized Tool output and the evidence needed for persistence. -/
structure ToolResult where
  status : ToolResultStatus
  output : Json
  logsRef : Option String
  metrics : ToolMetrics
  startedAt : String
  completedAt : String
  failureClass : Option ToolFailureClass := none
  failureMessage : Option String := none
  started : startedAt ≠ ""
  completed : completedAt ≠ ""
  classified : status = .succeeded ↔ failureClass = none
  deriving DecidableEq

structure Stamp where
  text : String
  written : text ≠ ""

section Reading

def ToolResultStatus.read (value : Json) : Except PyError ToolResultStatus :=
  match [.succeeded, .failed, .denied, .timedOut].find? fun status => Json.str (ToolResultStatus.value status) = value with
  | some status => .ok status
  | none => .error (valueError (value.repr ++ " is not a valid ToolResultStatus"))

def ToolFailureClass.read (value : Json) : Except PyError ToolFailureClass :=
  match [.validation, .policy, .timeout, .adapter, .startup, .nonzeroExit, .boundary, .notFound, .io,
      .configuration].find? fun failure => Json.str (ToolFailureClass.value failure) = value with
  | some failure => .ok failure
  | none => .error (valueError (value.repr ++ " is not a valid ToolFailureClass"))

def readCount (name : String) (value : Json) : Except PyError Nat :=
  match value with
  | .int count => if count < 0 then .error (valueError (name ++ " must not be negative")) else .ok count.toNat
  | _ => .error (typeError (name ++ " must be an integer"))

def readOptionalCount (name : String) (value : Json) : Except PyError (Option Nat) :=
  if value = .null then .ok none else some <$> readCount name value

def readMetrics (metrics : Record) : Except PyError ToolMetrics := do
  let durationMs ←
    match metrics.get? "durationMs" with
    | some value => readCount "duration_ms" value
    | none => .ok 0
  let cpuMs ← readOptionalCount "cpu_ms" (metrics.field "cpuMs")
  let memoryBytes ← readOptionalCount "memory_bytes" (metrics.field "memoryBytes")
  return { durationMs, cpuMs, memoryBytes }

def requiredText (record : Record) (key : String) : Except PyError String :=
  match record.get? key with
  | some (.str text) => .ok text
  | some _ => .error (typeError (key ++ " must be a string"))
  | none => .error (keyError key)

def ToolResult.create (status : ToolResultStatus) (output : Json) (logsRef : Option String) (metrics : ToolMetrics)
    (startedAt completedAt : String) (failureClass : Option ToolFailureClass) (failureMessage : Option String) :
    Except PyError ToolResult :=
  if started : startedAt ≠ "" then
    if completed : completedAt ≠ "" then
      if classified : status = .succeeded ↔ failureClass = none then
        .ok { status, output, logsRef, metrics, startedAt, completedAt, failureClass, failureMessage, started, completed
              classified }
      else if status = .succeeded then .error (valueError "successful results must not include a failure class")
      else .error (valueError "unsuccessful results must include a failure class")
    else .error (valueError "result timing must include started_at and completed_at")
  else .error (valueError "result timing must include started_at and completed_at")

def invocationStatus (invocation : Record) : Except PyError ToolResultStatus :=
  match invocation.get? "resultStatus" with
  | some value => ToolResultStatus.read value
  | none => .error (keyError "resultStatus")

def invocationMetrics (invocation : Record) : Except PyError ToolMetrics :=
  match invocation.get? "metrics" with
  | some (.obj fields) => readMetrics fields
  | some _ => .error (typeError "metrics must be a mapping")
  | none => readMetrics []

def invocationFailureClass (unclassified : Json → Bool) (invocation : Record) :
    Except PyError (Option ToolFailureClass) :=
  if unclassified (invocation.field "failureClass") then .ok none
  else some <$> ToolFailureClass.read (invocation.field "failureClass")

/-- The result that an invocation's record keeps. The tools differ in what they read as no failure class, and in where
they find the logs. -/
def resultFrom (unclassified : Json → Bool) (logs : Record → Json) (invocation : Record) : Except PyError ToolResult := do
  let status ← invocationStatus invocation
  let metrics ← invocationMetrics invocation
  let startedAt ← requiredText invocation "startedAt"
  let completedAt ← requiredText invocation "completedAt"
  let failureClass ← invocationFailureClass unclassified invocation
  ToolResult.create status (invocation.field "output") (logs invocation).asString? metrics startedAt completedAt
    failureClass (mappingField (invocation.field "failure") "message").asString?

end Reading

section Failures

def failureResult (status : ToolResultStatus) (failure : ToolFailureClass) (message : String) (durationMs : Nat)
    (startedAt completedAt : Stamp) (unsuccessful : status ≠ .succeeded) : ToolResult where
  status := status
  output := .null
  logsRef := none
  metrics := { durationMs }
  startedAt := startedAt.text
  completedAt := completedAt.text
  failureClass := some failure
  failureMessage := some message
  started := startedAt.written
  completed := completedAt.written
  classified := ⟨fun succeeded => absurd succeeded unsuccessful, fun wrong => by cases wrong⟩

end Failures

end Aep.ToolRuntime

namespace Aep.ToolRuntime

open RuntimeStore

/-- The Tools that keep their invocations alike. -/
inductive Tool where
  | git
  | filesystem
  | docker
  deriving DecidableEq

inductive Phase where
  | input
  | output
  deriving DecidableEq

structure Platform where
  /-- The messages of the JSON Schema validator for a Tool's input or output. -/
  schemaErrors : Tool → Phase → Json → List String
  /-- `json.dumps` with sorted keys and compact separators. -/
  canonicalText : Json → String
  hexdigest : String → String

/-- An exception: its text, its type, and what the Tool runtime asks of it. -/
structure Raised where
  text : String
  typeName : String
  failureClass : Option ToolFailureClass := none
  isSchemaError : Bool := false

/-- `str(error) or type(error).__name__` -/
def Raised.describe (raised : Raised) : String := if raised.text = "" then raised.typeName else raised.text

/-- What a wait for an execution comes back with. -/
inductive Waited where
  | expired
  | result (result : ToolResult)
  | other (typeName : String)

/-- How a preimage of the workspace is captured, and whether there is anything to restore. -/
inductive Captured where
  | captured (restorable : Bool)
  | outside (raised : Raised)
  | unreadable (raised : Raised)
  | raised (error : PyError)

/-- The calls of an invocation that others can come in between. -/
inductive Effect where
  | clock
  | monotonic
  | authorize (request : ToolRequest)
  | start (request : ToolRequest)
  | wait (timeoutMs : Int)
  | terminate
  | kill
  | cleanup
  | capturePreimage (request : ToolRequest)
  | restorePreimage (request : ToolRequest)
  | create (record : Record) (key : String)
  | get (objectId : String)
  | updateStatus (objectId status updatedAt : String) (changes : Record)

abbrev Effect.Answer : Effect → Type
  | .clock => Stamp
  | .monotonic => ℚ
  | .authorize _ => Except Raised Bool
  | .start _ => Except Raised Unit
  | .wait _ => Except Raised Waited
  | .terminate | .kill | .cleanup => Except Raised Unit
  | .capturePreimage _ => Captured
  | .restorePreimage _ => Except PyError Unit
  | .create _ _ => Except PyError Record
  | .get _ => Option Record
  | .updateStatus _ _ _ _ => Except PyError Record

abbrev Effects : Interface := ⟨Effect, Effect.Answer⟩

abbrev Prog := Program Effects PyError

def ask (effect : Effect) : Prog effect.Answer := Program.perform (ι := Effects) effect

def TERMINATION_GRACE_MS : Int := 100

section InvokeTool

variable (platform : Platform) (tool : Tool) (request : ToolRequest)

theorem failed_unsuccessful : ToolResultStatus.failed ≠ .succeeded := by decide

theorem timedOut_unsuccessful : ToolResultStatus.timedOut ≠ .succeeded := by decide

theorem denied_unsuccessful : ToolResultStatus.denied ≠ .succeeded := by decide

def failure (startedAt : Stamp) (startedClock : ℚ) (status : ToolResultStatus) (unsuccessful : status ≠ .succeeded)
    (classification : ToolFailureClass) (message : String) : Prog ToolResult := do
  let completedAt ← ask .clock
  let now ← ask .monotonic
  return failureResult status classification message (Float64.roundHalfEven ((now - startedClock) * 1000)).toNat startedAt
    completedAt unsuccessful

def schemaMessage (phase : String) (messages : List String) : String :=
  phase ++ " schema validation failed: " ++ String.intercalate "; " messages

def stop : Prog (Except Raised Unit) := do
  match ← ask .terminate with
  | .error raised => return .error raised
  | .ok () =>
    match ← ask (.wait TERMINATION_GRACE_MS) with
    | .error raised => return .error raised
    | .ok .expired => ask .kill
    | .ok _ => return .ok ()

def normalized (startedAt : Stamp) (startedClock : ℚ) : Prog ToolResult := do
  let failed := failure startedAt startedClock .failed (by decide)
  let caught (raised : Raised) :=
    failed (if raised.isSchemaError then .validation else .adapter) raised.describe
  match ← ask (.wait request.timeoutMs) with
  | .error raised => caught raised
  | .ok .expired =>
    match ← stop with
    | .error raised => caught raised
    | .ok () =>
      failure startedAt startedClock .timedOut (by decide) .timeout
        ("adapter exceeded timeout of " ++ toString request.timeoutMs ++ "ms")
  | .ok (.other typeName) => failed .adapter ("adapter returned " ++ typeName ++ ", expected ToolResult")
  | .ok (.result result) =>
    match result.status with
    | .timedOut =>
      match ← stop with
      | .error raised => caught raised
      | .ok () => return result
    | .succeeded =>
      match platform.schemaErrors tool .output result.output with
      | [] => return result
      | messages => failed .validation (schemaMessage "output" messages)
    | _ => return result

def ToolResult.uncleaned (result : ToolResult) (raised : Raised) : ToolResult :=
  let cleanup := "execution cleanup failed: " ++ raised.text
  { result with
    status := .failed
    failureClass := some .adapter
    failureMessage := some <| match result.failureMessage with
      | none | some "" => cleanup
      | some message => message ++ "; " ++ cleanup
    classified := ⟨fun wrong => (by cases wrong), fun wrong => (by cases wrong)⟩ }

/-- Validate, authorize, execute by deadline, and normalize contract failures. Only the authorization may raise. -/
def invokeTool (authorize : Prog (Except Raised Bool)) : Prog (Except Raised ToolResult) := do
  let startedAt ← ask .clock
  let startedClock ← ask .monotonic
  let failed := failure startedAt startedClock .failed (by decide)
  match platform.schemaErrors tool .input (.obj request.input) with
  | [] =>
    match ← authorize with
    | .error raised => return .error raised
    | .ok false =>
      .ok <$> failure startedAt startedClock .denied (by decide) .policy "requested capabilities were denied"
    | .ok true =>
      match ← ask (.start request) with
      | .error raised => .ok <$> failed (raised.failureClass.getD .adapter) raised.describe
      | .ok () =>
        let result ← normalized platform tool request startedAt startedClock
        match ← ask .cleanup with
        | .error raised => return .ok (result.uncleaned raised)
        | .ok () => return .ok result
  | messages => .ok <$> failed .validation (schemaMessage "input" messages)

end InvokeTool

end Aep.ToolRuntime
