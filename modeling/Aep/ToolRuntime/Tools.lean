import Aep.ToolRuntime.Invoke

namespace Aep.ToolRuntime

open RuntimeStore

/-- The arguments of one call of an invocation id, with the token that the call draws. -/
structure ToolCall where
  taskExecutionId : String
  request : ToolRequest
  policyDecisionId : Option String
  ownerToken : String

section Requests

variable (call : ToolCall)

def optionalText (value : Option String) : Json := (value.map Json.str).getD .null

def ToolCall.immutableInputs : Record := [
  ("taskExecutionId", .str call.taskExecutionId), ("toolRef", .obj call.request.toolRef),
  ("input", .obj call.request.input), ("caller", .obj call.request.caller.asRecord),
  ("capabilities", .arr (call.request.capabilities.map Json.str)), ("timeoutMs", .int call.request.timeoutMs),
  ("correlation", .obj [("traceId", .str call.request.correlation.traceId),
    ("workflowExecutionId", .str call.request.correlation.workflowExecutionId),
    ("taskExecutionId", optionalText call.request.correlation.taskExecutionId)]),
  ("policyDecisionId", optionalText call.policyDecisionId)]

def ToolCall.tracedInputs : Record := [
  ("taskExecutionId", .str call.taskExecutionId), ("toolRef", .obj call.request.toolRef),
  ("input", .obj call.request.input), ("caller", .obj call.request.caller.asRecord),
  ("capabilities", .arr (call.request.capabilities.map Json.str)), ("timeoutMs", .int call.request.timeoutMs),
  ("traceId", .str call.request.correlation.traceId), ("policyDecisionId", optionalText call.policyDecisionId)]

def ToolCall.fingerprinted : Tool → Record
  | .git => call.immutableInputs
  | .filesystem | .docker => call.tracedInputs

def requestFingerprint (platform : Platform) (tool : Tool) : String :=
  "sha256:" ++ platform.hexdigest (platform.canonicalText (.obj (call.fingerprinted tool)))

end Requests

section Records

variable (invocationId : String) (call : ToolCall) (fingerprint timestamp : String)

def pendingRecord (revision : Record) : Record :=
  [("apiVersion", .str "aep.dev/v1alpha1"), ("kind", .str "ToolInvocation"), ("id", .str invocationId),
    ("traceId", .str call.request.correlation.traceId), ("createdAt", .str timestamp), ("updatedAt", .str timestamp),
    ("provenance", .obj ([("actor", .str "tool-runtime"),
      ("caller", .str (call.request.caller.kind ++ ":" ++ call.request.caller.id)),
      ("workflowExecutionId", .str call.request.correlation.workflowExecutionId),
      ("taskExecutionId", .str call.taskExecutionId), ("resourceRefs", .arr [.obj call.request.toolRef])] ++ revision)),
    ("taskExecutionId", .str call.taskExecutionId), ("toolRef", .obj call.request.toolRef), ("status", .str "PENDING"),
    ("input", .obj call.request.input), ("capabilities", .arr (call.request.capabilities.map Json.str)),
    ("requestFingerprint", .str fingerprint), ("ownerToken", .str call.ownerToken)]

def agentCaller : Record :=
  if call.request.caller.kind = "AgentInvocation" then [("agentInvocationId", .str call.request.caller.id)] else []

def policyDecision : Record := (call.policyDecisionId.map fun id => ("policyDecisionId", Json.str id)).toList

def gitPendingRecord : Except PyError Record :=
  match call.request.input.get? "expectedRevision" with
  | none => .error (keyError "expectedRevision")
  | some revision =>
    .ok (pendingRecord invocationId call fingerprint timestamp [("repositoryRevision", revision)] ++ agentCaller call ++
      policyDecision call)

def filesystemPendingRecord : Except PyError Record :=
  .ok (pendingRecord invocationId call fingerprint timestamp [] ++ agentCaller call ++ policyDecision call)

def dockerPendingRecord : Except PyError Record :=
  .ok (pendingRecord invocationId call fingerprint timestamp [] ++ policyDecision call)

def Tool.pendingRecord : Tool → Except PyError Record
  | .git => gitPendingRecord invocationId call fingerprint timestamp
  | .filesystem => filesystemPendingRecord invocationId call fingerprint timestamp
  | .docker => dockerPendingRecord invocationId call fingerprint timestamp

end Records

section Changes

def unmapped (failure : ToolFailureClass) : PyError := keyError failure.value

def gitRuntimeFailureClass : ToolFailureClass → Except PyError String
  | .validation => .ok "CONFIGURATION"
  | .policy | .boundary => .ok "POLICY"
  | .timeout | .io | .startup => .ok "RECOVERABLE"
  | .notFound | .nonzeroExit | .adapter => .ok "PERMANENT"
  | .configuration => .error (unmapped .configuration)

def filesystemRuntimeFailureClass : ToolFailureClass → Except PyError String
  | .validation => .ok "CONFIGURATION"
  | .policy | .boundary => .ok "POLICY"
  | .timeout | .io => .ok "RECOVERABLE"
  | .adapter | .notFound => .ok "PERMANENT"
  | failure => .error (unmapped failure)

def dockerRuntimeFailureClass : ToolFailureClass → Except PyError String
  | .validation | .configuration => .ok "CONFIGURATION"
  | .policy | .boundary => .ok "POLICY"
  | .timeout | .startup | .io => .ok "RECOVERABLE"
  | .adapter | .notFound => .ok "PERMANENT"
  | .nonzeroExit => .ok "EVALUATION"

def hexadecimal (text : List Char) : Bool := text.all (· ∈ "0123456789abcdef".toList)

def contentAddressRef (value : String) : Bool :=
  let algorithm := value.toList.takeWhile (· ≠ ':')
  match value.toList.drop algorithm.length with
  | [] => false
  | _ :: digest =>
    (algorithm = "sha256".toList && digest.length = 64 || algorithm = "sha512".toList && digest.length = 128) &&
      hexadecimal digest

/-- The fields of a terminal record. The tools differ in where logs go and in how a failure is classified. -/
def changesOf (result : ToolResult) (logs : String → String) (classify : ToolFailureClass → Except PyError String)
    (retryable : List ToolFailureClass) : Except PyError Record := do
  let changes : Record :=
    [("resultStatus", .str result.status.value), ("output", result.output), ("metrics", .obj result.metrics.asRecord),
      ("startedAt", .str result.startedAt)] ++ (result.logsRef.map fun ref => (logs ref, Json.str ref)).toList
  match result.failureClass with
  | none => return changes
  | some failure =>
    let runtimeClass ← classify failure
    let message :=
      match result.failureMessage with
      | none | some "" => failure.value
      | some message => message
    return changes ++ [("failureClass", .str failure.value),
      ("failure", .obj [("class", .str runtimeClass), ("message", .str message),
        ("retryable", .bool (failure ∈ retryable))])]

def gitTerminalChanges (result : ToolResult) : Except PyError Record :=
  changesOf result (fun ref => if contentAddressRef ref then "logsAddress" else "adapterLogsRef") gitRuntimeFailureClass
    [.io, .timeout]

def filesystemTerminalChanges (result : ToolResult) : Except PyError Record :=
  changesOf result (fun _ => "logsAddress") filesystemRuntimeFailureClass [.io, .timeout]

def dockerTerminalChanges (result : ToolResult) : Except PyError Record :=
  changesOf result (fun _ => "logsAddress") dockerRuntimeFailureClass [.io, .timeout, .startup]

def Tool.terminalChanges : Tool → ToolResult → Except PyError Record
  | .git => gitTerminalChanges
  | .filesystem => filesystemTerminalChanges
  | .docker => dockerTerminalChanges

end Changes

section Results

def falsy : Json → Bool
  | .null | .bool false | .str "" | .arr [] | .obj [] => true
  | .int value => value = 0
  | .float value => value = 0
  | _ => false

def gitLogs (invocation : Record) : Json :=
  if falsy (invocation.field "logsAddress") then invocation.field "adapterLogsRef" else invocation.field "logsAddress"

def gitResultFromInvocation : Record → Except PyError ToolResult := resultFrom falsy gitLogs

def filesystemResultFromInvocation : Record → Except PyError ToolResult :=
  resultFrom (· = .null) (·.field "logsAddress")

def dockerResultFromInvocation : Record → Except PyError ToolResult := resultFrom (· = .null) (·.field "logsAddress")

def Tool.resultFromInvocation : Tool → Record → Except PyError ToolResult
  | .git => gitResultFromInvocation
  | .filesystem => filesystemResultFromInvocation
  | .docker => dockerResultFromInvocation

def Tool.logs : Tool → Record → Json
  | .git => gitLogs
  | .filesystem | .docker => (·.field "logsAddress")

end Results

end Aep.ToolRuntime

namespace Aep.ToolRuntime

open RuntimeStore
open WorkflowScheduler (bindCorrelation)

abbrev Returned := ToolResult × Record

def Tool.key : Tool → String → String
  | .git, invocationId => "git-tool-invocation:" ++ invocationId
  | .filesystem, invocationId => "filesystem-tool-invocation:" ++ invocationId
  | .docker, invocationId => "docker-tool-invocation:" ++ invocationId

def identityConflict (invocationId : String) : PyError where
  errorClass := .invocationIdentityConflictError
  message := "invocation id " ++ (Json.str invocationId).repr ++ " is already bound to different immutable request inputs"

def inProgress (invocationId : String) : PyError where
  errorClass := .invocationInProgressError
  message := "identical invocation " ++ (Json.str invocationId).repr ++ " is still in progress"

def hasEnded (invocation : Record) : Bool :=
  invocation.field "status" = .str "SUCCEEDED" || invocation.field "status" = .str "FAILED"

def terminalStatus (result : ToolResult) : String := if result.status = .succeeded then "SUCCEEDED" else "FAILED"

section Shared

variable (platform : Platform) (tool : Tool) (invocationId : String) (call : ToolCall)

/-- Whether the call has created the invocation, or found it created. -/
inductive Begun where
  | owner (startedAt : Stamp)
  | other (created : Record)

def begun : Prog Begun := do
  let _ ← Program.liftExcept (bindCorrelation call.request.correlation call.taskExecutionId [])
  let fingerprint := requestFingerprint call platform tool
  let startedAt ← ask .clock
  let pending ← Program.liftExcept (tool.pendingRecord invocationId call fingerprint startedAt.text)
  let created ← Program.liftExcept (← ask (.create pending (tool.key invocationId)))
  if created.field "requestFingerprint" ≠ .str fingerprint then .raise (identityConflict invocationId)
  else if created.field "ownerToken" ≠ .str call.ownerToken then return .other created
  else return .owner startedAt

def replayed (prior : Record) : Prog Returned := do
  let result ← Program.liftExcept (tool.resultFromInvocation prior)
  return (result, prior)

/-- Poll for a terminal record until the deadline. A run is followed for a number of rounds. -/
def poll (deadline : ℚ) : Nat → Prog (Option Returned)
  | 0 => .cut
  | rounds + 1 => do
    let now ← ask .monotonic
    if now < deadline then
      match ← ask (.get invocationId) with
      | some prior => if hasEnded prior then some <$> replayed tool prior else poll deadline rounds
      | none => poll deadline rounds
    else return none

def awaitTerminal (waitSeconds : ℚ) (rounds : Nat) : Prog Returned := do
  let now ← ask .monotonic
  match ← poll tool invocationId (now + waitSeconds) rounds with
  | some found => return found
  | none => .raise (inProgress invocationId)

def unexpectedFailure (startedAt : Stamp) (failureClass : ToolFailureClass) (raised : Raised) : Prog ToolResult := do
  let completedAt ← ask .clock
  return failureResult .failed failureClass raised.describe 0 startedAt completedAt failed_unsuccessful

/-- What the adapter makes of the request, or an exception of the authorization. -/
def ownResult (startedAt : Stamp) (authorize : Prog (Except Raised Bool)) : Prog ToolResult := do
  match ← invokeTool platform tool call.request authorize with
  | .ok result => return result
  | .error raised => unexpectedFailure startedAt .adapter raised

end Shared

namespace GitTool

def replayWaitSeconds : ℚ := 1

variable (platform : Platform) (invocationId : String) (call : ToolCall) (rounds : Nat)

def invoke : Prog Returned := do
  match ← begun platform .git invocationId call with
  | .other created =>
    if hasEnded created then replayed .git created else awaitTerminal .git invocationId replayWaitSeconds rounds
  | .owner startedAt =>
    let result ← ownResult platform .git call startedAt (ask (.authorize call.request))
    let changes ← Program.liftExcept (gitTerminalChanges result)
    let persisted ← Program.liftExcept
      (← ask (.updateStatus invocationId (terminalStatus result) result.completedAt changes))
    return (result, persisted)

end GitTool

namespace FilesystemTool

def INVOCATION_REPLAY_WAIT_SECONDS : ℚ := 10

/-- What came of the authorization: it is not asked for an input that is not valid. -/
inductive Authorized where
  | unasked
  | verdict (authorized : Bool)
  | failed (result : ToolResult)

/-- Whether there is a preimage to restore, or why there is none. -/
inductive Preimage where
  | captured (restorable : Bool)
  | failed (result : ToolResult)

variable (platform : Platform) (invocationId : String) (call : ToolCall) (rounds : Nat)

def authorization (startedAt : Stamp) : Prog Authorized :=
  match platform.schemaErrors .filesystem .input (.obj call.request.input) with
  | [] => do
    match ← ask (.authorize call.request) with
    | .ok authorized => return .verdict authorized
    | .error raised => .failed <$> unexpectedFailure startedAt .adapter raised
  | _ => return .unasked

def preimage (startedAt : Stamp) : Authorized → Prog Preimage
  | .verdict true => do
    match ← ask (.capturePreimage call.request) with
    | .captured restorable => return .captured restorable
    | .outside raised => .failed <$> unexpectedFailure startedAt .boundary raised
    | .unreadable raised => .failed <$> unexpectedFailure startedAt .io raised
    | .raised error => .raise error
  | _ => return .captured false

def executed (startedAt : Stamp) : Authorized → Preimage → Prog ToolResult
  | .failed result, _ => return result
  | _, .failed result => return result
  | .unasked, .captured _ => ownResult platform .filesystem call startedAt (ask (.authorize call.request))
  | .verdict authorized, .captured _ => ownResult platform .filesystem call startedAt (return .ok authorized)

/-- The error of an update that failed. What the adapter has changed is restored first. -/
def unpersisted (result : ToolResult) (error : PyError) : Preimage → Prog Returned
  | .captured true =>
    if result.status = .succeeded then do
      Program.liftExcept (← ask (.restorePreimage call.request))
      .raise error
    else .raise error
  | _ => .raise error

def invoke : Prog Returned := do
  match ← begun platform .filesystem invocationId call with
  | .other created =>
    if hasEnded created then replayed .filesystem created
    else awaitTerminal .filesystem invocationId INVOCATION_REPLAY_WAIT_SECONDS rounds
  | .owner startedAt =>
    let authorized ← authorization platform call startedAt
    let before ← preimage call startedAt authorized
    let result ← executed platform call startedAt authorized before
    match filesystemTerminalChanges result with
    | .error error => unpersisted call result error before
    | .ok changes =>
      match ← ask (.updateStatus invocationId (terminalStatus result) result.completedAt changes) with
      | .ok persisted => return (result, persisted)
      | .error error => unpersisted call result error before

end FilesystemTool

namespace DockerValidationTool

/-- The grace that a Tool gives to the owners of its invocations. -/
structure Grace where
  replayGraceMs : Int
  nonneg : 0 ≤ replayGraceMs

variable (platform : Platform) (grace : Grace) (invocationId : String) (call : ToolCall) (rounds : Nat)

def reread (error : PyError) : Prog Returned :=
  if error.isRuntimeStoreError then do
    match ← ask (.get invocationId) with
    | some prior => if hasEnded prior then replayed .docker prior else .raise error
    | none => .raise error
  else .raise error

def persist (result : ToolResult) : Prog Returned := do
  let changes ← Program.liftExcept (dockerTerminalChanges result)
  match ← ask (.updateStatus invocationId (terminalStatus result) result.completedAt changes) with
  | .ok persisted => return (result, persisted)
  | .error error => reread invocationId error

def abandonedMessage : String :=
  "invocation owner did not persist terminal evidence before the request deadline"

def deadlineMs : Int := call.request.timeoutMs + grace.replayGraceMs

def startedAtOf (prior : Option Record) (timestamp : Stamp) : String :=
  match prior.bind fun record => (record.field "createdAt").asString? with
  | some createdAt => createdAt
  | none => timestamp.text

def abandoned (prior : Option Record) (timestamp : Stamp) : Except PyError ToolResult :=
  ToolResult.create .timedOut .null none { durationMs := (deadlineMs grace call).toNat } (startedAtOf prior timestamp)
    timestamp.text (some .timeout) (some abandonedMessage)

def awaitTerminal : Prog Returned := do
  let now ← ask .monotonic
  match ← poll .docker invocationId (now + deadlineMs grace call / 1000) rounds with
  | some found => return found
  | none =>
    let prior ← ask (.get invocationId)
    let timestamp ← ask .clock
    let result ← Program.liftExcept (abandoned grace call prior timestamp)
    persist invocationId result

def invoke : Prog Returned := do
  match ← begun platform .docker invocationId call with
  | .other created =>
    if hasEnded created then replayed .docker created else awaitTerminal grace invocationId call rounds
  | .owner startedAt =>
    let result ← ownResult platform .docker call startedAt (ask (.authorize call.request))
    persist invocationId result

end DockerValidationTool

def Tool.invoke (platform : Platform) (grace : DockerValidationTool.Grace) (invocationId : String) (call : ToolCall)
    (rounds : Nat) : Tool → Prog Returned
  | .git => GitTool.invoke platform invocationId call rounds
  | .filesystem => FilesystemTool.invoke platform invocationId call rounds
  | .docker => DockerValidationTool.invoke platform grace invocationId call rounds

end Aep.ToolRuntime
