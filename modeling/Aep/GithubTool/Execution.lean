import Aep.GithubTool.Client
import Aep.Library.Shape

namespace Aep.GithubTool

section Schemas

variable (platform : Platform)

def readIssueName : String := "readIssue"

def createPullRequestName : String := "createPullRequest"

def repositoryShape : Shape
  | .str value => platform.isRepository value
  | _ => false

def idList : Shape := Shape.uniqueList 1 (Shape.text 1)

def evidenceShape : Shape :=
  Shape.object
    ["policyDecisionId", "taskExecutionId", "workflowExecutionId", "repositoryRevision", "headRevision",
      "evaluationResultIds", "generatedArtifactIds", "commitToolInvocationId", "pushToolInvocationId"]
    [("policyDecisionId", Shape.text 1), ("taskExecutionId", Shape.text 1), ("workflowExecutionId", Shape.text 1),
      ("repositoryRevision", Shape.text 7), ("headRevision", Shape.text 7), ("evaluationResultIds", idList),
      ("generatedArtifactIds", idList), ("pushToolInvocationId", Shape.text 1),
      ("commitToolInvocationId", Shape.text 1)]

def readIssueInput : Shape :=
  Shape.object ["operation", "repository", "issueNumber"]
    [("operation", Shape.const readIssueName), ("repository", repositoryShape platform),
      ("issueNumber", Shape.integer 1)]

def createPullRequestInput : Shape :=
  Shape.object ["operation", "repository", "head", "base", "title", "body", "publicationEvidence"]
    [("operation", Shape.const createPullRequestName), ("repository", repositoryShape platform),
      ("head", Shape.text 1), ("base", Shape.text 1), ("title", Shape.text 1), ("body", Shape.text 0),
      ("issueNumber", Shape.integer 1), ("publicationEvidence", evidenceShape)]

def inputShape : Shape := Shape.oneOf [readIssueInput platform, createPullRequestInput platform]

def attemptShape : Shape :=
  Shape.object ["attempt", "providerRequestId", "classification", "retryable", "retryAfterMs", "outcome"]
    [("attempt", Shape.integer 1), ("providerRequestId", Shape.orNull (Shape.text 0)),
      ("classification", Shape.enum ["SUCCESS", "AUTHENTICATION", "AUTHORIZATION", "VALIDATION", "RATE_LIMIT",
        "PROVIDER", "AMBIGUOUS_MUTATION", "TIMEOUT"]),
      ("retryable", Shape.boolean), ("retryAfterMs", Shape.orNull (Shape.integer 0)),
      ("outcome", Shape.enum ["SUCCEEDED", "FAILED", "TIMED_OUT"])]

def metadataShape : Shape :=
  Shape.object ["traceId", "providerRequestId", "attemptCount", "attempts"]
    [("traceId", Shape.text 1), ("providerRequestId", Shape.orNull (Shape.text 0)), ("attemptCount", Shape.integer 1),
      ("attempts", Shape.list 1 attemptShape)]

def issueShape : Shape :=
  Shape.object ["number", "title", "body", "state", "url", "author", "labels"]
    [("number", Shape.integer 1), ("title", Shape.text 0), ("body", Shape.orNull (Shape.text 0)),
      ("state", Shape.text 0), ("url", Shape.text 1), ("author", Shape.orNull (Shape.text 0)),
      ("labels", Shape.list 0 (Shape.text 0))]

def pullRequestShape : Shape :=
  Shape.object ["number", "url", "head", "base"]
    [("number", Shape.integer 1), ("url", Shape.text 1), ("head", Shape.text 1), ("base", Shape.text 1)]

def readIssueOutput : Shape :=
  Shape.object ["operation", "repository", "issue", "metadata"]
    [("operation", Shape.const readIssueName), ("repository", Shape.text 0), ("issue", issueShape),
      ("metadata", metadataShape)]

def createPullRequestOutput : Shape :=
  Shape.object ["operation", "repository", "pullRequest", "metadata"]
    [("operation", Shape.const createPullRequestName), ("repository", Shape.text 0), ("pullRequest", pullRequestShape),
      ("metadata", metadataShape)]

def outputShape : Shape := Shape.oneOf [readIssueOutput, createPullRequestOutput]

end Schemas

inductive ToolResultStatus where
  | succeeded
  | failed
  | denied
  | timedOut
  deriving DecidableEq

inductive ToolFailureClass where
  | validation
  | policy
  | timeout
  | adapter
  deriving DecidableEq

structure ToolResult where
  status : ToolResultStatus
  output : Json
  durationMs : Int
  startedAt : String
  completedAt : String
  failureClass : Option ToolFailureClass := none
  failureMessage : Option String := none

structure ToolRequest where
  callerKind : String
  callerId : String
  capabilities : List String
  input : Record
  timeoutMs : Int
  traceId : String
  positive : 1 ≤ timeoutMs
  traced : traceId ≠ ""

def ToolRequest.operation (request : ToolRequest) : Json := request.input.field "operation"

def ToolRequest.text (request : ToolRequest) (key : String) : String := (request.input.field key).text

def optionalText (value : Option String) : Json := value.elim .null .str

def optionalInt (value : Option Int) : Json := value.elim .null .int

structure AttemptRecord where
  attempt : Nat
  providerRequestId : Option String
  classification : String
  retryable : Bool
  retryAfterMs : Option Int
  outcome : String

def AttemptRecord.toJson (record : AttemptRecord) : Json := .obj [
  ("attempt", .int record.attempt),
  ("providerRequestId", optionalText record.providerRequestId),
  ("classification", .str record.classification),
  ("retryable", .bool record.retryable),
  ("retryAfterMs", optionalInt record.retryAfterMs),
  ("outcome", .str record.outcome)]

def attemptsJson (attempts : List AttemptRecord) : Json := .arr (attempts.map AttemptRecord.toJson)

section Operation

structure Operation where
  run : ℚ → Run Record
  finished : Option (Except Raised Record) := none
  cancelled : Bool := false
  timedOut : Bool := false
  requestId : Option String := none
  mutationStarted : Bool := false

def seconds (milliseconds : Int) : ℚ := Float64.nearest (milliseconds / 1000)

def Operation.wait (operation : Operation) (timeoutMs : Int) : Prog (Option (Except Raised Record) × Operation) := do
  if operation.timedOut then return (none, operation)
  else if operation.cancelled ∧ operation.finished.isNone then return (none, operation)
  else
    match operation.finished with
    | some result => return (some result, operation)
    | none => do
      let now : ℚ ← ask (.clock .operation)
      let deadline := Float64.add now (seconds timeoutMs)
      let (result, mutationStarted) ← operation.run deadline operation.mutationStarted
      let operation := { operation with mutationStarted }
      match result with
      | .error (.timeout _) => return (none, { operation with timedOut := true })
      | .error error => return (some (.error error), { operation with finished := some (.error error) })
      | .ok value => return (some (.ok value),
          { operation with finished := some (.ok value), requestId := (value.field "requestId").asString? })

end Operation

section Execution

/-- An execution, its current provider operation and what its attempts came to. -/
structure Execution where
  request : ToolRequest
  maxAttempts : Nat
  startedAt : String
  startedClock : ℚ
  current : Option Operation := none
  pending : Bool := false
  terminated : Bool := false
  attempts : List AttemptRecord := []

variable (platform : Platform) (config : GitHubAppConfig)

def startRun (request : ToolRequest) : Except Raised (ℚ → Run Record) :=
  if request.operation = .str readIssueName then
    startReadIssue platform config (request.text "repository") (request.text "issueNumber")
  else
    startCreatePullRequest platform config (request.text "repository") (request.text "head") (request.text "base")
      (request.text "title") (request.text "body")

def startOperation (request : ToolRequest) : Except Raised Operation := do
  let run ← startRun platform config request
  pure { run }

def Execution.result (execution : Execution) (status : ToolResultStatus) (output : Record)
    (failureClass : Option ToolFailureClass) (failureMessage : Option String) : Prog ToolResult := do
  let now : ℚ ← ask (.clock .finished)
  match Float64.roundProduct (Float64.sub now execution.startedClock) 1000 with
  | none => .raise infinite
  | some durationMs => do
    let completedAt : String ← ask .utcnow
    return {
      status
      output := .obj output
      durationMs := max 0 durationMs
      startedAt := execution.startedAt
      completedAt
      failureClass
      failureMessage }

def Execution.record (execution : Execution) (attempt : AttemptRecord) : Execution :=
  { execution with attempts := execution.attempts ++ [attempt] }

def Execution.settled (execution : Execution) : Execution := { execution with pending := false }

def Execution.failed (execution : Execution) (attempt : Nat) (error : ProviderError) : Execution :=
  execution.settled.record
    ⟨attempt, error.requestId, error.classification.value, error.retryable, error.retryAfterMs, "FAILED"⟩

def Execution.named (execution : Execution) : Record :=
  [("operation", execution.request.operation), ("repository", execution.request.input.field "repository")]

def failureRecord (execution : Execution) (error : ProviderError) : Record := [
  ("category", .str error.classification.value),
  ("mutationState", .str (if error.classification = .ambiguousMutation then "UNKNOWN" else "NOT_ATTEMPTED")),
  ("retryable", .bool error.retryable),
  ("retryAfterMs", optionalInt error.retryAfterMs),
  ("attemptCount", .int execution.attempts.length),
  ("providerRequestId", optionalText error.requestId),
  ("traceId", .str execution.request.traceId),
  ("attempts", attemptsJson execution.attempts)]

def Execution.failure (execution : Execution) (error : ProviderError) : Prog ToolResult :=
  execution.result .failed (execution.named ++ [("failure", .obj (failureRecord execution error))]) (some .adapter)
    (some error.message)

def timeoutRecord (execution : Execution) (ambiguous : Bool) (requestId : Option String) : Record := [
  ("category", .str "TIMEOUT"),
  ("mutationState", .str (if ambiguous then "UNKNOWN" else "NOT_ATTEMPTED")),
  ("retryable", .bool (!ambiguous)),
  ("ambiguousPublication", .bool ambiguous),
  ("attemptCount", .int execution.attempts.length),
  ("providerRequestId", optionalText requestId),
  ("traceId", .str execution.request.traceId),
  ("attempts", attemptsJson execution.attempts)]

/-- The result when the operation did not end in time. Waiting for it once more does not run it. -/
def Execution.timeout (execution : Execution) (attempt : Nat) : Prog ToolResult := do
  match execution.current with
  | none => .raise (.other "provider timeout without an active operation")
  | some operation => do
    let cancelled : Operation := { operation with cancelled := true }
    let (_, operation) ← cancelled.wait 100
    let ambiguous := decide (execution.request.operation = .str createPullRequestName) && operation.mutationStarted
    let execution := execution.record ⟨attempt, operation.requestId, "TIMEOUT", !ambiguous, none, "TIMED_OUT"⟩
    execution.result .timedOut (execution.named ++ [("failure", .obj (timeoutRecord execution ambiguous operation.requestId))])
      (some .timeout) (some ("GitHub provider exceeded timeout of " ++ toString execution.request.timeoutMs ++ "ms"))

def metadata (execution : Execution) (providerRequestId : Json) : Json := .obj [
  ("traceId", .str execution.request.traceId),
  ("providerRequestId", optionalText providerRequestId.asString?),
  ("attemptCount", .int execution.attempts.length),
  ("attempts", attemptsJson execution.attempts)]

def required (value : Record) (key : String) : Except Raised Json :=
  match value.get? key with
  | some found => .ok found
  | none => .error (.other ("'" ++ key ++ "'"))

def issueOutput (execution : Execution) (value : Record) : Except Raised Record := do
  let number ← required value "number"
  let title ← required value "title"
  let state ← required value "state"
  let url ← required value "url"
  pure [("operation", .str readIssueName), ("repository", execution.request.input.field "repository"),
    ("issue", .obj [("number", number), ("title", title), ("body", value.field "body"), ("state", state),
      ("url", url), ("author", value.field "author"), ("labels", (value.get? "labels").getD (.arr []))]),
    ("metadata", metadata execution (value.field "requestId"))]

def pullRequestOutput (execution : Execution) (value : Record) : Except Raised Record := do
  let number ← required value "number"
  let url ← required value "url"
  pure [("operation", .str createPullRequestName), ("repository", execution.request.input.field "repository"),
    ("pullRequest", .obj [("number", number), ("url", url), ("head", execution.request.input.field "head"),
      ("base", execution.request.input.field "base")]),
    ("metadata", metadata execution (value.field "requestId"))]

def Execution.success (execution : Execution) (attempt : Nat) (value : Record) : Prog ToolResult := do
  let execution := execution.record
    ⟨attempt, (value.field "requestId").asString?, "SUCCESS", false, none, "SUCCEEDED"⟩
  let output ← Program.liftExcept (if execution.request.operation = .str readIssueName then issueOutput execution value
    else pullRequestOutput execution value)
  execution.result .succeeded output none none

/-- An exception that is not the provider's own becomes one of no special class. -/
def providerErrorOf : Raised → ProviderError
  | .provider error => error
  | .timeout message => { classification := .provider, message }
  | .other text => { classification := .provider, message := text }

def Execution.attemptOnce (execution : Execution) (remaining : Int) :
    Prog (Option (Except Raised Record) × Execution) := do
  let started := if execution.pending then execution.current.elim (.error (.other "")) .ok
    else startOperation platform config execution.request
  match started with
  | .error error => return (some (.error error), execution)
  | .ok operation => do
    let (outcome, operation) ← operation.wait remaining
    return (outcome, { execution with current := some operation, pending := true })

def remainingOf (deadline now : ℚ) : Except Raised Int :=
  match Float64.truncProduct (Float64.sub deadline now) 1000 with
  | none => .error infinite
  | some remaining => .ok (max 0 remaining)

def Execution.attemptLoop (deadline : ℚ) : Nat → Execution → Prog (Option ToolResult × Execution)
  | 0, _ => .raise (.other "GitHub attempt loop did not return")
  | more + 1, execution => do
    let attempt := execution.attempts.length + 1
    let now : ℚ ← ask (.clock .attempt)
    let remaining ← Program.liftExcept (remainingOf deadline now)
    if remaining < 1 then return (none, execution)
    else do
      let (outcome, execution) ← execution.attemptOnce platform config remaining
      match outcome with
      | none => return (some (← execution.timeout attempt), execution)
      | some (.ok value) => return (some (← execution.settled.success attempt value), execution)
      | some (.error raised) => do
        let error := providerErrorOf raised
        let execution := execution.failed attempt error
        if error.retryable ∧ attempt < execution.maxAttempts then do
          let now : ℚ ← ask (.clock .retry)
          let remaining ← Program.liftExcept (remainingOf deadline now)
          if remaining ≤ error.retryAfterMs.getD 0 then return (some (← execution.failure error), execution)
          else do
            let _ : Unit ← ask (.waitRetry (error.retryAfterMs.getD 0))
            attemptLoop deadline more execution
        else return (some (← execution.failure error), execution)

def Execution.wait (execution : Execution) (timeoutMs : Int) : Prog (Option ToolResult × Execution) := do
  if execution.terminated then return (none, execution)
  else do
    let now : ℚ ← ask (.clock .waiting)
    let deadline := Float64.add now (seconds timeoutMs)
    execution.attemptLoop platform config deadline (execution.maxAttempts - execution.attempts.length)

def Execution.terminate (execution : Execution) : Execution :=
  { execution with
    terminated := true
    current := execution.current.map fun operation => { operation with cancelled := true } }

end Execution

section Runtime

variable (platform : Platform) (config : GitHubAppConfig) (maxReadAttempts : Nat)

def startExecution (request : ToolRequest) : Prog Execution := do
  let startedAt : String ← ask .utcnow
  let startedClock : ℚ ← ask (.clock .started)
  return {
    request
    maxAttempts := if request.operation = .str readIssueName then maxReadAttempts else 1
    startedAt
    startedClock }

def runtimeFailure (startedAt : String) (startedClock : ℚ) (status : ToolResultStatus)
    (classification : ToolFailureClass) (message : String) : Prog ToolResult := do
  let completedAt : String ← ask .utcnow
  let now : ℚ ← ask .monotonic
  return {
    status
    output := .null
    durationMs := max 0 (Float64.roundHalfEven (Float64.nearest (Float64.sub now startedClock * 1000)))
    startedAt
    completedAt
    failureClass := some classification
    failureMessage := some message }

def Raised.text : Raised → String
  | .timeout message => message
  | .provider error => error.message
  | .other text => text

def normalize (request : ToolRequest) (startedAt : String) (startedClock : ℚ) :
    Except Raised (Option ToolResult × Execution) → Prog ToolResult
  | .error error => runtimeFailure startedAt startedClock .failed .adapter error.text
  | .ok (none, execution) => do
    let _ ← execution.terminate.wait platform config 100
    runtimeFailure startedAt startedClock .timedOut .timeout
      ("adapter exceeded timeout of " ++ toString request.timeoutMs ++ "ms")
  | .ok (some result, execution) =>
    match result.status with
    | .timedOut => do
      let _ ← execution.terminate.wait platform config 100
      return result
    | .succeeded =>
      if outputShape result.output then return result
      else runtimeFailure startedAt startedClock .failed .validation
        ("output schema validation failed: " ++ platform.violations result.output)
    | _ => return result

def invokeTool (request : ToolRequest) : Prog ToolResult := do
  let startedAt : String ← ask .utcnow
  let startedClock : ℚ ← ask .monotonic
  if ¬inputShape platform (.obj request.input) then
    runtimeFailure startedAt startedClock .failed .validation
      ("input schema validation failed: " ++ platform.violations (.obj request.input))
  else do
    let authorized : Except String Bool ← ask .authorize
    match authorized with
    | .error text => .raise (.other text)
    | .ok false => runtimeFailure startedAt startedClock .denied .policy "requested capabilities were denied"
    | .ok true => do
      let execution ← startExecution maxReadAttempts request
      let waited : Except Raised (Option ToolResult × Execution) ←
        Program.attempt (execution.wait platform config request.timeoutMs)
      normalize platform config request startedAt startedClock waited

end Runtime

end Aep.GithubTool
