import Aep.AgentInvocation.Inputs
import Aep.OpenaiModelProvider.AttemptCount

namespace Aep.AgentInvocation

open RuntimeStore
open WorkflowScheduler (CorrelationContext)
open OpenaiModelProvider (ModelInvocationError attemptCount)

/-- Normalized model output and execution evidence. An output that is no JSON value comes with the reason. -/
structure ModelResponse where
  output : Except String Json
  inputTokens : Int
  outputTokens : Int
  latencyMs : Int
  providerMetadata : Record := []
  cost : Option Json := none
  costSource : Option String := none

/-- How the adapter ends. -/
inductive Invoked where
  | returned (response : ModelResponse)
  | failed (error : ModelInvocationError)
  | raised (error : PyError)

/-- A fully assembled input plus its immutable Model configuration. -/
structure ModelRequest where
  configuration : ModelConfiguration
  input : Record
  correlation : CorrelationContext

structure Reservation where
  effectiveOutputTokenLimit : Option Int
  maxProviderAttempts : Option Int

structure Preflight where
  estimatedInputTokens : Int
  configuredOutputTokenLimit : Option Int
  configuredProviderAttempts : Int
  timestamp : String

structure Charge where
  inputTokens : Int
  outputTokens : Int
  latencyMs : Int
  cost : Option Json
  costStatus : Option String
  invocationCount : Int
  unreconciledDispatchedAttempts : Int
  timestamp : String

/-- The calls of an invocation that another one or a crash can come in between. -/
inductive Effect where
  | clock
  | emit (eventName : String) (runtimeObject : Record) (timestamp : String) (attributes : Option Record)
  | preflight (arguments : Preflight)
  | release
  | record (charge : Charge)
  | invoke (invocationId modelInvocationId : String) (request : ModelRequest)
  | get (objectId : String)
  | claim (key : String) (value : Record)
  | create (record : Record) (deterministicKey : String)
  | updateStatus (objectId status updatedAt : String) (changes : Record)

def Effect.Answer : Effect → Type
  | .clock => Except PyError String
  | .emit .. => Except PyError Unit
  | .preflight _ => Except PyError Reservation
  | .release => Except PyError Unit
  | .record _ => Except PyError Record
  | .invoke .. => Invoked
  | .get _ => Option Record
  | .claim .. => Except PyError (Bool × Json)
  | .create .. => Except PyError Record
  | .updateStatus .. => Except PyError Record

abbrev Effects : Interface := ⟨Effect, Effect.Answer⟩

abbrev Prog (α : Type) : Type := Program Effects PyError α

namespace Prog

def ask (effect : Effect) : Prog effect.Answer := .call effect .ret

def fail {α : Type} (error : PyError) : Prog α := .raise error

def check {α : Type} (result : Except PyError α) : Prog α := Program.liftExcept result

def get (objectId : String) : Prog (Option Record) := ask (.get objectId)

def clock : Prog String := .call .clock check

def emit (eventName : String) (runtimeObject : Record) (timestamp : String) (attributes : Option Record) : Prog Unit :=
  .call (.emit eventName runtimeObject timestamp attributes) check

def preflight (arguments : Preflight) : Prog Reservation := .call (.preflight arguments) check

def release : Prog Unit := .call .release check

def charge (charge : Charge) : Prog Record := .call (.record charge) check

def updateStatus (objectId status updatedAt : String) (changes : Record) : Prog Record :=
  .call (.updateStatus objectId status updatedAt changes) check

def attempt {α : Type} (program : Prog α) : Prog (Except PyError α) := Program.attempt program

def forEach {α : Type} (body : α → Prog Unit) : List α → Prog Unit
  | [] => return ()
  | item :: rest => do
    body item
    forEach body rest

end Prog

section Parts

variable (platform : Platform) (request : Request) (prepared : Prepared)

def isFinished (record : Record) : Bool :=
  match record.field "status" with
  | .str status => status ∈ ["SUCCEEDED", "FAILED", "CANCELLED"]
  | _ => false

def validateExistingAgent (existing expected : Record) : Except PyError Unit :=
  let fields := ["id", "traceId", "taskExecutionId", "resolvedAgentId", "contextPackageId", "modelInvocationIds"]
  if fields.all fun field => (existing.field field).pyEq (expected.field field) then .ok ()
  else
    .error (contractError ("AgentInvocation " ++ (expected.field "id").repr ++ " already exists for different inputs"))

/-- A model record that is there already must be the running one of the agent that is there. -/
def checkExistingModel (existingAgent : Option Record) : Option Record → Except PyError (Option Record)
  | none => .ok none
  | some model =>
    let id := (Json.str request.modelInvocationId).repr
    match existingAgent with
    | none => .error (contractError ("ModelInvocation " ++ id ++ " already belongs to another invocation"))
    | some agent =>
      if model.field "agentInvocationId" ≠ .str request.invocationId then
        .error (contractError ("ModelInvocation " ++ id ++ " already belongs to another invocation"))
      else if model.field "status" ≠ .str "RUNNING" then
        .error (contractError ("ModelInvocation " ++ id ++ " is already terminal while its AgentInvocation is running"))
      else .ok (some agent)

def releaseBudget : Prog Unit := if request.budget then Prog.release else return ()

def emit (eventName : String) (runtimeObject : Record) (timestamp : String) : Prog Unit :=
  if request.lifecycleLogger then Prog.emit eventName runtimeObject timestamp none else return ()

def budgetError (error : PyError) : PyError :=
  if error.errorClass = .executionBudgetError then contractError error.message else error

/-- The configuration that the adapter is given: that of the model, within the bounds of the budget. -/
def effectiveConfiguration : Prog (ModelConfiguration × Option Reservation) :=
  if request.budget then do
    let answer ← Prog.attempt (Prog.preflight {
      estimatedInputTokens := prepared.estimatedInputTokens
      configuredOutputTokenLimit := request.modelConfiguration.tokenLimit
      configuredProviderAttempts := request.modelConfiguration.maxAttempts, timestamp := request.startedAt })
    let reservation ← Prog.check (answer.mapError budgetError)
    let configuration ← Prog.check (request.modelConfiguration.withBudgetBounds reservation.effectiveOutputTokenLimit
      reservation.maxProviderAttempts)
    return (configuration, some reservation)
  else return (request.modelConfiguration, none)

def modelRequest (configuration : ModelConfiguration) : Except PyError ModelRequest := do
  Result.raiseIf (prepared.correlation.taskExecutionId = none) (valueError "correlation requires taskExecutionId")
  return ⟨configuration, prepared.input, prepared.correlation⟩

def budgetChanges (reservation : Option Reservation) (charge : Option Record) : Record :=
  ((reservation.bind Reservation.effectiveOutputTokenLimit).map fun limit =>
    ("effectiveOutputTokenLimit", Json.int limit)).toList ++
  ((reservation.bind Reservation.maxProviderAttempts).map fun limit =>
    ("effectiveProviderAttemptLimit", Json.int limit)).toList ++
  (charge.map fun fields => ("budgetCharge", Json.obj fields)).toList

def attemptEvents (attempt : Record) : List String :=
  let delayed := ((attempt.get? "coordinatorDelayMs").getD (.int 0)).truthy
  let throttled := delayed || attempt.field "code" = .str "rate_limit"
  ["ModelRequestAdmitted"] ++ (if throttled then ["ModelRequestThrottled"] else []) ++
    match attempt.field "retryDecision" with
    | .str "scheduled" => ["ModelRetryScheduled"]
    | .str "suppressed" | .str "deferred" => ["ModelRetrySuppressed"]
    | _ => []

def providerDecisions (metadata : Record) : List (String × Record) :=
  let attempts := match metadata.field "attempts" with
    | .arr items => items
    | _ => []
  let eventsOf (attempt : Record) := (attemptEvents attempt).map fun event => (event, attempt)
  let deferred := metadata.field "retryDecision" = .str "deferred" ∧ attempts = []
  (attempts.filterMap Json.asRecord?).flatMap eventsOf ++
    if deferred then [("ModelRetrySuppressed", metadata)] else []

def emitProviderDecisions (runtimeObject metadata : Record) (timestamp : String) : Prog Unit :=
  if request.lifecycleLogger then
    Prog.forEach (fun decision => Prog.emit decision.1 runtimeObject timestamp (some decision.2))
      (providerDecisions metadata)
  else return ()

def completionTime : Prog String := if request.clock then Prog.clock else return request.completedAt

def recordCharge (charge : Charge) : Prog (Option Record) :=
  if request.budget then do
    let recorded ← Prog.charge charge
    return some recorded
  else return none

def finishAgent (status event completedAt : String) (changes : Record) : Prog Record := do
  let finished ← Prog.updateStatus request.invocationId status completedAt changes
  Prog.check (validateRuntime platform finished "AgentInvocation" "agentinvocation.schema.json")
  emit request event finished completedAt
  return finished

def finishModel (status event completedAt : String) (changes : Record) : Prog Unit := do
  let finished ← Prog.updateStatus request.modelInvocationId status completedAt changes
  Prog.check (validateRuntime platform finished "ModelInvocation" "modelinvocation.schema.json")
  emit request event finished completedAt

def identityConflict : Prog Record := do
  releaseBudget request
  let message := "ModelInvocation identity conflict: " ++ request.modelInvocationId
  let failure : Record := [("class", .str "CONFIGURATION"), ("message", .str message), ("retryable", .bool false)]
  let changes : Record := [("failure", .obj failure)]
  let _ ← finishAgent platform request "FAILED" "AgentInvocationFailed" request.completedAt changes
  Prog.fail (contractError message)

end Parts

section Outcomes

variable (platform : Platform) (request : Request) (outputSchema : Json) (reservation : Option Reservation)
  (savedModel : Record)

def errorFailure (error : ModelInvocationError) : Record :=
  let retryNotBefore := match error.recoverable, error.providerMetadata.field "retryEligibleAt" with
    | true, .str eligible => [("retryNotBefore", Json.str eligible)]
    | _, _ => []
  [("class", .str (if error.recoverable then "RECOVERABLE" else "PERMANENT")),
    ("message", .str (if error.message = "" then error.code else error.message)),
    ("retryable", .bool error.recoverable)] ++ retryNotBefore

def afterError (error : ModelInvocationError) : Prog Record := do
  let completedAt ← completionTime request
  emitProviderDecisions request savedModel error.providerMetadata completedAt
  let count := attemptCount error.providerMetadata
  let charge ← recordCharge request {
    inputTokens := 0, outputTokens := 0, latencyMs := 0, cost := none, costStatus := some "UNAVAILABLE"
    invocationCount := count, unreconciledDispatchedAttempts := count, timestamp := completedAt }
  let failure := errorFailure error
  finishModel platform request "FAILED" "ModelInvocationFailed" completedAt ([
    ("providerMetadata", .obj (error.providerMetadata.set "errorCode" (.str error.code))), ("failure", .obj failure)] ++
    budgetChanges reservation charge)
  finishAgent platform request "FAILED" "AgentInvocationFailed" completedAt ([
    ("modelInvocationIds", .arr [.str request.modelInvocationId]), ("failure", .obj failure)] ++
    budgetChanges reservation charge)

def usageRecord (response : ModelResponse) : Json :=
  .obj [("input", .int response.inputTokens), ("output", .int response.outputTokens)]

def modelChanges (response : ModelResponse) (validation : String) (failure charge : Option Record) : Record :=
  [("tokenUsage", usageRecord response), ("latencyMs", .int response.latencyMs),
    ("providerMetadata", .obj response.providerMetadata), ("schemaValidation", .str validation)] ++
  (failure.map fun fields => ("failure", Json.obj fields)).toList ++ budgetChanges reservation charge ++
  (response.output.toOption.map fun output => ("outputAddress", Json.str (contentAddress platform output))).toList ++
  (response.cost.map fun cost => ("cost", cost)).toList

def agentChanges (response : ModelResponse) (validation : String) (failure charge : Option Record) : Record :=
  [("modelInvocationIds", .arr [.str request.modelInvocationId]), ("outputSchemaValidation", .str validation),
    ("tokenUsage", usageRecord response)] ++ budgetChanges reservation charge ++
  (response.output.toOption.map fun output => ("output", output)).toList ++
  (response.cost.map fun cost => ("cost", cost)).toList ++
  (failure.map fun fields => ("failure", Json.obj fields)).toList

def evaluationFailure (message : String) : Record :=
  [("class", .str "EVALUATION"), ("message", .str message), ("retryable", .bool false)]

def validatorFailed (response : ModelResponse) (completedAt : String) (charge : Option Record) : Prog Record := do
  let failure := evaluationFailure "output validator failed"
  finishModel platform request "FAILED" "ModelInvocationFailed" completedAt
    (modelChanges platform reservation response "FAILED" (some failure) charge)
  let _ ← finishAgent platform request "FAILED" "AgentInvocationFailed" completedAt
    (agentChanges request reservation response "FAILED" (some failure) charge)
  Prog.fail (contractError "output validator failed")

/-- The output has been judged: the model's record succeeds, and the agent's if there was nothing wrong. -/
def validated (response : ModelResponse) (completedAt : String) (charge : Option Record)
    (validationErrors : List String) : Prog Record := do
  let validation := if validationErrors = [] then "PASSED" else "FAILED"
  finishModel platform request "SUCCEEDED" "ModelInvocationCompleted" completedAt
    (modelChanges platform reservation response validation none charge)
  if validationErrors = [] then
    finishAgent platform request "SUCCEEDED" "AgentInvocationCompleted" completedAt
      (agentChanges request reservation response validation none charge)
  else
    finishAgent platform request "FAILED" "AgentInvocationFailed" completedAt
      (agentChanges request reservation response validation (some (evaluationFailure
        ("structured output does not match outputSchema: " ++ "; ".intercalate validationErrors))) charge)

def outputErrors (response : ModelResponse) : Except PyError (List String) :=
  match response.output with
  | .error reason => .ok ["$: provider output is not JSON-compatible: " ++ reason]
  | .ok output => platform.outputErrors outputSchema output

/-- What the caller's validator finds in an output that meets its schema, or none where it raises. -/
def validatorErrors (response : ModelResponse) (schemaErrors : List String) : Option (List String) :=
  match schemaErrors, request.outputValidator, response.output with
  | [], some validator, .ok output => (validator output).toOption
  | _, _, _ => some schemaErrors

def afterResponse (response : ModelResponse) : Prog Record := do
  let completedAt ← completionTime request
  emitProviderDecisions request savedModel response.providerMetadata completedAt
  let count := attemptCount response.providerMetadata
  let charge ← recordCharge request {
    inputTokens := response.inputTokens, outputTokens := response.outputTokens, latencyMs := response.latencyMs
    cost := response.cost, costStatus := response.costSource, invocationCount := count
    unreconciledDispatchedAttempts := max 0 (count - 1), timestamp := completedAt }
  let schemaErrors ← Prog.check (outputErrors platform outputSchema response)
  match validatorErrors request response schemaErrors with
  | none => validatorFailed platform request reservation response completedAt charge
  | some validationErrors => validated platform request reservation response completedAt charge validationErrors

def afterInvoke : Invoked → Prog Record
  | .returned response => afterResponse platform request outputSchema reservation savedModel response
  | .failed error => afterError platform request reservation savedModel error
  | .raised error => Prog.fail error

end Outcomes

section Coordinator

variable (platform : Platform) (request : Request) (prepared : Prepared)

def pairKey (invocationId : String) : String := "agent-invocation-pair:" ++ invocationId

def agentKey (invocationId : String) : String := "agent-invocation:" ++ invocationId

def modelKey (modelInvocationId : String) : String := "model-invocation:" ++ modelInvocationId

def pair : Record :=
  [("agentInvocationId", .str request.invocationId), ("modelInvocationId", .str request.modelInvocationId)]

def dispatch (modelRequest : ModelRequest) (reservation : Option Reservation) (savedModel : Record) : Prog Record := do
  emit request "ModelInvocationStarted" savedModel request.startedAt
  let invoked : Invoked ← Prog.ask (.invoke request.invocationId request.modelInvocationId modelRequest)
  afterInvoke platform request prepared.outputSchema reservation savedModel invoked

def afterModel (modelRequest : ModelRequest) (reservation : Option Reservation) : Except PyError Record → Prog Record
  | .error error =>
    if error.errorClass = .runtimeObjectAlreadyExistsError then identityConflict platform request else Prog.fail error
  | .ok savedModel =>
    if (Json.obj savedModel).pyEq (.obj prepared.modelRecord) then
      dispatch platform request prepared modelRequest reservation savedModel
    else identityConflict platform request

def conflicting (savedAgent : Record) : Bool :=
  savedAgent.field "status" ≠ .str "RUNNING" || !(Json.obj savedAgent).pyEq (.obj prepared.agentRecord)

def afterAgent (modelRequest : ModelRequest) (reservation : Option Reservation) (savedAgent : Record) :
    Prog Record := do
  Prog.check (validateExistingAgent savedAgent prepared.agentRecord)
  if isFinished savedAgent then do
    releaseBudget request
    return savedAgent
  else if conflicting prepared savedAgent then do
    releaseBudget request
    Prog.fail (contractError ("AgentInvocation " ++ (Json.str request.invocationId).repr ++
      " already exists with conflicting state"))
  else do
    emit request "AgentInvocationStarted" savedAgent request.startedAt
    let answer : Except PyError Record ← Prog.ask (.create prepared.modelRecord (modelKey request.modelInvocationId))
    afterModel platform request prepared modelRequest reservation answer

def createAgent (modelRequest : ModelRequest) (reservation : Option Reservation) : Prog Record := do
  let answer : Except PyError Record ← Prog.ask (.create prepared.agentRecord (agentKey request.invocationId))
  match answer with
  | .error error => do
    releaseBudget request
    Prog.fail error
  | .ok savedAgent => afterAgent platform request prepared modelRequest reservation savedAgent

def claimedBefore (prior : Json) : Prog Record := do
  releaseBudget request
  if prior.pyEq (.obj (pair request)) then do
    let current ← Prog.get request.invocationId
    return current.getD prepared.agentRecord
  else
    Prog.fail (contractError ("AgentInvocation " ++ (Json.str request.invocationId).repr ++
      " is claimed for a different ModelInvocation"))

def afterClaim (modelRequest : ModelRequest) (reservation : Option Reservation) (running : Option Record)
    (claimed : Bool × Json) : Prog Record :=
  if claimed.1 then
    match running with
    | some agent => do
      -- A RUNNING child without an earlier pair claim has uncertain provider state.
      releaseBudget request
      return agent
    | none => createAgent platform request prepared modelRequest reservation
  else claimedBefore request prepared claimed.2

def claimPair (running : Option Record) : Prog Record := do
  let (configuration, reservation) ← effectiveConfiguration request prepared
  let modelRequest ← Prog.check (modelRequest prepared configuration)
  let answer : Except PyError (Bool × Json) ← Prog.ask (.claim (pairKey request.invocationId) (pair request))
  let claimed ← Prog.check answer
  afterClaim platform request prepared modelRequest reservation running claimed

def invokePrepared : Prog Record := do
  let existingAgent ← Prog.get request.invocationId
  let _ ← Prog.check (existingAgent.elim (.ok ()) fun existing => validateExistingAgent existing prepared.agentRecord)
  match existingAgent.filter isFinished with
  | some finished => return finished
  | none => do
    let existingModel ← Prog.get request.modelInvocationId
    let running ← Prog.check (checkExistingModel request existingAgent existingModel)
    claimPair platform request prepared running

def invokeAgent : Prog Record := do
  let allowed ← lineageVerifiedReplayContext platform Prog.get request.resolvedAgent request.contextPackage
  let prepared ← Prog.check (prepare platform request allowed)
  invokePrepared platform request prepared

end Coordinator

end Aep.AgentInvocation
