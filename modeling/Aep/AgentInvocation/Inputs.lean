import Aep.Library.Json
import Aep.WorkflowScheduler.TaskExecution

namespace Aep.ContextIdentity

def IDENTITY_FIELDS : List String :=
  ["taskRef", "repositoryRevision", "elements", "tokenBudget", "selection", "tokenCount", "tokenEstimate", "truncation"]

/-- The keys that a mapping leaves out of the identity. The path to the mapping has its innermost key first. -/
def excluded (path : List String) (key : String) : Bool :=
  (path.take 1 = ["retrieval"] && key = "snapshotCreatedAt") ||
  (path.take 1 = ["provenance"] && key ∈ ["traceId", "workflowExecutionId", "taskExecutionId"]) ||
  (path.take 2 = ["metadata", "content"] && key ∈ ["id", "createdAt", "updatedAt"]) ||
  (path.take 1 = ["inputArtifactRefs"] && key = "generatedArtifactId")

mutual

def stableContextValue (path : List String) : Json → Json
  | .obj fields => .obj (stableFields path fields)
  | .arr items => .arr (stableItems path items)
  | value => value

def stableItems (path : List String) : List Json → List Json
  | [] => []
  | item :: rest => stableContextValue path item :: stableItems path rest

def stableFields (path : List String) : List (String × Json) → List (String × Json)
  | [] => []
  | (key, value) :: rest =>
    if excluded path key then stableFields path rest
    else (key, stableContextValue (key :: path) value) :: stableFields path rest

end

def identityFields (context : Record) : Record :=
  IDENTITY_FIELDS.filterMap fun field =>
    (context.get? field).map fun value => (field, stableContextValue [field] value)

/-- Hash context inputs while excluding execution-specific ownership fields. The digest is the hexadecimal SHA-256 of
    the canonical JSON text. -/
def contextIdentity (digest : Json → String) (context : Record) : String :=
  "sha256:" ++ digest (.obj (identityFields context))

end Aep.ContextIdentity

namespace Aep.AgentInvocation

open RuntimeStore
open WorkflowScheduler (item asDict iterate CorrelationContext fromRuntimeObject)

deriving instance DecidableEq for WorkflowScheduler.CorrelationContext

/-- What an invocation leaves to the JSON Schema validators and to hashes of canonical JSON text. -/
structure Platform extends WorkflowScheduler.Platform where
  /-- The digest of a text whose other than ASCII characters are escaped. -/
  contentDigest : Json → String
  /-- The digest of a text whose other than ASCII characters are not. -/
  identityDigest : Json → String
  /-- What is wrong with a schema. -/
  schemaError : Json → Option String
  /-- The texts of the violations of a schema, or what the validator raises. -/
  outputErrors : Json → Json → Except PyError (List String)

def contractError (message : String) : PyError := { errorClass := .agentInvocationContractError, message }

/-- Immutable configuration resolved from a versioned Model Resource. -/
structure ModelConfiguration where
  modelRef : Record
  provider : String
  model : String
  parameters : Record
  tokenLimit : Option Int
  timeoutMs : Option Int
  retryPolicy : Record
  rateLimitPolicy : Record

def intOrNone : Option Int → Json
  | some value => .int value
  | none => .null

namespace ModelConfiguration

variable (configuration : ModelConfiguration)

def asRecord : Record := [
  ("provider", .str configuration.provider), ("model", .str configuration.model),
  ("parameters", .obj configuration.parameters), ("tokenLimit", intOrNone configuration.tokenLimit),
  ("timeoutMs", intOrNone configuration.timeoutMs), ("retryPolicy", .obj configuration.retryPolicy),
  ("rateLimitPolicy", .obj configuration.rateLimitPolicy)]

def maxAttempts : Int :=
  match (configuration.retryPolicy.get? "maxAttempts").getD (.int 1) with
  | .int value => value
  | _ => 1

def boundedRetryPolicy (maxProviderAttempts : Option Int) : Record :=
  match maxProviderAttempts with
  | some bound => configuration.retryPolicy.set "maxAttempts" (.int (max 1 (min configuration.maxAttempts bound)))
  | none => configuration.retryPolicy

def withBudgetBounds (tokenLimit maxProviderAttempts : Option Int) : Except PyError ModelConfiguration := do
  Result.raiseIf (∃ limit ∈ tokenLimit, limit < 1) (valueError "token_limit must be positive")
  return { configuration with tokenLimit, retryPolicy := configuration.boundedRetryPolicy maxProviderAttempts }

end ModelConfiguration

structure Request where
  invocationId : String
  modelInvocationId : String
  resolvedAgent : Record
  contextPackage : Record
  prompt : Record
  modelConfiguration : ModelConfiguration
  startedAt : String
  completedAt : String
  lifecycleLogger : Bool
  outputValidator : Option (Json → Except PyError (List String))
  budget : Bool
  clock : Bool

section Lineage

variable (platform : Platform)

/-- The identities of an agent and of a package of another execution, both with their Task. -/
structure Lineage where
  traceId : String
  workflowExecutionId : String
  taskExecutionId : String
  sourceTraceId : String
  sourceExecutionId : String
  sourceTaskExecutionId : String

def lineageOf (agent package : Record) : Option Lineage :=
  match fromRuntimeObject platform.toPlatform agent, fromRuntimeObject platform.toPlatform package with
  | .ok current, .ok historical =>
    match current.taskExecutionId, historical.taskExecutionId with
    | some task, some sourceTask =>
      if current.workflowExecutionId = historical.workflowExecutionId then none
      else some {
        traceId := current.traceId, workflowExecutionId := current.workflowExecutionId, taskExecutionId := task
        sourceTraceId := historical.traceId, sourceExecutionId := historical.workflowExecutionId
        sourceTaskExecutionId := sourceTask }
    | _, _ => none
  | _, _ => none

def reusedEntry (identities : List Json) (contextId : String) : Option Record :=
  (identities.filterMap Json.asRecord?).find? fun entry =>
    entry.field "sourceContextPackageId" = .str contextId ∧ entry.field "mode" = .str "reuse"

def recordsPackage (replay package : Record) (lineage : Lineage) : Bool :=
  match replay.field "sourceExecutionId", replay.field "replayProvenance", package.field "id",
    package.field "taskRef" with
  | .str sourceId, .obj provenance, .str contextId, .obj _ =>
    decide (replay.field "kind" = .str "WorkflowExecution" ∧ lineage.sourceExecutionId = sourceId ∧
      mappingField (.obj provenance) "sourceExecutionId" = .str sourceId) &&
    match mappingField (.obj provenance) "contextIdentities" with
    | .arr identities => (reusedEntry identities contextId).any fun entry =>
      entry.field "identity" = .str (ContextIdentity.contextIdentity platform.identityDigest package)
    | _ => false
  | _, _, _, _ => false

def bindsPackage (replay package source sourceTask currentTask : Record) (lineage : Lineage) : Bool :=
  match source.field "taskExecutionIds" with
  | .arr sourceTaskIds =>
    decide (.str lineage.sourceTaskExecutionId ∈ sourceTaskIds ∧
      sourceTask.field "kind" = .str "TaskExecution" ∧
      sourceTask.field "workflowExecutionId" = .str lineage.sourceExecutionId ∧
      source.field "traceId" = .str lineage.sourceTraceId ∧
      sourceTask.field "traceId" = .str lineage.sourceTraceId) &&
    (sourceTask.field "contextPackageId").pyEq (package.field "id") &&
    (sourceTask.field "taskRef").pyEq (package.field "taskRef") &&
    decide (currentTask.field "kind" = .str "TaskExecution" ∧
      currentTask.field "workflowExecutionId" = .str lineage.workflowExecutionId ∧
      replay.field "traceId" = .str lineage.traceId ∧ currentTask.field "traceId" = .str lineage.traceId) &&
    (currentTask.field "taskRef").pyEq (package.field "taskRef") &&
    (currentTask.field "contextPackageId").pyEq (package.field "id")
  | _ => false

def lineageVerifiedReplayContext {m : Type → Type} [Monad m] (get : String → m (Option Record))
    (agent package : Record) : m Bool :=
  match lineageOf platform agent package with
  | none => pure false
  | some lineage => do
    match ← get lineage.workflowExecutionId with
    | none => pure false
    | some replay =>
      if recordsPackage platform replay package lineage then do
        let source ← get lineage.sourceExecutionId
        let sourceTask ← get lineage.sourceTaskExecutionId
        let currentTask ← get lineage.taskExecutionId
        match source, sourceTask, currentTask with
        | some source, some sourceTask, some currentTask =>
          pure (bindsPackage replay package source sourceTask currentTask lineage)
        | _, _, _ => pure false
      else pure false

end Lineage

section Validation

variable (platform : Platform)

def validateRuntime (value : Record) (kind schema : String) : Except PyError Unit :=
  WorkflowScheduler.validated platform.toPlatform schema value fun violated =>
    contractError ("invalid " ++ kind ++ " at " ++ violated.1 ++ ": " ++ violated.2)

def correlationError (error : PyError) : PyError := contractError ("invalid invocation correlation: " ++ error.message)

def isText : Json → Bool
  | .str text => text ≠ ""
  | _ => false

def resourceRef (resource : Record) : Except PyError Record :=
  let ref : Record := [
    ("kind", .str "Prompt"), ("name", mappingField (resource.field "metadata") "name"),
    ("version", mappingField (resource.field "metadata") "version")]
  let versioned := ref.all fun entry => isText entry.2
  if resource.field "kind" = .str "Prompt" ∧ (resource.field "metadata").isMapping ∧ versioned then .ok ref
  else .error (contractError "prompt must be a versioned Prompt Resource")

def validateInputs (request : Request) (allowReusedReplayContext : Bool) : Except PyError Unit := do
  let agent := request.resolvedAgent
  let configuration := request.modelConfiguration
  validateRuntime platform agent "ResolvedAgent" "resolvedagent.schema.json"
  validateRuntime platform request.contextPackage "ContextPackage" "contextpackage.schema.json"
  let agentContext ← (fromRuntimeObject platform.toPlatform agent).mapError correlationError
  let packageContext ← (fromRuntimeObject platform.toPlatform request.contextPackage).mapError correlationError
  Result.raiseIf (agentContext ≠ packageContext ∧ allowReusedReplayContext = false) (contractError
    "ResolvedAgent and ContextPackage must share trace, WorkflowExecution, and TaskExecution identities")
  let ref ← resourceRef request.prompt
  let promptRef ← item agent "promptRef"
  Result.raiseIf ((Json.obj ref).pyEq promptRef = false)
    (contractError "prompt must match the immutable ResolvedAgent.promptRef")
  let modelRef ← item agent "modelRef"
  Result.raiseIf ((Json.obj configuration.modelRef).pyEq modelRef = false)
    (contractError "model_configuration must match the immutable ResolvedAgent.modelRef")
  Result.raiseIf ((Json.obj configuration.parameters).pyEq ((agent.get? "modelParameters").getD (.obj [])) = false)
    (contractError "model_configuration parameters must match ResolvedAgent.modelParameters")
  Result.raiseIf ((agent.get? "modelConfiguration").any fun recorded =>
      !(Json.obj configuration.asRecord).pyEq recorded)
    (contractError "model_configuration must match ResolvedAgent.modelConfiguration")
  let outputSchema ← item agent "outputSchema"
  match platform.schemaError outputSchema with
  | some error => .error (contractError ("ResolvedAgent.outputSchema is invalid: " ++ error))
  | none => return ()

end Validation

section Records

variable (platform : Platform)

def assembleInput (prompt package : Record) (outputSchema : Json) : Except PyError Record :=
  match prompt.field "spec" with
  | .obj spec => do
    let id ← item package "id"
    let repositoryRevision ← item package "repositoryRevision"
    let elements ← item package "elements"
    return [
      ("prompt", .obj spec),
      ("contextPackage", .obj [("id", id), ("repositoryRevision", repositoryRevision), ("elements", elements)]),
      ("outputSchema", outputSchema)]
  | _ => .error (contractError "Prompt.spec must be an object")

def refOf (candidate : Json) : Option (String × String × String) :=
  match mappingField candidate "kind", mappingField candidate "name", mappingField candidate "version" with
  | .str kind, .str name, .str version =>
    if kind ≠ "" ∧ name ≠ "" ∧ version ≠ "" then some (kind, name, version) else none
  | _, _, _ => none

def refLe (first second : String × String × String) : Prop :=
  first.1 < second.1 ∨ first.1 = second.1 ∧
    (first.2.1 < second.2.1 ∨ first.2.1 = second.2.1 ∧ first.2.2 ≤ second.2.2)

instance : DecidableRel refLe := fun _ _ => inferInstanceAs (Decidable (_ ∨ _ ∧ _))

def refsOf (runtimeObject : Record) : Except PyError (List (String × String × String)) :=
  match runtimeObject.field "provenance" with
  | .obj provenance => do
    let candidates ← iterate ((Dict.get? provenance "resourceRefs").getD (.arr []))
    return candidates.filterMap refOf
  | _ => .ok []

def resourceRefs (agent package : Record) : Except PyError (List Json) := do
  let ofAgent ← refsOf agent
  let ofPackage ← refsOf package
  return ((ofAgent ++ ofPackage).dedup.insertionSort refLe).map fun ref =>
    .obj [("kind", .str ref.1), ("name", .str ref.2.1), ("version", .str ref.2.2)]

def contentAddress (value : Json) : String := "sha256:" ++ platform.contentDigest value

/-- What a call has made of its inputs before it reads its own records. -/
structure Prepared where
  correlation : CorrelationContext
  input : Record
  outputSchema : Json
  estimatedInputTokens : Int
  agentRecord : Record
  modelRecord : Record

def contextInputTokens (package : Record) : Int :=
  match package.field "tokenCount" with
  | .int value => if 0 < value then value else 1
  | _ => 1

def provenanceRecord (actor : String) (parent : Record) (correlation : CorrelationContext)
    (taskExecutionId repositoryRevision : Json) (resourceRefs : List Json) : Record :=
  [("actor", .str actor)] ++ parent ++ [
    ("workflowExecutionId", .str correlation.workflowExecutionId), ("taskExecutionId", taskExecutionId),
    ("repositoryRevision", repositoryRevision), ("resourceRefs", .arr resourceRefs)]

def agentRecordOf (request : Request) (traceId : String) (provenance : Record)
    (taskExecutionId resolvedAgentId contextPackageId : Json) : Record := [
  ("apiVersion", .str "aep.dev/v1alpha1"), ("kind", .str "AgentInvocation"), ("id", .str request.invocationId),
  ("traceId", .str traceId), ("createdAt", .str request.startedAt), ("updatedAt", .str request.startedAt),
  ("provenance", .obj provenance), ("taskExecutionId", taskExecutionId), ("resolvedAgentId", resolvedAgentId),
  ("contextPackageId", contextPackageId), ("status", .str "RUNNING"),
  ("modelInvocationIds", .arr [.str request.modelInvocationId]), ("toolInvocationIds", .arr []),
  ("outputSchemaValidation", .str "NOT_RUN"), ("startedAt", .str request.startedAt)]

def modelRecordOf (request : Request) (traceId inputAddress : String) (provenance : Record) : Record := [
  ("apiVersion", .str "aep.dev/v1alpha1"), ("kind", .str "ModelInvocation"), ("id", .str request.modelInvocationId),
  ("traceId", .str traceId), ("createdAt", .str request.startedAt), ("updatedAt", .str request.startedAt),
  ("provenance", .obj provenance), ("agentInvocationId", .str request.invocationId),
  ("modelRef", .obj request.modelConfiguration.modelRef),
  ("modelConfiguration", .obj request.modelConfiguration.asRecord), ("status", .str "RUNNING"),
  ("inputAddress", .str inputAddress), ("schemaValidation", .str "NOT_RUN"), ("startedAt", .str request.startedAt)]

def prepare (request : Request) (allowReusedReplayContext : Bool) : Except PyError Prepared := do
  let agent := request.resolvedAgent
  let package := request.contextPackage
  validateInputs platform request allowReusedReplayContext
  let outputSchema ← item agent "outputSchema"
  let input ← assembleInput request.prompt package outputSchema
  let correlation ← fromRuntimeObject platform.toPlatform agent
  let taskExecutionId ← item agent "taskExecutionId"
  let repositoryRevision ← item package "repositoryRevision"
  let refs ← resourceRefs agent package
  let agentProvenance := provenanceRecord "agent-invocation-coordinator" [] correlation taskExecutionId
    repositoryRevision refs
  let agentRecord := agentRecordOf request correlation.traceId agentProvenance taskExecutionId (← item agent "id")
    (← item package "id")
  validateRuntime platform agentRecord "AgentInvocation" "agentinvocation.schema.json"
  let modelProvenance := provenanceRecord ("model-adapter:" ++ request.modelConfiguration.provider)
    [("parentId", .str request.invocationId)] correlation taskExecutionId repositoryRevision
    [.obj request.modelConfiguration.modelRef]
  let modelRecord := modelRecordOf request correlation.traceId (contentAddress platform (.obj input)) modelProvenance
  validateRuntime platform modelRecord "ModelInvocation" "modelinvocation.schema.json"
  let estimatedInputTokens := contextInputTokens package
  return { correlation, input, outputSchema, estimatedInputTokens, agentRecord, modelRecord }

end Records

end Aep.AgentInvocation
