import Aep.WorkflowScheduler.Approval
import Aep.WorkflowScheduler.Evidence

namespace Aep.WorkflowScheduler

open RuntimeStore

/-- A scheduler over the durable store. Its executor and its clock are calls. -/
structure Scheduler where
  platform : Platform
  maxAttempts : Int
  positive : 1 ≤ maxAttempts

variable (scheduler : Scheduler)

/-- What a reconciliation passes on: the workflow that it validated and the time it started at. -/
structure Reconciliation where
  plan : TaskDagPlan
  workflowId : String
  traceId : String
  repositoryRevision : String
  knowledgeGraphVersion : Json
  timestamp : String

section Inputs

def readTimestamp : Prog String := do
  let now : Json ← Prog.clock
  match now.asString?.filter scheduler.platform.isRfc3339Timestamp with
  | some timestamp => return timestamp
  | none => Prog.fail (invalidInput "clock must return an RFC3339 timestamp")

def nonEmptyString (value : Json) (message : String) : Except PyError String :=
  match value.asString?.filter (· ≠ "") with
  | some text => .ok text
  | none => .error (invalidInput message)

def EVIDENCE_FIELDS : List String :=
  ["id", "traceId", "workflowRef", "eventRef", "repositoryRevision", "knowledgeGraphVersion", "provenance"]

def callerWorkflowId (workflowExecution : Record) : Except PyError String := do
  Result.raiseIf (workflowExecution.field "kind" ≠ .str "WorkflowExecution")
    (invalidInput "workflow_execution must be a WorkflowExecution")
  validateRuntimeRecord scheduler.platform workflowExecution "workflowexecution.schema.json"
  nonEmptyString (workflowExecution.field "id") "WorkflowExecution id is required"

/-- The caller's evidence against the persisted workflow, and what scheduling reads of it. -/
def validatePersisted (plan : TaskDagPlan) (workflowExecution persisted : Record) (workflowId timestamp : String) :
    Except PyError Reconciliation := do
  validateRuntimeRecord scheduler.platform persisted "workflowexecution.schema.json"
  match EVIDENCE_FIELDS.find? fun field => !(workflowExecution.field field).pyEq (persisted.field field) with
  | some field =>
    .error (invalidInput ("caller WorkflowExecution " ++ field ++ " does not match persisted evidence"))
  | none => do
    Result.raiseIf (statusOf persisted ≠ .str "RUNNING") (invalidInput "WorkflowExecution must be RUNNING")
    Result.raiseIf (refFromRecord (persisted.field "workflowRef") ≠ some plan.workflowRef)
      (invalidInput "WorkflowExecution workflowRef does not match the resolved plan")
    let traceId ← nonEmptyString (persisted.field "traceId") "WorkflowExecution traceId is required"
    let repositoryRevision ← nonEmptyString (persisted.field "repositoryRevision")
      "WorkflowExecution repositoryRevision is required"
    return {
      plan, workflowId, traceId, repositoryRevision
      knowledgeGraphVersion := persisted.field "knowledgeGraphVersion"
      timestamp }

def missingWorkflow : PyError := invalidInput "WorkflowExecution must exist in the runtime store"

def validateInputs (plan : TaskDagPlan) (workflowExecution : Record) (timestamp : String) : Prog Reconciliation := do
  let workflowId ← Prog.check (callerWorkflowId scheduler workflowExecution)
  match (← Prog.get workflowId).filter fun persisted => persisted.field "kind" = .str "WorkflowExecution" with
  | none => Prog.fail missingWorkflow
  | some persisted => Prog.check (validatePersisted scheduler plan workflowExecution persisted workflowId timestamp)

end Inputs

section Approvals

def expectedApproval (intent : Record) : Option String := (intent.field "expectedCurrentApprovalId").asString?

def requestFromIntent (intent policyDecision : Record) (approvalId timestamp : String) :
    Except PyError ApprovalRequest := do
  let requester ← item intent "requester"
  let digest ← item intent "digest"
  let authorizedReviewers ← iterate (← item intent "authorizedReviewers")
  let approvalPolicyRefs ← iterate ((intent.get? "approvalPolicyRefs").getD (.arr []))
  return {
    approvalId, policyDecision, timestamp, authorizedReviewers, approvalPolicyRefs
    requester := requester.text
    digest := digest.text
    target := intent.field "target"
    artifactDigests := intent.field "artifactDigests"
    expectedCurrentApprovalId := expectedApproval intent }

def requestIntent (intent policyDecision : Record) (approvalId timestamp : String) : Prog Unit := do
  let asked ← Prog.check (requestFromIntent intent policyDecision approvalId timestamp)
  discard (ApprovalGate.request asked)

def isAwaiting (record : Record) : Bool :=
  record.field "kind" = .str "TaskExecution" ∧ statusOf record = .str "AWAITING_APPROVAL"

def recoverPendingRequest (timestamp : String) (task : Record) : Prog Unit := do
  match isAwaiting task, task.field "pendingApprovalRequest" with
  | true, .obj intent => do
    let decision ← Prog.get ((Dict.get? intent "policyDecisionId").getD (.str "")).text
    match Dict.field intent "approvalId", decision with
    | .str approvalId, some policyDecision => requestIntent intent policyDecision approvalId timestamp
    | _, _ => return ()
  | _, _ => return ()

def recoverPendingApprovalRequests (workflowId timestamp : String) : Prog Unit := do
  let records ← Prog.listByWorkflowExecution workflowId
  Prog.forEach (recoverPendingRequest timestamp) records

def recordOfKind (records : List Record) (kind : String) (id : Json) : Option Record :=
  records.reverse.find? fun record => record.field "kind" = .str kind ∧ (record.field "id").text = id.text

def requiresApproval (records : List Record) (approval : Record) : Bool :=
  match recordOfKind records "PolicyDecision" (approval.field "policyDecisionId") with
  | some policy => policy.field "decision" = .str "REQUIRE_APPROVAL"
  | none => false

def recoverWakeup (timestamp : String) (records : List Record) (approval : Record) : Prog Unit := do
  if approval.field "kind" = .str "Approval" ∧ statusOf approval = .str "APPROVED" ∧
      requiresApproval records approval = true ∧ (approval.field "taskExecutionId").truthy = true then do
    match ← Prog.get (approval.field "taskExecutionId").text with
    | some task =>
      if isWaiting task then discard (Prog.store (.wakeApprovedTask (approval.field "taskExecutionId").text
        (idOf approval) timestamp)) else return ()
    | none => return ()
  else return ()

def recoverApprovedTaskWakeups (workflowId timestamp : String) : Prog Unit := do
  let records ← Prog.listByWorkflowExecution workflowId
  Prog.forEach (recoverWakeup timestamp records) records

def rejectedFailure : Record := [
  ("class", .str "POLICY"),
  ("message", .str "Approval was rejected or expired; the gated action remains blocked."),
  ("retryable", .bool false)]

def isRejected (records : List Record) (task : Record) : Bool :=
  match recordOfKind records "Approval" (task.field "approvalId") with
  | some approval => (task.field "approvalId").truthy = true ∧
      (statusOf approval = .str "REJECTED" ∨ statusOf approval = .str "EXPIRED")
  | none => false

def failRejectedWait (timestamp : String) (records : List Record) (task : Record) : Prog Unit :=
  if isAwaiting task = true ∧ isRejected records task = true then
    discard (transitionAndEmit scheduler.platform task .failed .failed timestamp
      [("failure", .obj rejectedFailure)])
  else return ()

def failRejectedApprovalWaits (workflowId timestamp : String) : Prog Unit := do
  let records ← Prog.listByWorkflowExecution workflowId
  Prog.forEach (failRejectedWait scheduler timestamp records) records

end Approvals

section Plan

def resolvedTaskPlan (plan : TaskDagPlan) : Json :=
  .arr (plan.nodes.map fun node => .obj [
    ("taskRef", .obj (refRecord node.taskRef)),
    ("dependencies", .arr (node.dependencies.map fun ref => .obj (refRecord ref)))])

def planMismatch : PyError := invalidInput "resolved task plan does not match persisted evidence"

def persistTaskPlan (workflowId timestamp : String) (persisted : Record) (expected : Json) : Prog Unit := do
  Prog.check (validateRuntimeRecord scheduler.platform
    ((persisted.set "resolvedTaskPlan" expected).set "updatedAt" (.str timestamp)) "workflowexecution.schema.json")
  Prog.tryCatch (Prog.updateStatus workflowId (statusOf persisted).text (statusOf persisted).text timestamp
    [("resolvedTaskPlan", expected)]) fun
    | .ok _ => return ()
    | .error error =>
      if error.isValueError = true then do
        match ← Prog.get workflowId with
        | some current =>
          if (current.field "resolvedTaskPlan").pyEq expected then return () else Prog.fail planMismatch
        | none => Prog.fail planMismatch
      else Prog.fail error

def ensureResolvedTaskPlan (workflowId timestamp : String) (plan : TaskDagPlan) : Prog Unit := do
  match ← Prog.get workflowId with
  | none => Prog.fail missingWorkflow
  | some persisted =>
    if persisted.field "resolvedTaskPlan" ≠ .null then
      if (persisted.field "resolvedTaskPlan").pyEq (resolvedTaskPlan plan) then return ()
      else Prog.fail planMismatch
    else persistTaskPlan scheduler workflowId timestamp persisted (resolvedTaskPlan plan)

end Plan

section Repair

def timestampOr (value : Json) (timestamp : String) : String :=
  (value.asString?.filter scheduler.platform.isRfc3339Timestamp).getD timestamp

def repairStarted (timestamp : String) (attempt : Record) : Prog Unit :=
  if attempt.field "startedAt" ≠ .null then
    discard (emit scheduler.platform attempt .started 2 (timestampOr scheduler (attempt.field "startedAt") timestamp))
  else return ()

def repairTerminal (timestamp : String) (attempt : Record) : Prog Record := do
  match attempt.field "terminalEvidence" with
  | .obj evidence =>
    if statusOf attempt = .str "RUNNING" ∧ (Dict.field evidence "status" = .str "SUCCEEDED" ∨
        Dict.field evidence "status" = .str "FAILED") then
      Prog.updateStatus (idOf attempt) (Dict.field evidence "status").text "RUNNING"
        (timestampOr scheduler (attempt.field "updatedAt") timestamp) (Dict.erase evidence "status")
    else return attempt
  | _ => return attempt

def terminalEventOf (attempt : Record) : Option TaskEvent :=
  if statusOf attempt = .str "SUCCEEDED" then some .succeeded
  else if statusOf attempt = .str "FAILED" then some .failed
  else none

def emitTerminal (timestamp : String) (attempt : Record) : Prog Unit :=
  match terminalEventOf attempt with
  | some event => discard (emit scheduler.platform attempt event 3
      (timestampOr scheduler (attempt.field "completedAt") timestamp))
  | none => return ()

def repairAttempt (workflowId timestamp : String) (attempt : Record) : Prog Unit :=
  if attempt.field "kind" = .str "TaskExecution" then do
    let _ ← Prog.appendTaskExecutionId workflowId (idOf attempt) timestamp
    let _ ← emit scheduler.platform attempt .queued 1 timestamp
    repairStarted scheduler timestamp attempt
    let repaired ← repairTerminal scheduler timestamp attempt
    emitTerminal scheduler timestamp repaired
  else return ()

def repairAttemptEvidence (workflowId timestamp : String) : Prog Unit := do
  let records ← Prog.listByWorkflowExecution workflowId
  Prog.forEach (repairAttempt scheduler workflowId timestamp) records

end Repair

section Readiness

def attemptNumber (record : Record) : Except PyError Int := do asInt (← item record "attempt")

def isAttemptOf (ref : ResourceRef) (record : Record) : Bool :=
  record.field "kind" = .str "TaskExecution" ∧ refFromRecord (record.field "taskRef") = some ref

def attemptOrder (left right : Record) : Bool :=
  match attemptNumber left, attemptNumber right with
  | .ok first, .ok second => first ≤ second
  | _, _ => true

def hasTaskRef (record : Record) : Bool :=
  record.field "kind" = .str "TaskExecution" ∧ (refFromRecord (record.field "taskRef")).isSome

def attemptsByTask (records : List Record) : Except PyError (ResourceRef → List Record) := do
  let _ ← (records.filter hasTaskRef).mapM attemptNumber
  return fun ref => (records.filter (isAttemptOf ref)).mergeSort attemptOrder

/-- The ids of the succeeded attempts of all dependencies, or none while one is missing. -/
def succeededDependencyIds (node : TaskPlanNode) (attempts : ResourceRef → List Record) : Option (List String) :=
  node.dependencies.mapM fun dependency =>
    ((attempts dependency).reverse.find? fun attempt => statusOf attempt = .str "SUCCEEDED").map idOf

def parseTimestamp (value : String) : Except PyError Int :=
  match scheduler.platform.instant value with
  | some instant => .ok instant
  | none => .error (valueError ("Invalid isoformat string: " ++ (Json.str value).repr))

def isRecoverableFailure (attempt : Record) : Bool :=
  statusOf attempt = .str "FAILED" ∧ failureClassOf attempt = some (.str "RECOVERABLE")

def retryTimeReached (attempt : Record) (timestamp : String) : Except PyError Bool :=
  match mappingField (attempt.field "failure") "retryNotBefore" with
  | .str notBefore => do
    let now ← parseTimestamp scheduler timestamp
    let earliest ← parseTimestamp scheduler notBefore
    return decide (earliest ≤ now)
  | _ => .ok true

def retryIsReady (attempt : Record) (timestamp : String) : Except PyError Bool := do
  if isRecoverableFailure attempt then
    if (← attemptNumber attempt) < scheduler.maxAttempts then retryTimeReached scheduler attempt timestamp
    else return false
  else return false

def hasPendingDispatch (attempt : Record) : Bool :=
  statusOf attempt = .str "RUNNING" ∧ attempt.field "dispatchState" = .str "PENDING"

def isReady (latest : Option Record) (timestamp : String) : Except PyError Bool :=
  match latest with
  | none => .ok true
  | some attempt =>
    if statusOf attempt = .str "PENDING" ∨ hasPendingDispatch attempt = true then .ok true
    else retryIsReady scheduler attempt timestamp

structure ReadyTask where
  node : TaskPlanNode
  latest : Option Record
  dependencyIds : List String

def readiness (timestamp : String) (attempts : ResourceRef → List Record) (node : TaskPlanNode) :
    Except PyError (Option ReadyTask) :=
  match succeededDependencyIds node attempts with
  | none => .ok none
  | some dependencyIds => do
    let latest := (attempts node.taskRef).getLast?
    if ← isReady scheduler latest timestamp then return some ⟨node, latest, dependencyIds⟩ else return none

def readyTasks (run : Reconciliation) (records : List Record) : Except PyError (List ReadyTask) := do
  let attempts ← attemptsByTask records
  return (← run.plan.nodes.mapM (readiness scheduler run.timestamp attempts)).filterMap id

end Readiness

section Scheduling

def taskExecutionId (workflowId : String) (taskRef : ResourceRef) (attempt : Int) : String :=
  "taskexecution-" ++ scheduler.platform.uuid5 ("task-execution:" ++ workflowId ++ ":" ++ formatRef taskRef ++ ":" ++
    toString attempt)

def attemptProvenance (run : Reconciliation) (taskRef : ResourceRef) : Record :=
  [("actor", .str "workflow-scheduler"), ("workflowExecutionId", .str run.workflowId),
    ("repositoryRevision", .str run.repositoryRevision), ("resourceRefs", .arr [.obj (refRecord taskRef)])] ++
    ((run.knowledgeGraphVersion.asString?.filter (· ≠ "")).map fun version =>
      ("knowledgeGraphVersion", Json.str version)).toList

def boundaryFields (run : Reconciliation) (taskExecutionId : String) : Record :=
  [("traceId", .str run.traceId), ("workflowExecutionId", .str run.workflowId),
    ("taskExecutionId", .str taskExecutionId)]

def firstAttempt (run : Reconciliation) (ready : ReadyTask) : Except PyError NewAttempt := do
  let executionId := taskExecutionId scheduler run.workflowId ready.node.taskRef 1
  let correlation ← fromBoundaryFields scheduler.platform (boundaryFields run executionId)
  return {
    executionId, correlation
    workflowExecutionId := run.workflowId
    taskRef := refRecord ready.node.taskRef
    attempt := 1
    timestamp := run.timestamp
    provenance := attemptProvenance run ready.node.taskRef
    dependencyTaskExecutionIds := ready.dependencyIds.map .str }

def createAttempt (run : Reconciliation) (ready : ReadyTask) : Prog Record := do
  let new ← Prog.check (firstAttempt scheduler run ready)
  create scheduler.platform new

def retryAttempt (run : Reconciliation) (ready : ReadyTask) (latest : Record) : Prog Record := do
  let number ← Prog.check (attemptNumber latest)
  retry scheduler.platform (idOf latest) (taskExecutionId scheduler run.workflowId ready.node.taskRef (number + 1))
    run.timestamp

def attemptFor (run : Reconciliation) (ready : ReadyTask) : Prog Record :=
  match ready.latest with
  | none => createAttempt scheduler run ready
  | some latest =>
    if statusOf latest = .str "PENDING" ∨ statusOf latest = .str "RUNNING" then return latest
    else retryAttempt scheduler run ready latest

def scheduleAttempt (run : Reconciliation) (ready : ReadyTask) : Prog Record := do
  let attempt ← attemptFor scheduler run ready
  let _ ← Prog.appendTaskExecutionId run.workflowId (idOf attempt) run.timestamp
  let _ ← emit scheduler.platform attempt .queued 1 run.timestamp
  return attempt

end Scheduling

section Start

def storeError (message : String) (diagnostic : Record) : PyError :=
  { errorClass := .runtimeStoreError, message, diagnostic }

def taskEventExists (taskExecution : Record) (event : TaskEvent) : Prog Bool := do
  let records ← Prog.listByTaskExecution (idOf taskExecution)
  return records.any fun record =>
    record.field "kind" = .str "ExecutionEvent" ∧ record.field "eventType" = .str event.eventType

def adoptDiagnostics (running : Record) (diagnostics : List Json) (error : PyError) : Prog Record := do
  match (← Prog.get (idOf running)).filter fun persisted => statusOf persisted = .str "RUNNING" with
  | none => Prog.fail error
  | some persisted =>
    if (persisted.field "persistenceDiagnostics").pyEq (.arr diagnostics) then return persisted
    else do
      let _ ← taskEventExists persisted .started
      Prog.fail error

def persistRecoveredStartDiagnostics (running : Record) (diagnostics : List Json) (timestamp : String) : Prog Record :=
  Prog.tryCatch (Prog.updateStatus (idOf running) "RUNNING" "RUNNING" timestamp
    [("persistenceDiagnostics", .arr diagnostics)]) fun
    | .ok updated => return updated
    | .error error =>
      if error.isRuntimeStoreError = true then adoptDiagnostics running diagnostics error else Prog.fail error

def startChanges (timestamp : String) : Record := [("startedAt", .str timestamp), ("dispatchState", .str "PENDING")]

def ambiguousStart (details : Record) : PyError :=
  storeError "durable start checkpoint outcome is ambiguous" details

def adoptCommittedStart (persisted : Record) (diagnostics : List Json) (timestamp : String)
    (diagnostic details : Record) : Prog Record := do
  if canAdoptCommittedStart diagnostic = true ∧ statusOf persisted = .str "RUNNING" then do
    if ← taskEventExists persisted .started then
      persistRecoveredStartDiagnostics persisted diagnostics timestamp
    else Prog.fail (ambiguousStart details)
  else Prog.fail (ambiguousStart details)

/-- Recover one diagnosed start checkpoint before task dispatch. The recursion ends at Python's limit. -/
def recoverDurableStart : Nat → Record → String → Record → Prog Record
  | 0, _, _, _ => Prog.fail { errorClass := .recursionError, message := "maximum recursion depth exceeded" }
  | depth + 1, attempt, timestamp, diagnostic => do
    let details := safePersistenceDetails diagnostic
    match ← Prog.get (idOf attempt) with
    | none => Prog.fail (storeError "durable start recovery lost its TaskExecution" details)
    | some persisted => do
      let diagnostics ← Prog.check (appendPersistenceDiagnostic persisted details)
      if statusOf persisted = .str "PENDING" then
        Prog.tryCatch (transitionAndEmit scheduler.platform persisted .running .started timestamp
          (startChanges timestamp ++ [("persistenceDiagnostics", .arr diagnostics)])) fun
          | .ok running => return running
          | .error error =>
            if error.isRuntimeStoreError = true ∧ error.diagnostic ≠ [] ∧
                canAdoptCommittedStart error.diagnostic = true then
              recoverDurableStart depth persisted timestamp error.diagnostic
            else Prog.fail error
      else adoptCommittedStart persisted diagnostics timestamp diagnostic details

def resumeDiagnostic : Record :=
  [("operation", .str "dispatch_recovery"), ("phase", .str "resume"), ("category", .str "interrupted")]

def resumeStart (attempt : Record) (timestamp : String) : Prog (Option Record) := do
  if (attempt.field "persistenceDiagnostics").truthy then return some attempt
  else do
    let diagnostics ← Prog.check (appendPersistenceDiagnostic attempt resumeDiagnostic)
    Prog.tryCatch (persistRecoveredStartDiagnostics attempt diagnostics timestamp) fun
      | .ok running => return some running
      | .error error => if error.isRuntimeStoreError = true then return none else Prog.fail error

/-- The attempt once it is RUNNING, or none when it is left to another reconciler. -/
def startAttempt (attempt : Record) (timestamp : String) : Prog (Option Record) :=
  if hasPendingDispatch attempt then resumeStart attempt timestamp
  else Prog.tryCatch (transitionAndEmit scheduler.platform attempt .running .started timestamp
    (startChanges timestamp)) fun
    | .ok running => return some running
    | .error error =>
      if error.errorClass = .invalidTaskTransitionError ∨ error.errorClass = .statusConflictError then return none
      else if error.isRuntimeStoreError = true ∧ error.diagnostic ≠ [] ∧ canRecoverStart error.diagnostic = true then do
        let running ← recoverDurableStart scheduler scheduler.platform.recursionLimit attempt timestamp error.diagnostic
        return some running
      else return none

def claimedRecord : Except PyError Reply → Prog (Option Record)
  | .ok (.claimed won (.obj record)) => return if won then some record else none
  | .ok _ => .cut
  | .error error => Prog.fail error

def adoptClaim (running : Record) (ownerId : String) (error : PyError) : Prog (Option Record) := do
  match (← Prog.get (idOf running)).filter fun persisted =>
      persisted.field "dispatchState" = .str "CLAIMED" ∧ persisted.field "dispatchOwnerId" = .str ownerId with
  | some persisted => return some persisted
  | none => Prog.fail error

def requestClaim (running : Record) (ownerId timestamp : String) : Prog (Option Record) := do
  let reply : Except PyError Reply ← Prog.ask (.store (.claimTaskDispatch (idOf running) ownerId timestamp))
  claimedRecord reply

def claimDurableDispatch (running : Record) (timestamp : String) : Prog (Option Record) := do
  let ownerId : String ← Prog.uuid4
  Prog.tryCatch (Prog.tryCatch (requestClaim running ownerId timestamp) fun
    | .ok claimed => return claimed
    | .error error => if error.isRuntimeStoreError = true then adoptClaim running ownerId error else Prog.fail error) fun
    | .ok claimed => return claimed
    | .error error => if error.isRuntimeStoreError = true then return none else Prog.fail error

end Start

section Terminal

def carriedDiagnostics (running : Record) : Record :=
  match running.field "persistenceDiagnostics" with
  | .arr diagnostics => [("persistenceDiagnostics", .arr (lastEight (diagnostics.filter Json.isMapping)))]
  | _ => []

def recoverTerminalEvidence (running evidence : Record) (timestamp : String) (error : PyError) : Prog Record := do
  match (← Prog.get (idOf running)).filter fun persisted => statusOf persisted = .str "RUNNING" with
  | none => Prog.fail error
  | some persisted => do
    let diagnostics ← Prog.check (appendPersistenceDiagnostic persisted (safePersistenceDetails error.diagnostic))
    let missing : Record :=
      if (persisted.field "terminalEvidence").pyEq (.obj evidence) then [] else [("terminalEvidence", .obj evidence)]
    Prog.updateStatus (idOf persisted) "RUNNING" "RUNNING" timestamp
      (("persistenceDiagnostics", .arr diagnostics) :: missing)

def persistTerminalEvidence (running evidence : Record) (timestamp : String) : Prog Record :=
  Prog.tryCatch (Prog.updateStatus (idOf running) "RUNNING" "RUNNING" timestamp
    (("terminalEvidence", .obj evidence) :: carriedDiagnostics running)) fun
    | .ok updated => return updated
    | .error error =>
      if error.isRuntimeStoreError = true ∧ error.diagnostic ≠ [] then
        recoverTerminalEvidence running evidence timestamp error
      else Prog.fail error

def awaitingChanges (running approval : Record) : Record :=
  [("pendingApprovalRequest", .obj (approval.set "expectedCurrentApprovalId" (running.field "approvalId")))]

def approvalNotPersisted : PyError := invalidInput "approval PolicyDecision was not persisted"

/-- Commit the wait state with the intent, and then the approval that it asks for. -/
def awaitApproval (running approval : Record) (timestamp : String) : Prog Unit := do
  match ← Prog.get (approval.field "policyDecisionId").text with
  | none => Prog.fail approvalNotPersisted
  | some policy => do
    let waiting ← transitionAndEmit scheduler.platform running .awaitingApproval .awaitingApproval timestamp
      (awaitingChanges running approval)
    let intent ← Prog.check (asDict ((waiting.get? "pendingApprovalRequest").getD (.obj approval)))
    let approvalId ← Prog.check (item intent "approvalId")
    requestIntent intent policy approvalId.text timestamp

def commitTerminal (running : Record) (result : TaskExecutionResult) (timestamp : String) : Prog Unit := do
  let recorded ← persistTerminalEvidence running (terminalEvidence result) timestamp
  discard (transitionAndEmit scheduler.platform recorded (terminalStatus result) (terminalEvent result) timestamp
    (terminalChanges result))

def finishAttempt (running : Record) (result : TaskExecutionResult) (timestamp : String) : Prog Unit :=
  match result.succeeded, result.approval with
  | false, some approval => awaitApproval scheduler running approval timestamp
  | _, _ => commitTerminal scheduler running result timestamp

def plannedNode (plan : TaskDagPlan) (running : Record) : Except PyError TaskPlanNode := do
  let taskRef ← item running "taskRef"
  match (refFromRecord taskRef).bind plan.getNode with
  | some node => .ok node
  | none => .error (invalidInput "TaskExecution is not present in plan")

def dispatch (run : Reconciliation) (running : Record) : Prog Unit := do
  let node ← Prog.check (plannedNode run.plan running)
  let outcome ← Prog.execute node.task running
  finishAttempt scheduler running (settle scheduler.platform outcome) run.timestamp

def claimAndDispatch (run : Reconciliation) (running : Record) : Prog Unit := do
  match ← claimDurableDispatch running run.timestamp with
  | some claimed => dispatch scheduler run claimed
  | none => return ()

def advance (run : Reconciliation) (attempt : Record) : Prog Unit := do
  match ← startAttempt scheduler attempt run.timestamp with
  | some running => claimAndDispatch scheduler run running
  | none => return ()

end Terminal

def recoverRun (run : Reconciliation) : Prog Unit := do
  recoverPendingApprovalRequests run.workflowId run.timestamp
  recoverApprovedTaskWakeups run.workflowId run.timestamp
  failRejectedApprovalWaits scheduler run.workflowId run.timestamp
  ensureResolvedTaskPlan scheduler run.workflowId run.timestamp run.plan
  repairAttemptEvidence scheduler run.workflowId run.timestamp

def runWave (run : Reconciliation) : Prog (List Record) := do
  let records ← Prog.listByWorkflowExecution run.workflowId
  let ready ← Prog.check (readyTasks scheduler run records)
  let scheduled ← Prog.collect (scheduleAttempt scheduler run) ready
  Prog.forEach (advance scheduler run) scheduled
  let persisted ← Prog.collect (fun attempt => Prog.get (idOf attempt)) scheduled
  return persisted.filterMap id

def reconcile (plan : TaskDagPlan) (workflowExecution : Record) : Prog (List Record) := do
  let timestamp ← readTimestamp scheduler
  let run ← validateInputs scheduler plan workflowExecution timestamp
  recoverRun scheduler run
  runWave scheduler run

end Aep.WorkflowScheduler
