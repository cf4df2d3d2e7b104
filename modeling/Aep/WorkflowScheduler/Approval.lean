import Aep.WorkflowScheduler.TaskExecution
import Mathlib.Data.List.Infix

namespace Aep.WorkflowScheduler

open RuntimeStore

variable (platform : Platform)

def approvalError (message : String) : PyError := { errorClass := .approvalError, message }

abbrev RefKey : Type := String × String × String

def refKey (ref : Record) : RefKey := ((ref.field "kind").text, (ref.field "name").text, (ref.field "version").text)

def RefKey.before (left right : RefKey) : Bool :=
  left.1 < right.1 ∨ left.1 = right.1 ∧ (left.2.1 < right.2.1 ∨ left.2.1 = right.2.1 ∧ left.2.2 ≤ right.2.2)

/-- The references in the order of their keys. Of two with one key the later one counts. -/
def uniqueRefs (values : List Json) : Except PyError (List Json) := do
  let refs ← values.mapM asDict
  let last : Dict RefKey Record := refs.foldl (fun found ref => found.set (refKey ref) ref) []
  return (last.mergeSort fun left right => RefKey.before left.1 right.1).map fun entry => .obj entry.2

structure ApprovalRequest where
  approvalId : String
  policyDecision : Record
  requester : String
  timestamp : String
  digest : String
  authorizedReviewers : List Json
  target : Json
  artifactDigests : Json
  approvalPolicyRefs : List Json
  expectedCurrentApprovalId : Option String

def optionalEntry (key : String) (value : Json) : Except PyError Record :=
  if value = .null then .ok [] else do return [(key, .obj (← asDict value))]

def approvalRecord (request : ApprovalRequest) : Except PyError (Record × String) := do
  let policy := request.policyDecision
  Result.raiseIf (policy.field "decision" ≠ .str "REQUIRE_APPROVAL")
    (approvalError "approval requires a REQUIRE_APPROVAL PolicyDecision")
  Result.raiseIf (request.authorizedReviewers = [])
    (approvalError "approval policy must resolve at least one reviewer")
  let traceId ← item policy "traceId"
  let provenance ← asDict ((policy.get? "provenance").getD (.obj []))
  let workflowExecutionId ← item provenance "workflowExecutionId"
  let taskExecutionId ← item policy "taskExecutionId"
  let policyDecisionId ← item policy "id"
  let policyRefs ← iterate (← item policy "policyRefs")
  let governingPolicyRefs ← uniqueRefs (policyRefs ++ request.approvalPolicyRefs)
  let targetAction ← item policy "action"
  let target ← optionalEntry "target" request.target
  let artifactDigests ← optionalEntry "artifactDigests" request.artifactDigests
  let record : Record := [
    ("apiVersion", .str "aep.dev/v1alpha1"), ("kind", .str "Approval"), ("id", .str request.approvalId),
    ("traceId", traceId), ("createdAt", .str request.timestamp), ("updatedAt", .str request.timestamp),
    ("provenance", .obj provenance), ("workflowExecutionId", workflowExecutionId),
    ("taskExecutionId", taskExecutionId), ("policyDecisionId", policyDecisionId),
    ("requester", .str request.requester), ("status", .str "PENDING"), ("requestedAt", .str request.timestamp),
    ("governingPolicyRefs", .arr governingPolicyRefs), ("targetAction", targetAction),
    ("repositoryRevision", (policy.get? "repositoryRevision").getD (provenance.field "repositoryRevision")),
    ("artifactRequestDigest", .str request.digest), ("authorizedReviewers", .arr request.authorizedReviewers)]
  return (record ++ target ++ artifactDigests, "approval:" ++ policyDecisionId.text ++ ":" ++ request.digest)

def ApprovalGate.request (request : ApprovalRequest) : Prog Record := do
  let (record, key) ← Prog.check (approvalRecord request)
  Prog.store (.createApprovalRequest (.obj record) key request.expectedCurrentApprovalId request.timestamp)

structure Decision where
  approvalId : String
  actor : String
  decision : String
  timestamp : String
  reason : String
  currentDigest : String

def isWaiting (task : Record) : Bool := statusOf task = .str "AWAITING_APPROVAL" ∨ statusOf task = .str "PENDING"

def wakeTask (approval : Record) (approvalId timestamp : String) : Prog Unit := do
  match approval.field "taskExecutionId" with
  | .str taskId => do
    match ← Prog.get taskId with
    | some task =>
      if isWaiting task then discard (Prog.store (.wakeApprovedTask taskId approvalId timestamp)) else return ()
    | none => return ()
  | _ => return ()

def deniedEvent (approval : Record) (asked : Decision) : Except PyError Record := do
  let id ← item approval "id"
  let traceId ← item approval "traceId"
  let workflowExecutionId ← item approval "workflowExecutionId"
  let taskExecutionId ← item approval "taskExecutionId"
  let attemptKey := id.text ++ ":" ++ asked.actor ++ ":" ++ asked.decision ++ ":" ++ asked.timestamp
  let eventId := "executionevent-" ++ ((platform.sha256 attemptKey).take 24).toString
  return [
    ("apiVersion", .str "aep.dev/v1alpha1"), ("kind", .str "ExecutionEvent"), ("id", .str eventId),
    ("traceId", traceId), ("createdAt", .str asked.timestamp), ("updatedAt", .str asked.timestamp),
    ("provenance", .obj [("actor", .str "approval-gate"), ("workflowExecutionId", workflowExecutionId),
      ("taskExecutionId", taskExecutionId),
      ("resourceRefs", (approval.get? "governingPolicyRefs").getD (.arr []))]),
    ("eventType", .str "ApprovalAuthorizationDenied"),
    ("subject", .obj [("kind", .str "Approval"), ("id", id)]), ("sequence", .int 1),
    ("emittedAt", .str asked.timestamp),
    ("payload", .obj [("actorIdentity", .str asked.actor), ("requestedDecision", .str asked.decision),
      ("reasonCode", .str "UNAUTHORIZED_REVIEWER")])]

def recordUnauthorizedAttempt (approval : Record) (asked : Decision) : Prog Unit := do
  let event ← Prog.check (deniedEvent platform approval asked)
  discard (Prog.store (.appendEvent (.obj event)))

def readInstant (value : Json) : Except PyError Int :=
  match value.asString?.bind platform.instant with
  | some instant => .ok instant
  | none => .error (approvalError "approval timestamps must be RFC3339 values")

def hasExpired (approval : Record) (timestamp : String) : Except PyError Bool := do
  if statusOf approval = .str "PENDING" ∧ approval.field "expiresAt" ≠ .null then
    return decide ((← readInstant platform (approval.field "expiresAt")) ≤ (← readInstant platform (.str timestamp)))
  else return false

/-- Python's `in` on whatever the approval holds. -/
def isReviewer (approval : Record) (actor : String) : Except PyError Bool :=
  match (approval.get? "authorizedReviewers").getD (.arr []) with
  | .arr reviewers => .ok (decide (.str actor ∈ reviewers))
  | .obj reviewers => .ok (decide (actor ∈ Dict.keys reviewers))
  | .str reviewers => .ok (decide (actor.toList <:+: reviewers.toList))
  | reviewers => .error (typeError (reviewers.repr ++ " is not iterable"))

def alreadyDecided (approval : Record) (asked : Decision) : Prog Record :=
  if approval.field "approver" = .str asked.actor ∧ statusOf approval = .str asked.decision then do
    if asked.decision = "APPROVED" then wakeTask approval asked.approvalId asked.timestamp
    return approval
  else Prog.fail (approvalError "approval request already has a terminal decision")

def decisionChanges (asked : Decision) : Record :=
  [("approver", .str asked.actor), ("decidedAt", .str asked.timestamp), ("reason", .str (platform.strip asked.reason))]

def decideApproval (approval : Record) (asked : Decision) : Prog Record := do
  if asked.decision ≠ "APPROVED" ∧ asked.decision ≠ "REJECTED" then
    Prog.fail (approvalError "decision must be APPROVED or REJECTED")
  else if platform.strip asked.reason = "" then
    Prog.fail (approvalError "a non-empty decision reason is required")
  else do
    let decided ← Prog.updateStatus asked.approvalId asked.decision "PENDING" asked.timestamp
      (decisionChanges platform asked)
    if asked.decision = "APPROVED" then wakeTask approval asked.approvalId asked.timestamp
    return decided

def expire (asked : Decision) : Prog Record := do
  let _ ← Prog.updateStatus asked.approvalId "EXPIRED" "PENDING" asked.timestamp
    [("decidedAt", .str asked.timestamp), ("reason", .str "Approval request expired.")]
  Prog.fail (approvalError "approval request has expired")

def ApprovalGate.decide (asked : Decision) : Prog Record := do
  match (← Prog.get asked.approvalId).filter fun approval => approval.field "kind" = .str "Approval" with
  | none => Prog.fail (approvalError "approval request was not found")
  | some approval =>
    if (← Prog.check (isReviewer approval asked.actor)) = false then do
      recordUnauthorizedAttempt platform approval asked
      Prog.fail {
        errorClass := .approvalAuthorizationError
        message := "identity is not authorized by the resolved approval policy" }
    else if approval.field "artifactRequestDigest" ≠ .str asked.currentDigest then
      Prog.fail (approvalError "approval is stale because its bound artifact or action changed")
    else if ← Prog.check (hasExpired platform approval asked.timestamp) then expire asked
    else if statusOf approval ≠ .str "PENDING" then alreadyDecided approval asked
    else decideApproval platform approval asked

end Aep.WorkflowScheduler
