import Aep.PublicationPolicy.Evidence

namespace Aep.PublicationPolicy

open StateAction RuntimeStore

variable (platform : Platform)

inductive Correlation where
  | context (context : WorkflowScheduler.CorrelationContext)
  | fields (fields : Record)

def Correlation.read : Correlation → Except PyError WorkflowScheduler.CorrelationContext
  | .context given => .ok given
  | .fields boundary => WorkflowScheduler.fromBoundaryFields platform.toPlatform boundary

def boundCorrelation (correlation : Correlation) (taskExecutionId : String) :
    Except PyError WorkflowScheduler.CorrelationContext := do
  WorkflowScheduler.bindCorrelation (← correlation.read platform) taskExecutionId []

structure Request where
  decisionId : Json
  taskExecutionId : Json
  candidateAction : Json
  requiredArtifactIds : Json
  artifacts : Json
  requiredEvaluationIds : Json
  evaluationResults : Json
  priorPolicyDecisions : Json
  applicablePolicies : List ApplicablePolicy
  actor : Json
  resourceScope : Json
  correlation : Correlation
  timestamp : Json

/-- The arguments of an evaluation once they have passed their checks. -/
structure Prepared where
  decisionId : String
  taskExecutionId : String
  actor : String
  timestamp : String
  candidateAction : Record
  resourceScope : Record
  action : String
  target : Record
  evidence : Evidence
  policies : List ValidatedPolicy

def prepare (request : Request) : Except PyError Prepared := do
  let decisionId ← requireText "decision_id" request.decisionId
  let taskExecutionId ← requireText "task_execution_id" request.taskExecutionId
  let actor ← requireText "actor" request.actor
  let timestamp ← requireText "timestamp" request.timestamp
  let candidateAction ← requireMapping "candidate_action" request.candidateAction
  let resourceScope ← requireMapping "resource_scope" request.resourceScope
  let action ← requireText "candidate_action.action" (candidateAction.field "action")
  let target ← requireMapping "candidate_action.target" (candidateAction.field "target")
  let revision ← requireText "candidate_action.target.repositoryRevision" (target.field "repositoryRevision")
  let context ← boundCorrelation platform request.correlation taskExecutionId
  let artifactIds ← validatedIds "required_artifact_ids" request.requiredArtifactIds
  let evaluationIds ← validatedIds "required_evaluation_ids" request.requiredEvaluationIds
  let artifacts ← recordsById "artifacts" request.artifacts
  let evaluations ← recordsById "evaluation_results" request.evaluationResults
  let priorDecisions ← recordsById "prior_policy_decisions" request.priorPolicyDecisions
  let policies ← sortedPolicies platform request.applicablePolicies
  let evidence : Evidence := {
    traceId := context.traceId, workflowExecutionId := context.workflowExecutionId, repositoryRevision := revision,
    artifactIds, artifacts, evaluationIds, evaluations, priorDecisions }
  return {
    decisionId, taskExecutionId, actor, timestamp, candidateAction, resourceScope, action, target, evidence, policies }

def PUBLICATION_EVIDENCE_FIELDS : List String :=
  ["patchGenerated", "validationRan", "requiredArtifactsPresent", "requiredEvaluationsPresent",
    "allRequiredEvaluationsPassed", "noPriorPolicyViolation", "failures"]

def evidenceSummary (evidence : Evidence) (failures : List String) : Record := [
  ("patchGenerated", .bool (evidence.artifacts.any fun entry =>
    entry.2.field "artifactType" = .str "PATCH" ∧ (entry.2.field "id").text ∈ evidence.artifactIds)),
  ("validationRan", .bool !evidence.evaluationIds.isEmpty),
  ("requiredArtifactsPresent", .bool (evidence.artifactIds.all fun id => id ∈ evidence.artifacts.keys)),
  ("requiredEvaluationsPresent", .bool (evidence.evaluationIds.all fun id => id ∈ evidence.evaluations.keys)),
  ("allRequiredEvaluationsPassed", .bool (!evidence.evaluationIds.isEmpty && evidence.evaluationIds.all fun id =>
    ((evidence.evaluations.get? id).getD []).field "status" = .str "SUCCEEDED" ∧
      ((evidence.evaluations.get? id).getD []).field "outcome" = .str "PASS")),
  ("noPriorPolicyViolation", .bool !evidence.priorDecisions.any fun entry => entry.2.field "decision" = .str "DENY"),
  ("failures", .arr (failures.map .str))]

theorem keys_evidenceSummary (evidence : Evidence) (failures : List String) :
    (evidenceSummary evidence failures).keys = PUBLICATION_EVIDENCE_FIELDS := rfl

def policyInput (prepared : Prepared) (failures : List String) : Json := .obj [
  ("candidateAction", .obj prepared.candidateAction),
  ("evidence", .obj (evidenceSummary prepared.evidence failures)),
  ("priorPolicyState", .arr (prepared.evidence.priorDecisions.map fun entry => .obj entry.2)),
  ("resourceScope", .obj prepared.resourceScope)]

def RequiresApproval (evidence : Evidence) : Prop :=
  ∃ record ∈ evidence.priorDecisions.map Prod.snd, record.field "decision" = .str "REQUIRE_APPROVAL"

instance (evidence : Evidence) : Decidable (RequiresApproval evidence) :=
  inferInstanceAs (Decidable (∃ record ∈ evidence.priorDecisions.map Prod.snd, _))

def defaultReason (decision : PolicyDecision) (action : String) (rule : MatchedRule) : String :=
  decision.value ++ " for " ++ action ++ " by " ++ rule.policy.scope.value ++ " policy " ++ rule.policy.name ++ "@" ++
    rule.policy.version ++ " rule " ++ toString rule.ruleIndex ++ "."

def winningReason (policies : List ValidatedPolicy) (action : String) (winning : MatchedRule) :
    Except PyError String :=
  match (policies.find? fun item => item.ref = winning.policy.ref).bind fun item => item.rules[winning.ruleIndex]? with
  | some source => .ok (source.reason.getD (defaultReason winning.decision action winning))
  | none => .error { errorClass := .indexError, message := "list index out of range" }

structure Verdict where
  decision : PolicyDecision
  reason : String
  winning : Option MatchedRule

def verdict (prepared : Prepared) (failures : List String) (matched : List MatchedRule) : Except PyError Verdict :=
  if failures ≠ [] then .ok ⟨.deny, "; ".intercalate failures, none⟩
  else if RequiresApproval prepared.evidence then
    .ok ⟨.requireApproval, "An earlier policy decision still requires approval.", none⟩
  else match winningRule matched with
    | some winning => do
      return ⟨winning.decision, ← winningReason prepared.policies prepared.action winning, some winning⟩
    | none => .ok ⟨.deny, "No applicable publication rule authorizes action " ++ prepared.action ++ ".", none⟩

def decisionRecord (prepared : Prepared) (failures : List String) (matched : List MatchedRule) (verdict : Verdict) :
    Record :=
  let evidence := prepared.evidence
  let policyRefs := Json.arr (uniqueRefs (prepared.policies.map ValidatedPolicy.ref))
  [("apiVersion", .str "aep.dev/v1alpha1"),
    ("kind", .str "PolicyDecision"),
    ("id", .str prepared.decisionId),
    ("traceId", .str evidence.traceId),
    ("createdAt", .str prepared.timestamp),
    ("updatedAt", .str prepared.timestamp),
    ("provenance", .obj [("actor", .str "policy-engine"), ("caller", .str prepared.actor),
      ("workflowExecutionId", .str evidence.workflowExecutionId), ("taskExecutionId", .str prepared.taskExecutionId),
      ("repositoryRevision", .str evidence.repositoryRevision), ("resourceRefs", policyRefs)]),
    ("taskExecutionId", .str prepared.taskExecutionId),
    ("gate", .str "PUBLICATION"),
    ("policyRefs", policyRefs),
    ("action", .str prepared.action),
    ("decision", .str verdict.decision.value),
    ("reason", .str verdict.reason),
    ("approvalRequired", .bool (verdict.decision = .requireApproval)),
    ("evaluatedAt", .str prepared.timestamp),
    ("subject", .str prepared.actor),
    ("resourceScope", .obj prepared.resourceScope),
    ("evaluatedRule", (verdict.winning.map MatchedRule.json).getD .null),
    ("matchedRules", .arr (matched.map MatchedRule.json)),
    ("repositoryRevision", .str evidence.repositoryRevision),
    ("publicationTarget", .obj prepared.target),
    ("generatedArtifactIds", .arr (evidence.artifactIds.map .str)),
    ("evaluationResultIds", .arr (evidence.evaluationIds.map .str)),
    ("priorPolicyDecisionIds", .arr (evidence.priorDecisions.keys.map .str)),
    ("evidence", .obj (evidenceSummary evidence failures))]

def decisionKey (prepared : Prepared) : String :=
  let evidence := prepared.evidence
  let records (entries : Dict String Record) : Json := .obj (entries.map fun (id, record) => (id, .obj record))
  "publication-policy:" ++ platform.digest (.obj [
    ("decision_id", .str prepared.decisionId),
    ("task_execution_id", .str prepared.taskExecutionId),
    ("trace_id", .str evidence.traceId),
    ("candidate_action", .obj prepared.candidateAction),
    ("artifact_ids", .arr (evidence.artifactIds.map .str)),
    ("artifact_records", records evidence.artifacts),
    ("evaluation_ids", .arr (evidence.evaluationIds.map .str)),
    ("evaluation_records", records evidence.evaluations),
    ("prior_records", records evidence.priorDecisions),
    ("resource_scope", .obj prepared.resourceScope),
    ("policies", .arr (prepared.policies.map fun policy =>
      .obj [("scope", .str policy.scope.value), ("resource", .obj policy.resource)])),
    ("actor", .str prepared.actor)])

def validateDecision (record : Record) : Except PyError Unit :=
  match platform.violation "PolicyDecision" record with
  | some (path, message) => .error (contractError ("invalid PolicyDecision at " ++ path ++ ": " ++ message))
  | none => .ok ()

def createDecision (decisionId key : String) (record : Record) : StoreM Record := fun store =>
  match create (.obj record) key store with
  | (.ok created, after) => (.ok created, after)
  | (.error error, after) =>
    if error.errorClass = .runtimeObjectAlreadyExistsError then
      (.error { errorClass := .publicationPolicyIdentityConflictError, message := "decision id " ++
        (Json.str decisionId).repr ++ " is already bound to different publication inputs" }, after)
    else (.error error, after)

def evaluate (request : Request) : StoreM Record := do
  let prepared ← liftExcept (prepare platform request)
  let store ← read
  let failures := evidenceFailures platform store prepared.evidence
  let matched ← liftExcept (matchedRules platform (policyInput prepared failures) prepared.policies)
  let decided ← liftExcept (verdict prepared failures matched)
  let record := decisionRecord prepared failures matched decided
  liftExcept (validateDecision platform record)
  createDecision prepared.decisionId (decisionKey platform prepared) record

end Aep.PublicationPolicy
