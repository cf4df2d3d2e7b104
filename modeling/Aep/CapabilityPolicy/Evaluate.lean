import Aep.PublicationPolicy.Evaluate
import Mathlib.Data.List.MinMax

namespace Aep.CapabilityPolicy

open StateAction RuntimeStore

open PublicationPolicy (Platform ApplicablePolicy PolicyScope PolicyDecision Correlation boundCorrelation declaredRules
  uniqueRefs)

variable (platform : Platform)

def contractError (message : String) : PyError := { errorClass := .capabilityPolicyContractError, message }

def requireText (field : String) (value : Json) : Except PyError String :=
  match value with
  | .str text => if text = "" then .error (contractError (field ++ " must be a non-empty string")) else .ok text
  | _ => .error (contractError (field ++ " must be a non-empty string"))

def requireMapping (field : String) (value : Json) : Except PyError Record :=
  match value.asRecord? with
  | some fields => .ok fields
  | none => .error (contractError (field ++ " must be a mapping"))

section Policies

structure CapabilityRule where
  decision : PolicyDecision
  capabilities : List String
  conditions : Option Record
  reason : Option String

/-- An applicable policy with what its check reads from the resource. -/
structure ValidatedPolicy extends ApplicablePolicy where
  name : String
  version : String
  rules : List CapabilityRule

def ruleError (index : Nat) (message : String) : PyError := contractError ("policy rule " ++ toString index ++ message)

def effectDecision (index : Nat) (effect : Json) : Except PyError PolicyDecision :=
  if effect = .str "allow" then .ok .allow
  else if effect = .str "require-approval" then .ok .requireApproval
  else if effect = .str "deny" then .ok .deny
  else if effect.isHashable = false then .error (unhashable effect)
  else .error (ruleError index (" has unsupported effect " ++ effect.repr))

def capabilityName (item : Json) : Option String := item.asString?.filter (· ≠ "")

def ruleCapabilities (index : Nat) (capabilities : Json) : Except PyError (List String) :=
  match (capabilities.asItems?.filter (!·.isEmpty)).bind fun items => items.mapM capabilityName with
  | none => .error (ruleError index " capabilities must be a non-empty string list")
  | some names => if names.Nodup then .ok names else .error (ruleError index " capabilities must be unique")

def ruleReason (index : Nat) (reason : Json) : Except PyError (Option String) :=
  match reason with
  | .null => .ok none
  | .str text => if text = "" then .error (ruleError index " reason must be a non-empty string") else .ok (some text)
  | _ => .error (ruleError index " reason must be a non-empty string")

def ruleConditions (index : Nat) (conditions : Json) : Except PyError (Option Record) :=
  match conditions with
  | .null => .ok none
  | .obj schema => .ok (some schema)
  | _ => .error (ruleError index " conditions must be a JSON Schema mapping")

def validatedRule (index : Nat) (rule : Json) : Except PyError CapabilityRule :=
  match rule.asRecord? with
  | none => .error (ruleError index " must be a mapping")
  | some fields => do
    let decision ← effectDecision index (fields.field "effect")
    let capabilities ← ruleCapabilities index (fields.field "capabilities")
    let reason ← ruleReason index (fields.field "reason")
    let conditions ← ruleConditions index (fields.field "conditions")
    return { decision, capabilities, conditions, reason }

def validatedRules : Nat → List Json → Except PyError (List CapabilityRule)
  | _, [] => .ok []
  | index, rule :: rest => do
    let first ← validatedRule index rule
    return first :: (← validatedRules (index + 1) rest)

def policyVersion (version : Json) : Except PyError String :=
  match version with
  | .str text =>
    if platform.isSemver text then .ok text
    else .error (contractError "policy metadata.version must be an immutable semantic version")
  | _ => .error (contractError "policy metadata.version must be an immutable semantic version")

def validatedPolicy (binding : ApplicablePolicy) : Except PyError ValidatedPolicy := do
  let resource := binding.resource
  Result.raiseIf (resource.field "apiVersion" ≠ .str "aep.dev/v1alpha1")
    (contractError "policy resource apiVersion must be aep.dev/v1alpha1")
  Result.raiseIf (resource.field "kind" ≠ .str "Policy") (contractError "policy resource kind must be Policy")
  let metadata ← requireMapping "policy metadata" (resource.field "metadata")
  let name ← requireText "policy metadata.name" (metadata.field "name")
  let version ← policyVersion platform (metadata.field "version")
  let spec ← requireMapping "policy spec" (resource.field "spec")
  Result.raiseIf (spec.field "type" ≠ .str "pre-execution-capability")
    (contractError "applicable policy must have type pre-execution-capability")
  Result.raiseIf (declaredRules resource = []) (contractError "policy rules must be a non-empty list")
  let rules ← validatedRules 0 (declaredRules resource)
  return { binding with name, version, rules }

def ValidatedPolicy.before (first second : ValidatedPolicy) : Prop :=
  first.scope.order < second.scope.order ∨ first.scope.order = second.scope.order ∧
    (first.name < second.name ∨ first.name = second.name ∧ first.version ≤ second.version)

instance : DecidableRel ValidatedPolicy.before := fun _ _ => inferInstanceAs (Decidable (_ ∨ _))

def sortedPolicies (bindings : List ApplicablePolicy) : Except PyError (List ValidatedPolicy) := do
  let policies ← bindings.mapM (validatedPolicy platform)
  return policies.insertionSort ValidatedPolicy.before

def ValidatedPolicy.ref (policy : ValidatedPolicy) : Json :=
  .obj [("kind", .str "Policy"), ("name", .str policy.name), ("version", .str policy.version)]

def conditionsMatch (conditions : Record) (input : Json) (name : String) (ruleIndex : Nat) : Except PyError Bool :=
  match platform.schemaError conditions with
  | some message => .error (contractError
    ("invalid conditions in " ++ name ++ " rule " ++ toString ruleIndex ++ ": " ++ message))
  | none => .ok (platform.isValid conditions input)

/-- A rule without conditions always holds, and those of other capabilities are not looked at. -/
def ruleApplies (capability : String) (input : Json) (name : String) (ruleIndex : Nat) (rule : CapabilityRule) :
    Except PyError Bool :=
  if capability ∉ rule.capabilities then .ok false
  else match rule.conditions with
    | none => .ok true
    | some conditions => conditionsMatch platform conditions input name ruleIndex

structure MatchedRule where
  policy : ValidatedPolicy
  ruleIndex : Nat
  decision : PolicyDecision

def MatchedRule.json (rule : MatchedRule) : Json :=
  .obj [("scope", .str rule.policy.scope.value), ("policyRef", rule.policy.ref),
    ("ruleIndex", .int rule.ruleIndex), ("effect", .str rule.decision.effect)]

variable (capability : String) (input : Json)

def matchedFrom (policy : ValidatedPolicy) : Nat → List CapabilityRule → Except PyError (List MatchedRule)
  | _, [] => .ok []
  | index, rule :: rest => do
    let applies ← ruleApplies platform capability input policy.name index rule
    let later ← matchedFrom policy (index + 1) rest
    return if applies then { policy, ruleIndex := index, decision := rule.decision } :: later else later

def matchedRules (policies : List ValidatedPolicy) : Except PyError (List MatchedRule) := do
  return (← policies.mapM fun policy => matchedFrom platform capability input policy 0 policy.rules).flatten

def winningRule (matched : List MatchedRule) : Option MatchedRule := matched.argmax fun rule => rule.decision.priority

def defaultReason (decision : PolicyDecision) (rule : MatchedRule) : String :=
  decision.value ++ " for " ++ capability ++ " by " ++ rule.policy.scope.value ++ " policy " ++ rule.policy.name ++ "@" ++
    rule.policy.version ++ " rule " ++ toString rule.ruleIndex ++ "."

def winningReason (policies : List ValidatedPolicy) (winning : MatchedRule) : Except PyError String :=
  match (policies.find? fun item => item.ref = winning.policy.ref).bind fun item => item.rules[winning.ruleIndex]? with
  | some source => .ok (source.reason.getD (defaultReason capability winning.decision winning))
  | none => .error { errorClass := .indexError, message := "list index out of range" }

structure Verdict where
  decision : PolicyDecision
  reason : String
  winning : Option MatchedRule

def verdict (policies : List ValidatedPolicy) (matched : List MatchedRule) : Except PyError Verdict :=
  match winningRule matched with
  | some winning => do
    return ⟨winning.decision, ← winningReason capability policies winning, some winning⟩
  | none => .ok ⟨.deny, "No applicable rule authorizes capability " ++ capability ++ ".", none⟩

end Policies

structure Request where
  decisionId : Json
  taskExecutionId : Json
  capability : Json
  actor : Json
  resourceScope : Json
  executionContext : Json
  applicablePolicies : List ApplicablePolicy
  correlation : Correlation
  timestamp : Json

/-- The arguments once they have passed their checks, but for the policies. -/
structure Prepared where
  decisionId : String
  taskExecutionId : String
  capability : String
  actor : String
  context : WorkflowScheduler.CorrelationContext
  timestamp : String
  resourceScope : Record
  executionContext : Record

def prepare (request : Request) : Except PyError Prepared := do
  let decisionId ← requireText "decision_id" request.decisionId
  let taskExecutionId ← requireText "task_execution_id" request.taskExecutionId
  let capability ← requireText "capability" request.capability
  let actor ← requireText "actor" request.actor
  let context ← boundCorrelation platform request.correlation taskExecutionId
  let timestamp ← requireText "timestamp" request.timestamp
  let resourceScope ← requireMapping "resource_scope" request.resourceScope
  let executionContext ← requireMapping "execution_context" request.executionContext
  return { decisionId, taskExecutionId, capability, actor, context, timestamp, resourceScope, executionContext }

def policyInput (prepared : Prepared) : Json := .obj [
  ("capability", .str prepared.capability),
  ("actor", .str prepared.actor),
  ("resourceScope", .obj prepared.resourceScope),
  ("executionContext", .obj prepared.executionContext)]

def provenance (prepared : Prepared) (policyRefs : Json) : Record :=
  let base : Record := [("actor", .str "policy-engine"), ("caller", .str prepared.actor),
    ("workflowExecutionId", .str prepared.context.workflowExecutionId),
    ("taskExecutionId", .str prepared.taskExecutionId), ("resourceRefs", policyRefs)]
  match prepared.resourceScope.field "repositoryRevision" with
  | .str revision => if revision = "" then base else base.set "repositoryRevision" (.str revision)
  | _ => base

def decisionRecord (prepared : Prepared) (policies : List ValidatedPolicy) (matched : List MatchedRule)
    (verdict : Verdict) : Record :=
  let policyRefs := Json.arr (uniqueRefs (policies.map ValidatedPolicy.ref))
  [("apiVersion", .str "aep.dev/v1alpha1"),
    ("kind", .str "PolicyDecision"),
    ("id", .str prepared.decisionId),
    ("traceId", .str prepared.context.traceId),
    ("createdAt", .str prepared.timestamp),
    ("updatedAt", .str prepared.timestamp),
    ("provenance", .obj (provenance prepared policyRefs)),
    ("taskExecutionId", .str prepared.taskExecutionId),
    ("gate", .str "PRE_EXECUTION_CAPABILITY"),
    ("policyRefs", policyRefs),
    ("action", .str prepared.capability),
    ("decision", .str verdict.decision.value),
    ("reason", .str verdict.reason),
    ("approvalRequired", .bool (verdict.decision = .requireApproval)),
    ("evaluatedAt", .str prepared.timestamp),
    ("subject", .str prepared.actor),
    ("resourceScope", .obj prepared.resourceScope),
    ("evaluatedRule", (verdict.winning.map MatchedRule.json).getD .null),
    ("matchedRules", .arr (matched.map MatchedRule.json))]

def decisionKey (prepared : Prepared) (policies : List ValidatedPolicy) : String :=
  "pre-execution-policy:" ++ platform.digest (.obj [
    ("decisionId", .str prepared.decisionId),
    ("taskExecutionId", .str prepared.taskExecutionId),
    ("traceId", .str prepared.context.traceId),
    ("capability", .str prepared.capability),
    ("actor", .str prepared.actor),
    ("resourceScope", .obj prepared.resourceScope),
    ("executionContext", .obj prepared.executionContext),
    ("policies", .arr (policies.map fun policy =>
      .obj [("scope", .str policy.scope.value), ("resource", .obj policy.resource)]))])

def createDecision (decisionId key : String) (record : Record) : StoreM Record := fun store =>
  match create (.obj record) key store with
  | (.ok created, after) => (.ok created, after)
  | (.error error, after) =>
    if error.errorClass = .runtimeObjectAlreadyExistsError then
      (.error { errorClass := .capabilityPolicyIdentityConflictError, message := "decision id " ++
        (Json.str decisionId).repr ++ " is already bound to different authorization inputs" }, after)
    else (.error error, after)

structure Decided where
  prepared : Prepared
  policies : List ValidatedPolicy
  matched : List MatchedRule
  verdict : Verdict

def decide (request : Request) : Except PyError Decided := do
  let prepared ← prepare platform request
  let policies ← sortedPolicies platform request.applicablePolicies
  let matched ← matchedRules platform prepared.capability (policyInput prepared) policies
  let verdict ← verdict prepared.capability policies matched
  return { prepared, policies, matched, verdict }

def evaluate (request : Request) : StoreM Record := do
  let decided ← liftExcept (decide platform request)
  createDecision decided.prepared.decisionId (decisionKey platform decided.prepared decided.policies)
    (decisionRecord decided.prepared decided.policies decided.matched decided.verdict)

end Aep.CapabilityPolicy
