import Aep.WorkflowScheduler.TaskExecution
import Mathlib.Data.List.Sort

namespace Aep.PublicationPolicy

open RuntimeStore

/-- What the evaluator leaves to regular expressions and to the JSON Schema validator. -/
structure Platform extends WorkflowScheduler.Platform where
  isSemver : String → Bool
  /-- What is wrong with a schema, if anything is. -/
  schemaError : Record → Option String
  isValid : Record → Json → Bool
  /-- The SHA-256 of a value's canonical text, in hexadecimal digits. -/
  digest : Json → String

variable (platform : Platform)

def contractError (message : String) : PyError :=
  { errorClass := .publicationPolicyContractError, message }

def requireText (field : String) (value : Json) : Except PyError String :=
  match value with
  | .str text => if text = "" then .error (contractError (field ++ " must be a non-empty string")) else .ok text
  | _ => .error (contractError (field ++ " must be a non-empty string"))

def requireMapping (field : String) (value : Json) : Except PyError Record :=
  match value.asRecord? with
  | some fields => .ok fields
  | none => .error (contractError (field ++ " must be a mapping"))

inductive PolicyScope where
  | platform
  | workspace
  | workflow
  | task
  | agent
  | tool
  deriving DecidableEq

def PolicyScope.value : PolicyScope → String
  | .platform => "Platform"
  | .workspace => "Workspace"
  | .workflow => "Workflow"
  | .task => "Task"
  | .agent => "Agent"
  | .tool => "Tool"

def PolicyScope.order : PolicyScope → Nat
  | .platform => 0
  | .workspace => 1
  | .workflow => 2
  | .task => 3
  | .agent => 4
  | .tool => 5

inductive PolicyDecision where
  | allow
  | requireApproval
  | deny
  deriving DecidableEq

namespace PolicyDecision

def value : PolicyDecision → String
  | .allow => "ALLOW"
  | .requireApproval => "REQUIRE_APPROVAL"
  | .deny => "DENY"

def priority : PolicyDecision → Nat
  | .allow => 0
  | .requireApproval => 1
  | .deny => 2

def effect : PolicyDecision → String
  | .allow => "allow"
  | .requireApproval => "require-approval"
  | .deny => "deny"

theorem value_injective {first second : PolicyDecision} (same : first.value = second.value) : first = second := by
  cases first <;> cases second <;> first | rfl | exact absurd same (by decide)

end PolicyDecision

def effectDecision (index : Nat) (effect : Json) : Except PyError PolicyDecision :=
  if effect = .str "allow" then .ok .allow
  else if effect = .str "require-approval" then .ok .requireApproval
  else if effect = .str "deny" then .ok .deny
  else if effect.isHashable = false then .error (unhashable effect)
  else .error (contractError ("policy rule " ++ toString index ++ " has an unsupported effect"))

structure ApplicablePolicy where
  scope : PolicyScope
  resource : Record

/-- A rule of a publication policy whose fields have been checked. -/
structure PublicationRule where
  decision : PolicyDecision
  conditions : Option Record
  reason : Option String

/-- An applicable policy with what its check reads from the resource. -/
structure ValidatedPolicy extends ApplicablePolicy where
  name : String
  version : String
  rules : List PublicationRule

def ruleReason (index : Nat) (reason : Json) : Except PyError (Option String) :=
  match reason with
  | .null => .ok none
  | .str text =>
    if text = "" then .error (contractError ("policy rule " ++ toString index ++ " reason must be a non-empty string"))
    else .ok (some text)
  | _ => .error (contractError ("policy rule " ++ toString index ++ " reason must be a non-empty string"))

def ruleConditions (index : Nat) (conditions : Json) : Except PyError (Option Record) :=
  match conditions with
  | .null => .ok none
  | value =>
    match value.asRecord? with
    | some schema => .ok (some schema)
    | none => .error (contractError
      ("policy rule " ++ toString index ++ " conditions must be a JSON Schema mapping"))

def validatedRule (index : Nat) (rule : Json) : Except PyError PublicationRule :=
  match rule.asRecord? with
  | none => .error (contractError ("policy rule " ++ toString index ++ " has an unsupported effect"))
  | some fields => do
    let decision ← effectDecision index (fields.field "effect")
    Result.raiseIf ("capabilities" ∈ fields.keys)
      (contractError ("publication policy rule " ++ toString index ++ " must not declare capabilities"))
    let reason ← ruleReason index (fields.field "reason")
    let conditions ← ruleConditions index (fields.field "conditions")
    return { decision, conditions, reason }

def validatedRules : Nat → List Json → Except PyError (List PublicationRule)
  | _, [] => .ok []
  | index, rule :: rest => do
    let first ← validatedRule index rule
    return first :: (← validatedRules (index + 1) rest)

def declaredRules (resource : Record) : List Json :=
  match mappingField (resource.field "spec") "rules" with
  | .arr rules => rules
  | _ => []

def policyName (resource : Record) : Except PyError String :=
  match mappingField (resource.field "metadata") "name" with
  | .str name => .ok name
  | _ => .error (contractError "policy metadata.name must be a non-empty string")

def policyVersion (resource : Record) : Except PyError String :=
  match mappingField (resource.field "metadata") "version" with
  | .str version =>
    if platform.isSemver version then .ok version
    else .error (contractError "policy metadata.version must be an immutable semantic version")
  | _ => .error (contractError "policy metadata.version must be an immutable semantic version")

def validatedPublicationPolicy (binding : ApplicablePolicy) : Except PyError ValidatedPolicy := do
  let resource := binding.resource
  Result.raiseIf (resource.field "apiVersion" ≠ .str "aep.dev/v1alpha1" ∨ resource.field "kind" ≠ .str "Policy")
    (contractError "applicable policy must be an aep.dev/v1alpha1 Policy")
  let name ← policyName resource
  let version ← policyVersion platform resource
  Result.raiseIf (mappingField (resource.field "spec") "type" ≠ .str "publication")
    (contractError "applicable policy must have type publication")
  Result.raiseIf (declaredRules resource = []) (contractError "policy rules must be a non-empty list")
  let rules ← validatedRules 0 (declaredRules resource)
  return { binding with name, version, rules }

def ValidatedPolicy.before (first second : ValidatedPolicy) : Prop :=
  first.scope.order < second.scope.order ∨ first.scope.order = second.scope.order ∧
    (first.name < second.name ∨ first.name = second.name ∧ first.version ≤ second.version)

instance : DecidableRel ValidatedPolicy.before := fun _ _ => inferInstanceAs (Decidable (_ ∨ _))

def sortedPolicies (bindings : List ApplicablePolicy) : Except PyError (List ValidatedPolicy) := do
  let policies ← bindings.mapM (validatedPublicationPolicy platform)
  return policies.insertionSort ValidatedPolicy.before

def ValidatedPolicy.ref (policy : ValidatedPolicy) : Json :=
  .obj [("kind", .str "Policy"), ("name", .str policy.name), ("version", .str policy.version)]

def uniqueRefs : List Json → List Json
  | [] => []
  | ref :: rest => ref :: (uniqueRefs rest).filter fun other => !other.pyEq ref

def conditionsMatch (conditions : Record) (value : Json) (name : String) (ruleIndex : Nat) : Except PyError Bool :=
  match platform.schemaError conditions with
  | some message => .error (contractError
    ("invalid conditions in " ++ name ++ " rule " ++ toString ruleIndex ++ ": " ++ message))
  | none => .ok (platform.isValid conditions value)

def ruleHolds (conditions : Option Record) (value : Json) (name : String) (ruleIndex : Nat) : Except PyError Bool :=
  match conditions with
  | none => .ok true
  | some schema => conditionsMatch platform schema value name ruleIndex

structure MatchedRule where
  policy : ValidatedPolicy
  ruleIndex : Nat
  decision : PolicyDecision

def MatchedRule.json (rule : MatchedRule) : Json :=
  .obj [("scope", .str rule.policy.scope.value), ("policyRef", rule.policy.ref),
    ("ruleIndex", .int rule.ruleIndex), ("effect", .str rule.decision.effect)]

def matchedFrom (input : Json) (policy : ValidatedPolicy) :
    Nat → List PublicationRule → Except PyError (List MatchedRule)
  | _, [] => .ok []
  | index, rule :: rest => do
    let holds ← ruleHolds platform rule.conditions input policy.name index
    let later ← matchedFrom input policy (index + 1) rest
    return if holds then { policy, ruleIndex := index, decision := rule.decision } :: later else later

def matchedRules (input : Json) (policies : List ValidatedPolicy) : Except PyError (List MatchedRule) := do
  return (← policies.mapM fun policy => matchedFrom platform input policy 0 policy.rules).flatten

def winningRule : List MatchedRule → Option MatchedRule
  | [] => none
  | rule :: rest =>
    match winningRule rest with
    | none => some rule
    | some other => if rule.decision.priority < other.decision.priority then some other else some rule

end Aep.PublicationPolicy
