import Aep.GithubTool.Execution
import Aep.Library.Result
import Mathlib.Data.List.Infix

namespace Aep.GithubTool

open Result

/-- How a verification ends before its end: with a reason, or with an exception. -/
inductive Refusal where
  | denied (reason : String)
  | raised (error : Raised)

abbrev Verify (α : Type) : Type := Except Refusal α

def demand (condition : Prop) [Decidable condition] (reason : String) : Verify Unit :=
  raiseIf (¬condition) (.denied reason)

def raiseType {α : Type} (message : String) : Verify α := .error (.raised (.other message))

structure Records where
  resolve : String → Option Record
  listByWorkflowExecution : Option (String → List Record)

/-- What the verifier leaves to Python's standard library besides. -/
structure VerifierPlatform extends Platform where
  isSemver : String → Bool
  isIdentifier : String → Bool
  /-- The SHA-256 of the canonical text of a document. -/
  sha256 : Json → String

section Reading

def typeName : Json → String
  | .null => "NoneType"
  | .bool _ => "bool"
  | .int _ => "int"
  | .float _ => "float"
  | .str _ => "str"
  | .arr _ => "list"
  | .obj _ => "dict"

/-- `value.get(key, {})`, of which a field is read next. -/
def mapping (value : Record) (key : String) : Verify Record :=
  match value.get? key with
  | none => .ok []
  | some (.obj fields) => .ok fields
  | some other => raiseType ("'" ++ typeName other ++ "' object has no attribute 'get'")

def isHashable : Json → Bool
  | .arr _ | .obj _ => false
  | _ => true

def hashed (items : List Json) : Verify (List Json) :=
  match items.find? fun item => !isHashable item with
  | some item => raiseType ("unhashable type: '" ++ typeName item ++ "'")
  | none => .ok items

/-- `set(value.get(key, ()))`, as a list of its members. -/
def setOf (value : Record) (key : String) : Verify (List Json) :=
  match value.get? key with
  | none => .ok []
  | some (.arr items) => hashed items
  | some (.obj fields) => .ok (Dict.keys fields |>.map .str)
  | some (.str text) => .ok (text.toList.map fun letter => .str (String.ofList [letter]))
  | some other => raiseType ("'" ++ typeName other ++ "' object is not iterable")

def subset (left right : List Json) : Bool := left.all fun item => right.any fun other => item.pyEq other

def pairOf : Json → Verify (String × Json)
  | .arr [.str key, value] => .ok (key, value)
  | _ => raiseType "cannot convert dictionary update sequence element"

/-- `dict(value.get(key, {}))`. A list of pairs makes a dictionary too. -/
def dictOf (value : Record) (key : String) : Verify Record :=
  match value.get? key with
  | none => .ok []
  | some (.obj fields) => .ok fields
  | some (.arr items) => do
    let pairs ← items.mapM pairOf
    pure (pairs.foldl (fun found pair => found.set pair.1 pair.2) [])
  | some (.str "") => .ok []
  | some other => raiseType ("'" ++ typeName other ++ "' object is not iterable")

/-- `item in value.get(key, ())`. -/
def containedIn (item : Json) (value : Record) (key : String) : Verify Bool :=
  match value.get? key with
  | none => .ok false
  | some (.arr members) => .ok (members.any fun member => item.pyEq member)
  | some (.obj fields) =>
    if isHashable item then .ok (Dict.keys fields |>.any fun member => item.pyEq (.str member))
    else raiseType ("unhashable type: '" ++ typeName item ++ "'")
  | some (.str text) =>
    match item with
    | .str part => .ok (decide (part.toList <:+: text.toList))
    | other => raiseType ("'in <string>' requires string as left operand, not " ++ typeName other)
  | some other => raiseType ("argument of type '" ++ typeName other ++ "' is not iterable")

def matchesAll (value : Record) (expected : List (String × String)) : Bool :=
  expected.all fun field => value.field field.1 = .str field.2

def splitAt (separator : Char) : List Char → List (List Char)
  | [] => [[]]
  | letter :: rest =>
    match splitAt separator rest with
    | [] => []
    | part :: parts => if letter = separator then [] :: part :: parts else (letter :: part) :: parts

def parts (separator : Char) (text : String) : List String := (splitAt separator text.toList).map String.ofList

end Reading

section Identity

variable (platform : VerifierPlatform)

/-- The canonical form of an identity, unless it has a character that is not safe. -/
def identity (provider owner name : String) : Option String :=
  if platform.isIdentifier provider ∧ platform.isIdentifier owner ∧ platform.isIdentifier name then
    some (platform.casefold provider ++ ":" ++ platform.casefold owner ++ "/" ++ platform.casefold name)
  else none

def fromCanonical (value : Json) (expectedProvider : String) : Option String := do
  let text ← value.asString?
  match parts ':' text with
  | [provider, path] =>
    match parts '/' path with
    | [owner, name] => do
      let canonical ← identity platform provider owner name
      if canonical ≠ platform.casefold text then none
      else if platform.casefold provider ≠ platform.casefold expectedProvider then none
      else some canonical
    | _ => none
  | _ => none

def fromNative (value : Json) (provider : String) : Option String := do
  let text ← value.asString?
  if ':' ∈ text.toList then none
  else match parts '/' text with
    | [owner, name] => identity platform provider owner name
    | _ => none

def repositoryIdentitiesMatch (canonical native : Json) (provider : String) : Bool :=
  match fromCanonical platform canonical provider, fromNative platform native provider with
  | some left, some right => left = right
  | _, _ => false

end Identity

section Evidence

def createPrCapability : String := "github.create_pr"

def readCapability : String := "github.issue.read"

def ToolRequest.evidence (request : ToolRequest) : Record :=
  ((request.input.field "publicationEvidence").asRecord?).getD []

def ToolRequest.evidenceText (request : ToolRequest) (key : String) : String := (request.evidence.field key).text

def ToolRequest.evidenceIds (request : ToolRequest) (key : String) : List String :=
  match request.evidence.field key with
  | .arr items => items.filterMap Json.asString?
  | _ => []

def ToolRequest.workflowId (request : ToolRequest) : String := request.evidenceText "workflowExecutionId"

def ToolRequest.taskId (request : ToolRequest) : String := request.evidenceText "taskExecutionId"

def ToolRequest.revision (request : ToolRequest) : String := request.evidenceText "repositoryRevision"

def ToolRequest.headRevision (request : ToolRequest) : String := request.evidenceText "headRevision"

def ToolRequest.artifactIds (request : ToolRequest) : List String := request.evidenceIds "generatedArtifactIds"

def ToolRequest.evaluationIds (request : ToolRequest) : List String := request.evidenceIds "evaluationResultIds"

def ToolRequest.gitProvenance (request : ToolRequest) : List (String × String) := [
  ("workflowExecutionId", request.workflowId),
  ("taskExecutionId", request.taskId),
  ("repositoryRevision", request.revision)]

def Records.resolveMany (records : Records) (ids : List String) : List Record :=
  (ids.mapM records.resolve).getD (ids.map fun _ => [])

end Evidence

section Verification

variable (platform : VerifierPlatform) (records : Records) (request : ToolRequest)

def checkArtifact (id : String) (artifact : Record) : Verify Unit := do
  demand (matchesAll artifact [("kind", "GeneratedArtifact"), ("id", id), ("traceId", request.traceId)])
    "GeneratedArtifact identity mismatch"
  demand (artifact.field "repositoryRevision" = .str request.revision) "GeneratedArtifact revision mismatch"
  let provenance ← mapping artifact "provenance"
  demand (provenance.field "workflowExecutionId" = .str request.workflowId) "GeneratedArtifact workflow mismatch"
  demand (provenance.field "repositoryRevision" = .str request.revision) "GeneratedArtifact provenance mismatch"
  let evaluations ← setOf artifact "evaluationResultIds"
  demand (evaluations ≠ [] ∧ subset evaluations (request.evaluationIds.map .str))
    "GeneratedArtifact evaluation binding mismatch"

def isPatch (artifact : Record) : Bool := artifact.field "artifactType" = .str "PATCH"

def contentDigest (address : String) : Option String :=
  match address.toList.dropWhile (· ≠ ':') with
  | [] => none
  | _ :: digest =>
    if address.toList.takeWhile (· ≠ ':') = "sha256".toList ∧ digest.length = 64 then some (String.ofList digest)
    else none

def contentAddress (artifact : Record) : String := (artifact.get? "contentAddress").elim "" Json.text

def checkPatch (artifacts : List Record) : Verify String :=
  match artifacts.filter isPatch with
  | [patch] =>
    match contentDigest (contentAddress patch) with
    | some digest => .ok digest
    | none => .error (.denied "Published PATCH digest mismatch")
  | _ => .error (.denied "Published PATCH evidence mismatch")

def evaluationTargets : List String :=
  ["TaskExecution", "GeneratedArtifact", "AgentInvocation", "ModelInvocation", "ToolInvocation"]

def checkEvaluation (id : String) (evaluation : Record) : Verify Unit := do
  demand (matchesAll evaluation [("kind", "EvaluationResult"), ("id", id), ("traceId", request.traceId)])
    "EvaluationResult identity mismatch"
  demand (matchesAll evaluation [("status", "SUCCEEDED"), ("outcome", "PASS")]) "Technical evaluation did not pass"
  let provenance ← mapping evaluation "provenance"
  demand (provenance.field "workflowExecutionId" = .str request.workflowId) "EvaluationResult workflow mismatch"
  demand (provenance.field "repositoryRevision" = .str request.revision) "EvaluationResult revision mismatch"
  let target ← mapping evaluation "target"
  demand (target.field "type" = .str "GeneratedArtifact" → target.field "id" ∈ request.artifactIds.map Json.str)
    "EvaluationResult artifact mismatch"
  let kind ← hashed [target.field "type"]
  demand (subset kind (evaluationTargets.map .str)) "EvaluationResult target mismatch"

def checkToolRef (invocation : Record) (reason : String) : Verify Record := do
  let toolRef ← mapping invocation "toolRef"
  demand (matchesAll toolRef [("kind", "Tool"), ("name", "git")] ∧
    ((toolRef.field "version").asString?).any platform.isSemver) reason
  pure toolRef

def checkInvocation (invocation : Record) (idKey reason : String) : Verify Unit :=
  demand (matchesAll invocation [("kind", "ToolInvocation"), ("id", request.evidenceText idKey),
    ("traceId", request.traceId), ("taskExecutionId", request.taskId), ("status", "SUCCEEDED")]) reason

def checkProvenance (record : Record) (reason : String) : Verify Unit := do
  let provenance ← mapping record "provenance"
  demand (matchesAll provenance request.gitProvenance) reason

def checkCommit (digest : String) (commit : Record) : Verify Record := do
  checkInvocation request commit "commitToolInvocationId" "Git commit identity mismatch"
  let toolRef ← checkToolRef platform commit "Git commit Tool reference mismatch"
  let input ← mapping commit "input"
  demand (matchesAll input [("operation", "commit_changes"), ("expectedRevision", request.revision),
    ("branch", request.text "head"), ("expectedPatchSha256", digest)] ∧
      ((input.field "commitMessage").asString?).any (· ≠ "")) "Git commit evidence mismatch"
  let output ← mapping commit "output"
  demand (matchesAll output [("operation", "commit_changes"), ("branch", request.text "head"),
      ("baseRevision", request.revision), ("revision", request.headRevision),
      ("remoteMutationState", "NOT_ATTEMPTED")] ∧
    repositoryIdentitiesMatch platform (output.field "repository") (request.input.field "repository") "github")
    "Git commit evidence mismatch"
  checkProvenance request commit "Git commit provenance mismatch"
  pure toolRef

def pushInput : Record := [
  ("operation", .str "push_branch"),
  ("expectedRevision", .str request.revision),
  ("branch", .str (request.text "head"))]

def checkPush (commitToolRef push : Record) : Verify Unit := do
  checkInvocation request push "pushToolInvocationId" "Git push identity mismatch"
  checkProvenance request push "Git push provenance mismatch"
  let toolRef ← checkToolRef platform push "Git push Tool reference mismatch"
  demand (Json.pyEq (.obj toolRef) (.obj commitToolRef)) "Git Tool version mismatch"
  let input ← dictOf push "input"
  demand (Json.pyEq (.obj input) (.obj (pushInput request))) "Git push input mismatch"
  let output ← mapping push "output"
  demand (matchesAll output [("operation", "push_branch"), ("branch", request.text "head"),
      ("revision", request.headRevision), ("remoteMutationState", "CONFIRMED")] ∧
    repositoryIdentitiesMatch platform (output.field "repository") (request.input.field "repository") "github")
    "Git push target mismatch"

def pushScope (toolRef : Record) : Record := [
  ("repository", .str (request.text "repository")),
  ("branch", .str (request.text "head")),
  ("repositoryRevision", .str request.revision),
  ("toolRef", .obj toolRef)]

def itemOf (value : Record) (key : String) : Verify Json :=
  match value.get? key with
  | some found => .ok found
  | none => .error (.raised (.other ("'" ++ key ++ "'")))

def artifactDigests (artifacts : List Record) : Verify (Dict String Json) :=
  artifacts.foldlM (fun digests artifact => do
    let id ← itemOf artifact "id"
    let address ← itemOf artifact "contentAddress"
    pure (digests.set id.text (.str address.text))) []

def approvalDigest (action : String) (target : Record) (digests : Dict String Json) : String :=
  "sha256:" ++ platform.sha256 (.obj [("action", .str action), ("target", .obj target),
    ("repositoryRevision", .str request.revision), ("artifactDigests", .obj digests)])

def isApproval (policy target : Record) (digests : Dict String Json) (approval : Record) : Verify Bool :=
  if matchesAll approval [("kind", "Approval"), ("status", "APPROVED")] ∧
      (approval.field "policyDecisionId").pyEq (policy.field "id") ∧
      (approval.field "target").pyEq (.obj target) ∧ (approval.field "artifactDigests").pyEq (.obj digests) ∧
      approval.field "artifactRequestDigest" =
        .str (approvalDigest platform request (policy.field "action").text target digests) then
    containedIn (approval.field "approver") approval "authorizedReviewers"
  else .ok false

def anyApproval (isOne : Record → Verify Bool) : List Record → Verify Bool
  | [] => .ok false
  | approval :: rest => do
    if ← isOne approval then pure true
    else anyApproval isOne rest

def policyAllowedWithApproval (policy target : Record) (artifacts : List Record) : Verify Bool :=
  if policy.field "decision" = .str "ALLOW" then .ok true
  else
    match records.listByWorkflowExecution with
    | none => .ok false
    | some list =>
      if policy.field "decision" ≠ .str "REQUIRE_APPROVAL" then .ok false
      else do
        let digests ← artifactDigests artifacts
        anyApproval (isApproval platform request policy target digests) (list request.workflowId)

def checkPushPolicy (artifacts : List Record) (commit push pushPolicy : Record) (policyId : String) : Verify Unit := do
  demand (commit.field "policyDecisionId" = .str policyId) "Git commit policy mismatch"
  demand (matchesAll pushPolicy [("kind", "PolicyDecision"), ("id", policyId), ("traceId", request.traceId),
    ("taskExecutionId", request.taskId), ("gate", "PRE_EXECUTION_CAPABILITY"), ("action", "git.push")])
    "Git push policy mismatch"
  checkProvenance request pushPolicy "Git push policy provenance mismatch"
  let toolRef ← mapping push "toolRef"
  let scope ← mapping pushPolicy "resourceScope"
  demand ((pushScope request toolRef).all fun field => (scope.field field.1).pyEq field.2)
    "Git push policy target mismatch"
  let allowed ← policyAllowedWithApproval platform records request pushPolicy (pushScope request toolRef) artifacts
  demand allowed "Git push policy approval mismatch"

def checkPolicy (artifacts : List Record) (policy : Record) : Verify String := do
  demand (matchesAll policy [("kind", "PolicyDecision"), ("id", request.evidenceText "policyDecisionId"),
    ("traceId", request.traceId), ("taskExecutionId", request.taskId), ("gate", "PUBLICATION"),
    ("action", createPrCapability), ("repositoryRevision", request.revision)]) "Publication Policy evidence mismatch"
  let evaluations ← setOf policy "evaluationResultIds"
  demand (subset evaluations (request.evaluationIds.map .str) ∧ subset (request.evaluationIds.map .str) evaluations)
    "Publication evaluation binding mismatch"
  let generated ← setOf policy "generatedArtifactIds"
  demand (subset generated (request.artifactIds.map .str) ∧ subset (request.artifactIds.map .str) generated)
    "Publication artifact binding mismatch"
  let provenance ← mapping policy "provenance"
  demand (provenance.field "workflowExecutionId" = .str request.workflowId) "Publication Policy workflow mismatch"
  let scope ← mapping policy "resourceScope"
  demand (scope.field "repository" = .str (request.text "repository")) "Publication Policy repository mismatch"
  let target ← mapping policy "publicationTarget"
  demand (matchesAll target [("repository", request.text "repository"), ("head", request.text "head"),
    ("base", request.text "base"), ("repositoryRevision", request.revision),
    ("commitToolInvocationId", request.evidenceText "commitToolInvocationId"),
    ("pushToolInvocationId", request.evidenceText "pushToolInvocationId")]) "Publication target mismatch"
  let allowed ← policyAllowedWithApproval platform records request policy target artifacts
  demand allowed "Publication approval mismatch"
  pure (((policy.get? "reason").getD (.str "Publication allowed")).text)

def found (record : Option Record) (reason : String) : Verify Record :=
  match record with
  | some record => .ok record
  | none => .error (.denied reason)

def pushPolicyOf (push : Record) : Verify (String × Record) :=
  match push.field "policyDecisionId" with
  | .str id => do
    let policy ← found (records.resolve id) "Git push PolicyDecision not found"
    pure (id, policy)
  | _ => .error (.denied "Git push PolicyDecision missing")

def each {α : Type} (check : α → Verify Unit) : List α → Verify Unit
  | [] => .ok ()
  | item :: rest => do
    check item
    each check rest

/-- The reason of the policy decision, where all of the persisted evidence supports the publication. -/
def verify : Verify String := do
  demand (request.callerKind = "TaskExecution" ∧ request.callerId = request.taskId) "Publication task identity mismatch"
  let artifacts := records.resolveMany request.artifactIds
  let evaluations := records.resolveMany request.evaluationIds
  let policy ← found (records.resolve (request.evidenceText "policyDecisionId")) "Publication Policy decision not found"
  let commit ← found (records.resolve (request.evidenceText "commitToolInvocationId")) "Git commit evidence not found"
  let push ← found (records.resolve (request.evidenceText "pushToolInvocationId")) "Git push evidence not found"
  demand (request.headRevision ≠ request.revision) "Published head did not advance"
  each (fun entry => checkArtifact request entry.1 entry.2) (request.artifactIds.zip artifacts)
  let digest ← checkPatch artifacts
  each (fun entry => checkEvaluation request entry.1 entry.2) (request.evaluationIds.zip evaluations)
  let toolRef ← checkCommit platform request digest commit
  checkPush platform request toolRef push
  let (policyId, pushPolicy) ← pushPolicyOf records push
  checkPushPolicy platform records request artifacts commit push pushPolicy policyId
  checkPolicy platform records request artifacts policy

end Verification

section Invocation

variable (platform : VerifierPlatform) (config : GitHubAppConfig) (maxReadAttempts : Nat)

def policyFailure (request : ToolRequest) (message gate : String) : Prog ToolResult := do
  let now : String ← ask .utcnow
  return {
    status := .denied
    output := .obj [("operation", request.operation), ("repository", request.input.field "repository"),
      ("failure", .obj [("category", .str "POLICY"), ("gate", .str gate), ("retryable", .bool false),
        ("traceId", .str request.traceId)])]
    durationMs := 0
    startedAt := now
    completedAt := now
    failureClass := some .policy
    failureMessage := some message }

def expectedCapabilities (request : ToolRequest) : List String :=
  if request.operation = .str readIssueName then [readCapability] else [createPrCapability]

def invokeGithubTool (records : Option Records) (request : ToolRequest) : Prog ToolResult :=
  let invoke := invokeTool platform.toPlatform config maxReadAttempts request
  if ¬inputShape platform.toPlatform (.obj request.input) then invoke
  else if request.capabilities ≠ expectedCapabilities request then
    policyFailure request "request capabilities do not match the GitHub operation" "pre-execution-capability"
  else if request.operation ≠ .str createPullRequestName then invoke
  else
    match records with
    | none => policyFailure request "trusted Publication Policy verifier is required" "publication-policy"
    | some records =>
      match verify platform records request with
      | .ok _ => invoke
      | .error (.denied reason) => policyFailure request reason "publication-policy"
      | .error (.raised error) => .raise error

end Invocation

end Aep.GithubTool
