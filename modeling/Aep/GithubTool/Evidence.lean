import Aep.GithubTool.Publication
import Aep.GithubTool.Accounting

namespace Aep.GithubTool

open Result Program

def inside (value : Record) (outer inner : String) : Json :=
  (value.field outer).asRecord?.elim .null fun fields => fields.field inner

section Checks

variable {α : Type}

@[simp] theorem demand_eq_ok {condition : Prop} [Decidable condition] {reason : String} {result : Unit} :
    demand condition reason = .ok result ↔ condition := by
  simp [demand]

theorem each_ok {check : α → Verify Unit} {items : List α} {result : Unit}
    (passed : each check items = .ok result) : ∀ item ∈ items, check item = .ok () := by
  induction items with
  | nil => simp
  | cons item rest ih =>
    simp only [each, bind_eq_ok] at passed
    obtain ⟨_, first, others⟩ := passed
    intro other member
    rcases List.mem_cons.mp member with rfl | later
    · exact first
    · exact ih others other later

theorem found_eq_ok {record : Option Record} {reason : String} {value : Record} :
    found record reason = .ok value ↔ record = some value := by
  cases record <;> simp [found]

theorem inside_of_mapping {value fields : Record} {outer : String} (read : mapping value outer = .ok fields)
    (inner : String) : inside value outer inner = fields.field inner := by
  unfold mapping at read
  unfold inside Dict.field
  cases field : value.get? outer with
  | none =>
    rw [field] at read
    cases read
    rfl
  | some content =>
    rw [field] at read
    cases content with
    | obj record =>
      cases read
      rfl
    | _ => cases read

theorem matchesAll_iff {value : Record} {expected : List (String × String)} :
    matchesAll value expected = true ↔ ∀ field ∈ expected, value.field field.1 = .str field.2 := by
  simp [matchesAll]

end Checks

variable {platform : VerifierPlatform} {records : Records} {request : ToolRequest}

structure ArtifactBound (request : ToolRequest) (id : String) (artifact : Record) : Prop where
  kind : artifact.field "kind" = .str "GeneratedArtifact"
  identified : artifact.field "id" = .str id
  traced : artifact.field "traceId" = .str request.traceId
  workflow : inside artifact "provenance" "workflowExecutionId" = .str request.workflowId
  revision : artifact.field "repositoryRevision" = .str request.revision
  provenance : inside artifact "provenance" "repositoryRevision" = .str request.revision

theorem checkArtifact_ok {id : String} {artifact : Record} (passed : checkArtifact request id artifact = .ok ()) :
    ArtifactBound request id artifact := by
  simp only [checkArtifact, bind_eq_ok, demand_eq_ok, matchesAll_iff, List.forall_mem_cons] at passed
  obtain ⟨-, ⟨kind, identified, traced, -⟩, -, revision, provenance, read, -, workflow, -, within, -⟩ := passed
  rw [← inside_of_mapping read] at workflow within
  exact ⟨kind, identified, traced, workflow, revision, within⟩

/-- An evaluation of the request's trace, workflow and revision that passed. -/
structure EvaluationBound (request : ToolRequest) (id : String) (evaluation : Record) : Prop where
  kind : evaluation.field "kind" = .str "EvaluationResult"
  identified : evaluation.field "id" = .str id
  traced : evaluation.field "traceId" = .str request.traceId
  status : evaluation.field "status" = .str "SUCCEEDED"
  outcome : evaluation.field "outcome" = .str "PASS"
  workflow : inside evaluation "provenance" "workflowExecutionId" = .str request.workflowId
  revision : inside evaluation "provenance" "repositoryRevision" = .str request.revision

theorem checkEvaluation_ok {id : String} {evaluation : Record}
    (passed : checkEvaluation request id evaluation = .ok ()) : EvaluationBound request id evaluation := by
  simp only [checkEvaluation, bind_eq_ok, demand_eq_ok, matchesAll_iff, List.forall_mem_cons] at passed
  obtain ⟨-, ⟨kind, identified, traced, -⟩, -, ⟨status, outcome, -⟩, provenance, read, -, workflow, -, revision, -⟩ :=
    passed
  rw [← inside_of_mapping read] at workflow revision
  exact ⟨kind, identified, traced, status, outcome, workflow, revision⟩

theorem contentDigest_eq_some {address digest : String} (found : contentDigest address = some digest) :
    address = "sha256:" ++ digest := by
  unfold contentDigest at found
  have whole := List.takeWhile_append_dropWhile (p := fun letter => decide (letter ≠ ':')) (l := address.toList)
  split at found
  · cases found
  · rename_i separator rest after
    split at found
    · rename_i algorithm
      cases found
      have colon : separator = ':' := by
        have head := List.head?_dropWhile_not (fun letter => decide (letter ≠ ':')) address.toList
        rw [after] at head
        simpa using head
      apply String.toList_inj.mp
      rw [← whole, after, algorithm.1, colon]
      simp
    · cases found

theorem checkPatch_ok {artifacts : List Record} {digest : String} (passed : checkPatch artifacts = .ok digest) :
    ∃ patch, artifacts.filter isPatch = [patch] ∧ contentAddress patch = "sha256:" ++ digest := by
  unfold checkPatch at passed
  split at passed
  · rename_i patch one
    split at passed
    · rename_i found same
      cases passed
      exact ⟨patch, one, contentDigest_eq_some same⟩
    · cases passed
  · cases passed

/-- A successful commit of this patch on the request's branch, from its base revision to its head revision. -/
structure CommitBound (request : ToolRequest) (digest : String) (commit : Record) : Prop where
  kind : commit.field "kind" = .str "ToolInvocation"
  traced : commit.field "traceId" = .str request.traceId
  task : commit.field "taskExecutionId" = .str request.taskId
  status : commit.field "status" = .str "SUCCEEDED"
  patch : inside commit "input" "expectedPatchSha256" = .str digest
  branch : inside commit "output" "branch" = .str (request.text "head")
  base : inside commit "output" "baseRevision" = .str request.revision
  revision : inside commit "output" "revision" = .str request.headRevision

theorem checkCommit_ok {digest : String} {commit toolRef : Record}
    (passed : checkCommit platform request digest commit = .ok toolRef) : CommitBound request digest commit := by
  simp only [checkCommit, checkInvocation, bind_eq_ok, demand_eq_ok, matchesAll_iff, List.forall_mem_cons] at passed
  obtain ⟨-, ⟨kind, -, traced, task, status, -⟩, -, -, input, readInput, -, ⟨⟨-, -, -, patch, -⟩, -⟩, output, readOutput,
    -, ⟨⟨-, branch, base, revision, -⟩, -⟩, -⟩ := passed
  rw [← inside_of_mapping readInput] at patch
  rw [← inside_of_mapping readOutput] at branch base revision
  exact ⟨kind, traced, task, status, patch, branch, base, revision⟩

/-- A successful push of the request's branch, whose head revision the remote confirmed. -/
structure PushBound (request : ToolRequest) (push : Record) : Prop where
  kind : push.field "kind" = .str "ToolInvocation"
  traced : push.field "traceId" = .str request.traceId
  task : push.field "taskExecutionId" = .str request.taskId
  status : push.field "status" = .str "SUCCEEDED"
  branch : inside push "output" "branch" = .str (request.text "head")
  revision : inside push "output" "revision" = .str request.headRevision
  confirmed : inside push "output" "remoteMutationState" = .str "CONFIRMED"

theorem checkPush_ok {commitToolRef push : Record}
    (passed : checkPush platform request commitToolRef push = .ok ()) : PushBound request push := by
  simp only [checkPush, checkInvocation, bind_eq_ok, demand_eq_ok, matchesAll_iff, List.forall_mem_cons] at passed
  obtain ⟨-, ⟨kind, -, traced, task, status, -⟩, -, -, -, -, -, -, -, -, -, -, output, read,
    ⟨-, branch, revision, confirmed, -⟩, -⟩ := passed
  rw [← inside_of_mapping read] at branch revision confirmed
  exact ⟨kind, traced, task, status, branch, revision, confirmed⟩

/-- An approved approval of just this decision, target and artifacts, by one of its reviewers. -/
structure Approves (platform : VerifierPlatform) (request : ToolRequest) (policy target : Record)
    (digests : Dict String Json) (approval : Record) : Prop where
  kind : approval.field "kind" = .str "Approval"
  status : approval.field "status" = .str "APPROVED"
  decision : (approval.field "policyDecisionId").pyEq (policy.field "id") = true
  target_eq : (approval.field "target").pyEq (.obj target) = true
  artifacts : (approval.field "artifactDigests").pyEq (.obj digests) = true
  digest : approval.field "artifactRequestDigest" =
    .str (approvalDigest platform request (policy.field "action").text target digests)
  reviewed : containedIn (approval.field "approver") approval "authorizedReviewers" = .ok true

theorem isApproval_true {policy target approval : Record} {digests : Dict String Json}
    (passed : isApproval platform request policy target digests approval = .ok true) :
    Approves platform request policy target digests approval := by
  unfold isApproval at passed
  split at passed
  · rename_i bound
    obtain ⟨matched, decision, targets, artifacts, digest⟩ := bound
    simp only [matchesAll_iff, List.forall_mem_cons] at matched
    exact ⟨matched.1, matched.2.1, decision, targets, artifacts, digest, passed⟩
  · cases passed

theorem anyApproval_true {isOne : Record → Verify Bool} {approvals : List Record}
    (passed : anyApproval isOne approvals = .ok true) : ∃ approval ∈ approvals, isOne approval = .ok true := by
  induction approvals with
  | nil => cases passed
  | cons approval rest ih =>
    simp only [anyApproval, bind_eq_ok] at passed
    obtain ⟨one, checked, passed⟩ := passed
    cases one with
    | true => exact ⟨approval, List.mem_cons_self, checked⟩
    | false =>
      obtain ⟨other, later, holds⟩ := ih passed
      exact ⟨other, List.mem_cons_of_mem _ later, holds⟩

/-- The policy allows the target outright, or an approval that the store lists does. -/
def Decided (platform : VerifierPlatform) (records : Records) (request : ToolRequest) (policy target : Record)
    (artifacts : List Record) : Prop :=
  policy.field "decision" = .str "ALLOW" ∨
    policy.field "decision" = .str "REQUIRE_APPROVAL" ∧ ∃ list digests approval,
      records.listByWorkflowExecution = some list ∧ artifactDigests artifacts = .ok digests ∧
        approval ∈ list request.workflowId ∧ Approves platform request policy target digests approval

theorem policyAllowedWithApproval_true {policy target : Record} {artifacts : List Record}
    (passed : policyAllowedWithApproval platform records request policy target artifacts = .ok true) :
    Decided platform records request policy target artifacts := by
  unfold policyAllowedWithApproval at passed
  split at passed
  · rename_i allowed
    exact .inl allowed
  · split at passed
    · cases passed
    · rename_i list listed
      split at passed
      · cases passed
      · rename_i required
        simp only [bind_eq_ok] at passed
        obtain ⟨digests, made, passed⟩ := passed
        obtain ⟨approval, member, one⟩ := anyApproval_true passed
        exact .inr ⟨not_not.mp required, list, digests, approval, listed, made, member, isApproval_true one⟩

structure PushPolicyBound (request : ToolRequest) (policyId : String) (policy : Record) : Prop where
  kind : policy.field "kind" = .str "PolicyDecision"
  identified : policy.field "id" = .str policyId
  traced : policy.field "traceId" = .str request.traceId
  task : policy.field "taskExecutionId" = .str request.taskId
  action : policy.field "action" = .str "git.push"
  repository : inside policy "resourceScope" "repository" = .str (request.text "repository")
  branch : inside policy "resourceScope" "branch" = .str (request.text "head")
  revision : inside policy "resourceScope" "repositoryRevision" = .str request.revision

theorem checkPushPolicy_ok {artifacts : List Record} {commit push policy : Record} {policyId : String}
    (passed : checkPushPolicy platform records request artifacts commit push policy policyId = .ok ()) :
    commit.field "policyDecisionId" = .str policyId ∧ PushPolicyBound request policyId policy ∧
      ∃ toolRef, mapping push "toolRef" = .ok toolRef ∧
        Decided platform records request policy (pushScope request toolRef) artifacts := by
  simp only [checkPushPolicy, bind_eq_ok, demand_eq_ok, matchesAll_iff, List.forall_mem_cons, pushScope,
    List.all_cons, Bool.and_eq_true, Json.pyEq_str] at passed
  obtain ⟨-, same, -, ⟨kind, identified, traced, task, -, action, -⟩, -, -, toolRef, readRef, scope, readScope, -,
    ⟨repository, branch, revision, -⟩, allowed, decided, rfl⟩ := passed
  rw [← inside_of_mapping readScope] at repository branch revision
  exact ⟨same, ⟨kind, identified, traced, task, action, repository, branch, revision⟩, toolRef, readRef,
    policyAllowedWithApproval_true decided⟩

/-- A policy decision on the publication of the request's branch. -/
structure PolicyBound (request : ToolRequest) (policy target : Record) : Prop where
  kind : policy.field "kind" = .str "PolicyDecision"
  identified : policy.field "id" = .str (request.evidenceText "policyDecisionId")
  traced : policy.field "traceId" = .str request.traceId
  task : policy.field "taskExecutionId" = .str request.taskId
  action : policy.field "action" = .str createPrCapability
  revision : policy.field "repositoryRevision" = .str request.revision
  workflow : inside policy "provenance" "workflowExecutionId" = .str request.workflowId
  target_eq : mapping policy "publicationTarget" = .ok target
  repository : target.field "repository" = .str (request.text "repository")
  branch : target.field "head" = .str (request.text "head")
  base : target.field "base" = .str (request.text "base")
  target_revision : target.field "repositoryRevision" = .str request.revision

theorem checkPolicy_ok {artifacts : List Record} {policy : Record} {reason : String}
    (passed : checkPolicy platform records request artifacts policy = .ok reason) :
    ∃ target, PolicyBound request policy target ∧ Decided platform records request policy target artifacts := by
  simp only [checkPolicy, bind_eq_ok, demand_eq_ok, matchesAll_iff, List.forall_mem_cons] at passed
  obtain ⟨-, ⟨kind, identified, traced, task, -, action, revision, -⟩, -, -, -, -, -, -, -, -, provenance, readProvenance,
    -, workflow, -, -, -, -, target, readTarget, -, ⟨repository, branch, base, targetRevision, -⟩, allowed, decided, -,
    rfl, -⟩ := passed
  rw [← inside_of_mapping readProvenance] at workflow
  exact ⟨target, ⟨kind, identified, traced, task, action, revision, workflow, readTarget, repository, branch, base,
    targetRevision⟩, policyAllowedWithApproval_true decided⟩

theorem pushPolicyOf_ok {push policy : Record} {policyId : String}
    (passed : pushPolicyOf records push = .ok (policyId, policy)) :
    push.field "policyDecisionId" = .str policyId ∧ records.resolve policyId = some policy := by
  unfold pushPolicyOf at passed
  split at passed
  · rename_i id named
    simp only [bind_eq_ok, found_eq_ok, pure_eq_ok, Prod.mk.injEq] at passed
    obtain ⟨_, resolved, rfl, rfl⟩ := passed
    exact ⟨named, resolved⟩
  · cases passed

theorem resolveMany_referenced {ids : List String} {check : String → Record → Verify Unit}
    (refuses : ∀ id, check id [] ≠ .ok ())
    (passed : ∀ entry ∈ ids.zip (records.resolveMany ids), check entry.1 entry.2 = .ok ()) :
    List.Forall₂ (fun id record => records.resolve id = some record) ids (records.resolveMany ids) := by
  cases resolved : ids.mapM records.resolve with
  | some values =>
    have same : records.resolveMany ids = values := by simp [Records.resolveMany, resolved]
    rw [same]
    exact forall₂_of_mapM_some resolved
  | none =>
    cases ids with
    | nil => cases resolved
    | cons id rest =>
      have empty : records.resolveMany (id :: rest) = [] :: rest.map fun _ => [] := by
        simp [Records.resolveMany, resolved]
      rw [empty] at passed
      exact absurd (passed (id, []) List.mem_cons_self) (refuses id)

theorem bound_of_checked {ids : List String} {values : List Record} {check : String → Record → Verify Unit}
    {bound : String → Record → Prop} (holds : ∀ {id record}, check id record = .ok () → bound id record)
    (length : ids.length = values.length) (passed : ∀ entry ∈ ids.zip values, check entry.1 entry.2 = .ok ()) :
    List.Forall₂ bound ids values :=
  List.forall₂_iff_zip.mpr ⟨length, fun member => holds (passed _ member)⟩

/-- What the persisted records say of a publication that the verifier allows. -/
structure Supported (platform : VerifierPlatform) (records : Records) (request : ToolRequest)
    (artifacts evaluations : List Record) (commit push pushPolicy policy : Record) : Prop where
  artifacts_referenced : List.Forall₂ (fun id record => records.resolve id = some record) request.artifactIds artifacts
  evaluations_referenced :
    List.Forall₂ (fun id record => records.resolve id = some record) request.evaluationIds evaluations
  commit_referenced : records.resolve (request.evidenceText "commitToolInvocationId") = some commit
  push_referenced : records.resolve (request.evidenceText "pushToolInvocationId") = some push
  policy_referenced : records.resolve (request.evidenceText "policyDecisionId") = some policy
  artifacts_bound : List.Forall₂ (ArtifactBound request) request.artifactIds artifacts
  evaluations_bound : List.Forall₂ (EvaluationBound request) request.evaluationIds evaluations
  committed : ∃ patch digest, artifacts.filter isPatch = [patch] ∧ contentAddress patch = "sha256:" ++ digest ∧
    CommitBound request digest commit
  advanced : request.headRevision ≠ request.revision
  pushed : PushBound request push
  /-- The commit and the push name the same decision. -/
  push_decided : ∃ policyId toolRef, push.field "policyDecisionId" = .str policyId ∧
    commit.field "policyDecisionId" = .str policyId ∧ records.resolve policyId = some pushPolicy ∧
      PushPolicyBound request policyId pushPolicy ∧
        Decided platform records request pushPolicy (pushScope request toolRef) artifacts
  published : ∃ target, PolicyBound request policy target ∧ Decided platform records request policy target artifacts

theorem checkArtifact_empty (id : String) : checkArtifact request id [] ≠ .ok () := by
  intro passed
  have kind := (checkArtifact_ok passed).kind
  cases kind

theorem checkEvaluation_empty (id : String) : checkEvaluation request id [] ≠ .ok () := by
  intro passed
  have kind := (checkEvaluation_ok passed).kind
  cases kind

theorem verify_ok {reason : String} (passed : verify platform records request = .ok reason) :
    ∃ artifacts evaluations commit push pushPolicy policy,
      Supported platform records request artifacts evaluations commit push pushPolicy policy := by
  simp only [verify, bind_eq_ok, demand_eq_ok, found_eq_ok] at passed
  obtain ⟨-, -, policy, policyFound, commit, commitFound, push, pushFound, -, advanced, _, artifactsChecked, digest,
    patched, _, evaluationsChecked, toolRef, committed, _, pushed, ⟨policyId, pushPolicy⟩, pushPolicyFound, _,
    pushDecided, published⟩ := passed
  have artifactsReferenced := resolveMany_referenced checkArtifact_empty (each_ok artifactsChecked)
  have evaluationsReferenced := resolveMany_referenced checkEvaluation_empty (each_ok evaluationsChecked)
  obtain ⟨patch, one, address⟩ := checkPatch_ok patched
  obtain ⟨named, resolved⟩ := pushPolicyOf_ok pushPolicyFound
  obtain ⟨same, bound, pushToolRef, -, decided⟩ := checkPushPolicy_ok pushDecided
  exact ⟨_, _, commit, push, pushPolicy, policy, {
    artifacts_referenced := artifactsReferenced
    evaluations_referenced := evaluationsReferenced
    commit_referenced := commitFound
    push_referenced := pushFound
    policy_referenced := policyFound
    artifacts_bound := bound_of_checked checkArtifact_ok artifactsReferenced.length_eq (each_ok artifactsChecked)
    evaluations_bound := bound_of_checked checkEvaluation_ok evaluationsReferenced.length_eq (each_ok evaluationsChecked)
    committed := ⟨patch, digest, one, address, checkCommit_ok committed⟩
    advanced := advanced
    pushed := checkPush_ok pushed
    push_decided := ⟨policyId, pushToolRef, named, same, resolved, bound, decided⟩
    published := checkPolicy_ok published }⟩

section Invocation

variable {config : GitHubAppConfig} {maxReadAttempts : Nat}

def startRules (supported : Prop) : Rules Environment Unit where
  may _ call := call = .clock .started → supported
  next _ _ _ _ := True

theorem sat_ask_free {α : Type} {supported : Prop} {call : Call} {next : call.Answer → Prog α}
    (other : call ≠ .clock .started) (rest : ∀ answer, Sat (startRules supported) (fun _ _ => True) (next answer) ()) :
    Sat (startRules supported) (fun _ _ => True) (ask call >>= next) () :=
  sat_bind.mpr ⟨fun same => absurd same other, fun answer _ _ => rest answer⟩

theorem runtimeFailure_starts (supported : Prop) (startedAt : String) (startedClock : ℚ) (status : ToolResultStatus)
    (classification : ToolFailureClass) (message : String) : Sat (startRules supported) (fun _ _ => True)
      (runtimeFailure startedAt startedClock status classification message) () :=
  sat_ask_free nofun fun _ => sat_ask_free nofun fun _ => trivial

theorem invokeTool_invalid (supported : Prop) (invalid : ¬inputShape platform.toPlatform (.obj request.input) = true) :
    Sat (startRules supported) (fun _ _ => True) (invokeTool platform.toPlatform config maxReadAttempts request) () := by
  refine sat_ask_free nofun fun startedAt => sat_ask_free nofun fun startedClock => ?_
  rw [if_pos invalid]
  exact runtimeFailure_starts supported startedAt startedClock .failed .validation _

theorem policyFailure_starts (supported : Prop) (message gate : String) :
    Sat (startRules supported) (fun _ _ => True) (policyFailure request message gate) () :=
  sat_ask_free nofun fun _ => trivial

theorem invokeGithubTool_starts (creates : request.operation = .str createPullRequestName) :
    Sat (startRules (∃ reason, verify platform records request = .ok reason)) (fun _ _ => True)
      (invokeGithubTool platform config maxReadAttempts (some records) request) () := by
  unfold invokeGithubTool
  simp only
  split
  · rename_i invalid
    exact invokeTool_invalid _ invalid
  · split
    · exact policyFailure_starts _ _ _
    · rw [if_neg (not_not.mpr creates)]
      cases verified : verify platform records request with
      | ok reason => exact sat_of_forall (fun _ _ _ => ⟨reason, rfl⟩) (fun _ _ => trivial) _ ()
      | error refusal =>
        cases refusal with
        | denied reason => exact policyFailure_starts _ _ _
        | raised error => trivial

theorem startRules_trace {supported : Prop} (events : List Environment.Event) :
    (startRules supported).Trace () events () := by
  induction events with
  | nil => exact .nil ()
  | cons event rest ih => exact .cons trivial ih

end Invocation

section Sample

def samplePlatform : VerifierPlatform where
  toPlatform := plainPlatform
  isSemver text := text = "1.0.0"
  isIdentifier _ := true
  sha256 _ := ""

def ofTask (kind id : String) (fields : Record) : Record := [
  ("kind", .str kind), ("id", .str id), ("traceId", .str "trace-1"), ("taskExecutionId", .str "task-1"),
  ("provenance", .obj [("workflowExecutionId", .str "workflow-1"), ("taskExecutionId", .str "task-1"),
    ("repositoryRevision", .str "0123456")])] ++ fields

def git : Json := .obj [("kind", .str "Tool"), ("name", .str "git"), ("version", .str "1.0.0")]

def samplePatch : Record := ofTask "GeneratedArtifact" "artifact-1" [
  ("artifactType", .str "PATCH"), ("repositoryRevision", .str "0123456"),
  ("contentAddress", .str ("sha256:" ++ "0123456789abcdef0123456789abcdef0123456789abcdef0123456789abcdef")),
  ("evaluationResultIds", .arr [.str "evaluation-1"])]

def sampleEvaluation : Record := ofTask "EvaluationResult" "evaluation-1" [
  ("status", .str "SUCCEEDED"), ("outcome", .str "PASS"),
  ("target", .obj [("type", .str "GeneratedArtifact"), ("id", .str "artifact-1")])]

def sampleCommit : Record := ofTask "ToolInvocation" "commit-1" [
  ("status", .str "SUCCEEDED"), ("toolRef", git), ("policyDecisionId", .str "policy-2"),
  ("input", .obj [("operation", .str "commit_changes"), ("expectedRevision", .str "0123456"),
    ("branch", .str "agent/fix"), ("commitMessage", .str "Fix"),
    ("expectedPatchSha256", .str "0123456789abcdef0123456789abcdef0123456789abcdef0123456789abcdef")]),
  ("output", .obj [("operation", .str "commit_changes"), ("repository", .str "github:acme/app"),
    ("branch", .str "agent/fix"), ("baseRevision", .str "0123456"), ("revision", .str "789abcd"),
    ("remoteMutationState", .str "NOT_ATTEMPTED")])]

def samplePush : Record := ofTask "ToolInvocation" "push-1" [
  ("status", .str "SUCCEEDED"), ("toolRef", git), ("policyDecisionId", .str "policy-2"),
  ("input", .obj [("operation", .str "push_branch"), ("expectedRevision", .str "0123456"), ("branch", .str "agent/fix")]),
  ("output", .obj [("operation", .str "push_branch"), ("repository", .str "github:acme/app"),
    ("branch", .str "agent/fix"), ("revision", .str "789abcd"), ("remoteMutationState", .str "CONFIRMED")])]

def samplePushPolicy : Record := ofTask "PolicyDecision" "policy-2" [
  ("gate", .str "PRE_EXECUTION_CAPABILITY"), ("action", .str "git.push"), ("decision", .str "ALLOW"),
  ("resourceScope", .obj [("repository", .str "acme/app"), ("branch", .str "agent/fix"),
    ("repositoryRevision", .str "0123456"), ("toolRef", git)])]

def samplePolicy : Record := ofTask "PolicyDecision" "policy-1" [
  ("gate", .str "PUBLICATION"), ("action", .str "github.create_pr"), ("decision", .str "ALLOW"),
  ("repositoryRevision", .str "0123456"), ("evaluationResultIds", .arr [.str "evaluation-1"]),
  ("generatedArtifactIds", .arr [.str "artifact-1"]), ("resourceScope", .obj [("repository", .str "acme/app")]),
  ("publicationTarget", .obj [("repository", .str "acme/app"), ("head", .str "agent/fix"), ("base", .str "main"),
    ("repositoryRevision", .str "0123456"), ("commitToolInvocationId", .str "commit-1"),
    ("pushToolInvocationId", .str "push-1")])]

def sampleRecords : Records where
  resolve id := [samplePatch, sampleEvaluation, sampleCommit, samplePush, samplePushPolicy, samplePolicy].find?
    fun record => record.field "id" = .str id
  listByWorkflowExecution := none

def startsAdapter (event : Environment.Event) : Bool :=
  match event.op with
  | .clock .started => true
  | _ => false

theorem started_of_any {events : List Environment.Event} (starts : events.any startsAdapter = true) :
    ∃ now, ⟨.clock .started, now⟩ ∈ events := by
  obtain ⟨⟨op, answer⟩, member, starting⟩ := List.any_eq_true.mp starts
  cases op with
  | clock reading => cases reading <;> first | exact ⟨answer, member⟩ | cases starting
  | _ => cases starting

def supportedRun : List Environment.Event × Option (Except Raised ToolResult) :=
  (invokeGithubTool samplePlatform sampleConfig 2 (some sampleRecords) sampleRequest).follow (provider "https://github.com")

end Sample

end Aep.GithubTool
