import Aep.Errors
import Aep.PatchEvaluation.Diff
import Aep.PlanningEvidence.Matching

/-! `evaluate_patch`, up to the EvaluationResult that it stores. -/
namespace Aep.PatchEvaluation

open GitTool (Bytes)
open PlanningEvidence (insertionMatches)
open Result

def contractError {α : Type} (message : String) : Except PyError α := .error { errorClass := .valueError, message }

section Rules

variable (platform : Platform)

/-- `_safe_relative_path`. The parts of a POSIX path have no empty and no `.` segment, whatever the path has. -/
def safeRelativePath (value : Text) : Bool :=
  !value.isEmpty && !List.contains value '\\' && value.head? ≠ some '/' &&
    ((value.splitOn '/').filter fun part => !part.isEmpty && part ≠ ['.']).all fun part => part ≠ ['.', '.']

def candidateOf (rule : Text) : Text := Text.rstrip (· = '/') rule

/-- `_normalize_rules`. -/
def normalizeRules (rules : List Text) : Except PyError (List Text) := do
  raiseIf (rules = []) { errorClass := .valueError, message := "allowed_paths must contain path rules" }
  raiseIf (∃ rule ∈ rules, safeRelativePath (candidateOf rule) = false)
    { errorClass := .valueError, message := "allowed path rules must be normalized repository-relative paths" }
  pure (sortedSet platform (rules.map candidateOf))

def normalizeGiven (rules : List Text) : Except PyError (List Text) := if rules = [] then .ok [] else normalizeRules platform rules

def matchingRule (path : Text) (rules : List Text) : Option Text :=
  if safeRelativePath path then rules.find? fun rule => path = rule || (rule ++ ['/']).isPrefixOf path else none

end Rules

section Request

inductive PatchContent where
  | text (value : Text)
  | bytes (value : Bytes)
  | other

structure Insertion where
  path : Text
  value : Text
  deriving DecidableEq

/-- What `check_patch` of the Git Tool is asked. -/
structure CheckPatch where
  expectedRevision : Text
  branch : String
  patch : Text

structure CheckResult where
  status : String
  output : Option Record
  failureMessage : Option String

structure Request where
  patchArtifact : Record
  patchContent : PatchContent
  expectedRevision : Text
  allowedPaths : List Text
  requiredPaths : List Text := []
  noChangePaths : List Text := []
  deletionAuthorizedPaths : List Text := []
  requiredInsertions : List Insertion := []
  postimageContentsByPath : Dict Text Text := []
  unsupportedAcceptanceCriteria : List Text := []
  evaluatorRequirements : List Record := []
  workingBranch : String := ""
  toolInvocationId : Option String := none

structure Finding where
  code : String
  message : String
  deriving DecidableEq

structure Evaluation where
  outcome : String
  artifactId : String
  contentAddress : String
  allowedPaths : List Text
  changedFiles : List Text
  applicable : Bool
  gitStatus : String
  boundaryChecks : List (Text × Option Text)
  requiredFileDispositions : List (Text × String)
  noChangeFileDispositions : List (Text × String)
  missingInsertions : List Insertion
  deletedPaths : List Text
  unauthorizedDeletedPaths : List Text
  destructiveRewrite : Bool
  unpreservedHunks : List Hunk
  unauthorizedUnpreservedHunks : List Hunk
  errors : List Finding

end Request

section Git

/-- The paths of one record of `changedFiles`. -/
def recordPaths : Json → Except PyError (List Text)
  | .obj fields =>
    .ok ([Dict.field fields "previousPath", Dict.field fields "path"].filterMap fun path => path.asString?.map String.toList)
  | _ => .error { errorClass := .typeError, message := "changed file is no mapping" }

def changedPaths (output : Record) : Except PyError (List Text) :=
  match (output.get? "changedFiles").getD (.arr []) with
  | .arr records => List.flatten <$> records.mapM recordPaths
  | _ => .error { errorClass := .typeError, message := "changedFiles is no list" }

structure GitEvidence where
  applicable : Bool := false
  changedFiles : List Text := []
  status : String := "NOT_RUN"
  findings : List Finding := []

variable (platform : Platform)

def succeededEvidence (output : Record) : Except PyError GitEvidence := do
  let applicable := decide (output.field "applicable" = .bool true)
  let paths ← changedPaths output
  let changedFiles := sortedSet platform paths
  pure {
    applicable, changedFiles, status := "SUCCEEDED"
    findings :=
      (if applicable then [] else
        [⟨"PATCH_NOT_APPLICABLE", "patch does not apply cleanly to the expected revision"⟩]) ++
      (if changedFiles = [] then [⟨"MALFORMED_OR_EMPTY_PATCH", "patch contains no changed-file evidence"⟩] else []) }

/-- The applicability check, which is made only when nothing is wrong before it. -/
def gitEvidence (checkPatch : CheckPatch → Except PyError CheckResult) (revision : Text) (branch : String) (content : Bytes) :
    Except PyError GitEvidence :=
  match SurrogateEscape.strict? content with
  | none => .ok { findings := [⟨"MALFORMED_PATCH", "patch content must be valid UTF-8"⟩] }
  | some patch => do
    let result ← checkPatch { expectedRevision := revision, branch, patch }
    if result.status = "SUCCEEDED" then succeededEvidence platform (result.output.getD [])
    else
      pure {
        status := result.status
        findings := [⟨"GIT_CHECK_FAILED", (result.failureMessage.filter (· ≠ "")).getD "Git applicability check failed"⟩] }

end Git

section Findings

def quoted (text : Text) : String := Json.repr (.str (String.ofList text))

def findingsFor {α : Type} (items : List α) (code : String) (message : α → String) : List Finding :=
  items.map fun item => ⟨code, message item⟩

def findingIf (condition : Bool) (code message : String) : List Finding := if condition then [⟨code, message⟩] else []

variable (platform : Platform)

def patchBytes : PatchContent → Bytes
  | .text value => Utf8.encode value
  | .bytes value => value
  | .other => []

def PatchContent.isOther : PatchContent → Bool
  | .other => true
  | _ => false

def isRevision (revision : Text) : Bool :=
  revision.length = 40 && revision.all fun char => char.isDigit || ('a' ≤ char && char ≤ 'f') || ('A' ≤ char && char ≤ 'F')

/-- The content that may hold an insertion: the postimage that is given for its path, and the postimages of its hunks. -/
def candidates (request : Request) (blocks : Dict Text (List Text)) (path : Text) : List Text :=
  (request.postimageContentsByPath.get? path).toList ++ (blocks.get? path).getD []

def missingInsertions (request : Request) (blocks : Dict Text (List Text)) : List Insertion :=
  request.requiredInsertions.filter fun insertion => !(candidates request blocks insertion.path).any (insertionMatches insertion.value)

def checkRequirement (requirement : Record) : Except PyError Unit :=
  let isName (key : String) := ((requirement.field key).asString?.filter (· ≠ "")).isSome
  if requirement.field "owner" ≠ .str "PATCH_EVALUATION" ∨ requirement.field "requirementId" ≠ .str "DIFF_CHECK_PASSES" ∨
      !(isName "selectionId" && isName "criterion") then
    contractError "evaluator requirements must be trusted DIFF_CHECK_PASSES bindings"
  else .ok ()

structure Rules where
  allowed : List Text
  required : List Text
  noChange : List Text
  deletionAuthorized : List Text

def requestRules (request : Request) : Except PyError Rules := do
  let allowed ← normalizeRules platform request.allowedPaths
  let required ← normalizeGiven platform request.requiredPaths
  let noChange ← normalizeGiven platform request.noChangePaths
  let deletionAuthorized ← normalizeGiven platform request.deletionAuthorizedPaths
  pure { allowed, required, noChange, deletionAuthorized }

/-- An empty patch is expected: nothing is required, and what must not change are all the allowed paths. -/
def allNoChange (rules : Rules) (content : Bytes) : Bool :=
  content.isEmpty && rules.required.isEmpty && !rules.noChange.isEmpty &&
    (rules.noChange.all (rules.allowed.contains ·) && rules.allowed.all (rules.noChange.contains ·))

def firstFindings (request : Request) (rules : Rules) (content : Bytes) : List Finding :=
  let artifact := request.patchArtifact
  findingIf request.patchContent.isOther "INVALID_CONTENT" "patch content must be text or bytes" ++
  findingIf (artifact.field "kind" ≠ .str "GeneratedArtifact" || artifact.field "artifactType" ≠ .str "PATCH") "INVALID_ARTIFACT"
    "target must be a PATCH GeneratedArtifact" ++
  findingIf (artifact.field "contentAddress" ≠ .str ("sha256:" ++ platform.sha256 content)) "CONTENT_MISMATCH"
    "patch content does not match the artifact content address" ++
  findingIf ((artifact.field "repositoryRevision").asString?.all fun revision =>
      platform.lower revision.toList ≠ platform.lower request.expectedRevision) "REVISION_MISMATCH"
    "patch artifact revision does not match the expected repository revision" ++
  findingIf (content.isEmpty && !allNoChange rules content) "EMPTY_PATCH" "patch content is empty"

structure DiffEvidence where
  blocks : Dict Text (List Text)
  deleted : List Text
  hunks : List Hunk

def diffEvidence (content : Bytes) : Except PyError DiffEvidence := do
  let blocks ← postimageBlocksByPath platform content
  let deleted ← deletedPaths platform content
  let hunks ← unpreservedHunks platform content
  pure { blocks, deleted, hunks }

def unauthorized (rules : Rules) (paths : List Text) : List Text :=
  paths.filter fun path => (matchingRule path rules.deletionAuthorized).isNone

def isDestructive (rules : Rules) (content : Bytes) (deleted : List Text) : Bool :=
  let (added, removed) := lineChangeCounts content
  decide (20 ≤ removed) && decide (FOUR_FIFTHS < if added + removed = 0 then 0 else ratio removed (added + removed)) &&
    !(!deleted.isEmpty && (unauthorized rules deleted).isEmpty)

def unauthorizedHunks (rules : Rules) (hunks : List Hunk) : List Hunk :=
  hunks.filter fun hunk => (matchingRule hunk.path rules.deletionAuthorized).isNone

def laterFindings (request : Request) (rules : Rules) (content : Bytes) (changedFiles : List Text) (diff : DiffEvidence) :
    List Finding :=
  findingsFor (changedFiles.filter fun path => (matchingRule path rules.allowed).isNone) "DISALLOWED_PATH"
    (fun path => "changed path " ++ quoted path ++ " is outside the allowed path rules") ++
  findingsFor (missingInsertions request diff.blocks) "REQUIRED_INSERTION_MISSING"
    (fun insertion => "required insertion " ++ quoted insertion.value ++ " is absent from " ++ quoted insertion.path) ++
  findingsFor (sortedSet platform (request.unsupportedAcceptanceCriteria.filter (!·.isEmpty))) "UNSUPPORTED_ACCEPTANCE_CRITERION"
    (fun criterion => "unsupported acceptance criterion: " ++ String.ofList criterion) ++
  findingsFor (rules.required.filter (!changedFiles.contains ·)) "REQUIRED_CHANGE_MISSING"
    (fun path => "planned target " ++ quoted path ++ " is absent from the final diff") ++
  findingsFor (rules.noChange.filter (changedFiles.contains ·)) "NO_CHANGE_TARGET_MODIFIED"
    (fun path => "no-change target " ++ quoted path ++ " appears in the final diff") ++
  findingsFor (unauthorized rules diff.deleted) "UNAUTHORIZED_DELETION"
    (fun path => "deleted content in " ++ quoted path ++ " is not deletion-authorized") ++
  findingIf (isDestructive rules content diff.deleted) "DESTRUCTIVE_REWRITE"
    "patch deletes at least 20 lines and more than 80% of changed lines" ++
  findingIf (!(unauthorizedHunks rules diff.hunks).isEmpty) "SURROUNDING_CONTENT_NOT_PRESERVED"
    "patch replaces or removes a multi-line hunk without preserved surrounding context"

end Findings

section Evaluate

variable (platform : Platform) (checkPatch : CheckPatch → Except PyError CheckResult)

def artifactIdOf (artifact : Record) : Except PyError String :=
  match artifact.field "id" with
  | .str id => if id = "" then contractError "patch artifact id must be a non-empty string" else .ok id
  | _ => contractError "patch artifact id must be a non-empty string"

def findingAtMost (left right : Finding) : Bool :=
  decide (left.code < right.code) || decide (left.code = right.code) && !decide (right.message < left.message)

def evidenceOf (request : Request) (rules : Rules) (content : Bytes) : Except PyError GitEvidence :=
  if allNoChange rules content then .ok { applicable := true }
  else if firstFindings platform request rules content = [] then
    gitEvidence platform checkPatch (platform.lower request.expectedRevision) request.workingBranch content
  else .ok {}

def evaluatePatch (request : Request) : Except PyError Evaluation := do
  raiseIf (request.toolInvocationId = some "") { errorClass := .valueError, message := "tool_invocation_id must be a non-empty string" }
  let rules ← requestRules platform request
  request.evaluatorRequirements.forM checkRequirement
  let content := patchBytes request.patchContent
  let artifactId ← artifactIdOf request.patchArtifact
  raiseIf (isRevision request.expectedRevision = false)
    { errorClass := .valueError, message := "expected_revision must be an immutable 40-character commit id" }
  let git ← evidenceOf platform checkPatch request rules content
  let diff ← diffEvidence platform content
  let errors := firstFindings platform request rules content ++ git.findings ++
    laterFindings platform request rules content git.changedFiles diff
  pure {
    outcome := if errors = [] then "PASS" else "FAIL"
    artifactId
    contentAddress := "sha256:" ++ platform.sha256 content
    allowedPaths := rules.allowed
    changedFiles := git.changedFiles
    applicable := git.applicable
    gitStatus := git.status
    boundaryChecks := git.changedFiles.map fun path => (path, matchingRule path rules.allowed)
    requiredFileDispositions := rules.required.map fun path =>
      (path, if git.changedFiles.contains path then "CHANGED" else "MISSING")
    noChangeFileDispositions := rules.noChange.map fun path =>
      (path, if git.changedFiles.contains path then "CHANGED" else "NO_CHANGE")
    missingInsertions := missingInsertions request diff.blocks
    deletedPaths := diff.deleted
    unauthorizedDeletedPaths := unauthorized rules diff.deleted
    destructiveRewrite := isDestructive rules content diff.deleted
    unpreservedHunks := diff.hunks
    unauthorizedUnpreservedHunks := unauthorizedHunks rules diff.hunks
    errors := errors.insertionSort fun left right => findingAtMost left right }

end Evaluate

end Aep.PatchEvaluation
