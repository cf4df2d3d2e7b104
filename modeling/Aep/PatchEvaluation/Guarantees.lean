import Aep.PatchEvaluation.Evaluate

/-! What an evaluation that passes says of the patch. -/
namespace Aep.PatchEvaluation

open GitTool (Bytes)
open PlanningEvidence (insertionMatches canonicalInsertion dropFinalFeed Strays canonicalLineMatch logicalLinePositions_iff)
open Result

section Contract

variable (platform : Platform) (checkPatch : CheckPatch → Except PyError CheckResult) (request : Request)

def Request.content : Bytes := patchBytes request.patchContent

def Request.rules : List Text :=
  request.allowedPaths ++ request.requiredPaths ++ request.noChangePaths ++ request.deletionAuthorizedPaths

def Under (path rule : Text) : Prop := path = rule ∨ rule ++ ['/'] <+: path

def CoveredBy (rules : List Text) (path : Text) : Prop := ∃ rule ∈ rules, Under path (candidateOf rule)

def NothingPlanned : Prop :=
  request.content = [] ∧ request.requiredPaths = [] ∧
    ∀ path, path ∈ request.noChangePaths.map candidateOf ↔ path ∈ request.allowedPaths.map candidateOf

/-- Git has checked this text, finds it applicable, and reports these changed paths. -/
def Checked (changed : List Text) : Prop :=
  ∃ patch result output reported, request.content = Utf8.encode patch ∧
    checkPatch { expectedRevision := platform.lower request.expectedRevision, branch := request.workingBranch, patch } = .ok result ∧
    result.status = "SUCCEEDED" ∧ result.output = some output ∧ output.field "applicable" = .bool true ∧
    changedPaths output = .ok reported ∧ reported ≠ [] ∧ ∀ path, path ∈ changed ↔ path ∈ reported

def HasLines (content value : Text) : Prop :=
  Text.lines (dropFinalFeed (canonicalInsertion value)) <:+: Text.lines (canonicalInsertion content)

/-- No segment of a path is empty, `.` or `..`. -/
def IsNormal (path : Text) : Prop := ∀ segment ∈ path.splitOn '/', segment ≠ [] ∧ segment ≠ ['.'] ∧ segment ≠ ['.', '.']

structure Sound (diff : DiffEvidence) (changed : List Text) : Prop where
  artifact : request.patchArtifact.field "kind" = .str "GeneratedArtifact" ∧ request.patchArtifact.field "artifactType" = .str "PATCH"
  address : request.patchArtifact.field "contentAddress" = .str ("sha256:" ++ platform.sha256 request.content)
  revision : ∃ revision, request.patchArtifact.field "repositoryRevision" = .str revision ∧
    platform.lower revision.toList = platform.lower request.expectedRevision
  applicability : NothingPlanned request ∧ changed = [] ∨ Checked platform checkPatch request changed
  allowed : ∀ path ∈ changed, CoveredBy request.allowedPaths path
  required : ∀ path ∈ request.requiredPaths, candidateOf path ∈ changed
  unchanged : ∀ path ∈ request.noChangePaths, candidateOf path ∉ changed
  deleted : ∀ path ∈ diff.deleted, CoveredBy request.deletionAuthorizedPaths path
  preserved : ∀ hunk ∈ diff.hunks, CoveredBy request.deletionAuthorizedPaths hunk.path
  inserted : ∀ insertion ∈ request.requiredInsertions,
    ∃ content ∈ candidates request diff.blocks insertion.path, HasLines content insertion.value
  supported : request.unsupportedAcceptanceCriteria = []
  normal : ∀ rule ∈ request.rules, IsNormal (candidateOf rule)

/-- The inputs on which nothing passes by omission: no rule has an empty segment or a `.`, no unsupported criterion is the
    empty string, and an insertion that strays in one postimage has its lines in another one. -/
structure Plain (diff : DiffEvidence) : Prop where
  segments : ∀ rule ∈ request.rules, ∀ segment ∈ (candidateOf rule).splitOn '/', segment ≠ [] ∧ segment ≠ ['.']
  criteria : [] ∉ request.unsupportedAcceptanceCriteria
  insertions : ∀ insertion ∈ request.requiredInsertions, ∀ content ∈ candidates request diff.blocks insertion.path,
    Strays (canonicalInsertion content) (canonicalInsertion insertion.value) →
      ∃ other ∈ candidates request diff.blocks insertion.path, HasLines other insertion.value

end Contract

section Rules

variable {platform : Platform}

theorem normalizeRules_ok {rules normalized : List Text} (accepted : normalizeRules platform rules = .ok normalized) :
    (∀ rule ∈ rules, safeRelativePath (candidateOf rule) = true) ∧ ∀ path, path ∈ normalized ↔ path ∈ rules.map candidateOf := by
  simp only [normalizeRules, bind_eq_ok, raiseIf_eq_ok, pure_eq_ok, not_exists, not_and, Bool.not_eq_false] at accepted
  obtain ⟨_, _, _, safe, rfl⟩ := accepted
  exact ⟨safe, fun path => mem_sortedSet platform⟩

theorem normalizeGiven_ok {rules normalized : List Text} (accepted : normalizeGiven platform rules = .ok normalized) :
    (∀ rule ∈ rules, safeRelativePath (candidateOf rule) = true) ∧ ∀ path, path ∈ normalized ↔ path ∈ rules.map candidateOf := by
  unfold normalizeGiven at accepted
  split at accepted
  · rename_i none
    cases accepted
    simp [none]
  · exact normalizeRules_ok accepted

theorem isNormal_iff {path : Text} (safe : safeRelativePath path = true) :
    IsNormal path ↔ ∀ segment ∈ path.splitOn '/', segment ≠ [] ∧ segment ≠ ['.'] := by
  constructor
  · intro normal segment member
    exact ⟨(normal segment member).1, (normal segment member).2.1⟩
  · intro kept segment member
    obtain ⟨some, here⟩ := kept segment member
    refine ⟨some, here, ?_⟩
    simp only [safeRelativePath, Bool.and_eq_true, List.all_eq_true, List.mem_filter, decide_eq_true_eq, and_imp] at safe
    exact safe.2 segment member (by simpa using some) here

theorem matchingRule_isSome {path : Text} {rules normalized : List Text}
    (same : ∀ path, path ∈ normalized ↔ path ∈ rules.map candidateOf) (found : (matchingRule path normalized).isSome) :
    CoveredBy rules path := by
  unfold matchingRule at found
  split at found
  · obtain ⟨rule, found⟩ := Option.isSome_iff_exists.mp found
    have holds := List.find?_some found
    obtain ⟨raw, listed, rfl⟩ := List.mem_map.mp ((same rule).mp (List.mem_of_find?_eq_some found))
    simp only [Bool.or_eq_true, decide_eq_true_eq, List.isPrefixOf_iff_prefix] at holds
    exact ⟨raw, listed, holds⟩
  · cases found

end Rules

section Findings

theorem findingIf_nil {condition : Bool} {code message : String} : findingIf condition code message = [] ↔ condition = false := by
  cases condition <;> simp [findingIf]

theorem findingsFor_nil {α : Type} {items : List α} {code : String} {message : α → String} :
    findingsFor items code message = [] ↔ items = [] := by
  simp [findingsFor]

variable {platform : Platform} {checkPatch : CheckPatch → Except PyError CheckResult} {request : Request} {rules : Rules}

theorem requestRules_ok (accepted : requestRules platform request = .ok rules) :
    (∀ rule ∈ request.rules, safeRelativePath (candidateOf rule) = true) ∧
      (∀ path, path ∈ rules.allowed ↔ path ∈ request.allowedPaths.map candidateOf) ∧
      (∀ path, path ∈ rules.required ↔ path ∈ request.requiredPaths.map candidateOf) ∧
      (∀ path, path ∈ rules.noChange ↔ path ∈ request.noChangePaths.map candidateOf) ∧
      ∀ path, path ∈ rules.deletionAuthorized ↔ path ∈ request.deletionAuthorizedPaths.map candidateOf := by
  simp only [requestRules, bind_eq_ok, pure_eq_ok] at accepted
  obtain ⟨allowed, first, required, second, noChange, third, deletion, fourth, rfl⟩ := accepted
  obtain ⟨allowedSafe, allowedSame⟩ := normalizeRules_ok first
  obtain ⟨requiredSafe, requiredSame⟩ := normalizeGiven_ok second
  obtain ⟨noChangeSafe, noChangeSame⟩ := normalizeGiven_ok third
  obtain ⟨deletionSafe, deletionSame⟩ := normalizeGiven_ok fourth
  refine ⟨?_, allowedSame, requiredSame, noChangeSame, deletionSame⟩
  intro rule listed
  simp only [Request.rules, List.mem_append] at listed
  rcases listed with ((listed | listed) | listed) | listed
  · exact allowedSafe rule listed
  · exact requiredSafe rule listed
  · exact noChangeSafe rule listed
  · exact deletionSafe rule listed

theorem allNoChange_planned (accepted : requestRules platform request = .ok rules)
    (planned : allNoChange rules request.content = true) : NothingPlanned request := by
  obtain ⟨-, allowed, required, noChange, -⟩ := requestRules_ok accepted
  simp only [allNoChange, Bool.and_eq_true, List.isEmpty_iff, List.all_eq_true, List.contains_iff_mem] at planned
  obtain ⟨⟨⟨empty, none⟩, -⟩, forward, backward⟩ := planned
  refine ⟨empty, ?_, ?_⟩
  · rw [none] at required
    rw [← List.map_eq_nil_iff (f := candidateOf)]
    exact List.eq_nil_iff_forall_not_mem.mpr fun path member => by cases (required path).mpr member
  · intro path
    rw [← noChange, ← allowed]
    exact ⟨forward path, backward path⟩

theorem gitEvidence_clean {revision : Text} {branch : String} {content : Bytes} {git : GitEvidence}
    (evidence : gitEvidence platform checkPatch revision branch content = .ok git) (clean : git.findings = []) :
    ∃ patch result output changed, content = Utf8.encode patch ∧
      checkPatch { expectedRevision := revision, branch, patch } = .ok result ∧ result.status = "SUCCEEDED" ∧
      result.output = some output ∧ output.field "applicable" = .bool true ∧ changedPaths output = .ok changed ∧ changed ≠ [] ∧
      git.changedFiles = sortedSet platform changed := by
  unfold gitEvidence at evidence
  cases text : SurrogateEscape.strict? content with
  | none =>
    rw [text] at evidence
    cases evidence
    cases clean
  | some patch =>
    rw [text] at evidence
    obtain ⟨result, answered, evidence⟩ := bind_eq_ok.mp evidence
    by_cases succeeded : result.status = "SUCCEEDED"
    · rw [if_pos succeeded] at evidence
      simp only [succeededEvidence, bind_eq_ok, pure_eq_ok] at evidence
      obtain ⟨changed, reported, rfl⟩ := evidence
      obtain ⟨applicable, some⟩ := List.append_eq_nil_iff.mp clean
      have applies : (result.output.getD []).field "applicable" = .bool true := by
        by_contra other
        simp [other] at applicable
      have changedSome : changed ≠ [] := by
        rintro rfl
        simp [sortedSet] at some
      cases given : result.output with
      | none =>
        rw [given] at applies
        cases applies
      | some output =>
        rw [given] at applies reported
        exact ⟨patch, result, output, changed, SurrogateEscape.strict?_eq_some.mp text, answered, succeeded, given, applies, reported,
          changedSome, rfl⟩
    · rw [if_neg succeeded] at evidence
      cases evidence
      cases clean

theorem firstFindings_nil (clean : firstFindings platform request rules request.content = []) :
    (request.patchArtifact.field "kind" = .str "GeneratedArtifact" ∧ request.patchArtifact.field "artifactType" = .str "PATCH") ∧
      request.patchArtifact.field "contentAddress" = .str ("sha256:" ++ platform.sha256 request.content) ∧
      ∃ revision, request.patchArtifact.field "repositoryRevision" = .str revision ∧
        platform.lower revision.toList = platform.lower request.expectedRevision := by
  simp only [firstFindings, List.append_eq_nil_iff, findingIf_nil, Bool.or_eq_false_iff, decide_eq_false_iff_not, not_not] at clean
  obtain ⟨⟨⟨⟨-, artifact⟩, address⟩, revision⟩, -⟩ := clean
  refine ⟨artifact, address, ?_⟩
  cases given : (request.patchArtifact.field "repositoryRevision").asString? with
  | none => simp [given] at revision
  | some text =>
    rw [Json.asString?_eq_some] at given
    exact ⟨text, given, by simpa [given, Json.asString?] using revision⟩

theorem insertion_found {insertion : Insertion} {contents : List Text} (found : contents.any (insertionMatches insertion.value) = true) :
    (∃ content ∈ contents, HasLines content insertion.value) ↔
      ∀ content ∈ contents, Strays (canonicalInsertion content) (canonicalInsertion insertion.value) →
        ∃ other ∈ contents, HasLines other insertion.value := by
  constructor
  · intro lines _ _ _
    exact lines
  · intro others
    obtain ⟨content, member, reported⟩ := List.any_eq_true.mp found
    by_cases strays : Strays (canonicalInsertion content) (canonicalInsertion insertion.value)
    · exact others content member strays
    · have same := (logicalLinePositions_iff _ _).mpr strays
      refine ⟨content, member, same.mp ?_⟩
      intro none
      simp [insertionMatches, canonicalLineMatch, none] at reported

structure Clean (request : Request) (rules : Rules) (changed : List Text) (diff : DiffEvidence) : Prop where
  allowed : ∀ path ∈ changed, (matchingRule path rules.allowed).isSome
  inserted : ∀ insertion ∈ request.requiredInsertions,
    (candidates request diff.blocks insertion.path).any (insertionMatches insertion.value) = true
  criteria : ∀ criterion ∈ request.unsupportedAcceptanceCriteria, criterion = []
  required : ∀ path ∈ rules.required, path ∈ changed
  unchanged : ∀ path ∈ rules.noChange, path ∉ changed
  deleted : ∀ path ∈ diff.deleted, (matchingRule path rules.deletionAuthorized).isSome
  preserved : ∀ hunk ∈ diff.hunks, (matchingRule hunk.path rules.deletionAuthorized).isSome

theorem laterFindings_nil {content : Bytes} {changed : List Text} {diff : DiffEvidence}
    (clean : laterFindings platform request rules content changed diff = []) : Clean request rules changed diff := by
  simp only [laterFindings, List.append_eq_nil_iff, findingsFor_nil, findingIf_nil, unauthorized, unauthorizedHunks,
    missingInsertions, List.filter_eq_nil_iff, Bool.not_eq_false', List.isEmpty_iff] at clean
  obtain ⟨⟨⟨⟨⟨⟨⟨allowed, inserted⟩, criteria⟩, required⟩, unchanged⟩, deleted⟩, -⟩, preserved⟩ := clean
  constructor
  · intro path member
    simpa [Option.isNone_iff_eq_none, Option.isSome_iff_ne_none] using allowed path member
  · intro insertion member
    simpa using inserted insertion member
  · intro criterion member
    have none : criterion ∉ sortedSet platform (request.unsupportedAcceptanceCriteria.filter (!·.isEmpty)) := by
      rw [criteria]
      exact List.not_mem_nil
    rw [mem_sortedSet, List.mem_filter] at none
    by_contra other
    exact none ⟨member, by simpa using other⟩
  · intro path member
    simpa using required path member
  · intro path member
    simpa using unchanged path member
  · intro path member
    simpa [Option.isNone_iff_eq_none, Option.isSome_iff_ne_none] using deleted path member
  · intro hunk member
    simpa [Option.isNone_iff_eq_none, Option.isSome_iff_ne_none] using preserved hunk member

theorem evaluatePatch_clean {evaluation : Evaluation} (evaluated : evaluatePatch platform checkPatch request = .ok evaluation)
    (pass : evaluation.outcome = "PASS") :
    ∃ rules git diff, requestRules platform request = .ok rules ∧ evidenceOf platform checkPatch request rules request.content = .ok git ∧
      diffEvidence platform request.content = .ok diff ∧ evaluation.changedFiles = git.changedFiles ∧
      firstFindings platform request rules request.content = [] ∧ git.findings = [] ∧
      Clean request rules git.changedFiles diff := by
  simp only [evaluatePatch, bind_eq_ok, raiseIf_eq_ok, pure_eq_ok] at evaluated
  obtain ⟨_, _, rules, accepted, _, _, _, _, _, _, git, evidence, diff, read, rfl⟩ := evaluated
  by_cases clean : firstFindings platform request rules (patchBytes request.patchContent) ++ git.findings ++
      laterFindings platform request rules (patchBytes request.patchContent) git.changedFiles diff = []
  · obtain ⟨early, later⟩ := List.append_eq_nil_iff.mp clean
    obtain ⟨first, second⟩ := List.append_eq_nil_iff.mp early
    exact ⟨rules, git, diff, accepted, evidence, read, rfl, first, second, laterFindings_nil later⟩
  · rw [if_neg clean] at pass
    have fails : "FAIL" = "PASS" := pass
    exact absurd fails (by decide)

theorem evidence_applicable {git : GitEvidence} (accepted : requestRules platform request = .ok rules)
    (evidence : evidenceOf platform checkPatch request rules request.content = .ok git) (clean : git.findings = [])
    (first : firstFindings platform request rules request.content = []) :
    NothingPlanned request ∧ git.changedFiles = [] ∨ Checked platform checkPatch request git.changedFiles := by
  unfold evidenceOf at evidence
  by_cases planned : allNoChange rules request.content = true
  · rw [if_pos planned] at evidence
    cases evidence
    exact .inl ⟨allNoChange_planned accepted planned, rfl⟩
  · rw [if_neg planned, if_pos first] at evidence
    obtain ⟨patch, result, output, changed, whole, answered, succeeded, given, applies, reported, some, files⟩ :=
      gitEvidence_clean evidence clean
    right
    refine ⟨patch, result, output, changed, whole, answered, succeeded, given, applies, reported, some, ?_⟩
    intro path
    rw [files, mem_sortedSet]

/-- A patch that passes is sound exactly when nothing in the request passes by omission. -/
theorem evaluatePatch_pass {evaluation : Evaluation} (evaluated : evaluatePatch platform checkPatch request = .ok evaluation)
    (pass : evaluation.outcome = "PASS") :
    ∃ diff, diffEvidence platform request.content = .ok diff ∧
      (Plain request diff ↔ Sound platform checkPatch request diff evaluation.changedFiles) := by
  obtain ⟨rules, git, diff, accepted, evidence, read, files, first, second, clean⟩ := evaluatePatch_clean evaluated pass
  obtain ⟨safe, allowed, required, noChange, deletion⟩ := requestRules_ok accepted
  refine ⟨diff, read, ?_⟩
  rw [files]
  constructor
  · intro plain
    obtain ⟨artifact, address, revision⟩ := firstFindings_nil first
    constructor
    · exact artifact
    · exact address
    · exact revision
    · exact evidence_applicable accepted evidence second first
    · intro path member
      exact matchingRule_isSome allowed (clean.allowed path member)
    · intro path member
      exact clean.required _ ((required _).mpr (List.mem_map_of_mem member))
    · intro path member
      exact clean.unchanged _ ((noChange _).mpr (List.mem_map_of_mem member))
    · intro path member
      exact matchingRule_isSome deletion (clean.deleted path member)
    · intro hunk member
      exact matchingRule_isSome deletion (clean.preserved hunk member)
    · intro insertion member
      exact (insertion_found (clean.inserted insertion member)).mpr (plain.insertions insertion member)
    · rw [List.eq_nil_iff_forall_not_mem]
      intro criterion member
      rw [clean.criteria criterion member] at member
      exact plain.criteria member
    · intro rule listed
      exact (isNormal_iff (safe rule listed)).mpr (plain.segments rule listed)
  · intro sound
    constructor
    · intro rule listed
      exact (isNormal_iff (safe rule listed)).mp (sound.normal rule listed)
    · rw [sound.supported]
      exact List.not_mem_nil
    · intro insertion member content _ _
      exact sound.inserted insertion member

end Findings

section Samples

def samplePlatform : Platform where
  casefold text := text
  lower text := text
  decimal char := if char.isDigit then some (char.toNat - 48) else none
  decodeReplacing bytes := (SurrogateEscape.strict? bytes).getD []
  sha256 _ := "0"

/-- A line that is added to `docs/a.md`. -/
def samplePatch : Text := "--- a/docs/a.md\n+++ b/docs/a.md\n@@ -1 +1,2 @@\n a\n+b\n".toList

def sampleCheck (_ : CheckPatch) : Except PyError CheckResult :=
  .ok {
    status := "SUCCEEDED"
    output := some [("applicable", .bool true), ("changedFiles", .arr [.obj [("path", .str "docs/a.md"), ("status", .str "PATCH")]])]
    failureMessage := none }

def sampleRequest (noChangePaths : List Text) : Request where
  patchArtifact := [("id", .str "artifact"), ("kind", .str "GeneratedArtifact"), ("artifactType", .str "PATCH"),
    ("contentAddress", .str "sha256:0"), ("repositoryRevision", .str "aaaaaaaaaaaaaaaaaaaaaaaaaaaaaaaaaaaaaaaa")]
  patchContent := .text samplePatch
  expectedRevision := "aaaaaaaaaaaaaaaaaaaaaaaaaaaaaaaaaaaaaaaa".toList
  allowedPaths := ["docs".toList]
  requiredPaths := ["docs/a.md".toList]
  noChangePaths
  requiredInsertions := [⟨"docs/a.md".toList, "b".toList⟩]

def Passes (noChangePaths : List Text) : Prop :=
  (evaluatePatch samplePlatform sampleCheck (sampleRequest noChangePaths)).toOption.map Evaluation.outcome = some "PASS"

instance (noChangePaths : List Text) : Decidable (Passes noChangePaths) := inferInstanceAs (Decidable (_ = _))

theorem sample_plain (diff : DiffEvidence) : Plain (sampleRequest []) diff where
  segments := by
    have rules : (sampleRequest []).rules = ["docs".toList, "docs/a.md".toList] := rfl
    rw [rules]
    decide +kernel
  criteria := List.not_mem_nil
  insertions := by
    intro insertion member content _ strays
    rw [sampleRequest, List.mem_singleton] at member
    obtain ⟨start, value, -⟩ := strays
    rw [member] at value
    have last := congrArg List.getLast? value
    rw [show canonicalInsertion "b".toList = ['b'] by decide +kernel, List.getLast?_append] at last
    cases last

theorem evaluatePatch_pass_sample :
    ∃ evaluation diff, evaluatePatch samplePlatform sampleCheck (sampleRequest []) = .ok evaluation ∧
      Sound samplePlatform sampleCheck (sampleRequest []) diff evaluation.changedFiles := by
  have passes : Passes [] := by decide +kernel
  unfold Passes at passes
  cases evaluated : evaluatePatch samplePlatform sampleCheck (sampleRequest []) with
  | error error =>
    rw [evaluated] at passes
    cases passes
  | ok evaluation =>
    rw [evaluated] at passes
    obtain ⟨diff, -, sound⟩ := evaluatePatch_pass evaluated (Option.some.inj passes)
    exact ⟨evaluation, diff, rfl, sound.mp (sample_plain diff)⟩

/-- The changed file is also a path that must not change, under another spelling. -/
theorem evaluatePatch_pass_respelled :
    Passes ["docs/./a.md".toList] ∧
      ∀ diff changed, ¬Sound samplePlatform sampleCheck (sampleRequest ["docs/./a.md".toList]) diff changed := by
  constructor
  · decide +kernel
  · intro diff changed sound
    have listed : "docs/./a.md".toList ∈ (sampleRequest ["docs/./a.md".toList]).rules := by decide +kernel
    have segment : ['.'] ∈ (candidateOf "docs/./a.md".toList).splitOn '/' := by decide +kernel
    exact (sound.normal _ listed ['.'] segment).2.1 rfl

end Samples

end Aep.PatchEvaluation
