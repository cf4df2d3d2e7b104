import Aep.Library.Splice
import Aep.LocalizedPatch.Regions
import Aep.PlanningEvidence.Matching

namespace Aep.PlanningEvidence

open LocalizedPatch Result

structure InspectionMetadata where
  path : String := ""
  blobSize : Option Nat := none
  appliedTrustedCeiling : Option Nat := none
  predicateType : Option String := none
  inspectionStrategy : Option String := none
  evaluationComplete : Bool := false
  deriving DecidableEq

inductive EvidenceError where
  | planningEvidenceError (message : String)
  | inspectionError (reason : InspectionReason) (metadata : InspectionMetadata)
  | typeError
  deriving DecidableEq

/-- What a predicate selected as its evidence. -/
inductive SelectedEvidence where
  | structuredField (line : Nat)
  | textMatch (occurrences : Nat) (independentOccurrence : Option Bool)
  deriving DecidableEq

inductive Outcome where
  | isMatch
  | noMatch
  | unsupported
  deriving DecidableEq

def Outcome.of (satisfied : Bool) : Outcome := if satisfied then .isMatch else .noMatch

structure PredicateResult where
  predicate : Record
  result : Outcome
  selectedEvidence : Option SelectedEvidence
  deriving DecidableEq

/-- The arguments of `evaluate_path_predicates`. -/
structure Evaluation where
  path : String
  content : Text
  repositoryRevision : String
  predicates : List Record
  sourceId : String
  maxBytes : Nat := 64 * 1024
  blobSize : Option Nat := none
  blobSha256 : Option String := none
  declaredMaxBytes : Option Nat := none
  inspectionStrategy : String := "COMPLETE_BLOB_SCAN"
  statusFields : Option (List (Text × Nat)) := none
  inspectedBytes : Option Nat := none
  statusScanBytes : Option Nat := none
  region : Option Record := none
  distinctTextMatches : Bool := false

structure RegionEvidence where
  kind : Json
  name : Json
  identity : String
  matchCount : Nat
  deriving DecidableEq

structure Inspection where
  blobSize : Nat
  inspectedBytes : Nat
  appliedTrustedCeiling : Nat
  declaredMaxBytesHint : Option Nat
  strategy : String
  statusFieldScanBytes : Option Nat
  region : Option RegionEvidence
  deriving DecidableEq

structure EvidenceBody where
  path : String
  repositoryRevision : String
  preimageSha256 : String
  sourceId : String
  predicateResults : List PredicateResult
  inspection : Inspection
  deriving DecidableEq

structure Evidence extends EvidenceBody where
  selectionId : String
  deriving DecidableEq

/-- The hash of a text's UTF-8 bytes and that of the canonical JSON of the evidence. -/
structure Platform where
  sha256 : Text → String
  bodyDigest : EvidenceBody → String

def checkPath (path : String) : Except EvidenceError Unit := do
  raiseIf (path = "" ∨ '\\' ∈ path.toList ∨ '\x00' ∈ path.toList)
    (.planningEvidenceError "planning evidence path is unsafe")
  let parts := (path.toList.splitOn '/').filter fun part => !part.isEmpty && part ≠ ['.']
  let written := if parts.isEmpty then ['.'] else List.intercalate ['/'] parts
  raiseIf (path.toList.head? = some '/' ∨ ['.', '.'] ∈ parts ∨ written ≠ path.toList ∨ path = "." ∨
      (parts.head?.map fun first => first.map Char.toLower) = some ".git".toList)
    (.planningEvidenceError ("planning evidence path " ++ Json.repr (.str path) ++ " is unsafe"))

/-- `[^\S\r\n]`. -/
def inlineSpace : Pattern := .one fun char => Text.isSpace char && char ≠ '\r' && char ≠ '\n'

def notSpace : Pattern := .one fun char => !Text.isSpace char

def statusPattern : Pattern :=
  .sequence [.literal "**Status:**", .many inlineSpace,
    .group "value" (.seq notSpace (.optional (.seq (.many (.noneOf "\r\n")) notSpace))), .many inlineSpace, .atEnd]

def titlePattern : Pattern := indented [.literal "#", .oneOf [.repeated (.anyOf " \t"), .atEnd]]

def isMarkdownBlank (line : Text) : Bool := line.all isBlank

def isNonemptyDocumentTitle (line : Text) : Bool :=
  titlePattern.accepted line &&
    !(headingTitle (((line.dropWhile (· = ' ')).drop 1).dropWhile isBlank)).isEmpty

def lineText (line : Text) : Text := line.rstrip fun char => char = '\r' || char = '\n'

/-- `re.split` at line breaks: the lines without their terminators, and what follows the last one. -/
def splitBreaks (content : Text) : List Text :=
  let lines := markdownLines content
  lines.map lineText ++ (if lines.getLast?.all fun last => lineText last ≠ last then [[]] else [])

/-- The loop of `_structured_status_fields`. -/
def statusFieldsFrom (titleSeen statusSeen : Bool) (lineNumber : Nat) :
    List Text → Except InspectionReason (List (Text × Nat))
  | [] => pure []
  | line :: rest =>
    if isMarkdownBlank line then statusFieldsFrom titleSeen statusSeen (lineNumber + 1) rest
    else
      match statusPattern.matchStart line with
      | some found => do
        let others ← statusFieldsFrom titleSeen true (lineNumber + 1) rest
        pure (((found.group "value").getD [], lineNumber) :: others)
      | none =>
        if (Pattern.literal "**Status:**").accepted line then .error .statusFieldMalformed
        else if !titleSeen && !statusSeen && isNonemptyDocumentTitle line then
          statusFieldsFrom true statusSeen (lineNumber + 1) rest
        else pure []

def structuredStatusFields (content : Text) : Except InspectionReason (List (Text × Nat)) :=
  statusFieldsFrom false false 1 (splitBreaks content)

def countBreaks (content : Text) : Nat := (markdownLines content).countP fun line => lineText line ≠ line

structure Scope where
  start : Nat := 0
  scopedContent : Text
  region : Option (Record × RegionSpan) := none

def scopeOf (evaluation : Evaluation) : Except EvidenceError Scope :=
  match evaluation.region with
  | none => pure { scopedContent := evaluation.content }
  | some region =>
    match regionSpan evaluation.content region with
    | .ok span => pure {
        start := span.start
        scopedContent := Splice.slice evaluation.content span.start span.stop
        region := some (region, span) }
    | .error reason => .error (.inspectionError reason {
        path := evaluation.path
        evaluationComplete := false })

def completeSize (evaluation : Evaluation) : Nat := evaluation.blobSize.getD (Text.utf8Length evaluation.content)

def statusMetadata (evaluation : Evaluation) : InspectionMetadata where
  path := evaluation.path
  blobSize := some (completeSize evaluation)
  appliedTrustedCeiling := some evaluation.maxBytes
  predicateType := some "STATUS_EQUALS"
  inspectionStrategy := some evaluation.inspectionStrategy
  evaluationComplete := true

def statusFields (evaluation : Evaluation) (scope : Scope) : Except InspectionReason (List (Text × Nat)) :=
  match scope.region with
  | none =>
    match evaluation.statusFields with
    | some fields => .ok fields
    | none => structuredStatusFields evaluation.content
  | some (region, _) => do
    let baseLine := countBreaks (evaluation.content.take scope.start)
    let heading := (markdownLines scope.scopedContent).head?
    let skipped := if region.field "kind" = .str "MARKDOWN_SECTION" then heading.filter fun line => lineText line ≠ line
      else none
    let fields ← structuredStatusFields (scope.scopedContent.drop ((skipped.map List.length).getD 0))
    pure (fields.map fun (value, line) => (value, line + baseLine + (if skipped.isSome then 1 else 0)))

def evaluateStatus (evaluation : Evaluation) (scope : Scope) (predicate : Record) :
    Except EvidenceError PredicateResult :=
  match statusFields evaluation scope with
  | .error reason => .error (.inspectionError reason (statusMetadata evaluation))
  | .ok [] => .error (.inspectionError .statusFieldMissing (statusMetadata evaluation))
  | .ok [(actual, line)] =>
    .ok ⟨predicate, .of (predicate.field "value" = .str (String.ofList actual)), some (.structuredField line)⟩
  | .ok _ => .error (.inspectionError .statusFieldAmbiguous (statusMetadata evaluation))

inductive TextKind where
  | textPresent
  | textAbsent
  | linePresent
  | lineAbsent
  deriving DecidableEq

def textKind? : String → Option TextKind
  | "TEXT_PRESENT" => some .textPresent
  | "TEXT_ABSENT" => some .textAbsent
  | "LINE_PRESENT" => some .linePresent
  | "LINE_ABSENT" => some .lineAbsent
  | _ => none

namespace TextKind

def isLine : TextKind → Bool
  | linePresent | lineAbsent => true
  | _ => false

def isPresent : TextKind → Bool
  | textPresent | linePresent => true
  | _ => false

def positions (kind : TextKind) (content expected : Text) : List Nat :=
  if kind.isLine then logicalLinePositions content expected else logicalTextPositions content expected

end TextKind

def expectedText (predicate : Record) : Except EvidenceError Text :=
  match predicate.field "value" with
  | .str "" => .error (.planningEvidenceError "text predicates require a non-empty value")
  | .str value => .ok (canonicalInsertion value.toList)
  | _ => .error (.planningEvidenceError "text predicates require a non-empty value")

/-- The result of a text predicate, and what a distinct match is looked for among. -/
def evaluateText (scope : Scope) (kind : TextKind) (predicate : Record) :
    Except EvidenceError (PredicateResult × Text × List Nat) := do
  let expected ← expectedText predicate
  let positions := kind.positions (canonicalInsertion scope.scopedContent) expected
  let satisfied := if kind.isPresent then !positions.isEmpty else positions.isEmpty
  pure (⟨predicate, .of satisfied, some (.textMatch positions.length none)⟩, expected, positions)

def evaluatePredicate (evaluation : Evaluation) (scope : Scope) (predicate : Record) :
    Except EvidenceError (PredicateResult × Option (Text × List Nat)) :=
  match predicate.field "kind" with
  | .str "STATUS_EQUALS" => do
    let result ← evaluateStatus evaluation scope predicate
    pure (result, none)
  | .str name =>
    match textKind? name with
    | some kind => do
      let (result, candidate) ← evaluateText scope kind predicate
      pure (result, if evaluation.distinctTextMatches && kind.isPresent then some candidate else none)
    | none => pure (⟨predicate, .unsupported, none⟩, none)
  | kind => if kind.isHashable then pure (⟨predicate, .unsupported, none⟩, none) else .error .typeError

def evaluatePredicates (evaluation : Evaluation) (scope : Scope) :
    List Record → Except EvidenceError (List (PredicateResult × Option (Text × List Nat)))
  | [] => pure []
  | predicate :: rest => do
    let result ← evaluatePredicate evaluation scope predicate
    let others ← evaluatePredicates evaluation scope rest
    pure (result :: others)

def distinctCandidates (results : List (PredicateResult × Option (Text × List Nat))) : List Candidate :=
  results.zipIdx.filterMap fun (entry, index) =>
    entry.2.map fun (value, positions) => ⟨index, value, positions⟩

def settleDistinct (results : List (PredicateResult × Option (Text × List Nat))) : List PredicateResult :=
  let selected := independentTextPositions (distinctCandidates results)
  results.mapIdx fun index entry =>
    match entry.2 with
    | none => entry.1
    | some (_, positions) =>
      { entry.1 with
        result := .of (selected.contains index)
        selectedEvidence := some (.textMatch positions.length (some (selected.contains index))) }

def inspectionOf (evaluation : Evaluation) (scope : Scope) : Inspection where
  blobSize := completeSize evaluation
  inspectedBytes := evaluation.inspectedBytes.getD (Text.utf8Length evaluation.content)
  appliedTrustedCeiling := evaluation.maxBytes
  declaredMaxBytesHint := evaluation.declaredMaxBytes
  strategy := evaluation.inspectionStrategy
  statusFieldScanBytes := evaluation.statusScanBytes
  region := scope.region.map fun (region, span) =>
    ⟨region.field "kind", region.field "name", span.identity, span.matchCount⟩

def checkIdentity (platform : Platform) (evaluation : Evaluation) : Except EvidenceError Unit :=
  let partialScan := evaluation.inspectionStrategy = "STRUCTURED_STATUS_FIELD_SCAN" ∧ evaluation.statusFields.isSome
  raiseIf (¬partialScan ∧ (completeSize evaluation ≠ Text.utf8Length evaluation.content ∨
      evaluation.blobSha256.getD (platform.sha256 evaluation.content) ≠ platform.sha256 evaluation.content))
    (.inspectionError .blobIdentityMismatch {
      path := evaluation.path
      blobSize := some (completeSize evaluation)
      appliedTrustedCeiling := some evaluation.maxBytes
      inspectionStrategy := some evaluation.inspectionStrategy })

def checkEvaluation (evaluation : Evaluation) : Except EvidenceError Unit := do
  checkPath evaluation.path
  raiseIf (evaluation.repositoryRevision = "" ∨ evaluation.sourceId = "")
    (.planningEvidenceError "planning evidence requires revision and source provenance")
  raiseIf ('\x00' ∈ evaluation.content) (.planningEvidenceError
    ("planning-evidence target " ++ Json.repr (.str evaluation.path) ++ " is not UTF-8 text"))
  raiseIf (Text.utf8Length evaluation.content > evaluation.maxBytes) (.planningEvidenceError
    ("planning-evidence target " ++ Json.repr (.str evaluation.path) ++ " exceeds its byte limit"))
  raiseIf (evaluation.predicates = []) (.planningEvidenceError
    ("planning-evidence target " ++ Json.repr (.str evaluation.path) ++ " has no predicates"))

def bodyOf (platform : Platform) (evaluation : Evaluation) (scope : Scope) (results : List PredicateResult) :
    EvidenceBody where
  path := evaluation.path
  repositoryRevision := evaluation.repositoryRevision
  preimageSha256 := evaluation.blobSha256.getD (platform.sha256 evaluation.content)
  sourceId := evaluation.sourceId
  predicateResults := results
  inspection := inspectionOf evaluation scope

def evaluatePathPredicates (platform : Platform) (evaluation : Evaluation) : Except EvidenceError Evidence := do
  checkEvaluation evaluation
  let scope ← scopeOf evaluation
  let results ← evaluatePredicates evaluation scope evaluation.predicates
  checkIdentity platform evaluation
  let body := bodyOf platform evaluation scope (settleDistinct results)
  pure { body with selectionId := "planselection-" ++ String.ofList ((platform.bodyDigest body).toList.take 20) }

end Aep.PlanningEvidence
