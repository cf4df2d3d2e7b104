import Aep.PlanningEvidence.Predicates
import Mathlib.Data.List.Sort
import Mathlib.Data.Prod.Lex
import Mathlib.Data.String.Basic

namespace Aep.PlanningEvidence

open Result

inductive ReconciliationError where
  | evidence (error : EvidenceError)
  | candidateReconciliationError (message : String)
  deriving DecidableEq

/-- The arguments of `reconcile_dispositions`. A mapping that is not given is empty. -/
structure Reconciliation where
  planId : String
  repositoryRevision : String
  originalRequiredPaths : List String
  targets : List Record
  dispositions : List Record
  postconditionsByPath : Dict String (List Record)
  evaluatorRef : Record
  proposedContentsByPath : Dict String String := []
  deletedPaths : List String := []
  requiredInsertionsByPath : Dict String (List String) := []
  regionsByPath : Dict String Record := []
  maxBytes : Nat := 64 * 1024

inductive PathState where
  | change
  | noChange
  deriving DecidableEq

structure ScopeProof where
  selectionId : Json
  region : Option Record
  predicateResults : List PredicateResult
  deriving DecidableEq

inductive PostconditionProof where
  | scoped (sourceId : String) (scopeProofs : List ScopeProof)
  | pathAbsence (predicates : List Record)
  deriving DecidableEq

structure InsertionProof where
  value : String
  result : Outcome
  selectionId : Option Json
  deriving DecidableEq

structure PathDisposition where
  path : String
  disposition : PathState
  targetSha256 : String
  outputSha256 : Option String
  absent : Bool
  postconditionProof : PostconditionProof
  requiredInsertionProof : List InsertionProof
  deriving DecidableEq

structure ReconciliationBody where
  planArtifactId : String
  repositoryRevision : String
  originalRequiredPaths : List String
  effectiveRequiredPaths : List String
  verifiedNoChangePaths : List String
  pathDispositions : List PathDisposition
  evaluatorRef : Record
  deriving DecidableEq

structure ReconciliationRecord extends ReconciliationBody where
  id : String
  deriving DecidableEq

structure ReconciliationPlatform extends Platform where
  casefold : String → String
  recordDigest : ReconciliationBody → String

def refuse {α : Type} (message : String) : Except ReconciliationError α :=
  .error (.evidence (.planningEvidenceError message))

def refuseIf (condition : Prop) [Decidable condition] (message : String) : Except ReconciliationError Unit :=
  raiseIf condition (.evidence (.planningEvidenceError message))

def evaluated {α : Type} : Except EvidenceError α → Except ReconciliationError α
  | .ok value => .ok value
  | .error error => .error (.evidence error)

section Maps

def pathsOf (items : List Record) : Except EvidenceError (List Json) := do
  let paths := items.map fun item => Dict.field item "path"
  raiseIf ((paths.all Json.isHashable) = false) .typeError
  return paths

def hasDuplicates : List Json → Bool
  | [] => false
  | path :: rest => rest.any path.pyEq || hasDuplicates rest

def sameElements (left right : List Json) : Bool :=
  left.all (fun path => right.any path.pyEq) && right.all fun path => left.any path.pyEq

def itemAt (items : List Record) (path : String) : Record :=
  (items.find? fun item => Dict.field item "path" = .str path).getD []

end Maps

section Postconditions

variable (asked : Reconciliation) (path : String)

def isNested (raw : List Record) : Bool := (raw.head?.bind fun first => Dict.get? first "predicates").isSome

def postconditionsOf : List Record := (asked.postconditionsByPath.get? path).getD []

/-- The scopes of a path's postconditions. Flat predicates are one scope, in the region of the path. -/
def scopesOf : List Record :=
  let raw := postconditionsOf asked path
  if isNested raw then raw
  else [[("predicates", .arr (raw.map .obj)), ("region", ((asked.regionsByPath.get? path).map Json.obj).getD .null)]]

def asPredicate : Json → Except EvidenceError Record
  | .obj predicate => .ok predicate
  | _ => .error .typeError

def scopePredicates (scope : Record) : Except EvidenceError (List Record) :=
  match (scope.get? "predicates").getD (.arr []) with
  | .arr items => items.mapM asPredicate
  | .str "" => .ok []
  | .str _ => .error .typeError
  | _ => .error (.planningEvidenceError
      ("planning evidence for " ++ Json.repr (.str path) ++ " has malformed scope predicates"))

def scopeRegion (scope : Record) : Except EvidenceError (Option Record) :=
  match Dict.field scope "region" with
  | .null => .ok none
  | .obj region => .ok (some region)
  | _ => .error .typeError

/-- The evaluation of predicates on the content of the path, in a region of it. -/
def evaluationOf (content : Text) (predicates : List Record) (sourceId : String) (region : Option Record)
    (distinct : Bool) : Evaluation where
  path
  content
  repositoryRevision := asked.repositoryRevision
  predicates
  sourceId
  maxBytes := asked.maxBytes
  region
  distinctTextMatches := distinct

variable (platform : ReconciliationPlatform)

def scopeProof (content : Text) (sourceId : String) (scope : Record) : Except EvidenceError ScopeProof := do
  let predicates ← scopePredicates path scope
  let region ← scopeRegion scope
  let proof ← evaluatePathPredicates platform.toPlatform (evaluationOf asked path content predicates sourceId region false)
  return ⟨Dict.field scope "selectionId", region, proof.predicateResults⟩

def scopedProof (content : Option Text) (sourceId : String) : Except EvidenceError PostconditionProof :=
  match content with
  | none => .error (.planningEvidenceError
      ("planning-evidence target " ++ Json.repr (.str path) ++ " is not UTF-8 text"))
  | some content => do return .scoped sourceId (← (scopesOf asked path).mapM (scopeProof asked path platform content sourceId))

def mappingsIn (scope : Record) : Except EvidenceError (List Record) :=
  match (scope.get? "predicates").getD (.arr []) with
  | .arr items => .ok (items.filterMap Json.asRecord?)
  | .obj _ | .str _ => .ok []
  | _ => .error .typeError

def deletedPostconditions : Except EvidenceError (List Record) := do
  let raw := postconditionsOf asked path
  if isNested raw then return (← raw.mapM mappingsIn).flatten
  else return raw

def deletionProof : Except ReconciliationError PostconditionProof := do
  refuseIf (((asked.regionsByPath.get? path).any fun region => Dict.field region "kind" ≠ .str "WHOLE_FILE") = true)
    ("DELETE for " ++ Json.repr (.str path) ++ " cannot rely on region-scoped evidence")
  let postconditions ← evaluated (deletedPostconditions asked path)
  refuseIf (postconditions = [] ∨ (postconditions.any fun item => Dict.field item "kind" ≠ .str "TEXT_ABSENT") = true)
    ("DELETE for " ++ Json.repr (.str path) ++ " requires TEXT_ABSENT postconditions")
  return .pathAbsence postconditions

def PostconditionProof.holds : PostconditionProof → Bool
  | .scoped _ proofs => proofs.all fun proof => proof.predicateResults.all fun result => result.result = .isMatch
  | .pathAbsence _ => true

def proposedProof : Except ReconciliationError PostconditionProof :=
  if path ∈ asked.deletedPaths then deletionProof asked path
  else match asked.proposedContentsByPath.get? path with
    | none => refuse ("CHANGE for " ++ Json.repr (.str path) ++ " lacks proposed content evidence")
    | some proposed => evaluated (scopedProof asked path platform (some proposed.toList) "generated-change")

def changeProof : Except ReconciliationError PostconditionProof := do
  let proof ← proposedProof asked path platform
  raiseIf (proof.holds = false) (.candidateReconciliationError
    ("CHANGE for " ++ Json.repr (.str path) ++ " has an unsatisfied or unsupported postcondition"))
  return proof

/-- `target.get("provenance", {}).get("taskExecutionId", "editable-target")`. -/
def targetSource (target : Record) : Except EvidenceError String :=
  match (target.get? "provenance").getD (.obj []) with
  | .obj provenance => .ok ((Dict.get? provenance "taskExecutionId").getD (.str "editable-target")).text
  | _ => .error .typeError

def noChangeProof (target : Record) (content : Option Text) : Except ReconciliationError PostconditionProof := do
  let source ← evaluated (targetSource target)
  let proof ← evaluated (scopedProof asked path platform content source)
  raiseIf (proof.holds = false) (.candidateReconciliationError
    ("NO_CHANGE for " ++ Json.repr (.str path) ++ " has an unsatisfied or unsupported criterion"))
  return proof

def stateProof (target disposition : Record) (content : Option Text) :
    Except ReconciliationError (PathState × PostconditionProof) :=
  match Dict.field disposition "disposition" with
  | .str "CHANGE" => do return (.change, ← changeProof asked path platform)
  | .str "NO_CHANGE" => do return (.noChange, ← noChangeProof asked path platform target content)
  | _ => refuse ("disposition for " ++ Json.repr (.str path) ++ " must be CHANGE or NO_CHANGE")

end Postconditions

section Insertions

variable (asked : Reconciliation) (path : String) (platform : ReconciliationPlatform)

def presence (value : String) : Record :=
  [("kind", .str (if '\n' ∈ value.toList ∨ '\r' ∈ value.toList then "LINE_PRESENT" else "TEXT_PRESENT")),
    ("value", .str value)]

def insertionsOf : List String := (asked.requiredInsertionsByPath.get? path).getD []

def insertionSource : String := "generated-insertion-reconciliation"

def ownsValue (scope : Record) (value : String) : Except EvidenceError Bool :=
  match (scope.get? "requiredInsertionValues").getD (.arr []) with
  | .arr owned => .ok (owned.isEmpty || owned.contains (.str value))
  | .obj owned => .ok (owned.isEmpty || (Dict.keys owned).contains value)
  | .str owned => .ok (owned = "" || Text.contains value.toList owned.toList)
  | owned => if owned.truthy then .error .typeError else .ok true

def matchesOf (output : Text) (value : String) : List Record → Except EvidenceError (List Json)
  | [] => .ok []
  | scope :: rest => do
    if ← ownsValue scope value then
      let region ← scopeRegion scope
      let proof ← evaluatePathPredicates platform.toPlatform
        (evaluationOf asked path output [presence value] insertionSource region false)
      let others ← matchesOf output value rest
      return if (proof.predicateResults.head?.map PredicateResult.result) = some .isMatch
        then Dict.field scope "selectionId" :: others else others
    else matchesOf output value rest

def scopedInsertion (output : Text) (value : String) : Except EvidenceError InsertionProof := do
  let found ← matchesOf asked path platform output value (scopesOf asked path)
  return match found with
    | [selectionId] => ⟨value, .isMatch, some selectionId⟩
    | _ => ⟨value, .noMatch, some .null⟩

def wholeInsertions (output : Text) (scope : Record) : Except EvidenceError (List InsertionProof) := do
  let region ← scopeRegion scope
  let record ← evaluatePathPredicates platform.toPlatform
    (evaluationOf asked path output ((insertionsOf asked path).map presence) insertionSource region true)
  return List.zipWith (fun value result => ⟨value, result.result, none⟩) (insertionsOf asked path) record.predicateResults

def outputInsertions (output : Text) : Except EvidenceError (List InsertionProof) :=
  match scopesOf asked path with
  | [scope] =>
    if Dict.field scope "selectionId" = .null then wholeInsertions asked path platform output scope
    else (insertionsOf asked path).mapM (scopedInsertion asked path platform output)
  | _ => (insertionsOf asked path).mapM (scopedInsertion asked path platform output)

def PathState.text : PathState → String
  | .change => "CHANGE"
  | .noChange => "NO_CHANGE"

def insertionProof (state : PathState) (output : Option Text) : Except ReconciliationError (List InsertionProof) := do
  if insertionsOf asked path = [] then return []
  else match output with
    | none => .error (.candidateReconciliationError
        (state.text ++ " for " ++ Json.repr (.str path) ++ " lacks a required insertion"))
    | some output =>
      let proofs ← evaluated (outputInsertions asked path platform output)
      raiseIf ((proofs.all fun proof => proof.result = .isMatch) = false) (.candidateReconciliationError
        (state.text ++ " for " ++ Json.repr (.str path) ++ " lacks a required insertion"))
      return proofs

end Insertions

section Reconcile

variable (platform : ReconciliationPlatform) (asked : Reconciliation)

def targetContent (target : Record) : Option Text := (Dict.field target "content").asString?.map String.toList

def targetDigest (target : Record) : String := ((targetContent target).map platform.sha256).getD ""

def outputOf (path : String) (content : Option Text) : Option Text :=
  if path ∈ asked.deletedPaths then none
  else ((asked.proposedContentsByPath.get? path).map String.toList).or content

def reconcilePath (path : String) : Except ReconciliationError PathDisposition := do
  let target := itemAt asked.targets path
  let disposition := itemAt asked.dispositions path
  refuseIf (Dict.field target "repositoryRevision" ≠ .str asked.repositoryRevision)
    ("editable target " ++ Json.repr (.str path) ++ " is revision-mismatched")
  refuseIf (Dict.field target "preimageSha256" ≠ .str (targetDigest platform target))
    ("editable target " ++ Json.repr (.str path) ++ " has stale content evidence")
  let (state, proof) ← stateProof asked path platform target disposition (targetContent target)
  let output := outputOf asked path (targetContent target)
  let insertions ← insertionProof asked path platform state output
  return {
    path, disposition := state, targetSha256 := targetDigest platform target
    outputSha256 := output.map platform.sha256, absent := path ∈ asked.deletedPaths
    postconditionProof := proof, requiredInsertionProof := insertions }

def checkCoverage : Except ReconciliationError (List Json) := do
  let targets ← evaluated (pathsOf asked.targets)
  refuseIf (hasDuplicates targets = true) "editable targets contain duplicate paths"
  refuseIf (¬asked.originalRequiredPaths.Nodup ∨ sameElements targets (asked.originalRequiredPaths.map .str) = false)
    "reconciliation targets must exactly cover the original required paths"
  let dispositions ← evaluated (pathsOf asked.dispositions)
  refuseIf (hasDuplicates dispositions = true ∨ sameElements dispositions targets = false)
    "every editable target requires one terminal disposition"
  refuseIf (¬asked.deletedPaths.Nodup ∨ ¬asked.deletedPaths ⊆ asked.originalRequiredPaths)
    "deleted paths must be unique original required paths"
  return targets

def pathRank (path : String) : String ×ₗ String := toLex (platform.casefold path, path)

def sortedPaths (paths : List Json) : List String :=
  (paths.filterMap Json.asString?).insertionSort fun first second => pathRank platform first ≤ pathRank platform second

def bodyOfEntries (entries : List PathDisposition) : ReconciliationBody where
  planArtifactId := asked.planId
  repositoryRevision := asked.repositoryRevision
  originalRequiredPaths := asked.originalRequiredPaths.insertionSort (· ≤ ·)
  effectiveRequiredPaths := (entries.filter fun entry => entry.disposition = .change).map PathDisposition.path
  verifiedNoChangePaths := (entries.filter fun entry => entry.disposition = .noChange).map PathDisposition.path
  pathDispositions := entries
  evaluatorRef := asked.evaluatorRef

def reconcileDispositions : Except ReconciliationError ReconciliationRecord := do
  let targets ← checkCoverage asked
  let entries ← (sortedPaths platform targets).mapM (reconcilePath platform asked)
  let body := bodyOfEntries asked entries
  return { body with id := "planreconciliation-" ++ String.ofList ((platform.recordDigest body).toList.take 20) }

end Reconcile

end Aep.PlanningEvidence
