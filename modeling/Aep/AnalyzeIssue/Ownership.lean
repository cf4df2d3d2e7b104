import Aep.BuildImplementationPlan.Evidence
import Aep.Library.Pattern
import Aep.RepositoryKnowledge.Paths

/-! The checks of an issue analysis and the normalisation of its predicates. -/
namespace Aep.AnalyzeIssue

open RuntimeStore Result
open WorkflowScheduler (iterate)
open BuildImplementationPlan (getOr hashed criterionEntry ofEntries criterionOf isText)

def contractError (message : String) : PyError := { errorClass := .analyzeIssueContractError, message }

/-- `str.casefold`. -/
structure Platform where
  casefold : String → String

def listOf (output : Record) (key : String) : Option (List Json) := (getOr output key (.arr [])).asItems?

def mappings (items : List Json) : List Record := items.filterMap Json.asRecord?

section Insertions

def insertionsMalformed : PyError :=
  contractError "acceptanceCriterionInsertions must map every acceptance criterion exactly once"

def criterionId : Json → Json
  | .obj fields => Dict.field fields "id"
  | item => item

def sorted (texts : List String) : List String := texts.mergeSort fun left right => left ≤ right

def validateAcceptanceCriterionInsertions (output : Record) : Except PyError Unit :=
  match listOf output "acceptanceCriteria", listOf output "acceptanceCriterionInsertions" with
  | some criteria, some records => do
    let criterionIds := criteria.map criterionId
    let mapped := (mappings records).map criterionOf
    raiseIf (criterionIds.all isText = false) insertionsMalformed
    raiseIf (¬criterionIds.Nodup) insertionsMalformed
    raiseIf (mapped.length ≠ records.length) insertionsMalformed
    match mapped.mapM Json.asString? with
    | none => .error (typeError "criteria of insertions must be comparable")
    | some names => do
      raiseIf (sorted names ≠ sorted (criterionIds.map Json.text)) insertionsMalformed
      raiseIf (¬names.Nodup) insertionsMalformed
  | _, _ => .error insertionsMalformed

end Insertions

section Requirements

/-- `[A-Za-z0-9_-]`, for a pattern that ignores case. -/
def isWordChar (char : Char) : Bool := (Text.fold char).isAlphanum || char = '_' || char = '-'

def diffCheckPattern : Pattern :=
  .sequence [.caseless "git".toList, .repeated .space, .caseless "diff".toList, .repeated .space, .caseless "--check".toList]

/-- Whether `git diff --check` stands in a text with no word around it. -/
def namesDiffCheck (previous : Option Char) : Text → Bool
  | [] => false
  | char :: rest =>
    (!previous.any isWordChar &&
        (diffCheckPattern.matchStart (char :: rest)).any fun found => !found.rest.head?.any isWordChar) ||
      namesDiffCheck (some char) rest

def safeEvaluatorRequirementPath (path : String) : Bool :=
  let text := path.toList
  let parts := RepositoryKnowledge.partsOf text
  if text ≠ Text.strip text || '\\' ∈ text then false
  else
    text ≠ [] && text.head? ≠ some '/' && !RepositoryKnowledge.hasDrive text && RepositoryKnowledge.asPosix text ≠ ['.'] &&
      text = RepositoryKnowledge.asPosix text && ['.', '.'] ∉ parts &&
      (parts.head?.map fun first => first.map Char.toLower) ≠ some ".git".toList

def predicateCriterion (declaration : Record) : Json := getOr declaration "criterionId" (declaration.field "selectionReason")

/-- The texts of the criteria by their ids, or by themselves where none has an id. -/
def criterionById (criteria : List Json) : Dict String String :=
  match criteria.filterMap criterionEntry with
  | [] => ofEntries ((criteria.filterMap Json.asString?).map fun text => (text, text))
  | entries => ofEntries entries

def statuses : List String := ["Not Started", "In Progress", "Blocked", "Completed"]

variable (platform : Platform) (criteria : Dict String String)

/-- A `STATUS_EQUALS` of a declaration is of a section and of a criterion about a status. -/
def statusAccepted (declaration predicate : Record) : Bool :=
  match predicate.field "value", declaration.field "region", predicateCriterion declaration with
  | .str value, .obj region, .str criterion =>
    statuses.contains value && Dict.field region "kind" = .str "MARKDOWN_SECTION" && isText (Dict.field region "name") &&
      (criteria.get? criterion).any fun text => Text.contains "status".toList (platform.casefold text).toList
  | _, _, _ => false

def statusRefused (declaration : Record) : Bool :=
  (mappings [declaration.field "predicate", declaration.field "postcondition"]).any fun predicate =>
    predicate.field "kind" = .str "STATUS_EQUALS" && !statusAccepted platform criteria declaration predicate

def namesCriterion (criterion : Json) : Bool :=
  match criterion with
  | .str name => name ∈ criteria.keys
  | _ => false

def requirementAccepted (item : Record) : Bool :=
  match item.field "path", criterionOf item with
  | .str path, .str criterion =>
    item.field "owner" = .str "PATCH_EVALUATION" && item.field "requirementId" = .str "DIFF_CHECK_PASSES" && path ≠ "" &&
      safeEvaluatorRequirementPath path && (criteria.get? criterion).any fun text => namesDiffCheck none text.toList
  | _, _ => false

def checkRequirements : (seen : List Json) → List Json → Except PyError Unit
  | _, [] => .ok ()
  | seen, .obj item :: rest => do
    raiseIf (requirementAccepted criteria item = false)
      (contractError "unsupported evaluator-owned requirement; expected PATCH_EVALUATION/DIFF_CHECK_PASSES")
    raiseIf (criterionOf item ∈ seen)
      (contractError "evaluatorRequirements must contain one requirement per criterion")
    checkRequirements (criterionOf item :: seen) rest
  | _, _ :: _ => .error (contractError "evaluatorRequirements must contain objects")

def insertionsOf (records : List Record) (criterion : Json) : Json :=
  ((records.reverse.find? fun record => (criterionOf record).pyEq criterion).map (·.field "requiredInsertions")).getD .null

def requiresInsertions : Json → Bool
  | .arr values => !values.isEmpty
  | _ => false

def validateEvaluatorOwnedRequirements (output : Record) : Except PyError Unit :=
  match listOf output "planningPredicates" with
  | none => .ok ()
  | some items => do
    let declarations := mappings items
    raiseIf (declarations.any fun declaration => declaration.field "region" = .null)
      (contractError "evaluator-owned criteria must use evaluatorRequirements, not null-region document predicates")
    let criteria ← iterate (getOr output "acceptanceCriteria" (.arr []))
    let known := criterionById criteria
    raiseIf (known.length ≠ criteria.length ∨ ¬(known.map Prod.snd).Nodup)
      (contractError "acceptance criteria require unique stable IDs and text")
    raiseIf (declarations.any (statusRefused platform known))
      (contractError "STATUS_EQUALS requires a Markdown-section structured Status criterion")
    match listOf output "evaluatorRequirements" with
    | none => .error (contractError "evaluatorRequirements must be an array")
    | some requirements => do
      let evaluatorCriteria ← ((mappings requirements).map criterionOf).mapM hashed
      let records := mappings (← iterate (getOr output "acceptanceCriterionInsertions" (.arr [])))
      let _ ← (records.map criterionOf).mapM hashed
      raiseIf (evaluatorCriteria.any fun criterion => requiresInsertions (insertionsOf records criterion))
        (contractError "evaluator-owned acceptance criteria must not require insertions")
      raiseIf (declarations.any fun declaration => !namesCriterion known (predicateCriterion declaration))
        (contractError "planning predicates must bind one non-evaluator acceptance criterion exactly")
      checkRequirements known [] requirements
      let owners := declarations.map predicateCriterion ++ evaluatorCriteria
      let declared := "planningPredicates" ∈ output.keys ∨ "evaluatorRequirements" ∈ output.keys
      raiseIf (declared ∧ ¬(owners.all (namesCriterion known) ∧ known.keys.all fun name => .str name ∈ owners))
        (contractError "every acceptance criterion requires document or evaluator ownership")

end Requirements

section Normalization

def evaluatorOwned (evaluatorCriteria : List Json) (declaration : Record) : Bool :=
  evaluatorCriteria.any (predicateCriterion declaration).pyEq

def removedEvidence (declaration : Record) : Record :=
  [("criterionId", predicateCriterion declaration), ("path", getOr declaration "path" (declaration.field "pathPrefix")),
    ("reason", .str "EVALUATOR_OWNED_PREDICATE_REMOVED")]

def isRetained (evaluatorCriteria : List Json) (item : Json) : Bool :=
  match item.asRecord? with
  | some declaration => !evaluatorOwned evaluatorCriteria declaration
  | none => true

def normalizeEvaluatorOwnedPredicates (platform : Platform) : Json → Except PyError (Json × List Record)
  | .obj output => do
    validateEvaluatorOwnedRequirements platform output
    let requirements ← iterate (getOr output "evaluatorRequirements" (.arr []))
    let evaluatorCriteria ← ((mappings requirements).map criterionOf).mapM hashed
    let declarations ← iterate (getOr output "planningPredicates" (.arr []))
    let _ ← ((mappings declarations).map predicateCriterion).mapM hashed
    let normalized := ((mappings declarations).filter (evaluatorOwned evaluatorCriteria)).map removedEvidence
    if normalized = [] then return (.obj output, [])
    return (.obj (Dict.set output "planningPredicates" (.arr (declarations.filter (isRetained evaluatorCriteria)))), normalized)
  | output => .ok (output, [])

end Normalization

def invocationOutputErrors (platform : Platform) (taskName : String) (output : Json) : Except PyError (List String) :=
  if taskName ≠ "analyze-issue" then .ok []
  else
    match output with
    | .obj fields =>
      match (do validateAcceptanceCriterionInsertions fields; validateEvaluatorOwnedRequirements platform fields) with
      | .ok () => .ok []
      | .error raised =>
        if raised.errorClass = .analyzeIssueContractError then .ok [raised.message] else .error raised
    | _ => .ok []

end Aep.AnalyzeIssue
