import Aep.Library.Coalesce
import Aep.Library.Json
import Aep.WorkflowScheduler.Approval
import Mathlib.Algebra.Ring.Int.Defs
import Mathlib.Data.List.Lex
import Mathlib.Data.String.Basic

namespace Aep.ContextBuilder

open RuntimeStore
open WorkflowScheduler (item asDict iterate RefKey ResourceRef refRecord)

abbrev Candidate : Type := String × Record

/-- What identifies a slice of the repository: revision, snapshot, path, lines and symbol. -/
abbrev Identity : Type := List Json

section Knowledge

inductive KnowledgeKind where
  | file
  | documentation
  | dependencyManifest
  | testHint
  | symbol
  | astNode

def KnowledgeKind.value : KnowledgeKind → String
  | .file => "FILE"
  | .documentation => "DOCUMENTATION"
  | .dependencyManifest => "DEPENDENCY_MANIFEST"
  | .testHint => "TEST_HINT"
  | .symbol => "SYMBOL"
  | .astNode => "AST_NODE"

structure SourceLocation where
  path : String
  startLine : Option Int := none
  endLine : Option Int := none
  symbol : Option String := none

structure QueryProvenance where
  repositoryRevision : String
  snapshotVersion : String
  snapshotCreatedAt : String
  snapshotProducer : String
  source : SourceLocation
  traversalPath : List String

structure KnowledgeResult where
  id : String
  kind : KnowledgeKind
  score : Nat
  attributes : Record
  provenance : QueryProvenance

inductive SliceType where
  | repository
  | knowledge

def SliceType.name : SliceType → String
  | .repository => "repository"
  | .knowledge => "knowledge"

def SourceLocation.record (source : SourceLocation) : Record :=
  [("path", .str source.path)] ++ (source.startLine.map fun line => ("startLine", Json.int line)).toList ++
    (source.endLine.map fun line => ("endLine", Json.int line)).toList ++
    (source.symbol.map fun symbol => ("symbol", Json.str symbol)).toList

def strings (values : List String) : Json := .arr (values.map .str)

def knowledgeElement (elementType : SliceType) (result : KnowledgeResult) (ref : Option ResourceRef) : Record := [
  ("type", .str elementType.name),
  ("content", .obj [
    ("id", .str result.id), ("kind", .str result.kind.value), ("score", .int result.score),
    ("attributes", .obj result.attributes), ("source", .obj result.provenance.source.record),
    ("retrieval", .obj [
      ("snapshotVersion", .str result.provenance.snapshotVersion),
      ("snapshotCreatedAt", .str result.provenance.snapshotCreatedAt),
      ("snapshotProducer", .str result.provenance.snapshotProducer),
      ("traversalPath", strings result.provenance.traversalPath)])]),
  ("provenance", .obj [
    ("actor", .str "repository-knowledge-query"),
    ("repositoryRevision", .str result.provenance.repositoryRevision),
    ("knowledgeGraphVersion", .str result.provenance.snapshotVersion),
    ("resourceRefs", .arr (ref.toList.map fun ref => .obj (refRecord ref)))])]

end Knowledge

section Identity

def isSlice (element : Record) : Bool := element.field "type" ∈ [Json.str "repository", .str "knowledge"]

def repositoryIdentity (element : Record) : Option Identity := do
  guard (isSlice element)
  let content ← (element.field "content").asRecord?
  let provenance ← (element.field "provenance").asRecord?
  let source ← (content.field "source").asRecord?
  let retrieval ← (content.field "retrieval").asRecord?
  return [provenance.field "repositoryRevision", retrieval.field "snapshotVersion", source.field "path",
    source.field "startLine", source.field "endLine", source.field "symbol"]

def noteTraversal (content : Record) : Record :=
  match (content.field "retrieval").asRecord? with
  | none => content
  | some retrieval =>
    match (retrieval.field "traversalPath").asItems? with
    | none => content
    | some path => content.set "retrieval" (.obj (retrieval.set "selectionTraversalPaths" (.arr [.arr path])))

def withSelectionReason (element : Record) (name : String) : Record :=
  match (element.field "content").asRecord? with
  | none => element
  | some content =>
    if isSlice element then
      element.set "content" (.obj (noteTraversal (content.set "selectionReasons" (.arr [.str name]))))
    else element

end Identity

section Merge

def refKey (reference : Record) : RefKey :=
  let part (key : String) := ((reference.get? key).getD (.str "")).text
  (part "kind", part "name", part "version")

def asText (value : Json) : Except PyError String :=
  match value with
  | .str text => .ok text
  | other => .error (typeError (other.repr ++ " cannot be sorted among strings"))

def textsOf (fields : Record) (key : String) : Except PyError (List String) := do
  (← iterate ((fields.get? key).getD (.arr []))).mapM asText

def pathsOf (retrieval : Record) : Except PyError (List (List String)) := do
  (← iterate ((retrieval.get? "selectionTraversalPaths").getD (.arr []))).mapM fun path => do
    (← iterate path).mapM asText

def refsOf (provenance : Record) : Except PyError (List Record) := do
  (← iterate ((provenance.get? "resourceRefs").getD (.arr []))).mapM asDict

def sortedUnion {α : Type} [DecidableEq α] (before : α → α → Prop) [DecidableRel before] (first second : List α) :
    List α :=
  (first ++ second).dedup.insertionSort before

/-- The items in the order of their keys. Of two with one key the later one counts. -/
def uniqueBy {α : Type} (key : α → RefKey) (items : List α) : List α :=
  let last : Dict RefKey α := items.foldl (fun found item => found.set (key item) item) []
  (last.insertionSort fun left right => RefKey.before left.1 right.1).map Prod.snd

def retrievalOf (content : Record) : Except PyError Record := asDict ((content.get? "retrieval").getD (.obj []))

def withTraversalPaths (content : Record) (paths : List (List String)) : Except PyError Record := do
  match content.get? "retrieval" with
  | none => return content
  | some retrieval =>
    return content.set "retrieval" (.obj ((← asDict retrieval).set "selectionTraversalPaths" (.arr (paths.map strings))))

def mergeDuplicate (surviving duplicate : Record) : Except PyError Record := do
  let content ← asDict (← item surviving "content")
  let duplicateContent ← asDict (← item duplicate "content")
  let reasons := sortedUnion (· ≤ ·) (← textsOf content "selectionReasons") (← textsOf duplicateContent "selectionReasons")
  let paths := sortedUnion (· ≤ ·) (← pathsOf (← retrievalOf content)) (← pathsOf (← retrievalOf duplicateContent))
  let merged ← withTraversalPaths (content.set "selectionReasons" (strings reasons)) paths
  let provenance ← asDict (← item surviving "provenance")
  let duplicateProvenance ← asDict ((duplicate.get? "provenance").getD (.obj []))
  let refs := uniqueBy refKey ((← refsOf provenance) ++ (← refsOf duplicateProvenance))
  return (surviving.set "content" (.obj merged)).set "provenance"
    (.obj (provenance.set "resourceRefs" (.arr (refs.map .obj))))

end Merge

end Aep.ContextBuilder

namespace Aep.ContextBuilder

open RuntimeStore

def budgetExceeded (tokens budget : Int) : PyError where
  errorClass := .contextBudgetExceededError
  message := "mandatory context requires approximately " ++ toString tokens ++ " tokens, exceeding budget " ++
    toString budget

structure Discarded where
  context : String
  reason : String := "TOKEN_BUDGET"
  estimatedTokens : Int
  selectionReasons : List String
  deriving DecidableEq

structure BreakdownEntry where
  elementCount : Nat
  tokenCount : Int
  deriving DecidableEq

structure Selection where
  requiredContext : List String
  optionalContext : List String
  selected : List String
  discarded : List Discarded
  elements : List Record
  tokenBudget : Int
  tokenCount : Int
  breakdown : Dict String BreakdownEntry
  truncation : String

/-- The selection while the optional candidates are taken in turn. -/
structure Picked where
  elements : List Record
  selectedNames : List String
  selectedCategories : List String
  discarded : List Discarded
  tokenCount : Int

def deduplicate (candidates : List Candidate) : Except PyError (List Candidate) := do
  let prepared := candidates.map fun candidate => (candidate.1, withSelectionReason candidate.2 candidate.1)
  let selected ← Coalesce.coalesce (fun candidate : Candidate => repositoryIdentity candidate.2)
    (fun prior duplicate => do return (prior.1, ← mergeDuplicate prior.2 duplicate.2)) prepared
  return selected.items

def selectionReasons (element : Record) (fallback : String) : List String :=
  match (element.field "content").asRecord? with
  | none => [fallback]
  | some content =>
    match (content.field "selectionReasons").asItems? with
    | none => [fallback]
    | some reasons => (reasons.map Json.text).insertionSort (· ≤ ·)

def tokensOf (element : Record) : Int :=
  match element.field "tokenCount" with
  | .int count => count
  | _ => 0

def withoutTokenMetadata (element : Record) : Record := Dict.erase (Dict.erase element "tokenCount") "truncated"

def placeElement (indices : Dict Identity Nat) (placed : Record × Nat) : Dict Identity Nat :=
  match repositoryIdentity placed.1 with
  | none => indices
  | some identity => indices.set identity placed.2

def mandatoryIdentityIndices (elements : List Record) : Dict Identity Nat := elements.zipIdx.foldl placeElement []

def countElement (breakdown : Dict String BreakdownEntry) (counted : String × Record) : Dict String BreakdownEntry :=
  let entry := (breakdown.get? counted.1).getD ⟨0, 0⟩
  breakdown.set counted.1 ⟨entry.elementCount + 1, entry.tokenCount + tokensOf counted.2⟩

/-- The elements and the tokens of each category, in the order of the categories. -/
def tokenBreakdown (categories : List String) (elements : List Record) : Except PyError (Dict String BreakdownEntry) :=
  if categories.length ≠ elements.length then .error (valueError "zip() arguments have different lengths")
  else
    let breakdown : Dict String BreakdownEntry := (categories.zip elements).foldl countElement []
    .ok (breakdown.insertionSort fun left right => left.1 ≤ right.1)

section Tokens

variable (floatSize : Rat → Nat)

def estimatedTokens (element : Record) : Nat := max 1 (((Json.obj element).size floatSize + 3) / 4)

def withTokenMetadata (element : Record) : Record :=
  (element.set "tokenCount" (.int (estimatedTokens floatSize element))).set "truncated" (.bool false)

variable (tokenBudget : Int) (optional : List String)

/-- A slice that a mandatory element has is merged into it, for the tokens that it adds. -/
def pickInto (state : Picked) (candidate : Candidate) (index : Nat) : Except PyError Picked :=
  match state.elements[index]? with
  | none => .error { errorClass := .indexError, message := "list index out of range" }
  | some element => do
    let merged := withTokenMetadata floatSize (← mergeDuplicate (withoutTokenMetadata element) candidate.2)
    let incrementalTokens := max 0 (tokensOf merged - tokensOf element)
    let reasons := selectionReasons candidate.2 candidate.1
    if state.tokenCount + incrementalTokens ≤ tokenBudget then
      return { state with
        elements := state.elements.set index merged
        selectedNames := state.selectedNames ++ reasons.filter (· ∈ optional)
        tokenCount := state.tokenCount + incrementalTokens }
    else
      return { state with discarded := state.discarded ++
        [{ context := candidate.1, estimatedTokens := incrementalTokens, selectionReasons := reasons }] }

def pickAlone (state : Picked) (candidate : Candidate) : Picked :=
  let prepared := withTokenMetadata floatSize candidate.2
  if state.tokenCount + tokensOf prepared ≤ tokenBudget then { state with
    elements := state.elements ++ [prepared]
    selectedNames := state.selectedNames ++ [candidate.1]
    selectedCategories := state.selectedCategories ++ [candidate.1]
    tokenCount := state.tokenCount + tokensOf prepared }
  else { state with discarded := state.discarded ++ [{
    context := candidate.1, estimatedTokens := tokensOf prepared
    selectionReasons := selectionReasons prepared candidate.1 }] }

def pick (indices : Dict Identity Nat) (state : Picked) (candidate : Candidate) : Except PyError Picked :=
  match (repositoryIdentity candidate.2).bind indices.get? with
  | some index => pickInto floatSize tokenBudget optional state candidate index
  | none => .ok (pickAlone floatSize tokenBudget state candidate)

/-- Fill the budget: the mandatory candidates have to fit, the optional ones are taken in turn. -/
def select (required : List String) (mandatory optionalCandidates : List Candidate) : Except PyError Selection := do
  let mandatory ← deduplicate mandatory
  let optionalCandidates ← deduplicate optionalCandidates
  let elements := mandatory.map fun candidate => withTokenMetadata floatSize candidate.2
  let mandatoryTokens := (elements.map tokensOf).sum
  Result.raiseIf (tokenBudget < mandatoryTokens) (budgetExceeded mandatoryTokens tokenBudget)
  let names := mandatory.map Prod.fst
  let picked ← optionalCandidates.foldlM (pick floatSize tokenBudget optional (mandatoryIdentityIndices elements)) {
    elements, selectedNames := names, selectedCategories := names, discarded := [], tokenCount := mandatoryTokens }
  let breakdown ← tokenBreakdown picked.selectedCategories picked.elements
  return {
    requiredContext := required.insertionSort (· ≤ ·), optionalContext := optional.insertionSort (· ≤ ·)
    selected := picked.selectedNames, discarded := picked.discarded, elements := picked.elements, tokenBudget
    tokenCount := picked.tokenCount, breakdown
    truncation := if picked.discarded = [] then "NONE" else "PRUNED" }

end Tokens

end Aep.ContextBuilder
