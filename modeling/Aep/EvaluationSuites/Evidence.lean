import Aep.EvaluationSuites.Suite
import Aep.Library.Grouping
import Mathlib.Data.Prod.Lex
import Mathlib.Data.String.Basic

namespace Aep.EvaluationSuites

open RuntimeStore

/-- What the evidence of a replay leaves besides to Python's texts and numbers. -/
structure ReplayPlatform extends Platform where
  /-- The JSON text of a mapping, its keys sorted. -/
  dumps : Record → String
  /-- Python's `int`. -/
  toInt : Json → Except PyError Int
  lower : String → String

def isKind (kind : String) (record : Record) : Bool := record.field "kind" = .str kind

section Scoring

variable (platform : ReplayPlatform)

/-- An attempt is one of a Task where it names one, and is on its own otherwise. -/
def taskKey (task : Record) : String :=
  match task.field "taskRef" with
  | .obj reference => platform.dumps reference
  | _ => (task.field "id").text

def rankOf (task : Record) : Except PyError (Int ×ₗ String) := do
  let attempt ← platform.toInt (itemOr task "attempt" (.int 0))
  return toLex (attempt, (itemOr task "id" (.str "")).text)

def noteAttempt (latest : Dict String Record) (task : Record) : Except PyError (Dict String Record) := do
  let rank ← rankOf platform task
  match latest.get? (taskKey platform task) with
  | none => return latest.set (taskKey platform task) task
  | some previous =>
    if (← rankOf platform previous) < rank then return latest.set (taskKey platform task) task else return latest

/-- Whether a result counts, given the ids of all attempts and those of the effective ones. -/
def counts (allTaskIds : List Json) (effectiveIds : List String) (result : Record) : Bool :=
  let owner := result.field "taskExecutionId"
  owner = .null || !(allTaskIds.any fun id => id.pyEq owner) || effectiveIds.contains owner.text

def effectiveEvaluations (related : List Record) : Except PyError (List Record) := do
  let tasks := related.filter (isKind "TaskExecution")
  let allTaskIds := tasks.map fun task => task.field "id"
  Result.raiseIf (allTaskIds.any fun id => !id.isHashable) (typeError "unhashable type")
  let latest ← tasks.foldlM (noteAttempt platform) []
  let effectiveIds := ((latest.map fun entry => entry.2.field "id").filter fun id => id ≠ .null).map Json.text
  let results := related.filter (isKind "EvaluationResult")
  Result.raiseIf (results.any fun result => !(result.field "taskExecutionId").isHashable) (typeError "unhashable type")
  return results.filter (counts allTaskIds effectiveIds)

def judgeReference (scoring : List Record) (reference : Record) : Except PyError (Option String) := do
  let found := scoring.filter fun result => (result.field "evaluationRef").pyEq (.obj reference)
  if found = [] then
    return some ("selected Evaluation " ++ (← item reference "name").repr ++ " produced no result")
  else if ∃ result ∈ found, result.field "status" ≠ .str "SUCCEEDED" ∨ result.field "outcome" ≠ .str "PASS" then
    return some ("selected Evaluation " ++ (← item reference "name").repr ++ " did not pass")
  else return none

def judgeReferences (scoring : List Record) : List Record → Except PyError (Option String)
  | [] => return none
  | reference :: rest => do
    match ← judgeReference scoring reference with
    | some failure => return some failure
    | none => judgeReferences scoring rest

def noteEffective (latest : Dict String Record) (task : Record) : Except PyError (Dict String Record) := do
  if isKind "TaskExecution" task then
    match latest.get? (taskKey platform task) with
    | none => return latest.set (taskKey platform task) task
    | some previous =>
      if (← rankOf platform previous) < (← rankOf platform task) then return latest.set (taskKey platform task) task
      else return latest
  else return latest

/-- The refusal to create a pull request that a replay without publication ends with. -/
def publicationDenial (publicationDisabled : Bool) (task : Record) : Bool :=
  publicationDisabled && task.field "status" = .str "FAILED" &&
    mappingField (task.field "taskRef") "name" = .str "create-pull-request" &&
    mappingField (task.field "failure") "class" = .str "POLICY" &&
    mappingField (task.field "failure") "message" = .str "publication is disabled for replay"

def failedOrBlocked (task : Record) : Bool :=
  task.field "status" = .str "FAILED" || task.field "status" = .str "BLOCKED"

def judgeTasks (publicationDisabled : Bool) : List Record → Bool → Except PyError (Option Bool)
  | [], seen => return some seen
  | task :: rest, seen => do
    Result.raiseIf (¬(task.field "status").isHashable) (typeError "unhashable type")
    if !failedOrBlocked task then judgeTasks publicationDisabled rest seen
    else if publicationDenial publicationDisabled task then judgeTasks publicationDisabled rest true
    else return none

def publicationDisabled (execution : Record) : Bool :=
  mappingField (execution.field "replayProvenance") "publicationMode" = .str "disabled"

def historicalCasePassed (execution : Record) (related evaluationRefs : List Record) :
    Except PyError (Bool × Option String) := do
  let scoring ← effectiveEvaluations platform related
  match ← judgeReferences scoring evaluationRefs with
  | some failure => return (false, some failure)
  | none =>
    let effectiveTasks ← related.foldlM (noteEffective platform) []
    match ← judgeTasks (publicationDisabled execution) (effectiveTasks.map Prod.snd) false with
    | none => return (false, some "historical replay contains a failed or blocked Task")
    | some denialSeen =>
      if execution.field "status" ≠ .str "SUCCEEDED" ∧ ¬(execution.field "status" = .str "FAILED" ∧ denialSeen) then
        return (false, some "historical replay did not complete successfully")
      else return (true, none)

end Scoring

section Evidence

variable (platform : ReplayPlatform)

def addMetric (totals : Record) (entry : String × Json) : Except PyError Record :=
  if isNumber entry.2 then do
    return totals.set entry.1 (← platform.add (itemOr totals entry.1 (.int 0)) entry.2)
  else return totals

def addMetrics (totals : Record) (result : Record) : Except PyError Record :=
  match result.field "metrics" with
  | .obj metrics => metrics.foldlM (addMetric platform) totals
  | _ => return totals

def evaluationMetrics (related : List Record) : Except PyError Record :=
  (related.filter (isKind "EvaluationResult")).foldlM (addMetrics platform) []

def evaluationType (result : Record) : Option String :=
  match mappingField (result.field "evidence") "evaluationType" with
  | .str value => some (platform.lower value)
  | _ => none

def allPass (results : List Record) : Json :=
  if results = [] then .null else .bool (results.all fun result => result.field "outcome" = .str "PASS")

def usage (invocation : Record) (key short : String) : Json :=
  match invocation.field "tokenUsage" with
  | .obj value => itemOr value key (itemOr value short (.int 0))
  | _ => .int 0

def total (numbers : List Json) : Except PyError Json := numbers.foldlM platform.add (.int 0)

def isCost : Json → Bool
  | .bool _ | .int _ | .float _ => true
  | _ => false

def totalCost (costs : List Json) : Except PyError Json := if costs = [] then .ok .null else total platform costs

def resultEvidence (result : Record) : Except PyError Json := do
  let reference := result.field "evaluationRef"
  let version ← if reference.truthy then (asDict reference).map fun fields => fields.field "version" else .ok .null
  return .obj [("id", result.field "id"), ("outcome", result.field "outcome"), ("evaluationRef", reference),
    ("evaluationSchemaVersion", version), ("metrics", itemOr result "metrics" (.obj []))]

def taskOrder (task : Record) : Except PyError (String ×ₗ Int ×ₗ String) := do
  return toLex ((task.field "taskRef").text, ← rankOf platform task)

def taskEvidence (task : Record) : Json :=
  .obj (["id", "taskRef", "attempt", "status", "failure"].filterMap fun key => (task.get? key).map fun value => (key, value))

def executionEvidence (execution : Record) (related : List Record) (sourceId : Json) : Except PyError Record := do
  let models := related.filter (isKind "ModelInvocation")
  let inputTokens ← total platform (models.map fun item => usage item "inputTokens" "input")
  let outputTokens ← total platform (models.map fun item => usage item "outputTokens" "output")
  let totalTokens ← platform.add inputTokens outputTokens
  let costs := (models.map fun item => item.field "cost").filter isCost
  let effective ← effectiveEvaluations platform related
  let ofType (type : String) := effective.filter fun item => evaluationType platform item = some type
  let provenance ← asDict (itemOr execution "provenance" (.obj []))
  let evaluationResults ← (related.filter (isKind "EvaluationResult")).mapM resultEvidence
  let tasks ← (related.filter (isKind "TaskExecution")).mapM fun task => do return (← taskOrder platform task, task)
  let metrics ← evaluationMetrics platform effective
  let cost ← totalCost platform costs
  return [
    ("sourceExecutionId", sourceId), ("executionId", execution.field "id"),
    ("repositoryRevision", execution.field "repositoryRevision"),
    ("resourceRefs", itemOr provenance "resourceRefs" (.arr [])),
    ("generatedArtifactIds", .arr ((related.filter (isKind "GeneratedArtifact")).map fun item => item.field "id")),
    ("evaluationResults", .arr evaluationResults),
    ("taskExecutions",
      .arr ((tasks.insertionSort fun first second => first.1 ≤ second.1).map fun entry => taskEvidence entry.2)),
    ("metrics", .obj metrics), ("modelInvocationCount", .int models.length),
    ("tokenUsage", .obj [("inputTokens", inputTokens), ("outputTokens", outputTokens), ("totalTokens", totalTokens)]),
    ("cost", cost), ("buildSuccess", allPass (ofType "build")), ("testSuccess", allPass (ofType "test"))]

end Evidence

end Aep.EvaluationSuites
