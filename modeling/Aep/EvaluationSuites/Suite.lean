import Aep.RuntimeStore.InMemory
import Aep.WorkflowScheduler.TaskExecution

namespace Aep.EvaluationSuites

open RuntimeStore

/-- What a suite run leaves to the JSON Schema validator, to hashes and expressions, and to Python's times and numbers. -/
structure Platform where
  violation : Record → Option String
  /-- The hexadecimal SHA-256 digest of the canonical JSON text. -/
  digest : Record → String
  isResourceName : String → Bool
  isVersion : String → Bool
  /-- 45 seconds after a timestamp. -/
  leaseExpiry : String → Except PyError String
  /-- The milliseconds between two timestamps, or none where one cannot be read. -/
  latency : Json → Json → Option Int
  /-- The sum of two numbers. -/
  add : Json → Json → Except PyError Json
  /-- The quotient of a sum of numbers and their count. -/
  mean : List Json → Except PyError Json

def suiteError (message : String) : PyError := { errorClass := .evaluationSuiteError, message }

export WorkflowScheduler (item asDict iterate)

def itemOr (fields : Record) (key : String) (default : Json) : Json := (fields.get? key).getD default

structure Case where
  id : String
  fields : Record
  deriving DecidableEq

section Validation

variable (platform : Platform)

def validateRef (ref : Json) (kind : String) : Except PyError Unit :=
  let valid : Bool := match mappingField ref "name", mappingField ref "version" with
    | .str name, .str version =>
      decide (mappingField ref "kind" = .str kind) && platform.isResourceName name && platform.isVersion version
    | _, _ => false
  if valid then .ok () else .error (suiteError ("suite requires an immutable " ++ kind ++ " reference"))

def caseOf (value : Json) : Except PyError Case := do
  let fields ← asDict value
  match ← item fields "id" with
  | .str id => return ⟨id, fields⟩
  | other => .error (typeError (other.repr ++ " is not a case id"))

def validateSuite (suite : Record) : Except PyError (Record × List Case) := do
  Result.raiseIf (platform.violation suite ≠ none)
    (suiteError ("invalid EvaluationSuite: " ++ (platform.violation suite).getD ""))
  let spec ← asDict (← item suite "spec")
  validateRef platform (← item spec "workflowRef") "Workflow"
  let references ← iterate (← item spec "evaluationRefs")
  let _ ← references.mapM fun reference => validateRef platform reference "Evaluation"
  let cases ← (← iterate (← item spec "cases")).mapM caseOf
  Result.raiseIf (¬(cases.map Case.id).Nodup) (suiteError "cases require unique non-empty ids")
  return (spec, cases)

def sortedCases (cases : List Case) : List Case := cases.insertionSort fun first second => first.id ≤ second.id

end Validation

/-- What a run takes from its suite before the first store call. -/
structure Plan where
  digest : String
  spec : Record
  cases : List Case
  name : Json
  version : Json
  workflowRef : Json
  evaluationRefs : Json
  deriving DecidableEq

namespace Plan

variable (plan : Plan)

def suiteId : String := "evaluationsuite-" ++ String.ofList (plan.digest.toList.take 24)

def deterministicKey : String := "evaluation-suite:" ++ plan.digest

def leaseKey : String := "evaluation-suite-run:" ++ plan.suiteId

def caseOrder : List String := plan.cases.map Case.id

def record (started : String) : Record := [
  ("apiVersion", .str "aep.dev/v1alpha1"), ("kind", .str "EvaluationSuiteRun"), ("id", .str plan.suiteId),
  ("createdAt", .str started), ("updatedAt", .str started), ("status", .str "RUNNING"),
  ("suite", .obj [("name", plan.name), ("version", plan.version), ("digest", .str plan.digest)]),
  ("workflowRef", plan.workflowRef), ("evaluationRefs", plan.evaluationRefs),
  ("caseOrder", .arr (plan.caseOrder.map .str)), ("caseResults", .arr []),
  ("provenance", .obj [("actor", .str "evaluation-suite-runner"), ("sideEffects", .str "disabled")])]

end Plan

def planOf (platform : Platform) (suite : Record) : Except PyError Plan := do
  let (spec, cases) ← validateSuite platform suite
  let metadata ← asDict (← item suite "metadata")
  return {
    digest := platform.digest suite, spec, cases := sortedCases cases
    name := ← item metadata "name", version := ← item metadata "version"
    workflowRef := ← item spec "workflowRef", evaluationRefs := ← item spec "evaluationRefs" }

section Cases

/-- How a case went: its outcome, its evidence and the reason of a failure. -/
structure CaseOutcome where
  outcome : Json
  evidence : Record
  failure : String
  deriving DecidableEq

def schemaVersion (reference : Json) : Except PyError (String × Json) := do
  let fields ← asDict reference
  let name ← item fields "name"
  let version ← item fields "version"
  return (name.text ++ ":" ++ version.text, version)

def fixtureOutcome (spec case : Record) : Except PyError CaseOutcome := do
  let outcome ← item case "expectedOutcome"
  let sourceRevision ← item case "sourceRevision"
  let inputIdentity ← item case "inputIdentity"
  let references ← iterate (← item spec "evaluationRefs")
  let versions ← references.mapM schemaVersion
  let workflowRef ← item spec "workflowRef"
  return {
    outcome
    evidence := [
      ("sourceRevision", sourceRevision), ("inputIdentity", inputIdentity),
      ("evaluationSchemaVersions", .obj (Dict.update [] versions)), ("resourceRefs", .arr (workflowRef :: references)),
      ("metrics", itemOr case "metrics" (.obj [])), ("buildSuccess", case.field "buildSuccess"),
      ("testSuccess", case.field "testSuccess"), ("modelInvocationCount", .int 0),
      ("tokenUsage", .obj [("inputTokens", .int 0), ("outputTokens", .int 0), ("totalTokens", .int 0)]),
      ("cost", .null)]
    failure := "" }

def failedCase (message : String) : CaseOutcome := ⟨.str "FAIL", [], message⟩

def caseRecord (case : Case) (kind : Json) (outcome : CaseOutcome) (startedAt completedAt : String) : Record :=
  [ ("caseId", .str case.id), ("kind", kind), ("outcome", outcome.outcome), ("startedAt", .str startedAt),
    ("completedAt", .str completedAt), ("evidence", .obj outcome.evidence)] ++
  if outcome.failure = "" then [] else [("failure", .str outcome.failure)]

end Cases

section Aggregation

variable (platform : Platform)

structure Totals where
  modelInvocationCount : Json := .int 0
  inputTokens : Json := .int 0
  outputTokens : Json := .int 0
  totalTokens : Json := .int 0
  cost : Json := .float 0
  costAvailable : Bool := false
  latencyMilliseconds : Int := 0

def evidenceOf (result : Record) : Except PyError Record := asDict (itemOr result "evidence" (.obj []))

def metricsOf (evidence : Record) : Except PyError Record := asDict (itemOr evidence "metrics" (.obj []))

def isNumber : Json → Bool
  | .int _ | .float _ => true
  | _ => false

def addResult (totals : Totals) (result : Record) : Except PyError Totals := do
  let evidence ← evidenceOf result
  let count ← platform.add totals.modelInvocationCount (itemOr evidence "modelInvocationCount" (.int 0))
  let usage ← asDict (itemOr evidence "tokenUsage" (.obj []))
  let inputTokens ← platform.add totals.inputTokens (itemOr usage "inputTokens" (.int 0))
  let outputTokens ← platform.add totals.outputTokens (itemOr usage "outputTokens" (.int 0))
  let totalTokens ← platform.add totals.totalTokens (itemOr usage "totalTokens" (.int 0))
  let costed := evidence.field "cost" ≠ .null
  let cost ← if costed then platform.add totals.cost (evidence.field "cost") else .ok totals.cost
  let latency := match result.get? "startedAt", result.get? "completedAt" with
    | some startedAt, some completedAt => max 0 ((platform.latency startedAt completedAt).getD 0)
    | _, _ => 0
  return {
    modelInvocationCount := count, inputTokens, outputTokens, totalTokens, cost
    costAvailable := totals.costAvailable || costed, latencyMilliseconds := totals.latencyMilliseconds + latency }

def metricNames (configured : List String) (metrics : List Record) : List String :=
  ((configured ++ metrics.flatMap Dict.keys).dedup).insertionSort (· ≤ ·)

def meanOrNone (values : List Json) : Except PyError Json :=
  if values = [] then .ok .null else platform.mean values

def metricSummary (metrics : List Record) (name : String) : Except PyError (String × Json) := do
  let values := (metrics.map fun fields => fields.field name).filter isNumber
  return (name, .obj [("mean", ← meanOrNone platform values), ("count", .int values.length)])

def isBoolean : Json → Bool
  | .bool _ => true
  | _ => false

def successRate (evidence : List Record) (key : String) : Except PyError Json :=
  meanOrNone platform ((evidence.map fun fields => fields.field key).filter isBoolean)

def aggregateResults (results : List Record) (configuredMetrics : List String) : Except PyError Record := do
  let evidence ← results.mapM evidenceOf
  let metrics ← evidence.mapM metricsOf
  let totals ← results.foldlM (addResult platform) {}
  let passRate ← if results = [] then .ok (.float 0) else
    platform.mean (results.map fun result => .bool ((result.field "outcome").pyEq (.str "PASS")))
  let buildSuccessRate ← successRate platform evidence "buildSuccess"
  let testSuccessRate ← successRate platform evidence "testSuccess"
  let summaries ← (metricNames configuredMetrics metrics).mapM (metricSummary platform metrics)
  return [
    ("modelInvocationCount", totals.modelInvocationCount), ("inputTokens", totals.inputTokens),
    ("outputTokens", totals.outputTokens), ("totalTokens", totals.totalTokens),
    ("cost", if totals.costAvailable then totals.cost else .null), ("costAvailable", .bool totals.costAvailable),
    ("latencyMilliseconds", .int totals.latencyMilliseconds), ("caseCount", .int results.length),
    ("passRate", passRate), ("buildSuccessRate", buildSuccessRate), ("testSuccessRate", testSuccessRate),
    ("metrics", .obj summaries)]

end Aggregation

end Aep.EvaluationSuites
