import Aep.EvaluationSuites.Suite
import Aep.Library.Program

namespace Aep.EvaluationSuites

open RuntimeStore

structure Replayed where
  passed : Bool
  evidence : Record
  failure : String

/-- The calls of a suite run that another one or a crash can come in between. -/
inductive Effect where
  | clock
  | uuid4
  /-- Has a heartbeat failed. -/
  | leaseLost
  /-- The replay of a historical case, with what is read before and after it. -/
  | replay (case : Record) (spec : Record)
  | create (record : Record) (deterministicKey : String)
  | acquireLease (key ownerId now expiresAt : String)
  | get (objectId : String)
  | updateStatusWithLease (objectId status leaseKey ownerId now : String) (changes : Record)
  | releaseLease (key ownerId : String)

def Effect.Answer : Effect → Type
  | .clock => String
  | .uuid4 => String
  | .leaseLost => Bool
  | .replay .. => Except String Replayed
  | .create .. => Except PyError Record
  | .acquireLease .. => Bool
  | .get _ => Option Record
  | .updateStatusWithLease .. => Except PyError Record
  | .releaseLease .. => Bool

abbrev Effects : Interface := ⟨Effect, Effect.Answer⟩

abbrev Prog (α : Type) : Type := Program Effects PyError α

namespace Prog

def ask (effect : Effect) : Prog effect.Answer := .call effect .ret

def fail {α : Type} (error : PyError) : Prog α := .raise error

def check {α : Type} (result : Except PyError α) : Prog α := Program.liftExcept result

def clock : Prog String := ask .clock

def uuid4 : Prog String := ask .uuid4

def leaseLost : Prog Bool := ask .leaseLost

def create (record : Record) (deterministicKey : String) : Prog Record :=
  .call (.create record deterministicKey) check

def acquireLease (key ownerId now expiresAt : String) : Prog Bool := ask (.acquireLease key ownerId now expiresAt)

def get (objectId : String) : Prog (Option Record) := ask (.get objectId)

def releaseLease (key ownerId : String) : Prog Bool := ask (.releaseLease key ownerId)

end Prog

section Checkpoints

variable (plan : Plan) (ownerId : String)

def conflictAs (message : String) (error : PyError) : PyError :=
  if error.errorClass = .statusConflictError then suiteError message else error

def updateRun (status now message : String) (changes : Record) : Prog Record :=
  .call (.updateStatusWithLease plan.suiteId status plan.leaseKey ownerId now changes) fun answer =>
    Prog.check (answer.mapError (conflictAs message))

def checkpoint (results : List Json) (completedAt : String) : Prog Record :=
  updateRun plan ownerId "RUNNING" completedAt "evaluation suite execution lease was lost before checkpoint"
    [("caseResults", .arr results)]

end Checkpoints

section Cases

variable (plan : Plan) (historicalRunner : Bool)

def runFixture (case : Case) : CaseOutcome :=
  match fixtureOutcome plan.spec case.fields with
  | .ok outcome => outcome
  | .error error => failedCase error.message

def replayedOutcome (replayed : Replayed) : CaseOutcome where
  outcome := .str (if replayed.passed then "PASS" else "FAIL")
  evidence := replayed.evidence
  failure := if replayed.passed then "" else replayed.failure

def runHistorical (case : Case) : Prog CaseOutcome :=
  if historicalRunner then
    .call (.replay case.fields plan.spec) fun answer =>
      match answer with
      | .ok replayed => return replayedOutcome replayed
      | .error message => return failedCase message
  else return failedCase "historical case execution requires the workflow runtime"

def runCase (case : Case) : Prog CaseOutcome :=
  match item case.fields "kind" with
  | .ok kind => if kind.pyEq (.str "fixture") then return runFixture plan case else runHistorical plan historicalRunner case
  | .error error => return failedCase error.message

def runCases (ownerId : String) (completedIds : List Json) : List Case → List Json → Prog (List Json)
  | [], results => return results
  | case :: rest, results =>
    if .str case.id ∈ completedIds then runCases ownerId completedIds rest results
    else do
      let lost ← Prog.leaseLost
      if lost then Prog.fail (suiteError "evaluation suite execution lease was lost") else do
        let startedAt ← Prog.clock
        let outcome ← runCase plan historicalRunner case
        let kind ← Prog.check (item case.fields "kind")
        let completedAt ← Prog.clock
        let extended := results ++ [.obj (caseRecord case kind outcome startedAt completedAt)]
        let _ ← checkpoint plan ownerId extended completedAt
        runCases ownerId completedIds rest extended

end Cases

section Run

variable (platform : Platform) (plan : Plan)

def caseIdOf (result : Json) : Except PyError Json := do item (← asDict result) "caseId"

def allPassed : List Json → Except PyError Bool
  | [] => .ok true
  | result :: rest => do
    let outcome ← item (← asDict result) "outcome"
    if outcome.pyEq (.str "PASS") then allPassed rest else .ok false

def configuredMetrics (spec : Record) : Except PyError (List String) := do
  let names ← iterate (itemOr spec "metrics" (.arr []))
  return names.map Json.text

def conclusion (results : List Json) : Except PyError (Record × String) := do
  let records ← results.mapM asDict
  let aggregate ← aggregateResults platform records (← configuredMetrics plan.spec)
  let passed ← allPassed results
  return (aggregate, if passed then "SUCCEEDED" else "FAILED")

def runClaimedSuite (historicalRunner : Bool) (ownerId : String) (record : Record) : Prog Record := do
  let results ← Prog.check (iterate (itemOr record "caseResults" (.arr [])))
  let completedIds ← Prog.check (results.mapM caseIdOf)
  let results ← runCases plan historicalRunner ownerId completedIds plan.cases results
  let (aggregate, finalStatus) ← Prog.check (conclusion platform plan results)
  let finalizedAt ← Prog.clock
  updateRun plan ownerId finalStatus finalizedAt "evaluation suite execution lease was lost before finalization"
    [("aggregate", .obj aggregate)]

def isFinished (record : Record) : Bool :=
  match record.field "status" with
  | .str status => status ∈ ["SUCCEEDED", "FAILED", "CANCELLED"]
  | _ => false

def runLeased (historicalRunner : Bool) (ownerId : String) (record : Record) : Prog Record := do
  let result ← Program.attempt (runClaimedSuite platform plan historicalRunner ownerId record)
  let _ ← Prog.releaseLease plan.leaseKey ownerId
  Prog.check result

def afterAcquire (historicalRunner : Bool) (ownerId : String) : Option Record → Prog Record
  | none => do
    let _ ← Prog.releaseLease plan.leaseKey ownerId
    Prog.fail (suiteError "evaluation suite run disappeared after acquiring its lease")
  | some record =>
    if isFinished record then return record else runLeased platform plan historicalRunner ownerId record

def runPlan (historicalRunner : Bool) : Prog Record := do
  let started ← Prog.clock
  let record ← Prog.create (plan.record started) plan.deterministicKey
  if isFinished record then return record else do
    let ownerId ← Prog.uuid4
    let expiry ← Prog.check (platform.leaseExpiry started)
    let acquired ← Prog.acquireLease plan.leaseKey ownerId started expiry
    if acquired then do
      let latest ← Prog.get plan.suiteId
      afterAcquire platform plan historicalRunner ownerId latest
    else Prog.fail (suiteError "evaluation suite is already running")

def runSuite (suite : Record) (historicalRunner : Bool) : Prog Record := do
  let plan ← Prog.check (planOf platform suite)
  runPlan platform plan historicalRunner

end Run

end Aep.EvaluationSuites
