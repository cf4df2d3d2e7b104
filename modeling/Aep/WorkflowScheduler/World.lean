import Aep.Library.RelyGuarantee
import Aep.RuntimeStore.Steps
import Aep.RuntimeStore.Operations
import Aep.WorkflowScheduler.Evidence
import Aep.WorkflowScheduler.Reconcile

namespace Aep.WorkflowScheduler

open RuntimeStore

/-- The fields of a TaskExecution that the scheduler and the approval gate alone write. -/
structure Life where
  status : Json
  dispatchState : Option Json
  dispatchOwnerId : Option Json
  terminalEvidence : Option Json
  failure : Option Json
  approvalId : Option Json
  pendingApprovalRequest : Option Json
  deriving DecidableEq

def lifeOf (record : Record) : Life where
  status := record.field "status"
  dispatchState := record.get? "dispatchState"
  dispatchOwnerId := record.get? "dispatchOwnerId"
  terminalEvidence := record.get? "terminalEvidence"
  failure := record.get? "failure"
  approvalId := record.get? "approvalId"
  pendingApprovalRequest := record.get? "pendingApprovalRequest"

def isTask (record : Record) : Bool := record.field "kind" = .str "TaskExecution"

namespace Life

def created : Life where
  status := .str "PENDING"
  dispatchState := none
  dispatchOwnerId := none
  terminalEvidence := none
  failure := none
  approvalId := none
  pendingApprovalRequest := none

def Claimed (life : Life) (owner : String) : Prop :=
  life.status = .str "RUNNING" ∧ life.dispatchState = some (.str "CLAIMED") ∧ life.dispatchOwnerId = some (.str owner)

/-- What can be done to one attempt. -/
inductive Action where
  | start
  | claim (owner : String)
  | record (evidence : Record)
  | await (request : Json)
  | settle
  | reject (failure : Json)
  | wake (approval : String)
  | bind (approval : String)

/-- The transitions of one attempt. -/
inductive Step : Action → Life → Life → Prop where
  | start {life : Life} (undispatched : life.dispatchState = none) :
      Step .start life { life with status := .str "RUNNING", dispatchState := some (.str "PENDING") }
  | claim {life : Life} {owner : String} (running : life.status = .str "RUNNING")
      (pending : life.dispatchState = some (.str "PENDING")) :
      Step (.claim owner) life
        { life with dispatchState := some (.str "CLAIMED"), dispatchOwnerId := some (.str owner) }
  | record {life : Life} {evidence : Record} (running : life.status = .str "RUNNING")
      (unrecorded : life.terminalEvidence = none) :
      Step (.record evidence) life { life with terminalEvidence := some (.obj evidence) }
  | await {life : Life} {request : Json} (running : life.status = .str "RUNNING") :
      Step (.await request) life { life with status := .str "AWAITING_APPROVAL", pendingApprovalRequest := some request }
  | settle {life : Life} {evidence : Record} {status : String} (running : life.status = .str "RUNNING")
      (recorded : life.terminalEvidence = some (.obj evidence)) (named : evidence.field "status" = .str status)
      (terminal : status = "SUCCEEDED" ∨ status = "FAILED") :
      Step .settle life { life with status := .str status, failure := (evidence.get? "failure").or life.failure }
  | reject {life : Life} {failure : Json} (waiting : life.status = .str "AWAITING_APPROVAL") :
      Step (.reject failure) life { life with status := .str "FAILED", failure := some failure }
  | wake {life : Life} {approval : String}
      (waiting : life.status = .str "AWAITING_APPROVAL" ∨ life.status = .str "PENDING")
      (current : life.approvalId = some (.str approval)) :
      Step (.wake approval) life
        { life with status := .str "PENDING", dispatchState := none, dispatchOwnerId := none }
  | bind {life : Life} {approval : String} (waiting : life.status = .str "AWAITING_APPROVAL") :
      Step (.bind approval) life { life with approvalId := some (.str approval) }

end Life

end Aep.WorkflowScheduler

namespace Aep.WorkflowScheduler

open RuntimeStore

/-- What happened to an attempt. -/
inductive Mark where
  | started
  | invoked (outcome : Executed)
  | waiting

/-- The store, the owner tokens that were drawn, and what happened to each attempt, latest first. -/
structure World where
  durable : Durable
  issued : String → Option Nat
  marks : String → List Mark

def life (store : Store) (id : String) : Option Life := ((store.get id).filter isTask).map lifeOf

def lifeIn (durable : Durable) (id : String) : Option Life :=
  match durable.visible with
  | .ok store => life store id
  | .error _ => none

def marked (before after : Option Life) (marks : List Mark) : List Mark :=
  let status (life : Option Life) : Option Json := life.map Life.status
  if status after = some (.str "RUNNING") ∧ status before ≠ some (.str "RUNNING") then .started :: marks
  else if status after = some (.str "AWAITING_APPROVAL") ∧ status before ≠ some (.str "AWAITING_APPROVAL") then
    .waiting :: marks
  else marks

namespace World

def Shows (world : World) (store : Store) : Prop := world.durable.visible = .ok store

def life (world : World) (id : String) : Option Life := lifeIn world.durable id

def move (world : World) (durable : Durable) : World where
  durable
  issued := world.issued
  marks id := marked (world.life id) (lifeIn durable id) (world.marks id)

def issue (world : World) (token : String) (thread : Nat) : World :=
  { world with issued := Function.update world.issued token (some thread) }

def invoke (world : World) (id : String) (outcome : Executed) : World :=
  { world with marks := Function.update world.marks id (.invoked outcome :: world.marks id) }

/-- How a call is carried out: a store call in one step, the others with any answer. Where faults may happen, a
    store call may raise a store error, with its write done or not. -/
inductive Exec (faults : Prop) (thread : Nat) (world : World) : (call : Call) → call.Answer → World → Prop where
  | clock (time : Json) : Exec faults thread world .clock time world
  | now (time : String) : Exec faults thread world .now time world
  | uuid4 (token : String) (fresh : world.issued token = none) :
      Exec faults thread world .uuid4 token (world.issue token thread)
  | execute (task : Resource) (running : Record) (outcome : Executed) :
      Exec faults thread world (.execute task running) outcome (world.invoke (idOf running) outcome)
  | get (objectId : String) :
      Exec faults thread world (.get objectId) (readVisible (fun store => .ok (store.get objectId)) world.durable).1
        (world.move (readVisible (fun store => .ok (store.get objectId)) world.durable).2)
  | listByWorkflowExecution (id : String) :
      Exec faults thread world (.listByWorkflowExecution id)
        (readVisible (fun store => store.listByWorkflowExecution id) world.durable).1
        (world.move (readVisible (fun store => store.listByWorkflowExecution id) world.durable).2)
  | listByTaskExecution (id : String) :
      Exec faults thread world (.listByTaskExecution id)
        (readVisible (fun store => store.listByTaskExecution id) world.durable).1
        (world.move (readVisible (fun store => store.listByTaskExecution id) world.durable).2)
  | store (operation : Operation) :
      Exec faults thread world (.store operation) (operation.execute world.durable).1
        (world.move (operation.execute world.durable).2)
  | getFault (objectId : String) (error : PyError) (faulty : faults) (raised : error.isRuntimeStoreError = true) :
      Exec faults thread world (.get objectId) (.error error) world
  | listFault (id : String) (error : PyError) (faulty : faults) (raised : error.isRuntimeStoreError = true) :
      Exec faults thread world (.listByWorkflowExecution id) (.error error) world
  | listTaskFault (id : String) (error : PyError) (faulty : faults) (raised : error.isRuntimeStoreError = true) :
      Exec faults thread world (.listByTaskExecution id) (.error error) world
  | storeFault (operation : Operation) (error : PyError) (written : Bool) (faulty : faults)
      (raised : error.isRuntimeStoreError = true) :
      Exec faults thread world (.store operation) (.error error)
        (if written then world.move (operation.execute world.durable).2 else world)

end World

section Others

variable (platform : Platform)

/-- The deterministic keys under which the scheduler creates attempts and their events. -/
def Reserved (key : String) : Prop :=
  (∃ workflowExecutionId identity attempt, key = deterministicKey workflowExecutionId identity attempt) ∨
    ∃ id event, key = "execution-event:" ++ eventId platform id event

/-- What other writers, such as the handlers of an executor, do to the store: they leave to the scheduler what it alone
    writes, and change no event. -/
structure Foreign (before after : Store) : Prop where
  evolves : before.Evolves after
  wellFormed : after.WellFormed
  indexed : after.Indexed
  life : ∀ id, life after id = life before id
  keys : ∀ key id, before.deterministicKeys.get? key = some id → after.deterministicKeys.get? key = some id
  reserved : ∀ key, Reserved platform key → after.deterministicKeys.get? key = before.deterministicKeys.get? key
  events : ∀ id event, before.get id = some event → event.field "kind" = .str "ExecutionEvent" →
    after.get id = some event

def machine (faults : Prop) : Machine Calls World where
  exec := World.Exec faults
  foreign before after := after.issued = before.issued ∧ after.marks = before.marks ∧
    ∃ old new, before.Shows old ∧ after.Shows new ∧ Foreign platform old new

/-- A call of the scheduler or of the approval gate. -/
inductive Job where
  | reconcile (maxAttempts : Int) (positive : 1 ≤ maxAttempts) (plan : TaskDagPlan) (workflowExecution : Record)
  | decide (asked : Decision)

def Job.program : Job → Prog (List Record)
  | .reconcile maxAttempts positive plan workflowExecution =>
    WorkflowScheduler.reconcile ⟨platform, maxAttempts, positive⟩ plan workflowExecution
  | .decide asked => do return [← ApprovalGate.decide platform asked]

/-- A store that holds no attempt and no key of the scheduler yet. -/
structure Unscheduled (store : Store) : Prop where
  wellFormed : store.WellFormed
  indexed : store.Indexed
  tasks : ∀ id, life store id = none
  keys : ∀ key, Reserved platform key → store.deterministicKeys.get? key = none

def start (jobs : Nat → Job) (durable : Durable) : Machine.Config Calls World PyError (List Record) where
  shared := { durable, issued := fun _ => none, marks := fun _ => [] }
  threads i := (jobs i).program platform

end Others

end Aep.WorkflowScheduler
