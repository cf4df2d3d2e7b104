import Aep.Library.StateAction
import Aep.RuntimeStore.Objects

namespace Aep.RuntimeStore

structure Lease where
  ownerId : String
  expiresAt : String
  deriving DecidableEq

/-- The state of the in-memory store. The two indexes list object ids in creation order. -/
structure Store where
  objects : Dict String Record := []
  deterministicKeys : Dict String String := []
  claims : Dict String Json := []
  leases : Dict String Lease := []
  workflowIndex : Dict String (List String) := []
  taskExecutionIndex : Dict String (List String) := []
  deriving DecidableEq

abbrev StoreM := StateAction Store PyError

open StateAction

namespace Store

def get (store : Store) (objectId : String) : Option Record := store.objects.get? objectId

def put (store : Store) (objectId : String) (value : Record) : Store :=
  { store with objects := store.objects.set objectId value }

@[simp] theorem get_put (store : Store) (objectId wanted : String) (value : Record) :
    (store.put objectId value).get wanted = if objectId = wanted then some value else store.get wanted :=
  Dict.get?_set _ _ _ _

def appendIndex (index : Dict String (List String)) (owner : Option String) (objectId : String) :
    Dict String (List String) :=
  match owner with
  | some key => index.set key ((index.get? key).getD [] ++ [objectId])
  | none => index

def index (store : Store) (value : Record) : Store :=
  { store with
    workflowIndex := appendIndex store.workflowIndex (workflowExecutionId value) (objectId value)
    taskExecutionIndex := appendIndex store.taskExecutionIndex (taskExecutionId value) (objectId value) }

def insert (store : Store) (value : Record) (deterministicKey : String) : Store :=
  ({ store with
    objects := store.objects.set (objectId value) value
    deterministicKeys := store.deterministicKeys.set deterministicKey (objectId value) } : Store).index value

@[simp] theorem objects_index (store : Store) (value : Record) : (store.index value).objects = store.objects := rfl

@[simp] theorem deterministicKeys_index (store : Store) (value : Record) :
    (store.index value).deterministicKeys = store.deterministicKeys := rfl

@[simp] theorem get_insert (store : Store) (value : Record) (deterministicKey wanted : String) :
    (store.insert value deterministicKey).get wanted =
      if objectId value = wanted then some value else store.get wanted :=
  Dict.get?_set _ _ _ _

def listByIndex (store : Store) (index : Dict String (List String)) (owner : String) :
    Except PyError (List Record) :=
  ((index.get? owner).getD []).mapM fun objectId =>
    match store.get objectId with
    | some value => .ok value
    | none => .error (keyError objectId)

def listByWorkflowExecution (store : Store) (workflowExecutionId : String) : Except PyError (List Record) :=
  store.listByIndex store.workflowIndex workflowExecutionId

def listByTaskExecution (store : Store) (taskExecutionId : String) : Except PyError (List Record) :=
  store.listByIndex store.taskExecutionIndex taskExecutionId

end Store

def require (objectId : String) : StoreM Record := do
  some! ((← read).get objectId) (notFound objectId)

def put (objectId : String) (value : Record) : StoreM Unit := modify (·.put objectId value)

def orNow (updatedAt : Option String) (now : String) : String :=
  match updatedAt with
  | some time => if time = "" then now else time
  | none => now

def create (runtimeObject : Json) (deterministicKey : String) : StoreM Record := do
  let value ← liftExcept (copyAndValidate runtimeObject)
  raiseIf (deterministicKey = "") (valueError "deterministic_key must not be empty")
  let store ← read
  match store.deterministicKeys.get? deterministicKey with
  | some existingId => some! (store.get existingId) (keyError existingId)
  | none => do
    raiseIf (store.get (objectId value) ≠ none) (alreadyExists (objectId value))
    modify (·.insert value deterministicKey)
    return value

def claim (deterministicKey : String) (value : Json) : StoreM (Bool × Json) := do
  raiseIf (deterministicKey = "") (valueError "deterministic_key must not be empty")
  raiseIf (value.isMapping = false) (typeError "value must be a mapping")
  match (← read).claims.get? deterministicKey with
  | some existing => return (false, existing)
  | none => do
    modify fun store => { store with claims := store.claims.set deterministicKey value }
    return (true, value)

def acquireLease (key ownerId now expiresAt : String) : StoreM Bool := do
  let grant := modify fun store : Store => { store with leases := store.leases.set key { ownerId, expiresAt } }
  match (← read).leases.get? key with
  | some current =>
    if current.ownerId ≠ ownerId ∧ now < current.expiresAt then return false
    else do
      grant
      return true
  | none => do
    grant
    return true

def activeLease (store : Store) (key ownerId now : String) : Option Lease :=
  (store.leases.get? key).filter fun lease => lease.ownerId = ownerId ∧ now < lease.expiresAt

def renewLease (key ownerId now expiresAt : String) : StoreM Bool := do
  match activeLease (← read) key ownerId now with
  | none => return false
  | some current => do
    modify fun store => { store with leases := store.leases.set key { current with expiresAt } }
    return true

def releaseLease (key ownerId : String) : StoreM Bool := do
  match (← read).leases.get? key with
  | none => return false
  | some current =>
    if current.ownerId ≠ ownerId then return false
    else do
      modify fun store => { store with leases := store.leases.erase key }
      return true

def protectedFields (value changes : Record) : List String :=
  ((RUNTIME_IDENTITY_FIELDS ++ STATUS_MANAGED_FIELDS ++ kindIdentityFields (value.field "kind")).filter
      (· ∈ changes.keys) ++
    (kindWriteOnceFields (value.field "kind")).filter fun field =>
      field ∈ value.keys ∧ field ∈ changes.keys).insertionSort (· ≤ ·)

def withStatus (value changes : Record) (status now : String) : Record :=
  let updated := ((value.update changes).set "status" (.str status)).set "updatedAt" (.str now)
  if status ∈ TERMINAL_STATUSES then updated.setDefault "completedAt" (.str now) else updated

def updateStatus (objectId status : String) (expectedStatus updatedAt : Option String) (changes : Record)
    (clock : String) : StoreM Record := do
  raiseIf (status = "") (valueError "status must not be empty")
  let value ← require objectId
  let protected_ := protectedFields value changes
  raiseIf (protected_ ≠ []) (valueError
    ("changes cannot replace protected fields: " ++ (Json.arr (protected_.map .str)).repr))
  let current := value.field "status"
  raiseIf (current = .null) (valueError
    ("runtime object " ++ (Json.str objectId).repr ++ " has no status"))
  raiseIf (∃ expected ∈ expectedStatus, current ≠ .str expected) (statusConflict
    ("expected status " ++ (Json.str (expectedStatus.getD "")).repr ++ " for " ++ (Json.str objectId).repr ++
      ", found " ++ current.repr))
  raiseIf (current.isHashable = false) (unhashable current)
  if isTerminal current then
    if current = .str status then return value else raise (immutable objectId)
  else do
    let updated := withStatus value changes status (orNow updatedAt clock)
    put objectId updated
    return updated

def updateStatusWithLease (objectId status leaseKey ownerId now : String)
    (expectedStatus updatedAt : Option String) (changes : Record) (clock : String) : StoreM Record := do
  raiseIf (activeLease (← read) leaseKey ownerId now = none)
    (statusConflict "execution lease ownership was lost")
  updateStatus objectId status expectedStatus updatedAt changes clock

def claimTaskDispatch (taskExecutionId ownerId updatedAt : String) : StoreM (Bool × Record) := do
  raiseIf (ownerId = "") (valueError "owner_id must be a non-empty string")
  let value ← require taskExecutionId
  raiseIf (value.field "kind" ≠ .str "TaskExecution") (valueError "dispatch claims require a TaskExecution")
  raiseIf (value.field "status" ≠ .str "RUNNING") (statusConflict
    ("TaskExecution " ++ (Json.str taskExecutionId).repr ++ " is not RUNNING"))
  if value.field "dispatchState" = .str "CLAIMED" then return (false, value)
  else do
    raiseIf (value.field "dispatchState" ≠ .str "PENDING") (valueError
      ("TaskExecution " ++ (Json.str taskExecutionId).repr ++ " has no pending dispatch"))
    let claimed := ((value.set "dispatchState" (.str "CLAIMED")).set "dispatchOwnerId" (.str ownerId)).set
      "updatedAt" (.str updatedAt)
    put taskExecutionId claimed
    return (true, claimed)

def woken (task : Record) (approvalId updatedAt : String) : Record :=
  let pending := if task.field "status" = .str "AWAITING_APPROVAL" then task.set "status" (.str "PENDING") else task
  (((pending.erase "dispatchState").erase "dispatchOwnerId").set "approvalId" (.str approvalId)).set
    "updatedAt" (.str updatedAt)

def wakeApprovedTask (taskExecutionId approvalId updatedAt : String) : StoreM Record := do
  let task ← require taskExecutionId
  raiseIf (task.field "kind" ≠ .str "TaskExecution") (valueError "approval wake-up requires a TaskExecution")
  if task.field "approvalId" ≠ .str approvalId then return task
  else do
    raiseIf ((task.field "status").isHashable = false) (unhashable (task.field "status"))
    if task.field "status" ≠ .str "AWAITING_APPROVAL" ∧ task.field "status" ≠ .str "PENDING" then return task
    else do
      put taskExecutionId (woken task approvalId updatedAt)
      return woken task approvalId updatedAt

def notAwaiting : PyError := valueError "approval requests can bind only to an awaiting TaskExecution"

def bound (task : Record) (approvalId updatedAt : String) : Record :=
  (task.set "approvalId" (.str approvalId)).set "updatedAt" (.str updatedAt)

def bindApprovalRequest (taskExecutionId approvalId updatedAt : String) : StoreM Record := do
  let task ← require taskExecutionId
  raiseIf (task.field "kind" ≠ .str "TaskExecution" ∨ task.field "status" ≠ .str "AWAITING_APPROVAL") notAwaiting
  put taskExecutionId (bound task approvalId updatedAt)
  return bound task approvalId updatedAt

/-- `None` or a string, as a field of a record reads it. -/
def optionalText : Option String → Json
  | some value => .str value
  | none => .null

def createApprovalRequest (approval : Json) (deterministicKey : String)
    (expectedCurrentApprovalId : Option String) (updatedAt : String) : StoreM Record := atomically do
  let persisted ← create approval deterministicKey
  let taskExecutionId ← some! (persisted.get? "taskExecutionId") (keyError "taskExecutionId")
  let task ← require taskExecutionId.text
  raiseIf (task.field "kind" ≠ .str "TaskExecution" ∨ task.field "status" ≠ .str "AWAITING_APPROVAL") notAwaiting
  let current := task.field "approvalId"
  if current = .str (objectId persisted) then return persisted
  else do
    raiseIf (current ≠ optionalText expectedCurrentApprovalId)
      (statusConflict "TaskExecution approval binding changed")
    put taskExecutionId.text (bound task (objectId persisted) updatedAt)
    return persisted

def mutateExecutionBudget (workflowExecutionId taskExecutionId : String)
    (mutate : Record → Record → Except PyError (Record × Record)) (updatedAt clock : String) :
    StoreM (Record × Record) := atomically do
  let workflow ← require workflowExecutionId
  let task ← require taskExecutionId
  raiseIf (workflow.field "kind" ≠ .str "WorkflowExecution")
    (valueError "budget mutation requires a WorkflowExecution")
  raiseIf (workflow.field "status" ≠ .str "RUNNING") (valueError "budget WorkflowExecution is not RUNNING")
  raiseIf (task.field "kind" ≠ .str "TaskExecution") (valueError "budget mutation requires a TaskExecution")
  raiseIf (task.field "status" ≠ .str "RUNNING") (valueError "budget TaskExecution is not RUNNING")
  raiseIf (task.field "workflowExecutionId" ≠ .str workflowExecutionId)
    (valueError "budget TaskExecution belongs to another workflow")
  let changes ← liftExcept (mutate workflow task)
  let updatedWorkflow ← updateStatus workflowExecutionId "RUNNING" (some "RUNNING") (some updatedAt) changes.1 clock
  let updatedTask ← updateStatus taskExecutionId "RUNNING" (some "RUNNING") (some updatedAt) changes.2 clock
  return (updatedWorkflow, updatedTask)

def appendEvent (event : Json) : StoreM Record := do
  let value ← liftExcept (copyAndValidate event)
  raiseIf (value.field "kind" ≠ .str "ExecutionEvent") (valueError "append_event requires an ExecutionEvent")
  create (.obj value) ("execution-event:" ++ objectId value)

/-- The record with one more attached Task, or the error of a workflow that may take none. -/
def attachTask (workflow : Record) (workflowExecutionId taskExecutionId now : String) : StoreM Record := do
  let present := workflow.setDefault "taskExecutionIds" (.arr [])
  put workflowExecutionId present
  let taskExecutionIds ← some! (present.field "taskExecutionIds").asItems?
    (valueError "WorkflowExecution.taskExecutionIds must be an array")
  if .str taskExecutionId ∈ taskExecutionIds then return present
  else do
    raiseIf ((present.field "status").isHashable = false) (unhashable (present.field "status"))
    raiseIf (isTerminal (present.field "status") = true) (immutable workflowExecutionId)
    let attached := (present.set "taskExecutionIds" (.arr (taskExecutionIds ++ [.str taskExecutionId]))).set
      "updatedAt" (.str now)
    put workflowExecutionId attached
    return attached

def appendTaskExecutionId (workflowExecutionId taskExecutionId : String) (updatedAt : Option String)
    (clock : String) : StoreM Record := do
  raiseIf (taskExecutionId = "") (valueError "task_execution_id must be a non-empty string")
  let workflow ← require workflowExecutionId
  raiseIf (workflow.field "kind" ≠ .str "WorkflowExecution") (valueError
    ("runtime object " ++ (Json.str workflowExecutionId).repr ++ " is not a WorkflowExecution"))
  let task ← require taskExecutionId
  raiseIf (task.field "kind" ≠ .str "TaskExecution" ∨
      task.field "workflowExecutionId" ≠ .str workflowExecutionId) (valueError
    ("TaskExecution " ++ (Json.str taskExecutionId).repr ++ " does not belong to WorkflowExecution " ++
      (Json.str workflowExecutionId).repr))
  attachTask workflow workflowExecutionId taskExecutionId (orNow updatedAt clock)

end Aep.RuntimeStore
