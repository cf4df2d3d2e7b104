import Aep.Errors
import Mathlib.Data.List.Sort

namespace Aep.RuntimeStore

def TERMINAL_STATUSES : List String :=
  ["SUCCEEDED", "FAILED", "CANCELLED", "APPROVED", "REJECTED", "EXPIRED"]

def RUNTIME_IDENTITY_FIELDS : List String :=
  ["apiVersion", "id", "kind", "traceId", "createdAt", "provenance"]

def STATUS_MANAGED_FIELDS : List String := ["status", "updatedAt", "completedAt"]

def kindIdentityFields (kind : Json) : List String :=
  if kind = .str "TaskExecution" then
    ["workflowExecutionId", "taskRef", "attempt", "dependencyTaskExecutionIds"]
  else []

def kindWriteOnceFields (kind : Json) : List String :=
  if kind = .str "TaskExecution" then
    ["contextPackageId", "resolvedAgentId", "terminalEvidence", "dispatchState", "dispatchOwnerId",
      "executionBudget"]
  else if kind = .str "WorkflowExecution" then ["resolvedTaskPlan", "executionBudget"]
  else []

/-- Membership in the frozen set of terminal statuses; an unhashable value cannot be looked up. -/
def isTerminal (status : Json) : Bool :=
  match status with
  | .str name => name ∈ TERMINAL_STATUSES
  | _ => false

def unhashable (value : Json) : PyError :=
  { errorClass := .typeError, message := "unhashable type: " ++ value.repr }

def valueError (message : String) : PyError := { errorClass := .valueError, message }

def typeError (message : String) : PyError := { errorClass := .typeError, message }

def keyError (key : String) : PyError := { errorClass := .keyError, message := (Json.str key).repr }

def notFound (objectId : String) : PyError :=
  { errorClass := .runtimeObjectNotFoundError
    message := "runtime object " ++ (Json.str objectId).repr ++ " was not found" }

def alreadyExists (objectId : String) : PyError :=
  { errorClass := .runtimeObjectAlreadyExistsError
    message := "runtime object " ++ (Json.str objectId).repr ++ " already exists" }

def immutable (objectId : String) : PyError :=
  { errorClass := .immutableRuntimeObjectError
    message := "completed runtime object " ++ (Json.str objectId).repr ++ " is immutable" }

def statusConflict (message : String) : PyError := { errorClass := .statusConflictError, message }

def copyAndValidate (runtimeObject : Json) : Except PyError Record :=
  match runtimeObject.asRecord? with
  | none => .error (typeError "runtime_object must be a mapping")
  | some value =>
    match value.field "id" with
    | .str objectId =>
      if objectId = "" then .error (valueError "runtime_object.id must be a non-empty string")
      else match value.field "kind" with
        | .str kind =>
          if kind = "" then .error (valueError "runtime_object.kind must be a non-empty string")
          else .ok value
        | _ => .error (valueError "runtime_object.kind must be a non-empty string")
    | _ => .error (valueError "runtime_object.id must be a non-empty string")

/-- What every stored object satisfies: a mapping with a non-empty id and kind. -/
def ValidObject (value : Record) : Prop := copyAndValidate (.obj value) = .ok value

instance (value : Record) : Decidable (ValidObject value) := by
  unfold ValidObject
  cases copied : copyAndValidate (.obj value) with
  | error error => exact isFalse (by simp)
  | ok record => exact decidable_of_iff (record = value) (by simp)

def objectId (value : Record) : String := (value.field "id").text

theorem copyAndValidate_ok {runtimeObject : Json} {value : Record}
    (copied : copyAndValidate runtimeObject = .ok value) :
    runtimeObject = .obj value ∧ (∃ id, value.field "id" = .str id ∧ id ≠ "") ∧
      ∃ kind, value.field "kind" = .str kind ∧ kind ≠ "" := by
  unfold copyAndValidate at copied
  split at copied
  · cases copied
  · rename_i fields isObject
    split at copied
    · rename_i idEq
      split at copied
      · cases copied
      · rename_i idPresent
        split at copied
        · rename_i kindEq
          split at copied
          · cases copied
          · rename_i kindPresent
            cases copied
            exact ⟨Json.asRecord?_eq_some.mp isObject, ⟨_, idEq, idPresent⟩, ⟨_, kindEq, kindPresent⟩⟩
        · cases copied
    · cases copied

theorem copyAndValidate_valid {runtimeObject : Json} {value : Record}
    (copied : copyAndValidate runtimeObject = .ok value) : ValidObject value :=
  by
  have same := (copyAndValidate_ok copied).1
  rwa [same] at copied

theorem ValidObject.id_eq {value : Record} (valid : ValidObject value) :
    value.field "id" = .str (objectId value) := by
  obtain ⟨-, ⟨id, found, -⟩, -⟩ := copyAndValidate_ok valid
  simp [objectId, found]

theorem ValidObject.congr {old new : Record} (valid : ValidObject old) (id : new.field "id" = old.field "id")
    (kind : new.field "kind" = old.field "kind") : ValidObject new := by
  obtain ⟨-, ⟨name, idEq, named⟩, kindName, kindEq, kindNamed⟩ := copyAndValidate_ok valid
  rw [← id] at idEq
  rw [← kind] at kindEq
  simp [ValidObject, copyAndValidate, Json.asRecord?, idEq, named, kindEq, kindNamed]

def mappingField (value : Json) (key : String) : Json :=
  match value.asRecord? with
  | some fields => fields.field key
  | none => .null

def workflowExecutionId (value : Record) : Option String :=
  let candidate :=
    if value.field "kind" = .str "WorkflowExecution" then value.field "id"
    else if value.field "workflowExecutionId" = .null then
      mappingField (value.field "provenance") "workflowExecutionId"
    else value.field "workflowExecutionId"
  candidate.asString?

def taskExecutionId (value : Record) : Option String :=
  let candidate :=
    if value.field "taskExecutionId" = .null then
      mappingField (value.field "provenance") "taskExecutionId"
    else value.field "taskExecutionId"
  candidate.asString?

def expectedWorkflowEvent (status : String) : Option String :=
  if status = "RUNNING" then some "WorkflowExecutionStarted"
  else if status = "SUCCEEDED" then some "WorkflowExecutionCompleted"
  else if status = "FAILED" then some "WorkflowExecutionFailed"
  else if status = "CANCELLED" then some "WorkflowExecutionCancelled"
  else none

def validFailureClasses : List String :=
  ["RECOVERABLE", "CONFIGURATION", "EVALUATION", "POLICY", "PERMANENT"]

def validateWorkflowTransitionEvent (workflowExecutionId status : String) (event : Json) :
    Except PyError Unit :=
  if event.isMapping = false ∨ mappingField event "kind" ≠ .str "ExecutionEvent" then
    .error (valueError "workflow transitions require an ExecutionEvent")
  else
    let subject := mappingField event "subject"
    let provenance := mappingField event "provenance"
    let payload := mappingField event "payload"
    if subject.isMapping = false ∨ mappingField subject "kind" ≠ .str "WorkflowExecution" ∨
        mappingField subject "id" ≠ .str workflowExecutionId ∨ provenance.isMapping = false ∨
        mappingField provenance "workflowExecutionId" ≠ .str workflowExecutionId then
      .error (valueError "ExecutionEvent must belong to the transitioning WorkflowExecution")
    else
      match expectedWorkflowEvent status with
      | none =>
        .error (valueError "ExecutionEvent type and status must match the WorkflowExecution transition")
      | some expected =>
        if mappingField event "eventType" ≠ .str expected ∨ payload.isMapping = false ∨
            mappingField payload "status" ≠ .str status then
          .error (valueError "ExecutionEvent type and status must match the WorkflowExecution transition")
        else
          let failureClass := mappingField payload "failureClass"
          if status = "FAILED" ∧ failureClass.isHashable = false then .error (unhashable failureClass)
          else if status = "FAILED" ∧ failureClass ∉ validFailureClasses.map Json.str then
            .error (valueError "WorkflowExecutionFailed requires a valid failure class")
          else if status ≠ "FAILED" ∧ failureClass ≠ .null then
            .error (valueError
              "successful WorkflowExecution transitions must not contain a failure class")
          else .ok ()

end Aep.RuntimeStore
