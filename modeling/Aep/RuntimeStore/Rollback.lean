import Aep.RuntimeStore.Operations

namespace Aep.RuntimeStore

open StateAction

def commitWorkflowInMemory (workflowExecutionId status : String) (event : Json)
    (expectedStatus updatedAt : String) (changes : Record) (clock : String) : StoreM Record := atomically do
  let workflow ← require workflowExecutionId
  raiseIf (workflow.field "kind" ≠ .str "WorkflowExecution")
    (valueError "workflow transitions require a WorkflowExecution")
  liftExcept (validateWorkflowTransitionEvent workflowExecutionId status event)
  let _ ← appendEvent event
  updateStatus workflowExecutionId status (some expectedStatus) (some updatedAt) changes clock

/-- The operation on the in-memory store, whose composite operations put back a snapshot when they raise. -/
def Operation.inMemory : Operation → StoreM Reply
  | .createWithEvent runtimeObject event deterministicKey =>
    .record <$> atomically (RuntimeStore.createWithEvent runtimeObject event deterministicKey)
  | .commitTaskExecutionTransition taskExecutionId status workflowExecutionId event expectedStatus updatedAt
      changes clock =>
    .record <$> atomically (RuntimeStore.commitTaskExecutionTransition taskExecutionId status workflowExecutionId event
      expectedStatus updatedAt changes clock)
  | .commitWorkflowExecutionTransition workflowExecutionId status event expectedStatus updatedAt changes clock =>
    .record <$> commitWorkflowInMemory workflowExecutionId status event expectedStatus updatedAt changes clock
  | operation => operation.run

/-- The in-memory store after a sequence of operations, each of which may return or raise. -/
def runMemory : List Operation → Store → Store
  | [], store => store
  | operation :: rest, store => runMemory rest (operation.inMemory store).2

theorem checks_require (objectId : String) : (require objectId).Checks :=
  checks_bind checks_read fun _ => checks_some _ _

theorem total_put (objectId : String) (value : Record) : (put objectId value).Total := total_modify _

section Keeps

theorem create_keeps (runtimeObject : Json) (deterministicKey : String) :
    (create runtimeObject deterministicKey).Keeps := by
  refine keeps_bind (checks_liftExcept _) fun value => keeps_bind (checks_raiseIf _ _) fun _ =>
    keeps_bind checks_read fun store => ?_
  cases store.deterministicKeys.get? deterministicKey with
  | some existingId => exact (checks_some _ _).keeps
  | none => exact keeps_bind (checks_raiseIf _ _) fun _ => (total_bind (total_modify _) fun _ => total_pure _).keeps

theorem claim_keeps (deterministicKey : String) (value : Json) : (claim deterministicKey value).Keeps := by
  refine keeps_bind (checks_raiseIf _ _) fun _ => keeps_bind (checks_raiseIf _ _) fun _ =>
    keeps_bind checks_read fun store => ?_
  cases store.claims.get? deterministicKey with
  | some existing => exact (checks_pure _).keeps
  | none => exact (total_bind (total_modify _) fun _ => total_pure _).keeps

theorem acquireLease_keeps (key ownerId now expiresAt : String) : (acquireLease key ownerId now expiresAt).Keeps := by
  refine keeps_bind checks_read fun store => ?_
  have grants := (total_bind (total_modify fun store : Store =>
    { store with leases := store.leases.set key ⟨ownerId, expiresAt⟩ }) fun _ => total_pure (ε := PyError) true).keeps
  cases store.leases.get? key with
  | some current => exact keeps_ite (checks_pure _).keeps grants
  | none => exact grants

theorem renewLease_keeps (key ownerId now expiresAt : String) : (renewLease key ownerId now expiresAt).Keeps := by
  refine keeps_bind checks_read fun store => ?_
  cases activeLease store key ownerId now with
  | none => exact (checks_pure _).keeps
  | some current => exact (total_bind (total_modify _) fun _ => total_pure _).keeps

theorem releaseLease_keeps (key ownerId : String) : (releaseLease key ownerId).Keeps := by
  refine keeps_bind checks_read fun store => ?_
  cases store.leases.get? key with
  | none => exact (checks_pure _).keeps
  | some current =>
    exact keeps_ite (checks_pure _).keeps (total_bind (total_modify _) fun _ => total_pure _).keeps

theorem updateStatus_keeps (objectId status : String) (expectedStatus updatedAt : Option String) (changes : Record)
    (clock : String) : (updateStatus objectId status expectedStatus updatedAt changes clock).Keeps := by
  refine keeps_bind (checks_raiseIf _ _) fun _ => keeps_bind (checks_require _) fun value =>
    keeps_bind (checks_raiseIf _ _) fun _ => keeps_bind (checks_raiseIf _ _) fun _ =>
    keeps_bind (checks_raiseIf _ _) fun _ => keeps_bind (checks_raiseIf _ _) fun _ => ?_
  exact keeps_ite (keeps_ite (checks_pure _).keeps (checks_raise _).keeps)
    (total_bind (total_put _ _) fun _ => total_pure _).keeps

theorem updateStatusWithLease_keeps (objectId status leaseKey ownerId now : String)
    (expectedStatus updatedAt : Option String) (changes : Record) (clock : String) :
    (updateStatusWithLease objectId status leaseKey ownerId now expectedStatus updatedAt changes clock).Keeps :=
  keeps_bind checks_read fun _ => keeps_bind (checks_raiseIf _ _) fun _ => updateStatus_keeps _ _ _ _ _ _

theorem claimTaskDispatch_keeps (taskExecutionId ownerId updatedAt : String) :
    (claimTaskDispatch taskExecutionId ownerId updatedAt).Keeps := by
  refine keeps_bind (checks_raiseIf _ _) fun _ => keeps_bind (checks_require _) fun value =>
    keeps_bind (checks_raiseIf _ _) fun _ => keeps_bind (checks_raiseIf _ _) fun _ => ?_
  exact keeps_ite (checks_pure _).keeps (keeps_bind (checks_raiseIf _ _) fun _ =>
    (total_bind (total_put _ _) fun _ => total_pure _).keeps)

theorem wakeApprovedTask_keeps (taskExecutionId approvalId updatedAt : String) :
    (wakeApprovedTask taskExecutionId approvalId updatedAt).Keeps := by
  refine keeps_bind (checks_require _) fun task => keeps_bind (checks_raiseIf _ _) fun _ => ?_
  refine keeps_ite (checks_pure _).keeps (keeps_bind (checks_raiseIf _ _) fun _ => ?_)
  exact keeps_ite (checks_pure _).keeps (total_bind (total_put _ _) fun _ => total_pure _).keeps

theorem bindApprovalRequest_keeps (taskExecutionId approvalId updatedAt : String) :
    (bindApprovalRequest taskExecutionId approvalId updatedAt).Keeps :=
  keeps_bind (checks_require _) fun _ => keeps_bind (checks_raiseIf _ _) fun _ =>
    (total_bind (total_put _ _) fun _ => total_pure _).keeps

theorem appendEvent_keeps (event : Json) : (appendEvent event).Keeps :=
  keeps_bind (checks_liftExcept _) fun _ => keeps_bind (checks_raiseIf _ _) fun _ => create_keeps _ _

end Keeps

section Attachment

/-- The Task may be attached but for the workflow's end, and the workflow lists no Tasks yet. -/
structure Refused (store : Store) (workflowExecutionId taskExecutionId : String) (workflow task : Record) : Prop where
  named : taskExecutionId ≠ ""
  found : store.get workflowExecutionId = some workflow
  workflow_kind : workflow.field "kind" = .str "WorkflowExecution"
  task_found : store.get taskExecutionId = some task
  task_kind : task.field "kind" = .str "TaskExecution"
  task_owner : task.field "workflowExecutionId" = .str workflowExecutionId
  unlisted : workflow.get? "taskExecutionIds" = none
  ended : (workflow.field "status").isHashable = false ∨ isTerminal (workflow.field "status") = true

variable {before after : Store} {workflow : Record} {workflowExecutionId taskExecutionId now : String} {error : PyError}

theorem put_self {id : String} {value : Record} (found : before.get id = some value) : before.put id value = before := by
  unfold Store.put
  rw [Dict.set_of_get? found]

theorem put_ne {id : String} {value other : Record} (found : before.get id = some value) (different : other ≠ value) :
    before.put id other ≠ before := by
  intro same
  have reads := Store.get_put before id id other
  rw [same, found, if_pos rfl] at reads
  exact different (Option.some.inj reads).symm

/-- The workflow with the list that an attachment writes before its last checks. -/
def listed (workflow : Record) : Record := workflow.setDefault "taskExecutionIds" (.arr [])

theorem listed_status (workflow : Record) : (listed workflow).field "status" = workflow.field "status" :=
  Dict.field_congr (by simp [listed, Dict.get?_setDefault])

theorem listed_unlisted (unlisted : workflow.get? "taskExecutionIds" = none) :
    (listed workflow).get? "taskExecutionIds" = some (.arr []) := by
  simp [listed, Dict.get?_setDefault, unlisted]

theorem attachTask_raises (raises : (attachTask workflow workflowExecutionId taskExecutionId now).Raises before error after) :
    after = before.put workflowExecutionId (listed workflow) ∧ (workflow.get? "taskExecutionIds" = none →
      (workflow.field "status").isHashable = false ∨ isTerminal (workflow.field "status") = true) := by
  rw [← listed_status]
  simp only [attachTask, raises_bind, put, raises_modify, raises_some, raises_ite, raises_pure, raises_raiseIf,
    returns_modify, returns_some, returns_raiseIf, false_or, exists_eq_left, and_false] at raises
  obtain ⟨-, ⟨noArray, -, rfl⟩ | ⟨_, _, ⟨-, rfl⟩, -, checked⟩⟩ := raises
  · refine ⟨rfl, fun unlisted => ?_⟩
    rw [show (Dict.setDefault workflow "taskExecutionIds" (Json.arr [])).field "taskExecutionIds" = .arr [] from
      Dict.field_of_get? (listed_unlisted unlisted)] at noArray
    cases noArray
  · rcases checked with ⟨unhashable, -, rfl⟩ | ⟨-, _, ⟨-, rfl⟩, ⟨terminal, -, rfl⟩ | ⟨_, _, -, _, _, impossible⟩⟩
    · exact ⟨rfl, fun _ => .inl unhashable⟩
    · exact ⟨rfl, fun _ => .inr terminal⟩
    · exact impossible.elim

theorem attachTask_ended (unlisted : workflow.get? "taskExecutionIds" = none)
    (ended : (workflow.field "status").isHashable = false ∨ isTerminal (workflow.field "status") = true) :
    ∃ error, (attachTask workflow workflowExecutionId taskExecutionId now).Raises before error
      (before.put workflowExecutionId (listed workflow)) := by
  have empty : (listed workflow).field "taskExecutionIds" = .arr [] := Dict.field_of_get? (listed_unlisted unlisted)
  rw [← listed_status] at ended
  unfold listed at empty ended ⊢
  simp only [attachTask, raises_bind, put, raises_modify, raises_some, raises_ite, raises_pure, raises_raiseIf,
    returns_modify, returns_some, returns_raiseIf, false_or, exists_eq_left, and_false, empty, Json.asItems?]
  by_cases hashable : ((workflow.setDefault "taskExecutionIds" (.arr [])).field "status").isHashable = false
  · exact ⟨_, (), .inr ⟨_, _, ⟨rfl, rfl⟩, by simp, .inl ⟨hashable, rfl, rfl⟩⟩⟩
  · have terminal := ended.resolve_left hashable
    exact ⟨_, (), .inr ⟨_, _, ⟨rfl, rfl⟩, by simp, .inr ⟨(), _, ⟨hashable, rfl⟩, .inl ⟨terminal, rfl, rfl⟩⟩⟩⟩

theorem appendTaskExecutionId_raises {updatedAt : Option String} {clock : String}
    (raises : (appendTaskExecutionId workflowExecutionId taskExecutionId updatedAt clock).Raises before error after) :
    after = before ∨ ∃ workflow task, taskExecutionId ≠ "" ∧ before.get workflowExecutionId = some workflow ∧
      workflow.field "kind" = .str "WorkflowExecution" ∧ before.get taskExecutionId = some task ∧
        (task.field "kind" = .str "TaskExecution" ∧ task.field "workflowExecutionId" = .str workflowExecutionId) ∧
          (attachTask workflow workflowExecutionId taskExecutionId (orNow updatedAt clock)).Raises before error after := by
  unfold appendTaskExecutionId at raises
  rcases raises_after_check (checks_raiseIf _ _) raises with same | ⟨_, named, raises⟩
  · exact .inl same
  rcases raises_after_check (checks_require _) raises with same | ⟨workflow, found, raises⟩
  · exact .inl same
  rcases raises_after_check (checks_raiseIf _ _) raises with same | ⟨_, kind, raises⟩
  · exact .inl same
  rcases raises_after_check (checks_require _) raises with same | ⟨task, taskFound, raises⟩
  · exact .inl same
  rcases raises_after_check (checks_raiseIf _ _) raises with same | ⟨_, owned, raises⟩
  · exact .inl same
  simp only [returns_raiseIf, returns_require, ne_eq, not_or, not_not, and_true] at named found kind taskFound owned
  exact .inr ⟨workflow, task, named, found, kind, taskFound, owned, raises⟩

theorem Refused.raises {task : Record} (refused : Refused before workflowExecutionId taskExecutionId workflow task)
    (updatedAt : Option String) (clock : String) : ∃ error,
      (appendTaskExecutionId workflowExecutionId taskExecutionId updatedAt clock).Raises before error
        (before.put workflowExecutionId (listed workflow)) := by
  have attaching : ∃ error, (attachTask workflow workflowExecutionId taskExecutionId (orNow updatedAt clock)).Raises before
      error (before.put workflowExecutionId (listed workflow)) := attachTask_ended refused.unlisted refused.ended
  obtain ⟨error, raises⟩ := attaching
  refine ⟨error, ?_⟩
  have owned : ¬(task.field "kind" ≠ .str "TaskExecution" ∨
      task.field "workflowExecutionId" ≠ .str workflowExecutionId) := by
    simp [refused.task_kind, refused.task_owner]
  refine raises_bind.mpr (.inr ⟨(), before, returns_raiseIf.mpr ⟨refused.named, rfl⟩, ?_⟩)
  refine raises_bind.mpr (.inr ⟨workflow, before, returns_require.mpr ⟨refused.found, rfl⟩, ?_⟩)
  refine raises_bind.mpr (.inr ⟨(), before, returns_raiseIf.mpr ⟨not_not.mpr refused.workflow_kind, rfl⟩, ?_⟩)
  refine raises_bind.mpr (.inr ⟨task, before, returns_require.mpr ⟨refused.task_found, rfl⟩, ?_⟩)
  exact raises_bind.mpr (.inr ⟨(), before, returns_raiseIf.mpr ⟨owned, rfl⟩, raises⟩)

theorem appendTaskExecutionId_keeps_iff {updatedAt : Option String} {clock : String} :
    (∀ error after, (appendTaskExecutionId workflowExecutionId taskExecutionId updatedAt clock).Raises before error after →
      after = before) ↔ ¬∃ workflow task, Refused before workflowExecutionId taskExecutionId workflow task := by
  constructor
  · rintro keeps ⟨workflow, task, refused⟩
    obtain ⟨error, raises⟩ := refused.raises updatedAt clock
    refine put_ne refused.found (fun same => ?_) (keeps error _ raises)
    have present := listed_unlisted refused.unlisted
    rw [same, refused.unlisted] at present
    cases present
  · intro spared error after raises
    rcases appendTaskExecutionId_raises raises with same | ⟨workflow, task, named, found, kind, taskFound, owned, raises⟩
    · exact same
    · obtain ⟨rfl, ended⟩ := attachTask_raises raises
      cases listing : workflow.get? "taskExecutionIds" with
      | none => exact absurd ⟨workflow, task, named, found, kind, taskFound, owned.1, owned.2, listing, ended listing⟩ spared
      | some ids =>
        have same : listed workflow = workflow := by simp [listed, Dict.setDefault, listing]
        rw [same, put_self found]

end Attachment

def LeavesTrace (store : Store) : Operation → Prop
  | .appendTaskExecutionId workflowExecutionId taskExecutionId _ _ =>
    ∃ workflow task, Refused store workflowExecutionId taskExecutionId workflow task
  | _ => False

/-- Exactly when an operation that raises leaves the whole store as it was. -/
theorem raising_unchanged_iff (store : Store) (operation : Operation) :
    (∀ error after, operation.inMemory.Raises store error after → after = store) ↔ ¬LeavesTrace store operation := by
  have kept {α : Type} {action : StoreM α} (keeps : action.Keeps) (convert : α → Reply) :
      (∀ error after, (convert <$> action).Raises store error after → after = store) ↔ ¬False :=
    iff_of_true (fun error after raises => keeps.map convert store error after raises) not_false
  cases operation with
  | create => exact kept (create_keeps _ _) _
  | createWithEvent => exact kept (keeps_atomically _) _
  | claim => exact kept (claim_keeps _ _) _
  | acquireLease => exact kept (acquireLease_keeps _ _ _ _) _
  | renewLease => exact kept (renewLease_keeps _ _ _ _) _
  | releaseLease => exact kept (releaseLease_keeps _ _) _
  | updateStatus => exact kept (updateStatus_keeps _ _ _ _ _ _) _
  | updateStatusWithLease => exact kept (updateStatusWithLease_keeps _ _ _ _ _ _ _ _ _) _
  | claimTaskDispatch => exact kept (claimTaskDispatch_keeps _ _ _) _
  | wakeApprovedTask => exact kept (wakeApprovedTask_keeps _ _ _) _
  | bindApprovalRequest => exact kept (bindApprovalRequest_keeps _ _ _) _
  | createApprovalRequest => exact kept (keeps_atomically _) _
  | mutateExecutionBudget => exact kept (keeps_atomically _) _
  | appendEvent => exact kept (appendEvent_keeps _) _
  | commitTaskExecutionTransition => exact kept (keeps_atomically _) _
  | commitWorkflowExecutionTransition => exact kept (keeps_atomically _) _
  | appendTaskExecutionId workflowExecutionId taskExecutionId updatedAt clock =>
    have exact : (∀ error after, (appendTaskExecutionId workflowExecutionId taskExecutionId updatedAt clock).Raises store
        error after → after = store) ↔ ¬LeavesTrace store (.appendTaskExecutionId workflowExecutionId taskExecutionId
          updatedAt clock) := appendTaskExecutionId_keeps_iff
    rw [← exact]
    exact forall₂_congr fun error after => imp_congr_left raises_map

section EndedWorkflow

/-- A workflow without a list of Tasks, one of its Tasks, and the workflow's end. -/
def endedHistory : List Operation := [
  .create (.obj [("id", .str "workflow-1"), ("kind", .str "WorkflowExecution"), ("status", .str "RUNNING")]) "workflow-1",
  .create (.obj [("id", .str "task-1"), ("kind", .str "TaskExecution"), ("workflowExecutionId", .str "workflow-1"),
    ("status", .str "PENDING")]) "task-1",
  .updateStatus "workflow-1" "SUCCEEDED" none (some "2026-01-01T00:00:00Z") [] ""]

/-- The attachment is refused, and the ended workflow has an empty list now. -/
theorem refused_attachment_written : ∃ error after,
    (Operation.appendTaskExecutionId "workflow-1" "task-1" none "2026-01-01T00:00:01Z").inMemory.Raises
      (runMemory endedHistory {}) error after ∧
    after ≠ runMemory endedHistory {} ∧
    (after.get "workflow-1").map (fun workflow => workflow.get? "taskExecutionIds") = some (some (.arr [])) := by
  refine ⟨immutable "workflow-1", _, rfl, ?_, ?_⟩
  · decide +kernel
  · decide +kernel

end EndedWorkflow

end Aep.RuntimeStore
