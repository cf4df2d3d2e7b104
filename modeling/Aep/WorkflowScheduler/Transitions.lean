import Aep.WorkflowScheduler.World

namespace Aep.WorkflowScheduler

open RuntimeStore

def sinceStart : List Mark → List Executed
  | [] => []
  | .started :: _ => []
  | .invoked outcome :: rest => outcome :: sinceStart rest
  | .waiting :: rest => sinceStart rest

section Sound

variable (platform : Platform)

/-- The state of an attempt and what happened to it, phase by phase. -/
inductive Sound : Life → List Mark → Prop where
  | pending {life : Life} {marks : List Mark} (status : life.status = .str "PENDING")
      (undispatched : life.dispatchState = none) (unrecorded : life.terminalEvidence = none)
      (unfailed : life.failure = none) (once : (sinceStart marks).length ≤ 1)
      (first : Mark.waiting ∉ marks → marks = []) : Sound life marks
  | ready {life : Life} {marks : List Mark} (status : life.status = .str "RUNNING")
      (pending : life.dispatchState = some (.str "PENDING")) (unrecorded : life.terminalEvidence = none)
      (unfailed : life.failure = none) (idle : sinceStart marks = [])
      (first : Mark.waiting ∉ marks → marks = [.started]) : Sound life marks
  | claimed {life : Life} {marks : List Mark} {owner : String} (claimed : life.Claimed owner)
      (unrecorded : life.terminalEvidence = none) (unfailed : life.failure = none)
      (once : (sinceStart marks).length ≤ 1)
      (first : Mark.waiting ∉ marks → marks = (sinceStart marks).map .invoked ++ [.started]) : Sound life marks
  | recorded {life : Life} {marks : List Mark} {owner : String} {outcome : Executed} (claimed : life.Claimed owner)
      (recorded : life.terminalEvidence = some (.obj (terminalEvidence (settle platform outcome))))
      (unfailed : life.failure = none) (once : sinceStart marks = [outcome])
      (first : Mark.waiting ∉ marks → marks = [.invoked outcome, .started]) : Sound life marks
  | awaiting {life : Life} {marks : List Mark} (status : life.status = .str "AWAITING_APPROVAL")
      (dispatched : life.dispatchState ≠ none) (unrecorded : life.terminalEvidence = none)
      (unfailed : life.failure = none) (once : (sinceStart marks).length ≤ 1) (waited : Mark.waiting ∈ marks) :
      Sound life marks
  | done {life : Life} {marks : List Mark} {outcome : Executed}
      (status : life.status = .str (terminalStatus (settle platform outcome)).value)
      (dispatched : life.dispatchState ≠ none)
      (recorded : life.terminalEvidence = some (.obj (terminalEvidence (settle platform outcome))))
      (failure : life.failure = (terminalEvidence (settle platform outcome)).get? "failure")
      (once : sinceStart marks = [outcome])
      (first : Mark.waiting ∉ marks → marks = [.invoked outcome, .started]) : Sound life marks
  | rejected {life : Life} {marks : List Mark} (status : life.status = .str "FAILED")
      (dispatched : life.dispatchState ≠ none) (once : (sinceStart marks).length ≤ 1)
      (waited : Mark.waiting ∈ marks) : Sound life marks

namespace Sound

variable {platform} {life : Life} {marks : List Mark}

theorem once (sound : Sound platform life marks) : (sinceStart marks).length ≤ 1 := by
  cases sound with
  | pending _ _ _ _ once => exact once
  | ready _ _ _ _ idle => simp [idle]
  | claimed _ _ _ once => exact once
  | recorded _ _ _ once => simp [once]
  | awaiting _ _ _ _ once => exact once
  | done _ _ _ _ once => simp [once]
  | rejected _ _ once => exact once

theorem terminal_status (result : TaskExecutionResult) :
    (terminalStatus result).value = "SUCCEEDED" ∨ (terminalStatus result).value = "FAILED" := by
  unfold terminalStatus
  split
  · exact .inl rfl
  · exact .inr rfl

theorem of_undispatched (sound : Sound platform life marks) (undispatched : life.dispatchState = none) :
    life.status = .str "PENDING" := by
  cases sound with
  | pending status => exact status
  | ready _ pending => simp [pending] at undispatched
  | claimed claimed => simp [claimed.2.1] at undispatched
  | recorded claimed => simp [claimed.2.1] at undispatched
  | awaiting _ dispatched => exact absurd undispatched dispatched
  | done _ dispatched => exact absurd undispatched dispatched
  | rejected _ dispatched => exact absurd undispatched dispatched

theorem of_terminal (sound : Sound platform life marks)
    (terminal : life.status = .str "SUCCEEDED" ∨ life.status = .str "FAILED") (direct : Mark.waiting ∉ marks) :
    ∃ outcome, marks = [.invoked outcome, .started] ∧
      life.terminalEvidence = some (.obj (terminalEvidence (settle platform outcome))) ∧
      some life.status = (terminalEvidence (settle platform outcome)).get? "status" ∧
      life.failure = (terminalEvidence (settle platform outcome)).get? "failure" := by
  cases sound with
  | pending status => simp [status] at terminal
  | ready status => simp [status] at terminal
  | claimed claimed => simp [claimed.1] at terminal
  | recorded claimed => simp [claimed.1] at terminal
  | awaiting status => simp [status] at terminal
  | @done outcome status _ recorded failure _ first =>
    exact ⟨outcome, first direct, recorded, by rw [status]; rfl, failure⟩
  | rejected _ _ _ waited => exact absurd waited direct

end Sound

end Sound

namespace World

variable (world : World)

def Owned (id owner : String) : Prop :=
  ∃ life, world.life id = some life ∧ life.dispatchOwnerId = some (.str owner)

/-- The thread drew the token that holds the dispatch of the attempt, and no evidence is recorded yet. -/
def Holds (thread : Nat) (id owner : String) : Prop :=
  world.issued owner = some thread ∧
    ∃ life, world.life id = some life ∧ life.Claimed owner ∧ life.terminalEvidence = none

def Recorded (id : String) (evidence : Record) : Prop :=
  ∃ life, world.life id = some life ∧ life.terminalEvidence = some (.obj evidence)

def Stored (id : String) (record : Record) : Prop := ∃ store, world.Shows store ∧ store.get id = some record

def Approved (approvalId : String) : Prop :=
  ∃ approval, world.Stored approvalId approval ∧ approval.field "kind" = .str "Approval" ∧
    approval.field "status" = .str "APPROVED"

end World

section Attempts

variable (store : Store)

def SucceededAttempt (workflowId : String) (taskRef : ResourceRef) (id : String) : Prop :=
  ∃ record, store.get id = some record ∧ isTask record = true ∧
    record.field "workflowExecutionId" = .str workflowId ∧ refFromRecord (record.field "taskRef") = some taskRef ∧
    statusOf record = .str "SUCCEEDED"

def RecoverableAttempt (workflowId : String) (taskRef dependencies : Json) (attempt : Int) : Prop :=
  ∃ id record, store.get id = some record ∧ isTask record = true ∧
    record.field "workflowExecutionId" = .str workflowId ∧ record.field "taskRef" = taskRef ∧
    record.field "attempt" = .int attempt ∧ record.field "dependencyTaskExecutionIds" = dependencies ∧
    isRecoverableFailure record = true

/-- Why an attempt may be there: it is the first one and its dependencies have succeeded, or the one before it failed
    recoverably. -/
inductive Justified (plan : TaskDagPlan) (maxAttempts : Int) (workflowId : String) (taskRef dependencies : Json) :
    Int → Prop where
  | first {node : TaskPlanNode} {ids : List String} (planned : node ∈ plan.nodes)
      (named : taskRef = .obj (refRecord node.taskRef)) (listed : dependencies = .arr (ids.map .str))
      (succeeded : List.Forall₂ (SucceededAttempt store workflowId) node.dependencies ids) :
      Justified plan maxAttempts workflowId taskRef dependencies 1
  | retry {attempt : Int} (bounded : attempt < maxAttempts)
      (failed : RecoverableAttempt store workflowId taskRef dependencies attempt) :
      Justified plan maxAttempts workflowId taskRef dependencies (attempt + 1)

end Attempts

section Permitted

variable (platform : Platform) (jobs : Nat → Job) (thread : Nat) (world : World)

def Authorized (id : String) : Life.Action → Prop
  | .claim owner => world.issued owner = some thread
  | .record evidence => ∃ owner outcome, world.Holds thread id owner ∧ sinceStart (world.marks id) = [outcome] ∧
      evidence = terminalEvidence (settle platform outcome)
  | .await _ => ∃ owner, world.Holds thread id owner
  | .wake approval => world.Approved approval
  | _ => True

def lifeFields : List String :=
  ["status", "dispatchState", "dispatchOwnerId", "terminalEvidence", "failure", "approvalId", "pendingApprovalRequest"]

def Writes (changes : Record) (names : List String) : Prop :=
  ∀ field ∈ lifeFields, field ∉ names → changes.get? field = none

def IsTaskEvent (id : String) (event : TaskEvent) (record : Record) : Prop :=
  ∃ taskExecution sequence timestamp, idOf taskExecution = id ∧
    eventRecord platform taskExecution event sequence timestamp = .ok record

/-- A transition that the scheduler may commit. -/
inductive MayCommit (id : String) : (status expectedStatus : String) → (changes : Record) → TaskEvent → Prop where
  | start {expectedStatus : String} {changes : Record} (writes : Writes changes ["dispatchState"])
      (pending : changes.get? "dispatchState" = some (.str "PENDING")) :
      MayCommit id "RUNNING" expectedStatus changes .started
  | await {request : Json} {owner : String} (holds : world.Holds thread id owner) :
      MayCommit id "AWAITING_APPROVAL" "RUNNING" [("pendingApprovalRequest", request)] .awaitingApproval
  | settle {result : TaskExecutionResult} (recorded : world.Recorded id (terminalEvidence result)) :
      MayCommit id (terminalStatus result).value "RUNNING" (terminalChanges result) (terminalEvent result)
  | reject {failure : Json} : MayCommit id "FAILED" "AWAITING_APPROVAL" [("failure", failure)] .failed

/-- A status update that the scheduler or the gate may make. -/
inductive MayUpdate (id : String) : (status expectedStatus : String) → (changes : Record) → Prop where
  | other {status expectedStatus kind : String} {changes value : Record} (stored : world.Stored id value)
      (named : value.field "kind" = .str kind) (otherKind : kind = "WorkflowExecution" ∨ kind = "Approval") :
      MayUpdate id status expectedStatus changes
  | diagnostics {changes : Record} (writes : Writes changes []) : MayUpdate id "RUNNING" "RUNNING" changes
  | record {changes : Record} {outcome : Executed} (writes : Writes changes ["terminalEvidence"])
      (evidence : changes.get? "terminalEvidence" = some (.obj (terminalEvidence (settle platform outcome))))
      (held : world.Recorded id (terminalEvidence (settle platform outcome)) ∨
        ∃ owner, world.Holds thread id owner ∧ sinceStart (world.marks id) = [outcome]) :
      MayUpdate id "RUNNING" "RUNNING" changes
  | repair {evidence : Record} {status : String} (recorded : world.Recorded id evidence)
      (named : evidence.field "status" = .str status) (terminal : status = "SUCCEEDED" ∨ status = "FAILED") :
      MayUpdate id status "RUNNING" (evidence.erase "status")

/-- A record that the scheduler may create as an attempt, under this key. -/
structure MayCreate (record : Record) (key : String) : Prop where
  task : isTask record = true
  life : lifeOf record = Life.created
  planned : ∃ maxAttempts positive plan workflowExecution workflowId taskRef identity attempt,
    jobs thread = .reconcile maxAttempts positive plan workflowExecution ∧
    workflowExecution.field "id" = .str workflowId ∧ record.field "workflowExecutionId" = .str workflowId ∧
    record.field "taskRef" = .obj taskRef ∧ taskIdentity taskRef = .ok identity ∧
    record.field "attempt" = .int attempt ∧ key = deterministicKey workflowId identity attempt ∧
    ∀ store, world.Shows store → Justified store plan maxAttempts workflowId (.obj taskRef)
      (record.field "dependencyTaskExecutionIds") attempt

/-- The store operations that keep to the protocol. -/
inductive PermittedOperation : Operation → Prop where
  | create {record : Record} {key : String} (may : MayCreate jobs thread world record key) :
      PermittedOperation (.create (.obj record) key)
  | appendTaskExecutionId {workflowId id : String} {updatedAt : Option String} {clock : String} :
      PermittedOperation (.appendTaskExecutionId workflowId id updatedAt clock)
  | appendEvent {id : String} {event : TaskEvent} {record : Record} (trail : IsTaskEvent platform id event record) :
      PermittedOperation (.appendEvent (.obj record))
  | appendDenied {asked : Decision} {approval record : Record} (gate : jobs thread = .decide asked)
      (denied : deniedEvent platform approval asked = .ok record) : PermittedOperation (.appendEvent (.obj record))
  | commit {id status workflowId expectedStatus updatedAt clock : String} {changes record : Record} {event : TaskEvent}
      (may : MayCommit thread world id status expectedStatus changes event)
      (trail : IsTaskEvent platform id event record) :
      PermittedOperation (.commitTaskExecutionTransition id status workflowId (.obj record) expectedStatus updatedAt
        changes clock)
  | update {id status expectedStatus clock : String} {updatedAt : Option String} {changes : Record}
      (may : MayUpdate platform thread world id status expectedStatus changes) :
      PermittedOperation (.updateStatus id status (some expectedStatus) updatedAt changes clock)
  | claim {id owner updatedAt : String} (own : world.issued owner = some thread) :
      PermittedOperation (.claimTaskDispatch id owner updatedAt)
  | wake {id approvalId updatedAt : String} (approved : world.Approved approvalId) :
      PermittedOperation (.wakeApprovedTask id approvalId updatedAt)
  | requestApproval {approval : Record} {name updatedAt : String} {expected : Option String}
      (kind : approval.field "kind" = .str "Approval") :
      PermittedOperation (.createApprovalRequest (.obj approval) ("approval:" ++ name) expected updatedAt)

def Permitted : Call → Prop
  | .execute _ running => ∃ owner, world.Holds thread (idOf running) owner ∧
      sinceStart (world.marks (idOf running)) = []
  | .store operation => PermittedOperation platform jobs thread world operation
  | _ => True

end Permitted

end Aep.WorkflowScheduler

namespace Aep.WorkflowScheduler

open RuntimeStore StateAction

variable {before middle after : Store}

section Frames

theorem life_same (same : before.Same after) (id : String) : life after id = life before id := by
  unfold life
  rw [same.get]

theorem life_found {id : String} {record : Record} (found : before.get id = some record) :
    life before id = if isTask record then some (lifeOf record) else none := by
  unfold life
  rw [found]
  cases task : isTask record <;> simp [task]

theorem life_replaced {id : String} {old new : Record} (replaced : before.Replaced after id old new)
    (task : isTask new = true) (wanted : String) :
    life after wanted = if id = wanted then some (lifeOf new) else life before wanted := by
  unfold life
  rw [replaced.get]
  split
  · simp [task]
  · rfl

theorem life_replaced_other {id : String} {old new : Record} (replaced : before.Replaced after id old new)
    (other : isTask old = false) (stays : isTask new = false) (wanted : String) :
    life after wanted = life before wanted := by
  unfold life
  rw [replaced.get]
  split
  · rename_i same
    subst same
    rw [replaced.found, Option.filter_some_neg stays, Option.filter_some_neg other]
  · rfl

theorem life_added {value : Record} {key : String} (added : before.Added after value key) (wanted : String) :
    life after wanted = if objectId value = wanted ∧ isTask value = true then some (lifeOf value)
      else life before wanted := by
  unfold life
  rw [added.get]
  by_cases same : objectId value = wanted
  · subst same
    cases task : isTask value <;> simp [task, added.fresh]
  · simp [same]

theorem life_added_other {value : Record} {key : String} (added : before.Added after value key)
    (other : isTask value = false) (wanted : String) : life after wanted = life before wanted := by
  rw [life_added added]
  simp [other]

theorem not_task_of_kind {record : Record} {kind : String} (named : record.field "kind" = .str kind)
    (other : kind ≠ "TaskExecution") : isTask record = false := by
  simp [isTask, named, other]

theorem life_attached {workflowId id : String} (attached : Attached before after workflowId id) (wanted : String) :
    life after wanted = life before wanted := by
  obtain ⟨old, new, replaced, oldKind, newKind⟩ := attached.workflow
  exact life_replaced_other replaced (not_task_of_kind oldKind (by decide)) (not_task_of_kind newKind (by decide)) _

theorem life_appended {event : Record} (appended : Appended before after event)
    (kind : event.field "kind" = .str "ExecutionEvent") (wanted : String) :
    life after wanted = life before wanted := by
  cases appended with
  | earlier _ _ same => exact life_same same _
  | added added => exact life_added_other added (not_task_of_kind kind (by decide)) _

end Frames

section Writes

def Life.write (life : Life) (status : String) (changes : Record) : Life where
  status := .str status
  dispatchState := (changes.get? "dispatchState").or life.dispatchState
  dispatchOwnerId := (changes.get? "dispatchOwnerId").or life.dispatchOwnerId
  terminalEvidence := (changes.get? "terminalEvidence").or life.terminalEvidence
  failure := (changes.get? "failure").or life.failure
  approvalId := (changes.get? "approvalId").or life.approvalId
  pendingApprovalRequest := (changes.get? "pendingApprovalRequest").or life.pendingApprovalRequest

theorem get?_withStatus {value changes : Record} {status now field : String}
    (notStatus : field ≠ "status") (notUpdated : field ≠ "updatedAt") (notCompleted : field ≠ "completedAt") :
    (withStatus value changes status now).get? field = (changes.get? field).or (value.get? field) := by
  unfold withStatus
  split <;> simp [Dict.get?_setDefault, Dict.get?_set, Dict.get?_update, Ne.symm notStatus, Ne.symm notUpdated,
    Ne.symm notCompleted]

theorem status_withStatus (value changes : Record) (status now : String) :
    (withStatus value changes status now).field "status" = .str status := by
  apply Dict.field_of_get?
  unfold withStatus
  split <;> simp [Dict.get?_setDefault, Dict.get?_set]

theorem lifeOf_withStatus (value changes : Record) (status now : String) :
    lifeOf (withStatus value changes status now) = (lifeOf value).write status changes := by
  unfold lifeOf Life.write
  rw [status_withStatus]
  congr 1 <;> exact get?_withStatus (by decide) (by decide) (by decide)

theorem isTask_congr {old new : Record} (same : new.get? "kind" = old.get? "kind") : isTask new = isTask old := by
  unfold isTask
  rw [Dict.field_congr same]

theorem isTask_evolves {old new : Record} (evolves : RuntimeStore.Evolves old new) : isTask new = isTask old :=
  isTask_congr (evolves.get?_eq (by decide))

theorem life_updated {id status : String} {changes result old : Record}
    (updated : Updated before after id status changes result) (found : before.get id = some old)
    (live : isTerminal (old.field "status") = false) (wanted : String) :
    life after wanted = if id = wanted then (life before id).map (·.write status changes) else life before wanted := by
  cases updated with
  | confirmed stored terminal =>
    rw [found] at stored
    cases stored
    rw [live] at terminal
    cases terminal
  | @rewritten value now _ _ unprotected written replaced =>
    have same := replaced.found
    rw [found] at same
    cases same
    have kept : isTask result = isTask old := isTask_evolves (written ▸ withStatus_evolves live unprotected)
    rw [life_found found]
    cases task : isTask old with
    | true =>
      rw [life_replaced replaced (kept.trans task), written, lifeOf_withStatus]
      simp
    | false =>
      rw [life_replaced_other replaced task (kept.trans task)]
      split
      · rename_i same
        subst same
        simp [life_found found, task]
      · rfl

theorem Life.write_status {life : Life} {status : String} {changes : Record} (named : life.status = .str status)
    (writes : Writes changes []) : life.write status changes = life := by
  have unwritten (field : String) (member : field ∈ lifeFields) : changes.get? field = none :=
    writes field member (by simp)
  unfold Life.write
  rw [unwritten "dispatchState" (by decide), unwritten "dispatchOwnerId" (by decide),
    unwritten "terminalEvidence" (by decide), unwritten "failure" (by decide), unwritten "approvalId" (by decide),
    unwritten "pendingApprovalRequest" (by decide), ← named]
  rfl

end Writes

section Approvals

theorem lifeOf_woken {task : Record} {approvalId updatedAt : String}
    (waiting : task.field "status" = .str "AWAITING_APPROVAL" ∨ task.field "status" = .str "PENDING")
    (current : (lifeOf task).approvalId = some (.str approvalId)) :
    lifeOf (woken task approvalId updatedAt) =
      { lifeOf task with status := .str "PENDING", dispatchState := none, dispatchOwnerId := none } := by
  have known : task.get? "approvalId" = some (.str approvalId) := current
  unfold woken
  rcases waiting with awaiting | pending
  · rw [if_pos awaiting]
    simp [lifeOf, known, Dict.field, Dict.get?_set, Dict.get?_erase]
  · have status : Dict.get? task "status" = some (.str "PENDING") := Dict.get?_of_field pending (by simp)
    rw [if_neg (by simp [pending])]
    simp [lifeOf, known, status, Dict.field, Dict.get?_set, Dict.get?_erase]

theorem isTask_woken (task : Record) (approvalId updatedAt : String) :
    isTask (woken task approvalId updatedAt) = isTask task := by
  refine isTask_congr ?_
  unfold woken
  split <;> simp [Dict.get?_set, Dict.get?_erase]

theorem lifeOf_bound (task : Record) (approvalId updatedAt : String) :
    lifeOf (bound task approvalId updatedAt) = { lifeOf task with approvalId := some (.str approvalId) } := by
  simp [lifeOf, bound, Dict.field, Dict.get?_set]

theorem isTask_bound (task : Record) (approvalId updatedAt : String) :
    isTask (bound task approvalId updatedAt) = isTask task :=
  isTask_congr (by simp [bound, Dict.get?_set])

end Approvals

section Moves

/-- The event that is committed with a transition. -/
def Life.Action.event : Life.Action → Option TaskEvent
  | .start => some .started
  | .await _ => some .awaitingApproval
  | .reject _ => some .failed
  | _ => none

def eventKey (platform : Platform) (id : String) (event : TaskEvent) : String :=
  "execution-event:" ++ eventId platform id event

variable (platform : Platform) (jobs : Nat → Job) (thread : Nat) (world : World)

def Traced (store : Store) (id : String) (action : Life.Action) : Prop :=
  ∀ event, action.event = some event → store.deterministicKeys.get? (eventKey platform id event) ≠ none

/-- What one store operation did to the attempts: nothing, a new one, or one authorized transition. -/
inductive Moved (before after : Store) : Prop where
  | same (life : ∀ wanted, life after wanted = life before wanted)
  | created (id : String) {record : Record} {key : String} (may : MayCreate jobs thread world record key)
      (absent : before.get id = none) (stored : after.get id = some record)
      (keyed : after.deterministicKeys.get? key = some id)
      (life : ∀ wanted, life after wanted = if id = wanted then some Life.created else life before wanted)
  | stepped (id : String) {action : Life.Action} {old new : Life} (found : life before id = some old)
      (step : Life.Step action old new) (authorized : Authorized platform thread world id action)
      (traced : Traced platform after id action)
      (life : ∀ wanted, life after wanted = if id = wanted then some new else life before wanted)

variable {platform jobs thread world}

theorem untraced {id : String} {action : Life.Action} (silent : action.event = none) :
    Traced platform after id action := by
  intro event same
  rw [silent] at same
  cases same

theorem eventRecord_id {taskExecution record : Record} {event : TaskEvent} {sequence : Int} {timestamp : String}
    (made : eventRecord platform taskExecution event sequence timestamp = .ok record) :
    objectId record = eventId platform (idOf taskExecution) event := by
  simp only [eventRecord, Result.bind_eq_ok, Result.pure_eq_ok] at made
  obtain ⟨identity, read, _, -, _, -, _, -, _, -, _, -, _, -, rfl⟩ := made
  unfold item at read
  cases found : Dict.get? taskExecution "id" with
  | none => simp [found] at read
  | some value =>
    simp only [found, Except.ok.injEq] at read
    rw [idOf, Dict.field_of_get? found, read]
    rfl

theorem Traced.of_trail {id : String} {action : Life.Action} {event : TaskEvent} {record : Record}
    (trail : IsTaskEvent platform id event record) (appended : Appended before after record)
    (named : action.event = some event) : Traced platform after id action := by
  intro other same
  cases named.symm.trans same
  obtain ⟨taskExecution, sequence, timestamp, identified, made⟩ := trail
  have key : "execution-event:" ++ objectId record = eventKey platform id event := by
    rw [eventKey, eventRecord_id made, identified]
  rw [← key]
  cases appended with
  | earlier keyed _ same => rw [same.keys, keyed]; simp
  | added added => rw [added.keys, if_pos rfl]; simp

theorem Moved.trans_same (moved : Moved platform jobs thread world before middle) (same : middle.Same after) :
    Moved platform jobs thread world before after := by
  have lives := life_same same
  cases moved with
  | same first => exact .same fun wanted => (lives wanted).trans (first wanted)
  | created id may absent stored keyed first =>
    exact .created id may absent ((same.get id).trans stored) (by rw [same.keys, keyed]) fun wanted =>
      (lives wanted).trans (first wanted)
  | stepped id found step authorized traced first =>
    exact .stepped id found step authorized (fun event named => by rw [same.keys]; exact traced event named)
      fun wanted => (lives wanted).trans (first wanted)

theorem world_life (shows : world.Shows before) (id : String) : world.life id = life before id := by
  unfold World.life lifeIn
  rw [shows]

theorem live_of_updated {id status : String} {changes result old : Record}
    (updated : Updated before after id status changes result) (found : before.get id = some old)
    (target : status ∉ TERMINAL_STATUSES) :
    isTerminal (old.field "status") = false ∧ protectedFields old changes = [] := by
  cases updated with
  | confirmed _ terminal named =>
    rw [named, isTerminal_of_live target] at terminal
    cases terminal
  | rewritten live _ unprotected _ replaced =>
    have same := replaced.found
    rw [found] at same
    cases same
    exact ⟨live, unprotected⟩

theorem unprotected_of_updated {id status : String} {changes result old : Record}
    (updated : Updated before after id status changes result) (found : before.get id = some old)
    (live : isTerminal (old.field "status") = false) : protectedFields old changes = [] := by
  cases updated with
  | confirmed stored terminal =>
    rw [found] at stored
    cases stored
    rw [live] at terminal
    cases terminal
  | rewritten _ _ unprotected _ replaced =>
    have same := replaced.found
    rw [found] at same
    cases same
    exact unprotected

theorem unwritten_of_unprotected {record changes : Record} {field : String} (task : isTask record = true)
    (unprotected : protectedFields record changes = []) (once : field ∈ kindWriteOnceFields (.str "TaskExecution"))
    (written : changes.get? field ≠ none) : record.get? field = none := by
  have kind : record.field "kind" = .str "TaskExecution" := by simpa [isTask] using task
  have absent : field ∉ protectedFields record changes := by simp [unprotected]
  simp only [protectedFields, kind, List.mem_insertionSort, List.mem_append, List.mem_filter, decide_eq_true_eq,
    not_or, not_and] at absent
  have changed : field ∈ changes.keys := not_not.mp fun missing => written (Dict.get?_eq_none.mpr missing)
  exact Dict.get?_eq_none.mpr fun present => absent.2 once present changed

theorem task_of_life {id : String} {record : Record} {attempt : Life} (found : before.get id = some record)
    (lives : life before id = some attempt) : isTask record = true ∧ attempt = lifeOf record := by
  rw [life_found found] at lives
  split at lives
  · rename_i task
    cases lives
    exact ⟨task, rfl⟩
  · cases lives

theorem moved_of_write {id status : String} {changes : Record} {action : Life.Action} {old : Life}
    (lives : life before id = some old) (step : Life.Step action old (old.write status changes))
    (authorized : Authorized platform thread world id action) (traced : Traced platform after id action)
    (written : ∀ wanted, life after wanted =
      if id = wanted then (life before id).map (·.write status changes) else life before wanted) :
    Moved platform jobs thread world before after :=
  .stepped id lives step authorized traced fun wanted => by rw [written, lives, Option.map_some]

theorem write_start {attempt : Life} {changes : Record} (writes : Writes changes ["dispatchState"])
    (pending : changes.get? "dispatchState" = some (.str "PENDING")) : attempt.write "RUNNING" changes =
      { attempt with status := .str "RUNNING", dispatchState := some (.str "PENDING") } := by
  unfold Life.write
  rw [pending, writes "dispatchOwnerId" (by decide) (by decide), writes "terminalEvidence" (by decide) (by decide),
    writes "failure" (by decide) (by decide), writes "approvalId" (by decide) (by decide),
    writes "pendingApprovalRequest" (by decide) (by decide)]
  rfl

theorem write_record {attempt : Life} {changes evidence : Record} (running : attempt.status = .str "RUNNING")
    (writes : Writes changes ["terminalEvidence"])
    (recorded : changes.get? "terminalEvidence" = some (.obj evidence)) :
    attempt.write "RUNNING" changes = { attempt with terminalEvidence := some (.obj evidence) } := by
  unfold Life.write
  rw [recorded, writes "dispatchState" (by decide) (by decide), writes "dispatchOwnerId" (by decide) (by decide),
    writes "failure" (by decide) (by decide), writes "approvalId" (by decide) (by decide),
    writes "pendingApprovalRequest" (by decide) (by decide), ← running]
  rfl

theorem write_failure {attempt : Life} {status : String} {changes : Record} (writes : Writes changes ["failure"]) :
    attempt.write status changes =
      { attempt with status := .str status, failure := (changes.get? "failure").or attempt.failure } := by
  unfold Life.write
  rw [writes "dispatchState" (by decide) (by decide), writes "dispatchOwnerId" (by decide) (by decide),
    writes "terminalEvidence" (by decide) (by decide), writes "approvalId" (by decide) (by decide),
    writes "pendingApprovalRequest" (by decide) (by decide)]
  rfl

theorem writes_singleton (field : String) (value : Json) : Writes [(field, value)] [field] := by
  intro other _ different
  have distinct : field ≠ other := fun same => different (by simp [same])
  simp [Dict.get?, distinct]

theorem writes_terminalChanges (result : TaskExecutionResult) : Writes (terminalChanges result) ["failure"] := by
  unfold terminalChanges
  split
  · intro field _ _
    rfl
  · exact writes_singleton _ _

theorem terminalEvidence_failure (result : TaskExecutionResult) :
    (terminalEvidence result).get? "failure" = (terminalChanges result).get? "failure" := rfl

theorem terminalEvidence_status (result : TaskExecutionResult) :
    (terminalEvidence result).field "status" = .str (terminalStatus result).value := rfl

theorem terminalEvidence_erase (result : TaskExecutionResult) :
    (terminalEvidence result).erase "status" = terminalChanges result := by
  unfold terminalEvidence terminalChanges
  split <;> rfl

theorem commit_moves {id status workflowId expectedStatus updatedAt clock : String} {changes record result : Record}
    {event : TaskEvent} (shows : world.Shows before) (may : MayCommit thread world id status expectedStatus changes event)
    (trail : IsTaskEvent platform id event record)
    (returned : (commitTaskExecutionTransition id status workflowId (.obj record) expectedStatus updatedAt changes
      clock).Returns before result after) : Moved platform jobs thread world before after := by
  obtain ⟨⟨old, found, expected⟩, written, noted, updated, attached, -, kind, appended⟩ :=
    commitTaskExecutionTransition_cases returned
  have live : isTerminal (old.field "status") = false := by
    cases may with
    | start => exact (live_of_updated updated found (by decide)).1
    | await => rw [expected]; rfl
    | settle => rw [expected]; rfl
    | reject => rw [expected]; rfl
  have writes (wanted : String) : life after wanted =
      if id = wanted then (life before id).map (·.write status changes) else life before wanted := by
    rw [life_appended appended kind, life_attached attached, life_updated updated found live]
  cases lives : life before id with
  | none =>
    refine .same fun wanted => ?_
    rw [writes, lives]
    split
    · rename_i same
      rw [← same, lives]
      rfl
    · rfl
  | some attempt =>
    obtain ⟨task, rfl⟩ := task_of_life found lives
    have current : (lifeOf old).status = .str expectedStatus := expected
    cases may with
    | start others pending =>
      have undispatched : (lifeOf old).dispatchState = none :=
        unwritten_of_unprotected task (unprotected_of_updated updated found live) (by decide) (by simp [pending])
      have step : Life.Step .start (lifeOf old) ((lifeOf old).write "RUNNING" changes) := by
        rw [write_start others pending]
        exact .start undispatched
      exact moved_of_write lives step trivial (.of_trail trail appended rfl) writes
    | @await request owner holds =>
      have step : Life.Step (.await request) (lifeOf old)
          ((lifeOf old).write "AWAITING_APPROVAL" [("pendingApprovalRequest", request)]) := .await current
      exact moved_of_write lives step ⟨owner, holds⟩ (.of_trail trail appended rfl) writes
    | @settle evidence recorded =>
      obtain ⟨attempt, lived, recorded⟩ := recorded
      rw [world_life shows, lives] at lived
      cases lived
      have step : Life.Step .settle (lifeOf old)
          ((lifeOf old).write (terminalStatus evidence).value (terminalChanges evidence)) := by
        rw [write_failure (writes_terminalChanges evidence), ← terminalEvidence_failure]
        exact .settle current recorded (terminalEvidence_status evidence) (Sound.terminal_status evidence)
      exact moved_of_write lives step trivial (untraced rfl) writes
    | @reject failure =>
      have step : Life.Step (.reject failure) (lifeOf old)
          ((lifeOf old).write "FAILED" [("failure", failure)]) := .reject current
      exact moved_of_write lives step trivial (.of_trail trail appended rfl) writes

theorem update_moves {id status expectedStatus clock : String} {updatedAt : Option String} {changes result : Record}
    (shows : world.Shows before) (sound : ∀ id attempt, world.life id = some attempt →
      Sound platform attempt (world.marks id))
    (may : MayUpdate platform thread world id status expectedStatus changes)
    (returned : (updateStatus id status (some expectedStatus) updatedAt changes clock).Returns before result after) :
    Moved platform jobs thread world before after := by
  obtain ⟨updated, old, found, expected⟩ := updateStatus_updated returned
  have expected : old.field "status" = .str expectedStatus := expected _ rfl
  cases lives : life before id with
  | none =>
    refine .same fun wanted => ?_
    cases updated with
    | confirmed _ _ _ same => exact life_same same wanted
    | @rewritten value now live _ unprotected written replaced =>
      have other : isTask value = false := by
        have first := life_found replaced.found
        rw [lives] at first
        by_contra task
        simp [Bool.not_eq_false _ ▸ task] at first
      have kept : isTask result = isTask value := isTask_evolves (written ▸ withStatus_evolves live unprotected)
      exact life_replaced_other replaced other (kept.trans other) wanted
  | some attempt =>
    obtain ⟨task, rfl⟩ := task_of_life found lives
    have lived : world.life id = some (lifeOf old) := (world_life shows id).trans lives
    have status_eq : (lifeOf old).status = .str expectedStatus := expected
    cases may with
    | @other _ _ kind _ value stored named otherKind =>
      obtain ⟨store, again, stored⟩ := stored
      cases shows.symm.trans again
      cases found.symm.trans stored
      rw [not_task_of_kind named (by rcases otherKind with rfl | rfl <;> decide)] at task
      cases task
    | diagnostics others =>
      have live : isTerminal (old.field "status") = false := by rw [expected]; rfl
      refine .same fun wanted => ?_
      rw [life_updated updated found live, lives]
      split
      · rename_i same
        rw [← same, lives, Option.map_some, Life.write_status status_eq others]
      · rfl
    | @record _ outcome others evidence held =>
      have live : isTerminal (old.field "status") = false := by rw [expected]; rfl
      have unrecorded : (lifeOf old).terminalEvidence = none :=
        unwritten_of_unprotected task (unprotected_of_updated updated found live) (by decide) (by simp [evidence])
      have step : Life.Step (.record (terminalEvidence (settle platform outcome))) (lifeOf old)
          ((lifeOf old).write "RUNNING" changes) := by
        rw [write_record status_eq others evidence]
        exact .record status_eq unrecorded
      refine moved_of_write lives step ?_ (untraced rfl) (life_updated updated found live)
      rcases held with ⟨attempt, again, recorded⟩ | ⟨owner, holds, once⟩
      · rw [lived] at again
        cases again
        rw [unrecorded] at recorded
        cases recorded
      · exact ⟨owner, outcome, holds, once, rfl⟩
    | @repair evidence _ recorded named terminal =>
      have live : isTerminal (old.field "status") = false := by rw [expected]; rfl
      obtain ⟨attempt, again, recorded⟩ := recorded
      rw [lived] at again
      cases again
      obtain ⟨outcome, same⟩ : ∃ outcome, evidence = terminalEvidence (settle platform outcome) := by
        cases sound id _ lived with
        | pending _ _ unrecorded => simp [recorded] at unrecorded
        | ready _ _ unrecorded => simp [recorded] at unrecorded
        | claimed _ unrecorded => simp [recorded] at unrecorded
        | @recorded _ outcome _ known =>
          rw [recorded] at known
          exact ⟨outcome, by simpa using known⟩
        | awaiting waiting => simp [status_eq] at waiting
        | @done outcome _ _ known =>
          rw [recorded] at known
          exact ⟨outcome, by simpa using known⟩
        | rejected rejected => simp [status_eq] at rejected
      subst same
      have step : Life.Step .settle (lifeOf old)
          ((lifeOf old).write status ((terminalEvidence (settle platform outcome)).erase "status")) := by
        rw [terminalEvidence_erase, write_failure (writes_terminalChanges _), ← terminalEvidence_failure]
        exact .settle status_eq recorded named terminal
      exact moved_of_write lives step trivial (untraced rfl) (life_updated updated found live)

theorem permitted_moves {operation : Operation} {reply : Reply} (shows : world.Shows before)
    (sound : ∀ id attempt, world.life id = some attempt → Sound platform attempt (world.marks id))
    (permitted : PermittedOperation platform jobs thread world operation)
    (returned : operation.run.Returns before reply after) : Moved platform jobs thread world before after := by
  cases permitted <;> simp only [Operation.run, returns_map] at returned <;> obtain ⟨result, returned, -⟩ := returned
  case create record key may =>
    obtain ⟨-, ⟨_, -, -, same⟩ | ⟨-, added⟩⟩ := create_record_cases returned
    · exact .same (life_same same)
    · refine .created (objectId record) may added.fresh (by simp [added.get]) (by simp [added.keys]) fun wanted => ?_
      simp [life_added added, may.task, may.life]
  case appendTaskExecutionId => exact .same (life_attached (appendTaskExecutionId_cases returned))
  case appendEvent =>
    obtain ⟨-, kind, appended⟩ := appendEvent_cases returned
    exact .same (life_appended appended kind)
  case appendDenied =>
    obtain ⟨-, kind, appended⟩ := appendEvent_cases returned
    exact .same (life_appended appended kind)
  case commit may trail => exact commit_moves shows may trail returned
  case update may => exact update_moves shows sound may returned
  case claim id owner updatedAt own =>
    obtain ⟨value, found, kind, running, ⟨-, same⟩ | ⟨pending, -, claimed, replaced⟩⟩ := claimTaskDispatch_cases returned
    · exact .same (life_same same)
    · have task : isTask value = true := by simp [isTask, kind]
      have lives : life before id = some (lifeOf value) := by rw [life_found found, if_pos task]
      have step : Life.Step (.claim owner) (lifeOf value) (lifeOf result.2) := by
        have after_claim : lifeOf result.2 = { lifeOf value with
            dispatchState := some (.str "CLAIMED"), dispatchOwnerId := some (.str owner) } := by
          simp [lifeOf, claimed, Dict.get?_set, Dict.field]
        rw [after_claim]
        exact .claim running (Dict.get?_of_field pending (by simp))
      have stays : isTask result.2 = true := by
        simp [isTask, claimed, Dict.field, Dict.get?_set, ← kind]
      exact .stepped id lives step own (untraced rfl) (life_replaced replaced stays)
  case wake id approvalId updatedAt approved =>
    rcases wakeApprovedTask_cases returned with same | ⟨value, kind, current, waiting, replaced⟩
    · exact .same (life_same same)
    · have task : isTask value = true := by simp [isTask, kind]
      have lives : life before id = some (lifeOf value) := by rw [life_found replaced.found, if_pos task]
      have known : (lifeOf value).approvalId = some (.str approvalId) := Dict.get?_of_field current (by simp)
      have step : Life.Step (.wake approvalId) (lifeOf value) (lifeOf (woken value approvalId updatedAt)) := by
        rw [lifeOf_woken waiting known]
        exact .wake waiting known
      have stays : isTask (woken value approvalId updatedAt) = true := (isTask_woken value _ _).trans task
      exact .stepped id lives step approved (untraced rfl) (life_replaced replaced stays)
  case requestApproval approval name updatedAt expected kind =>
    obtain ⟨middle, id, value, first, -, found, taskKind, awaiting, second⟩ := createApprovalRequest_cases returned
    have unchanged : ∀ wanted, life middle wanted = life before wanted := by
      rcases first with ⟨-, same⟩ | ⟨-, added⟩
      · exact life_same same
      · exact life_added_other added (not_task_of_kind kind (by decide))
    rcases second with ⟨-, same⟩ | ⟨-, replaced⟩
    · exact .same fun wanted => (life_same same wanted).trans (unchanged wanted)
    · have task : isTask value = true := by simp [isTask, taskKind]
      have lives : life before id.text = some (lifeOf value) := by
        rw [← unchanged, life_found found, if_pos task]
      have step : Life.Step (.bind (objectId result)) (lifeOf value)
          (lifeOf (bound value (objectId result) updatedAt)) := by
        rw [lifeOf_bound]
        exact .bind awaiting
      have stays : isTask (bound value (objectId result) updatedAt) = true := (isTask_bound value _ _).trans task
      exact .stepped id.text lives step trivial (untraced rfl) fun wanted => by
        rw [life_replaced replaced stays, unchanged]

end Moves

section Keys

variable {platform : Platform} {jobs : Nat → Job} {thread : Nat} {world : World}

/-- The kind of what is created under a key of the scheduler. -/
def KeyOf (key kind : String) : Prop :=
  (kind = "TaskExecution" ∧ ∃ workflowId identity attempt, key = deterministicKey workflowId identity attempt) ∨
    kind = "ExecutionEvent" ∧ ∃ name, key = "execution-event:" ++ name

def OfKind (store : Store) (id kind : String) : Prop :=
  ∃ record, store.get id = some record ∧ record.field "kind" = .str kind

/-- What an operation did to the deterministic keys: it kept them, and new ones it gave to objects of their kind. -/
structure Keyed (before after : Store) : Prop where
  kept : ∀ key id, before.deterministicKeys.get? key = some id → after.deterministicKeys.get? key = some id
  named : ∀ key kind id, KeyOf key kind → after.deterministicKeys.get? key = some id →
    before.deterministicKeys.get? key = some id ∨ OfKind after id kind

theorem Keyed.of_keys (same : after.deterministicKeys = before.deterministicKeys) : Keyed before after :=
  ⟨fun key id found => by rw [same, found], fun key kind id _ found => .inl (by rw [← same, found])⟩

theorem Keyed.trans_keys (keyed : Keyed before middle) (same : after.deterministicKeys = middle.deterministicKeys)
    (kinds : ∀ id kind, OfKind middle id kind → OfKind after id kind) : Keyed before after := by
  refine ⟨fun key id found => by rw [same, keyed.kept key id found], fun key kind id reserved found => ?_⟩
  rcases keyed.named key kind id reserved (by rw [← same, found]) with earlier | stored
  · exact .inl earlier
  · exact .inr (kinds id kind stored)

theorem Keyed.of_added {value : Record} {key : String} (added : before.Added after value key)
    (ofKind : ∀ kind, KeyOf key kind → value.field "kind" = .str kind) : Keyed before after := by
  constructor
  · intro wanted id found
    rw [added.keys, if_neg]
    · exact found
    · rintro rfl
      rw [added.unkeyed] at found
      cases found
  · intro wanted kind id reserved found
    rw [added.keys] at found
    split at found
    · rename_i same
      cases found
      exact .inr ⟨value, by simp [added.get], ofKind kind (same ▸ reserved)⟩
    · exact .inl found

theorem heads_differ {first second : String} (firstChar secondChar : Char) (rest : String)
    (starts : first.toList.head? = some firstChar) (other : second.toList.head? = some secondChar)
    (different : firstChar ≠ secondChar) (tail : String) : first ++ tail ≠ second ++ rest := by
  intro same
  have heads := congrArg (fun text : String => text.toList.head?) same
  simp [String.toList_append, List.head?_append, starts, other] at heads
  exact different heads

theorem deterministicKey_other {first : String} (firstChar : Char) (starts : first.toList.head? = some firstChar)
    (different : firstChar ≠ 't') (tail workflowId identity : String) (attempt : Int) :
    first ++ tail ≠ deterministicKey workflowId identity attempt := by
  unfold deterministicKey
  rw [String.append_assoc, String.append_assoc, String.append_assoc, String.append_assoc]
  exact heads_differ firstChar 't' _ starts (by decide) different _

theorem Keyed.of_appended {event : Record} (kind : event.field "kind" = .str "ExecutionEvent")
    (appended : Appended before after event) : Keyed before after := by
  cases appended with
  | earlier _ _ same => exact .of_keys same.keys
  | added added =>
    refine .of_added added fun wanted reserved => ?_
    rcases reserved with ⟨-, _, _, _, same⟩ | ⟨rfl, -⟩
    · exact absurd same (deterministicKey_other 'e' (by decide) (by decide) _ _ _ _)
    · exact kind

theorem keys_of_updated {id status : String} {changes result : Record}
    (updated : Updated before after id status changes result) :
    after.deterministicKeys = before.deterministicKeys := by
  cases updated with
  | confirmed _ _ _ same => exact same.keys
  | rewritten _ _ _ _ replaced => exact replaced.keys

theorem permitted_keys {operation : Operation} {reply : Reply}
    (permitted : PermittedOperation platform jobs thread world operation)
    (returned : operation.run.Returns before reply after) : Keyed before after := by
  cases permitted <;> simp only [Operation.run, returns_map] at returned <;> obtain ⟨result, returned, -⟩ := returned
  case create may =>
    obtain ⟨-, ⟨_, -, -, same⟩ | ⟨-, added⟩⟩ := create_record_cases returned
    · exact .of_keys same.keys
    · refine .of_added added fun kind reserved => ?_
      obtain ⟨_, _, _, _, workflowId, _, identity, attempt, -, -, -, -, -, -, rfl, -⟩ := may.planned
      rcases reserved with ⟨rfl, -⟩ | ⟨-, name, same⟩
      · simpa [isTask] using may.task
      · exact absurd same.symm (deterministicKey_other 'e' (by decide) (by decide) _ _ _ _)
  case appendTaskExecutionId =>
    obtain ⟨_, _, replaced, -⟩ := (appendTaskExecutionId_cases returned).workflow
    exact .of_keys replaced.keys
  case appendEvent => exact .of_appended (appendEvent_cases returned).2.1 (appendEvent_cases returned).2.2
  case appendDenied => exact .of_appended (appendEvent_cases returned).2.1 (appendEvent_cases returned).2.2
  case commit may trail =>
    obtain ⟨-, written, noted, updated, attached, -, kind, appended⟩ := commitTaskExecutionTransition_cases returned
    obtain ⟨_, _, replaced, -⟩ := attached.workflow
    have same : noted.deterministicKeys = before.deterministicKeys := replaced.keys.trans (keys_of_updated updated)
    have keyed := Keyed.of_appended kind appended
    exact ⟨fun key id found => keyed.kept key id (by rw [same, found]), fun key kind id reserved found => by
      rw [← same]; exact keyed.named key kind id reserved found⟩
  case update may => exact .of_keys (keys_of_updated (updateStatus_updated returned).1)
  case claim =>
    obtain ⟨_, -, -, -, ⟨-, same⟩ | ⟨-, -, -, replaced⟩⟩ := claimTaskDispatch_cases returned
    · exact .of_keys same.keys
    · exact .of_keys replaced.keys
  case wake =>
    rcases wakeApprovedTask_cases returned with same | ⟨_, -, -, -, replaced⟩
    · exact .of_keys same.keys
    · exact .of_keys replaced.keys
  case requestApproval =>
    obtain ⟨middle, id, task, first, -, -, -, -, second⟩ := createApprovalRequest_cases returned
    have keyed : Keyed before middle := by
      rcases first with ⟨-, same⟩ | ⟨-, added⟩
      · exact .of_keys same.keys
      · refine .of_added added fun kind reserved => ?_
        rcases reserved with ⟨-, _, _, _, same⟩ | ⟨-, _, same⟩
        · exact absurd same (deterministicKey_other 'a' (by decide) (by decide) _ _ _ _)
        · exact absurd same (heads_differ 'a' 'e' _ (by decide) (by decide) (by decide) _)
    rcases second with ⟨-, same⟩ | ⟨-, replaced⟩
    · exact keyed.trans_keys same.keys fun wanted kind stored => by simpa only [OfKind, same.get] using stored
    · refine keyed.trans_keys replaced.keys fun wanted kind stored => ?_
      obtain ⟨record, found, named⟩ := stored
      unfold OfKind
      rw [replaced.get]
      split
      · rename_i here
        subst here
        cases found.symm.trans replaced.found
        exact ⟨_, rfl, by simpa [bound, Dict.field, Dict.get?_set] using named⟩
      · exact ⟨record, found, named⟩

end Keys

end Aep.WorkflowScheduler
