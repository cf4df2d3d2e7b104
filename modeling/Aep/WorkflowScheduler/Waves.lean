import Aep.WorkflowScheduler.Advance

namespace Aep.WorkflowScheduler

open RuntimeStore StateAction Machine.Discipline

variable {setting : Setting} {world next : World} {maxAttempts : Int} {positive : 1 ≤ maxAttempts} {plan : TaskDagPlan}
  {workflowExecution : Record} {run : Reconciliation}

section Inputs

/-- What a reconciliation that got past its validation is about. -/
structure Validated (plan : TaskDagPlan) (workflowExecution : Record) (run : Reconciliation) (world : World) : Prop where
  plan : run.plan = plan
  named : workflowExecution.field "id" = .str run.workflowId
  workflow : world.OfKind run.workflowId "WorkflowExecution"

theorem persistent_validated (plan : TaskDagPlan) (workflowExecution : Record) (run : Reconciliation) :
    setting.Persistent (Validated plan workflowExecution run) :=
  persistent_of_grows fun grows validated => ⟨validated.plan, validated.named, grows.ofKind validated.workflow⟩

theorem nonEmptyString_ok {value : Json} {message text : String} (checked : nonEmptyString value message = .ok text) :
    value = .str text := by
  unfold nonEmptyString at checked
  cases value <;> simp [Json.asString?] at checked
  split at checked
  · rename_i found
    cases checked
    simp [Option.filter_eq_some_iff] at found
    rw [found.1]
  · cases checked

theorem callerWorkflowId_ok {scheduler : Scheduler} {workflowId : String}
    (checked : callerWorkflowId scheduler workflowExecution = .ok workflowId) :
    workflowExecution.field "id" = .str workflowId := by
  simp only [callerWorkflowId, Result.bind_eq_ok] at checked
  obtain ⟨_, -, _, -, named⟩ := checked
  exact nonEmptyString_ok named

theorem validatePersisted_ok {scheduler : Scheduler} {persisted : Record} {workflowId timestamp : String}
    (checked : validatePersisted scheduler plan workflowExecution persisted workflowId timestamp = .ok run) :
    run.plan = plan ∧ run.workflowId = workflowId := by
  simp only [validatePersisted, Result.bind_eq_ok] at checked
  obtain ⟨_, -, checked⟩ := checked
  split at checked
  · cases checked
  · simp only [Result.bind_eq_ok, Result.pure_eq_ok] at checked
    obtain ⟨_, -, _, -, _, -, _, -, rfl⟩ := checked
    exact ⟨rfl, rfl⟩

theorem triple_validateInputs {scheduler : Scheduler} {timestamp : String} :
    setting.Triple (fun _ => True) (validateInputs scheduler plan workflowExecution timestamp)
      (returns (Validated plan workflowExecution)) := by
  refine Triple.bind_returns (persistent_const True) triple_check fun workflowId => ?_
  have named : setting.Persistent fun _ => True ∧ callerWorkflowId scheduler workflowExecution = .ok workflowId :=
    persistent_const _
  refine Triple.bind_returns named (triple_get workflowId) fun found => ?_
  cases checked : found.filter fun persisted => decide (persisted.field "kind" = .str "WorkflowExecution") with
  | none => exact triple_fails
  | some persisted =>
    obtain ⟨rfl, kind⟩ := Option.filter_eq_some_iff.mp checked
    refine triple_liftExcept fun world known run validated => ?_
    obtain ⟨⟨-, called⟩, seen⟩ := known
    obtain ⟨samePlan, sameId⟩ := validatePersisted_ok validated
    obtain ⟨⟨current, stored, evolved⟩, same⟩ := seen persisted rfl
    refine ⟨samePlan, sameId ▸ callerWorkflowId_ok called, current, ?_, ?_⟩
    · rw [sameId, ← same]
      exact stored
    · exact (evolved.field_eq (by decide)).trans (by simpa using kind)

end Inputs

section Readiness

def World.Succeeded (world : World) (workflowId : String) (ref : ResourceRef) (id : String) : Prop :=
  ∃ record, world.Task record ∧ workflowExecutionId record = some workflowId ∧
    refFromRecord (record.field "taskRef") = some ref ∧ statusOf record = .str "SUCCEEDED" ∧ idOf record = id

structure Readied (scheduler : Scheduler) (run : Reconciliation) (ready : ReadyTask) (world : World) : Prop where
  planned : ready.node ∈ run.plan.nodes
  succeeded : List.Forall₂ (world.Succeeded run.workflowId) ready.node.dependencies ready.dependencyIds
  latest : ∀ attempt, ready.latest = some attempt → world.Task attempt ∧
    workflowExecutionId attempt = some run.workflowId ∧ isReady scheduler (some attempt) run.timestamp = .ok true

theorem persistent_readied (scheduler : Scheduler) (run : Reconciliation) (ready : ReadyTask) :
    setting.Persistent (Readied scheduler run ready) := by
  refine persistent_of_grows fun grows readied => ⟨readied.planned, ?_, fun attempt same => ?_⟩
  · refine readied.succeeded.imp fun ref id succeeded => ?_
    obtain ⟨record, task, rest⟩ := succeeded
    exact ⟨record, grows.task task, rest⟩
  · obtain ⟨task, rest⟩ := readied.latest attempt same
    exact ⟨grows.task task, rest⟩

variable {records : List Record} {attempts : ResourceRef → List Record}

theorem attemptsByTask_mem (grouped : attemptsByTask records = .ok attempts) {ref : ResourceRef} {attempt : Record}
    (member : attempt ∈ attempts ref) : attempt ∈ records ∧ isAttemptOf ref attempt = true := by
  simp only [attemptsByTask, Result.bind_eq_ok, Result.pure_eq_ok] at grouped
  obtain ⟨_, -, rfl⟩ := grouped
  exact List.mem_filter.mp (List.mem_mergeSort.mp member)

theorem isAttemptOf_iff {ref : ResourceRef} {attempt : Record} :
    isAttemptOf ref attempt = true ↔ isTask attempt = true ∧ refFromRecord (attempt.field "taskRef") = some ref := by
  simp [isAttemptOf, isTask]

theorem task_of_grouped (grouped : attemptsByTask records = .ok attempts) (listed : world.Listed run.workflowId records)
    {ref : ResourceRef} {attempt : Record} (member : attempt ∈ attempts ref) :
    world.Task attempt ∧ workflowExecutionId attempt = some run.workflowId ∧
      refFromRecord (attempt.field "taskRef") = some ref := by
  obtain ⟨inRecords, ofRef⟩ := attemptsByTask_mem grouped member
  obtain ⟨task, same⟩ := isAttemptOf_iff.mp ofRef
  exact ⟨⟨(listed attempt inRecords).1, task⟩, (listed attempt inRecords).2, same⟩

theorem succeededDependencyIds_sound (grouped : attemptsByTask records = .ok attempts)
    (listed : world.Listed run.workflowId records) {node : TaskPlanNode} {ids : List String}
    (found : succeededDependencyIds node attempts = some ids) :
    List.Forall₂ (world.Succeeded run.workflowId) node.dependencies ids := by
  unfold succeededDependencyIds at found
  generalize node.dependencies = dependencies at found ⊢
  induction dependencies generalizing ids with
  | nil =>
    cases found
    exact .nil
  | cons dependency rest ih =>
    simp only [List.mapM_cons, Option.bind_eq_bind, Option.bind_eq_some_iff, Option.map_eq_some_iff] at found
    obtain ⟨id, ⟨attempt, first, rfl⟩, others, later, same⟩ := found
    cases same
    have member := List.mem_reverse.mp (List.mem_of_find?_eq_some first)
    have status : statusOf attempt = .str "SUCCEEDED" := by simpa using List.find?_some first
    obtain ⟨task, workflow, ref⟩ := task_of_grouped grouped listed member
    exact .cons ⟨attempt, task, workflow, ref, status, rfl⟩ (ih later)

theorem readyTasks_sound {scheduler : Scheduler} {readied : List ReadyTask}
    (listed : world.Listed run.workflowId records) (computed : readyTasks scheduler run records = .ok readied) :
    ∀ ready ∈ readied, Readied scheduler run ready world := by
  simp only [readyTasks, Result.bind_eq_ok, Result.pure_eq_ok] at computed
  obtain ⟨attempts, grouped, found, mapped, rfl⟩ := computed
  intro ready member
  obtain ⟨some_ready, inFound, same⟩ := List.mem_filterMap.mp member
  obtain ⟨node, planned, computed⟩ := Result.mem_of_mapM mapped inFound
  have same : some_ready = some ready := same
  subst same
  unfold readiness at computed
  split at computed
  · cases computed
  · rename_i ids succeeded
    simp only [Result.bind_eq_ok] at computed
    obtain ⟨isReadied, checked, computed⟩ := computed
    cases isReadied with
    | false => cases computed
    | true =>
      cases computed
      refine ⟨planned, succeededDependencyIds_sound grouped listed succeeded, fun attempt last => ?_⟩
      have last : (attempts node.taskRef).getLast? = some attempt := last
      obtain ⟨task, workflow, -⟩ := task_of_grouped grouped listed (List.mem_of_getLast? last)
      exact ⟨task, workflow, last ▸ checked⟩

end Readiness

section Creation

theorem newTaskExecution_ok {platform : Platform} {new : NewAttempt} {record : Record} {key : String}
    (made : newTaskExecution platform new = .ok (record, key)) :
    ∃ traceId identity, record = taskExecutionRecord new traceId ∧ taskIdentity new.taskRef = .ok identity ∧
      key = deterministicKey new.workflowExecutionId identity new.attempt := by
  simp only [newTaskExecution, Result.bind_eq_ok, Result.pure_eq_ok, Prod.mk.injEq] at made
  obtain ⟨_, -, _, -, context, -, _, -, identity, named, _, -, rfl, rfl⟩ := made
  exact ⟨context.traceId, identity, rfl, named, rfl⟩

theorem triple_create {pre : World → Prop} {new : NewAttempt} (stable : setting.Stable pre)
    (job : setting.jobs setting.thread = .reconcile maxAttempts positive plan workflowExecution)
    (justified : ∀ world, Inv setting.platform world → pre world →
      workflowExecution.field "id" = .str new.workflowExecutionId ∧ ∀ store, world.Shows store →
        Justified store plan maxAttempts new.workflowExecutionId (.obj new.taskRef) (.arr new.dependencyTaskExecutionIds)
          new.attempt) :
    setting.Triple pre (create setting.platform new) (returns fun created world => world.Task created) := by
  have prepared : setting.Triple pre (Prog.check (newTaskExecution setting.platform new))
      (returns fun made world => pre world ∧ newTaskExecution setting.platform new = .ok made) :=
    triple_liftExcept fun world known made same => ⟨known, same⟩
  refine Triple.bind prepared (fun made => ?_) fun _ _ _ _ same => by cases same
  obtain ⟨record, key⟩ := made
  suffices written : setting.Triple (fun world => pre world ∧ newTaskExecution setting.platform new = .ok (record, key)) _ _
    from written.weaken (fun world known => known _ rfl)
  refine triple_store (stable_and stable fun _ _ known _ => known) (fun world inv known => ?_) ?_
  · obtain ⟨traceId, identity, rfl, named, rfl⟩ := newTaskExecution_ok known.2
    obtain ⟨workflow, justified⟩ := justified world inv known.1
    exact .create ⟨rfl, rfl, maxAttempts, positive, plan, workflowExecution, _, _, identity, _, job, workflow, rfl, rfl,
      named, rfl, rfl, justified⟩
  · rintro world next value inv ⟨-, made⟩ ended
    cases ended with
    | returned changed ran =>
      simp only [Operation.run, returns_map, Reply.record.injEq] at ran
      obtain ⟨result, ran, rfl⟩ := ran
      obtain ⟨traceId, identity, rfl, -, rfl⟩ := newTaskExecution_ok made
      obtain ⟨-, ⟨id, keyed, found, same⟩ | ⟨rfl, added⟩⟩ := create_record_cases ran
      · obtain ⟨store, shows, sound⟩ := inv.shows
        cases changed.shows.symm.trans shows
        obtain ⟨stored, again, task⟩ := sound.keyed keyed
        cases found.symm.trans again
        exact ⟨(changed.seen_of_stored ((same.get id).trans found)).1, task⟩
      · exact ⟨(changed.seen_of_stored (by rw [added.get, if_pos rfl])).1, rfl⟩

theorem World.Task.shaped {platform : Platform} {record : Record} (inv : Inv platform world) (task : world.Task record) :
    Shaped record := by
  have kind : record.field "kind" = .str "TaskExecution" := by simpa [isTask] using task.2
  obtain ⟨⟨current, ⟨store, shows, found⟩, evolved⟩, taskRecord⟩ := task
  obtain ⟨_, again, sound⟩ := inv.shows
  cases shows.symm.trans again
  have shaped := sound.shaped found ((isTask_evolves evolved).trans taskRecord)
  have same (field : String) (fixed : field ∈ kindIdentityFields (.str "TaskExecution")) :
      current.field field = record.field field :=
    Dict.field_congr (evolved.identity field (List.mem_append_right _ (kind ▸ fixed)))
  unfold Shaped at shaped ⊢
  rwa [same _ (by decide), same _ (by decide)] at shaped

theorem workflowId_of_task {platform : Platform} {record : Record} {workflowId : String} (inv : Inv platform world)
    (task : world.Task record) (owned : workflowExecutionId record = some workflowId) :
    record.field "workflowExecutionId" = .str workflowId := by
  obtain ⟨⟨other, named⟩, -⟩ := task.shaped inv
  have kind : record.field "kind" = .str "TaskExecution" := by simpa [isTask] using task.2
  simp [workflowExecutionId, kind, named, Json.asString?] at owned
  rw [named, owned]

theorem World.Succeeded.attempt {platform : Platform} {workflowId id : String} {ref : ResourceRef} {store : Store}
    (succeeded : world.Succeeded workflowId ref id) (inv : Inv platform world) (shows : world.Shows store) :
    SucceededAttempt store workflowId ref id := by
  obtain ⟨record, task, owned, named, status, rfl⟩ := succeeded
  obtain ⟨_, again, found⟩ := task.1.terminal (by rw [status]; rfl)
  cases shows.symm.trans again
  exact ⟨record, found, task.2, workflowId_of_task inv task owned, named, status⟩

variable {ready : ReadyTask}

theorem firstAttempt_ok {scheduler : Scheduler} {new : NewAttempt}
    (made : firstAttempt scheduler run ready = .ok new) :
    new.workflowExecutionId = run.workflowId ∧ new.taskRef = refRecord ready.node.taskRef ∧ new.attempt = 1 ∧
      new.dependencyTaskExecutionIds = ready.dependencyIds.map .str := by
  simp only [firstAttempt, Result.bind_eq_ok, Result.pure_eq_ok] at made
  obtain ⟨_, -, rfl⟩ := made
  exact ⟨rfl, rfl, rfl, rfl⟩

abbrev Scheduling (plan : TaskDagPlan) (workflowExecution : Record) (scheduler : Scheduler) (run : Reconciliation)
    (ready : ReadyTask) (world : World) : Prop :=
  Validated plan workflowExecution run world ∧ Readied scheduler run ready world

theorem persistent_scheduling (scheduler : Scheduler) :
    setting.Persistent (Scheduling plan workflowExecution scheduler run ready) :=
  Persistent.and (persistent_validated plan workflowExecution run) (persistent_readied scheduler run ready)

theorem triple_createAttempt {scheduler : Scheduler} (same : scheduler.platform = setting.platform)
    (job : setting.jobs setting.thread = .reconcile maxAttempts positive plan workflowExecution) :
    setting.Triple (Scheduling plan workflowExecution scheduler run ready) (createAttempt scheduler run ready)
      (returns fun created world => world.Task created) := by
  have persistent : setting.Persistent (Scheduling plan workflowExecution scheduler run ready) :=
    persistent_scheduling scheduler
  refine Triple.bind_returns persistent triple_check fun new => ?_
  rw [same]
  have both := Persistent.and persistent (persistent_const (firstAttempt scheduler run ready = .ok new))
  refine triple_create (Persistent.stable both) job ?_
  rintro world inv ⟨⟨validated, readied⟩, made⟩
  obtain ⟨workflow, ref, number, dependencies⟩ := firstAttempt_ok made
  rw [workflow, ref, number, dependencies]
  refine ⟨validated.named, fun store shows => .first (validated.plan ▸ readied.planned) rfl rfl ?_⟩
  exact readied.succeeded.imp fun _ _ succeeded => succeeded.attempt inv shows

theorem triple_requireTask {latest : Record} (done : isTerminal (statusOf latest) = true) :
    setting.Triple (fun world => world.Task latest) (requireTask (idOf latest))
      (returns fun previous _ => previous = latest) := by
  refine Triple.bind (@triple_get_at setting _ (idOf latest) (fun record _ => record = latest)
    (Persistent.stable (persistent_task latest)) ?_) (fun found => ?_) fun _ _ _ _ same => by cases same
  · exact fun world record _ task stored _ => stored.unique (task.1.terminal done)
  · cases found with
    | none => exact triple_fails
    | some record =>
      dsimp only
      split
      · refine triple_ret fun world known previous same => ?_
        cases same
        exact known.2 _ rfl
      · exact triple_fails

theorem item_ok {fields : Record} {key : String} {value : Json} (found : item fields key = .ok value) :
    fields.field key = value := by
  unfold item at found
  split at found
  · rename_i stored
    cases found
    exact Dict.field_of_get? stored
  · cases found

theorem asDict_ok {value : Json} {fields : Record} (converted : asDict value = .ok fields) : value = .obj fields := by
  cases value <;> simp [asDict, Json.asRecord?] at converted
  rw [converted]

theorem asInt_ok {value : Json} {number : Int} (converted : asInt value = .ok number) : value = .int number := by
  cases value <;> simp [asInt] at converted
  rw [converted]

theorem attemptNumber_ok {record : Record} {number : Int} (read : attemptNumber record = .ok number) :
    record.field "attempt" = .int number := by
  simp only [attemptNumber, Result.bind_eq_ok] at read
  obtain ⟨value, found, converted⟩ := read
  rw [item_ok found, asInt_ok converted]

theorem retryOf_ok {platform : Platform} {previous : Record} {id newId timestamp : String} {new : NewAttempt}
    (shaped : Shaped previous) (made : retryOf platform previous id newId timestamp = .ok new) :
    previous.field "workflowExecutionId" = .str new.workflowExecutionId ∧ previous.field "taskRef" = .obj new.taskRef ∧
      previous.field "dependencyTaskExecutionIds" = .arr new.dependencyTaskExecutionIds ∧
      ∃ number, previous.field "attempt" = .int number ∧ new.attempt = number + 1 := by
  obtain ⟨⟨workflowId, named⟩, ids, listed⟩ := shaped
  simp only [retryOf, Result.bind_eq_ok, Result.pure_eq_ok] at made
  obtain ⟨_, -, _, -, _, -, _, -, workflow, foundWorkflow, _, foundRef, taskRef, converted, _, foundNumber, number, read,
    dependencies, iterated, rfl⟩ := made
  have workflow_eq : workflow = .str workflowId := (item_ok foundWorkflow).symm.trans named
  have stored : previous.get? "dependencyTaskExecutionIds" = some (.arr ids) := Dict.get?_of_field listed (by simp)
  rw [stored] at iterated
  cases iterated
  refine ⟨?_, (item_ok foundRef).trans (asDict_ok converted), listed, number, (item_ok foundNumber).trans (asInt_ok read),
    rfl⟩
  rw [named, workflow_eq]
  rfl

theorem retryIsReady_ok {scheduler : Scheduler} {latest : Record} {timestamp : String}
    (readied : isReady scheduler (some latest) timestamp = .ok true)
    (other : ¬(statusOf latest = .str "PENDING" ∨ statusOf latest = .str "RUNNING")) :
    isRecoverableFailure latest = true ∧ ∃ number, attemptNumber latest = .ok number ∧ number < scheduler.maxAttempts := by
  have idle : ¬(statusOf latest = .str "PENDING" ∨ hasPendingDispatch latest = true) := by
    rintro (pending | pending)
    · exact other (.inl pending)
    · simp only [hasPendingDispatch, decide_eq_true_eq] at pending
      exact other (.inr pending.1)
  simp only [isReady, if_neg idle, retryIsReady] at readied
  by_cases failed : isRecoverableFailure latest = true
  · simp only [failed, ↓reduceIte, Result.bind_eq_ok] at readied
    obtain ⟨number, read, readied⟩ := readied
    refine ⟨failed, number, read, ?_⟩
    by_contra exhausted
    simp [exhausted] at readied
  · simp [failed] at readied

theorem triple_retryAttempt {scheduler : Scheduler} (same : scheduler.platform = setting.platform)
    (bound : scheduler.maxAttempts = maxAttempts)
    (job : setting.jobs setting.thread = .reconcile maxAttempts positive plan workflowExecution) {latest : Record}
    (last : ready.latest = some latest)
    (other : ¬(statusOf latest = .str "PENDING" ∨ statusOf latest = .str "RUNNING")) :
    setting.Triple (Scheduling plan workflowExecution scheduler run ready) (retryAttempt scheduler run ready latest)
      (returns fun created world => world.Task created) := by
  have persistent : setting.Persistent (Scheduling plan workflowExecution scheduler run ready) :=
    persistent_scheduling scheduler
  refine Triple.bind_returns persistent triple_check fun number => ?_
  by_cases failed : isRecoverableFailure latest = true
  · have done : isTerminal (statusOf latest) = true := by
      have both := failed
      simp only [isRecoverableFailure, decide_eq_true_eq] at both
      rw [both.1]
      rfl
    have reading := Persistent.and persistent (persistent_const (attemptNumber latest = .ok number))
    rw [same]
    refine Triple.bind_returns reading
      (Triple.weaken (triple_requireTask done) (fun world known => (known.1.2.latest latest last).1)) fun previous => ?_
    have required := Persistent.and reading (persistent_const (previous = latest))
    refine Triple.bind_returns required triple_check fun new => ?_
    have both := Persistent.and required (persistent_const (retryOf setting.platform previous (idOf latest)
      (taskExecutionId scheduler run.workflowId ready.node.taskRef (number + 1)) run.timestamp = .ok new))
    refine triple_create (Persistent.stable both) job ?_
    rintro world inv ⟨⟨⟨⟨validated, readied⟩, read⟩, rfl⟩, made⟩
    obtain ⟨task, owned, checked⟩ := readied.latest previous last
    obtain ⟨workflow, ref, dependencies, earlier, named, next⟩ := retryOf_ok (task.shaped inv) made
    have workflow_eq : new.workflowExecutionId = run.workflowId := by
      have known := (workflowId_of_task inv task owned).symm.trans workflow
      simpa using known.symm
    have read_eq : earlier = number := by
      have known := (attemptNumber_ok read).symm.trans named
      simpa using known.symm
    obtain ⟨-, counted, again, bounded⟩ := retryIsReady_ok checked other
    cases read.symm.trans again
    refine ⟨workflow_eq ▸ validated.named, fun store shows => ?_⟩
    rw [next, read_eq]
    obtain ⟨_, shown, found⟩ := task.1.terminal done
    cases shows.symm.trans shown
    exact .retry (bound ▸ bounded) ⟨idOf previous, previous, found, task.2, workflow, ref, read_eq ▸ named, dependencies,
      failed⟩
  · intro world known
    exact absurd (retryIsReady_ok (known.1.2.latest latest last).2.2 other).1 failed

theorem triple_attemptFor {scheduler : Scheduler} (same : scheduler.platform = setting.platform)
    (bound : scheduler.maxAttempts = maxAttempts)
    (job : setting.jobs setting.thread = .reconcile maxAttempts positive plan workflowExecution) :
    setting.Triple (Scheduling plan workflowExecution scheduler run ready) (attemptFor scheduler run ready)
      (returns fun attempt world => world.Task attempt) := by
  unfold attemptFor
  cases last : ready.latest with
  | none => exact triple_createAttempt same job
  | some latest =>
    dsimp only
    split
    · refine triple_ret fun world known attempt same => ?_
      cases same
      exact (known.2.latest _ last).1
    · rename_i other
      exact triple_retryAttempt same bound job last other

theorem triple_scheduleAttempt {scheduler : Scheduler} (same : scheduler.platform = setting.platform)
    (bound : scheduler.maxAttempts = maxAttempts)
    (job : setting.jobs setting.thread = .reconcile maxAttempts positive plan workflowExecution) :
    setting.Triple (Scheduling plan workflowExecution scheduler run ready) (scheduleAttempt scheduler run ready)
      (returns fun attempt world => world.Task attempt) := by
  have persistent : setting.Persistent (Scheduling plan workflowExecution scheduler run ready) :=
    persistent_scheduling scheduler
  refine Triple.bind_returns persistent (triple_attemptFor same bound job) fun attempt => ?_
  have both := Persistent.and persistent (persistent_task attempt)
  refine Triple.bind_kept both (keeps_appendTaskExecutionId both _ _ _) fun _ => ?_
  rw [same]
  refine Triple.bind_kept both (keeps_emit both _ _ _ _) fun _ => ?_
  refine triple_gives fun world known => ?_
  exact known.2

end Creation

section Reconcile

variable {scheduler : Scheduler}

theorem keeps_recoverRun (same : scheduler.platform = setting.platform) :
    setting.Keeps (Validated plan workflowExecution run) (recoverRun scheduler run) := by
  have persistent : setting.Persistent (Validated plan workflowExecution run) := persistent_validated plan _ run
  refine Keeps.bind persistent (keeps_recoverPendingApprovalRequests persistent _ _) fun _ => ?_
  refine Keeps.bind persistent (keeps_recoverApprovedTaskWakeups persistent _ _) fun _ => ?_
  refine Keeps.bind persistent (keeps_failRejectedApprovalWaits same persistent _ _) fun _ => ?_
  refine Keeps.bind persistent (keeps_ensureResolvedTaskPlan persistent fun _ known => known.workflow) fun _ => ?_
  exact keeps_repairAttemptEvidence same persistent _ _

theorem keeps_collect {α β : Type} {fact : World → Prop} {body : α → Prog β} {items : List α}
    (persistent : setting.Persistent fact) (each : ∀ item ∈ items, setting.Keeps fact (body item)) :
    setting.Keeps fact (Prog.collect body items) := by
  induction items with
  | nil => exact keeps_pure
  | cons item rest ih =>
    refine Keeps.bind persistent (each item List.mem_cons_self) fun _ => ?_
    exact Keeps.bind persistent (ih fun later member => each later (List.mem_cons_of_mem _ member)) fun _ => keeps_pure

theorem keeps_runWave (same : scheduler.platform = setting.platform) (bound : scheduler.maxAttempts = maxAttempts)
    (job : setting.jobs setting.thread = .reconcile maxAttempts positive plan workflowExecution) :
    setting.Keeps (Validated plan workflowExecution run) (runWave scheduler run) := by
  have persistent : setting.Persistent (Validated plan workflowExecution run) := persistent_validated plan _ run
  refine Triple.bind_keeps persistent (triple_list run.workflowId) fun records => ?_
  have listed := Persistent.and persistent (persistent_listed run.workflowId records)
  refine Triple.bind_keeps listed triple_check fun readied => ?_
  have computed := Persistent.and listed (persistent_const (readyTasks scheduler run records = .ok readied))
  have scheduled := @triple_collect setting _ _ _ (scheduleAttempt scheduler run) readied
    (fun attempt world => world.Task attempt) computed (fun attempt => persistent_task attempt)
    fun ready member => (triple_scheduleAttempt same bound job).weaken
      (fun world known => ⟨known.1.1, readyTasks_sound known.1.2 known.2 ready member⟩)
  refine Triple.bind_keeps computed scheduled fun attempts => ?_
  have tasks : setting.Persistent fun world => ∀ attempt ∈ attempts, world.Task attempt :=
    persistent_of_grows fun grows known attempt member => grows.task (known attempt member)
  have both := Persistent.and computed tasks
  refine Keeps.bind both (keeps_forEach both fun attempt member =>
    (keeps_advance same).mono fun world known => known.2 attempt member) fun _ => ?_
  exact Keeps.bind both (keeps_collect both fun _ _ => (triple_get _).keeps) fun _ => keeps_pure

theorem keeps_readTimestamp {fact : World → Prop} (persistent : setting.Persistent fact) :
    setting.Keeps fact (readTimestamp scheduler) := by
  refine Keeps.bind persistent (keeps_ask persistent fun _ _ _ => trivial) fun now => ?_
  split
  · exact keeps_pure
  · exact keeps_fail

theorem keeps_reconcile (same : scheduler.platform = setting.platform) (bound : scheduler.maxAttempts = maxAttempts)
    (job : setting.jobs setting.thread = .reconcile maxAttempts positive plan workflowExecution) :
    setting.Keeps (fun _ => True) (reconcile scheduler plan workflowExecution) := by
  have persistent : setting.Persistent fun _ => True := persistent_const True
  refine Keeps.bind persistent (keeps_readTimestamp persistent) fun timestamp => ?_
  refine Triple.bind_keeps persistent triple_validateInputs fun run => ?_
  have validated : setting.Persistent (Validated plan workflowExecution run) := persistent_validated plan _ run
  refine Keeps.mono ?_ fun world known => known.2
  exact Keeps.bind validated (keeps_recoverRun same) fun _ => keeps_runWave same bound job

theorem keeps_job : setting.Keeps (fun _ => True) ((setting.jobs setting.thread).program setting.platform) := by
  cases job : setting.jobs setting.thread with
  | reconcile maxAttempts positive plan workflowExecution =>
    exact @keeps_reconcile setting _ _ _ _ ⟨setting.platform, maxAttempts, positive⟩ rfl rfl job
  | decide asked =>
    have persistent : setting.Persistent fun _ => True := persistent_const True
    exact Keeps.bind persistent (keeps_decide job) fun _ => keeps_pure

end Reconcile

end Aep.WorkflowScheduler
