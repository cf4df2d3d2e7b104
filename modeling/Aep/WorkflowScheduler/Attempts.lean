import Aep.WorkflowScheduler.Runs

namespace Aep.WorkflowScheduler

open RuntimeStore

variable {platform : Platform} {jobs : Nat → Job} {faults : Prop} {thread : Nat} {world next : World}
  {before after : Store}

section Numbering

structure AttemptOf (record : Record) (workflowId : String) (taskRef : Json) (number : Int) : Prop where
  task : isTask record = true
  workflow : record.field "workflowExecutionId" = .str workflowId
  ref : record.field "taskRef" = taskRef
  number : record.field "attempt" = .int number

def Reconciles (jobs : Nat → Job) (workflowId : String) (plan : TaskDagPlan) (maxAttempts : Int) : Prop :=
  ∃ i positive workflowExecution, jobs i = .reconcile maxAttempts positive plan workflowExecution ∧
    workflowExecution.field "id" = .str workflowId

/-- An attempt that a reconciliation created under its key, for a reason that still holds. -/
structure Founded (jobs : Nat → Job) (store : Store) (id : String) (record : Record) (workflowId : String)
    (taskRef : Record) (number : Int) : Prop where
  attempt : AttemptOf record workflowId (.obj taskRef) number
  positive : 1 ≤ number
  keyed : ∃ identity, taskIdentity taskRef = .ok identity ∧
    store.deterministicKeys.get? (deterministicKey workflowId identity number) = some id
  justified : ∃ plan maxAttempts, Reconciles jobs workflowId plan maxAttempts ∧
    Justified store plan maxAttempts workflowId (.obj taskRef) (record.field "dependencyTaskExecutionIds") number

def AllFounded (jobs : Nat → Job) (store : Store) : Prop :=
  ∀ id record, store.get id = some record → isTask record = true →
    ∃ workflowId taskRef number, Founded jobs store id record workflowId taskRef number

theorem SucceededAttempt.evolves {workflowId id : String} {ref : ResourceRef}
    (succeeded : SucceededAttempt before workflowId ref id) (evolves : before.Evolves after) :
    SucceededAttempt after workflowId ref id := by
  obtain ⟨record, found, task, workflow, named, status⟩ := succeeded
  obtain ⟨later, stored, evolved⟩ := evolves id record found
  have done : isTerminal (record.field "status") = true := by
    rw [show record.field "status" = .str "SUCCEEDED" from status]
    rfl
  have same := evolved.terminal done
  subst same
  exact ⟨later, stored, task, workflow, named, status⟩

theorem isTerminal_of_recoverable {record : Record} (failed : isRecoverableFailure record = true) :
    isTerminal (record.field "status") = true := by
  simp only [isRecoverableFailure, decide_eq_true_eq] at failed
  rw [show record.field "status" = .str "FAILED" from failed.1]
  rfl

theorem RecoverableAttempt.evolves {workflowId : String} {taskRef dependencies : Json} {number : Int}
    (recoverable : RecoverableAttempt before workflowId taskRef dependencies number) (evolves : before.Evolves after) :
    RecoverableAttempt after workflowId taskRef dependencies number := by
  obtain ⟨id, record, found, task, workflow, named, numbered, same, failed⟩ := recoverable
  obtain ⟨later, stored, evolved⟩ := evolves id record found
  have kept := evolved.terminal (isTerminal_of_recoverable failed)
  subst kept
  exact ⟨id, later, stored, task, workflow, named, numbered, same, failed⟩

theorem Justified.evolves {plan : TaskDagPlan} {maxAttempts number : Int} {workflowId : String}
    {taskRef dependencies : Json} (justified : Justified before plan maxAttempts workflowId taskRef dependencies number)
    (evolves : before.Evolves after) : Justified after plan maxAttempts workflowId taskRef dependencies number := by
  cases justified with
  | first planned named listed succeeded =>
    exact .first planned named listed (succeeded.imp fun _ _ attempt => attempt.evolves evolves)
  | retry bounded failed => exact .retry bounded (failed.evolves evolves)

theorem Founded.evolves {id workflowId : String} {old new taskRef : Record} {number : Int}
    (founded : Founded jobs before id old workflowId taskRef number) (found : before.get id = some old)
    (stored : after.get id = some new) (evolves : before.Evolves after)
    (kept : ∀ key id, before.deterministicKeys.get? key = some id → after.deterministicKeys.get? key = some id) :
    Founded jobs after id new workflowId taskRef number := by
  obtain ⟨attempt, positive, ⟨identity, named, keyed⟩, plan, maxAttempts, reconciles, justified⟩ := founded
  have task := attempt.task
  have same (field : String) (fixed : field ∈ kindIdentityFields (.str "TaskExecution")) :
      new.field field = old.field field := identity_of_evolves evolves found stored task fixed
  refine ⟨⟨?_, ?_, ?_, ?_⟩, positive, ⟨identity, named, kept _ _ keyed⟩, plan, maxAttempts, reconciles, ?_⟩
  · obtain ⟨record, again, taskNew⟩ := task_of_evolves evolves found task
    cases stored.symm.trans again
    exact taskNew
  · rw [same _ (by decide), attempt.workflow]
  · rw [same _ (by decide), attempt.ref]
  · rw [same _ (by decide), attempt.number]
  · rw [same "dependencyTaskExecutionIds" (by decide)]
    exact justified.evolves evolves

theorem AllFounded.positive {store : Store} {plan : TaskDagPlan} {maxAttempts number : Int} {workflowId : String}
    {taskRef dependencies : Json} (founded : AllFounded jobs store)
    (justified : Justified store plan maxAttempts workflowId taskRef dependencies number) : 1 ≤ number := by
  cases justified with
  | first => exact le_refl 1
  | @retry last _ failed =>
    obtain ⟨id, record, found, task, -, -, numbered, -⟩ := failed
    obtain ⟨_, _, known, founding⟩ := founded id record found task
    have same : known = last := by simpa using founding.attempt.number.symm.trans numbered
    have positive := founding.positive
    omega

theorem Changed.allFounded (changed : Changed platform jobs thread world next before after)
    (founded : AllFounded jobs before) : AllFounded jobs after := by
  intro id record found task
  cases earlier : life before id with
  | some attempt =>
    obtain ⟨old, foundOld, taskOld⟩ := record_of_life earlier
    obtain ⟨workflowId, taskRef, number, was⟩ := founded id old foundOld taskOld
    exact ⟨workflowId, taskRef, number, was.evolves foundOld found changed.evolves changed.keys.kept⟩
  | none =>
    have lives : life after id = some (lifeOf record) := by rw [life_found found, if_pos task]
    cases changed.moved with
    | same same => simp [same, earlier] at lives
    | created new may absent stored keyed same =>
      rw [same] at lives
      split at lives
      · rename_i here
        subst here
        cases found.symm.trans stored
        obtain ⟨maxAttempts, positive, plan, workflowExecution, workflowId, taskRef, identity, number, job, workflow, named,
          ref, identified, numbered, rfl, justified⟩ := may.planned
        have earlier := justified before changed.shows
        exact ⟨workflowId, taskRef, number, ⟨task, named, ref, numbered⟩, founded.positive earlier,
          ⟨identity, identified, keyed⟩, plan, maxAttempts, ⟨thread, positive, workflowExecution, job, workflow⟩,
          earlier.evolves changed.evolves⟩
      · simp [earlier] at lives
    | stepped _ known _ _ _ same =>
      rw [same] at lives
      split at lives
      · rename_i here
        subst here
        simp [earlier] at known
      · simp [earlier] at lives

theorem Foreign.allFounded (foreign : Foreign platform before after) (founded : AllFounded jobs before) :
    AllFounded jobs after := by
  intro id record found task
  have lives : WorkflowScheduler.life before id = some (lifeOf record) := by
    rw [← foreign.life, life_found found, if_pos task]
  obtain ⟨old, foundOld, taskOld⟩ := record_of_life lives
  obtain ⟨workflowId, taskRef, number, was⟩ := founded id old foundOld taskOld
  exact ⟨workflowId, taskRef, number, was.evolves foundOld found foreign.evolves foreign.keys⟩

variable {store : Store}

theorem AllFounded.unique (founded : AllFounded jobs store) {first second workflowId : String} {record other : Record}
    {taskRef : Json} {number : Int} (found : store.get first = some record) (foundOther : store.get second = some other)
    (attempt : AttemptOf record workflowId taskRef number) (again : AttemptOf other workflowId taskRef number) :
    first = second := by
  obtain ⟨workflowA, refA, numberA, founding⟩ := founded first record found attempt.task
  obtain ⟨workflowB, refB, numberB, foundingB⟩ := founded second other foundOther again.task
  have workflow : workflowA = workflowB := by
    have same := founding.attempt.workflow.symm.trans (attempt.workflow.trans
      (again.workflow.symm.trans foundingB.attempt.workflow))
    simpa using same
  have ref : refA = refB := by
    have same := founding.attempt.ref.symm.trans (attempt.ref.trans (again.ref.symm.trans foundingB.attempt.ref))
    simpa using same
  have numbers : numberA = numberB := by
    have same := founding.attempt.number.symm.trans (attempt.number.trans
      (again.number.symm.trans foundingB.attempt.number))
    simpa using same
  subst workflow ref numbers
  obtain ⟨identity, named, keyed⟩ := founding.keyed
  obtain ⟨identityB, namedB, keyedB⟩ := foundingB.keyed
  cases named.symm.trans namedB
  exact Option.some.inj (keyed.symm.trans keyedB)

/-- The attempts of the Tasks, as an uninterrupted scheduler would number and order them. -/
structure Numbered (jobs : Nat → Job) (store : Store) : Prop where
  unique : ∀ {first second workflowId record other taskRef number}, store.get first = some record →
    store.get second = some other → AttemptOf record workflowId taskRef number →
    AttemptOf other workflowId taskRef number → first = second
  bounded : ∀ {id record workflowId taskRef number}, store.get id = some record →
    AttemptOf record workflowId taskRef number →
    1 ≤ number ∧ ∃ plan maxAttempts, Reconciles jobs workflowId plan maxAttempts ∧ number ≤ maxAttempts
  earlier : ∀ {id record workflowId taskRef number}, store.get id = some record →
    AttemptOf record workflowId taskRef number → ∀ previous, 1 ≤ previous → previous < number →
    ∃ other attempt, store.get other = some attempt ∧ AttemptOf attempt workflowId taskRef previous
  failed : ∀ {first second workflowId record other taskRef number later}, store.get first = some record →
    store.get second = some other → AttemptOf record workflowId taskRef number →
    AttemptOf other workflowId taskRef later → number < later → isRecoverableFailure record = true
  dependencies : ∀ {id record workflowId taskRef number}, store.get id = some record →
    AttemptOf record workflowId taskRef number →
    ∃ plan maxAttempts node ids, Reconciles jobs workflowId plan maxAttempts ∧ node ∈ plan.nodes ∧
      taskRef = .obj (refRecord node.taskRef) ∧ record.field "dependencyTaskExecutionIds" = .arr (ids.map .str) ∧
      List.Forall₂ (SucceededAttempt store workflowId) node.dependencies ids

theorem AllFounded.justified (founded : AllFounded jobs store) {id workflowId : String} {record : Record} {taskRef : Json}
    {number : Int} (found : store.get id = some record) (attempt : AttemptOf record workflowId taskRef number) :
    ∃ plan maxAttempts, Reconciles jobs workflowId plan maxAttempts ∧
      Justified store plan maxAttempts workflowId taskRef (record.field "dependencyTaskExecutionIds") number := by
  obtain ⟨workflowA, refA, numberA, founding⟩ := founded id record found attempt.task
  obtain ⟨plan, maxAttempts, reconciles, justified⟩ := founding.justified
  have workflow : workflowA = workflowId := by simpa using founding.attempt.workflow.symm.trans attempt.workflow
  have numbers : numberA = number := by simpa using founding.attempt.number.symm.trans attempt.number
  have ref : Json.obj refA = taskRef := founding.attempt.ref.symm.trans attempt.ref
  subst workflow numbers ref
  exact ⟨plan, maxAttempts, reconciles, justified⟩

theorem AllFounded.chain (founded : AllFounded jobs store) {workflowId : String} {taskRef : Json} (count : Nat) :
    ∀ {id : String} {record : Record}, store.get id = some record → AttemptOf record workflowId taskRef (count + 1) →
      (∀ previous : Int, 1 ≤ previous → previous < count + 1 → ∃ other attempt, store.get other = some attempt ∧
        AttemptOf attempt workflowId taskRef previous ∧ isRecoverableFailure attempt = true) ∧
      ∃ plan maxAttempts node ids, Reconciles jobs workflowId plan maxAttempts ∧ node ∈ plan.nodes ∧
        taskRef = .obj (refRecord node.taskRef) ∧ record.field "dependencyTaskExecutionIds" = .arr (ids.map .str) ∧
        List.Forall₂ (SucceededAttempt store workflowId) node.dependencies ids := by
  induction count with
  | zero =>
    intro id record found attempt
    refine ⟨fun previous positive before => by omega, ?_⟩
    obtain ⟨plan, maxAttempts, reconciles, justified⟩ := founded.justified found attempt
    generalize numbered : ((0 : Nat) : Int) + 1 = number at justified
    cases justified with
    | first planned named listed succeeded =>
      exact ⟨plan, maxAttempts, _, _, reconciles, planned, named, listed, succeeded⟩
    | @retry last _ failed =>
      obtain ⟨other, previous, foundPrevious, task, -, -, earlier, -⟩ := failed
      obtain ⟨_, _, known, founding⟩ := founded other previous foundPrevious task
      have same : known = last := by simpa using founding.attempt.number.symm.trans earlier
      have positive := founding.positive
      omega
  | succ count ih =>
    intro id record found attempt
    obtain ⟨plan, maxAttempts, reconciles, justified⟩ := founded.justified found attempt
    generalize numbered : ((count + 1 : Nat) : Int) + 1 = number at justified
    cases justified with
    | first => omega
    | @retry last _ failed =>
      obtain ⟨other, previous, foundPrevious, task, workflow, named, earlier, same, recoverable⟩ := failed
      have last_eq : last = count + 1 := by omega
      subst last_eq
      have retried : AttemptOf previous workflowId taskRef (count + 1) := ⟨task, workflow, named, earlier⟩
      obtain ⟨chain, plan, maxAttempts, node, ids, reconciles, planned, ref, listed, succeeded⟩ := ih foundPrevious retried
      refine ⟨fun wanted positive before => ?_, plan, maxAttempts, node, ids, reconciles, planned, ref, same ▸ listed,
        succeeded⟩
      by_cases here : wanted = count + 1
      · subst here
        exact ⟨other, previous, foundPrevious, retried, recoverable⟩
      · exact chain wanted positive (by omega)

theorem AllFounded.ordered (founded : AllFounded jobs store) {id workflowId : String} {record : Record} {taskRef : Json}
    {number : Int} (found : store.get id = some record) (attempt : AttemptOf record workflowId taskRef number) :
    1 ≤ number ∧
      (∀ previous, 1 ≤ previous → previous < number → ∃ other attempt, store.get other = some attempt ∧
        AttemptOf attempt workflowId taskRef previous ∧ isRecoverableFailure attempt = true) ∧
      ∃ plan maxAttempts node ids, Reconciles jobs workflowId plan maxAttempts ∧ node ∈ plan.nodes ∧
        taskRef = .obj (refRecord node.taskRef) ∧ record.field "dependencyTaskExecutionIds" = .arr (ids.map .str) ∧
        List.Forall₂ (SucceededAttempt store workflowId) node.dependencies ids := by
  obtain ⟨_, _, _, justified⟩ := founded.justified found attempt
  have positive := founded.positive justified
  obtain ⟨count, rfl⟩ : ∃ count : Nat, number = count + 1 := ⟨(number - 1).toNat, by omega⟩
  exact ⟨positive, founded.chain count found attempt⟩

theorem AllFounded.numbered (founded : AllFounded jobs store) : Numbered jobs store := by
  refine ⟨founded.unique, fun found attempt => ⟨(founded.ordered found attempt).1, ?_⟩, ?_, ?_,
    fun found attempt => (founded.ordered found attempt).2.2⟩
  · obtain ⟨plan, maxAttempts, reconciles, justified⟩ := founded.justified found attempt
    refine ⟨plan, maxAttempts, reconciles, ?_⟩
    cases justified with
    | first =>
      obtain ⟨_, positive, _, _, _⟩ := reconciles
      exact positive
    | retry bounded => exact bounded
  · intro id record workflowId taskRef number found attempt previous positive before
    obtain ⟨other, earlier, stored, its, -⟩ := (founded.ordered found attempt).2.1 previous positive before
    exact ⟨other, earlier, stored, its⟩
  · intro first second workflowId record other taskRef number later found foundOther attempt retried before
    have positive := (founded.ordered found attempt).1
    obtain ⟨third, earlier, stored, its, failed⟩ := (founded.ordered foundOther retried).2.1 number positive before
    have same := founded.unique found stored attempt its
    subst same
    cases found.symm.trans stored
    exact failed

/-- In every state of every interleaving the attempts of a Task are numbered without gaps, each after a recoverable
    failure of the one before it, and only where the Task's dependencies have succeeded. -/
theorem attempts_numbered {durable : Durable} {now : Machine.Config Calls World PyError (List Record)}
    (shows : durable.visible = .ok store) (unscheduled : Unscheduled platform store)
    (reached : Run jobs platform faults durable now) : ∃ seen, now.shared.Shows seen ∧ Numbered jobs seen := by
  have none : AllFounded jobs store := fun id record found task => by
    rw [task_none (unscheduled.tasks id) found] at task
    cases task
  obtain ⟨seen, showing, founded⟩ := store_invariant shows unscheduled none
    (fun _ changed founded => changed.allFounded founded) (fun _ _ foreign founded => foreign.allFounded founded) reached
  exact ⟨seen, showing, founded.numbered⟩

theorem attempts_numbered_sample : ∃ now, Run sampleJobs samplePlatform False { memory := sampleStore } now ∧
    sampleStatuses now.shared = some ["SUCCEEDED", "SUCCEEDED"] ∧
    ∃ seen, now.shared.Shows seen ∧ Numbered sampleJobs seen := by
  obtain ⟨now, reached, both⟩ := reaches_secondWave
  exact ⟨now, reached, both, attempts_numbered rfl sample_unscheduled reached⟩

end Numbering

section Trail

/-- An ExecutionEvent is stored under the key of an attempt's event. -/
def Audited (platform : Platform) (store : Store) (id : String) (event : TaskEvent) : Prop :=
  ∃ stored, store.deterministicKeys.get? (eventKey platform id event) = some stored ∧
    OfKind store stored "ExecutionEvent"

/-- The events that are there in every state: of its start once an attempt has started, and of its wait while it waits. -/
structure Trail (platform : Platform) (store : Store) : Prop where
  events : ∀ id event stored, store.deterministicKeys.get? (eventKey platform id event) = some stored →
    OfKind store stored "ExecutionEvent"
  started : ∀ id attempt, life store id = some attempt → attempt.status ≠ .str "PENDING" →
    Audited platform store id .started
  waiting : ∀ id attempt, life store id = some attempt → attempt.status = .str "AWAITING_APPROVAL" →
    Audited platform store id .awaitingApproval

theorem OfKind.evolves {id kind : String} (stored : OfKind before id kind) (evolves : before.Evolves after) :
    OfKind after id kind := by
  obtain ⟨record, found, named⟩ := stored
  obtain ⟨later, found, evolved⟩ := evolves id record found
  exact ⟨later, found, (evolved.field_eq (by decide)).trans named⟩

theorem Audited.evolves {id : String} {event : TaskEvent} (audited : Audited platform before id event)
    (evolves : before.Evolves after)
    (kept : ∀ key id, before.deterministicKeys.get? key = some id → after.deterministicKeys.get? key = some id) :
    Audited platform after id event := by
  obtain ⟨stored, keyed, ofKind⟩ := audited
  exact ⟨stored, kept _ _ keyed, ofKind.evolves evolves⟩

theorem Changed.trail (changed : Changed platform jobs thread world next before after) (trail : Trail platform before) :
    Trail platform after := by
  have events (id : String) (event : TaskEvent) (stored : String)
      (keyed : after.deterministicKeys.get? (eventKey platform id event) = some stored) :
      OfKind after stored "ExecutionEvent" := by
    rcases changed.keys.named _ _ stored (.inr ⟨rfl, _, rfl⟩) keyed with earlier | new
    · exact (trail.events id event stored earlier).evolves changed.evolves
    · exact new
  have kept {id : String} {event : TaskEvent} (audited : Audited platform before id event) :
      Audited platform after id event := audited.evolves changed.evolves changed.keys.kept
  have fresh {id : String} {action : Life.Action} {event : TaskEvent} (traced : Traced platform after id action)
      (named : action.event = some event) : Audited platform after id event := by
    obtain ⟨stored, keyed⟩ := Option.ne_none_iff_exists'.mp (traced event named)
    exact ⟨stored, keyed, events id event stored keyed⟩
  refine ⟨events, fun id attempt lived started => ?_, fun id attempt lived waits => ?_⟩
  · cases changed.moved with
    | same same => exact kept (trail.started id attempt (same id ▸ lived) started)
    | created new _ _ _ _ same =>
      rw [same] at lived
      split at lived
      · cases lived
        exact absurd rfl started
      · exact kept (trail.started id attempt lived started)
    | @stepped moved action old new found step _ traced same =>
      rw [same] at lived
      split at lived
      · rename_i here
        subst here
        cases lived
        cases step with
        | start => exact fresh traced rfl
        | wake => exact absurd rfl started
        | claim running => exact kept (trail.started _ old found (by simp [running]))
        | record running => exact kept (trail.started _ old found (by simp [running]))
        | await running => exact kept (trail.started _ old found (by simp [running]))
        | settle running => exact kept (trail.started _ old found (by simp [running]))
        | reject waiting => exact kept (trail.started _ old found (by simp [waiting]))
        | bind waiting => exact kept (trail.started _ old found (by simp [waiting]))
      · exact kept (trail.started id attempt lived started)
  · cases changed.moved with
    | same same => exact kept (trail.waiting id attempt (same id ▸ lived) waits)
    | created new _ _ _ _ same =>
      rw [same] at lived
      split at lived
      · cases lived
        simp [Life.created] at waits
      · exact kept (trail.waiting id attempt lived waits)
    | @stepped moved action old new found step _ traced same =>
      rw [same] at lived
      split at lived
      · rename_i here
        subst here
        cases lived
        cases step with
        | await => exact fresh traced rfl
        | bind waiting => exact kept (trail.waiting _ old found waiting)
        | claim running => simp [running] at waits
        | record running => simp [running] at waits
        | settle _ _ _ terminal => rcases terminal with rfl | rfl <;> simp at waits
        | _ => simp at waits
      · exact kept (trail.waiting id attempt lived waits)

theorem Foreign.trail (foreign : Foreign platform before after) (trail : Trail platform before) :
    Trail platform after := by
  refine ⟨fun id event stored keyed => ?_, fun id attempt lived started => ?_, fun id attempt lived waits => ?_⟩
  · rw [eventKey, foreign.reserved _ (.inr ⟨id, event, rfl⟩)] at keyed
    exact (trail.events id event stored keyed).evolves foreign.evolves
  · exact (trail.started id attempt (foreign.life id ▸ lived) started).evolves foreign.evolves foreign.keys
  · exact (trail.waiting id attempt (foreign.life id ▸ lived) waits).evolves foreign.evolves foreign.keys

/-- No state of any run shows an attempt that has started, or waits for approval, without the event of that. -/
theorem transitions_audited {durable : Durable} {now : Machine.Config Calls World PyError (List Record)} {store : Store}
    (shows : durable.visible = .ok store) (unscheduled : Unscheduled platform store)
    (reached : Run jobs platform faults durable now) : ∃ seen, now.shared.Shows seen ∧ Trail platform seen := by
  have initially : Trail platform store := by
    refine ⟨fun id event stored keyed => ?_, fun id attempt lived _ => ?_, fun id attempt lived _ => ?_⟩
    · rw [eventKey, unscheduled.keys _ (.inr ⟨id, event, rfl⟩)] at keyed
      cases keyed
    · rw [unscheduled.tasks] at lived
      cases lived
    · rw [unscheduled.tasks] at lived
      cases lived
  exact store_invariant shows unscheduled initially (fun _ changed trail => changed.trail trail)
    (fun _ _ foreign trail => foreign.trail trail) reached

theorem transitions_audited_sample : ∃ now, Run sampleJobs samplePlatform False { memory := sampleStore } now ∧
    sampleStatuses now.shared = some ["SUCCEEDED", "SUCCEEDED"] ∧
    ∃ seen, now.shared.Shows seen ∧ Trail samplePlatform seen := by
  obtain ⟨now, reached, both⟩ := reaches_secondWave
  exact ⟨now, reached, both, transitions_audited rfl sample_unscheduled reached⟩

end Trail

end Aep.WorkflowScheduler
