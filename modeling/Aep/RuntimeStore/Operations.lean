import Aep.RuntimeStore.Immutability

namespace Aep.RuntimeStore

open StateAction

variable {before after : Store}

section Inversion

@[simp] theorem returns_require {objectId : String} {value : Record} :
    (require objectId).Returns before value after ↔ before.get objectId = some value ∧ after = before := by
  simp [require, and_comm]

@[simp] theorem returns_put {objectId : String} {value : Record} {result : Unit} :
    (put objectId value).Returns before result after ↔ after = before.put objectId value := by
  simp [put]

theorem create_cases {runtimeObject : Json} {deterministicKey : String} {created : Record}
    (returned : (create runtimeObject deterministicKey).Returns before created after) :
    ∃ value, copyAndValidate runtimeObject = .ok value ∧ deterministicKey ≠ "" ∧
      ((∃ id, before.deterministicKeys.get? deterministicKey = some id ∧ before.get id = some created ∧
          after = before) ∨
        (before.deterministicKeys.get? deterministicKey = none ∧ before.get (objectId value) = none ∧
          created = value ∧ after = before.insert value deterministicKey)) := by
  simp only [create, returns_bind, returns_liftExcept, returns_raiseIf, returns_read] at returned
  obtain ⟨value, _, ⟨copied, rfl⟩, -, _, ⟨named, rfl⟩, _, _, ⟨rfl, rfl⟩, returned⟩ := returned
  refine ⟨value, copied, named, ?_⟩
  split at returned
  · rename_i id keyed
    simp only [returns_some] at returned
    exact .inl ⟨id, keyed, returned⟩
  · rename_i unkeyed
    simp only [returns_bind, returns_raiseIf, returns_modify, returns_pure, ne_eq, not_not] at returned
    obtain ⟨-, _, ⟨fresh, rfl⟩, -, _, rfl, rfl, rfl⟩ := returned
    exact .inr ⟨unkeyed, fresh, rfl, rfl⟩

section Outcomes

variable {store : Store} {value stored : Record} {deterministicKey id : String}

theorem create_bound (valid : ValidObject value) (named : deterministicKey ≠ "")
    (bound : store.deterministicKeys.get? deterministicKey = some id) (found : store.get id = some stored) :
    (create (.obj value) deterministicKey).Returns store stored store := by
  simp only [create, returns_bind, returns_liftExcept, returns_raiseIf, returns_read]
  refine ⟨value, store, ⟨valid, rfl⟩, (), store, ⟨named, rfl⟩, store, store, ⟨rfl, rfl⟩, ?_⟩
  rw [bound]
  exact returns_some.mpr ⟨found, rfl⟩

theorem create_fresh (valid : ValidObject value) (named : deterministicKey ≠ "")
    (unbound : store.deterministicKeys.get? deterministicKey = none) (fresh : store.get (objectId value) = none) :
    (create (.obj value) deterministicKey).Returns store value (store.insert value deterministicKey) := by
  simp only [create, returns_bind, returns_liftExcept, returns_raiseIf, returns_read]
  refine ⟨value, store, ⟨valid, rfl⟩, (), store, ⟨named, rfl⟩, store, store, ⟨rfl, rfl⟩, ?_⟩
  rw [unbound]
  simp only [returns_bind, returns_raiseIf, returns_modify, returns_pure, ne_eq, not_not]
  exact ⟨(), store, ⟨fresh, rfl⟩, (), _, rfl, trivial, rfl⟩

theorem appendEvent_of_create {created : Record} {after : Store} (valid : ValidObject value)
    (kind : value.field "kind" = .str "ExecutionEvent")
    (returned : (create (.obj value) ("execution-event:" ++ objectId value)).Returns store created after) :
    (appendEvent (.obj value)).Returns store created after := by
  simp only [appendEvent, returns_bind, returns_liftExcept, returns_raiseIf, ne_eq, not_not]
  exact ⟨value, store, ⟨valid, rfl⟩, (), store, ⟨kind, rfl⟩, returned⟩

end Outcomes

theorem updateStatus_cases {id status clock : String} {expectedStatus updatedAt : Option String}
    {changes updated : Record}
    (returned : (updateStatus id status expectedStatus updatedAt changes clock).Returns before updated after) :
    ∃ value, before.get id = some value ∧ status ≠ "" ∧ protectedFields value changes = [] ∧
      (∀ expected ∈ expectedStatus, value.field "status" = .str expected) ∧
      ((isTerminal (value.field "status") = true ∧ value.field "status" = .str status ∧ updated = value ∧
          after = before) ∨
        (isTerminal (value.field "status") = false ∧ value.field "status" ≠ .null ∧
          updated = withStatus value changes status (orNow updatedAt clock) ∧ after = before.put id updated)) := by
  simp only [updateStatus, returns_bind, returns_raiseIf, returns_require, returns_ite, returns_raise, returns_put,
    returns_pure, not_exists, not_and, ne_eq, not_not, and_false, or_false] at returned
  obtain ⟨-, _, ⟨named, rfl⟩, value, _, ⟨found, rfl⟩, -, _, ⟨unprotected, rfl⟩, -, _, ⟨hasStatus, rfl⟩, -, _,
    ⟨expected, rfl⟩, -, _, ⟨-, rfl⟩, returned⟩ := returned
  refine ⟨value, found, named, unprotected, expected, ?_⟩
  rcases returned with ⟨done, same, rfl, rfl⟩ | ⟨live, -, _, rfl, rfl, rfl⟩
  · exact .inl ⟨done, same, rfl, rfl⟩
  · exact .inr ⟨by simpa using live, hasStatus, rfl, rfl⟩

end Inversion

section Advances

theorem create_advances {runtimeObject : Json} {deterministicKey : String} {created : Record}
    (returned : (create runtimeObject deterministicKey).Returns before created after) : before.Advances after := by
  obtain ⟨value, copied, -, ⟨-, -, -, rfl⟩ | ⟨-, fresh, -, rfl⟩⟩ := create_cases returned
  · exact .refl _
  · exact .insert (copyAndValidate_valid copied) fresh

theorem claim_advances {deterministicKey : String} {value : Json} {result : Bool × Json}
    (returned : (claim deterministicKey value).Returns before result after) : before.Advances after := by
  simp only [claim, returns_bind, returns_raiseIf, returns_read] at returned
  obtain ⟨-, _, ⟨-, rfl⟩, -, _, ⟨-, rfl⟩, _, _, ⟨rfl, rfl⟩, returned⟩ := returned
  split at returned
  · simp only [returns_pure] at returned
    exact returned.2 ▸ .refl _
  · simp only [returns_bind, returns_modify, returns_pure] at returned
    obtain ⟨-, _, rfl, -, rfl⟩ := returned
    exact .of_same_objects rfl rfl

theorem acquireLease_advances {key ownerId now expiresAt : String} {result : Bool}
    (returned : (acquireLease key ownerId now expiresAt).Returns before result after) : before.Advances after := by
  simp only [acquireLease, returns_bind, returns_read] at returned
  obtain ⟨_, _, ⟨rfl, rfl⟩, returned⟩ := returned
  split at returned
  · simp only [returns_ite, returns_bind, returns_modify, returns_pure] at returned
    rcases returned with ⟨-, -, rfl⟩ | ⟨-, -, _, rfl, -, rfl⟩
    · exact .refl _
    · exact .of_same_objects rfl rfl
  · simp only [returns_bind, returns_modify, returns_pure] at returned
    obtain ⟨-, _, rfl, -, rfl⟩ := returned
    exact .of_same_objects rfl rfl

theorem renewLease_advances {key ownerId now expiresAt : String} {result : Bool}
    (returned : (renewLease key ownerId now expiresAt).Returns before result after) : before.Advances after := by
  simp only [renewLease, returns_bind, returns_read] at returned
  obtain ⟨_, _, ⟨rfl, rfl⟩, returned⟩ := returned
  split at returned
  · simp only [returns_pure] at returned
    exact returned.2 ▸ .refl _
  · simp only [returns_bind, returns_modify, returns_pure] at returned
    obtain ⟨-, _, rfl, -, rfl⟩ := returned
    exact .of_same_objects rfl rfl

theorem releaseLease_advances {key ownerId : String} {result : Bool}
    (returned : (releaseLease key ownerId).Returns before result after) : before.Advances after := by
  simp only [releaseLease, returns_bind, returns_read] at returned
  obtain ⟨_, _, ⟨rfl, rfl⟩, returned⟩ := returned
  split at returned
  · simp only [returns_pure] at returned
    exact returned.2 ▸ .refl _
  · simp only [returns_ite, returns_bind, returns_modify, returns_pure] at returned
    rcases returned with ⟨-, -, rfl⟩ | ⟨-, -, _, rfl, -, rfl⟩
    · exact .refl _
    · exact .of_same_objects rfl rfl

theorem updateStatus_advances {id status clock : String} {expectedStatus updatedAt : Option String}
    {changes updated : Record}
    (returned : (updateStatus id status expectedStatus updatedAt changes clock).Returns before updated after) :
    before.Advances after := by
  obtain ⟨value, found, -, unprotected, -, ⟨-, -, -, rfl⟩ | ⟨live, -, rfl, rfl⟩⟩ := updateStatus_cases returned
  · exact .refl _
  · exact .put found (withStatus_evolves live unprotected)

theorem updateStatusWithLease_advances {id status leaseKey ownerId now clock : String}
    {expectedStatus updatedAt : Option String} {changes updated : Record}
    (returned : (updateStatusWithLease id status leaseKey ownerId now expectedStatus updatedAt changes clock).Returns
      before updated after) : before.Advances after := by
  simp only [updateStatusWithLease, returns_bind, returns_read, returns_raiseIf] at returned
  obtain ⟨_, _, ⟨rfl, rfl⟩, -, _, ⟨-, rfl⟩, returned⟩ := returned
  exact updateStatus_advances returned

theorem claimTaskDispatch_advances {taskExecutionId ownerId updatedAt : String} {result : Bool × Record}
    (returned : (claimTaskDispatch taskExecutionId ownerId updatedAt).Returns before result after) :
    before.Advances after := by
  simp only [claimTaskDispatch, returns_bind, returns_raiseIf, returns_require, returns_ite, returns_put,
    returns_pure, ne_eq, not_not] at returned
  obtain ⟨-, _, ⟨-, rfl⟩, value, _, ⟨found, rfl⟩, -, _, ⟨-, rfl⟩, -, _, ⟨running, rfl⟩, returned⟩ := returned
  rcases returned with ⟨-, -, rfl⟩ | ⟨-, -, _, ⟨-, rfl⟩, -, _, rfl, -, rfl⟩
  · exact .refl _
  · refine .put found (.of_managed (by rw [running]; rfl) fun field unmanaged => ?_)
    simp only [managedFields, List.mem_cons, not_or] at unmanaged
    obtain ⟨-, notUpdated, -, -, notDispatch, notOwner, -⟩ := unmanaged
    simp [Dict.get?_set, Ne.symm notUpdated, Ne.symm notDispatch, Ne.symm notOwner]

theorem wakeApprovedTask_advances {taskExecutionId approvalId updatedAt : String} {result : Record}
    (returned : (wakeApprovedTask taskExecutionId approvalId updatedAt).Returns before result after) :
    before.Advances after := by
  simp only [wakeApprovedTask, returns_bind, returns_raiseIf, returns_require, returns_ite, returns_put,
    returns_pure, ne_eq, not_not] at returned
  obtain ⟨task, _, ⟨found, rfl⟩, -, _, ⟨-, rfl⟩, returned⟩ := returned
  rcases returned with ⟨-, -, rfl⟩ | ⟨-, -, _, ⟨-, rfl⟩, ⟨-, -, rfl⟩ | ⟨waiting, -, _, rfl, -, rfl⟩⟩
  · exact .refl _
  · exact .refl _
  · refine .put found (woken_evolves ?_)
    by_cases awaiting : task.field "status" = .str "AWAITING_APPROVAL"
    · rw [awaiting]; rfl
    · rw [not_not.mp fun other => waiting ⟨awaiting, other⟩]; rfl

theorem bindApprovalRequest_advances {taskExecutionId approvalId updatedAt : String} {result : Record}
    (returned : (bindApprovalRequest taskExecutionId approvalId updatedAt).Returns before result after) :
    before.Advances after := by
  simp only [bindApprovalRequest, returns_bind, returns_raiseIf, returns_require, returns_put, returns_pure,
    ne_eq, not_or, not_not] at returned
  obtain ⟨task, _, ⟨found, rfl⟩, -, _, ⟨⟨-, awaiting⟩, rfl⟩, -, _, rfl, -, rfl⟩ := returned
  exact .put found (bound_evolves (by rw [awaiting]; rfl))

theorem createApprovalRequest_advances {approval : Json} {deterministicKey updatedAt : String}
    {expectedCurrentApprovalId : Option String} {result : Record}
    (returned : (createApprovalRequest approval deterministicKey expectedCurrentApprovalId updatedAt).Returns
      before result after) : before.Advances after := by
  simp only [createApprovalRequest, returns_atomically, returns_bind, returns_some, returns_raiseIf,
    returns_require, returns_ite, returns_put, returns_pure, ne_eq, not_or, not_not] at returned
  obtain ⟨persisted, middle, created, id, _, ⟨-, rfl⟩, task, _, ⟨found, rfl⟩, -, _, ⟨⟨-, awaiting⟩, rfl⟩,
    returned⟩ := returned
  rcases returned with ⟨-, -, rfl⟩ | ⟨-, -, _, ⟨-, rfl⟩, -, _, rfl, -, rfl⟩
  · exact create_advances created
  · exact (create_advances created).trans (.put found (bound_evolves (by rw [awaiting]; rfl)))

theorem mutateExecutionBudget_advances {workflowExecutionId taskExecutionId updatedAt clock : String}
    {mutate : Record → Record → Except PyError (Record × Record)} {result : Record × Record}
    (returned : (mutateExecutionBudget workflowExecutionId taskExecutionId mutate updatedAt clock).Returns
      before result after) : before.Advances after := by
  simp only [mutateExecutionBudget, returns_atomically, returns_bind, returns_raiseIf, returns_require,
    returns_liftExcept, returns_pure] at returned
  obtain ⟨_, _, ⟨-, rfl⟩, _, _, ⟨-, rfl⟩, -, _, ⟨-, rfl⟩, -, _, ⟨-, rfl⟩, -, _, ⟨-, rfl⟩, -, _, ⟨-, rfl⟩, -, _,
    ⟨-, rfl⟩, _, _, ⟨-, rfl⟩, _, _, workflow, _, _, task, -, rfl⟩ := returned
  exact (updateStatus_advances workflow).trans (updateStatus_advances task)

theorem appendEvent_advances {event : Json} {result : Record}
    (returned : (appendEvent event).Returns before result after) : before.Advances after := by
  simp only [appendEvent, returns_bind, returns_liftExcept, returns_raiseIf] at returned
  obtain ⟨_, _, ⟨-, rfl⟩, -, _, ⟨-, rfl⟩, created⟩ := returned
  exact create_advances created

theorem attachTask_advances {workflow result : Record} {workflowExecutionId taskExecutionId now : String}
    (found : before.get workflowExecutionId = some workflow)
    (returned : (attachTask workflow workflowExecutionId taskExecutionId now).Returns before result after) :
    before.Advances after := by
  simp only [attachTask, returns_bind, returns_raiseIf, returns_some, returns_ite, returns_put,
    returns_pure] at returned
  obtain ⟨-, _, rfl, items, _, ⟨listed, rfl⟩, returned⟩ := returned
  have managed : ∀ field ∉ managedFields,
      (Dict.setDefault workflow "taskExecutionIds" (.arr [])).get? field = workflow.get? field := by
    intro field unmanaged
    simp only [managedFields, List.mem_cons, not_or] at unmanaged
    simp [Dict.get?_setDefault, Ne.symm unmanaged.2.2.2.2.2.2.1]
  have sameStatus : (Dict.setDefault workflow "taskExecutionIds" (.arr [])).field "status" =
      workflow.field "status" := Dict.field_congr (by simp [Dict.get?_setDefault])
  rcases returned with ⟨member, -, rfl⟩ | ⟨-, -, _, ⟨-, rfl⟩, -, _, ⟨live, rfl⟩, -, _, rfl, -, rfl⟩
  · by_cases absent : workflow.get? "taskExecutionIds" = none
    · have empty : Dict.field (Dict.setDefault workflow "taskExecutionIds" (.arr [])) "taskExecutionIds" = .arr [] :=
        Dict.field_of_get? (by simp [Dict.get?_setDefault, absent])
      rw [empty] at listed
      cases listed
      cases member
    · obtain ⟨ids, present⟩ := Option.ne_none_iff_exists'.mp absent
      simp only [Dict.setDefault, present]
      exact .put found (.refl _)
  · rw [sameStatus, Bool.not_eq_true] at live
    have stored : (before.put workflowExecutionId (Dict.setDefault workflow "taskExecutionIds" (.arr []))).get
        workflowExecutionId = some (Dict.setDefault workflow "taskExecutionIds" (.arr [])) := by simp
    refine (Store.Advances.put found (.of_managed live managed)).trans (.put stored (.of_managed ?_ ?_))
    · rw [sameStatus, live]
    · intro field unmanaged
      simp only [managedFields, List.mem_cons, not_or] at unmanaged
      simp [Dict.get?_set, Ne.symm unmanaged.2.1, Ne.symm unmanaged.2.2.2.2.2.2.1]

theorem appendTaskExecutionId_advances {workflowExecutionId taskExecutionId clock : String}
    {updatedAt : Option String} {result : Record}
    (returned : (appendTaskExecutionId workflowExecutionId taskExecutionId updatedAt clock).Returns
      before result after) : before.Advances after := by
  simp only [appendTaskExecutionId, returns_bind, returns_raiseIf, returns_require] at returned
  obtain ⟨-, _, ⟨-, rfl⟩, workflow, _, ⟨found, rfl⟩, -, _, ⟨-, rfl⟩, task, _, ⟨-, rfl⟩, -, _, ⟨-, rfl⟩,
    attached⟩ := returned
  exact attachTask_advances found attached

theorem commitTaskExecutionTransition_advances {taskExecutionId status workflowExecutionId expectedStatus updatedAt
    clock : String} {event : Json} {changes result : Record}
    (returned : (commitTaskExecutionTransition taskExecutionId status workflowExecutionId event expectedStatus
      updatedAt changes clock).Returns before result after) : before.Advances after := by
  simp only [commitTaskExecutionTransition, returns_bind, returns_pure] at returned
  obtain ⟨_, _, updated, _, _, attached, _, _, appended, -, rfl⟩ := returned
  exact (updateStatus_advances updated).trans
    ((appendTaskExecutionId_advances attached).trans (appendEvent_advances appended))

theorem commitWorkflowExecutionTransition_advances {workflowExecutionId status expectedStatus updatedAt
    clock : String} {event : Json} {changes result : Record}
    (returned : (commitWorkflowExecutionTransition workflowExecutionId status event expectedStatus updatedAt changes
      clock).Returns before result after) : before.Advances after := by
  simp only [commitWorkflowExecutionTransition, returns_bind, returns_read, returns_raiseIf,
    returns_liftExcept] at returned
  obtain ⟨_, _, ⟨rfl, rfl⟩, -, _, ⟨-, rfl⟩, -, _, ⟨-, rfl⟩, _, _, appended, updated⟩ := returned
  exact (appendEvent_advances appended).trans (updateStatus_advances updated)

theorem createWithEvent_advances {runtimeObject event : Json} {deterministicKey : String} {result : Record}
    (returned : (createWithEvent runtimeObject event deterministicKey).Returns before result after) :
    before.Advances after := by
  simp only [createWithEvent, returns_bind, returns_pure] at returned
  obtain ⟨_, _, created, _, _, appended, -, rfl⟩ := returned
  exact (create_advances created).trans (appendEvent_advances appended)

theorem run_advances {operation : Operation} {reply : Reply}
    (returned : operation.run.Returns before reply after) : before.Advances after := by
  cases operation <;> simp only [Operation.run, returns_map] at returned <;> obtain ⟨_, returned, -⟩ := returned
  case create => exact create_advances returned
  case createWithEvent => exact createWithEvent_advances returned
  case claim => exact claim_advances returned
  case acquireLease => exact acquireLease_advances returned
  case renewLease => exact renewLease_advances returned
  case releaseLease => exact releaseLease_advances returned
  case updateStatus => exact updateStatus_advances returned
  case updateStatusWithLease => exact updateStatusWithLease_advances returned
  case claimTaskDispatch => exact claimTaskDispatch_advances returned
  case wakeApprovedTask => exact wakeApprovedTask_advances returned
  case bindApprovalRequest => exact bindApprovalRequest_advances returned
  case createApprovalRequest => exact createApprovalRequest_advances returned
  case mutateExecutionBudget => exact mutateExecutionBudget_advances returned
  case appendEvent => exact appendEvent_advances returned
  case appendTaskExecutionId => exact appendTaskExecutionId_advances returned
  case commitTaskExecutionTransition => exact commitTaskExecutionTransition_advances returned
  case commitWorkflowExecutionTransition => exact commitWorkflowExecutionTransition_advances returned

end Advances

namespace Durable

def Advances (before after : Durable) : Prop :=
  ∀ store, before.visible = .ok store → store.WellFormed →
    ∃ next, after.visible = .ok next ∧ next.WellFormed ∧ store.Evolves next

theorem Advances.refl (durable : Durable) : durable.Advances durable :=
  fun store seen wellFormed => ⟨store, seen, wellFormed, .refl store⟩

theorem Advances.trans {before middle after : Durable} (first : before.Advances middle)
    (second : middle.Advances after) : before.Advances after := by
  intro store seen wellFormed
  obtain ⟨between, seenBetween, wellFormedBetween, evolved⟩ := first store seen wellFormed
  obtain ⟨next, seenNext, wellFormedNext, evolvedAgain⟩ := second between seenBetween wellFormedBetween
  exact ⟨next, seenNext, wellFormedNext, evolved.trans evolvedAgain⟩

end Durable

theorem visible_checkpoint {memory store : Store} (wellFormed : store.WellFormed) :
    ({ memory, file := some store.checkpoint } : Durable).visible = .ok store.reindexed :=
  Store.restore_checkpoint wellFormed

theorem mutate_advances {α : Type} {operation : StoreM α} (durable : Durable)
    (advances : ∀ {before value after}, operation.Returns before value after → before.Advances after) :
    durable.Advances (mutate operation durable).2 := by
  intro store seen wellFormed
  unfold mutate
  rw [seen]
  rcases ran : operation store with ⟨error | value, after⟩
  · refine ⟨store, ?_, wellFormed, .refl store⟩
    unfold Durable.visible at seen ⊢
    simp only [ran]
    cases written : durable.file with
    | none => rfl
    | some encoded => rwa [written] at seen
  · obtain ⟨wellFormedAfter, evolves⟩ := advances ran wellFormed
    simp only [ran]
    obtain ⟨-, same⟩ := Store.Advances.reindexed after wellFormedAfter
    exact ⟨after.reindexed, visible_checkpoint wellFormedAfter, wellFormedAfter.reindexed, evolves.trans same⟩

theorem retryBusy_advances {α : Type} {operation : DurableM α}
    (advances : ∀ durable, Durable.Advances durable (operation durable).2) (remaining : Nat) (durable : Durable) :
    durable.Advances (retryBusy operation remaining durable).2 := by
  induction remaining generalizing durable with
  | zero => exact .refl durable
  | succ remaining ih =>
    have step := advances durable
    unfold retryBusy
    rcases ran : operation durable with ⟨error | value, after⟩
    · rw [ran] at step
      simp only
      split
      · exact step
      · exact step.trans (ih after)
    · rw [ran] at step
      exact step

theorem execute_advances (operation : Operation) (durable : Durable) :
    durable.Advances (operation.execute durable).2 := by
  have once (durable : Durable) : durable.Advances (mutate operation.run durable).2 :=
    mutate_advances durable run_advances
  cases operation <;> first | exact once durable | exact retryBusy_advances once 100 durable

theorem runAll_advances (operations : List Operation) (durable : Durable) :
    durable.Advances (runAll operations durable) := by
  induction operations generalizing durable with
  | nil => exact .refl durable
  | cons operation rest ih => exact (execute_advances operation durable).trans (ih _)

/-- Between any two states of a run from the empty store no object is lost, its identity and lasting fields
    stay, and a terminal object stays as it is. -/
theorem runAll_evolves (earlier later : List Operation) :
    ∃ before after, (runAll earlier {}).visible = .ok before ∧ (runAll (earlier ++ later) {}).visible = .ok after ∧
      before.Evolves after := by
  obtain ⟨before, seen, wellFormed, -⟩ := runAll_advances earlier {} {} rfl Store.wellFormed_empty
  obtain ⟨after, seenAfter, -, evolves⟩ := runAll_advances later _ before seen wellFormed
  exact ⟨before, after, seen, by rw [runAll_append]; exact seenAfter, evolves⟩

end Aep.RuntimeStore
