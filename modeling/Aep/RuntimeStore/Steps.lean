import Aep.Library.Result
import Aep.RuntimeStore.Operations
import Aep.RuntimeStore.Rollback

namespace Aep.RuntimeStore

open StateAction

namespace Store

/-- One record is replaced, and all else that a get or a create reads stays. -/
structure Replaced (before after : Store) (id : String) (old new : Record) : Prop where
  found : before.get id = some old
  get : ∀ wanted, after.get wanted = if id = wanted then some new else before.get wanted
  keys : after.deterministicKeys = before.deterministicKeys

structure Added (before after : Store) (value : Record) (key : String) : Prop where
  fresh : before.get (objectId value) = none
  unkeyed : before.deterministicKeys.get? key = none
  get : ∀ wanted, after.get wanted = if objectId value = wanted then some value else before.get wanted
  keys : ∀ wanted, after.deterministicKeys.get? wanted =
    if key = wanted then some (objectId value) else before.deterministicKeys.get? wanted

structure Same (before after : Store) : Prop where
  get : ∀ wanted, after.get wanted = before.get wanted
  keys : after.deterministicKeys = before.deterministicKeys

theorem Same.refl (store : Store) : store.Same store := ⟨fun _ => rfl, rfl⟩

theorem Same.reindexed (store : Store) : store.Same store.reindexed := ⟨by simp, by simp⟩

variable {before middle after : Store}

theorem replaced_put {id : String} {old new : Record} (found : before.get id = some old) :
    before.Replaced (before.put id new) id old new :=
  ⟨found, fun _ => get_put _ _ _ _, rfl⟩

theorem replaced_put_put {id : String} {old between new : Record} (found : before.get id = some old) :
    before.Replaced ((before.put id between).put id new) id old new := by
  refine ⟨found, fun wanted => ?_, rfl⟩
  rw [get_put, get_put]
  split <;> rfl

theorem added_insert {value : Record} {key : String} (fresh : before.get (objectId value) = none)
    (unkeyed : before.deterministicKeys.get? key = none) : before.Added (before.insert value key) value key :=
  ⟨fresh, unkeyed, fun _ => get_insert _ _ _ _, fun _ => Dict.get?_set _ _ _ _⟩

end Store

section Index

def Store.Indexed (store : Store) : Prop :=
  ∀ owner ids, store.workflowIndex.get? owner = some ids → ∀ id ∈ ids, ∀ value, store.get id = some value →
    workflowExecutionId value = some owner

theorem get?_appendIndex (entries : Dict String (List String)) (owner : Option String) (id wanted : String) :
    (Store.appendIndex entries owner id).get? wanted =
      if owner = some wanted then some ((entries.get? wanted).getD [] ++ [id]) else entries.get? wanted := by
  cases owner with
  | none => simp [Store.appendIndex]
  | some key =>
    simp only [Store.appendIndex, Dict.get?_set, Option.some.injEq]
    split
    · rename_i same
      rw [same]
    · rfl

theorem indexed_foldl {values : List Record} {store : Store} {owner : String} {ids : List String}
    (listed : (values.foldl Store.index store).workflowIndex.get? owner = some ids) {id : String} (member : id ∈ ids) :
    (∃ earlier, store.workflowIndex.get? owner = some earlier ∧ id ∈ earlier) ∨
      ∃ value ∈ values, objectId value = id ∧ workflowExecutionId value = some owner := by
  induction values generalizing store with
  | nil => exact .inl ⟨ids, listed, member⟩
  | cons value rest ih =>
    rcases ih listed with ⟨earlier, found, present⟩ | ⟨later, present, same⟩
    · change Dict.get? (Store.appendIndex store.workflowIndex (workflowExecutionId value) (objectId value)) owner =
        some earlier at found
      rw [get?_appendIndex] at found
      split at found
      · rename_i owned
        cases found
        rcases List.mem_append.mp present with old | new
        · cases first : store.workflowIndex.get? owner with
          | none => simp [first] at old
          | some items => exact .inl ⟨items, rfl, by simpa [first] using old⟩
        · exact .inr ⟨value, List.mem_cons_self, (List.mem_singleton.mp new).symm, owned⟩
      · exact .inl ⟨earlier, found, present⟩
    · exact .inr ⟨later, List.mem_cons_of_mem _ present, same⟩

theorem Store.WellFormed.indexed {store : Store} (wellFormed : store.WellFormed) : store.reindexed.Indexed := by
  intro owner ids listed id member value found
  rcases indexed_foldl listed member with ⟨earlier, none_earlier, -⟩ | ⟨stored, present, same, owned⟩
  · cases none_earlier
  · obtain ⟨⟨key, other⟩, entry, rfl⟩ := List.mem_map.mp present
    have lookup : store.get key = some other := Dict.get?_of_mem wellFormed.distinct entry
    have named := (wellFormed.valid lookup).2
    rw [Store.get_reindexed, ← same, named, lookup] at found
    cases found
    exact owned

theorem listByWorkflowExecution_mem {store : Store} (wellFormed : store.WellFormed) (indexed : store.Indexed)
    {owner : String} {records : List Record} (listed : store.listByWorkflowExecution owner = .ok records)
    {record : Record} (member : record ∈ records) :
    store.get (objectId record) = some record ∧ workflowExecutionId record = some owner := by
  unfold Store.listByWorkflowExecution Store.listByIndex at listed
  cases entry : store.workflowIndex.get? owner with
  | none =>
    rw [entry] at listed
    cases listed
    cases member
  | some ids =>
    rw [entry, Option.getD_some] at listed
    obtain ⟨id, inIds, found⟩ := Result.mem_of_mapM listed member
    cases lookup : store.get id with
    | none => simp [lookup] at found
    | some value =>
      simp only [lookup, Except.ok.injEq] at found
      subst found
      rw [(wellFormed.valid lookup).2]
      exact ⟨lookup, indexed owner ids entry id inIds value lookup⟩

end Index

variable {before after : Store}

structure Attached (before after : Store) (workflowExecutionId taskExecutionId : String) : Prop where
  task : ∃ task, before.get taskExecutionId = some task ∧ task.field "kind" = .str "TaskExecution"
  workflow : ∃ old new, before.Replaced after workflowExecutionId old new ∧
    old.field "kind" = .str "WorkflowExecution" ∧ new.field "kind" = .str "WorkflowExecution"

theorem attachTask_replaced {workflow result : Record} {workflowExecutionId taskExecutionId now : String}
    (found : before.get workflowExecutionId = some workflow)
    (returned : (attachTask workflow workflowExecutionId taskExecutionId now).Returns before result after) :
    ∃ new, before.Replaced after workflowExecutionId workflow new ∧ new.field "kind" = workflow.field "kind" := by
  simp only [attachTask, returns_bind, returns_raiseIf, returns_some, returns_ite, returns_put,
    returns_pure] at returned
  obtain ⟨-, _, rfl, items, _, ⟨listed, rfl⟩, returned⟩ := returned
  rcases returned with ⟨member, -, rfl⟩ | ⟨-, -, _, ⟨-, rfl⟩, -, _, ⟨live, rfl⟩, -, _, rfl, -, rfl⟩
  · exact ⟨_, Store.replaced_put found, Dict.field_congr (by simp [Dict.get?_setDefault])⟩
  · exact ⟨_, Store.replaced_put_put found, Dict.field_congr (by simp [Dict.get?_setDefault, Dict.get?_set])⟩

theorem appendTaskExecutionId_cases {workflowExecutionId taskExecutionId clock : String}
    {updatedAt : Option String} {result : Record}
    (returned : (appendTaskExecutionId workflowExecutionId taskExecutionId updatedAt clock).Returns
      before result after) : Attached before after workflowExecutionId taskExecutionId := by
  simp only [appendTaskExecutionId, returns_bind, returns_raiseIf, returns_require] at returned
  obtain ⟨-, _, ⟨-, rfl⟩, workflow, _, ⟨found, rfl⟩, -, _, ⟨isWorkflow, rfl⟩, task, _, ⟨foundTask, rfl⟩, -, _,
    ⟨belongs, rfl⟩, attached⟩ := returned
  obtain ⟨new, replaced, kind⟩ := attachTask_replaced found attached
  rw [not_not] at isWorkflow
  simp only [ne_eq, not_or, not_not] at belongs
  exact ⟨⟨task, foundTask, belongs.1⟩, ⟨workflow, new, replaced, isWorkflow, kind.trans isWorkflow⟩⟩

/-- An event is there already under its key, or it is added. -/
inductive Appended (before after : Store) (event : Record) : Prop where
  | earlier {id : String} {existing : Record}
      (keyed : before.deterministicKeys.get? ("execution-event:" ++ objectId event) = some id)
      (found : before.get id = some existing) (same : before.Same after)
  | added (added : before.Added after event ("execution-event:" ++ objectId event))

theorem appendEvent_cases {event : Record} {result : Record}
    (returned : (appendEvent (.obj event)).Returns before result after) :
    ValidObject event ∧ event.field "kind" = .str "ExecutionEvent" ∧ Appended before after event := by
  simp only [appendEvent, returns_bind, returns_liftExcept, returns_raiseIf, ne_eq, not_not] at returned
  obtain ⟨value, _, ⟨copied, rfl⟩, -, _, ⟨kind, rfl⟩, created⟩ := returned
  obtain ⟨isObject, -⟩ := copyAndValidate_ok copied
  cases isObject
  refine ⟨copied, kind, ?_⟩
  obtain ⟨other, again, -, ⟨id, keyed, found, rfl⟩ | ⟨unkeyed, fresh, -, rfl⟩⟩ := create_cases created
  · exact .earlier keyed found (.refl _)
  · rw [copied] at again
    cases again
    exact .added (Store.added_insert fresh unkeyed)

/-- A status update confirms a terminal record or rewrites a live one. -/
inductive Updated (before after : Store) (id status : String) (changes updated : Record) : Prop where
  | confirmed (found : before.get id = some updated) (terminal : isTerminal (updated.field "status") = true)
      (named : updated.field "status" = .str status) (same : before.Same after)
  | rewritten {value : Record} {now : String} (live : isTerminal (value.field "status") = false)
      (hasStatus : value.field "status" ≠ .null) (unprotected : protectedFields value changes = [])
      (result : updated = withStatus value changes status now) (replaced : before.Replaced after id value updated)

theorem updateStatus_updated {id status clock : String} {expectedStatus updatedAt : Option String}
    {changes updated : Record}
    (returned : (updateStatus id status expectedStatus updatedAt changes clock).Returns before updated after) :
    Updated before after id status changes updated ∧
      ∃ old, before.get id = some old ∧ ∀ expected ∈ expectedStatus, old.field "status" = .str expected := by
  obtain ⟨value, found, -, unprotected, expected, ⟨terminal, named, rfl, rfl⟩ | ⟨live, hasStatus, rfl, rfl⟩⟩ :=
    updateStatus_cases returned
  · exact ⟨.confirmed found terminal named (.refl _), updated, found, expected⟩
  · exact ⟨.rewritten live hasStatus unprotected rfl (Store.replaced_put found), value, found, expected⟩

theorem commitTaskExecutionTransition_cases {taskExecutionId status workflowExecutionId expectedStatus updatedAt
    clock : String} {event changes result : Record}
    (returned : (commitTaskExecutionTransition taskExecutionId status workflowExecutionId (.obj event) expectedStatus
      updatedAt changes clock).Returns before result after) :
    (∃ old, before.get taskExecutionId = some old ∧ old.field "status" = .str expectedStatus) ∧
      ∃ updated noted, Updated before updated taskExecutionId status changes result ∧
        Attached updated noted workflowExecutionId taskExecutionId ∧
        ValidObject event ∧ event.field "kind" = .str "ExecutionEvent" ∧ Appended noted after event := by
  simp only [commitTaskExecutionTransition, returns_bind, returns_pure] at returned
  obtain ⟨value, first, updated, _, second, attached, _, third, appended, rfl, rfl⟩ := returned
  obtain ⟨cases, old, found, expected⟩ := updateStatus_updated updated
  exact ⟨⟨old, found, expected _ rfl⟩, first, second, cases, appendTaskExecutionId_cases attached,
    appendEvent_cases appended⟩

theorem claimTaskDispatch_cases {taskExecutionId ownerId updatedAt : String} {result : Bool × Record}
    (returned : (claimTaskDispatch taskExecutionId ownerId updatedAt).Returns before result after) :
    ∃ value, before.get taskExecutionId = some value ∧ value.field "kind" = .str "TaskExecution" ∧
      value.field "status" = .str "RUNNING" ∧
      ((result.1 = false ∧ before.Same after) ∨
        (value.field "dispatchState" = .str "PENDING" ∧ result.1 = true ∧
          result.2 = ((value.set "dispatchState" (.str "CLAIMED")).set "dispatchOwnerId" (.str ownerId)).set
            "updatedAt" (.str updatedAt) ∧
          before.Replaced after taskExecutionId value result.2)) := by
  simp only [claimTaskDispatch, returns_bind, returns_raiseIf, returns_require, returns_ite, returns_put,
    returns_pure, ne_eq, not_not] at returned
  obtain ⟨-, _, ⟨-, rfl⟩, value, _, ⟨found, rfl⟩, -, _, ⟨isTask, rfl⟩, -, _, ⟨running, rfl⟩, returned⟩ := returned
  refine ⟨value, found, isTask, running, ?_⟩
  rcases returned with ⟨-, rfl, rfl⟩ | ⟨-, -, _, ⟨pending, rfl⟩, -, _, rfl, rfl, rfl⟩
  · exact .inl ⟨rfl, .refl _⟩
  · exact .inr ⟨pending, rfl, rfl, Store.replaced_put found⟩

theorem wakeApprovedTask_cases {taskExecutionId approvalId updatedAt : String} {result : Record}
    (returned : (wakeApprovedTask taskExecutionId approvalId updatedAt).Returns before result after) :
    before.Same after ∨ ∃ task, task.field "kind" = .str "TaskExecution" ∧
      task.field "approvalId" = .str approvalId ∧
      (task.field "status" = .str "AWAITING_APPROVAL" ∨ task.field "status" = .str "PENDING") ∧
      before.Replaced after taskExecutionId task (woken task approvalId updatedAt) := by
  simp only [wakeApprovedTask, returns_bind, returns_raiseIf, returns_require, returns_ite, returns_put,
    returns_pure, ne_eq, not_not] at returned
  obtain ⟨task, _, ⟨found, rfl⟩, -, _, ⟨isTask, rfl⟩, returned⟩ := returned
  rcases returned with ⟨-, -, rfl⟩ | ⟨current, -, _, ⟨-, rfl⟩, ⟨-, -, rfl⟩ | ⟨waiting, -, _, rfl, -, rfl⟩⟩
  · exact .inl (.refl _)
  · exact .inl (.refl _)
  · refine .inr ⟨task, isTask, current, ?_, Store.replaced_put found⟩
    by_cases awaiting : task.field "status" = .str "AWAITING_APPROVAL"
    · exact .inl awaiting
    · exact .inr (not_not.mp fun other => waiting ⟨awaiting, other⟩)

theorem createApprovalRequest_cases {approval : Record} {deterministicKey updatedAt : String}
    {expectedCurrentApprovalId : Option String} {result : Record}
    (returned : (createApprovalRequest (.obj approval) deterministicKey expectedCurrentApprovalId updatedAt).Returns
      before result after) :
    ∃ middle id task, (((∃ keyed, before.deterministicKeys.get? deterministicKey = some keyed ∧
            before.get keyed = some result) ∧ before.Same middle) ∨
          (result = approval ∧ before.Added middle approval deterministicKey)) ∧
      result.get? "taskExecutionId" = some id ∧ middle.get id.text = some task ∧
      task.field "kind" = .str "TaskExecution" ∧ task.field "status" = .str "AWAITING_APPROVAL" ∧
      ((task.field "approvalId" = .str (objectId result) ∧ middle.Same after) ∨
        (task.field "approvalId" = optionalText expectedCurrentApprovalId ∧
          middle.Replaced after id.text task (bound task (objectId result) updatedAt))) := by
  simp only [createApprovalRequest, returns_atomically, returns_bind, returns_some, returns_raiseIf,
    returns_require, returns_ite, returns_put, returns_pure, ne_eq, not_or, not_not] at returned
  obtain ⟨persisted, middle, created, id, _, ⟨subject, rfl⟩, task, _, ⟨found, rfl⟩, -, _, ⟨⟨isTask, awaiting⟩, rfl⟩,
    returned⟩ := returned
  have same : result = persisted := by
    rcases returned with ⟨-, same, -⟩ | ⟨-, -, _, ⟨-, -⟩, -, _, -, same, -⟩ <;> exact same
  subst same
  refine ⟨_, id, task, ?_, subject, found, isTask, awaiting, ?_⟩
  · obtain ⟨value, copied, -, ⟨keyed, known, stored, rfl⟩ | ⟨unkeyed, fresh, rfl, rfl⟩⟩ := create_cases created
    · exact .inl ⟨⟨keyed, known, stored⟩, .refl _⟩
    · have same := (copyAndValidate_ok copied).1
      cases same
      exact .inr ⟨rfl, Store.added_insert fresh unkeyed⟩
  · rcases returned with ⟨current, -, rfl⟩ | ⟨-, -, _, ⟨expected, rfl⟩, -, _, rfl, -, rfl⟩
    · exact .inl ⟨current, .refl _⟩
    · exact .inr ⟨expected, Store.replaced_put found⟩

theorem create_record_cases {value : Record} {deterministicKey : String} {created : Record}
    (returned : (create (.obj value) deterministicKey).Returns before created after) :
    ValidObject value ∧ ((∃ id, before.deterministicKeys.get? deterministicKey = some id ∧
        before.get id = some created ∧ before.Same after) ∨
      (created = value ∧ before.Added after value deterministicKey)) := by
  obtain ⟨other, copied, -, ⟨id, keyed, found, rfl⟩ | ⟨unkeyed, fresh, rfl, rfl⟩⟩ := create_cases returned
  · have same := (copyAndValidate_ok copied).1
    cases same
    exact ⟨copied, .inl ⟨id, keyed, found, .refl _⟩⟩
  · have same := (copyAndValidate_ok copied).1
    cases same
    exact ⟨copied, .inr ⟨rfl, Store.added_insert fresh unkeyed⟩⟩

theorem mutate_cases {α : Type} {operation : StoreM α} {durable : Durable} {store : Store}
    (seen : durable.visible = .ok store) (wellFormed : store.WellFormed)
    (advances : ∀ {before value after}, operation.Returns before value after → before.Advances after) :
    (∃ value after, (mutate operation durable).1 = .ok value ∧ operation.Returns store value after ∧
        (mutate operation durable).2.visible = .ok after.reindexed) ∨
      (∃ error after, (mutate operation durable).1 = .error error ∧ operation.Raises store error after ∧
        (mutate operation durable).2.visible = .ok store) := by
  unfold mutate
  rw [seen]
  rcases ran : operation store with ⟨error | value, after⟩
  · refine .inr ⟨error, after, by simp only [ran], ran, ?_⟩
    simp only [ran]
    unfold Durable.visible at seen ⊢
    cases written : durable.file with
    | none => rfl
    | some encoded => simpa only [written] using seen
  · refine .inl ⟨value, after, by simp only [ran], ran, ?_⟩
    simp only [ran]
    exact visible_checkpoint (advances ran wellFormed).1

theorem readVisible_visible {α : Type} (operation : Store → Except PyError α) (durable : Durable) :
    (readVisible operation durable).2.visible = durable.visible := by
  unfold readVisible
  cases seen : durable.visible with
  | error error => exact seen
  | ok store =>
    unfold Durable.visible at seen ⊢
    cases written : durable.file with
    | none => rfl
    | some encoded => simpa only [written] using seen

theorem readVisible_reply {α : Type} (operation : Store → Except PyError α) {durable : Durable} {store : Store}
    (seen : durable.visible = .ok store) : (readVisible operation durable).1 = operation store := by
  unfold readVisible
  rw [seen]

end Aep.RuntimeStore

namespace Aep.RuntimeStore

open StateAction

theorem claim_same (key : String) (value : Json) (store : Store) : store.Same (claim key value store).2 := by
  have same : (claim key value).Leaves store store.Same := by
    refine leaves_check (checks_raiseIf _ _) (.refl _) fun _ _ => leaves_check (checks_raiseIf _ _) (.refl _)
      fun _ _ => leaves_check checks_read (.refl _) fun seen _ => ?_
    cases seen.claims.get? key with
    | some existing => exact (checks_pure _).leaves (.refl _)
    | none => exact leaves_bind (leaves_modify ⟨fun _ => rfl, rfl⟩) fun _ _ _ after => (checks_pure _).leaves after
  exact same

theorem claim_step (store : Store) (key : String) (value : Record) (named : key ≠ "") :
    (∃ existing, store.claims.get? key = some existing ∧
        RuntimeStore.claim key (.obj value) store = (.ok (false, existing), store)) ∨
      (store.claims.get? key = none ∧ RuntimeStore.claim key (.obj value) store =
        (.ok (true, .obj value), { store with claims := store.claims.set key (.obj value) })) := by
  cases found : store.claims.get? key with
  | some existing =>
    refine .inl ⟨existing, rfl, ?_⟩
    change (RuntimeStore.claim key (.obj value)).Returns store _ _
    simp only [RuntimeStore.claim, returns_bind, returns_raiseIf, returns_read]
    refine ⟨(), store, ⟨named, rfl⟩, (), store, ⟨by simp [Json.isMapping], rfl⟩, store, store, ⟨rfl, rfl⟩, ?_⟩
    rw [found]
    exact returns_pure.mpr ⟨rfl, rfl⟩
  | none =>
    refine .inr ⟨rfl, ?_⟩
    change (RuntimeStore.claim key (.obj value)).Returns store _ _
    simp only [RuntimeStore.claim, returns_bind, returns_raiseIf, returns_read]
    refine ⟨(), store, ⟨named, rfl⟩, (), store, ⟨by simp [Json.isMapping], rfl⟩, store, store, ⟨rfl, rfl⟩, ?_⟩
    rw [found]
    simp only [returns_bind, returns_modify, returns_pure]
    exact ⟨(), _, rfl, trivial, rfl⟩

theorem create_step (record : Record) (key : String) (store : Store) :
    let outcome := RuntimeStore.create (.obj record) key store
    (outcome.2 = store ∧ ∀ saved, outcome.1 = .ok saved → ∃ id, store.deterministicKeys.get? key = some id ∧
        store.get id = some saved) ∨
      (outcome.1 = .ok record ∧ store.Added outcome.2 record key ∧ ValidObject record ∧
        outcome.2 = store.insert record key) := by
  intro outcome
  rcases ran : outcome with ⟨error | saved, after⟩
  · exact .inl ⟨create_keeps _ _ _ _ _ ran, fun _ wrong => by cases wrong⟩
  · obtain ⟨value, copied, -, ⟨id, keyed, found, rfl⟩ | ⟨unkeyed, fresh, rfl, rfl⟩⟩ := create_cases ran
    · exact .inl ⟨rfl, fun _ same => by cases same; exact ⟨id, keyed, found⟩⟩
    · obtain same := (copyAndValidate_ok copied).1
      cases same
      exact .inr ⟨rfl, Store.added_insert fresh unkeyed, copied, rfl⟩

theorem create_succeeds {record : Record} {key : String} {store : Store} (valid : ValidObject record) (named : key ≠ "")
    (ready : (∃ id saved, store.deterministicKeys.get? key = some id ∧ store.get id = some saved) ∨
      store.deterministicKeys.get? key = none ∧ store.get (objectId record) = none) :
    ∃ saved, (RuntimeStore.create (.obj record) key store).1 = .ok saved := by
  have returned : ∃ saved after, (RuntimeStore.create (.obj record) key).Returns store saved after := by
    simp only [RuntimeStore.create, returns_bind, returns_liftExcept, returns_raiseIf, returns_read]
    rcases ready with ⟨id, saved, keyed, found⟩ | ⟨unkeyed, fresh⟩
    · refine ⟨saved, store, record, store, ⟨valid, rfl⟩, (), store, ⟨named, rfl⟩, store, store, ⟨rfl, rfl⟩, ?_⟩
      rw [keyed]
      exact returns_some.mpr ⟨found, rfl⟩
    · refine ⟨record, store.insert record key, record, store, ⟨valid, rfl⟩, (), store, ⟨named, rfl⟩, store, store,
        ⟨rfl, rfl⟩, ?_⟩
      rw [unkeyed]
      simp only [returns_bind, returns_raiseIf, returns_modify, returns_pure]
      exact ⟨(), store, ⟨by simp [fresh], rfl⟩, (), _, rfl, trivial, rfl⟩
  obtain ⟨saved, after, ran⟩ := returned
  exact ⟨saved, congrArg Prod.fst ran⟩

theorem live_running : isTerminal (.str "RUNNING") = false := by decide

theorem live_pending : isTerminal (.str "PENDING") = false := by decide

theorem update_step {expected : String} (unended : isTerminal (.str expected) = false) (id status updatedAt clock : String)
    (changes : Record) (store : Store) :
    let outcome := RuntimeStore.updateStatus id status (some expected) (some updatedAt) changes clock store
    (outcome.2 = store ∧ ∃ error, outcome.1 = .error error) ∨ ∃ record now, store.get id = some record ∧
      record.field "status" = .str expected ∧ Evolves record (withStatus record changes status now) ∧
      outcome.1 = .ok (withStatus record changes status now) ∧
      outcome.2 = store.put id (withStatus record changes status now) := by
  intro outcome
  rcases ran : outcome with ⟨error | updated, after⟩
  · exact .inl ⟨updateStatus_keeps _ _ _ _ _ _ _ _ _ ran, error, rfl⟩
  · obtain ⟨record, found, -, unprotected, same, ⟨terminal, -⟩ | ⟨live, -, rfl, rfl⟩⟩ := updateStatus_cases ran
    · rw [same _ rfl, unended] at terminal
      cases terminal
    · exact .inr ⟨record, _, found, same _ rfl, withStatus_evolves live unprotected, rfl, rfl⟩

end Aep.RuntimeStore
