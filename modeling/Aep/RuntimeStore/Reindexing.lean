import Aep.RuntimeStore.Steps
import Aep.RuntimeStore.Rollback

namespace Aep.RuntimeStore

open StateAction

def SameOwners (old new : Record) : Prop :=
  workflowExecutionId new = workflowExecutionId old ∧ taskExecutionId new = taskExecutionId old

instance (old new : Record) : Decidable (SameOwners old new) := by
  unfold SameOwners
  infer_instance

def ownerFields : List String := ["kind", "id", "workflowExecutionId", "taskExecutionId", "provenance"]

theorem SameOwners.of_fields {old new : Record} (same : ∀ field ∈ ownerFields, new.get? field = old.get? field) :
    SameOwners old new := by
  have kind : new.field "kind" = old.field "kind" := Dict.field_congr (same _ (by decide))
  have id : new.field "id" = old.field "id" := Dict.field_congr (same _ (by decide))
  have workflow : new.field "workflowExecutionId" = old.field "workflowExecutionId" :=
    Dict.field_congr (same _ (by decide))
  have task : new.field "taskExecutionId" = old.field "taskExecutionId" := Dict.field_congr (same _ (by decide))
  have provenance : new.field "provenance" = old.field "provenance" := Dict.field_congr (same _ (by decide))
  simp only [SameOwners, workflowExecutionId, taskExecutionId, kind, id, workflow, task, provenance, and_self]

theorem not_managed_of_owner {field : String} (owner : field ∈ ownerFields) : field ∉ managedFields := by
  revert field
  decide

theorem withStatus_owners {value changes : Record} {status now : String}
    (kept : SameOwners value (value.update changes)) : SameOwners value (withStatus value changes status now) := by
  have same : SameOwners (value.update changes) (withStatus value changes status now) := by
    refine .of_fields fun field owner => ?_
    rw [withStatus_get? (not_managed_of_owner owner), Dict.get?_update]
  exact ⟨same.1.trans kept.1, same.2.trans kept.2⟩

def owned (ownerOf : Record → Option String) (objects : Dict String Record) (owner : String) : List String :=
  (objects.filter fun entry => ownerOf entry.2 = some owner).map Prod.fst

theorem owned_set {ownerOf : Record → Option String} {objects : Dict String Record} {id owner : String}
    {old new : Record} (found : objects.get? id = some old) (same : ownerOf new = ownerOf old) :
    owned ownerOf (objects.set id new) owner = owned ownerOf objects owner := by
  induction objects with
  | nil => cases found
  | cons entry rest ih =>
    obtain ⟨key, value⟩ := entry
    by_cases here : key = id
    · simp only [Dict.get?, here, ↓reduceIte, Option.some.injEq] at found
      subst found
      simp [owned, Dict.set, here, List.filter_cons, same, apply_ite (List.map Prod.fst)]
    · simp only [Dict.get?, here, ↓reduceIte] at found
      have later := ih found
      unfold owned at later
      simp only [owned, Dict.set, here, ↓reduceIte, List.filter_cons]
      split
      · simp only [List.map_cons, later]
      · exact later

theorem owned_append (ownerOf : Record → Option String) (objects : Dict String Record) (id owner : String)
    (value : Record) : owned ownerOf (objects ++ [(id, value)]) owner =
      owned ownerOf objects owner ++ if ownerOf value = some owner then [id] else [] := by
  unfold owned
  rw [List.filter_append, List.map_append]
  split
  · rename_i same
    simp [same]
  · rename_i other
    simp [other]

def listing (index : Dict String (List String)) (owner : String) : List String := (index.get? owner).getD []

theorem listing_append (index : Dict String (List String)) (owner : Option String) (id wanted : String) :
    listing (Store.appendIndex index owner id) wanted =
      listing index wanted ++ if owner = some wanted then [id] else [] := by
  unfold listing
  rw [get?_appendIndex]
  split
  · rfl
  · simp

namespace Store

/-- Both indexes list the records under the owners they have now, in creation order. -/
structure Settled (store : Store) : Prop where
  wellFormed : store.WellFormed
  workflows : ∀ owner, listing store.workflowIndex owner = owned workflowExecutionId store.objects owner
  tasks : ∀ owner, listing store.taskExecutionIndex owner = owned taskExecutionId store.objects owner

variable {store : Store}

theorem settled_empty : ({} : Store).Settled := ⟨wellFormed_empty, fun _ => rfl, fun _ => rfl⟩

theorem Settled.of_same {after : Store} (settled : store.Settled) (objects : after.objects = store.objects)
    (keys : after.deterministicKeys = store.deterministicKeys) (workflows : after.workflowIndex = store.workflowIndex)
    (tasks : after.taskExecutionIndex = store.taskExecutionIndex) : after.Settled where
  wellFormed := (Advances.of_same_objects objects keys settled.wellFormed).1
  workflows owner := by rw [workflows, objects, settled.workflows]
  tasks owner := by rw [tasks, objects, settled.tasks]

theorem Settled.put {id : String} {old new : Record} (settled : store.Settled) (found : store.get id = some old)
    (named : new.get? "id" = old.get? "id") (kind : new.get? "kind" = old.get? "kind") (same : SameOwners old new) :
    (store.put id new).Settled := by
  obtain ⟨valid, oldId⟩ := settled.wellFormed.valid found
  have newId : objectId new = id := by
    rw [← oldId]
    unfold objectId
    rw [Dict.field_congr named]
  refine ⟨settled.wellFormed.put (valid.congr (Dict.field_congr named) (Dict.field_congr kind)) newId, ?_, ?_⟩
  · exact fun owner => (settled.workflows owner).trans (owned_set found same.1).symm
  · exact fun owner => (settled.tasks owner).trans (owned_set found same.2).symm

theorem Settled.rewrite {id : String} {old new : Record} (settled : store.Settled) (found : store.get id = some old)
    (same : ∀ field ∈ ownerFields, new.get? field = old.get? field) : (store.put id new).Settled :=
  settled.put found (same _ (by decide)) (same _ (by decide)) (.of_fields same)

theorem Settled.insert {value : Record} {deterministicKey : String} (settled : store.Settled)
    (valid : ValidObject value) (fresh : store.get (objectId value) = none) :
    (store.insert value deterministicKey).Settled := by
  have objects : (store.insert value deterministicKey).objects = store.objects ++ [(objectId value, value)] :=
    Dict.set_of_absent fresh value
  refine ⟨(Advances.insert valid fresh settled.wellFormed).1, fun owner => ?_, fun owner => ?_⟩
  · rw [objects, owned_append, ← settled.workflows]
    exact listing_append _ _ _ _
  · rw [objects, owned_append, ← settled.tasks]
    exact listing_append _ _ _ _

end Store

@[mk_iff] structure Applies (value : Record) (status : String) (expectedStatus : Option String) (changes : Record) : Prop where
  named : status ≠ ""
  unprotected : protectedFields value changes = []
  present : value.field "status" ≠ .null
  expected : ∀ expected ∈ expectedStatus, value.field "status" = .str expected
  hashable : (value.field "status").isHashable = true
  live : isTerminal (value.field "status") = false

instance (value : Record) (status : String) (expectedStatus : Option String) (changes : Record) :
    Decidable (Applies value status expectedStatus changes) :=
  decidable_of_iff _ (applies_iff value status expectedStatus changes).symm

def UpdateKeeps (store : Store) (objectId status : String) (expectedStatus : Option String) (changes : Record) : Prop :=
  ∀ value ∈ store.get objectId, Applies value status expectedStatus changes → SameOwners value (value.update changes)

instance (store : Store) (objectId status : String) (expectedStatus : Option String) (changes : Record) :
    Decidable (UpdateKeeps store objectId status expectedStatus changes) :=
  inferInstanceAs (Decidable (∀ value ∈ store.get objectId, _ → _))

def Operation.KeepsOwners (store : Store) : Operation → Prop
  | .updateStatus objectId status expectedStatus _ changes _ => UpdateKeeps store objectId status expectedStatus changes
  | .updateStatusWithLease objectId status _ _ _ expectedStatus _ changes _ =>
    UpdateKeeps store objectId status expectedStatus changes
  | .mutateExecutionBudget workflowExecutionId taskExecutionId mutate _ _ =>
    ∀ workflow ∈ store.get workflowExecutionId, ∀ task ∈ store.get taskExecutionId, ∀ changes,
      mutate workflow task = .ok changes →
        UpdateKeeps store workflowExecutionId "RUNNING" (some "RUNNING") changes.1 ∧
          UpdateKeeps store taskExecutionId "RUNNING" (some "RUNNING") changes.2
  | .commitTaskExecutionTransition taskExecutionId status _ _ expectedStatus _ changes _ =>
    UpdateKeeps store taskExecutionId status (some expectedStatus) changes
  | .commitWorkflowExecutionTransition workflowExecutionId status _ expectedStatus _ changes _ =>
    UpdateKeeps store workflowExecutionId status (some expectedStatus) changes
  | _ => True

section Steps

variable {store : Store}

theorem create_settled (runtimeObject : Json) (deterministicKey : String) (settled : store.Settled) :
    (create runtimeObject deterministicKey).Leaves store Store.Settled := by
  refine leaves_check (checks_liftExcept _) settled fun value copied => leaves_check (checks_raiseIf _ _) settled
    fun _ _ => leaves_check checks_read settled fun seen same => ?_
  obtain ⟨rfl, -⟩ := returns_read.mp same
  cases seen.deterministicKeys.get? deterministicKey with
  | some existingId => exact (checks_some _ _).leaves settled
  | none =>
    refine leaves_check (checks_raiseIf _ _) settled fun _ unused => ?_
    have fresh := (returns_raiseIf.mp unused).1
    have valid := copyAndValidate_valid (returns_liftExcept.mp copied).1
    exact leaves_bind (leaves_modify (settled.insert valid (not_not.mp fresh))) fun _ _ _ after =>
      (checks_pure _).leaves after

theorem put_settled {α : Type} {id : String} {result : α} {new : Record} (settled : (store.put id new).Settled) :
    (put id new >>= fun _ => Pure.pure result).Leaves store Store.Settled :=
  leaves_bind (leaves_modify settled) fun _ _ _ after => (checks_pure _).leaves after

theorem leases_settled {α : Type} (change : Dict String Lease → Dict String Lease) (value : α)
    (settled : store.Settled) : ((modify fun store => { store with leases := change store.leases }) >>= fun _ =>
      Pure.pure value : StoreM α).Leaves store Store.Settled :=
  leaves_bind (leaves_modify (settled.of_same rfl rfl rfl rfl)) fun _ _ _ after => (checks_pure _).leaves after

theorem claim_settled (deterministicKey : String) (value : Json) (settled : store.Settled) :
    (claim deterministicKey value).Leaves store Store.Settled := by
  refine leaves_check (checks_raiseIf _ _) settled fun _ _ => leaves_check (checks_raiseIf _ _) settled fun _ _ =>
    leaves_check checks_read settled fun seen _ => ?_
  cases seen.claims.get? deterministicKey with
  | some existing => exact (checks_pure _).leaves settled
  | none => exact leaves_bind (leaves_modify (settled.of_same rfl rfl rfl rfl)) fun _ _ _ after =>
      (checks_pure _).leaves after

theorem acquireLease_settled (key ownerId now expiresAt : String) (settled : store.Settled) :
    (acquireLease key ownerId now expiresAt).Leaves store Store.Settled := by
  refine leaves_check checks_read settled fun seen _ => ?_
  have grants := leases_settled (fun leases => leases.set key ⟨ownerId, expiresAt⟩) true settled
  cases seen.leases.get? key with
  | some current => exact leaves_ite (fun _ => (checks_pure _).leaves settled) fun _ => grants
  | none => exact grants

theorem renewLease_settled (key ownerId now expiresAt : String) (settled : store.Settled) :
    (renewLease key ownerId now expiresAt).Leaves store Store.Settled := by
  refine leaves_check checks_read settled fun seen _ => ?_
  cases activeLease seen key ownerId now with
  | none => exact (checks_pure _).leaves settled
  | some current => exact leases_settled (fun leases => leases.set key { current with expiresAt }) true settled

theorem releaseLease_settled (key ownerId : String) (settled : store.Settled) :
    (releaseLease key ownerId).Leaves store Store.Settled := by
  refine leaves_check checks_read settled fun seen _ => ?_
  cases seen.leases.get? key with
  | none => exact (checks_pure _).leaves settled
  | some current =>
    exact leaves_ite (fun _ => (checks_pure _).leaves settled) fun _ =>
      leases_settled (fun leases => leases.erase key) true settled

theorem updateStatus_settled {objectId status clock : String} {expectedStatus updatedAt : Option String}
    {changes : Record} (settled : store.Settled) (kept : UpdateKeeps store objectId status expectedStatus changes) :
    (updateStatus objectId status expectedStatus updatedAt changes clock).Leaves store Store.Settled := by
  refine leaves_check (checks_raiseIf _ _) settled fun _ named => leaves_check (checks_require _) settled
    fun value found => leaves_check (checks_raiseIf _ _) settled fun _ unprotected =>
    leaves_check (checks_raiseIf _ _) settled fun _ present => leaves_check (checks_raiseIf _ _) settled
    fun _ expected => leaves_check (checks_raiseIf _ _) settled fun _ hashable => ?_
  simp only [returns_raiseIf, returns_require, and_true, not_not, not_exists, not_and, ne_eq, Bool.not_eq_false]
    at named found unprotected present expected hashable
  refine leaves_ite (fun _ => leaves_ite (fun _ => (checks_pure _).leaves settled) fun _ =>
    (checks_raise _).leaves settled) fun live => put_settled ?_
  have same := kept value found ⟨named, unprotected, present, expected, hashable, by simpa using live⟩
  have evolves : Evolves value (withStatus value changes status (orNow updatedAt clock)) :=
    withStatus_evolves (by simpa using live) unprotected
  exact settled.put found (evolves.get?_eq (by decide)) (evolves.get?_eq (by decide)) (withStatus_owners same)

theorem claimTaskDispatch_settled (taskExecutionId ownerId updatedAt : String) (settled : store.Settled) :
    (claimTaskDispatch taskExecutionId ownerId updatedAt).Leaves store Store.Settled := by
  refine leaves_check (checks_raiseIf _ _) settled fun _ _ => leaves_check (checks_require _) settled fun value found =>
    leaves_check (checks_raiseIf _ _) settled fun _ _ => leaves_check (checks_raiseIf _ _) settled fun _ _ => ?_
  refine leaves_ite (fun _ => (checks_pure _).leaves settled) fun _ =>
    leaves_check (checks_raiseIf _ _) settled fun _ _ => put_settled ?_
  refine settled.rewrite (returns_require.mp found).1 fun field owner => ?_
  have unmanaged := not_managed_of_owner owner
  simp only [managedFields, List.mem_cons, not_or] at unmanaged
  obtain ⟨-, notUpdated, -, -, notDispatch, notOwner, -⟩ := unmanaged
  simp [Dict.get?_set, Ne.symm notUpdated, Ne.symm notDispatch, Ne.symm notOwner]

theorem wakeApprovedTask_settled (taskExecutionId approvalId updatedAt : String) (settled : store.Settled) :
    (wakeApprovedTask taskExecutionId approvalId updatedAt).Leaves store Store.Settled := by
  refine leaves_check (checks_require _) settled fun task found => leaves_check (checks_raiseIf _ _) settled
    fun _ _ => leaves_ite (fun _ => (checks_pure _).leaves settled) fun _ => ?_
  refine leaves_check (checks_raiseIf _ _) settled fun _ _ =>
    leaves_ite (fun _ => (checks_pure _).leaves settled) fun _ => put_settled ?_
  exact settled.rewrite (returns_require.mp found).1 fun field owner => woken_get? (not_managed_of_owner owner)

theorem bindApprovalRequest_settled (taskExecutionId approvalId updatedAt : String) (settled : store.Settled) :
    (bindApprovalRequest taskExecutionId approvalId updatedAt).Leaves store Store.Settled := by
  refine leaves_check (checks_require _) settled fun task found => leaves_check (checks_raiseIf _ _) settled
    fun _ _ => put_settled ?_
  exact settled.rewrite (returns_require.mp found).1 fun field owner => bound_get? (not_managed_of_owner owner)

theorem createApprovalRequest_settled (approval : Json) (deterministicKey : String)
    (expectedCurrentApprovalId : Option String) (updatedAt : String) (settled : store.Settled) :
    (createApprovalRequest approval deterministicKey expectedCurrentApprovalId updatedAt).Leaves store
      Store.Settled := by
  refine Leaves.atomically (leaves_bind (create_settled _ _ settled) fun persisted _ _ settled => ?_) settled
  refine leaves_check (checks_some _ _) settled fun taskExecutionId _ => leaves_check (checks_require _) settled
    fun task found => leaves_check (checks_raiseIf _ _) settled fun _ _ =>
    leaves_ite (fun _ => (checks_pure _).leaves settled) fun _ =>
    leaves_check (checks_raiseIf _ _) settled fun _ _ => put_settled ?_
  exact settled.rewrite (returns_require.mp found).1 fun field owner => bound_get? (not_managed_of_owner owner)

theorem appendEvent_settled (event : Json) (settled : store.Settled) :
    (appendEvent event).Leaves store Store.Settled :=
  leaves_check (checks_liftExcept _) settled fun _ _ => leaves_check (checks_raiseIf _ _) settled fun _ _ =>
    create_settled _ _ settled

theorem appendEvent_get {before after : Store} {event : Json} {result value : Record} {id : String}
    (returned : (appendEvent event).Returns before result after) (found : before.get id = some value) :
    after.get id = some value := by
  simp only [appendEvent, returns_bind, returns_liftExcept, returns_raiseIf] at returned
  obtain ⟨_, _, ⟨-, rfl⟩, -, _, ⟨-, rfl⟩, created⟩ := returned
  obtain ⟨stored, -, -, ⟨-, -, -, rfl⟩ | ⟨-, fresh, -, rfl⟩⟩ := create_cases created
  · exact found
  · have other : objectId stored ≠ id := by
      rintro rfl
      rw [fresh] at found
      cases found
    simpa [other] using found

theorem appendTaskExecutionId_settled (workflowExecutionId taskExecutionId : String) (updatedAt : Option String)
    (clock : String) (settled : store.Settled) :
    (appendTaskExecutionId workflowExecutionId taskExecutionId updatedAt clock).Leaves store Store.Settled := by
  refine leaves_check (checks_raiseIf _ _) settled fun _ _ => leaves_check (checks_require _) settled
    fun workflow found => leaves_check (checks_raiseIf _ _) settled fun _ _ => leaves_check (checks_require _) settled
    fun _ _ => leaves_check (checks_raiseIf _ _) settled fun _ _ => ?_
  have present := (returns_require.mp found).1
  have unchanged {field : String} (owner : field ∈ ownerFields) :
      (listed workflow).get? field = workflow.get? field := by
    have unmanaged := not_managed_of_owner owner
    simp only [managedFields, List.mem_cons, not_or] at unmanaged
    have different : "taskExecutionIds" ≠ field := Ne.symm unmanaged.2.2.2.2.2.2.1
    simp [listed, Dict.get?_setDefault, different]
  have withList := settled.rewrite present fun field owner => unchanged owner
  refine leaves_bind (leaves_modify withList) fun _ middle wrote settled => ?_
  rw [returns_put.mp wrote] at settled ⊢
  refine leaves_check (checks_some _ _) settled fun _ _ => leaves_ite (fun _ => (checks_pure _).leaves settled)
    fun _ => leaves_check (checks_raiseIf _ _) settled fun _ _ => leaves_check (checks_raiseIf _ _) settled
    fun _ _ => put_settled ?_
  have stored : (store.put workflowExecutionId (listed workflow)).get workflowExecutionId = some (listed workflow) := by
    simp
  refine settled.rewrite stored fun field owner => ?_
  have unmanaged := not_managed_of_owner owner
  simp only [managedFields, List.mem_cons, not_or] at unmanaged
  obtain ⟨-, notUpdated, -, -, -, -, notListed, -⟩ := unmanaged
  simp [Dict.get?_set, Ne.symm notUpdated, Ne.symm notListed, listed]

theorem UpdateKeeps.congr {before after : Store} {objectId status : String} {expectedStatus : Option String}
    {changes : Record} (kept : UpdateKeeps before objectId status expectedStatus changes)
    (same : after.get objectId = before.get objectId) : UpdateKeeps after objectId status expectedStatus changes := by
  unfold UpdateKeeps
  rw [same]
  exact kept

theorem mutateExecutionBudget_settled {workflowExecutionId taskExecutionId updatedAt clock : String}
    {mutate : Record → Record → Except PyError (Record × Record)} (settled : store.Settled)
    (kept : (Operation.mutateExecutionBudget workflowExecutionId taskExecutionId mutate updatedAt clock).KeepsOwners
      store) :
    (mutateExecutionBudget workflowExecutionId taskExecutionId mutate updatedAt clock).Leaves store Store.Settled := by
  refine Leaves.atomically ?_ settled
  refine leaves_check (checks_require _) settled fun workflow workflowFound => leaves_check (checks_require _) settled
    fun task taskFound => leaves_check (checks_raiseIf _ _) settled fun _ workflowKind =>
    leaves_check (checks_raiseIf _ _) settled fun _ _ => leaves_check (checks_raiseIf _ _) settled fun _ taskKind =>
    leaves_check (checks_raiseIf _ _) settled fun _ _ => leaves_check (checks_raiseIf _ _) settled fun _ _ =>
    leaves_check (checks_liftExcept _) settled fun changes mutated => ?_
  simp only [returns_require, returns_raiseIf, returns_liftExcept, and_true, ne_eq, not_not]
    at workflowFound taskFound workflowKind taskKind mutated
  have different : workflowExecutionId ≠ taskExecutionId := by
    rintro rfl
    rw [workflowFound] at taskFound
    cases taskFound
    rw [workflowKind] at taskKind
    exact absurd taskKind (by decide)
  obtain ⟨workflowKept, taskKept⟩ := kept workflow workflowFound task taskFound changes mutated
  refine leaves_bind (updateStatus_settled settled workflowKept) fun _ middle updated settled => ?_
  have sameTask : middle.get taskExecutionId = store.get taskExecutionId := by
    obtain ⟨_, -, -, -, -, ⟨-, -, -, rfl⟩ | ⟨-, -, -, rfl⟩⟩ := updateStatus_cases updated
    · rfl
    · simp [different]
  exact leaves_bind (updateStatus_settled settled (taskKept.congr sameTask)) fun _ _ _ settled =>
    (checks_pure _).leaves settled

theorem commitWorkflowInMemory_settled {workflowExecutionId status expectedStatus updatedAt clock : String}
    {event : Json} {changes : Record} (settled : store.Settled)
    (kept : UpdateKeeps store workflowExecutionId status (some expectedStatus) changes) :
    (commitWorkflowInMemory workflowExecutionId status event expectedStatus updatedAt changes clock).Leaves store
      Store.Settled := by
  refine Leaves.atomically ?_ settled
  refine leaves_check (checks_require _) settled fun workflow found => leaves_check (checks_raiseIf _ _) settled
    fun _ _ => leaves_check (checks_liftExcept _) settled fun _ _ =>
    leaves_bind (appendEvent_settled _ settled) fun _ middle appended settled => ?_
  have present := (returns_require.mp found).1
  exact updateStatus_settled settled (kept.congr ((appendEvent_get appended present).trans present.symm))

theorem inMemory_settled (operation : Operation) (settled : store.Settled) (kept : operation.KeepsOwners store) :
    operation.inMemory.Leaves store Store.Settled := by
  cases operation with
  | create => exact (create_settled _ _ settled).map _
  | createWithEvent runtimeObject event deterministicKey =>
    refine ((leaves_bind (create_settled _ _ settled) fun _ _ _ settled => ?_).atomically settled).map _
    exact leaves_bind (appendEvent_settled _ settled) fun _ _ _ settled => (checks_pure _).leaves settled
  | claim => exact (claim_settled _ _ settled).map _
  | acquireLease => exact (acquireLease_settled _ _ _ _ settled).map _
  | renewLease => exact (renewLease_settled _ _ _ _ settled).map _
  | releaseLease => exact (releaseLease_settled _ _ settled).map _
  | updateStatus => exact (updateStatus_settled settled kept).map _
  | updateStatusWithLease =>
    exact (leaves_check checks_read settled fun _ _ => leaves_check (checks_raiseIf _ _) settled fun _ _ =>
      updateStatus_settled settled kept).map _
  | claimTaskDispatch => exact (claimTaskDispatch_settled _ _ _ settled).map _
  | wakeApprovedTask => exact (wakeApprovedTask_settled _ _ _ settled).map _
  | bindApprovalRequest => exact (bindApprovalRequest_settled _ _ _ settled).map _
  | createApprovalRequest => exact (createApprovalRequest_settled _ _ _ _ settled).map _
  | mutateExecutionBudget => exact (mutateExecutionBudget_settled settled kept).map _
  | appendEvent => exact (appendEvent_settled _ settled).map _
  | appendTaskExecutionId => exact (appendTaskExecutionId_settled _ _ _ _ settled).map _
  | commitTaskExecutionTransition =>
    refine ((leaves_bind (updateStatus_settled settled kept) fun _ _ _ settled => ?_).atomically settled).map _
    refine leaves_bind (appendTaskExecutionId_settled _ _ _ _ settled) fun _ _ _ settled => ?_
    exact leaves_bind (appendEvent_settled _ settled) fun _ _ _ settled => (checks_pure _).leaves settled
  | commitWorkflowExecutionTransition => exact (commitWorkflowInMemory_settled settled kept).map _

end Steps

/-- Every operation of the sequence leaves the owners of the records it finds alone. -/
def OwnersKept : List Operation → Store → Prop
  | [], _ => True
  | operation :: rest, store => operation.KeepsOwners store ∧ OwnersKept rest (operation.inMemory store).2

theorem runMemory_settled {history : List Operation} {store : Store} (settled : store.Settled)
    (kept : OwnersKept history store) : (runMemory history store).Settled := by
  induction history generalizing store with
  | nil => exact settled
  | cons operation rest ih => exact ih (inMemory_settled operation settled kept.1) kept.2

structure Answers (left right : Store) : Prop where
  get : ∀ id, left.get id = right.get id
  byWorkflow : ∀ owner, left.listByWorkflowExecution owner = right.listByWorkflowExecution owner
  byTask : ∀ owner, left.listByTaskExecution owner = right.listByTaskExecution owner
  byKey : ∀ key, left.deterministicKeys.get? key = right.deterministicKeys.get? key
  claimed : ∀ key, left.claims.get? key = right.claims.get? key
  leased : ∀ key, left.leases.get? key = right.leases.get? key

namespace Store

variable {store : Store}

theorem foldl_index_settled (values : List Record) (start : Store) (owner : String) :
    listing (values.foldl index start).workflowIndex owner = listing start.workflowIndex owner ++
        (values.filter fun value => workflowExecutionId value = some owner).map objectId ∧
      listing (values.foldl index start).taskExecutionIndex owner = listing start.taskExecutionIndex owner ++
        (values.filter fun value => taskExecutionId value = some owner).map objectId := by
  induction values generalizing start with
  | nil => simp
  | cons value rest ih =>
    obtain ⟨workflows, tasks⟩ := ih (start.index value)
    have first : listing (start.index value).workflowIndex owner = _ := listing_append _ _ _ _
    have second : listing (start.index value).taskExecutionIndex owner = _ := listing_append _ _ _ _
    refine ⟨workflows.trans ?_, tasks.trans ?_⟩
    · rw [first, List.append_assoc, List.filter_cons]
      split <;> simp_all
    · rw [second, List.append_assoc, List.filter_cons]
      split <;> simp_all

theorem WellFormed.owned_eq (wellFormed : store.WellFormed) (ownerOf : Record → Option String) (owner : String) :
    ((store.objects.map Prod.snd).filter fun value => ownerOf value = some owner).map objectId =
      owned ownerOf store.objects owner := by
  unfold owned
  rw [List.filter_map, List.map_map]
  refine List.map_congr_left fun entry member => ?_
  have stored := Dict.get?_of_mem wellFormed.distinct (List.mem_of_mem_filter member)
  exact (wellFormed.valid stored).2

theorem WellFormed.reindexed_settled (wellFormed : store.WellFormed) : store.reindexed.Settled := by
  refine ⟨wellFormed.reindexed, fun owner => ?_, fun owner => ?_⟩
  · rw [objects_reindexed, ← wellFormed.owned_eq]
    exact (foldl_index_settled _ _ owner).1
  · rw [objects_reindexed, ← wellFormed.owned_eq]
    exact (foldl_index_settled _ _ owner).2

end Store

theorem listByIndex_congr {left right : Store} {first second : Dict String (List String)} {owner : String}
    (objects : left.objects = right.objects) (same : listing first owner = listing second owner) :
    left.listByIndex first owner = right.listByIndex second owner := by
  unfold listing at same
  simp only [Store.listByIndex, Store.get, objects, same]

theorem Store.Settled.answers {store : Store} (settled : store.Settled) : Answers store.reindexed store := by
  have rebuilt := settled.wellFormed.reindexed_settled
  refine ⟨by simp, fun owner => ?_, fun owner => ?_, by simp, by simp, by simp⟩
  · refine listByIndex_congr (by simp) ?_
    rw [rebuilt.workflows, settled.workflows, Store.objects_reindexed]
  · refine listByIndex_congr (by simp) ?_
    rw [rebuilt.tasks, settled.tasks, Store.objects_reindexed]

/-- After every sequence of operations that leave the owners of their records alone, the store restored from the
    checkpoint answers every query as the one in memory. -/
theorem restored_answers (history : List Operation) (kept : OwnersKept history {}) :
    ∃ restored, restore (runMemory history {}).checkpoint = .ok restored ∧
      Answers restored (runMemory history {}) := by
  have settled := runMemory_settled Store.settled_empty kept
  exact ⟨_, Store.restore_checkpoint settled.wellFormed, settled.answers⟩

def approvalHistory (changes : Record) : List Operation := [
  .create (.obj [("id", .str "approval-1"), ("kind", .str "Approval"), ("status", .str "PENDING"),
    ("workflowExecutionId", .str "workflow-1")]) "approval-1",
  .updateStatus "approval-1" "APPROVED" none (some "2026-01-01T00:00:00Z") changes ""]

theorem restored_answers_approval : ∃ restored,
    restore (runMemory (approvalHistory [("decision", .str "APPROVED")]) {}).checkpoint = .ok restored ∧
      Answers restored (runMemory (approvalHistory [("decision", .str "APPROVED")]) {}) := by
  refine restored_answers _ ⟨trivial, ?_, trivial⟩
  change UpdateKeeps _ "approval-1" "APPROVED" none [("decision", .str "APPROVED")]
  decide +kernel

/-- An approval moved to another workflow is still listed under the first one, but not after a restart. -/
theorem moved_approval_unlisted : ¬∃ restored,
    restore (runMemory (approvalHistory [("workflowExecutionId", .str "workflow-2")]) {}).checkpoint = .ok restored ∧
      Answers restored (runMemory (approvalHistory [("workflowExecutionId", .str "workflow-2")]) {}) := by
  rintro ⟨restored, restores, answers⟩
  have after : (restore (runMemory (approvalHistory [("workflowExecutionId", .str "workflow-2")]) {}).checkpoint).map
      (fun store => (store.listByWorkflowExecution "workflow-1").map List.length) = .ok (.ok 0) := by decide +kernel
  have before : ((runMemory (approvalHistory [("workflowExecutionId", .str "workflow-2")]) {}).listByWorkflowExecution
      "workflow-1").map List.length = .ok 1 := by decide +kernel
  rw [restores] at after
  have counted : (restored.listByWorkflowExecution "workflow-1").map List.length = .ok 0 := Except.ok.inj after
  rw [answers.byWorkflow, before] at counted
  cases counted

end Aep.RuntimeStore
