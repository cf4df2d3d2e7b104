import Aep.RuntimeStore.InMemory

namespace Aep.RuntimeStore

open StateAction

namespace Store

def reindexed (store : Store) : Store :=
  (store.objects.map Prod.snd).foldl index { store with workflowIndex := [], taskExecutionIndex := [] }

def encodeObjects (objects : Dict String Record) : Record := objects.map fun (key, value) => (key, .obj value)

def encodeKeys (keys : Dict String String) : Record := keys.map fun (key, value) => (key, .str value)

def encodeLease (lease : Lease) : Json :=
  .obj [("expiresAt", .str lease.expiresAt), ("ownerId", .str lease.ownerId)]

def encodeLeases (leases : Dict String Lease) : Record := leases.map fun (key, lease) => (key, encodeLease lease)

/-- The document of a checkpoint. The encoder sorts keys, so the creation order has its own field. -/
def payload (store : Store) : Record := [
  ("claims", .obj store.claims),
  ("deterministicKeys", .obj (encodeKeys store.deterministicKeys)),
  ("leases", .obj (encodeLeases store.leases)),
  ("objectOrder", .arr (store.objects.keys.map .str)),
  ("objects", .obj (encodeObjects store.objects))]

def checkpoint (store : Store) : Json := .obj store.payload

end Store

def invalidCheckpoint : PyError where
  errorClass := .runtimeStoreError
  message := "durable runtime checkpoint is invalid"
  diagnostic := [("operation", .str "restore"), ("phase", .str "read"), ("category", .str "invalid_checkpoint")]

def required (value : Option Record) : Except PyError Record :=
  match value with
  | some fields => .ok fields
  | none => .error invalidCheckpoint

def restoreLease (value : Json) : Option Lease := do
  let fields ← value.asRecord?
  return { ownerId := (← fields.get? "ownerId").text, expiresAt := (← fields.get? "expiresAt").text }

def decodeKeys (keys : Record) : Dict String String := keys.map fun (key, value) => (key, value.text)

def decodeLeases (leases : Record) : Dict String Lease :=
  leases.filterMap fun (key, value) => (restoreLease value).map fun lease => (key, lease)

def restoreOrder (payload objects : Record) : Except PyError (List String) :=
  match payload.get? "objectOrder" with
  | none => .ok objects.keys
  | some order =>
    match order.asItems?.bind (·.mapM Json.asString?) with
    | none => .error invalidCheckpoint
    | some ids =>
      if ids.Nodup ∧ (∀ id ∈ ids, id ∈ objects.keys) ∧ ∀ id ∈ objects.keys, id ∈ ids then .ok ids
      else .error invalidCheckpoint

def restoreObjects (objects : Record) : List String → Except PyError (Dict String Record)
  | [] => .ok []
  | id :: rest => do
    let value ← copyAndValidate (objects.field id)
    return (id, value) :: (← restoreObjects objects rest)

def restore (encoded : Json) : Except PyError Store := do
  let payload ← required encoded.asRecord?
  let objects ← required ((payload.get? "objects").bind Json.asRecord?)
  let deterministicKeys ← required ((payload.get? "deterministicKeys").bind Json.asRecord?)
  let claims ← required ((payload.get? "claims").bind Json.asRecord?)
  let leases ← required ((payload.get? "leases").getD (.obj [])).asRecord?
  let objectOrder ← restoreOrder payload objects
  let restored ← restoreObjects objects objectOrder
  return Store.reindexed {
    objects := restored
    deterministicKeys := decodeKeys deterministicKeys
    claims
    leases := decodeLeases leases }

/-- One store instance: what it holds in memory and the checkpoint on disk, if one was ever written. -/
structure Durable where
  memory : Store := {}
  file : Option Json := none

abbrev DurableM := StateAction Durable PyError

namespace Durable

def visible (durable : Durable) : Except PyError Store :=
  match durable.file with
  | none => .ok durable.memory
  | some encoded => restore encoded

end Durable

/-- Run an operation on the restored checkpoint and write the next one, or put the memory back. The errors
    of the file system, which alone carry the phase of a directory sync, are not modelled. -/
def mutate {α : Type} (operation : StoreM α) : DurableM α := fun durable =>
  match durable.visible with
  | .error error => (.error error, durable)
  | .ok snapshot =>
    match operation snapshot with
    | (.ok value, after) => (.ok value, { memory := after, file := some after.checkpoint })
    | (.error error, _) => (.error error, { durable with memory := snapshot })

def readVisible {α : Type} (operation : Store → Except PyError α) : DurableM α := fun durable =>
  match durable.visible with
  | .error error => (.error error, durable)
  | .ok snapshot => (operation snapshot, { durable with memory := snapshot })

def commitTaskExecutionTransition (taskExecutionId status workflowExecutionId : String) (event : Json)
    (expectedStatus updatedAt : String) (changes : Record) (clock : String) : StoreM Record := do
  let updated ← updateStatus taskExecutionId status (some expectedStatus) (some updatedAt) changes clock
  let _ ← appendTaskExecutionId workflowExecutionId taskExecutionId (some updatedAt) clock
  let _ ← appendEvent event
  return updated

def commitWorkflowExecutionTransition (workflowExecutionId status : String) (event : Json)
    (expectedStatus updatedAt : String) (changes : Record) (clock : String) : StoreM Record := do
  let workflow := (← read).get workflowExecutionId
  raiseIf (∀ value ∈ workflow, value.field "kind" ≠ .str "WorkflowExecution")
    (valueError "workflow transitions require a WorkflowExecution")
  liftExcept (validateWorkflowTransitionEvent workflowExecutionId status event)
  let _ ← appendEvent event
  updateStatus workflowExecutionId status (some expectedStatus) (some updatedAt) changes clock

def createWithEvent (runtimeObject event : Json) (deterministicKey : String) : StoreM Record := do
  let created ← create runtimeObject deterministicKey
  let _ ← appendEvent event
  return created

/-- The budget operation waits for a busy writer fence and tries again, a hundred times at most. -/
def retryBusy {α : Type} (operation : DurableM α) : Nat → DurableM α
  | 0 => raise { errorClass := .assertionError, message := "unreachable budget fence retry state" }
  | remaining + 1 => fun durable =>
    match operation durable with
    | (.ok value, after) => (.ok value, after)
    | (.error error, after) =>
      if error.isRuntimeStoreError = false ∨ error.diagnostic.field "category" ≠ .str "busy" ∨ remaining = 0 then
        (.error error, after)
      else retryBusy operation remaining after

/-- The mutating operations of the durable store with their arguments. -/
inductive Operation where
  | create (runtimeObject : Json) (deterministicKey : String)
  | createWithEvent (runtimeObject event : Json) (deterministicKey : String)
  | claim (deterministicKey : String) (value : Json)
  | acquireLease (key ownerId now expiresAt : String)
  | renewLease (key ownerId now expiresAt : String)
  | releaseLease (key ownerId : String)
  | updateStatus (objectId status : String) (expectedStatus updatedAt : Option String) (changes : Record)
      (clock : String)
  | updateStatusWithLease (objectId status leaseKey ownerId now : String)
      (expectedStatus updatedAt : Option String) (changes : Record) (clock : String)
  | claimTaskDispatch (taskExecutionId ownerId updatedAt : String)
  | wakeApprovedTask (taskExecutionId approvalId updatedAt : String)
  | bindApprovalRequest (taskExecutionId approvalId updatedAt : String)
  | createApprovalRequest (approval : Json) (deterministicKey : String)
      (expectedCurrentApprovalId : Option String) (updatedAt : String)
  | mutateExecutionBudget (workflowExecutionId taskExecutionId : String)
      (mutate : Record → Record → Except PyError (Record × Record)) (updatedAt clock : String)
  | appendEvent (event : Json)
  | appendTaskExecutionId (workflowExecutionId taskExecutionId : String) (updatedAt : Option String)
      (clock : String)
  | commitTaskExecutionTransition (taskExecutionId status workflowExecutionId : String) (event : Json)
      (expectedStatus updatedAt : String) (changes : Record) (clock : String)
  | commitWorkflowExecutionTransition (workflowExecutionId status : String) (event : Json)
      (expectedStatus updatedAt : String) (changes : Record) (clock : String)

/-- What an operation returns. -/
inductive Reply where
  | record (value : Record)
  | flag (value : Bool)
  | claimed (won : Bool) (value : Json)
  | ledgers (workflow task : Record)

namespace Operation

def run : Operation → StoreM Reply
  | .create runtimeObject deterministicKey => .record <$> RuntimeStore.create runtimeObject deterministicKey
  | .createWithEvent runtimeObject event deterministicKey =>
    .record <$> RuntimeStore.createWithEvent runtimeObject event deterministicKey
  | .claim deterministicKey value =>
    (fun result => .claimed result.1 result.2) <$> RuntimeStore.claim deterministicKey value
  | .acquireLease key ownerId now expiresAt => .flag <$> RuntimeStore.acquireLease key ownerId now expiresAt
  | .renewLease key ownerId now expiresAt => .flag <$> RuntimeStore.renewLease key ownerId now expiresAt
  | .releaseLease key ownerId => .flag <$> RuntimeStore.releaseLease key ownerId
  | .updateStatus objectId status expectedStatus updatedAt changes clock =>
    .record <$> RuntimeStore.updateStatus objectId status expectedStatus updatedAt changes clock
  | .updateStatusWithLease objectId status leaseKey ownerId now expectedStatus updatedAt changes clock =>
    .record <$> RuntimeStore.updateStatusWithLease objectId status leaseKey ownerId now expectedStatus updatedAt
      changes clock
  | .claimTaskDispatch taskExecutionId ownerId updatedAt =>
    (fun result => .claimed result.1 (.obj result.2)) <$>
      RuntimeStore.claimTaskDispatch taskExecutionId ownerId updatedAt
  | .wakeApprovedTask taskExecutionId approvalId updatedAt =>
    .record <$> RuntimeStore.wakeApprovedTask taskExecutionId approvalId updatedAt
  | .bindApprovalRequest taskExecutionId approvalId updatedAt =>
    .record <$> RuntimeStore.bindApprovalRequest taskExecutionId approvalId updatedAt
  | .createApprovalRequest approval deterministicKey expectedCurrentApprovalId updatedAt =>
    .record <$> RuntimeStore.createApprovalRequest approval deterministicKey expectedCurrentApprovalId updatedAt
  | .mutateExecutionBudget workflowExecutionId taskExecutionId mutate updatedAt clock =>
    (fun result => .ledgers result.1 result.2) <$>
      RuntimeStore.mutateExecutionBudget workflowExecutionId taskExecutionId mutate updatedAt clock
  | .appendEvent event => .record <$> RuntimeStore.appendEvent event
  | .appendTaskExecutionId workflowExecutionId taskExecutionId updatedAt clock =>
    .record <$> RuntimeStore.appendTaskExecutionId workflowExecutionId taskExecutionId updatedAt clock
  | .commitTaskExecutionTransition taskExecutionId status workflowExecutionId event expectedStatus updatedAt
      changes clock =>
    .record <$> RuntimeStore.commitTaskExecutionTransition taskExecutionId status workflowExecutionId event
      expectedStatus updatedAt changes clock
  | .commitWorkflowExecutionTransition workflowExecutionId status event expectedStatus updatedAt changes clock =>
    .record <$> RuntimeStore.commitWorkflowExecutionTransition workflowExecutionId status event expectedStatus
      updatedAt changes clock

def execute (operation : Operation) : DurableM Reply :=
  match operation with
  | .mutateExecutionBudget .. => retryBusy (mutate operation.run) 100
  | _ => mutate operation.run

end Operation

/-- The store after a sequence of operations, each of which may return or raise. -/
def runAll : List Operation → Durable → Durable
  | [], durable => durable
  | operation :: rest, durable => runAll rest (operation.execute durable).2

theorem runAll_append (first second : List Operation) (durable : Durable) :
    runAll (first ++ second) durable = runAll second (runAll first durable) := by
  induction first generalizing durable with
  | nil => rfl
  | cons operation rest ih => exact ih _

end Aep.RuntimeStore

namespace Aep.RuntimeStore

/-- What every store reached from the empty one satisfies, and what a restore checks. -/
structure Store.WellFormed (store : Store) : Prop where
  distinct : store.objects.keys.Nodup
  valid : ∀ {id value}, store.get id = some value → ValidObject value ∧ objectId value = id
  keyed : ∀ {key id}, store.deterministicKeys.get? key = some id → store.get id ≠ none

namespace Store

theorem wellFormed_empty : ({} : Store).WellFormed where
  distinct := List.nodup_nil
  valid found := by cases found
  keyed found := by cases found

theorem WellFormed.put {store : Store} {id : String} {value : Record} (wellFormed : store.WellFormed)
    (valid : ValidObject value) (named : objectId value = id) : (store.put id value).WellFormed := by
  refine ⟨Dict.nodup_keys_set wellFormed.distinct _ _, ?_, ?_⟩
  · intro wanted stored found
    by_cases same : id = wanted
    · subst same
      simp only [get_put, ↓reduceIte, Option.some.injEq] at found
      subst found
      exact ⟨valid, named⟩
    · simp only [get_put, same, ↓reduceIte] at found
      exact wellFormed.valid found
  · intro key wanted keyed
    by_cases same : id = wanted
    · simp [same]
    · simpa [same] using wellFormed.keyed keyed

theorem reindexed_same {α : Type} (part : Store → α) (store : Store)
    (same : ∀ store value, part (index store value) = part store)
    (cleared : part { store with workflowIndex := [], taskExecutionIndex := [] } = part store) :
    part store.reindexed = part store := by
  have folded (values : List Record) (start : Store) : part (values.foldl index start) = part start := by
    induction values generalizing start with
    | nil => rfl
    | cons value rest ih => exact (ih _).trans (same start value)
  exact (folded _ _).trans cleared

@[simp] theorem objects_reindexed (store : Store) : store.reindexed.objects = store.objects :=
  reindexed_same Store.objects store (fun _ _ => rfl) rfl

@[simp] theorem deterministicKeys_reindexed (store : Store) :
    store.reindexed.deterministicKeys = store.deterministicKeys :=
  reindexed_same Store.deterministicKeys store (fun _ _ => rfl) rfl

@[simp] theorem claims_reindexed (store : Store) : store.reindexed.claims = store.claims :=
  reindexed_same Store.claims store (fun _ _ => rfl) rfl

@[simp] theorem leases_reindexed (store : Store) : store.reindexed.leases = store.leases :=
  reindexed_same Store.leases store (fun _ _ => rfl) rfl

@[simp] theorem get_reindexed (store : Store) (id : String) : store.reindexed.get id = store.get id := by
  simp [get]

theorem WellFormed.reindexed {store : Store} (wellFormed : store.WellFormed) : store.reindexed.WellFormed where
  distinct := by simpa using wellFormed.distinct
  valid found := wellFormed.valid (by simpa using found)
  keyed found := by simpa using wellFormed.keyed (by simpa using found)

theorem mapM_asString (names : List String) : (names.map Json.str).mapM Json.asString? = some names := by
  induction names with
  | nil => rfl
  | cons name rest ih => simp [Json.asString?, ih]

theorem restoreOrder_payload {store : Store} (wellFormed : store.WellFormed) {objects : Record}
    (same : objects.keys = store.objects.keys) :
    restoreOrder store.payload objects = .ok store.objects.keys := by
  have order : store.payload.get? "objectOrder" = some (.arr (store.objects.keys.map .str)) := rfl
  unfold restoreOrder
  rw [order]
  simp only [Json.asItems?, Option.bind_some, mapM_asString]
  simp [same, wellFormed.distinct]

theorem restoreObjects_of_valid (objects : Record) (entries : Dict String Record)
    (stored : ∀ entry ∈ entries, copyAndValidate (objects.field entry.1) = .ok entry.2) :
    restoreObjects objects entries.keys = .ok entries := by
  induction entries with
  | nil => rfl
  | cons entry rest ih =>
    have here := stored entry List.mem_cons_self
    have later := ih fun other member => stored other (List.mem_cons_of_mem _ member)
    change (do
      let value ← copyAndValidate (objects.field entry.1)
      return (entry.1, value) :: (← restoreObjects objects (Dict.keys rest))) = _
    rw [here, later]
    rfl

theorem restoreObjects_encodeObjects {store : Store} (wellFormed : store.WellFormed) :
    restoreObjects (encodeObjects store.objects) store.objects.keys = .ok store.objects := by
  refine restoreObjects_of_valid _ _ ?_
  intro entry member
  have found := Dict.get?_of_mem wellFormed.distinct member
  have encoded : Dict.field (encodeObjects store.objects) entry.1 = .obj entry.2 :=
    Dict.field_of_get? (by rw [encodeObjects, Dict.get?_map, found]; rfl)
  rw [encoded]
  exact (wellFormed.valid found).1

theorem decodeKeys_encodeKeys (keys : Dict String String) : decodeKeys (encodeKeys keys) = keys := by
  simp [decodeKeys, encodeKeys, Function.comp_def]

theorem decodeLeases_encodeLeases (leases : Dict String Lease) : decodeLeases (encodeLeases leases) = leases := by
  have decoded (lease : Lease) : restoreLease (encodeLease lease) = some lease := rfl
  simp [decodeLeases, encodeLeases, List.filterMap_map, decoded]

theorem restore_checkpoint {store : Store} (wellFormed : store.WellFormed) :
    restore store.checkpoint = .ok store.reindexed := by
  have order := restoreOrder_payload wellFormed (Dict.keys_map store.objects Json.obj)
  have objects := restoreObjects_encodeObjects wellFormed
  change (do
    let objectOrder ← restoreOrder store.payload (encodeObjects store.objects)
    let restored ← restoreObjects (encodeObjects store.objects) objectOrder
    return Store.reindexed {
      objects := restored
      deterministicKeys := decodeKeys (encodeKeys store.deterministicKeys)
      claims := store.claims
      leases := decodeLeases (encodeLeases store.leases) }) = _
  rw [decodeKeys_encodeKeys, decodeLeases_encodeLeases]
  unfold encodeObjects at objects ⊢
  rw [order]
  change (do
    let restored ← restoreObjects _ store.objects.keys
    return Store.reindexed { store with objects := restored, workflowIndex := [], taskExecutionIndex := [] }) = _
  rw [objects]
  rfl

end Store

end Aep.RuntimeStore
