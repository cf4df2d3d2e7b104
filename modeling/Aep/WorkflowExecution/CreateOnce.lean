import Aep.Library.RelyGuarantee
import Aep.RuntimeStore.Steps
import Aep.WorkflowExecution.Creator

namespace Aep.WorkflowExecution

open RuntimeStore WorkflowScheduler

/-- The store, and for each key the record that the first create stored. -/
structure World where
  store : Store
  first : String → Option Record

def World.respond (world : World) : Call → Except PyError Record × World
  | .create record key =>
    let (answer, store) := RuntimeStore.create (.obj record) key world.store
    match answer, world.store.deterministicKeys.get? key with
    | .ok created, none => (answer, ⟨store, Function.update world.first key (some created)⟩)
    | _, _ => (answer, ⟨store, world.first⟩)
  | .appendEvent event =>
    let (answer, store) := RuntimeStore.appendEvent (.obj event) world.store
    (answer, ⟨store, world.first⟩)

def isExecution (record : Record) : Prop := record.field "kind" = .str "WorkflowExecution"

def isStarted (event : Record) : Prop := event.field "eventType" = .str "WorkflowExecutionStarted"

/-- What a creation's event repeats of an execution beyond its identity fields, and the reference of its pair. -/
def namedFields : List String := ["workflowRef", "eventId", "repositoryRevision", "knowledgeGraphVersion"]

structure Descends (old new : Record) : Prop where
  evolves : RuntimeStore.Evolves old new
  named : ∀ field ∈ namedFields, new.get? field = old.get? field
  status : old.get? "status" ≠ none → new.get? "status" ≠ none

/-- What the runs of executions do to the store. They start once a call has returned, when the creation event of their
    execution is there, and they create no execution and no creation event. -/
structure RunStep (platform : Platform) (before after : Store) : Prop where
  wellFormed : after.WellFormed
  kept : ∀ id, before.get id ≠ none → after.get id ≠ none
  executions : ∀ id old, before.get id = some old → isExecution old →
    ∃ new, after.get id = some new ∧ Descends old new ∧
      (before.get (startedEventId platform id) = none → new = old)
  started : ∀ id event, before.get id = some event → isStarted event → after.get id = some event
  no_execution : ∀ id record, after.get id = some record → isExecution record →
    ∃ old, before.get id = some old ∧ isExecution old
  no_started : ∀ id event, after.get id = some event → isStarted event → before.get id = some event
  fresh : ∀ identity, (before.get (executionId platform identity) = none →
      after.get (executionId platform identity) = none) ∧
    (before.get (startedEventId platform (executionId platform identity)) = none →
      after.get (startedEventId platform (executionId platform identity)) = none)
  executionKeys : ∀ identity, after.deterministicKeys.get? (executionKey identity) =
    before.deterministicKeys.get? (executionKey identity)
  eventKeys : ∀ identity,
    after.deterministicKeys.get? (eventKey (startedEventId platform (executionId platform identity))) =
      before.deterministicKeys.get? (eventKey (startedEventId platform (executionId platform identity)))

def machine (platform : Platform) : Machine Calls World where
  exec _ before call answer after := before.respond call = (answer, after)
  foreign before after := after.first = before.first ∧ RunStep platform before.store after.store

def start (platform : Platform) (requests : Nat → Request) : Machine.Config Calls World PyError Record where
  shared := ⟨{}, fun _ => none⟩
  threads i := create platform (requests i)

section Descends

variable {platform : Platform} {old middle last : Record}

theorem Descends.refl (record : Record) : Descends record record := ⟨.refl record, fun _ _ => rfl, id⟩

theorem Descends.trans (first : Descends old middle) (second : Descends middle last) : Descends old last :=
  ⟨first.evolves.trans second.evolves, fun field named => (second.named field named).trans (first.named field named),
    fun present => second.status (first.status present)⟩

theorem Descends.field_eq (descends : Descends old last) {field : String}
    (fixed : field ∈ RUNTIME_IDENTITY_FIELDS ++ namedFields) : last.field field = old.field field := by
  rcases List.mem_append.mp fixed with identity | named
  · exact descends.evolves.field_eq identity
  · exact Dict.field_congr (descends.named field named)

theorem startedEvent_descends {new : NewExecution} (descends : Descends (new.record platform) last) :
    ∃ status, startedEvent platform last = .ok (new.startedRecord platform status) := by
  have identity (field : String) (fixed : field ∈ RUNTIME_IDENTITY_FIELDS) := descends.evolves.get?_eq fixed
  have id := identity "id" (by decide)
  have createdAt := identity "createdAt" (by decide)
  have traceId := identity "traceId" (by decide)
  have provenance := identity "provenance" (by decide)
  have revision := descends.named "repositoryRevision" (by decide)
  have graphVersion := descends.named "knowledgeGraphVersion" (by decide)
  have eventId := descends.named "eventId" (by decide)
  have hasStatus : last.get? "status" ≠ none := descends.status (by simp [NewExecution.record, Dict.get?])
  obtain ⟨status, found⟩ := Option.ne_none_iff_exists'.mp hasStatus
  refine ⟨status, ?_⟩
  unfold startedEvent item
  rw [id, createdAt, traceId, provenance, revision, graphVersion, eventId, found]
  rfl

end Descends

section Runs

variable {platform : Platform} {before after : Store} {id : String} {old new : Record}

theorem RunStep.refl (wellFormed : before.WellFormed) : RunStep platform before before where
  wellFormed
  kept _ present := present
  executions _ old found _ := ⟨old, found, .refl old, fun _ => rfl⟩
  started _ _ found _ := found
  no_execution _ record found execution := ⟨record, found, execution⟩
  no_started _ _ found _ := found
  fresh _ := ⟨fun absent => absent, fun absent => absent⟩
  executionKeys _ := rfl
  eventKeys _ := rfl

theorem RunStep.put (wellFormed : before.WellFormed) (found : before.get id = some old) (execution : isExecution old)
    (running : before.get (startedEventId platform id) ≠ none) (unstarted : ¬isStarted old ∧ ¬isStarted new)
    (descends : Descends old new) : RunStep platform before (before.put id new) where
  wellFormed := (Store.Advances.put found descends.evolves wellFormed).1
  kept wanted present := by
    rw [Store.get_put]
    split
    · exact Option.some_ne_none _
    · exact present
  executions wanted record stored _ := by
    rw [Store.get_put]
    by_cases same : id = wanted
    · subst same
      obtain rfl := Option.some.inj (found.symm.trans stored)
      exact ⟨new, if_pos rfl, descends, fun absent => absurd absent running⟩
    · exact ⟨record, by rw [if_neg same, stored], .refl record, fun _ => rfl⟩
  started wanted event stored started := by
    rw [Store.get_put, if_neg, stored]
    rintro rfl
    obtain rfl := Option.some.inj (found.symm.trans stored)
    exact unstarted.1 started
  no_execution wanted record stored isExecution := by
    rw [Store.get_put] at stored
    split at stored
    · rename_i same
      exact ⟨old, same ▸ found, execution⟩
    · exact ⟨record, stored, isExecution⟩
  no_started wanted event stored started := by
    rw [Store.get_put] at stored
    split at stored
    · cases stored
      exact absurd started unstarted.2
    · exact stored
  fresh identity := by
    have other (wanted : String) (absent : before.get wanted = none) : id ≠ wanted := by
      rintro rfl
      rw [found] at absent
      cases absent
    exact ⟨fun absent => by rw [Store.get_put, if_neg (other _ absent), absent],
      fun absent => by rw [Store.get_put, if_neg (other _ absent), absent]⟩
  executionKeys _ := rfl
  eventKeys _ := rfl

theorem updateStatus_runStep {status clock : String} {expectedStatus updatedAt : Option String} {changes : Record}
    (wellFormed : before.WellFormed) (found : before.get id = some old) (execution : isExecution old)
    (unstarted : ¬isStarted old) (running : before.get (startedEventId platform id) ≠ none)
    (unnamed : ∀ field ∈ "eventType" :: namedFields, field ∉ changes.keys)
    (returned : (updateStatus id status expectedStatus updatedAt changes clock).Returns before new after) :
    RunStep platform before after := by
  obtain ⟨value, stored, -, unprotected, -, ⟨-, -, -, rfl⟩ | ⟨live, -, rfl, rfl⟩⟩ := updateStatus_cases returned
  · exact .refl wellFormed
  · obtain rfl := Option.some.inj (found.symm.trans stored)
    have kept (field : String) (unmanaged : field ∉ managedFields) (named : field ∈ "eventType" :: namedFields) :
        (withStatus old changes status (orNow updatedAt clock)).get? field = old.get? field := by
      rw [withStatus_get? unmanaged, Dict.get?_eq_none.mpr (unnamed field named), Option.none_or]
    have eventType := Dict.field_congr (kept "eventType" (by decide) (by decide))
    refine .put wellFormed found execution running ⟨unstarted, ?_⟩ ⟨withStatus_evolves live unprotected, ?_, ?_⟩
    · unfold isStarted
      rw [eventType]
      exact unstarted
    · exact fun field named => kept field (by revert field; decide) (List.mem_cons_of_mem _ named)
    · intro _
      unfold withStatus
      split <;> simp [Dict.get?_set, Dict.get?_setDefault]

end Runs

end Aep.WorkflowExecution

namespace Aep.WorkflowExecution

open RuntimeStore WorkflowScheduler StateAction

variable {platform : Platform} {requests : Nat → Request}

section Invariant

variable (platform)

/-- The execution and the event of a creation, as the store keeps them. -/
structure Rooted (store : Store) (new : NewExecution) : Prop where
  bound : store.deterministicKeys.get? (executionKey new.identity) = some (executionId platform new.identity)
  stored : ∃ record, store.get (executionId platform new.identity) = some record ∧
    Descends (new.record platform) record ∧
    (store.get (startedEventId platform (executionId platform new.identity)) = none → record = new.record platform)
  started : ∀ event, store.get (startedEventId platform (executionId platform new.identity)) = some event →
    event = new.startedRecord platform (.str "RUNNING") ∧
      store.deterministicKeys.get? (eventKey (startedEventId platform (executionId platform new.identity))) =
        some (startedEventId platform (executionId platform new.identity))

def Created (world : World) (new : NewExecution) : Prop :=
  world.first (executionKey new.identity) = some (new.record platform)

variable (requests)

structure Inv (world : World) : Prop where
  wellFormed : world.store.WellFormed
  root : ∀ key record, world.first key = some record → ∃ i new event,
    prepare platform (requests i) = .ok (new, event) ∧ record = new.record platform ∧ key = executionKey new.identity ∧
      Rooted platform world.store new
  keyed : ∀ identity, world.first (executionKey identity) = none →
    world.store.deterministicKeys.get? (executionKey identity) = none ∧
      world.store.get (executionId platform identity) = none ∧
      world.store.get (startedEventId platform (executionId platform identity)) = none
  eventKeyed : ∀ identity id, world.store.deterministicKeys.get?
    (eventKey (startedEventId platform (executionId platform identity))) = some id →
      id = startedEventId platform (executionId platform identity)
  executions : ∀ id record, world.store.get id = some record → isExecution record →
    ∃ new, Created platform world new ∧ id = executionId platform new.identity
  started : ∀ id event, world.store.get id = some event → isStarted event →
    ∃ new, Created platform world new ∧ id = startedEventId platform (executionId platform new.identity)

end Invariant

section Records

theorem valid_record (new : NewExecution) : ValidObject (new.record platform) := by
  have named : executionId platform new.identity ≠ "" := by
    unfold executionId
    simp
  simp [ValidObject, copyAndValidate, Json.asRecord?, NewExecution.record, Dict.field, Dict.get?, named]

theorem valid_startedRecord (new : NewExecution) (status : Json) : ValidObject (new.startedRecord platform status) := by
  have named : startedEventId platform (executionId platform new.identity) ≠ "" := by
    unfold startedEventId
    simp
  simp [ValidObject, copyAndValidate, Json.asRecord?, NewExecution.startedRecord, NewExecution.startedHead, Dict.field,
    Dict.get?, named]

@[simp] theorem objectId_record (new : NewExecution) :
    objectId (new.record platform) = executionId platform new.identity := rfl

@[simp] theorem objectId_startedRecord (new : NewExecution) (status : Json) :
    objectId (new.startedRecord platform status) = startedEventId platform (executionId platform new.identity) := rfl

theorem isExecution_record (new : NewExecution) : isExecution (new.record platform) := rfl

theorem isStarted_startedRecord (new : NewExecution) (status : Json) : isStarted (new.startedRecord platform status) :=
  rfl

theorem not_isExecution_startedRecord (new : NewExecution) (status : Json) :
    ¬isExecution (new.startedRecord platform status) := by
  simp [isExecution, NewExecution.startedRecord, NewExecution.startedHead, Dict.field, Dict.get?]

theorem not_isStarted_record (new : NewExecution) : ¬isStarted (new.record platform) := by
  unfold isStarted NewExecution.record
  cases new.budgetOverrides <;> simp [Dict.field, Dict.get?]

theorem refRecord_of_pyEq {ref other : ResourceRef} (same : (Json.obj (refRecord ref)).pyEq (.obj (refRecord other)) = true) :
    ref = other := by
  have fields := Json.pyEq_field same
  have kind : (Json.str ref.kind).pyEq (.str other.kind) = true := fields "kind"
  have name : (Json.str ref.name).pyEq (.str other.name) = true := fields "name"
  have version : (Json.str ref.version).pyEq (.str other.version) = true := fields "version"
  simp only [Json.pyEq_str, Json.str.injEq] at kind name version
  cases ref
  cases other
  simp_all

theorem startedRecord_of_pyEq {new other : NewExecution} (identity : new.identity = other.identity)
    (same : (Json.obj (new.record platform)).pyEq (.obj (other.record platform)) = true) (status : Json) :
    new.startedRecord platform status = other.startedRecord platform status := by
  have fields := Json.pyEq_field same
  have createdAt : (Json.str new.createdAt).pyEq (.str other.createdAt) = true := fields "createdAt"
  have eventId : (Json.str new.eventId).pyEq (.str other.eventId) = true := fields "eventId"
  have revision : (Json.str new.revision).pyEq (.str other.revision) = true := fields "repositoryRevision"
  have graphVersion : (Json.str new.graphVersion).pyEq (.str other.graphVersion) = true :=
    fields "knowledgeGraphVersion"
  have workflowRef : (Json.obj (refRecord new.workflowRef)).pyEq (.obj (refRecord other.workflowRef)) = true :=
    fields "workflowRef"
  have eventRef : (Json.obj (refRecord new.eventRef)).pyEq (.obj (refRecord other.eventRef)) = true := fields "eventRef"
  simp only [Json.pyEq_str, Json.str.injEq] at createdAt eventId revision graphVersion
  unfold NewExecution.startedRecord NewExecution.startedHead
  rw [identity, createdAt, eventId, revision, graphVersion, refRecord_of_pyEq workflowRef, refRecord_of_pyEq eventRef]

end Records

section Steps

variable {world after : World} {new : NewExecution} {event : Record} {answer : Except PyError Record}

theorem Rooted.congr {before after : Store} (rooted : Rooted platform before new)
    (execution : after.get (executionId platform new.identity) = before.get (executionId platform new.identity))
    (started : after.get (startedEventId platform (executionId platform new.identity)) =
      before.get (startedEventId platform (executionId platform new.identity)))
    (key : after.deterministicKeys.get? (executionKey new.identity) =
      before.deterministicKeys.get? (executionKey new.identity))
    (startedKey : after.deterministicKeys.get? (eventKey (startedEventId platform (executionId platform new.identity))) =
      before.deterministicKeys.get? (eventKey (startedEventId platform (executionId platform new.identity)))) :
    Rooted platform after new := by
  constructor
  · exact key.trans rooted.bound
  · rw [execution, started]
    exact rooted.stored
  · rw [started, startedKey]
    exact rooted.started

theorem Inv.created_of_first (inv : Inv platform requests world) {identity : String} {record : Record}
    (first : world.first (executionKey identity) = some record) :
    ∃ i new event, prepare platform (requests i) = .ok (new, event) ∧ Created platform world new ∧
      new.identity = identity ∧ Rooted platform world.store new := by
  obtain ⟨i, new, event, prepared, rfl, key, rooted⟩ := inv.root _ _ first
  have same := executionKey_injective key
  subst same
  exact ⟨i, new, event, prepared, first, rfl, rooted⟩

theorem startedRecord_of_record {other : NewExecution} (identity : new.identity = other.identity)
    (record : new.record platform = other.record platform) (status : Json) :
    new.startedRecord platform status = other.startedRecord platform status :=
  startedRecord_of_pyEq identity (by rw [record]; exact Json.pyEq_refl _) status

theorem Inv.rooted (inv : Inv platform requests world) (created : Created platform world new) :
    Rooted platform world.store new ∧
      platform.violation "executionevent.schema.json" (new.startedRecord platform (.str "RUNNING")) = none := by
  obtain ⟨i, other, event, prepared, record, key, rooted⟩ := inv.root _ _ created
  have identity := executionKey_injective key
  have same := startedRecord_of_record identity record (.str "RUNNING")
  refine ⟨⟨?_, ?_, ?_⟩, ?_⟩
  · rw [identity]
    exact rooted.bound
  · rw [identity, record]
    exact rooted.stored
  · rw [identity, same]
    exact rooted.started
  · rw [same, ← (prepare_ok prepared).event_eq]
    exact (prepare_ok prepared).event_valid

theorem create_cases (inv : Inv platform requests world)
    (executed : world.respond (.create (new.record platform) (executionKey new.identity)) = (answer, after)) :
    (∃ other record, Created platform world other ∧ other.identity = new.identity ∧ world.store.get (executionId platform new.identity) = some record ∧ answer = .ok record ∧ after = world) ∨
      (world.first (executionKey new.identity) = none ∧ answer = .ok (new.record platform) ∧
        world.store.Added after.store (new.record platform) (executionKey new.identity) ∧
        after.store.WellFormed ∧
        after.first = Function.update world.first (executionKey new.identity) (some (new.record platform))) := by
  have valid : ValidObject (new.record platform) := valid_record new
  have named : executionKey new.identity ≠ "" := by
    unfold executionKey
    simp
  cases first : world.first (executionKey new.identity) with
  | some earlier =>
    obtain ⟨i, other, event, prepared, created, identity, rooted⟩ := inv.created_of_first first
    obtain ⟨record, stored, -, -⟩ := rooted.stored
    have bound := rooted.bound
    rw [identity] at stored bound
    have returned := create_bound valid named bound stored
    have ran : RuntimeStore.create _ _ world.store = _ := returned
    simp only [World.respond, ran, bound, Prod.mk.injEq] at executed
    obtain ⟨rfl, rfl⟩ := executed
    exact .inl ⟨other, record, created, identity, stored, rfl, rfl⟩
  | none =>
    obtain ⟨unbound, absent, -⟩ := inv.keyed _ first
    have returned := create_fresh valid named unbound absent
    have ran : RuntimeStore.create _ _ world.store = _ := returned
    simp only [World.respond, ran, unbound, Prod.mk.injEq] at executed
    obtain ⟨rfl, rfl⟩ := executed
    exact .inr ⟨rfl, rfl, Store.added_insert absent unbound,
      (Store.Advances.insert valid absent inv.wellFormed).1, rfl⟩

theorem append_cases (inv : Inv platform requests world) {other maker : NewExecution} {status : Json}
    (rooted : Rooted platform world.store other) (identity : maker.identity = other.identity)
    (executed : world.respond (.appendEvent (maker.startedRecord platform status)) = (answer, after)) :
    ∃ stored, answer = .ok stored ∧ after.first = world.first ∧
      ((world.store.get (startedEventId platform (executionId platform other.identity)) = some stored ∧
          after = world) ∨
        (world.store.get (startedEventId platform (executionId platform other.identity)) = none ∧
          stored = maker.startedRecord platform status ∧ after.store.WellFormed ∧
          world.store.Added after.store (maker.startedRecord platform status)
            (eventKey (startedEventId platform (executionId platform other.identity))))) := by
  have valid : ValidObject (maker.startedRecord platform status) := valid_startedRecord maker status
  have named : eventKey (startedEventId platform (executionId platform maker.identity)) ≠ "" := by
    unfold eventKey
    simp
  rw [← identity]
  cases present : world.store.get (startedEventId platform (executionId platform maker.identity)) with
  | some stored =>
    have bound := (rooted.started stored (by rw [← identity]; exact present)).2
    rw [← identity] at bound
    have ran : appendEvent _ world.store = _ := appendEvent_of_create valid rfl (create_bound valid named bound present)
    simp only [World.respond, ran, Prod.mk.injEq] at executed
    obtain ⟨rfl, rfl⟩ := executed
    exact ⟨stored, rfl, rfl, .inl ⟨rfl, rfl⟩⟩
  | none =>
    have unbound : world.store.deterministicKeys.get?
        (eventKey (startedEventId platform (executionId platform maker.identity))) = none := by
      by_contra bound
      obtain ⟨id, found⟩ := Option.ne_none_iff_exists'.mp bound
      have same := inv.eventKeyed _ _ found
      exact inv.wellFormed.keyed found (same ▸ present)
    have ran : appendEvent _ world.store = _ :=
      appendEvent_of_create valid rfl (create_fresh valid named unbound present)
    simp only [World.respond, ran, Prod.mk.injEq] at executed
    obtain ⟨rfl, rfl⟩ := executed
    exact ⟨_, rfl, rfl, .inr ⟨rfl, rfl, (Store.Advances.insert valid present inv.wellFormed).1,
      Store.added_insert present unbound⟩⟩

theorem Inv.create (assumed : Assumed platform) (inv : Inv platform requests world) {i : Nat}
    (prepared : prepare platform (requests i) = .ok (new, event))
    (unmade : world.first (executionKey new.identity) = none)
    (added : world.store.Added after.store (new.record platform) (executionKey new.identity))
    (wellFormed : after.store.WellFormed)
    (first : after.first = Function.update world.first (executionKey new.identity) (some (new.record platform))) :
    Inv platform requests after := by
  obtain ⟨unbound, absent, unstarted⟩ := inv.keyed _ unmade
  have firstOf (key : String) (other : executionKey new.identity ≠ key) : after.first key = world.first key := by
    rw [first, Function.update_of_ne (Ne.symm other)]
  have made : Created platform after new := by
    unfold Created
    rw [first, Function.update_self]
  have keeps {other : NewExecution} (created : Created platform world other) : Created platform after other := by
    unfold Created at created ⊢
    rw [firstOf _ fun same => by rw [same, created] at unmade; cases unmade]
    exact created
  have getOf (id : String) (other : executionId platform new.identity ≠ id) : after.store.get id = world.store.get id := by
    rw [added.get, objectId_record, if_neg other]
  have keyOf (key : String) (other : executionKey new.identity ≠ key) :
      after.store.deterministicKeys.get? key = world.store.deterministicKeys.get? key := by
    rw [added.keys, if_neg other]
  constructor
  · exact wellFormed
  · intro key record found
    by_cases same : executionKey new.identity = key
    · subst same
      rw [first, Function.update_self] at found
      cases found
      refine ⟨i, new, event, prepared, rfl, rfl, ?_, ?_, ?_⟩
      · rw [added.keys, if_pos rfl, objectId_record]
      · exact ⟨new.record platform, by rw [added.get, objectId_record, if_pos rfl], .refl _, fun _ => rfl⟩
      · intro event found
        rw [getOf _ (executionId_ne_startedEventId _ _), unstarted] at found
        cases found
    · rw [firstOf key same] at found
      obtain ⟨j, other, event, preparedOther, rfl, rfl, rooted⟩ := inv.root key record found
      have different : executionId platform new.identity ≠ executionId platform other.identity :=
        fun ids => same (by rw [executionId_injective assumed ids])
      exact ⟨j, other, event, preparedOther, rfl, rfl, rooted.congr (getOf _ different)
        (getOf _ (executionId_ne_startedEventId _ _)) (keyOf _ same) (keyOf _ (executionKey_ne_eventKey _ _))⟩
  · intro identity unmade
    have different : executionKey new.identity ≠ executionKey identity := by
      intro same
      rw [← same, made] at unmade
      cases unmade
    rw [firstOf _ different] at unmade
    obtain ⟨unkeyed, unstored, without⟩ := inv.keyed identity unmade
    refine ⟨by rw [keyOf _ different, unkeyed], ?_, by rw [getOf _ (executionId_ne_startedEventId _ _), without]⟩
    rw [getOf _ fun ids => different (by rw [executionId_injective assumed ids]), unstored]
  · intro identity id found
    rw [keyOf _ (executionKey_ne_eventKey _ _)] at found
    exact inv.eventKeyed identity id found
  · intro id record found execution
    by_cases same : executionId platform new.identity = id
    · exact ⟨new, made, same.symm⟩
    · rw [getOf id same] at found
      obtain ⟨other, created, named⟩ := inv.executions id record found execution
      exact ⟨other, keeps created, named⟩
  · intro id record found started
    by_cases same : executionId platform new.identity = id
    · rw [added.get, objectId_record, if_pos same] at found
      cases found
      exact absurd started (not_isStarted_record new)
    · rw [getOf id same] at found
      obtain ⟨other, created, named⟩ := inv.started id record found started
      exact ⟨other, keeps created, named⟩

theorem Inv.append (assumed : Assumed platform) (inv : Inv platform requests world) (created : Created platform world new)
    (added : world.store.Added after.store (new.startedRecord platform (.str "RUNNING"))
      (eventKey (startedEventId platform (executionId platform new.identity))))
    (wellFormed : after.store.WellFormed) (first : after.first = world.first) : Inv platform requests after := by
  have getOf (id : String) (other : startedEventId platform (executionId platform new.identity) ≠ id) :
      after.store.get id = world.store.get id := by
    rw [added.get, objectId_startedRecord, if_neg other]
  have keyOf (key : String) (other : eventKey (startedEventId platform (executionId platform new.identity)) ≠ key) :
      after.store.deterministicKeys.get? key = world.store.deterministicKeys.get? key := by
    rw [added.keys, if_neg other]
  have startedOf {identity : String} (same : startedEventId platform (executionId platform new.identity) =
      startedEventId platform (executionId platform identity)) : new.identity = identity :=
    executionId_injective assumed (startedEventId_injective assumed same)
  constructor
  · exact wellFormed
  · intro key record found
    rw [first] at found
    obtain ⟨i, other, event, prepared, rfl, rfl, rooted⟩ := inv.root key record found
    refine ⟨i, other, event, prepared, rfl, rfl, ?_⟩
    have execution := getOf (executionId platform other.identity) (executionId_ne_startedEventId _ _).symm
    have key := keyOf (executionKey other.identity) (executionKey_ne_eventKey _ _).symm
    by_cases same : new.identity = other.identity
    · have record : new.record platform = other.record platform := by
        unfold Created at created
        rw [same, found] at created
        exact (Option.some.inj created).symm
      have event := startedRecord_of_record same record (.str "RUNNING")
      obtain ⟨stored, foundStored, descends, untouched⟩ := rooted.stored
      refine ⟨key.trans rooted.bound, ⟨stored, execution.trans foundStored, descends, fun unmade => untouched ?_⟩, ?_⟩
      · rw [added.get, objectId_startedRecord, same, if_pos rfl] at unmade
        cases unmade
      · intro later found
        rw [added.get, objectId_startedRecord, same, if_pos rfl] at found
        cases found
        exact ⟨event, by rw [added.keys, objectId_startedRecord, same, if_pos rfl]⟩
    · refine rooted.congr execution (getOf _ fun ids => same (startedOf ids)) key (keyOf _ fun keys => same ?_)
      exact startedOf (eventKey_injective keys)
  · intro identity unmade
    rw [first] at unmade
    obtain ⟨unkeyed, unstored, without⟩ := inv.keyed identity unmade
    refine ⟨by rw [keyOf _ (executionKey_ne_eventKey _ _).symm, unkeyed],
      by rw [getOf _ (executionId_ne_startedEventId _ _).symm, unstored], ?_⟩
    rw [getOf _ fun ids => ?_, without]
    have same := startedOf ids
    unfold Created at created
    rw [same, unmade] at created
    cases created
  · intro identity id found
    by_cases same : eventKey (startedEventId platform (executionId platform new.identity)) =
        eventKey (startedEventId platform (executionId platform identity))
    · rw [added.keys, if_pos same, objectId_startedRecord] at found
      rw [← eventKey_injective same]
      exact (Option.some.inj found).symm
    · rw [keyOf _ same] at found
      exact inv.eventKeyed identity id found
  · intro id record found execution
    unfold Created
    rw [first]
    by_cases same : startedEventId platform (executionId platform new.identity) = id
    · rw [added.get, objectId_startedRecord, if_pos same] at found
      cases found
      exact absurd execution (not_isExecution_startedRecord new _)
    · rw [getOf id same] at found
      exact inv.executions id record found execution
  · intro id record found started
    by_cases same : startedEventId platform (executionId platform new.identity) = id
    · exact ⟨new, by unfold Created; rw [first]; exact created, same.symm⟩
    · unfold Created
      rw [first]
      rw [getOf id same] at found
      exact inv.started id record found started

theorem Inv.run (inv : Inv platform requests world) (first : after.first = world.first)
    (step : RunStep platform world.store after.store) : Inv platform requests after := by
  constructor
  · exact step.wellFormed
  · intro key record found
    rw [first] at found
    obtain ⟨i, new, event, prepared, rfl, rfl, rooted⟩ := inv.root key record found
    refine ⟨i, new, event, prepared, rfl, rfl, (step.executionKeys _).trans rooted.bound, ?_, ?_⟩
    · obtain ⟨record, stored, descends, untouched⟩ := rooted.stored
      have execution : isExecution record := by
        unfold isExecution
        rw [descends.field_eq (by decide)]
        exact isExecution_record new
      obtain ⟨later, storedLater, descended, unstarted⟩ := step.executions _ record stored execution
      refine ⟨later, storedLater, descends.trans descended, fun missing => ?_⟩
      have absent : world.store.get (startedEventId platform (executionId platform new.identity)) = none := by
        by_contra present
        obtain ⟨event, found⟩ := Option.ne_none_iff_exists'.mp present
        have same := (rooted.started event found).1
        subst same
        rw [step.started _ _ found (isStarted_startedRecord new _)] at missing
        cases missing
      rw [unstarted absent, untouched absent]
    · intro event found
      rw [step.eventKeys]
      cases earlier : world.store.get (startedEventId platform (executionId platform new.identity)) with
      | none =>
        rw [(step.fresh new.identity).2 earlier] at found
        cases found
      | some old =>
        obtain ⟨same, bound⟩ := rooted.started old earlier
        subst same
        rw [step.started _ _ earlier (isStarted_startedRecord new _)] at found
        exact ⟨(Option.some.inj found).symm, bound⟩
  · intro identity unmade
    rw [first] at unmade
    obtain ⟨unkeyed, unstored, without⟩ := inv.keyed identity unmade
    exact ⟨(step.executionKeys _).trans unkeyed, (step.fresh _).1 unstored, (step.fresh _).2 without⟩
  · intro identity id found
    rw [step.eventKeys] at found
    exact inv.eventKeyed identity id found
  · intro id record found execution
    unfold Created
    rw [first]
    obtain ⟨old, foundOld, executionOld⟩ := step.no_execution id record found execution
    exact inv.executions id old foundOld executionOld
  · intro id event found started
    unfold Created
    rw [first]
    exact inv.started id event (step.no_started id event found started) started

end Steps

end Aep.WorkflowExecution
