import Aep.WorkflowExecution.CreateOnce

namespace Aep.WorkflowExecution

open RuntimeStore WorkflowScheduler StateAction

variable {platform : Platform} {requests : Nat → Request}

section Discipline

/-- What no step takes back: the first record of a key, an execution and a creation event. -/
structure Rely (before after : World) : Prop where
  first : ∀ key record, before.first key = some record → after.first key = some record
  kept : ∀ id, before.store.get id ≠ none → after.store.get id ≠ none
  executions : ∀ id old, before.store.get id = some old → isExecution old →
    ∃ new, after.store.get id = some new ∧ Descends old new
  started : ∀ id event, before.store.get id = some event → isStarted event → after.store.get id = some event

theorem Rely.refl (world : World) : Rely world world :=
  ⟨fun _ _ found => found, fun _ present => present, fun _ old found _ => ⟨old, found, .refl old⟩,
    fun _ _ found _ => found⟩

theorem Descends.isExecution {old new : Record} (descends : Descends old new) (execution : isExecution old) :
    isExecution new := by
  unfold WorkflowExecution.isExecution
  rw [descends.field_eq (by decide)]
  exact execution

theorem Rely.trans {before middle after : World} (first : Rely before middle) (second : Rely middle after) :
    Rely before after := by
  refine ⟨fun key record found => second.first _ _ (first.first _ _ found),
    fun id present => second.kept id (first.kept id present), ?_,
    fun id event found started => second.started _ _ (first.started _ _ found started) started⟩
  intro id old found execution
  obtain ⟨between, foundBetween, descends⟩ := first.executions id old found execution
  obtain ⟨new, foundNew, descended⟩ := second.executions id between foundBetween (descends.isExecution execution)
  exact ⟨new, foundNew, descends.trans descended⟩

theorem Rely.of_added {before after : World} {value : Record} {key : String}
    (added : before.store.Added after.store value key)
    (first : ∀ key record, before.first key = some record → after.first key = some record) : Rely before after := by
  have same {id : String} {old : Record} (found : before.store.get id = some old) :
      after.store.get id = some old := by
    rw [added.get, if_neg, found]
    rintro rfl
    rw [added.fresh] at found
    cases found
  refine ⟨first, fun id present => ?_, fun id old found _ => ⟨old, same found, .refl old⟩,
    fun id event found _ => same found⟩
  obtain ⟨old, found⟩ := Option.ne_none_iff_exists'.mp present
  simp [same found]

theorem Rely.of_run {before after : World} (first : after.first = before.first)
    (step : RunStep platform before.store after.store) : Rely before after := by
  refine ⟨fun key record found => by rw [first]; exact found, step.kept, ?_, step.started⟩
  intro id old found execution
  obtain ⟨new, foundNew, descends, -⟩ := step.executions id old found execution
  exact ⟨new, foundNew, descends⟩

/-- The calls of a creation: its own record, and the event of the execution that the store answered. -/
def Permitted (platform : Platform) (requests : Nat → Request) (i : Nat) (world : World) : Call → Prop
  | .create record key => ∃ new event, prepare platform (requests i) = .ok (new, event) ∧
      record = new.record platform ∧ key = executionKey new.identity
  | .appendEvent event => ∃ (other maker : NewExecution) (status : Json), Created platform world other ∧ maker.identity = other.identity ∧
      event = maker.startedRecord platform status ∧ (event = other.startedRecord platform (.str "RUNNING") ∨
        world.store.get (startedEventId platform (executionId platform other.identity)) ≠ none)

theorem permitted_step (assumed : Assumed platform) {i : Nat} {world after : World} {call : Call}
    {answer : Except PyError Record} (inv : Inv platform requests world)
    (permitted : Permitted platform requests i world call) (executed : world.respond call = (answer, after)) :
    Inv platform requests after ∧ Rely world after := by
  cases call with
  | create record key =>
    obtain ⟨new, event, prepared, rfl, rfl⟩ := permitted
    rcases create_cases inv executed with ⟨_, _, _, _, _, _, rfl⟩ | ⟨unmade, -, added, wellFormed, first⟩
    · exact ⟨inv, .refl _⟩
    · refine ⟨inv.create assumed prepared unmade added wellFormed first, .of_added added fun key record found => ?_⟩
      rw [first, Function.update_of_ne, found]
      rintro rfl
      rw [unmade] at found
      cases found
  | appendEvent event =>
    obtain ⟨other, maker, status, created, identity, rfl, exact_or_present⟩ := permitted
    obtain ⟨stored, -, first, ⟨-, rfl⟩ | ⟨absent, -, wellFormed, added⟩⟩ :=
      append_cases inv (inv.rooted created).1 identity executed
    · exact ⟨inv, .refl _⟩
    · rw [exact_or_present.resolve_right fun present => present absent] at added
      exact ⟨inv.append assumed created added wellFormed first,
        .of_added added fun key record found => by rw [first]; exact found⟩

def discipline (assumed : Assumed platform) (requests : Nat → Request) : Machine.Discipline (machine platform) where
  invariant := Inv platform requests
  permitted := Permitted platform requests
  rely _ := Rely
  rely_refl _ := Rely.refl
  rely_trans first second := first.trans second
  invariant_exec inv permitted executed := (permitted_step assumed inv permitted executed).1
  invariant_foreign inv moved := inv.run moved.1 moved.2
  rely_exec _ inv permitted executed := (permitted_step assumed inv permitted executed).2
  rely_foreign _ moved := .of_run moved.1 moved.2

theorem inv_start : Inv platform requests (start platform requests).shared where
  wellFormed := Store.wellFormed_empty
  root _ _ found := by cases found
  keyed _ _ := ⟨rfl, rfl, rfl⟩
  eventKeyed _ _ found := by cases found
  executions _ _ found := by cases found
  started _ _ found := by cases found

end Discipline

section Program

structure Answered (platform : Platform) (new : NewExecution) (world : World) (record : Record) (other : NewExecution) :
    Prop where
  created : Created platform world other
  identity : other.identity = new.identity
  valid : platform.violation "executionevent.schema.json" (other.startedRecord platform (.str "RUNNING")) = none
  descends : Descends (other.record platform) record
  stored : ∃ current, world.store.get (executionId platform new.identity) = some current ∧ Descends record current
  untouched : world.store.get (startedEventId platform (executionId platform new.identity)) = none →
    record = other.record platform

variable {new other : NewExecution} {world after : World} {record event : Record}

theorem Answered.rely (answered : Answered platform new world record other) (rely : Rely world after) :
    Answered platform new after record other := by
  obtain ⟨created, identity, valid, descends, ⟨current, found, descended⟩, untouched⟩ := answered
  have execution := (descends.trans descended).isExecution (isExecution_record other)
  obtain ⟨later, foundLater, descendedLater⟩ := rely.executions _ current found execution
  refine ⟨rely.first _ _ created, identity, valid, descends, ⟨later, foundLater, descended.trans descendedLater⟩,
    fun absent => untouched ?_⟩
  by_contra present
  exact rely.kept _ present absent

/-- How a call ends: with the record of the first call as it was read, its event there, or with its own checks' error. -/
def Outcome (platform : Platform) (request : Request) (world : World) : Except PyError Record → Prop
  | .ok record => ∃ new event other, prepare platform request = .ok (new, event) ∧
      Answered platform new world record other ∧
      world.store.get (startedEventId platform (executionId platform new.identity)) =
        some (other.startedRecord platform (.str "RUNNING"))
  | .error error => prepare platform request = .error error

theorem answered_of_inv (inv : Inv platform requests world) (created : Created platform world other)
    (identity : other.identity = new.identity)
    (found : world.store.get (executionId platform new.identity) = some record) :
    Answered platform new world record other := by
  obtain ⟨rooted, valid⟩ := inv.rooted created
  obtain ⟨current, stored, descends, untouched⟩ := rooted.stored
  rw [identity] at stored untouched
  obtain rfl := Option.some.inj (found.symm.trans stored)
  exact ⟨created, identity, valid, descends, ⟨record, found, .refl record⟩, untouched⟩

theorem creationEventFor_ok (assumed : Assumed platform) (answered : Answered platform new world record other) :
    ∃ (maker : NewExecution) (status : Json), maker.identity = other.identity ∧
      creationEventFor platform (new.record platform) (new.startedRecord platform (.str "RUNNING")) record =
        .ok (maker.startedRecord platform status) ∧
      (record = other.record platform →
        maker.startedRecord platform status = other.startedRecord platform (.str "RUNNING")) := by
  unfold creationEventFor
  by_cases same : (Json.obj record).pyEq (.obj (new.record platform)) = true
  · rw [if_pos same]
    refine ⟨new, .str "RUNNING", answered.identity.symm, rfl, ?_⟩
    rintro rfl
    exact (startedRecord_of_pyEq answered.identity same _).symm
  · rw [if_neg same]
    obtain ⟨status, rebuilt⟩ := startedEvent_descends answered.descends
    have valid : platform.violation "executionevent.schema.json" (other.startedRecord platform status) = none :=
      assumed.payloads (other.startedHead platform) _ _ answered.valid
    refine ⟨other, status, rfl, ?_, ?_⟩
    · rw [rebuilt, Result.ok_bind, validateRuntimeRecord, validated, valid]
      rfl
    · rintro rfl
      rw [startedEvent_record] at rebuilt
      exact (Except.ok.inj rebuilt).symm

theorem outcome_stable (assumed : Assumed platform) (i : Nat) :
    (discipline assumed requests).Stable i (Outcome platform (requests i)) := by
  intro s t result outcome rely
  cases result with
  | error error => exact outcome
  | ok record =>
    obtain ⟨new, event, other, prepared, answered, found⟩ := outcome
    exact ⟨new, event, other, prepared, Answered.rely answered rely,
      rely.started _ _ found (isStarted_startedRecord other _)⟩

theorem append_triple (assumed : Assumed platform) (i : Nat) {maker : NewExecution} {status : Json}
    (prepared : prepare platform (requests i) = .ok (new, event)) (identity : maker.identity = other.identity)
    (original : record = other.record platform →
      maker.startedRecord platform status = other.startedRecord platform (.str "RUNNING")) :
    (discipline assumed requests).Triple i (fun s => Answered platform new s record other)
      (do
        let _ ← perform (.appendEvent (maker.startedRecord platform status))
        return record)
      fun result s => Outcome platform (requests i) s result := by
  have permitted (s : World) (answered : Answered platform new s record other) :
      Permitted platform requests i s (.appendEvent (maker.startedRecord platform status)) := by
    refine ⟨other, maker, status, answered.created, identity, rfl, ?_⟩
    by_cases absent : s.store.get (startedEventId platform (executionId platform other.identity)) = none
    · exact .inl (original (answered.untouched (by rw [← answered.identity]; exact absent)))
    · exact .inr absent
  refine Machine.Discipline.triple_call
    (fun answer s => (∃ stored, answer = .ok stored) ∧ Outcome platform (requests i) s (.ok record))
    (fun s t answered rely => Answered.rely answered rely) (fun s _ answered => permitted s answered) ?_ ?_
  · intro s answer t inv answered executed invAfter
    obtain ⟨stored, rfl, first, cases⟩ := append_cases inv (inv.rooted answered.created).1 identity executed
    have later := Answered.rely answered (permitted_step assumed inv (permitted s answered) executed).2
    refine ⟨⟨stored, rfl⟩, new, event, other, prepared, later, ?_⟩
    rw [← answered.identity]
    have present : t.store.get (startedEventId platform (executionId platform other.identity)) ≠ none := by
      rcases cases with ⟨found, rfl⟩ | ⟨-, -, -, added⟩
      · rw [found]
        exact Option.some_ne_none _
      · rw [added.get, objectId_startedRecord, identity, if_pos rfl]
        exact Option.some_ne_none _
    obtain ⟨found, get⟩ := Option.ne_none_iff_exists'.mp present
    rw [get, ((invAfter.rooted later.created).1.started _ get).1]
  · rintro answer s ⟨⟨stored, rfl⟩, outcome⟩
    exact outcome

theorem create_triple (assumed : Assumed platform) (i : Nat) :
    (discipline assumed requests).Triple i (fun _ => True) (create platform (requests i))
      fun result s => Outcome platform (requests i) s result := by
  unfold create
  cases prepared : prepare platform (requests i) with
  | error error => exact Machine.Discipline.triple_raise fun _ _ => prepared
  | ok made =>
    obtain ⟨new, event⟩ := made
    have event_eq := (prepare_ok prepared).event_eq
    subst event_eq
    refine Machine.Discipline.triple_call
      (fun answer s => ∃ record other, answer = .ok record ∧ Answered platform new s record other)
      (fun _ _ _ _ => trivial) (fun s inv _ => ⟨new, _, prepared, rfl, rfl⟩) ?_ ?_
    · intro s answer t inv _ executed invAfter
      rcases create_cases inv executed with
        ⟨other, record, created, identity, found, rfl, rfl⟩ | ⟨-, rfl, added, -, first⟩
      · exact ⟨record, other, rfl, answered_of_inv inv created identity found⟩
      · have created : Created platform t new := by
          unfold Created
          rw [first, Function.update_self]
        refine ⟨_, new, rfl, answered_of_inv invAfter created rfl ?_⟩
        rw [added.get, objectId_record, if_pos rfl]
    · rintro answer s ⟨record, other, rfl, answered⟩
      obtain ⟨maker, status, identity, chosen, original⟩ := creationEventFor_ok assumed answered
      change Program.Sat _ _ (Program.liftExcept (creationEventFor platform _ _ record) >>= _) s
      rw [chosen]
      refine append_triple assumed i prepared identity original s answered

end Program

section Runs

def pairOf (execution : Record) : Json × Json := (execution.field "eventId", execution.field "workflowRef")

def IsStartOf (execution event : Record) : Prop :=
  isStarted event ∧ mappingField (event.field "subject") "id" = execution.field "id"

/-- There is one creation event for the execution, and it agrees with the stored record. -/
def StartedOnce (store : Store) (execution : Record) : Prop :=
  ∃ id event, store.get id = some event ∧ IsStartOf execution event ∧ event.field "sequence" = .int 1 ∧
    event.field "traceId" = execution.field "traceId" ∧
    mappingField (event.field "provenance") "repositoryRevision" = execution.field "repositoryRevision" ∧
    mappingField (event.field "provenance") "resourceRefs" = mappingField (execution.field "provenance") "resourceRefs" ∧
    mappingField (event.field "payload") "status" = .str "RUNNING" ∧
    ∀ other another, store.get other = some another → IsStartOf execution another → other = id

/-- What holds in a state of a run, of which the second is a later one. -/
structure CreatedOnce (platform : Platform) (requests : Nat → Request)
    (config later : Machine.Config Calls World PyError Record) : Prop where
  one : ∀ id other execution another, config.shared.store.get id = some execution →
    config.shared.store.get other = some another → isExecution execution → isExecution another →
    pairOf execution = pairOf another → id = other
  apart : ∀ id other execution another, config.shared.store.get id = some execution →
    config.shared.store.get other = some another → isExecution execution → isExecution another →
    execution.field "id" = another.field "id" ∨ execution.field "traceId" = another.field "traceId" →
    pairOf execution = pairOf another
  returned : ∀ i record, config.threads i = .ret record → ∃ new event first stored,
    prepare platform (requests i) = .ok (new, event) ∧
      pairOf record = (.str new.eventId, .obj (refRecord (requests i).workflow.ref)) ∧
      config.shared.first (executionKey new.identity) = some first ∧ Descends first record ∧
      config.shared.store.get (objectId first) = some stored ∧ Descends record stored ∧
      StartedOnce config.shared.store stored
  raised : ∀ i error, config.threads i = .raise error → prepare platform (requests i) = .error error
  first : ∀ key record, config.shared.first key = some record →
    (∃ i new event, prepare platform (requests i) = .ok (new, event) ∧ record = new.record platform ∧
      key = executionKey new.identity) ∧ later.shared.first key = some record

variable {config later : Machine.Config Calls World PyError Record}

theorem Inv.execution {world : World} (inv : Inv platform requests world) {id : String} {execution : Record}
    (found : world.store.get id = some execution) (isExecution : isExecution execution) :
    ∃ i new event, prepare platform (requests i) = .ok (new, event) ∧ Created platform world new ∧
      id = executionId platform new.identity ∧ Descends (new.record platform) execution ∧
      Rooted platform world.store new := by
  obtain ⟨other, created, rfl⟩ := inv.executions id execution found isExecution
  obtain ⟨i, new, event, prepared, record, key, rooted⟩ := inv.root _ _ created
  have identity := executionKey_injective key
  obtain ⟨stored, foundStored, descends, -⟩ := rooted.stored
  rw [identity] at found ⊢
  obtain rfl := Option.some.inj (foundStored.symm.trans found)
  refine ⟨i, new, event, prepared, ?_, rfl, descends, rooted⟩
  unfold Created at created ⊢
  rw [← identity, created, record]

theorem pairOf_descends {new : NewExecution} {execution : Record} (descends : Descends (new.record platform) execution) :
    pairOf execution = (.str new.eventId, .obj (refRecord new.workflowRef)) := by
  unfold pairOf
  rw [descends.field_eq (by decide), descends.field_eq (by decide)]
  rfl

theorem pair_of_identity (assumed : Assumed platform) {i j : Nat} {new other : NewExecution} {event another : Record}
    (prepared : prepare platform (requests i) = .ok (new, event))
    (preparedOther : prepare platform (requests j) = .ok (other, another)) (same : new.identity = other.identity) :
    new.eventId = other.eventId ∧ new.workflowRef = other.workflowRef := by
  have first := prepare_ok prepared
  have second := prepare_ok preparedOther
  obtain ⟨name, version⟩ := assumed.references new first.record_valid
  obtain ⟨otherName, otherVersion⟩ := assumed.references other second.record_valid
  exact identityOf_injective (first.kind.trans second.kind.symm) name otherName version otherVersion first.kind same

theorem Answered.pair (assumed : Assumed platform) {world : World} (inv : Inv platform requests world) {i : Nat}
    {new other : NewExecution} {event record : Record} (answered : Answered platform new world record other)
    (prepared : prepare platform (requests i) = .ok (new, event)) :
    pairOf record = (.str new.eventId, .obj (refRecord new.workflowRef)) := by
  obtain ⟨stored, found, descended⟩ := answered.stored
  have descends := answered.descends.trans descended
  obtain ⟨j, made, event, preparedMade, -, same, descendsMade, -⟩ :=
    inv.execution found (descends.isExecution (isExecution_record other))
  obtain ⟨eventId, workflowRef⟩ := pair_of_identity assumed prepared preparedMade (executionId_injective assumed same)
  rw [eventId, workflowRef, ← pairOf_descends descendsMade]
  unfold pairOf
  rw [descended.field_eq (by decide), descended.field_eq (by decide)]

theorem startedOnce_of_inv {world : World} (inv : Inv platform requests world)
    {new : NewExecution} {execution : Record} (descends : Descends (new.record platform) execution)
    (found : world.store.get (startedEventId platform (executionId platform new.identity)) =
      some (new.startedRecord platform (.str "RUNNING"))) : StartedOnce world.store execution := by
  have provenance : execution.field "provenance" = .obj new.provenance := descends.field_eq (by decide)
  have id : execution.field "id" = .str (executionId platform new.identity) := descends.field_eq (by decide)
  have traceId : execution.field "traceId" = .str (traceId platform new.identity) := descends.field_eq (by decide)
  have revision : execution.field "repositoryRevision" = .str new.revision := descends.field_eq (by decide)
  refine ⟨_, _, found, ⟨isStarted_startedRecord new _, id.symm⟩, rfl, traceId.symm, revision.symm, ?_, rfl, ?_⟩
  · rw [provenance]
    rfl
  · rintro other another stored ⟨started, subject⟩
    obtain ⟨made, created, rfl⟩ := inv.started other another stored started
    obtain ⟨rfl, -⟩ := (inv.rooted created).1.started another stored
    have names : (Json.str (executionId platform made.identity)) = .str (executionId platform new.identity) :=
      subject.trans id
    rw [Json.str.inj names]

/-- Whatever calls of the creator do, and the runs of the executions that were returned, there is one execution for each
    pair of an Event and a Workflow, the record of the first call, and one creation event that agrees with it. -/
theorem create_once (assumed : Assumed platform) (requests : Nat → Request)
    (reached : (machine platform).Reaches (fun _ _ _ => True) (start platform requests) config)
    (continued : (machine platform).Reaches (fun _ _ _ => True) config later) :
    CreatedOnce platform requests config later := by
  have begins : (discipline assumed requests).Holds (fun i => Outcome platform (requests i)) (start platform requests) :=
    ⟨inv_start, fun i => create_triple assumed i _ trivial⟩
  have holds := begins.reaches (fun i => outcome_stable assumed i) reached
  have inv : Inv platform requests config.shared := holds.1
  constructor
  · intro id other execution another found foundOther isExecution isAnother same
    obtain ⟨i, new, event, prepared, -, rfl, descends, -⟩ := inv.execution found isExecution
    obtain ⟨j, made, _, preparedMade, -, rfl, descendsMade, -⟩ := inv.execution foundOther isAnother
    rw [pairOf_descends descends, pairOf_descends descendsMade] at same
    have identity : new.identity = made.identity := by
      simp only [Prod.mk.injEq, Json.str.injEq] at same
      have refs : new.workflowRef = made.workflowRef :=
        refRecord_of_pyEq (by rw [same.2]; exact Json.pyEq_refl _)
      unfold NewExecution.identity
      rw [same.1, refs]
    rw [identity]
  · intro id other execution another found foundOther isExecution isAnother same
    obtain ⟨i, new, event, prepared, -, rfl, descends, -⟩ := inv.execution found isExecution
    obtain ⟨j, made, _, preparedMade, -, rfl, descendsMade, -⟩ := inv.execution foundOther isAnother
    have identity : new.identity = made.identity := by
      rcases same with ids | traces
      · rw [descends.field_eq (by decide), descendsMade.field_eq (by decide)] at ids
        exact executionId_injective assumed (Json.str.inj ids)
      · rw [descends.field_eq (by decide), descendsMade.field_eq (by decide)] at traces
        exact traceId_injective assumed (Json.str.inj traces)
    obtain ⟨eventId, workflowRef⟩ := pair_of_identity assumed prepared preparedMade identity
    rw [pairOf_descends descends, pairOf_descends descendsMade, eventId, workflowRef]
  · intro i record ended
    have outcome := holds.2 i
    rw [ended] at outcome
    obtain ⟨new, event, other, prepared, answered, started⟩ := outcome
    obtain ⟨stored, found, descended⟩ := answered.stored
    refine ⟨new, event, other.record platform, stored, prepared, ?_, ?_, answered.descends, ?_, descended, ?_⟩
    · rw [answered.pair assumed inv prepared, (prepare_ok prepared).workflowRef]
    · rw [← answered.identity]
      exact answered.created
    · rw [objectId_record, answered.identity]
      exact found
    · exact startedOnce_of_inv inv (answered.descends.trans descended) (by rw [answered.identity]; exact started)
  · intro i error ended
    have outcome := holds.2 i
    rw [ended] at outcome
    exact outcome
  · intro key record found
    refine ⟨?_, ?_⟩
    · obtain ⟨i, new, event, prepared, same, keyed, -⟩ := inv.root key record found
      exact ⟨i, new, event, prepared, same, keyed⟩
    · exact holds.invariant (fun i => outcome_stable assumed i) found
        (fun inv permitted _ executed kept => (permitted_step assumed inv permitted executed).2.first _ _ kept)
        (fun _ moved kept => moved.1 ▸ kept) continued

end Runs

section Sample

def sampleViolation (schema : String) (record : Record) : Option (String × String) :=
  let ref := record.field "workflowRef"
  if schema = "workflowexecution.schema.json" ∧ (':' ∈ (mappingField ref "name").text.toList ∨
    ':' ∈ (mappingField ref "version").text.toList) then some ("workflowRef", "does not match") else none

/-- A platform whose uuid5 is its argument, and whose schemas refuse a colon in a reference only. -/
def samplePlatform : Platform where
  uuid5 name := name
  sha256 text := text
  strip text := text
  isRfc3339Timestamp _ := true
  instant _ := none
  violation := sampleViolation
  recursionLimit := 1000

theorem samplePlatform_assumed : Assumed samplePlatform where
  uuid5_injective _ _ same := same
  references new valid := by
    have ref : (new.record samplePlatform).field "workflowRef" = .obj (refRecord new.workflowRef) := rfl
    change sampleViolation _ _ = none at valid
    simp only [sampleViolation, true_and, ite_eq_right_iff, reduceCtorEq, imp_false, not_or] at valid
    rw [ref] at valid
    exact valid
  payloads _ _ _ _ := rfl

def sampleWorkflow : Resource where
  ref := ⟨"Workflow", "analyze", "1.0.0"⟩
  data := .obj [("spec", .obj [("triggers", .arr [.obj [("eventRef", .obj (refRecord ⟨"Event", "opened", "1.0.0"⟩))]])])]

def sampleEvent : Resource where
  ref := ⟨"Event", "opened", "1.0.0"⟩
  data := .obj [("spec", .obj [("source", .str "github"), ("type", .str "issues")])]

def sampleRequests (i : Nat) : Request where
  event := [("id", .str "event-1"), ("deduplicationKey", .str "delivery-1"), ("source", .str "github"),
    ("type", .str "issues")]
  workflow := sampleWorkflow
  eventResource := sampleEvent
  repositoryRevision := .str ("revision-" ++ if i = 0 then "0" else "1")
  knowledgeGraphVersion := .str "1"
  timestamp := .str "2026-01-01T00:00:00Z"

def sampleRun (i steps : Nat) (world : World) : World × Prog Record :=
  Machine.advance (fun world call => world.respond call) steps world (create samplePlatform (sampleRequests i))

def abandonedWorld : World := (sampleRun 0 1 ⟨{}, fun _ => none⟩).1

def returnedRecord : Prog Record → Option Record
  | .ret record => some record
  | _ => none

theorem sample_reaches {config : Machine.Config Calls World PyError Record} (i steps : Nat) {world : World}
    (shared : config.shared = world) (thread : config.threads i = create samplePlatform (sampleRequests i)) :
    ∃ next, (machine samplePlatform).Reaches (fun _ _ _ => True) config next ∧
      next.shared = (sampleRun i steps world).1 ∧ next.threads i = (sampleRun i steps world).2 ∧
      ∀ j, j ≠ i → next.threads j = config.threads j := by
  have reaches : (machine samplePlatform).Reaches (fun _ _ _ => True) config
      ⟨(Machine.advance World.respond steps config.shared (config.threads i)).1, Function.update config.threads i
        (Machine.advance World.respond steps config.shared (config.threads i)).2⟩ :=
    Machine.reaches_advance (fun _ _ => rfl) steps config (Machine.meetsAlong_of_forall (fun _ _ => trivial) _ _ _ _)
  rw [shared, thread] at reaches
  exact ⟨_, reaches, rfl, Function.update_self .., fun j other => Function.update_of_ne other ..⟩

theorem create_once_redelivered : ∃ config record, (machine samplePlatform).Reaches (fun _ _ _ => True)
    (start samplePlatform sampleRequests) config ∧ config.threads 1 = .ret record ∧
      record.field "repositoryRevision" = .str "revision-0" ∧
      CreatedOnce samplePlatform sampleRequests config config := by
  have begins : (start samplePlatform sampleRequests).shared = ⟨{}, fun _ => none⟩ := rfl
  obtain ⟨abandoned, first, shared, -, kept⟩ := sample_reaches 0 1 begins rfl
  have between : abandoned.shared = abandonedWorld := shared
  obtain ⟨config, second, -, thread, -⟩ := sample_reaches 1 2 between (kept 1 (by decide))
  have returned : ((returnedRecord (sampleRun 1 2 abandonedWorld).2).map fun record =>
      record.field "repositoryRevision") = some (.str "revision-0") := by decide +kernel
  cases ended : (sampleRun 1 2 abandonedWorld).2 with
  | ret record =>
    rw [ended] at returned
    have reaches := first.trans second
    exact ⟨config, record, reaches, thread.trans ended, Option.some.inj returned,
      create_once samplePlatform_assumed sampleRequests reaches .refl⟩
  | _ =>
    rw [ended] at returned
    cases returned

end Sample

end Aep.WorkflowExecution
