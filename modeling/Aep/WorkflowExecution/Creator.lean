import Aep.RuntimeStore.InMemory
import Aep.RuntimeStore.Operations
import Aep.WorkflowScheduler.TaskExecution

namespace Aep.WorkflowExecution

open RuntimeStore WorkflowScheduler

structure Request where
  event : Record
  workflow : Resource
  eventResource : Resource
  repositoryRevision : Json
  knowledgeGraphVersion : Json
  timestamp : Json
  budgetOverrides : Json := .null

/-- What of a request goes into the new execution, after the checks. -/
structure NewExecution where
  eventId : String
  workflowRef : ResourceRef
  eventRef : ResourceRef
  revision : String
  graphVersion : String
  createdAt : String
  budgetOverrides : Option Record

/-- The two store calls of a creation. -/
inductive Call where
  | create (record : Record) (deterministicKey : String)
  | appendEvent (event : Record)

abbrev Calls : Interface := ⟨Call, fun _ => Except PyError Record⟩

abbrev Prog (α : Type) : Type := Program Calls PyError α

def invalidInput (message : String) : PyError := { errorClass := .invalidWorkflowExecutionInputError, message }

def refIdentity (ref : ResourceRef) : String := ref.kind ++ "/" ++ ref.name ++ ":" ++ ref.version

def identityOf (eventId : String) (workflowRef : ResourceRef) : String := eventId ++ ":" ++ refIdentity workflowRef

def executionKey (identity : String) : String := "workflow-execution:" ++ identity

def eventKey (eventId : String) : String := "execution-event:" ++ eventId

section Records

variable (platform : Platform)

def executionId (identity : String) : String :=
  "workflowexecution-" ++ platform.uuid5 ("workflow-execution:" ++ identity)

def traceId (identity : String) : String := "trace-" ++ platform.uuid5 ("workflow-trace:" ++ identity)

def startedEventId (executionId : String) : String :=
  "executionevent-" ++ platform.uuid5 ("execution-event:" ++ executionId ++ ":WorkflowExecutionStarted")

namespace NewExecution

variable (new : NewExecution)

def identity : String := identityOf new.eventId new.workflowRef

def provenance : Record := [
  ("actor", .str "workflow-controller"), ("repositoryRevision", .str new.revision),
  ("knowledgeGraphVersion", .str new.graphVersion),
  ("resourceRefs", .arr [.obj (refRecord new.workflowRef), .obj (refRecord new.eventRef)])]

def record : Record := [
  ("apiVersion", .str "aep.dev/v1alpha1"), ("kind", .str "WorkflowExecution"),
  ("id", .str (executionId platform new.identity)), ("traceId", .str (traceId platform new.identity)),
  ("createdAt", .str new.createdAt), ("updatedAt", .str new.createdAt), ("provenance", .obj new.provenance),
  ("workflowRef", .obj (refRecord new.workflowRef)), ("eventRef", .obj (refRecord new.eventRef)),
  ("eventId", .str new.eventId), ("repositoryRevision", .str new.revision),
  ("knowledgeGraphVersion", .str new.graphVersion), ("status", .str "RUNNING"), ("startedAt", .str new.createdAt),
  ("taskExecutionIds", .arr [])] ++ (new.budgetOverrides.map fun overrides => ("budgetOverrides", .obj overrides)).toList

end NewExecution

def startedEvent (execution : Record) : Except PyError Record := do
  let executionId := (← item execution "id").text
  let timestamp := (← item execution "createdAt").text
  let traceId ← item execution "traceId"
  let revision ← item execution "repositoryRevision"
  let graphVersion ← item execution "knowledgeGraphVersion"
  let provenance ← asDict (← item execution "provenance")
  let resourceRefs ← iterate (← item provenance "resourceRefs")
  let status ← item execution "status"
  let eventId ← item execution "eventId"
  return [
    ("apiVersion", .str "aep.dev/v1alpha1"), ("kind", .str "ExecutionEvent"),
    ("id", .str (startedEventId platform executionId)), ("traceId", traceId), ("createdAt", .str timestamp),
    ("updatedAt", .str timestamp),
    ("provenance", .obj [("actor", .str "workflow-controller"), ("workflowExecutionId", .str executionId),
      ("repositoryRevision", revision), ("knowledgeGraphVersion", graphVersion), ("resourceRefs", .arr resourceRefs)]),
    ("eventType", .str "WorkflowExecutionStarted"),
    ("subject", .obj [("kind", .str "WorkflowExecution"), ("id", .str executionId)]), ("sequence", .int 1),
    ("emittedAt", .str timestamp), ("payload", .obj [("status", status), ("eventId", eventId)])]

def validateRuntimeRecord (record : Record) (schemaName : String) : Except PyError Unit :=
  validated platform schemaName record fun violated =>
    invalidInput ("invalid " ++ ((record.get? "kind").getD (.str "runtime object")).text ++ " at " ++ violated.1 ++
      ": " ++ violated.2)

end Records

section Checks

variable (platform : Platform)

def requiredValue (value : Json) (field : String) : Except PyError String :=
  match value with
  | .str text =>
    if platform.strip text = "" then .error (invalidInput (field ++ " must be a non-empty string"))
    else .ok (platform.strip text)
  | _ => .error (invalidInput (field ++ " must be a non-empty string"))

def requiredString (value : Record) (field : String) : Except PyError String :=
  requiredValue platform (value.field field) ("event." ++ field)

def refFromMapping (value : Record) : Except PyError ResourceRef := do
  let kind ← item value "kind"
  let name ← item value "name"
  let version ← item value "version"
  return ⟨kind.text, name.text, version.text⟩

/-- The Event references of the triggers that are mappings with a mapping as their reference. -/
def triggerRefs (workflow : Resource) : Except PyError (List ResourceRef) := do
  let triggers := mappingField (mappingField workflow.data "spec") "triggers"
  let entries ← if triggers.truthy then iterate triggers else .ok []
  (entries.filterMap fun trigger => (mappingField trigger "eventRef").asRecord?).mapM refFromMapping

def validateResourcePair (event : Record) (workflow eventResource : Resource) : Except PyError Unit := do
  Result.raiseIf (workflow.ref.kind ≠ "Workflow") (invalidInput "workflow must be a loaded Workflow Resource")
  Result.raiseIf (eventResource.ref.kind ≠ "Event") (invalidInput "event_resource must be a loaded Event Resource")
  Result.raiseIf (workflow.ref.version = "latest" ∨ eventResource.ref.version = "latest")
    (invalidInput "WorkflowExecution requires explicit immutable Resource versions")
  let declared ← triggerRefs workflow
  Result.raiseIf (eventResource.ref ∉ declared) (invalidInput "event_resource is not a declared trigger of workflow")
  let eventSpec := mappingField eventResource.data "spec"
  Result.raiseIf (eventSpec.isMapping = false ∨
      ∃ field ∈ ["source", "type"], (event.field field).pyEq (mappingField eventSpec field) = false)
    (invalidInput "normalized Event does not match event_resource source and type")

def checkedOverrides : Json → Except PyError (Option Record)
  | .null => .ok none
  | .obj (entry :: rest) => .ok (some (entry :: rest))
  | _ => .error (invalidInput "budget_overrides must be a non-empty object")

def checked (request : Request) : Except PyError NewExecution := do
  let eventId ← requiredString platform request.event "id"
  let _ ← requiredString platform request.event "deduplicationKey"
  validateResourcePair request.event request.workflow request.eventResource
  let revision ← requiredValue platform request.repositoryRevision "repository_revision"
  let graphVersion ← requiredValue platform request.knowledgeGraphVersion "knowledge_graph_version"
  let createdAt ← requiredValue platform request.timestamp "timestamp"
  let budgetOverrides ← checkedOverrides request.budgetOverrides
  return {
    eventId, workflowRef := request.workflow.ref, eventRef := request.eventResource.ref, revision, graphVersion
    createdAt, budgetOverrides }

def prepare (request : Request) : Except PyError (NewExecution × Record) := do
  let new ← checked platform request
  let creationEvent ← startedEvent platform (new.record platform)
  validateRuntimeRecord platform (new.record platform) "workflowexecution.schema.json"
  validateRuntimeRecord platform creationEvent "executionevent.schema.json"
  return (new, creationEvent)

def creationEventFor (record creationEvent execution : Record) : Except PyError Record :=
  if (Json.obj execution).pyEq (.obj record) then .ok creationEvent
  else do
    let rebuilt ← startedEvent platform execution
    validateRuntimeRecord platform rebuilt "executionevent.schema.json"
    return rebuilt

end Checks

def perform (call : Call) : Prog Record := .call call Program.liftExcept

def create (platform : Platform) (request : Request) : Prog Record := do
  let (new, creationEvent) ← Program.liftExcept (prepare platform request)
  let execution ← perform (.create (new.record platform) (executionKey new.identity))
  let event ← Program.liftExcept (creationEventFor platform (new.record platform) creationEvent execution)
  let _ ← perform (.appendEvent event)
  return execution

end Aep.WorkflowExecution

namespace Aep.WorkflowExecution

open RuntimeStore WorkflowScheduler

/-- What a creation relies on: uuid5 has no collisions, and the schemas accept only references without a colon and do
    not look into a payload. -/
structure Assumed (platform : Platform) : Prop where
  uuid5_injective : Function.Injective platform.uuid5
  references : ∀ (new : NewExecution), platform.violation "workflowexecution.schema.json" (new.record platform) = none →
    ':' ∉ new.workflowRef.name.toList ∧ ':' ∉ new.workflowRef.version.toList
  payloads : ∀ (event payload other : Record),
    platform.violation "executionevent.schema.json" (event ++ [("payload", .obj payload)]) = none →
    platform.violation "executionevent.schema.json" (event ++ [("payload", .obj other)]) = none

section Identifiers

theorem split_at_first {separator : Char} {first second last other : List Char} (clean : separator ∉ first)
    (cleanLast : separator ∉ last) (same : first ++ separator :: second = last ++ separator :: other) :
    first = last ∧ second = other := by
  induction first generalizing last with
  | nil =>
    cases last with
    | nil => exact ⟨rfl, (List.cons.inj same).2⟩
    | cons head tail => exact absurd ((List.cons.inj same).1 ▸ List.mem_cons_self) cleanLast
  | cons head tail ih =>
    cases last with
    | nil => exact absurd ((List.cons.inj same).1 ▸ List.mem_cons_self) clean
    | cons other rest =>
      obtain ⟨heads, tails⟩ := List.cons.inj same
      obtain ⟨rests, seconds⟩ := ih (fun member => clean (List.mem_cons_of_mem _ member))
        (fun member => cleanLast (List.mem_cons_of_mem _ member)) tails
      exact ⟨by rw [heads, rests], seconds⟩

theorem split_at_last {separator : Char} {first second last other : List Char} (clean : separator ∉ second)
    (cleanOther : separator ∉ other) (same : first ++ separator :: second = last ++ separator :: other) :
    first = last ∧ second = other := by
  have reversed := congrArg List.reverse same
  simp only [List.reverse_append, List.reverse_cons, List.append_assoc, List.singleton_append] at reversed
  obtain ⟨seconds, firsts⟩ := split_at_first (by simpa using clean) (by simpa using cleanOther) reversed
  exact ⟨List.reverse_injective firsts, List.reverse_injective seconds⟩

theorem identityOf_injective {eventId other : String} {ref otherRef : ResourceRef} (kind : ref.kind = otherRef.kind)
    (name : ':' ∉ ref.name.toList) (otherName : ':' ∉ otherRef.name.toList) (version : ':' ∉ ref.version.toList)
    (otherVersion : ':' ∉ otherRef.version.toList) (named : ref.kind = "Workflow")
    (same : identityOf eventId ref = identityOf other otherRef) : eventId = other ∧ ref = otherRef := by
  obtain ⟨refKind, refName, refVersion⟩ := ref
  obtain ⟨otherKind, otherRefName, otherRefVersion⟩ := otherRef
  simp only at kind named name otherName version otherVersion
  subst kind
  subst named
  have texts := congrArg String.toList same
  have split (left right : String) : (left ++ ":" ++ right).toList = left.toList ++ ':' :: right.toList := by simp
  have regroup (id tail last : String) :
      (identityOf id ⟨"Workflow", tail, last⟩) = (id ++ ":" ++ ("Workflow/" ++ tail)) ++ ":" ++ last := by
    simp [identityOf, refIdentity, String.append_assoc]
  rw [regroup, regroup, split (eventId ++ _ ++ _), split (other ++ _ ++ _)] at texts
  obtain ⟨prefixes, versions⟩ := split_at_last version otherVersion texts
  rw [split, split] at prefixes
  have clean (tail : String) (absent : ':' ∉ tail.toList) : ':' ∉ ("Workflow/" ++ tail).toList := by
    simpa using absent
  obtain ⟨events, names⟩ := split_at_last (clean _ name) (clean _ otherName) prefixes
  have nameEq : refName = otherRefName := (String.append_right_inj _).mp (String.toList_injective names)
  exact ⟨String.toList_injective events, by rw [nameEq, String.toList_injective versions]⟩

variable {platform : Platform}

theorem executionKey_injective {identity other : String} (same : executionKey identity = executionKey other) :
    identity = other := by
  unfold executionKey at same
  exact (String.append_right_inj _).mp same

theorem executionId_injective (assumed : Assumed platform) {identity other : String}
    (same : executionId platform identity = executionId platform other) : identity = other := by
  unfold executionId at same
  have names := assumed.uuid5_injective ((String.append_right_inj _).mp same)
  exact (String.append_right_inj _).mp names

theorem traceId_injective (assumed : Assumed platform) {identity other : String}
    (same : traceId platform identity = traceId platform other) : identity = other := by
  unfold traceId at same
  have names := assumed.uuid5_injective ((String.append_right_inj _).mp same)
  exact (String.append_right_inj _).mp names

theorem startedEventId_injective (assumed : Assumed platform) {id other : String}
    (same : startedEventId platform id = startedEventId platform other) : id = other := by
  unfold startedEventId at same
  have names := assumed.uuid5_injective ((String.append_right_inj _).mp same)
  exact (String.append_right_inj _).mp ((String.append_left_inj _).mp names)

theorem eventKey_injective {id other : String} (same : eventKey id = eventKey other) : id = other := by
  unfold eventKey at same
  exact (String.append_right_inj _).mp same

theorem executionKey_ne_eventKey (identity id : String) : executionKey identity ≠ eventKey id := by
  intro same
  unfold executionKey eventKey at same
  have heads := congrArg (fun text : String => text.toList.head?) same
  simp at heads

theorem executionId_ne_startedEventId (identity id : String) :
    executionId platform identity ≠ startedEventId platform id := by
  intro same
  unfold executionId startedEventId at same
  have heads := congrArg (fun text : String => text.toList.head?) same
  simp at heads

end Identifiers

section Prepared

variable {platform : Platform} {request : Request} {new : NewExecution} {event : Record}

namespace NewExecution

def startedHead (platform : Platform) (new : NewExecution) : Record :=
  let executionId := executionId platform new.identity
  [ ("apiVersion", .str "aep.dev/v1alpha1"), ("kind", .str "ExecutionEvent"),
    ("id", .str (startedEventId platform executionId)), ("traceId", .str (traceId platform new.identity)),
    ("createdAt", .str new.createdAt), ("updatedAt", .str new.createdAt),
    ("provenance", .obj [("actor", .str "workflow-controller"), ("workflowExecutionId", .str executionId),
      ("repositoryRevision", .str new.revision), ("knowledgeGraphVersion", .str new.graphVersion),
      ("resourceRefs", .arr [.obj (refRecord new.workflowRef), .obj (refRecord new.eventRef)])]),
    ("eventType", .str "WorkflowExecutionStarted"),
    ("subject", .obj [("kind", .str "WorkflowExecution"), ("id", .str executionId)]), ("sequence", .int 1),
    ("emittedAt", .str new.createdAt)]

def startedRecord (platform : Platform) (new : NewExecution) (status : Json) : Record :=
  new.startedHead platform ++ [("payload", .obj [("status", status), ("eventId", .str new.eventId)])]

end NewExecution

theorem startedEvent_record (new : NewExecution) :
    startedEvent platform (new.record platform) = .ok (new.startedRecord platform (.str "RUNNING")) := rfl

structure Prepared (platform : Platform) (request : Request) (new : NewExecution) (event : Record) : Prop where
  workflowRef : new.workflowRef = request.workflow.ref
  kind : new.workflowRef.kind = "Workflow"
  event_eq : event = new.startedRecord platform (.str "RUNNING")
  record_valid : platform.violation "workflowexecution.schema.json" (new.record platform) = none
  event_valid : platform.violation "executionevent.schema.json" event = none

theorem validated_ok {schema : String} {record : Record} {error : String × String → PyError}
    (passed : validated platform schema record error = .ok ()) : platform.violation schema record = none := by
  unfold validated at passed
  cases found : platform.violation schema record with
  | none => rfl
  | some violated => simp [found] at passed

theorem validateResourcePair_ok {mapping : Record} {workflow eventResource : Resource}
    (passed : validateResourcePair mapping workflow eventResource = .ok ()) : workflow.ref.kind = "Workflow" := by
  unfold validateResourcePair at passed
  by_contra other
  rw [Result.raiseIf_pos other] at passed
  cases passed

theorem prepare_ok (prepared : prepare platform request = .ok (new, event)) :
    Prepared platform request new event := by
  simp only [prepare, startedEvent_record, Result.bind_eq_ok, Result.ok_bind, Result.pure_eq_ok, Prod.mk.injEq]
    at prepared
  obtain ⟨built, passed, _, recordValid, _, eventValid, rfl, rfl⟩ := prepared
  simp only [checked, Result.bind_eq_ok, Result.pure_eq_ok] at passed
  obtain ⟨eventId, -, -, -, _, pair, revision, -, graphVersion, -, createdAt, -, budgetOverrides, -, rfl⟩ := passed
  exact ⟨rfl, validateResourcePair_ok pair, rfl, validated_ok recordValid, validated_ok eventValid⟩

end Prepared

end Aep.WorkflowExecution
