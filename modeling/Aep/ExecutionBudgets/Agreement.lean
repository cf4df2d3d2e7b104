import Aep.ExecutionBudgets.Narrowing
import Mathlib.Data.List.Sort
import Mathlib.Tactic.NormNum

/-! The budget evidence of a WorkflowExecution and its Tasks, and the loader's check of the hierarchy behind it. -/
namespace Aep.ExecutionBudgets

open Result

structure Resource where
  ref : Reference
  data : Record

/-- `spec`, where anything but a mapping reads as an empty one. -/
def Resource.spec (resource : Resource) : Record := ((resource.data.field "spec").asRecord?).getD []

/-- `ResourceRef.from_mapping`. -/
def fromMapping (value : Record) : Except PyError Reference :=
  match value.get? "kind", value.get? "name", value.get? "version" with
  | some kind, some name, some version => .ok ⟨kind.text, name.text, version.text⟩
  | _, _, _ => .error { errorClass := .keyError, message := "kind, name, version" }

section Loader

variable (index : Reference → Option Resource)

def agentOf (agentRef : Json) : Except PyError (Option Resource) :=
  match agentRef with
  | .obj ref => index <$> fromMapping ref
  | _ => .ok none

def loadedDeclarations (workflow : Resource) (workflowSpec : Record) (task : Resource) (taskSpec : Record)
    (agent : Option Resource) : BudgetDeclarations where
  workflowBudget := workflowSpec.field "budget"
  taskBudget := taskSpec.field "budget"
  agentBudget := ((agent.map Resource.spec).getD []).field "budget"
  workflowRef := some workflow.ref.asRecord
  taskRef := some task.ref.asRecord
  agentRef := agent.map fun agent => agent.ref.asRecord

def validationError {α : Type} : Except PyError α → Except PyError α
  | .error error => .error (if error.errorClass = .executionBudgetError then { error with errorClass := .valueError } else error)
  | .ok value => .ok value

def validateTask (workflow : Resource) (workflowSpec : Record) (task : Resource) : Except PyError Unit :=
  match task.data.field "spec" with
  | .obj taskSpec => do
    let agent ← agentOf index (Dict.field taskSpec "agentRef")
    validationError (validateBudgetNarrowing (loadedDeclarations workflow workflowSpec task taskSpec agent))
  | _ => .ok ()

def validateEntry (workflow : Resource) (workflowSpec : Record) (entry : Json) : Except PyError Unit :=
  match (entry.asRecord?.map fun fields => fields.field "taskRef").getD .null with
  | .obj ref => do
    let taskRef ← fromMapping ref
    match index taskRef with
    | some task => if task.ref.kind ≠ "Task" then .ok () else validateTask index workflow workflowSpec task
    | none => .ok ()
  | _ => .ok ()

/-- The entries of `tasks`. What a string or a mapping iterates over are strings, which are skipped. -/
def taskEntries (workflowSpec : Record) : Except PyError (List Json) :=
  match (workflowSpec.get? "tasks").getD (.arr []) with
  | .arr entries => .ok entries
  | .str _ | .obj _ => .ok []
  | _ => .error { errorClass := .typeError, message := "object is not iterable" }

def validateWorkflow (workflow : Resource) : Except PyError Unit :=
  match workflow.data.field "spec" with
  | .obj workflowSpec => do
    let entries ← taskEntries workflowSpec
    entries.forM (validateEntry index workflow workflowSpec)
  | _ => .ok ()

def validateExecutionBudgetHierarchy (resources : List Resource) : Except PyError Unit :=
  (resources.filter fun resource => resource.ref.kind = "Workflow").forM (validateWorkflow index)

end Loader

section Prepare

variable (resources : Reference → Option Resource)

/-- `TaskBudgetManager._resource`. -/
def resourceFor (ref : Json) : Option Resource :=
  match ref with
  | .obj fields =>
    match fromMapping fields with
    | .ok ref => resources ref
    | .error _ => none
  | _ => none

def preparedDeclarations (workflowExecution : Record) (task agent : Resource) : BudgetDeclarations where
  workflowBudget :=
    ((resourceFor resources (workflowExecution.field "workflowRef")).map Resource.spec |>.getD []).field "budget"
  taskBudget := task.spec.field "budget"
  agentBudget := agent.spec.field "budget"
  workflowRef := (referenceRecord (workflowExecution.field "workflowRef").asRecord?).map Reference.asRecord
  taskRef := some task.ref.asRecord
  agentRef := some agent.ref.asRecord

/-- The budget that `prepare` resolves. -/
def preparedBudget (workflowExecution : Record) (task agent model : Resource) : Except PyError ResolvedExecutionBudget :=
  resolveExecutionBudget (preparedDeclarations resources workflowExecution task agent)
    (workflowExecution.field "budgetOverrides") (model.spec.field "tokenLimit") (model.spec.field "pricing")

end Prepare

namespace ResolvedExecutionBudget

variable (resolved : ResolvedExecutionBudget)

def hasLimits : Bool := [resolved.workflow, resolved.task, resolved.agent].any fun scope => scope.any fun entry => entry.2.isSome

def scopeRecord (limits : ScopeLimits) : Json :=
  .obj (limits.map fun entry => (entry.1.name, (entry.2.map fun limit => Json.obj limit.asRecord).getD .null))

def scopes : Json :=
  .obj [("workflow", scopeRecord resolved.workflow), ("task", scopeRecord resolved.task), ("agent", scopeRecord resolved.agent)]

def workflowRecord (resolvedAt : String) : Record :=
  [("limits", scopeRecord resolved.workflow), ("resolvedAt", .str resolvedAt),
    ("resourceRefs", .arr ((resolved.resourceRefs.filter fun ref => ref.kind = "Workflow").map Reference.toJson))]

def taskRecord (resolvedAt : String) : Record :=
  [("scopes", resolved.scopes), ("modelOutputTokenLimit", (resolved.modelOutputTokenLimit.map Json.int).getD .null),
    ("pricing", (resolved.modelPricing.map Json.obj).getD .null), ("resolvedAt", .str resolvedAt),
    ("resourceRefs", .arr (resolved.resourceRefs.map Reference.toJson))]

end ResolvedExecutionBudget

section Evidence

def withoutResolutionTime (value : Record) : Record := value.filter fun entry => entry.1 ≠ "resolvedAt"

/-- What one record changes: evidence is written once, and must agree from then on. -/
def evidenceChanges (existing : Json) (expected : Record) (kind : String) : Except PyError Record :=
  match existing with
  | .null => .ok [("executionBudget", .obj expected)]
  | .obj fields =>
    if Json.pyEq (.obj (withoutResolutionTime fields)) (.obj (withoutResolutionTime expected)) then .ok []
    else executionBudgetError (kind ++ ".executionBudget does not match the resolved execution budget")
  | _ => .error { errorClass := .typeError, message := "executionBudget is no mapping" }

/-- `mutate` of `_initialize_evidence`, from the two records that the store holds. -/
def initializeEvidence (resolved : ResolvedExecutionBudget) (timestamp : String) (workflow task : Record) :
    Except PyError (Record × Record) := do
  let workflowChanges ← evidenceChanges (workflow.field "executionBudget") (resolved.workflowRecord timestamp) "WorkflowExecution"
  let taskChanges ← evidenceChanges (task.field "executionBudget") (resolved.taskRecord timestamp) "TaskExecution"
  pure (workflowChanges, taskChanges)

end Evidence

end Aep.ExecutionBudgets

/-! What the loader accepts resolves at run time, and the Tasks of one WorkflowExecution agree on its evidence. -/
namespace Aep.ExecutionBudgets

open Result

section Loaded

variable {index : Reference → Option Resource}

theorem forM_ok {α : Type} {check : α → Except PyError Unit} {items : List α} :
    items.forM check = .ok () ↔ ∀ item ∈ items, check item = .ok () := by
  induction items with
  | nil => exact ⟨fun _ _ member => absurd member List.not_mem_nil, fun _ => rfl⟩
  | cons item rest ih =>
    rw [List.forall_mem_cons, ← ih]
    change (check item >>= fun _ => rest.forM check) = .ok () ↔ _
    rw [bind_eq_ok]
    constructor
    · rintro ⟨_, first, others⟩
      exact ⟨first, others⟩
    · intro both
      exact ⟨(), both.1, both.2⟩

/-- A Task of a Workflow, with the Agent that it names, as the loader comes to them. -/
structure Hierarchy (index : Reference → Option Resource) (resources : List Resource) (workflow task agent : Resource) : Prop where
  listed : workflow ∈ resources
  workflowKind : workflow.ref.kind = "Workflow"
  named : ∃ workflowSpec entries entry ref taskRef, workflow.data.field "spec" = .obj workflowSpec ∧
    Dict.field workflowSpec "tasks" = .arr entries ∧ .obj entry ∈ entries ∧ Dict.field entry "taskRef" = .obj ref ∧
    fromMapping ref = .ok taskRef ∧ index taskRef = some task
  taskKind : task.ref.kind = "Task"
  chosen : ∃ taskSpec ref agentRef, task.data.field "spec" = .obj taskSpec ∧ Dict.field taskSpec "agentRef" = .obj ref ∧
    fromMapping ref = .ok agentRef ∧ index agentRef = some agent

theorem hierarchy_accepted {resources : List Resource} {workflow task agent : Resource}
    (accepted : validateExecutionBudgetHierarchy index resources = .ok ())
    (hierarchy : Hierarchy index resources workflow task agent) :
    validateBudgetNarrowing (loadedDeclarations workflow workflow.spec task task.spec (some agent)) = .ok () := by
  obtain ⟨listed, workflowKind, ⟨workflowSpec, entries, entry, ref, taskRef, workflowData, tasks, member, taskNamed, taskRead,
    taskFound⟩, taskKind, ⟨taskSpec, agentMapping, agentRef, taskData, agentNamed, agentRead, agentFound⟩⟩ := hierarchy
  have workflowChecked := forM_ok.mp accepted workflow (List.mem_filter.mpr ⟨listed, by simpa using workflowKind⟩)
  have given : (Dict.get? workflowSpec "tasks").getD (.arr []) = .arr entries := by
    rw [Dict.get?_of_field tasks (by simp)]
    rfl
  simp only [validateWorkflow, workflowData, taskEntries, given, ok_bind] at workflowChecked
  have entryChecked := forM_ok.mp workflowChecked _ member
  simp only [validateEntry, Json.asRecord?_obj, Option.map_some, Option.getD_some, taskNamed, taskRead, ok_bind, taskFound,
    taskKind, ne_eq, not_true_eq_false, if_false, validateTask, taskData, agentNamed, agentOf, agentRead, map_ok,
    agentFound] at entryChecked
  have sameWorkflow : workflow.spec = workflowSpec := by
    rw [Resource.spec, workflowData]
    rfl
  have sameTask : task.spec = taskSpec := by
    rw [Resource.spec, taskData]
    rfl
  rw [sameWorkflow, sameTask]
  cases validated : validateBudgetNarrowing (loadedDeclarations workflow workflowSpec task taskSpec (some agent)) with
  | ok => rfl
  | error error =>
    rw [validated] at entryChecked
    cases entryChecked

theorem loaded_resolves {resources : List Resource} {workflow task agent model : Resource} {workflowExecution : Record}
    (accepted : validateExecutionBudgetHierarchy index resources = .ok ())
    (hierarchy : Hierarchy index resources workflow task agent)
    (started : resourceFor index (workflowExecution.field "workflowRef") = some workflow)
    (free : workflowExecution.field "budgetOverrides" = .null)
    (valid : ValidModel (model.spec.field "tokenLimit") (model.spec.field "pricing")) :
    ∃ resolved, preparedBudget index workflowExecution task agent model = .ok resolved := by
  have narrows := validateBudgetNarrowing_ok.mp (hierarchy_accepted accepted hierarchy)
  have prepared : Narrows (preparedDeclarations index workflowExecution task agent) := by
    constructor
    all_goals simp only [preparedDeclarations, started, Option.map_some, Option.getD_some]
    · exact narrows.workflow
    · exact narrows.task
    · exact narrows.agent
    · exact narrows.taskWithin
    · exact narrows.agentWithin
    · exact narrows.agentWithinTask
  apply resolveExecutionBudget_total prepared ?_ ?_ valid
  · rw [free]
    exact ⟨_, rfl⟩
  · rw [free]
    exact fun field => .inl rfl

end Loaded

section Shared

theorem refKey_asRecord {ref key : Reference} (found : refKey ref.asRecord = some key) : key.kind = ref.kind := by
  simp only [refKey, Option.ite_none_right_eq_some] at found
  obtain ⟨_, complete⟩ := found
  cases complete
  rfl

theorem workflow_refs (workflowRef : Option Record) {task agent : Reference} (taskKind : task.kind ≠ "Workflow")
    (agentKind : agent.kind ≠ "Workflow") :
    (resourceRefs [workflowRef, some task.asRecord, some agent.asRecord]).filter (fun ref => ref.kind = "Workflow") =
      (workflowRef.bind refKey).toList.filter fun ref => ref.kind = "Workflow" := by
  have perm : ((resourceRefs [workflowRef, some task.asRecord, some agent.asRecord]).filter fun ref => ref.kind = "Workflow").Perm
      ((workflowRef.bind refKey).toList.filter fun ref => ref.kind = "Workflow") := by
    apply (List.perm_ext_iff_of_nodup ?_ ?_).mpr
    · intro ref
      simp only [List.mem_filter, resourceRefs, List.mem_mergeSort, List.mem_dedup, List.mem_filterMap, List.mem_cons,
        List.not_mem_nil, or_false, decide_eq_true_eq, Option.mem_toList]
      constructor
      · rintro ⟨⟨found, rfl | rfl | rfl, key⟩, kind⟩
        · exact ⟨key, kind⟩
        · exact absurd (refKey_asRecord key ▸ kind) taskKind
        · exact absurd (refKey_asRecord key ▸ kind) agentKind
      · rintro ⟨key, kind⟩
        exact ⟨⟨workflowRef, .inl rfl, key⟩, kind⟩
    · exact ((List.mergeSort_perm _ _).nodup_iff.mpr (List.nodup_dedup _)).filter _
    · cases workflowRef.bind refKey <;> exact (by simp : List.Nodup _).filter _
  cases short : (workflowRef.bind refKey).toList.filter fun ref => ref.kind = "Workflow" with
  | nil =>
    rw [short] at perm
    exact perm.eq_nil
  | cons ref rest =>
    have alone : rest = [] := by
      cases key : workflowRef.bind refKey with
      | none => simp [key] at short
      | some found =>
        rw [key] at short
        have length := congrArg List.length short
        have bound := List.length_filter_le (fun ref : Reference => decide (ref.kind = "Workflow")) (some found).toList
        rw [length] at bound
        simpa using bound
    subst alone
    rw [short] at perm
    exact List.perm_singleton.mp perm

variable {ι : Type}

/-- One WorkflowExecution whose Resources do not change, and the Task, the Agent and the Model of each of its Tasks. -/
structure Execution (ι : Type) where
  resources : Reference → Option Resource
  workflowRef : Json
  budgetOverrides : Json
  task : ι → Resource
  agent : ι → Resource
  model : ι → Resource
  taskKind : ∀ id, (task id).ref.kind = "Task"
  agentKind : ∀ id, (agent id).ref.kind = "Agent"

namespace Execution

variable (execution : Execution ι)

/-- A record of the WorkflowExecution, as a caller may have read it at any time. -/
def Reads (snapshot : Record) : Prop :=
  snapshot.field "workflowRef" = execution.workflowRef ∧ snapshot.field "budgetOverrides" = execution.budgetOverrides

/-- `prepare` of a Task resolves this budget, and it has limits. -/
def Resolves (id : ι) (resolved : ResolvedExecutionBudget) : Prop :=
  ∃ snapshot, execution.Reads snapshot ∧
    preparedBudget execution.resources snapshot (execution.task id) (execution.agent id) (execution.model id) = .ok resolved ∧
    resolved.hasLimits = true

variable {execution} {id other : ι} {resolved earlier : ResolvedExecutionBudget}

theorem resolves_unique (now : execution.Resolves id resolved) (before : execution.Resolves id earlier) : resolved = earlier := by
  obtain ⟨snapshot, reads, resolution, -⟩ := now
  obtain ⟨older, olderReads, olderResolution, -⟩ := before
  have same : preparedBudget execution.resources older (execution.task id) (execution.agent id) (execution.model id) =
      preparedBudget execution.resources snapshot (execution.task id) (execution.agent id) (execution.model id) := by
    simp only [preparedBudget, preparedDeclarations, reads.1, reads.2, olderReads.1, olderReads.2]
  rw [same, resolution] at olderResolution
  cases olderResolution
  rfl

theorem resolves_workflow (now : execution.Resolves id resolved) (before : execution.Resolves other earlier)
    (timestamp earlierTime : String) :
    withoutResolutionTime (resolved.workflowRecord timestamp) = withoutResolutionTime (earlier.workflowRecord earlierTime) := by
  obtain ⟨snapshot, reads, resolution, -⟩ := now
  obtain ⟨older, olderReads, olderResolution, -⟩ := before
  obtain ⟨-, -, -, -, ⟨workflow, override, declared, overriding, effective⟩, -, -, refs⟩ := resolveExecutionBudget_ok resolution
  obtain ⟨-, -, -, -, ⟨olderWorkflow, olderOverride, olderDeclared, olderOverriding, olderEffective⟩, -, -, olderRefs⟩ :=
    resolveExecutionBudget_ok olderResolution
  simp only [preparedDeclarations, reads.1, reads.2] at declared overriding refs
  simp only [preparedDeclarations, olderReads.1, olderReads.2] at olderDeclared olderOverriding olderRefs
  rw [declared] at olderDeclared
  rw [overriding] at olderOverriding
  cases olderDeclared
  cases olderOverriding
  have taskKind (id : ι) : (execution.task id).ref.kind ≠ "Workflow" := by simp [execution.taskKind id]
  have agentKind (id : ι) : (execution.agent id).ref.kind ≠ "Workflow" := by simp [execution.agentKind id]
  rw [ResolvedExecutionBudget.workflowRecord, ResolvedExecutionBudget.workflowRecord, effective, olderEffective, refs, olderRefs,
    workflow_refs _ (taskKind id) (agentKind id), workflow_refs _ (taskKind other) (agentKind other)]
  rfl

end Execution

structure Stored (ι : Type) where
  workflow : Record
  tasks : ι → Record

def Merged (changes before after : Record) : Prop :=
  after.field "executionBudget" = (changes.get? "executionBudget").getD (before.field "executionBudget")

variable (execution : Execution ι)

/-- A Task is prepared, or something else happens to the records: what it does to other fields is left open. -/
inductive Step : Stored ι → Stored ι → Prop
  | prepared {before after : Stored ι} (id : ι) (resolved : ResolvedExecutionBudget) (timestamp : String)
      (workflowChanges taskChanges : Record) (resolves : execution.Resolves id resolved)
      (written : initializeEvidence resolved timestamp before.workflow (before.tasks id) = .ok (workflowChanges, taskChanges))
      (workflow : Merged workflowChanges before.workflow after.workflow)
      (task : Merged taskChanges (before.tasks id) (after.tasks id))
      (others : ∀ other ≠ id, Merged [] (before.tasks other) (after.tasks other)) : Step before after
  | elsewhere {before after : Stored ι} (workflow : Merged [] before.workflow after.workflow)
      (tasks : ∀ id, Merged [] (before.tasks id) (after.tasks id)) : Step before after

def Fresh (stored : Stored ι) : Prop :=
  stored.workflow.field "executionBudget" = .null ∧ ∀ id, (stored.tasks id).field "executionBudget" = .null

/-- What evidence there is was resolved by a Task of the execution. -/
structure Agreed (stored : Stored ι) : Prop where
  workflow : stored.workflow.field "executionBudget" = .null ∨ ∃ id resolved timestamp, execution.Resolves id resolved ∧
    stored.workflow.field "executionBudget" = .obj (resolved.workflowRecord timestamp)
  tasks : ∀ id, (stored.tasks id).field "executionBudget" = .null ∨ ∃ resolved timestamp, execution.Resolves id resolved ∧
    (stored.tasks id).field "executionBudget" = .obj (resolved.taskRecord timestamp)

variable {execution}

theorem evidenceChanges_agrees {existing : Json} {expected changes : Record} {kind : String}
    (written : evidenceChanges existing expected kind = .ok changes) :
    (changes.get? "executionBudget").getD existing = .obj expected ∨ (changes.get? "executionBudget").getD existing = existing := by
  unfold evidenceChanges at written
  split at written
  · cases written
    exact .inl rfl
  · split at written
    · cases written
      exact .inr rfl
    · cases written
  · cases written

theorem evidenceChanges_same {existing : Json} {expected : Record} {kind : String}
    (same : existing = .null ∨ ∃ fields, existing = .obj fields ∧ withoutResolutionTime fields = withoutResolutionTime expected) :
    ∃ changes, evidenceChanges existing expected kind = .ok changes := by
  rcases same with rfl | ⟨fields, rfl, same⟩
  · exact ⟨_, rfl⟩
  · exact ⟨[], by simp [evidenceChanges, same]⟩

theorem step_agreed {before after : Stored ι} (step : Step execution before after) (agreed : Agreed execution before) :
    Agreed execution after := by
  cases step with
  | prepared id resolved timestamp workflowChanges taskChanges resolves written workflow task others =>
    simp only [initializeEvidence, bind_eq_ok, pure_eq_ok, Prod.mk.injEq] at written
    obtain ⟨_, workflowWritten, _, taskWritten, rfl, rfl⟩ := written
    constructor
    · rw [show _ = _ from workflow]
      rcases evidenceChanges_agrees workflowWritten with new | old
      · exact .inr ⟨id, resolved, timestamp, resolves, new⟩
      · rw [old]
        exact agreed.workflow
    · intro other
      by_cases same : other = id
      · subst same
        rw [show _ = _ from task]
        rcases evidenceChanges_agrees taskWritten with new | old
        · exact .inr ⟨resolved, timestamp, resolves, new⟩
        · rw [old]
          exact agreed.tasks other
      · rw [show _ = _ from others other same]
        exact agreed.tasks other
  | elsewhere workflow tasks =>
    constructor
    · rw [show _ = _ from workflow]
      exact agreed.workflow
    · intro id
      rw [show _ = _ from tasks id]
      exact agreed.tasks id

theorem run_agreed {first stored : Stored ι} (fresh : Fresh first) (run : Relation.ReflTransGen (Step execution) first stored) :
    Agreed execution stored := by
  induction run with
  | refl => exact ⟨.inl fresh.1, fun id => .inl (fresh.2 id)⟩
  | tail _ step ih => exact step_agreed step ih

theorem agreed_initializes {stored : Stored ι} (agreed : Agreed execution stored) {id : ι} {resolved : ResolvedExecutionBudget}
    (resolves : execution.Resolves id resolved) (timestamp : String) :
    ∃ changes, initializeEvidence resolved timestamp stored.workflow (stored.tasks id) = .ok changes := by
  have workflow : ∃ changes, evidenceChanges (stored.workflow.field "executionBudget") (resolved.workflowRecord timestamp)
      "WorkflowExecution" = .ok changes := by
    apply evidenceChanges_same
    rcases agreed.workflow with absent | ⟨other, earlier, earlierTime, before, evidence⟩
    · exact .inl absent
    · exact .inr ⟨_, evidence, Execution.resolves_workflow before resolves earlierTime timestamp⟩
  have task : ∃ changes, evidenceChanges ((stored.tasks id).field "executionBudget") (resolved.taskRecord timestamp)
      "TaskExecution" = .ok changes := by
    apply evidenceChanges_same
    rcases agreed.tasks id with absent | ⟨earlier, earlierTime, before, evidence⟩
    · exact .inl absent
    · rw [Execution.resolves_unique before resolves] at evidence
      exact .inr ⟨_, evidence, rfl⟩
  obtain ⟨workflowChanges, workflowWritten⟩ := workflow
  obtain ⟨taskChanges, taskWritten⟩ := task
  exact ⟨(workflowChanges, taskChanges), by simp only [initializeEvidence, workflowWritten, taskWritten, ok_bind]; rfl⟩

end Shared

section Hierarchies

/-- With a valid Model, the resolution without an execution budget accepts what the validation accepts. -/
def ResolvesValidated : Prop :=
  ∀ declarations tokenLimit pricing, ValidModel tokenLimit pricing →
    ((∃ resolved, resolveExecutionBudget declarations .null tokenLimit pricing = .ok resolved) ↔
      validateBudgetNarrowing declarations = .ok ())

def ResolvesLoaded : Prop :=
  ∀ index resources workflow task agent model workflowExecution,
    validateExecutionBudgetHierarchy index resources = .ok () → Hierarchy index resources workflow task agent →
    resourceFor index (Dict.field workflowExecution "workflowRef") = some workflow →
    Dict.field workflowExecution "budgetOverrides" = .null →
    ValidModel (model.spec.field "tokenLimit") (model.spec.field "pricing") →
    ∃ resolved, preparedBudget index workflowExecution task agent model = .ok resolved

/-- An execution budget must be valid, and none of its limits may exceed the Workflow's. -/
def ResolvesNarrowing : Prop :=
  ∀ declarations executionBudget tokenLimit pricing, ValidModel tokenLimit pricing →
    ((∃ resolved, resolveExecutionBudget declarations executionBudget tokenLimit pricing = .ok resolved) ↔
      validateBudgetNarrowing declarations = .ok () ∧ ValidBudget executionBudget ∧
        ∀ field limit, declaredBound executionBudget field = (limit : Rat) → limit ≤ declaredBound declarations.workflowBudget field)

def ResolvesLeast : Prop :=
  ∀ declarations executionBudget tokenLimit pricing resolved,
    resolveExecutionBudget declarations executionBudget tokenLimit pricing = .ok resolved → ∀ field,
      resolved.workflow.bound field = min (declaredBound declarations.workflowBudget field) (declaredBound executionBudget field) ∧
      resolved.task.bound field = min (resolved.workflow.bound field) (declaredBound declarations.taskBudget field) ∧
      resolved.agent.bound field = min (resolved.workflow.bound field) (declaredBound declarations.agentBudget field)

def Lowers (lower declaration : Json) : Prop := ∀ field, declaredBound lower field ≤ declaredBound declaration field

def ResolvesMonotone : Prop :=
  ∀ lower declarations lowerExecution executionBudget tokenLimit pricing narrowed resolved,
    Lowers lower.workflowBudget declarations.workflowBudget → Lowers lower.taskBudget declarations.taskBudget →
    Lowers lower.agentBudget declarations.agentBudget → Lowers lowerExecution executionBudget →
    resolveExecutionBudget lower lowerExecution tokenLimit pricing = .ok narrowed →
    resolveExecutionBudget declarations executionBudget tokenLimit pricing = .ok resolved → ∀ field,
      narrowed.workflow.bound field ≤ resolved.workflow.bound field ∧ narrowed.task.bound field ≤ resolved.task.bound field ∧
        narrowed.agent.bound field ≤ resolved.agent.bound field

/-- After any run, the evidence of any Task's budget is written or agrees with what is there. -/
def PreparesAgreeing : Prop :=
  ∀ (ι : Type) (execution : Execution ι) (first stored : Stored ι), Fresh first →
    Relation.ReflTransGen (Step execution) first stored → ∀ id resolved timestamp, execution.Resolves id resolved →
      ∃ changes, initializeEvidence resolved timestamp stored.workflow (stored.tasks id) = .ok changes

theorem resolvesNarrowing : ResolvesNarrowing := by
  intro declarations executionBudget tokenLimit pricing model
  have within : Within (declaredBound executionBudget) (declaredBound declarations.workflowBudget) ↔
      ∀ field limit, declaredBound executionBudget field = (limit : Rat) →
        limit ≤ declaredBound declarations.workflowBudget field := by
    apply forall_congr'
    intro field
    cases declaredBound executionBudget field with
    | top => simp
    | coe limit => simp
  rw [validateBudgetNarrowing_ok, ← within]
  constructor
  · rintro ⟨resolved, resolution⟩
    obtain ⟨narrows, valid, inside, -⟩ := resolveExecutionBudget_ok resolution
    exact ⟨narrows, valid, inside⟩
  · rintro ⟨narrows, valid, inside⟩
    exact resolveExecutionBudget_total narrows valid inside model

theorem resolvesValidated : ResolvesValidated := by
  intro declarations tokenLimit pricing model
  rw [resolvesNarrowing declarations .null tokenLimit pricing model]
  constructor
  · intro accepted
    exact accepted.1
  · intro accepted
    exact ⟨accepted, ⟨_, rfl⟩, fun field limit bound => by cases bound⟩

theorem resolvesLeast : ResolvesLeast := by
  intro declarations executionBudget tokenLimit pricing resolved resolution field
  obtain ⟨-, -, -, -, -, task, agent, -⟩ := resolveExecutionBudget_ok resolution
  exact ⟨resolved_workflow_bound resolution field, task field, agent field⟩

theorem resolvesMonotone : ResolvesMonotone := by
  intro lower declarations lowerExecution executionBudget tokenLimit pricing narrowed resolved workflowLower taskLower agentLower
    executionLower narrowing resolution field
  obtain ⟨narrowedWorkflow, narrowedTask, narrowedAgent⟩ := resolvesLeast _ _ _ _ _ narrowing field
  obtain ⟨resolvedWorkflow, resolvedTask, resolvedAgent⟩ := resolvesLeast _ _ _ _ _ resolution field
  have workflow : narrowed.workflow.bound field ≤ resolved.workflow.bound field := by
    rw [narrowedWorkflow, resolvedWorkflow]
    exact min_le_min (workflowLower field) (executionLower field)
  refine ⟨workflow, ?_, ?_⟩
  · rw [narrowedTask, resolvedTask]
    exact min_le_min workflow (taskLower field)
  · rw [narrowedAgent, resolvedAgent]
    exact min_le_min workflow (agentLower field)

/-- Validation at load time and resolution at run time agree, and every Task of an execution finds its evidence. -/
theorem budget_hierarchy_agrees :
    ResolvesValidated ∧ ResolvesLoaded ∧ ResolvesNarrowing ∧ ResolvesLeast ∧ ResolvesMonotone ∧ PreparesAgreeing := by
  refine ⟨resolvesValidated, ?_, resolvesNarrowing, resolvesLeast, resolvesMonotone, ?_⟩
  · intro index resources workflow task agent model workflowExecution accepted hierarchy started free valid
    exact loaded_resolves accepted hierarchy started free valid
  · intro ι execution first stored fresh run id resolved timestamp resolves
    exact agreed_initializes (run_agreed fresh run) resolves timestamp

/-- A Task that halves its Workflow's limit, with an execution budget between the two. -/
theorem budget_hierarchy_agrees_sample :
    let declarations : BudgetDeclarations :=
      { workflowBudget := .obj [("maxInputTokens", .int 10)], taskBudget := .obj [("maxInputTokens", .int 5)] }
    ∃ resolved, resolveExecutionBudget declarations (.obj [("maxInputTokens", .int 7)]) .null .null = .ok resolved ∧
      resolved.task.bound .maxInputTokens = (5 : Rat) := by
  intro declarations
  have valid : ValidModel .null .null := ⟨⟨none, rfl⟩, ⟨none, rfl⟩⟩
  have accepted : validateBudgetNarrowing declarations = .ok () := by decide +kernel
  obtain ⟨resolved, resolution⟩ := (budget_hierarchy_agrees.2.2.1 declarations (.obj [("maxInputTokens", .int 7)]) .null .null
    valid).mpr ⟨accepted, ⟨_, rfl⟩, by
      intro field limit bound
      have seven : declaredBound (.obj [("maxInputTokens", .int 7)]) .maxInputTokens = (7 : Rat) := rfl
      have ten : declaredBound declarations.workflowBudget .maxInputTokens = (10 : Rat) := rfl
      cases field with
      | maxInputTokens =>
        rw [← bound, seven, ten]
        exact WithTop.coe_le_coe.mpr (by norm_num)
      | _ => cases bound⟩
  refine ⟨resolved, resolution, ?_⟩
  have least := budget_hierarchy_agrees.2.2.2.1 _ _ _ _ _ resolution .maxInputTokens
  have ten : declaredBound declarations.workflowBudget .maxInputTokens = (10 : Rat) := rfl
  have seven : declaredBound (.obj [("maxInputTokens", .int 7)]) .maxInputTokens = (7 : Rat) := rfl
  have five : declaredBound declarations.taskBudget .maxInputTokens = (5 : Rat) := rfl
  rw [least.2.1, least.1, ten, seven, five, ← WithTop.coe_min, ← WithTop.coe_min]
  norm_num

end Hierarchies

end Aep.ExecutionBudgets
