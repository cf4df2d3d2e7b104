import Aep.Library.Json
import Aep.Library.Result
import Mathlib.Data.List.Sort

namespace Aep.WorkflowScheduler

structure ResourceRef where
  kind : String
  name : String
  version : String
  deriving DecidableEq

structure Resource where
  ref : ResourceRef
  data : Json

structure ResourceCollection where
  resources : List Resource

def ResourceCollection.get (collection : ResourceCollection) (ref : ResourceRef) : Option Resource :=
  collection.resources.reverse.find? fun resource => resource.ref = ref

def ResourceRef.fromMapping (value : Record) : Option ResourceRef := do
  return ⟨(← value.get? "kind").text, (← value.get? "name").text, (← value.get? "version").text⟩

def refFromRecord (value : Json) : Option ResourceRef := value.asRecord?.bind ResourceRef.fromMapping

def refRecord (ref : ResourceRef) : Record :=
  [("kind", .str ref.kind), ("name", .str ref.name), ("version", .str ref.version)]

def formatRef (ref : ResourceRef) : String := ref.kind ++ "/" ++ ref.name ++ ":" ++ ref.version

structure TaskPlanNode where
  taskRef : ResourceRef
  task : Resource
  dependencies : List ResourceRef
  dependents : List ResourceRef

structure TaskDagPlan where
  workflowRef : ResourceRef
  nodes : List TaskPlanNode
  readyGroups : List (List ResourceRef)

def TaskDagPlan.topologicalOrder (plan : TaskDagPlan) : List ResourceRef := plan.nodes.map TaskPlanNode.taskRef

def TaskDagPlan.getNode (plan : TaskDagPlan) (taskRef : ResourceRef) : Option TaskPlanNode :=
  plan.nodes.find? fun node => node.taskRef = taskRef

structure TaskDagResolutionError where
  code : String
  message : String
  details : Record

section Entries

variable (workflow : Resource)

def invalidGraph (message : String) : TaskDagResolutionError :=
  ⟨"invalid_workflow_graph", formatRef workflow.ref ++ ": " ++ message, [("workflowRef", .obj (refRecord workflow.ref))]⟩

def taskEntries : Except TaskDagResolutionError (List Record) :=
  match (mappingTasks.bind Json.asItems?).filter (!·.isEmpty) with
  | none => .error (invalidGraph workflow "spec.tasks must be a non-empty array")
  | some values =>
    match values.mapM Json.asRecord? with
    | none => .error (invalidGraph workflow "every spec.tasks entry must be an object")
    | some entries => .ok entries
where
  mappingTasks : Option Json := do (← ((← workflow.data.asRecord?).get? "spec").bind Json.asRecord?).get? "tasks"

def parseTaskRef (value : Json) (location : String) : Except TaskDagResolutionError ResourceRef :=
  match refFromRecord value with
  | none => .error (invalidGraph workflow (location ++ " must be an explicit Task Resource reference"))
  | some ref =>
    if ref.kind ≠ "Task" ∨ ref.version = "latest" then
      .error (invalidGraph workflow (location ++ " must reference an explicit Task version"))
    else .ok ref

def location (index : Nat) (field : String) : String := "spec.tasks[" ++ toString index ++ "]." ++ field

def parseDependencies (index : Nat) : Nat → List Json → Except TaskDagResolutionError (List ResourceRef)
  | _, [] => .ok []
  | position, value :: rest => do
    let ref ← parseTaskRef workflow value (location index "dependsOn[" ++ toString position ++ "]")
    return ref :: (← parseDependencies index (position + 1) rest)

structure Declaration where
  taskRef : ResourceRef
  task : Resource
  dependencies : List ResourceRef

def duplicateTask (taskRef : ResourceRef) (first index : Nat) : TaskDagResolutionError :=
  ⟨"duplicate_task_identity",
    formatRef workflow.ref ++ " declares duplicate Task node " ++ formatRef taskRef,
    [("workflowRef", .obj (refRecord workflow.ref)), ("taskRef", .obj (refRecord taskRef)),
      ("firstIndex", .int first), ("duplicateIndex", .int index)]⟩

def missingTask (taskRef : ResourceRef) (index : Nat) : TaskDagResolutionError :=
  ⟨"missing_task_resource", formatRef workflow.ref ++ " cannot resolve Task node " ++ formatRef taskRef,
    [("workflowRef", .obj (refRecord workflow.ref)), ("taskRef", .obj (refRecord taskRef)), ("index", .int index)]⟩

def dependencyValues (entry : Record) : Option (List Json) := ((entry.get? "dependsOn").getD (.arr [])).asItems?

def declaration (resources : ResourceCollection) (earlier : List ResourceRef) (index : Nat) (entry : Record) :
    Except TaskDagResolutionError Declaration := do
  let taskRef ← parseTaskRef workflow (entry.field "taskRef") (location index "taskRef")
  if taskRef ∈ earlier then .error (duplicateTask workflow taskRef (earlier.idxOf taskRef) index)
  else match (resources.get taskRef).filter fun task => task.ref.kind = "Task" with
    | none => .error (missingTask workflow taskRef index)
    | some task =>
      match dependencyValues entry with
      | none => .error (invalidGraph workflow (location index "dependsOn must be an array"))
      | some values => do
        let dependencies ← parseDependencies workflow index 0 values
        if dependencies.Nodup then return ⟨taskRef, task, dependencies⟩
        else .error (invalidGraph workflow (location index "dependsOn contains a duplicate Task reference"))

def declarations (resources : ResourceCollection) : List Declaration → List Record →
    Except TaskDagResolutionError (List Declaration)
  | earlier, [] => .ok earlier
  | earlier, entry :: rest => do
    let next ← declaration workflow resources (earlier.map Declaration.taskRef) earlier.length entry
    declarations resources (earlier ++ [next]) rest

def missingDependency (taskRef dependencyRef : ResourceRef) : TaskDagResolutionError :=
  ⟨"missing_dependency_node",
    formatRef taskRef ++ " depends on Task node " ++ formatRef dependencyRef ++ " that is not declared in " ++
      formatRef workflow.ref,
    [("workflowRef", .obj (refRecord workflow.ref)), ("taskRef", .obj (refRecord taskRef)),
      ("dependencyRef", .obj (refRecord dependencyRef))]⟩

def undeclared (declared : List Declaration) : Option (ResourceRef × ResourceRef) :=
  declared.findSome? fun node =>
    (node.dependencies.find? (· ∉ declared.map Declaration.taskRef)).map fun missing => (node.taskRef, missing)

end Entries

section Ordering

variable (declared : List Declaration)

def dependentsOf (taskRef : ResourceRef) : List ResourceRef :=
  (declared.filter fun node => taskRef ∈ node.dependencies).map Declaration.taskRef

def initialIndegree : Dict ResourceRef Int := declared.map fun node => (node.taskRef, (node.dependencies.length : Int))

def inDeclarationOrder (refs : List ResourceRef) : List ResourceRef :=
  let position (ref : ResourceRef) := (declared.map Declaration.taskRef).idxOf ref
  refs.insertionSort fun left right => position left ≤ position right

def release (state : Dict ResourceRef Int × List ResourceRef) (dependent : ResourceRef) :
    Dict ResourceRef Int × List ResourceRef :=
  let left := (state.1.get? dependent).getD 0 - 1
  (state.1.set dependent left, if left = 0 then state.2 ++ [dependent] else state.2)

def releaseGroup (indegree : Dict ResourceRef Int) (group : List ResourceRef) :
    Dict ResourceRef Int × List ResourceRef :=
  (group.flatMap (dependentsOf declared)).foldl release (indegree, [])

/-- The ready groups from one on, and what is left of the indegrees. Every group takes Tasks away, so there are no
    more rounds than Tasks. -/
def readyGroups : Nat → Dict ResourceRef Int → List ResourceRef → List (List ResourceRef) × Dict ResourceRef Int
  | 0, indegree, _ => ([], indegree)
  | _ + 1, indegree, [] => ([], indegree)
  | rounds + 1, indegree, ready =>
    let (next, released) := releaseGroup declared indegree ready
    let (groups, last) := readyGroups rounds next (inDeclarationOrder declared released)
    (ready :: groups, last)

def initiallyReady : List ResourceRef := (declared.filter fun node => node.dependencies = []).map Declaration.taskRef

def cyclicTasks (workflow : Resource) (refs : List ResourceRef) : TaskDagResolutionError :=
  ⟨"cyclic_task_dependency", formatRef workflow.ref ++ " contains a cyclic Task dependency",
    [("workflowRef", .obj (refRecord workflow.ref)), ("taskRefs", .arr (refs.map fun ref => .obj (refRecord ref)))]⟩

def planNode (ref : ResourceRef) : Option TaskPlanNode :=
  (declared.find? fun node => node.taskRef = ref).map fun node =>
    ⟨node.taskRef, node.task, node.dependencies, dependentsOf declared node.taskRef⟩

end Ordering

def resolveTaskDag (workflow : Resource) (resources : ResourceCollection) : Except TaskDagResolutionError TaskDagPlan := do
  let entries ← taskEntries workflow
  let declared ← declarations workflow resources [] entries
  match undeclared declared with
  | some (taskRef, dependencyRef) => .error (missingDependency workflow taskRef dependencyRef)
  | none =>
    let (groups, indegree) :=
      readyGroups declared declared.length (initialIndegree declared) (initiallyReady declared)
    let order := groups.flatten
    if order.length = declared.length then
      return ⟨workflow.ref, order.filterMap (planNode declared), groups⟩
    else .error (cyclicTasks workflow ((indegree.filter fun entry => 0 < entry.2).map Prod.fst))

end Aep.WorkflowScheduler
