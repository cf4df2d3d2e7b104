import Aep.WorkflowScheduler.ReadyGroups

namespace Aep.WorkflowScheduler

open Result Levels

def ExplicitTask (ref : ResourceRef) : Prop := ref.kind = "Task" ∧ ref.version ≠ "latest"

/-- An entry of the graph stands for a Task that can be resolved, with distinct dependencies. -/
structure EntryDeclares (resources : ResourceCollection) (entry : Record) (node : Declaration) : Prop where
  taskRef : refFromRecord (entry.field "taskRef") = some node.taskRef
  explicit : ExplicitTask node.taskRef
  resolved : resources.get node.taskRef = some node.task
  isTask : node.task.ref.kind = "Task"
  dependencies : ∃ values, dependencyValues entry = some values ∧
    List.Forall₂ (fun value ref => refFromRecord value = some ref) values node.dependencies
  explicitDependencies : ∀ dependency ∈ node.dependencies, ExplicitTask dependency
  distinct : node.dependencies.Nodup

structure Declares (workflow : Resource) (resources : ResourceCollection) (declared : List Declaration) : Prop where
  entries : ∃ fields spec entries, workflow.data = .obj fields ∧ Dict.get? fields "spec" = some (.obj spec) ∧
    Dict.get? spec "tasks" = some (.arr (entries.map .obj)) ∧ List.Forall₂ (EntryDeclares resources) entries declared
  nonempty : declared ≠ []
  distinct : (taskRefs declared).Nodup
  closed : ∀ node ∈ declared, ∀ dependency ∈ node.dependencies, dependency ∈ taskRefs declared

structure Plans (declared : List Declaration) (plan : TaskDagPlan) : Prop where
  permutation : plan.topologicalOrder.Perm (taskRefs declared)
  follows : ∀ node ∈ declared, ∀ dependency ∈ node.dependencies,
    plan.topologicalOrder.idxOf dependency < plan.topologicalOrder.idxOf node.taskRef
  partition : plan.readyGroups.flatten = plan.topologicalOrder
  longestChain : ∀ index, ∀ task ∈ taskRefs declared,
    (∃ group, plan.readyGroups[index]? = some group ∧ task ∈ group) ↔
      IsGreatest (fun length => ∃ chain, Path (dependenciesOf declared) task chain ∧ chain.length = length) index
  declarationOrder : ∀ group ∈ plan.readyGroups, group.Sublist (taskRefs declared)
  nodes : ∀ node ∈ plan.nodes, (⟨node.taskRef, node.task, node.dependencies⟩ : Declaration) ∈ declared
  dependents : ∀ node ∈ plan.nodes, node.dependents.Sublist (taskRefs declared)
  inverse : ∀ node ∈ plan.nodes, ∀ other ∈ plan.nodes,
    other.taskRef ∈ node.dependents ↔ node.taskRef ∈ other.dependencies

section Declarations

variable {workflow : Resource} {resources : ResourceCollection}

theorem mapM_asRecord {values : List Json} {entries : List Record} :
    values.mapM Json.asRecord? = some entries ↔ values = entries.map .obj := by
  constructor
  · intro converted
    have each := forall₂_of_mapM_some converted
    clear converted
    induction each with
    | nil => rfl
    | cons here _ ih => rw [List.map_cons, ← ih, Json.asRecord?_eq_some.mp here]
  · rintro rfl
    induction entries with
    | nil => rfl
    | cons entry rest ih => simp [List.mapM_cons, ih, Json.asRecord?]

theorem taskEntries_eq_ok {entries : List Record} :
    taskEntries workflow = .ok entries ↔
      ∃ fields spec, workflow.data = .obj fields ∧ Dict.get? fields "spec" = some (.obj spec) ∧
        Dict.get? spec "tasks" = some (.arr (entries.map .obj)) ∧ entries ≠ [] := by
  have located (values : List Json) : (taskEntries.mappingTasks workflow).bind Json.asItems? = some values ↔
      ∃ fields spec, workflow.data = .obj fields ∧ Dict.get? fields "spec" = some (.obj spec) ∧
        Dict.get? spec "tasks" = some (.arr values) := by
    simp only [taskEntries.mappingTasks, Option.bind_eq_bind, Option.bind_eq_some_iff, Json.asRecord?_eq_some,
      Json.asItems?_eq_some]
    constructor
    · rintro ⟨_, ⟨fields, data, spec, ⟨_, found, rfl⟩, tasks⟩, rfl⟩
      exact ⟨fields, spec, data, found, tasks⟩
    · rintro ⟨fields, spec, data, found, tasks⟩
      exact ⟨_, ⟨fields, data, spec, ⟨_, found, rfl⟩, tasks⟩, rfl⟩
  constructor
  · intro read
    simp only [taskEntries] at read
    split at read
    · cases read
    · rename_i values kept
      obtain ⟨items, notEmpty⟩ := Option.filter_eq_some_iff.mp kept
      split at read
      · cases read
      · rename_i converted
        cases read
        obtain rfl := mapM_asRecord.mp converted
        obtain ⟨fields, spec, data, found, tasks⟩ := (located _).mp items
        refine ⟨fields, spec, data, found, tasks, ?_⟩
        rintro rfl
        simp at notEmpty
  · rintro ⟨fields, spec, data, found, tasks, notEmpty⟩
    have items := (located _).mpr ⟨fields, spec, data, found, tasks⟩
    have kept : ((taskEntries.mappingTasks workflow).bind Json.asItems?).filter (!·.isEmpty) =
        some (entries.map .obj) := by
      rw [items]
      cases entries with
      | nil => exact absurd rfl notEmpty
      | cons first rest => rfl
    simp only [taskEntries, kept, mapM_asRecord.mpr rfl]

theorem parseTaskRef_eq_ok {value : Json} {where_ : String} {ref : ResourceRef} :
    parseTaskRef workflow value where_ = .ok ref ↔ refFromRecord value = some ref ∧ ExplicitTask ref := by
  unfold parseTaskRef ExplicitTask
  cases refFromRecord value with
  | none => simp
  | some found =>
    by_cases implicit : found.kind ≠ "Task" ∨ found.version = "latest"
    · simp only [implicit, ↓reduceIte, reduceCtorEq, Option.some.injEq, false_iff, not_and]
      rintro rfl kind
      simp_all
    · simp only [implicit, ↓reduceIte, Except.ok.injEq, Option.some.injEq]
      push Not at implicit
      constructor
      · rintro rfl
        exact ⟨rfl, implicit⟩
      · exact And.left

theorem parseDependencies_eq_ok {index position : Nat} {values : List Json} {refs : List ResourceRef} :
    parseDependencies workflow index position values = .ok refs ↔
      List.Forall₂ (fun value ref => refFromRecord value = some ref) values refs ∧ ∀ ref ∈ refs, ExplicitTask ref := by
  induction values generalizing position refs with
  | nil =>
    simp only [parseDependencies, Except.ok.injEq, List.forall₂_nil_left_iff]
    constructor
    · rintro rfl
      exact ⟨rfl, List.forall_mem_nil _⟩
    · intro ⟨empty, _⟩
      exact empty.symm
  | cons value rest ih =>
    simp only [parseDependencies, bind_eq_ok, parseTaskRef_eq_ok, ih, pure_eq_ok]
    constructor
    · rintro ⟨ref, ⟨found, explicit⟩, others, ⟨each, allExplicit⟩, rfl⟩
      exact ⟨.cons found each, List.forall_mem_cons.mpr ⟨explicit, allExplicit⟩⟩
    · rintro ⟨each, allExplicit⟩
      cases each with
      | cons found each =>
        obtain ⟨explicit, others⟩ := List.forall_mem_cons.mp allExplicit
        exact ⟨_, ⟨found, explicit⟩, _, ⟨each, others⟩, rfl⟩

theorem declaration_eq_ok {earlier : List ResourceRef} {index : Nat} {entry : Record} {node : Declaration} :
    declaration workflow resources earlier index entry = .ok node ↔
      EntryDeclares resources entry node ∧ node.taskRef ∉ earlier := by
  constructor
  · intro made
    obtain ⟨taskRef, parsed, made⟩ := bind_eq_ok.mp made
    obtain ⟨found, explicit⟩ := parseTaskRef_eq_ok.mp parsed
    split at made
    · cases made
    · rename_i fresh
      split at made
      · cases made
      · rename_i task kept
        obtain ⟨resolved, isTask⟩ := Option.filter_eq_some_iff.mp kept
        split at made
        · cases made
        · rename_i values read
          obtain ⟨dependencies, parsedAll, made⟩ := bind_eq_ok.mp made
          obtain ⟨each, explicitAll⟩ := parseDependencies_eq_ok.mp parsedAll
          split at made
          · rename_i distinct
            cases made
            exact ⟨⟨found, explicit, resolved, of_decide_eq_true isTask, ⟨values, read, each⟩, explicitAll, distinct⟩,
              fresh⟩
          · cases made
  · intro ⟨⟨found, explicit, resolved, isTask, ⟨values, read, each⟩, explicitAll, distinct⟩, fresh⟩
    have kept : (resources.get node.taskRef).filter (fun task => task.ref.kind = "Task") = some node.task := by
      rw [resolved]
      simp [isTask]
    simp only [declaration, parseTaskRef_eq_ok.mpr ⟨found, explicit⟩, ok_bind, fresh, ↓reduceIte, kept, read,
      parseDependencies_eq_ok.mpr ⟨each, explicitAll⟩, distinct]
    rfl

theorem declarations_eq_ok {earlier : List Declaration} (once : (taskRefs earlier).Nodup) {entries : List Record}
    {declared : List Declaration} :
    declarations workflow resources earlier entries = .ok declared ↔
      ∃ added, declared = earlier ++ added ∧ List.Forall₂ (EntryDeclares resources) entries added ∧
        (taskRefs declared).Nodup := by
  induction entries generalizing earlier with
  | nil =>
    simp only [declarations, Except.ok.injEq, List.forall₂_nil_left_iff]
    constructor
    · rintro rfl
      exact ⟨[], by simp, rfl, once⟩
    · rintro ⟨_, rfl, rfl, _⟩
      simp
  | cons entry rest ih =>
    simp only [declarations, bind_eq_ok, declaration_eq_ok]
    constructor
    · rintro ⟨node, ⟨declares, fresh⟩, restDeclared⟩
      have onceMore : (taskRefs (earlier ++ [node])).Nodup := by
        simp only [taskRefs, List.map_append, List.map_cons, List.map_nil, List.nodup_append_comm,
          List.singleton_append, List.nodup_cons]
        exact ⟨fresh, once⟩
      obtain ⟨added, rfl, each, distinct⟩ := (ih onceMore).mp restDeclared
      exact ⟨node :: added, by simp, .cons declares each, distinct⟩
    · rintro ⟨_, rfl, each, distinct⟩
      cases each with
      | @cons _ node _ added declares each =>
        have same : earlier ++ node :: added = earlier ++ [node] ++ added := by simp
        rw [same] at distinct
        have onceMore : (taskRefs (earlier ++ [node])).Nodup := by
          simp only [taskRefs, List.map_append] at distinct ⊢
          exact distinct.sublist (List.sublist_append_left _ _)
        refine ⟨node, ⟨declares, ?_⟩, (ih onceMore).mpr ⟨added, same, each, same ▸ distinct⟩⟩
        simp only [taskRefs, List.map_append, List.map_cons, List.map_nil, List.nodup_append_comm,
          List.singleton_append, List.nodup_cons] at onceMore
        exact onceMore.1

theorem nothing_nodup : (taskRefs []).Nodup := List.nodup_nil

theorem undeclared_eq_none {declared : List Declaration} :
    undeclared declared = none ↔ ∀ node ∈ declared, ∀ dependency ∈ node.dependencies, dependency ∈ taskRefs declared := by
  simp [undeclared, taskRefs, List.findSome?_eq_none_iff, List.find?_eq_none]

theorem Declares.closedGraph {declared : List Declaration} (graph : Declares workflow resources declared) :
    Closed declared := by
  obtain ⟨_, _, entries, _, _, _, each⟩ := graph.entries
  refine ⟨graph.distinct, ?_, graph.closed⟩
  intro node member
  obtain ⟨entry, _, declares⟩ := exists_left_of_mem each member
  exact declares.distinct

end Declarations

section Planning

variable {declared : List Declaration}

theorem planNode_taskRef (distinct : (taskRefs declared).Nodup) {node : Declaration} (member : node ∈ declared) :
    planNode declared node.taskRef =
      some ⟨node.taskRef, node.task, node.dependencies, dependentsOf declared node.taskRef⟩ := by
  simp [planNode, find?_taskRef distinct member]

theorem planNode_of_mem {order : List ResourceRef} (subset : ∀ ref ∈ order, ref ∈ taskRefs declared)
    (distinct : (taskRefs declared).Nodup) :
    (order.filterMap (planNode declared)).map TaskPlanNode.taskRef = order := by
  induction order with
  | nil => rfl
  | cons ref rest ih =>
    obtain ⟨node, member, rfl⟩ := List.mem_map.mp (subset ref List.mem_cons_self)
    rw [List.filterMap_cons, planNode_taskRef distinct member, List.map_cons, ih]
    intro other inRest
    exact subset other (List.mem_cons_of_mem _ inRest)

theorem mem_dependentsOf (distinct : (taskRefs declared).Nodup) {node : Declaration} (member : node ∈ declared)
    (ref : ResourceRef) : node.taskRef ∈ dependentsOf declared ref ↔ ref ∈ node.dependencies := by
  rw [dependentsOf_eq distinct, dependents, List.mem_filter, dependenciesOf_taskRef distinct member]
  have listed : node.taskRef ∈ taskRefs declared := List.mem_map_of_mem member
  simp [listed]

theorem stages_subset {declared : List Declaration} : ∀ ref ∈ (stages declared).flatten, ref ∈ taskRefs declared :=
  fun _ member => (mem_layers.mp member).1

theorem length_stages (closed : Closed declared) :
    (stages declared).flatten.length = declared.length ↔ Acyclic (dependenciesOf declared) := by
  rw [acyclic_iff_below closed.dependency_declared fun _ => dependenciesOf_outside, stages, length_layers]
  have size : declared.length = (taskRefs declared).length := by simp [taskRefs]
  rw [size, ← List.countP_eq_length_filter, List.countP_eq_length]
  rfl

theorem plans_stages (closed : Closed declared) (acyclic : Acyclic (dependenciesOf declared))
    (workflowRef : ResourceRef) :
    Plans declared ⟨workflowRef, (stages declared).flatten.filterMap (planNode declared), stages declared⟩ := by
  have all := (acyclic_iff_below closed.dependency_declared fun _ => dependenciesOf_outside).mp acyclic
  have order := planNode_of_mem stages_subset closed.distinct
  have listed (ref : ResourceRef) (member : ref ∈ taskRefs declared) : ref ∈ (stages declared).flatten :=
    mem_layers.mpr ⟨member, all ref member⟩
  have source (node : TaskPlanNode) (member : node ∈ (stages declared).flatten.filterMap (planNode declared)) :
      ∃ entry ∈ declared, node = ⟨entry.taskRef, entry.task, entry.dependencies, dependentsOf declared entry.taskRef⟩ := by
    obtain ⟨ref, inStages, planned⟩ := List.mem_filterMap.mp member
    obtain ⟨entry, inDeclared, rfl⟩ := List.mem_map.mp (stages_subset ref inStages)
    rw [planNode_taskRef closed.distinct inDeclared, Option.some.injEq] at planned
    exact ⟨entry, inDeclared, planned.symm⟩
  have once : (stages declared).flatten.Nodup := layers_nodup closed.distinct _
  refine ⟨?_, ?_, order.symm, ?_, ?_, ?_, ?_, ?_⟩
  · rw [TaskDagPlan.topologicalOrder, order, List.perm_ext_iff_of_nodup once closed.distinct]
    intro ref
    exact ⟨stages_subset ref, listed ref⟩
  · intro node member dependency isDependency
    rw [TaskDagPlan.topologicalOrder, order]
    rw [← dependenciesOf_taskRef closed.distinct member] at isDependency
    have nodeDeclared : node.taskRef ∈ taskRefs declared := List.mem_map_of_mem member
    exact idxOf_layers_lt isDependency (listed _ nodeDeclared)
      (listed _ (closed.dependency_declared _ nodeDeclared _ isDependency))
  · intro index task member
    rw [← level_iff]
    simp only [stages, layers, List.getElem?_map, Option.map_eq_some_iff]
    constructor
    · rintro ⟨_, ⟨position, found, rfl⟩, inGroup⟩
      obtain ⟨bound, rfl⟩ := List.getElem?_eq_some_iff.mp found
      rw [List.getElem_range] at inGroup
      exact (List.mem_filter.mp inGroup).2
    · intro atLevel
      have bound : index < depthOf declared := by
        by_contra tooHigh
        have ends := below_mono (Nat.le_of_not_lt tooHigh) (all task member)
        simp [level, ends] at atLevel
      refine ⟨_, ⟨index, ?_, rfl⟩, List.mem_filter.mpr ⟨member, atLevel⟩⟩
      simp [bound]
  · intro group member
    obtain ⟨index, _, rfl⟩ := List.mem_map.mp member
    exact List.filter_sublist
  · intro node member
    obtain ⟨entry, inDeclared, rfl⟩ := source node member
    exact inDeclared
  · intro node member
    obtain ⟨entry, _, rfl⟩ := source node member
    exact List.filter_sublist.map _
  · intro node member other otherMember
    obtain ⟨entry, _, rfl⟩ := source node member
    obtain ⟨otherEntry, inDeclared, rfl⟩ := source other otherMember
    exact mem_dependentsOf closed.distinct inDeclared entry.taskRef

end Planning

section Resolution

variable {workflow : Resource} {resources : ResourceCollection} {declared : List Declaration}

theorem Declares.read (graph : Declares workflow resources declared) :
    ∃ entries, taskEntries workflow = .ok entries ∧ declarations workflow resources [] entries = .ok declared ∧
      undeclared declared = none := by
  obtain ⟨fields, spec, entries, data, found, tasks, each⟩ := graph.entries
  refine ⟨entries, taskEntries_eq_ok.mpr ⟨fields, spec, data, found, tasks, ?_⟩,
    (declarations_eq_ok nothing_nodup).mpr ⟨declared, rfl, each, graph.distinct⟩,
    undeclared_eq_none.mpr graph.closed⟩
  rintro rfl
  exact graph.nonempty (List.forall₂_nil_left_iff.mp each)

theorem declares_of_read {entries : List Record} (read : taskEntries workflow = .ok entries)
    (made : declarations workflow resources [] entries = .ok declared) (complete : undeclared declared = none) :
    Declares workflow resources declared := by
  obtain ⟨fields, spec, data, found, tasks, notEmpty⟩ := taskEntries_eq_ok.mp read
  obtain ⟨added, rfl, each, distinct⟩ := (declarations_eq_ok nothing_nodup).mp made
  refine ⟨⟨fields, spec, entries, data, found, tasks, each⟩, ?_, distinct, undeclared_eq_none.mp complete⟩
  intro empty
  rw [empty] at each
  exact notEmpty (List.forall₂_nil_right_iff.mp each)

theorem declares_of_resolved {plan : TaskDagPlan} (resolved : resolveTaskDag workflow resources = .ok plan) :
    ∃ declared, Declares workflow resources declared := by
  obtain ⟨entries, read, rest⟩ := bind_eq_ok.mp resolved
  obtain ⟨declared, made, rest⟩ := bind_eq_ok.mp rest
  split at rest
  · cases rest
  · rename_i complete
    exact ⟨declared, declares_of_read read made complete⟩

theorem resolveTaskDag_acyclic (graph : Declares workflow resources declared)
    (acyclic : Acyclic (dependenciesOf declared)) :
    resolveTaskDag workflow resources =
      .ok ⟨workflow.ref, (stages declared).flatten.filterMap (planNode declared), stages declared⟩ := by
  obtain ⟨entries, read, made, complete⟩ := graph.read
  obtain ⟨last, final, ends⟩ := readyGroups_stages graph.closedGraph
  simp only [resolveTaskDag, read, made, complete, ok_bind, ends _ le_rfl,
    (length_stages graph.closedGraph).mpr acyclic, ↓reduceIte]
  rfl

theorem resolveTaskDag_cyclic (graph : Declares workflow resources declared)
    (cyclic : ¬Acyclic (dependenciesOf declared)) :
    resolveTaskDag workflow resources = .error (cyclicTasks workflow
      ((taskRefs declared).filter fun ref => !below (dependenciesOf declared) (depthOf declared) ref)) := by
  obtain ⟨entries, read, made, complete⟩ := graph.read
  obtain ⟨last, final, ends⟩ := readyGroups_stages graph.closedGraph
  have short := mt (length_stages graph.closedGraph).mp cyclic
  simp only [resolveTaskDag, read, made, complete, ok_bind, ends _ le_rfl, short, ↓reduceIte,
    still_waiting graph.closedGraph final]

theorem endless_iff (closed : Closed declared) {ref : ResourceRef} (member : ref ∈ taskRefs declared) :
    (!below (dependenciesOf declared) (depthOf declared) ref) = true ↔
      ∀ length, ∃ chain, Path (dependenciesOf declared) ref chain ∧ length ≤ chain.length := by
  rw [Bool.not_eq_true', ← Bool.not_eq_true]
  constructor
  · intro never length
    have notBelow : ¬below (dependenciesOf declared) length ref = true := by
      intro ends
      exact never (below_of_empty closed.dependency_declared (depth_empty _ _) member ends)
    rw [below_iff] at notBelow
    push Not at notBelow
    exact notBelow
  · intro endless ends
    obtain ⟨chain, path, long⟩ := endless (depthOf declared)
    have short := below_iff.mp ends chain path
    omega

/-- A workflow has a plan exactly when its graph is well-formed and has no cycle. The plan goes by the longest chain of
    dependencies, and a cycle is reported with the Tasks that it keeps from being ready. -/
theorem resolveTaskDag_correct (workflow : Resource) (resources : ResourceCollection) :
    ((∃ plan, resolveTaskDag workflow resources = .ok plan) ↔
      ∃ declared, Declares workflow resources declared ∧ Acyclic (dependenciesOf declared)) ∧
    ∀ declared, Declares workflow resources declared →
      (∀ plan, resolveTaskDag workflow resources = .ok plan → Plans declared plan) ∧
      (¬Acyclic (dependenciesOf declared) → ∃ stuck,
        resolveTaskDag workflow resources = .error (cyclicTasks workflow stuck) ∧
        ∀ ref, ref ∈ stuck ↔ ref ∈ taskRefs declared ∧
          ∀ length, ∃ chain, Path (dependenciesOf declared) ref chain ∧ length ≤ chain.length) ∧
      ∀ rounds, declared.length ≤ rounds →
        readyGroups declared rounds (initialIndegree declared) (initiallyReady declared) =
          readyGroups declared declared.length (initialIndegree declared) (initiallyReady declared) := by
  have acyclic_of_ok {declared : List Declaration} (graph : Declares workflow resources declared) {plan : TaskDagPlan}
      (resolved : resolveTaskDag workflow resources = .ok plan) : Acyclic (dependenciesOf declared) := by
    by_contra cyclic
    rw [resolveTaskDag_cyclic graph cyclic] at resolved
    cases resolved
  constructor
  · constructor
    · rintro ⟨plan, resolved⟩
      obtain ⟨declared, graph⟩ := declares_of_resolved resolved
      exact ⟨declared, graph, acyclic_of_ok graph resolved⟩
    · rintro ⟨declared, graph, acyclic⟩
      exact ⟨_, resolveTaskDag_acyclic graph acyclic⟩
  · intro declared graph
    refine ⟨?_, ?_, ?_⟩
    · intro plan resolved
      have acyclic := acyclic_of_ok graph resolved
      rw [resolveTaskDag_acyclic graph acyclic, Except.ok.injEq] at resolved
      rw [← resolved]
      exact plans_stages graph.closedGraph acyclic workflow.ref
    · intro cyclic
      refine ⟨_, resolveTaskDag_cyclic graph cyclic, ?_⟩
      intro ref
      rw [List.mem_filter]
      exact and_congr_right (endless_iff graph.closedGraph)
    · intro rounds enough
      obtain ⟨last, _, ends⟩ := readyGroups_stages graph.closedGraph
      rw [ends rounds enough, ends _ le_rfl]

end Resolution

namespace Diamond

def taskRef (name : String) : ResourceRef := ⟨"Task", name, "1"⟩

def entry (name : String) (dependencies : List String) : Json :=
  .obj [("taskRef", .obj (refRecord (taskRef name))),
    ("dependsOn", .arr (dependencies.map fun dependency => .obj (refRecord (taskRef dependency))))]

def workflow (entries : List Json) : Resource :=
  ⟨⟨"Workflow", "build", "1"⟩, .obj [("spec", .obj [("tasks", .arr entries)])]⟩

def resources : ResourceCollection := ⟨["plan", "code", "docs", "merge"].map fun name => ⟨taskRef name, .null⟩⟩

example : ((resolveTaskDag (workflow [entry "merge" ["docs", "code"], entry "docs" ["plan"], entry "plan" [],
    entry "code" ["plan"]]) resources).map fun plan => plan.readyGroups.map (·.map ResourceRef.name)).toOption =
      some [["plan"], ["docs", "code"], ["merge"]] := by
  decide +kernel

end Diamond

end Aep.WorkflowScheduler
