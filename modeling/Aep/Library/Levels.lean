import Mathlib.Data.List.Count
import Mathlib.Data.List.Perm.Basic
import Mathlib.Data.List.Chain
import Mathlib.Data.Set.Finite.List
import Mathlib.Logic.Relation
import Mathlib.Order.WellFounded

/-! Levels of a finite dependency graph, by the length of the longest chain below a node. -/

namespace Levels

variable {α : Type} (deps : α → List α)

def below : Nat → α → Bool
  | 0, _ => false
  | steps + 1, node => (deps node).all (below steps)

def level (index : Nat) (node : α) : Bool := below deps (index + 1) node && !below deps index node

def Path (node : α) (path : List α) : Prop := List.IsChain (fun node dependency => dependency ∈ deps node) (node :: path)

def Acyclic : Prop := ∀ node, ¬Relation.TransGen (fun node dependency => dependency ∈ deps node) node node

variable {deps}

theorem below_succ {steps : Nat} {node : α} :
    below deps (steps + 1) node = true ↔ ∀ dependency ∈ deps node, below deps steps dependency = true := by
  simp [below]

theorem level_succ {index : Nat} {node : α} :
    level deps (index + 1) node = true ↔
      (∀ dependency ∈ deps node, below deps (index + 1) dependency = true) ∧
        ¬∀ dependency ∈ deps node, below deps index dependency = true := by
  rw [level, Bool.and_eq_true, below_succ, Bool.not_eq_true', ← Bool.not_eq_true, below_succ]

theorem below_mono {steps more : Nat} (order : steps ≤ more) {node : α} (ends : below deps steps node = true) :
    below deps more node = true := by
  induction steps generalizing more node with
  | zero => simp [below] at ends
  | succ steps ih =>
    obtain ⟨rest, rfl⟩ : ∃ rest, more = rest + 1 := ⟨more - 1, by omega⟩
    rw [below_succ] at ends ⊢
    intro dependency member
    exact ih (by omega) (ends dependency member)

theorem below_iff {steps : Nat} {node : α} :
    below deps steps node = true ↔ ∀ path, Path deps node path → path.length < steps := by
  induction steps generalizing node with
  | zero =>
    constructor
    · intro ends
      simp [below] at ends
    · intro short
      exact absurd (short [] (List.isChain_singleton node)) (by simp)
  | succ steps ih =>
    rw [below_succ]
    constructor
    · intro ends path chain
      cases path with
      | nil => simp
      | cons dependency rest =>
        obtain ⟨member, restChain⟩ := List.isChain_cons_cons.mp chain
        have shorter := ih.mp (ends dependency member) rest restChain
        simp only [List.length_cons]
        omega
    · intro short dependency member
      rw [ih]
      intro rest restChain
      have shorter := short (dependency :: rest) (List.isChain_cons_cons.mpr ⟨member, restChain⟩)
      simp only [List.length_cons] at shorter
      omega

theorem level_iff {index : Nat} {node : α} :
    level deps index node = true ↔
      IsGreatest (fun length => ∃ path, Path deps node path ∧ path.length = length) index := by
  simp only [level, Bool.and_eq_true, Bool.not_eq_true', ← Bool.not_eq_true, below_iff]
  constructor
  · intro ⟨short, long⟩
    push Not at long
    obtain ⟨path, chain, atLeast⟩ := long
    have atMost := short path chain
    refine ⟨⟨path, chain, by omega⟩, ?_⟩
    rintro length ⟨other, otherChain, rfl⟩
    have otherShort := short other otherChain
    omega
  · intro ⟨⟨path, chain, length⟩, greatest⟩
    constructor
    · intro other otherChain
      have bounded := greatest ⟨other, otherChain, rfl⟩
      omega
    · intro short
      have shorter := short path chain
      omega

theorem not_cyclic_of_below {steps : Nat} {node : α} (ends : below deps steps node = true) :
    ¬Relation.TransGen (fun node dependency => dependency ∈ deps node) node node := by
  induction steps generalizing node with
  | zero => simp [below] at ends
  | succ steps ih =>
    intro cycle
    obtain ⟨dependency, member, back⟩ := Relation.TransGen.head'_iff.mp cycle
    have shorter := below_succ.mp ends dependency member
    exact ih shorter (Relation.TransGen.tail' back member)

section Nodes

variable (nodes : List α)

def nodesAt (deps : α → List α) (index : Nat) : List α := nodes.filter (level deps index)

variable {nodes}

theorem below_of_empty (closed : ∀ node ∈ nodes, ∀ dependency ∈ deps node, dependency ∈ nodes) {index : Nat}
    (empty : nodesAt nodes deps index = []) {steps : Nat} {node : α} (member : node ∈ nodes)
    (ends : below deps steps node = true) : below deps index node = true := by
  induction steps generalizing node with
  | zero => simp [below] at ends
  | succ steps ih =>
    rw [below_succ] at ends
    have next : below deps (index + 1) node = true := by
      rw [below_succ]
      intro dependency isDependency
      exact ih (closed node member dependency isDependency) (ends dependency isDependency)
    have notAt := List.filter_eq_nil_iff.mp empty node member
    simp only [level, next, Bool.true_and, Bool.not_eq_true', Bool.not_eq_false] at notAt
    exact notAt

theorem acyclic_of_below (outside : ∀ node, node ∉ nodes → deps node = []) {steps : Nat}
    (all : ∀ node ∈ nodes, below deps steps node = true) : Acyclic deps := by
  intro node
  by_cases member : node ∈ nodes
  · exact not_cyclic_of_below (all node member)
  · intro cycle
    obtain ⟨dependency, isDependency, _⟩ := Relation.TransGen.head'_iff.mp cycle
    simp [outside node member] at isDependency

theorem below_of_acyclic (closed : ∀ node ∈ nodes, ∀ dependency ∈ deps node, dependency ∈ nodes)
    (acyclic : Acyclic deps) {index : Nat} (empty : nodesAt nodes deps index = []) :
    ∀ node ∈ nodes, below deps index node = true := by
  let under (lower upper : { node // node ∈ nodes }) : Prop :=
    Relation.TransGen (fun node dependency => dependency ∈ deps node) upper.1 lower.1
  have : Finite { node // node ∈ nodes } := Set.Finite.to_subtype (List.finite_toSet nodes)
  have : IsTrans { node // node ∈ nodes } under := ⟨fun _ _ _ first second => second.trans first⟩
  have : Std.Irrefl under := ⟨fun node => acyclic node.1⟩
  have founded : WellFounded under := Finite.wellFounded_of_trans_of_irrefl under
  have all (node : { node // node ∈ nodes }) : below deps index node.1 = true := by
    induction node using founded.induction with
    | _ node ih =>
      have next : below deps (index + 1) node.1 = true := by
        rw [below_succ]
        intro dependency isDependency
        exact ih ⟨dependency, closed node.1 node.2 dependency isDependency⟩ (.single isDependency)
      exact below_of_empty closed empty node.2 next
  intro node member
  exact all ⟨node, member⟩

theorem countP_split {whole first second : α → Bool} {items : List α}
    (each : ∀ item ∈ items, (whole item).toNat = (first item).toNat + (second item).toNat) :
    items.countP whole = items.countP first + items.countP second := by
  induction items with
  | nil => rfl
  | cons item rest ih =>
    have asNat (value : Bool) : (if value = true then 1 else 0) = value.toNat := by cases value <;> rfl
    have inRest := ih fun other member => each other (List.mem_cons_of_mem _ member)
    have atItem := each item List.mem_cons_self
    simp only [List.countP_cons, asNat]
    omega

theorem below_add_level (index : Nat) (node : α) :
    (below deps (index + 1) node).toNat = (below deps index node).toNat + (level deps index node).toNat := by
  rw [level]
  by_cases lower : below deps index node = true
  · simp [lower, below_mono (Nat.le_succ index) lower]
  · simp [Bool.eq_false_iff.mpr lower]

theorem length_below_succ (index : Nat) :
    (nodes.filter (below deps (index + 1))).length =
      (nodes.filter (below deps index)).length + (nodesAt nodes deps index).length := by
  simp only [nodesAt, ← List.countP_eq_length_filter]
  exact countP_split fun node _ => below_add_level index node

theorem exists_empty (deps : α → List α) (nodes : List α) : ∃ index ≤ nodes.length, nodesAt nodes deps index = [] := by
  by_contra none
  push Not at none
  have grows (steps : Nat) (bound : steps ≤ nodes.length + 1) : steps ≤ (nodes.filter (below deps steps)).length := by
    induction steps with
    | zero => omega
    | succ steps ih =>
      have more : (nodes.filter (below deps (steps + 1))).length = _ := length_below_succ steps
      have some := List.length_pos_iff.mpr (none steps (by omega))
      have before := ih (by omega)
      omega
  have tooMany := grows (nodes.length + 1) le_rfl
  have bounded := List.length_filter_le (below deps (nodes.length + 1)) nodes
  omega

theorem exists_level {steps : Nat} {node : α} (ends : below deps steps node = true) :
    ∃ index < steps, level deps index node = true := by
  induction steps with
  | zero => simp [below] at ends
  | succ steps ih =>
    by_cases shorter : below deps steps node = true
    · obtain ⟨index, bound, atLevel⟩ := ih shorter
      exact ⟨index, by omega, atLevel⟩
    · exact ⟨steps, by omega, by simp [level, ends, shorter]⟩

theorem below_of_level {index steps : Nat} {node : α} (atLevel : level deps index node = true) (order : index < steps) :
    below deps steps node = true := by
  simp only [level, Bool.and_eq_true] at atLevel
  exact below_mono order atLevel.1

theorem not_depends_of_level {lower upper : Nat} {node other : α} (nodeLevel : level deps lower node = true)
    (otherLevel : level deps upper other = true) (order : lower ≤ upper) : other ∉ deps node := by
  intro isDependency
  simp only [level, Bool.and_eq_true, Bool.not_eq_true'] at nodeLevel otherLevel
  have ends := below_mono order (below_succ.mp nodeLevel.1 other isDependency)
  rw [otherLevel.2] at ends
  cases ends

section Layers

def layers (deps : α → List α) (nodes : List α) (height : Nat) : List (List α) :=
  (List.range height).map (nodesAt nodes deps)

theorem mem_layers {height : Nat} {node : α} :
    node ∈ (layers deps nodes height).flatten ↔ node ∈ nodes ∧ below deps height node = true := by
  simp only [layers, List.mem_flatten, List.mem_map, List.mem_range]
  constructor
  · rintro ⟨_, ⟨index, bound, rfl⟩, member⟩
    obtain ⟨inNodes, atLevel⟩ := List.mem_filter.mp member
    exact ⟨inNodes, below_of_level atLevel bound⟩
  · intro ⟨inNodes, ends⟩
    obtain ⟨index, bound, atLevel⟩ := exists_level ends
    exact ⟨_, ⟨index, bound, rfl⟩, List.mem_filter.mpr ⟨inNodes, atLevel⟩⟩

theorem length_layers (deps : α → List α) (nodes : List α) (height : Nat) :
    (layers deps nodes height).flatten.length = (nodes.filter (below deps height)).length := by
  induction height with
  | zero => simp [layers, below]
  | succ height ih =>
    rw [length_below_succ, ← ih]
    simp [layers, List.range_succ]

theorem layers_nodup (distinct : nodes.Nodup) (height : Nat) : (layers deps nodes height).flatten.Nodup := by
  rw [List.nodup_flatten]
  constructor
  · intro layer member
    obtain ⟨index, _, rfl⟩ := List.mem_map.mp member
    exact distinct.filter _
  · rw [layers, List.pairwise_map]
    apply List.pairwise_lt_range.imp
    intro lower upper order node inLower inUpper
    have ends := below_of_level (List.mem_filter.mp inLower).2 order
    have atUpper := (List.mem_filter.mp inUpper).2
    simp [level, ends] at atUpper

theorem layers_ordered (deps : α → List α) (nodes : List α) (height : Nat) :
    (layers deps nodes height).flatten.Pairwise fun earlier later => later ∉ deps earlier := by
  rw [List.pairwise_flatten]
  constructor
  · intro layer member
    obtain ⟨index, _, rfl⟩ := List.mem_map.mp member
    apply List.pairwise_of_forall_mem_list
    intro earlier inEarlier later inLater
    exact not_depends_of_level (List.mem_filter.mp inEarlier).2 (List.mem_filter.mp inLater).2 le_rfl
  · rw [layers, List.pairwise_map]
    apply List.pairwise_lt_range.imp
    intro lower upper order earlier inEarlier later inLater
    exact not_depends_of_level (List.mem_filter.mp inEarlier).2 (List.mem_filter.mp inLater).2 order.le

def depth (deps : α → List α) (nodes : List α) : Nat :=
  Nat.find (p := fun index => nodesAt nodes deps index = [])
    ((exists_empty deps nodes).imp fun _ found => found.2)

theorem depth_empty (deps : α → List α) (nodes : List α) : nodesAt nodes deps (depth deps nodes) = [] :=
  Nat.find_spec (p := fun index => nodesAt nodes deps index = []) _

theorem depth_le {index : Nat} (empty : nodesAt nodes deps index = []) : depth deps nodes ≤ index :=
  Nat.find_min' _ empty

theorem depth_le_length (deps : α → List α) (nodes : List α) : depth deps nodes ≤ nodes.length := by
  obtain ⟨index, bound, empty⟩ := exists_empty deps nodes
  exact (depth_le empty).trans bound

theorem acyclic_iff_below (closed : ∀ node ∈ nodes, ∀ dependency ∈ deps node, dependency ∈ nodes)
    (outside : ∀ node, node ∉ nodes → deps node = []) :
    Acyclic deps ↔ ∀ node ∈ nodes, below deps (depth deps nodes) node = true :=
  ⟨fun acyclic => below_of_acyclic closed acyclic (depth_empty deps nodes), acyclic_of_below outside⟩

end Layers

section Count

variable [DecidableEq α]

theorem idxOf_layers_lt {height : Nat} {node dependency : α} (isDependency : dependency ∈ deps node)
    (nodeListed : node ∈ (layers deps nodes height).flatten)
    (listed : dependency ∈ (layers deps nodes height).flatten) :
    (layers deps nodes height).flatten.idxOf dependency < (layers deps nodes height).flatten.idxOf node := by
  by_contra later
  rcases Nat.lt_or_eq_of_le (Nat.le_of_not_lt later) with before | same
  · have ordered := List.pairwise_iff_getElem.mp (layers_ordered deps nodes height) _ _
      (List.idxOf_lt_length_iff.mpr nodeListed) (List.idxOf_lt_length_iff.mpr listed) before
    simp only [List.getElem_idxOf] at ordered
    exact ordered isDependency
  · have self : node = dependency := (List.idxOf_inj nodeListed).mp same
    rw [← self] at isDependency
    exact not_cyclic_of_below (mem_layers.mp nodeListed).2 (.single isDependency)

def dependents (nodes : List α) (deps : α → List α) (dependency : α) : List α :=
  nodes.filter fun node => dependency ∈ deps node

theorem count_dependents (distinct : nodes.Nodup) {node : α} (member : node ∈ nodes) (unique : (deps node).Nodup)
    (dependency : α) : (dependents nodes deps dependency).count node = (deps node).count dependency := by
  by_cases isDependency : dependency ∈ deps node
  · rw [List.count_eq_one_of_mem unique isDependency]
    exact List.count_eq_one_of_mem (distinct.filter _) (List.mem_filter.mpr ⟨member, by simpa using isDependency⟩)
  · rw [List.count_eq_zero_of_not_mem isDependency, List.count_eq_zero]
    intro listed
    exact isDependency (by simpa using (List.mem_filter.mp listed).2)

theorem count_flatMap_dependents (distinct : nodes.Nodup) {node : α} (member : node ∈ nodes)
    (unique : (deps node).Nodup) {group : List α} (apart : group.Nodup) :
    (group.flatMap (dependents nodes deps)).count node = (deps node).countP (· ∈ group) := by
  induction group with
  | nil => simp
  | cons dependency rest ih =>
    obtain ⟨fresh, restApart⟩ := List.nodup_cons.mp apart
    rw [List.flatMap_cons, List.count_append, count_dependents distinct member unique, ih restApart]
    induction deps node with
    | nil => rfl
    | cons other others step =>
      simp only [List.count_cons, List.countP_cons, List.mem_cons, decide_eq_true_eq, beq_iff_eq] at step ⊢
      by_cases same : other = dependency
      · subst same
        simp only [fresh, ↓reduceIte, or_false]
        omega
      · by_cases inRest : other ∈ rest <;> simp only [same, inRest, ↓reduceIte, or_true, or_false] <;> omega

end Count

end Nodes

end Levels
