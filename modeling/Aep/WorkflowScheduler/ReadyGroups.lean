import Aep.Library.Levels
import Aep.WorkflowScheduler.TaskDag

namespace Aep.WorkflowScheduler

open Levels

section Graph

variable (declared : List Declaration)

def taskRefs : List ResourceRef := declared.map Declaration.taskRef

def dependenciesOf (ref : ResourceRef) : List ResourceRef :=
  ((declared.find? fun node => node.taskRef = ref).map Declaration.dependencies).getD []

/-- Each Task is declared once, and with distinct dependencies that are declared too. -/
structure Closed : Prop where
  distinct : (taskRefs declared).Nodup
  unique : ∀ node ∈ declared, node.dependencies.Nodup
  closed : ∀ node ∈ declared, ∀ dependency ∈ node.dependencies, dependency ∈ taskRefs declared

def groupAt (index : Nat) : List ResourceRef := nodesAt (taskRefs declared) (dependenciesOf declared) index

variable {declared}

theorem find?_taskRef (distinct : (taskRefs declared).Nodup) {node : Declaration} (member : node ∈ declared) :
    declared.find? (fun other => other.taskRef = node.taskRef) = some node := by
  induction declared with
  | nil => cases member
  | cons first rest ih =>
    obtain ⟨fresh, restDistinct⟩ := List.nodup_cons.mp distinct
    rcases List.mem_cons.mp member with rfl | inRest
    · simp
    · have different : first.taskRef ≠ node.taskRef := by
        intro same
        exact fresh (List.mem_map.mpr ⟨node, inRest, same.symm⟩)
      simp only [List.find?_cons, different, decide_false]
      exact ih restDistinct inRest

theorem dependenciesOf_taskRef (distinct : (taskRefs declared).Nodup) {node : Declaration} (member : node ∈ declared) :
    dependenciesOf declared node.taskRef = node.dependencies := by
  simp [dependenciesOf, find?_taskRef distinct member]

theorem dependenciesOf_outside {ref : ResourceRef} (outside : ref ∉ taskRefs declared) :
    dependenciesOf declared ref = [] := by
  have unknown : declared.find? (fun node => node.taskRef = ref) = none := by
    rw [List.find?_eq_none]
    intro node member same
    exact outside (List.mem_map.mpr ⟨node, member, by simpa using same⟩)
  simp [dependenciesOf, unknown]

theorem Closed.dependency_declared (closed : Closed declared) :
    ∀ ref ∈ taskRefs declared, ∀ dependency ∈ dependenciesOf declared ref, dependency ∈ taskRefs declared := by
  intro ref member dependency isDependency
  obtain ⟨node, inDeclared, rfl⟩ := List.mem_map.mp member
  rw [dependenciesOf_taskRef closed.distinct inDeclared] at isDependency
  exact closed.closed node inDeclared dependency isDependency

theorem Closed.dependencies_nodup (closed : Closed declared) {ref : ResourceRef} (member : ref ∈ taskRefs declared) :
    (dependenciesOf declared ref).Nodup := by
  obtain ⟨node, inDeclared, rfl⟩ := List.mem_map.mp member
  rw [dependenciesOf_taskRef closed.distinct inDeclared]
  exact closed.unique node inDeclared

theorem dependentsOf_eq (distinct : (taskRefs declared).Nodup) (ref : ResourceRef) :
    dependentsOf declared ref = dependents (taskRefs declared) (dependenciesOf declared) ref := by
  rw [dependents, taskRefs, List.filter_map, dependentsOf]
  congr 1
  apply List.filter_congr
  intro node member
  simp [dependenciesOf_taskRef distinct member]

theorem groupAt_nodup (distinct : (taskRefs declared).Nodup) (index : Nat) : (groupAt declared index).Nodup :=
  distinct.filter _

theorem initiallyReady_eq (distinct : (taskRefs declared).Nodup) : initiallyReady declared = groupAt declared 0 := by
  rw [groupAt, nodesAt, taskRefs, List.filter_map, initiallyReady]
  congr 1
  apply List.filter_congr
  intro node member
  have none : (node.dependencies.all fun _ => false) = decide (node.dependencies = []) := by
    cases node.dependencies <;> simp
  simp [level, below, dependenciesOf_taskRef distinct member, none]

end Graph

section Release

def remaining (indegree : Dict ResourceRef Int) (ref : ResourceRef) : Int := (indegree.get? ref).getD 0

theorem remaining_initial (declared : List Declaration) (ref : ResourceRef) :
    remaining (initialIndegree declared) ref = (dependenciesOf declared ref).length := by
  induction declared with
  | nil => rfl
  | cons node rest ih =>
    by_cases same : node.taskRef = ref
    · simp [remaining, initialIndegree, dependenciesOf, Dict.get?_cons, same]
    · simp only [remaining, initialIndegree, dependenciesOf, List.map_cons, Dict.get?_cons, same, ↓reduceIte,
        List.find?_cons, decide_false] at ih ⊢
      exact ih

theorem remaining_release (state : Dict ResourceRef Int × List ResourceRef) (dependent ref : ResourceRef) :
    remaining (release state dependent).1 ref = remaining state.1 ref - if dependent = ref then 1 else 0 := by
  by_cases same : dependent = ref
  · subst same
    simp [remaining, release]
  · simp [remaining, release, Dict.get?_set_ne _ _ same, same]

theorem release_ready (state : Dict ResourceRef Int × List ResourceRef) (dependent : ResourceRef) :
    (release state dependent).2 =
      if remaining state.1 dependent = 1 then state.2 ++ [dependent] else state.2 := by
  have last : remaining state.1 dependent - 1 = 0 ↔ remaining state.1 dependent = 1 := by omega
  change (if remaining state.1 dependent - 1 = 0 then _ else _) = _
  simp only [last]

theorem mem_release (state : Dict ResourceRef Int × List ResourceRef) (dependent ref : ResourceRef) :
    ref ∈ (release state dependent).2 ↔ ref ∈ state.2 ∨ (ref = dependent ∧ remaining state.1 dependent = 1) := by
  rw [release_ready]
  by_cases done : remaining state.1 dependent = 1 <;> simp [done]

variable (dependents : List ResourceRef) (state : Dict ResourceRef Int × List ResourceRef)

theorem remaining_foldl (ref : ResourceRef) :
    remaining (dependents.foldl release state).1 ref = remaining state.1 ref - dependents.count ref := by
  induction dependents generalizing state with
  | nil => simp
  | cons dependent rest ih =>
    rw [List.foldl_cons, ih, remaining_release, List.count_cons]
    by_cases same : dependent = ref
    · simp [same]
      omega
    · simp [same]

theorem mem_foldl (ref : ResourceRef) :
    ref ∈ (dependents.foldl release state).2 ↔
      ref ∈ state.2 ∨ (0 < remaining state.1 ref ∧ remaining state.1 ref ≤ dependents.count ref) := by
  induction dependents generalizing state with
  | nil =>
    have never : ¬(0 < remaining state.1 ref ∧ remaining state.1 ref ≤ 0) := by omega
    simp [never]
  | cons dependent rest ih =>
    rw [List.foldl_cons, ih, remaining_release, mem_release, List.count_cons]
    by_cases same : dependent = ref
    · subst same
      simp only [true_and, ↓reduceIte, beq_self_eq_true]
      push_cast
      by_cases listed : dependent ∈ state.2
      · simp [listed]
      · simp only [listed, false_or]
        omega
    · have notDependent : ref ≠ dependent := Ne.symm same
      simp [same, notDependent]

theorem nodup_foldl (once : state.2.Nodup) (done : ∀ ref ∈ state.2, remaining state.1 ref ≤ 0) :
    (dependents.foldl release state).2.Nodup := by
  induction dependents generalizing state with
  | nil => exact once
  | cons dependent rest ih =>
    rw [List.foldl_cons]
    apply ih
    · rw [release_ready]
      split
      · rename_i last
        rw [List.nodup_append]
        refine ⟨once, List.nodup_singleton dependent, ?_⟩
        intro ref listed other isDependent same
        rw [List.mem_singleton.mp isDependent] at same
        have spent := done ref listed
        rw [same] at spent
        omega
      · exact once
    · intro ref listed
      rw [remaining_release]
      rcases (mem_release state dependent ref).mp listed with before | ⟨rfl, last⟩
      · have spent := done ref before
        split <;> omega
      · simp [last]

end Release

section Rounds

variable {declared : List Declaration}

theorem inDeclarationOrder_eq {refs : List ResourceRef} {keep : ResourceRef → Bool}
    (distinct : (taskRefs declared).Nodup) (once : refs.Nodup)
    (same : ∀ ref, ref ∈ refs ↔ ref ∈ (taskRefs declared).filter keep) :
    inDeclarationOrder declared refs = (taskRefs declared).filter keep := by
  let earlier (left right : ResourceRef) : Prop := (taskRefs declared).idxOf left ≤ (taskRefs declared).idxOf right
  have total : Std.Total earlier := ⟨fun left right => Nat.le_total _ _⟩
  have transitive : IsTrans ResourceRef earlier := ⟨fun _ _ _ first second => Nat.le_trans first second⟩
  have sorted : (inDeclarationOrder declared refs).Pairwise earlier := List.pairwise_insertionSort earlier refs
  have declaredSorted : (taskRefs declared).Pairwise earlier := by
    rw [List.pairwise_iff_getElem]
    intro first second firstBound secondBound before
    simp only [earlier, distinct.idxOf_getElem]
    omega
  have perm : (inDeclarationOrder declared refs).Perm ((taskRefs declared).filter keep) :=
    (List.perm_insertionSort earlier refs).trans ((List.perm_ext_iff_of_nodup once (distinct.filter _)).mpr same)
  apply List.Perm.eq_of_pairwise _ sorted (declaredSorted.filter _) perm
  intro left right leftMember rightMember leftFirst rightFirst
  have leftDeclared := (List.mem_filter.mp (perm.mem_iff.mp leftMember)).1
  exact (List.idxOf_inj leftDeclared).mp (Nat.le_antisymm leftFirst rightFirst)

/-- What the loop keeps: the Tasks of the level are ready, and each Task waits for its dependencies from there on. -/
structure Round (declared : List Declaration) (index : Nat) (indegree : Dict ResourceRef Int)
    (ready : List ResourceRef) : Prop where
  ready : ready = groupAt declared index
  waiting : ∀ ref ∈ taskRefs declared,
    remaining indegree ref = (dependenciesOf declared ref).countP fun dependency =>
      !below (dependenciesOf declared) index dependency
  keys : indegree.keys = taskRefs declared

theorem keys_release {dependents : List ResourceRef} {state : Dict ResourceRef Int × List ResourceRef}
    (known : ∀ dependent ∈ dependents, dependent ∈ state.1.keys) :
    (dependents.foldl release state).1.keys = state.1.keys := by
  induction dependents generalizing state with
  | nil => rfl
  | cons dependent rest ih =>
    have same : (release state dependent).1.keys = state.1.keys := by
      simp [release, Dict.keys_set, known dependent List.mem_cons_self]
    rw [List.foldl_cons, ih, same]
    intro other member
    rw [same]
    exact known other (List.mem_cons_of_mem _ member)

theorem released_declared {group : List ResourceRef} {ref : ResourceRef}
    (released : ref ∈ group.flatMap (dependentsOf declared)) : ref ∈ taskRefs declared := by
  obtain ⟨completed, _, isDependent⟩ := List.mem_flatMap.mp released
  obtain ⟨node, member, rfl⟩ := List.mem_map.mp isDependent
  exact List.mem_map_of_mem (List.mem_of_mem_filter member)

section Step

variable {index : Nat} {indegree : Dict ResourceRef Int} {ready : List ResourceRef}

theorem count_released (closed : Closed declared) {ref : ResourceRef} (member : ref ∈ taskRefs declared) :
    ((groupAt declared index).flatMap (dependentsOf declared)).count ref =
      (dependenciesOf declared ref).countP (· ∈ groupAt declared index) := by
  have same : dependentsOf declared = dependents (taskRefs declared) (dependenciesOf declared) :=
    funext (dependentsOf_eq closed.distinct)
  rw [same]
  exact count_flatMap_dependents closed.distinct member (closed.dependencies_nodup member)
    (groupAt_nodup closed.distinct index)

theorem waiting_split (index : Nat) (closed : Closed declared) {ref : ResourceRef} (member : ref ∈ taskRefs declared) :
    ((dependenciesOf declared ref).countP fun dependency => !below (dependenciesOf declared) index dependency) =
      ((dependenciesOf declared ref).countP fun dependency => !below (dependenciesOf declared) (index + 1) dependency) +
        (dependenciesOf declared ref).countP (· ∈ groupAt declared index) := by
  apply countP_split
  intro dependency isDependency
  have inDeclared := closed.dependency_declared ref member dependency isDependency
  have atLevel : decide (dependency ∈ groupAt declared index) = level (dependenciesOf declared) index dependency := by
    simp [groupAt, nodesAt, inDeclared]
  have step := @below_add_level _ (dependenciesOf declared) index dependency
  have flip (value : Bool) : (!value).toNat = 1 - value.toNat := by cases value <;> rfl
  rw [atLevel, flip, flip]
  have bound := Bool.toNat_le (below (dependenciesOf declared) (index + 1) dependency)
  omega

theorem Round.next (closed : Closed declared) (round : Round declared index indegree ready) :
    Round declared (index + 1) (releaseGroup declared indegree ready).1
      (inDeclarationOrder declared (releaseGroup declared indegree ready).2) := by
  obtain ⟨rfl, waiting, keys⟩ := round
  constructor
  · apply inDeclarationOrder_eq closed.distinct
    · apply nodup_foldl
      · exact List.nodup_nil
      · intro ref listed
        cases listed
    · intro ref
      rw [releaseGroup, mem_foldl, List.mem_filter]
      simp only [List.not_mem_nil, false_or]
      by_cases member : ref ∈ taskRefs declared
      · have split := waiting_split index closed member
        rw [waiting ref member, count_released closed member, split]
        simp only [member, true_and, level_succ]
        have later : ((dependenciesOf declared ref).countP fun dependency =>
            !below (dependenciesOf declared) (index + 1) dependency) = 0 ↔
            ∀ dependency ∈ dependenciesOf declared ref, below (dependenciesOf declared) (index + 1) dependency = true := by
          simp [List.countP_eq_zero]
        have now : (0 < (dependenciesOf declared ref).countP fun dependency =>
            !below (dependenciesOf declared) index dependency) ↔
            ¬∀ dependency ∈ dependenciesOf declared ref, below (dependenciesOf declared) index dependency = true := by
          simp [List.countP_pos_iff]
        rw [split] at now
        rw [← later, ← now]
        omega
      · have never : (List.flatMap (dependentsOf declared) (groupAt declared index)).count ref = 0 := by
          rw [List.count_eq_zero]
          intro released
          exact member (released_declared released)
        simp only [never, member, false_and, iff_false]
        omega
  · intro ref member
    have split := waiting_split index closed member
    rw [releaseGroup, remaining_foldl, waiting ref member, count_released closed member, split]
    push_cast
    omega
  · rw [releaseGroup, keys_release]
    · exact keys
    · intro ref released
      rw [keys]
      exact released_declared released

end Step

def depthOf (declared : List Declaration) : Nat := depth (dependenciesOf declared) (taskRefs declared)

def stages (declared : List Declaration) : List (List ResourceRef) :=
  layers (dependenciesOf declared) (taskRefs declared) (depthOf declared)

theorem Round.first (closed : Closed declared) :
    Round declared 0 (initialIndegree declared) (initiallyReady declared) := by
  constructor
  · exact initiallyReady_eq closed.distinct
  · intro ref _
    rw [remaining_initial, ← List.countP_true]
    rfl
  · simp [initialIndegree, Dict.keys, taskRefs]

theorem readyGroups_eq (closed : Closed declared) {steps index : Nat} {indegree : Dict ResourceRef Int}
    {ready : List ResourceRef} (round : Round declared index indegree ready)
    (toLast : index + steps = depthOf declared) :
    ∃ last, Round declared (depthOf declared) last [] ∧ ∀ rounds, steps ≤ rounds →
      readyGroups declared rounds indegree ready = ((List.range' index steps).map (groupAt declared), last) := by
  induction steps generalizing index indegree ready with
  | zero =>
    obtain rfl : index = depthOf declared := toLast
    obtain rfl : ready = [] := round.ready.trans (depth_empty _ _)
    refine ⟨indegree, round, ?_⟩
    intro rounds _
    cases rounds <;> rfl
  | succ steps ih =>
    obtain ⟨last, final, ends⟩ := ih (Round.next closed round) (by omega)
    refine ⟨last, final, ?_⟩
    intro rounds enough
    obtain ⟨rest, rfl⟩ : ∃ rest, rounds = rest + 1 := ⟨rounds - 1, by omega⟩
    cases ready with
    | nil =>
      have early := depth_le round.ready.symm
      rw [← depthOf] at early
      omega
    | cons first others =>
      simp only [readyGroups, ends rest (by omega), List.range'_succ, List.map_cons, ← round.ready]

theorem readyGroups_stages (closed : Closed declared) :
    ∃ last, Round declared (depthOf declared) last [] ∧ ∀ rounds, declared.length ≤ rounds →
      readyGroups declared rounds (initialIndegree declared) (initiallyReady declared) = (stages declared, last) := by
  have bound : depthOf declared ≤ declared.length := by
    have atMost := depth_le_length (dependenciesOf declared) (taskRefs declared)
    rwa [taskRefs, List.length_map] at atMost
  obtain ⟨last, final, ends⟩ := readyGroups_eq closed (Round.first closed) (Nat.zero_add _)
  refine ⟨last, final, ?_⟩
  intro rounds enough
  rw [ends rounds (by omega), ← List.range_eq_range']
  rfl

theorem still_waiting (closed : Closed declared) {indegree : Dict ResourceRef Int}
    (final : Round declared (depthOf declared) indegree []) :
    (indegree.filter fun entry => 0 < entry.2).map Prod.fst =
      (taskRefs declared).filter fun ref => !below (dependenciesOf declared) (depthOf declared) ref := by
  have waits (entry : ResourceRef × Int) (member : entry ∈ indegree) :
      decide (0 < entry.2) = !below (dependenciesOf declared) (depthOf declared) entry.1 := by
    have listed : entry.1 ∈ taskRefs declared := final.keys ▸ List.mem_map_of_mem member
    have distinct : indegree.keys.Nodup := final.keys.symm ▸ closed.distinct
    have value : remaining indegree entry.1 = entry.2 := by
      simp [remaining, Dict.get?_of_mem distinct member]
    rw [← value, final.waiting entry.1 listed]
    have next : below (dependenciesOf declared) (depthOf declared + 1) entry.1 =
        below (dependenciesOf declared) (depthOf declared) entry.1 := by
      rw [Bool.eq_iff_iff]
      constructor
      · exact below_of_empty closed.dependency_declared (depth_empty _ _) listed
      · exact below_mono (Nat.le_succ _)
    rw [← next, Bool.eq_iff_iff]
    simp [List.countP_pos_iff, below]
  rw [← final.keys, Dict.keys, List.filter_map]
  congr 1
  exact List.filter_congr waits

end Rounds

end Aep.WorkflowScheduler
