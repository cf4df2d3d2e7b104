import Aep.Library.Dict
import Aep.Library.Result

/-! A collection is closed under the references of its members: what is missing is looked up, and visited in its turn. -/
namespace Worklist

open Result

variable {κ α ε : Type} [DecidableEq κ]

/-- What has been found, and those of it whose references are still to be followed. -/
structure State (κ α : Type) where
  found : Dict κ α
  pending : List α

section Definitions

variable (find : κ → Option α) (next : α → List κ) (missing : ε)

def visit (state : State κ α) (reference : κ) : Except ε (State κ α) :=
  if reference ∈ state.found.keys then .ok state
  else match find reference with
    | none => .error missing
    | some resolved => .ok ⟨state.found.set reference resolved, resolved :: state.pending⟩

def drain : Nat → State κ α → Option (Except ε (Dict κ α))
  | _, ⟨found, []⟩ => some (.ok found)
  | 0, ⟨_, _ :: _⟩ => none
  | fuel + 1, ⟨found, current :: pending⟩ =>
    match (next current).foldlM (visit find missing) ⟨found, pending⟩ with
    | .error error => some (.error error)
    | .ok state => drain fuel state

end Definitions

section Invariant

variable {find : κ → Option α} {next : α → List κ} {missing : ε} {holds : κ → α → Prop} {start : Dict κ α}
  {state after : State κ α} {opened : List α} {reference : κ}

theorem visit_ok (visited : visit find missing state reference = .ok after) :
    (reference ∈ state.found.keys ∧ after = state) ∨
      (reference ∉ state.found.keys ∧ ∃ resolved, find reference = some resolved ∧
        after = ⟨state.found.set reference resolved, resolved :: state.pending⟩) := by
  unfold visit at visited
  split at visited
  · rename_i present
    cases visited
    exact .inl ⟨present, rfl⟩
  · rename_i absent
    split at visited
    · cases visited
    · rename_i resolved looked
      cases visited
      exact .inr ⟨absent, resolved, looked, rfl⟩

/-- Every reference of a member is found, but for the members that are still open. -/
structure Inv (next : α → List κ) (holds : κ → α → Prop) (start : Dict κ α) (opened : List α) (state : State κ α) :
    Prop where
  distinct : state.found.keys.Nodup
  entries : ∀ key value, state.found.get? key = some value → holds key value
  kept : ∀ key value, start.get? key = some value → state.found.get? key = some value
  pending : ∀ value ∈ state.pending, ∃ key, state.found.get? key = some value
  closed : ∀ key value, state.found.get? key = some value → value ∈ opened ∨ ∀ reference ∈ next value, reference ∈ state.found.keys

def Inherited (find : κ → Option α) (next : α → List κ) (holds : κ → α → Prop) (start : Dict κ α) : Prop :=
  ∀ key value reference resolved, holds key value → reference ∈ next value → reference ∉ start.keys →
    find reference = some resolved → holds reference resolved

theorem mem_keys_iff {entries : Dict κ α} {key : κ} : key ∈ entries.keys ↔ ∃ value, entries.get? key = some value := by
  rw [← not_iff_not, ← Dict.get?_eq_none]
  cases entries.get? key <;> simp

theorem Inv.visit (inv : Inv next holds start (opened ++ state.pending) state)
    (inherited : Inherited find next holds start) {key : κ} {value : α} (present : state.found.get? key = some value)
    (referenced : reference ∈ next value) (visited : visit find missing state reference = .ok after) :
    Inv next holds start (opened ++ after.pending) after ∧ reference ∈ after.found.keys ∧
      ∀ key value, state.found.get? key = some value → after.found.get? key = some value := by
  rcases visit_ok visited with ⟨known, rfl⟩ | ⟨fresh, resolved, looked, rfl⟩
  · exact ⟨inv, known, fun _ _ same => same⟩
  · have unset : state.found.get? reference = none := Dict.get?_eq_none.mpr fresh
    have grown (name : κ) (found : α) (old : state.found.get? name = some found) :
        (state.found.set reference resolved).get? name = some found := by
      have other : reference ≠ name := by
        rintro rfl
        rw [unset] at old
        cases old
      rw [Dict.get?_set_ne _ _ other, old]
    have inStart : reference ∉ start.keys := by
      intro inside
      obtain ⟨found, its⟩ := mem_keys_iff.mp inside
      rw [inv.kept _ _ its] at unset
      cases unset
    have keys (name : κ) (old : name ∈ state.found.keys) : name ∈ (state.found.set reference resolved).keys := by
      obtain ⟨found, its⟩ := mem_keys_iff.mp old
      exact mem_keys_iff.mpr ⟨found, grown name found its⟩
    refine ⟨⟨Dict.nodup_keys_set inv.distinct _ _, fun name found its => ?_, fun name found its => ?_, ?_, fun name found its => ?_⟩,
      mem_keys_iff.mpr ⟨resolved, Dict.get?_set_self _ _ _⟩, grown⟩
    · rw [Dict.get?_set] at its
      split at its
      · rename_i same
        cases its
        rw [← same]
        exact inherited key value reference resolved (inv.entries key value present) referenced inStart looked
      · exact inv.entries name found its
    · exact grown name found (inv.kept name found its)
    · refine List.forall_mem_cons.mpr ⟨⟨reference, Dict.get?_set_self _ _ _⟩, fun found waiting => ?_⟩
      obtain ⟨name, its⟩ := inv.pending found waiting
      exact ⟨name, grown name found its⟩
    · rw [Dict.get?_set] at its
      split at its
      · cases its
        exact .inl (List.mem_append_right _ List.mem_cons_self)
      · rcases inv.closed name found its with waiting | settled
        · rcases List.mem_append.mp waiting with first | later
          · exact .inl (List.mem_append_left _ first)
          · exact .inl (List.mem_append_right _ (List.mem_cons_of_mem _ later))
        · exact .inr fun other member => keys other (settled other member)

theorem Inv.visits (inherited : Inherited find next holds start) {key : κ} {value : α} {references : List κ}
    (referenced : ∀ reference ∈ references, reference ∈ next value) {state after : State κ α}
    (inv : Inv next holds start (opened ++ state.pending) state) (present : state.found.get? key = some value)
    (visited : references.foldlM (Worklist.visit find missing) state = .ok after) :
    Inv next holds start (opened ++ after.pending) after ∧ (∀ reference ∈ references, reference ∈ after.found.keys) ∧
      ∀ key value, state.found.get? key = some value → after.found.get? key = some value := by
  induction references generalizing state with
  | nil =>
    cases visited
    exact ⟨inv, by simp, fun _ _ same => same⟩
  | cons reference rest ih =>
    simp only [List.foldlM_cons, bind_eq_ok] at visited
    obtain ⟨middle, first, later⟩ := visited
    obtain ⟨stepped, known, grown⟩ := inv.visit inherited present (referenced reference List.mem_cons_self) first
    obtain ⟨inv, all, more⟩ := ih (fun other member => referenced other (List.mem_cons_of_mem _ member)) stepped
      (grown key value present) later
    refine ⟨inv, List.forall_mem_cons.mpr ⟨?_, all⟩, fun key value its => more key value (grown key value its)⟩
    obtain ⟨found, its⟩ := mem_keys_iff.mp known
    exact mem_keys_iff.mpr ⟨found, more reference found its⟩

theorem Inv.drain (inherited : Inherited find next holds start) {fuel : Nat} {state : State κ α} {result : Dict κ α}
    (inv : Inv next holds start state.pending state) (drained : drain find next missing fuel state = some (.ok result)) :
    Inv next holds start [] ⟨result, []⟩ := by
  induction fuel generalizing state with
  | zero =>
    obtain ⟨found, pending⟩ := state
    cases pending with
    | nil =>
      cases drained
      exact inv
    | cons current rest => cases drained
  | succ fuel ih =>
    obtain ⟨found, pending⟩ := state
    cases pending with
    | nil =>
      cases drained
      exact inv
    | cons current rest =>
      unfold Worklist.drain at drained
      split at drained
      · cases drained
      · rename_i after visited
        obtain ⟨key, present⟩ := inv.pending current List.mem_cons_self
        have opened : Inv next holds start ([current] ++ rest) ⟨found, rest⟩ :=
          ⟨inv.distinct, inv.entries, inv.kept, fun value member => inv.pending value (List.mem_cons_of_mem _ member), inv.closed⟩
        have known : (State.mk found rest).found.get? key = some current := present
        obtain ⟨stepped, all, -⟩ := Inv.visits inherited (fun _ member => member) opened known visited
        refine ih ⟨stepped.distinct, stepped.entries, stepped.kept, stepped.pending, fun key value its => ?_⟩ drained
        rcases stepped.closed key value its with waiting | settled
        · rcases List.mem_cons.mp waiting with rfl | later
          · exact .inr all
          · exact .inl later
        · exact .inr settled

end Invariant

section Fuel

variable {find : κ → Option α} {next : α → List κ} {missing : ε} {domain : List κ}

def measure (domain : List κ) (state : State κ α) : Nat :=
  (domain.filter fun key => key ∉ state.found.keys).length + state.pending.length

theorem measure_visit (inside : ∀ key value, find key = some value → key ∈ domain) {state after : State κ α} {reference : κ}
    (visited : visit find missing state reference = .ok after) : measure domain after ≤ measure domain state := by
  rcases visit_ok visited with ⟨_, rfl⟩ | ⟨fresh, resolved, looked, rfl⟩
  · exact Nat.le_refl _
  · have member := inside reference resolved looked
    have keys : (state.found.set reference resolved).keys = state.found.keys ++ [reference] := by
      rw [Dict.keys_set, if_neg fresh]
    have fewer : (domain.filter fun key => key ∉ state.found.keys ++ [reference]).length + 1 ≤
        (domain.filter fun key => key ∉ state.found.keys).length := by
      have split : (domain.filter fun key => key ∉ state.found.keys ++ [reference]) =
          (domain.filter fun key => key ∉ state.found.keys).filter fun key => key ≠ reference := by
        rw [List.filter_filter]
        refine List.filter_congr fun key _ => ?_
        simp [List.mem_append, not_or, and_comm]
      rw [split]
      exact List.length_filter_lt_length_iff_exists.mpr
        ⟨reference, List.mem_filter.mpr ⟨member, by simpa using fresh⟩, by simp⟩
    unfold measure
    rw [keys, List.length_cons]
    omega

theorem measure_visits (inside : ∀ key value, find key = some value → key ∈ domain) {references : List κ}
    {state after : State κ α} (visited : references.foldlM (visit find missing) state = .ok after) :
    measure domain after ≤ measure domain state := by
  induction references generalizing state with
  | nil =>
    cases visited
    exact Nat.le_refl _
  | cons reference rest ih =>
    simp only [List.foldlM_cons, bind_eq_ok] at visited
    obtain ⟨middle, first, later⟩ := visited
    exact Nat.le_trans (ih later) (measure_visit inside first)

theorem drain_isSome (inside : ∀ key value, find key = some value → key ∈ domain) {fuel : Nat} {state : State κ α}
    (enough : measure domain state ≤ fuel) : (drain find next missing fuel state).isSome = true := by
  induction fuel generalizing state with
  | zero =>
    obtain ⟨found, pending⟩ := state
    cases pending with
    | nil => rfl
    | cons current rest =>
      unfold measure at enough
      rw [List.length_cons] at enough
      omega
  | succ fuel ih =>
    obtain ⟨found, pending⟩ := state
    cases pending with
    | nil => rfl
    | cons current rest =>
      unfold drain
      split
      · rfl
      · rename_i after visited
        have smaller := measure_visits inside visited
        apply ih
        unfold measure at enough smaller ⊢
        rw [List.length_cons] at enough
        dsimp only at enough smaller
        omega

end Fuel

end Worklist
