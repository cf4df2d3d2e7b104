import Aep.RuntimeStore.Operations
import Mathlib.Logic.Function.Basic

/-! Store instances of any number of processes over one checkpoint file. -/
namespace Aep.RuntimeStore

inductive Access where
  | mutate (operation : Operation)
  | get (objectId : String)
  | listByWorkflowExecution (workflowExecutionId : String)
  | listByTaskExecution (taskExecutionId : String)

inductive Answer where
  | reply (reply : Reply)
  | found (value : Option Record)
  | listed (values : List Record)

/-- Where the operating system fails a call: at the fence, before the checkpoint is in its place, or after that, when
    the directory is synced or the fence given back. -/
inductive Phase where
  | fence
  | write
  | sync
  deriving DecidableEq

namespace Access

def run : Access → StoreM Answer
  | .mutate operation => .reply <$> operation.run
  | .get objectId => fun store => (.ok (.found (store.get objectId)), store)
  | .listByWorkflowExecution id => fun store => (.listed <$> store.listByWorkflowExecution id, store)
  | .listByTaskExecution id => fun store => (.listed <$> store.listByTaskExecution id, store)

/-- One attempt of a call at an instance. -/
def perform (access : Access) : DurableM Answer :=
  match access with
  | .mutate operation => RuntimeStore.mutate (Access.mutate operation).run
  | _ => readVisible fun store => (access.run store).1

def fail (access : Access) (phase : Phase) (durable : Durable) : Durable :=
  match phase with
  | .fence => durable
  | .write => { durable with memory := durable.visible.toOption.getD durable.memory }
  | .sync => (access.perform durable).2

/-- An operation on one store that never fails, which it leaves as it was where it raises. -/
def committed (operation : StoreM Answer) : StoreM Answer := fun store =>
  match operation store with
  | (.ok answer, after) => (.ok answer, after.reindexed)
  | (.error error, _) => (.error error, store)

def atomic (access : Access) : StoreM Answer :=
  match access with
  | .mutate operation => committed (Access.mutate operation).run
  | _ => fun store => ((access.run store).1, store)

end Access

structure Instances where
  file : Option Json := none
  memory : Nat → Store := fun _ => {}

namespace Instances

variable (instances : Instances) (i : Nat)

def durable : Durable := ⟨instances.memory i, instances.file⟩

def put (durable : Durable) : Instances := ⟨durable.file, Function.update instances.memory i durable.memory⟩

/-- What a new process holds in memory once it has opened the store. -/
def opened : Store :=
  match instances.file with
  | none => {}
  | some encoded => (restore encoded).toOption.getD {}

end Instances

inductive StoreEvent where
  | answered (i : Nat) (access : Access) (answer : Except PyError Answer)
  | failed (i : Nat) (access : Access) (phase : Phase)
  | restarted (i : Nat)

/-- A crash in the middle of a call is a failure and a restart. -/
inductive Instances.Step : Instances → StoreEvent → Instances → Prop where
  | call (instances : Instances) (i : Nat) (access : Access) :
      Step instances (.answered i access (access.perform (instances.durable i)).1)
        (instances.put i (access.perform (instances.durable i)).2)
  | fail (instances : Instances) (i : Nat) (access : Access) (phase : Phase) :
      Step instances (.failed i access phase) (instances.put i (access.fail phase (instances.durable i)))
  | restart (instances : Instances) (i : Nat) :
      Step instances (.restarted i) (instances.put i ⟨instances.opened, instances.file⟩)

/-- The store that all instances are to be: a call takes effect at once, and a failed one before its checkpoint is in
    place has none. -/
inductive AtomicStep : Store → StoreEvent → Store → Prop where
  | call (store : Store) (i : Nat) (access : Access) :
      AtomicStep store (.answered i access (access.atomic store).1) (access.atomic store).2
  | fail (store : Store) (i : Nat) (access : Access) (phase : Phase) :
      AtomicStep store (.failed i access phase) (if phase = .sync then (access.atomic store).2 else store)
  | restart (store : Store) (i : Nat) : AtomicStep store (.restarted i) store

/-- A run with what was seen of it, latest first. -/
inductive RunOf {σ : Type} (step : σ → StoreEvent → σ → Prop) (start : σ) : List StoreEvent → σ → Prop where
  | start : RunOf step start [] start
  | next {events : List StoreEvent} {event : StoreEvent} {s t : σ} (run : RunOf step start events s)
      (taken : step s event t) : RunOf step start (event :: events) t

section Refinement

variable {access : Access} {durable : Durable} {store : Store} {instances next : Instances} {event : StoreEvent}

theorem committed_wellFormed {operation : StoreM Answer} (wellFormed : store.WellFormed)
    (writes : ∀ answer after, operation.Returns store answer after → after.WellFormed) :
    (Access.committed operation store).2.WellFormed := by
  unfold Access.committed
  rcases ran : operation store with ⟨error | answer, after⟩
  · exact wellFormed
  · exact (writes answer after ran).reindexed

theorem mutate_committed {operation : StoreM Answer} (seen : durable.visible = .ok store)
    (writes : ∀ answer after, operation.Returns store answer after → after.WellFormed) :
    (mutate operation durable).1 = (Access.committed operation store).1 ∧
      ((mutate operation durable).2 = ⟨store, durable.file⟩ ∧ (Access.committed operation store).2 = store ∨
        ∃ encoded, (mutate operation durable).2.file = some encoded ∧
          restore encoded = .ok (Access.committed operation store).2) := by
  unfold mutate Access.committed
  rw [seen]
  rcases ran : operation store with ⟨error | answer, after⟩
  · simp only [ran]
    exact ⟨trivial, .inl ⟨trivial, trivial⟩⟩
  · simp only [ran]
    exact ⟨trivial, .inr ⟨_, rfl, Store.restore_checkpoint (writes answer after ran)⟩⟩

theorem readVisible_kept (access : Access) (seen : durable.visible = .ok store) :
    (readVisible (fun store => (access.run store).1) durable).1 = (access.run store).1 ∧
      (readVisible (fun store => (access.run store).1) durable).2 = ⟨store, durable.file⟩ := by
  unfold readVisible
  rw [seen]
  exact ⟨rfl, rfl⟩

theorem writes_wellFormed {operation : Operation} (wellFormed : store.WellFormed) (answer : Answer) (after : Store)
    (returned : (Access.mutate operation).run.Returns store answer after) : after.WellFormed := by
  obtain ⟨reply, returned, -⟩ := StateAction.returns_map.mp returned
  exact (run_advances returned wellFormed).1

theorem atomic_wellFormed (wellFormed : store.WellFormed) : (access.atomic store).2.WellFormed := by
  cases access with
  | mutate operation =>
    have same : (Access.mutate operation).atomic = Access.committed (Access.mutate operation).run := rfl
    rw [same]
    exact committed_wellFormed wellFormed (writes_wellFormed wellFormed)
  | _ => exact wellFormed

/-- A call restores the checkpoint, answers as the one store does, and leaves it or writes the next one. -/
theorem perform_atomic (access : Access) (seen : durable.visible = .ok store) (wellFormed : store.WellFormed) :
    (access.perform durable).1 = (access.atomic store).1 ∧
      ((access.perform durable).2 = ⟨store, durable.file⟩ ∧ (access.atomic store).2 = store ∨
        ∃ encoded, (access.perform durable).2.file = some encoded ∧ restore encoded = .ok (access.atomic store).2) := by
  cases access with
  | mutate operation =>
    have performed : (Access.mutate operation).perform = mutate (Access.mutate operation).run := rfl
    have same : (Access.mutate operation).atomic = Access.committed (Access.mutate operation).run := rfl
    rw [performed, same]
    exact mutate_committed seen (writes_wellFormed wellFormed)
  | get objectId =>
    obtain ⟨answered, kept⟩ := readVisible_kept (Access.get objectId) seen
    exact ⟨answered, .inl ⟨kept, rfl⟩⟩
  | listByWorkflowExecution id =>
    obtain ⟨answered, kept⟩ := readVisible_kept (Access.listByWorkflowExecution id) seen
    exact ⟨answered, .inl ⟨kept, rfl⟩⟩
  | listByTaskExecution id =>
    obtain ⟨answered, kept⟩ := readVisible_kept (Access.listByTaskExecution id) seen
    exact ⟨answered, .inl ⟨kept, rfl⟩⟩

/-- Every instance sees the same store, which is empty as long as no checkpoint was written. -/
structure Instances.Show (instances : Instances) (store : Store) : Prop where
  wellFormed : store.WellFormed
  seen : ∀ i, (instances.durable i).visible = .ok store
  unwritten : instances.file = none → store = {}

theorem Instances.Show.put {i : Nat} (shows : instances.Show store) {memory : Store}
    (same : instances.file = none → memory = {}) : (instances.put i ⟨memory, instances.file⟩).Show store := by
  refine ⟨shows.wellFormed, fun j => ?_, shows.unwritten⟩
  have seen := shows.seen j
  unfold Instances.durable Instances.put Durable.visible at *
  cases written : instances.file with
  | none =>
    simp only [written] at seen ⊢
    by_cases here : j = i
    · subst here
      rw [Function.update_self, same written, shows.unwritten written]
    · rwa [Function.update_of_ne here]
  | some encoded => simpa only [written] using seen

theorem Instances.Show.written {i : Nat} {durable : Durable} {encoded : Json} (wellFormed : store.WellFormed)
    (written : durable.file = some encoded) (restored : restore encoded = .ok store) :
    (instances.put i durable).Show store := by
  refine ⟨wellFormed, fun j => ?_, fun none => ?_⟩
  · simp only [Instances.durable, Instances.put, Durable.visible, written, restored]
  · rw [Instances.put, written] at none
    cases none

theorem Instances.Show.perform {i : Nat} (shows : instances.Show store) (access : Access) :
    (instances.put i (access.perform (instances.durable i)).2).Show (access.atomic store).2 := by
  obtain ⟨-, ⟨kept, same⟩ | ⟨encoded, written, restored⟩⟩ := perform_atomic access (shows.seen i) shows.wellFormed
  · rw [kept, same]
    exact shows.put shows.unwritten
  · exact .written (atomic_wellFormed shows.wellFormed) written restored

/-- Every step of the instances is a step of the one store. -/
theorem step_atomic (shows : instances.Show store) (step : instances.Step event next) :
    ∃ after, AtomicStep store event after ∧ next.Show after := by
  cases step with
  | call i access =>
    rw [(perform_atomic access (shows.seen i) shows.wellFormed).1]
    exact ⟨_, .call store i access, shows.perform access⟩
  | fail i access phase =>
    refine ⟨_, .fail store i access phase, ?_⟩
    cases phase with
    | fence =>
      refine shows.put fun none => ?_
      have seen := shows.seen i
      simp only [Instances.durable, Durable.visible, none] at seen
      exact (Except.ok.inj seen).trans (shows.unwritten none)
    | write =>
      have kept : access.fail .write (instances.durable i) = ⟨store, instances.file⟩ := by
        simp only [Access.fail, shows.seen i, Except.toOption, Option.getD_some]
        rfl
      rw [kept]
      exact shows.put shows.unwritten
    | sync => exact shows.perform access
  | restart i =>
    refine ⟨store, .restart store i, shows.put fun none => ?_⟩
    rw [Instances.opened, none]

/-- However the calls of any number of processes interleave and wherever they fail or crash, the instances are one
    store, on which every call takes effect at once or not at all and which answers as it does on its own. -/
theorem instances_atomic {events : List StoreEvent} (run : RunOf Instances.Step {} events instances) :
    ∃ store, RunOf AtomicStep {} events store ∧ store.WellFormed ∧ ∀ i, (instances.durable i).visible = .ok store := by
  suffices refined : ∃ store, RunOf AtomicStep {} events store ∧ instances.Show store by
    obtain ⟨store, reached, shows⟩ := refined
    exact ⟨store, reached, shows.wellFormed, shows.seen⟩
  induction run with
  | start => exact ⟨{}, .start, Store.wellFormed_empty, fun _ => rfl, fun _ => rfl⟩
  | next _ taken ih =>
    obtain ⟨store, reached, shows⟩ := ih
    obtain ⟨after, step, shows⟩ := step_atomic shows taken
    exact ⟨after, .next reached step, shows⟩

end Refinement

section Sample

def sampleLease (owner : String) : Access :=
  .mutate (.acquireLease "suite" owner "2026-01-01T00:00:00Z" "2026-01-01T00:05:00Z")

/-- A first process fails to sync the directory and dies. -/
def sampleFailed : Instances := ({} : Instances).put 0 ((sampleLease "first").fail .sync (Instances.durable {} 0))

def sampleRestarted : Instances := sampleFailed.put 0 ⟨sampleFailed.opened, sampleFailed.file⟩

def sampleAnswered : Instances := sampleRestarted.put 1 ((sampleLease "second").perform (sampleRestarted.durable 1)).2

def sampleEvents : List StoreEvent :=
  [.answered 1 (sampleLease "second") (.ok (.reply (.flag false))), .restarted 0, .failed 0 (sampleLease "first") .sync]

theorem sample_run : RunOf Instances.Step {} sampleEvents sampleAnswered := by
  have refused : ((sampleLease "second").perform (sampleRestarted.durable 1)).1 = .ok (.reply (.flag false)) := rfl
  rw [sampleEvents, ← refused]
  exact .next (.next (.next .start (.fail {} 0 (sampleLease "first") .sync)) (.restart sampleFailed 0))
    (.call sampleRestarted 1 (sampleLease "second"))

/-- The lease that the dead process took is not taken again. -/
theorem instances_atomic_sample : ∃ store, RunOf AtomicStep {} sampleEvents store ∧ store.WellFormed ∧
    ∀ i, (sampleAnswered.durable i).visible = .ok store :=
  instances_atomic sample_run
end Sample

end Aep.RuntimeStore
