import Aep.WorkflowScheduler.Waves

namespace Aep.WorkflowScheduler

open RuntimeStore StateAction Machine.Discipline

variable {platform : Platform} {jobs : Nat → Job} {faults : Prop} {thread : Nat} {world next : World}
  {before after : Store}

/-- A state of the calls after steps in any order, each of which may be abandoned anywhere. -/
abbrev Run (jobs : Nat → Job) (platform : Platform) (faults : Prop) (durable : Durable)
    (now : Machine.Config Calls World PyError (List Record)) : Prop :=
  (machine platform faults).Reaches (fun _ _ _ => True) (start platform jobs durable) now

section Start

variable {durable : Durable} {store : Store}

theorem task_none {id : String} {record : Record} (absent : life store id = none) (found : store.get id = some record) :
    isTask record = false := by
  rw [life_found found] at absent
  cases task : isTask record with
  | false => rfl
  | true => simp [task] at absent

theorem start_inv (shows : durable.visible = .ok store) (unscheduled : Unscheduled platform store) :
    Inv platform (start platform jobs durable).shared := by
  have lifeless (id : String) : (start platform jobs durable).shared.life id = none := by
    have seen : (start platform jobs durable).shared.Shows store := shows
    rw [world_life seen]
    exact unscheduled.tasks id
  refine ⟨⟨store, shows, unscheduled.wellFormed, unscheduled.indexed, ?_, ?_⟩, ?_, fun _ _ => rfl, ?_⟩
  · intro id record found task
    rw [task_none (unscheduled.tasks id) found] at task
    cases task
  · intro workflowId identity attempt id keyed
    rw [unscheduled.keys _ (.inl ⟨_, _, _, rfl⟩)] at keyed
    cases keyed
  · intro id attempt lived
    rw [lifeless] at lived
    cases lived
  · intro id attempt owner lived
    rw [lifeless] at lived
    cases lived

theorem start_holds (shows : durable.visible = .ok store) (unscheduled : Unscheduled platform store) :
    (discipline platform faults jobs).Holds (fun _ _ _ => True) (start platform jobs durable) :=
  holds_of_keeps (start_inv shows unscheduled) fun i => @keeps_job ⟨platform, faults, jobs, i⟩

variable {now : Machine.Config Calls World PyError (List Record)}

theorem ends_stable (i : Nat) : (discipline platform faults jobs).Stable i
    fun (_ : World) (_ : Except PyError (List Record)) => True :=
  fun _ _ _ _ _ => trivial

theorem run_holds (shows : durable.visible = .ok store) (unscheduled : Unscheduled platform store)
    (reached : Run jobs platform faults durable now) : (discipline platform faults jobs).Holds (fun _ _ _ => True) now :=
  (start_holds shows unscheduled).reaches ends_stable reached

/-- A property of the visible store that holds of every step's store holds throughout a run. -/
theorem store_invariant {property : Store → Prop} (shows : durable.visible = .ok store)
    (unscheduled : Unscheduled platform store) (initially : property store)
    (changes : ∀ {i world next before after}, Inv platform world → Changed platform jobs i world next before after →
      property before → property after)
    (others : ∀ {world before after}, Inv platform world → world.Shows before → Foreign platform before after →
      property before → property after)
    (reached : Run jobs platform faults durable now) :
    ∃ seen, now.shared.Shows seen ∧ property seen := by
  refine @Holds.invariant _ _ _ _ _ _ _ _ _ _ ends_stable (start_holds shows unscheduled)
    (fun world => ∃ seen, world.Shows seen ∧ property seen) ⟨store, shows, initially⟩ ?_ ?_ reached
  · rintro i world call answer next inv permitted - executed ⟨seen, showing, known⟩
    cases call with
    | store operation =>
      rcases store_changed inv permitted executed with alike | ⟨before, after, changed⟩
      · exact ⟨seen, alike.shows showing, known⟩
      · cases showing.symm.trans changed.shows
        exact ⟨after, changed.seen, changes inv changed known⟩
    | execute task running =>
      cases executed
      exact ⟨seen, showing, known⟩
    | uuid4 =>
      cases executed
      exact ⟨seen, showing, known⟩
    | _ => exact ⟨seen, (alike_exec executed (by simp) (by simp) (by simp)).shows showing, known⟩
  · rintro world next inv ⟨-, -, old, new, showsOld, showsNew, foreign⟩ ⟨seen, showing, known⟩
    cases showing.symm.trans showsOld
    exact ⟨new, showsNew, others inv showsOld foreign known⟩

end Start

section Sample

def samplePlatform : Platform where
  uuid5 text := text
  sha256 text := text
  strip text := text
  isRfc3339Timestamp _ := true
  instant _ := some 0
  violation _ _ := none
  recursionLimit := 10

def sampleRef (name : String) : ResourceRef := ⟨"Task", name, "1"⟩

def samplePlan : TaskDagPlan where
  workflowRef := ⟨"Workflow", "change", "1"⟩
  nodes := [
    ⟨sampleRef "analyze", ⟨sampleRef "analyze", .null⟩, [], [sampleRef "plan"]⟩,
    ⟨sampleRef "plan", ⟨sampleRef "plan", .null⟩, [sampleRef "analyze"], []⟩]
  readyGroups := [[sampleRef "analyze"], [sampleRef "plan"]]

def sampleTime : String := "2026-01-01T00:00:00Z"

def sampleWorkflow : Record := [
  ("apiVersion", .str "aep.dev/v1alpha1"), ("kind", .str "WorkflowExecution"), ("id", .str "workflow-1"),
  ("traceId", .str "trace-1"), ("createdAt", .str sampleTime), ("updatedAt", .str sampleTime),
  ("provenance", .obj []), ("repositoryRevision", .str "main"), ("status", .str "RUNNING"),
  ("workflowRef", .obj (refRecord ⟨"Workflow", "change", "1"⟩)), ("taskExecutionIds", .arr [])]


def sampleStore : Store := (({} : Store).put "workflow-1" sampleWorkflow).reindexed

theorem sample_unscheduled : Unscheduled samplePlatform sampleStore := by
  have wellFormed : (({} : Store).put "workflow-1" sampleWorkflow).WellFormed :=
    Store.wellFormed_empty.put (by decide +kernel) rfl
  refine ⟨wellFormed.reindexed, wellFormed.indexed, fun id => ?_, fun key _ => ?_⟩
  · by_cases same : "workflow-1" = id
    · subst same
      decide +kernel
    · have absent : sampleStore.get id = none := by
        rw [sampleStore, Store.get_reindexed, Store.get_put, if_neg same]
        rfl
      rw [life, absent]
      rfl
  · simp [sampleStore, Store.put]

def sampleJobs (_ : Nat) : Job := .reconcile 2 (by decide) samplePlan sampleWorkflow

/-- How a call of a thread is answered that draws one owner token, where no fault happens and the executor succeeds. -/
def respond (thread : Nat) (token : String) (world : World) : (call : Call) → call.Answer × World
  | .clock => (.str sampleTime, world)
  | .now => (sampleTime, world)
  | .uuid4 => (token, world.issue token thread)
  | .execute _ running =>
    (.returned { succeeded := true }, world.invoke (idOf running) (.returned { succeeded := true }))
  | .get id =>
    let read := readVisible (fun store => .ok (store.get id)) world.durable
    (read.1, world.move read.2)
  | .listByWorkflowExecution id =>
    let read := readVisible (fun store => store.listByWorkflowExecution id) world.durable
    (read.1, world.move read.2)
  | .listByTaskExecution id =>
    let read := readVisible (fun store => store.listByTaskExecution id) world.durable
    (read.1, world.move read.2)
  | .store operation => ((operation.execute world.durable).1, world.move (operation.execute world.durable).2)

def Drawable (token : String) (world : World) : Call → Prop
  | .uuid4 => world.issued token = none
  | _ => True

instance (token : String) (world : World) (call : Call) : Decidable (Drawable token world call) := by
  cases call <;> unfold Drawable <;> infer_instance

theorem exec_respond {faults : Prop} {token : String} {thread : Nat} {world : World} {call : Call}
    (ready : Drawable token world call) :
    World.Exec faults thread world call (respond thread token world call).1 (respond thread token world call).2 := by
  cases call with
  | clock => exact .clock _
  | now => exact .now _
  | uuid4 => exact .uuid4 token ready
  | execute task running => exact .execute task running _
  | get id => exact .get id
  | listByWorkflowExecution id => exact .listByWorkflowExecution id
  | listByTaskExecution id => exact .listByTaskExecution id
  | store operation => exact .store operation

def sampleRun (thread : Nat) (token : String) (steps : Nat) (world : World) : World × Prog (List Record) :=
  Machine.advance (respond thread token) steps world ((sampleJobs thread).program samplePlatform)

theorem sample_reaches {config : Machine.Config Calls World PyError (List Record)} (thread : Nat) (token : String)
    (steps : Nat) {world : World} (shared : config.shared = world)
    (running : config.threads thread = (sampleJobs thread).program samplePlatform)
    (drawable : Machine.MeetsAlong (fun world call => True ∧ Drawable token world call) (respond thread token) steps world
      ((sampleJobs thread).program samplePlatform)) :
    ∃ next, (machine samplePlatform False).Reaches (fun _ _ _ => True) config next ∧
      next.shared = (sampleRun thread token steps world).1 ∧
      next.threads thread = (sampleRun thread token steps world).2 ∧
      ∀ other, other ≠ thread → next.threads other = config.threads other := by
  rw [← shared, ← running] at drawable
  have reaches : (machine samplePlatform False).Reaches (fun _ _ _ => True) config
      ⟨(Machine.advance (respond thread token) steps config.shared (config.threads thread)).1,
        Function.update config.threads thread
          (Machine.advance (respond thread token) steps config.shared (config.threads thread)).2⟩ :=
    Machine.reaches_ready (fun _ _ => exec_respond) steps config drawable
  rw [shared, running] at reaches
  exact ⟨_, reaches, rfl, Function.update_self .., fun other different => Function.update_of_ne different ..⟩

def sampleStart : World := (start samplePlatform sampleJobs { memory := sampleStore }).shared

/-- A first call is abandoned after it has created the first attempt, and a second one takes it up. -/
def firstWave : World := (sampleRun 1 "second" 30 (sampleRun 0 "first" 15 sampleStart).1).1

def secondWave : World := (sampleRun 2 "third" 30 firstWave).1

def sampleStatuses (world : World) : Option (List String) :=
  world.durable.visible.toOption.map fun store =>
    (store.objects.map Prod.snd).filterMap fun record => if isTask record then some (statusOf record).text else none

theorem reaches_secondWave : ∃ now, Run sampleJobs samplePlatform False { memory := sampleStore } now ∧
    sampleStatuses now.shared = some ["SUCCEEDED", "SUCCEEDED"] := by
  obtain ⟨abandoned, first, shared, -, kept⟩ := @sample_reaches
    (start samplePlatform sampleJobs { memory := sampleStore }) 0 "first" 15 sampleStart rfl rfl (by decide +kernel)
  obtain ⟨resumed, second, shared, -, keptAgain⟩ := sample_reaches 1 "second" 30 shared (kept 1 (by decide))
    (by decide +kernel)
  obtain ⟨now, third, shared, -, -⟩ := sample_reaches 2 "third" 30 shared
    ((keptAgain 2 (by decide)).trans (kept 2 (by decide))) (by decide +kernel)
  have both : sampleStatuses secondWave = some ["SUCCEEDED", "SUCCEEDED"] := by decide +kernel
  exact ⟨now, (first.trans second).trans third, (congrArg sampleStatuses shared).trans both⟩

end Sample

section Protocol

/-- What one step of a run did to the attempts. -/
inductive Follows (platform : Platform) (jobs : Nat → Job) (world next : World) : Prop where
  | unchanged (same : ∀ id, next.life id = world.life id)
  | created (thread : Nat) (id : String) {record : Record} {key : String}
      (may : MayCreate jobs thread world record key) (fresh : world.life id = none)
      (life : ∀ wanted, next.life wanted = if id = wanted then some Life.created else world.life wanted)
  | stepped (thread : Nat) (id : String) {action : Life.Action} {old new : Life} (found : world.life id = some old)
      (step : Life.Step action old new) (authorized : Authorized platform thread world id action)
      (life : ∀ wanted, next.life wanted = if id = wanted then some new else world.life wanted)

theorem Changed.follows (changed : Changed platform jobs thread world next before after) :
    Follows platform jobs world next := by
  have earlier := changed.life_before
  have later := changed.life_after
  cases changed.moved with
  | same same => exact .unchanged fun id => by rw [earlier, later, same]
  | created id may absent stored keyed same =>
    have fresh : world.life id = none := by
      rw [earlier]
      simp [life, absent]
    exact .created thread id may fresh fun wanted => by rw [later, same, earlier]
  | stepped id found step authorized _ same =>
    exact .stepped thread id ((earlier id).trans found) step authorized fun wanted => by rw [later, same, earlier]

/-- Every step of every run leaves the attempts as they are, creates one or takes one of them through an authorized
    transition. -/
theorem attempts_follow_protocol {durable : Durable} {store : Store}
    {now later : Machine.Config Calls World PyError (List Record)} (shows : durable.visible = .ok store)
    (unscheduled : Unscheduled platform store) (reached : Run jobs platform faults durable now)
    (step : (machine platform faults).Step (fun _ _ _ => True) now later) :
    Follows platform jobs now.shared later.shared := by
  have holds := run_holds shows unscheduled reached
  cases step with
  | @call thread call rest answer next running _ executed =>
    have permitted := holds.permitted running
    cases call with
    | store operation =>
      rcases store_changed holds.1 permitted executed with alike | ⟨before, after, changed⟩
      · exact .unchanged alike.life
      · exact changed.follows
    | execute task running =>
      cases executed
      exact .unchanged fun _ => rfl
    | uuid4 =>
      cases executed
      exact .unchanged fun _ => rfl
    | _ => exact .unchanged (alike_exec executed (by simp) (by simp) (by simp)).life
  | foreign moved =>
    obtain ⟨-, -, old, new, showsOld, showsNew, foreign⟩ := moved
    exact .unchanged fun id => by rw [world_life showsNew, world_life showsOld, foreign.life]

def sampleAttempt : String := "taskexecution-task-execution:workflow-1:Task/analyze:1:1"

def isStoreCall : Prog (List Record) → Bool
  | .call (.store _) _ => true
  | _ => false

/-- The step that starts the attempt. -/
theorem attempts_follow_sample : ∃ now later : Machine.Config Calls World PyError (List Record),
    Run sampleJobs samplePlatform False { memory := sampleStore } now ∧
    (machine samplePlatform False).Step (fun _ _ _ => True) now later ∧
    now.shared.life sampleAttempt = some Life.created ∧ Follows samplePlatform sampleJobs now.shared later.shared := by
  obtain ⟨now, reached, shared, waits, -⟩ := @sample_reaches (start samplePlatform sampleJobs { memory := sampleStore })
    0 "first" 15 sampleStart rfl rfl (by decide +kernel)
  have created : (sampleRun 0 "first" 15 sampleStart).1.life sampleAttempt = some Life.created := by decide +kernel
  have calls : isStoreCall (sampleRun 0 "first" 15 sampleStart).2 = true := by decide +kernel
  rw [← waits] at calls
  cases thread : now.threads 0 with
  | call call rest =>
    rw [thread] at calls
    cases call with
    | store operation =>
      have step : (machine samplePlatform False).Step (fun _ _ _ => True) now _ :=
        .call thread trivial (.store operation)
      exact ⟨now, _, reached, step, shared ▸ created, attempts_follow_protocol rfl sample_unscheduled reached step⟩
    | _ => cases calls
  | _ =>
    rw [thread] at calls
    cases calls

end Protocol

section Once

/-- Between two starts the executor is invoked at most once, in every part of the history. -/
def Sparse (marks : List Mark) : Prop := ∀ past, past <:+ marks → (sinceStart past).length ≤ 1

theorem sparse_cons {mark : Mark} {marks : List Mark} (sparse : Sparse marks)
    (whole : (sinceStart (mark :: marks)).length ≤ 1) : Sparse (mark :: marks) := by
  intro past suffix
  rcases List.suffix_cons_iff.mp suffix with rfl | earlier
  · exact whole
  · exact sparse past earlier

theorem marked_cases (old new : Option Life) (marks : List Mark) :
    marked old new marks = marks ∨ ∃ mark, marked old new marks = mark :: marks := by
  unfold marked
  dsimp only
  split
  · exact .inr ⟨_, rfl⟩
  · split
    · exact .inr ⟨_, rfl⟩
    · exact .inl rfl

theorem marks_exec {call : Call} {answer : call.Answer} (executed : World.Exec faults thread world call answer next)
    (id : String) : next.marks id = world.marks id ∨ ∃ mark, next.marks id = mark :: world.marks id := by
  have moved (durable : Durable) : (world.move durable).marks id = world.marks id ∨
      ∃ mark, (world.move durable).marks id = mark :: world.marks id := marked_cases _ _ _
  cases executed with
  | execute task running outcome =>
    by_cases same : id = idOf running
    · subst same
      exact .inr ⟨.invoked outcome, Function.update_self _ _ _⟩
    · exact .inl (Function.update_of_ne same _ _)
  | get => exact moved _
  | listByWorkflowExecution => exact moved _
  | listByTaskExecution => exact moved _
  | store => exact moved _
  | storeFault _ _ written =>
    cases written with
    | true => exact moved _
    | false => exact .inl rfl
  | _ => exact .inl rfl

theorem Inv.once (inv : Inv platform world) (id : String) : (sinceStart (world.marks id)).length ≤ 1 := by
  cases lived : world.life id with
  | none =>
    rw [inv.unmarked id lived]
    exact Nat.zero_le 1
  | some attempt => exact (inv.sound id attempt lived).once

/-- The executor is invoked at most once between two starts of an attempt, an attempt that has succeeded did so in its
    last invocation, and one that never waited for approval ended as its only invocation did. -/
structure ExecutedOnce (platform : Platform) (world : World) : Prop where
  once : ∀ id, Sparse (world.marks id)
  succeeded : ∀ id attempt, world.life id = some attempt → attempt.status = .str "SUCCEEDED" →
    ∃ outcome, sinceStart (world.marks id) = [outcome] ∧ (settle platform outcome).succeeded = true ∧
      attempt.terminalEvidence = some (.obj (terminalEvidence (settle platform outcome)))
  ended : ∀ id attempt, world.life id = some attempt →
    attempt.status = .str "SUCCEEDED" ∨ attempt.status = .str "FAILED" → Mark.waiting ∉ world.marks id →
    ∃ outcome, world.marks id = [.invoked outcome, .started] ∧
      attempt.terminalEvidence = some (.obj (terminalEvidence (settle platform outcome))) ∧
      some attempt.status = (terminalEvidence (settle platform outcome)).get? "status" ∧
      attempt.failure = (terminalEvidence (settle platform outcome)).get? "failure"

theorem Sound.of_succeeded {attempt : Life} {marks : List Mark} (sound : Sound platform attempt marks)
    (succeeded : attempt.status = .str "SUCCEEDED") : ∃ outcome, sinceStart marks = [outcome] ∧
      (settle platform outcome).succeeded = true ∧
      attempt.terminalEvidence = some (.obj (terminalEvidence (settle platform outcome))) := by
  cases sound with
  | pending status => simp [status] at succeeded
  | ready status => simp [status] at succeeded
  | claimed claimed => simp [claimed.1] at succeeded
  | recorded claimed => simp [claimed.1] at succeeded
  | awaiting status => simp [status] at succeeded
  | @done outcome status _ recorded _ once =>
    refine ⟨outcome, once, ?_, recorded⟩
    rw [status] at succeeded
    by_contra failed
    simp [terminalStatus, failed, TaskStatus.value] at succeeded
  | rejected status => simp [status] at succeeded

/-- Every interleaving of reconciliations and decisions, abandoned anywhere, invokes the executor once a start. -/
theorem executed_once {durable : Durable} {store : Store} {now : Machine.Config Calls World PyError (List Record)}
    (shows : durable.visible = .ok store) (unscheduled : Unscheduled platform store)
    (reached : Run jobs platform faults durable now) : ExecutedOnce platform now.shared := by
  have inv : Inv platform now.shared := (run_holds shows unscheduled reached).1
  refine ⟨?_, fun id attempt lived => (inv.sound id attempt lived).of_succeeded,
    fun id attempt lived => (inv.sound id attempt lived).of_terminal⟩
  refine @Holds.invariant _ _ _ _ _ _ _ _ _ _ ends_stable (start_holds shows unscheduled)
    (fun world => ∀ id, Sparse (world.marks id)) ?_ ?_ ?_ reached
  · intro id past suffix
    have none : past = [] := List.suffix_nil.mp suffix
    subst none
    exact Nat.zero_le 1
  · intro i world call answer next inv permitted _ executed sparse id
    have whole := (exec_inv inv permitted executed).once id
    rcases marks_exec executed id with same | ⟨mark, more⟩
    · rw [same]
      exact sparse id
    · rw [more] at whole ⊢
      exact sparse_cons (sparse id) whole
  · rintro world next - ⟨-, marks, -⟩ sparse
    rw [marks]
    exact sparse

theorem executed_once_sample : ∃ now, Run sampleJobs samplePlatform False { memory := sampleStore } now ∧
    sampleStatuses now.shared = some ["SUCCEEDED", "SUCCEEDED"] ∧ ExecutedOnce samplePlatform now.shared := by
  obtain ⟨now, reached, both⟩ := reaches_secondWave
  exact ⟨now, reached, both, executed_once rfl sample_unscheduled reached⟩

end Once

end Aep.WorkflowScheduler
