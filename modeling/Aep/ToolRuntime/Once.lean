import Aep.ToolRuntime.Invocations

namespace Aep.ToolRuntime

open RuntimeStore Machine.Discipline

section Inputs

def ToolCall.SameInputs (first second : ToolCall) : Prop :=
  (Json.obj first.immutableInputs).pyEq (.obj second.immutableInputs) = true

def CollisionFree (platform : Platform) (tool : Tool) (calls : Nat → ToolCall) : Prop :=
  ∀ i j, requestFingerprint (calls i) platform tool = requestFingerprint (calls j) platform tool →
    (Json.obj ((calls i).fingerprinted tool)).pyEq (.obj ((calls j).fingerprinted tool)) = true

/-- No two calls differ in nothing but the WorkflowExecution of their correlation. -/
def OneWorkflow (calls : Nat → ToolCall) : Prop :=
  ∀ i j, (Json.obj (calls i).tracedInputs).pyEq (.obj (calls j).tracedInputs) = true →
    (calls i).request.correlation.workflowExecutionId = (calls j).request.correlation.workflowExecutionId

theorem pyEq_cons {key : String} {first second : Json} {rest others : Record} (value : first.pyEq second = true)
    (same : (Json.obj rest).pyEq (.obj others) = true) :
    (Json.obj ((key, first) :: rest)).pyEq (.obj ((key, second) :: others)) = true := by
  simp only [Json.pyEq, Json.normalizeWith, Json.normalizeFields, Json.obj.injEq, decide_eq_true_eq] at value same ⊢
  rw [value, same]

variable {first second : ToolCall}

theorem sameInputs_of_traced (traced : (Json.obj first.tracedInputs).pyEq (.obj second.tracedInputs) = true)
    (workflow : first.request.correlation.workflowExecutionId = second.request.correlation.workflowExecutionId)
    (firstTask : first.request.correlation.taskExecutionId = some first.taskExecutionId)
    (secondTask : second.request.correlation.taskExecutionId = some second.taskExecutionId) :
    first.SameInputs second := by
  have field := Json.pyEq_field traced
  have task : first.taskExecutionId = second.taskExecutionId := by
    have same := field "taskExecutionId"
    exact Json.str.inj (Json.pyEq_str.mp same)
  have trace : first.request.correlation.traceId = second.request.correlation.traceId := by
    have same := field "traceId"
    exact Json.str.inj (Json.pyEq_str.mp same)
  unfold ToolCall.SameInputs ToolCall.immutableInputs
  refine pyEq_cons (field "taskExecutionId") (pyEq_cons (field "toolRef") (pyEq_cons (field "input")
    (pyEq_cons (field "caller") (pyEq_cons (field "capabilities") (pyEq_cons (field "timeoutMs")
      (pyEq_cons ?_ (pyEq_cons (field "policyDecisionId") (Json.pyEq_refl _))))))))
  rw [firstTask, secondTask, workflow, task, trace]
  exact Json.pyEq_refl _

end Inputs

abbrev Config := Machine.Config Effects World PyError Returned

abbrev Reaches (tool : Tool) (invocationId : String) : Config → Config → Prop :=
  Machine.Reaches (machine tool invocationId) fun _ _ _ => True

structure Uninvoked (tool : Tool) (invocationId : String) (world : World) : Prop where
  record : world.store.get invocationId = none
  key : world.store.deterministicKeys.get? (tool.key invocationId) = none
  starts : world.starts = []

/-- The adapter is started once, other inputs are refused, whatever is returned is what the record of the invocation
tells, and that record gets one outcome. -/
structure InvokedOnce (tool : Tool) (invocationId : String) (calls : Nat → ToolCall) (now : Config) : Prop where
  started : now.shared.starts.length ≤ 1
  conflict : ∀ first record, now.shared.store.get invocationId = some record →
    record.field "ownerToken" = .str (calls first).ownerToken → ∀ i, Prepared tool (calls i) →
      ¬(calls i).SameInputs (calls first) → i ∉ now.shared.starts ∧ (∀ returned, now.threads i ≠ .ret returned) ∧
        ∀ error, now.threads i = .raise error → error = identityConflict invocationId
  returned : ∀ i result record, now.threads i = .ret (result, record) →
    now.shared.store.get invocationId = some record ∧ hasEnded record = true ∧ Agrees tool result record
  once : ∀ later record, Reaches tool invocationId now later → now.shared.store.get invocationId = some record →
    record.field "status" ≠ .str "PENDING" → later.shared.store.get invocationId = some record

section Runs

variable {platform : Platform} {grace : DockerValidationTool.Grace} {tool : Tool} {invocationId : String}
  {calls : Nat → ToolCall} {rounds : Nat → Nat} {start now : Config} (distinct : Distinct calls)
  (fresh : Uninvoked tool invocationId start.shared)
  (runs : ∀ i, start.threads i = tool.invoke platform grace invocationId (calls i) (rounds i))
  (reaches : Reaches tool invocationId start now)
include fresh runs reaches

theorem holds_runs : (discipline platform tool invocationId distinct).Holds (Post platform tool invocationId calls) now := by
  refine Holds.reaches post_stable ⟨⟨fun record found => ?_, fun id found => ?_, fun record found => ?_, .inl fresh.starts⟩,
    fun i => ?_⟩ reaches
  · rw [fresh.record] at found
    cases found
  · rw [fresh.key] at found
    cases found
  · rw [fresh.record] at found
    cases found
  · rw [runs i]
    refine triple_invoke grace (rounds i) start.shared ⟨?_, ?_⟩
    · rintro ⟨record, found, -⟩
      rw [fresh.record] at found
      cases found
    · rw [fresh.starts]
      exact List.not_mem_nil

include distinct

theorem settled_once (later : Config) (record : Record) (on : Reaches tool invocationId now later)
    (found : now.shared.store.get invocationId = some record) (settled : record.field "status" ≠ .str "PENDING") :
    later.shared.store.get invocationId = some record := by
  have holds := holds_runs distinct fresh runs reaches
  have ended : hasEnded record = true := by
    obtain ⟨-, maker, recorded⟩ := holds.1.recorded record found
    cases recorded with
    | pending made =>
      obtain ⟨-, timestamp, made⟩ := made
      exact absurd (pending_status made) settled
    | ended made changed terminal now => exact hasEnded_withStatus terminal
  have kept : ∀ {j : Nat} {before after : World}, Rely invocationId calls j before after →
      before.store.get invocationId = some record → after.store.get invocationId = some record := by
    intro j before after rely there
    obtain ⟨last, seen, -, -, same⟩ := rely.records record there
    exact same ended ▸ seen
  refine Holds.invariant post_stable holds found (fun {i} _ _ _ _ inv permitted _ executed there => ?_)
    (fun inv moved there => moved.record.trans there) on
  exact kept ((inv_exec distinct inv permitted executed).2 (i + 1) (by omega)) there

theorem invoked_once (free : CollisionFree platform tool calls) (told : tool = .git ∨ OneWorkflow calls) :
    InvokedOnce tool invocationId calls now := by
  have holds := holds_runs distinct fresh runs reaches
  have inv : Inv platform tool invocationId calls now.shared := holds.1
  -- A call that has the fingerprint of the record has the inputs of its creator.
  have sameInputs : ∀ {first i record}, Recorded platform tool invocationId calls first record → Prepared tool (calls i) →
      record.field "requestFingerprint" = .str (requestFingerprint (calls i) platform tool) →
        (calls i).SameInputs (calls first) := by
    intro first i record recorded prepared fingerprint
    have same := free i first (Json.str.inj (fingerprint.symm.trans recorded.fingerprint))
    have firstTask : (calls first).request.correlation.taskExecutionId = some (calls first).taskExecutionId := by
      cases recorded with
      | pending made => exact made.1
      | ended made changed terminal now => exact made.1
    cases tool with
    | git => exact same
    | filesystem | docker =>
      rcases told with wrong | one
      · cases wrong
      · exact sameInputs_of_traced same (one i first same) prepared.1 firstTask
  refine ⟨?_, fun first record found token i prepared different => ?_, fun i result record returned => ?_,
    fun later record => settled_once distinct fresh runs reaches later record⟩
  · rcases inv.starts with none | ⟨i, record, one, -, -⟩
    · rw [none]
      exact Nat.zero_le 1
    · rw [one]
      exact le_rfl
  · obtain ⟨-, maker, recorded⟩ := inv.recorded record found
    obtain rfl := recorded.mine distinct token
    have other : record.field "requestFingerprint" ≠ .str (requestFingerprint (calls i) platform tool) :=
      fun same => different (sameInputs recorded prepared same)
    have post := holds.2 i
    refine ⟨fun started => ?_, fun returned ended => ?_, fun error raised => ?_⟩
    · rcases inv.starts with none | ⟨starter, mine, one, seen, theirs⟩
      · rw [none] at started
        cases started
      · rw [one] at started
        obtain rfl := List.mem_singleton.mp started
        obtain rfl := Option.some.inj (found.symm.trans seen)
        exact other theirs.fingerprint
    · rw [ended] at post
      obtain ⟨⟨last, seen, same⟩, -⟩ := post
      obtain rfl := Option.some.inj (found.symm.trans seen)
      exact other same
    · rw [raised] at post
      obtain ⟨last, seen, conflict⟩ := post prepared (inv.named record found)
      obtain rfl := Option.some.inj (found.symm.trans seen)
      exact conflict other
  · have post := holds.2 i
    rw [returned] at post
    exact post.2

end Runs

section Docker

/-- The calls of DockerValidationTool where no two of them differ in nothing but the WorkflowExecution. -/
theorem docker_invoked_once {platform : Platform} {grace : DockerValidationTool.Grace} {invocationId : String}
    {calls : Nat → ToolCall} {rounds : Nat → Nat} {start now : Config} (distinct : Distinct calls)
    (fresh : Uninvoked .docker invocationId start.shared)
    (runs : ∀ i, start.threads i = DockerValidationTool.invoke platform grace invocationId (calls i) (rounds i))
    (reaches : Reaches .docker invocationId start now) (free : CollisionFree platform .docker calls)
    (one : OneWorkflow calls) : InvokedOnce .docker invocationId calls now :=
  invoked_once distinct fresh runs reaches free (.inr one)

end Docker

section Sample

def samplePlatform : Platform where
  schemaErrors _ _ _ := []
  canonicalText := Json.repr
  hexdigest text := text

def sampleStamp : Stamp := ⟨"2026-01-01T00:00:00Z", by decide⟩

def sampleResult : ToolResult where
  status := .succeeded
  output := .obj [("content", .str "text")]
  logsRef := none
  metrics := { durationMs := 1 }
  startedAt := sampleStamp.text
  completedAt := sampleStamp.text
  started := sampleStamp.written
  completed := sampleStamp.written
  classified := by decide

def sampleCall (workflowExecutionId : String) (i : Nat) : ToolCall where
  taskExecutionId := "taskexecution-000000000001"
  request := {
    toolRef := [("kind", .str "Tool"), ("name", .str "workspace"), ("version", .str "1.0.0")]
    input := [("operation", .str "read"), ("path", .str "README.md")]
    caller := { kind := "TaskExecution", id := "taskexecution-000000000001" }
    capabilities := ["workspace.read"]
    timeoutMs := 1000
    correlation := {
      traceId := "trace-1", workflowExecutionId := workflowExecutionId, taskExecutionId := some "taskexecution-000000000001" }
    positive := by decide }
  policyDecisionId := none
  ownerToken := String.ofList (List.replicate i 'x')

theorem sample_distinct (workflow : Nat → String) : Distinct fun i => sampleCall (workflow i) i := by
  intro i j same
  have lists := congrArg String.toList same
  simp only [sampleCall, String.toList_ofList] at lists
  simpa using congrArg List.length lists

def respond (time : ℚ) (i : Nat) (world : World) : (effect : Effect) → effect.Answer × World
  | .clock => (sampleStamp, world)
  | .monotonic => (time, world)
  | .authorize _ => (.ok true, world)
  | .start _ => (.ok (), { world with starts := world.starts ++ [i] })
  | .wait _ => (.ok (.result sampleResult), world)
  | .terminate | .kill | .cleanup => (.ok (), world)
  | .capturePreimage _ => (.captured false, world)
  | .restorePreimage _ => (.ok (), world)
  | .create record key =>
    ((RuntimeStore.create (.obj record) key world.store).1,
      { world with store := (RuntimeStore.create (.obj record) key world.store).2 })
  | .get objectId => (world.store.get objectId, world)
  | .updateStatus objectId status updatedAt changes => world.update objectId status updatedAt sampleStamp.text changes

theorem exec_respond (time : ℚ) (i : Nat) (world : World) (effect : Effect) :
    world.Exec i effect (respond time i world effect).1 (respond time i world effect).2 := by
  cases effect <;> constructor

def sampleId : String := "toolinvocation-000000000001"

def sampleGrace : DockerValidationTool.Grace := ⟨1000, by decide⟩

def sampleStart (tool : Tool) (calls : Nat → ToolCall) : Config :=
  ⟨⟨{}, []⟩, fun i => tool.invoke samplePlatform sampleGrace sampleId (calls i) 1⟩

def sampleRun (tool : Tool) (calls : Nat → ToolCall) : Config :=
  Machine.schedule (respond 0) [(0, 12), (1, 3)] (sampleStart tool calls)

theorem sampleRun_reaches (tool : Tool) (calls : Nat → ToolCall) :
    Reaches tool sampleId (sampleStart tool calls) (sampleRun tool calls) :=
  Machine.reaches_schedule (exec_respond 0) (fun _ _ _ => trivial) _ _

def apart (i : Nat) : ToolCall :=
  sampleCall (if i = 0 then "workflowexecution-000000000001" else "workflowexecution-000000000002") i

theorem apart_differ : ¬(apart 1).SameInputs (apart 0) := by
  unfold ToolCall.SameInputs
  decide +kernel

theorem not_invokedOnce {tool : Tool} {now : Config} (prepared : Prepared tool (apart 1))
    (owner : (now.shared.store.get sampleId).map (·.field "ownerToken") = some (.str (apart 0).ownerToken))
    (ended : (now.threads 1).value?.isSome = true) : ¬InvokedOnce tool sampleId apart now := by
  intro once
  obtain ⟨record, found, token⟩ := Option.map_eq_some_iff.mp owner
  obtain ⟨returned, value⟩ := Option.isSome_iff_exists.mp ended
  exact (once.conflict 0 record found token 1 prepared apart_differ).2.1 returned (Program.eq_ret_of_value? value)

/-- DockerValidationTool does so too. -/
theorem docker_other_workflow : ∃ now, Reaches .docker sampleId (sampleStart .docker apart) now ∧
    (now.threads 1).value?.isSome = true ∧ ¬InvokedOnce .docker sampleId apart now := by
  have ended : ((sampleRun .docker apart).threads 1).value?.isSome = true := by decide +kernel
  exact ⟨sampleRun .docker apart, sampleRun_reaches .docker apart, ended,
    not_invokedOnce ⟨rfl, fun wrong => by cases wrong⟩ (by decide +kernel) ended⟩

def alike (i : Nat) : ToolCall := sampleCall "workflowexecution-000000000001" i

theorem alike_free (tool : Tool) : CollisionFree samplePlatform tool alike := by
  intro i j _
  cases tool <;> exact Json.pyEq_refl _

theorem alike_oneWorkflow : OneWorkflow alike := fun _ _ _ => rfl

theorem sample_uninvoked (tool : Tool) (calls : Nat → ToolCall) : Uninvoked tool sampleId (sampleStart tool calls).shared :=
  ⟨rfl, rfl, rfl⟩

/-- The first call is still waiting for its container when the second one gives up. -/
def abandonedRun : Config :=
  Machine.schedule (respond 100) [(1, 4), (0, 4)]
    (Machine.schedule (respond 0) [(0, 6), (1, 3)] (sampleStart .docker alike))

/-- Both calls then report that the invocation has timed out. -/
theorem docker_invoked_once_abandoned : abandonedRun.shared.starts = [0] ∧
    (abandonedRun.threads 0).value?.map (·.1.status) = some .timedOut ∧
      (abandonedRun.threads 1).value?.map (·.1.status) = some .timedOut ∧
        InvokedOnce .docker sampleId alike abandonedRun := by
  refine ⟨by decide +kernel, by decide +kernel, by decide +kernel, ?_⟩
  refine @docker_invoked_once _ sampleGrace _ _ _ _ _ (sample_distinct _) (sample_uninvoked _ _) (fun _ => rfl) ?_
    (alike_free _) alike_oneWorkflow
  exact (Machine.reaches_schedule (exec_respond 0) (fun _ _ _ => trivial) _ _).trans
    (Machine.reaches_schedule (exec_respond 100) (fun _ _ _ => trivial) _ _)

end Sample

end Aep.ToolRuntime
