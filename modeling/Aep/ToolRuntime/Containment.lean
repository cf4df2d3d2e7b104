import Aep.ToolRuntime.Invoke

namespace Aep.ToolRuntime

open Program

/-- A validator of inputs and outputs, which may raise anything. -/
structure ToolSchemaValidator where
  validateInput : Record → Except Raised Unit
  validateOutput : Json → Except Raised Unit

namespace Lifecycle

variable (validator : ToolSchemaValidator) (request : ToolRequest)

def normalized (startedAt : Stamp) (startedClock : ℚ) : Prog ToolResult := do
  let failed := failure startedAt startedClock .failed failed_unsuccessful
  let caught (raised : Raised) :=
    failed (if raised.isSchemaError then .validation else .adapter) raised.describe
  match ← ask (.wait request.timeoutMs) with
  | .error raised => caught raised
  | .ok .expired =>
    match ← stop with
    | .error raised => caught raised
    | .ok () =>
      failure startedAt startedClock .timedOut timedOut_unsuccessful .timeout
        ("adapter exceeded timeout of " ++ toString request.timeoutMs ++ "ms")
  | .ok (.other typeName) => failed .adapter ("adapter returned " ++ typeName ++ ", expected ToolResult")
  | .ok (.result result) =>
    match result.status with
    | .timedOut =>
      match ← stop with
      | .error raised => caught raised
      | .ok () => return result
    | .succeeded =>
      match validator.validateOutput result.output with
      | .ok () => return result
      | .error raised => caught raised
    | _ => return result

/-- Validate, authorize, execute by deadline, and normalize contract failures, for any validator. An input validator
that raises no schema error, and the authorization, may raise. -/
def invokeTool : Prog (Except Raised ToolResult) := do
  let startedAt ← ask .clock
  let startedClock ← ask .monotonic
  let failed := failure startedAt startedClock .failed failed_unsuccessful
  match validator.validateInput request.input with
  | .error raised =>
    if raised.isSchemaError then .ok <$> failed .validation raised.text else return .error raised
  | .ok () =>
    match ← ask (.authorize request) with
    | .error raised => return .error raised
    | .ok false =>
      .ok <$> failure startedAt startedClock .denied denied_unsuccessful .policy "requested capabilities were denied"
    | .ok true =>
      match ← ask (.start request) with
      | .error raised => .ok <$> failed (raised.failureClass.getD .adapter) raised.describe
      | .ok () =>
        let result ← normalized validator request startedAt startedClock
        match ← ask .cleanup with
        | .error raised => return .ok (result.uncleaned raised)
        | .ok () => return .ok result

section Schemas

def schemaError (phase : String) (messages : List String) : Except Raised Unit :=
  match messages with
  | [] => .ok ()
  | _ => .error { text := schemaMessage phase messages, typeName := "ToolSchemaValidationError", isSchemaError := true }

def jsonSchemaToolValidator (platform : Platform) (tool : Tool) : ToolSchemaValidator where
  validateInput input := schemaError "input" (platform.schemaErrors tool .input (.obj input))
  validateOutput output := schemaError "output" (platform.schemaErrors tool .output output)

theorem describe_schemaMessage (phase : String) (messages : List String) (filled : phase ≠ "") :
    Raised.describe { text := schemaMessage phase messages, typeName := "ToolSchemaValidationError" } =
      schemaMessage phase messages := by
  unfold Raised.describe schemaMessage
  rw [if_neg]
  intro empty
  have parts := String.append_eq_empty_iff.mp empty
  exact filled (String.append_eq_empty_iff.mp parts.1).1

theorem normalized_schema (platform : Platform) (tool : Tool) (startedAt : Stamp) (startedClock : ℚ) :
    normalized (jsonSchemaToolValidator platform tool) request startedAt startedClock =
      ToolRuntime.normalized platform tool request startedAt startedClock := by
  unfold normalized ToolRuntime.normalized
  refine congrArg (ask (.wait request.timeoutMs) >>= ·) (funext fun waited => ?_)
  rcases waited with raised | _ | result | typeName
  · rfl
  · rfl
  · simp only [jsonSchemaToolValidator, schemaError]
    cases result.status with
    | succeeded =>
      cases platform.schemaErrors tool .output result.output with
      | nil => rfl
      | cons first rest =>
        have described := describe_schemaMessage "output" (first :: rest) (by decide)
        simp only [Raised.describe] at described ⊢
        rw [described]
        rfl
    | _ => rfl
  · rfl

theorem invokeTool_schema (platform : Platform) (tool : Tool) :
    invokeTool (jsonSchemaToolValidator platform tool) request =
      ToolRuntime.invokeTool platform tool request (ask (.authorize request)) := by
  unfold invokeTool ToolRuntime.invokeTool
  refine congrArg (ask .clock >>= ·) (funext fun startedAt => ?_)
  refine congrArg (ask .monotonic >>= ·) (funext fun startedClock => ?_)
  have inputs : (jsonSchemaToolValidator platform tool).validateInput request.input =
      schemaError "input" (platform.schemaErrors tool .input (.obj request.input)) := rfl
  simp only [inputs, normalized_schema]
  cases platform.schemaErrors tool .input (.obj request.input) with
  | nil =>
    refine congrArg (ask (.authorize request) >>= ·) (funext fun verdict => ?_)
    rcases verdict with raised | _ | _
    · rfl
    · rfl
    · refine congrArg (ask (.start request) >>= ·) (funext fun started => ?_)
      cases started <;> rfl
  | cons first rest => rfl

end Schemas

end Lifecycle

end Aep.ToolRuntime

namespace Aep.ToolRuntime.Lifecycle

open Program

section Calls

def onExecution : Effect → Bool
  | .wait _ | .terminate | .kill | .cleanup => true
  | _ => false

def isStart : Effect → Bool
  | .start _ => true
  | _ => false

def executionCalls (events : List Effects.Event) : List Effects.Event := events.filter fun event => onExecution event.op

def TimedOut : Except Raised Waited → Prop
  | .ok .expired => True
  | .ok (.result result) => result.status = .timedOut
  | _ => False

def Completed : Except Raised Waited → Prop
  | .error _ | .ok .expired => False
  | _ => True

end Calls

structure Contained (validator : ToolSchemaValidator) (request : ToolRequest) (events : List Effects.Event)
    (result : Except Raised ToolResult) : Prop where
  startedOnce : (events.filter fun event => isStart event.op).length ≤ 1
  permitted : ∀ before other answer after, events = before ++ ⟨.start other, answer⟩ :: after →
    other = request ∧ validator.validateInput request.input = .ok () ∧ ⟨.authorize request, .ok true⟩ ∈ before
  unstarted : (∀ other, ⟨.start other, .ok ()⟩ ∉ events) → executionCalls events = []
  cleaned : ∀ other, ⟨.start other, .ok ()⟩ ∈ events → ∃ calls answer,
    executionCalls events = calls ++ [⟨.cleanup, answer⟩] ∧ ∀ event ∈ calls, event.op ≠ .cleanup
  stopped : ∀ timeoutMs waited rest, executionCalls events = ⟨.wait timeoutMs, waited⟩ :: rest → TimedOut waited →
    ∃ between answer after, rest = between ++ ⟨.terminate, answer⟩ :: after ∧
      ((∃ killed, ⟨.kill, killed⟩ ∈ after) ∨ ∃ graceMs grace, ⟨.wait graceMs, grace⟩ ∈ after ∧ Completed grace)
  succeeded : ∀ value, result = .ok value → value.status = .succeeded → ∃ timeoutMs reported,
    executionCalls events = [⟨.wait timeoutMs, .ok (.result reported)⟩, ⟨.cleanup, .ok ()⟩] ∧
      reported.status = .succeeded ∧ validator.validateOutput reported.output = .ok ()

/-- The execution can be terminated and waited for: neither the termination nor a wait after it raises. -/
structure Stoppable (events : List Effects.Event) : Prop where
  terminates : ∀ raised, ⟨.terminate, .error raised⟩ ∉ executionCalls events
  waits : ∀ before answer after graceMs raised, executionCalls events = before ++ ⟨.terminate, answer⟩ :: after →
    ⟨.wait graceMs, .error raised⟩ ∉ after

section Courses

/-- The calls of a termination, and what it ends with. -/
inductive Stopped : List Effects.Event → Except Raised Unit → Prop where
  | unterminated (raised : Raised) : Stopped [⟨.terminate, .error raised⟩] (.error raised)
  | unwaited (raised : Raised) :
    Stopped [⟨.terminate, .ok ()⟩, ⟨.wait TERMINATION_GRACE_MS, .error raised⟩] (.error raised)
  | killed (answer : Except Raised Unit) :
    Stopped [⟨.terminate, .ok ()⟩, ⟨.wait TERMINATION_GRACE_MS, .ok .expired⟩, ⟨.kill, answer⟩] answer
  | completed (waited : Waited) (completed : Completed (.ok waited)) :
    Stopped [⟨.terminate, .ok ()⟩, ⟨.wait TERMINATION_GRACE_MS, .ok waited⟩] (.ok ())

def Quiet (events : List Effects.Event) : Prop := ∀ event ∈ events, event.op = .clock ∨ event.op = .monotonic

/-- The calls of a started execution before its cleanup. -/
inductive Awaited : Except Raised Waited → List Effects.Event → Prop where
  | answered {waited : Except Raised Waited} (kept : ¬TimedOut waited) : Awaited waited []
  | stopped {waited : Except Raised Waited} {calls : List Effects.Event} {outcome : Except Raised Unit}
      (late : TimedOut waited) (stops : Stopped calls outcome) : Awaited waited calls

def Reported (validator : ToolSchemaValidator) (waited : Except Raised Waited) (value : ToolResult) : Prop :=
  value.status = .succeeded → ∃ reported, waited = .ok (.result reported) ∧ reported.status = .succeeded ∧
    validator.validateOutput reported.output = .ok ()

/-- The courses of an invocation. -/
inductive Course (validator : ToolSchemaValidator) (request : ToolRequest) :
    List Effects.Event → Except Raised ToolResult → Prop where
  | refused {events : List Effects.Event} {result : Except Raised ToolResult}
      (none : ∀ event ∈ events, onExecution event.op = false ∧ isStart event.op = false)
      (failed : ∀ value, result = .ok value → value.status ≠ .succeeded) : Course validator request events result
  | unstarted {opening quiet : List Effects.Event} {raised : Raised} {value : ToolResult}
      (valid : validator.validateInput request.input = .ok ()) (opened : Quiet opening) (closed : Quiet quiet)
      (failed : value.status ≠ .succeeded) :
      Course validator request (opening ++ ⟨.authorize request, .ok true⟩ :: ⟨.start request, .error raised⟩ :: quiet)
        (.ok value)
  | executed {opening calls quiet : List Effects.Event} {waited : Except Raised Waited} {cleaned : Except Raised Unit}
      {value : ToolResult} (valid : validator.validateInput request.input = .ok ()) (opened : Quiet opening)
      (awaited : Awaited waited calls) (closed : Quiet quiet)
      (reported : cleaned = .ok () → Reported validator waited value)
      (failed : cleaned ≠ .ok () → value.status ≠ .succeeded) :
      Course validator request (opening ++ ⟨.authorize request, .ok true⟩ :: ⟨.start request, .ok ()⟩ ::
        ⟨.wait request.timeoutMs, waited⟩ :: (calls ++ quiet ++ [⟨.cleanup, cleaned⟩])) (.ok value)

theorem finishes_ask {α : Type} {effect : Effect} {next : effect.Answer → Prog α} {events : List Effects.Event}
    {result : Except PyError α} (finishes : Finishes (ask effect >>= next) events result) :
    ∃ answer rest, events = ⟨effect, answer⟩ :: rest ∧ Finishes (next answer) rest result :=
  finishes_call finishes

theorem stop_course {events : List Effects.Event} {result : Except PyError (Except Raised Unit)}
    (finishes : Finishes stop events result) : ∃ outcome, result = .ok outcome ∧ Stopped events outcome := by
  obtain ⟨terminated, rest, rfl, afterTerminate⟩ := finishes_ask finishes
  rcases terminated with raised | _
  · obtain ⟨rfl, rfl⟩ := finishes_ret afterTerminate
    exact ⟨_, rfl, .unterminated raised⟩
  · obtain ⟨waited, rest, rfl, afterWait⟩ := finishes_ask afterTerminate
    rcases waited with raised | waited
    · obtain ⟨rfl, rfl⟩ := finishes_ret afterWait
      exact ⟨_, rfl, .unwaited raised⟩
    · cases waited with
      | expired =>
        obtain ⟨killed, rest, rfl, afterKill⟩ := finishes_call afterWait
        obtain ⟨rfl, rfl⟩ := finishes_ret afterKill
        exact ⟨_, rfl, .killed killed⟩
      | result reported =>
        obtain ⟨rfl, rfl⟩ := finishes_ret afterWait
        exact ⟨_, rfl, .completed _ trivial⟩
      | other typeName =>
        obtain ⟨rfl, rfl⟩ := finishes_ret afterWait
        exact ⟨_, rfl, .completed _ trivial⟩

theorem failure_course {startedAt : Stamp} {startedClock : ℚ} {status : ToolResultStatus}
    {unsuccessful : status ≠ .succeeded} {classification : ToolFailureClass} {message : String}
    {events : List Effects.Event} {result : Except PyError ToolResult}
    (finishes : Finishes (failure startedAt startedClock status unsuccessful classification message) events result) :
    Quiet events ∧ ∃ value, result = .ok value ∧ value.status ≠ .succeeded := by
  obtain ⟨completedAt, rest, rfl, afterClock⟩ := finishes_ask finishes
  obtain ⟨now, rest, rfl, afterMonotonic⟩ := finishes_ask afterClock
  obtain ⟨rfl, rfl⟩ := finishes_ret afterMonotonic
  refine ⟨?_, _, rfl, unsuccessful⟩
  intro event inside
  simp only [List.mem_cons, List.not_mem_nil, or_false] at inside
  rcases inside with rfl | rfl
  · exact .inl rfl
  · exact .inr rfl

variable {validator : ToolSchemaValidator} {request : ToolRequest}

theorem stopped_course {rest : Except Raised Unit → Prog ToolResult} {events : List Effects.Event}
    {result : Except PyError ToolResult} (finishes : Finishes (stop >>= rest) events result) :
    ∃ outcome calls after, events = calls ++ after ∧ Stopped calls outcome ∧ Finishes (rest outcome) after result := by
  rcases finishes.of_bind with ⟨outcome, calls, after, rfl, ran, finishes⟩ | ⟨error, _, ran⟩
  · obtain ⟨_, same, stopped⟩ := stop_course ran
    cases same
    exact ⟨outcome, calls, after, rfl, stopped, finishes⟩
  · obtain ⟨_, wrong, _⟩ := stop_course ran
    cases wrong

theorem normalized_course {startedAt : Stamp} {startedClock : ℚ} {events : List Effects.Event}
    {result : Except PyError ToolResult}
    (finishes : Finishes (normalized validator request startedAt startedClock) events result) :
    ∃ waited calls quiet value, events = ⟨.wait request.timeoutMs, waited⟩ :: (calls ++ quiet) ∧
      Awaited waited calls ∧ Quiet quiet ∧ result = .ok value ∧ Reported validator waited value := by
  obtain ⟨waited, rest, rfl, afterWait⟩ := finishes_ask finishes
  have unreported {value : ToolResult} (failed : value.status ≠ .succeeded) : Reported validator waited value :=
    fun wrong => absurd wrong failed
  have nothing : Quiet [] := fun _ inside => by cases inside
  rcases waited with raised | waited
  · obtain ⟨quiet, value, rfl, failed⟩ := failure_course afterWait
    exact ⟨_, [], rest, value, rfl, .answered id, quiet, rfl, unreported failed⟩
  · cases waited with
    | expired =>
      obtain ⟨outcome, calls, after, rfl, stopped, afterStop⟩ := stopped_course afterWait
      have ended : Quiet after ∧ ∃ value, result = .ok value ∧ value.status ≠ .succeeded := by
        rcases outcome with raised | _
        · exact failure_course afterStop
        · exact failure_course afterStop
      obtain ⟨quiet, value, rfl, failed⟩ := ended
      exact ⟨_, calls, after, value, rfl, .stopped trivial stopped, quiet, rfl, unreported failed⟩
    | other typeName =>
      obtain ⟨quiet, value, rfl, failed⟩ := failure_course afterWait
      exact ⟨_, [], rest, value, rfl, .answered id, quiet, rfl, unreported failed⟩
    | result reported =>
      simp only at afterWait
      split at afterWait
      · rename_i late
        obtain ⟨outcome, calls, after, rfl, stopped, afterStop⟩ := stopped_course afterWait
        rcases outcome with raised | _
        · obtain ⟨quiet, value, rfl, failed⟩ := failure_course afterStop
          exact ⟨_, calls, after, value, rfl, .stopped late stopped, quiet, rfl, unreported failed⟩
        · obtain ⟨rfl, rfl⟩ := finishes_ret afterStop
          exact ⟨_, calls, [], reported, rfl, .stopped late stopped, nothing, rfl, unreported (by simp [late])⟩
      · rename_i succeeded
        have kept : ¬TimedOut (.ok (.result reported)) := by simp [TimedOut, succeeded]
        split at afterWait
        · rename_i valid
          obtain ⟨rfl, rfl⟩ := finishes_ret afterWait
          exact ⟨_, [], [], reported, rfl, .answered kept, nothing, rfl, fun _ => ⟨reported, rfl, succeeded, valid⟩⟩
        · obtain ⟨quiet, value, rfl, failed⟩ := failure_course afterWait
          exact ⟨_, [], rest, value, rfl, .answered kept, quiet, rfl, unreported failed⟩
      · rename_i notLate notSucceeded
        obtain ⟨rfl, rfl⟩ := finishes_ret afterWait
        exact ⟨_, [], [], reported, rfl, .answered notLate, nothing, rfl, unreported notSucceeded⟩

theorem mapped_course {startedAt : Stamp} {startedClock : ℚ} {status : ToolResultStatus}
    {unsuccessful : status ≠ .succeeded} {classification : ToolFailureClass} {message : String}
    {events : List Effects.Event} {result : Except PyError (Except Raised ToolResult)}
    (finishes : Finishes (Except.ok <$> failure startedAt startedClock status unsuccessful classification message) events
      result) : Quiet events ∧ ∃ value, result = .ok (.ok value) ∧ value.status ≠ .succeeded := by
  have bound : Finishes (failure startedAt startedClock status unsuccessful classification message >>= fun value =>
      (.ret (.ok value) : Prog (Except Raised ToolResult))) events result := finishes
  rcases bound.of_bind with ⟨value, before, after, rfl, ran, ended⟩ | ⟨error, _, ran⟩
  · obtain ⟨rfl, rfl⟩ := finishes_ret ended
    obtain ⟨quiet, other, same, failed⟩ := failure_course ran
    cases same
    exact ⟨by simpa using quiet, _, rfl, failed⟩
  · obtain ⟨_, _, wrong, _⟩ := failure_course ran
    cases wrong

theorem Quiet.unrelated {events : List Effects.Event} (quiet : Quiet events) {event : Effects.Event}
    (inside : event ∈ events) : onExecution event.op = false ∧ isStart event.op = false := by
  rcases quiet event inside with same | same <;>
    rw [same] <;>
      exact ⟨rfl, rfl⟩

theorem invokeTool_course {events : List Effects.Event} {result : Except PyError (Except Raised ToolResult)}
    (finishes : Finishes (invokeTool validator request) events result) :
    ∃ outcome, result = .ok outcome ∧ Course validator request events outcome := by
  obtain ⟨startedAt, rest, rfl, afterClock⟩ := finishes_ask finishes
  obtain ⟨startedClock, rest, rfl, afterMonotonic⟩ := finishes_ask afterClock
  have opened : Quiet [⟨.clock, startedAt⟩, ⟨.monotonic, startedClock⟩] := by
    intro event inside
    simp only [List.mem_cons, List.not_mem_nil, or_false] at inside
    rcases inside with rfl | rfl
    · exact .inl rfl
    · exact .inr rfl
  have refusal {after : List Effects.Event} (none : ∀ event ∈ after, onExecution event.op = false ∧ isStart event.op = false)
      {outcome : Except Raised ToolResult} (failed : ∀ value, outcome = .ok value → value.status ≠ .succeeded) :
      Course validator request (⟨.clock, startedAt⟩ :: ⟨.monotonic, startedClock⟩ :: after) outcome := by
    apply Course.refused
    · intro event inside
      rcases List.mem_append.mp (show event ∈ [⟨.clock, startedAt⟩, ⟨.monotonic, startedClock⟩] ++ after from inside) with
        first | later
      · exact opened.unrelated first
      · exact none event later
    · exact failed
  simp only at afterMonotonic
  split at afterMonotonic
  · split at afterMonotonic
    · obtain ⟨quiet, value, rfl, failed⟩ := mapped_course afterMonotonic
      exact ⟨_, rfl, refusal (fun _ => quiet.unrelated) fun _ same => by cases same; exact failed⟩
    · obtain ⟨rfl, rfl⟩ := finishes_ret afterMonotonic
      exact ⟨_, rfl, refusal (fun _ inside => by cases inside) fun _ same => by cases same⟩
  · rename_i valid
    obtain ⟨verdict, rest, rfl, afterAuthorize⟩ := finishes_ask afterMonotonic
    have asked {after : List Effects.Event} (quiet : Quiet after) : ∀ event ∈ ⟨.authorize request, verdict⟩ :: after,
        onExecution event.op = false ∧ isStart event.op = false := by
      intro event inside
      rcases List.mem_cons.mp inside with rfl | later
      · exact ⟨rfl, rfl⟩
      · exact quiet.unrelated later
    rcases verdict with raised | _ | _
    · obtain ⟨rfl, rfl⟩ := finishes_ret afterAuthorize
      exact ⟨_, rfl, refusal (asked fun _ inside => by cases inside) fun _ same => by cases same⟩
    · obtain ⟨quiet, value, rfl, failed⟩ := mapped_course afterAuthorize
      exact ⟨_, rfl, refusal (asked quiet) fun _ same => by cases same; exact failed⟩
    · obtain ⟨started, rest, rfl, afterStart⟩ := finishes_ask afterAuthorize
      rcases started with raised | _
      · obtain ⟨quiet, value, rfl, failed⟩ := mapped_course afterStart
        exact ⟨_, rfl, .unstarted valid opened quiet failed⟩
      · rcases afterStart.of_bind with ⟨value, before, after, rfl, ran, afterRun⟩ | ⟨error, _, ran⟩
        · obtain ⟨waited, calls, quiet, _, rfl, awaited, closed, same, reported⟩ := normalized_course ran
          cases same
          obtain ⟨cleaned, rest, rfl, afterCleanup⟩ := finishes_ask afterRun
          rcases cleaned with raised | _
          · obtain ⟨rfl, rfl⟩ := finishes_ret afterCleanup
            exact ⟨_, rfl, .executed valid opened awaited closed (fun wrong => by cases wrong) fun _ wrong => by cases wrong⟩
          · obtain ⟨rfl, rfl⟩ := finishes_ret afterCleanup
            exact ⟨_, rfl, .executed valid opened awaited closed (fun _ => reported) fun wrong => absurd rfl wrong⟩
        · obtain ⟨_, _, _, _, _, _, _, wrong, _⟩ := normalized_course ran
          cases wrong

end Courses

section Containment

variable {validator : ToolSchemaValidator} {request : ToolRequest}

@[simp] theorem executionCalls_append (first second : List Effects.Event) :
    executionCalls (first ++ second) = executionCalls first ++ executionCalls second := List.filter_append ..

theorem executionCalls_quiet {events : List Effects.Event} (quiet : Quiet events) : executionCalls events = [] := by
  apply List.filter_eq_nil_iff.mpr
  intro event inside
  rw [(quiet.unrelated inside).1]
  decide

theorem starts_quiet {events : List Effects.Event} (quiet : Quiet events) :
    events.filter (fun event => isStart event.op) = [] := by
  apply List.filter_eq_nil_iff.mpr
  intro event inside
  rw [(quiet.unrelated inside).2]
  decide

theorem stopped_calls {calls : List Effects.Event} {outcome : Except Raised Unit} (stopped : Stopped calls outcome) :
    ∀ event ∈ calls, onExecution event.op = true ∧ isStart event.op = false ∧ event.op ≠ .cleanup := by
  intro event inside
  cases stopped <;>
    simp only [List.mem_cons, List.not_mem_nil, or_false] at inside <;>
      rcases inside with rfl | rfl | rfl <;>
        exact ⟨rfl, rfl, fun wrong => by cases wrong⟩

theorem awaited_calls {waited : Except Raised Waited} {calls : List Effects.Event} (awaited : Awaited waited calls) :
    ∀ event ∈ calls, onExecution event.op = true ∧ isStart event.op = false ∧ event.op ≠ .cleanup := by
  cases awaited with
  | answered kept => exact fun _ inside => by cases inside
  | stopped late stops => exact stopped_calls stops

theorem terminate_unique {tail between after : List Effects.Event} {first answer : Except Raised Unit}
    (none : ∀ event ∈ tail, event.op ≠ .terminate)
    (same : (⟨.terminate, first⟩ : Effects.Event) :: tail = between ++ ⟨.terminate, answer⟩ :: after) :
    answer = first ∧ after = tail := by
  cases between with
  | nil =>
    cases same
    exact ⟨rfl, rfl⟩
  | cons event between =>
    have later := (List.cons.inj same).2
    have inside : (⟨.terminate, answer⟩ : Effects.Event) ∈ tail := by
      rw [later]
      exact List.mem_append_right _ List.mem_cons_self
    exact absurd rfl (none _ inside)

theorem stopped_iff {calls : List Effects.Event} {outcome : Except Raised Unit} (stopped : Stopped calls outcome)
    (cleaned : Except Raised Unit) :
    (∃ between answer after, calls ++ [⟨.cleanup, cleaned⟩] = between ++ ⟨.terminate, answer⟩ :: after ∧
        ((∃ killed, ⟨.kill, killed⟩ ∈ after) ∨ ∃ graceMs grace, ⟨.wait graceMs, grace⟩ ∈ after ∧ Completed grace)) ↔
      (∀ raised, ⟨.terminate, .error raised⟩ ∉ calls) ∧ ∀ graceMs raised, ⟨.wait graceMs, .error raised⟩ ∉ calls := by
  constructor
  · rintro ⟨between, answer, after, same, ended⟩
    cases stopped with
    | unterminated raised =>
      obtain ⟨_, rfl⟩ := terminate_unique (by simp) same
      simp at ended
    | unwaited raised =>
      obtain ⟨_, rfl⟩ := terminate_unique (by simp) same
      rcases ended with ⟨killed, inside⟩ | ⟨graceMs, grace, inside, completed⟩
      · simp at inside
      · rcases List.mem_cons.mp inside with same | wrong
        · cases same
          exact absurd completed id
        · cases List.mem_singleton.mp wrong
    | killed answer => simp
    | completed waited completed => simp
  · rintro ⟨terminates, waits⟩
    cases stopped with
    | unterminated raised => exact absurd List.mem_cons_self (terminates raised)
    | unwaited raised => exact absurd (List.mem_cons_of_mem _ List.mem_cons_self) (waits _ raised)
    | killed =>
      exact ⟨[], .ok (), _, rfl, .inl ⟨_, List.mem_cons_of_mem _ List.mem_cons_self⟩⟩
    | completed waited completed => exact ⟨[], .ok (), _, rfl, .inr ⟨_, _, List.mem_cons_self, completed⟩⟩

theorem stoppable_stopped {calls : List Effects.Event} {outcome : Except Raised Unit} (stopped : Stopped calls outcome)
    {events : List Effects.Event} {timeoutMs : Int} {waited : Except Raised Waited} {cleaned : Except Raised Unit}
    (same : executionCalls events = ⟨.wait timeoutMs, waited⟩ :: (calls ++ [⟨.cleanup, cleaned⟩])) :
    Stoppable events ↔
      (∀ raised, ⟨.terminate, .error raised⟩ ∉ calls) ∧ ∀ graceMs raised, ⟨.wait graceMs, .error raised⟩ ∉ calls := by
  have parts : ∃ first tail, calls = ⟨.terminate, first⟩ :: tail ∧ ∀ event ∈ tail, event.op ≠ .terminate := by
    cases stopped <;> exact ⟨_, _, rfl, by simp⟩
  obtain ⟨first, tail, rfl, none⟩ := parts
  have noneLater : ∀ event ∈ tail ++ [⟨.cleanup, cleaned⟩], event.op ≠ .terminate := by
    intro event inside
    rcases List.mem_append.mp inside with inside | inside
    · exact none event inside
    · rw [List.mem_singleton.mp inside]
      exact fun wrong => by cases wrong
  constructor
  · rintro ⟨terminates, waits⟩
    rw [same] at terminates
    constructor
    · intro raised inside
      exact terminates raised (List.mem_cons_of_mem _ (List.mem_append_left _ inside))
    · intro graceMs raised inside
      rcases List.mem_cons.mp inside with wrong | inside
      · cases wrong
      · exact waits [⟨.wait timeoutMs, waited⟩] first _ graceMs raised same (List.mem_append_left _ inside)
  · rintro ⟨terminates, waits⟩
    constructor
    · intro raised inside
      rw [same] at inside
      rcases List.mem_cons.mp inside with wrong | inside
      · cases wrong
      · rcases List.mem_append.mp inside with inside | wrong
        · exact terminates raised inside
        · cases List.mem_singleton.mp wrong
    · intro before answer after graceMs raised split inside
      rw [same] at split
      cases before with
      | nil => cases (List.cons.inj split).1
      | cons head before =>
        obtain ⟨_, rfl⟩ := terminate_unique noneLater (List.cons.inj split).2
        rcases List.mem_append.mp inside with inside | wrong
        · exact waits graceMs raised (List.mem_cons_of_mem _ inside)
        · cases List.mem_singleton.mp wrong

theorem contained_unstarted {events : List Effects.Event} {outcome : Except Raised ToolResult}
    (quiet : executionCalls events = [])
    (once : (events.filter fun event => isStart event.op).length ≤ 1)
    (permitted : ∀ before other answer after, events = before ++ ⟨.start other, answer⟩ :: after →
      other = request ∧ validator.validateInput request.input = .ok () ∧ ⟨.authorize request, .ok true⟩ ∈ before)
    (none : ∀ other, ⟨.start other, .ok ()⟩ ∉ events)
    (failed : ∀ value, outcome = .ok value → value.status ≠ .succeeded) :
    Contained validator request events outcome ↔ Stoppable events := by
  constructor
  · intro _
    constructor
    · rw [quiet]
      exact fun _ inside => by cases inside
    · rw [quiet]
      exact fun _ _ _ _ _ same => absurd same (by simp)
  · intro _
    constructor
    · exact once
    · exact permitted
    · exact fun _ => quiet
    · exact fun other started => absurd started (none other)
    · rw [quiet]
      exact fun _ _ _ same => by cases same
    · exact fun value same succeeded => absurd succeeded (failed value same)

theorem start_unique {opening suffix before after : List Effects.Event} {first answer : Except Raised Unit}
    {other : ToolRequest} (opened : Quiet opening) (none : ∀ event ∈ suffix, isStart event.op = false)
    (same : opening ++ ⟨.authorize request, .ok true⟩ :: ⟨.start request, first⟩ :: suffix =
      before ++ ⟨.start other, answer⟩ :: after) :
    other = request ∧ answer = first ∧ ⟨.authorize request, .ok true⟩ ∈ before := by
  have absent : ⟨.start other, answer⟩ ∉ opening := fun inside => by cases (opened.unrelated inside).2
  have later : ⟨.start other, answer⟩ ∉ suffix := fun inside => by cases none _ inside
  rcases List.append_eq_append_iff.mp same with ⟨between, rfl, rest⟩ | ⟨between, rfl, rest⟩
  · cases between with
    | nil => cases (List.cons.inj rest).1
    | cons head between =>
      obtain ⟨rfl, tail⟩ := List.cons.inj rest
      cases between with
      | nil =>
        cases (List.cons.inj tail).1
        exact ⟨rfl, rfl, by simp⟩
      | cons head between =>
        have inside : ⟨.start other, answer⟩ ∈ suffix := by
          rw [(List.cons.inj tail).2]
          exact List.mem_append_right _ List.mem_cons_self
        exact absurd inside later
  · cases between with
    | nil => cases (List.cons.inj rest).1
    | cons head between =>
      obtain ⟨rfl, _⟩ := List.cons.inj rest
      exact absurd (List.mem_append_right _ List.mem_cons_self) absent

theorem starts_opening {opening suffix : List Effects.Event} {first : Except Raised Unit} (opened : Quiet opening)
    (none : ∀ event ∈ suffix, isStart event.op = false) :
    ((opening ++ ⟨.authorize request, .ok true⟩ :: ⟨.start request, first⟩ :: suffix).filter
      fun event : Effects.Event => isStart event.op).length = 1 := by
  have nothing : suffix.filter (fun event => isStart event.op) = [] := by
    apply List.filter_eq_nil_iff.mpr
    intro event inside
    simp [none event inside]
  rw [List.filter_append, starts_quiet opened]
  change ([] ++ _ :: suffix.filter fun event : Effects.Event => isStart event.op).length = 1
  rw [nothing]
  rfl

theorem executionCalls_opening {opening suffix : List Effects.Event} {first : Except Raised Unit} (opened : Quiet opening) :
    executionCalls (opening ++ ⟨.authorize request, .ok true⟩ :: ⟨.start request, first⟩ :: suffix) =
      executionCalls suffix := by
  rw [executionCalls_append, executionCalls_quiet opened]
  rfl

theorem contained_executed {opening calls quiet : List Effects.Event} {waited : Except Raised Waited}
    {cleaned : Except Raised Unit} {value : ToolResult} (valid : validator.validateInput request.input = .ok ())
    (opened : Quiet opening) (awaited : Awaited waited calls) (closed : Quiet quiet)
    (reported : cleaned = .ok () → Reported validator waited value)
    (failed : cleaned ≠ .ok () → value.status ≠ .succeeded) :
    let events := opening ++ ⟨.authorize request, .ok true⟩ :: ⟨.start request, .ok ()⟩ ::
      ⟨.wait request.timeoutMs, waited⟩ :: (calls ++ quiet ++ [⟨.cleanup, cleaned⟩])
    Contained validator request events (.ok value) ↔ Stoppable events := by
  intro events
  have own := awaited_calls awaited
  have onlyCalls : executionCalls calls = calls := List.filter_eq_self.mpr fun event inside => (own event inside).1
  have lifecycle : executionCalls events = ⟨.wait request.timeoutMs, waited⟩ :: (calls ++ [⟨.cleanup, cleaned⟩]) := by
    have suffix : executionCalls (calls ++ quiet ++ [⟨.cleanup, cleaned⟩]) = calls ++ [⟨.cleanup, cleaned⟩] := by
      rw [executionCalls_append, executionCalls_append, onlyCalls, executionCalls_quiet closed, List.append_nil]
      rfl
    rw [← suffix]
    exact executionCalls_opening opened
  have startless : ∀ event ∈ ⟨.wait request.timeoutMs, waited⟩ :: (calls ++ quiet ++ [⟨.cleanup, cleaned⟩]),
      isStart event.op = false := by
    intro event inside
    simp only [List.mem_cons, List.mem_append, List.not_mem_nil, or_false] at inside
    rcases inside with rfl | (inside | inside) | rfl
    · rfl
    · exact (own event inside).2.1
    · exact (closed.unrelated inside).2
    · rfl
  have stops : (TimedOut waited → ∃ between answer after,
      calls ++ [⟨.cleanup, cleaned⟩] = between ++ ⟨.terminate, answer⟩ :: after ∧ ((∃ killed, ⟨.kill, killed⟩ ∈ after) ∨
        ∃ graceMs grace, ⟨.wait graceMs, grace⟩ ∈ after ∧ Completed grace)) ↔ Stoppable events := by
    cases awaited with
    | answered kept =>
      constructor
      · intro _
        constructor
        · rw [lifecycle]
          simp
        · rw [lifecycle]
          intro before answer after graceMs raised same
          have inside : (⟨.terminate, answer⟩ : Effects.Event) ∈ before ++ ⟨.terminate, answer⟩ :: after := by simp
          rw [← same] at inside
          simp at inside
      · exact fun _ late => absurd late kept
    | stopped late stopped =>
      rw [stoppable_stopped stopped lifecycle, ← stopped_iff stopped cleaned]
      exact ⟨fun holds => holds late, fun holds _ => holds⟩
  rw [← stops]
  constructor
  · intro contained late
    exact contained.stopped _ _ _ lifecycle late
  · intro stopped
    constructor
    · exact (starts_opening opened startless).le
    · intro before other answer after same
      obtain ⟨rfl, _, authorized⟩ := start_unique opened startless same
      exact ⟨rfl, valid, authorized⟩
    · intro unstarted
      exact absurd (by simp [events]) (unstarted request)
    · intro other _
      refine ⟨⟨.wait request.timeoutMs, waited⟩ :: calls, cleaned, lifecycle, ?_⟩
      intro event inside
      rcases List.mem_cons.mp inside with rfl | inside
      · exact fun wrong => by cases wrong
      · exact (own event inside).2.2
    · intro timeoutMs other rest same late
      rw [lifecycle] at same
      cases same
      exact stopped late
    · intro other same succeeded
      cases same
      have clean : cleaned = .ok () := not_not.mp fun wrong => failed wrong succeeded
      obtain ⟨answer, rfl, status, output⟩ := reported clean succeeded
      have alone : calls = [] := by
        cases awaited with
        | answered kept => rfl
        | stopped late stopped =>
          have wrong : answer.status = .timedOut := late
          rw [status] at wrong
          cases wrong
      rw [lifecycle, alone, clean]
      exact ⟨_, answer, rfl, status, output⟩

theorem course_contained {events : List Effects.Event} {outcome : Except Raised ToolResult}
    (course : Course validator request events outcome) :
    Contained validator request events outcome ↔ Stoppable events := by
  cases course with
  | refused none failed =>
    have quiet : executionCalls events = [] := by
      apply List.filter_eq_nil_iff.mpr
      intro event inside
      simp [(none event inside).1]
    have startless : events.filter (fun event => isStart event.op) = [] := by
      apply List.filter_eq_nil_iff.mpr
      intro event inside
      simp [(none event inside).2]
    have absent {other : ToolRequest} {answer : Except Raised Unit} : ⟨.start other, answer⟩ ∉ events :=
      fun inside => by cases (none _ inside).2
    refine contained_unstarted quiet ?_ ?_ (fun _ => absent) failed
    · rw [startless]
      exact Nat.zero_le 1
    · rintro before other answer after rfl
      exact absurd (List.mem_append_right _ List.mem_cons_self) absent
  | unstarted valid opened closed failed =>
    have startless := fun (event : Effects.Event) inside => (@Quiet.unrelated _ closed event inside).2
    refine contained_unstarted ?_ ?_ ?_ ?_ fun _ same => by cases same; exact failed
    · rw [executionCalls_opening opened]
      exact executionCalls_quiet closed
    · exact (starts_opening opened startless).le
    · intro before other answer after same
      obtain ⟨rfl, _, authorized⟩ := start_unique opened startless same
      exact ⟨rfl, valid, authorized⟩
    · intro other inside
      obtain ⟨before, after, same⟩ := List.append_of_mem inside
      cases (start_unique opened startless same).2.1
  | executed valid opened awaited closed reported failed =>
    exact contained_executed valid opened awaited closed reported failed

/-- An invocation contains its adapter exactly when a late execution can be terminated and waited for. -/
theorem invokeTool_contained {events : List Effects.Event} {result : Except PyError (Except Raised ToolResult)}
    (finishes : Finishes (invokeTool validator request) events result) :
    ∃ outcome, result = .ok outcome ∧ (Contained validator request events outcome ↔ Stoppable events) := by
  obtain ⟨outcome, rfl, course⟩ := invokeTool_course finishes
  exact ⟨outcome, rfl, course_contained course⟩

end Containment

namespace Sample

def validator : ToolSchemaValidator := ⟨fun _ => .ok (), fun _ => .ok ()⟩

def request : ToolRequest where
  toolRef := [("kind", .str "Tool"), ("name", .str "docker-validation"), ("version", .str "1.0.0")]
  input := []
  caller := ⟨"TaskExecution", "taskexecution-000000000001"⟩
  capabilities := ["docker.run"]
  timeoutMs := 10
  correlation :=
    { traceId := "trace-1"
      workflowExecutionId := "workflowexecution-000000000001"
      taskExecutionId := "taskexecution-000000000001" }
  positive := by decide

theorem sampleTime_written : "2026-01-01T00:00:00Z" ≠ "" := by decide

/-- An execution that goes on past every deadline, with an answer to its termination. -/
def answer (terminated : Except Raised Unit) : (effect : Effect) → effect.Answer
  | .clock => ⟨"2026-01-01T00:00:00Z", sampleTime_written⟩
  | .monotonic => 0
  | .authorize _ => .ok true
  | .start _ | .kill | .cleanup => .ok ()
  | .wait _ => .ok .expired
  | .terminate => terminated
  | .capturePreimage _ => .captured false
  | .restorePreimage _ => .ok ()
  | .create _ _ => .ok []
  | .get _ => none
  | .updateStatus _ _ _ _ => .ok []

def run (terminated : Except Raised Unit) : List Effects.Event × Option (Except PyError (Except Raised ToolResult)) :=
  (invokeTool validator request).follow (answer terminated)

theorem run_finishes (terminated : Except Raised Unit) :
    ∃ result, Finishes (invokeTool validator request) (run terminated).1 result := by
  have ended : ∃ result, (run terminated).2 = some result := by
    rcases terminated with raised | _ <;> exact ⟨_, rfl⟩
  obtain ⟨result, found⟩ := ended
  exact ⟨result, finishes_follow found⟩

def lateCalls (terminated : List Effects.Event) : List Effects.Event :=
  ⟨.wait 10, .ok .expired⟩ :: (terminated ++ [⟨.cleanup, .ok ()⟩])

/-- An execution that ignores its termination is killed. -/
theorem invokeTool_contained_killed : executionCalls (run (.ok ())).1 =
      lateCalls [⟨.terminate, .ok ()⟩, ⟨.wait TERMINATION_GRACE_MS, .ok .expired⟩, ⟨.kill, .ok ()⟩] ∧
    ∃ outcome, Contained validator request (run (.ok ())).1 outcome := by
  have calls : executionCalls (run (.ok ())).1 =
      lateCalls [⟨.terminate, .ok ()⟩, ⟨.wait TERMINATION_GRACE_MS, .ok .expired⟩, ⟨.kill, .ok ()⟩] := rfl
  obtain ⟨result, finishes⟩ := run_finishes (.ok ())
  obtain ⟨outcome, rfl, contained⟩ := invokeTool_contained finishes
  refine ⟨calls, outcome, contained.mpr ?_⟩
  exact (stoppable_stopped (.killed (.ok ())) calls).mpr ⟨by simp, by simp⟩

/-- An execution whose termination raises goes on, and is not killed. -/
theorem raising_termination_not_killed : ∃ events outcome, Finishes (invokeTool validator request) events (.ok outcome) ∧
    executionCalls events = lateCalls [⟨.terminate, .error ⟨"engine unavailable", "RuntimeError", none, false⟩⟩] ∧
      ¬Contained validator request events outcome := by
  have calls : executionCalls (run (.error ⟨"engine unavailable", "RuntimeError", none, false⟩)).1 =
      lateCalls [⟨.terminate, .error ⟨"engine unavailable", "RuntimeError", none, false⟩⟩] := rfl
  obtain ⟨result, finishes⟩ := run_finishes (.error ⟨"engine unavailable", "RuntimeError", none, false⟩)
  obtain ⟨outcome, rfl, course⟩ := invokeTool_course finishes
  refine ⟨_, outcome, finishes, calls, fun contained => ?_⟩
  have stoppable := (course_contained course).mp contained
  exact ((stoppable_stopped (.unterminated _) calls).mp stoppable).1 _ List.mem_cons_self

end Sample

end Aep.ToolRuntime.Lifecycle
