import Aep.GithubTool.Mutation

namespace Aep.GithubTool

open Program Body Result

def ToolResult.mutationState (result : ToolResult) : Option Json := do
  let output ← result.output.asRecord?
  let failure ← (output.field "failure").asRecord?
  failure.get? "mutationState"

section Output

variable {request : ToolRequest}

theorem valid_of_creates {platform : Platform} (creates : request.operation = .str createPullRequestName)
    (valid : inputShape platform (.obj request.input) = true) :
    createPullRequestInput platform (.obj request.input) = true := by
  unfold inputShape at valid
  rwa [Shape.oneOf_two_right] at valid
  by_contra other
  rw [Bool.not_eq_false] at other
  have present := Shape.object_required other (List.mem_cons_self)
  obtain ⟨value, found⟩ := present
  have reads := Shape.object_property other (List.mem_cons_self) found
  have same : value = .str createPullRequestName := by rw [← Dict.field_of_get? found, ← creates]; rfl
  rw [same] at reads
  cases reads

theorem text_of_valid {value : Json} {minLength : Nat} (valid : Shape.text minLength value = true) :
    ∃ content, value = .str content ∧ minLength ≤ content.length := by
  cases value with
  | str content => exact ⟨content, rfl, Shape.text_of_str.mp valid⟩
  | _ => cases valid

theorem text_field {platform : Platform} (valid : createPullRequestInput platform (.obj request.input) = true)
    {key : String} (demanded : key = "head" ∨ key = "base") :
    ∃ content, request.input.field key = .str content ∧ 1 ≤ content.length := by
  have required : key ∈ ["operation", "repository", "head", "base", "title", "body", "publicationEvidence"] := by
    rcases demanded with rfl | rfl <;> simp
  obtain ⟨value, found⟩ := Shape.object_required valid required
  rw [Dict.field_of_get? found]
  refine text_of_valid (Shape.object_property valid ?_ found)
  rcases demanded with rfl | rfl <;> simp

theorem repository_field {platform : Platform} (valid : createPullRequestInput platform (.obj request.input) = true) :
    ∃ repository, request.input.field "repository" = .str repository := by
  obtain ⟨value, found⟩ := Shape.object_required valid (List.mem_cons_of_mem _ List.mem_cons_self)
  have shaped := Shape.object_property valid (List.mem_cons_of_mem _ List.mem_cons_self) found
  rw [Dict.field_of_get? found]
  cases value with
  | str repository => exact ⟨repository, rfl⟩
  | _ => cases shaped

theorem attemptShape_succeeded (requestId : Option String) :
    attemptShape (AttemptRecord.toJson ⟨1, requestId, "SUCCESS", false, none, "SUCCEEDED"⟩) = true := by
  refine (Shape.object_entries _ [
    ("attempt", Shape.integer 1, .int 1), ("providerRequestId", Shape.orNull (Shape.text 0), optionalText requestId),
    ("classification", _, .str "SUCCESS"), ("retryable", Shape.boolean, .bool false),
    ("retryAfterMs", Shape.orNull (Shape.integer 0), .null), ("outcome", _, .str "SUCCEEDED")]
    (by simp) (by simp)).trans ?_
  cases requestId <;> rfl

theorem metadataShape_succeeded {execution : Execution} {requestId : Option String} (providerRequestId : Json)
    (attempts : execution.attempts = [⟨1, requestId, "SUCCESS", false, none, "SUCCEEDED"⟩]) :
    metadataShape (metadata execution providerRequestId) = true := by
  refine (Shape.object_entries _ [
    ("traceId", Shape.text 1, .str execution.request.traceId),
    ("providerRequestId", Shape.orNull (Shape.text 0), optionalText providerRequestId.asString?),
    ("attemptCount", Shape.integer 1, .int execution.attempts.length),
    ("attempts", Shape.list 1 attemptShape, attemptsJson execution.attempts)]
    (by simp) (by simp)).trans ?_
  have traced : Shape.text 1 (.str execution.request.traceId) = true :=
    Shape.text_of_str.mpr (Nat.one_le_iff_ne_zero.mpr fun none => execution.request.traced (String.length_eq_zero_iff.mp none))
  have identified : Shape.orNull (Shape.text 0) (optionalText providerRequestId.asString?) = true := by
    cases providerRequestId.asString? <;> rfl
  have listed : Shape.list 1 attemptShape (attemptsJson execution.attempts) = true := by
    simp [Shape.list, attemptsJson, attempts, attemptShape_succeeded]
  have counted : Shape.integer 1 (.int execution.attempts.length) = true := by simp [Shape.integer, attempts]
  simp only [List.all_cons, List.all_nil, traced, identified, counted, listed, Bool.and_true]

theorem outputShape_created {execution : Execution} {repository head base : String} (number url requestId : Json)
    (named : 1 ≤ head.length) (based : 1 ≤ base.length) {providerRequestId : Option String}
    (attempts : execution.attempts = [⟨1, providerRequestId, "SUCCESS", false, none, "SUCCEEDED"⟩]) :
    outputShape (.obj [("operation", .str createPullRequestName), ("repository", .str repository),
      ("pullRequest", .obj [("number", number), ("url", url), ("head", .str head), ("base", .str base)]),
      ("metadata", metadata execution requestId)]) = (Shape.integer 1 number && Shape.text 1 url) := by
  have head_ok : Shape.text 1 (.str head) = true := Shape.text_of_str.mpr named
  have base_ok : Shape.text 1 (.str base) = true := Shape.text_of_str.mpr based
  have pull : pullRequestShape (.obj [("number", number), ("url", url), ("head", .str head), ("base", .str base)]) =
      (Shape.integer 1 number && Shape.text 1 url) := by
    refine (Shape.object_entries _ [("number", Shape.integer 1, number), ("url", Shape.text 1, url),
      ("head", Shape.text 1, .str head), ("base", Shape.text 1, .str base)] (by simp) (by simp)).trans ?_
    simp only [List.all_cons, List.all_nil, head_ok, base_ok, Bool.and_true]
  have operation : Shape.const createPullRequestName (.str createPullRequestName) = true := by decide
  have other : Shape.const readIssueName (.str createPullRequestName) = false := by decide
  have named : Shape.text 0 (.str repository) = true := rfl
  unfold outputShape
  rw [Shape.oneOf_two_right]
  · refine (Shape.object_entries _ [("operation", Shape.const createPullRequestName, .str createPullRequestName),
      ("repository", Shape.text 0, .str repository), ("pullRequest", pullRequestShape, _),
      ("metadata", metadataShape, metadata execution requestId)] (by simp) (by simp)).trans ?_
    simp only [List.all_cons, List.all_nil, operation, named, pull, metadataShape_succeeded requestId attempts,
      Bool.and_true, Bool.true_and]
  · by_contra accepted
    rw [Bool.not_eq_false] at accepted
    have reads := Shape.object_property accepted List.mem_cons_self rfl
    rw [other] at reads
    cases reads

end Output

section Endings

variable {execution : Execution} {seen : Seen}

def Seen.finish (seen : Seen) (now : ℚ) : Seen := { seen with finished := some now }

def Seen.Timed (seen : Seen) : Prop :=
  ∃ now durationMs, seen.finished = some now ∧ Float64.roundProduct (Float64.sub now seen.started) 1000 = some durationMs

/-- The clock was read once more, and unless the duration overflows there is a result that fits. -/
def Ends (seen : Seen) (fits : ToolResult → Prop) (after : Seen) (found : Except Raised ToolResult) : Prop :=
  (∃ now, after = seen.finish now) ∧
    ((after.Timed ∧ ∃ result, found = .ok result ∧ fits result) ∨ (¬after.Timed ∧ found = .error infinite))

theorem result_ends (same : execution.startedClock = seen.started) (status : ToolResultStatus) (output : Record)
    (failureClass : Option ToolFailureClass) (failureMessage : Option String) :
    Sat rules (Ends seen fun result => result.status = status ∧ result.output = .obj output)
      (execution.result status output failureClass failureMessage) seen := by
  refine sat_ask_bind trivial fun now => ?_
  cases duration : Float64.roundProduct (Float64.sub now execution.startedClock) 1000 with
  | none =>
    refine ⟨⟨now, rfl⟩, .inr ⟨?_, rfl⟩⟩
    rintro ⟨_, durationMs, read, overflows⟩
    cases read
    rw [same] at duration
    cases duration.symm.trans overflows
  | some durationMs =>
    refine sat_ask_bind trivial fun completedAt => ?_
    exact ⟨⟨now, rfl⟩, .inl ⟨⟨now, durationMs, rfl, same ▸ duration⟩, _, rfl, rfl, rfl⟩⟩

theorem Ends.mono {fits fits' : ToolResult → Prop} (weaker : ∀ result, fits result → fits' result) {after : Seen}
    {found : Except Raised ToolResult} (ends : Ends seen fits after found) : Ends seen fits' after found := by
  obtain ⟨read, ⟨timed, result, rfl, fit⟩ | late⟩ := ends
  · exact ⟨read, .inl ⟨timed, result, rfl, weaker result fit⟩⟩
  · exact ⟨read, .inr late⟩

theorem mutationState_named {result : ToolResult} {failure : Record}
    (output : result.output = .obj (execution.named ++ [("failure", .obj failure)])) :
    result.mutationState = failure.get? "mutationState" := by
  unfold ToolResult.mutationState
  rw [output]
  rfl

def stateOf (error : ProviderError) : Json :=
  .str (if error.classification = .ambiguousMutation then "UNKNOWN" else "NOT_ATTEMPTED")

theorem failure_ends (same : execution.startedClock = seen.started) (error : ProviderError) :
    Sat rules (Ends seen fun result => result.status = .failed ∧ result.mutationState = some (stateOf error))
      (execution.failure error) seen := by
  refine (result_ends same _ _ _ _).mono fun after found ends => ends.mono ?_
  rintro result ⟨status, output⟩
  exact ⟨status, mutationState_named output⟩

theorem Operation.wait_cancelled (operation : Operation) (timeoutMs : Int) :
    ∃ result, ({ operation with cancelled := true } : Operation).wait timeoutMs =
      .ret (result, { operation with cancelled := true }) := by
  unfold Operation.wait
  by_cases timedOut : operation.timedOut
  · exact ⟨none, if_pos timedOut⟩
  · rw [if_neg timedOut]
    cases finished : operation.finished with
    | none => exact ⟨none, by simp; rfl⟩
    | some result => exact ⟨some result, by simp; rfl⟩

theorem timeout_ends (same : execution.startedClock = seen.started) {operation : Operation}
    (current : execution.current = some operation) (attempt : Nat) :
    Sat rules (Ends seen fun result => result.status = .timedOut ∧
        (execution.request.operation = .str createPullRequestName → operation.mutationStarted = true →
          result.mutationState = some (.str "UNKNOWN")))
      (execution.timeout attempt) seen := by
  unfold Execution.timeout
  obtain ⟨waited, cancelled⟩ := operation.wait_cancelled 100
  simp only [current, cancelled]
  have clocked (record : AttemptRecord) : (execution.record record).startedClock = seen.started := same
  refine Sat.mono (result_ends (clocked _) _ _ _ _) fun after found ends => ends.mono ?_
  rintro result ⟨status, output⟩
  refine ⟨status, fun creates started => ?_⟩
  rw [mutationState_named output]
  simp [timeoutRecord, Dict.get?, creates, started]

end Endings

section Attempt

variable {platform : Platform} {config : GitHubAppConfig} {execution : Execution} {seen : Seen}

structure Execution.Ready (execution : Execution) (seen : Seen) : Prop where
  single : execution.maxAttempts = 1
  started : execution.startedClock = seen.started
  idle : execution.pending = false
  active : execution.terminated = false
  attempts : execution.attempts = []
  unposted : seen.posted = []

def outcomeOf (platform : Platform) (request : ToolRequest) (outcome : Transported) : Except Raised Record :=
  created platform (request.text "head") (request.text "base") outcome

def Execution.started (execution : Execution) (operation : Operation) : Execution :=
  { execution with current := some operation, pending := true }

theorem attemptOnce_posts (creates : execution.request.operation = .str createPullRequestName)
    (ready : execution.Ready seen) (remaining : Int) :
    Sat rules (fun after found => ∃ outcome next, found = .ok (outcome, next) ∧
        ((after = seen ∧ next = execution ∧ outcome ≠ none) ∨ ∃ operation, next = execution.started operation ∧
          (after = seen ∨ ∃ posted, after = seen.post posted ∧ Waited platform (execution.request.text "head")
            (execution.request.text "base") posted (outcome, operation))))
      (execution.attemptOnce platform config remaining) seen := by
  unfold Execution.attemptOnce
  rw [ready.idle]
  simp only [Bool.false_eq_true, ↓reduceIte]
  cases started : startOperation platform config execution.request with
  | error raised => exact ⟨_, _, rfl, .inl ⟨rfl, rfl, by simp⟩⟩
  | ok operation =>
    obtain ⟨fresh, run⟩ := startOperation_fresh creates started
    have waits : Sat rules (PostsOnce seen (Waited platform (execution.request.text "head")
        (execution.request.text "base"))) (operation.wait remaining) seen := by
      refine operation.wait_posts fresh (fun deadline => ?_) remaining
      rw [run]
      exact createOrReconcile_posts ready.unposted _ _ _ _ deadline
    refine sat_bind.mpr (waits.mono ?_)
    rintro after (_ | ⟨outcome, operation⟩) posts
    · exact posts.elim
    · exact ⟨outcome, _, rfl, .inr ⟨operation, rfl, posts⟩⟩

def Fits (platform : Platform) (request : ToolRequest) (outcome : Transported) (result : ToolResult) : Prop :=
  match outcomeOf platform request outcome with
  | .error (.timeout _) => result.status = .timedOut ∧ result.mutationState = some (.str "UNKNOWN")
  | .error raised => result.status = .failed ∧ result.mutationState = some (stateOf (providerErrorOf raised))
  | .ok pull => result.status = .succeeded ∧
      outputShape result.output = (Shape.integer 1 (pull.field "number") && Shape.text 1 (pull.field "url"))

theorem success_ends (creates : execution.request.operation = .str createPullRequestName)
    (valid : createPullRequestInput platform (.obj execution.request.input) = true)
    (started : execution.startedClock = seen.started) (attempts : execution.attempts = [])
    (number url head base : Json) (requestId : Option String) :
    Sat rules (Ends seen fun result => result.status = .succeeded ∧
        outputShape result.output = (Shape.integer 1 number && Shape.text 1 url))
      (execution.success 1 [("number", number), ("url", url), ("head", head), ("base", base),
        ("requestId", requestId.elim .null .str)]) seen := by
  have other : ¬execution.request.operation = .str readIssueName := by
    rw [creates]
    decide
  obtain ⟨headText, headField, headLong⟩ := text_field valid (.inl rfl)
  obtain ⟨baseText, baseField, baseLong⟩ := text_field valid (.inr rfl)
  obtain ⟨repository, repositoryField⟩ := repository_field valid
  unfold Execution.success
  simp only [Execution.record, other, ↓reduceIte]
  refine sat_bind.mpr (sat_liftExcept.mpr ?_)
  refine (result_ends started _ _ _ _).mono fun after found ends => ends.mono ?_
  rintro result ⟨status, output⟩
  refine ⟨status, ?_⟩
  rw [output, headField, baseField, repositoryField]
  exact outputShape_created number url _ headLong baseLong (by simp [attempts]; rfl)

/-- Waiting for an execution: nothing was posted, or one POST was and there is a result that fits. -/
def Attempted (platform : Platform) (request : ToolRequest) (after : Seen)
    (found : Except Raised (Option ToolResult × Execution)) : Prop :=
  after.posted = [] ∨ ∃ outcome, after.posted = [outcome] ∧
    ((after.Timed ∧ ∃ result next, found = .ok (some result, next) ∧ Fits platform request outcome result) ∨
      (¬after.Timed ∧ found = .error infinite))

theorem attempted_of_ends {outcome : Transported} {request : ToolRequest} {fits : ToolResult → Prop}
    {program : Prog ToolResult} {next : Execution} (ends : Sat rules (Ends seen fits) program seen)
    (posted : seen.posted = [outcome]) (fit : ∀ result, fits result → Fits platform request outcome result) :
    Sat rules (Attempted platform request) (program >>= fun result => pure (some result, next)) seen := by
  refine sat_bind.mpr (ends.mono ?_)
  rintro after found ⟨⟨now, rfl⟩, ⟨timed, result, rfl, fitting⟩ | ⟨late, rfl⟩⟩
  · exact .inr ⟨outcome, posted, .inl ⟨timed, result, next, rfl, fit result fitting⟩⟩
  · exact .inr ⟨outcome, posted, .inr ⟨late, rfl⟩⟩

def Quiet {α : Type} (program : Prog α) (seen : Seen) : Prop :=
  Sat rules (fun after _ => after.posted = seen.posted) program seen

theorem result_quiet (status : ToolResultStatus) (output : Record) (failureClass : Option ToolFailureClass)
    (failureMessage : Option String) : Quiet (execution.result status output failureClass failureMessage) seen := by
  refine sat_ask_bind trivial fun now => ?_
  cases Float64.roundProduct (Float64.sub now execution.startedClock) 1000 with
  | none => rfl
  | some durationMs => exact sat_ask_bind trivial fun completedAt => rfl

theorem success_quiet (attempt : Nat) (value : Record) : Quiet (execution.success attempt value) seen := by
  refine sat_bind.mpr (sat_liftExcept.mpr ?_)
  split
  · exact result_quiet _ _ _ _
  · rfl

theorem timeout_quiet (attempt : Nat) : Quiet (execution.timeout attempt) seen := by
  unfold Execution.timeout
  cases current : execution.current with
  | none => rfl
  | some operation =>
    obtain ⟨waited, cancelled⟩ := operation.wait_cancelled 100
    simp only [cancelled]
    exact result_quiet _ _ _ _

theorem attempted_of_quiet {request : ToolRequest} {program : Prog ToolResult} {next : Execution}
    (quiet : Quiet program seen) (unposted : seen.posted = []) :
    Sat rules (Attempted platform request) (program >>= fun result => pure (some result, next)) seen := by
  refine sat_bind.mpr (quiet.mono ?_)
  rintro after (_ | result) same
  all_goals exact .inl (same.trans unposted)

theorem created_ok {head base : String} {outcome : Transported} {pull : Record}
    (came : created platform head base outcome = .ok pull) : ∃ (number url head base : Json) (requestId : Option String),
      pull = [("number", number), ("url", url), ("head", head), ("base", base), ("requestId", requestId.elim .null .str)] := by
  unfold created at came
  split at came
  · cases came
  · split at came
    · cases came
      rename_i read
      simp only [bind_eq_ok] at read
      obtain ⟨value, -, read⟩ := read
      unfold pullFields at read
      split at read
      · cases read
        exact ⟨_, _, _, _, _, rfl⟩
      · cases read
    · cases came

theorem sat_failed {post : Seen → Except Raised (Option ToolResult × Execution) → Prop} {error : ProviderError}
    {attempt : Nat} {retry failure : Prog (Option ToolResult × Execution)} (last : ¬attempt < execution.maxAttempts)
    (fails : Sat rules post failure seen) :
    Sat rules post (if error.retryable ∧ attempt < execution.maxAttempts then retry else failure) seen := by
  rwa [if_neg fun retries => last retries.2]

theorem attemptLoop_attempted (creates : execution.request.operation = .str createPullRequestName)
    (valid : createPullRequestInput platform (.obj execution.request.input) = true) (ready : execution.Ready seen)
    (deadline : ℚ) : Sat rules (Attempted platform execution.request)
      (execution.attemptLoop platform config deadline 1) seen := by
  unfold Execution.attemptLoop
  refine sat_ask_bind trivial fun now => sat_bind.mpr (sat_liftExcept.mpr ?_)
  cases remainingOf deadline now with
  | error raised => exact .inl ready.unposted
  | ok remaining =>
    simp only
    split
    · exact .inl ready.unposted
    refine sat_bind.mpr ((attemptOnce_posts creates ready remaining).mono ?_)
    rintro after _ ⟨outcome, next, rfl, posts⟩
    have last : ¬execution.attempts.length + 1 < next.maxAttempts := by
      have same : next.maxAttempts = execution.maxAttempts := by
        rcases posts with ⟨-, rfl, -⟩ | ⟨operation, rfl, -⟩ <;> rfl
      rw [same, ready.single]
      omega
    rcases posts with ⟨rfl, rfl, some⟩ | ⟨operation, rfl, rfl | ⟨posted, rfl, marked, waited⟩⟩
    · rcases outcome with _ | raised | value
      · exact absurd rfl some
      · exact sat_failed last (attempted_of_quiet (result_quiet _ _ _ _) ready.unposted)
      · exact attempted_of_quiet (success_quiet _ _) ready.unposted
    · rcases outcome with _ | raised | value
      · exact attempted_of_quiet (timeout_quiet _) ready.unposted
      · exact sat_failed last (attempted_of_quiet (result_quiet _ _ _ _) ready.unposted)
      · exact attempted_of_quiet (success_quiet _ _) ready.unposted
    · have one : (seen.post posted).posted = [posted] := by simp [Seen.post, ready.unposted]
      have clocked (next : Execution) (same : next.startedClock = execution.startedClock) :
          next.startedClock = (seen.post posted).started := same.trans ready.started
      cases came : created platform (execution.request.text "head") (execution.request.text "base") posted with
      | error raised =>
        cases raised with
        | timeout message =>
          obtain ⟨rfl, -⟩ : outcome = none ∧ operation.timedOut = true := by simpa only [came] using waited
          refine attempted_of_ends (timeout_ends (clocked (execution.started operation) rfl) rfl _) one ?_
          rintro result ⟨status, unknown⟩
          simp only [Fits, outcomeOf, came]
          exact ⟨status, unknown creates marked⟩
        | provider error =>
          obtain rfl : outcome = some (.error (.provider error)) := by simpa only [came] using waited
          refine sat_failed last (attempted_of_ends (failure_ends (clocked ((execution.started operation).failed _ _) rfl) _) one ?_)
          rintro result fitting
          simpa only [Fits, outcomeOf, came] using fitting
        | other text =>
          obtain rfl : outcome = some (.error (.other text)) := by simpa only [came] using waited
          refine sat_failed last (attempted_of_ends (failure_ends (clocked ((execution.started operation).failed _ _) rfl) _) one ?_)
          rintro result fitting
          simpa only [Fits, outcomeOf, came] using fitting
      | ok pull =>
        obtain rfl : outcome = some (.ok pull) := by simpa only [came] using waited
        obtain ⟨number, url, head, base, requestId, rfl⟩ := created_ok came
        simp only [ready.attempts, List.length_nil, Nat.zero_add]
        refine attempted_of_ends (success_ends creates valid
          (clocked (execution.started operation).settled rfl) ready.attempts _ _ _ _ _) one ?_
        rintro result fitting
        simp only [Fits, outcomeOf, came]
        exact fitting

theorem wait_attempted (creates : execution.request.operation = .str createPullRequestName)
    (valid : createPullRequestInput platform (.obj execution.request.input) = true) (ready : execution.Ready seen)
    (timeoutMs : Int) :
    Sat rules (Attempted platform execution.request) (execution.wait platform config timeoutMs) seen := by
  unfold Execution.wait
  rw [ready.active, ready.single, ready.attempts]
  exact sat_ask_bind trivial fun now => attemptLoop_attempted creates valid ready _

end Attempt

section Runtime

variable {platform : Platform} {config : GitHubAppConfig} {request : ToolRequest} {seen : Seen}

def ToolResult.Reported (result : ToolResult) : Prop :=
  result.status = .succeeded ∨ result.mutationState = some (.str "UNKNOWN")

instance (result : ToolResult) : Decidable result.Reported := inferInstanceAs (Decidable (_ ∨ _))

def Settled (platform : Platform) (request : ToolRequest) (outcome : Transported) : Prop :=
  match outcomeOf platform request outcome with
  | .error (.timeout _) => True
  | .error raised => (providerErrorOf raised).classification = .ambiguousMutation
  | .ok pull => (Shape.integer 1 (pull.field "number") && Shape.text 1 (pull.field "url")) = true

def Accounts (platform : Platform) (request : ToolRequest) (after : Seen) (found : Except Raised ToolResult) : Prop :=
  after.posted = [] ∨ ∃ outcome result, after.posted = [outcome] ∧ found = .ok result ∧
    (result.Reported ↔ after.Timed ∧ Settled platform request outcome)

theorem runtimeFailure_unreported (startedAt : String) (startedClock : ℚ) {status : ToolResultStatus}
    (failed : status ≠ .succeeded) (classification : ToolFailureClass) (message : String) :
    Sat rules (fun after found => after = seen ∧ ∃ result, found = .ok result ∧ ¬result.Reported)
      (runtimeFailure startedAt startedClock status classification message) seen := by
  refine sat_ask_bind trivial fun completedAt => sat_ask_bind trivial fun now => ?_
  refine ⟨rfl, _, rfl, ?_⟩
  rintro (same | marked)
  · exact failed same
  · cases marked

theorem terminate_wait (execution : Execution) (timeoutMs : Int) :
    execution.terminate.wait platform config timeoutMs = .ret (none, execution.terminate) := if_pos rfl

theorem normalize_none (startedAt : String) (startedClock : ℚ) (next : Execution) :
    normalize platform config request startedAt startedClock (.ok (none, next)) =
      runtimeFailure startedAt startedClock .timedOut .timeout
        ("adapter exceeded timeout of " ++ toString request.timeoutMs ++ "ms") := by
  simp only [normalize, terminate_wait]
  rfl

theorem normalize_kept (startedAt : String) (startedClock : ℚ) {result : ToolResult} (next : Execution)
    (other : result.status ≠ .succeeded) :
    normalize platform config request startedAt startedClock (.ok (some result, next)) = .ret result := by
  simp only [normalize, terminate_wait]
  cases status : result.status with
  | succeeded => exact absurd status other
  | timedOut => rfl
  | failed => rfl
  | denied => rfl

theorem normalize_succeeded (startedAt : String) (startedClock : ℚ) {result : ToolResult} (next : Execution)
    (status : result.status = .succeeded) :
    normalize platform config request startedAt startedClock (.ok (some result, next)) =
      if outputShape result.output then .ret result
      else runtimeFailure startedAt startedClock .failed .validation
        ("output schema validation failed: " ++ platform.violations result.output) := by
  simp only [normalize, status]
  rfl

theorem normalize_quiet (startedAt : String) (startedClock : ℚ)
    (waited : Except Raised (Option ToolResult × Execution)) :
    Quiet (normalize platform config request startedAt startedClock waited) seen := by
  have failure {status : ToolResultStatus} (failed : status ≠ .succeeded) (classification : ToolFailureClass)
      (message : String) : Quiet (runtimeFailure startedAt startedClock status classification message) seen :=
    (runtimeFailure_unreported startedAt startedClock failed classification message).mono
      fun after found reached => reached.1 ▸ rfl
  rcases waited with raised | ⟨_ | result, next⟩
  · exact failure (by decide) _ _
  · rw [normalize_none]
    exact failure (by decide) _ _
  · by_cases status : result.status = .succeeded
    · rw [normalize_succeeded _ _ _ status]
      split
      · rfl
      · exact failure (by decide) _ _
    · rw [normalize_kept _ _ _ status]
      rfl

theorem reported_iff_unknown {result : ToolResult} (other : result.status ≠ .succeeded) :
    result.Reported ↔ result.mutationState = some (.str "UNKNOWN") := or_iff_right other

theorem stateOf_unknown {error : ProviderError} :
    some (stateOf error) = some (.str "UNKNOWN") ↔ error.classification = .ambiguousMutation := by
  unfold stateOf
  split <;> simp_all

theorem fits_error {outcome : Transported} {raised : Raised} {result : ToolResult}
    (came : outcomeOf platform request outcome = .error raised) (fits : Fits platform request outcome result) :
    result.status ≠ .succeeded ∧ (result.Reported ↔ Settled platform request outcome) := by
  cases raised with
  | timeout message =>
    simp only [Fits, came] at fits
    simp only [Settled, came, iff_true]
    exact ⟨by simp [fits.1], .inr fits.2⟩
  | provider error =>
    simp only [Fits, came] at fits
    have other : result.status ≠ .succeeded := by simp [fits.1]
    exact ⟨other, by rw [reported_iff_unknown other, fits.2, stateOf_unknown]; simp only [Settled, came]⟩
  | other text =>
    simp only [Fits, came] at fits
    have other : result.status ≠ .succeeded := by simp [fits.1]
    exact ⟨other, by rw [reported_iff_unknown other, fits.2, stateOf_unknown]; simp only [Settled, came]⟩

theorem normalize_accounts (startedAt : String) (startedClock : ℚ)
    {waited : Except Raised (Option ToolResult × Execution)} (attempted : Attempted platform request seen waited) :
    Sat rules (Accounts platform request) (normalize platform config request startedAt startedClock waited) seen := by
  rcases attempted with none | ⟨outcome, one, ⟨timed, result, next, rfl, fits⟩ | ⟨late, rfl⟩⟩
  · refine (normalize_quiet _ _ _).mono fun after found same => .inl (same.trans none)
  · have settles (reports : result.Reported ↔ Settled platform request outcome) :
        Accounts platform request seen (.ok result) :=
      .inr ⟨outcome, result, one, rfl, by simpa only [timed, true_and] using reports⟩
    unfold Fits at fits
    cases came : outcomeOf platform request outcome with
    | error raised =>
      obtain ⟨other, reports⟩ := fits_error came fits
      rw [normalize_kept _ _ _ other]
      exact settles reports
    | ok pull =>
      simp only [came] at fits
      rw [normalize_succeeded _ _ _ fits.1]
      by_cases valid : outputShape result.output = true
      · rw [if_pos valid]
        refine settles (iff_of_true (.inl fits.1) ?_)
        simpa only [Settled, came, ← fits.2] using valid
      · rw [if_neg valid]
        refine (runtimeFailure_unreported startedAt startedClock (by decide) _ _).mono ?_
        rintro after found ⟨rfl, failure, rfl, unreported⟩
        refine .inr ⟨outcome, failure, one, rfl, iff_of_false unreported fun settled => valid ?_⟩
        simpa only [Settled, came, ← fits.2] using settled.2
  · refine (runtimeFailure_unreported startedAt startedClock (by decide) _ _).mono ?_
    rintro after found ⟨rfl, result, rfl, unreported⟩
    exact .inr ⟨outcome, result, one, rfl, iff_of_false unreported fun timed => late timed.1⟩

theorem invokeTool_accounts (maxReadAttempts : Nat) (creates : request.operation = .str createPullRequestName) :
    Sat rules (Accounts platform request) (invokeTool platform config maxReadAttempts request) .start := by
  have failure (startedAt : String) (startedClock : ℚ) {status : ToolResultStatus} (failed : status ≠ .succeeded)
      (classification : ToolFailureClass) (message : String) :
      Sat rules (Accounts platform request) (runtimeFailure startedAt startedClock status classification message) .start :=
    (runtimeFailure_unreported startedAt startedClock failed classification message).mono
      fun after found reached => .inl (reached.1 ▸ rfl)
  refine sat_ask_bind trivial fun startedAt => sat_ask_bind trivial fun startedClock => ?_
  split
  · exact failure _ _ (by decide) _ _
  rename_i valid
  rw [not_not] at valid
  refine sat_ask_bind trivial fun authorized => ?_
  rcases authorized with text | _ | _
  · exact .inl rfl
  · exact failure _ _ (by decide) _ _
  refine sat_bind.mpr (sat_ask_bind trivial fun executionStartedAt => sat_ask_bind trivial fun now => ?_)
  have other : ¬request.operation = .str readIssueName := by
    rw [creates]
    decide
  let execution : Execution := ⟨request, if request.operation = .str readIssueName then maxReadAttempts else 1,
    executionStartedAt, now, none, false, false, []⟩
  have ready : execution.Ready (Seen.start.observe (.clock .started) now) := ⟨if_neg other, rfl, rfl, rfl, rfl, rfl⟩
  refine sat_bind.mpr (sat_attempt.mpr ((wait_attempted creates (valid_of_creates creates valid) ready
    request.timeoutMs).mono ?_))
  intro after waited attempted
  exact normalize_accounts startedAt startedClock attempted

end Runtime

section Verdict

variable (platform : Platform)

def DefinitelyRejected : Transported → Prop
  | .response response => 400 ≤ response.status ∧ response.status < 500
  | _ => False

/-- A document that describes a pull request, with the number and the address of one. -/
def Conforming : Content → Prop
  | .document value => ∀ fields, value.asRecord? = some fields → isInt (fields.field "number") = true →
      (fields.field "html_url").isString = true →
        Shape.integer 1 (fields.field "number") = true ∧ Shape.text 1 (fields.field "html_url") = true
  | _ => True

/-- No answer, one of success without a pull request that is none, or one after which the provider is to be asked again. -/
def Understood : Transported → Prop
  | .response response =>
    if response.status < 200 ∨ 300 ≤ response.status then
      (∃ found, retryAfterMs platform response.headers = .ok found) ∧
        (500 ≤ response.status ∨ rateLimited platform response.headers = true)
    else Conforming response.body
  | _ => True

/-- What was posted was refused, or it was understood and the clock did not overflow. -/
def Seen.Unmistaken (seen : Seen) : Prop :=
  ∀ outcome ∈ seen.posted, DefinitelyRejected outcome ∨ (seen.Timed ∧ Understood platform outcome)

def Seen.Accounted (seen : Seen) (found : Except Raised ToolResult) : Prop :=
  ∀ outcome ∈ seen.posted, DefinitelyRejected outcome ∨ ∃ result, found = .ok result ∧ result.Reported

variable {platform}

theorem retryAfterMs_error {headers : Dict String String} {raised : Raised}
    (failed : retryAfterMs platform headers = .error raised) : raised = infinite := by
  unfold retryAfterMs at failed
  split at failed
  · cases failed
  · split at failed
    · cases failed
    · cases failed
      rfl

theorem providerError_retryable {response : HttpResponse} {found : Option Int}
    (delay : retryAfterMs platform response.headers = .ok found)
    (other : ¬(400 ≤ response.status ∧ response.status < 500)) :
    ∃ error, providerError platform response = .ok error ∧ error.classification ≠ .ambiguousMutation ∧
      (error.retryable = true ↔ 500 ≤ response.status ∨ rateLimited platform response.headers = true) := by
  unfold providerError
  rw [delay]
  simp only [ok_bind]
  rw [if_neg (show ¬response.status = 401 by omega)]
  split
  · rename_i limited
    have limited : rateLimited platform response.headers = true := by
      rcases limited with _ | limited | _
      · omega
      · exact limited
      · omega
    exact ⟨_, rfl, by simp, by simp [limited]⟩
  rename_i unlimited
  rw [if_neg (show ¬response.status = 403 by omega), if_neg (by omega)]
  have unlimited : ¬rateLimited platform response.headers = true := fun limited => unlimited (.inr (.inl limited))
  split
  · exact ⟨_, rfl, by simp, by simp_all⟩
  · exact ⟨_, rfl, by simp, by simp_all⟩

theorem settled_refused {request : ToolRequest} {response : HttpResponse}
    (refused : response.status < 200 ∨ 300 ≤ response.status)
    (other : ¬(400 ≤ response.status ∧ response.status < 500)) :
    Settled platform request (.response response) ↔ (∃ found, retryAfterMs platform response.headers = .ok found) ∧
      (500 ≤ response.status ∨ rateLimited platform response.headers = true) := by
  have came : outcomeOf platform request (.response response) = .error (refusal platform response) := by
    simp [outcomeOf, created, answered, refused]
  unfold Settled
  rw [came]
  cases delay : retryAfterMs platform response.headers with
  | error raised =>
    have same : refusal platform response = infinite := by
      simp [refusal, providerError, delay, retryAfterMs_error delay]
    rw [same]
    simp [infinite, providerErrorOf]
  | ok found =>
    obtain ⟨error, read, classified, retryable⟩ := providerError_retryable delay other
    have same : refusal platform response =
        if error.retryable then .provider (ambiguousMutation error.requestId) else .provider error := by
      simp [refusal, read]
    rw [same, ← retryable]
    by_cases again : error.retryable = true
    · simp [again, providerErrorOf, ambiguousMutation]
    · simp [again, providerErrorOf, classified]

theorem settled_unread {request : ToolRequest} {response : HttpResponse}
    (accepted : ¬(response.status < 200 ∨ 300 ≤ response.status))
    (unread : ∀ head base id, ∃ raised,
      (jsonObject response.body >>= fun value => pullFields value head base id) = .error raised) :
    Settled platform request (.response response) := by
  have came : outcomeOf platform request (.response response) =
      .error (.provider (ambiguousMutation (requestId platform response.headers))) := by
    obtain ⟨raised, unread⟩ := unread (request.text "head") (request.text "base") (requestId platform response.headers)
    simp only [outcomeOf, created, answered, if_neg accepted, unread]
  simp only [Settled, came]
  rfl

theorem settled_accepted {request : ToolRequest} {response : HttpResponse}
    (accepted : ¬(response.status < 200 ∨ 300 ≤ response.status)) :
    Settled platform request (.response response) ↔ Conforming response.body := by
  cases content : response.body with
  | malformed =>
    refine iff_of_true (settled_unread accepted fun head base id => ?_) trivial
    rw [content]
    exact ⟨_, rfl⟩
  | failing text =>
    refine iff_of_true (settled_unread accepted fun head base id => ?_) trivial
    rw [content]
    exact ⟨_, rfl⟩
  | document value =>
    cases record : value.asRecord? with
    | none =>
      refine iff_of_true (settled_unread accepted fun head base id => ?_) fun fields found => ?_
      · rw [content]
        cases value <;> first | exact ⟨_, rfl⟩ | cases record
      · rw [record] at found
        cases found
    | some fields =>
      have read (head base : String) (id : Option String) :
          (jsonObject response.body >>= fun value => pullFields value head base id) = pullFields fields head base id := by
        rw [content]
        cases value <;> first | (cases record; rfl) | cases record
      by_cases valid : isInt (fields.field "number") = true ∧ (fields.field "html_url").isString = true
      · have came : outcomeOf platform request (.response response) = .ok [("number", fields.field "number"),
            ("url", fields.field "html_url"), ("head", .str (request.text "head")), ("base", .str (request.text "base")),
            ("requestId", (requestId platform response.headers).elim .null .str)] := by
          have pull := (read (request.text "head") (request.text "base") (requestId platform response.headers)).trans
            (if_pos valid)
          simp only [outcomeOf, created, answered, if_neg accepted, pull]
        simp only [Settled, came, Conforming, record, Option.some.injEq, forall_eq', valid, forall_const]
        exact Bool.and_eq_true _ _ ▸ Iff.rfl
      · refine iff_of_true (settled_unread accepted fun head base id => ?_) fun found same number url => ?_
        · rw [read, pullFields, if_neg valid]
          exact ⟨_, rfl⟩
        · rw [record] at same
          cases same
          exact absurd ⟨number, url⟩ valid

theorem settled_iff_understood {request : ToolRequest} {outcome : Transported}
    (unrefused : ¬DefinitelyRejected outcome) : Settled platform request outcome ↔ Understood platform outcome := by
  cases outcome with
  | timeout => exact Iff.rfl
  | raised text => exact iff_of_true rfl trivial
  | response response =>
    by_cases refused : response.status < 200 ∨ 300 ≤ response.status
    · rw [settled_refused refused unrefused, Understood, if_pos refused]
    · rw [settled_accepted refused, Understood, if_neg refused]

theorem trace_seenAfter (seen : Seen) (events : List Environment.Event) :
    rules.Trace seen events (seenAfter seen events) := by
  induction events generalizing seen with
  | nil => exact .nil seen
  | cons event rest ih => exact .cons rfl (ih _)

def Seen.AtMostOnce (seen : Seen) : Prop := seen.posted.length ≤ 1

theorem atMostOnce_observe {seen : Seen} {call : Call} {answer : call.Answer} (allowed : MayAsk seen call)
    (bounded : seen.AtMostOnce) : (seen.observe call answer).AtMostOnce := by
  cases call with
  | request request =>
    by_cases posts : request.method = "POST"
    · rw [show seen.observe (.request request) answer = seen.post answer from if_pos posts]
      unfold Seen.AtMostOnce Seen.post
      rw [allowed posts]
      exact Nat.le_refl 1
    · rwa [show seen.observe (.request request) answer = seen from if_neg posts]
  | clock reading => cases reading <;> exact bounded
  | monotonic => exact bounded
  | utcnow => exact bounded
  | authorize => exact bounded
  | token timeoutMs => exact bounded
  | discard token => exact bounded
  | waitRetry milliseconds => exact bounded

/-- Exactly when the result accounts for a pull request that may have been made. -/
theorem mutation_accounted (platform : Platform) (config : GitHubAppConfig) (maxReadAttempts : Nat)
    {request : ToolRequest} (creates : request.operation = .str createPullRequestName) :
    (∀ events rest, Leads (invokeTool platform config maxReadAttempts request) events rest →
      (seenAfter .start events).AtMostOnce) ∧
    ∀ events found, Finishes (invokeTool platform config maxReadAttempts request) events found →
      ((seenAfter .start events).Accounted found ↔ (seenAfter .start events).Unmistaken platform) := by
  have sat : Sat rules (Accounts platform request) (invokeTool platform config maxReadAttempts request) .start :=
    invokeTool_accounts maxReadAttempts creates
  constructor
  · intro events rest leads
    have start : Seen.start.AtMostOnce := Nat.zero_le 1
    exact sat.preserves leads (trace_seenAfter _ _) start
      fun allowed moved before => moved ▸ atMostOnce_observe allowed before
  · intro events found finishes
    unfold Seen.Accounted Seen.Unmistaken
    rcases sat.finishes finishes (trace_seenAfter _ _) with none | ⟨outcome, result, one, rfl, reports⟩
    · simp [none]
    · simp only [one, List.mem_singleton, forall_eq, Except.ok.injEq, exists_eq_left', reports]
      by_cases refused : DefinitelyRejected outcome
      · simp [refused]
      · rw [settled_iff_understood refused]

end Verdict

section EmptyAddress

def plainPlatform : Platform where
  casefold text := text
  quote text := text
  urlencode pairs := "&".intercalate (pairs.map fun pair =>
    pair.1 ++ "=" ++ (pair.2.replace ":" "%3A").replace "/" "%2F")
  retryMilliseconds _ := .ok none
  rstripSlash text := text
  isRepository text := text.toList.contains '/'
  violations _ := "the output is not valid under any of the given schemas"

def sampleConfig : GitHubAppConfig := ⟨"acme", "app", "agent/", "main", "https://api.github.com"⟩

def sampleRequest : ToolRequest where
  callerKind := "TaskExecution"
  callerId := "task-1"
  capabilities := ["github.create_pr"]
  input := [("operation", .str createPullRequestName), ("repository", .str "acme/app"), ("head", .str "agent/fix"),
    ("base", .str "main"), ("title", .str "Fix"), ("body", .str ""),
    ("publicationEvidence", .obj [("policyDecisionId", .str "policy-1"), ("taskExecutionId", .str "task-1"),
      ("workflowExecutionId", .str "workflow-1"), ("repositoryRevision", .str "0123456"),
      ("headRevision", .str "789abcd"), ("evaluationResultIds", .arr [.str "evaluation-1"]),
      ("generatedArtifactIds", .arr [.str "artifact-1"]), ("commitToolInvocationId", .str "commit-1"),
      ("pushToolInvocationId", .str "push-1")])]
  timeoutMs := 30000
  traceId := "trace-1"
  positive := by decide
  traced := by decide

def provider (address : String) : (call : Call) → call.Answer
  | .clock _ => (0 : ℚ)
  | .monotonic => (0 : ℚ)
  | .utcnow => "2026-01-01T00:00:00Z"
  | .authorize => (.ok true : Except String Bool)
  | .token _ => (.ok "token" : Except Raised String)
  | .discard _ => ()
  | .request request => Transported.response <|
    if request.method = "POST" then
      ⟨201, [], .document (.obj [("number", .int 7), ("html_url", .str address)])⟩
    else ⟨200, [], .document (.arr [])⟩
  | .waitRetry _ => ()

def sampleRun (address : String) : List Environment.Event × Option (Except Raised ToolResult) :=
  (invokeTool plainPlatform sampleConfig 2 sampleRequest).follow (provider address)

instance : DecidablePred DefinitelyRejected
  | .response _ => inferInstanceAs (Decidable (_ ∧ _))
  | .timeout | .raised _ => isFalse id

/-- Whether what a run posted was refused, and the status and the output that it ended with. -/
def sampleEnd (address : String) : Option (List Bool × ToolResultStatus × Json) :=
  match (sampleRun address).2 with
  | some (.ok result) =>
    some ((seenAfter .start (sampleRun address).1).posted.map DefinitelyRejected, result.status, result.output)
  | _ => none

theorem sampleEnd_finishes {address : String} {refused : List Bool} {status : ToolResultStatus} {output : Json}
    (ended : sampleEnd address = some (refused, status, output)) :
    ∃ events result, Finishes (invokeTool plainPlatform sampleConfig 2 sampleRequest) events (.ok result) ∧
      (seenAfter .start events).posted.map (fun outcome => decide (DefinitelyRejected outcome)) = refused ∧
      result.status = status ∧ result.output = output := by
  unfold sampleEnd at ended
  split at ended
  · rename_i result found
    cases ended
    exact ⟨_, result, finishes_follow found, rfl, rfl, rfl⟩
  · cases ended

theorem mutation_accounted_sample : ∃ events result,
    Finishes (invokeTool plainPlatform sampleConfig 2 sampleRequest) events (.ok result) ∧
      (seenAfter .start events).posted ≠ [] ∧ (seenAfter .start events).AtMostOnce ∧
      (seenAfter .start events).Unmistaken plainPlatform := by
  have made : (sampleEnd "https://github.com/acme/app/pull/7").map (fun ended => (ended.1, ended.2.1)) =
      some ([false], .succeeded) := by decide +kernel
  obtain ⟨⟨refused, status, output⟩, ended, same⟩ := Option.map_eq_some_iff.mp made
  cases same
  obtain ⟨events, result, finishes, posted, status, -⟩ := sampleEnd_finishes ended
  obtain ⟨bounded, exact⟩ := mutation_accounted plainPlatform sampleConfig 2
    (show sampleRequest.operation = .str createPullRequestName from rfl)
  refine ⟨events, result, finishes, fun none => ?_, bounded _ _ finishes, (exact _ _ finishes).mp fun outcome _ => ?_⟩
  · rw [none] at posted
    cases posted
  · exact .inr ⟨result, rfl, .inl status⟩

/-- The provider makes a pull request and gives it no address. The result is a failure without an output. -/
theorem created_unaccounted : ∃ events result,
    Finishes (invokeTool plainPlatform sampleConfig 2 sampleRequest) events (.ok result) ∧
      result.status = .failed ∧ result.output = .null ∧ ¬(seenAfter .start events).Accounted (.ok result) := by
  have ended : sampleEnd "" = some ([false], .failed, .null) := by decide +kernel
  obtain ⟨events, result, finishes, posted, status, output⟩ := sampleEnd_finishes ended
  refine ⟨events, result, finishes, status, output, fun accounted => ?_⟩
  obtain ⟨outcome, one, unrefused⟩ := List.map_eq_singleton_iff.mp posted
  rcases accounted outcome (one ▸ List.mem_cons_self) with refused | ⟨_, same, reported | reported⟩
  · exact of_decide_eq_false unrefused refused
  · cases same
    rw [status] at reported
    cases reported
  · cases same
    rw [ToolResult.mutationState, output] at reported
    cases reported

end EmptyAddress

end Aep.GithubTool
