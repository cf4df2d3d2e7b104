import Aep.GithubTool.Execution
import Aep.Library.Result

namespace Aep.GithubTool

open Program Body Result

/-- What of the calls so far the account of a mutation rests on: two readings of the clock, and what the transport
    made of each POST that it was handed. -/
structure Seen where
  started : ℚ
  finished : Option ℚ
  posted : List Transported

def Seen.start : Seen := ⟨0, none, []⟩

def Seen.post (seen : Seen) (outcome : Transported) : Seen := { seen with posted := seen.posted ++ [outcome] }

def Seen.observe (seen : Seen) : (call : Call) → call.Answer → Seen
  | .clock .started, now => { seen with started := now }
  | .clock .finished, now => { seen with finished := some now }
  | .request request, outcome => if request.method = "POST" then seen.post outcome else seen
  | _, _ => seen

def seenAfter (seen : Seen) : List Environment.Event → Seen
  | [] => seen
  | event :: rest => seenAfter (seen.observe event.op event.answer) rest

def MayAsk (seen : Seen) : Call → Prop
  | .request request => request.method = "POST" → seen.posted = []
  | _ => True

def rules : Rules Environment Seen where
  may := MayAsk
  next seen call answer after := after = seen.observe call answer

theorem sat_ask {call : Call} {seen : Seen} {post : Seen → Except Raised call.Answer → Prop} (allowed : MayAsk seen call)
    (rest : ∀ answer, post (seen.observe call answer) (.ok answer)) : Sat rules post (ask call) seen := by
  refine ⟨allowed, fun answer after moved => ?_⟩
  rw [show after = _ from moved]
  exact rest answer

theorem sat_ask_bind {call : Call} {α : Type} {seen : Seen} {next : call.Answer → Prog α}
    {post : Seen → Except Raised α → Prop} (allowed : MayAsk seen call)
    (rest : ∀ answer, Sat rules post (next answer) (seen.observe call answer)) :
    Sat rules post (ask call >>= next) seen := by
  exact sat_bind.mpr (sat_ask allowed rest)

theorem sat_get {request : HttpRequest} {seen : Seen} {post : Seen → Except Raised Transported → Prop}
    (other : request.method ≠ "POST") (rest : ∀ outcome, post seen (.ok outcome)) :
    Sat rules post (ask (.request request)) seen := by
  refine sat_ask (fun posts => absurd posts other) fun outcome => ?_
  rw [show seen.observe (.request request) outcome = seen from if_neg other]
  exact rest outcome

theorem sat_post {request : HttpRequest} {seen : Seen} {post : Seen → Except Raised Transported → Prop}
    (posts : request.method = "POST") (none : seen.posted = [])
    (rest : ∀ outcome, post (seen.post outcome) (.ok outcome)) : Sat rules post (ask (.request request)) seen := by
  refine sat_ask (fun _ => none) fun outcome => ?_
  rw [show seen.observe (.request request) outcome = seen.post outcome from if_pos posts]
  exact rest outcome

section Client

variable {platform : Platform} {config : GitHubAppConfig} {seen : Seen} {mark : Bool}

theorem remainingMs_keeps (deadline : ℚ) : Sat rules (fun after _ => after = seen) (remainingMs deadline) seen := by
  refine sat_ask_bind trivial fun now => ?_
  cases Float64.truncProduct (Float64.sub deadline now) 1000 with
  | none => rfl
  | some remaining =>
    simp only
    split <;> rfl

theorem token_keeps (timeoutMs : Int) : Sat rules (fun after _ => after = seen) (token timeoutMs) seen := by
  refine sat_ask_bind trivial fun found => ?_
  exact sat_liftExcept.mpr rfl

def refusal (platform : Platform) (response : HttpResponse) : Raised :=
  match providerError platform response with
  | .error raised => raised
  | .ok error => if error.retryable then .provider (ambiguousMutation error.requestId) else .provider error

def answered (platform : Platform) : Transported → Except Raised HttpResponse
  | .timeout => .error (.timeout "GitHub request timed out")
  | .raised _ => .error (.provider (ambiguousMutation none))
  | .response response =>
    if response.status < 200 ∨ 300 ≤ response.status then .error (refusal platform response) else .ok response

def created (platform : Platform) (head base : String) (outcome : Transported) : Except Raised Record :=
  match answered platform outcome with
  | .error raised => .error raised
  | .ok response =>
    match jsonObject response.body >>= fun value => pullFields value head base (requestId platform response.headers) with
    | .ok pull => .ok pull
    | .error _ => .error (.provider (ambiguousMutation (requestId platform response.headers)))

def Posts {α : Type} (seen : Seen) (mark : Bool) (result : Transported → Except Raised α → Prop) (after : Seen)
    (found : Except Raised α) (marked : Bool) : Prop :=
  (after = seen ∧ marked = mark) ∨ ∃ outcome, after = seen.post outcome ∧ marked = true ∧ result outcome found

theorem send_get (suffix token : String) (body : Option Record) (deadline : ℚ) :
    Meets rules (fun after _ marked => after = seen ∧ marked = mark)
      (send platform config "GET" suffix token body deadline false) seen mark := by
  refine meets_bind.mpr (meets_lift.mpr ((remainingMs_keeps deadline).mono ?_))
  rintro _ (_ | timeoutMs) rfl
  · exact ⟨rfl, rfl⟩
  · exact meets_bind.mpr (meets_lift.mpr (sat_get (show "GET" ≠ "POST" by decide) fun outcome => ⟨rfl, rfl⟩))

theorem send_post (none : seen.posted = []) (suffix token : String) (body : Option Record) (deadline : ℚ) :
    Meets rules (fun after result marked => (after = seen ∧ marked = mark ∧ ∃ error, result = .error error) ∨
        ∃ outcome, after = seen.post outcome ∧ marked = true ∧ result = transported outcome)
      (send platform config "POST" suffix token body deadline true) seen mark := by
  refine meets_bind.mpr (meets_lift.mpr ((remainingMs_keeps deadline).mono ?_))
  rintro _ (error | timeoutMs) rfl
  · exact .inl ⟨rfl, rfl, error, rfl⟩
  · refine meets_bind.mpr (meets_modify.mpr (meets_bind.mpr (meets_lift.mpr ?_)))
    exact sat_post rfl none fun outcome => .inr ⟨outcome, rfl, rfl, rfl⟩

theorem rejected_meets (method suffix token : String) (response : HttpResponse)
    {post : Seen → Except Raised HttpResponse → Bool → Prop}
    (rest : post seen (.error (match providerError platform response with
      | .error raised => raised
      | .ok error =>
        if method = "POST" ∧ suffix = "/pulls" ∧ error.retryable then .provider (ambiguousMutation error.requestId)
        else .provider error)) mark) :
    Meets rules post (rejected platform method suffix token response) seen mark := by
  unfold rejected
  rw [meets_bind, meets_check]
  cases failed : providerError platform response with
  | error raised => simpa only [failed] using rest
  | ok error =>
    simp only [failed] at rest
    have last : Meets rules post (if method = "POST" ∧ suffix = "/pulls" ∧ error.retryable then
        fail (.provider (ambiguousMutation error.requestId)) else fail (.provider error)) seen mark := by
      split <;> simp_all
    simp only
    split
    · exact meets_bind.mpr (meets_lift.mpr (sat_ask trivial fun _ => last))
    · exact last

theorem api_get (suffix : String) (body : Option Record) (deadline : ℚ) :
    Meets rules (fun after _ marked => after = seen ∧ marked = mark)
      (api platform config "GET" suffix body deadline false) seen mark := by
  refine meets_bind.mpr (meets_lift.mpr ((remainingMs_keeps deadline).mono ?_))
  rintro _ (_ | timeoutMs) rfl
  · exact ⟨rfl, rfl⟩
  refine meets_bind.mpr (meets_lift.mpr ((token_keeps timeoutMs).mono ?_))
  rintro _ (_ | token) rfl
  · exact ⟨rfl, rfl⟩
  refine meets_tryCatch.mpr ((send_get suffix token body deadline).mono ?_)
  rintro _ result _ ⟨rfl, rfl⟩
  rcases result with (_ | _ | _) | response
  · exact ⟨rfl, rfl⟩
  · exact ⟨rfl, rfl⟩
  · exact ⟨rfl, rfl⟩
  · simp only
    split
    · exact rejected_meets _ _ _ _ ⟨rfl, rfl⟩
    · exact ⟨rfl, rfl⟩

theorem api_post (none : seen.posted = []) (body : Option Record) (deadline : ℚ) :
    Meets rules (fun after result marked => (after = seen ∧ marked = mark ∧ ∃ error, result = .error error) ∨
        ∃ outcome, after = seen.post outcome ∧ marked = true ∧ result = answered platform outcome)
      (api platform config "POST" "/pulls" body deadline true) seen mark := by
  refine meets_bind.mpr (meets_lift.mpr ((remainingMs_keeps deadline).mono ?_))
  rintro _ (error | timeoutMs) rfl
  · exact .inl ⟨rfl, rfl, error, rfl⟩
  refine meets_bind.mpr (meets_lift.mpr ((token_keeps timeoutMs).mono ?_))
  rintro _ (error | token) rfl
  · exact .inl ⟨rfl, rfl, error, rfl⟩
  refine meets_tryCatch.mpr ((send_post none "/pulls" token body deadline).mono ?_)
  rintro after result marked (⟨rfl, rfl, error, rfl⟩ | ⟨outcome, rfl, rfl, rfl⟩)
  · cases error with
    | timeout message => exact .inl ⟨rfl, rfl, _, rfl⟩
    | provider error => exact .inl ⟨rfl, rfl, _, rfl⟩
    | other text => exact .inl ⟨rfl, rfl, _, rfl⟩
  · cases outcome with
    | timeout => exact .inr ⟨.timeout, rfl, rfl, rfl⟩
    | raised text => exact .inr ⟨.raised text, rfl, rfl, rfl⟩
    | response response =>
      simp only [transported]
      split
      · refine rejected_meets _ _ _ _ (.inr ⟨.response response, rfl, rfl, ?_⟩)
        simp_all [answered, refusal]
      · refine .inr ⟨.response response, rfl, rfl, ?_⟩
        simp_all [answered]

theorem createPull_posts (none : seen.posted = []) (head base title body : String) (deadline : ℚ) :
    Meets rules (Posts seen mark fun outcome found => found = created platform head base outcome)
      (createPull platform config head base title body deadline) seen mark := by
  refine meets_bind.mpr ((api_post none _ deadline).mono ?_)
  rintro after result marked (⟨rfl, rfl, error, rfl⟩ | ⟨outcome, rfl, rfl, rfl⟩)
  · exact .inl ⟨rfl, rfl⟩
  · cases answer : answered platform outcome with
    | error raised => exact .inr ⟨outcome, rfl, rfl, by simp [created, answer]⟩
    | ok response =>
      cases read : jsonObject response.body >>= fun value =>
        pullFields value head base (requestId platform response.headers)
      all_goals
        simp only [read]
        exact .inr ⟨outcome, rfl, rfl, by simp only [created, answer, read]⟩

theorem createOrReconcile_posts (none : seen.posted = []) (head base title body : String) (deadline : ℚ) :
    Meets rules (Posts seen mark fun outcome found => found = created platform head base outcome)
      (createOrReconcile platform config head base title body deadline) seen mark := by
  refine meets_bind.mpr ((api_get _ _ deadline).mono ?_)
  rintro _ result _ ⟨rfl, rfl⟩
  cases result with
  | error raised => exact .inl ⟨rfl, rfl⟩
  | ok response =>
    refine meets_bind.mpr (meets_check.mpr ?_)
    rcases jsonValue response.body with raised | existing
    · exact .inl ⟨rfl, rfl⟩
    · simp only
      split
      · exact createPull_posts none head base title body deadline
      all_goals exact .inl ⟨rfl, rfl⟩

end Client

section Operation

variable {platform : Platform} {config : GitHubAppConfig} {seen : Seen}

def Operation.Fresh (operation : Operation) : Prop :=
  operation.finished = none ∧ operation.cancelled = false ∧ operation.timedOut = false ∧
    operation.mutationStarted = false

/-- A part of a program after which nothing was posted, or one POST with this result. -/
def PostsOnce {α : Type} (seen : Seen) (result : Transported → α → Prop) (after : Seen) : Except Raised α → Prop
  | .ok found => after = seen ∨ ∃ outcome, after = seen.post outcome ∧ result outcome found
  | .error _ => False

def Waited (platform : Platform) (head base : String) (outcome : Transported)
    (found : Option (Except Raised Record) × Operation) : Prop :=
  found.2.mutationStarted = true ∧ match created platform head base outcome with
    | .error (.timeout _) => found.1 = none ∧ found.2.timedOut = true
    | result => found.1 = some result

theorem Operation.wait_posts {operation : Operation} (fresh : operation.Fresh) {head base : String}
    (run : ∀ deadline, Meets rules (Posts seen false fun outcome found => found = created platform head base outcome)
      (operation.run deadline) seen false) (timeoutMs : Int) :
    Sat rules (PostsOnce seen (Waited platform head base)) (operation.wait timeoutMs) seen := by
  obtain ⟨finished, cancelled, timedOut, mark⟩ := fresh
  unfold Operation.wait
  simp only [timedOut, cancelled, finished, mark, Bool.false_eq_true, false_and, ↓reduceIte]
  refine sat_ask_bind trivial fun now => ?_
  refine sat_bind.mpr (Sat.mono (run (Float64.add now (seconds timeoutMs))) ?_)
  rintro after (_ | ⟨result, marked⟩) posts
  · exact posts.elim
  rcases posts with ⟨rfl, rfl⟩ | ⟨outcome, rfl, rfl, rfl⟩
  · rcases result with (_ | _ | _) | value <;> exact .inl rfl
  · have waited (pair : Option (Except Raised Record) × Operation) (waited : Waited platform head base outcome pair) :
        PostsOnce seen (Waited platform head base) (seen.post outcome) (.ok pair) := .inr ⟨outcome, rfl, waited⟩
    unfold Waited at waited
    cases came : created platform head base outcome with
    | error raised =>
      rw [came] at waited
      cases raised with
      | timeout message => exact waited _ ⟨rfl, rfl, rfl⟩
      | provider error => exact waited _ ⟨rfl, rfl⟩
      | other text => exact waited _ ⟨rfl, rfl⟩
    | ok value =>
      rw [came] at waited
      exact waited _ ⟨rfl, rfl⟩

theorem startRun_ok {request : ToolRequest} (creates : request.operation = .str createPullRequestName)
    {run : ℚ → Run Record} (started : startRun platform config request = .ok run) :
    run = createOrReconcile platform config (request.text "head") (request.text "base") (request.text "title")
      (request.text "body") := by
  have other : ¬request.operation = .str readIssueName := by
    rw [creates]
    decide
  simp only [startRun, if_neg other, startCreatePullRequest, bind_eq_ok] at started
  obtain ⟨-, -, started⟩ := started
  split at started
  · cases started
  · split at started
    · cases started
    · cases started
      rfl

theorem startOperation_fresh {request : ToolRequest} (creates : request.operation = .str createPullRequestName)
    {operation : Operation} (started : startOperation platform config request = .ok operation) :
    operation.Fresh ∧ operation.run = createOrReconcile platform config (request.text "head") (request.text "base")
      (request.text "title") (request.text "body") := by
  simp only [startOperation, bind_eq_ok] at started
  obtain ⟨run, found, started⟩ := started
  cases started
  exact ⟨⟨rfl, rfl, rfl, rfl⟩, startRun_ok creates found⟩

end Operation

end Aep.GithubTool
