import Aep.OpenaiModelProvider.Failures
import Aep.Library.Program

namespace Aep.OpenaiModelProvider

/-- A reservation against a provider quota, as far as the adapter reads it. -/
structure AdmissionDecision where
  admitted : Bool
  delayMs : Int
  estimatedInputTokens : Int
  reservedTokens : Int
  reservationId : Option Nat

/-- What the transport makes of a request. -/
inductive Transported where
  | timeout
  | unavailable
  | response (response : ProviderHttpResponse)

/-- Where the adapter reads the monotonic clock. -/
inductive Reading where
  | admitted
  | rechecked
  | sending
  | latency
  | observed
  | throttled
  deriving DecidableEq

/-- What a delay is for when the adapter reads the wall clock. -/
inductive Deferral where
  | coordinator
  | retry
  deriving DecidableEq

inductive Call where
  | monotonic (reading : Reading)
  | wallClock (deferral : Deferral)
  | jitter
  | sleep (delayMs : Int)
  | admission (now deadline : ℚ) (estimatedInputTokens outputTokenAllowance : Int)
  | revalidate (now deadline : ℚ)
  | observeThrottle (now eligibleAt : ℚ)
  | observeSuccess (now : ℚ) (reservedTokens actualInputTokens actualOutputTokens : Int) (reservationId : Option Nat)
  | request (timeoutMs : Int)

/-- The coordinator answers with nothing when it raises a CoordinatorStateError. The wall clock counts microseconds,
    and a jitter that is no finite number is none. -/
def Call.Answer : Call → Type
  | .monotonic _ => ℚ
  | .wallClock _ => Int
  | .jitter => Option ℚ
  | .sleep _ => Unit
  | .admission .. => Option AdmissionDecision
  | .revalidate .. => Option AdmissionDecision
  | .observeThrottle .. => Option Unit
  | .observeSuccess .. => Option Unit
  | .request _ => Transported

abbrev Environment : Interface := ⟨Call, Call.Answer⟩

abbrev Adapter (α : Type) : Type := Program Environment Raised α

def ask (call : Call) : Adapter call.Answer := .call call .ret

/-- A run of the attempts: the effective configuration, and what the run starts with. -/
structure Invocation where
  model : String
  maxAttempts : Nat
  positive : 0 < maxAttempts
  backoffMs : Nat
  tokenLimit : Option Int
  estimatedInputTokens : Int
  started : ℚ
  deadline : ℚ

def Invocation.outputTokenAllowance (invocation : Invocation) : Int := invocation.tokenLimit.getD 0

structure ModelResponse where
  output : Json
  inputTokens : Int
  outputTokens : Int
  latencyMs : Int
  providerMetadata : Record

section Success

variable (texts : TextFunctions)

def isModelCharacter (c : Char) : Bool := c.isAlphanum || c ∈ ['.', '_', ':', '-']

def isProviderModel (name : String) : Bool :=
  match name.toList with
  | [] => false
  | first :: rest => first.isAlphanum && rest.all isModelCharacter && rest.length ≤ 127

def contentParts (item : Json) : List Json :=
  ((item.asRecord?.bind fun fields => (fields.field "content").asItems?).getD [])

def isRefusal (part : Json) : Bool := part.asRecord?.any fun fields => fields.field "type" = .str "refusal"

def refusal (document : Record) : Bool :=
  ((document.field "output").asItems?.getD []).any fun item => (contentParts item).any isRefusal

def partText (part : Json) : Option String :=
  part.asRecord?.bind fun fields =>
    if fields.field "type" = .str "output_text" then (fields.field "text").asString? else none

def isMessage (item : Json) : Bool := item.asRecord?.any fun fields => fields.field "type" = .str "message"

def outputText (document : Record) : Except Raised String :=
  let items := ((document.field "output").asItems?.getD []).filter isMessage
  match (items.flatMap contentParts).findSome? partText with
  | some text => .ok text
  | none => .error (.model (malformed none none))

def nonNegativeInt : Json → Option Int
  | .int value => if 0 ≤ value then some value else none
  | _ => none

structure Success where
  output : Json
  inputTokens : Int
  outputTokens : Int
  providerModel : String
  requestId : Option String

/-- A document, or the refusal of the text: an integer of too many digits is not caught. -/
def loaded (error : ModelInvocationError) : Except LoadFault Json → Except Raised Json
  | .ok document => .ok document
  | .error .malformed => .error (.model error)
  | .error .digits => .error (.escaped .valueError)

def checkStatus (requestedModel providerModel : String) (id : Option String) (document : Record) : Except Raised Unit :=
  let metadata := responseMetadata requestedModel providerModel id
  let status := document.field "status"
  if refusal document then
    .error (.model ⟨"model provider refused the structured request", .permanent, "safety_refusal", metadata "refusal"⟩)
  else if status = .str "failed" then
    .error (.model ⟨"model provider failed the structured request", .permanent, "provider_error", metadata "failed"⟩)
  else if status = .str "incomplete" then .error (.model (incompleteFailure document requestedModel providerModel id))
  else if status ≠ .str "completed" then
    .error (.model ⟨"model provider returned an incomplete response", .recoverable, "incomplete_response",
      metadata "incomplete"⟩)
  else .ok ()

def readUsage (error : ModelInvocationError) (document : Record) : Except Raised (Int × Int) :=
  match (document.field "usage").asRecord? with
  | none => .error (.model error)
  | some usage =>
    match nonNegativeInt (usage.field "input_tokens"), nonNegativeInt (usage.field "output_tokens") with
    | some input, some output => .ok (input, output)
    | _, _ => .error (.model error)

def readSuccess (requestedModel : String) (response : ProviderHttpResponse) : Except Raised Success := do
  let body ← loaded (malformed none none) (texts.loadBytes response.body)
  match body.asRecord? with
  | none => .error (.model (malformed none none))
  | some document =>
    let id := (safeProviderId texts (document.field "id")).orElse fun _ => requestId texts response.headers
    let malformedHere := malformed id (some requestedModel)
    match (document.field "model").asString?.filter isProviderModel with
    | none => .error (.model malformedHere)
    | some providerModel => do
      checkStatus requestedModel providerModel id document
      let text ← outputText document
      let output ← loaded malformedHere (texts.loadText text)
      let (input, used) ← readUsage malformedHere document
      if texts.copies output then .ok ⟨output, input, used, providerModel, id⟩ else .error (.model malformedHere)

end Success

section Evidence

variable (invocation : Invocation)

def admissionEvidence (admission : AdmissionDecision) (delayMs : Int) : Record := [
  ("estimatedInputTokens", .int admission.estimatedInputTokens),
  ("outputTokenAllowance", .int invocation.outputTokenAllowance),
  ("reservedTokens", .int admission.reservedTokens),
  ("coordinatorDelayMs", .int delayMs)]

abbrev Attempts : Type := List Record

def Attempts.asJson (attempts : Attempts) : Json := .arr (attempts.map .obj)

def coordinatorUnavailable (attempts : Attempts) : ModelInvocationError where
  message := "model rate-limit coordinator state is unavailable"
  classification := .recoverable
  code := "coordinator_unavailable"
  providerMetadata := [
    ("provider", .str "openai"), ("requestedModel", .str invocation.model), ("attemptCount", .int attempts.length),
    ("attempts", attempts.asJson), ("retryDecision", .str "suppressed")]

def deferredError (code : String) (metadata : Record) : ModelInvocationError :=
  ⟨"model provider retry is deferred beyond the invocation deadline", .recoverable, code, metadata⟩

def deferredMetadata (attempts : Attempts) (evidence : Record) (source eligible : String) : Record :=
  (Dict.update [
    ("provider", .str "openai"), ("requestedModel", .str invocation.model), ("attemptCount", .int attempts.length),
    ("attempts", attempts.asJson)] evidence).update [
    ("delaySource", .str source), ("retryEligibleAt", .str eligible), ("retryDecision", .str "deferred")]

def succeededAttempt (attempt : Nat) (success : Success) (evidence : Record) : Record :=
  (Dict.update [
    ("attempt", .int attempt), ("code", .str "succeeded"), ("requestId", optional success.requestId)] evidence).set
    "retryDecision" (.str "terminal")

def successMetadata (attempt : Nat) (attempts : Attempts) (success : Success) (evidence : Record) : Record :=
  (Dict.update [
    ("provider", .str "openai"), ("requestedModel", .str invocation.model),
    ("providerModel", .str success.providerModel), ("requestId", optional success.requestId),
    ("finishReason", .str "completed"), ("attemptCount", .int attempt),
    ("attempts", Attempts.asJson (attempts ++ [succeededAttempt attempt success evidence]))] evidence).set
    "retryDecision" (.str "terminal")

def failedMetadata (carried : Record) (id : Option String) (attempt : Nat) (attempts : Attempts)
    (httpEvidence evidence decision : Record) : Record :=
  (((carried.update [
    ("provider", .str "openai"), ("requestedModel", .str invocation.model), ("requestId", optional id),
    ("attemptCount", .int attempt), ("attempts", attempts.asJson)]).update httpEvidence).update evidence).update decision

end Evidence

section Retry

def intOf (evidence : Record) (key : String) : Int :=
  match evidence.get? key with
  | some (.int value) => value
  | _ => 0

structure RetryDelay where
  delayMs : Int
  source : String

def retryDelay (httpEvidence : Record) (backoff : Int) : RetryDelay :=
  let retryAfter := intOf httpEvidence "retryAfterMs"
  let reset := max (intOf httpEvidence "resetRequestsMs") (intOf httpEvidence "resetTokensMs")
  ⟨max backoff (max retryAfter reset),
    if max backoff reset ≤ retryAfter ∧ retryAfter ≠ 0 then "retry-after"
    else if backoff ≤ reset ∧ reset ≠ 0 then "provider-reset" else "exponential-backoff"⟩

def delayEvidence (delay : RetryDelay) (eligible decision : String) : Record := [
  ("appliedDelayMs", .int delay.delayMs), ("delaySource", .str delay.source), ("retryEligibleAt", .str eligible),
  ("retryDecision", .str decision)]

end Retry

section Loop

open Program

variable (texts : TextFunctions) (invocation : Invocation)

def raiseModel {α : Type} (error : ModelInvocationError) : Adapter α := .raise (.model error)

def escape {α : Type} (exception : Exception) : Adapter α := .raise (.escaped exception)

def eligibleAt (deferral : Deferral) (delayMs : Int) : Adapter String := do
  let now : Int ← ask (.wallClock deferral)
  match futureTimestamp now delayMs with
  | some eligible => return eligible
  | none => escape .overflowError

def deferAdmission {α : Type} (attempts : Attempts) (evidence : Record) (source : String) (delayMs : Int) : Adapter α := do
  let eligible ← eligibleAt .coordinator delayMs
  raiseModel (deferredError "rate_limit_deferred" (deferredMetadata invocation attempts evidence source eligible))

def sleep (delayMs : Int) : Adapter Unit := ask (.sleep delayMs)

def request (timeoutMs : Int) : Adapter Transported := ask (.request timeoutMs)

def sleepFor (delayMs : Int) : Adapter Unit := if delayMs = 0 then return () else sleep delayMs

/-- Rechecks of an admission until none asks for a further delay. The delay so far goes in and the whole one comes
    out. -/
def recheck (attempts : Attempts) (admission : AdmissionDecision) : Nat → Int → Adapter Int
  | 0, _ => .cut
  | fuel + 1, delayed => do
    let now : ℚ ← ask (.monotonic .rechecked)
    let decision : Option AdmissionDecision ← ask (.revalidate now invocation.deadline)
    match decision with
    | none => raiseModel (coordinatorUnavailable invocation attempts)
    | some decision =>
      let whole := delayed + decision.delayMs
      if ¬ decision.admitted then
        deferAdmission invocation attempts (admissionEvidence invocation admission whole) "coordinator-recheck"
          decision.delayMs
      else if decision.delayMs = 0 then return delayed
      else do
        sleep decision.delayMs
        recheck attempts admission fuel whole

def admitAttempt (fuel : Nat) (attempts : Attempts) : Adapter (AdmissionDecision × Record) := do
  let now : ℚ ← ask (.monotonic .admitted)
  let decision : Option AdmissionDecision ←
    ask (.admission now invocation.deadline invocation.estimatedInputTokens invocation.outputTokenAllowance)
  match decision with
  | none => raiseModel (coordinatorUnavailable invocation attempts)
  | some admission =>
    if ¬ admission.admitted then
      deferAdmission invocation attempts (admissionEvidence invocation admission admission.delayMs) "coordinator"
        admission.delayMs
    else do
      sleepFor admission.delayMs
      let delayed ← recheck invocation attempts admission fuel admission.delayMs
      return (admission, admissionEvidence invocation admission delayed)

def timedOut : ModelInvocationError := ⟨"model provider request timed out", .recoverable, "timeout", []⟩

def send : Adapter Transported := do
  let now : ℚ ← ask (.monotonic .sending)
  match remainingMs invocation.deadline now with
  | none => escape .overflowError
  | some remaining => if remaining < 1 then raiseModel timedOut else request remaining

def successfulResponse (attempt : Nat) (attempts : Attempts) (admission : AdmissionDecision) (evidence : Record)
    (response : ProviderHttpResponse) (latencyMs : Int) (observedAt : ℚ) : Adapter ModelResponse := do
  let success ← liftExcept (readSuccess texts invocation.model response)
  let observed : Option Unit ← ask (.observeSuccess observedAt admission.reservedTokens success.inputTokens
    success.outputTokens admission.reservationId)
  match observed with
  | none => escape .coordinatorStateError
  | some () => return {
      output := success.output
      inputTokens := success.inputTokens
      outputTokens := success.outputTokens
      latencyMs := max 0 latencyMs
      providerMetadata := successMetadata invocation attempt attempts success evidence }

/-- The adapter answers a response below status 300, or says how the attempt failed. -/
def answer (attempt : Nat) (attempts : Attempts) (admission : AdmissionDecision) (evidence : Record)
    (response : ProviderHttpResponse) : Adapter (Except ModelInvocationError ModelResponse) := do
  let now : ℚ ← ask (.monotonic .latency)
  match Float64.roundProduct (Float64.sub now invocation.started) 1000 with
  | none => escape .overflowError
  | some latencyMs => do
    let observedAt : ℚ ← ask (.monotonic .observed)
    let result ← Program.attempt (successfulResponse texts invocation attempt attempts admission evidence response latencyMs
      observedAt)
    match result with
    | .ok response => return .ok response
    | .error (.model error) => return .error error
    | .error (.escaped exception) => escape exception

def classify (attempt : Nat) (attempts : Attempts) (admission : AdmissionDecision) (evidence : Record) :
    Transported → Adapter (Except ModelInvocationError ModelResponse)
  | .timeout => return .error (failure "timeout" .recoverable [])
  | .unavailable => return .error (failure "provider_unavailable" .recoverable [])
  | .response response =>
    match httpFailure texts response with
    | .error exception => escape exception
    | .ok (some error) => return .error error
    | .ok none => answer texts invocation attempt attempts admission evidence response

def responseOf : Transported → Option ProviderHttpResponse
  | .response response => some response
  | _ => none

def failureRequestId (error : ModelInvocationError) (response : Option ProviderHttpResponse) : Option String :=
  (response.bind fun found => requestId texts found.headers).orElse fun _ =>
    (error.providerMetadata.get? "requestId").bind Json.asString?

/-- What follows a recoverable failure: the last one and one whose retry lies past the deadline are raised. -/
def retryLater (attempt : Nat) (attempts : Attempts) (evidence httpEvidence attemptEvidence : Record)
    (id : Option String) (error : ModelInvocationError) : Adapter Attempts := do
  let jitter : Option ℚ ← ask .jitter
  let delay := retryDelay httpEvidence (backoffMs invocation.backoffMs attempt jitter)
  let eligible ← eligibleAt .retry delay.delayMs
  let last := attempt = invocation.maxAttempts
  let known := attempts ++ [attemptEvidence.update
    (delayEvidence delay eligible (if last then "deferred" else "scheduled"))]
  let deferred := delayEvidence delay eligible "deferred"
  let observedAt : ℚ ← ask (.monotonic .throttled)
  let resumes := Float64.add observedAt (Float64.nearest (delay.delayMs / 1000))
  let observed : Option Unit ← ask (.observeThrottle observedAt resumes)
  match observed with
  | none => raiseModel (coordinatorUnavailable invocation known)
  | some () =>
    if last then
      raiseModel { error with
        providerMetadata :=
          failedMetadata invocation error.providerMetadata id attempt known httpEvidence evidence deferred }
    else if invocation.deadline ≤ resumes then
      raiseModel (deferredError (if error.code = "rate_limit" then "rate_limit_deferred" else "timeout")
        (failedMetadata invocation [] id attempt known httpEvidence evidence deferred))
    else do
      sleepFor delay.delayMs
      return known

/-- A failed attempt leaves its evidence, and the run goes on only after a recoverable one. -/
def failed (attempt : Nat) (attempts : Attempts) (evidence : Record) (outcome : Transported)
    (error : ModelInvocationError) : Adapter Attempts :=
  let response := responseOf outcome
  let id := failureRequestId texts error response
  match safeRateLimitEvidence texts response with
  | .error exception => escape exception
  | .ok httpEvidence =>
    let attemptEvidence := (Dict.update [
      ("attempt", .int attempt), ("code", .str error.code), ("requestId", optional id)] evidence).update httpEvidence
    if ¬ error.recoverable then
      let suppressed : Record := [("retryDecision", .str "suppressed")]
      raiseModel { error with
        providerMetadata := (failedMetadata invocation error.providerMetadata id attempt
          (attempts ++ [attemptEvidence.update suppressed]) httpEvidence evidence suppressed) }
    else retryLater invocation attempt attempts evidence httpEvidence attemptEvidence id error

/-- One attempt: a response, or the evidence with which the next attempt starts. -/
def runAttempt (fuel attempt : Nat) (attempts : Attempts) : Adapter (ModelResponse ⊕ Attempts) := do
  let (admission, evidence) ← admitAttempt invocation fuel attempts
  let outcome ← send invocation
  let result ← classify texts invocation attempt attempts admission evidence outcome
  match result with
  | .ok response => return .inl response
  | .error error => .inr <$> failed texts invocation attempt attempts evidence outcome error

def runAttempts (fuel : Nat) : Nat → Nat → Attempts → Adapter ModelResponse
  | 0, _, _ => escape .assertionError
  | left + 1, attempt, attempts => do
    let result ← runAttempt texts invocation fuel attempt attempts
    match result with
    | .inl response => return response
    | .inr attempts => runAttempts fuel left (attempt + 1) attempts

def invoke (fuel : Nat) : Adapter ModelResponse := runAttempts texts invocation fuel invocation.maxAttempts 1 []

end Loop

end Aep.OpenaiModelProvider
