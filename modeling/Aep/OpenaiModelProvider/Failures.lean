import Aep.Library.Json
import Aep.Library.Float64
import Aep.Library.Isoformat
import Mathlib.Data.List.Sort

namespace Aep.OpenaiModelProvider

inductive ModelErrorClass where
  | recoverable
  | permanent
  deriving DecidableEq

/-- Normalized provider failure used by orchestration retry decisions. -/
structure ModelInvocationError where
  message : String
  classification : ModelErrorClass
  code : String
  providerMetadata : Record := []

def ModelInvocationError.recoverable (error : ModelInvocationError) : Bool := error.classification = .recoverable

/-- The other exceptions that leave the adapter. -/
inductive Exception where
  | valueError
  | typeError
  | overflowError
  | coordinatorStateError
  | assertionError
  deriving DecidableEq

inductive Raised where
  | model (error : ModelInvocationError)
  | escaped (exception : Exception)

/-- A document that json.loads refuses, or one with an integer of too many digits, for which it raises a plain
    ValueError. -/
inductive LoadFault where
  | malformed
  | digits

structure TextFunctions where
  loadBytes : List UInt8 → Except LoadFault Json
  loadText : String → Except LoadFault Json
  /-- The finite double that a text reads as. -/
  finiteFloat : String → Option ℚ
  integer : String → Option Int
  casefold : String → String
  strip : String → String
  sha256 : String → String
  /-- Whether a value is shallow enough to copy. -/
  copies : Json → Bool

structure ProviderHttpResponse where
  status : Int
  headers : Dict String String
  body : List UInt8

section Failures

def failureMessages : Dict String String := [
  ("timeout", "model provider request timed out"),
  ("rate_limit", "model provider rate limit exceeded"),
  ("provider_unavailable", "model provider is unavailable"),
  ("authentication", "model provider authentication failed"),
  ("authorization", "model provider authorization failed"),
  ("quota", "model provider quota is exhausted"),
  ("billing", "model provider billing action is required"),
  ("invalid_request", "model provider rejected an invalid request"),
  ("unsupported_model", "model provider model is unsupported"),
  ("provider_error", "model provider rejected the request")]

def failure (code : String) (classification : ModelErrorClass) (metadata : Record) : ModelInvocationError :=
  ⟨(failureMessages.get? code).getD "", classification, code, metadata⟩

def optional : Option String → Json
  | some value => .str value
  | none => .null

def malformed (requestId model : Option String) : ModelInvocationError where
  message := "model provider returned a malformed structured response"
  classification := .permanent
  code := "malformed_response"
  providerMetadata :=
    [("provider", .str "openai"), ("requestId", optional requestId)] ++
      match model with
      | some requested => [("requestedModel", .str requested)]
      | none => []

def responseMetadata (requestedModel providerModel : String) (requestId : Option String) (finishReason : String) :
    Record := [
  ("provider", .str "openai"), ("requestedModel", .str requestedModel), ("providerModel", .str providerModel),
  ("requestId", optional requestId), ("finishReason", .str finishReason)]

def incompleteFailure (document : Record) (requestedModel providerModel : String) (requestId : Option String) :
    ModelInvocationError :=
  let reason := (document.field "incomplete_details").asRecord?.map fun details => details.field "reason"
  let metadata := responseMetadata requestedModel providerModel requestId
  if reason = some (.str "content_filter") then
    ⟨"model provider filtered the structured response", .permanent, "safety_refusal", metadata "content_filter"⟩
  else if reason = some (.str "max_output_tokens") then
    ⟨"model provider exhausted the configured output token limit", .permanent, "output_token_limit",
      metadata "max_output_tokens"⟩
  else
    ⟨"model provider returned an incomplete response", .recoverable, "incomplete_response", metadata "incomplete"⟩

end Failures

section Identifiers

variable (texts : TextFunctions)

def safeProviderId (value : Json) : Option String :=
  value.asString?.bind fun id => if id = "" then none else some ("redacted:sha256:" ++ texts.sha256 id)

def requestId (headers : Dict String String) : Option String :=
  (headers.find? fun header => texts.casefold header.1 ∈ ["x-request-id", "request-id"]).bind fun header =>
    safeProviderId texts (.str header.2)

end Identifiers

section Reasons

variable (texts : TextFunctions)

def reasonMappings : Dict String (String × String) := [
  ("insufficient_quota", "quota", "quota"),
  ("billing_hard_limit_reached", "billing", "billing"),
  ("invalid_api_key", "authentication", "access"),
  ("authentication_error", "authentication", "access"),
  ("permission_denied", "authorization", "access"),
  ("invalid_request_error", "invalid_request", "request"),
  ("context_length_exceeded", "invalid_request", "tokens"),
  ("model_not_found", "unsupported_model", "model"),
  ("unsupported_model", "unsupported_model", "model"),
  ("tokens", "temporary_throttle", "tokens"),
  ("requests", "temporary_throttle", "requests"),
  ("rate_limit_exceeded", "temporary_throttle", "unknown")]

def errorOf (body : List UInt8) : Except Exception (Option Record) :=
  match texts.loadBytes body with
  | .error .malformed => .ok none
  | .error .digits => .error .valueError
  | .ok document => .ok (document.asRecord?.bind fun fields => (fields.field "error").asRecord?)

def providerErrorReason (body : List UInt8) : Except Exception (Option String × String) := do
  match ← errorOf texts body with
  | none => .ok (none, "unknown")
  | some error =>
    let values := [error.field "type", error.field "code"]
    if values.all Json.isHashable then
      let known := (values.filterMap Json.asString?).insertionSort (· ≤ ·)
      match known.findSome? reasonMappings.get? with
      | some (reason, scope) => .ok (some reason, scope)
      | none => .ok (none, "unknown")
    else .error .typeError

def schemaParameterPrefixes : List String := ["text.format.schema", "response_format.json_schema.schema"]

def structuralSegments : List String := ["properties", "items", "required", "anyOf", "oneOf", "allOf", "$defs"]

def isSegment (segment : List Char) : Bool :=
  segment ≠ [] && segment.all fun c => c.isAlphanum || c ∈ ['_', '$', '-']

def renderSegments (redactNext : Bool) : List (List Char) → Option (List String)
  | [] => if redactNext then none else some []
  | segment :: rest =>
    if ¬ isSegment segment then none
    else if redactNext then (renderSegments false rest).map ("<redacted>" :: ·)
    else if String.ofList segment ∈ structuralSegments ∨ segment.all Char.isDigit then
      (renderSegments (String.ofList segment ∈ ["properties", "$defs"]) rest).map (String.ofList segment :: ·)
    else none

def safeSchemaParameter (value : Json) : Option String := do
  let text ← value.asString?
  let chosen ← schemaParameterPrefixes.find? fun candidate =>
    text = candidate ∨ (candidate ++ ".").toList.isPrefixOf text.toList
  let remainder := text.toList.drop (chosen.length + 1)
  if remainder = [] then some chosen
  else (renderSegments false (remainder.splitOn '.')).map fun rendered => String.intercalate "." (chosen :: rendered)

/-- Fixed classifications and a sanitized schema parameter of an invalid request. -/
def safeInvalidRequestEvidence (body : List UInt8) : Except Exception Record := do
  match ← errorOf texts body with
  | none => .ok []
  | some error =>
    let code := error.field "code"
    if ¬ code.isHashable then .error .typeError
    else
      let coded := code = .str "invalid_json_schema" ∨ code = .str "invalid_response_format"
      let parameter := safeSchemaParameter (error.field "param")
      if ¬ coded ∧ parameter = none then .ok []
      else .ok (
        [("providerErrorReason", .str "invalid_response_format")] ++
        (if error.field "type" = .str "invalid_request_error" then
          [("providerErrorType", .str "invalid_request_error")] else []) ++
        (if coded then [("providerErrorCode", code)] else []) ++
        match parameter with
        | some path => [("schemaParameter", .str path)]
        | none => [])

def permanentReasons : List String :=
  ["quota", "billing", "authentication", "authorization", "invalid_request", "unsupported_model"]

/-- A throttled request is recoverable unless the body gives a permanent reason. -/
def throttled (reason : Option String) (scope : String) : ModelInvocationError :=
  match reason.filter (· ∈ permanentReasons) with
  | some permanent =>
    failure permanent .permanent [("httpStatus", .int 429), ("providerErrorReason", .str permanent)]
  | none =>
    failure "rate_limit" .recoverable [
      ("httpStatus", .int 429), ("providerErrorReason", .str (reason.getD "temporary_throttle")),
      ("rateLimitScope", .str scope)]

def httpFailure (response : ProviderHttpResponse) : Except Exception (Option ModelInvocationError) := do
  let status := response.status
  if 200 ≤ status ∧ status < 300 then .ok none
  else if status = 429 then
    let (reason, scope) ← providerErrorReason texts response.body
    .ok (some (throttled reason scope))
  else if status = 408 ∨ status = 409 ∨ 500 ≤ status then
    .ok (some (failure "provider_unavailable" .recoverable []))
  else if status = 401 then .ok (some (failure "authentication" .permanent [("httpStatus", .int 401)]))
  else if status = 403 then .ok (some (failure "authorization" .permanent [("httpStatus", .int 403)]))
  else if status = 400 then
    let details ← safeInvalidRequestEvidence texts response.body
    if details.isEmpty then .ok (some (failure "provider_error" .permanent []))
    else .ok (some (failure "invalid_request" .permanent (("httpStatus", .int 400) :: details)))
  else .ok (some (failure "provider_error" .permanent []))

end Reasons

section Hints

variable (texts : TextFunctions)

def parsedRetryAfterMs (value : String) : Option Int :=
  ((texts.finiteFloat value).bind fun seconds => Float64.roundProduct seconds 1000).map (max 0)

def integerHint (value : String) : Option Int := (texts.integer value).filter (0 ≤ ·)

def withoutSuffix (suffix text : String) : Option String :=
  if suffix.toList.isSuffixOf text.toList then
    some (String.ofList (text.toList.take (text.toList.length - suffix.toList.length)))
  else none

/-- A duration in seconds, or in milliseconds where it says so. Its product with 1000 may be infinite, which has no
    nearest integer. -/
def numericHintMs (value : String) : Except Exception (Option Int) :=
  let normalized := texts.casefold (texts.strip value)
  let (number, multiplier) := match withoutSuffix "ms" normalized, withoutSuffix "s" normalized with
    | some number, _ => (number, 1)
    | none, some number => (number, 1000)
    | none, none => (normalized, 1000)
  match (texts.finiteFloat number).filter (0 ≤ ·) with
  | none => .ok none
  | some parsed =>
    match Float64.roundProduct parsed multiplier with
    | none => .error .overflowError
    | some rounded => .ok (some rounded)

def headerFields : Dict String String := [
  ("x-ratelimit-limit-requests", "limitRequests"),
  ("x-ratelimit-remaining-requests", "remainingRequests"),
  ("x-ratelimit-limit-tokens", "limitTokens"),
  ("x-ratelimit-remaining-tokens", "remainingTokens"),
  ("x-ratelimit-reset-requests", "resetRequestsMs"),
  ("x-ratelimit-reset-tokens", "resetTokensMs")]

def hint (field raw : String) : Except Exception (Option Int) :=
  if field ∈ ["resetRequestsMs", "resetTokensMs"] then numericHintMs texts raw else .ok (integerHint texts raw)

/-- The evidence with what the headers say, the last header of a field counting. -/
def addHeaders (evidence : Record) : List (String × String) → Except Exception Record
  | [] => .ok evidence
  | (key, raw) :: rest =>
    match headerFields.get? (texts.casefold key) with
    | none => addHeaders evidence rest
    | some field => do
      match ← hint texts field raw with
      | none => addHeaders evidence rest
      | some parsed => addHeaders (evidence.set field (.int parsed)) rest

def retryAfterHeader (headers : Dict String String) : Option String :=
  (headers.find? fun header => texts.casefold header.1 = "retry-after").map Prod.snd

def retryAfterEvidence (status : Int) (header : Option String) : Record :=
  let evidence : Record := [("httpStatus", .int status), ("retryAfterReceived", .bool header.isSome)]
  match header.bind (parsedRetryAfterMs texts) with
  | some delay => evidence.set "retryAfterMs" (.int delay)
  | none => evidence

def carry (key : String) (metadata evidence : Record) : Record :=
  match metadata.get? key with
  | some value => evidence.set key value
  | none => evidence

def safeRateLimitEvidence : Option ProviderHttpResponse → Except Exception Record
  | none => .ok []
  | some response => do
    let base := retryAfterEvidence texts response.status (retryAfterHeader texts response.headers)
    let evidence ← addHeaders texts base response.headers
    match ← httpFailure texts response with
    | none => .ok evidence
    | some failure =>
      .ok (carry "rateLimitScope" failure.providerMetadata
        (carry "providerErrorReason" failure.providerMetadata evidence))

end Hints

section Delays

/-- A recoverable failure waits for at most a minute without a hint of the provider. -/
def MAX_BACKOFF_MS : Int := 60000

def backoffMs (baseMs attempt : Nat) (jitter : Option ℚ) : Int :=
  let safeJitter := min 1 (max 0 (jitter.getD 0))
  let exponential := min MAX_BACKOFF_MS (baseMs * 2 ^ (attempt - 1))
  let factor := Float64.add 1 (Float64.nearest (safeJitter / 2))
  min MAX_BACKOFF_MS (Float64.roundHalfEven (Float64.nearest (exponential * factor)))

/-- The instant a delay after now, in UTC. There is none outside the years 1 to 9999. -/
def futureTimestamp (now delayMs : Int) : Option String :=
  let later := now + delayMs * 1000
  if 0 ≤ now ∧ now < Timestamp.limit ∧ 0 ≤ later ∧ later < Timestamp.limit then
    some (Timestamp.isoMilliseconds later.toNat)
  else none

def remainingMs (deadline now : ℚ) : Option Int := Float64.roundProduct (Float64.sub deadline now) 1000

theorem before_deadline {deadline now : ℚ} {remaining : Int} (found : remainingMs deadline now = some remaining)
    (positive : ¬ remaining < 1) : now < deadline := by
  by_contra late
  have elapsed : Float64.sub deadline now ≤ 0 := Float64.nearest_nonpos (by linarith)
  have nothing := Float64.roundProduct_nonpos elapsed (by norm_num) found
  omega

end Delays

end Aep.OpenaiModelProvider
