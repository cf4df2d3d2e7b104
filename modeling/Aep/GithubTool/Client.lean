import Aep.Library.Program
import Aep.Library.Float64
import Aep.Library.Json

namespace Aep.GithubTool

inductive Classification where
  | provider
  | rateLimit
  | authentication
  | authorization
  | validation
  | ambiguousMutation
  deriving DecidableEq

def Classification.value : Classification → String
  | .provider => "PROVIDER"
  | .rateLimit => "RATE_LIMIT"
  | .authentication => "AUTHENTICATION"
  | .authorization => "AUTHORIZATION"
  | .validation => "VALIDATION"
  | .ambiguousMutation => "AMBIGUOUS_MUTATION"

structure ProviderError where
  classification : Classification
  message : String
  retryable : Bool := false
  requestId : Option String := none
  retryAfterMs : Option Int := none
  deriving DecidableEq

/-- What the client and what it calls raise. An exception of another class is known by its text. -/
inductive Raised where
  | timeout (message : String)
  | provider (error : ProviderError)
  | other (text : String)
  deriving DecidableEq

/-- The body of a response as json.loads reads it: not JSON, failing in another way, or a document. -/
inductive Content where
  | malformed
  | failing (text : String)
  | document (value : Json)

structure HttpResponse where
  status : Int
  headers : Dict String String
  body : Content

inductive Transported where
  | timeout
  | raised (text : String)
  | response (response : HttpResponse)

structure HttpRequest where
  method : String
  url : String
  token : String
  body : Option Record
  timeoutMs : Int

/-- Where a clock is read. -/
inductive Reading where
  | started
  | waiting
  | attempt
  | retry
  | operation
  | remaining
  | finished
  deriving DecidableEq

/-- The calls of an execution on its environment. -/
inductive Call where
  | clock (reading : Reading)
  /-- The runtime's own clock. -/
  | monotonic
  | utcnow
  | authorize
  /-- An installation token, which the token provider caches or fetches. -/
  | token (timeoutMs : Int)
  | discard (token : String)
  | request (request : HttpRequest)
  | waitRetry (milliseconds : Int)

def Call.Answer : Call → Type
  | .clock _ => ℚ
  | .monotonic => ℚ
  | .utcnow => String
  | .authorize => Except String Bool
  | .token _ => Except Raised String
  | .discard _ => Unit
  | .request _ => Transported
  | .waitRetry _ => Unit

abbrev Environment : Interface := ⟨Call, Call.Answer⟩

abbrev Prog (α : Type) : Type := Program Environment Raised α

/-- A part of a provider operation. It marks the start of a mutation, also when it raises then. -/
abbrev Run (α : Type) : Type := Body Environment Raised Bool α

def ask (call : Call) : Prog call.Answer := .call call .ret

structure Platform where
  casefold : String → String
  quote : String → String
  urlencode : List (String × String) → String
  /-- The milliseconds of a text in seconds: none where it is no number, an error where it is infinite. -/
  retryMilliseconds : String → Except Unit (Option Int)
  rstripSlash : String → String
  /-- A repository is an owner and a name. -/
  isRepository : String → Bool
  /-- The messages of the errors of a schema. -/
  violations : Json → String

structure GitHubAppConfig where
  owner : String
  repository : String
  authorizedBranchPrefix : String
  baseBranch : String
  apiUrl : String

def GitHubAppConfig.repositoryId (config : GitHubAppConfig) : String := config.owner ++ "/" ++ config.repository

def validationError (message : String) (requestId : Option String) : ProviderError :=
  { classification := .validation, message, requestId }

def ambiguousMutation (requestId : Option String) : ProviderError where
  classification := .ambiguousMutation
  message := "GitHub pull-request mutation outcome is unknown"
  requestId := requestId

section Responses

variable (platform : Platform)

def requestId (headers : Dict String String) : Option String :=
  (headers.find? fun header => platform.casefold header.1 = "x-github-request-id" ∧ header.2 ≠ "").map Prod.snd

def infinite : Raised := .other "cannot convert float infinity to integer"

/-- The first Retry-After header, within a minute. An infinite number of seconds is not caught. -/
def retryAfterMs (headers : Dict String String) : Except Raised (Option Int) :=
  match headers.find? fun header => platform.casefold header.1 = "retry-after" with
  | none => .ok none
  | some header =>
    match platform.retryMilliseconds header.2 with
    | .ok milliseconds => .ok (milliseconds.map fun found => min 60000 (max 0 found))
    | .error () => .error infinite

def rateLimited (headers : Dict String String) : Bool :=
  headers.any fun header => platform.casefold header.1 = "x-ratelimit-remaining" ∧ header.2 = "0"

def providerError (response : HttpResponse) : Except Raised ProviderError := do
  let requestId := requestId platform response.headers
  let retryAfter ← retryAfterMs platform response.headers
  if response.status = 401 then
    pure { classification := .authentication, message := "GitHub App authentication failed", requestId }
  else if response.status = 429 ∨ rateLimited platform response.headers ∨
      (response.status = 403 ∧ retryAfter.isSome) then
    pure {
      classification := .rateLimit
      message := "GitHub rate limit exceeded"
      retryable := true
      requestId
      retryAfterMs := some (retryAfter.getD 1000) }
  else if response.status = 403 then
    pure { classification := .authorization, message := "GitHub App permission denied", requestId }
  else if response.status = 400 ∨ response.status = 404 ∨ response.status = 409 ∨ response.status = 422 then
    pure (validationError "GitHub rejected the bound request" requestId)
  else if 500 ≤ response.status then
    pure {
      classification := .provider
      message := "GitHub service is temporarily unavailable"
      retryable := true
      requestId
      retryAfterMs := retryAfter }
  else pure { classification := .provider, message := "GitHub provider request failed", requestId }

def providerFailure (message : String) : Raised := .provider { classification := .provider, message }

def jsonValue : Content → Except Raised Json
  | .malformed => .error (providerFailure "GitHub returned malformed JSON")
  | .failing text => .error (.other text)
  | .document value => .ok value

def jsonObject (body : Content) : Except Raised Record := do
  match ← jsonValue body with
  | .obj fields => pure fields
  | _ => .error (providerFailure "GitHub returned an invalid response shape")

def isInt : Json → Bool
  | .int _ | .bool _ => true
  | _ => false

def pullFields (value : Record) (head base : String) (requestId : Option String) : Except Raised Record :=
  if isInt (value.field "number") ∧ (value.field "html_url").isString then
    .ok [("number", value.field "number"), ("url", value.field "html_url"), ("head", .str head),
      ("base", .str base), ("requestId", requestId.elim .null .str)]
  else .error (providerFailure "GitHub pull-request response was invalid")

def pullResponse (value : Json) (head base : String) (requestId : Option String) : Except Raised Record :=
  match value.asRecord? with
  | some value => pullFields value head base requestId
  | none => .error (providerFailure "GitHub pull-request response was invalid")

end Responses

section Client

variable (platform : Platform) (config : GitHubAppConfig)

def deadlineExpired : Raised := .timeout "GitHub operation deadline expired"

def remainingMs (deadline : ℚ) : Prog Int := do
  let now : ℚ ← ask (.clock .remaining)
  match Float64.truncProduct (Float64.sub deadline now) 1000 with
  | none => .raise infinite
  | some remaining => if remaining < 1 then .raise deadlineExpired else return remaining

def endpoint (suffix : String) : String :=
  platform.rstripSlash config.apiUrl ++ "/repos/" ++ platform.quote config.owner ++ "/" ++
    platform.quote config.repository ++ suffix

def token (timeoutMs : Int) : Prog String := do
  let found : Except Raised String ← ask (.token timeoutMs)
  Program.liftExcept found

def transported : Transported → Except Raised HttpResponse
  | .timeout => .error (.timeout "")
  | .raised text => .error (.other text)
  | .response response => .ok response

def send (method suffix token : String) (body : Option Record) (deadline : ℚ) (mutation : Bool) : Run HttpResponse := do
  let timeoutMs ← remainingMs deadline
  if mutation then Body.modify fun _ => true
  let outcome : Transported ← (ask (.request
    { method, url := endpoint platform config suffix, token, body, timeoutMs }) : Prog Transported)
  Body.check (transported outcome)

def rejected (method suffix token : String) (response : HttpResponse) : Run HttpResponse := do
  let error ← Body.check (providerError platform response)
  if response.status = 401 then
    let _ ← (ask (.discard token) : Prog Unit)
  if method = "POST" ∧ suffix = "/pulls" ∧ error.retryable then
    Body.fail (.provider (ambiguousMutation error.requestId))
  else Body.fail (.provider error)

def api (method suffix : String) (body : Option Record) (deadline : ℚ) (mutation : Bool) : Run HttpResponse := do
  let timeoutMs ← remainingMs deadline
  let token ← token timeoutMs
  Body.tryCatch (send platform config method suffix token body deadline mutation) fun
    | .error (.timeout _) => Body.fail (.timeout "GitHub request timed out")
    | .error _ =>
      if mutation then Body.fail (.provider (ambiguousMutation none))
      else Body.fail (.provider { classification := .provider, message := "GitHub transport failed", retryable := true })
    | .ok response =>
      if response.status < 200 ∨ 300 ≤ response.status then rejected platform method suffix token response
      else return response

def loginOf (user : Json) : Json := user.asRecord?.elim .null fun fields => fields.field "login"

def labelNames (labels : List Json) : List Json :=
  labels.filterMap fun label => (label.asRecord?.map fun fields => fields.field "name").filter Json.isString

/-- The elements of a list, or what iterating over anything else gives: the keys of an object or letters, none of
    which is a mapping, or an exception. -/
def iterateLabels : Json → Except Raised (List Json)
  | .arr items => .ok items
  | .obj _ | .str _ => .ok []
  | value => .error (.other (value.repr ++ " is not iterable"))

def readIssue (issueNumber : String) (deadline : ℚ) : Run Record := do
  let response ← api platform config "GET" ("/issues/" ++ issueNumber) none deadline false
  let value ← Body.check (jsonObject response.body)
  let labels ← Body.check (iterateLabels ((value.get? "labels").getD (.arr [])))
  return [("number", value.field "number"), ("title", value.field "title"), ("body", value.field "body"),
    ("state", value.field "state"), ("url", value.field "html_url"), ("author", loginOf (value.field "user")),
    ("labels", .arr (labelNames labels)), ("requestId", (requestId platform response.headers).elim .null .str)]

def pullsQuery (head base : String) : String :=
  "/pulls?" ++ platform.urlencode [("state", "all"), ("head", config.owner ++ ":" ++ head), ("base", base),
    ("per_page", "2")]

def createPull (head base title body : String) (deadline : ℚ) : Run Record := do
  let response ← api platform config "POST" "/pulls"
    (some [("head", .str head), ("base", .str base), ("title", .str title), ("body", .str body)]) deadline true
  match jsonObject response.body >>= fun value => pullFields value head base (requestId platform response.headers) with
  | .ok pull => return pull
  | .error _ => Body.fail (.provider (ambiguousMutation (requestId platform response.headers)))

def createOrReconcile (head base title body : String) (deadline : ℚ) : Run Record := do
  let response ← api platform config "GET" (pullsQuery platform config head base) none deadline false
  let existing ← Body.check (jsonValue response.body)
  match existing with
  | .arr [] => createPull platform config head base title body deadline
  | .arr [pull] => Body.check (pullResponse pull head base (requestId platform response.headers))
  | .arr _ => Body.fail (.provider
      (validationError "multiple pull requests match the authorized publication target" none))
  | _ => Body.fail (providerFailure "GitHub pull-request reconciliation response was invalid")

def authorizationError (message : String) : Raised := .provider { classification := .authorization, message }

def requireRepository (repository : String) : Except Raised Unit :=
  if platform.casefold repository ≠ platform.casefold config.repositoryId then
    .error (authorizationError "repository differs from the GitHub App binding")
  else .ok ()

def startReadIssue (repository issueNumber : String) : Except Raised (ℚ → Run Record) := do
  requireRepository platform config repository
  pure (readIssue platform config issueNumber)

def startCreatePullRequest (repository head base title body : String) : Except Raised (ℚ → Run Record) := do
  requireRepository platform config repository
  if ¬config.authorizedBranchPrefix.toList.isPrefixOf head.toList ∨ head = config.authorizedBranchPrefix then
    .error (authorizationError "pull-request head is outside the authorized execution branch scope")
  else if base ≠ config.baseBranch then
    .error (.provider (validationError "pull-request base does not match the bound repository" none))
  else pure (createOrReconcile platform config head base title body)

end Client

end Aep.GithubTool
