import Aep.GithubTool.Execution
import Aep.Library.RelyGuarantee

namespace Aep.GithubTool.TokenProvider

/-- An expiry as datetime reads it: a time in microseconds, a ValueError or an error of another class. -/
inductive Expiry where
  | time (microseconds : Int)
  | invalid
  | failing (text : String)

/-- What the provider leaves to Python's standard library as well. -/
structure TokenPlatform extends Platform where
  expiry : String → Expiry
  /-- An exception that is no Exception, such as an interrupt. -/
  exits : Raised → Bool

structure TokenConfig extends GitHubAppConfig where
  appId : Int
  tokenRefreshSkew : Nat

structure Token where
  value : String
  expiresAt : Int
  installationId : Int
  deriving DecidableEq

structure Provider where
  refreshing : Bool := false
  token : Option Token := none
  installationId : Option Int := none

/-- What the first part of token comes to, as far as it holds the lock. -/
inductive Entry where
  | waiting
  | cached (token : Token) (now : Int)
  | refresh

inductive Call where
  | monotonic
  | now
  /-- Read the private key, and sign with it. -/
  | sign (issuedAt : Int)
  | request (request : HttpRequest)
  | enter (deadline : ℚ)
  | installation
  | record (installation : Int)
  | invalidate (expected : Option Int)
  | clear
  | keep (token : Token)
  | discard (value : Option String)

def Call.Answer : Call → Type
  | .monotonic => Except Raised ℚ
  | .now => Except Raised Int
  | .sign _ => Except Raised String
  | .request _ => Except Raised HttpResponse
  | .enter _ => Except Raised Entry
  | .installation => Option Int
  | .record _ => Int
  | .invalidate _ => Unit
  | .clear => Unit
  | .keep _ => Except Raised String
  | .discard _ => Unit

abbrev Calls : Interface := ⟨Call, Call.Answer⟩

abbrev Prog (α : Type) : Type := Program Calls Raised α

def ask (call : Call) : Prog call.Answer := .call call .ret

def obtainAnswer {α : Type} (program : Prog (Except Raised α)) : Prog α := do
  Program.liftExcept (← program)

def monotonic : Prog ℚ := obtainAnswer (ask .monotonic)

def now : Prog Int := obtainAnswer (ask .now)

section Requests

variable (platform : TokenPlatform) (config : TokenConfig)

def tooLong : Raised := .other "integer division result too large for a float"

def deadlineOf (start : ℚ) (timeoutMs : Int) : Except Raised ℚ :=
  if Float64.isFinite (seconds timeoutMs) then .ok (Float64.add start (seconds timeoutMs)) else .error tooLong

def remainingMs (deadline : ℚ) : Prog Int := do
  let now ← monotonic
  match Float64.truncProduct (Float64.sub deadline now) 1000 with
  | none => .raise infinite
  | some remaining => if remaining < 1 then .raise deadlineExpired else return remaining

def appJwt : Prog String := do
  let now ← now
  obtainAnswer (ask (.sign (now.tdiv 1000000)))

def timedOut : Raised → Raised
  | .timeout _ => .timeout "GitHub authentication request timed out"
  | error => error

def accepted (response : HttpResponse) : Except Raised HttpResponse :=
  if response.status < 200 ∨ 300 ≤ response.status then do
    let error ← providerError platform.toPlatform response
    .error (.provider error)
  else .ok response

def request (method path bearer : String) (body : Option Record) (timeoutMs : Int) : Prog HttpResponse := do
  let outcome : Except Raised HttpResponse ←
    ask (.request { method, url := platform.rstripSlash config.apiUrl ++ path, token := bearer, body, timeoutMs })
  Program.liftExcept (outcome.mapError timedOut >>= accepted platform)

def appRequest (method path : String) (body : Option Record) (deadline : ℚ) : Prog HttpResponse := do
  let bearer ← appJwt
  let timeoutMs ← remainingMs deadline
  request platform config method path bearer body timeoutMs

def installationPath : String :=
  "/repos/" ++ platform.quote config.owner ++ "/" ++ platform.quote config.repository ++ "/installation"

def accessTokensPath (installation : Int) : String :=
  "/app/installations/" ++ toString installation ++ "/access_tokens"

def asInt? : Json → Option Int
  | .int value => some value
  | .bool value => some value.toInt
  | _ => none

def installationOf (fields : Record) : Except Raised Int :=
  match asInt? (fields.field "id") with
  | some value =>
    if value < 1 then .error (providerFailure "GitHub installation response was invalid") else .ok value
  | none => .error (providerFailure "GitHub installation response was invalid")

def expiryOf (expires : String) : Except Raised Int :=
  match platform.expiry expires with
  | .time microseconds => .ok microseconds
  | .invalid => .error (providerFailure "GitHub token expiry was invalid")
  | .failing text => .error (.other text)

def tokenOf (installation : Int) (payload : Record) : Except Raised Token :=
  match (payload.field "token").asString?, (payload.field "expires_at").asString? with
  | some value, some expires =>
    if value = "" then .error (providerFailure "GitHub token response was invalid")
    else do
      let expiresAt ← expiryOf platform expires
      pure ⟨value, expiresAt, installation⟩
  | _, _ => .error (providerFailure "GitHub token response was invalid")

def isRejection : Raised → Bool
  | .provider error =>
    error.classification = .authentication ∨ error.classification = .authorization ∨ error.classification = .validation
  | _ => false

end Requests

section Operations

variable (platform : TokenPlatform) (config : TokenConfig)

def invalidateWhere (condition : Bool) (expected : Option Int) : Prog Unit :=
  if condition then ask (.invalidate expected) else return ()

def fetchInstallation (deadline : ℚ) (revalidate : Bool) (previous : Option Int) : Prog Int := do
  let outcome : Except Raised HttpResponse ←
    Program.attempt (appRequest platform config "GET" (installationPath platform config) none deadline)
  match outcome with
  | .error error => do
    invalidateWhere (revalidate && !platform.exits error) previous
    .raise error
  | .ok response => do
    let value ← Program.liftExcept (jsonObject response.body >>= installationOf)
    ask (.record value)

def resolveInstallation (deadline : ℚ) (revalidate : Bool) : Prog Int := do
  let recorded : Option Int ← ask .installation
  match recorded, revalidate with
  | some installation, false => return installation
  | previous, revalidate => fetchInstallation platform config deadline revalidate previous

def unexpired (token : Token) (now : Int) : Except Raised Token :=
  if token.expiresAt ≤ now then .error (providerFailure "GitHub returned an expired installation token")
  else .ok token

def fetchToken (deadline : ℚ) (installation : Int) : Prog Token := do
  let outcome : Except Raised HttpResponse ← Program.attempt (appRequest platform config "POST"
    (accessTokensPath installation) (some [("repositories", .arr [.str config.repository])]) deadline)
  match outcome with
  | .error error => do
    invalidateWhere (isRejection error) (some installation)
    .raise error
  | .ok response => do
    let token ← Program.liftExcept (jsonObject response.body >>= tokenOf platform installation)
    let now ← now
    Program.liftExcept (unexpired token now)

def refresh (deadline : ℚ) : Prog Token := do
  let installation ← resolveInstallation platform config deadline false
  fetchToken platform config deadline installation

/-- What a call of the provider comes to. One that is not followed any further is still waiting. -/
inductive Reply where
  | token (value : String)
  | discarded
  | ready (report : Record)
  | unfollowed
  deriving DecidableEq

def refreshToken (deadline : ℚ) : Prog Reply := do
  let result : Except Raised Token ← Program.attempt (refresh platform config deadline)
  let _ : Unit ← ask .clear
  let token ← Program.liftExcept result
  let value ← obtainAnswer (ask (.keep token))
  return .token value

/-- The loop in which token waits for the refresh of another thread, followed for a number of rounds. -/
def enter (deadline : ℚ) : Nat → Prog Reply
  | 0 => return .unfollowed
  | rounds + 1 => do
    let entry ← obtainAnswer (ask (.enter deadline))
    match entry with
    | .waiting => enter deadline rounds
    | .cached token _ => return .token token.value
    | .refresh => refreshToken platform config deadline

def token (rounds : Nat) (timeoutMs : Int) : Prog Reply :=
  if timeoutMs < 1 then .raise (providerFailure "GitHub token timeout must be positive")
  else do
    let start ← monotonic
    let deadline ← Program.liftExcept (deadlineOf start timeoutMs)
    enter platform config deadline rounds

def discard (value : Option String) : Prog Reply := do
  let _ : Unit ← ask (.discard value)
  return .discarded

def readinessReport (installation : Int) : Record :=
  [("status", .str "READY"), ("provider", .str "github-app"), ("repository", .str config.repositoryId),
    ("appId", .int config.appId), ("installationId", .int installation), ("baseBranch", .str config.baseBranch),
    ("authorizedBranchPrefix", .str config.authorizedBranchPrefix)]

def readiness (timeoutMs : Int) : Prog Reply :=
  if timeoutMs < 1 then .raise (providerFailure "GitHub readiness timeout must be positive")
  else do
    let start ← monotonic
    let deadline ← Program.liftExcept (deadlineOf start timeoutMs)
    let installation ← resolveInstallation platform config deadline true
    return .ready (readinessReport config installation)

inductive Asked where
  | token (timeoutMs : Int)
  | discard (value : Option String)
  | readiness (timeoutMs : Int)

def Asked.program (rounds : Nat) : Asked → Prog Reply
  | .token timeoutMs => TokenProvider.token platform config rounds timeoutMs
  | .discard value => TokenProvider.discard value
  | .readiness timeoutMs => TokenProvider.readiness platform config timeoutMs

end Operations

def providerTimeout : Raised := .timeout "GitHub token refresh exceeded the operation deadline"

def datetimeMin : Int := -62135596800000000

def outOfRange : Raised := .other "date value out of range"

/-- What clocks, secrets, the transport and the operating system answer a thread with. -/
structure Outside where
  monotonic : Except Raised ℚ
  now : Except Raised Int
  wait : Except Raised Unit
  signature : Except Raised String
  response : Except Raised HttpResponse

section Locked

variable (skew : Nat) (outside : Outside)

def current (now : Int) : Option Token → Except Raised Entry
  | none => .ok .refresh
  | some token =>
    if token.expiresAt - skew < datetimeMin then .error outOfRange
    else if now < token.expiresAt - skew then .ok (.cached token now)
    else .ok .refresh

def Provider.entry (deadline : ℚ) (provider : Provider) : Except Raised Entry :=
  if provider.refreshing then do
    let now ← outside.monotonic
    if Float64.sub deadline now ≤ 0 then .error providerTimeout
    else do
      let () ← outside.wait
      pure .waiting
  else do
    let now ← outside.now
    current skew now provider.token

def Provider.enter (deadline : ℚ) (provider : Provider) : Except Raised Entry × Provider :=
  match provider.entry skew outside deadline with
  | .ok .refresh => (.ok .refresh, { provider with refreshing := true })
  | answer => (answer, provider)

def Provider.record (installation : Int) (provider : Provider) : Provider :=
  if provider.installationId ≠ some installation then
    { provider with installationId := some installation, token := none }
  else provider

def Provider.invalidate (expected : Option Int) (provider : Provider) : Provider :=
  if expected = none ∨ provider.installationId = expected then { provider with installationId := none, token := none }
  else provider

def installationChanged : Raised :=
  .provider { classification := .provider, message := "GitHub installation changed during token refresh", retryable := true }

def Provider.keep (token : Token) (provider : Provider) : Except Raised String × Provider :=
  if provider.installationId ≠ some token.installationId then (.error installationChanged, provider)
  else (.ok token.value, { provider with token := some token })

def Provider.discard (value : Option String) (provider : Provider) : Provider :=
  match provider.token with
  | some token => if value = none ∨ some token.value = value then { provider with token := none } else provider
  | none => provider

end Locked

deriving instance DecidableEq for Content, HttpResponse, HttpRequest

/-- What has happened to a provider. -/
inductive Event where
  | answered (request : HttpRequest) (response : HttpResponse)
  /-- The recorded installation is another one from now on. -/
  | changed (installation : Option Int)
  /-- A thread returns a token while this installation is recorded, from the cache at the time that is given. -/
  | returned (thread : Nat) (token : Token) (recorded : Option Int) (cachedAt : Option Int)
  deriving DecidableEq

/-- A provider, the threads whose refresh is in flight and those that wait, and what has happened, latest first. -/
structure World where
  provider : Provider := {}
  active : List Nat := []
  waiting : List Nat := []
  history : List Event := []

namespace World

variable (skew : Nat) (outside : Outside) (thread : Nat)

def move (world : World) (provider : Provider) : World where
  provider
  active := world.active
  waiting := world.waiting
  history :=
    if provider.installationId = world.provider.installationId then world.history
    else .changed provider.installationId :: world.history

def entered (world : World) (entry : Except Raised Entry) (provider : Provider) : World where
  provider
  active := match entry with
    | .ok .refresh => thread :: world.active
    | _ => world.active
  waiting := match entry with
    | .ok .waiting => thread :: world.waiting
    | _ => world.waiting
  history := match entry with
    | .ok (.cached token now) => .returned thread token provider.installationId (some now) :: world.history
    | _ => world.history

def answered (world : World) (request : HttpRequest) : Except Raised HttpResponse → World
  | .ok response => { world with history := .answered request response :: world.history }
  | .error _ => world

def kept (world : World) (token : Token) (kept : Except Raised String × Provider) : World where
  provider := kept.2
  active := world.active
  waiting := world.waiting
  history := match kept.1 with
    | .ok _ => .returned thread token kept.2.installationId none :: world.history
    | .error _ => world.history

def respond (world : World) : (call : Call) → call.Answer × World
  | .monotonic => (outside.monotonic, world)
  | .now => (outside.now, world)
  | .sign _ => (outside.signature, world)
  | .request request => (outside.response, world.answered request outside.response)
  | .enter deadline =>
    let (entry, provider) := world.provider.enter skew outside deadline
    (entry, world.entered thread entry provider)
  | .installation => (world.provider.installationId, world)
  | .record installation => (installation, world.move (world.provider.record installation))
  | .invalidate expected => ((), world.move (world.provider.invalidate expected))
  | .clear => ((), { world with
      provider := { world.provider with refreshing := false }, active := world.active.erase thread, waiting := [] })
  | .keep token => ((world.provider.keep token).1, world.kept thread token (world.provider.keep token))
  | .discard value => ((), world.move (world.provider.discard value))

end World

/-- The calls of threads on one provider, each answered in any way that the outside may answer. -/
def machine (skew : Nat) : Machine Calls World where
  exec thread world call answer next := ∃ outside : Outside, world.respond skew outside thread call = (answer, next)
  foreign _ _ := False

abbrev Config : Type := Machine.Config Calls World Raised Reply

abbrev Reaches (skew : Nat) : Config → Config → Prop := (machine skew).Reaches fun _ _ _ => True

abbrev Step (skew : Nat) : Config → Config → Prop := (machine skew).Step fun _ _ _ => True

def start (platform : TokenPlatform) (config : TokenConfig) (rounds : Nat → Nat) (asked : Nat → Asked) : Config where
  shared := {}
  threads i := (asked i).program platform config (rounds i)

section Properties

variable (platform : TokenPlatform) (config : TokenConfig)

def Issued (history : List Event) (token : Token) : Prop :=
  ∃ request response payload, Event.answered request response ∈ history ∧ request.method = "POST" ∧
    request.url = platform.rstripSlash config.apiUrl ++ accessTokensPath token.installationId ∧
      200 ≤ response.status ∧ response.status < 300 ∧ jsonObject response.body = .ok payload ∧
        tokenOf platform token.installationId payload = .ok token

structure Justified (earlier : List Event) (token : Token) (recorded cachedAt : Option Int) : Prop where
  recorded : recorded = some token.installationId
  issued : Issued platform config earlier token
  fresh : ∀ now, cachedAt = some now → now + config.tokenRefreshSkew < token.expiresAt

def AllJustified (history : List Event) : Prop :=
  ∀ thread token recorded cachedAt earlier, .returned thread token recorded cachedAt :: earlier <:+ history →
    Justified platform config earlier token recorded cachedAt

end Properties

end Aep.GithubTool.TokenProvider
