import Aep.Checkout.Registries
import Aep.Library.Program

namespace Aep.Checkout

structure Platform where
  hexdigest : String → String
  strip : String → String
  casefold : String → String

structure CheckoutRequest where
  executionId : String
  repository : RepositoryIdentity
  defaultBranch : String
  baseRevision : String
  knowledgeRevision : String

structure SourceRevision where
  cachePath : String
  repository : RepositoryIdentity
  revision : String

/-- What a repository source raises: a failure of its own with a code, or anything else. -/
inductive SourceError where
  | failure (code : String)
  | other

/-- How a process ends: with a return code and its output, or not at all. -/
inductive Process where
  | exited (returncode : Int) (stdout : String)
  | unavailable

/-- A credential lease, or none when the provider raised. Reading its environment may raise too. -/
structure Acquired where
  leased : Bool
  environment : Option (List (String × String))

/-- How often a source took the mutation lease and how many heartbeats each time had, and how it ended. -/
structure Materialized where
  mutations : List Nat
  result : Except SourceError SourceRevision

/-- The calls of a manager that another worker or a crash can come in between. -/
inductive Effect where
  | clock
  | uuid4
  | registry (operation : Operation)
  | acquire (repository : RepositoryIdentity)
  | closeLease
  | materialize (repository : RepositoryIdentity) (defaultBranch expectedRevision cachePath : String)
      (credentials : List (String × String))
  | resolve (path : String)
  | exist (path : String)
  | isDir (path : String)
  | makeParent (path : String)
  | git (repository : String) (arguments : List String)
  /-- How many more heartbeats there are. -/
  | heartbeats

def Effect.Answer : Effect → Type
  | .clock => Option Datetime
  | .uuid4 => String
  | .registry _ => Reply
  | .acquire _ => Acquired
  | .closeLease => Unit
  | .materialize .. => Materialized
  | .resolve _ => String
  | .exist _ => Bool
  | .isDir _ => Bool
  | .makeParent _ => Bool
  | .git .. => Process
  | .heartbeats => Nat

abbrev Effects : Interface := ⟨Effect, Effect.Answer⟩

abbrev Prog (α : Type) : Type := Program Effects CheckoutError α

namespace Prog

def ask (effect : Effect) : Prog effect.Answer := .call effect .ret

def check {α : Type} (result : Except CheckoutError α) : Prog α := Program.liftExcept result

def fail {α : Type} (error : CheckoutError) : Prog α := .raise error

def checkoutOf : Reply → Prog ExecutionCheckout
  | .ok (.checkout record) => .ret record
  | .ok _ => .cut
  | .error error => .raise error

def foundOf : Reply → Prog (Option ExecutionCheckout)
  | .ok (.found record) => .ret record
  | .ok _ => .cut
  | .error error => .raise error

def fenceOf : Reply → Prog Int
  | .ok (.fence token) => .ret token
  | .ok _ => .cut
  | .error error => .raise error

def doneOf : Reply → Prog Unit
  | .ok .done => .ret ()
  | .ok _ => .cut
  | .error error => .raise error

def registry {α : Type} (operation : Operation) (read : Reply → Prog α) : Prog α := do
  let reply : Reply ← ask (.registry operation)
  read reply

end Prog

/-- The local variables of a call that its handlers still read when it raises. -/
structure Locals where
  claimed : ExecutionCheckout
  cacheFence : Option Int := none
  leased : Bool := false

abbrev Work (α : Type) : Type := Body Effects CheckoutError Locals α

namespace Work

def setClaimed (claimed : ExecutionCheckout) : Work Unit := Body.modify fun locals => { locals with claimed }

def setCacheFence (cacheFence : Int) : Work Unit := Body.modify fun locals => { locals with cacheFence := some cacheFence }

def setLeased (leased : Bool) : Work Unit := Body.modify fun locals => { locals with leased }

end Work

/-- The path lies under the root. Neither root is the file system's, since they do not overlap. -/
def isWithin (path root : String) : Bool := path = root ∨ (root ++ "/").toList.isPrefixOf path.toList

def requireChild (path root code : String) : Except CheckoutError Unit :=
  Result.raiseIf (path = root ∨ ¬isWithin path root)
    (configuration code "derived storage path escapes its configured root")

def persistedFailureMessage (error : CheckoutProvisionError) : String :=
  match error.classification with
  | .configuration => "execution checkout configuration failure"
  | .recoverable => "recoverable execution checkout operation failure"

def sourceFailure : String → Option CheckoutError
  | "unsafe_source_cache" => some (configuration "unsafe_source_cache" "repository source cache path is invalid")
  | "invalid_source_cache" =>
    some (configuration "invalid_source_cache" "repository source cache is not a trusted bare repository")
  | "source_identity_mismatch" =>
    some (configuration "source_identity_mismatch" "repository source identity does not match configuration")
  | "unsafe_source_credential_environment" =>
    some (configuration "unsafe_source_credential_environment"
      "repository source credentials contain an unsupported environment variable")
  | "missing_commit" =>
    some (configuration "missing_commit" "recorded revision is unavailable from the repository source")
  | "source_revision_invalid" =>
    some (recoverable "source_revision_invalid" "repository source returned invalid revision evidence")
  | "source_unavailable" => some (recoverable "source_unavailable" "repository source is unavailable")
  | "source_operation_failed" => some (recoverable "source_operation_failed" "repository source operation failed")
  | _ => none

def sourceBoundaryFailure : CheckoutError := recoverable "source_boundary_failure" "repository source boundary failed"

def normalizeSourceFailure : SourceError → CheckoutError
  | .failure code => (sourceFailure code).getD sourceBoundaryFailure
  | .other => sourceBoundaryFailure

def Datetime.plus (time : Datetime) (microseconds : Nat) : Except CheckoutError Datetime :=
  if within : time.wall + microseconds < Timestamp.limit then
    .ok { time with wall := time.wall + microseconds, inRange := within }
  else .error (.exception .overflowError)

structure ExecutionCheckoutManager where
  platform : Platform
  cacheRoot : String
  worktreeRoot : String
  claimTtl : Nat
  positive : 0 < claimTtl

section Git

def git (repository : String) (arguments : List String) : Prog String := do
  let process : Process ← Prog.ask (.git repository arguments)
  match process with
  | .unavailable => Prog.fail (recoverable "git_unavailable" "Git checkout operation was unavailable")
  | .exited returncode stdout =>
    if returncode = 0 then return stdout
    else Prog.fail (recoverable "git_operation_failed" "Git checkout operation failed")

def gitSucceeds (repository : String) (arguments : List String) : Prog Bool := do
  let process : Process ← Prog.ask (.git repository arguments)
  match process with
  | .unavailable => Prog.fail (.exception .otherException)
  | .exited returncode _ => return returncode = 0

def statusCommand : List String := ["status", "--porcelain=v1", "--untracked-files=all"]

variable (platform : Platform) (checkout : ExecutionCheckout)

def validateIdentity : Prog Unit := do
  let directory : Bool ← Prog.ask (.isDir checkout.workspacePath)
  if directory then do
    let toplevel ← git checkout.workspacePath ["rev-parse", "--show-toplevel"]
    let root : String ← Prog.ask (.resolve (platform.strip toplevel))
    let branch ← git checkout.workspacePath ["symbolic-ref", "--short", "HEAD"]
    Prog.check (Result.raiseIf (root ≠ checkout.workspacePath ∨ platform.strip branch ≠ checkout.branch)
      (configuration "checkout_identity_drift" "checkout path or branch differs from its recorded binding"))
  else Prog.fail (recoverable "checkout_missing" "recorded execution checkout is missing")

def validateInitial : Prog Unit := do
  validateIdentity platform checkout
  let head ← git checkout.workspacePath ["rev-parse", "HEAD"]
  Prog.check (Result.raiseIf (platform.casefold (platform.strip head) ≠ checkout.baseRevision)
    (configuration "revision_drift" "new checkout HEAD differs from recorded revision"))
  let status ← git checkout.workspacePath statusCommand
  Prog.check (Result.raiseIf (platform.strip status ≠ "")
    (configuration "dirty_checkout" "new checkout is not clean"))

def validateReady : Prog Unit := do
  validateIdentity platform checkout
  let descends ← gitSucceeds checkout.workspacePath ["merge-base", "--is-ancestor", checkout.baseRevision, "HEAD"]
  Prog.check (Result.raiseIf (¬descends)
    (configuration "revision_drift" "checkout no longer descends from its recorded base revision"))

def isInitial : Prog Bool := do
  let result : Except CheckoutError Unit ← Program.attempt (validateInitial platform checkout)
  match result with
  | .ok () => return true
  | .error (.provision _) => return false
  | .error error => Prog.fail error

def branchExists : Prog Bool :=
  gitSucceeds checkout.sourceCachePath ["show-ref", "--verify", "--quiet", "refs/heads/" ++ checkout.branch]

def removeWorktree : Prog Unit := do
  let _ ← git checkout.sourceCachePath ["worktree", "remove", "--", checkout.workspacePath]

def forceRemoveWorktree : Prog Unit := do
  let _ ← git checkout.sourceCachePath ["worktree", "remove", "--force", "--", checkout.workspacePath]

def deleteBranch : Prog Unit := do
  let _ ← git checkout.sourceCachePath ["branch", "-D", "--", checkout.branch]

def addWorktree : Prog Unit := do
  let _ ← git checkout.sourceCachePath
    ["worktree", "add", "-b", checkout.branch, "--", checkout.workspacePath, checkout.baseRevision]

def makeParent : Prog Unit := do
  let made : Bool ← Prog.ask (.makeParent checkout.workspacePath)
  Prog.check (Result.raiseIf (¬made) (.exception .otherException))

end Git

section Manager

variable (manager : ExecutionCheckoutManager)

def now : Prog Datetime := do
  let value : Option Datetime ← Prog.ask .clock
  match value with
  | none => Prog.fail (configuration "naive_clock" "checkout manager clock must be timezone-aware")
  | some time => Prog.check time.astimezone

def leaseFrom (time : Datetime) : Prog Datetime := Prog.check (time.plus manager.claimTtl)

def renewFences (repositoryId executionId owner : String) : Work Unit := do
  let renewedAt ← (now : Prog Datetime)
  let expiresAt ← leaseFrom manager renewedAt
  let { claimed, cacheFence, .. } ← Body.get
  let renewed ← Prog.registry (.renew executionId owner claimed.fenceToken renewedAt expiresAt) Prog.checkoutOf
  Work.setClaimed renewed
  match cacheFence with
  | none => return ()
  | some cacheFence => do
    Prog.registry (.renewCache repositoryId executionId owner renewed.fenceToken cacheFence renewedAt expiresAt)
      Prog.doneOf

/-- The heartbeats of a mutation, and whether one failed. None follows one that failed. -/
def heartbeat (renew : Work Unit) : Nat → Work Bool
  | 0 => return false
  | more + 1 => Body.tryCatch renew fun
    | .ok () => heartbeat renew more
    | .error _ => return true

def beating (renew : Work Unit) (failed : Bool) : Work Bool := do
  if failed then return true
  else do
    let more : Nat ← (Prog.ask .heartbeats : Prog Nat)
    heartbeat renew more

def leaseHeartbeat {α : Type} (renew : Work Unit) (mutation : Work α) : Work α := do
  renew
  let before ← beating renew false
  Body.tryCatch mutation fun result => do
    let failed ← beating renew before
    match result with
    | .error error => Body.fail error
    | .ok value => if failed then Body.fail CheckoutClaimInProgress else return value

/-- A newer fenced owner is authoritative: what a stale worker would record is dropped. -/
def tryRecordTerminal (checkout : ExecutionCheckout) (owner : String) (fence : Int) : Work Unit :=
  Body.tryCatch (do
    let time ← (now : Prog Datetime)
    Prog.registry (.update checkout owner fence time) Prog.doneOf) fun
    | .ok () => return ()
    | .error (.provision _) => return ()
    | .error error => Body.fail error

def ExecutionCheckout.failing (claimed : ExecutionCheckout) (state : CheckoutState) (updatedAt : Datetime)
    (cleanupAttempts : Int) (error : CheckoutProvisionError) (message : String) : ExecutionCheckout :=
  { claimed with
    state
    updatedAt
    ownerToken := none
    leaseExpiresAt := none
    cleanupAttempts
    failureClass := some error.classification
    failureCode := some error.code
    failureMessage := some message }

def ExecutionCheckout.readied (claimed : ExecutionCheckout) (updatedAt : Datetime) : ExecutionCheckout :=
  { claimed with
    state := .ready
    updatedAt
    ownerToken := none
    leaseExpiresAt := none
    failureClass := none
    failureCode := none
    failureMessage := none }

def ExecutionCheckout.cleanedUp (claimed : ExecutionCheckout) (updatedAt : Datetime) (cleanupAttempts : Int) :
    ExecutionCheckout :=
  { claimed with state := .cleaned, updatedAt, ownerToken := none, leaseExpiresAt := none, cleanupAttempts }

def releaseCache (repositoryId owner : String) (cacheFence : Int) : Work Unit :=
  Body.tryCatch (Prog.registry (.releaseCache repositoryId owner cacheFence) Prog.doneOf : Prog Unit) fun
    | .ok () => return ()
    | .error (.provision _) => return ()
    | .error error => Body.fail error

def removePartial (renew : Work Unit) (checkout : ExecutionCheckout) : Work Unit :=
  Body.tryCatch (leaseHeartbeat renew (forceRemoveWorktree checkout : Prog Unit)) fun
    | .ok () => return ()
    | .error (.provision _) => Body.fail (recoverable "interrupted_provisioning"
        "interrupted checkout could not be recovered safely")
    | .error error => Body.fail error

def create (platform : Platform) (renew : Work Unit) (checkout : ExecutionCheckout) : Work Unit := do
  if ← (branchExists checkout : Prog Bool) then leaseHeartbeat renew (deleteBranch checkout : Prog Unit)
  leaseHeartbeat renew (makeParent checkout : Prog Unit)
  leaseHeartbeat renew (addWorktree checkout : Prog Unit)
  validateInitial platform checkout

/-- A path that exists is kept when it is the initial checkout, and removed when it is a partial one. -/
def recoverOrCreate (platform : Platform) (renew : Work Unit) (checkout : ExecutionCheckout) : Work Unit := do
  let existing : Bool ← (Prog.ask (.exist checkout.workspacePath) : Prog Bool)
  if existing then do
    validateIdentity platform checkout
    if ← (isInitial platform checkout : Prog Bool) then return ()
    else do
      removePartial renew checkout
      create platform renew checkout
  else create platform renew checkout

def sourceMutations (renew : Work Unit) : List Nat → Work Unit
  | [] => return ()
  | beats :: rest => do
    renew
    if ← heartbeat renew beats then Body.fail CheckoutClaimInProgress
    else sourceMutations renew rest

/-- What a source returns. A lease that is lost within it is a failure of the source. -/
def materialize (renew : Work Unit) (request : CheckoutRequest) (cachePath : String)
    (credentials : List (String × String)) : Work SourceRevision := do
  let materialized : Materialized ← (Prog.ask (.materialize request.repository request.defaultBranch
    request.baseRevision cachePath credentials) : Prog Materialized)
  Body.tryCatch (sourceMutations renew materialized.mutations) fun
    | .error _ => Body.fail (normalizeSourceFailure .other)
    | .ok () =>
      match materialized.result with
      | .error error => Body.fail (normalizeSourceFailure error)
      | .ok revision => return revision

def acquireCredentials (repository : RepositoryIdentity) : Work (List (String × String)) := do
  let acquired : Acquired ← (Prog.ask (.acquire repository) : Prog Acquired)
  Work.setLeased acquired.leased
  match acquired.environment with
  | some environment => return environment
  | none => Body.fail (recoverable "credential_boundary_failure" "repository credential boundary failed")

def checkSource (request : CheckoutRequest) (cachePath : String) (revision : SourceRevision) : Prog Unit := do
  let resolved : String ← Prog.ask (.resolve revision.cachePath)
  Prog.check (Result.raiseIf (revision.repository ≠ request.repository ∨ resolved ≠ cachePath)
    (configuration "source_identity_mismatch" "repository source returned unexpected identity or cache path"))
  Prog.check (Result.raiseIf (revision.revision ≠ request.baseRevision)
    (configuration "revision_drift" "default branch revision differs from recorded WorkflowExecution revision"))

def claimRepositoryCache (request : CheckoutRequest) (owner : String) : Work Unit := do
  let { claimed, .. } ← Body.get
  let time ← (now : Prog Datetime)
  let expiresAt ← ((do leaseFrom manager (← now)) : Prog Datetime)
  let cacheFence ← Prog.registry (.claimCache request.repository.canonical request.executionId owner
    claimed.fenceToken time expiresAt) Prog.fenceOf
  Work.setCacheFence cacheFence

def makeReady (renew : Work Unit) (owner : String) : Work ExecutionCheckout := do
  renew
  let { claimed, .. } ← Body.get
  let ready := claimed.readied (← (now : Prog Datetime))
  let time ← (now : Prog Datetime)
  Prog.registry (.update ready owner claimed.fenceToken time) Prog.doneOf
  return ready

def provisionSteps (request : CheckoutRequest) (cachePath owner : String) : Work ExecutionCheckout := do
  let renew := renewFences manager request.repository.canonical request.executionId owner
  claimRepositoryCache manager request owner
  let credentials ← acquireCredentials request.repository
  let revision ← materialize renew request cachePath credentials
  checkSource request cachePath revision
  let { claimed, .. } ← Body.get
  recoverOrCreate manager.platform renew claimed
  makeReady renew owner

def credentialOrSourceFailure : CheckoutProvisionError :=
  ⟨.recoverable, "credential_or_source_failure", "credential or repository source operation failed"⟩

def recordProvisionFailure (owner : String) (error : CheckoutError) : Work ExecutionCheckout := do
  let (failure, message) := match error with
    | .provision failure => (failure, persistedFailureMessage failure)
    | _ => (credentialOrSourceFailure, credentialOrSourceFailure.message)
  let { claimed, .. } ← Body.get
  let failed := claimed.failing .failed (← (now : Prog Datetime)) claimed.cleanupAttempts failure message
  tryRecordTerminal failed owner claimed.fenceToken
  Body.fail (.provision failure)

def releaseHeldCache (repositoryId owner : String) : Work Unit := do
  let { cacheFence, .. } ← Body.get
  match cacheFence with
  | none => return ()
  | some cacheFence => releaseCache repositoryId owner cacheFence

def closeCredentials : Work Unit := do
  let { leased, .. } ← Body.get
  if leased then (Prog.ask .closeLease : Prog Unit) else return ()

def releaseAll (repositoryId owner : String) : Work Unit := do
  releaseHeldCache repositoryId owner
  closeCredentials

def provisionClaimed (request : CheckoutRequest) (cachePath owner : String) : Work ExecutionCheckout :=
  Body.finallyDo (Body.tryCatch (provisionSteps manager request cachePath owner) fun
    | .ok ready => return ready
    | .error error => recordProvisionFailure owner error) (releaseAll request.repository.canonical owner)

def verifyRequest (checkout : ExecutionCheckout) (request : CheckoutRequest) : Except CheckoutError Unit :=
  Result.raiseIf (checkout.repository ≠ request.repository ∨ checkout.baseRevision ≠ request.baseRevision ∨
      checkout.knowledgeRevision ≠ request.knowledgeRevision)
    (configuration "execution_identity_conflict" "execution id was reused with different immutable inputs")

def firstOf (count : Nat) (text : String) : String := String.ofList (text.toList.take count)

/-- The record that a provision asks for, under paths and a branch derived from the request. -/
def candidateFor (request : CheckoutRequest) : Prog (ExecutionCheckout × Datetime × String) := do
  let digest := manager.platform.hexdigest (request.repository.canonical ++ "\x00" ++ request.executionId)
  let workspacePath : String ← Prog.ask (.resolve (manager.worktreeRoot ++ "/execution-" ++ firstOf 24 digest))
  let sourceCachePath : String ← Prog.ask (.resolve (manager.cacheRoot ++ "/repository-" ++
    firstOf 24 (manager.platform.hexdigest request.repository.canonical)))
  Prog.check (requireChild workspacePath manager.worktreeRoot "unsafe_worktree_path")
  Prog.check (requireChild sourceCachePath manager.cacheRoot "unsafe_source_cache_path")
  let time ← now
  let owner : String ← Prog.ask .uuid4
  let leaseExpiresAt ← leaseFrom manager time
  return ({
    executionId := request.executionId
    repository := request.repository
    baseRevision := request.baseRevision
    knowledgeRevision := request.knowledgeRevision
    branch := "aep/execution/" ++ firstOf 20 digest
    workspacePath
    sourceCachePath
    state := .provisioning
    createdAt := time
    updatedAt := time
    ownerToken := some owner
    leaseExpiresAt := some leaseExpiresAt }, time, owner)

def claimAndProvision (request : CheckoutRequest) : Prog ExecutionCheckout := do
  let (candidate, time, owner) ← candidateFor manager request
  let claimed ← Prog.registry (.claim candidate time) Prog.checkoutOf
  if claimed.state = .ready then do
    validateReady manager.platform claimed
    return claimed
  else (provisionClaimed manager request candidate.sourceCachePath owner).run { claimed }

def provision (request : CheckoutRequest) : Prog ExecutionCheckout := do
  let existing ← Prog.registry (.get request.executionId) Prog.foundOf
  match existing.filter fun checkout => checkout.state = .ready with
  | none => claimAndProvision manager request
  | some checkout => do
    Prog.check (verifyRequest checkout request)
    validateReady manager.platform checkout
    return checkout

def recordCleanupFailure (cleanupAttempts : Int) (owner : String) (failure : CheckoutProvisionError) :
    Work ExecutionCheckout := do
  let { claimed, .. } ← Body.get
  let failed := claimed.failing .cleanupFailed (← (now : Prog Datetime)) (cleanupAttempts + 1) failure
    (persistedFailureMessage failure)
  tryRecordTerminal failed owner claimed.fenceToken
  return failed

def retireWorktree (renew : Work Unit) (checkout : ExecutionCheckout) : Work Unit := do
  let existing : Bool ← (Prog.ask (.exist checkout.workspacePath) : Prog Bool)
  if existing then do
    validateIdentity manager.platform checkout
    let status ← (git checkout.workspacePath statusCommand : Prog String)
    if manager.platform.strip status ≠ "" then
      Body.fail (recoverable "dirty_checkout" "dirty execution checkout retained for operator recovery")
    else leaseHeartbeat renew (removeWorktree checkout : Prog Unit)

def retireBranch (renew : Work Unit) (checkout : ExecutionCheckout) : Work Unit := do
  if ← (branchExists checkout : Prog Bool) then leaseHeartbeat renew (deleteBranch checkout : Prog Unit)

def cleanupSteps (executionId : String) (checkout : ExecutionCheckout) (owner : String) : Work ExecutionCheckout := do
  let renew := renewFences manager checkout.repository.canonical executionId owner
  retireWorktree manager renew checkout
  retireBranch renew checkout
  renew
  let { claimed, .. } ← Body.get
  let cleaned := claimed.cleanedUp (← (now : Prog Datetime)) (checkout.cleanupAttempts + 1)
  let time ← (now : Prog Datetime)
  Prog.registry (.update cleaned owner claimed.fenceToken time) Prog.doneOf
  return cleaned

def cleanupCached (executionId : String) (checkout : ExecutionCheckout) (owner : String) (cacheFence : Int) :
    Work ExecutionCheckout :=
  Body.finallyDo (Body.tryCatch (cleanupSteps manager executionId checkout owner) fun
    | .ok cleaned => return cleaned
    | .error (.provision failure) => recordCleanupFailure checkout.cleanupAttempts owner failure
    | .error error => Body.fail error) (releaseCache checkout.repository.canonical owner cacheFence)

def cleanupClaimed (executionId : String) (checkout : ExecutionCheckout) (owner : String)
    (time leaseExpiresAt : Datetime) : Work ExecutionCheckout := do
  let { claimed, .. } ← Body.get
  Body.tryCatch (do
    let cacheFence ← Prog.registry (.claimCache checkout.repository.canonical executionId owner
      claimed.fenceToken time leaseExpiresAt) Prog.fenceOf
    Work.setCacheFence cacheFence
    return cacheFence) fun
    | .ok cacheFence => cleanupCached manager executionId checkout owner cacheFence
    | .error (.provision failure) => recordCleanupFailure checkout.cleanupAttempts owner failure
    | .error error => Body.fail error

def checkoutNotReady : CheckoutError :=
  configuration "checkout_not_ready" "only a ready or recovery-retained checkout can be cleaned"

def beginCleanup (executionId : String) (checkout : ExecutionCheckout) : Prog ExecutionCheckout := do
  let owner : String ← Prog.ask .uuid4
  let time ← now
  let leaseExpiresAt ← leaseFrom manager time
  let claimed ← Prog.registry (.beginCleanup executionId owner time leaseExpiresAt) Prog.checkoutOf
  (cleanupClaimed manager executionId checkout owner time leaseExpiresAt).run { claimed }

def cleanup (executionId : String) (terminalEvidenceDurable : Bool) : Prog ExecutionCheckout := do
  let existing ← Prog.registry (.get executionId) Prog.foundOf
  match existing with
  | none => Prog.fail (configuration "checkout_not_found" "execution checkout does not exist")
  | some checkout => do
    Prog.check (Result.raiseIf (¬terminalEvidenceDurable) (configuration "terminal_evidence_not_durable"
      "checkout cleanup requires durable terminal evidence"))
    if checkout.state = .cleaned then return checkout
    else do
      Prog.check (Result.raiseIf (checkout.state ≠ .ready ∧ checkout.state ≠ .cleanupFailed) checkoutNotReady)
      beginCleanup manager executionId checkout

end Manager

end Aep.Checkout
