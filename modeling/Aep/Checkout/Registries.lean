import Aep.Checkout.ExecutionCheckout

namespace Aep.Checkout

/-- A call of the registry protocol. -/
inductive Operation where
  | get (executionId : String)
  | claim (candidate : ExecutionCheckout) (now : Datetime)
  | renew (executionId ownerToken : String) (fenceToken : Int) (now leaseExpiresAt : Datetime)
  | beginCleanup (executionId ownerToken : String) (now leaseExpiresAt : Datetime)
  | update (checkout : ExecutionCheckout) (ownerToken : String) (fenceToken : Int) (now : Datetime)
  | claimCache (repositoryId executionId ownerToken : String) (executionFence : Int) (now leaseExpiresAt : Datetime)
  | renewCache (repositoryId executionId ownerToken : String) (executionFence cacheFence : Int)
      (now leaseExpiresAt : Datetime)
  | releaseCache (repositoryId ownerToken : String) (cacheFence : Int)

inductive Answer where
  | found (checkout : Option ExecutionCheckout)
  | checkout (checkout : ExecutionCheckout)
  | fence (token : Int)
  | done
  deriving DecidableEq

abbrev Reply := Except CheckoutError Answer

def ExecutionCheckout.succeeding (candidate existing : ExecutionCheckout) : ExecutionCheckout :=
  { candidate with createdAt := existing.createdAt, fenceToken := existing.fenceToken + 1 }

def ExecutionCheckout.renewed (current : ExecutionCheckout) (now leaseExpiresAt : Datetime) : ExecutionCheckout :=
  { current with leaseExpiresAt := some leaseExpiresAt, updatedAt := now }

def ExecutionCheckout.cleaning (current : ExecutionCheckout) (ownerToken : String)
    (now leaseExpiresAt : Datetime) : ExecutionCheckout :=
  { current with
    state := .provisioning
    ownerToken := some ownerToken
    fenceToken := current.fenceToken + 1
    leaseExpiresAt := some leaseExpiresAt
    updatedAt := now }

/-- What a claim makes of the record it finds: the record that answers it, or the candidate to store. -/
def claimOver (existing : Option ExecutionCheckout) (candidate : ExecutionCheckout) (now : Datetime) :
    Except CheckoutError (ExecutionCheckout ⊕ ExecutionCheckout) := do
  match existing with
  | none => pure (.inr { candidate with fenceToken := 1 })
  | some existing =>
    sameBinding existing candidate
    if existing.state = .ready then pure (.inl existing)
    else
      Result.raiseIf (existing.state = .provisioning ∧ unexpired existing.leaseExpiresAt now) CheckoutClaimInProgress
      pure (.inr (candidate.succeeding existing))

def cleanable (current : Option ExecutionCheckout) : Except CheckoutError ExecutionCheckout :=
  match current with
  | none => .error CheckoutClaimInProgress
  | some current =>
    if current.state = .ready ∨ current.state = .cleanupFailed then pure current
    else .error CheckoutClaimInProgress

def owned (current : Option ExecutionCheckout) (ownerToken : String) (fenceToken : Int) (now : Datetime) :
    Except CheckoutError ExecutionCheckout :=
  match current with
  | none => .error CheckoutClaimInProgress
  | some checkout =>
    if owns (some checkout) ownerToken fenceToken now then pure checkout else .error CheckoutClaimInProgress

structure CacheClaim where
  ownerToken : String
  fenceToken : Int
  leaseExpiresAt : Datetime
  executionId : String
  executionFence : Int
  deriving DecidableEq

structure InMemoryCheckoutRegistry where
  records : Dict String ExecutionCheckout := []
  paths : Dict String String := []
  branches : Dict (String × String) String := []
  cacheClaims : Dict String CacheClaim := []
  cacheFences : Dict String Int := []

namespace InMemoryCheckoutRegistry

variable (registry : InMemoryCheckoutRegistry)

def store (checkout : ExecutionCheckout) : InMemoryCheckoutRegistry :=
  { registry with records := registry.records.set checkout.executionId checkout }

def get (executionId : String) : Except CheckoutError (Answer × InMemoryCheckoutRegistry) :=
  pure (.found (registry.records.get? executionId), registry)

def ownedBy (owner : Option String) (executionId : String) : Prop := owner = none ∨ owner = some executionId

instance (owner : Option String) (executionId : String) : Decidable (ownedBy owner executionId) :=
  inferInstanceAs (Decidable (_ ∨ _))

def claim (candidate : ExecutionCheckout) (now : Datetime) :
    Except CheckoutError (Answer × InMemoryCheckoutRegistry) := do
  match ← claimOver (registry.records.get? candidate.executionId) candidate now with
  | .inl existing => pure (.checkout existing, registry)
  | .inr candidate =>
    let pathOwner := registry.paths.get? candidate.workspacePath
    let branchOwner := registry.branches.get? (candidate.repository.canonical, candidate.branch)
    Result.raiseIf (¬ownedBy pathOwner candidate.executionId ∨ ¬ownedBy branchOwner candidate.executionId)
      (configuration "checkout_reuse" "checkout path or branch is assigned to another execution")
    pure (.checkout candidate, {
      registry.store candidate with
      paths := registry.paths.set candidate.workspacePath candidate.executionId
      branches := registry.branches.set (candidate.repository.canonical, candidate.branch) candidate.executionId })

def renew (executionId ownerToken : String) (fenceToken : Int) (now leaseExpiresAt : Datetime) :
    Except CheckoutError (Answer × InMemoryCheckoutRegistry) := do
  let current ← owned (registry.records.get? executionId) ownerToken fenceToken now
  let renewed := current.renewed now leaseExpiresAt
  pure (.checkout renewed, { registry with records := registry.records.set executionId renewed })

def beginCleanup (executionId ownerToken : String) (now leaseExpiresAt : Datetime) :
    Except CheckoutError (Answer × InMemoryCheckoutRegistry) := do
  let current ← cleanable (registry.records.get? executionId)
  let claimed := current.cleaning ownerToken now leaseExpiresAt
  pure (.checkout claimed, { registry with records := registry.records.set executionId claimed })

def update (checkout : ExecutionCheckout) (ownerToken : String) (fenceToken : Int) (now : Datetime) :
    Except CheckoutError (Answer × InMemoryCheckoutRegistry) := do
  let _ ← owned (registry.records.get? checkout.executionId) ownerToken fenceToken now
  pure (.done, registry.store checkout)

def claimCache (repositoryId executionId ownerToken : String) (executionFence : Int)
    (now leaseExpiresAt : Datetime) : Except CheckoutError (Answer × InMemoryCheckoutRegistry) := do
  let _ ← owned (registry.records.get? executionId) ownerToken executionFence now
  let existing := registry.cacheClaims.get? repositoryId
  Result.raiseIf (existing.any fun claim => claim.leaseExpiresAt.later now) CheckoutCacheClaimInProgress
  let cacheFence := (registry.cacheFences.get? repositoryId).getD 0 + 1
  pure (.fence cacheFence, {
    registry with
    cacheFences := registry.cacheFences.set repositoryId cacheFence
    cacheClaims := registry.cacheClaims.set repositoryId
      ⟨ownerToken, cacheFence, leaseExpiresAt, executionId, executionFence⟩ })

/-- Whether a cache claim is the one that its renewal names, and both leases still run. -/
def mayRenewCache (repositoryId executionId ownerToken : String) (executionFence cacheFence : Int)
    (now : Datetime) : Bool :=
  match registry.cacheClaims.get? repositoryId with
  | none => false
  | some existing => existing.ownerToken = ownerToken ∧ existing.fenceToken = cacheFence ∧
      existing.leaseExpiresAt.later now ∧ existing.executionId = executionId ∧
      existing.executionFence = executionFence ∧
      owns (registry.records.get? executionId) ownerToken executionFence now

def renewCache (repositoryId executionId ownerToken : String) (executionFence cacheFence : Int)
    (now leaseExpiresAt : Datetime) : Except CheckoutError (Answer × InMemoryCheckoutRegistry) := do
  Result.raiseIf (¬registry.mayRenewCache repositoryId executionId ownerToken executionFence cacheFence now)
    CheckoutCacheClaimInProgress
  pure (.done, {
    registry with
    cacheClaims := registry.cacheClaims.set repositoryId
      ⟨ownerToken, cacheFence, leaseExpiresAt, executionId, executionFence⟩ })

def releaseCache (repositoryId ownerToken : String) (cacheFence : Int) :
    Except CheckoutError (Answer × InMemoryCheckoutRegistry) := do
  match registry.cacheClaims.get? repositoryId with
  | none => pure (.done, registry)
  | some existing =>
    Result.raiseIf ((existing.ownerToken, existing.fenceToken) ≠ (ownerToken, cacheFence)) CheckoutCacheClaimInProgress
    pure (.done, { registry with cacheClaims := registry.cacheClaims.erase repositoryId })

def perform : Operation → Except CheckoutError (Answer × InMemoryCheckoutRegistry)
  | .get executionId => registry.get executionId
  | .claim candidate now => registry.claim candidate now
  | .renew executionId ownerToken fenceToken now leaseExpiresAt =>
    registry.renew executionId ownerToken fenceToken now leaseExpiresAt
  | .beginCleanup executionId ownerToken now leaseExpiresAt =>
    registry.beginCleanup executionId ownerToken now leaseExpiresAt
  | .update checkout ownerToken fenceToken now => registry.update checkout ownerToken fenceToken now
  | .claimCache repositoryId executionId ownerToken executionFence now leaseExpiresAt =>
    registry.claimCache repositoryId executionId ownerToken executionFence now leaseExpiresAt
  | .renewCache repositoryId executionId ownerToken executionFence cacheFence now leaseExpiresAt =>
    registry.renewCache repositoryId executionId ownerToken executionFence cacheFence now leaseExpiresAt
  | .releaseCache repositoryId ownerToken cacheFence => registry.releaseCache repositoryId ownerToken cacheFence

end InMemoryCheckoutRegistry

structure CheckoutRow where
  repositoryId : String
  branch : String
  workspacePath : String
  state : String
  ownerToken : Option String
  fenceToken : Int
  leaseExpiresAt : Json
  payload : Record

structure CacheRow where
  executionId : Option String
  executionFence : Option Int
  ownerToken : Option String
  fenceToken : Int
  leaseExpiresAt : Option String

structure SqliteCheckoutRegistry where
  executionCheckouts : Dict String CheckoutRow := []
  repositoryCacheClaims : Dict String CacheRow := []

def storableInteger (value : Int) : Bool := -2 ^ 63 ≤ value ∧ value < 2 ^ 63

def bindInteger (value : Int) : Except CheckoutError Unit :=
  Result.raiseIf (¬storableInteger value) (.exception .overflowError)

namespace SqliteCheckoutRegistry

variable (registry : SqliteCheckoutRegistry)

def rowOf (checkout : ExecutionCheckout) : Except CheckoutError CheckoutRow := do
  let leaseExpiresAt ← formatOptional checkout.leaseExpiresAt
  let payload ← checkoutToJson checkout
  bindInteger checkout.fenceToken
  pure {
    repositoryId := checkout.repository.canonical
    branch := checkout.branch
    workspacePath := checkout.workspacePath
    state := checkout.state.value
    ownerToken := checkout.ownerToken
    fenceToken := checkout.fenceToken
    leaseExpiresAt
    payload }

def CheckoutRow.clashes (left right : CheckoutRow) : Bool :=
  left.workspacePath = right.workspacePath ∨ left.repositoryId = right.repositoryId ∧ left.branch = right.branch

/-- The row goes in or replaces the one of its key, unless another row has its path or its branch. -/
def put (checkout : ExecutionCheckout) : Except CheckoutError SqliteCheckoutRegistry := do
  let row ← rowOf checkout
  Result.raiseIf (registry.executionCheckouts.any fun (executionId, other) =>
    executionId ≠ checkout.executionId ∧ CheckoutRow.clashes other row) .integrityError
  pure { registry with executionCheckouts := registry.executionCheckouts.set checkout.executionId row }

def loadLocked (executionId : String) : Except CheckoutError (Option ExecutionCheckout) :=
  match registry.executionCheckouts.get? executionId with
  | none => pure none
  | some row => some <$> checkoutFromJson row.payload

def get (executionId : String) : Except CheckoutError (Answer × SqliteCheckoutRegistry) := do
  let found ← registry.loadLocked executionId
  pure (.found found, registry)

def putClaimed (candidate : ExecutionCheckout) : Except CheckoutError SqliteCheckoutRegistry :=
  match registry.put candidate with
  | .error .integrityError =>
    .error (configuration "checkout_reuse" "checkout path or branch is assigned to another execution")
  | outcome => outcome

def claim (candidate : ExecutionCheckout) (now : Datetime) :
    Except CheckoutError (Answer × SqliteCheckoutRegistry) := do
  let existing ← registry.loadLocked candidate.executionId
  match ← claimOver existing candidate now with
  | .inl existing => pure (.checkout existing, registry)
  | .inr candidate => do
    let stored ← registry.putClaimed candidate
    pure (.checkout candidate, stored)

def renew (executionId ownerToken : String) (fenceToken : Int) (now leaseExpiresAt : Datetime) :
    Except CheckoutError (Answer × SqliteCheckoutRegistry) := do
  let current ← owned (← registry.loadLocked executionId) ownerToken fenceToken now
  let renewed := current.renewed now leaseExpiresAt
  let stored ← registry.put renewed
  pure (.checkout renewed, stored)

def beginCleanup (executionId ownerToken : String) (now leaseExpiresAt : Datetime) :
    Except CheckoutError (Answer × SqliteCheckoutRegistry) := do
  let current ← cleanable (← registry.loadLocked executionId)
  let claimed := current.cleaning ownerToken now leaseExpiresAt
  let stored ← registry.put claimed
  pure (.checkout claimed, stored)

def update (checkout : ExecutionCheckout) (ownerToken : String) (fenceToken : Int) (now : Datetime) :
    Except CheckoutError (Answer × SqliteCheckoutRegistry) := do
  let _ ← owned (← registry.loadLocked checkout.executionId) ownerToken fenceToken now
  let stored ← registry.put checkout
  pure (.done, stored)

def leaseRuns (row : CacheRow) (now : Datetime) : Except CheckoutError Bool := do
  let expiry ← parseDatetime (row.leaseExpiresAt.getD "None")
  pure (expiry.later now)

def cacheHeld (row : Option CacheRow) (now : Datetime) : Except CheckoutError Bool :=
  match row with
  | none => pure false
  | some row => if row.ownerToken = none then pure false else leaseRuns row now

def claimCache (repositoryId executionId ownerToken : String) (executionFence : Int)
    (now leaseExpiresAt : Datetime) : Except CheckoutError (Answer × SqliteCheckoutRegistry) := do
  let _ ← owned (← registry.loadLocked executionId) ownerToken executionFence now
  let row := registry.repositoryCacheClaims.get? repositoryId
  Result.raiseIf (← cacheHeld row now) CheckoutCacheClaimInProgress
  let fence := row.elim 1 fun row => row.fenceToken + 1
  let lease ← formatDatetime leaseExpiresAt
  bindInteger executionFence
  bindInteger fence
  pure (.fence fence, {
    registry with
    repositoryCacheClaims := registry.repositoryCacheClaims.set repositoryId
      ⟨some executionId, some executionFence, some ownerToken, fence, some lease⟩ })

def mayRenewCache (checkout : Option ExecutionCheckout) (row : Option CacheRow) (executionId ownerToken : String)
    (executionFence cacheFence : Int) (now : Datetime) : Except CheckoutError Bool :=
  match row with
  | none => pure false
  | some row =>
    if row.ownerToken ≠ some ownerToken ∨ row.fenceToken ≠ cacheFence ∨ row.executionId ≠ some executionId ∨
        row.executionFence ≠ some executionFence then
      pure false
    else do
      let runs ← leaseRuns row now
      pure (runs && owns checkout ownerToken executionFence now)

def renewCache (repositoryId executionId ownerToken : String) (executionFence cacheFence : Int)
    (now leaseExpiresAt : Datetime) : Except CheckoutError (Answer × SqliteCheckoutRegistry) := do
  let checkout ← registry.loadLocked executionId
  let row := registry.repositoryCacheClaims.get? repositoryId
  let renewable ← mayRenewCache checkout row executionId ownerToken executionFence cacheFence now
  Result.raiseIf (¬renewable) CheckoutCacheClaimInProgress
  let lease ← formatDatetime leaseExpiresAt
  pure (.done, {
    registry with
    repositoryCacheClaims := match row with
      | none => registry.repositoryCacheClaims
      | some row => registry.repositoryCacheClaims.set repositoryId { row with leaseExpiresAt := some lease } })

def releaseCache (repositoryId ownerToken : String) (cacheFence : Int) :
    Except CheckoutError (Answer × SqliteCheckoutRegistry) := do
  bindInteger cacheFence
  match registry.repositoryCacheClaims.get? repositoryId with
  | none => .error CheckoutCacheClaimInProgress
  | some row =>
    Result.raiseIf (row.ownerToken ≠ some ownerToken ∨ row.fenceToken ≠ cacheFence) CheckoutCacheClaimInProgress
    pure (.done, {
      registry with
      repositoryCacheClaims := registry.repositoryCacheClaims.set repositoryId
        { row with executionId := none, executionFence := none, ownerToken := none, leaseExpiresAt := none } })

def perform : Operation → Except CheckoutError (Answer × SqliteCheckoutRegistry)
  | .get executionId => registry.get executionId
  | .claim candidate now => registry.claim candidate now
  | .renew executionId ownerToken fenceToken now leaseExpiresAt =>
    registry.renew executionId ownerToken fenceToken now leaseExpiresAt
  | .beginCleanup executionId ownerToken now leaseExpiresAt =>
    registry.beginCleanup executionId ownerToken now leaseExpiresAt
  | .update checkout ownerToken fenceToken now => registry.update checkout ownerToken fenceToken now
  | .claimCache repositoryId executionId ownerToken executionFence now leaseExpiresAt =>
    registry.claimCache repositoryId executionId ownerToken executionFence now leaseExpiresAt
  | .renewCache repositoryId executionId ownerToken executionFence cacheFence now leaseExpiresAt =>
    registry.renewCache repositoryId executionId ownerToken executionFence cacheFence now leaseExpiresAt
  | .releaseCache repositoryId ownerToken cacheFence => registry.releaseCache repositoryId ownerToken cacheFence

end SqliteCheckoutRegistry

end Aep.Checkout
