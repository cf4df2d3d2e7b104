import Aep.Checkout.Agreement

namespace Aep.Checkout

abbrev Call := Operation × Answer

def granted : Call → Option ExecutionCheckout
  | (.claim _ _, .checkout record) => if record.state = .ready then none else some record
  | (.beginCleanup _ _ _ _, .checkout record) => some record
  | _ => none

def leased : Call → Option ExecutionCheckout
  | (.renew _ _ _ _ _, .checkout record) => some record
  | call => granted call

def grantedCache : Call → Option (String × CacheClaim)
  | (.claimCache repositoryId executionId ownerToken executionFence _ leaseExpiresAt, .fence cacheFence) =>
    some (repositoryId, ⟨ownerToken, cacheFence, leaseExpiresAt, executionId, executionFence⟩)
  | _ => none

def leasedCache : Call → Option (String × CacheClaim)
  | (.renewCache repositoryId executionId ownerToken executionFence cacheFence _ leaseExpiresAt, .done) =>
    some (repositoryId, ⟨ownerToken, cacheFence, leaseExpiresAt, executionId, executionFence⟩)
  | call => grantedCache call

def latestOf (read : Call → Option ExecutionCheckout) (history : List Call) (executionId : String) :
    Option ExecutionCheckout :=
  history.findSome? fun call => (read call).filter fun record => record.executionId = executionId

def latestCacheOf (read : Call → Option (String × CacheClaim)) (history : List Call) (repositoryId : String) :
    Option CacheClaim :=
  history.findSome? fun call => ((read call).filter fun claim => claim.1 = repositoryId).map Prod.snd

def SameBinding (left right : ExecutionCheckout) : Prop :=
  left.repository = right.repository ∧ left.baseRevision = right.baseRevision ∧
    left.knowledgeRevision = right.knowledgeRevision ∧ left.branch = right.branch ∧
    left.workspacePath = right.workspacePath ∧ left.sourceCachePath = right.sourceCachePath

/-- The last state of a claimed checkout that its worker records. -/
structure Settles (claimed checkout : ExecutionCheckout) : Prop where
  keyed : checkout.executionId = claimed.executionId
  binding : SameBinding claimed checkout
  fence : checkout.fenceToken = claimed.fenceToken
  created : checkout.createdAt = claimed.createdAt
  settled : checkout.state ≠ .provisioning
  unowned : checkout.ownerToken = none
  unleased : checkout.leaseExpiresAt = none

def ofUtc (times : List Datetime) : Prop := ∀ time ∈ times, time.tzinfo = .utc

/-- What a worker of the manager calls: claims of candidates, and updates that settle a record it was given. -/
def Issued (history : List Call) : Operation → Prop
  | .get _ => True
  | .claim candidate now => candidate.state = .provisioning ∧ candidate.ownerToken ≠ none ∧
      ofUtc (now :: candidate.createdAt :: candidate.updatedAt :: candidate.leaseExpiresAt.toList)
  | .renew _ _ _ now leaseExpiresAt => ofUtc [now, leaseExpiresAt]
  | .beginCleanup _ _ now leaseExpiresAt => ofUtc [now, leaseExpiresAt]
  | .update checkout _ fenceToken now => ofUtc [now, checkout.updatedAt] ∧ ∃ call ∈ history, ∃ claimed,
      leased call = some claimed ∧ Settles claimed checkout ∧ fenceToken = claimed.fenceToken
  | .claimCache _ _ _ _ now leaseExpiresAt => ofUtc [now, leaseExpiresAt]
  | .renewCache _ _ _ _ _ now leaseExpiresAt => ofUtc [now, leaseExpiresAt]
  | .releaseCache _ _ _ => True

/-- The calls that an execution's owner makes: whose lease, which fence, and when. -/
def ownerCall : Operation → Option (String × String × Int × Datetime)
  | .renew executionId ownerToken fenceToken now _ => some (executionId, ownerToken, fenceToken, now)
  | .update checkout ownerToken fenceToken now => some (checkout.executionId, ownerToken, fenceToken, now)
  | .claimCache _ executionId ownerToken executionFence now _ => some (executionId, ownerToken, executionFence, now)
  | .renewCache _ executionId ownerToken executionFence _ now _ => some (executionId, ownerToken, executionFence, now)
  | _ => none

section Statement

variable {σ : Type} (perform : σ → Operation → Except CheckoutError (Answer × σ))

def Finds (state : σ) (executionId : String) (record : ExecutionCheckout) : Prop :=
  (perform state (.get executionId)).map Prod.fst = .ok (.found (some record))

/-- The calls of the workers that returned, and the state they lead to. A call that raises changes nothing. -/
inductive Run (empty : σ) : List Call → σ → Prop where
  | start : Run empty [] empty
  | call {history : List Call} {before after : σ} {operation : Operation} {answer : Answer}
      (earlier : Run empty history before) (issued : Issued history operation)
      (returned : perform before operation = .ok (answer, after)) :
      Run empty ((operation, answer) :: history) after

structure FencedCall (history : List Call) (before : σ) (operation : Operation) (answer : Answer) (after : σ) :
    Prop where
  grants : ∀ record, granted (operation, answer) = some record → ∀ call ∈ history, ∀ earlier,
    granted call = some earlier → earlier.executionId = record.executionId → earlier.fenceToken < record.fenceToken
  cacheGrants : ∀ repositoryId claim, grantedCache (operation, answer) = some (repositoryId, claim) →
    ∀ call ∈ history, ∀ earlier, grantedCache call = some (repositoryId, earlier) → earlier.fenceToken < claim.fenceToken
  owner : ∀ executionId ownerToken fenceToken now,
    ownerCall operation = some (executionId, ownerToken, fenceToken, now) →
    ∃ latest lease expiry, latestOf granted history executionId = some latest ∧
      latest.ownerToken = some ownerToken ∧ latest.fenceToken = fenceToken ∧
      latestOf leased history executionId = some lease ∧ lease.leaseExpiresAt = some expiry ∧ expiry.later now
  cacheOwner : ∀ repositoryId executionId ownerToken executionFence cacheFence now leaseExpiresAt,
    operation = .renewCache repositoryId executionId ownerToken executionFence cacheFence now leaseExpiresAt →
    ∃ latest lease, latestCacheOf grantedCache history repositoryId = some latest ∧
      latest.ownerToken = ownerToken ∧ latest.fenceToken = cacheFence ∧ latest.executionId = executionId ∧
      latest.executionFence = executionFence ∧
      latestCacheOf leasedCache history repositoryId = some lease ∧ lease.leaseExpiresAt.later now
  ready : ∀ candidate now record, operation = .claim candidate now →
    Finds perform before candidate.executionId record → record.state = .ready →
    answer = .checkout record ∧ after = before
  bound : ∀ executionId record, Finds perform before executionId record →
    ∃ kept, Finds perform after executionId kept ∧ SameBinding record kept

/-- What holds of a state: the calls it answers are fenced, and no two executions share a place. -/
structure Fenced (history : List Call) (state : σ) : Prop where
  calls : ∀ operation answer after, Issued history operation → perform state operation = .ok (answer, after) →
    FencedCall perform history state operation answer after
  apart : ∀ executionId executionId' record record', executionId ≠ executionId' →
    Finds perform state executionId record → Finds perform state executionId' record' →
    record.workspacePath ≠ record'.workspacePath ∧
      (record.repository.canonical, record.branch) ≠ (record'.repository.canonical, record'.branch)

end Statement

section InMemory

theorem SameBinding.refl (record : ExecutionCheckout) : SameBinding record record := ⟨rfl, rfl, rfl, rfl, rfl, rfl⟩

theorem SameBinding.symm {left right : ExecutionCheckout} (same : SameBinding left right) : SameBinding right left := by
  obtain ⟨repository, base, knowledge, branch, path, cache⟩ := same
  exact ⟨repository.symm, base.symm, knowledge.symm, branch.symm, path.symm, cache.symm⟩

theorem SameBinding.trans {first second third : ExecutionCheckout} (left : SameBinding first second)
    (right : SameBinding second third) : SameBinding first third := by
  obtain ⟨repository, base, knowledge, branch, path, cache⟩ := left
  obtain ⟨repository', base', knowledge', branch', path', cache'⟩ := right
  exact ⟨repository.trans repository', base.trans base', knowledge.trans knowledge', branch.trans branch',
    path.trans path', cache.trans cache'⟩

theorem sameBinding_eq_ok {left right : ExecutionCheckout} : sameBinding left right = .ok () ↔ SameBinding left right := by
  simp only [sameBinding, Result.raiseIf_eq_ok, not_or, not_not, SameBinding]

theorem latestOf_cons_none {read : Call → Option ExecutionCheckout} {call : Call} {executionId : String}
    (other : ∀ record, read call = some record → record.executionId ≠ executionId) (history : List Call) :
    latestOf read (call :: history) executionId = latestOf read history executionId := by
  have skipped : (read call).filter (fun record => record.executionId = executionId) = none := by
    cases found : read call with
    | none => rfl
    | some record => simp [Option.filter, other record found]
  simp [latestOf, skipped]

theorem latestOf_cons_some {read : Call → Option ExecutionCheckout} {call : Call} {executionId : String}
    {record : ExecutionCheckout} (found : read call = some record) (here : record.executionId = executionId)
    (history : List Call) : latestOf read (call :: history) executionId = some record := by
  simp [latestOf, found, Option.filter, here]

/-- What the history says of the record that is stored for an execution. -/
structure TracksRecord (history : List Call) (executionId : String) (record : ExecutionCheckout) : Prop where
  keyed : record.executionId = executionId
  latest : ∃ latest, latestOf granted history executionId = some latest ∧ latest.fenceToken = record.fenceToken ∧
    (record.state = .provisioning → latest.ownerToken = record.ownerToken ∧
      ∃ lease, latestOf leased history executionId = some lease ∧ lease.leaseExpiresAt = record.leaseExpiresAt)
  earlier : ∀ call ∈ history, ∀ earlier, leased call = some earlier → earlier.executionId = executionId →
    earlier.fenceToken ≤ record.fenceToken ∧ SameBinding earlier record

structure TracksCache (history : List Call) (repositoryId : String) (fence : Option Int)
    (claim : Option CacheClaim) : Prop where
  earlier : ∀ call ∈ history, ∀ earlier, grantedCache call = some (repositoryId, earlier) →
    earlier.fenceToken ≤ fence.getD 0
  latest : ∀ current, claim = some current → ∃ latest lease,
    latestCacheOf grantedCache history repositoryId = some latest ∧ latest.ownerToken = current.ownerToken ∧
      latest.fenceToken = current.fenceToken ∧ latest.executionId = current.executionId ∧
      latest.executionFence = current.executionFence ∧
      latestCacheOf leasedCache history repositoryId = some lease ∧
      lease.leaseExpiresAt = current.leaseExpiresAt

structure Tracked (history : List Call) (memory : InMemoryCheckoutRegistry) : Prop where
  absent : ∀ executionId, memory.records.get? executionId = none → ∀ call ∈ history, ∀ earlier,
    leased call = some earlier → earlier.executionId ≠ executionId
  present : ∀ executionId record, memory.records.get? executionId = some record →
    TracksRecord history executionId record
  paths : ∀ path executionId, memory.paths.get? path = some executionId ↔
    ∃ checkout, memory.records.get? executionId = some checkout ∧ checkout.workspacePath = path
  branches : ∀ branch executionId, memory.branches.get? branch = some executionId ↔
    ∃ checkout, memory.records.get? executionId = some checkout ∧
      (checkout.repository.canonical, checkout.branch) = branch
  cache : ∀ repositoryId, TracksCache history repositoryId (memory.cacheFences.get? repositoryId)
    (memory.cacheClaims.get? repositoryId)

theorem tracked_empty : Tracked [] {} where
  absent := by simp
  present := by simp
  paths := by simp
  branches := by simp
  cache := fun _ => ⟨by simp, nofun⟩

variable {history : List Call} {memory : InMemoryCheckoutRegistry}

theorem finds_iff {executionId : String} {record : ExecutionCheckout} :
    Finds InMemoryCheckoutRegistry.perform memory executionId record ↔
      memory.records.get? executionId = some record := by
  show Except.ok (Answer.found (memory.records.get? executionId)) = .ok (.found (some record)) ↔ _
  rw [Except.ok.injEq, Answer.found.injEq]

theorem TracksRecord.cons {executionId : String} {record : ExecutionCheckout}
    (tracks : TracksRecord history executionId record) {call : Call}
    (other : ∀ lease, leased call = some lease → lease.executionId ≠ executionId) :
    TracksRecord (call :: history) executionId record := by
  have grants : ∀ grant, granted call = some grant → grant.executionId ≠ executionId := by
    intro grant found
    refine other grant ?_
    rcases call with ⟨operation, answer⟩
    cases operation <;> first | exact found | (cases answer <;> cases found)
  refine ⟨tracks.keyed, ?_, ?_⟩
  · rw [latestOf_cons_none grants, latestOf_cons_none other]
    exact tracks.latest
  · intro earlierCall member earlier found here
    rcases List.mem_cons.mp member with rfl | member
    · exact absurd here (other earlier found)
    · exact tracks.earlier earlierCall member earlier found here

theorem leased_of_granted {call : Call} {record : ExecutionCheckout} (grants : granted call = some record) :
    leased call = some record := by
  rcases call with ⟨operation, answer⟩
  cases operation <;> first | exact grants | (cases answer <;> cases grants)

theorem latestCacheOf_cons_none {read : Call → Option (String × CacheClaim)} {call : Call} {repositoryId : String}
    (other : ∀ claim, read call = some claim → claim.1 ≠ repositoryId) (history : List Call) :
    latestCacheOf read (call :: history) repositoryId = latestCacheOf read history repositoryId := by
  have skipped : (read call).filter (fun claim => claim.1 = repositoryId) = none := by
    cases found : read call with
    | none => rfl
    | some claim => simp [Option.filter, other claim found]
  simp [latestCacheOf, skipped]

theorem latestCacheOf_cons_some {read : Call → Option (String × CacheClaim)} {call : Call} {repositoryId : String}
    {claim : CacheClaim} (found : read call = some (repositoryId, claim)) (history : List Call) :
    latestCacheOf read (call :: history) repositoryId = some claim := by
  simp [latestCacheOf, found, Option.filter]

theorem TracksCache.cons {repositoryId : String} {fence : Option Int} {claim : Option CacheClaim}
    (tracks : TracksCache history repositoryId fence claim) {call : Call}
    (other : ∀ claim, leasedCache call = some claim → claim.1 ≠ repositoryId) :
    TracksCache (call :: history) repositoryId fence claim := by
  have grants : ∀ claim, grantedCache call = some claim → claim.1 ≠ repositoryId := by
    intro claim found
    refine other claim ?_
    rcases call with ⟨operation, answer⟩
    cases operation <;> first | exact found | (cases answer <;> cases found)
  refine ⟨?_, ?_⟩
  · intro earlierCall member earlier found
    rcases List.mem_cons.mp member with rfl | member
    · exact absurd rfl (grants _ found)
    · exact tracks.earlier earlierCall member earlier found
  · rw [latestCacheOf_cons_none grants, latestCacheOf_cons_none other]
    exact tracks.latest

theorem Tracked.cacheSet (tracked : Tracked history memory) {call : Call} (leases : leased call = none)
    {fences : Dict String Int} {claims : Dict String CacheClaim}
    (cache : ∀ repositoryId,
      TracksCache (call :: history) repositoryId (fences.get? repositoryId) (claims.get? repositoryId)) :
    Tracked (call :: history) { memory with cacheFences := fences, cacheClaims := claims } where
  absent := fun executionId gone earlierCall member earlier found => by
    rcases List.mem_cons.mp member with rfl | member
    · cases leases.symm.trans found
    · exact tracked.absent executionId gone earlierCall member earlier found
  present := fun executionId record found =>
    (tracked.present executionId record found).cons fun lease leased => by cases leases.symm.trans leased
  paths := tracked.paths
  branches := tracked.branches
  cache := cache

theorem Tracked.skip (tracked : Tracked history memory) {call : Call} (leases : leased call = none)
    (caches : leasedCache call = none) : Tracked (call :: history) memory :=
  tracked.cacheSet leases fun repositoryId =>
    (tracked.cache repositoryId).cons fun claim claimed => by cases caches.symm.trans claimed

theorem Tracked.enter (tracked : Tracked history memory) {call : Call} {record : ExecutionCheckout}
    {paths : Dict String String} {branches : Dict (String × String) String}
    (leases : ∀ lease, leased call = some lease → lease.executionId = record.executionId)
    (caches : leasedCache call = none) (tracks : TracksRecord (call :: history) record.executionId record)
    (pathsKept : ∀ path executionId, paths.get? path = some executionId ↔
      ∃ checkout, (memory.store record).records.get? executionId = some checkout ∧ checkout.workspacePath = path)
    (branchesKept : ∀ branch executionId, branches.get? branch = some executionId ↔
      ∃ checkout, (memory.store record).records.get? executionId = some checkout ∧
        (checkout.repository.canonical, checkout.branch) = branch) :
    Tracked (call :: history) { memory.store record with paths, branches } where
  absent := fun executionId gone earlierCall member earlier found => by
    have gone : (memory.records.set record.executionId record).get? executionId = none := gone
    rw [Dict.get?_set] at gone
    by_cases here : record.executionId = executionId
    · rw [if_pos here] at gone
      cases gone
    · rw [if_neg here] at gone
      rcases List.mem_cons.mp member with rfl | member
      · rw [leases earlier found]
        exact here
      · exact tracked.absent executionId gone earlierCall member earlier found
  present := fun executionId other found => by
    have found : (memory.records.set record.executionId record).get? executionId = some other := found
    rw [Dict.get?_set] at found
    by_cases here : record.executionId = executionId
    · rw [if_pos here] at found
      cases found
      exact here ▸ tracks
    · rw [if_neg here] at found
      exact (tracked.present executionId other found).cons fun lease leased => by rw [leases lease leased]; exact here
  paths := pathsKept
  branches := branchesKept
  cache := fun repositoryId =>
    (tracked.cache repositoryId).cons fun claim claimed => by cases caches.symm.trans claimed

theorem Tracked.replace (tracked : Tracked history memory) {call : Call} {existing record : ExecutionCheckout}
    (found : memory.records.get? record.executionId = some existing) (bound : SameBinding existing record)
    (leases : ∀ lease, leased call = some lease → lease.executionId = record.executionId)
    (caches : leasedCache call = none) (tracks : TracksRecord (call :: history) record.executionId record) :
    Tracked (call :: history) (memory.store record) := by
  obtain ⟨repository, -, -, branch, path, -⟩ := bound
  exact tracked.enter leases caches tracks (index_kept (·.workspacePath) tracked.paths found path)
    (index_kept (fun record => (record.repository.canonical, record.branch)) tracked.branches found
      (by rw [repository, branch]))

theorem TracksRecord.grant {call : Call} {record : ExecutionCheckout} (grants : granted call = some record)
    (earlier : ∀ call ∈ history, ∀ earlier, leased call = some earlier → earlier.executionId = record.executionId →
      earlier.fenceToken ≤ record.fenceToken ∧ SameBinding earlier record) :
    TracksRecord (call :: history) record.executionId record := by
  have leases := leased_of_granted grants
  refine ⟨rfl, ⟨record, latestOf_cons_some grants rfl history, rfl, fun _ => ⟨rfl, record,
    latestOf_cons_some leases rfl history, rfl⟩⟩, fun earlierCall member other found here => ?_⟩
  rcases List.mem_cons.mp member with rfl | member
  · cases leases.symm.trans found
    exact ⟨Int.le_refl _, .refl _⟩
  · exact earlier earlierCall member other found here

structure Entered (existing : Option ExecutionCheckout) (candidate record : ExecutionCheckout) : Prop where
  keyed : record.executionId = candidate.executionId
  state : record.state = candidate.state
  created : record.createdAt = (existing.getD candidate).createdAt
  updated : record.updatedAt = candidate.updatedAt
  lease : record.leaseExpiresAt = candidate.leaseExpiresAt
  atop : ∀ old, existing = some old →
    old.state ≠ .ready ∧ SameBinding old record ∧ record.fenceToken = old.fenceToken + 1

theorem claimOver_record {existing : Option ExecutionCheckout} {candidate record : ExecutionCheckout} {now : Datetime}
    (claimed : claimOver existing candidate now = .ok (.inr record)) : Entered existing candidate record := by
  cases existing with
  | none =>
    cases claimed
    exact ⟨rfl, rfl, rfl, rfl, rfl, fun old impossible => by cases impossible⟩
  | some existing =>
    obtain ⟨_, bound, claimed⟩ := Result.bind_eq_ok.mp claimed
    by_cases ready : existing.state = .ready
    · rw [if_pos ready] at claimed
      cases claimed
    · rw [if_neg ready] at claimed
      simp only [Result.bind_eq_ok, Result.pure_eq_ok, Sum.inr.injEq] at claimed
      obtain ⟨-, -, rfl⟩ := claimed
      refine ⟨rfl, rfl, rfl, rfl, rfl, fun old same => ?_⟩
      cases same
      exact ⟨ready, sameBinding_eq_ok.mp bound, rfl⟩

theorem claimOver_ready {existing : Option ExecutionCheckout} {candidate found : ExecutionCheckout} {now : Datetime}
    (claimed : claimOver existing candidate now = .ok (.inl found)) :
    existing = some found ∧ found.state = .ready := by
  cases existing with
  | none => cases claimed
  | some existing =>
    obtain ⟨_, -, claimed⟩ := Result.bind_eq_ok.mp claimed
    by_cases ready : existing.state = .ready
    · rw [if_pos ready] at claimed
      cases claimed
      exact ⟨rfl, ready⟩
    · rw [if_neg ready] at claimed
      simp only [Result.bind_eq_ok, Result.pure_eq_ok, reduceCtorEq, and_false, exists_false] at claimed

theorem claim_returned {candidate : ExecutionCheckout} {now : Datetime} {answer : Answer}
    {after : InMemoryCheckoutRegistry} (returned : memory.claim candidate now = .ok (answer, after)) :
    (∃ existing, memory.records.get? candidate.executionId = some existing ∧ existing.state = .ready ∧
      answer = .checkout existing ∧ after = memory) ∨
    ∃ record, answer = .checkout record ∧ Entered (memory.records.get? candidate.executionId) candidate record ∧
      InMemoryCheckoutRegistry.ownedBy (memory.paths.get? record.workspacePath) record.executionId ∧
      InMemoryCheckoutRegistry.ownedBy (memory.branches.get? (record.repository.canonical, record.branch))
        record.executionId ∧
      after = { memory.store record with
        paths := memory.paths.set record.workspacePath record.executionId
        branches := memory.branches.set (record.repository.canonical, record.branch) record.executionId } := by
  obtain ⟨outcome, claimed, entered⟩ := Result.bind_eq_ok.mp returned
  cases outcome with
  | inl existing =>
    obtain ⟨found, ready⟩ := claimOver_ready claimed
    simp only [Result.pure_eq_ok, Prod.mk.injEq] at entered
    exact .inl ⟨existing, found, ready, entered.1.symm, entered.2.symm⟩
  | inr record =>
    simp only [Result.bind_eq_ok, Result.raiseIf_eq_ok, not_or, not_not, Result.pure_eq_ok, Prod.mk.injEq] at entered
    obtain ⟨-, ⟨path, branch⟩, rfl, rfl⟩ := entered
    exact .inr ⟨record, rfl, claimOver_record claimed, path, branch, rfl⟩

theorem owned_eq_ok {current : Option ExecutionCheckout} {ownerToken : String} {fenceToken : Int} {now : Datetime}
    {checkout : ExecutionCheckout} : owned current ownerToken fenceToken now = .ok checkout ↔
      current = some checkout ∧ checkout.state = .provisioning ∧ checkout.ownerToken = some ownerToken ∧
        checkout.fenceToken = fenceToken ∧ unexpired checkout.leaseExpiresAt now := by
  cases current with
  | none => simp [owned]
  | some record =>
    simp only [owned]
    by_cases mine : owns (some record) ownerToken fenceToken now
    · rw [if_pos mine]
      simp only [Result.pure_eq_ok, Option.some.injEq]
      constructor
      · rintro rfl
        exact ⟨rfl, of_decide_eq_true mine⟩
      · exact And.left
    · rw [if_neg mine]
      constructor
      · intro refused
        cases refused
      · rintro ⟨same, holds⟩
        cases same
        exact absurd (decide_eq_true holds) mine

theorem cleanable_eq_ok {current : Option ExecutionCheckout} {checkout : ExecutionCheckout} :
    cleanable current = .ok checkout ↔
      current = some checkout ∧ (checkout.state = .ready ∨ checkout.state = .cleanupFailed) := by
  cases current with
  | none => simp [cleanable]
  | some record =>
    simp only [cleanable]
    by_cases free : record.state = .ready ∨ record.state = .cleanupFailed
    · rw [if_pos free]
      simp only [Result.pure_eq_ok, Option.some.injEq]
      exact ⟨fun same => ⟨same, same ▸ free⟩, And.left⟩
    · rw [if_neg free]
      constructor
      · intro refused
        cases refused
      · rintro ⟨same, holds⟩
        cases same
        exact absurd holds free

theorem unexpired_iff {lease : Option Datetime} {now : Datetime} :
    unexpired lease now ↔ ∃ expiry, lease = some expiry ∧ expiry.later now := by
  cases lease <;> simp [unexpired]

theorem Tracked.owner (tracked : Tracked history memory) {executionId ownerToken : String} {fenceToken : Int}
    {now : Datetime} {checkout : ExecutionCheckout}
    (mine : owned (memory.records.get? executionId) ownerToken fenceToken now = .ok checkout) :
    ∃ latest lease expiry, latestOf granted history executionId = some latest ∧
      latest.ownerToken = some ownerToken ∧ latest.fenceToken = fenceToken ∧
      latestOf leased history executionId = some lease ∧ lease.leaseExpiresAt = some expiry ∧ expiry.later now := by
  obtain ⟨found, provisioning, owner, fence, runs⟩ := owned_eq_ok.mp mine
  obtain ⟨latest, isLatest, sameFence, sameOwner⟩ := (tracked.present executionId checkout found).latest
  obtain ⟨owners, lease, isLease, sameLease⟩ := sameOwner provisioning
  obtain ⟨expiry, here, later⟩ := unexpired_iff.mp runs
  exact ⟨latest, lease, expiry, isLatest, owners.trans owner, sameFence.trans fence, isLease, sameLease.trans here,
    later⟩

theorem owner_free {κ : Type} [DecidableEq κ] {index : Dict κ String} {records : Dict String ExecutionCheckout}
    {read : ExecutionCheckout → κ}
    (indexed : ∀ wanted executionId, index.get? wanted = some executionId ↔
      ∃ checkout, records.get? executionId = some checkout ∧ read checkout = wanted)
    {record : ExecutionCheckout}
    (owned : InMemoryCheckoutRegistry.ownedBy (index.get? (read record)) record.executionId)
    (executionId : String) (other : ExecutionCheckout) (found : records.get? executionId = some other)
    (same : read other = read record) : executionId = record.executionId := by
  have here := (indexed (read record) executionId).mpr ⟨other, found, same⟩
  rcases owned with free | mine
  · cases free.symm.trans here
  · exact Option.some.inj (here.symm.trans mine)

theorem Tracked.claim (tracked : Tracked history memory) {candidate : ExecutionCheckout} {now : Datetime}
    (provisioning : candidate.state = .provisioning) {answer : Answer} {after : InMemoryCheckoutRegistry}
    (returned : memory.claim candidate now = .ok (answer, after)) :
    Tracked ((.claim candidate now, answer) :: history) after := by
  rcases claim_returned returned with ⟨existing, found, ready, rfl, rfl⟩ |
    ⟨record, rfl, ⟨keyed, state, -, -, -, atop⟩, path, branch, rfl⟩
  · have nothing : granted (.claim candidate now, .checkout existing) = none := if_pos ready
    exact tracked.skip nothing rfl
  · have grants : granted (.claim candidate now, .checkout record) = some record :=
      if_neg (by rw [state, provisioning]; nofun)
    refine tracked.enter (fun lease leased => ?_) rfl (.grant grants fun call member earlier leased here => ?_)
      (index_set (·.workspacePath) tracked.paths record (fun existing found => ?_) (owner_free tracked.paths path))
      (index_set (fun record => (record.repository.canonical, record.branch)) tracked.branches record
        (fun existing found => ?_) (owner_free tracked.branches branch))
    · cases (leased_of_granted grants).symm.trans leased
      rfl
    · cases found : memory.records.get? candidate.executionId with
      | none => exact absurd (here.trans keyed) (tracked.absent _ found call member earlier leased)
      | some existing =>
        obtain ⟨-, bound, fence⟩ := atop existing found
        obtain ⟨before, same⟩ := (tracked.present _ _ found).earlier call member earlier leased (here.trans keyed)
        exact ⟨by omega, same.trans bound⟩
    · exact (atop existing (keyed ▸ found)).2.1.2.2.2.2.1
    · obtain ⟨repository, -, -, branch, -⟩ := (atop existing (keyed ▸ found)).2.1
      rw [repository, branch]

theorem Tracked.renew (tracked : Tracked history memory) {executionId ownerToken : String} {fenceToken : Int}
    {now leaseExpiresAt : Datetime} {answer : Answer} {after : InMemoryCheckoutRegistry}
    (returned : memory.renew executionId ownerToken fenceToken now leaseExpiresAt = .ok (answer, after)) :
    Tracked ((.renew executionId ownerToken fenceToken now leaseExpiresAt, answer) :: history) after := by
  simp only [InMemoryCheckoutRegistry.renew, Result.bind_eq_ok, Result.pure_eq_ok, Prod.mk.injEq] at returned
  obtain ⟨current, mine, rfl, rfl⟩ := returned
  obtain ⟨found, -⟩ := owned_eq_ok.mp mine
  have tracks := tracked.present executionId current found
  obtain ⟨rfl, ⟨latest, isLatest, fence, owner⟩, earlier⟩ := tracks
  show Tracked _ (memory.store (current.renewed now leaseExpiresAt))
  refine tracked.replace found (.refl _) (fun lease leased => ?_) rfl ⟨rfl, ⟨latest, ?_, fence, fun provisioning => ?_⟩, ?_⟩
  · cases leased
    rfl
  · exact isLatest
  · exact ⟨(owner provisioning).1, _, latestOf_cons_some rfl rfl history, rfl⟩
  · intro call member other leased here
    rcases List.mem_cons.mp member with rfl | member
    · cases leased
      exact ⟨Int.le_refl _, .refl _⟩
    · exact earlier call member other leased here

theorem Tracked.beginCleanup (tracked : Tracked history memory) {executionId ownerToken : String}
    {now leaseExpiresAt : Datetime} {answer : Answer} {after : InMemoryCheckoutRegistry}
    (returned : memory.beginCleanup executionId ownerToken now leaseExpiresAt = .ok (answer, after)) :
    Tracked ((.beginCleanup executionId ownerToken now leaseExpiresAt, answer) :: history) after := by
  simp only [InMemoryCheckoutRegistry.beginCleanup, Result.bind_eq_ok, Result.pure_eq_ok, Prod.mk.injEq] at returned
  obtain ⟨current, free, rfl, rfl⟩ := returned
  obtain ⟨found, -⟩ := cleanable_eq_ok.mp free
  obtain ⟨rfl, -, earlier⟩ := tracked.present executionId current found
  show Tracked _ (memory.store (current.cleaning ownerToken now leaseExpiresAt))
  refine tracked.replace found (.refl _) (fun lease leased => ?_) rfl (.grant rfl fun call member other leased here => ?_)
  · cases leased
    rfl
  · obtain ⟨before, same⟩ := earlier call member other leased here
    exact ⟨Int.le_trans before (by show current.fenceToken ≤ current.fenceToken + 1; omega), same⟩

theorem Tracked.update (tracked : Tracked history memory) {checkout : ExecutionCheckout} {ownerToken : String}
    {fenceToken : Int} {now : Datetime} (issued : Issued history (.update checkout ownerToken fenceToken now))
    {answer : Answer} {after : InMemoryCheckoutRegistry}
    (returned : memory.update checkout ownerToken fenceToken now = .ok (answer, after)) :
    Tracked ((.update checkout ownerToken fenceToken now, answer) :: history) after := by
  simp only [InMemoryCheckoutRegistry.update, Result.bind_eq_ok, Result.pure_eq_ok, Prod.mk.injEq] at returned
  obtain ⟨current, mine, rfl, rfl⟩ := returned
  obtain ⟨found, -, -, fence, -⟩ := owned_eq_ok.mp mine
  obtain ⟨-, call, member, claimed, leased, settles, sameFence⟩ := issued
  obtain ⟨-, ⟨latest, isLatest, latestFence, -⟩, earlier⟩ := tracked.present _ _ found
  have kept : checkout.fenceToken = current.fenceToken := settles.fence.trans (sameFence.symm.trans fence.symm)
  have bound : SameBinding current checkout :=
    (earlier call member claimed leased settles.keyed.symm).2.symm.trans settles.binding
  refine tracked.replace found bound (fun lease leased => by cases leased) rfl ⟨rfl, ⟨latest, isLatest, latestFence.trans kept.symm, ?_⟩, ?_⟩
  · exact fun provisioning => absurd provisioning settles.settled
  · intro other member' record leased' here
    rcases List.mem_cons.mp member' with rfl | member'
    · cases leased'
    · obtain ⟨before, same⟩ := earlier other member' record leased' here
      exact ⟨kept ▸ before, same.trans bound⟩

theorem Tracked.claimCache (tracked : Tracked history memory) {repositoryId executionId ownerToken : String}
    {executionFence : Int} {now leaseExpiresAt : Datetime} {answer : Answer} {after : InMemoryCheckoutRegistry}
    (returned : memory.claimCache repositoryId executionId ownerToken executionFence now leaseExpiresAt =
      .ok (answer, after)) :
    Tracked ((.claimCache repositoryId executionId ownerToken executionFence now leaseExpiresAt, answer) :: history)
      after := by
  simp only [InMemoryCheckoutRegistry.claimCache, Result.bind_eq_ok, Result.raiseIf_eq_ok, Result.pure_eq_ok,
    Prod.mk.injEq] at returned
  obtain ⟨-, -, -, -, rfl, rfl⟩ := returned
  refine tracked.cacheSet rfl fun other => ?_
  rw [Dict.get?_set, Dict.get?_set]
  by_cases here : repositoryId = other
  · subst here
    rw [if_pos rfl, if_pos rfl]
    refine ⟨fun call member earlier granted => ?_, fun current same => ?_⟩
    · rcases List.mem_cons.mp member with rfl | member
      · cases granted
        exact Int.le_refl _
      · have before := (tracked.cache repositoryId).earlier call member earlier granted
        exact Int.le_trans before (by rw [Option.getD_some]; omega)
    · cases same
      exact ⟨_, _, latestCacheOf_cons_some rfl history, rfl, rfl, rfl, rfl,
        latestCacheOf_cons_some rfl history, rfl⟩
  · rw [if_neg here, if_neg here]
    refine (tracked.cache other).cons fun claim claimed => ?_
    cases claimed
    exact here

theorem Tracked.renewCache (tracked : Tracked history memory) {repositoryId executionId ownerToken : String}
    {executionFence cacheFence : Int} {now leaseExpiresAt : Datetime} {answer : Answer}
    {after : InMemoryCheckoutRegistry}
    (returned : memory.renewCache repositoryId executionId ownerToken executionFence cacheFence now leaseExpiresAt =
      .ok (answer, after)) :
    Tracked ((.renewCache repositoryId executionId ownerToken executionFence cacheFence now leaseExpiresAt, answer) ::
      history) after := by
  simp only [InMemoryCheckoutRegistry.renewCache, Result.bind_eq_ok, Result.raiseIf_eq_ok, not_not,
    Result.pure_eq_ok, Prod.mk.injEq] at returned
  obtain ⟨-, renewable, rfl, rfl⟩ := returned
  obtain ⟨old, claimed⟩ := mayRenewCache_claim renewable
  refine tracked.cacheSet rfl fun other => ?_
  rw [Dict.get?_set]
  by_cases here : repositoryId = other
  · subst here
    rw [if_pos rfl]
    refine ⟨fun call member earlier granted => ?_, fun current same => ?_⟩
    · rcases List.mem_cons.mp member with rfl | member
      · cases granted
      · exact (tracked.cache repositoryId).earlier call member earlier granted
    · cases same
      obtain ⟨latest, lease, isLatest, owner, fence, execution, executionFence, -⟩ :=
        (tracked.cache repositoryId).latest _ claimed
      exact ⟨latest, _, isLatest, owner, fence, execution, executionFence, latestCacheOf_cons_some rfl history, rfl⟩
  · rw [if_neg here]
    refine (tracked.cache other).cons fun claim claimed => ?_
    cases claimed
    exact here

theorem Tracked.releaseCache (tracked : Tracked history memory) {repositoryId ownerToken : String} {cacheFence : Int}
    {answer : Answer} {after : InMemoryCheckoutRegistry}
    (returned : memory.releaseCache repositoryId ownerToken cacheFence = .ok (answer, after)) :
    Tracked ((.releaseCache repositoryId ownerToken cacheFence, answer) :: history) after := by
  unfold InMemoryCheckoutRegistry.releaseCache at returned
  cases claim : memory.cacheClaims.get? repositoryId with
  | none =>
    simp only [claim, Result.pure_eq_ok, Prod.mk.injEq] at returned
    obtain ⟨rfl, rfl⟩ := returned
    exact tracked.skip rfl rfl
  | some existing =>
    simp only [claim, Result.bind_eq_ok, Result.raiseIf_eq_ok, Result.pure_eq_ok, Prod.mk.injEq] at returned
    obtain ⟨-, -, rfl, rfl⟩ := returned
    refine tracked.cacheSet rfl fun other => ?_
    have tracks : TracksCache ((.releaseCache repositoryId ownerToken cacheFence, .done) :: history) other
        (memory.cacheFences.get? other) (memory.cacheClaims.get? other) :=
      (tracked.cache other).cons fun claim claimed => by cases claimed
    rw [Dict.get?_erase]
    split
    · exact ⟨tracks.earlier, fun _ claimed => by cases claimed⟩
    · exact tracks

theorem Tracked.step (tracked : Tracked history memory) {operation : Operation} (issued : Issued history operation)
    {answer : Answer} {after : InMemoryCheckoutRegistry}
    (returned : memory.perform operation = .ok (answer, after)) : Tracked ((operation, answer) :: history) after := by
  cases operation with
  | get executionId =>
    cases returned
    exact tracked.skip rfl rfl
  | claim => exact tracked.claim issued.1 returned
  | renew => exact tracked.renew returned
  | beginCleanup => exact tracked.beginCleanup returned
  | update => exact tracked.update issued returned
  | claimCache => exact tracked.claimCache returned
  | renewCache => exact tracked.renewCache returned
  | releaseCache => exact tracked.releaseCache returned

theorem tracked_run (run : Run InMemoryCheckoutRegistry.perform {} history memory) : Tracked history memory := by
  induction run with
  | start => exact tracked_empty
  | call earlier issued returned ih => exact ih.step issued returned

theorem Tracked.grants_above (tracked : Tracked history memory) {operation : Operation}
    (issued : Issued history operation) {answer : Answer} {after : InMemoryCheckoutRegistry}
    (returned : memory.perform operation = .ok (answer, after)) {record : ExecutionCheckout}
    (grants : granted (operation, answer) = some record) {call : Call} (member : call ∈ history)
    {earlier : ExecutionCheckout} (granted : granted call = some earlier)
    (here : earlier.executionId = record.executionId) : earlier.fenceToken < record.fenceToken := by
  have leased := leased_of_granted granted
  have above {existing : ExecutionCheckout} (found : memory.records.get? record.executionId = some existing)
      (fence : record.fenceToken = existing.fenceToken + 1) : earlier.fenceToken < record.fenceToken := by
    have before := ((tracked.present _ _ found).earlier call member earlier leased here).1
    omega
  cases operation with
  | claim candidate now =>
    rcases claim_returned returned with ⟨existing, -, ready, rfl, -⟩ |
      ⟨claimed, rfl, ⟨keyed, state, -, -, -, atop⟩, -⟩
    · cases (if_pos ready).symm.trans grants
    · have same : record = claimed := by
        have unready : claimed.state ≠ .ready := by rw [state, issued.1]; nofun
        exact (Option.some.inj ((if_neg unready).symm.trans grants)).symm
      subst same
      cases found : memory.records.get? candidate.executionId with
      | none => exact absurd (here.trans keyed) (tracked.absent _ found call member earlier leased)
      | some existing => exact above (keyed ▸ found) (atop existing found).2.2
  | beginCleanup executionId ownerToken now leaseExpiresAt =>
    simp only [InMemoryCheckoutRegistry.perform, InMemoryCheckoutRegistry.beginCleanup, Result.bind_eq_ok,
      Result.pure_eq_ok, Prod.mk.injEq] at returned
    obtain ⟨current, free, rfl, -⟩ := returned
    cases grants
    obtain ⟨found, -⟩ := cleanable_eq_ok.mp free
    have keyed := (tracked.present _ _ found).keyed
    exact above (show memory.records.get? current.executionId = some current from keyed ▸ found) rfl
  | _ => cases grants

theorem Tracked.cacheGrants_above (tracked : Tracked history memory) {operation : Operation} {answer : Answer}
    {after : InMemoryCheckoutRegistry} (returned : memory.perform operation = .ok (answer, after))
    {repositoryId : String} {claim : CacheClaim} (grants : grantedCache (operation, answer) = some (repositoryId, claim))
    {call : Call} (member : call ∈ history) {earlier : CacheClaim}
    (granted : grantedCache call = some (repositoryId, earlier)) : earlier.fenceToken < claim.fenceToken := by
  cases operation with
  | claimCache repository executionId ownerToken executionFence now leaseExpiresAt =>
    simp only [InMemoryCheckoutRegistry.perform, InMemoryCheckoutRegistry.claimCache, Result.bind_eq_ok,
      Result.raiseIf_eq_ok, Result.pure_eq_ok, Prod.mk.injEq] at returned
    obtain ⟨-, -, -, -, rfl, -⟩ := returned
    cases grants
    have before := (tracked.cache repositoryId).earlier call member earlier granted
    show earlier.fenceToken < (memory.cacheFences.get? repositoryId).getD 0 + 1
    omega
  | _ => cases grants

theorem bound_set {records : Dict String ExecutionCheckout} {entered : ExecutionCheckout}
    (atop : ∀ old, records.get? entered.executionId = some old → SameBinding old entered) {executionId : String}
    {record : ExecutionCheckout} (found : records.get? executionId = some record) :
    ∃ kept, (records.set entered.executionId entered).get? executionId = some kept ∧ SameBinding record kept := by
  rw [Dict.get?_set]
  split
  · rename_i here
    exact ⟨entered, rfl, atop record (here ▸ found)⟩
  · exact ⟨record, found, .refl _⟩

theorem Tracked.bound (tracked : Tracked history memory) {operation : Operation} (issued : Issued history operation)
    {answer : Answer} {after : InMemoryCheckoutRegistry} (returned : memory.perform operation = .ok (answer, after))
    {executionId : String} {record : ExecutionCheckout} (found : memory.records.get? executionId = some record) :
    ∃ kept, after.records.get? executionId = some kept ∧ SameBinding record kept := by
  have unchanged (same : after.records = memory.records) :
      ∃ kept, after.records.get? executionId = some kept ∧ SameBinding record kept :=
    ⟨record, same ▸ found, .refl _⟩
  cases operation with
  | get => cases returned; exact unchanged rfl
  | claim candidate now =>
    rcases claim_returned returned with ⟨existing, -, -, -, rfl⟩ |
      ⟨claimed, -, ⟨keyed, -, -, -, -, atop⟩, -, -, rfl⟩
    · exact unchanged rfl
    · exact bound_set (fun old here => (atop old (keyed ▸ here)).2.1) found
  | renew executionId' ownerToken fenceToken now leaseExpiresAt =>
    simp only [InMemoryCheckoutRegistry.perform, InMemoryCheckoutRegistry.renew, Result.bind_eq_ok,
      Result.pure_eq_ok, Prod.mk.injEq] at returned
    obtain ⟨current, mine, -, rfl⟩ := returned
    obtain ⟨here, -⟩ := owned_eq_ok.mp mine
    have keyed := (tracked.present _ _ here).keyed
    subst keyed
    refine bound_set (show ∀ old, memory.records.get? (current.renewed now leaseExpiresAt).executionId = some old →
      SameBinding old (current.renewed now leaseExpiresAt) from fun old there => ?_) found
    cases here.symm.trans there
    exact .refl _
  | beginCleanup executionId' ownerToken now leaseExpiresAt =>
    simp only [InMemoryCheckoutRegistry.perform, InMemoryCheckoutRegistry.beginCleanup, Result.bind_eq_ok,
      Result.pure_eq_ok, Prod.mk.injEq] at returned
    obtain ⟨current, free, -, rfl⟩ := returned
    obtain ⟨here, -⟩ := cleanable_eq_ok.mp free
    have keyed := (tracked.present _ _ here).keyed
    subst keyed
    refine bound_set (show ∀ old,
      memory.records.get? (current.cleaning ownerToken now leaseExpiresAt).executionId = some old →
      SameBinding old (current.cleaning ownerToken now leaseExpiresAt) from fun old there => ?_) found
    cases here.symm.trans there
    exact .refl _
  | update checkout =>
    simp only [InMemoryCheckoutRegistry.perform, InMemoryCheckoutRegistry.update, Result.bind_eq_ok,
      Result.pure_eq_ok, Prod.mk.injEq] at returned
    obtain ⟨current, mine, -, rfl⟩ := returned
    obtain ⟨here, -⟩ := owned_eq_ok.mp mine
    obtain ⟨-, call, member, claimed, leased, settles, -⟩ := issued
    refine bound_set (fun old there => ?_) found
    cases here.symm.trans there
    exact ((tracked.present _ _ here).earlier call member claimed leased settles.keyed.symm).2.symm.trans settles.binding
  | claimCache =>
    simp only [InMemoryCheckoutRegistry.perform, InMemoryCheckoutRegistry.claimCache, Result.bind_eq_ok,
      Result.raiseIf_eq_ok, Result.pure_eq_ok, Prod.mk.injEq] at returned
    obtain ⟨-, -, -, -, -, rfl⟩ := returned
    exact unchanged rfl
  | renewCache =>
    simp only [InMemoryCheckoutRegistry.perform, InMemoryCheckoutRegistry.renewCache, Result.bind_eq_ok,
      Result.raiseIf_eq_ok, Result.pure_eq_ok, Prod.mk.injEq] at returned
    obtain ⟨-, -, -, rfl⟩ := returned
    exact unchanged rfl
  | releaseCache repositoryId =>
    simp only [InMemoryCheckoutRegistry.perform, InMemoryCheckoutRegistry.releaseCache] at returned
    cases claim : memory.cacheClaims.get? repositoryId with
    | none =>
      simp only [claim, Result.pure_eq_ok, Prod.mk.injEq] at returned
      exact unchanged (returned.2 ▸ rfl)
    | some existing =>
      simp only [claim, Result.bind_eq_ok, Result.pure_eq_ok, Prod.mk.injEq] at returned
      obtain ⟨-, -, -, rfl⟩ := returned
      exact unchanged rfl

theorem owned_of_owns {current : Option ExecutionCheckout} {ownerToken : String} {fenceToken : Int} {now : Datetime}
    (mine : owns current ownerToken fenceToken now) :
    ∃ checkout, owned current ownerToken fenceToken now = .ok checkout := by
  cases current with
  | none => cases mine
  | some checkout => exact ⟨checkout, if_pos mine⟩

theorem mayRenewCache_runs {repositoryId executionId ownerToken : String} {executionFence cacheFence : Int}
    {now : Datetime}
    (renewable : memory.mayRenewCache repositoryId executionId ownerToken executionFence cacheFence now) :
    owns (memory.records.get? executionId) ownerToken executionFence now ∧
      ∃ lease, memory.cacheClaims.get? repositoryId =
        some ⟨ownerToken, cacheFence, lease, executionId, executionFence⟩ ∧ lease.later now := by
  obtain ⟨lease, claimed⟩ := mayRenewCache_claim renewable
  unfold InMemoryCheckoutRegistry.mayRenewCache at renewable
  simp only [claimed, decide_eq_true_eq, true_and] at renewable
  exact ⟨renewable.2, lease, claimed, renewable.1⟩

theorem ownerCall_owned {operation : Operation} {answer : Answer} {after : InMemoryCheckoutRegistry}
    (returned : memory.perform operation = .ok (answer, after)) {executionId ownerToken : String} {fenceToken : Int}
    {now : Datetime} (call : ownerCall operation = some (executionId, ownerToken, fenceToken, now)) :
    ∃ checkout, owned (memory.records.get? executionId) ownerToken fenceToken now = .ok checkout := by
  cases operation with
  | renewCache =>
    cases call
    simp only [InMemoryCheckoutRegistry.perform, InMemoryCheckoutRegistry.renewCache, Result.bind_eq_ok,
      Result.raiseIf_eq_ok, not_not] at returned
    obtain ⟨-, renewable, -⟩ := returned
    exact owned_of_owns (mayRenewCache_runs renewable).1
  | renew | update | claimCache =>
    cases call
    obtain ⟨checkout, mine, -⟩ := Result.bind_eq_ok.mp returned
    exact ⟨checkout, mine⟩
  | _ => cases call

theorem Tracked.cacheOwner (tracked : Tracked history memory) {repositoryId executionId ownerToken : String}
    {executionFence cacheFence : Int} {now leaseExpiresAt : Datetime} {answer : Answer}
    {after : InMemoryCheckoutRegistry}
    (returned : memory.renewCache repositoryId executionId ownerToken executionFence cacheFence now leaseExpiresAt =
      .ok (answer, after)) :
    ∃ latest lease, latestCacheOf grantedCache history repositoryId = some latest ∧
      latest.ownerToken = ownerToken ∧ latest.fenceToken = cacheFence ∧ latest.executionId = executionId ∧
      latest.executionFence = executionFence ∧
      latestCacheOf leasedCache history repositoryId = some lease ∧ lease.leaseExpiresAt.later now := by
  simp only [InMemoryCheckoutRegistry.renewCache, Result.bind_eq_ok, Result.raiseIf_eq_ok, not_not] at returned
  obtain ⟨-, renewable, -⟩ := returned
  obtain ⟨-, expiry, claimed, runs⟩ := mayRenewCache_runs renewable
  obtain ⟨latest, lease, isLatest, owner, fence, execution, executionFence, isLease, same⟩ :=
    (tracked.cache repositoryId).latest _ claimed
  exact ⟨latest, lease, isLatest, owner, fence, execution, executionFence, isLease, same ▸ runs⟩

theorem Tracked.apart (tracked : Tracked history memory) {executionId executionId' : String}
    {record record' : ExecutionCheckout} (different : executionId ≠ executionId')
    (found : memory.records.get? executionId = some record) (found' : memory.records.get? executionId' = some record') :
    record.workspacePath ≠ record'.workspacePath ∧
      (record.repository.canonical, record.branch) ≠ (record'.repository.canonical, record'.branch) := by
  constructor
  · intro same
    have mine := (tracked.paths _ _).mpr ⟨record, found, same⟩
    have theirs := (tracked.paths _ _).mpr ⟨record', found', rfl⟩
    exact different (Option.some.inj (mine.symm.trans theirs))
  · intro same
    have mine := (tracked.branches _ _).mpr ⟨record, found, same⟩
    have theirs := (tracked.branches _ _).mpr ⟨record', found', rfl⟩
    exact different (Option.some.inj (mine.symm.trans theirs))

theorem Tracked.fenced (tracked : Tracked history memory) :
    Fenced InMemoryCheckoutRegistry.perform history memory where
  calls := fun operation answer after issued returned => {
    grants := fun record grants call member earlier granted here =>
      tracked.grants_above issued returned grants member granted here
    cacheGrants := fun repositoryId claim grants call member earlier granted =>
      tracked.cacheGrants_above returned grants member granted
    owner := fun executionId ownerToken fenceToken now call => by
      obtain ⟨checkout, mine⟩ := ownerCall_owned returned call
      exact tracked.owner mine
    cacheOwner := fun repositoryId executionId ownerToken executionFence cacheFence now leaseExpiresAt same => by
      subst same
      exact tracked.cacheOwner returned
    ready := fun candidate now record same found ready => by
      subst same
      rw [finds_iff] at found
      rcases claim_returned returned with ⟨existing, here, -, rfl, rfl⟩ | ⟨claimed, -, entered, -⟩
      · cases found.symm.trans here
        exact ⟨rfl, rfl⟩
      · exact absurd ready (entered.atop record found).1
    bound := fun executionId record found => by
      rw [finds_iff] at found
      obtain ⟨kept, here, bound⟩ := tracked.bound issued returned found
      exact ⟨kept, finds_iff.mpr here, bound⟩ }
  apart := fun executionId executionId' record record' different found found' =>
    tracked.apart different (finds_iff.mp found) (finds_iff.mp found')

end InMemory

end Aep.Checkout
