import Aep.Checkout.Fencing

namespace Aep.Checkout

def ExecutionCheckout.Utc (checkout : ExecutionCheckout) : Prop :=
  ofUtc (checkout.createdAt :: checkout.updatedAt :: checkout.leaseExpiresAt.toList)

structure UtcRun (history : List Call) (memory : InMemoryCheckoutRegistry) : Prop where
  records : ∀ executionId record, memory.records.get? executionId = some record → record.Utc
  claims : ∀ repositoryId claim, memory.cacheClaims.get? repositoryId = some claim →
    claim.leaseExpiresAt.tzinfo = .utc
  answers : ∀ call ∈ history, ∀ record, leased call = some record → record.createdAt.tzinfo = .utc

theorem Datetime.astimezone_utc {time : Datetime} (utc : time.tzinfo = .utc) : time.astimezone = .ok time := by
  have offset := time.fixed utc
  rcases time with ⟨wall, offset', tzinfo, inRange, fixed⟩
  simp only at utc offset
  subst utc offset
  exact Datetime.astimezone_eq_ok.mpr ⟨by simp [instant, inRange], rfl⟩

theorem ExecutionCheckout.Utc.inUtc {checkout : ExecutionCheckout} (utc : checkout.Utc) :
    checkout.inUtc = .ok checkout := by
  simp only [Utc, ofUtc, List.mem_cons, Option.mem_toList, forall_eq_or_imp] at utc
  obtain ⟨created, updated, lease⟩ := utc
  have leased : checkout.leaseExpiresAt.mapM Datetime.astimezone = .ok checkout.leaseExpiresAt := by
    cases expiry : checkout.leaseExpiresAt with
    | none => rfl
    | some time =>
      show some <$> time.astimezone = _
      rw [Datetime.astimezone_utc (lease time (by rw [expiry])), Result.map_ok]
  unfold ExecutionCheckout.inUtc
  rw [Datetime.astimezone_utc created, Datetime.astimezone_utc updated, leased]
  rfl

theorem later_utc {expiry now : Datetime} (utc : expiry.tzinfo = .utc) :
    expiry.later now = decide (now.instant < expiry.instant) :=
  Datetime.later_of_astimezone (Datetime.astimezone_utc utc) now

section Steps

variable {history : List Call} {memory : InMemoryCheckoutRegistry} {database : SqliteCheckoutRegistry}

theorem load_utc (mirrored : Mirrored memory database) (utc : UtcRun history memory) (executionId : String) :
    database.loadLocked executionId = .ok (memory.records.get? executionId) := by
  rcases mirrored.load executionId with ⟨absent, loaded⟩ | ⟨checkout, stored, found, -, -, converted, loaded⟩
  · rw [absent, loaded]
  · have same := Except.ok.inj (converted.symm.trans (utc.records _ _ found).inUtc)
    rw [found, loaded, same]

theorem put_eq_ok (mirrored : Mirrored memory database) {checkout : ExecutionCheckout}
    {after : SqliteCheckoutRegistry} (stored : database.put checkout = .ok after) :
    ¬Clash memory checkout ∧ ∃ row, SqliteCheckoutRegistry.rowOf checkout = .ok row ∧
      after = { database with executionCheckouts := database.executionCheckouts.set checkout.executionId row } := by
  rcases mirrored.put_cases checkout with ⟨-, -, raised⟩ | ⟨-, raised⟩ | ⟨-, free, row, written, entered⟩
  · cases raised.symm.trans stored
  · cases raised.symm.trans stored
  · exact ⟨free, row, written, (Except.ok.inj (entered.symm.trans stored)).symm⟩

theorem enterInMemory_free (mirrored : Mirrored memory database) {record : ExecutionCheckout}
    (free : ¬Clash memory record) :
    enterInMemory memory record = .ok (.checkout record, {
      memory.store record with
      paths := memory.paths.set record.workspacePath record.executionId
      branches := memory.branches.set (record.repository.canonical, record.branch) record.executionId }) := by
  unfold enterInMemory
  rw [Result.raiseIf_neg fun taken => free ((mirrored.owned_iff record).mp taken)]
  rfl

theorem claim_mirrored (mirrored : Mirrored memory database) (utc : UtcRun history memory)
    {candidate : ExecutionCheckout} {now : Datetime} {answer : Answer} {after : SqliteCheckoutRegistry}
    (returned : database.claim candidate now = .ok (answer, after)) :
    ∃ memory', memory.claim candidate now = .ok (answer, memory') ∧ Mirrored memory' after := by
  unfold SqliteCheckoutRegistry.claim at returned
  rw [load_utc mirrored utc, Result.ok_bind] at returned
  obtain ⟨outcome, claimed, entered⟩ := Result.bind_eq_ok.mp returned
  unfold InMemoryCheckoutRegistry.claim
  rw [claimed, Result.ok_bind]
  cases outcome with
  | inl existing =>
    simp only [Result.pure_eq_ok, Prod.mk.injEq] at entered
    obtain ⟨rfl, rfl⟩ := entered
    exact ⟨memory, rfl, mirrored⟩
  | inr record =>
    simp only [Result.bind_eq_ok, Result.pure_eq_ok, Prod.mk.injEq] at entered
    obtain ⟨stored, claimedPut, rfl, rfl⟩ := entered
    have put : database.put record = .ok stored := by
      unfold SqliteCheckoutRegistry.putClaimed at claimedPut
      split at claimedPut
      · cases claimedPut
      · exact claimedPut
    obtain ⟨free, row, written, rfl⟩ := put_eq_ok mirrored put
    have entered := claimOver_record claimed
    refine ⟨_, enterInMemory_free mirrored free, mirrored.enter (fun old found => ?_) free written⟩
    obtain ⟨repository, -, -, branch, path, -⟩ := (entered.atop old (entered.keyed ▸ found)).2.1
    exact ⟨path, by rw [repository, branch]⟩

theorem renew_mirrored (mirrored : Mirrored memory database) (utc : UtcRun history memory)
    (tracked : Tracked history memory) {executionId ownerToken : String} {fenceToken : Int}
    {now leaseExpiresAt : Datetime} {answer : Answer} {after : SqliteCheckoutRegistry}
    (returned : database.renew executionId ownerToken fenceToken now leaseExpiresAt = .ok (answer, after)) :
    ∃ memory', memory.renew executionId ownerToken fenceToken now leaseExpiresAt = .ok (answer, memory') ∧
      Mirrored memory' after := by
  unfold SqliteCheckoutRegistry.renew at returned
  rw [load_utc mirrored utc, Result.ok_bind] at returned
  simp only [Result.bind_eq_ok, Result.pure_eq_ok, Prod.mk.injEq] at returned
  obtain ⟨current, mine, stored, put, rfl, rfl⟩ := returned
  obtain ⟨-, row, written, rfl⟩ := put_eq_ok mirrored put
  unfold InMemoryCheckoutRegistry.renew
  obtain ⟨found, -⟩ := owned_eq_ok.mp mine
  have keyed := (tracked.present _ _ found).keyed
  subst keyed
  rw [mine]
  have here : memory.records.get? (current.renewed now leaseExpiresAt).executionId = some current := found
  exact ⟨_, rfl, mirrored.replace here rfl rfl written⟩

theorem beginCleanup_mirrored (mirrored : Mirrored memory database) (utc : UtcRun history memory)
    (tracked : Tracked history memory) {executionId ownerToken : String} {now leaseExpiresAt : Datetime}
    {answer : Answer} {after : SqliteCheckoutRegistry}
    (returned : database.beginCleanup executionId ownerToken now leaseExpiresAt = .ok (answer, after)) :
    ∃ memory', memory.beginCleanup executionId ownerToken now leaseExpiresAt = .ok (answer, memory') ∧
      Mirrored memory' after := by
  unfold SqliteCheckoutRegistry.beginCleanup at returned
  rw [load_utc mirrored utc, Result.ok_bind] at returned
  simp only [Result.bind_eq_ok, Result.pure_eq_ok, Prod.mk.injEq] at returned
  obtain ⟨current, free, stored, put, rfl, rfl⟩ := returned
  obtain ⟨-, row, written, rfl⟩ := put_eq_ok mirrored put
  unfold InMemoryCheckoutRegistry.beginCleanup
  obtain ⟨found, -⟩ := cleanable_eq_ok.mp free
  have keyed := (tracked.present _ _ found).keyed
  subst keyed
  rw [free]
  have here : memory.records.get? (current.cleaning ownerToken now leaseExpiresAt).executionId = some current := found
  exact ⟨_, rfl, mirrored.replace here rfl rfl written⟩

theorem update_mirrored (mirrored : Mirrored memory database) (utc : UtcRun history memory)
    (tracked : Tracked history memory) {checkout : ExecutionCheckout} {ownerToken : String} {fenceToken : Int}
    {now : Datetime} (issued : Issued history (.update checkout ownerToken fenceToken now)) {answer : Answer}
    {after : SqliteCheckoutRegistry}
    (returned : database.update checkout ownerToken fenceToken now = .ok (answer, after)) :
    ∃ memory', memory.update checkout ownerToken fenceToken now = .ok (answer, memory') ∧ Mirrored memory' after := by
  unfold SqliteCheckoutRegistry.update at returned
  rw [load_utc mirrored utc, Result.ok_bind] at returned
  simp only [Result.bind_eq_ok, Result.pure_eq_ok, Prod.mk.injEq] at returned
  obtain ⟨current, mine, stored, put, rfl, rfl⟩ := returned
  obtain ⟨-, row, written, rfl⟩ := put_eq_ok mirrored put
  obtain ⟨found, -⟩ := owned_eq_ok.mp mine
  obtain ⟨-, call, member, claimed, leased, settles, -⟩ := issued
  have bound : SameBinding current checkout :=
    ((tracked.present _ _ found).earlier call member claimed leased settles.keyed.symm).2.symm.trans settles.binding
  obtain ⟨repository, -, -, branch, path, -⟩ := bound
  unfold InMemoryCheckoutRegistry.update
  rw [mine]
  exact ⟨_, rfl, mirrored.replace found path (by rw [repository, branch]) written⟩

theorem cacheRuns_utc (utc : UtcRun history memory) (repositoryId : String) (now : Datetime) :
    (memory.cacheClaims.get? repositoryId).any (fun claim => claim.leaseExpiresAt.later now) =
      cacheRunsAt (memory.cacheClaims.get? repositoryId) now := by
  cases claim : memory.cacheClaims.get? repositoryId with
  | none => rfl
  | some existing =>
    show existing.leaseExpiresAt.later now = _
    rw [later_utc (utc.claims _ _ claim)]
    rfl

theorem claimCache_mirrored (mirrored : Mirrored memory database) (utc : UtcRun history memory)
    {repositoryId executionId ownerToken : String} {executionFence : Int} {now leaseExpiresAt : Datetime}
    {answer : Answer} {after : SqliteCheckoutRegistry}
    (returned : database.claimCache repositoryId executionId ownerToken executionFence now leaseExpiresAt =
      .ok (answer, after)) :
    ∃ memory', memory.claimCache repositoryId executionId ownerToken executionFence now leaseExpiresAt =
      .ok (answer, memory') ∧ Mirrored memory' after := by
  obtain ⟨held, next⟩ := cacheHeld_mirrored (mirrored.cache repositoryId) now
  unfold SqliteCheckoutRegistry.claimCache at returned
  rw [load_utc mirrored utc, Result.ok_bind] at returned
  simp only [held, next, Result.ok_bind, Result.bind_eq_ok, Result.raiseIf_eq_ok, Result.pure_eq_ok, Prod.mk.injEq]
    at returned
  obtain ⟨current, mine, -, free, text, written, -, -, -, -, rfl, rfl⟩ := returned
  unfold InMemoryCheckoutRegistry.claimCache
  simp only [mine, Result.ok_bind, cacheRuns_utc utc, Result.raiseIf_neg free]
  exact ⟨_, rfl, cache_set mirrored repositoryId _ written _ fun other => Dict.get?_set _ _ _ _⟩

theorem mayRenewCache_utc (utc : UtcRun history memory) (repositoryId executionId ownerToken : String)
    (executionFence cacheFence : Int) (now : Datetime) :
    memory.mayRenewCacheAt repositoryId executionId ownerToken executionFence cacheFence now =
      memory.mayRenewCache repositoryId executionId ownerToken executionFence cacheFence now := by
  have owner : ownsAt (memory.records.get? executionId) ownerToken executionFence now =
      owns (memory.records.get? executionId) ownerToken executionFence now := by
    cases found : memory.records.get? executionId with
    | none => simp [owns, ownsAt]
    | some record => exact (owns_stored (utc.records _ _ found).inUtc ownerToken executionFence now).symm
  unfold InMemoryCheckoutRegistry.mayRenewCacheAt InMemoryCheckoutRegistry.mayRenewCache
  cases claim : memory.cacheClaims.get? repositoryId with
  | none => rfl
  | some existing => simp [owner, later_utc (utc.claims _ _ claim)]

theorem renewCache_mirrored (mirrored : Mirrored memory database) (utc : UtcRun history memory)
    {repositoryId executionId ownerToken : String} {executionFence cacheFence : Int} {now leaseExpiresAt : Datetime}
    {answer : Answer} {after : SqliteCheckoutRegistry}
    (returned : database.renewCache repositoryId executionId ownerToken executionFence cacheFence now leaseExpiresAt =
      .ok (answer, after)) :
    ∃ memory', memory.renewCache repositoryId executionId ownerToken executionFence cacheFence now leaseExpiresAt =
      .ok (answer, memory') ∧ Mirrored memory' after := by
  obtain ⟨current, loaded, renewable⟩ :=
    mayRenewCache_mirrored mirrored repositoryId executionId ownerToken executionFence cacheFence now
  unfold SqliteCheckoutRegistry.renewCache at returned
  rw [loaded, Result.ok_bind] at returned
  simp only [renewable, mayRenewCache_utc utc, Result.ok_bind, Result.bind_eq_ok, Result.raiseIf_eq_ok, not_not,
    Result.pure_eq_ok, Prod.mk.injEq] at returned
  obtain ⟨-, allowed, text, written, rfl, rfl⟩ := returned
  obtain ⟨lease, claim⟩ := mayRenewCache_claim allowed
  have cache := mirrored.cache repositoryId
  rw [claim] at cache
  obtain ⟨fence, old, -, row⟩ := cache.of_claim
  unfold InMemoryCheckoutRegistry.renewCache
  rw [Result.raiseIf_neg (not_not.mpr allowed), row]
  refine ⟨_, rfl, cache_set mirrored repositoryId
    ⟨ownerToken, cacheFence, leaseExpiresAt, executionId, executionFence⟩ written memory.cacheFences fun other => ?_⟩
  by_cases here : repositoryId = other
  · rw [if_pos here, ← here, fence]
  · rw [if_neg here]

theorem releaseCache_mirrored (mirrored : Mirrored memory database) {repositoryId ownerToken : String}
    {cacheFence : Int} {answer : Answer} {after : SqliteCheckoutRegistry}
    (returned : database.releaseCache repositoryId ownerToken cacheFence = .ok (answer, after)) :
    ∃ memory', memory.releaseCache repositoryId ownerToken cacheFence = .ok (answer, memory') ∧
      Mirrored memory' after := by
  have alike := (releaseCache_decides mirrored repositoryId ownerToken cacheFence).1
  have cache := mirrored.cache repositoryId
  have done : memory.Agreeable (.releaseCache repositoryId ownerToken cacheFence) ∧ answer = .done := by
    unfold SqliteCheckoutRegistry.releaseCache bindInteger at returned
    simp only [Result.bind_eq_ok, Result.raiseIf_eq_ok, not_not] at returned
    obtain ⟨-, fits, released⟩ := returned
    cases row : database.repositoryCacheClaims.get? repositoryId with
    | none =>
      rw [row] at released
      cases released
    | some row' =>
      simp only [row, Result.bind_eq_ok, Result.raiseIf_eq_ok, not_or, not_not, Result.pure_eq_ok, Prod.mk.injEq]
        at released
      obtain ⟨-, ⟨owner, -⟩, rfl, -⟩ := released
      refine ⟨⟨fun unclaimed => ?_, fits⟩, rfl⟩
      rw [unclaimed, row] at cache
      have unowned := cache.of_unclaimed
      simp [owner] at unowned
  obtain ⟨agreeable, rfl⟩ := done
  have alike := alike agreeable
  rw [returned] at alike
  cases released : memory.releaseCache repositoryId ownerToken cacheFence with
  | error error =>
    rw [released] at alike
    exact alike.elim
  | ok outcome =>
    rw [released] at alike
    obtain ⟨same, mirrored'⟩ := alike
    rcases outcome with ⟨answer, memory'⟩
    cases answer with
    | done => exact ⟨memory', rfl, mirrored'⟩
    | _ => exact same.elim

theorem perform_mirrored (mirrored : Mirrored memory database) (utc : UtcRun history memory)
    (tracked : Tracked history memory) {operation : Operation} (issued : Issued history operation) {answer : Answer}
    {after : SqliteCheckoutRegistry} (returned : database.perform operation = .ok (answer, after)) :
    ∃ memory', memory.perform operation = .ok (answer, memory') ∧ Mirrored memory' after := by
  cases operation with
  | get executionId =>
    simp only [SqliteCheckoutRegistry.perform, SqliteCheckoutRegistry.get, load_utc mirrored utc, Result.ok_bind,
      Result.pure_eq_ok, Prod.mk.injEq] at returned
    obtain ⟨rfl, rfl⟩ := returned
    exact ⟨memory, rfl, mirrored⟩
  | claim => exact claim_mirrored mirrored utc returned
  | renew => exact renew_mirrored mirrored utc tracked returned
  | beginCleanup => exact beginCleanup_mirrored mirrored utc tracked returned
  | update => exact update_mirrored mirrored utc tracked issued returned
  | claimCache => exact claimCache_mirrored mirrored utc returned
  | renewCache => exact renewCache_mirrored mirrored utc returned
  | releaseCache => exact releaseCache_mirrored mirrored returned

theorem ofUtc_cons {time : Datetime} {times : List Datetime} :
    ofUtc (time :: times) ↔ time.tzinfo = .utc ∧ ofUtc times := List.forall_mem_cons

theorem ofUtc_nil : ofUtc [] := by simp [ofUtc]

theorem utc_iff {checkout : ExecutionCheckout} : checkout.Utc ↔ checkout.createdAt.tzinfo = .utc ∧
    checkout.updatedAt.tzinfo = .utc ∧ ofUtc checkout.leaseExpiresAt.toList := by
  unfold ExecutionCheckout.Utc
  rw [ofUtc_cons, ofUtc_cons]

theorem UtcRun.enter (utc : UtcRun history memory) {call : Call} {record : ExecutionCheckout} (stored : record.Utc)
    (answers : ∀ lease, leased call = some lease → lease = record) (key : String)
    (paths : Dict String String) (branches : Dict (String × String) String) :
    UtcRun (call :: history) { memory with records := memory.records.set key record, paths, branches } where
  records := fun executionId other found => by
    have found : (memory.records.set key record).get? executionId = some other := found
    rw [Dict.get?_set] at found
    split at found
    · cases found
      exact stored
    · exact utc.records executionId other found
  claims := utc.claims
  answers := fun earlier member lease leased => by
    rcases List.mem_cons.mp member with rfl | member
    · rw [answers lease leased]
      exact (utc_iff.mp stored).1
    · exact utc.answers earlier member lease leased

theorem UtcRun.cacheSet (utc : UtcRun history memory) {call : Call} (leases : leased call = none)
    {fences : Dict String Int} {claims : Dict String CacheClaim}
    (stored : ∀ repositoryId claim, claims.get? repositoryId = some claim → claim.leaseExpiresAt.tzinfo = .utc) :
    UtcRun (call :: history) { memory with cacheFences := fences, cacheClaims := claims } where
  records := utc.records
  claims := stored
  answers := fun earlier member lease leased => by
    rcases List.mem_cons.mp member with rfl | member
    · cases leases.symm.trans leased
    · exact utc.answers earlier member lease leased

theorem UtcRun.claimed (utc : UtcRun history memory) {repositoryId : String} {entered : CacheClaim}
    (lease : entered.leaseExpiresAt.tzinfo = .utc) (other : String) (claim : CacheClaim)
    (found : (memory.cacheClaims.set repositoryId entered).get? other = some claim) :
    claim.leaseExpiresAt.tzinfo = .utc := by
  rw [Dict.get?_set] at found
  split at found
  · cases found
    exact lease
  · exact utc.claims other claim found

theorem UtcRun.step (utc : UtcRun history memory) (tracked : Tracked history memory) {operation : Operation}
    (issued : Issued history operation) {answer : Answer} {after : InMemoryCheckoutRegistry}
    (returned : memory.perform operation = .ok (answer, after)) : UtcRun ((operation, answer) :: history) after := by
  cases operation with
  | get =>
    cases returned
    exact utc.cacheSet rfl utc.claims
  | claim candidate now =>
    obtain ⟨provisioning, -, times⟩ := issued
    simp only [ofUtc_cons] at times
    obtain ⟨-, created, updated, lease⟩ := times
    rcases claim_returned returned with ⟨existing, found, ready, rfl, rfl⟩ | ⟨record, rfl, entered, -, -, rfl⟩
    · have nothing : leased (.claim candidate now, .checkout existing) = none := if_pos ready
      exact utc.cacheSet nothing utc.claims
    · refine utc.enter (utc_iff.mpr ⟨?_, entered.updated ▸ updated, entered.lease ▸ lease⟩) (fun lease leased => ?_) _ _ _
      · rw [entered.created]
        cases found : memory.records.get? candidate.executionId with
        | none => exact created
        | some existing => exact (utc_iff.mp (utc.records _ _ found)).1
      · have unready : record.state ≠ .ready := by rw [entered.state, provisioning]; nofun
        exact (Option.some.inj ((if_neg unready).symm.trans leased)).symm
  | renew executionId ownerToken fenceToken now leaseExpiresAt =>
    simp only [Issued, ofUtc_cons] at issued
    obtain ⟨clock, expiry, -⟩ := issued
    simp only [InMemoryCheckoutRegistry.perform, InMemoryCheckoutRegistry.renew, Result.bind_eq_ok,
      Result.pure_eq_ok, Prod.mk.injEq] at returned
    obtain ⟨current, mine, rfl, rfl⟩ := returned
    obtain ⟨found, -⟩ := owned_eq_ok.mp mine
    have stored : (current.renewed now leaseExpiresAt).Utc :=
      utc_iff.mpr ⟨(utc_iff.mp (utc.records _ _ found)).1, clock, ofUtc_cons.mpr ⟨expiry, ofUtc_nil⟩⟩
    exact utc.enter stored (fun lease leased => by cases leased; rfl) executionId _ _
  | beginCleanup executionId ownerToken now leaseExpiresAt =>
    simp only [Issued, ofUtc_cons] at issued
    obtain ⟨clock, expiry, -⟩ := issued
    simp only [InMemoryCheckoutRegistry.perform, InMemoryCheckoutRegistry.beginCleanup, Result.bind_eq_ok,
      Result.pure_eq_ok, Prod.mk.injEq] at returned
    obtain ⟨current, free, rfl, rfl⟩ := returned
    obtain ⟨found, -⟩ := cleanable_eq_ok.mp free
    have stored : (current.cleaning ownerToken now leaseExpiresAt).Utc :=
      utc_iff.mpr ⟨(utc_iff.mp (utc.records _ _ found)).1, clock, ofUtc_cons.mpr ⟨expiry, ofUtc_nil⟩⟩
    exact utc.enter stored (fun lease leased => by cases leased; rfl) executionId _ _
  | update checkout =>
    obtain ⟨times, call, member, claimed, leased, settles, -⟩ := issued
    simp only [ofUtc_cons] at times
    simp only [InMemoryCheckoutRegistry.perform, InMemoryCheckoutRegistry.update, Result.bind_eq_ok,
      Result.pure_eq_ok, Prod.mk.injEq] at returned
    obtain ⟨current, mine, rfl, rfl⟩ := returned
    have stored : checkout.Utc := utc_iff.mpr ⟨settles.created ▸ utc.answers call member claimed leased, times.2.1,
      settles.unleased ▸ ofUtc_nil⟩
    exact utc.enter stored (fun lease leased => by cases leased) _ _ _
  | claimCache =>
    simp only [Issued, ofUtc_cons] at issued
    simp only [InMemoryCheckoutRegistry.perform, InMemoryCheckoutRegistry.claimCache, Result.bind_eq_ok,
      Result.raiseIf_eq_ok, Result.pure_eq_ok, Prod.mk.injEq] at returned
    obtain ⟨-, -, -, -, rfl, rfl⟩ := returned
    exact utc.cacheSet rfl (utc.claimed issued.2.1)
  | renewCache =>
    simp only [Issued, ofUtc_cons] at issued
    simp only [InMemoryCheckoutRegistry.perform, InMemoryCheckoutRegistry.renewCache, Result.bind_eq_ok,
      Result.raiseIf_eq_ok, Result.pure_eq_ok, Prod.mk.injEq] at returned
    obtain ⟨-, -, rfl, rfl⟩ := returned
    exact utc.cacheSet rfl (utc.claimed issued.2.1)
  | releaseCache repositoryId =>
    simp only [InMemoryCheckoutRegistry.perform, InMemoryCheckoutRegistry.releaseCache] at returned
    cases claim : memory.cacheClaims.get? repositoryId with
    | none =>
      simp only [claim, Result.pure_eq_ok, Prod.mk.injEq] at returned
      obtain ⟨rfl, rfl⟩ := returned
      exact utc.cacheSet rfl utc.claims
    | some existing =>
      simp only [claim, Result.bind_eq_ok, Result.pure_eq_ok, Prod.mk.injEq] at returned
      obtain ⟨-, -, rfl, rfl⟩ := returned
      refine utc.cacheSet rfl fun other claim found => ?_
      rw [Dict.get?_erase] at found
      split at found
      · cases found
      · exact utc.claims other claim found

theorem sqlite_run (run : Run SqliteCheckoutRegistry.perform {} history database) :
    ∃ memory, Run InMemoryCheckoutRegistry.perform {} history memory ∧ Mirrored memory database ∧
      UtcRun history memory := by
  induction run with
  | start => exact ⟨{}, .start, mirrored_empty, by simp, by simp, by simp⟩
  | call earlier issued returned ih =>
    obtain ⟨memory, run, mirrored, utc⟩ := ih
    have tracked := tracked_run run
    obtain ⟨memory', performed, mirrored'⟩ := perform_mirrored mirrored utc tracked issued returned
    exact ⟨memory', run.call issued performed, mirrored', utc.step tracked issued performed⟩

theorem finds_mirrored (mirrored : Mirrored memory database) (utc : UtcRun history memory) {executionId : String}
    {record : ExecutionCheckout} :
    Finds SqliteCheckoutRegistry.perform database executionId record ↔
      Finds InMemoryCheckoutRegistry.perform memory executionId record := by
  unfold Finds
  have same : (database.perform (.get executionId)).map Prod.fst = (memory.perform (.get executionId)).map Prod.fst := by
    simp only [SqliteCheckoutRegistry.perform, SqliteCheckoutRegistry.get, load_utc mirrored utc, Result.ok_bind]
    rfl
  rw [same]

theorem claim_ready (mirrored : Mirrored memory database) (utc : UtcRun history memory)
    {candidate record : ExecutionCheckout} {now : Datetime}
    (found : memory.records.get? candidate.executionId = some record) (ready : record.state = .ready)
    {answer : Answer} {after : SqliteCheckoutRegistry}
    (returned : database.claim candidate now = .ok (answer, after)) : answer = .checkout record ∧ after = database := by
  unfold SqliteCheckoutRegistry.claim at returned
  rw [load_utc mirrored utc, Result.ok_bind] at returned
  obtain ⟨outcome, claimed, entered⟩ := Result.bind_eq_ok.mp returned
  cases outcome with
  | inl existing =>
    obtain ⟨here, -⟩ := claimOver_ready claimed
    cases found.symm.trans here
    simp only [Result.pure_eq_ok, Prod.mk.injEq] at entered
    exact ⟨entered.1.symm, entered.2.symm⟩
  | inr stored => exact absurd ready ((claimOver_record claimed).atop record found).1

theorem sqlite_fenced (run : Run SqliteCheckoutRegistry.perform {} history database) :
    Fenced SqliteCheckoutRegistry.perform history database := by
  obtain ⟨memory, run, mirrored, utc⟩ := sqlite_run run
  have tracked := tracked_run run
  have fenced := tracked.fenced
  refine ⟨fun operation answer after issued returned => ?_, fun executionId executionId' record record' different
    found found' => ?_⟩
  · obtain ⟨memory', performed, mirrored'⟩ := perform_mirrored mirrored utc tracked issued returned
    have utc' := utc.step tracked issued performed
    have call := fenced.calls operation answer memory' issued performed
    refine ⟨call.grants, call.cacheGrants, call.owner, call.cacheOwner, ?_, ?_⟩
    · intro candidate now record same found ready
      subst same
      exact claim_ready mirrored utc (finds_iff.mp ((finds_mirrored mirrored utc).mp found)) ready returned
    · intro executionId record found
      obtain ⟨kept, here, bound⟩ := call.bound executionId record ((finds_mirrored mirrored utc).mp found)
      exact ⟨kept, (finds_mirrored mirrored' utc').mpr here, bound⟩
  · exact fenced.apart executionId executionId' record record' different ((finds_mirrored mirrored utc).mp found)
      ((finds_mirrored mirrored utc).mp found')

end Steps

/-- In both registries the calls of any number of workers are fenced, in any order and at any times. -/
theorem registries_fenced :
    (∀ history memory, Run InMemoryCheckoutRegistry.perform {} history memory →
      Fenced InMemoryCheckoutRegistry.perform history memory) ∧
    ∀ history database, Run SqliteCheckoutRegistry.perform {} history database →
      Fenced SqliteCheckoutRegistry.perform history database :=
  ⟨fun _ _ run => (tracked_run run).fenced, fun _ _ run => sqlite_fenced run⟩

theorem registries_fenced_sample :
    (∃ memory, Fenced InMemoryCheckoutRegistry.perform
      [(.claim sampleCandidate sampleTime, .checkout { sampleCandidate with fenceToken := 1 })] memory) ∧
    Fenced SqliteCheckoutRegistry.perform [] {} := by
  have issued : Issued [] (.claim sampleCandidate sampleTime) := by
    refine ⟨rfl, nofun, ?_⟩
    simp [ofUtc, sampleCandidate, sampleTime, Datetime.utc]
  exact ⟨⟨_, registries_fenced.1 _ _ (Run.start.call issued rfl)⟩, registries_fenced.2 [] {} .start⟩

end Aep.Checkout
