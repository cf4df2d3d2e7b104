import Aep.Checkout.Registries
import Mathlib.Tactic.Common

namespace Aep.Checkout

def runsAt (lease : Option Datetime) (now : Datetime) : Bool :=
  lease.any fun expiry => decide (now.instant < expiry.instant)

def ownsAt (checkout : Option ExecutionCheckout) (ownerToken : String) (fenceToken : Int) (now : Datetime) : Bool :=
  checkout.any fun checkout => checkout.state = .provisioning ∧ checkout.ownerToken = some ownerToken ∧
    checkout.fenceToken = fenceToken ∧ runsAt checkout.leaseExpiresAt now

def ExecutionCheckout.withTimes (checkout times : ExecutionCheckout) : ExecutionCheckout :=
  { checkout with
    createdAt := times.createdAt
    updatedAt := times.updatedAt
    leaseExpiresAt := times.leaseExpiresAt }

/-- Equal checkouts, times being equal when they are one instant. -/
structure ExecutionCheckout.Same (left right : ExecutionCheckout) : Prop where
  fields : left.withTimes right = right
  created : left.createdAt.instant = right.createdAt.instant
  updated : left.updatedAt.instant = right.updatedAt.instant
  lease : left.leaseExpiresAt.map Datetime.instant = right.leaseExpiresAt.map Datetime.instant

theorem ExecutionCheckout.Same.refl (checkout : ExecutionCheckout) : checkout.Same checkout := ⟨rfl, rfl, rfl, rfl⟩

theorem ExecutionCheckout.Same.symm {left right : ExecutionCheckout} (same : left.Same right) : right.Same left := by
  refine ⟨?_, same.created.symm, same.updated.symm, same.lease.symm⟩
  rw [← same.fields]
  rfl

theorem ExecutionCheckout.Same.read {left right : ExecutionCheckout} (same : left.Same right) {α : Type}
    (read : ExecutionCheckout → α) (timeless : ∀ checkout times, read (checkout.withTimes times) = read checkout) :
    read left = read right := by
  rw [← same.fields, timeless]

def Answer.Same : Answer → Answer → Prop
  | .found left, .found right => Option.Rel ExecutionCheckout.Same left right
  | .checkout left, .checkout right => left.Same right
  | .fence left, .fence right => left = right
  | .done, .done => True
  | _, _ => False

def Reply.Same : Reply → Reply → Prop
  | .ok left, .ok right => left.Same right
  | .error left, .error right => left = right
  | _, _ => False

theorem Datetime.instant_of_astimezone {time converted : Datetime} (done : time.astimezone = .ok converted) :
    converted.instant = time.instant ∧ converted.tzinfo = .utc := by
  obtain ⟨within, rfl⟩ := Datetime.astimezone_eq_ok.mp done
  refine ⟨?_, rfl⟩
  show ((time.instant.toNat : Int) - 0) = time.instant
  omega

theorem Datetime.later_of_astimezone {time converted : Datetime} (done : time.astimezone = .ok converted)
    (now : Datetime) : converted.later now = decide (now.instant < time.instant) := by
  obtain ⟨same, zone⟩ := instant_of_astimezone done
  unfold Datetime.later
  by_cases utc : converted.tzinfo = now.tzinfo
  · have local' := converted.fixed zone
    have nowLocal := now.fixed (utc ▸ zone)
    rw [if_pos utc, ← same]
    unfold Datetime.instant
    rw [local', nowLocal]
    congr 1
    simp
  · rw [if_neg utc, same]

theorem mapM_astimezone_eq_ok {lease converted : Option Datetime}
    (done : lease.mapM Datetime.astimezone = .ok converted) :
    converted.map Datetime.instant = lease.map Datetime.instant ∧
      ∀ now, unexpired converted now = runsAt lease now := by
  cases lease with
  | none =>
    cases done
    exact ⟨rfl, fun _ => rfl⟩
  | some expiry =>
    have wrapped : some <$> expiry.astimezone = .ok converted := done
    obtain ⟨time, here, rfl⟩ := Result.map_eq_ok.mp wrapped
    exact ⟨congrArg some (Datetime.instant_of_astimezone here).1, Datetime.later_of_astimezone here⟩

theorem ExecutionCheckout.inUtc_same {checkout stored : ExecutionCheckout} (done : checkout.inUtc = .ok stored) :
    stored.Same checkout := by
  simp only [ExecutionCheckout.inUtc, Result.bind_eq_ok, Result.pure_eq_ok] at done
  obtain ⟨created, fromCreated, updated, fromUpdated, lease, fromLease, rfl⟩ := done
  exact ⟨rfl, (Datetime.instant_of_astimezone fromCreated).1, (Datetime.instant_of_astimezone fromUpdated).1,
    (mapM_astimezone_eq_ok fromLease).1⟩

theorem ExecutionCheckout.inUtc_unexpired {checkout stored : ExecutionCheckout}
    (done : checkout.inUtc = .ok stored) (now : Datetime) :
    unexpired stored.leaseExpiresAt now = runsAt checkout.leaseExpiresAt now := by
  simp only [ExecutionCheckout.inUtc, Result.bind_eq_ok, Result.pure_eq_ok] at done
  obtain ⟨created, -, updated, -, lease, fromLease, rfl⟩ := done
  exact (mapM_astimezone_eq_ok fromLease).2 now

theorem Datetime.astimezone_raises {time : Datetime} {error : CheckoutError} (raised : time.astimezone = .error error) :
    error = .exception .overflowError := by
  unfold Datetime.astimezone Datetime.ofInstant at raised
  split at raised
  · cases raised
  · exact (Except.error.inj raised).symm

theorem ExecutionCheckout.inUtc_raises {checkout : ExecutionCheckout} {error : CheckoutError}
    (raised : checkout.inUtc = .error error) : error = .exception .overflowError := by
  simp only [ExecutionCheckout.inUtc, Result.bind_eq_error, Result.pure_ne_error, and_false, exists_false,
    or_false] at raised
  rcases raised with created | ⟨-, -, updated | ⟨-, -, lease⟩⟩
  · exact Datetime.astimezone_raises created
  · exact Datetime.astimezone_raises updated
  · cases expiry : checkout.leaseExpiresAt with
    | none => rw [expiry] at lease; cases lease
    | some time =>
      rw [expiry] at lease
      have lease : some <$> time.astimezone = .error error := lease
      exact Datetime.astimezone_raises (Result.map_eq_error.mp lease)

/-- SQLite can hold the checkout: its times have a place in UTC and its fence fits. -/
def Storable (checkout : ExecutionCheckout) : Prop :=
  (∃ stored, checkout.inUtc = .ok stored) ∧ storableInteger checkout.fenceToken

open SqliteCheckoutRegistry in
theorem rowOf_cases (checkout : ExecutionCheckout) :
    (Storable checkout ∧ ∃ row stored, rowOf checkout = .ok row ∧ checkout.inUtc = .ok stored ∧
      checkoutFromJson row.payload = .ok stored ∧ row.repositoryId = checkout.repository.canonical ∧
      row.branch = checkout.branch ∧ row.workspacePath = checkout.workspacePath) ∨
    (¬Storable checkout ∧ rowOf checkout = .error (.exception .overflowError)) := by
  cases converted : checkout.inUtc with
  | error error =>
    refine .inr ⟨fun storable => ?_, ?_⟩
    · obtain ⟨stored, done⟩ := storable.1
      rw [converted] at done
      cases done
    have overflow := ExecutionCheckout.inUtc_raises converted
    subst overflow
    have payload := checkoutToJson_raises.mpr converted
    unfold rowOf
    cases lease : formatOptional checkout.leaseExpiresAt with
    | ok text => simp [payload]
    | error raised =>
      have raised' := formatOptional_raises.mp lease
      cases expiry : checkout.leaseExpiresAt with
      | none => rw [expiry] at raised'; cases raised'
      | some time =>
        rw [expiry] at raised'
        have raised' : some <$> time.astimezone = .error raised := raised'
        rw [Datetime.astimezone_raises (Result.map_eq_error.mp raised')]
        rfl
  | ok stored =>
    obtain ⟨payload, written⟩ : ∃ payload, checkoutToJson checkout = .ok payload := by
      cases written : checkoutToJson checkout with
      | ok payload => exact ⟨payload, rfl⟩
      | error raised =>
        rw [checkoutToJson_raises.mp written] at converted
        cases converted
    obtain ⟨lease, formatted⟩ : ∃ lease, formatOptional checkout.leaseExpiresAt = .ok lease := by
      unfold checkoutToJson at written
      simp only [Result.bind_eq_ok] at written
      obtain ⟨-, -, -, -, lease, formatted, -⟩ := written
      exact ⟨lease, formatted⟩
    have back := (checkoutFromJson_written written).trans converted
    unfold rowOf bindInteger
    by_cases fits : storableInteger checkout.fenceToken
    · refine .inl ⟨⟨⟨stored, converted⟩, fits⟩, ?_⟩
      exact ⟨_, stored, by simp [formatted, written, fits, Result.raiseIf]; rfl, rfl, back, rfl, rfl, rfl⟩
    · refine .inr ⟨fun storable => fits storable.2, ?_⟩
      simp [formatted, written, fits, Result.raiseIf]

theorem ExecutionCheckout.Same.rowOf {left right : ExecutionCheckout} (same : left.Same right) :
    SqliteCheckoutRegistry.rowOf left = SqliteCheckoutRegistry.rowOf right := by
  have text {a b : Datetime} (instants : a.instant = b.instant) : formatDatetime a = formatDatetime b := by
    unfold formatDatetime Datetime.astimezone
    rw [instants]
  have lease : formatOptional left.leaseExpiresAt = formatOptional right.leaseExpiresAt := by
    have instants := same.lease
    cases expiry : left.leaseExpiresAt <;> cases expiry' : right.leaseExpiresAt <;>
      simp only [expiry, expiry', Option.map_some, Option.map_none, Option.some.injEq, reduceCtorEq] at instants
    · rfl
    · exact congrArg (Json.str <$> ·) (text instants)
  have payload : checkoutToJson left = checkoutToJson right := by
    rw [← same.fields]
    unfold checkoutToJson ExecutionCheckout.withTimes
    rw [text same.created, text same.updated, lease]
  unfold SqliteCheckoutRegistry.rowOf
  rw [lease, payload, ← same.fields]
  rfl

structure Stored (executionId : String) (checkout : ExecutionCheckout) (row : CheckoutRow) : Prop where
  keyed : checkout.executionId = executionId
  written : SqliteCheckoutRegistry.rowOf checkout = .ok row

/-- A cache claim is held, or was released and left its fence, or never was. -/
inductive CacheMirrored : Option Int → Option CacheClaim → Option CacheRow → Prop where
  | absent : CacheMirrored none none none
  | released (fence : Int) : CacheMirrored (some fence) none (some ⟨none, none, none, fence, none⟩)
  | held (claim : CacheClaim) (text : String) (written : formatDatetime claim.leaseExpiresAt = .ok text) :
      CacheMirrored (some claim.fenceToken) (some claim)
        (some ⟨some claim.executionId, some claim.executionFence, some claim.ownerToken, claim.fenceToken, some text⟩)

theorem CacheMirrored.of_claim {fence : Option Int} {claim : CacheClaim} {row : Option CacheRow}
    (mirrored : CacheMirrored fence (some claim) row) :
    fence = some claim.fenceToken ∧ ∃ text, formatDatetime claim.leaseExpiresAt = .ok text ∧
      row = some ⟨some claim.executionId, some claim.executionFence, some claim.ownerToken, claim.fenceToken,
        some text⟩ := by
  cases mirrored with
  | held claim text written => exact ⟨rfl, text, written, rfl⟩

theorem CacheMirrored.of_unclaimed {fence : Option Int} {row : Option CacheRow}
    (mirrored : CacheMirrored fence none row) : row.all fun row => row.ownerToken = none := by
  cases mirrored <;> rfl

structure Mirrored (memory : InMemoryCheckoutRegistry) (database : SqliteCheckoutRegistry) : Prop where
  rows : ∀ executionId, Option.Rel (Stored executionId) (memory.records.get? executionId)
    (database.executionCheckouts.get? executionId)
  distinct : database.executionCheckouts.keys.Nodup
  paths : ∀ path executionId, memory.paths.get? path = some executionId ↔
    ∃ checkout, memory.records.get? executionId = some checkout ∧ checkout.workspacePath = path
  branches : ∀ branch executionId, memory.branches.get? branch = some executionId ↔
    ∃ checkout, memory.records.get? executionId = some checkout ∧
      (checkout.repository.canonical, checkout.branch) = branch
  cache : ∀ repositoryId, CacheMirrored (memory.cacheFences.get? repositoryId)
    (memory.cacheClaims.get? repositoryId) (database.repositoryCacheClaims.get? repositoryId)

/-- Both calls raise the same, or give the same answer in states that still mirror each other. -/
def Alike : Except CheckoutError (Answer × InMemoryCheckoutRegistry) →
    Except CheckoutError (Answer × SqliteCheckoutRegistry) → Prop
  | .ok (left, memory), .ok (right, database) => left.Same right ∧ Mirrored memory database
  | .error left, .error right => left = right
  | _, _ => False

def Apart (left : Except CheckoutError (Answer × InMemoryCheckoutRegistry))
    (right : Except CheckoutError (Answer × SqliteCheckoutRegistry)) : Prop :=
  ¬Reply.Same (left.map Prod.fst) (right.map Prod.fst)

theorem Alike.same {left : Except CheckoutError (Answer × InMemoryCheckoutRegistry)}
    {right : Except CheckoutError (Answer × SqliteCheckoutRegistry)} (alike : Alike left right) :
    Reply.Same (left.map Prod.fst) (right.map Prod.fst) := by
  rcases left with error | ⟨answer, memory⟩ <;> rcases right with error' | ⟨answer', database⟩
  · exact alike
  · exact alike.elim
  · exact alike.elim
  · exact alike.1

def Clash (memory : InMemoryCheckoutRegistry) (checkout : ExecutionCheckout) : Prop :=
  ∃ executionId other, executionId ≠ checkout.executionId ∧ memory.records.get? executionId = some other ∧
    (other.workspacePath = checkout.workspacePath ∨
      (other.repository.canonical, other.branch) = (checkout.repository.canonical, checkout.branch))

theorem rowOf_columns {checkout : ExecutionCheckout} {row : CheckoutRow}
    (written : SqliteCheckoutRegistry.rowOf checkout = .ok row) :
    row.repositoryId = checkout.repository.canonical ∧ row.branch = checkout.branch ∧
      row.workspacePath = checkout.workspacePath := by
  rcases rowOf_cases checkout with ⟨-, other, -, same, -, -, columns⟩ | ⟨-, raised⟩
  · have equal := Except.ok.inj (written.symm.trans same)
    exact equal ▸ columns
  · cases written.symm.trans raised

theorem index_kept {κ : Type} [DecidableEq κ] {records : Dict String ExecutionCheckout} {index : Dict κ String}
    (read : ExecutionCheckout → κ)
    (indexed : ∀ wanted executionId, index.get? wanted = some executionId ↔
      ∃ checkout, records.get? executionId = some checkout ∧ read checkout = wanted)
    {existing checkout : ExecutionCheckout} (found : records.get? checkout.executionId = some existing)
    (same : read existing = read checkout) (wanted : κ) (executionId : String) :
    index.get? wanted = some executionId ↔
      ∃ record, (records.set checkout.executionId checkout).get? executionId = some record ∧
        read record = wanted := by
  rw [indexed, Dict.get?_set]
  by_cases here : checkout.executionId = executionId
  · rw [if_pos here, ← here, found]
    simp [same]
  · rw [if_neg here]

theorem index_set {κ : Type} [DecidableEq κ] {records : Dict String ExecutionCheckout} {index : Dict κ String}
    (read : ExecutionCheckout → κ)
    (indexed : ∀ wanted executionId, index.get? wanted = some executionId ↔
      ∃ checkout, records.get? executionId = some checkout ∧ read checkout = wanted)
    (checkout : ExecutionCheckout)
    (kept : ∀ existing, records.get? checkout.executionId = some existing → read existing = read checkout)
    (free : ∀ executionId other, records.get? executionId = some other → read other = read checkout →
      executionId = checkout.executionId)
    (wanted : κ) (executionId : String) :
    (index.set (read checkout) checkout.executionId).get? wanted = some executionId ↔
      ∃ record, (records.set checkout.executionId checkout).get? executionId = some record ∧
        read record = wanted := by
  rw [Dict.get?_set, Dict.get?_set]
  by_cases same : read checkout = wanted
  · rw [if_pos same, Option.some.injEq]
    constructor
    · rintro rfl
      exact ⟨checkout, if_pos rfl, same⟩
    · rintro ⟨record, found, value⟩
      by_cases here : checkout.executionId = executionId
      · exact here
      · rw [if_neg here] at found
        exact (free _ record found (value.trans same.symm)).symm
  · rw [if_neg same, indexed]
    by_cases here : checkout.executionId = executionId
    · subst here
      rw [if_pos rfl]
      constructor
      · rintro ⟨existing, found, value⟩
        exact absurd ((kept existing found).symm.trans value) same
      · rintro ⟨record, found, value⟩
        cases found
        exact absurd value same
    · rw [if_neg here]

namespace Mirrored

variable {memory : InMemoryCheckoutRegistry} {database : SqliteCheckoutRegistry}

theorem load (mirrored : Mirrored memory database) (executionId : String) :
    (memory.records.get? executionId = none ∧ database.loadLocked executionId = .ok none) ∨
    ∃ checkout stored, memory.records.get? executionId = some checkout ∧ checkout.executionId = executionId ∧
      Storable checkout ∧ checkout.inUtc = .ok stored ∧
      database.loadLocked executionId = .ok (some stored) := by
  have row := mirrored.rows executionId
  unfold SqliteCheckoutRegistry.loadLocked
  cases record : memory.records.get? executionId with
  | none =>
    rw [record] at row
    cases found : database.executionCheckouts.get? executionId with
    | none => exact .inl ⟨rfl, rfl⟩
    | some other =>
      rw [found] at row
      cases row
  | some checkout =>
    rw [record] at row
    cases found : database.executionCheckouts.get? executionId with
    | none =>
      rw [found] at row
      cases row
    | some other =>
      rw [found] at row
      cases row with
      | some here =>
        rcases rowOf_cases checkout with ⟨storable, written, stored, same, converted, back, -⟩ | ⟨-, raised⟩
        · have same := Except.ok.inj (here.written.symm.trans same)
          subst same
          exact .inr ⟨checkout, stored, rfl, here.keyed, storable, converted, by simp [back]⟩
        · cases here.written.symm.trans raised

theorem clash_iff (mirrored : Mirrored memory database) {checkout : ExecutionCheckout} {row : CheckoutRow}
    (written : SqliteCheckoutRegistry.rowOf checkout = .ok row) :
    (database.executionCheckouts.any fun (executionId, other) =>
      executionId ≠ checkout.executionId ∧ SqliteCheckoutRegistry.CheckoutRow.clashes other row) = true ↔
      Clash memory checkout := by
  obtain ⟨repository, branch, path⟩ := rowOf_columns written
  simp only [List.any_eq_true, decide_eq_true_eq, Prod.exists, Clash, SqliteCheckoutRegistry.CheckoutRow.clashes,
    repository, branch, path, Prod.mk.injEq]
  refine exists_congr fun executionId => ?_
  have here := mirrored.rows executionId
  constructor
  · rintro ⟨other, member, different, clashes⟩
    rw [Dict.get?_of_mem mirrored.distinct member] at here
    cases record : memory.records.get? executionId with
    | none => rw [record] at here; cases here
    | some owner =>
      rw [record] at here
      cases here with
      | some stored =>
        obtain ⟨repository', branch', path'⟩ := rowOf_columns stored.written
        exact ⟨owner, different, rfl, by simpa [repository', branch', path'] using clashes⟩
  · rintro ⟨owner, different, record, clashes⟩
    rw [record] at here
    cases found : database.executionCheckouts.get? executionId with
    | none => rw [found] at here; cases here
    | some other =>
      rw [found] at here
      cases here with
      | some stored =>
        obtain ⟨repository', branch', path'⟩ := rowOf_columns stored.written
        exact ⟨other, Dict.get?_eq_some_mem found, different, by simpa [repository', branch', path'] using clashes⟩

theorem put_cases (mirrored : Mirrored memory database) (checkout : ExecutionCheckout) :
    (Storable checkout ∧ Clash memory checkout ∧ database.put checkout = .error .integrityError) ∨
    (¬Storable checkout ∧ database.put checkout = .error (.exception .overflowError)) ∨
    (Storable checkout ∧ ¬Clash memory checkout ∧ ∃ row, SqliteCheckoutRegistry.rowOf checkout = .ok row ∧
      database.put checkout = .ok { database with
        executionCheckouts := database.executionCheckouts.set checkout.executionId row }) := by
  rcases rowOf_cases checkout with ⟨storable, row, -, written, -⟩ | ⟨unstorable, raised⟩
  · have clash := mirrored.clash_iff written
    unfold SqliteCheckoutRegistry.put
    rw [written, Result.ok_bind]
    by_cases taken : Clash memory checkout
    · refine .inl ⟨storable, taken, ?_⟩
      rw [Result.raiseIf, if_pos (clash.mpr taken)]
      rfl
    · refine .inr (.inr ⟨storable, taken, row, rfl, ?_⟩)
      rw [Result.raiseIf, if_neg (fun found => taken (clash.mp found))]
      rfl
  · refine .inr (.inl ⟨unstorable, ?_⟩)
    unfold SqliteCheckoutRegistry.put
    rw [raised]
    rfl

theorem rows_set (mirrored : Mirrored memory database) {checkout : ExecutionCheckout} {row : CheckoutRow}
    (written : SqliteCheckoutRegistry.rowOf checkout = .ok row) (executionId : String) :
    Option.Rel (Stored executionId) ((memory.records.set checkout.executionId checkout).get? executionId)
      ((database.executionCheckouts.set checkout.executionId row).get? executionId) := by
  rw [Dict.get?_set, Dict.get?_set]
  by_cases same : checkout.executionId = executionId
  · rw [if_pos same, if_pos same]
    exact .some ⟨same, written⟩
  · rw [if_neg same, if_neg same]
    exact mirrored.rows executionId

theorem not_clash (mirrored : Mirrored memory database) {existing checkout : ExecutionCheckout}
    (found : memory.records.get? checkout.executionId = some existing)
    (path : existing.workspacePath = checkout.workspacePath)
    (branch : (existing.repository.canonical, existing.branch) = (checkout.repository.canonical, checkout.branch)) :
    ¬Clash memory checkout := by
  rintro ⟨executionId, other, different, record, samePath | sameBranch⟩
  · have mine := (mirrored.paths _ _).mpr ⟨existing, found, path⟩
    have theirs := (mirrored.paths _ _).mpr ⟨other, record, samePath⟩
    exact different (Option.some.inj (theirs.symm.trans mine))
  · have mine := (mirrored.branches _ _).mpr ⟨existing, found, branch⟩
    have theirs := (mirrored.branches _ _).mpr ⟨other, record, sameBranch⟩
    exact different (Option.some.inj (theirs.symm.trans mine))

theorem replace (mirrored : Mirrored memory database) {existing checkout : ExecutionCheckout} {row : CheckoutRow}
    (found : memory.records.get? checkout.executionId = some existing)
    (path : existing.workspacePath = checkout.workspacePath)
    (branch : (existing.repository.canonical, existing.branch) = (checkout.repository.canonical, checkout.branch))
    (written : SqliteCheckoutRegistry.rowOf checkout = .ok row) :
    Mirrored (memory.store checkout)
      { database with executionCheckouts := database.executionCheckouts.set checkout.executionId row } where
  rows := mirrored.rows_set written
  distinct := Dict.nodup_keys_set mirrored.distinct _ _
  paths := index_kept (·.workspacePath) mirrored.paths found path
  branches := index_kept (fun record => (record.repository.canonical, record.branch)) mirrored.branches found branch
  cache := mirrored.cache

theorem owned_iff (mirrored : Mirrored memory database) (checkout : ExecutionCheckout) :
    (¬InMemoryCheckoutRegistry.ownedBy (memory.paths.get? checkout.workspacePath) checkout.executionId ∨
      ¬InMemoryCheckoutRegistry.ownedBy
        (memory.branches.get? (checkout.repository.canonical, checkout.branch)) checkout.executionId) ↔
      Clash memory checkout := by
  have reuse {κ : Type} [DecidableEq κ] {index : Dict κ String} {wanted : κ} :
      ¬InMemoryCheckoutRegistry.ownedBy (index.get? wanted) checkout.executionId ↔
        ∃ executionId, executionId ≠ checkout.executionId ∧ index.get? wanted = some executionId := by
    unfold InMemoryCheckoutRegistry.ownedBy
    cases index.get? wanted with
    | none => simp
    | some owner => simp
  simp only [reuse, mirrored.paths, mirrored.branches, Clash]
  constructor
  · rintro (⟨executionId, different, other, found, same⟩ | ⟨executionId, different, other, found, same⟩)
    · exact ⟨executionId, other, different, found, .inl same⟩
    · exact ⟨executionId, other, different, found, .inr same⟩
  · rintro ⟨executionId, other, different, found, same | same⟩
    · exact .inl ⟨executionId, different, other, found, same⟩
    · exact .inr ⟨executionId, different, other, found, same⟩

theorem enter (mirrored : Mirrored memory database) {checkout : ExecutionCheckout} {row : CheckoutRow}
    (kept : ∀ existing, memory.records.get? checkout.executionId = some existing →
      existing.workspacePath = checkout.workspacePath ∧
        (existing.repository.canonical, existing.branch) = (checkout.repository.canonical, checkout.branch))
    (free : ¬Clash memory checkout) (written : SqliteCheckoutRegistry.rowOf checkout = .ok row) :
    Mirrored { memory.store checkout with
        paths := memory.paths.set checkout.workspacePath checkout.executionId
        branches := memory.branches.set (checkout.repository.canonical, checkout.branch) checkout.executionId }
      { database with executionCheckouts := database.executionCheckouts.set checkout.executionId row } := by
  refine ⟨mirrored.rows_set written, Dict.nodup_keys_set mirrored.distinct _ _, ?_, ?_, mirrored.cache⟩
  · refine index_set (·.workspacePath) mirrored.paths checkout (fun existing found => (kept existing found).1) ?_
    intro executionId other found same
    by_contra different
    exact free ⟨executionId, other, different, found, .inl same⟩
  · refine index_set (fun record => (record.repository.canonical, record.branch)) mirrored.branches checkout
      (fun existing found => (kept existing found).2) ?_
    intro executionId other found same
    by_contra different
    exact free ⟨executionId, other, different, found, .inr same⟩

end Mirrored

def Clear (lease : Option Datetime) (now : Datetime) : Prop := unexpired lease now = runsAt lease now

def Expressible (time : Datetime) : Prop := ∃ converted, time.astimezone = .ok converted

def ClaimAgrees (existing : Option ExecutionCheckout) (candidate : ExecutionCheckout) (now : Datetime) : Prop :=
  match existing with
  | none => Storable { candidate with fenceToken := 1 }
  | some existing => sameBinding existing candidate = .ok () → existing.state ≠ .ready →
      (existing.state = .provisioning → Clear existing.leaseExpiresAt now) ∧
      (¬(existing.state = .provisioning ∧ unexpired existing.leaseExpiresAt now) →
        Storable (candidate.succeeding existing))

def OwnedAgrees (current : Option ExecutionCheckout) (ownerToken : String) (fenceToken : Int) (now : Datetime)
    (writable : ExecutionCheckout → Prop) : Prop :=
  owns current ownerToken fenceToken now = ownsAt current ownerToken fenceToken now ∧
    ∀ checkout, current = some checkout → owns current ownerToken fenceToken now → writable checkout

def cacheRuns (claim : Option CacheClaim) (now : Datetime) : Bool :=
  claim.any fun claim => claim.leaseExpiresAt.later now

def cacheRunsAt (claim : Option CacheClaim) (now : Datetime) : Bool :=
  claim.any fun claim => decide (now.instant < claim.leaseExpiresAt.instant)

namespace InMemoryCheckoutRegistry

variable (memory : InMemoryCheckoutRegistry)

def mayRenewCacheAt (repositoryId executionId ownerToken : String) (executionFence cacheFence : Int)
    (now : Datetime) : Bool :=
  (memory.cacheClaims.get? repositoryId).any fun existing =>
    existing.ownerToken = ownerToken ∧ existing.fenceToken = cacheFence ∧
      now.instant < existing.leaseExpiresAt.instant ∧ existing.executionId = executionId ∧
      existing.executionFence = executionFence ∧
      ownsAt (memory.records.get? executionId) ownerToken executionFence now

def Agreeable : Operation → Prop
  | .get _ => True
  | .claim candidate now => ClaimAgrees (memory.records.get? candidate.executionId) candidate now
  | .renew executionId ownerToken fenceToken now leaseExpiresAt =>
    OwnedAgrees (memory.records.get? executionId) ownerToken fenceToken now fun current =>
      Storable (current.renewed now leaseExpiresAt)
  | .beginCleanup executionId ownerToken now leaseExpiresAt =>
    ∀ current, cleanable (memory.records.get? executionId) = .ok current →
      Storable (current.cleaning ownerToken now leaseExpiresAt)
  | .update checkout ownerToken fenceToken now =>
    OwnedAgrees (memory.records.get? checkout.executionId) ownerToken fenceToken now fun _ => Storable checkout
  | .claimCache repositoryId executionId ownerToken executionFence now leaseExpiresAt =>
    OwnedAgrees (memory.records.get? executionId) ownerToken executionFence now fun _ =>
      cacheRuns (memory.cacheClaims.get? repositoryId) now =
          cacheRunsAt (memory.cacheClaims.get? repositoryId) now ∧
        (¬cacheRuns (memory.cacheClaims.get? repositoryId) now → Expressible leaseExpiresAt ∧
          storableInteger ((memory.cacheFences.get? repositoryId).getD 0 + 1))
  | .renewCache repositoryId executionId ownerToken executionFence cacheFence now leaseExpiresAt =>
    memory.mayRenewCache repositoryId executionId ownerToken executionFence cacheFence now =
        memory.mayRenewCacheAt repositoryId executionId ownerToken executionFence cacheFence now ∧
      (memory.mayRenewCache repositoryId executionId ownerToken executionFence cacheFence now →
        Expressible leaseExpiresAt)
  | .releaseCache repositoryId _ cacheFence =>
    memory.cacheClaims.get? repositoryId ≠ none ∧ storableInteger cacheFence

end InMemoryCheckoutRegistry

section Steps

variable {memory : InMemoryCheckoutRegistry} {database : SqliteCheckoutRegistry}

/-- A step agrees exactly under a condition: then the answers and the states do, else not even the answers. -/
def Decides (condition : Prop) (left : Except CheckoutError (Answer × InMemoryCheckoutRegistry))
    (right : Except CheckoutError (Answer × SqliteCheckoutRegistry)) : Prop :=
  (condition → Alike left right) ∧ (¬condition → Apart left right)

theorem decides_of_alike {condition : Prop} {left : Except CheckoutError (Answer × InMemoryCheckoutRegistry)}
    {right : Except CheckoutError (Answer × SqliteCheckoutRegistry)} (holds : condition) (alike : Alike left right) :
    Decides condition left right := ⟨fun _ => alike, fun fails => absurd holds fails⟩

theorem decides_of_apart {condition : Prop} {left : Except CheckoutError (Answer × InMemoryCheckoutRegistry)}
    {right : Except CheckoutError (Answer × SqliteCheckoutRegistry)} (fails : ¬condition) (apart : Apart left right) :
    Decides condition left right := ⟨fun holds => absurd holds fails, fun _ => apart⟩

theorem alike_error (error : CheckoutError) : Alike (.error error) (.error error) := rfl

theorem apart_of_raised {left : Except CheckoutError (Answer × InMemoryCheckoutRegistry)} {error : CheckoutError}
    (different : left ≠ .error error) : Apart left (.error error) := by
  rcases left with raised | answered
  · exact fun same => different (congrArg _ same)
  · exact id

theorem raised_apart {right : Except CheckoutError (Answer × SqliteCheckoutRegistry)} {error : CheckoutError}
    (different : right ≠ .error error) : Apart (.error error) right := by
  rcases right with raised | answered
  · exact fun same => different (congrArg _ (Eq.symm same))
  · exact id

theorem owns_stored {stored checkout : ExecutionCheckout} (converted : checkout.inUtc = .ok stored)
    (ownerToken : String) (fenceToken : Int) (now : Datetime) :
    owns (some stored) ownerToken fenceToken now = ownsAt (some checkout) ownerToken fenceToken now := by
  have lease := ExecutionCheckout.inUtc_unexpired converted now
  have same := ExecutionCheckout.inUtc_same converted
  simp only [owns, ownsAt, Option.any_some, lease, same.read (·.state) (fun _ _ => rfl),
    same.read (·.ownerToken) (fun _ _ => rfl), same.read (·.fenceToken) (fun _ _ => rfl)]

theorem get_decides (mirrored : Mirrored memory database) (executionId : String) :
    Decides (memory.Agreeable (.get executionId)) (memory.get executionId) (database.get executionId) := by
  refine decides_of_alike trivial ?_
  unfold SqliteCheckoutRegistry.get InMemoryCheckoutRegistry.get
  rcases mirrored.load executionId with ⟨absent, loaded⟩ | ⟨checkout, stored, found, -, -, converted, loaded⟩
  · rw [absent, loaded]
    exact ⟨.none, mirrored⟩
  · rw [found, loaded]
    exact ⟨.some (ExecutionCheckout.inUtc_same converted).symm, mirrored⟩

theorem put_kept (mirrored : Mirrored memory database) {existing checkout stored : ExecutionCheckout}
    (same : stored.Same checkout) (found : memory.records.get? checkout.executionId = some existing)
    (path : existing.workspacePath = checkout.workspacePath)
    (branch : (existing.repository.canonical, existing.branch) = (checkout.repository.canonical, checkout.branch)) :
    (Storable checkout ∧ ∃ after, database.put stored = .ok after ∧ Mirrored (memory.store checkout) after) ∨
    (¬Storable checkout ∧ database.put stored = .error (.exception .overflowError)) := by
  have keyed : stored.executionId = checkout.executionId := same.read (·.executionId) fun _ _ => rfl
  have put : database.put stored = database.put checkout := by
    unfold SqliteCheckoutRegistry.put
    rw [same.rowOf, keyed]
  rw [put]
  rcases mirrored.put_cases checkout with ⟨-, clash, -⟩ | ⟨unstorable, raised⟩ | ⟨storable, -, row, written, stored⟩
  · exact absurd clash (mirrored.not_clash found path branch)
  · exact .inr ⟨unstorable, raised⟩
  · exact .inl ⟨storable, _, stored, mirrored.replace found path branch written⟩

theorem owned_decides (mirrored : Mirrored memory database) {executionId ownerToken : String} {fenceToken : Int}
    {now : Datetime} {writable : ExecutionCheckout → Prop}
    {inMemory : ExecutionCheckout → Except CheckoutError (Answer × InMemoryCheckoutRegistry)}
    {inDatabase : ExecutionCheckout → Except CheckoutError (Answer × SqliteCheckoutRegistry)}
    (step : ∀ checkout stored, memory.records.get? executionId = some checkout →
      checkout.executionId = executionId → Storable checkout → stored.Same checkout →
      owns (some checkout) ownerToken fenceToken now →
      ownsAt (some checkout) ownerToken fenceToken now →
      Decides (writable checkout) (inMemory checkout) (inDatabase stored))
    (passed : ∀ checkout, inMemory checkout ≠ .error CheckoutClaimInProgress)
    (stored_passed : ∀ stored, memory.records.get? executionId ≠ none →
      inDatabase stored ≠ .error CheckoutClaimInProgress) :
    Decides (OwnedAgrees (memory.records.get? executionId) ownerToken fenceToken now writable)
      (owned (memory.records.get? executionId) ownerToken fenceToken now >>= inMemory)
      (database.loadLocked executionId >>= fun current => owned current ownerToken fenceToken now >>= inDatabase) := by
  rcases mirrored.load executionId with ⟨absent, loaded⟩ | ⟨checkout, stored, found, keyed, storable, converted, loaded⟩
  · rw [absent, loaded]
    have refused : OwnedAgrees none ownerToken fenceToken now writable := by simp [OwnedAgrees, owns, ownsAt]
    exact decides_of_alike refused (alike_error CheckoutClaimInProgress)
  · have same := ExecutionCheckout.inUtc_same converted
    have here := step checkout stored found keyed storable same
    have present : memory.records.get? executionId ≠ none := by rw [found]; exact Option.some_ne_none _
    rw [found, loaded, Result.ok_bind]
    simp only [owned, OwnedAgrees, owns_stored converted]
    cases mine : owns (some checkout) ownerToken fenceToken now <;>
      cases theirs : ownsAt (some checkout) ownerToken fenceToken now
    · exact decides_of_alike ⟨rfl, fun _ _ refused => absurd refused (by simp)⟩ (alike_error CheckoutClaimInProgress)
    · exact decides_of_apart (fun agrees => absurd agrees.1 (by simp)) (raised_apart (stored_passed stored present))
    · exact decides_of_apart (fun agrees => absurd agrees.1 (by simp)) (apart_of_raised (passed checkout))
    · have decided := here mine theirs
      refine ⟨fun agrees => decided.1 (agrees.2 checkout rfl rfl), fun fails => decided.2 fun holds => ?_⟩
      refine fails ⟨rfl, fun other same _ => ?_⟩
      cases same
      exact holds

theorem put_not_claim (mirrored : Mirrored memory database) (checkout : ExecutionCheckout) {α : Type}
    (next : SqliteCheckoutRegistry → Except CheckoutError α)
    (continues : ∀ after, next after ≠ .error CheckoutClaimInProgress) :
    (database.put checkout >>= next) ≠ .error CheckoutClaimInProgress := by
  rcases mirrored.put_cases checkout with ⟨-, -, raised⟩ | ⟨-, raised⟩ | ⟨-, -, row, -, stored⟩
  · rw [raised]
    nofun
  · rw [raised]
    nofun
  · rw [stored]
    exact continues _

theorem renew_decides (mirrored : Mirrored memory database) (executionId ownerToken : String) (fenceToken : Int)
    (now leaseExpiresAt : Datetime) :
    Decides (memory.Agreeable (.renew executionId ownerToken fenceToken now leaseExpiresAt))
      (memory.renew executionId ownerToken fenceToken now leaseExpiresAt)
      (database.renew executionId ownerToken fenceToken now leaseExpiresAt) := by
  refine owned_decides mirrored ?_ (fun _ => nofun) (fun stored _ => put_not_claim mirrored _ _ fun _ => nofun)
  rintro checkout stored found rfl - same - -
  have renewed : (stored.renewed now leaseExpiresAt).Same (checkout.renewed now leaseExpiresAt) :=
    ⟨by rw [← same.fields]; rfl, same.created, rfl, rfl⟩
  rcases put_kept mirrored renewed found rfl rfl with ⟨storable, after, written, mirrored'⟩ | ⟨unstorable, raised⟩
  · refine decides_of_alike storable ?_
    simp only [written]
    exact ⟨renewed.symm, mirrored'⟩
  · refine decides_of_apart unstorable ?_
    simp only [raised]
    exact apart_of_raised nofun

theorem update_decides (mirrored : Mirrored memory database) {checkout : ExecutionCheckout}
    (kept : ∀ existing, memory.records.get? checkout.executionId = some existing →
      existing.repository = checkout.repository ∧ existing.branch = checkout.branch ∧
        existing.workspacePath = checkout.workspacePath)
    (ownerToken : String) (fenceToken : Int) (now : Datetime) :
    Decides (memory.Agreeable (.update checkout ownerToken fenceToken now))
      (memory.update checkout ownerToken fenceToken now) (database.update checkout ownerToken fenceToken now) := by
  refine owned_decides mirrored ?_ (fun _ => nofun) (fun stored _ => put_not_claim mirrored _ _ fun _ => nofun)
  rintro existing - found - - - - -
  obtain ⟨repository, branch, path⟩ := kept existing found
  rcases put_kept mirrored (.refl checkout) found path (by rw [repository, branch])
    with ⟨storable, after, written, mirrored'⟩ | ⟨unstorable, raised⟩
  · refine decides_of_alike storable ?_
    rw [written]
    exact ⟨trivial, mirrored'⟩
  · refine decides_of_apart unstorable ?_
    rw [raised]
    exact apart_of_raised nofun

theorem beginCleanup_decides (mirrored : Mirrored memory database) (executionId ownerToken : String)
    (now leaseExpiresAt : Datetime) :
    Decides (memory.Agreeable (.beginCleanup executionId ownerToken now leaseExpiresAt))
      (memory.beginCleanup executionId ownerToken now leaseExpiresAt)
      (database.beginCleanup executionId ownerToken now leaseExpiresAt) := by
  show Decides (∀ current, cleanable (memory.records.get? executionId) = .ok current →
    Storable (current.cleaning ownerToken now leaseExpiresAt)) _ _
  unfold InMemoryCheckoutRegistry.beginCleanup SqliteCheckoutRegistry.beginCleanup
  rcases mirrored.load executionId with ⟨absent, loaded⟩ | ⟨checkout, stored, found, rfl, -, converted, loaded⟩
  · rw [absent, loaded]
    exact decides_of_alike (by simp [cleanable]) (alike_error CheckoutClaimInProgress)
  · have same := ExecutionCheckout.inUtc_same converted
    have state : stored.state = checkout.state := same.read (·.state) fun _ _ => rfl
    rw [found, loaded, Result.ok_bind]
    simp only [cleanable, state]
    by_cases cleanable : checkout.state = .ready ∨ checkout.state = .cleanupFailed
    · have cleaning : (stored.cleaning ownerToken now leaseExpiresAt).Same
          (checkout.cleaning ownerToken now leaseExpiresAt) :=
        ⟨by rw [← same.fields]; rfl, same.created, rfl, rfl⟩
      rw [if_pos cleanable, if_pos cleanable]
      rcases put_kept mirrored cleaning found rfl rfl with ⟨storable, after, written, mirrored'⟩ | ⟨unstorable, raised⟩
      · refine decides_of_alike (fun _ same => Except.ok.inj same ▸ storable) ?_
        rw [Result.pure_bind, Result.pure_bind, written]
        exact ⟨cleaning.symm, mirrored'⟩
      · refine decides_of_apart (fun holds => unstorable (holds _ rfl)) ?_
        rw [Result.pure_bind, Result.pure_bind, raised]
        exact apart_of_raised nofun
    · rw [if_neg cleanable, if_neg cleanable]
      exact decides_of_alike (fun _ refused => absurd refused (by simp)) (alike_error CheckoutClaimInProgress)

def enterInMemory (memory : InMemoryCheckoutRegistry) (candidate : ExecutionCheckout) :
    Except CheckoutError (Answer × InMemoryCheckoutRegistry) := do
  Result.raiseIf
    (¬InMemoryCheckoutRegistry.ownedBy (memory.paths.get? candidate.workspacePath) candidate.executionId ∨
      ¬InMemoryCheckoutRegistry.ownedBy
        (memory.branches.get? (candidate.repository.canonical, candidate.branch)) candidate.executionId)
    (configuration "checkout_reuse" "checkout path or branch is assigned to another execution")
  pure (.checkout candidate, {
    memory.store candidate with
    paths := memory.paths.set candidate.workspacePath candidate.executionId
    branches := memory.branches.set (candidate.repository.canonical, candidate.branch) candidate.executionId })

def enterInDatabase (database : SqliteCheckoutRegistry) (candidate : ExecutionCheckout) :
    Except CheckoutError (Answer × SqliteCheckoutRegistry) := do
  let stored ← database.putClaimed candidate
  pure (.checkout candidate, stored)

theorem enterInMemory_not_claim (candidate : ExecutionCheckout) :
    enterInMemory memory candidate ≠ .error CheckoutClaimInProgress := by
  unfold enterInMemory Result.raiseIf
  split
  · simp [configuration, CheckoutClaimInProgress, recoverable]
  · nofun

theorem enterInDatabase_not_claim (mirrored : Mirrored memory database) (candidate : ExecutionCheckout) :
    enterInDatabase database candidate ≠ .error CheckoutClaimInProgress := by
  unfold enterInDatabase SqliteCheckoutRegistry.putClaimed
  rcases mirrored.put_cases candidate with ⟨-, -, raised⟩ | ⟨-, raised⟩ | ⟨-, -, row, -, stored⟩
  · simp [raised, configuration, CheckoutClaimInProgress, recoverable]
  · simp [raised, CheckoutClaimInProgress, recoverable]
  · simp [stored]

theorem enter_decides (mirrored : Mirrored memory database) {checkout stored : ExecutionCheckout}
    (same : stored.Same checkout)
    (kept : ∀ existing, memory.records.get? checkout.executionId = some existing →
      existing.workspacePath = checkout.workspacePath ∧
        (existing.repository.canonical, existing.branch) = (checkout.repository.canonical, checkout.branch)) :
    Decides (Storable checkout) (enterInMemory memory checkout) (enterInDatabase database stored) := by
  have keyed : stored.executionId = checkout.executionId := same.read (·.executionId) fun _ _ => rfl
  have put : database.put stored = database.put checkout := by
    unfold SqliteCheckoutRegistry.put
    rw [same.rowOf, keyed]
  unfold enterInMemory enterInDatabase SqliteCheckoutRegistry.putClaimed
  rw [put]
  rcases mirrored.put_cases checkout with ⟨storable, clash, raised⟩ | ⟨unstorable, raised⟩ |
    ⟨storable, free, row, written, entered⟩
  · refine decides_of_alike storable ?_
    rw [raised, Result.raiseIf, if_pos ((mirrored.owned_iff checkout).mpr clash)]
    exact alike_error _
  · refine decides_of_apart unstorable ?_
    rw [raised]
    refine apart_of_raised ?_
    unfold Result.raiseIf
    split
    · simp [configuration]
    · nofun
  · refine decides_of_alike storable ?_
    rw [entered, Result.raiseIf, if_neg fun taken => free ((mirrored.owned_iff checkout).mp taken)]
    exact ⟨same.symm, mirrored.enter kept free written⟩

theorem sameBinding_place {left right : ExecutionCheckout} (bound : sameBinding left right = .ok ()) :
    left.workspacePath = right.workspacePath ∧
      (left.repository.canonical, left.branch) = (right.repository.canonical, right.branch) := by
  simp only [sameBinding, Result.raiseIf_eq_ok, not_or, not_not] at bound
  obtain ⟨repository, -, -, branch, path, -⟩ := bound
  exact ⟨path, by rw [repository, branch]⟩

theorem claim_decides (mirrored : Mirrored memory database) (candidate : ExecutionCheckout) (now : Datetime) :
    Decides (memory.Agreeable (.claim candidate now)) (memory.claim candidate now) (database.claim candidate now) := by
  show Decides (ClaimAgrees (memory.records.get? candidate.executionId) candidate now) _ _
  unfold InMemoryCheckoutRegistry.claim SqliteCheckoutRegistry.claim
  rcases mirrored.load candidate.executionId with ⟨absent, loaded⟩ | ⟨checkout, stored, found, keyed, -, converted, loaded⟩
  · rw [absent, loaded]
    refine enter_decides mirrored (.refl { candidate with fenceToken := 1 }) fun existing found => ?_
    cases absent.symm.trans found
  · have same := ExecutionCheckout.inUtc_same converted
    have lease := ExecutionCheckout.inUtc_unexpired converted now
    rw [found, loaded, Result.ok_bind]
    have binding : sameBinding stored candidate = sameBinding checkout candidate :=
      same.read (sameBinding · candidate) fun _ _ => rfl
    have state : stored.state = checkout.state := same.read (·.state) fun _ _ => rfl
    simp only [claimOver, ClaimAgrees, binding, state, lease]
    cases bound : sameBinding checkout candidate with
    | error error => exact decides_of_alike (fun bound => by cases bound) (alike_error error)
    | ok =>
      simp only [Result.ok_bind]
      by_cases ready : checkout.state = .ready
      · rw [if_pos ready, if_pos ready]
        exact decides_of_alike (fun _ other => absurd ready other) ⟨same.symm, mirrored⟩
      · rw [if_neg ready, if_neg ready]
        have succeeding : (candidate.succeeding stored).Same (candidate.succeeding checkout) := by
          refine ⟨?_, same.created, rfl, rfl⟩
          rw [← same.fields]
          rfl
        have entering := enter_decides mirrored succeeding fun existing here => by
          cases found.symm.trans here
          exact sameBinding_place bound
        have apart : Apart (enterInMemory memory (candidate.succeeding checkout)) (.error CheckoutClaimInProgress) :=
          apart_of_raised (enterInMemory_not_claim _)
        have apart' : Apart (.error CheckoutClaimInProgress) (enterInDatabase database (candidate.succeeding stored)) :=
          raised_apart (enterInDatabase_not_claim mirrored _)
        unfold Clear
        by_cases held : checkout.state = .provisioning ∧ unexpired checkout.leaseExpiresAt now <;>
          by_cases heldNow : checkout.state = .provisioning ∧ runsAt checkout.leaseExpiresAt now
        · rw [Result.raiseIf_pos held, Result.raiseIf_pos heldNow]
          exact decides_of_alike (fun _ _ => ⟨fun _ => held.2.trans heldNow.2.symm, fun free => absurd held free⟩)
            (alike_error CheckoutClaimInProgress)
        · rw [Result.raiseIf_pos held, Result.raiseIf_neg heldNow]
          refine decides_of_apart (fun holds => ?_) apart'
          have clear := (holds trivial ready).1 held.1
          exact heldNow ⟨held.1, clear ▸ held.2⟩
        · rw [Result.raiseIf_neg held, Result.raiseIf_pos heldNow]
          refine decides_of_apart (fun holds => ?_) apart
          have clear := (holds trivial ready).1 heldNow.1
          exact held ⟨heldNow.1, clear ▸ heldNow.2⟩
        · rw [Result.raiseIf_neg held, Result.raiseIf_neg heldNow]
          have clear : checkout.state = .provisioning →
              unexpired checkout.leaseExpiresAt now = runsAt checkout.leaseExpiresAt now := by
            intro provisioning
            simp only [provisioning, true_and, Bool.not_eq_true] at held heldNow
            rw [held, heldNow]
          exact ⟨fun holds => entering.1 ((holds trivial ready).2 held),
            fun fails => entering.2 fun storable => fails fun _ _ => ⟨clear, fun _ => storable⟩⟩

theorem parse_written {time : Datetime} {text : String} (written : formatDatetime time = .ok text) (now : Datetime) :
    ∃ expiry, parseDatetime text = .ok expiry ∧ expiry.later now = decide (now.instant < time.instant) := by
  rw [parse_of_format written]
  obtain ⟨converted, done, -⟩ := formatDatetime_eq_ok.mp written
  exact ⟨converted, done, Datetime.later_of_astimezone done now⟩

theorem cacheHeld_mirrored {fence : Option Int} {claim : Option CacheClaim} {row : Option CacheRow}
    (mirrored : CacheMirrored fence claim row) (now : Datetime) :
    SqliteCheckoutRegistry.cacheHeld row now = .ok (cacheRunsAt claim now) ∧
      row.elim 1 (fun row => row.fenceToken + 1) = fence.getD 0 + 1 := by
  cases mirrored with
  | absent => exact ⟨rfl, rfl⟩
  | released fence => exact ⟨rfl, rfl⟩
  | held claim text written =>
    obtain ⟨expiry, parsed, runs⟩ := parse_written written now
    refine ⟨?_, rfl⟩
    simp [SqliteCheckoutRegistry.cacheHeld, SqliteCheckoutRegistry.leaseRuns, parsed, runs, cacheRunsAt]

theorem formatDatetime_cases (time : Datetime) :
    (Expressible time ∧ ∃ text, formatDatetime time = .ok text) ∨
      (¬Expressible time ∧ formatDatetime time = .error (.exception .overflowError)) := by
  cases formatted : formatDatetime time with
  | ok text =>
    obtain ⟨converted, done, -⟩ := formatDatetime_eq_ok.mp formatted
    exact .inl ⟨⟨converted, done⟩, text, rfl⟩
  | error error =>
    have raised := formatDatetime_raises.mp formatted
    refine .inr ⟨fun ⟨converted, done⟩ => ?_, by rw [Datetime.astimezone_raises raised]⟩
    cases raised.symm.trans done

theorem cache_set (mirrored : Mirrored memory database) (repositoryId : String) (claim : CacheClaim) {text : String}
    (written : formatDatetime claim.leaseExpiresAt = .ok text) (fences : Dict String Int)
    (fence : ∀ other, fences.get? other =
      if repositoryId = other then some claim.fenceToken else memory.cacheFences.get? other) :
    Mirrored { memory with cacheFences := fences, cacheClaims := memory.cacheClaims.set repositoryId claim }
      { database with
        repositoryCacheClaims := database.repositoryCacheClaims.set repositoryId
          ⟨some claim.executionId, some claim.executionFence, some claim.ownerToken, claim.fenceToken, some text⟩ } := by
  refine ⟨mirrored.rows, mirrored.distinct, mirrored.paths, mirrored.branches, fun other => ?_⟩
  show CacheMirrored (fences.get? other) ((memory.cacheClaims.set repositoryId claim).get? other) _
  rw [fence, Dict.get?_set, Dict.get?_set]
  by_cases here : repositoryId = other
  · rw [if_pos here, if_pos here, if_pos here]
    exact .held claim text written
  · rw [if_neg here, if_neg here, if_neg here]
    exact mirrored.cache other

theorem not_claim_of_raiseIf {condition : Prop} [Decidable condition] {error : CheckoutError} {α : Type}
    {next : Unit → Except CheckoutError α} (different : error ≠ CheckoutClaimInProgress)
    (continues : next () ≠ .error CheckoutClaimInProgress) :
    (Result.raiseIf condition error >>= next) ≠ .error CheckoutClaimInProgress := by
  unfold Result.raiseIf
  split
  · exact fun same => different (Except.error.inj same)
  · exact continues

theorem cacheClaimInProgress_ne : CheckoutCacheClaimInProgress ≠ CheckoutClaimInProgress := by decide

theorem claimCache_decides (mirrored : Mirrored memory database) (repositoryId executionId ownerToken : String)
    (executionFence : Int) (now leaseExpiresAt : Datetime) :
    Decides (memory.Agreeable (.claimCache repositoryId executionId ownerToken executionFence now leaseExpiresAt))
      (memory.claimCache repositoryId executionId ownerToken executionFence now leaseExpiresAt)
      (database.claimCache repositoryId executionId ownerToken executionFence now leaseExpiresAt) := by
  obtain ⟨held, next⟩ := cacheHeld_mirrored (mirrored.cache repositoryId) now
  refine owned_decides mirrored ?_ ?_ ?_
  · intro checkout stored found keyed storable same mine theirs
    have bound : storableInteger executionFence := by
      simp only [owns, decide_eq_true_eq] at mine
      exact mine.2.2.1 ▸ storable.2
    have runs : (memory.cacheClaims.get? repositoryId).any (fun claim => claim.leaseExpiresAt.later now) =
      cacheRuns (memory.cacheClaims.get? repositoryId) now := rfl
    simp only [held, next, Result.ok_bind, runs]
    cases wall : cacheRuns (memory.cacheClaims.get? repositoryId) now <;>
      cases instant : cacheRunsAt (memory.cacheClaims.get? repositoryId) now
    · rw [Result.raiseIf_neg (by simp), Result.ok_bind, Result.ok_bind]
      rcases formatDatetime_cases leaseExpiresAt with ⟨expressible, text, written⟩ | ⟨inexpressible, raised⟩
      · rw [written, Result.ok_bind, bindInteger, Result.raiseIf_neg (by simp [bound]), Result.ok_bind, bindInteger]
        by_cases fits : storableInteger ((memory.cacheFences.get? repositoryId).getD 0 + 1) = true
        · rw [Result.raiseIf_neg (by simp [fits]), Result.ok_bind]
          refine decides_of_alike ⟨rfl, fun _ => ⟨expressible, fits⟩⟩ ⟨rfl, ?_⟩
          exact cache_set mirrored repositoryId _ written _ fun other => Dict.get?_set _ _ _ _
        · rw [Result.raiseIf_pos fits]
          exact decides_of_apart (fun ⟨_, holds⟩ => fits (holds (by simp)).2) (apart_of_raised nofun)
      · rw [raised]
        exact decides_of_apart (fun ⟨_, holds⟩ => inexpressible (holds (by simp)).1) (apart_of_raised nofun)
    · rw [Result.raiseIf_neg (by simp), Result.raiseIf_pos rfl]
      exact decides_of_apart (fun ⟨equal, _⟩ => absurd equal (by simp)) (apart_of_raised nofun)
    · rw [Result.raiseIf_pos rfl, Result.raiseIf_neg (by simp), Result.ok_bind]
      refine decides_of_apart (fun ⟨equal, _⟩ => absurd equal (by simp)) (raised_apart ?_)
      rcases formatDatetime_cases leaseExpiresAt with ⟨-, text, written⟩ | ⟨-, raised⟩
      · rw [written, Result.ok_bind]
        unfold bindInteger Result.raiseIf
        split
        · simp [CheckoutCacheClaimInProgress, recoverable]
        · split
          · simp [CheckoutCacheClaimInProgress, recoverable]
          · nofun
      · rw [raised]
        nofun
    · rw [Result.raiseIf_pos rfl]
      exact decides_of_alike ⟨rfl, nofun⟩ (alike_error CheckoutCacheClaimInProgress)
  · exact fun checkout => not_claim_of_raiseIf cacheClaimInProgress_ne nofun
  · intro stored present
    simp only [held, Result.ok_bind]
    refine not_claim_of_raiseIf cacheClaimInProgress_ne ?_
    rcases formatDatetime_cases leaseExpiresAt with ⟨-, text, written⟩ | ⟨-, raised⟩
    · rw [written]
      exact not_claim_of_raiseIf nofun (not_claim_of_raiseIf nofun nofun)
    · rw [raised]
      nofun

theorem mayRenewCache_mirrored (mirrored : Mirrored memory database)
    (repositoryId executionId ownerToken : String) (executionFence cacheFence : Int) (now : Datetime) :
    ∃ current, database.loadLocked executionId = .ok current ∧
      SqliteCheckoutRegistry.mayRenewCache current (database.repositoryCacheClaims.get? repositoryId) executionId
        ownerToken executionFence cacheFence now =
      .ok (memory.mayRenewCacheAt repositoryId executionId ownerToken executionFence cacheFence now) := by
  obtain ⟨current, loaded, same⟩ : ∃ current, database.loadLocked executionId = .ok current ∧
      owns current ownerToken executionFence now =
        ownsAt (memory.records.get? executionId) ownerToken executionFence now := by
    rcases mirrored.load executionId with ⟨absent, loaded⟩ | ⟨checkout, stored, found, -, -, converted, loaded⟩
    · exact ⟨none, loaded, by rw [absent]; simp [owns, ownsAt]⟩
    · exact ⟨some stored, loaded, by rw [found, owns_stored converted]⟩
  refine ⟨current, loaded, ?_⟩
  unfold SqliteCheckoutRegistry.mayRenewCache InMemoryCheckoutRegistry.mayRenewCacheAt
  have cache := mirrored.cache repositoryId
  generalize memory.cacheFences.get? repositoryId = fence at cache
  generalize memory.cacheClaims.get? repositoryId = claim at cache
  generalize database.repositoryCacheClaims.get? repositoryId = row at cache
  cases cache with
  | absent => rfl
  | released fence => simp
  | held claim text written =>
    obtain ⟨expiry, parsed, runs⟩ := parse_written written now
    simp only [SqliteCheckoutRegistry.leaseRuns, Option.getD_some, parsed, Result.ok_bind, Result.pure_bind, runs, same,
      Option.any_some, Option.some.injEq, ne_eq]
    by_cases named : claim.ownerToken = ownerToken ∧ claim.fenceToken = cacheFence ∧ claim.executionId = executionId ∧
        claim.executionFence = executionFence
    · obtain ⟨rfl, rfl, rfl, rfl⟩ := named
      simp
    · have other : ¬claim.ownerToken = ownerToken ∨ ¬claim.fenceToken = cacheFence ∨
          ¬claim.executionId = executionId ∨ ¬claim.executionFence = executionFence := by tauto
      rw [if_pos other]
      have refused : ¬(claim.ownerToken = ownerToken ∧ claim.fenceToken = cacheFence ∧
          now.instant < claim.leaseExpiresAt.instant ∧ claim.executionId = executionId ∧
          claim.executionFence = executionFence ∧
          ownsAt (memory.records.get? executionId) ownerToken executionFence now = true) := by tauto
      simp [refused]

theorem mayRenewCache_claim {repositoryId executionId ownerToken : String} {executionFence cacheFence : Int}
    {now : Datetime}
    (renewable : memory.mayRenewCache repositoryId executionId ownerToken executionFence cacheFence now) :
    ∃ lease, memory.cacheClaims.get? repositoryId =
      some ⟨ownerToken, cacheFence, lease, executionId, executionFence⟩ := by
  unfold InMemoryCheckoutRegistry.mayRenewCache at renewable
  split at renewable
  · cases renewable
  · rename_i existing found
    simp only [decide_eq_true_eq] at renewable
    obtain ⟨rfl, rfl, -, rfl, rfl, -⟩ := renewable
    exact ⟨existing.leaseExpiresAt, found⟩

theorem renewCache_decides (mirrored : Mirrored memory database) (repositoryId executionId ownerToken : String)
    (executionFence cacheFence : Int) (now leaseExpiresAt : Datetime) :
    Decides
      (memory.Agreeable (.renewCache repositoryId executionId ownerToken executionFence cacheFence now leaseExpiresAt))
      (memory.renewCache repositoryId executionId ownerToken executionFence cacheFence now leaseExpiresAt)
      (database.renewCache repositoryId executionId ownerToken executionFence cacheFence now leaseExpiresAt) := by
  obtain ⟨current, loaded, renewable⟩ :=
    mayRenewCache_mirrored mirrored repositoryId executionId ownerToken executionFence cacheFence now
  show Decides (_ = _ ∧ (_ → Expressible leaseExpiresAt)) _ _
  unfold InMemoryCheckoutRegistry.renewCache SqliteCheckoutRegistry.renewCache
  rw [loaded, Result.ok_bind]
  simp only [renewable, Result.ok_bind]
  cases wall : memory.mayRenewCache repositoryId executionId ownerToken executionFence cacheFence now <;>
    cases instant : memory.mayRenewCacheAt repositoryId executionId ownerToken executionFence cacheFence now
  · rw [Result.raiseIf_pos (by simp)]
    exact decides_of_alike ⟨rfl, nofun⟩ (alike_error CheckoutCacheClaimInProgress)
  · rw [Result.raiseIf_pos (by simp), Result.raiseIf_neg (by simp), Result.ok_bind]
    refine decides_of_apart (fun ⟨equal, _⟩ => absurd equal (by simp)) (raised_apart ?_)
    rcases formatDatetime_cases leaseExpiresAt with ⟨-, text, written⟩ | ⟨-, raised⟩
    · rw [written]
      nofun
    · rw [raised]
      nofun
  · rw [Result.raiseIf_neg (by simp), Result.raiseIf_pos (by simp)]
    exact decides_of_apart (fun ⟨equal, _⟩ => absurd equal (by simp)) (apart_of_raised nofun)
  · rw [Result.raiseIf_neg (by simp), Result.ok_bind, Result.ok_bind]
    rcases formatDatetime_cases leaseExpiresAt with ⟨expressible, text, written⟩ | ⟨inexpressible, raised⟩
    · obtain ⟨lease, claim⟩ := mayRenewCache_claim wall
      have cache := mirrored.cache repositoryId
      rw [claim] at cache
      obtain ⟨fence, old, -, row⟩ := cache.of_claim
      rw [written, row]
      refine decides_of_alike ⟨rfl, fun _ => expressible⟩ ⟨trivial, ?_⟩
      refine cache_set mirrored repositoryId
        ⟨ownerToken, cacheFence, leaseExpiresAt, executionId, executionFence⟩ written memory.cacheFences fun other => ?_
      by_cases here : repositoryId = other
      · rw [if_pos here, ← here, fence]
      · rw [if_neg here]
    · rw [raised]
      exact decides_of_apart (fun ⟨_, holds⟩ => inexpressible (holds rfl)) (apart_of_raised nofun)

theorem releaseCache_decides (mirrored : Mirrored memory database) (repositoryId ownerToken : String)
    (cacheFence : Int) :
    Decides (memory.Agreeable (.releaseCache repositoryId ownerToken cacheFence))
      (memory.releaseCache repositoryId ownerToken cacheFence)
      (database.releaseCache repositoryId ownerToken cacheFence) := by
  show Decides (memory.cacheClaims.get? repositoryId ≠ none ∧ storableInteger cacheFence) _ _
  unfold InMemoryCheckoutRegistry.releaseCache SqliteCheckoutRegistry.releaseCache bindInteger
  have cache := mirrored.cache repositoryId
  by_cases fits : storableInteger cacheFence = true
  · rw [Result.raiseIf_neg (by simp [fits]), Result.ok_bind]
    rcases claim : memory.cacheClaims.get? repositoryId with _ | existing
    · refine decides_of_apart (fun holds => holds.1 rfl) ?_
      rw [claim] at cache
      have unowned := cache.of_unclaimed
      rcases row : database.repositoryCacheClaims.get? repositoryId with _ | row
      · exact apart_of_raised nofun
      · rw [row, Option.all_some, decide_eq_true_eq] at unowned
        simp only [unowned]
        rw [Result.raiseIf_pos (.inl nofun)]
        exact apart_of_raised nofun
    · rw [claim] at cache
      obtain ⟨fence, text, -, row⟩ := cache.of_claim
      rw [row]
      refine decides_of_alike ⟨nofun, fits⟩ ?_
      simp only [ne_eq, Prod.mk.injEq, not_and_or, Option.some.injEq]
      by_cases refused : ¬existing.ownerToken = ownerToken ∨ ¬existing.fenceToken = cacheFence
      · rw [Result.raiseIf_pos refused]
        exact alike_error CheckoutCacheClaimInProgress
      · rw [Result.raiseIf_neg refused]
        refine ⟨trivial, mirrored.rows, mirrored.distinct, mirrored.paths, mirrored.branches, fun other => ?_⟩
        show CacheMirrored _ ((memory.cacheClaims.erase repositoryId).get? other) _
        rw [Dict.get?_erase, Dict.get?_set]
        by_cases here : repositoryId = other
        · rw [if_pos here, if_pos here, ← here]
          show CacheMirrored (memory.cacheFences.get? repositoryId) none _
          rw [fence]
          exact .released _
        · rw [if_neg here, if_neg here]
          exact mirrored.cache other
  · rw [Result.raiseIf_pos fits]
    refine decides_of_apart (fun holds => fits holds.2) (apart_of_raised ?_)
    split
    · nofun
    · unfold Result.raiseIf
      split
      · simp [CheckoutCacheClaimInProgress, recoverable]
      · nofun

/-- An update keeps the repository, the branch and the paths of the stored record. -/
def InMemoryCheckoutRegistry.Kept (memory : InMemoryCheckoutRegistry) : Operation → Prop
  | .update checkout _ _ _ => ∀ existing, memory.records.get? checkout.executionId = some existing →
      existing.repository = checkout.repository ∧ existing.branch = checkout.branch ∧
        existing.workspacePath = checkout.workspacePath ∧ existing.sourceCachePath = checkout.sourceCachePath
  | _ => True

theorem perform_decides (mirrored : Mirrored memory database) {operation : Operation}
    (kept : memory.Kept operation) :
    Decides (memory.Agreeable operation) (memory.perform operation) (database.perform operation) := by
  cases operation with
  | get executionId => exact get_decides mirrored executionId
  | claim candidate now => exact claim_decides mirrored candidate now
  | renew => exact renew_decides mirrored _ _ _ _ _
  | beginCleanup => exact beginCleanup_decides mirrored _ _ _ _
  | update checkout =>
    refine update_decides mirrored (fun existing found => ?_) _ _ _
    obtain ⟨repository, branch, path, -⟩ := kept existing found
    exact ⟨repository, branch, path⟩
  | claimCache => exact claimCache_decides mirrored _ _ _ _ _ _
  | renewCache => exact renewCache_decides mirrored _ _ _ _ _ _ _
  | releaseCache => exact releaseCache_decides mirrored _ _ _

end Steps

def stateAfter {σ : Type} (before : σ) (outcome : Except CheckoutError (Answer × σ)) : σ :=
  match outcome with
  | .ok (_, after) => after
  | .error _ => before

def replies {σ : Type} (perform : σ → Operation → Except CheckoutError (Answer × σ)) : σ → List Operation → List Reply
  | _, [] => []
  | before, operation :: rest =>
    (perform before operation).map Prod.fst :: replies perform (stateAfter before (perform before operation)) rest

def InMemoryCheckoutRegistry.Throughout (condition : InMemoryCheckoutRegistry → Operation → Prop) :
    InMemoryCheckoutRegistry → List Operation → Prop
  | _, [] => True
  | before, operation :: rest => condition before operation ∧
      Throughout condition (stateAfter before (before.perform operation)) rest

theorem Alike.after {memory : InMemoryCheckoutRegistry} {database : SqliteCheckoutRegistry}
    (mirrored : Mirrored memory database) {left : Except CheckoutError (Answer × InMemoryCheckoutRegistry)}
    {right : Except CheckoutError (Answer × SqliteCheckoutRegistry)} (alike : Alike left right) :
    Mirrored (stateAfter memory left) (stateAfter database right) := by
  rcases left with error | ⟨answer, memory'⟩ <;> rcases right with error' | ⟨answer', database'⟩
  · exact mirrored
  · exact alike.elim
  · exact alike.elim
  · exact alike.2

theorem mirrored_empty : Mirrored {} {} where
  rows := fun _ => .none
  distinct := List.nodup_nil
  paths := by simp
  branches := by simp
  cache := fun _ => .absent

theorem replies_same_iff {memory : InMemoryCheckoutRegistry} {database : SqliteCheckoutRegistry}
    (mirrored : Mirrored memory database) (operations : List Operation)
    (kept : memory.Throughout (·.Kept) operations) :
    List.Forall₂ Reply.Same (replies InMemoryCheckoutRegistry.perform memory operations)
        (replies SqliteCheckoutRegistry.perform database operations) ↔
      memory.Throughout (·.Agreeable) operations := by
  induction operations generalizing memory database with
  | nil => simp [replies, InMemoryCheckoutRegistry.Throughout]
  | cons operation rest ih =>
    have decided := perform_decides mirrored kept.1
    simp only [replies, List.forall₂_cons, InMemoryCheckoutRegistry.Throughout]
    by_cases agreeable : memory.Agreeable operation
    · have alike := decided.1 agreeable
      have later := ih (alike.after mirrored) kept.2
      exact ⟨fun same => ⟨agreeable, later.mp same.2⟩, fun holds => ⟨alike.same, later.mpr holds.2⟩⟩
    · exact ⟨fun same => absurd same.1 (decided.2 agreeable), fun holds => absurd holds.1 agreeable⟩

/-- From the empty registries SQLite answers every call as the memory does exactly when every call is agreeable;
and a checkout that can be written is read back as it was. -/
theorem registries_agree_iff (operations : List Operation)
    (kept : InMemoryCheckoutRegistry.Throughout (·.Kept) {} operations) :
    (List.Forall₂ Reply.Same (replies InMemoryCheckoutRegistry.perform {} operations)
        (replies SqliteCheckoutRegistry.perform {} operations) ↔
      InMemoryCheckoutRegistry.Throughout (·.Agreeable) {} operations) ∧
    ∀ checkout data, checkoutToJson checkout = .ok data →
      ∃ back, checkoutFromJson data = .ok back ∧ back.Same checkout := by
  refine ⟨replies_same_iff mirrored_empty operations kept, fun checkout data written => ?_⟩
  have back := checkoutFromJson_written written
  cases converted : checkout.inUtc with
  | error error =>
    have raised := checkoutToJson_raises.mpr converted
    cases written.symm.trans raised
  | ok stored => exact ⟨stored, back.trans converted, ExecutionCheckout.inUtc_same converted⟩

section Sample

def sampleTime : Datetime := .utc 0 (by decide)

def sampleCandidate : ExecutionCheckout where
  executionId := "execution"
  repository := ⟨"github", "owner", "name", by decide⟩
  baseRevision := "0000000000000000000000000000000000000000"
  knowledgeRevision := "0000000000000000000000000000000000000000"
  branch := "aep/execution/1"
  workspacePath := "/worktrees/execution-1"
  sourceCachePath := "/caches/repository-1"
  state := .provisioning
  createdAt := sampleTime
  updatedAt := sampleTime
  ownerToken := some "worker"
  leaseExpiresAt := some (.utc 1 (by decide))

def sampleCalls : List Operation :=
  [.claim sampleCandidate sampleTime,
    .update { sampleCandidate with state := .ready, fenceToken := 1 } "worker" 1 sampleTime]

theorem registries_agree_iff_sample :
    (List.Forall₂ Reply.Same (replies InMemoryCheckoutRegistry.perform {} sampleCalls)
        (replies SqliteCheckoutRegistry.perform {} sampleCalls) ↔
      InMemoryCheckoutRegistry.Throughout (·.Agreeable) {} sampleCalls) ∧
    ∀ checkout data, checkoutToJson checkout = .ok data →
      ∃ back, checkoutFromJson data = .ok back ∧ back.Same checkout := by
  refine registries_agree_iff sampleCalls ⟨trivial, fun existing found => ?_, trivial⟩
  have stored : existing = { sampleCandidate with fenceToken := 1 } := Option.some.inj (found.symm.trans rfl)
  subst stored
  exact ⟨rfl, rfl, rfl, rfl⟩

end Sample

/-- A worker that releases a cache it does not hold hears nothing from the memory and an error from SQLite. -/
theorem unclaimed_release_differs :
    ¬List.Forall₂ Reply.Same
      (replies InMemoryCheckoutRegistry.perform {} [.releaseCache "github:owner/name" "worker" 1])
      (replies SqliteCheckoutRegistry.perform {} [.releaseCache "github:owner/name" "worker" 1]) := by
  intro same
  cases same with
  | cons first rest => exact first

end Aep.Checkout
