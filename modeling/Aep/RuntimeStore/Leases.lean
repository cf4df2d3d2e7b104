import Aep.Library.IsoOrder
import Aep.RuntimeStore.Rollback

namespace Aep.RuntimeStore

open StateAction

structure Instant where
  microseconds : Nat
  valid : microseconds < Timestamp.limit

namespace Instant

instance : LT Instant := ⟨fun first second => first.microseconds < second.microseconds⟩

instance (first second : Instant) : Decidable (first < second) :=
  inferInstanceAs (Decidable (first.microseconds < second.microseconds))

def isoformat (instant : Instant) : List Char :=
  Timestamp.isoText instant.microseconds ++ ['+', '0', '0', ':', '0', '0']

def stamp (instant : Instant) : String :=
  String.ofList (Text.replace ['+', '0', '0', ':', '0', '0'] ['Z'] instant.isoformat)

theorem toList_stamp (instant : Instant) : instant.stamp.toList = Timestamp.isoText instant.microseconds ++ ['Z'] := by
  have absent : '+' ∉ Timestamp.isoText instant.microseconds := Timestamp.not_mem_isoText (by decide) (by decide) _
  rw [stamp, String.toList_ofList, isoformat, Text.replace_suffix absent]

def Skewed (first second : Instant) : Prop := Timestamp.Skewed first.microseconds second.microseconds

instance (first second : Instant) : Decidable (first.Skewed second) :=
  inferInstanceAs (Decidable (Timestamp.Skewed _ _))

theorem stamp_lt_iff (first second : Instant) :
    first.stamp < second.stamp ↔ if first.Skewed second then second < first else first < second := by
  rw [String.lt_iff, toList_stamp, toList_stamp]
  exact Timestamp.isoText_lt_iff first.valid second.valid

theorem stamp_lt_of_unskewed {first second : Instant} (unskewed : ¬first.Skewed second) :
    first.stamp < second.stamp ↔ first < second := by
  rw [stamp_lt_iff, if_neg unskewed]

end Instant

/-- A call on one lease. -/
inductive LeaseCall where
  | acquire (ownerId : String) (now expiresAt : Instant)
  | renew (ownerId : String) (now expiresAt : Instant)
  | release (ownerId : String)
  | update (ownerId : String) (now : Instant) (objectId status : String) (expectedStatus updatedAt : Option String)
      (changes : Record) (clock : String)

/-- The owner and the expiry of the lease last granted or renewed and not released. -/
abbrev Held := Option (String × Instant)

namespace LeaseCall

def operation (key : String) : LeaseCall → Operation
  | .acquire ownerId now expiresAt => .acquireLease key ownerId now.stamp expiresAt.stamp
  | .renew ownerId now expiresAt => .renewLease key ownerId now.stamp expiresAt.stamp
  | .release ownerId => .releaseLease key ownerId
  | .update ownerId now objectId status expectedStatus updatedAt changes clock =>
    .updateStatusWithLease objectId status key ownerId now.stamp expectedStatus updatedAt changes clock

def leaves (held : Held) (call : LeaseCall) (outcome : Except PyError Reply) : Held :=
  match call, outcome with
  | .acquire ownerId _ expiresAt, .ok (.flag true) => some (ownerId, expiresAt)
  | .renew ownerId _ expiresAt, .ok (.flag true) => some (ownerId, expiresAt)
  | .release _, .ok (.flag true) => none
  | _, _ => held

/-- Before the expiry no other owner gets the lease or updates under it, and from the expiry on the lease neither
    blocks an acquire nor admits an update. -/
def Exclusive (held : Held) (call : LeaseCall) (outcome : Except PyError Reply) : Prop :=
  ∀ lease ∈ held, match call with
    | .acquire ownerId now _ =>
      (outcome = .ok (.flag true) → ownerId ≠ lease.1 → ¬now < lease.2) ∧
        (¬now < lease.2 → outcome = .ok (.flag true))
    | .update ownerId now .. =>
      ∀ reply, outcome = .ok reply → (ownerId ≠ lease.1 → ¬now < lease.2) ∧ now < lease.2
    | _ => True

/-- The texts of the time and of the expiry that the call compares stand in the order of their instants, where
    the order matters. -/
def InOrder (held : Held) (call : LeaseCall) : Prop :=
  ∀ lease ∈ held, match call with
    | .acquire ownerId now _ => ownerId ≠ lease.1 → ¬now.Skewed lease.2
    | .update ownerId now .. => ownerId = lease.1 → lease.2 < now → ¬now.Skewed lease.2
    | _ => True

def Records (store : Store) (key : String) (held : Held) : Prop :=
  store.leases.get? key = held.map fun lease => ⟨lease.1, lease.2.stamp⟩

variable {store : Store} {key : String} {held : Held}

section Outcomes

def Blocks (store : Store) (key ownerId now : String) : Prop :=
  ∃ current ∈ store.leases.get? key, current.ownerId ≠ ownerId ∧ now < current.expiresAt

theorem acquireLease_blocked {ownerId now expiresAt : String} (blocked : Blocks store key ownerId now) :
    acquireLease key ownerId now expiresAt store = (.ok false, store) := by
  obtain ⟨current, found, refused⟩ := blocked
  simp only [acquireLease, apply_read_bind, Option.mem_def.mp found]
  rw [if_pos refused]
  rfl

theorem acquireLease_granted {ownerId now expiresAt : String} (granted : ¬Blocks store key ownerId now) :
    acquireLease key ownerId now expiresAt store =
      (.ok true, { store with leases := store.leases.set key ⟨ownerId, expiresAt⟩ }) := by
  simp only [acquireLease, apply_read_bind]
  cases found : store.leases.get? key with
  | none => rfl
  | some current =>
    simp only
    rw [if_neg fun refused => granted ⟨current, found, refused⟩]
    rfl

theorem renewLease_cases (ownerId now expiresAt : String) :
    renewLease key ownerId now expiresAt store = (.ok false, store) ∨
      ∃ current, store.leases.get? key = some current ∧ current.ownerId = ownerId ∧
        renewLease key ownerId now expiresAt store =
          (.ok true, { store with leases := store.leases.set key ⟨ownerId, expiresAt⟩ }) := by
  simp only [renewLease, apply_read_bind]
  cases active : activeLease store key ownerId now with
  | none => exact .inl rfl
  | some current =>
    obtain ⟨found, met⟩ := Option.filter_eq_some_iff.mp active
    obtain ⟨rfl, -⟩ := of_decide_eq_true met
    exact .inr ⟨current, found, rfl, rfl⟩

theorem releaseLease_cases (ownerId : String) :
    releaseLease key ownerId store = (.ok false, store) ∨
      releaseLease key ownerId store = (.ok true, { store with leases := store.leases.erase key }) := by
  simp only [releaseLease, apply_read_bind]
  cases store.leases.get? key with
  | none => exact .inl rfl
  | some current =>
    simp only
    by_cases other : current.ownerId ≠ ownerId
    · rw [if_pos other]
      exact .inl rfl
    · rw [if_neg other]
      exact .inr rfl

theorem updateStatus_leases (objectId status : String) (expectedStatus updatedAt : Option String) (changes : Record)
    (clock : String) : (updateStatus objectId status expectedStatus updatedAt changes clock).Leaves store
      fun after => after.leases = store.leases := by
  unfold Leaves
  rcases ran : updateStatus objectId status expectedStatus updatedAt changes clock store with ⟨error | updated, after⟩
  · exact congrArg Store.leases (updateStatus_keeps _ _ _ _ _ _ store error after ran)
  · obtain ⟨_, -, -, -, -, ⟨-, -, -, rfl⟩ | ⟨-, -, -, rfl⟩⟩ := updateStatus_cases ran
    · rfl
    · rfl

theorem updateStatusWithLease_returns {objectId status ownerId now clock : String}
    {expectedStatus updatedAt : Option String} {changes updated : Record} {after : Store}
    (returned : (updateStatusWithLease objectId status key ownerId now expectedStatus updatedAt changes clock).Returns
      store updated after) :
    ∃ current, store.leases.get? key = some current ∧ current.ownerId = ownerId ∧ now < current.expiresAt := by
  simp only [updateStatusWithLease, returns_bind, returns_read, returns_raiseIf] at returned
  obtain ⟨_, _, ⟨rfl, rfl⟩, -, _, ⟨owned, rfl⟩, -⟩ := returned
  obtain ⟨current, active⟩ := Option.ne_none_iff_exists'.mp owned
  obtain ⟨found, met⟩ := Option.filter_eq_some_iff.mp active
  obtain ⟨same, ahead⟩ := of_decide_eq_true met
  exact ⟨current, found, same, ahead⟩

theorem updateStatusWithLease_leases (objectId status ownerId now clock : String)
    (expectedStatus updatedAt : Option String) (changes : Record) :
    (updateStatusWithLease objectId status key ownerId now expectedStatus updatedAt changes clock).Leaves store
      fun after => after.leases = store.leases :=
  leaves_check checks_read rfl fun _ _ => leaves_check (checks_raiseIf _ _) rfl fun _ _ =>
    updateStatus_leases _ _ _ _ _ _

end Outcomes

section Steps

def Keeps (store : Store) (key : String) (held : Held) (call : LeaseCall) : Prop :=
  Exclusive held call ((call.operation key).inMemory store).1 ∧
    Records ((call.operation key).inMemory store).2 key (leaves held call ((call.operation key).inMemory store).1)

theorem blocks_iff (recorded : Records store key held) (ownerId : String) (now : Instant) :
    Blocks store key ownerId now.stamp ↔ ∃ lease ∈ held, lease.1 ≠ ownerId ∧ now.stamp < lease.2.stamp := by
  unfold Blocks
  rw [recorded]
  cases held <;> simp

theorem acquire_keeps {ownerId : String} {now expiresAt : Instant} (recorded : Records store key held)
    (inOrder : InOrder held (.acquire ownerId now expiresAt)) :
    Keeps store key held (.acquire ownerId now expiresAt) := by
  have compared {lease : String × Instant} (holds : lease ∈ held) (other : lease.1 ≠ ownerId) :
      now.stamp < lease.2.stamp ↔ now < lease.2 :=
    Instant.stamp_lt_of_unskewed (inOrder lease holds (Ne.symm other))
  have ran : (operation key (.acquire ownerId now expiresAt)).inMemory store = _ :=
    apply_map (acquireLease key ownerId now.stamp expiresAt.stamp) Reply.flag
  unfold Keeps
  rw [ran]
  by_cases blocked : Blocks store key ownerId now.stamp
  · rw [acquireLease_blocked blocked]
    obtain ⟨lease, holds, other, ahead⟩ := (blocks_iff recorded ownerId now).mp blocked
    refine ⟨fun same holdsToo => ?_, recorded⟩
    obtain rfl : lease = same := Option.mem_unique holds holdsToo
    have live : now < lease.2 := (compared holds other).mp ahead
    exact ⟨fun granted => absurd granted (by simp [Except.map]), fun expired => absurd live expired⟩
  · rw [acquireLease_granted blocked]
    refine ⟨fun lease holds => ⟨fun _ other live => blocked ?_, fun _ => rfl⟩, Dict.get?_set_self _ _ _⟩
    exact (blocks_iff recorded ownerId now).mpr ⟨lease, holds, Ne.symm other, (compared holds (Ne.symm other)).mpr live⟩

theorem renew_keeps (ownerId : String) (now expiresAt : Instant) (recorded : Records store key held) :
    Keeps store key held (.renew ownerId now expiresAt) := by
  have ran : (operation key (.renew ownerId now expiresAt)).inMemory store = _ :=
    apply_map (renewLease key ownerId now.stamp expiresAt.stamp) Reply.flag
  unfold Keeps
  rw [ran]
  refine ⟨fun _ _ => trivial, ?_⟩
  rcases @renewLease_cases store key ownerId now.stamp expiresAt.stamp with ran | ⟨_, -, -, ran⟩
  · rw [ran]
    exact recorded
  · rw [ran]
    exact Dict.get?_set_self _ _ _

theorem release_keeps (ownerId : String) (recorded : Records store key held) :
    Keeps store key held (.release ownerId) := by
  have ran : (operation key (.release ownerId)).inMemory store = _ := apply_map (releaseLease key ownerId) Reply.flag
  unfold Keeps
  rw [ran]
  refine ⟨fun _ _ => trivial, ?_⟩
  rcases @releaseLease_cases store key ownerId with ran | ran
  · rw [ran]
    exact recorded
  · rw [ran]
    exact Dict.get?_erase_self _ _

theorem update_keeps {ownerId : String} {now : Instant} {objectId status clock : String}
    {expectedStatus updatedAt : Option String} {changes : Record} (recorded : Records store key held)
    (inOrder : InOrder held (.update ownerId now objectId status expectedStatus updatedAt changes clock)) :
    Keeps store key held (.update ownerId now objectId status expectedStatus updatedAt changes clock) := by
  have ran : (operation key (.update ownerId now objectId status expectedStatus updatedAt changes clock)).inMemory store =
      _ := apply_map (updateStatusWithLease objectId status key ownerId now.stamp expectedStatus updatedAt changes clock)
    Reply.record
  unfold Keeps
  rw [ran]
  refine ⟨fun lease holds reply admitted => ?_, ?_⟩
  · rcases ran : updateStatusWithLease objectId status key ownerId now.stamp expectedStatus updatedAt changes clock
      store with ⟨error | updated, after⟩
    · rw [ran] at admitted
      cases admitted
    obtain ⟨current, found, same, ahead⟩ := updateStatusWithLease_returns ran
    rw [Records, Option.mem_def.mp holds] at recorded
    obtain rfl := Option.some.inj (found.symm.trans recorded)
    refine ⟨fun other => absurd same.symm other, ?_⟩
    have order := (Instant.stamp_lt_iff now lease.2).mp ahead
    by_cases skewed : now.Skewed lease.2
    · rw [if_pos skewed] at order
      exact absurd skewed (inOrder lease holds same.symm order)
    · rwa [if_neg skewed] at order
  · have kept := @updateStatusWithLease_leases store key objectId status ownerId now.stamp clock
      expectedStatus updatedAt changes
    unfold Leaves at kept
    unfold Records
    rw [kept]
    exact recorded

theorem keeps (call : LeaseCall) (recorded : Records store key held) (inOrder : InOrder held call) :
    Keeps store key held call := by
  cases call with
  | acquire => exact acquire_keeps recorded inOrder
  | renew => exact renew_keeps _ _ _ recorded
  | release => exact release_keeps _ recorded
  | update => exact update_keeps recorded inOrder

end Steps

end LeaseCall

section Runs

/-- Something holds of every call of a sequence, with the lease that the earlier calls leave and its outcome. -/
def AlongCalls (key : String) (holds : Held → LeaseCall → Except PyError Reply → Prop) :
    List LeaseCall → Store → Held → Prop
  | [], _, _ => True
  | call :: rest, store, held =>
    holds held call ((call.operation key).inMemory store).1 ∧
      AlongCalls key holds rest ((call.operation key).inMemory store).2
        (call.leaves held ((call.operation key).inMemory store).1)

theorem alongCalls_exclusive {key : String} {calls : List LeaseCall} {store : Store} {held : Held}
    (recorded : LeaseCall.Records store key held)
    (inOrder : AlongCalls key (fun held call _ => call.InOrder held) calls store held) :
    AlongCalls key LeaseCall.Exclusive calls store held := by
  induction calls generalizing store held with
  | nil => trivial
  | cons call rest ih =>
    obtain ⟨exclusive, recordedAfter⟩ := call.keeps recorded inOrder.1
    exact ⟨exclusive, ih recordedAfter inOrder.2⟩

/-- Whatever owners call in whatever order, a lease excludes the others until it expires and nobody from then on,
    as long as the compared texts stand in the order of their instants. -/
theorem lease_exclusive (key : String) (calls : List LeaseCall) (store : Store)
    (unleased : store.leases.get? key = none)
    (inOrder : AlongCalls key (fun held call _ => call.InOrder held) calls store none) :
    AlongCalls key LeaseCall.Exclusive calls store none :=
  alongCalls_exclusive unleased inOrder

/-- Two runners of one experiment, the first of which starts half a second after a whole one. -/
def twoRunners (asked : Instant) : List LeaseCall := [
  .acquire "runner-1" ⟨500000, by decide⟩ ⟨45500000, by decide⟩,
  .acquire "runner-2" asked ⟨90000000, by decide⟩]

theorem lease_exclusive_runners :
    AlongCalls "experiment-run:1" LeaseCall.Exclusive (twoRunners ⟨45250000, by decide⟩) {} none := by
  refine lease_exclusive "experiment-run:1" (twoRunners ⟨45250000, by decide⟩) {} rfl ⟨fun _ holds => ?_, ?_, trivial⟩
  · cases holds
  · rintro lease holds -
    obtain rfl : ("runner-1", ⟨45500000, by decide⟩) = lease := Option.some.inj holds
    decide

/-- The second runner asks at a whole second and gets the lease half a second before it expires. -/
theorem early_runner_granted :
    ¬AlongCalls "experiment-run:1" LeaseCall.Exclusive (twoRunners ⟨45000000, by decide⟩) {} none := by
  rintro ⟨-, exclusive, -⟩
  have granted : (acquireLease "experiment-run:1" "runner-2" (Instant.stamp ⟨45000000, by decide⟩)
      (Instant.stamp ⟨90000000, by decide⟩) (acquireLease "experiment-run:1" "runner-1"
        (Instant.stamp ⟨500000, by decide⟩) (Instant.stamp ⟨45500000, by decide⟩) {}).2).1 = .ok true := by
    decide +kernel
  have outcome := congrArg (Except.map Reply.flag) granted
  have early := (exclusive ("runner-1", ⟨45500000, by decide⟩) rfl).1 outcome (by decide)
  exact early (by decide)

end Runs

end Aep.RuntimeStore
