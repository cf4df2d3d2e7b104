import Aep.Library.Float64
import Aep.Library.StateAction
import Aep.RuntimeStore.Objects

namespace Aep.ModelRateLimits

open StateAction RuntimeStore

/-- The capacities of a quota scope, and whether its state has a file. -/
structure Limits where
  requestsPerMinute : Int
  tokensPerMinute : Int
  durable : Bool
  requests_pos : 1 ≤ requestsPerMinute
  tokens_pos : 1 ≤ tokensPerMinute

/-- One deterministic reservation against a provider quota scope. -/
structure AdmissionDecision where
  admitted : Bool
  delayMs : Int
  eligibleAt : ℚ
  estimatedInputTokens : Int
  reservedTokens : Int
  reservationId : Option Nat := none
  deriving DecidableEq

/-- The three deadlines of a coordinator, by the monotonic clock in its memory and by the wall clock in its file. -/
structure Deadlines where
  nextRequestAt : ℚ := 0
  nextTokenAt : ℚ := 0
  blockedUntil : ℚ := 0
  deriving DecidableEq

namespace Deadlines

def map (convert : ℚ → ℚ) (deadlines : Deadlines) : Deadlines :=
  ⟨convert deadlines.nextRequestAt, convert deadlines.nextTokenAt, convert deadlines.blockedUntil⟩

def eligible (deadlines : Deadlines) (now : ℚ) : ℚ :=
  max (max (max now deadlines.nextRequestAt) deadlines.nextTokenAt) deadlines.blockedUntil

def hasNegative (deadlines : Deadlines) : Prop :=
  deadlines.nextRequestAt < 0 ∨ deadlines.nextTokenAt < 0 ∨ deadlines.blockedUntil < 0

instance (deadlines : Deadlines) : Decidable deadlines.hasNegative := inferInstanceAs (Decidable (_ ∨ _ ∨ _))

end Deadlines

structure Coordinator where
  deadlines : Deadlines := {}
  restored : Bool := false
  latestReservationId : Nat := 0

/-- The coordinator and its file, and whether the last write of it went well. -/
structure Host where
  coordinator : Coordinator := {}
  file : Option Deadlines := none
  saved : Bool := true

/-- The clocks at a call, and whether its file can be read and written. -/
structure Reading where
  now : ℚ
  wall : ℚ
  readable : Bool := true
  writable : Bool := true

def unavailable : PyError :=
  { errorClass := .coordinatorStateError, message := "Model rate-limit coordinator state is unavailable" }

def uncheckpointed : PyError :=
  { errorClass := .coordinatorStateError, message := "Model rate-limit coordinator state cannot be checkpointed" }

def Host.setDeadlines (host : Host) (deadlines : Deadlines) : Host :=
  { host with coordinator := { host.coordinator with deadlines } }

def Reading.fromWall (reading : Reading) (deadline : ℚ) : ℚ := reading.now + max 0 (deadline - reading.wall)

def Reading.toWall (reading : Reading) (deadline : ℚ) : ℚ := reading.wall + max 0 (deadline - reading.now)

section Calls

variable (limits : Limits) (reading : Reading)

def Host.toRestore (host : Host) : Option Deadlines :=
  if host.coordinator.restored ∨ limits.durable = false then none else host.file

def Host.restoredFrom (host : Host) (state : Deadlines) : Host :=
  { host with coordinator := { host.coordinator with deadlines := state.map reading.fromWall, restored := true } }

def Host.begun (host : Host) : Host := { host with coordinator := { host.coordinator with restored := true } }

def restore : StateAction Host PyError Unit := do
  match (← read).toRestore limits with
  | none => modify Host.begun
  | some state => do
    raiseIf (reading.readable = false ∨ state.hasNegative) unavailable
    modify (·.restoredFrom reading state)

def Host.written (host : Host) : Host :=
  { host with file := some (host.coordinator.deadlines.map reading.toWall), saved := true }

def persist : StateAction Host PyError Unit :=
  if limits.durable = false then return ()
  else if reading.writable then modify (·.written reading)
  else do
    modify fun host => { host with saved := false }
    raise uncheckpointed

def delayMs (eligibleAt : ℚ) : Int := max 0 (Float64.roundHalfEven ((eligibleAt - reading.now) * 1000))

/-- The reservation of a request: both clocks advance from where it is eligible. -/
def Host.reserve (host : Host) (eligibleAt : ℚ) (demand : Int) : Host where
  coordinator :=
    { host.coordinator with
      deadlines :=
        { host.coordinator.deadlines with
          nextRequestAt := eligibleAt + 60 / limits.requestsPerMinute
          nextTokenAt := eligibleAt + demand * 60 / limits.tokensPerMinute }
      latestReservationId := host.coordinator.latestReservationId + 1 }
  file := host.file
  saved := host.saved

def admission (deadline : ℚ) (estimatedInputTokens outputTokenAllowance : Int) :
    StateAction Host PyError AdmissionDecision := do
  raiseIf (estimatedInputTokens < 0 ∨ outputTokenAllowance < 0) (valueError "token estimates must not be negative")
  let demand := max 1 (estimatedInputTokens + outputTokenAllowance)
  restore limits reading
  let host ← read
  let eligibleAt := host.coordinator.deadlines.eligible reading.now
  if eligibleAt < deadline then do
    modify (·.reserve limits eligibleAt demand)
    persist limits reading
    return {
      admitted := true, delayMs := delayMs reading eligibleAt, eligibleAt, estimatedInputTokens
      reservedTokens := demand, reservationId := some (host.coordinator.latestReservationId + 1) }
  else return {
    admitted := false, delayMs := delayMs reading eligibleAt, eligibleAt, estimatedInputTokens
    reservedTokens := demand }

def revalidate (deadline : ℚ) : StateAction Host PyError AdmissionDecision := do
  restore limits reading
  let host ← read
  let eligibleAt := max reading.now host.coordinator.deadlines.blockedUntil
  return {
    admitted := eligibleAt < deadline, delayMs := delayMs reading eligibleAt, eligibleAt
    estimatedInputTokens := 0, reservedTokens := 0 }

def credit (reservedTokens actualInputTokens actualOutputTokens : Int) : ℚ :=
  (max 0 (reservedTokens - max 1 (actualInputTokens + actualOutputTokens)) : Int) * 60 / limits.tokensPerMinute

def Host.credited (host : Host) (amount : ℚ) : Host :=
  host.setDeadlines
    { host.coordinator.deadlines with nextTokenAt := max 0 (host.coordinator.deadlines.nextTokenAt - amount) }

def observeSuccess (reservedTokens actualInputTokens actualOutputTokens : Int) (reservationId : Option Nat) :
    StateAction Host PyError Unit := do
  let amount := credit limits reservedTokens actualInputTokens actualOutputTokens
  if amount = 0 ∨ reservationId = none then return ()
  else do
    restore limits reading
    let host ← read
    -- A later reservation has already fixed the shared token tail.
    if reservationId ≠ some host.coordinator.latestReservationId then return ()
    else do
      modify (·.credited amount)
      persist limits reading

def Host.blocked (host : Host) (eligibleAt : ℚ) : Host :=
  host.setDeadlines
    { host.coordinator.deadlines with blockedUntil := max host.coordinator.deadlines.blockedUntil eligibleAt }

def observeThrottle (eligibleAt : ℚ) : StateAction Host PyError Unit := do
  restore limits reading
  modify (·.blocked eligibleAt)
  persist limits reading

end Calls

end Aep.ModelRateLimits

namespace Aep.ModelRateLimits

open StateAction RuntimeStore

inductive Call where
  | admission (deadline : ℚ) (estimatedInputTokens outputTokenAllowance : Int)
  | revalidate (deadline : ℚ)
  | observeSuccess (reservedTokens actualInputTokens actualOutputTokens : Int) (reservationId : Option Nat)
  | observeThrottle (eligibleAt : ℚ)

/-- An admitted reservation, with the tokens that count for the next one and the throttle deadlines seen before it. -/
structure Reservation where
  id : Nat
  eligibleAt : ℚ
  reserved : Int
  tokens : Int
  /-- It was made by the running coordinator, and may still be reconciled with it. -/
  reconcilable : Bool
  throttles : List ℚ
  deriving DecidableEq

/-- The reservations, the latest first, and the throttle deadlines, all by one clock. -/
structure Ledger where
  reservations : List Reservation := []
  throttles : List ℚ := []

/-- A coordinator, the time less its monotonic clock, and what has become of its calls. -/
structure System where
  host : Host := {}
  shift : ℚ
  time : ℚ
  ledger : Ledger := {}

inductive Event where
  | call (time : ℚ) (readable writable : Bool) (call : Call)
  | restart (shift : ℚ)

section Ledger

variable (limits : Limits)

def requestGap : ℚ := 60 / limits.requestsPerMinute

def tokenGap (tokens : Int) : ℚ := tokens * 60 / limits.tokensPerMinute

def Reservation.gap (reservation : Reservation) : ℚ := max (requestGap limits) (tokenGap limits reservation.tokens)

def Paced (reservations : List Reservation) : Prop :=
  reservations.IsChain fun later earlier => earlier.eligibleAt + earlier.gap limits ≤ later.eligibleAt

/-- No reservation is eligible before a throttle deadline that was observed before it. -/
def Throttled (reservations : List Reservation) : Prop :=
  ∀ reservation ∈ reservations, ∀ deadline ∈ reservation.throttles, deadline ≤ reservation.eligibleAt

def Reservation.spent (id : Nat) (reservation : Reservation) : Reservation :=
  if reservation.id = id then { reservation with reconcilable := false } else reservation

def reconcile (id : Nat) (actual : Int) : List Reservation → List Reservation
  | [] => []
  | latest :: earlier =>
    if latest.reconcilable ∧ latest.id = id then
      { latest with tokens := min latest.reserved actual, reconcilable := false } :: earlier
    else latest :: earlier.map (Reservation.spent id)

end Ledger

namespace System

variable (limits : Limits) (offset : ℚ)

def reading (system : System) (time : ℚ) (readable writable : Bool) : Reading :=
  ⟨time - system.shift, time + offset, readable, writable⟩

def admitted (system : System) (outcome : Except PyError AdmissionDecision) : Ledger :=
  match outcome with
  | .error _ => system.ledger
  | .ok decision =>
    match decision.reservationId with
    | none => system.ledger
    | some id =>
      { system.ledger with
        reservations :=
          { id, eligibleAt := decision.eligibleAt + system.shift, reserved := decision.reservedTokens
            tokens := decision.reservedTokens, reconcilable := true, throttles := system.ledger.throttles } ::
          system.ledger.reservations }

def reconciled (system : System) (actual : Int) (reservationId : Option Nat) : Ledger :=
  match reservationId with
  | none => system.ledger
  | some id => { system.ledger with reservations := reconcile id actual system.ledger.reservations }

def throttled (system : System) (deadline : ℚ) (outcome : Except PyError Unit) : Ledger :=
  match outcome with
  | .error _ => system.ledger
  | .ok _ => { system.ledger with throttles := (deadline + system.shift) :: system.ledger.throttles }

def next (system : System) : Event → System
  | .call time readable writable call =>
    let reading := system.reading offset time readable writable
    match call with
    | .admission deadline estimatedInputTokens outputTokenAllowance =>
      let ran := ModelRateLimits.admission limits reading deadline estimatedInputTokens outputTokenAllowance system.host
      { system with host := ran.2, time, ledger := system.admitted ran.1 }
    | .revalidate deadline =>
      { system with host := (ModelRateLimits.revalidate limits reading deadline system.host).2, time }
    | .observeSuccess reservedTokens actualInputTokens actualOutputTokens reservationId =>
      { system with
        host :=
          (ModelRateLimits.observeSuccess limits reading reservedTokens actualInputTokens actualOutputTokens
            reservationId system.host).2
        time
        ledger := system.reconciled (max 1 (actualInputTokens + actualOutputTokens)) reservationId }
    | .observeThrottle eligibleAt =>
      let ran := ModelRateLimits.observeThrottle limits reading eligibleAt system.host
      { system with host := ran.2, time, ledger := system.throttled eligibleAt ran.1 }
  | .restart shift =>
    { system with
      host := { system.host with coordinator := {} }
      shift
      ledger :=
        { system.ledger with
          reservations := system.ledger.reservations.map fun reservation =>
            { reservation with reconcilable := false } } }

/-- Time does not go back, a reservation is reconciled once, by its coordinator and with what it reserved, and a
coordinator is restarted when its last write went well, by a clock that is not negative. -/
def Allowed (system : System) : Event → Prop
  | .call time _ _ call => system.time ≤ time ∧ match call with
    | .observeSuccess reservedTokens _ _ (some id) =>
      ∃ reservation ∈ system.ledger.reservations, reservation.reconcilable ∧ reservation.id = id ∧
        reservation.reserved = reservedTokens
    | _ => True
  | .restart shift => limits.durable ∧ system.host.saved ∧ shift ≤ system.time

/-- A run of calls and restarts, each allowed where it is made. -/
inductive Run : System → List Event → System → Prop where
  | nil (system : System) : Run system [] system
  | cons {system last : System} {event : Event} {events : List Event} (allowed : system.Allowed limits event)
      (rest : Run (system.next limits offset event) events last) : Run system (event :: events) last

end System

end Aep.ModelRateLimits
