import Aep.ModelRateLimits.Coordinator
import Mathlib.Data.List.Chain

namespace Aep.ModelRateLimits

open StateAction RuntimeStore

section Steps

variable (limits : Limits) (reading : Reading) (host : Host)

/-- What a coordinator works on once its state is restored. -/
inductive Restored : Host → Prop where
  | running (skip : host.toRestore limits = none) : Restored host.begun
  | loaded {state : Deadlines} (found : host.toRestore limits = some state) : Restored (host.restoredFrom reading state)

/-- What a checkpoint leaves. -/
inductive Persisted : Host → Prop where
  | volatile (limited : limits.durable = false) : Persisted host
  | written (limited : limits.durable = true) : Persisted (host.written reading)
  | unsaved (limited : limits.durable = true) : Persisted { host with saved := false }

theorem restore_cases : restore limits reading host = (.error unavailable, host) ∨
    ∃ after, restore limits reading host = (.ok (), after) ∧ Restored limits reading host after := by
  unfold restore
  rw [apply_read_bind]
  cases found : host.toRestore limits with
  | none => exact .inr ⟨_, rfl, .running found⟩
  | some state =>
    by_cases refused : reading.readable = false ∨ state.hasNegative
    · exact .inl (by simp only [raiseIf, if_pos refused]; rfl)
    · exact .inr ⟨_, by simp only [raiseIf, if_neg refused]; rfl, .loaded found⟩

theorem persist_cases : ∃ answer after, persist limits reading host = (answer, after) ∧
    Persisted limits reading host after := by
  unfold persist
  by_cases limited : limits.durable = false
  · exact ⟨.ok (), host, by rw [if_pos limited]; rfl, .volatile limited⟩
  · have durable : limits.durable = true := by simpa using limited
    cases writable : reading.writable with
    | true => exact ⟨.ok (), _, by rw [if_neg limited]; rfl, .written durable⟩
    | false => exact ⟨.error uncheckpointed, _, by rw [if_neg limited]; rfl, .unsaved durable⟩

/-- What an admission does. A reservation is made, and written, before its decision is returned. -/
inductive Admitted (deadline : ℚ) (demand : Int) : Except PyError AdmissionDecision → Host → Prop where
  | raised (error : PyError) : Admitted deadline demand (.error error) host
  | refused {begun : Host} (restored : Restored limits reading host begun) {decision : AdmissionDecision}
      (late : deadline ≤ begun.coordinator.deadlines.eligible reading.now) (verdict : decision.admitted = false)
      (eligible : decision.eligibleAt = begun.coordinator.deadlines.eligible reading.now)
      (none_ : decision.reservationId = none) : Admitted deadline demand (.ok decision) begun
  | reserved {begun after : Host} (restored : Restored limits reading host begun)
      {outcome : Except PyError AdmissionDecision}
      (early : begun.coordinator.deadlines.eligible reading.now < deadline)
      (written : Persisted limits reading
        (begun.reserve limits (begun.coordinator.deadlines.eligible reading.now) demand) after)
      (told : ∀ decision, outcome = .ok decision → decision.admitted = true ∧
        decision.eligibleAt = begun.coordinator.deadlines.eligible reading.now ∧ decision.reservedTokens = demand ∧
        decision.reservationId = some (begun.coordinator.latestReservationId + 1)) :
      Admitted deadline demand outcome after

theorem admission_cases (deadline : ℚ) (estimatedInputTokens outputTokenAllowance : Int) :
    Admitted limits reading host deadline
      (max 1 (estimatedInputTokens + outputTokenAllowance))
      (admission limits reading deadline estimatedInputTokens outputTokenAllowance host).1
      (admission limits reading deadline estimatedInputTokens outputTokenAllowance host).2 := by
  unfold admission
  by_cases negative : estimatedInputTokens < 0 ∨ outputTokenAllowance < 0
  · rw [apply_bind_error (by simp only [raiseIf, if_pos negative]; rfl)]
    exact .raised _
  · rw [apply_bind_ok (by simp only [raiseIf, if_neg negative]; rfl)]
    rcases restore_cases limits reading host with ran | ⟨begun, ran, restored⟩
    · rw [apply_bind_error ran]
      exact .raised _
    · rw [apply_bind_ok ran, apply_read_bind]
      split
      · rename_i early
        rw [apply_modify_bind]
        obtain ⟨answer, after, wrote, written⟩ := persist_cases limits reading
          (begun.reserve limits (begun.coordinator.deadlines.eligible reading.now)
            (max 1 (estimatedInputTokens + outputTokenAllowance)))
        cases answer with
        | error error =>
          rw [apply_bind_error wrote]
          exact .reserved restored early written fun _ wrong => by cases wrong
        | ok _ =>
          rw [apply_bind_ok wrote]
          exact .reserved restored early written fun _ same => by cases same; exact ⟨rfl, rfl, rfl, rfl⟩
      · rename_i late
        exact .refused restored (le_of_not_gt late) rfl rfl rfl

/-- What a reconciliation does. -/
inductive Credited (amount : ℚ) (reservationId : Option Nat) : Host → Prop where
  | nothing : Credited amount reservationId host
  | late {begun : Host} (restored : Restored limits reading host begun) : Credited amount reservationId begun
  | credited {begun after : Host} (restored : Restored limits reading host begun)
      (latest : reservationId = some begun.coordinator.latestReservationId)
      (written : Persisted limits reading (begun.credited amount) after) : Credited amount reservationId after

theorem observeSuccess_cases (reservedTokens actualInputTokens actualOutputTokens : Int) (reservationId : Option Nat) :
    Credited limits reading host (credit limits reservedTokens actualInputTokens actualOutputTokens) reservationId
      (observeSuccess limits reading reservedTokens actualInputTokens actualOutputTokens reservationId host).2 := by
  unfold observeSuccess
  split
  · exact .nothing
  · rcases restore_cases limits reading host with ran | ⟨begun, ran, restored⟩
    · rw [apply_bind_error ran]
      exact .nothing
    · rw [apply_bind_ok ran, apply_read_bind]
      split
      · exact .late restored
      · rename_i latest
        rw [apply_modify_bind]
        obtain ⟨answer, after, wrote, written⟩ := persist_cases limits reading (begun.credited
          (credit limits reservedTokens actualInputTokens actualOutputTokens))
        rw [wrote]
        exact .credited restored (not_not.mp latest) written

/-- What a throttle hint does. -/
inductive Blocked (eligibleAt : ℚ) : Except PyError Unit → Host → Prop where
  | raised (error : PyError) : Blocked eligibleAt (.error error) host
  | blocked {begun after : Host} {outcome : Except PyError Unit} (restored : Restored limits reading host begun)
      (written : Persisted limits reading (begun.blocked eligibleAt) after) : Blocked eligibleAt outcome after

theorem observeThrottle_cases (eligibleAt : ℚ) : Blocked limits reading host eligibleAt
    (observeThrottle limits reading eligibleAt host).1 (observeThrottle limits reading eligibleAt host).2 := by
  unfold observeThrottle
  rcases restore_cases limits reading host with ran | ⟨begun, ran, restored⟩
  · rw [apply_bind_error ran]
    exact .raised _
  · rw [apply_bind_ok ran, apply_modify_bind]
    obtain ⟨answer, after, wrote, written⟩ := persist_cases limits reading (begun.blocked eligibleAt)
    rw [wrote]
    exact .blocked restored written

theorem revalidate_cases (deadline : ℚ) : (revalidate limits reading deadline host).2 = host ∨
    Restored limits reading host (revalidate limits reading deadline host).2 := by
  unfold revalidate
  rcases restore_cases limits reading host with ran | ⟨begun, ran, restored⟩
  · rw [apply_bind_error ran]
    exact .inl rfl
  · rw [apply_bind_ok ran, apply_read_bind]
    exact .inr restored

end Steps

section Covers

variable (limits : Limits)

def Deadlines.Le (first second : Deadlines) : Prop :=
  first.nextRequestAt ≤ second.nextRequestAt ∧ first.nextTokenAt ≤ second.nextTokenAt ∧
    first.blockedUntil ≤ second.blockedUntil

theorem Deadlines.map_le {deadlines : Deadlines} {first second : ℚ → ℚ} (le : ∀ x, first x ≤ second x) :
    (deadlines.map first).Le (deadlines.map second) :=
  ⟨le _, le _, le _⟩

/-- The deadlines keep what comes next away from the latest reservation and from all throttle deadlines. -/
structure Covers (ledger : Ledger) (due : Deadlines) : Prop where
  requests : ∀ latest ∈ ledger.reservations.head?, latest.eligibleAt + requestGap limits ≤ due.nextRequestAt
  tokens : ∀ latest ∈ ledger.reservations.head?, latest.eligibleAt + tokenGap limits latest.tokens ≤ due.nextTokenAt
  throttles : ∀ deadline ∈ ledger.throttles, deadline ≤ due.blockedUntil

variable {limits} {ledger : Ledger} {due : Deadlines}

theorem Covers.mono (covers : Covers limits ledger due) {later : Deadlines} (le : due.Le later) :
    Covers limits ledger later :=
  ⟨fun latest found => (covers.requests latest found).trans le.1,
    fun latest found => (covers.tokens latest found).trans le.2.1,
    fun deadline seen => (covers.throttles deadline seen).trans le.2.2⟩

theorem covers_empty (due : Deadlines) : Covers limits ⟨[], []⟩ due :=
  ⟨fun _ found => (by cases found), fun _ found => (by cases found), fun _ seen => (by cases seen)⟩

theorem Covers.eligible (covers : Covers limits ledger due) {shift now : ℚ} {deadlines : Deadlines}
    (same : due = deadlines.map (· + shift)) :
    (∀ latest ∈ ledger.reservations.head?, latest.eligibleAt + latest.gap limits ≤ deadlines.eligible now + shift) ∧
      ∀ deadline ∈ ledger.throttles, deadline ≤ deadlines.eligible now + shift := by
  subst same
  have requests : deadlines.nextRequestAt ≤ deadlines.eligible now :=
    (le_max_right _ _).trans ((le_max_left _ _).trans (le_max_left _ _))
  have tokens : deadlines.nextTokenAt ≤ deadlines.eligible now := (le_max_right _ _).trans (le_max_left _ _)
  have blocked : deadlines.blockedUntil ≤ deadlines.eligible now := le_max_right _ _
  refine ⟨fun latest found => ?_, fun deadline seen => ?_⟩
  · have first := covers.requests latest found
    have second := covers.tokens latest found
    simp only [Deadlines.map] at first second
    unfold Reservation.gap
    rcases max_cases (requestGap limits) (tokenGap limits latest.tokens) with ⟨larger, -⟩ | ⟨larger, -⟩ <;>
      rw [larger] <;> linarith
  · have := covers.throttles deadline seen
    simp only [Deadlines.map] at this
    linarith

end Covers

end Aep.ModelRateLimits

namespace Aep.ModelRateLimits

open StateAction RuntimeStore

section Invariant

variable (limits : Limits) (offset : ℚ)

def Host.due (shift : ℚ) (host : Host) : Deadlines := host.coordinator.deadlines.map (· + shift)

/-- The file keeps what the ledger asks for. Without one nothing has happened yet. -/
def FileCovers (ledger : Ledger) : Option Deadlines → Prop
  | none => ledger.reservations = [] ∧ ledger.throttles = []
  | some state => Covers limits ledger (state.map (· - offset))

structure Numbered (ledger : Ledger) (latestReservationId : Nat) : Prop where
  latest : ∀ reservation ∈ ledger.reservations.head?, reservation.reconcilable →
    reservation.id ≤ latestReservationId ∧ reservation.tokens = reservation.reserved
  earlier : ∀ reservation ∈ ledger.reservations.tail, reservation.reconcilable → reservation.id < latestReservationId

structure Sound (host : Host) (shift : ℚ) (ledger : Ledger) : Prop where
  memory : host.coordinator.restored → Covers limits ledger (host.due shift)
  file : host.saved → limits.durable → FileCovers limits offset ledger host.file
  fresh : host.coordinator.restored = false → (limits.durable → host.saved) ∧
    (limits.durable = false → FileCovers limits offset ledger none)
  numbered : Numbered ledger host.coordinator.latestReservationId

structure System.Inv (system : System) : Prop where
  sound : Sound limits offset system.host system.shift system.ledger
  paced : Paced limits system.ledger.reservations
  throttled : Throttled system.ledger.reservations

variable {limits offset} {host begun after : Host} {shift time : ℚ} {ledger : Ledger} {reading : Reading}

structure Reading.At (reading : Reading) (offset shift time : ℚ) : Prop where
  now : reading.now = time - shift
  wall : reading.wall = time + offset

theorem Reading.At.fromWall (at_ : reading.At offset shift time) (deadline : ℚ) :
    deadline - offset ≤ reading.fromWall deadline + shift := by
  unfold Reading.fromWall
  rw [at_.now, at_.wall]
  have := le_max_right 0 (deadline - (time + offset))
  linarith

theorem Reading.At.toWall (at_ : reading.At offset shift time) (deadline : ℚ) :
    deadline + shift ≤ reading.toWall deadline - offset := by
  unfold Reading.toWall
  rw [at_.now, at_.wall]
  have := le_max_right 0 (deadline - (time - shift))
  linarith

theorem covers_nothing (empty : ledger.reservations = [] ∧ ledger.throttles = []) (due : Deadlines) :
    Covers limits ledger due := by
  obtain ⟨reservations, throttles⟩ := ledger
  obtain ⟨rfl, rfl⟩ := empty
  exact covers_empty due

structure Resumed (before after : Host) (limits : Limits) (shift : ℚ) (ledger : Ledger) : Prop where
  restored : after.coordinator.restored = true
  covers : Covers limits ledger (after.due shift)
  latest : after.coordinator.latestReservationId = before.coordinator.latestReservationId
  file : after.file = before.file
  saved : after.saved = before.saved

theorem Sound.resumed (sound : Sound limits offset host shift ledger) (at_ : reading.At offset shift time)
    (restored : Restored limits reading host begun) : Resumed host begun limits shift ledger := by
  cases restored with
  | running skip =>
    refine ⟨rfl, ?_, rfl, rfl, rfl⟩
    cases running : host.coordinator.restored with
    | true => exact sound.memory running
    | false =>
      cases durable : limits.durable with
      | false => exact covers_nothing ((sound.fresh running).2 durable) _
      | true =>
        have file := sound.file ((sound.fresh running).1 durable) durable
        have none : host.file = none := by simpa [Host.toRestore, running, durable] using skip
        rw [none] at file
        exact covers_nothing file _
  | @loaded state found =>
    have ⟨running, durable⟩ : host.coordinator.restored = false ∧ limits.durable = true := by
      simp only [Host.toRestore] at found
      split at found
      · cases found
      · rename_i both
        simpa using both
    have stored : host.file = some state := by simpa [Host.toRestore, running, durable] using found
    have file := sound.file ((sound.fresh running).1 durable) durable
    rw [stored] at file
    exact ⟨rfl, file.mono (@Deadlines.map_le state _ _ at_.fromWall), rfl, rfl, rfl⟩

theorem Sound.persisted {changed : Host} (written : Persisted limits reading changed after)
    (at_ : reading.At offset shift time) (restored : changed.coordinator.restored = true)
    (covers : Covers limits ledger (changed.due shift))
    (numbered : Numbered ledger changed.coordinator.latestReservationId) : Sound limits offset after shift ledger := by
  cases written with
  | volatile limited =>
    refine ⟨fun _ => covers, fun _ durable => ?_, fun fresh => ?_, numbered⟩
    · rw [limited] at durable
      cases durable
    · rw [restored] at fresh
      cases fresh
  | written limited =>
    refine ⟨fun _ => covers, fun _ _ => ?_, fun fresh => ?_, numbered⟩
    · exact covers.mono (@Deadlines.map_le changed.coordinator.deadlines _ _ at_.toWall)
    · rw [show (changed.written reading).coordinator.restored = true from restored] at fresh
      cases fresh
  | unsaved limited =>
    refine ⟨fun _ => covers, fun saved => (by cases saved), fun fresh => ?_, numbered⟩
    rw [restored] at fresh
    cases fresh

theorem Sound.resume (sound : Sound limits offset host shift ledger) (at_ : reading.At offset shift time)
    (restored : Restored limits reading host begun) : Sound limits offset begun shift ledger := by
  have resumed := sound.resumed at_ restored
  refine ⟨fun _ => resumed.covers, fun saved durable => ?_, fun fresh => ?_, ?_⟩
  · rw [resumed.file]
    exact sound.file (resumed.saved ▸ saved) durable
  · rw [resumed.restored] at fresh
    cases fresh
  · rw [resumed.latest]
    exact sound.numbered

theorem requestGap_nonneg : 0 ≤ requestGap limits := by
  have positive : (0 : ℚ) < limits.requestsPerMinute := by exact_mod_cast limits.requests_pos
  unfold requestGap
  positivity

theorem tokenGap_mono {first second : Int} (le : first ≤ second) : tokenGap limits first ≤ tokenGap limits second := by
  have positive : (0 : ℚ) < limits.tokensPerMinute := by exact_mod_cast limits.tokens_pos
  have cast : (first : ℚ) ≤ second := by exact_mod_cast le
  unfold tokenGap
  gcongr

theorem tokenGap_nonneg {tokens : Int} (nonneg : 0 ≤ tokens) : 0 ≤ tokenGap limits tokens := by
  have mono : tokenGap limits 0 ≤ tokenGap limits tokens := tokenGap_mono nonneg
  simpa [tokenGap] using mono

section Reserve

variable {demand : Int} (positive : 1 ≤ demand) (covers : Covers limits ledger (begun.due shift))
include covers

theorem Covers.reserve (now : ℚ) (id : Nat) (throttles : List ℚ) :
    Covers limits
      { ledger with
        reservations :=
          ⟨id, begun.coordinator.deadlines.eligible now + shift, demand, demand, true, throttles⟩ ::
            ledger.reservations }
      ((begun.reserve limits (begun.coordinator.deadlines.eligible now) demand).due shift) where
  requests latest found := by
    cases found
    simp only [Host.due, Deadlines.map, Host.reserve, requestGap]
    linarith
  tokens latest found := by
    cases found
    simp only [Host.due, Deadlines.map, Host.reserve, tokenGap]
    linarith
  throttles := covers.throttles

include positive in
theorem Covers.advance (now : ℚ) :
    Covers limits ledger ((begun.reserve limits (begun.coordinator.deadlines.eligible now) demand).due shift) := by
  obtain ⟨after, -⟩ := @Covers.eligible limits ledger _ covers shift now _ rfl
  have requests : 0 ≤ requestGap limits := requestGap_nonneg
  have tokens : 0 ≤ tokenGap limits demand := tokenGap_nonneg (zero_le_one.trans positive)
  refine ⟨fun latest found => ?_, fun latest found => ?_, covers.throttles⟩
  · have first := after latest found
    have gap : requestGap limits ≤ latest.gap limits := le_max_left _ _
    change _ ≤ begun.coordinator.deadlines.eligible now + requestGap limits + shift
    linarith
  · have first := after latest found
    have gap : tokenGap limits latest.tokens ≤ latest.gap limits := le_max_right _ _
    change _ ≤ begun.coordinator.deadlines.eligible now + tokenGap limits demand + shift
    linarith

end Reserve

section Spend

theorem spent_eligibleAt (id : Nat) (reservation : Reservation) :
    (reservation.spent id).eligibleAt = reservation.eligibleAt := by
  unfold Reservation.spent
  split <;> rfl

theorem spent_tokens (id : Nat) (reservation : Reservation) : (reservation.spent id).tokens = reservation.tokens := by
  unfold Reservation.spent
  split <;> rfl

theorem spent_throttles (id : Nat) (reservation : Reservation) :
    (reservation.spent id).throttles = reservation.throttles := by
  unfold Reservation.spent
  split <;> rfl

theorem spent_reconcilable {id : Nat} {reservation : Reservation} (still : (reservation.spent id).reconcilable = true) :
    reservation.reconcilable = true ∧ (reservation.spent id).id = reservation.id := by
  unfold Reservation.spent at *
  split at still
  · cases still
  · rename_i other
    rw [if_neg other]
    exact ⟨still, rfl⟩

theorem Paced.map {reservations : List Reservation} (paced : Paced limits reservations)
    {change : Reservation → Reservation}
    (eligibleAt : ∀ reservation, (change reservation).eligibleAt = reservation.eligibleAt)
    (tokens : ∀ reservation, (change reservation).tokens = reservation.tokens) :
    Paced limits (reservations.map change) := by
  unfold Paced
  rw [List.isChain_map]
  refine List.IsChain.imp (fun later earlier spaced => ?_) paced
  unfold Reservation.gap at *
  rw [eligibleAt, eligibleAt, tokens]
  exact spaced

theorem Throttled.map {reservations : List Reservation} (throttled : Throttled reservations)
    {change : Reservation → Reservation}
    (eligibleAt : ∀ reservation, (change reservation).eligibleAt = reservation.eligibleAt)
    (throttles : ∀ reservation, (change reservation).throttles = reservation.throttles) :
    Throttled (reservations.map change) := by
  intro changed member deadline seen
  obtain ⟨reservation, there, rfl⟩ := List.mem_map.mp member
  rw [eligibleAt]
  exact throttled reservation there deadline (throttles reservation ▸ seen)

theorem reconcile_cons (id : Nat) (actual : Int) (latest : Reservation) (earlier : List Reservation) :
    reconcile id actual (latest :: earlier) =
      if latest.reconcilable ∧ latest.id = id then
        { latest with tokens := min latest.reserved actual, reconcilable := false } :: earlier
      else latest :: earlier.map (Reservation.spent id) := rfl

variable {reservations : List Reservation} (id : Nat) (actual : Int)

theorem Paced.reconcile (paced : Paced limits reservations) : Paced limits (reconcile id actual reservations) := by
  cases reservations with
  | nil => exact paced
  | cons latest earlier =>
    obtain ⟨first, rest⟩ := List.isChain_cons.mp paced
    simp only [reconcile_cons]
    split
    · exact List.isChain_cons.mpr ⟨first, rest⟩
    · refine List.isChain_cons.mpr ⟨fun before found => ?_, Paced.map rest (spent_eligibleAt id) (spent_tokens id)⟩
      rw [List.head?_map] at found
      obtain ⟨reservation, there, rfl⟩ := Option.map_eq_some_iff.mp found
      have spaced := first reservation there
      unfold Reservation.gap at *
      rwa [spent_eligibleAt, spent_tokens]

theorem Throttled.reconcile (throttled : Throttled reservations) : Throttled (reconcile id actual reservations) := by
  cases reservations with
  | nil => exact throttled
  | cons latest earlier =>
    have first := throttled latest List.mem_cons_self
    have rest : Throttled earlier := fun reservation member => throttled reservation (List.mem_cons_of_mem _ member)
    simp only [reconcile_cons]
    split
    · intro reservation member
      rcases List.mem_cons.mp member with rfl | older
      · exact first
      · exact rest reservation older
    · intro reservation member
      rcases List.mem_cons.mp member with rfl | older
      · exact first
      · exact rest.map (spent_eligibleAt id) (spent_throttles id) reservation older

theorem Numbered.reconcile {latestReservationId : Nat} (numbered : Numbered ledger latestReservationId) :
    Numbered { ledger with reservations := ModelRateLimits.reconcile id actual ledger.reservations }
      latestReservationId := by
  obtain ⟨reservations, throttles⟩ := ledger
  cases reservations with
  | nil => exact numbered
  | cons latest earlier =>
    simp only [reconcile_cons]
    split
    · refine ⟨fun reservation found still => ?_, numbered.earlier⟩
      cases found
      cases still
    · refine ⟨numbered.latest, fun reservation member still => ?_⟩
      obtain ⟨before, there, rfl⟩ := List.mem_map.mp member
      obtain ⟨was, same⟩ := spent_reconcilable still
      rw [same]
      exact numbered.earlier before there was

theorem Covers.reconcile {latestReservationId : Nat} {due : Deadlines} (covers : Covers limits ledger due)
    (numbered : Numbered ledger latestReservationId) :
    Covers limits { ledger with reservations := ModelRateLimits.reconcile id actual ledger.reservations } due := by
  obtain ⟨reservations, throttles⟩ := ledger
  cases reservations with
  | nil => exact covers
  | cons latest earlier =>
    simp only [reconcile_cons]
    split
    · rename_i reconciles
      have tokens := (numbered.latest latest rfl reconciles.1).2
      refine ⟨fun reservation found => ?_, fun reservation found => ?_, covers.throttles⟩
      · cases found
        exact covers.requests latest rfl
      · cases found
        have less : tokenGap limits (min latest.reserved actual) ≤ tokenGap limits latest.tokens :=
          tokenGap_mono (tokens ▸ min_le_left _ _)
        have before := covers.tokens latest rfl
        change latest.eligibleAt + tokenGap limits (min latest.reserved actual) ≤ _
        linarith
    · exact ⟨fun reservation found => covers.requests reservation found,
        fun reservation found => covers.tokens reservation found, covers.throttles⟩

end Spend

section Calls

variable {system : System}

theorem reading_at (system : System) (offset time : ℚ) (readable writable : Bool) :
    (system.reading offset time readable writable).At offset system.shift time := ⟨rfl, rfl⟩

theorem Numbered.next {latestReservationId : Nat} (numbered : Numbered ledger latestReservationId) :
    Numbered ledger (latestReservationId + 1) :=
  ⟨fun reservation found still => ⟨((numbered.latest reservation found still).1).trans (Nat.le_succ _),
      (numbered.latest reservation found still).2⟩,
    fun reservation member still => (numbered.earlier reservation member still).trans (Nat.lt_succ_self _)⟩

theorem Numbered.push {latestReservationId : Nat} (numbered : Numbered ledger latestReservationId)
    (eligibleAt : ℚ) (reserved : Int) (throttles : List ℚ) :
    Numbered
      { ledger with
        reservations :=
          ⟨latestReservationId + 1, eligibleAt, reserved, reserved, true, throttles⟩ :: ledger.reservations }
      (latestReservationId + 1) := by
  refine ⟨fun reservation found _ => ?_, fun reservation member still => ?_⟩
  · cases found
    exact ⟨le_rfl, rfl⟩
  · change reservation ∈ ledger.reservations at member
    obtain ⟨reservations, deadlines⟩ := ledger
    cases reservations with
    | nil => cases member
    | cons latest earlier =>
      rcases List.mem_cons.mp member with rfl | older
      · exact Nat.lt_succ_of_le (numbered.latest _ rfl still).1
      · exact (numbered.earlier reservation older still).trans (Nat.lt_succ_self _)

theorem System.Inv.admission (inv : system.Inv limits offset) {deadline : ℚ} {demand : Int} (positive : 1 ≤ demand)
    {outcome : Except PyError AdmissionDecision} (at_ : reading.At offset system.shift time)
    (admitted : Admitted limits reading system.host deadline demand outcome after) :
    System.Inv limits offset { system with host := after, time, ledger := system.admitted outcome } := by
  cases admitted with
  | raised error => exact ⟨inv.sound, inv.paced, inv.throttled⟩
  | @refused _ restored decision late verdict eligible none_ =>
    have same : system.admitted (.ok decision) = system.ledger := by
      simp only [System.admitted, none_]
    rw [same]
    exact ⟨inv.sound.resume at_ restored, inv.paced, inv.throttled⟩
  | @reserved begun _ restored _ early written told =>
    have resumed := inv.sound.resumed at_ restored
    have numbered : Numbered system.ledger begun.coordinator.latestReservationId := resumed.latest ▸ inv.sound.numbered
    cases outcome with
    | error error =>
      have covers := resumed.covers.advance positive reading.now
      exact ⟨.persisted written at_ resumed.restored covers numbered.next, inv.paced, inv.throttled⟩
    | ok decision =>
      obtain ⟨-, eligible, tokens, id⟩ := told decision rfl
      obtain ⟨spaced, clear⟩ := @Covers.eligible limits system.ledger _ resumed.covers system.shift reading.now _ rfl
      have pushed : system.admitted (.ok decision) =
          { system.ledger with
            reservations := ⟨begun.coordinator.latestReservationId + 1,
              begun.coordinator.deadlines.eligible reading.now + system.shift, demand, demand, true,
              system.ledger.throttles⟩ :: system.ledger.reservations } := by
        simp only [System.admitted, id, eligible, tokens]
      rw [pushed]
      refine ⟨.persisted written at_ resumed.restored (resumed.covers.reserve reading.now _ _) (numbered.push _ _ _),
        List.isChain_cons.mpr ⟨spaced, inv.paced⟩, fun reservation member deadline seen => ?_⟩
      rcases List.mem_cons.mp member with rfl | older
      · exact clear deadline seen
      · exact inv.throttled reservation older deadline seen

theorem System.Inv.revalidate (inv : system.Inv limits offset) (at_ : reading.At offset system.shift time)
    (revalidated : after = system.host ∨ Restored limits reading system.host after) :
    System.Inv limits offset { system with host := after, time } := by
  rcases revalidated with rfl | restored
  · exact ⟨inv.sound, inv.paced, inv.throttled⟩
  · exact ⟨inv.sound.resume at_ restored, inv.paced, inv.throttled⟩

theorem Covers.blocked (covers : Covers limits ledger (begun.due shift)) (eligibleAt : ℚ) :
    Covers limits { ledger with throttles := (eligibleAt + shift) :: ledger.throttles }
      ((begun.blocked eligibleAt).due shift) where
  requests := covers.requests
  tokens := covers.tokens
  throttles deadline seen := by
    change deadline ≤ max begun.coordinator.deadlines.blockedUntil eligibleAt + shift
    rcases List.mem_cons.mp seen with rfl | older
    · have := le_max_right begun.coordinator.deadlines.blockedUntil eligibleAt
      linarith
    · have before := covers.throttles deadline older
      have := le_max_left begun.coordinator.deadlines.blockedUntil eligibleAt
      simp only [Host.due, Deadlines.map] at before
      linarith

theorem System.Inv.observeThrottle (inv : system.Inv limits offset) {eligibleAt : ℚ} {outcome : Except PyError Unit}
    (at_ : reading.At offset system.shift time)
    (blocked : Blocked limits reading system.host eligibleAt outcome after) :
    System.Inv limits offset { system with host := after, time, ledger := system.throttled eligibleAt outcome } := by
  cases blocked with
  | raised error => exact ⟨inv.sound, inv.paced, inv.throttled⟩
  | @blocked begun _ _ restored written =>
    have resumed := inv.sound.resumed at_ restored
    have numbered : Numbered system.ledger begun.coordinator.latestReservationId := resumed.latest ▸ inv.sound.numbered
    have covers := resumed.covers.blocked eligibleAt
    cases outcome with
    | error error =>
      have kept : Covers limits system.ledger ((begun.blocked eligibleAt).due system.shift) :=
        ⟨covers.requests, covers.tokens, fun deadline seen => covers.throttles deadline (List.mem_cons_of_mem _ seen)⟩
      exact ⟨.persisted written at_ resumed.restored kept numbered, inv.paced, inv.throttled⟩
    | ok _ => exact ⟨.persisted written at_ resumed.restored covers ⟨numbered.latest, numbered.earlier⟩, inv.paced,
        inv.throttled⟩

theorem Covers.credited {latestReservationId : Nat} (covers : Covers limits ledger (begun.due shift))
    (numbered : Numbered ledger latestReservationId) {reservation : Reservation}
    (member : reservation ∈ ledger.reservations) (still : reservation.reconcilable = true)
    (latest : reservation.id = latestReservationId) (input output : Int) :
    Covers limits
      { ledger with
        reservations := ModelRateLimits.reconcile reservation.id (max 1 (input + output)) ledger.reservations }
      ((begun.credited (credit limits reservation.reserved input output)).due shift) := by
  obtain ⟨reservations, throttles⟩ := ledger
  cases reservations with
  | nil => cases member
  | cons head earlier =>
    have first : reservation = head := by
      rcases List.mem_cons.mp member with same | older
      · exact same
      · exact absurd (numbered.earlier reservation older still) (by omega)
    subst first
    have tokens := (numbered.latest reservation rfl still).2
    simp only [reconcile_cons, still, true_and, if_true]
    refine ⟨fun after found => ?_, fun after found => ?_, covers.throttles⟩
    · cases found
      exact covers.requests reservation rfl
    · cases found
      have before := covers.tokens reservation rfl
      rw [tokens] at before
      change reservation.eligibleAt + tokenGap limits (min reservation.reserved (max 1 (input + output))) ≤
        max 0 (begun.coordinator.deadlines.nextTokenAt - credit limits reservation.reserved input output) + shift
      have split : tokenGap limits (min reservation.reserved (max 1 (input + output))) =
          tokenGap limits reservation.reserved - credit limits reservation.reserved input output := by
        have total : min reservation.reserved (max 1 (input + output)) =
            reservation.reserved - max 0 (reservation.reserved - max 1 (input + output)) := by omega
        unfold tokenGap credit
        rw [total]
        push_cast
        ring
      have moved := le_max_right 0
        (begun.coordinator.deadlines.nextTokenAt - credit limits reservation.reserved input output)
      simp only [Host.due, Deadlines.map] at before
      linarith

theorem System.Inv.observeSuccess (inv : system.Inv limits offset) {reservedTokens input output : Int}
    {reservationId : Option Nat} (at_ : reading.At offset system.shift time)
    (made : ∀ id, reservationId = some id → ∃ reservation ∈ system.ledger.reservations, reservation.reconcilable ∧
      reservation.id = id ∧ reservation.reserved = reservedTokens)
    (credited : Credited limits reading system.host (credit limits reservedTokens input output) reservationId after) :
    System.Inv limits offset
      { system with host := after, time, ledger := system.reconciled (max 1 (input + output)) reservationId } := by
  cases reservationId with
  | none =>
    cases credited with
    | nothing => exact ⟨inv.sound, inv.paced, inv.throttled⟩
    | late restored => exact ⟨inv.sound.resume at_ restored, inv.paced, inv.throttled⟩
    | credited restored latest written => cases latest
  | some id =>
    have paced := inv.paced.reconcile id (max 1 (input + output))
    have throttled := inv.throttled.reconcile id (max 1 (input + output))
    have less : ∀ {host : Host}, Sound limits offset host system.shift system.ledger →
        Sound limits offset host system.shift (system.reconciled (max 1 (input + output)) (some id)) := by
      intro host sound
      refine ⟨fun restored => (sound.memory restored).reconcile id _ sound.numbered, fun saved durable => ?_,
        fun fresh => ⟨(sound.fresh fresh).1, fun limited => ?_⟩, sound.numbered.reconcile id _⟩
      · have covers := sound.file saved durable
        cases file : host.file with
        | none =>
          rw [file] at covers
          exact ⟨by simp only [System.reconciled, covers.1]; rfl, covers.2⟩
        | some state =>
          rw [file] at covers
          exact Covers.reconcile id _ covers sound.numbered
      · have empty := (sound.fresh fresh).2 limited
        exact ⟨by simp only [System.reconciled, empty.1]; rfl, empty.2⟩
    cases credited with
    | nothing => exact ⟨less inv.sound, paced, throttled⟩
    | late restored => exact ⟨less (inv.sound.resume at_ restored), paced, throttled⟩
    | @credited begun _ restored latest written =>
      have resumed := inv.sound.resumed at_ restored
      have numbered : Numbered system.ledger begun.coordinator.latestReservationId :=
        resumed.latest ▸ inv.sound.numbered
      obtain ⟨reservation, member, still, rfl, rfl⟩ := made id rfl
      have covers := resumed.covers.credited numbered member still (Option.some.inj latest) input output
      exact ⟨.persisted written at_ resumed.restored covers (numbered.reconcile _ _), paced, throttled⟩

theorem System.Inv.restart (inv : system.Inv limits offset) (shift : ℚ) (durable : limits.durable = true)
    (saved : system.host.saved = true) : (system.next limits offset (.restart shift)).Inv limits offset := by
  have file := inv.sound.file saved durable
  refine ⟨⟨fun restored => (by cases restored), fun _ _ => ?_, fun _ => ⟨fun _ => saved, fun limited => ?_⟩, ?_, ?_⟩,
    inv.paced.map (fun _ => rfl) fun _ => rfl, inv.throttled.map (fun _ => rfl) fun _ => rfl⟩
  · change FileCovers limits offset _ system.host.file
    cases stored : system.host.file with
    | none =>
      rw [stored] at file
      exact ⟨by simp only [System.next, file.1, List.map_nil], file.2⟩
    | some state =>
      rw [stored] at file
      refine ⟨fun latest found => ?_, fun latest found => ?_, file.throttles⟩
      all_goals
        simp only [System.next, List.head?_map] at found
        obtain ⟨before, there, rfl⟩ := Option.map_eq_some_iff.mp found
      · exact file.requests before there
      · exact file.tokens before there
  · rw [durable] at limited
    cases limited
  · intro reservation found still
    simp only [System.next, List.head?_map] at found
    obtain ⟨before, -, rfl⟩ := Option.map_eq_some_iff.mp found
    cases still
  · intro reservation member still
    simp only [System.next, ← List.map_tail] at member
    obtain ⟨before, -, rfl⟩ := List.mem_map.mp member
    cases still

theorem System.Inv.next (inv : system.Inv limits offset) {event : Event} (allowed : system.Allowed limits event) :
    (system.next limits offset event).Inv limits offset := by
  cases event with
  | restart shift => exact inv.restart shift allowed.1 allowed.2.1
  | call time readable writable call =>
    have at_ := reading_at system offset time readable writable
    cases call with
    | admission deadline estimatedInputTokens outputTokenAllowance =>
      exact inv.admission (le_max_left _ _) at_ (admission_cases limits _ _ deadline _ _)
    | revalidate deadline => exact inv.revalidate at_ (revalidate_cases limits _ _ deadline)
    | observeThrottle eligibleAt => exact inv.observeThrottle at_ (observeThrottle_cases limits _ _ eligibleAt)
    | observeSuccess reservedTokens input output reservationId =>
      refine inv.observeSuccess at_ (fun id same => ?_) (observeSuccess_cases limits _ _ reservedTokens input output _)
      subst same
      exact allowed.2

theorem System.Run.inv {last : System} {events : List Event} (run : System.Run limits offset system events last)
    (inv : system.Inv limits offset) : last.Inv limits offset := by
  induction run with
  | nil => exact inv
  | cons allowed _ ih => exact ih (inv.next allowed)

theorem inv_initial (shift time : ℚ) : System.Inv limits offset ⟨{}, shift, time, {}⟩ where
  sound :=
    { memory := fun restored => (by cases restored)
      file := fun _ _ => ⟨rfl, rfl⟩
      fresh := fun _ => ⟨fun _ => rfl, fun _ => ⟨rfl, rfl⟩⟩
      numbered := ⟨fun _ found => (by cases found), fun _ member => (by cases member)⟩ }
  paced := .nil
  throttled _ member := by cases member

end Calls

end Invariant

end Aep.ModelRateLimits
