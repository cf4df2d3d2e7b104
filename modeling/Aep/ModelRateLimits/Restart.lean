import Aep.ModelRateLimits.Checkpoints

namespace Aep.ModelRateLimits

open StateAction RuntimeStore

abbrev Answer := Except PyError (Option AdmissionDecision)

def Alike : Answer → Answer → Prop
  | .error first, .error second => first = second
  | .ok first, .ok second => first.map (·.admitted) = second.map (·.admitted)
  | _, _ => False

/-- What the second one admits the first one admits too, and no later. The lag is from the clock of the first. -/
def NotEarlier (lag : ℚ) (first second : Answer) : Prop :=
  ∀ decision, second = .ok (some decision) → decision.admitted = true →
    ∃ sooner, first = .ok (some sooner) ∧ sooner.admitted = true ∧ sooner.eligibleAt + lag ≤ decision.eligibleAt

/-- The call as one that was restarted gets it: by its own clock and numbers, and without the usage of what was
reserved before. -/
def Call.restarted (lag : ℚ) (made : Nat) : Call → Option Call
  | .admission deadline estimatedInputTokens outputTokenAllowance =>
    some (.admission (deadline + lag) estimatedInputTokens outputTokenAllowance)
  | .revalidate deadline => some (.revalidate (deadline + lag))
  | .observeThrottle eligibleAt => some (.observeThrottle (eligibleAt + lag))
  | .observeSuccess reservedTokens actualInputTokens actualOutputTokens none =>
    some (.observeSuccess reservedTokens actualInputTokens actualOutputTokens none)
  | .observeSuccess reservedTokens actualInputTokens actualOutputTokens (some id) =>
    if id ≤ made then none
    else some (.observeSuccess reservedTokens actualInputTokens actualOutputTokens (some (id - made)))

def Call.Delays : Call → Prop
  | .admission .. | .observeThrottle .. => True
  | .revalidate .. | .observeSuccess .. => False

section Follows

variable (limits : Limits) (offset : ℚ)

def System.answer (system : System) (time : ℚ) (readable writable : Bool) : Call → Answer
  | .admission deadline estimatedInputTokens outputTokenAllowance =>
    (admission limits (system.reading offset time readable writable) deadline estimatedInputTokens outputTokenAllowance
      system.host).1.map some
  | .revalidate deadline =>
    (revalidate limits (system.reading offset time readable writable) deadline system.host).1.map some
  | .observeSuccess reservedTokens actualInputTokens actualOutputTokens reservationId =>
    (observeSuccess limits (system.reading offset time readable writable) reservedTokens actualInputTokens
      actualOutputTokens reservationId system.host).1.map fun _ => none
  | .observeThrottle eligibleAt =>
    (observeThrottle limits (system.reading offset time readable writable) eligibleAt system.host).1.map fun _ => none

/-- The second coordinator gets the calls that the first one gets, and never admits earlier as long as what moves the
deadlines up is answered alike. -/
def Follows (made : Nat) : System → System → List Event → Prop
  | original, restored, .call time readable writable call :: events =>
    match call.restarted (original.shift - restored.shift) made with
    | none => Follows made (original.next limits offset (.call time readable writable call)) restored events
    | some same =>
      NotEarlier (original.shift - restored.shift) (original.answer limits offset time readable writable call)
          (restored.answer limits offset time readable writable same) ∧
        ((call.Delays → Alike (original.answer limits offset time readable writable call)
            (restored.answer limits offset time readable writable same)) →
          Follows made (original.next limits offset (.call time readable writable call))
            (restored.next limits offset (.call time readable writable same)) events)
  | _, _, _ => True

end Follows

section Answers

variable {limits : Limits} {reading : Reading} {host begun : Host}

theorem restore_running (running : host.coordinator.restored = true) :
    restore limits reading host = (.ok (), host) := by
  unfold restore
  rw [apply_read_bind, show host.toRestore limits = none by simp [Host.toRestore, running]]
  change (Except.ok (), host.begun) = _
  rw [begun_running running]

theorem persist_answer (durable : limits.durable = true) (host : Host) :
    (persist limits reading host).1 = (if reading.writable then .ok () else .error uncheckpointed) ∧
      (persist limits reading host).2.coordinator = host.coordinator := by
  unfold persist
  rw [if_neg (by simp [durable])]
  cases reading.writable <;> exact ⟨rfl, rfl⟩

theorem admission_early (ran : restore limits reading host = (.ok (), begun)) {deadline : ℚ} {input output : Int}
    (nonneg : ¬(input < 0 ∨ output < 0)) (early : begun.coordinator.deadlines.eligible reading.now < deadline) :
    ∃ decision : AdmissionDecision, decision.admitted = true ∧
      decision.eligibleAt = begun.coordinator.deadlines.eligible reading.now ∧
      admission limits reading deadline input output host =
        ((persist limits reading (begun.reserve limits (begun.coordinator.deadlines.eligible reading.now)
            (max 1 (input + output)))).1.map fun _ => decision,
          (persist limits reading (begun.reserve limits (begun.coordinator.deadlines.eligible reading.now)
            (max 1 (input + output)))).2) := by
  refine ⟨{
      admitted := true, delayMs := delayMs reading (begun.coordinator.deadlines.eligible reading.now)
      eligibleAt := begun.coordinator.deadlines.eligible reading.now
      estimatedInputTokens := input, reservedTokens := max 1 (input + output)
      reservationId := some (begun.coordinator.latestReservationId + 1) }, rfl, rfl, ?_⟩
  unfold admission
  rw [apply_bind_ok (by simp only [raiseIf, if_neg nonneg]; rfl), apply_bind_ok ran, apply_read_bind, if_pos early,
    apply_modify_bind]
  rcases wrote : persist limits reading (begun.reserve limits (begun.coordinator.deadlines.eligible reading.now)
    (max 1 (input + output))) with ⟨error | value, after⟩
  · exact apply_bind_error wrote
  · exact apply_bind_ok wrote

theorem admission_late (ran : restore limits reading host = (.ok (), begun)) {deadline : ℚ} {input output : Int}
    (nonneg : ¬(input < 0 ∨ output < 0)) (late : ¬begun.coordinator.deadlines.eligible reading.now < deadline) :
    ∃ decision : AdmissionDecision, decision.admitted = false ∧
      admission limits reading deadline input output host = (.ok decision, begun) := by
  unfold admission
  rw [apply_bind_ok (by simp only [raiseIf, if_neg nonneg]; rfl), apply_bind_ok ran, apply_read_bind, if_neg late]
  exact ⟨_, rfl, rfl⟩

theorem admission_verdict (ran : restore limits reading host = (.ok (), begun)) {input output : Int}
    (nonneg : ¬(input < 0 ∨ output < 0)) (deadline : ℚ) :
    (begun.coordinator.deadlines.eligible reading.now < deadline ∧ ∃ decision : AdmissionDecision,
      decision.admitted = true ∧ decision.eligibleAt = begun.coordinator.deadlines.eligible reading.now ∧
      admission limits reading deadline input output host =
        ((persist limits reading (begun.reserve limits (begun.coordinator.deadlines.eligible reading.now)
            (max 1 (input + output)))).1.map fun _ => decision,
          (persist limits reading (begun.reserve limits (begun.coordinator.deadlines.eligible reading.now)
            (max 1 (input + output)))).2)) ∨
      (¬begun.coordinator.deadlines.eligible reading.now < deadline ∧ ∃ decision : AdmissionDecision,
        decision.admitted = false ∧ admission limits reading deadline input output host = (.ok decision, begun)) := by
  by_cases early : begun.coordinator.deadlines.eligible reading.now < deadline
  · exact .inl ⟨early, admission_early ran nonneg early⟩
  · exact .inr ⟨early, admission_late ran nonneg early⟩

theorem admission_negative {deadline : ℚ} {input output : Int} (negative : input < 0 ∨ output < 0) :
    admission limits reading deadline input output host =
      (.error (valueError "token estimates must not be negative"), host) := by
  unfold admission
  exact apply_bind_error (by simp only [raiseIf, if_pos negative]; rfl)

theorem admission_unavailable (ran : restore limits reading host = (.error unavailable, host)) {deadline : ℚ}
    {input output : Int} (nonneg : ¬(input < 0 ∨ output < 0)) :
    admission limits reading deadline input output host = (.error unavailable, host) := by
  unfold admission
  rw [apply_bind_ok (by simp only [raiseIf, if_neg nonneg]; rfl)]
  exact apply_bind_error ran

theorem revalidate_restored (ran : restore limits reading host = (.ok (), begun)) (deadline : ℚ) :
    ∃ decision : AdmissionDecision, (decision.admitted = true ↔ decision.eligibleAt < deadline) ∧
      decision.eligibleAt = max reading.now begun.coordinator.deadlines.blockedUntil ∧
      revalidate limits reading deadline host = (.ok decision, begun) := by
  unfold revalidate
  rw [apply_bind_ok ran, apply_read_bind]
  exact ⟨_, decide_eq_true_iff, rfl, rfl⟩

theorem observeThrottle_restored (ran : restore limits reading host = (.ok (), begun)) (eligibleAt : ℚ) :
    observeThrottle limits reading eligibleAt host = persist limits reading (begun.blocked eligibleAt) := by
  unfold observeThrottle
  rw [apply_bind_ok ran, apply_modify_bind]

theorem observeSuccess_restored (ran : restore limits reading host = (.ok (), begun)) {reserved input output : Int}
    {id : Nat} (credits : credit limits reserved input output ≠ 0) :
    observeSuccess limits reading reserved input output (some id) host =
      if some id ≠ some begun.coordinator.latestReservationId then (.ok (), begun)
      else persist limits reading (begun.credited (credit limits reserved input output)) := by
  unfold observeSuccess
  rw [if_neg (by simp [credits]), apply_bind_ok ran, apply_read_bind]
  split
  · rfl
  · rw [apply_modify_bind]

end Answers

section Twins

variable (limits : Limits) (offset : ℚ)

/-- The original coordinator, and one that was started from its file when it had made some reservations. -/
structure Twins (made : Nat) (original restored : System) : Prop where
  running : original.host.coordinator.restored = true
  numbers : original.host.coordinator.latestReservationId = made + restored.host.coordinator.latestReservationId
  behind : restored.host.coordinator.restored = true →
    (original.host.due original.shift).Behind original.time (restored.host.due restored.shift)
  waiting : restored.host.coordinator.restored = false → ∃ state, restored.host.file = some state ∧
    (original.host.due original.shift).Behind original.time (state.map (· - offset))

variable {limits offset} {made : Nat} {original restored : System} {time : ℚ} {readable writable : Bool}

structure Twins.Ready (made : Nat) (original restored : System) (time : ℚ) (begun : Host) : Prop where
  running : begun.coordinator.restored = true
  numbers : original.host.coordinator.latestReservationId = made + begun.coordinator.latestReservationId
  behind : (original.host.due original.shift).Behind time (begun.due restored.shift)

theorem Twins.ready (twins : Twins offset made original restored) (durable : limits.durable = true)
    (le : original.time ≤ time) {begun : Host}
    (began : Restored limits (restored.reading offset time readable writable) restored.host begun) :
    Twins.Ready made original restored time begun := by
  cases began with
  | running skip =>
    refine ⟨rfl, twins.numbers, ?_⟩
    cases running : restored.host.coordinator.restored with
    | true => exact (twins.behind running).mono le
    | false =>
      obtain ⟨state, found, -⟩ := twins.waiting running
      simp [Host.toRestore, running, durable, found] at skip
  | @loaded state found =>
    have fresh : restored.host.coordinator.restored = false := by
      by_contra running
      simp [Host.toRestore, running] at found
    have stored : restored.host.file = some state := by simpa [Host.toRestore, fresh, durable] using found
    obtain ⟨other, there, behind⟩ := twins.waiting fresh
    obtain rfl := Option.some.inj (stored.symm.trans there)
    refine ⟨rfl, twins.numbers, ?_⟩
    rw [restoredFrom_due (reading_at restored offset time readable writable)]
    exact behind.loaded le

theorem Twins.unrestored (twins : Twins offset made original restored) (le : original.time ≤ time) {after : Host}
    (running : after.coordinator.restored = true)
    (latest : after.coordinator.latestReservationId = original.host.coordinator.latestReservationId)
    (lower : (after.due original.shift).Le (original.host.due original.shift)) {ledger restoredLedger : Ledger}
    {at_ : ℚ} :
    Twins offset made { original with host := after, time, ledger }
      { restored with time := at_, ledger := restoredLedger } where
  running := running
  numbers := latest.trans twins.numbers
  behind started := by
    have behind := (twins.behind started).mono le
    exact ⟨lower.1.trans behind.1, lower.2.1.trans behind.2.1, lower.2.2.trans behind.2.2⟩
  waiting fresh := by
    obtain ⟨state, found, before⟩ := twins.waiting fresh
    have behind := before.mono le
    exact ⟨state, found, lower.1.trans behind.1, lower.2.1.trans behind.2.1, lower.2.2.trans behind.2.2⟩

theorem Twins.both {first second : Host} (firstRuns : first.coordinator.restored = true)
    (secondRuns : second.coordinator.restored = true)
    (numbers : first.coordinator.latestReservationId = made + second.coordinator.latestReservationId)
    (behind : (first.due original.shift).Behind time (second.due restored.shift)) {firstLedger secondLedger : Ledger} :
    Twins offset made { original with host := first, time, ledger := firstLedger }
      { restored with host := second, time, ledger := secondLedger } where
  running := firstRuns
  numbers := numbers
  behind _ := behind
  waiting fresh := by
    rw [show second.coordinator.restored = false from fresh] at secondRuns
    cases secondRuns

theorem Twins.persisted (durable : limits.durable = true) {firstReading secondReading : Reading} {first second : Host}
    (firstRuns : first.coordinator.restored = true) (secondRuns : second.coordinator.restored = true)
    (numbers : first.coordinator.latestReservationId = made + second.coordinator.latestReservationId)
    (behind : (first.due original.shift).Behind time (second.due restored.shift)) {firstLedger secondLedger : Ledger} :
    Twins offset made
      { original with host := (persist limits firstReading first).2, time, ledger := firstLedger }
      { restored with host := (persist limits secondReading second).2, time, ledger := secondLedger } := by
  have one := (@persist_answer limits firstReading durable first).2
  have other := (@persist_answer limits secondReading durable second).2
  refine .both (one ▸ firstRuns) (other ▸ secondRuns) (by rw [one, other]; exact numbers) ?_
  unfold Host.due at *
  rw [one, other]
  exact behind

theorem Twins.unchanged (twins : Twins offset made original restored) (le : original.time ≤ time)
    {firstLedger secondLedger : Ledger} :
    Twins offset made { original with time, ledger := firstLedger } { restored with time, ledger := secondLedger } :=
  twins.unrestored le twins.running rfl ⟨le_rfl, le_rfl, le_rfl⟩

section Ready

variable {begun : Host} (ready : Twins.Ready made original restored time begun) {first second : Reading}
  (firstAt : first.At offset original.shift time) (secondAt : second.At offset restored.shift time)
include ready firstAt secondAt

theorem Twins.Ready.eligible :
    original.host.coordinator.deadlines.eligible first.now + original.shift ≤
      begun.coordinator.deadlines.eligible second.now + restored.shift := by
  rw [eligible_due firstAt, eligible_due secondAt]
  exact Deadlines.eligible_mono ready.behind

theorem Twins.Ready.reserve (limits : Limits) (demand : Int) :
    ((original.host.reserve limits (original.host.coordinator.deadlines.eligible first.now) demand).due
        original.shift).Behind time
      ((begun.reserve limits (begun.coordinator.deadlines.eligible second.now) demand).due restored.shift) := by
  have eligible := ready.eligible firstAt secondAt
  refine ⟨le_max_of_le_right ?_, le_max_of_le_right ?_, ready.behind.2.2⟩
  all_goals
    simp only [Host.due, Deadlines.map, Host.reserve]
    linarith

end Ready

theorem Twins.admission (twins : Twins offset made original restored) (durable : limits.durable = true)
    (le : original.time ≤ time) (deadline : ℚ) (input output : Int)
    {first second : Except PyError AdmissionDecision × Host}
    (one : ModelRateLimits.admission limits (original.reading offset time readable writable) deadline input output
      original.host = first)
    (other : ModelRateLimits.admission limits (restored.reading offset time readable writable)
      (deadline + (original.shift - restored.shift)) input output restored.host = second) :
    NotEarlier (original.shift - restored.shift) (first.1.map some) (second.1.map some) ∧
      (Alike (first.1.map some) (second.1.map some) → ∀ {firstLedger secondLedger : Ledger},
        Twins offset made { original with host := first.2, time, ledger := firstLedger }
          { restored with host := second.2, time, ledger := secondLedger }) := by
  by_cases nonneg : input < 0 ∨ output < 0
  · rw [admission_negative nonneg] at one other
    subst one other
    exact ⟨fun _ wrong => (by cases wrong), fun _ => twins.unchanged le⟩
  · have running := @restore_running limits (original.reading offset time readable writable) _ twins.running
    rcases restore_cases limits (restored.reading offset time readable writable) restored.host with
      lost | ⟨begun, ran, began⟩
    · rw [admission_unavailable lost nonneg] at other
      subst other
      refine ⟨fun _ wrong => (by cases wrong), fun alike => ?_⟩
      rcases admission_verdict running nonneg deadline with ⟨-, decision, -, -, told⟩ | ⟨-, decision, -, told⟩
      · rw [told] at one
        subst one
        rw [(persist_answer durable _).1] at alike
        cases writable <;> simp [Alike, System.reading, Except.map, uncheckpointed, unavailable] at alike
      · rw [told] at one
        subst one
        simp [Alike, Except.map] at alike
    · have ready := twins.ready durable le began
      have firstAt := reading_at original offset time readable writable
      have secondAt := reading_at restored offset time readable writable
      have eligible := ready.eligible firstAt secondAt
      rcases admission_verdict ran nonneg (deadline + (original.shift - restored.shift)) with
        ⟨early, decision, admitted, eligibleAt, told⟩ | ⟨late, decision, refused, told⟩
      · rw [told] at other
        rcases admission_verdict running nonneg deadline with
          ⟨-, sooner, verdict, same, said⟩ | ⟨late, -⟩
        · rw [said] at one
          subst one other
          have behind := ready.reserve firstAt secondAt limits (max 1 (input + output))
          refine ⟨fun chosen found _ => ?_, fun _ => ?_⟩
          rotate_left
          · intro _ _
            apply Twins.persisted durable
            · exact twins.running
            · exact ready.running
            · exact congrArg (· + 1) ready.numbers
            · exact behind
          rw [(persist_answer durable _).1] at found ⊢
          cases writable with
          | false => cases found
          | true =>
            cases found
            refine ⟨sooner, rfl, verdict, ?_⟩
            rw [same, eligibleAt]
            linarith
        · exact absurd (by linarith) late
      · rw [told] at other
        subst other
        rcases admission_verdict running nonneg deadline with
          ⟨-, sooner, verdict, -, said⟩ | ⟨-, _, -, said⟩
        · rw [said] at one
          subst one
          refine ⟨fun _ found admitted => absurd (Option.some.inj (Except.ok.inj found)) ?_, fun alike => ?_⟩
          · rintro rfl
            rw [refused] at admitted
            cases admitted
          · rw [(persist_answer durable _).1] at alike
            cases writable <;> simp [Alike, System.reading, Except.map, verdict, refused] at alike
        · rw [said] at one
          subst one
          refine ⟨fun _ found admitted => ?_, fun _ => .both twins.running ready.running ready.numbers ready.behind⟩
          cases found
          rw [refused] at admitted
          cases admitted

theorem Twins.revalidate (twins : Twins offset made original restored) (durable : limits.durable = true)
    (le : original.time ≤ time) (deadline : ℚ) {first second : Except PyError AdmissionDecision × Host}
    (one : ModelRateLimits.revalidate limits (original.reading offset time readable writable) deadline
      original.host = first)
    (other : ModelRateLimits.revalidate limits (restored.reading offset time readable writable)
      (deadline + (original.shift - restored.shift)) restored.host = second) :
    NotEarlier (original.shift - restored.shift) (first.1.map some) (second.1.map some) ∧
      ∀ {firstLedger secondLedger : Ledger},
        Twins offset made { original with host := first.2, time, ledger := firstLedger }
          { restored with host := second.2, time, ledger := secondLedger } := by
  obtain ⟨sooner, verdict, same, said⟩ := revalidate_restored
    (@restore_running limits (original.reading offset time readable writable) _ twins.running) deadline
  rw [said] at one
  subst one
  rcases restore_cases limits (restored.reading offset time readable writable) restored.host with
    lost | ⟨begun, ran, began⟩
  · have told : ModelRateLimits.revalidate limits (restored.reading offset time readable writable)
        (deadline + (original.shift - restored.shift)) restored.host = (.error unavailable, restored.host) := by
      unfold ModelRateLimits.revalidate
      exact apply_bind_error lost
    rw [told] at other
    subst other
    exact ⟨fun _ wrong => (by cases wrong), twins.unchanged le⟩
  · have ready := twins.ready durable le began
    obtain ⟨decision, admits, eligibleAt, told⟩ :=
      revalidate_restored ran (deadline + (original.shift - restored.shift))
    rw [told] at other
    subst other
    refine ⟨fun chosen found admitted => ?_, .both twins.running ready.running ready.numbers ready.behind⟩
    cases found
    have blocked := ready.behind.2.2
    simp only [Host.due, Deadlines.map] at blocked
    have eligible : sooner.eligibleAt + (original.shift - restored.shift) ≤ decision.eligibleAt := by
      rw [same, eligibleAt]
      change max (time - original.shift) _ + _ ≤ max (time - restored.shift) _
      rcases max_cases (time - original.shift) original.host.coordinator.deadlines.blockedUntil with
        ⟨first, _⟩ | ⟨first, _⟩
      · have := le_max_left (time - restored.shift) begun.coordinator.deadlines.blockedUntil
        linarith
      · have now := le_max_left (time - restored.shift) begun.coordinator.deadlines.blockedUntil
        have block := le_max_right (time - restored.shift) begun.coordinator.deadlines.blockedUntil
        rcases le_max_iff.mp blocked with past | later <;> linarith
    have early := admits.mp admitted
    exact ⟨sooner, rfl, verdict.mpr (by linarith), eligible⟩

theorem Twins.observeThrottle (twins : Twins offset made original restored) (durable : limits.durable = true)
    (le : original.time ≤ time) (eligibleAt : ℚ) {first second : Except PyError Unit × Host}
    (one : ModelRateLimits.observeThrottle limits (original.reading offset time readable writable) eligibleAt
      original.host = first)
    (other : ModelRateLimits.observeThrottle limits (restored.reading offset time readable writable)
      (eligibleAt + (original.shift - restored.shift)) restored.host = second)
    (alike : Alike (first.1.map fun _ => none) (second.1.map fun _ => none)) {firstLedger secondLedger : Ledger} :
    Twins offset made { original with host := first.2, time, ledger := firstLedger }
      { restored with host := second.2, time, ledger := secondLedger } := by
  rw [observeThrottle_restored (restore_running twins.running)] at one
  subst one
  rcases restore_cases limits (restored.reading offset time readable writable) restored.host with
    lost | ⟨begun, ran, began⟩
  · have told : ModelRateLimits.observeThrottle limits (restored.reading offset time readable writable)
        (eligibleAt + (original.shift - restored.shift)) restored.host = (.error unavailable, restored.host) := by
      unfold ModelRateLimits.observeThrottle
      exact apply_bind_error lost
    rw [told] at other
    subst other
    rw [(persist_answer durable _).1] at alike
    cases writable <;> simp [Alike, System.reading, Except.map, uncheckpointed, unavailable] at alike
  · have ready := twins.ready durable le began
    rw [observeThrottle_restored ran] at other
    subst other
    apply Twins.persisted durable
    · exact twins.running
    · exact ready.running
    · exact ready.numbers
    refine ⟨ready.behind.1, ready.behind.2.1, ?_⟩
    have blocked := ready.behind.2.2
    simp only [Host.due, Deadlines.map, Host.blocked, Host.setDeadlines] at blocked ⊢
    rw [← max_add_add_right, ← max_add_add_right]
    refine max_le (blocked.trans (max_le_max_left _ (le_max_left _ _))) (le_max_of_le_right (le_max_of_le_right ?_))
    linarith

section Credit

variable {reserved input output : Int} {firstReading secondReading : Reading}

/-- What the original coordinator is left with when a usage comes in. -/
inductive Lowered (limits : Limits) (reading : Reading) (amount : ℚ) (id : Nat) (host : Host) : Host → Prop where
  | kept (other : id ≠ host.coordinator.latestReservationId) : Lowered limits reading amount id host host
  | lowered (latest : id = host.coordinator.latestReservationId) :
      Lowered limits reading amount id host (persist limits reading (host.credited amount)).2

theorem observeSuccess_running {host : Host} (running : host.coordinator.restored = true) {id : Nat}
    (credits : credit limits reserved input output ≠ 0) :
    Lowered limits firstReading (credit limits reserved input output) id host
      (observeSuccess limits firstReading reserved input output (some id) host).2 := by
  rw [observeSuccess_restored (restore_running running) credits]
  split
  · rename_i other
    exact .kept fun same => other (congrArg some same)
  · rename_i latest
    exact .lowered (Option.some.inj (not_not.mp latest))

theorem observeSuccess_nothing {host : Host} {reservationId : Option Nat}
    (nothing : credit limits reserved input output = 0 ∨ reservationId = none) :
    observeSuccess limits firstReading reserved input output reservationId host = (.ok (), host) := by
  unfold observeSuccess
  rw [if_pos nothing]
  rfl

theorem credit_nonneg : 0 ≤ credit limits reserved input output := by
  have positive : (0 : ℚ) < limits.tokensPerMinute := by exact_mod_cast limits.tokens_pos
  have amount : (0 : ℚ) ≤ (max 0 (reserved - max 1 (input + output)) : Int) := by exact_mod_cast le_max_left 0 _
  unfold credit
  positivity

theorem Twins.lowered (twins : Twins offset made original restored) (durable : limits.durable = true)
    (le : original.time ≤ time) {id : Nat} {after : Host}
    (clamp : id = original.host.coordinator.latestReservationId →
      credit limits reserved input output ≤ original.host.coordinator.deadlines.nextTokenAt)
    (lowered : Lowered limits firstReading (credit limits reserved input output) id original.host after)
    {firstLedger secondLedger : Ledger} {later : ℚ} :
    Twins offset made { original with host := after, time, ledger := firstLedger }
      { restored with time := later, ledger := secondLedger } := by
  cases lowered with
  | kept other => exact twins.unrestored le twins.running rfl ⟨le_rfl, le_rfl, le_rfl⟩
  | lowered latest =>
    have same := (@persist_answer limits firstReading durable
      (original.host.credited (credit limits reserved input output))).2
    refine twins.unrestored le (same ▸ twins.running) (by rw [same]; rfl) ?_
    unfold Host.due
    rw [same]
    refine ⟨le_rfl, ?_, le_rfl⟩
    have nonneg : 0 ≤ credit limits reserved input output := credit_nonneg
    have enough := clamp latest
    change max 0 (original.host.coordinator.deadlines.nextTokenAt - _) + original.shift ≤
      original.host.coordinator.deadlines.nextTokenAt + original.shift
    rw [max_eq_right (by linarith)]
    linarith

theorem Twins.observeSuccess (twins : Twins offset made original restored) (durable : limits.durable = true)
    (le : original.time ≤ time) {id : Nat} (own : made < id)
    (clamp : id = original.host.coordinator.latestReservationId →
      credit limits reserved input output ≤ original.host.coordinator.deadlines.nextTokenAt)
    {first second : Except PyError Unit × Host}
    (one : ModelRateLimits.observeSuccess limits (original.reading offset time readable writable) reserved input output
      (some id) original.host = first)
    (other : ModelRateLimits.observeSuccess limits (restored.reading offset time readable writable) reserved input
      output (some (id - made)) restored.host = second) {firstLedger secondLedger : Ledger} :
    Twins offset made { original with host := first.2, time, ledger := firstLedger }
      { restored with host := second.2, time, ledger := secondLedger } := by
  by_cases nothing : credit limits reserved input output = 0
  · rw [observeSuccess_nothing (.inl nothing)] at one other
    subst one other
    exact twins.unchanged le
  · have lowered : Lowered limits (original.reading offset time readable writable) _ id original.host _ :=
      observeSuccess_running twins.running nothing
    rw [one] at lowered
    rcases restore_cases limits (restored.reading offset time readable writable) restored.host with
      lost | ⟨begun, ran, began⟩
    · have told : ModelRateLimits.observeSuccess limits (restored.reading offset time readable writable) reserved input
          output (some (id - made)) restored.host = (.error unavailable, restored.host) := by
        unfold ModelRateLimits.observeSuccess
        rw [if_neg (by simp [nothing])]
        exact apply_bind_error lost
      rw [told] at other
      subst other
      exact twins.lowered durable le clamp lowered
    · have ready := twins.ready durable le began
      have numbers := ready.numbers
      rw [observeSuccess_restored ran nothing] at other
      generalize first.2 = after at lowered
      cases lowered with
      | kept different =>
        rw [if_pos (by simp only [ne_eq, Option.some.injEq]; omega)] at other
        subst other
        exact .both twins.running ready.running ready.numbers ready.behind
      | lowered latest =>
        rw [if_neg (by simp only [ne_eq, Option.some.injEq]; omega)] at other
        subst other
        apply Twins.persisted durable
        · exact twins.running
        · exact ready.running
        · exact ready.numbers
        refine ⟨ready.behind.1, ?_, ready.behind.2.2⟩
        have nonneg : 0 ≤ credit limits reserved input output := credit_nonneg
        have enough := clamp latest
        have tokens := ready.behind.2.1
        simp only [Host.due, Deadlines.map, Host.credited, Host.setDeadlines] at tokens ⊢
        rw [max_eq_right (by linarith)]
        rcases le_max_iff.mp tokens with past | later
        · exact le_max_of_le_left (by linarith)
        · have := le_max_right 0 (begun.coordinator.deadlines.nextTokenAt - credit limits reserved input output)
          exact le_max_of_le_right (by linarith)

end Credit

theorem follows_cons (made : Nat) (original restored : System) (time : ℚ) (readable writable : Bool) (call : Call)
    (events : List Event) :
    Follows limits offset made original restored (.call time readable writable call :: events) =
      match call.restarted (original.shift - restored.shift) made with
      | none =>
        Follows limits offset made (original.next limits offset (.call time readable writable call)) restored events
      | some same =>
        NotEarlier (original.shift - restored.shift) (original.answer limits offset time readable writable call)
            (restored.answer limits offset time readable writable same) ∧
          ((call.Delays → Alike (original.answer limits offset time readable writable call)
              (restored.answer limits offset time readable writable same)) →
            Follows limits offset made (original.next limits offset (.call time readable writable call))
              (restored.next limits offset (.call time readable writable same)) events) := by
  simp only [Follows]

theorem notEarlier_unit (lag : ℚ) (first : Answer) (second : Except PyError Unit) :
    NotEarlier lag first (second.map fun _ => none) := by
  intro decision found
  cases second <;> cases found

theorem System.Lasts.clamp (lasts : original.Lasts limits offset) (inv : original.Inv limits offset)
    (running : original.host.coordinator.restored = true) {reserved input output : Int} {id : Nat}
    (reconcilable : ∃ reservation ∈ original.ledger.reservations, reservation.reconcilable ∧ reservation.id = id ∧
      reservation.reserved = reserved) (latest : id = original.host.coordinator.latestReservationId) :
    credit limits reserved input output ≤ original.host.coordinator.deadlines.nextTokenAt := by
  obtain ⟨reservation, member, still, rfl, rfl⟩ := reconcilable
  exact lasts.credit_le inv running member still latest input output

theorem Twins.follows {events : List Event} {last : System} (durable : limits.durable = true)
    (run : System.Run limits offset original events last) (inv : original.Inv limits offset)
    (lasts : original.Lasts limits offset) (twins : Twins offset made original restored) :
    Follows limits offset made original restored events := by
  induction run generalizing restored with
  | nil => simp only [Follows]
  | @cons original last event events allowed rest ih =>
    cases event with
    | restart shift => simp only [Follows]
    | call time readable writable call =>
      have ih {after : System} (twins : Twins offset made _ after) := ih (inv.next allowed) (lasts.next allowed) twins
      have le : original.time ≤ time := allowed.1
      rw [follows_cons]
      cases call with
      | admission deadline input output =>
        obtain ⟨earlier, next⟩ := twins.admission durable le deadline input output rfl rfl
        exact ⟨earlier, fun alike => ih (next (alike trivial))⟩
      | revalidate deadline =>
        obtain ⟨earlier, next⟩ := twins.revalidate durable le deadline rfl rfl
        exact ⟨earlier, fun _ => ih next⟩
      | observeThrottle eligibleAt =>
        exact ⟨notEarlier_unit _ _ _, fun alike =>
          ih (twins.observeThrottle durable le eligibleAt rfl rfl (alike trivial))⟩
      | observeSuccess reserved input output reservationId =>
        cases reservationId with
        | none =>
          refine ⟨notEarlier_unit _ _ _, fun _ => ih ?_⟩
          simp only [System.next, observeSuccess_nothing (.inr rfl)]
          exact twins.unchanged le
        | some id =>
          have clamp : id = _ → credit limits reserved input output ≤ _ := lasts.clamp inv twins.running allowed.2
          simp only [Call.restarted]
          by_cases old : id ≤ made
          · rw [if_pos old]
            refine ih ?_
            simp only [System.next]
            by_cases nothing : credit limits reserved input output = 0
            · rw [observeSuccess_nothing (.inl nothing)]
              exact twins.unrestored le twins.running rfl ⟨le_rfl, le_rfl, le_rfl⟩
            · exact twins.lowered durable le clamp (observeSuccess_running twins.running nothing)
          · rw [if_neg old]
            exact ⟨notEarlier_unit _ _ _, fun _ => ih (twins.observeSuccess durable le (by omega) clamp rfl rfl)⟩

end Twins

section Main

variable {limits : Limits} {offset : ℚ} {system : System}

theorem twins_restart (lasts : system.Lasts limits offset) (durable : limits.durable = true)
    (running : system.host.coordinator.restored = true) (saved : system.host.saved = true)
    (written : system.host.file ≠ none) (shift : ℚ) :
    Twins offset system.host.coordinator.latestReservationId system (system.next limits offset (.restart shift)) where
  running := running
  numbers := rfl
  behind started := by cases started
  waiting _ := by
    obtain ⟨state, found⟩ := Option.ne_none_iff_exists'.mp written
    exact ⟨state, found, lasts.lasting.kept durable running saved state found⟩

def oneEachSecond : Limits := ⟨60, 60, true, by decide, by decide⟩

/-- Two admissions, and between them the usage of the first and a throttle hint. -/
def paces : List Event :=
  [.call 0 true true (.admission 100 8 2), .call 2 true true (.observeSuccess 10 2 2 (some 1)),
    .call 3 true true (.observeThrottle 20), .call 4 true true (.admission 100 5 0)]

def pacesLast : System := paces.foldl (System.next oneEachSecond 1000) ⟨{}, 0, 0, {}⟩

theorem paces_run : System.Run oneEachSecond 1000 ⟨{}, 0, 0, {}⟩ paces pacesLast := by
  refine .cons ?_ (.cons ?_ (.cons ?_ (.cons ?_ (.nil _))))
  · exact ⟨by decide +kernel, trivial⟩
  · exact ⟨by decide +kernel, ⟨1, 0, 10, 10, true, []⟩, by decide +kernel, rfl, rfl, rfl⟩
  · exact ⟨by decide +kernel, trivial⟩
  · exact ⟨by decide +kernel, trivial⟩

end Main

end Aep.ModelRateLimits
