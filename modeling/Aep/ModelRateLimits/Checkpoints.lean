import Aep.ModelRateLimits.Runs

namespace Aep.ModelRateLimits

open StateAction RuntimeStore

section Behind

def Deadlines.Behind (time : ℚ) (first second : Deadlines) : Prop := first.Le (second.map (max time))

variable {time later : ℚ} {first second third : Deadlines}

theorem Deadlines.Le.behind (le : first.Le second) : first.Behind time second :=
  ⟨le.1.trans (le_max_right _ _), le.2.1.trans (le_max_right _ _), le.2.2.trans (le_max_right _ _)⟩

theorem Deadlines.Behind.mono (behind : first.Behind time second) (le : time ≤ later) : first.Behind later second :=
  ⟨behind.1.trans (max_le_max_right _ le), behind.2.1.trans (max_le_max_right _ le),
    behind.2.2.trans (max_le_max_right _ le)⟩

theorem Deadlines.Behind.loaded (behind : first.Behind time second) (le : time ≤ later) :
    first.Behind later (second.map (max later)) := by
  have moved := behind.mono le
  exact ⟨moved.1.trans (le_max_right _ _), moved.2.1.trans (le_max_right _ _), moved.2.2.trans (le_max_right _ _)⟩

theorem Deadlines.eligible_mono (behind : first.Behind time second) : first.eligible time ≤ second.eligible time := by
  obtain ⟨requests, tokens, blocked⟩ := behind
  simp only [Deadlines.map] at requests tokens blocked
  simp only [Deadlines.eligible, max_le_iff]
  refine ⟨⟨⟨?_, ?_⟩, ?_⟩, ?_⟩
  · simp
  · refine requests.trans (max_le ?_ ?_) <;> simp
  · refine tokens.trans (max_le ?_ ?_) <;> simp
  · refine blocked.trans (max_le ?_ ?_) <;> simp

end Behind

section Clocks

variable {limits : Limits} {offset shift time : ℚ} {reading : Reading} {host begun after : Host}

theorem Reading.At.fromWall_eq (at_ : reading.At offset shift time) (deadline : ℚ) :
    reading.fromWall deadline + shift = max time (deadline - offset) := by
  unfold Reading.fromWall
  rw [at_.now, at_.wall]
  rcases max_cases 0 (deadline - (time + offset)) with ⟨same, _⟩ | ⟨same, _⟩ <;>
    rcases max_cases time (deadline - offset) with ⟨other, _⟩ | ⟨other, _⟩ <;> rw [same, other] <;> linarith

theorem restoredFrom_due (at_ : reading.At offset shift time) (state : Deadlines) :
    (host.restoredFrom reading state).due shift = (state.map (· - offset)).map (max time) := by
  simp only [Host.due, Host.restoredFrom, Deadlines.map, at_.fromWall_eq]

theorem eligible_due (at_ : reading.At offset shift time) :
    host.coordinator.deadlines.eligible reading.now + shift = (host.due shift).eligible time := by
  simp only [Host.due, Deadlines.eligible, Deadlines.map, at_.now, ← max_add_add_right, sub_add_cancel]

theorem begun_running (running : host.coordinator.restored = true) : host.begun = host := by
  obtain ⟨⟨deadlines, restored, latest⟩, file, saved⟩ := host
  cases running
  rfl

end Clocks

section Lasting

variable (limits : Limits) (offset : ℚ)

structure Lasting (host : Host) (shift time : ℚ) : Prop where
  tokens : 0 ≤ host.coordinator.deadlines.nextTokenAt
  kept : limits.durable = true → host.coordinator.restored = true → host.saved = true → ∀ state ∈ host.file,
    (host.due shift).Behind time (state.map (· - offset))

structure System.Lasts (system : System) : Prop where
  lasting : Lasting limits offset system.host system.shift system.time
  fresh : limits.durable = true → system.host.coordinator.restored = false → system.host.file ≠ none →
    system.shift ≤ system.time
  reservations : ∀ reservation ∈ system.ledger.reservations, reservation.reconcilable = true →
    system.shift ≤ reservation.eligibleAt

variable {limits offset} {host begun changed after : Host} {shift time later : ℚ} {reading : Reading}

theorem Restored.restored (restored : Restored limits reading host begun) : begun.coordinator.restored = true := by
  cases restored <;> rfl

theorem Persisted.coordinator (written : Persisted limits reading changed after) :
    after.coordinator = changed.coordinator := by
  cases written <;> rfl

theorem Lasting.mono (lasting : Lasting limits offset host shift time) (le : time ≤ later) :
    Lasting limits offset host shift later :=
  ⟨lasting.tokens, fun durable restored saved state there => (lasting.kept durable restored saved state there).mono le⟩

theorem Lasting.resumed (lasting : Lasting limits offset host shift time) (le : time ≤ later)
    (fresh : limits.durable = true → host.coordinator.restored = false → host.file ≠ none → shift ≤ time)
    (at_ : reading.At offset shift later) (restored : Restored limits reading host begun) :
    Lasting limits offset begun shift later := by
  cases restored with
  | running skip =>
    refine ⟨lasting.tokens, fun durable _ saved state there => ?_⟩
    cases running : host.coordinator.restored with
    | true => exact (lasting.kept durable running saved state there).mono le
    | false =>
      have none : host.file = none := by simpa [Host.toRestore, running, durable] using skip
      rw [show host.begun.file = host.file from rfl, none] at there
      cases there
  | @loaded state found =>
    obtain ⟨running, durable⟩ : host.coordinator.restored = false ∧ limits.durable = true := by
      simp only [Host.toRestore] at found
      split at found
      · cases found
      · rename_i both
        simpa using both
    have stored : host.file = some state := by simpa [Host.toRestore, running, durable] using found
    refine ⟨?_, fun _ _ _ other there => ?_⟩
    · have clock := fresh durable running (by rw [stored]; exact Option.some_ne_none _)
      have now := at_.now
      change 0 ≤ reading.now + max 0 (state.nextTokenAt - reading.wall)
      have := le_max_left 0 (state.nextTokenAt - reading.wall)
      linarith
    · rw [show (host.restoredFrom reading state).file = host.file from rfl, stored] at there
      cases there
      rw [restoredFrom_due at_]
      exact ⟨le_rfl, le_rfl, le_rfl⟩

theorem Lasting.persisted (written : Persisted limits reading changed after) (at_ : reading.At offset shift later)
    (tokens : 0 ≤ changed.coordinator.deadlines.nextTokenAt) : Lasting limits offset after shift later := by
  refine ⟨by rw [written.coordinator]; exact tokens, fun durable _ saved state there => ?_⟩
  cases written with
  | volatile limited =>
    rw [limited] at durable
    cases durable
  | written limited =>
    cases there
    exact (@Deadlines.map_le changed.coordinator.deadlines _ _ at_.toWall).behind
  | unsaved limited => cases saved

theorem le_eligible (deadlines : Deadlines) (now : ℚ) : deadlines.nextTokenAt ≤ deadlines.eligible now :=
  (le_max_right _ _).trans (le_max_left _ _)

theorem reserve_tokens {demand : Int} (positive : 1 ≤ demand) (now : ℚ)
    (tokens : 0 ≤ begun.coordinator.deadlines.nextTokenAt) :
    0 ≤ (begun.reserve limits (begun.coordinator.deadlines.eligible now) demand).coordinator.deadlines.nextTokenAt := by
  have gap : 0 ≤ tokenGap limits demand := tokenGap_nonneg (zero_le_one.trans positive)
  have before := le_eligible begun.coordinator.deadlines now
  change 0 ≤ begun.coordinator.deadlines.eligible now + tokenGap limits demand
  linarith

theorem mem_reconcile {id : Nat} {actual : Int} {reservations : List Reservation} {reservation : Reservation}
    (member : reservation ∈ reconcile id actual reservations) (still : reservation.reconcilable = true) :
    reservation ∈ reservations := by
  cases reservations with
  | nil => exact member
  | cons latest earlier =>
    rw [reconcile_cons] at member
    split at member
    · rcases List.mem_cons.mp member with rfl | older
      · cases still
      · exact List.mem_cons_of_mem _ older
    · rcases List.mem_cons.mp member with rfl | older
      · exact List.mem_cons_self
      · obtain ⟨before, there, rfl⟩ := List.mem_map.mp older
        unfold Reservation.spent at still ⊢
        split at still
        · cases still
        · rename_i other
          rw [if_neg other]
          exact List.mem_cons_of_mem _ there

variable {system : System}

theorem System.Lasts.admission (lasts : system.Lasts limits offset) (le : system.time ≤ later) {deadline : ℚ}
    {demand : Int} (positive : 1 ≤ demand) {outcome : Except PyError AdmissionDecision} (at_ : reading.At offset system.shift later)
    (admitted : Admitted limits reading system.host deadline demand outcome after) :
    System.Lasts limits offset { system with host := after, time := later, ledger := system.admitted outcome } := by
  cases admitted with
  | raised error =>
    exact ⟨lasts.lasting.mono le, fun durable fresh file => (lasts.fresh durable fresh file).trans le,
      lasts.reservations⟩
  | @refused _ restored decision late verdict eligible none_ =>
    have same : system.admitted (.ok decision) = system.ledger := by
      simp only [System.admitted, none_]
    rw [same]
    refine ⟨lasts.lasting.resumed le lasts.fresh at_ restored, fun _ fresh => ?_, lasts.reservations⟩
    rw [show after.coordinator.restored = true from restored.restored] at fresh
    cases fresh
  | @reserved begun _ restored _ early written told =>
    have lasting := lasts.lasting.resumed le lasts.fresh at_ restored
    refine ⟨.persisted written at_ (reserve_tokens positive _ lasting.tokens), fun _ fresh => ?_, ?_⟩
    · change after.coordinator.restored = false at fresh
      rw [written.coordinator, show (begun.reserve limits _ demand).coordinator.restored = true from restored.restored]
        at fresh
      cases fresh
    · cases outcome with
      | error error => exact lasts.reservations
      | ok decision =>
        obtain ⟨-, eligible, tokens, id⟩ := told decision rfl
        simp only [System.admitted, id]
        intro reservation member still
        rcases List.mem_cons.mp member with rfl | older
        · have before := le_eligible begun.coordinator.deadlines reading.now
          have nonneg := lasting.tokens
          change system.shift ≤ decision.eligibleAt + system.shift
          linarith
        · exact lasts.reservations reservation older still

theorem System.Lasts.left (lasts : system.Lasts limits offset) (le : system.time ≤ later)
    (at_ : reading.At offset system.shift later)
    (left : after = system.host ∨ Restored limits reading system.host after ∨
      ∃ changed, 0 ≤ changed.coordinator.deadlines.nextTokenAt ∧ changed.coordinator.restored = true ∧
        Persisted limits reading changed after) {ledger : Ledger}
    (reservations : ∀ reservation ∈ ledger.reservations, reservation.reconcilable = true →
      reservation ∈ system.ledger.reservations) :
    System.Lasts limits offset { system with host := after, time := later, ledger } := by
  have clear : ∀ reservation ∈ ledger.reservations, reservation.reconcilable = true →
      system.shift ≤ reservation.eligibleAt :=
    fun reservation member still => lasts.reservations reservation (reservations reservation member still) still
  rcases left with rfl | restored | ⟨changed, tokens, running, written⟩
  · exact ⟨lasts.lasting.mono le, fun durable fresh file => (lasts.fresh durable fresh file).trans le, clear⟩
  · refine ⟨lasts.lasting.resumed le lasts.fresh at_ restored, fun _ fresh => ?_, clear⟩
    rw [show after.coordinator.restored = true from restored.restored] at fresh
    cases fresh
  · refine ⟨.persisted written at_ tokens, fun _ fresh => ?_, clear⟩
    rw [show after.coordinator.restored = true from written.coordinator ▸ running] at fresh
    cases fresh

theorem System.Lasts.observeSuccess (lasts : system.Lasts limits offset) (le : system.time ≤ later)
    (at_ : reading.At offset system.shift later) {amount : ℚ} {reservationId : Option Nat} (actual : Int)
    (credited : Credited limits reading system.host amount reservationId after) :
    System.Lasts limits offset
      { system with host := after, time := later, ledger := system.reconciled actual reservationId } := by
  refine lasts.left le at_ ?_ fun reservation member still => ?_
  · cases credited with
    | nothing => exact .inl rfl
    | late restored => exact .inr (.inl restored)
    | @credited begun _ restored latest written =>
      exact .inr (.inr ⟨begun.credited amount, le_max_left _ _, restored.restored, written⟩)
  · cases reservationId with
    | none => exact member
    | some id => exact mem_reconcile member still

theorem System.Lasts.observeThrottle (lasts : system.Lasts limits offset) (le : system.time ≤ later)
    (at_ : reading.At offset system.shift later) {eligibleAt : ℚ} {outcome : Except PyError Unit}
    (blocked : Blocked limits reading system.host eligibleAt outcome after) :
    System.Lasts limits offset
      { system with host := after, time := later, ledger := system.throttled eligibleAt outcome } := by
  refine lasts.left le at_ ?_ fun reservation member _ => ?_
  · cases blocked with
    | raised error => exact .inl rfl
    | @blocked begun _ _ restored written =>
      have lasting := lasts.lasting.resumed le lasts.fresh at_ restored
      exact .inr (.inr ⟨begun.blocked eligibleAt, lasting.tokens, restored.restored, written⟩)
  · cases outcome <;> exact member

theorem lasts_restart {shift : ℚ} (le : shift ≤ system.time) :
    (system.next limits offset (.restart shift)).Lasts limits offset := by
  refine ⟨⟨le_rfl, fun _ running => (by cases running)⟩, fun _ _ _ => le, fun reservation member still => ?_⟩
  obtain ⟨before, -, rfl⟩ := List.mem_map.mp member
  cases still

theorem System.Lasts.next (lasts : system.Lasts limits offset) {event : Event} (allowed : system.Allowed limits event) :
    (system.next limits offset event).Lasts limits offset := by
  cases event with
  | restart shift => exact lasts_restart allowed.2.2
  | call time readable writable call =>
    have at_ := reading_at system offset time readable writable
    have le := allowed.1
    cases call with
    | admission deadline estimatedInputTokens outputTokenAllowance =>
      exact lasts.admission le (le_max_left _ _) at_ (admission_cases limits _ _ deadline _ _)
    | revalidate deadline =>
      refine lasts.left le at_ ?_ fun _ member _ => member
      rcases revalidate_cases limits (system.reading offset time readable writable) system.host deadline with
        same | restored
      · exact .inl same
      · exact .inr (.inl restored)
    | observeThrottle eligibleAt => exact lasts.observeThrottle le at_ (observeThrottle_cases limits _ _ eligibleAt)
    | observeSuccess reservedTokens input output reservationId =>
      exact lasts.observeSuccess le at_ _ (observeSuccess_cases limits _ _ reservedTokens input output _)

theorem lasts_initial (shift time : ℚ) : System.Lasts limits offset ⟨{}, shift, time, {}⟩ where
  lasting := ⟨le_rfl, fun _ running => (by cases running)⟩
  fresh _ _ file := absurd rfl file
  reservations _ member := by cases member

theorem System.Run.lasts {last : System} {events : List Event} (run : System.Run limits offset system events last)
    (lasts : system.Lasts limits offset) : last.Lasts limits offset := by
  induction run with
  | nil => exact lasts
  | cons allowed _ ih => exact ih (lasts.next allowed)

theorem System.Lasts.credit_le (lasts : system.Lasts limits offset) (inv : system.Inv limits offset)
    (running : system.host.coordinator.restored = true) {reservation : Reservation}
    (member : reservation ∈ system.ledger.reservations) (still : reservation.reconcilable = true)
    (latest : reservation.id = system.host.coordinator.latestReservationId) (input output : Int) :
    credit limits reservation.reserved input output ≤ system.host.coordinator.deadlines.nextTokenAt := by
  have tokens := lasts.lasting.tokens
  have eligible := lasts.reservations reservation member still
  have covers := (inv.sound.memory running).tokens
  have numbered := inv.sound.numbered
  cases listed : system.ledger.reservations with
  | nil =>
    rw [listed] at member
    cases member
  | cons head earlier =>
    rw [listed] at member covers
    have first : reservation = head := by
      rcases List.mem_cons.mp member with same | older
      · exact same
      · exact absurd (numbered.earlier reservation (by rw [listed]; exact older) still) (by omega)
    subst first
    have before := covers reservation rfl
    rw [(numbered.latest reservation (by rw [listed]; rfl) still).2] at before
    change _ ≤ system.host.coordinator.deadlines.nextTokenAt + system.shift at before
    by_cases less : reservation.reserved ≤ max 1 (input + output)
    · have none : credit limits reservation.reserved input output = 0 := by
        unfold credit
        rw [max_eq_left (by omega)]
        simp
      rw [none]
      exact tokens
    · have actual : 0 ≤ tokenGap limits (max 1 (input + output)) := tokenGap_nonneg (by omega)
      have split : tokenGap limits reservation.reserved =
          credit limits reservation.reserved input output + tokenGap limits (max 1 (input + output)) := by
        unfold tokenGap credit
        rw [max_eq_right (by omega : 0 ≤ reservation.reserved - max 1 (input + output))]
        push_cast
        ring
      linarith

end Lasting

end Aep.ModelRateLimits
