import Aep.ExecutionBudgets.Invariant
import Mathlib.Algebra.Order.Ring.Unbundled.Rat

namespace Aep.ExecutionBudgets

open Result

variable {κ ι : Type}

section Mutations

variable {numerics : Numerics κ} {budget : TaskBudget κ} {started : StartTimes} {ledger next : Ledger κ}

theorem applyBlockDecision_get (state : Scoped (Consumption κ)) (decision : Decision κ) (scope : Scope) :
    SameCounters ((applyBlockDecision state decision).get scope) (state.get scope) ∧
      ((applyBlockDecision state decision).get scope).overrun = (state.get scope).overrun := by
  simp only [applyBlockDecision, Scoped.get_map]
  split
  · split
    · exact ⟨fun counter => by cases counter <;> exact ⟨rfl, rfl⟩, rfl⟩
    · exact ⟨fun counter => by cases counter <;> exact ⟨rfl, rfl⟩, rfl⟩
  · exact ⟨fun counter => ⟨rfl, rfl⟩, rfl⟩

theorem preflightMutation_blocked {arguments : PreflightArguments} {decision : Decision κ}
    (decided : preflightMutation numerics budget arguments started ledger = .ok (next, .blocked decision)) :
    next = changesForState budget ledger
      (applyBlockDecision (loadState numerics budget ledger started) decision) (some decision) := by
  simp only [preflightMutation, bind_eq_ok] at decided
  obtain ⟨evaluated, -, decided⟩ := decided
  cases evaluated with
  | some found =>
    cases decided
    rfl
  | none =>
    simp only [bind_eq_ok] at decided
    obtain ⟨plan, -, remainingCost, -, decided⟩ := decided
    split at decided
    · cases decided
    · simp only [bind_eq_ok, pure_eq_ok, Prod.mk.injEq, Admission.blocked.injEq] at decided
      obtain ⟨found, -, rfl, rfl⟩ := decided
      rfl

theorem preflightMutation_admitted {arguments : PreflightArguments} {plan : Plan κ}
    (decided : preflightMutation numerics budget arguments started ledger = .ok (next, .admitted plan)) :
    let state := loadState numerics budget ledger started
    let estimated := max 1 arguments.estimatedInputTokens
    Admits budget state estimated ∧
      reservationPlan numerics budget state estimated arguments.configuredOutputTokenLimit
        arguments.configuredProviderAttempts = .ok plan ∧
      next = changesForState budget ledger (state.map fun _ => reserve numerics plan estimated arguments.timestamp)
        none := by
  simp only [preflightMutation, bind_eq_ok] at decided
  obtain ⟨evaluated, ran, decided⟩ := decided
  cases evaluated with
  | some found => cases decided
  | none =>
    simp only [bind_eq_ok] at decided
    obtain ⟨found, planned, remainingCost, -, decided⟩ := decided
    split at decided
    · cases decided
      exact ⟨admits_of_evaluate ran, planned, rfl⟩
    · simp only [bind_eq_ok, pure_eq_ok, Prod.mk.injEq, reduceCtorEq, and_false, exists_false] at decided

theorem reserve_counters (plan : Plan κ) (estimated : Int) (timestamp : String) (record : Consumption κ)
    (counter : Counter) :
    (reserve numerics plan estimated timestamp record).reserved counter = record.reserved counter + plan.amount counter ∧
      (reserve numerics plan estimated timestamp record).consumed counter = record.consumed counter := by
  cases counter <;> exact ⟨rfl, rfl⟩

theorem reserve_committed (plan : Plan κ) (estimated : Int) (timestamp : String) (record : Consumption κ)
    (counter : Counter) : (reserve numerics plan estimated timestamp record).committed counter =
      record.committed counter + plan.amount counter := by
  unfold Consumption.committed
  rw [(reserve_counters plan estimated timestamp record counter).1,
    (reserve_counters plan estimated timestamp record counter).2]
  omega

theorem Plan.reservation_amount (plan : Plan κ) (counter : Counter) :
    plan.reservation.amount counter = plan.amount counter := by
  cases counter <;> rfl

theorem preflightMutation_within_limits {arguments : PreflightArguments} {plan : Plan κ}
    (decided : preflightMutation numerics budget arguments started ledger = .ok (next, .admitted plan)) {scope : Scope}
    {counter : Counter} {limit : CountLimit} (limited : (budget.resolved.get scope).counter counter = some limit) :
    ∃ record, next.find (budget.scopeKey scope) = some record ∧ record.committed counter ≤ limit.value := by
  obtain ⟨admits, planned, rfl⟩ := preflightMutation_admitted decided
  refine ⟨_, find_changesForState scope, ?_⟩
  rw [Scoped.get_map, reserve_committed]
  exact plan_within_limits (le_max_left 1 _) admits planned limited

theorem recordMutation_ok {arguments : RecordArguments κ} {charge : Charge κ}
    (recorded : recordMutation numerics budget arguments started ledger = .ok (next, charge)) :
    (∀ counter, 0 ≤ arguments.used counter) ∧ ∃ status actualCost charged state,
      (loadState numerics budget ledger started).mapM (recordScope numerics budget arguments status actualCost) =
        .ok charged ∧
      charged.mapM (applyOverruns numerics budget) = .ok state ∧ next = changesForState budget ledger state none := by
  simp only [recordMutation, bind_eq_ok, pure_eq_ok, Prod.mk.injEq] at recorded
  obtain ⟨_, checked, evidence, -, charged, chargedEq, state, stateEq, remaining, -, same, -⟩ := recorded
  refine ⟨?_, evidence.1, evidence.2, charged, state, chargedEq, stateEq, same.symm⟩
  unfold checkUsage at checked
  split at checked
  · cases checked
  · split at checked
    · cases checked
    · intro counter
      cases counter <;> simp only [RecordArguments.used] <;> omega

end Mutations

namespace System

section Steps

variable [DecidableEq ι] {limits : ScopeKey → Limits κ} {system : System ι κ} {numerics : Numerics κ}
  {instance_ : ι} {started : StartTimes}

theorem setReservation_self (system : System ι κ) (instance_ : ι) :
    system.setReservation instance_ (system.budgets instance_).reservation = system.budgets :=
  Function.update_eq_self _ _

theorem reserved_cases {budget : TaskBudget κ} {ledger : Ledger κ} {state : Scoped (Consumption κ)} (change : Int)
    {counter : Counter}
    (changed : ∀ scope, (state.get scope).reserved counter = ledger.reserved (budget.scopeKey scope) counter + change)
    (decision : Option (Decision κ)) (key : ScopeKey) :
    (changesForState budget ledger state decision).reserved key counter =
      ledger.reserved key counter + if budget.Covers key then change else 0 := by
  by_cases covers : budget.Covers key
  · obtain ⟨scope, -, rfl⟩ := covers
    rw [reserved_changesForState, changed, if_pos (budget.covers_scopeKey scope)]
  · rw [reserved_changesForState_other _ _ covers, if_neg covers, Int.add_zero]

theorem Invariant.preflight_blocked (holds : system.Invariant limits) (decision : Decision κ) :
    Invariant limits { system with
      ledger := changesForState (system.budgets instance_) system.ledger
        (applyBlockDecision (loadState numerics (system.budgets instance_) system.ledger started) decision)
        (some decision) } := by
  have counters (scope : Scope) := applyBlockDecision_get
    (loadState numerics (system.budgets instance_) system.ledger started) decision scope
  have same : { system with
      ledger := changesForState (system.budgets instance_) system.ledger
        (applyBlockDecision (loadState numerics (system.budgets instance_) system.ledger started) decision)
        (some decision) } =
      system.written instance_
        (applyBlockDecision (loadState numerics (system.budgets instance_) system.ledger started) decision)
        (some decision) (system.budgets instance_).reservation system.outstanding system.retained := by
    simp only [written, setReservation_self]
  rw [same]
  refine holds.write (fun value found => holds.held found) (fun entry member _ => member) holds.outstanding
    holds.retained ?_ ?_ ?_
  · intro scope counter
    rw [((counters scope).1 counter).2]
    exact holds.loaded_consumed _ _ _ _ _
  · intro key counter
    rw [reserved_cases 0 fun scope => by rw [((counters scope).1 counter).1, reserved_loadState, Int.add_zero]]
    have whole := holds.conserved key counter
    simp only [ite_self, Int.add_zero]
    exact whole
  · intro scope counter limit limited above
    rw [(counters scope).2]
    rw [(counters scope).1.committed] at above
    exact holds.loaded_flagged _ _ scope limited above

theorem Invariant.preflight_admitted (holds : system.Invariant limits) {arguments : PreflightArguments} {plan : Plan κ}
    {ledger : Ledger κ}
    (decided : preflightMutation numerics (system.budgets instance_) arguments started system.ledger =
      .ok (ledger, .admitted plan)) :
    Invariant limits { system with
      ledger
      budgets := system.setReservation instance_ (some plan.reservation)
      outstanding := (instance_, plan.reservation) :: system.outstanding } := by
  obtain ⟨admits, planned, rfl⟩ := preflightMutation_admitted decided
  have estimated : (1 : Int) ≤ max 1 arguments.estimatedInputTokens := le_max_left 1 _
  refine holds.write ?_ ?_ ?_ ?_ ?_ ?_ ?_
  · rintro value ⟨⟩
    exact List.mem_cons_self
  · exact fun entry member _ => List.mem_cons_of_mem _ member
  · intro entry member counter
    rcases List.mem_cons.mp member with rfl | old
    · rw [Plan.reservation_amount]
      exact plan_nonneg estimated admits planned counter
    · exact holds.outstanding entry old counter
  · exact holds.retained
  · intro scope counter
    rw [Scoped.get_map, (reserve_counters _ _ _ _ counter).2]
    exact holds.loaded_consumed _ _ _ _ _
  · intro key counter
    rw [reserved_cases (plan.amount counter) fun scope => by
      rw [Scoped.get_map, (reserve_counters _ _ _ _ counter).1, reserved_loadState]]
    rw [coveredSum_cons, Plan.reservation_amount]
    have whole := holds.conserved key counter
    unfold outstandingIn retainedIn at whole
    omega
  · intro scope counter limit limited above
    rw [Scoped.get_map, reserve_committed] at above
    rw [← holds.sameLimits] at limited
    have within := plan_within_limits estimated admits planned limited
    omega

variable [DecidableEq κ]

theorem Invariant.giveBack_exact (holds : system.Invariant limits) (numerics : Numerics κ) (started : StartTimes)
    {reservation : Reservation κ}
    (found : (system.budgets instance_).reservation = some reservation) (scope : Scope) (counter : Counter) :
    max 0 (((loadState numerics (system.budgets instance_) system.ledger started).get scope).reserved counter -
        reservation.amount counter) =
      system.ledger.reserved ((system.budgets instance_).scopeKey scope) counter - reservation.amount counter := by
  have enough := holds.amount_le_reserved found ((system.budgets instance_).covers_scopeKey scope) counter
  rw [reserved_loadState]
  omega

theorem Invariant.record_ok (holds : system.Invariant limits) {arguments : RecordArguments κ} {charge : Charge κ}
    {ledger : Ledger κ} {reservation : Reservation κ}
    (detectable : ∀ key counter limit, (limits key).counter counter = some limit → Detectable limit.value)
    (found : (system.budgets instance_).reservation = some reservation)
    (recorded : recordMutation numerics (system.budgets instance_) arguments started system.ledger =
      .ok (ledger, charge)) :
    Invariant limits {
      ledger
      budgets := system.setReservation instance_ none
      outstanding := system.outstanding.erase (instance_, reservation)
      retained :=
        (instance_, retention numerics reservation arguments.unreconciledDispatchedAttempts) :: system.retained } := by
  obtain ⟨used, status, actualCost, charged, state, chargedEq, stateEq, rfl⟩ := recordMutation_ok recorded
  have given : (system.budgets instance_).given numerics = reservation := by simp [TaskBudget.given, found]
  have member := holds.held found
  have counters (scope : Scope) (counter : Counter) :
      (state.get scope).reserved counter =
          system.ledger.reserved ((system.budgets instance_).scopeKey scope) counter - reservation.amount counter +
            (retention numerics reservation arguments.unreconciledDispatchedAttempts).amount counter ∧
        0 ≤ (state.get scope).consumed counter := by
    have applied := applyOverruns_sameCounters (Scoped.mapM_get stateEq scope) counter
    have changed := recordScope_counters (Scoped.mapM_get chargedEq scope) counter
    rw [given, holds.giveBack_exact _ _ found] at changed
    have before := holds.loaded_consumed numerics started (system.budgets instance_) scope counter
    have more := used counter
    exact ⟨applied.1.trans changed.1, by omega⟩
  refine holds.write ?_ ?_ ?_ ?_ ?_ ?_ ?_
  · rintro value ⟨⟩
  · intro entry inside other
    refine (List.mem_erase_of_ne ?_).mpr inside
    rintro rfl
    exact other rfl
  · exact fun entry inside => holds.outstanding entry (List.mem_of_mem_erase inside)
  · intro entry inside counter
    rcases List.mem_cons.mp inside with rfl | old
    · exact retention_nonneg (holds.outstanding _ member) _ counter
    · exact holds.retained entry old counter
  · exact fun scope counter => (counters scope counter).2
  · intro key counter
    rw [reserved_cases ((retention numerics reservation arguments.unreconciledDispatchedAttempts).amount counter -
      reservation.amount counter) fun scope => by rw [(counters scope counter).1]; omega]
    rw [coveredSum_cons, coveredSum_erase _ member]
    have whole := holds.conserved key counter
    unfold outstandingIn retainedIn at whole
    split <;> omega
  · intro scope counter limit limited above
    have applied := Scoped.mapM_get stateEq scope
    rw [(applyOverruns_sameCounters applied).committed] at above
    refine applyOverruns_flags applied ?_ (detectable _ _ _ limited) above
    rw [holds.sameLimits]
    exact limited

theorem Invariant.release_held (holds : system.Invariant limits) {reservation : Reservation κ}
    (found : (system.budgets instance_).reservation = some reservation) :
    Invariant limits { system with
      ledger := releaseMutation numerics (system.budgets instance_) reservation started system.ledger
      budgets := system.setReservation instance_ none
      outstanding := system.outstanding.erase (instance_, reservation) } := by
  have member := holds.held found
  refine holds.write ?_ ?_ ?_ holds.retained ?_ ?_ ?_
  · rintro value ⟨⟩
  · intro entry inside other
    refine (List.mem_erase_of_ne ?_).mpr inside
    rintro rfl
    exact other rfl
  · exact fun entry inside => holds.outstanding entry (List.mem_of_mem_erase inside)
  · intro scope counter
    rw [Scoped.get_map]
    have before := holds.loaded_consumed numerics started (system.budgets instance_) scope counter
    cases counter <;> exact before
  · intro key counter
    rw [reserved_cases (-reservation.amount counter) fun scope => by
      rw [Scoped.get_map, giveBack_reserved, holds.giveBack_exact _ _ found]; omega]
    rw [coveredSum_erase _ member]
    have whole := holds.conserved key counter
    unfold outstandingIn retainedIn at whole
    split <;> omega
  · intro scope counter limit limited above
    rw [Scoped.get_map] at above ⊢
    refine holds.loaded_flagged numerics started scope limited ?_
    have exact_ := holds.giveBack_exact numerics started found scope counter
    have less : 0 ≤ reservation.amount counter := holds.outstanding _ member counter
    have reserved := reserved_loadState numerics (system.budgets instance_) system.ledger started scope counter
    have sameConsumed : (giveBack numerics reservation
        ((loadState numerics (system.budgets instance_) system.ledger started).get scope)).consumed counter =
      ((loadState numerics (system.budgets instance_) system.ledger started).get scope).consumed counter := by
      cases counter <;> rfl
    unfold Consumption.committed at above ⊢
    rw [giveBack_reserved, sameConsumed] at above
    omega

def Disciplined (system : System ι κ) (instance_ : ι) (call : Call κ) : Prop :=
  ∀ arguments, call = .record arguments → (system.budgets instance_).reservation ≠ none

theorem Invariant.step (holds : system.Invariant limits) {call : Call κ}
    (detectable : ∀ key counter limit, (limits key).counter counter = some limit → Detectable limit.value)
    (disciplined : system.Disciplined instance_ call) :
    (system.step numerics instance_ started call).Invariant limits := by
  cases call with
  | preflight arguments =>
    simp only [System.step, System.preflight]
    split
    · exact holds
    · rename_i ledger decision decided
      rw [preflightMutation_blocked decided]
      exact holds.preflight_blocked decision
    · rename_i ledger plan decided
      exact holds.preflight_admitted decided
  | record arguments =>
    obtain ⟨reservation, found⟩ := Option.ne_none_iff_exists'.mp (disciplined arguments rfl)
    have given : (system.budgets instance_).given numerics = reservation := by simp [TaskBudget.given, found]
    simp only [System.step, System.record, given]
    split
    · exact holds
    · rename_i ledger charge recorded
      exact holds.record_ok detectable found recorded
  | release =>
    simp only [System.step, System.release]
    split
    · exact holds
    · rename_i reservation found
      exact holds.release_held found

/-- The runs of any number of instances, in any order of their operations. -/
inductive Run (numerics : Numerics κ) : System ι κ → System ι κ → Prop where
  | refl (system : System ι κ) : Run numerics system system
  | step {first last : System ι κ} (run : Run numerics first last) (instance_ : ι) (started : StartTimes)
      (call : Call κ) (disciplined : last.Disciplined instance_ call) :
      Run numerics first (last.step numerics instance_ started call)

theorem Invariant.run {first last : System ι κ} (holds : first.Invariant limits)
    (detectable : ∀ key counter limit, (limits key).counter counter = some limit → Detectable limit.value)
    (run : Run numerics first last) : last.Invariant limits := by
  induction run with
  | refl => exact holds
  | step run instance_ started call disciplined ih => exact ih.step detectable disciplined

/-- In every run the reserved counters are what is outstanding and retained, an admitting preflight stays within
    every limit of its scopes, and a scope above a limit is flagged. -/
theorem run_sound (numerics : Numerics κ) (limits : ScopeKey → Limits κ)
    (detectable : ∀ key counter limit, (limits key).counter counter = some limit → Detectable limit.value)
    {start finish : System ι κ} (initial : start.Initial limits) (run : Run numerics start finish) :
    finish.Conserved ∧
      (∀ instance_ arguments started ledger plan,
        preflightMutation numerics (finish.budgets instance_) arguments started finish.ledger =
          .ok (ledger, .admitted plan) →
        ∀ scope counter limit, (limits ((finish.budgets instance_).scopeKey scope)).counter counter = some limit →
          ∃ record, ledger.find ((finish.budgets instance_).scopeKey scope) = some record ∧
            record.committed counter ≤ limit.value) ∧
      finish.Flagged limits := by
  have holds := initial.invariant.run detectable run
  refine ⟨holds.conserved, ?_, holds.flagged⟩
  intro instance_ arguments started ledger plan decided scope counter limit limited
  rw [← holds.sameLimits] at limited
  exact preflightMutation_within_limits decided limited

end Steps

section Example

def rationalNumerics : Numerics Rat where
  zero := 0
  add := (· + ·)
  subtract := (· - ·)
  giveBack held given := max 0 (held - given)
  share cost attempts := cost / attempts
  retain cost attempts := cost * attempts
  minimum := min
  normalizedCost := .ok
  costTotal left right := .ok (left + right)
  costExceeds total limit := limit < total
  costFloorDiv remaining perAttempt := .ok (remaining / perAttempt).floor
  estimateCost pricing input output :=
    .ok ((input * pricing.inputPerMillionTokens + output * pricing.outputPerMillionTokens) / 1000000)
  isPositive cost := 0 < cost
  isNonNegativeFinite cost := 0 ≤ cost
  affordableOutput _ _ _ _ := .ok none
  countDifference limit consumed := .ok (limit - consumed)
  elapsedMs _ _ := 0
  text _ := ""

def inputLimits (limit : Int) (positive : 0 < limit) : Limits Rat where
  maxModelInvocations := none
  maxInputTokens := some { value := limit, scope := "Execution", resourceRef := none, positive }
  maxOutputTokens := none
  maxElapsedMs := none
  maxCostUsd := none

def singleBudget (limits : Limits Rat) : System Unit Rat where
  ledger := {}
  budgets _ := {
    taskKey := "Task|review|1.0.0"
    agentKey := "Agent|reviewer|1.0.0"
    resolved := ⟨limits, limits, limits⟩ }
  outstanding := []
  retained := []

theorem singleBudget_initial (limits : Limits Rat) : (singleBudget limits).Initial fun _ => limits where
  ledger := rfl
  reservations _ := rfl
  outstanding := rfl
  retained := rfl
  sameLimits _ scope := by cases scope <;> rfl

def now : String := "2026-01-01T00:00:00Z"

def reserved (limits : Limits Rat) : System Unit Rat :=
  (singleBudget limits).step rationalNumerics () ⟨now, now⟩ (.preflight ⟨1, none, none, now⟩)

def charged (limits : Limits Rat) (inputTokens : Int) : System Unit Rat :=
  (reserved limits).step rationalNumerics () ⟨now, now⟩ (.record { inputTokens, timestamp := now })

theorem charged_run (limits : Limits Rat) (inputTokens : Int)
    (admitted : ((reserved limits).budgets ()).reservation ≠ none) :
    Run rationalNumerics (singleBudget limits) (charged limits inputTokens) := by
  refine .step (.step (.refl _) () ⟨now, now⟩ (.preflight ⟨1, none, none, now⟩) ?_) () ⟨now, now⟩
    (.record { inputTokens, timestamp := now }) ?_
  · rintro arguments ⟨⟩
  · exact fun _ _ => admitted

theorem run_sound_single : (charged (inputLimits 100 (by decide)) 7).Conserved :=
  (run_sound rationalNumerics (fun _ => inputLimits 100 (by decide))
    (by
      intro key counter limit limited
      cases counter <;> cases limited
      exact detectable_of_lt (by decide) (by decide))
    (singleBudget_initial _) (charged_run _ 7 (by decide +kernel))).1

/-- A limit of two to the 53rd is exceeded by one without a flag: the total rounds back to the limit. -/
theorem overrun_missed :
    ∃ (limits : ScopeKey → Limits Rat) (start finish : System Unit Rat),
      start.Initial limits ∧ Run rationalNumerics start finish ∧ ¬finish.Flagged limits := by
  refine ⟨fun _ => inputLimits 9007199254740992 (by decide), _, _, singleBudget_initial _,
    charged_run _ 9007199254740993 (by decide +kernel), ?_⟩
  intro flagged
  have state : ((charged (inputLimits 9007199254740992 (by decide)) 9007199254740993).ledger.find .workflow).map
      (fun record => (record.committed .inputTokens, record.overrun)) = some (9007199254740993, false) := by
    decide +kernel
  obtain ⟨record, found, same⟩ := Option.map_eq_some_iff.mp state
  simp only [Prod.mk.injEq] at same
  have set := flagged .workflow record .inputTokens _ found rfl (by rw [same.1]; decide)
  rw [same.2] at set
  cases set

end Example

end System

end Aep.ExecutionBudgets
