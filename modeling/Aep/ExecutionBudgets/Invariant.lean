import Aep.ExecutionBudgets.Plan
import Mathlib.Algebra.BigOperators.Group.List.Basic
import Mathlib.Algebra.Order.BigOperators.Group.List
import Mathlib.Logic.Function.Basic
import Mathlib.Algebra.Ring.Int.Defs

namespace Aep.ExecutionBudgets

open Result

/-- A scope of the ledger: the workflow, a Task or an Agent. -/
inductive ScopeKey where
  | workflow
  | task (taskKey : String)
  | agent (agentKey : String)
  deriving DecidableEq

variable {κ ι : Type}

def TaskBudget.scopeKey (budget : TaskBudget κ) : Scope → ScopeKey
  | .workflow => .workflow
  | .task => .task budget.taskKey
  | .agent => .agent budget.agentKey

def TaskBudget.Covers (budget : TaskBudget κ) (key : ScopeKey) : Prop := ∃ scope ∈ Scope.all, budget.scopeKey scope = key

instance (budget : TaskBudget κ) (key : ScopeKey) : Decidable (budget.Covers key) := by
  unfold TaskBudget.Covers
  infer_instance

def Ledger.find (ledger : Ledger κ) : ScopeKey → Option (Consumption κ)
  | .workflow => ledger.workflow
  | .task taskKey => ledger.tasks.get? taskKey
  | .agent agentKey => ledger.agents.get? agentKey

def Ledger.reserved (ledger : Ledger κ) (key : ScopeKey) (counter : Counter) : Int :=
  ((ledger.find key).map fun record => record.reserved counter).getD 0

theorem TaskBudget.covers_scopeKey (budget : TaskBudget κ) (scope : Scope) : budget.Covers (budget.scopeKey scope) :=
  ⟨scope, Scope.mem_all scope, rfl⟩

section Changes

variable {budget : TaskBudget κ} {ledger : Ledger κ} {state : Scoped (Consumption κ)} {decision : Option (Decision κ)}

theorem find_changesForState (scope : Scope) :
    (changesForState budget ledger state decision).find (budget.scopeKey scope) = some (state.get scope) := by
  cases scope
  · rfl
  · exact Dict.get?_set_self _ _ _
  · exact Dict.get?_set_self _ _ _

theorem find_changesForState_other {key : ScopeKey} (other : ¬budget.Covers key) :
    (changesForState budget ledger state decision).find key = ledger.find key := by
  cases key with
  | workflow => exact absurd (budget.covers_scopeKey .workflow) other
  | task taskKey =>
    refine Dict.get?_set_ne _ _ ?_
    rintro rfl
    exact other (budget.covers_scopeKey .task)
  | agent agentKey =>
    refine Dict.get?_set_ne _ _ ?_
    rintro rfl
    exact other (budget.covers_scopeKey .agent)

end Changes

def Reservation.amount (reservation : Reservation κ) : Counter → Int
  | .modelInvocations => reservation.modelInvocations
  | .inputTokens => reservation.inputTokens
  | .outputTokens => reservation.outputTokens

def Retention.amount (kept : Retention κ) : Counter → Int
  | .modelInvocations => 0
  | .inputTokens => kept.inputTokens
  | .outputTokens => kept.outputTokens

/-- All budget instances over one ledger. The last two fields record what was admitted and not yet given back, and
    what was retained. -/
structure System (ι κ : Type) where
  ledger : Ledger κ
  budgets : ι → TaskBudget κ
  outstanding : List (ι × Reservation κ)
  retained : List (ι × Retention κ)

inductive Call (κ : Type) where
  | preflight (arguments : PreflightArguments)
  | record (arguments : RecordArguments κ)
  | release

namespace System

variable [DecidableEq ι] [DecidableEq κ]

def setReservation (system : System ι κ) (instance_ : ι) (reservation : Option (Reservation κ)) : ι → TaskBudget κ :=
  Function.update system.budgets instance_ { system.budgets instance_ with reservation }

def preflight (numerics : Numerics κ) (system : System ι κ) (instance_ : ι) (arguments : PreflightArguments)
    (started : StartTimes) : System ι κ :=
  match preflightMutation numerics (system.budgets instance_) arguments started system.ledger with
  | .error _ => system
  | .ok (ledger, .blocked _) => { system with ledger }
  | .ok (ledger, .admitted plan) =>
    { system with
      ledger
      budgets := system.setReservation instance_ (some plan.reservation)
      outstanding := (instance_, plan.reservation) :: system.outstanding }

def record (numerics : Numerics κ) (system : System ι κ) (instance_ : ι) (arguments : RecordArguments κ)
    (started : StartTimes) : System ι κ :=
  let budget := system.budgets instance_
  match recordMutation numerics budget arguments started system.ledger with
  | .error _ => system
  | .ok (ledger, _) => {
    ledger
    budgets := system.setReservation instance_ none
    outstanding := system.outstanding.erase (instance_, budget.given numerics)
    retained :=
      (instance_, retention numerics (budget.given numerics) arguments.unreconciledDispatchedAttempts) ::
        system.retained }

def release (numerics : Numerics κ) (system : System ι κ) (instance_ : ι) (started : StartTimes) : System ι κ :=
  match (system.budgets instance_).reservation with
  | none => system
  | some reservation =>
    { system with
      ledger := releaseMutation numerics (system.budgets instance_) reservation started system.ledger
      budgets := system.setReservation instance_ none
      outstanding := system.outstanding.erase (instance_, reservation) }

/-- One operation of one instance. An operation that raises leaves everything as it was. -/
def step (numerics : Numerics κ) (system : System ι κ) (instance_ : ι) (started : StartTimes) : Call κ → System ι κ
  | .preflight arguments => system.preflight numerics instance_ arguments started
  | .record arguments => system.record numerics instance_ arguments started
  | .release => system.release numerics instance_ started

end System

section Records

variable {numerics : Numerics κ} {budget : TaskBudget κ} {ledger : Ledger κ} {started : StartTimes}

theorem reserved_changesForState (state : Scoped (Consumption κ)) (decision : Option (Decision κ)) (scope : Scope)
    (counter : Counter) : (changesForState budget ledger state decision).reserved (budget.scopeKey scope) counter =
      (state.get scope).reserved counter := by
  simp [Ledger.reserved, find_changesForState]

theorem reserved_changesForState_other (state : Scoped (Consumption κ)) (decision : Option (Decision κ))
    {key : ScopeKey} (other : ¬budget.Covers key) (counter : Counter) :
    (changesForState budget ledger state decision).reserved key counter = ledger.reserved key counter := by
  simp [Ledger.reserved, find_changesForState_other other]

theorem loadState_get (numerics : Numerics κ) (budget : TaskBudget κ) (ledger : Ledger κ) (started : StartTimes)
    (scope : Scope) :
    ledger.find (budget.scopeKey scope) = some ((loadState numerics budget ledger started).get scope) ∨
      (ledger.find (budget.scopeKey scope) = none ∧
        ∃ time, (loadState numerics budget ledger started).get scope = consumptionRecord numerics budget none time) := by
  cases found : ledger.find (budget.scopeKey scope) with
  | some record =>
    refine .inl ?_
    cases scope <;> simp only [Ledger.find, TaskBudget.scopeKey] at found <;>
      simp [loadState, Scoped.get, consumptionRecord, found]
  | none =>
    refine .inr ⟨rfl, ?_⟩
    cases scope <;> simp only [Ledger.find, TaskBudget.scopeKey] at found <;>
      simp only [loadState, Scoped.get, found] <;> exact ⟨_, rfl⟩

theorem reserved_loadState (numerics : Numerics κ) (budget : TaskBudget κ) (ledger : Ledger κ) (started : StartTimes)
    (scope : Scope) (counter : Counter) :
    ((loadState numerics budget ledger started).get scope).reserved counter =
      ledger.reserved (budget.scopeKey scope) counter := by
  rcases loadState_get numerics budget ledger started scope with found | ⟨found, time, fresh⟩
  · simp [Ledger.reserved, found]
  · rw [fresh]
    simp only [Ledger.reserved, found, Option.map_none, Option.getD_none]
    cases counter <;> rfl

theorem giveBack_reserved (reservation : Reservation κ) (record : Consumption κ) (counter : Counter) :
    (giveBack numerics reservation record).reserved counter =
      max 0 (record.reserved counter - reservation.amount counter) := by
  cases counter <;> rfl

theorem keepRetained_reserved (reservation : Reservation κ) (unreconciled : Int) (record : Consumption κ)
    (counter : Counter) :
    (keepRetained numerics (retention numerics reservation unreconciled) record).reserved counter =
      record.reserved counter + (retention numerics reservation unreconciled).amount counter := by
  unfold keepRetained
  split
  · rename_i none_kept
    have zero : (retention numerics reservation unreconciled).amount counter = 0 := by
      cases counter with
      | modelInvocations => rfl
      | inputTokens =>
        change _ / _ * (retention numerics reservation unreconciled).attempts = 0
        rw [none_kept, Int.mul_zero]
      | outputTokens =>
        change _ / _ * (retention numerics reservation unreconciled).attempts = 0
        rw [none_kept, Int.mul_zero]
    omega
  · cases counter
    · exact (Int.add_zero _).symm
    · rfl
    · rfl

theorem retention_nonneg {reservation : Reservation κ} (nonneg : ∀ counter, 0 ≤ reservation.amount counter)
    (unreconciled : Int) (counter : Counter) : 0 ≤ (retention numerics reservation unreconciled).amount counter := by
  have attempts : 0 ≤ (retention numerics reservation unreconciled).attempts := by
    simp only [retention]
    omega
  have share (tokens : Int) (held : 0 ≤ tokens) : 0 ≤ tokens / max 1 reservation.modelInvocations :=
    Int.ediv_nonneg held (by omega)
  cases counter with
  | modelInvocations => exact le_rfl
  | inputTokens => exact Int.mul_nonneg (share _ (nonneg .inputTokens)) attempts
  | outputTokens => exact Int.mul_nonneg (share _ (nonneg .outputTokens)) attempts

def RecordArguments.used (arguments : RecordArguments κ) : Counter → Int
  | .modelInvocations => arguments.invocationCount
  | .inputTokens => arguments.inputTokens
  | .outputTokens => arguments.outputTokens

def SameCounters (left right : Consumption κ) : Prop :=
  ∀ counter, left.reserved counter = right.reserved counter ∧ left.consumed counter = right.consumed counter

theorem SameCounters.committed {left right : Consumption κ} (same : SameCounters left right) (counter : Counter) :
    left.committed counter = right.committed counter := by
  unfold Consumption.committed
  rw [(same counter).1, (same counter).2]

theorem blockUnreconciled_sameCounters {scope : Scope} {limit : Option (BudgetLimit κ)} {timestamp : String}
    {record result : Consumption κ}
    (blocked : blockUnreconciled numerics scope limit timestamp record = .ok result) : SameCounters result record := by
  cases limit with
  | none =>
    cases blocked
    exact fun counter => ⟨rfl, rfl⟩
  | some limit =>
    simp only [blockUnreconciled, bind_eq_ok, pure_eq_ok] at blocked
    obtain ⟨_, -, _, -, rfl⟩ := blocked
    intro counter
    cases counter <;> exact ⟨rfl, rfl⟩

theorem chargeCost_sameCounters {arguments : RecordArguments κ} {status : String} {actualCost : Option κ}
    {scope : Scope} {record result : Consumption κ}
    (charged : chargeCost numerics budget arguments status actualCost scope record = .ok result) :
    SameCounters result record := by
  simp only [chargeCost, bind_eq_ok] at charged
  obtain ⟨costUsd, -, charged⟩ := charged
  have counted : SameCounters (countStatus status { record with costUsd }) record := by
    intro counter
    cases counter <;> exact ⟨rfl, rfl⟩
  split at charged
  · intro counter
    have blocked := blockUnreconciled_sameCounters charged counter
    exact ⟨blocked.1.trans (counted counter).1, blocked.2.trans (counted counter).2⟩
  · cases charged
    exact counted

theorem recordScope_counters {arguments : RecordArguments κ} {status : String} {actualCost : Option κ}
    {scope : Scope} {record result : Consumption κ}
    (recorded : recordScope numerics budget arguments status actualCost scope record = .ok result)
    (counter : Counter) :
    result.reserved counter = max 0 (record.reserved counter - (budget.given numerics).amount counter) +
        (retention numerics (budget.given numerics) arguments.unreconciledDispatchedAttempts).amount counter ∧
      result.consumed counter = record.consumed counter + arguments.used counter := by
  have same : SameCounters result (consume numerics budget arguments
      (keepRetained numerics (retention numerics (budget.given numerics) arguments.unreconciledDispatchedAttempts)
        (giveBack numerics (budget.given numerics) record))) := by
    simp only [recordScope] at recorded
    split at recorded
    · exact chargeCost_sameCounters recorded
    · cases recorded
      exact fun counter => ⟨rfl, rfl⟩
  constructor
  · rw [(same counter).1, ← giveBack_reserved, ← keepRetained_reserved]
    cases counter <;> rfl
  · rw [(same counter).2]
    have kept (value : Retention κ) : (keepRetained numerics value
        (giveBack numerics (budget.given numerics) record)).consumed counter = record.consumed counter := by
      unfold keepRetained
      split <;> cases counter <;> rfl
    rw [← kept]
    cases counter <;> rfl

theorem applyOverruns_sameCounters {scope : Scope} {record result : Consumption κ}
    (applied : applyOverruns numerics budget scope record = .ok result) : SameCounters result record := by
  simp only [applyOverruns, bind_eq_ok, pure_eq_ok] at applied
  obtain ⟨_, -, _, -, _, -, _, -, rfl⟩ := applied
  intro counter
  split <;> cases counter <;> exact ⟨rfl, rfl⟩

/-- One more than the limit, as a double, is still more than the limit, or is an error. -/
def Detectable (limit : Int) : Prop := 10 ^ 16 ≤ limit + 1 ∨ limit < Rounding.toDouble (limit + 1).toNat

theorem detectable_of_lt {limit : Int} (positive : 0 < limit) (small : limit < 2 ^ 53) : Detectable limit := by
  refine .inr ?_
  by_cases last : limit + 1 < 2 ^ 53
  · rw [Rounding.toDouble_of_lt (by omega)]
    omega
  · have same : limit + 1 = 2 ^ 53 := by omega
    rw [same]
    have even : Rounding.toDouble (Int.toNat 9007199254740992) = 9007199254740992 := by decide +kernel
    have power : (2 : Int) ^ 53 = 9007199254740992 := by decide +kernel
    rw [power, even]
    omega

theorem countTotal_detects {limit consumed reserved total : Int} (positive : 0 < limit) (detectable : Detectable limit)
    (totalled : countTotal consumed reserved = .ok total) (above : limit < consumed + reserved) : limit < total := by
  simp only [countTotal] at totalled
  split at totalled
  · cases totalled
  · rename_i small
    have nonneg : ¬consumed + reserved < 0 := by omega
    simp only [nonneg, ↓reduceIte, Except.ok.injEq] at totalled
    rcases detectable with large | detected
    · omega
    · have step : (limit + 1).toNat ≤ (consumed + reserved).natAbs := by omega
      have mono := Rounding.toDouble_mono step
      omega

theorem applyOverruns_flags {scope : Scope} {record result : Consumption κ}
    (applied : applyOverruns numerics budget scope record = .ok result) {counter : Counter} {limit : CountLimit}
    (limited : (budget.resolved.get scope).counter counter = some limit) (detectable : Detectable limit.value)
    (above : limit.value < record.committed counter) : result.overrun = true := by
  simp only [applyOverruns, bind_eq_ok, pure_eq_ok] at applied
  obtain ⟨invocations, checkedInvocations, input, checkedInput, output, checkedOutput, cost, -, rfl⟩ := applied
  have detects {flag : Bool} (checked : counterOverrun (budget.resolved.get scope) record counter = .ok flag) :
      flag = true := by
    simp only [counterOverrun, limited, bind_eq_ok, pure_eq_ok] at checked
    obtain ⟨total, totalled, rfl⟩ := checked
    exact decide_eq_true (countTotal_detects limit.positive detectable totalled above)
  have overrun : (invocations || input || output || cost) = true := by
    cases counter with
    | modelInvocations => simp [detects checkedInvocations]
    | inputTokens => simp [detects checkedInput]
    | outputTokens => simp [detects checkedOutput]
  rw [if_pos overrun]

end Records

end Aep.ExecutionBudgets

namespace Aep.ExecutionBudgets

open Result

variable {κ ι : Type}

namespace System

def coveredSum {α : Type} (system : System ι κ) (entries : List (ι × α)) (amount : α → Int) (key : ScopeKey) : Int :=
  (entries.map fun entry => if (system.budgets entry.1).Covers key then amount entry.2 else 0).sum

def outstandingIn (system : System ι κ) (key : ScopeKey) (counter : Counter) : Int :=
  system.coveredSum system.outstanding (·.amount counter) key

def retainedIn (system : System ι κ) (key : ScopeKey) (counter : Counter) : Int :=
  system.coveredSum system.retained (·.amount counter) key

/-- The reserved counters of every scope are what is outstanding and what was retained. -/
def Conserved (system : System ι κ) : Prop :=
  ∀ key counter, system.ledger.reserved key counter = system.outstandingIn key counter + system.retainedIn key counter

/-- Every scope whose committed amount is above a limit has its overrun flag set. -/
def Flagged (limits : ScopeKey → Limits κ) (system : System ι κ) : Prop :=
  ∀ key record counter limit, system.ledger.find key = some record → (limits key).counter counter = some limit →
    limit.value < record.committed counter → record.overrun = true

def SameLimits (limits : ScopeKey → Limits κ) (system : System ι κ) : Prop :=
  ∀ instance_ scope, (system.budgets instance_).resolved.get scope = limits ((system.budgets instance_).scopeKey scope)

structure Initial (limits : ScopeKey → Limits κ) (system : System ι κ) : Prop where
  ledger : system.ledger = {}
  reservations : ∀ instance_, (system.budgets instance_).reservation = none
  outstanding : system.outstanding = []
  retained : system.retained = []
  sameLimits : system.SameLimits limits

structure Invariant (limits : ScopeKey → Limits κ) (system : System ι κ) : Prop where
  sameLimits : system.SameLimits limits
  held : ∀ {instance_ reservation}, (system.budgets instance_).reservation = some reservation →
    (instance_, reservation) ∈ system.outstanding
  outstanding : ∀ entry ∈ system.outstanding, ∀ counter, 0 ≤ entry.2.amount counter
  retained : ∀ entry ∈ system.retained, ∀ counter, 0 ≤ entry.2.amount counter
  consumed : ∀ {key record}, system.ledger.find key = some record → ∀ counter, 0 ≤ record.consumed counter
  conserved : system.Conserved
  flagged : system.Flagged limits

theorem Initial.invariant {limits : ScopeKey → Limits κ} {system : System ι κ} (initial : system.Initial limits) :
    system.Invariant limits where
  sameLimits := initial.sameLimits
  held found := by
    rw [initial.reservations] at found
    cases found
  outstanding entry member := by
    rw [initial.outstanding] at member
    cases member
  retained entry member := by
    rw [initial.retained] at member
    cases member
  consumed {key record} found := by
    rw [initial.ledger] at found
    cases key <;> cases found
  conserved key counter := by
    have empty : system.ledger.reserved key counter = 0 := by
      rw [initial.ledger]
      cases key <;> rfl
    simp [empty, outstandingIn, retainedIn, coveredSum, initial.outstanding, initial.retained]
  flagged key record counter limit found := by
    rw [initial.ledger] at found
    cases key <;> cases found

section Sums

variable [DecidableEq ι]

theorem setReservation_eq (system : System ι κ) (instance_ : ι) (reservation : Option (Reservation κ)) (other : ι) :
    system.setReservation instance_ reservation other =
      { system.budgets other with
        reservation := if other = instance_ then reservation else (system.budgets other).reservation } := by
  unfold setReservation
  by_cases same : other = instance_
  · subst same
    simp
  · simp [same]

theorem setReservation_covers (system : System ι κ) (instance_ : ι) (reservation : Option (Reservation κ)) (other : ι)
    (key : ScopeKey) : (system.setReservation instance_ reservation other).Covers key ↔
      (system.budgets other).Covers key := by
  rw [setReservation_eq]
  exact Iff.rfl

theorem setReservation_sameLimits {limits : ScopeKey → Limits κ} {system : System ι κ} (same : system.SameLimits limits)
    (instance_ : ι) (reservation : Option (Reservation κ)) (other : ι) (scope : Scope) :
    (system.setReservation instance_ reservation other).resolved.get scope =
      limits ((system.setReservation instance_ reservation other).scopeKey scope) := by
  rw [setReservation_eq]
  exact same other scope

omit [DecidableEq ι] in
theorem coveredSum_cons {α : Type} (system : System ι κ) (owner : ι) (value : α) (entries : List (ι × α))
    (amount : α → Int) (key : ScopeKey) : system.coveredSum ((owner, value) :: entries) amount key =
      system.coveredSum entries amount key + if (system.budgets owner).Covers key then amount value else 0 := by
  simp only [coveredSum, List.map_cons, List.sum_cons]
  exact Int.add_comm _ _

theorem coveredSum_erase [DecidableEq κ] (system : System ι κ) {entries : List (ι × Reservation κ)} {owner : ι}
    {reservation : Reservation κ} (member : (owner, reservation) ∈ entries) (amount : Reservation κ → Int)
    (key : ScopeKey) : system.coveredSum (entries.erase (owner, reservation)) amount key =
      system.coveredSum entries amount key - if (system.budgets owner).Covers key then amount reservation else 0 := by
  have split := ((List.perm_cons_erase member).map fun entry : ι × Reservation κ =>
    if (system.budgets entry.1).Covers key then amount entry.2 else 0).sum_eq
  simp only [List.map_cons, List.sum_cons] at split
  unfold coveredSum
  omega

omit [DecidableEq ι] in
theorem sum_nonneg {α : Type} (entries : List α) (value : α → Int) (nonneg : ∀ entry ∈ entries, 0 ≤ value entry) :
    0 ≤ (entries.map value).sum := by
  refine List.sum_nonneg ?_
  intro number member
  obtain ⟨entry, inside, rfl⟩ := List.mem_map.mp member
  exact nonneg entry inside

end Sums

section Steps

variable {limits : ScopeKey → Limits κ} {system : System ι κ}
  {numerics : Numerics κ} {instance_ : ι} {started : StartTimes}

theorem Invariant.retainedIn_nonneg (holds : system.Invariant limits) (key : ScopeKey) (counter : Counter) :
    0 ≤ system.retainedIn key counter := by
  refine sum_nonneg _ _ fun entry member => ?_
  split
  · exact holds.retained entry member counter
  · exact le_rfl

theorem Invariant.amount_le_reserved [DecidableEq ι] [DecidableEq κ] (holds : system.Invariant limits) {reservation : Reservation κ}
    (found : (system.budgets instance_).reservation = some reservation) {key : ScopeKey}
    (covers : (system.budgets instance_).Covers key) (counter : Counter) :
    reservation.amount counter ≤ system.ledger.reserved key counter := by
  have rest : 0 ≤ system.coveredSum (system.outstanding.erase (instance_, reservation)) (·.amount counter) key := by
    refine sum_nonneg _ _ fun entry member => ?_
    split
    · exact holds.outstanding entry (List.mem_of_mem_erase member) counter
    · exact le_rfl
  rw [coveredSum_erase _ (holds.held found), if_pos covers] at rest
  have whole := holds.conserved key counter
  have kept := holds.retainedIn_nonneg key counter
  unfold outstandingIn at whole
  omega

theorem Invariant.loaded_consumed (holds : system.Invariant limits) (numerics : Numerics κ) (started : StartTimes)
    (budget : TaskBudget κ) (scope : Scope) (counter : Counter) : 0 ≤ ((loadState numerics budget system.ledger started).get scope).consumed counter := by
  rcases loadState_get numerics budget system.ledger started scope with found | ⟨-, time, fresh⟩
  · exact holds.consumed found counter
  · rw [fresh]
    cases counter <;> exact le_rfl

theorem Invariant.loaded_flagged (holds : system.Invariant limits) (numerics : Numerics κ) (started : StartTimes)
    (scope : Scope) {counter : Counter} {limit : CountLimit}
    (limited : (limits ((system.budgets instance_).scopeKey scope)).counter counter = some limit)
    (above : limit.value <
      ((loadState numerics (system.budgets instance_) system.ledger started).get scope).committed counter) :
    ((loadState numerics (system.budgets instance_) system.ledger started).get scope).overrun = true := by
  rcases loadState_get numerics (system.budgets instance_) system.ledger started scope with found | ⟨-, time, fresh⟩
  · exact holds.flagged _ _ _ _ found limited above
  · rw [fresh] at above
    have zero : (consumptionRecord numerics (system.budgets instance_) none time).committed counter = 0 := by
      cases counter <;> rfl
    have positive := limit.positive
    omega

theorem find_cases {ledger : Ledger κ} {budget : TaskBudget κ} {state : Scoped (Consumption κ)}
    {decision : Option (Decision κ)} {key : ScopeKey} {record : Consumption κ}
    (found : (changesForState budget ledger state decision).find key = some record) :
    (∃ scope, budget.scopeKey scope = key ∧ record = state.get scope) ∨
      (¬budget.Covers key ∧ ledger.find key = some record) := by
  by_cases covers : budget.Covers key
  · obtain ⟨scope, -, rfl⟩ := covers
    rw [find_changesForState] at found
    exact .inl ⟨scope, rfl, (Option.some.inj found).symm⟩
  · rw [find_changesForState_other covers] at found
    exact .inr ⟨covers, found⟩

def written [DecidableEq ι] (system : System ι κ) (instance_ : ι) (state : Scoped (Consumption κ))
    (decision : Option (Decision κ)) (reservation : Option (Reservation κ)) (outstanding : List (ι × Reservation κ))
    (retained : List (ι × Retention κ)) : System ι κ where
  ledger := changesForState (system.budgets instance_) system.ledger state decision
  budgets := system.setReservation instance_ reservation
  outstanding
  retained

theorem Invariant.write [DecidableEq ι] (holds : system.Invariant limits) {state : Scoped (Consumption κ)}
    {decision : Option (Decision κ)} {reservation : Option (Reservation κ)} {outstanding : List (ι × Reservation κ)}
    {retained : List (ι × Retention κ)}
    (heldHere : ∀ value ∈ reservation, (instance_, value) ∈ outstanding)
    (heldElsewhere : ∀ entry ∈ system.outstanding, entry.1 ≠ instance_ → entry ∈ outstanding)
    (outstandingNonneg : ∀ entry ∈ outstanding, ∀ counter, 0 ≤ entry.2.amount counter)
    (retainedNonneg : ∀ entry ∈ retained, ∀ counter, 0 ≤ entry.2.amount counter)
    (consumed : ∀ scope counter, 0 ≤ (state.get scope).consumed counter)
    (conserved : ∀ key counter,
      (changesForState (system.budgets instance_) system.ledger state decision).reserved key counter =
        system.coveredSum outstanding (·.amount counter) key + system.coveredSum retained (·.amount counter) key)
    (flagged : ∀ scope counter limit,
      (limits ((system.budgets instance_).scopeKey scope)).counter counter = some limit →
      limit.value < (state.get scope).committed counter → (state.get scope).overrun = true) :
    (system.written instance_ state decision reservation outstanding retained).Invariant limits where
  sameLimits := setReservation_sameLimits holds.sameLimits instance_ reservation
  held {other value} found := by
    simp only [written, setReservation_eq] at found
    by_cases same : other = instance_
    · subst same
      exact heldHere value (by simpa using found)
    · simp only [same, ↓reduceIte] at found
      exact heldElsewhere _ (holds.held found) same
  outstanding := outstandingNonneg
  retained := retainedNonneg
  consumed {key record} found counter := by
    rcases find_cases found with ⟨scope, -, rfl⟩ | ⟨-, old⟩
    · exact consumed scope counter
    · exact holds.consumed old counter
  conserved key counter := by
    simpa only [outstandingIn, retainedIn, written, coveredSum, setReservation_covers] using conserved key counter
  flagged key record counter limit found limited above := by
    rcases find_cases found with ⟨scope, rfl, rfl⟩ | ⟨-, old⟩
    · exact flagged scope counter limit limited above
    · exact holds.flagged _ _ _ _ old limited above

end Steps

end System

end Aep.ExecutionBudgets
