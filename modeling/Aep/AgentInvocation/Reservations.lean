import Aep.AgentInvocation.Discipline
import Aep.ExecutionBudgets.Runs

namespace Aep.AgentInvocation

open RuntimeStore Result
open ExecutionBudgets (Ledger TaskBudget Numerics Scope StartTimes PreflightArguments RecordArguments preflightMutation
  recordMutation releaseMutation ScopeKey)

/-- The ledger and the budget of one call, and what has become of its reservation. -/
structure Account (κ : Type) where
  ledger : Ledger κ
  budget : TaskBudget κ
  /-- The ledger that an admitting preflight found, and what it reserved. -/
  admitted : Option (Ledger κ × ExecutionBudgets.Reservation κ) := none
  invoked : Option Invoked := none
  releases : Nat := 0
  records : Nat := 0

variable {κ : Type}

def Preflight.arguments (preflight : Preflight) : PreflightArguments where
  estimatedInputTokens := preflight.estimatedInputTokens
  configuredOutputTokenLimit := preflight.configuredOutputTokenLimit
  configuredProviderAttempts := some preflight.configuredProviderAttempts
  timestamp := preflight.timestamp

structure Accounting (κ : Type) where
  numerics : Numerics κ
  started : StartTimes
  cost : Json → κ

def Accounting.charged (accounting : Accounting κ) (charge : Charge) : RecordArguments κ where
  inputTokens := charge.inputTokens
  outputTokens := charge.outputTokens
  latencyMs := charge.latencyMs
  cost := charge.cost.map accounting.cost
  costStatus := charge.costStatus
  invocationCount := charge.invocationCount
  unreconciledDispatchedAttempts := charge.unreconciledDispatchedAttempts
  timestamp := charge.timestamp

namespace Account

def held (account : Account κ) (reservation : Option (ExecutionBudgets.Reservation κ)) : TaskBudget κ :=
  { account.budget with reservation }

/-- What a call on the budget makes of the ledger. A mutation that raises writes nothing. -/
inductive Step (accounting : Accounting κ) (account : Account κ) : (effect : Effect) → effect.Answer → Account κ → Prop
  | preflightFailed (preflight : Preflight) (error : PyError) :
      Step accounting account (.preflight preflight) (.error error) account
  | blocked (preflight : Preflight) (error : PyError) (ledger : Ledger κ) (decision : ExecutionBudgets.Decision κ)
      (decided : preflightMutation accounting.numerics account.budget preflight.arguments accounting.started
        account.ledger = .ok (ledger, .blocked decision)) :
      Step accounting account (.preflight preflight) (.error error) { account with ledger }
  | admitted (preflight : Preflight) (ledger : Ledger κ) (plan : ExecutionBudgets.Plan κ)
      (decided : preflightMutation accounting.numerics account.budget preflight.arguments accounting.started
        account.ledger = .ok (ledger, .admitted plan)) :
      Step accounting account (.preflight preflight) (.ok ⟨plan.effectiveOutput, some plan.attempts⟩)
        { account with
          ledger, budget := account.held (some plan.reservation)
          admitted := some (account.ledger, plan.reservation) }
  | nothingHeld (free : account.budget.reservation = none) : Step accounting account .release (.ok ()) account
  | released (reservation : ExecutionBudgets.Reservation κ) (holds : account.budget.reservation = some reservation) :
      Step accounting account .release (.ok ())
        { account with
          ledger := releaseMutation accounting.numerics account.budget reservation accounting.started account.ledger
          budget := account.held none, releases := account.releases + 1 }
  | releaseFailed (error : PyError) : Step accounting account .release (.error error) account
  | recorded (charge : Charge) (evidence : Record) (ledger : Ledger κ) (summary : ExecutionBudgets.Charge κ)
      (reconciled : recordMutation accounting.numerics account.budget (accounting.charged charge) accounting.started
        account.ledger = .ok (ledger, summary)) :
      Step accounting account (.record charge) (.ok evidence)
        { account with ledger, budget := account.held none, records := account.records + 1 }
  | recordFailed (charge : Charge) (error : PyError) :
      Step accounting account (.record charge) (.error error) account
  | invoke (invocationId modelInvocationId : String) (request : ModelRequest) (outcome : Invoked) :
      Step accounting account (.invoke invocationId modelInvocationId request) outcome
        { account with invoked := some outcome }
  | clock (answer : Except PyError String) : Step accounting account .clock answer account
  | emit (eventName : String) (runtimeObject : Record) (timestamp : String) (attributes : Option Record)
      (answer : Except PyError Unit) :
      Step accounting account (.emit eventName runtimeObject timestamp attributes) answer account
  | get (objectId : String) (answer : Option Record) : Step accounting account (.get objectId) answer account
  | claim (key : String) (value : Record) (answer : Except PyError (Bool × Json)) :
      Step accounting account (.claim key value) answer account
  | create (record : Record) (key : String) (answer : Except PyError Record) :
      Step accounting account (.create record key) answer account
  | updateStatus (objectId status updatedAt : String) (changes : Record) (answer : Except PyError Record) :
      Step accounting account (.updateStatus objectId status updatedAt changes) answer account

def rules (accounting : Accounting κ) : Program.Rules Effects (Account κ) where
  may _ _ := True
  next account effect answer after := Step accounting account effect answer after

end Account

def Invoked.settles : Invoked → Bool
  | .returned _ | .failed _ => true
  | .raised _ => false

def reservedCost (numerics : Numerics κ) (ledger : Ledger κ) (key : ScopeKey) : κ :=
  ((ledger.find key).map fun record => record.reservedCostUsd).getD numerics.zero

def SameReserved (numerics : Numerics κ) (budget : TaskBudget κ) (ledger other : Ledger κ) : Prop :=
  ∀ scope, (∀ counter, ledger.reserved (budget.scopeKey scope) counter = other.reserved (budget.scopeKey scope) counter) ∧
    reservedCost numerics ledger (budget.scopeKey scope) = reservedCost numerics other (budget.scopeKey scope)

/-- A call that ends before it started the adapter has given its reservation back, and one whose adapter answered has
    settled it by one record. -/
structure Settled (numerics : Numerics κ) (before : Ledger κ) (account : Account κ) : Prop where
  unused : account.invoked = none → SameReserved numerics account.budget account.ledger before
  used : ∀ outcome, account.invoked = some outcome → outcome.settles = true →
    account.records = 1 ∧ account.releases = 0 ∧ account.budget.reservation = none

def startEvents : List String := ["AgentInvocationStarted", "ModelInvocationStarted"]

def Foreseen : (effect : Effect) → effect.Answer → Prop
  | .clock, answer => answer.isOk
  | .emit eventName _ _ attributes, answer => eventName ∈ startEvents ∨ attributes.isSome → answer.isOk
  | .preflight _, answer => ∀ reservation, answer = .ok reservation →
      ∀ limit ∈ reservation.effectiveOutputTokenLimit, 1 ≤ limit
  | .release, answer => answer.isOk
  | .record _, answer => answer.isOk
  | .claim _ _, answer => answer.isOk
  | .create record _, .ok saved => isAgent record → validateExistingAgent saved record = .ok ()
  | .create record _, .error error => isModel record → error.errorClass = .runtimeObjectAlreadyExistsError
  | .get _, _ => True
  | .invoke .., _ => True
  | .updateStatus .., _ => True

def NamesTask (platform : Platform) (request : Request) : Prop :=
  ∀ context, WorkflowScheduler.fromRuntimeObject platform.toPlatform request.resolvedAgent = .ok context →
    context.taskExecutionId ≠ none

/-- What was added to the reserved counters of a ledger can be taken from them again. -/
def GivesBack (numerics : Numerics κ) (budget : TaskBudget κ) (ledger : Ledger κ)
    (reservation : ExecutionBudgets.Reservation κ) : Prop :=
  ∀ scope, (∀ counter, 0 ≤ ledger.reserved (budget.scopeKey scope) counter) ∧
    numerics.giveBack (numerics.add (reservedCost numerics ledger (budget.scopeKey scope)) reservation.costUsd)
      reservation.costUsd = reservedCost numerics ledger (budget.scopeKey scope)

section Ledgers

open ExecutionBudgets

variable {accounting : Accounting κ} {account : Account κ}

theorem reservedCost_changes (numerics : Numerics κ) (budget : TaskBudget κ) (ledger : Ledger κ)
    (state : Scoped (Consumption κ)) (decision : Option (Decision κ)) (scope : Scope) :
    reservedCost numerics (changesForState budget ledger state decision) (budget.scopeKey scope) =
      (state.get scope).reservedCostUsd := by
  simp [reservedCost, find_changesForState]

theorem reservedCost_loadState (numerics : Numerics κ) (budget : TaskBudget κ) (ledger : Ledger κ)
    (started : StartTimes) (scope : Scope) :
    ((loadState numerics budget ledger started).get scope).reservedCostUsd =
      reservedCost numerics ledger (budget.scopeKey scope) := by
  rcases loadState_get numerics budget ledger started scope with found | ⟨found, time, fresh⟩
  · simp [reservedCost, found]
  · rw [fresh, reservedCost, found]
    rfl

theorem admitted_reserved {budget : TaskBudget κ} {arguments : PreflightArguments} {started : StartTimes}
    {numerics : Numerics κ} {ledger next : Ledger κ} {plan : Plan κ}
    (decided : preflightMutation numerics budget arguments started ledger = .ok (next, .admitted plan)) (scope : Scope) :
    (∀ counter, next.reserved (budget.scopeKey scope) counter =
        ledger.reserved (budget.scopeKey scope) counter + plan.reservation.amount counter) ∧
      reservedCost numerics next (budget.scopeKey scope) =
        numerics.add (reservedCost numerics ledger (budget.scopeKey scope)) plan.reservation.costUsd := by
  obtain ⟨-, -, rfl⟩ := preflightMutation_admitted decided
  constructor
  · intro counter
    rw [reserved_changesForState, Scoped.get_map, (reserve_counters _ _ _ _ counter).1, reserved_loadState,
      Plan.reservation_amount]
  · rw [reservedCost_changes, Scoped.get_map, reserve, reservedCost_loadState]
    rfl

theorem admitted_positive {budget : TaskBudget κ} {arguments : PreflightArguments} {started : StartTimes}
    {numerics : Numerics κ} {ledger next : Ledger κ} {plan : Plan κ}
    (decided : preflightMutation numerics budget arguments started ledger = .ok (next, .admitted plan)) :
    1 ≤ plan.reservation.amount .modelInvocations := by
  obtain ⟨admits, planned, -⟩ := preflightMutation_admitted decided
  obtain ⟨grant, fits, attempts, -⟩ := reservationPlan_grant (le_max_left 1 _) admits planned
  have positive := fits.positive
  change 1 ≤ plan.attempts
  omega

theorem released_reserved (numerics : Numerics κ) (budget : TaskBudget κ) (reservation : ExecutionBudgets.Reservation κ)
    (started : StartTimes) (ledger : Ledger κ) (scope : Scope) :
    (∀ counter, (releaseMutation numerics budget reservation started ledger).reserved (budget.scopeKey scope) counter =
        max 0 (ledger.reserved (budget.scopeKey scope) counter - reservation.amount counter)) ∧
      reservedCost numerics (releaseMutation numerics budget reservation started ledger) (budget.scopeKey scope) =
        numerics.giveBack (reservedCost numerics ledger (budget.scopeKey scope)) reservation.costUsd := by
  constructor
  · intro counter
    rw [releaseMutation, reserved_changesForState, Scoped.get_map, giveBack_reserved, reserved_loadState]
  · rw [releaseMutation, reservedCost_changes, Scoped.get_map, giveBack, reservedCost_loadState]

end Ledgers

end Aep.AgentInvocation
