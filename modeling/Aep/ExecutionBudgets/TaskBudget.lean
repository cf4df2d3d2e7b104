import Aep.ExecutionBudgets.Ledger
import Aep.Library.Rounding
import Aep.RuntimeStore.Objects

namespace Aep.ExecutionBudgets

open RuntimeStore (valueError)

variable {κ : Type}

def BUDGET_EXHAUSTED : String := "BUDGET_EXHAUSTED"
def BUDGET_COST_UNAVAILABLE : String := "BUDGET_COST_UNAVAILABLE"
def COST_STATUSES : List String := ["EXACT", "CONFIGURED", "ESTIMATED", "UNAVAILABLE", "MIXED"]

/-- What an admitting preflight holds until the invocation is reconciled. -/
structure Reservation (κ : Type) where
  modelInvocations : Int
  inputTokens : Int
  outputTokens : Int
  costUsd : κ
  deriving DecidableEq

/-- A budget instance of one Task: its ledger keys, its limits and the reservation it holds. -/
structure TaskBudget (κ : Type) where
  taskKey : String
  agentKey : String
  resolved : Scoped (Limits κ)
  modelOutputTokenLimit : Option Int := none
  modelPricing : Option (Pricing κ) := none
  provider : String := ""
  model : String := ""
  reservation : Option (Reservation κ) := none

/-- When the workflow and the Task started, for a record that does not exist yet. -/
structure StartTimes where
  workflow : String
  task : String

section

variable (numerics : Numerics κ)

/-- `_cost_total` of two counters: their sum as a double. Twelve decimals of a larger sum than 28 digits hold are
    an error. -/
def countTotal (consumed reserved : Int) : Except PyError Int :=
  let total := consumed + reserved
  if 10 ^ 16 ≤ total.natAbs then .error { errorClass := .decimalException, message := "InvalidOperation" }
  else .ok (if total < 0 then -(Rounding.toDouble total.natAbs : Int) else Rounding.toDouble total.natAbs)

def consumptionRecord (budget : TaskBudget κ) (value : Option (Consumption κ)) (startedAt : String) : Consumption κ :=
  value.getD {
    costUsd := numerics.zero
    reservedCostUsd := numerics.zero
    startedAt
    updatedAt := startedAt
    lastProvider := budget.provider
    lastModel := budget.model }

def loadState (budget : TaskBudget κ) (ledger : Ledger κ) (started : StartTimes) : Scoped (Consumption κ) where
  workflow := consumptionRecord numerics budget ledger.workflow started.workflow
  task := consumptionRecord numerics budget (ledger.tasks.get? budget.taskKey) started.task
  agent := consumptionRecord numerics budget (ledger.agents.get? budget.agentKey) started.task

def changesForState (budget : TaskBudget κ) (ledger : Ledger κ) (state : Scoped (Consumption κ))
    (decision : Option (Decision κ)) : Ledger κ where
  workflow := some state.workflow
  tasks := ledger.tasks.set budget.taskKey state.task
  agents := ledger.agents.set budget.agentKey state.agent
  lastDecision := decision.or ledger.lastDecision

def blockedDecision (scope : Scope) (dimension limitScope : String) (resourceRef : Option Reference)
    (limit consumed reserved required : Amount κ) (timestamp reason : String) (message : Option String)
    (sticky : Bool) : Except PyError (Decision κ) := do
  let remaining ← match limit, consumed with
    | .cost limit, .cost consumed => numerics.normalizedCost (numerics.subtract limit consumed)
    | .count limit, .count consumed => numerics.countDifference limit consumed
    | .cost limit, .count _ | .count _, .cost limit => .ok limit
  let label := match resourceRef with
    | some ref => ref.name ++ "/" ++ ref.version
    | none => "execution"
  return {
    reason, dimension, scope := limitScope, internalScope := scope.name, resourceRef, limit, consumed, reserved
    remaining := .cost remaining
    required, sticky
    message := message.getD ("execution budget exhausted: " ++ limitScope ++ " " ++ label ++ " " ++ dimension ++
      "=" ++ numerics.text limit ++ " has " ++ numerics.text (.cost remaining) ++ " remaining but requires " ++
      numerics.text required ++ " (rule " ++ scope.name ++ ")")
    decidedAt := timestamp }

def blockedCount (scope : Scope) (dimension : String) (limit : CountLimit) (consumed reserved required : Int)
    (timestamp : String) : Except PyError (Decision κ) :=
  blockedDecision numerics scope dimension limit.scope limit.resourceRef (.count limit.value) (.count consumed)
    (.count reserved) (.count required) timestamp BUDGET_EXHAUSTED none false

def blockedCost (scope : Scope) (limit : BudgetLimit κ) (consumed reserved required : κ) (timestamp reason : String)
    (message : Option String) (sticky : Bool) : Except PyError (Decision κ) :=
  blockedDecision numerics scope "maxCostUsd" limit.scope limit.resourceRef (.cost limit.value) (.cost consumed)
    (.cost reserved) (.cost required) timestamp reason message sticky

def requiredOf (estimatedInputTokens : Int) : Counter → Int
  | .modelInvocations => 1
  | .inputTokens => estimatedInputTokens
  | .outputTokens => 1

def checkCounters (scope : Scope) (limits : Limits κ) (record : Consumption κ) (estimatedInputTokens : Int)
    (timestamp : String) : List Counter → Except PyError (Option (Decision κ))
  | [] => .ok none
  | counter :: rest =>
    match limits.counter counter with
    | none => checkCounters scope limits record estimatedInputTokens timestamp rest
    | some limit =>
      if limit.value < record.committed counter + requiredOf estimatedInputTokens counter then
        some <$> blockedCount numerics scope counter.field limit (record.committed counter)
          (record.reserved counter) (requiredOf estimatedInputTokens counter) timestamp
      else checkCounters scope limits record estimatedInputTokens timestamp rest

def checkElapsed (scope : Scope) (limits : Limits κ) (record : Consumption κ) (timestamp : String) :
    Except PyError (Option (Decision κ)) :=
  let elapsed := max record.elapsedMs (numerics.elapsedMs record.startedAt timestamp)
  match limits.maxElapsedMs with
  | none => .ok none
  | some limit =>
    if limit.value < elapsed + 1 then
      some <$> blockedCount numerics scope "maxElapsedMs" limit elapsed 0 1 timestamp
    else .ok none

def checkCost (scope : Scope) (limits : Limits κ) (record : Consumption κ) (estimatedInputTokens : Int)
    (timestamp : String) (pricing : Option (Pricing κ)) : Except PyError (Option (Decision κ)) :=
  match limits.maxCostUsd, pricing with
  | none, _ => .ok none
  | some limit, none =>
    some <$> blockedCost numerics scope limit (numerics.add record.costUsd record.reservedCostUsd)
      record.reservedCostUsd numerics.zero timestamp BUDGET_COST_UNAVAILABLE
      (some "monetary budget requires reliable Model pricing metadata") false
  | some limit, some pricing => do
    let minimumCost ← numerics.estimateCost pricing estimatedInputTokens 1
    let consumedCost ← numerics.costTotal record.costUsd record.reservedCostUsd
    if numerics.costExceeds (← numerics.costTotal consumedCost minimumCost) limit.value then
      some <$> blockedCost numerics scope limit consumedCost record.reservedCostUsd minimumCost timestamp
        BUDGET_EXHAUSTED none false
    else return none

def checkScope (scope : Scope) (limits : Limits κ) (record : Consumption κ) (estimatedInputTokens : Int)
    (timestamp : String) (pricing : Option (Pricing κ)) : Except PyError (Option (Decision κ)) :=
  match record.blockedDecision.filter Decision.sticky with
  | some blocked => .ok (some blocked)
  | none => do
    match ← checkCounters numerics scope limits record estimatedInputTokens timestamp Counter.all with
    | some decision => return some decision
    | none =>
      match ← checkElapsed numerics scope limits record timestamp with
      | some decision => return some decision
      | none => checkCost numerics scope limits record estimatedInputTokens timestamp pricing

def evaluate (budget : TaskBudget κ) (state : Scoped (Consumption κ)) (estimatedInputTokens : Int)
    (timestamp : String) : List Scope → Except PyError (Option (Decision κ))
  | [] => .ok none
  | scope :: rest => do
    match ← checkScope numerics scope (budget.resolved.get scope) (state.get scope) estimatedInputTokens timestamp
        budget.modelPricing with
    | some decision => return some decision
    | none => evaluate budget state estimatedInputTokens timestamp rest

def minimumOf {α : Type} (minimum : α → α → α) (left right : Option α) : Option α :=
  match left, right with
  | some a, some b => some (minimum a b)
  | some a, none => some a
  | none, right => right

def remainingIn (limits : Limits κ) (record : Consumption κ) (counter : Counter) : Option Int :=
  (limits.counter counter).map fun limit => limit.value - record.committed counter

def minimumRemaining (budget : TaskBudget κ) (state : Scoped (Consumption κ)) (counter : Counter) : Option Int :=
  minimumOf min
    (minimumOf min (remainingIn budget.resolved.workflow state.workflow counter)
      (remainingIn budget.resolved.task state.task counter))
    (remainingIn budget.resolved.agent state.agent counter)

def remainingCostIn (limits : Limits κ) (record : Consumption κ) : Except PyError (Option κ) :=
  match limits.maxCostUsd with
  | none => .ok none
  | some limit => some <$> numerics.normalizedCost
      (numerics.subtract limit.value (numerics.add record.costUsd record.reservedCostUsd))

def minimumRemainingCost (budget : TaskBudget κ) (state : Scoped (Consumption κ)) : Except PyError (Option κ) := do
  let workflow ← remainingCostIn numerics budget.resolved.workflow state.workflow
  let task ← remainingCostIn numerics budget.resolved.task state.task
  let agent ← remainingCostIn numerics budget.resolved.agent state.agent
  return minimumOf numerics.minimum (minimumOf numerics.minimum workflow task) agent

/-- Python's `value or fallback`. -/
def orElse (value : Option Int) (fallback : Int) : Int :=
  match value with
  | some number => if number = 0 then fallback else number
  | none => fallback

def cappedOutput (configuredOutputTokenLimit : Option Int) (remainingOutput attempts : Int) : Int :=
  let outputCap := max 1 (remainingOutput / attempts)
  max 1 (min (orElse configuredOutputTokenLimit outputCap) outputCap)

structure Grant where
  attempts : Int
  perAttemptOutput : Option Int
  deriving DecidableEq

def cap (bound : Option Int) (value : Int) : Int :=
  match bound with
  | some bound => min value bound
  | none => value

def attemptLimit (configuredProviderAttempts invocationAllowance remainingInput remainingOutput : Option Int)
    (estimatedInputTokens : Int) : Int :=
  let configured := match configuredProviderAttempts, invocationAllowance with
    | some attempts, _ => max 1 attempts
    | none, some allowance => allowance
    | none, none => 1
  let invoked := cap invocationAllowance configured
  let fed := cap (remainingInput.map fun remaining => max 1 (remaining / estimatedInputTokens)) invoked
  cap (remainingOutput.map fun remaining => max 1 remaining) fed

def initialGrant (budget : TaskBudget κ) (attempts estimatedInputTokens : Int)
    (configuredOutputTokenLimit remainingOutput : Option Int) (remainingCost : Option κ) : Except PyError Grant :=
  match remainingOutput, configuredOutputTokenLimit, remainingCost, budget.modelPricing with
  | some remaining, configured, _, _ => .ok { attempts, perAttemptOutput := cappedOutput configured remaining attempts }
  | none, none, some cost, some pricing => do
    return { attempts, perAttemptOutput := ← numerics.affordableOutput cost pricing attempts estimatedInputTokens }
  | none, configured, _, _ => .ok { attempts, perAttemptOutput := configured }

def outputShare (configuredOutputTokenLimit remainingOutput : Option Int) (attempts : Int) (kept : Option Int) :
    Option Int :=
  match remainingOutput with
  | some remaining => some (cappedOutput configuredOutputTokenLimit remaining attempts)
  | none => kept

def shrink (pricing : Pricing κ) (estimatedInputTokens : Int) (configuredOutputTokenLimit remainingOutput : Option Int)
    (remainingCost : κ) : Nat → Grant → Except PyError Grant
  | 0, grant => .ok grant
  | rounds + 1, grant => do
    let minimumCost ← numerics.estimateCost pricing estimatedInputTokens (orElse grant.perAttemptOutput 1)
    if numerics.isPositive minimumCost = false then return grant
    else do
      let maxByCost ← numerics.costFloorDiv remainingCost minimumCost
      if grant.attempts ≤ maxByCost then return grant
      else
        let attempts := max 1 maxByCost
        shrink pricing estimatedInputTokens configuredOutputTokenLimit remainingOutput remainingCost rounds {
          attempts
          perAttemptOutput := outputShare configuredOutputTokenLimit remainingOutput attempts grant.perAttemptOutput }

def affordableGrant (budget : TaskBudget κ) (estimatedInputTokens : Int)
    (configuredOutputTokenLimit remainingOutput : Option Int) (remainingCost : Option κ) (grant : Grant) :
    Except PyError Grant :=
  match remainingCost, budget.modelPricing with
  | some cost, some pricing =>
    shrink numerics pricing estimatedInputTokens configuredOutputTokenLimit remainingOutput cost 3 grant
  | none, _ | _, none => .ok grant

structure Plan (κ : Type) where
  attempts : Int
  effectiveOutput : Option Int
  reservedInput : Int
  reservedOutput : Int
  reservedCost : κ

def reservedOutput (remainingOutput : Option Int) (grant : Grant) : Int :=
  match remainingOutput with
  | some _ => grant.perAttemptOutput.getD 0 * grant.attempts
  | none => 0

def pricedOutputTokens (remainingOutput : Option Int) (grant : Grant) : Int :=
  match remainingOutput with
  | some _ => reservedOutput remainingOutput grant
  | none => orElse grant.perAttemptOutput 1 * grant.attempts

def plannedCost (budget : TaskBudget κ) (reservedInput outputTokens : Int) : Except PyError κ :=
  match budget.modelPricing with
  | some pricing => numerics.estimateCost pricing reservedInput outputTokens
  | none => .ok numerics.zero

def reservationPlan (budget : TaskBudget κ) (state : Scoped (Consumption κ)) (estimatedInputTokens : Int)
    (configuredOutputTokenLimit configuredProviderAttempts : Option Int) : Except PyError (Plan κ) := do
  let remainingOutput := minimumRemaining budget state .outputTokens
  let attempts := attemptLimit configuredProviderAttempts (minimumRemaining budget state .modelInvocations)
    (minimumRemaining budget state .inputTokens) remainingOutput estimatedInputTokens
  let remainingCost ← minimumRemainingCost numerics budget state
  let initial ← initialGrant numerics budget attempts estimatedInputTokens configuredOutputTokenLimit remainingOutput
    remainingCost
  let grant ← affordableGrant numerics budget estimatedInputTokens configuredOutputTokenLimit remainingOutput
    remainingCost initial
  let reservedCost ← plannedCost numerics budget (estimatedInputTokens * grant.attempts)
    (pricedOutputTokens remainingOutput grant)
  return {
    attempts := grant.attempts
    effectiveOutput := grant.perAttemptOutput
    reservedInput := estimatedInputTokens * grant.attempts
    reservedOutput := reservedOutput remainingOutput grant
    reservedCost }

def costBlockedMessage : String :=
  "monetary budget exhausted: the granted provider output allowance does not fit the remaining cost"

def costDecision (budget : TaskBudget κ) (state : Scoped (Consumption κ)) (reservedCost : κ) (timestamp : String) :
    List Scope → Except PyError (Decision κ)
  | [] => .error { errorClass := .assertionError, message := "" }
  | scope :: rest =>
    match (budget.resolved.get scope).maxCostUsd with
    | none => costDecision budget state reservedCost timestamp rest
    | some limit => do
      let record := state.get scope
      let consumedCost ← numerics.costTotal record.costUsd record.reservedCostUsd
      let remaining ← numerics.normalizedCost (numerics.subtract limit.value consumedCost)
      if numerics.costExceeds reservedCost remaining then
        blockedCost numerics scope limit consumedCost record.reservedCostUsd reservedCost timestamp BUDGET_EXHAUSTED
          (some costBlockedMessage) false
      else costDecision budget state reservedCost timestamp rest

def applyBlockDecision (state : Scoped (Consumption κ)) (decision : Decision κ) : Scoped (Consumption κ) :=
  state.map fun scope record =>
    if decision.internalScope = scope.name then
      let noted := { record with lastDecision := some (.blocked decision), updatedAt := decision.decidedAt }
      if decision.sticky then
        { noted with blockedReason := some decision.reason, blockedDecision := some decision }
      else noted
    else record

inductive Admission (κ : Type) where
  | blocked (decision : Decision κ)
  | admitted (plan : Plan κ)

def reserve (plan : Plan κ) (estimatedInputTokens : Int) (timestamp : String) (record : Consumption κ) :
    Consumption κ :=
  { record with
    reservedModelInvocations := record.reservedModelInvocations + plan.attempts
    reservedInputTokens := record.reservedInputTokens + plan.reservedInput
    reservedOutputTokens := record.reservedOutputTokens + plan.reservedOutput
    reservedCostUsd := numerics.add record.reservedCostUsd plan.reservedCost
    updatedAt := timestamp
    lastDecision := some (.admitted plan.effectiveOutput estimatedInputTokens timestamp) }

def costFits (remainingCost : Option κ) (reservedCost : κ) : Bool :=
  match remainingCost with
  | none => true
  | some remaining => !numerics.costExceeds reservedCost remaining

structure PreflightArguments where
  estimatedInputTokens : Int
  configuredOutputTokenLimit : Option Int
  configuredProviderAttempts : Option Int
  timestamp : String

def preflightMutation (budget : TaskBudget κ) (arguments : PreflightArguments) (started : StartTimes)
    (ledger : Ledger κ) : Except PyError (Ledger κ × Admission κ) := do
  let estimated := max 1 arguments.estimatedInputTokens
  let state := loadState numerics budget ledger started
  match ← evaluate numerics budget state estimated arguments.timestamp Scope.all with
  | some decision =>
    return (changesForState budget ledger (applyBlockDecision state decision) (some decision), .blocked decision)
  | none => do
    let plan ← reservationPlan numerics budget state estimated arguments.configuredOutputTokenLimit
      arguments.configuredProviderAttempts
    let remainingCost ← minimumRemainingCost numerics budget state
    if costFits numerics remainingCost plan.reservedCost then
      return (changesForState budget ledger
        (state.map fun _ => reserve numerics plan estimated arguments.timestamp) none, .admitted plan)
    else do
      let decision ← costDecision numerics budget state plan.reservedCost arguments.timestamp Scope.all
      return (changesForState budget ledger (applyBlockDecision state decision) (some decision), .blocked decision)

def Plan.reservation (plan : Plan κ) : Reservation κ where
  modelInvocations := plan.attempts
  inputTokens := plan.reservedInput
  outputTokens := plan.reservedOutput
  costUsd := plan.reservedCost

structure RecordArguments (κ : Type) where
  inputTokens : Int := 0
  outputTokens : Int := 0
  latencyMs : Int := 0
  cost : Option κ := none
  costStatus : Option String := none
  invocationCount : Int := 1
  unreconciledDispatchedAttempts : Int := 0
  timestamp : String

def costEvidence (budget : TaskBudget κ) (arguments : RecordArguments κ) : Except PyError (String × Option κ) := do
  if ∃ status ∈ arguments.costStatus, status ∉ COST_STATUSES then
    .error (valueError "cost_status is not a supported cost classification")
  else match arguments.cost with
  | some cost =>
    if numerics.isNonNegativeFinite cost then return (arguments.costStatus.getD "EXACT", some cost)
    else .error (valueError "cost must be a non-negative finite number")
  | none =>
    let status := match arguments.costStatus with
      | some status => if status = "ESTIMATED" ∨ status = "CONFIGURED" then status else "ESTIMATED"
      | none => "ESTIMATED"
    match budget.modelPricing with
    | some pricing =>
      if arguments.inputTokens ≠ 0 ∨ arguments.outputTokens ≠ 0 then
        return (status, some (← numerics.estimateCost pricing arguments.inputTokens arguments.outputTokens))
      else return ("UNAVAILABLE", none)
    | none => return ("UNAVAILABLE", none)

/-- The reservation that a record gives back; without one it gives back a single invocation. -/
def TaskBudget.given (budget : TaskBudget κ) : Reservation κ :=
  budget.reservation.getD { modelInvocations := 1, inputTokens := 0, outputTokens := 0, costUsd := numerics.zero }

/-- The attempts whose usage stays unknown, and the shares of the reservation kept for them. -/
structure Retention (κ : Type) where
  attempts : Int
  inputTokens : Int
  outputTokens : Int
  costUsd : κ

def retention (reservation : Reservation κ) (unreconciledDispatchedAttempts : Int) : Retention κ :=
  let granted := max 1 reservation.modelInvocations
  let attempts := min (max 0 unreconciledDispatchedAttempts) granted
  { attempts
    inputTokens := reservation.inputTokens / granted * attempts
    outputTokens := reservation.outputTokens / granted * attempts
    costUsd := numerics.retain (numerics.share reservation.costUsd granted) attempts }

def giveBack (reservation : Reservation κ) (record : Consumption κ) : Consumption κ :=
  { record with
    reservedModelInvocations := max 0 (record.reservedModelInvocations - reservation.modelInvocations)
    reservedInputTokens := max 0 (record.reservedInputTokens - reservation.inputTokens)
    reservedOutputTokens := max 0 (record.reservedOutputTokens - reservation.outputTokens)
    reservedCostUsd := numerics.giveBack record.reservedCostUsd reservation.costUsd }

def keepRetained (kept : Retention κ) (record : Consumption κ) : Consumption κ :=
  if kept.attempts = 0 then record
  else { record with
    reservedInputTokens := record.reservedInputTokens + kept.inputTokens
    reservedOutputTokens := record.reservedOutputTokens + kept.outputTokens
    reservedCostUsd := numerics.add record.reservedCostUsd kept.costUsd }

def consume (budget : TaskBudget κ) (arguments : RecordArguments κ) (record : Consumption κ) : Consumption κ :=
  { record with
    modelInvocations := record.modelInvocations + arguments.invocationCount
    inputTokens := record.inputTokens + arguments.inputTokens
    outputTokens := record.outputTokens + arguments.outputTokens
    elapsedMs := max record.elapsedMs (numerics.elapsedMs record.startedAt arguments.timestamp)
    updatedAt := arguments.timestamp
    lastProvider := budget.provider
    lastModel := budget.model
    lastDecision := some (.charged arguments.timestamp) }

def unreconciledMessage : String :=
  "monetary budget cannot be reconciled because a dispatched provider attempt returned no reliable usage"

def chargedCost (record : Consumption κ) (actualCost : Option κ) : Except PyError κ :=
  match actualCost with
  | some cost => numerics.costTotal record.costUsd cost
  | none => .ok record.costUsd

def countStatus (status : String) (record : Consumption κ) : Consumption κ :=
  let counts := record.costStatusCounts.set status ((record.costStatusCounts.get? status).getD 0 + 1)
  { record with
    costStatusCounts := counts
    costStatus := match counts with
      | [(only, _)] => only
      | _ => "MIXED" }

/-- A cost limit whose spending cannot be reconciled blocks its scope for good. -/
def blockUnreconciled (scope : Scope) (limit : Option (BudgetLimit κ)) (timestamp : String) (record : Consumption κ) :
    Except PyError (Consumption κ) :=
  match limit with
  | none => .ok record
  | some limit => do
    let consumed ← numerics.costTotal record.costUsd record.reservedCostUsd
    let decision ← blockedCost numerics scope limit consumed record.reservedCostUsd numerics.zero timestamp
      BUDGET_COST_UNAVAILABLE (some unreconciledMessage) true
    return { record with blockedReason := some BUDGET_COST_UNAVAILABLE, blockedDecision := some decision }

def chargeCost (budget : TaskBudget κ) (arguments : RecordArguments κ) (status : String) (actualCost : Option κ)
    (scope : Scope) (record : Consumption κ) : Except PyError (Consumption κ) := do
  let costUsd ← chargedCost numerics record actualCost
  let charged := countStatus status { record with costUsd }
  if status = "UNAVAILABLE" ∨ 0 < arguments.unreconciledDispatchedAttempts then
    blockUnreconciled numerics scope (budget.resolved.get scope).maxCostUsd arguments.timestamp charged
  else return charged

/-- Whether the committed amount of a counter, as a double, is above its limit. -/
def counterOverrun (limits : Limits κ) (record : Consumption κ) (counter : Counter) : Except PyError Bool :=
  match limits.counter counter with
  | none => .ok false
  | some limit => do
    return limit.value < (← countTotal (record.consumed counter) (record.reserved counter))

def costOverrun (limits : Limits κ) (record : Consumption κ) : Except PyError Bool :=
  match limits.maxCostUsd with
  | none => .ok false
  | some limit => do
    return numerics.costExceeds (← numerics.costTotal record.costUsd record.reservedCostUsd) limit.value

def applyOverruns (budget : TaskBudget κ) (scope : Scope) (record : Consumption κ) :
    Except PyError (Consumption κ) := do
  let limits := budget.resolved.get scope
  let invocations ← counterOverrun limits record .modelInvocations
  let input ← counterOverrun limits record .inputTokens
  let output ← counterOverrun limits record .outputTokens
  let cost ← costOverrun numerics limits record
  return if invocations || input || output || cost then { record with overrun := true } else record

def recordScope (budget : TaskBudget κ) (arguments : RecordArguments κ) (status : String) (actualCost : Option κ)
    (scope : Scope) (record : Consumption κ) : Except PyError (Consumption κ) := do
  let reservation := budget.given numerics
  let kept := retention numerics reservation arguments.unreconciledDispatchedAttempts
  let consumed := consume numerics budget arguments (keepRetained numerics kept (giveBack numerics reservation record))
  if 0 < arguments.invocationCount then chargeCost numerics budget arguments status actualCost scope consumed
  else return consumed

structure FieldSummary (κ : Type) where
  dimension : String
  limit : Amount κ
  consumed : Amount κ
  reserved : Amount κ
  remaining : Amount κ

def summarizeCount (dimension : String) (limit : Option CountLimit) (used held : Int) : List (FieldSummary κ) :=
  match limit with
  | none => []
  | some limit => [{ dimension, limit := .count limit.value, consumed := .count used, reserved := .count held
                     remaining := .count (limit.value - used - held) }]

def summarizeCost (limit : Option (BudgetLimit κ)) (used held : κ) : Except PyError (List (FieldSummary κ)) :=
  match limit with
  | none => .ok []
  | some limit => do
    let remaining ← numerics.normalizedCost (numerics.subtract (numerics.subtract limit.value used) held)
    return [{ dimension := "maxCostUsd", limit := .cost limit.value, consumed := .cost used, reserved := .cost held
              remaining := .cost remaining }]

def summarizeLimits (limits : Limits κ) (consumption : Consumption κ) : Except PyError (List (FieldSummary κ)) := do
  let counters := Counter.all.flatMap fun counter =>
    summarizeCount counter.field (limits.counter counter) (consumption.consumed counter) (consumption.reserved counter)
  let elapsed := summarizeCount "maxElapsedMs" limits.maxElapsedMs consumption.elapsedMs 0
  let cost ← summarizeCost numerics limits.maxCostUsd consumption.costUsd consumption.reservedCostUsd
  return counters ++ elapsed ++ cost

def effectiveOutputLimit (configured remaining : Option Int) : Option Int :=
  match remaining with
  | none => configured
  | some remaining =>
    if remaining < 1 then none
    else match configured with
      | none => some remaining
      | some configured => some (min configured remaining)

structure Charge (κ : Type) where
  invocationCount : Int
  unreconciledDispatchedAttempts : Int
  inputTokens : Int
  outputTokens : Int
  latencyMs : Int
  costUsd : Option κ
  costStatus : String
  provider : String
  model : String
  chargedAt : String
  effectiveOutputTokenLimit : Option Int
  remaining : Scoped (List (FieldSummary κ))

def checkUsage (arguments : RecordArguments κ) : Except PyError Unit :=
  if arguments.inputTokens < 0 ∨ arguments.outputTokens < 0 ∨ arguments.latencyMs < 0 then
    .error (valueError "model usage must not be negative")
  else if arguments.invocationCount < 0 then .error (valueError "invocation_count must not be negative")
  else if arguments.unreconciledDispatchedAttempts < 0 then
    .error (valueError "unreconciled_dispatched_attempts must not be negative")
  else .ok ()

def dispatchedEvidence (budget : TaskBudget κ) (arguments : RecordArguments κ) :
    Except PyError (String × Option κ) :=
  if 0 < arguments.invocationCount then costEvidence numerics budget arguments else .ok ("UNAVAILABLE", none)

/-- The mutation of a record: the ledger it leaves and the evidence it returns. -/
def recordMutation (budget : TaskBudget κ) (arguments : RecordArguments κ) (started : StartTimes)
    (ledger : Ledger κ) : Except PyError (Ledger κ × Charge κ) := do
  checkUsage arguments
  let evidence ← dispatchedEvidence numerics budget arguments
  let recorded ← (loadState numerics budget ledger started).mapM
    (recordScope numerics budget arguments evidence.1 evidence.2)
  let state ← recorded.mapM (applyOverruns numerics budget)
  let remaining ← state.mapM fun scope record => summarizeLimits numerics (budget.resolved.get scope) record
  return (changesForState budget ledger state none, {
    invocationCount := arguments.invocationCount
    unreconciledDispatchedAttempts := arguments.unreconciledDispatchedAttempts
    inputTokens := arguments.inputTokens
    outputTokens := arguments.outputTokens
    latencyMs := arguments.latencyMs
    costUsd := evidence.2
    costStatus := evidence.1
    provider := budget.provider
    model := budget.model
    chargedAt := arguments.timestamp
    effectiveOutputTokenLimit := effectiveOutputLimit budget.modelOutputTokenLimit
      (minimumRemaining budget state .outputTokens)
    remaining })

def releaseMutation (budget : TaskBudget κ) (reservation : Reservation κ) (started : StartTimes)
    (ledger : Ledger κ) : Ledger κ :=
  changesForState budget ledger ((loadState numerics budget ledger started).map fun _ => giveBack numerics reservation)
    none

end

end Aep.ExecutionBudgets
