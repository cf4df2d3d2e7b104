import Aep.ExecutionBudgets.Plan
import Mathlib.Tactic.Linarith
import Mathlib.Tactic.FieldSimp
import Mathlib.Algebra.Order.Floor.Ring
import Mathlib.Data.Rat.Floor

namespace Aep.ExecutionBudgets

open Result

def price (pricing : Pricing Rat) (inputTokens outputTokens : Int) : Rat :=
  (inputTokens * pricing.inputPerMillionTokens + outputTokens * pricing.outputPerMillionTokens) / 1000000

/-- The output tokens of one attempt that an even share of the remaining cost pays for besides the input. -/
def affordableTokens (remainingCost : Rat) (pricing : Pricing Rat) (attempts inputTokens : Int) : Option Int :=
  let outputPrice := pricing.outputPerMillionTokens / 1000000
  let outputBudget := remainingCost / attempts - inputTokens * pricing.inputPerMillionTokens / 1000000
  if 0 < outputPrice ∧ outputPrice ≤ outputBudget then some (max 1 ⌊outputBudget / outputPrice⌋) else none

/-- The arithmetic of the source on exact decimals. Clock texts and messages are left open. -/
def exactNumerics (elapsedMs : String → String → Int) (text : Amount Rat → String) : Numerics Rat where
  zero := 0
  add := (· + ·)
  subtract := (· - ·)
  giveBack held given := max 0 (held - given)
  share cost attempts := cost / attempts
  retain cost attempts := cost * attempts
  minimum := min
  normalizedCost := .ok
  costTotal left right := .ok (left + right)
  costExceeds total limit := limit < total
  costFloorDiv remaining perAttempt := .ok (if perAttempt ≤ 0 then 0 else ⌊remaining / perAttempt⌋)
  estimateCost pricing input output := .ok (price pricing input output)
  isPositive cost := 0 < cost
  isNonNegativeFinite cost := 0 ≤ cost
  affordableOutput remaining pricing attempts input := .ok (affordableTokens remaining pricing attempts input)
  countDifference limit consumed := .ok (limit - consumed)
  elapsedMs
  text

section Exact

variable {elapsedMs : String → String → Int} {text : Amount Rat → String}

@[simp] theorem exactNumerics_estimateCost (pricing : Pricing Rat) (input output : Int) :
    (exactNumerics elapsedMs text).estimateCost pricing input output = .ok (price pricing input output) := rfl

@[simp] theorem exactNumerics_costTotal (left right : Rat) :
    (exactNumerics elapsedMs text).costTotal left right = .ok (left + right) := rfl

@[simp] theorem exactNumerics_costExceeds (total limit : Rat) :
    (exactNumerics elapsedMs text).costExceeds total limit = decide (limit < total) := rfl

@[simp] theorem exactNumerics_isPositive (cost : Rat) :
    (exactNumerics elapsedMs text).isPositive cost = decide (0 < cost) := rfl

@[simp] theorem exactNumerics_affordableOutput (remaining : Rat) (pricing : Pricing Rat) (attempts input : Int) :
    (exactNumerics elapsedMs text).affordableOutput remaining pricing attempts input =
      .ok (affordableTokens remaining pricing attempts input) := rfl

theorem exactNumerics_costFloorDiv {perAttempt : Rat} (positive : 0 < perAttempt) (remaining : Rat) :
    (exactNumerics elapsedMs text).costFloorDiv remaining perAttempt = .ok ⌊remaining / perAttempt⌋ := by
  simp [exactNumerics, not_le.mpr positive]

end Exact

variable {elapsedMs : String → String → Int} {text : Amount Rat → String}

section Remaining

variable {budget : TaskBudget Rat} {state : Scoped (Consumption Rat)}

def spendable (limit : BudgetLimit Rat) (record : Consumption Rat) : Rat :=
  limit.value - (record.costUsd + record.reservedCostUsd)

theorem remainingCostIn_eq (limits : Limits Rat) (record : Consumption Rat) :
    remainingCostIn (exactNumerics elapsedMs text) limits record =
      .ok (limits.maxCostUsd.map fun limit => spendable limit record) := by
  unfold remainingCostIn
  cases limits.maxCostUsd <;> rfl

def leastSpendable (budget : TaskBudget Rat) (state : Scoped (Consumption Rat)) : Option Rat :=
  let left (scope : Scope) := (budget.resolved.get scope).maxCostUsd.map fun limit => spendable limit (state.get scope)
  minimumOf min (minimumOf min (left .workflow) (left .task)) (left .agent)

theorem minimumRemainingCost_eq (budget : TaskBudget Rat) (state : Scoped (Consumption Rat)) :
    minimumRemainingCost (exactNumerics elapsedMs text) budget state = .ok (leastSpendable budget state) := by
  simp only [minimumRemainingCost, remainingCostIn_eq]
  rfl

theorem leastSpendable_spec {least : Rat} (found : leastSpendable budget state = some least) :
    (∀ scope limit, (budget.resolved.get scope).maxCostUsd = some limit → least ≤ spendable limit (state.get scope)) ∧
      ∃ scope limit, (budget.resolved.get scope).maxCostUsd = some limit ∧ least = spendable limit (state.get scope) := by
  let left (scope : Scope) := (budget.resolved.get scope).maxCostUsd.map fun limit => spendable limit (state.get scope)
  have held (scope : Scope) {limit : BudgetLimit Rat} (limited : (budget.resolved.get scope).maxCostUsd = some limit) :
      left scope = some (spendable limit (state.get scope)) := by
    simp [left, limited]
  have attained (scope : Scope) (here : left scope = some least) :
      ∃ scope limit, (budget.resolved.get scope).maxCostUsd = some limit ∧
        least = spendable limit (state.get scope) := by
    obtain ⟨limit, limited, same⟩ := Option.map_eq_some_iff.mp here
    exact ⟨scope, limit, limited, same.symm⟩
  obtain ⟨inner, innerEq⟩ : ∃ inner, minimumOf min (left .workflow) (left .task) = inner := ⟨_, rfl⟩
  have outer : minimumOf min inner (left .agent) = some least := by
    rw [← innerEq]
    exact found
  constructor
  · intro scope limit limited
    have here := held scope limited
    cases scope with
    | agent => exact minimumOf_le_right outer here
    | workflow =>
      cases inner with
      | none => cases (minimumOf_none innerEq).1.symm.trans here
      | some middle => exact (minimumOf_le_left outer rfl).trans (minimumOf_le_left innerEq here)
    | task =>
      cases inner with
      | none => cases (minimumOf_none innerEq).2.symm.trans here
      | some middle => exact (minimumOf_le_left outer rfl).trans (minimumOf_le_right innerEq here)
  · rcases minimumOf_cases outer with inner | agent
    · rcases minimumOf_cases (innerEq.trans inner) with workflow | task
      · exact attained .workflow workflow
      · exact attained .task task
    · exact attained .agent agent

theorem leastSpendable_none (found : leastSpendable budget state = none) (scope : Scope) :
    (budget.resolved.get scope).maxCostUsd = none := by
  obtain ⟨inner, agent⟩ := minimumOf_none found
  obtain ⟨workflow, task⟩ := minimumOf_none inner
  cases scope
  · exact Option.map_eq_none_iff.mp workflow
  · exact Option.map_eq_none_iff.mp task
  · exact Option.map_eq_none_iff.mp agent

end Remaining

section Checks

variable {κ : Type} {numerics : Numerics κ}

theorem checkScope_cost {scope : Scope} {limits : Limits κ} {record : Consumption κ} {estimatedInputTokens : Int}
    {timestamp : String} {pricing : Option (Pricing κ)}
    (checked : checkScope numerics scope limits record estimatedInputTokens timestamp pricing = .ok none) :
    checkCost numerics scope limits record estimatedInputTokens timestamp pricing = .ok none := by
  unfold checkScope at checked
  split at checked
  · cases checked
  · simp only [bind_eq_ok] at checked
    obtain ⟨counted, -, checked⟩ := checked
    cases counted with
    | some decision => simp at checked
    | none =>
      simp only [bind_eq_ok] at checked
      obtain ⟨elapsed, -, checked⟩ := checked
      cases elapsed with
      | some decision => simp at checked
      | none => exact checked

theorem map_some_ne {α : Type} (result : Except PyError α) : some <$> result ≠ .ok none := by
  cases result with
  | error error => exact fun same => nomatch same
  | ok value => exact fun same => nomatch same

theorem price_le_spendable {budget : TaskBudget Rat} {state : Scoped (Consumption Rat)} {pricing : Pricing Rat}
    {estimatedInputTokens : Int} {timestamp : String} (priced : budget.modelPricing = some pricing)
    (evaluated : evaluate (exactNumerics elapsedMs text) budget state estimatedInputTokens timestamp Scope.all = .ok none)
    {scope : Scope} {limit : BudgetLimit Rat} (limited : (budget.resolved.get scope).maxCostUsd = some limit) :
    price pricing estimatedInputTokens 1 ≤ spendable limit (state.get scope) := by
  have checked := checkScope_cost (evaluate_none evaluated (Scope.mem_all scope))
  simp only [checkCost, limited, priced, exactNumerics_estimateCost, exactNumerics_costTotal,
    exactNumerics_costExceeds, Result.ok_bind, decide_eq_true_eq] at checked
  split at checked
  · exact absurd checked (map_some_ne _)
  · rename_i fits
    unfold spendable
    linarith

end Checks

section Shrinking

theorem shrink_output {κ : Type} {numerics : Numerics κ} {pricing : Pricing κ} {estimatedInputTokens : Int}
    {configured output : Option Int} {remainingCost : κ} {rounds : Nat} {grant result : Grant}
    (shrunk : shrink numerics pricing estimatedInputTokens configured output remainingCost rounds grant = .ok result) :
    result.perAttemptOutput = grant.perAttemptOutput ∨
      ∃ remaining attempts, output = some remaining ∧
        result.perAttemptOutput = some (cappedOutput configured remaining attempts) := by
  induction rounds generalizing grant with
  | zero =>
    cases shrunk
    exact .inl rfl
  | succ rounds ih =>
    simp only [shrink, bind_eq_ok] at shrunk
    obtain ⟨minimumCost, -, shrunk⟩ := shrunk
    split at shrunk
    · cases shrunk
      exact .inl rfl
    · simp only [bind_eq_ok] at shrunk
      obtain ⟨maxByCost, -, shrunk⟩ := shrunk
      split at shrunk
      · cases shrunk
        exact .inl rfl
      · rcases ih shrunk with same | capped
        · cases output with
          | none => exact .inl same
          | some remaining => exact .inr ⟨remaining, _, rfl, same⟩
        · exact .inr capped

variable {pricing : Pricing Rat} {estimatedInputTokens attempts : Int} {remaining : Rat}

theorem shrink_paid (positive : 0 < price pricing estimatedInputTokens 1)
    (paid : attempts ≤ ⌊remaining / price pricing estimatedInputTokens 1⌋) (rounds : Nat) :
    shrink (exactNumerics elapsedMs text) pricing estimatedInputTokens none none remaining rounds ⟨attempts, none⟩ =
      .ok ⟨attempts, none⟩ := by
  cases rounds with
  | zero => rfl
  | succ rounds =>
    simp only [shrink, orElse, exactNumerics_estimateCost, exactNumerics_isPositive, positive,
      exactNumerics_costFloorDiv positive, Result.ok_bind, decide_true, Bool.true_eq_false, ↓reduceIte, paid]
    rfl

theorem shrink_unlimited (positive : 0 < price pricing estimatedInputTokens 1)
    (paid : price pricing estimatedInputTokens 1 ≤ remaining) (rounds : Nat) :
    shrink (exactNumerics elapsedMs text) pricing estimatedInputTokens none none remaining (rounds + 1)
      ⟨attempts, none⟩ = .ok ⟨min attempts ⌊remaining / price pricing estimatedInputTokens 1⌋, none⟩ := by
  have one : 1 ≤ ⌊remaining / price pricing estimatedInputTokens 1⌋ := by
    rw [Int.le_floor, Int.cast_one, le_div_iff₀ positive]
    linarith
  by_cases enough : attempts ≤ ⌊remaining / price pricing estimatedInputTokens 1⌋
  · rw [min_eq_left enough]
    exact shrink_paid positive enough (rounds + 1)
  · rw [min_eq_right (not_le.mp enough).le]
    simp only [shrink, orElse, exactNumerics_estimateCost, exactNumerics_isPositive, positive,
      exactNumerics_costFloorDiv positive, Result.ok_bind, decide_true, Bool.true_eq_false, ↓reduceIte, enough,
      outputShare, max_eq_right one]
    exact shrink_paid positive le_rfl rounds

end Shrinking

section Coverage

def Pays (pricing : Pricing Rat) (attempts inputTokens outputLimit : Int) (cost : Rat) : Prop :=
  attempts * price pricing inputTokens outputLimit ≤ cost

variable (elapsedMs text)

/-- An admitting preflight grants an output limit, and its reservation pays for it in every attempt. -/
def GrantCovered (budget : TaskBudget Rat) (pricing : Pricing Rat) (arguments : PreflightArguments)
    (started : StartTimes) (ledger : Ledger Rat) : Prop :=
  ∀ after plan, preflightMutation (exactNumerics elapsedMs text) budget arguments started ledger =
      .ok (after, .admitted plan) →
    ∃ limit, plan.effectiveOutput = some limit ∧
      Pays pricing plan.attempts (max 1 arguments.estimatedInputTokens) limit plan.reservedCost

/-- The checks let the invocation pass, nothing limits its output, and some scope cannot pay the wanted attempts with
    one output token each. -/
structure Uncapped (budget : TaskBudget Rat) (pricing : Pricing Rat) (arguments : PreflightArguments)
    (started : StartTimes) (ledger : Ledger Rat) : Prop where
  passed : evaluate (exactNumerics elapsedMs text) budget (loadState (exactNumerics elapsedMs text) budget ledger started)
    (max 1 arguments.estimatedInputTokens) arguments.timestamp Scope.all = .ok none
  unlimited : ∀ scope, (budget.resolved.get scope).maxOutputTokens = none
  unconfigured : arguments.configuredOutputTokenLimit = none
  unpaid : ∃ scope limit, (budget.resolved.get scope).maxCostUsd = some limit ∧
    spendable limit ((loadState (exactNumerics elapsedMs text) budget ledger started).get scope) <
      attemptLimit arguments.configuredProviderAttempts
        (minimumRemaining budget (loadState (exactNumerics elapsedMs text) budget ledger started) .modelInvocations)
        (minimumRemaining budget (loadState (exactNumerics elapsedMs text) budget ledger started) .inputTokens) none
        (max 1 arguments.estimatedInputTokens) * price pricing (max 1 arguments.estimatedInputTokens) 1

variable {elapsedMs text} {budget : TaskBudget Rat} {pricing : Pricing Rat} {arguments : PreflightArguments}
  {started : StartTimes} {ledger : Ledger Rat}

theorem price_mul (pricing : Pricing Rat) (input output attempts : Int) :
    price pricing (input * attempts) (output * attempts) = attempts * price pricing input output := by
  unfold price
  push_cast
  ring

theorem price_mono {input less more : Int} (positive : 0 < pricing.outputPerMillionTokens) (fewer : less ≤ more) :
    price pricing input less ≤ price pricing input more := by
  have tokens : (less : Rat) ≤ more := by exact_mod_cast fewer
  unfold price
  have := mul_le_mul_of_nonneg_right tokens positive.le
  linarith

theorem pays_priced {input attempts limit : Int} (positive : 0 < pricing.outputPerMillionTokens) (some_ : 0 ≤ attempts) :
    Pays pricing attempts input limit (price pricing (input * attempts) (orElse (some limit) 1 * attempts)) := by
  unfold Pays
  rw [price_mul]
  refine mul_le_mul_of_nonneg_left ?_ (by exact_mod_cast some_)
  by_cases zero : limit = 0
  · subst zero
    exact price_mono positive (by decide)
  · rw [orElse, if_neg zero]

theorem minimumRemaining_output_none (unlimited : ∀ scope, (budget.resolved.get scope).maxOutputTokens = none)
    (state : Scoped (Consumption Rat)) : minimumRemaining budget state .outputTokens = none := by
  have workflow := unlimited .workflow
  have task := unlimited .task
  have agent := unlimited .agent
  simp only [Scoped.get] at workflow task agent
  simp [minimumRemaining, remainingIn, Limits.counter, workflow, task, agent, minimumOf]

theorem affordableTokens_eq_none {remaining : Rat} {attempts input : Int} (positive : 1 ≤ attempts)
    (unpaid : remaining < attempts * price pricing input 1) :
    affordableTokens remaining pricing attempts input = none := by
  have some_ : (0 : Rat) < attempts := by exact_mod_cast positive
  unfold affordableTokens
  rw [if_neg]
  rintro ⟨-, enough⟩
  have share : remaining / attempts < price pricing input 1 := by
    rw [div_lt_iff₀ some_]
    linarith
  unfold price at share
  push_cast at share
  linarith

theorem affordableTokens_eq_some {remaining : Rat} {attempts input : Int} (positive : 1 ≤ attempts)
    (priced : 0 < pricing.outputPerMillionTokens) (paid : attempts * price pricing input 1 ≤ remaining) :
    ∃ limit, affordableTokens remaining pricing attempts input = some limit := by
  have some_ : (0 : Rat) < attempts := by exact_mod_cast positive
  have share : price pricing input 1 ≤ remaining / attempts := by
    rw [le_div_iff₀ some_]
    linarith
  unfold price at share
  push_cast at share
  unfold affordableTokens
  rw [if_pos ⟨by positivity, by linarith⟩]
  exact ⟨_, rfl⟩

variable {state : Scoped (Consumption Rat)} {estimated attempts : Int} {least : Rat} {plan : Plan Rat}

theorem reservationPlan_unlimited (elapsedMs : String → String → Int) (text : Amount Rat → String)
    (priced : budget.modelPricing = some pricing)
    (unlimited : ∀ scope, (budget.resolved.get scope).maxOutputTokens = none)
    (found : leastSpendable budget state = some least) {configured : Option Int}
    (wanted : attemptLimit configured (minimumRemaining budget state .modelInvocations)
      (minimumRemaining budget state .inputTokens) none estimated = attempts)
    (positive : 1 ≤ attempts) (paid : price pricing estimated 1 ≤ least)
    (unpaid : least < attempts * price pricing estimated 1) :
    ∃ plan, reservationPlan (exactNumerics elapsedMs text) budget state estimated none configured = .ok plan ∧
      plan.effectiveOutput = none ∧ plan.reservedCost ≤ least := by
  have costly : 0 < price pricing estimated 1 := by
    by_contra free
    have few : (1 : Rat) ≤ attempts := by exact_mod_cast positive
    have less := mul_le_mul_of_nonpos_right few (not_lt.mp free)
    linarith
  have shrunk : shrink (exactNumerics elapsedMs text) pricing estimated none none least 3 ⟨attempts, none⟩ = _ :=
    shrink_unlimited costly paid 2
  refine ⟨{
    attempts := min attempts ⌊least / price pricing estimated 1⌋
    effectiveOutput := none
    reservedInput := estimated * min attempts ⌊least / price pricing estimated 1⌋
    reservedOutput := 0
    reservedCost := price pricing (estimated * min attempts ⌊least / price pricing estimated 1⌋)
      (1 * min attempts ⌊least / price pricing estimated 1⌋) }, ?_, rfl, ?_⟩
  · simp only [reservationPlan, minimumRemaining_output_none unlimited state, minimumRemainingCost_eq, found,
      Result.ok_bind, wanted, initialGrant, priced, exactNumerics_affordableOutput,
      affordableTokens_eq_none positive unpaid, affordableGrant, Result.pure_bind, shrunk, plannedCost,
      pricedOutputTokens, orElse, exactNumerics_estimateCost, reservedOutput]
    rfl
  · simp only [price_mul]
    have fewer : ((min attempts ⌊least / price pricing estimated 1⌋ : Int) : Rat) ≤ least / price pricing estimated 1 :=
      le_trans (by exact_mod_cast min_le_right _ _) (Int.floor_le _)
    rw [le_div_iff₀ costly] at fewer
    exact fewer

theorem reservationPlan_pays (priced : budget.modelPricing = some pricing)
    (positive : 0 < pricing.outputPerMillionTokens) (known : 1 ≤ estimated) (admits : Admits budget state estimated)
    {configuredOutput configured : Option Int}
    (planned : reservationPlan (exactNumerics elapsedMs text) budget state estimated configuredOutput configured =
      .ok plan) {limit : Int} (granted : plan.effectiveOutput = some limit) :
    Pays pricing plan.attempts estimated limit plan.reservedCost := by
  obtain ⟨fitting, fits, attempts, -⟩ := reservationPlan_grant known admits planned
  simp only [reservationPlan, bind_eq_ok, pure_eq_ok] at planned
  obtain ⟨remainingCost, -, initial, -, grant, -, reservedCost, costed, rfl⟩ := planned
  simp only at granted attempts ⊢
  have some_ : 0 ≤ grant.attempts := by
    have := fits.positive
    omega
  simp only [plannedCost, priced, exactNumerics_estimateCost, Except.ok.injEq] at costed
  subst costed
  cases output : minimumRemaining budget state .outputTokens with
  | some remaining =>
    simp only [pricedOutputTokens, reservedOutput, granted, Option.getD_some]
    unfold Pays
    rw [price_mul]
  | none =>
    simp only [pricedOutputTokens, granted]
    exact pays_priced positive some_

theorem reservationPlan_limit {configuredOutput configured : Option Int}
    (planned : reservationPlan (exactNumerics elapsedMs text) budget state estimated configuredOutput configured =
      .ok plan) (unlimited : plan.effectiveOutput = none) (priced : budget.modelPricing = some pricing)
    (found : leastSpendable budget state = some least) :
    (∀ scope, (budget.resolved.get scope).maxOutputTokens = none) ∧ configuredOutput = none ∧
      affordableTokens least pricing (attemptLimit configured (minimumRemaining budget state .modelInvocations)
        (minimumRemaining budget state .inputTokens) none estimated) estimated = none := by
  simp only [reservationPlan, bind_eq_ok, pure_eq_ok, minimumRemainingCost_eq, found, Except.ok.injEq,
    exists_eq_left'] at planned
  obtain ⟨initial, granted, grant, shrunk, _, -, rfl⟩ := planned
  simp only at unlimited
  simp only [affordableGrant, priced] at shrunk
  have same : initial.perAttemptOutput = none := by
    rcases shrink_output shrunk with same | ⟨_, _, -, capped⟩
    · rw [← same, unlimited]
    · rw [unlimited] at capped
      cases capped
  cases output : minimumRemaining budget state .outputTokens with
  | some remaining =>
    simp only [output, initialGrant, Except.ok.injEq] at granted
    subst granted
    cases same
  | none =>
    refine ⟨fun scope => minimumRemaining_none output scope, ?_⟩
    cases configuredOutput with
    | some configured =>
      simp only [output, initialGrant, Except.ok.injEq] at granted
      subst granted
      cases same
    | none =>
      simp only [output, initialGrant, priced, exactNumerics_affordableOutput, Result.ok_bind, pure_eq_ok] at granted
      subst granted
      exact ⟨rfl, same⟩

/-- The reservation of an admitting preflight covers its grant unless the output is uncapped. -/
theorem grantCovered_iff (priced : budget.modelPricing = some pricing) (positive : 0 < pricing.outputPerMillionTokens)
    (limited : ∃ scope limit, (budget.resolved.get scope).maxCostUsd = some limit) :
    GrantCovered elapsedMs text budget pricing arguments started ledger ↔
      ¬Uncapped elapsedMs text budget pricing arguments started ledger := by
  obtain ⟨least, found⟩ : ∃ least, leastSpendable budget
      (loadState (exactNumerics elapsedMs text) budget ledger started) = some least := by
    cases found : leastSpendable budget (loadState (exactNumerics elapsedMs text) budget ledger started) with
    | some least => exact ⟨least, rfl⟩
    | none =>
      obtain ⟨scope, limit, limited⟩ := limited
      rw [leastSpendable_none found scope] at limited
      cases limited
  obtain ⟨bound, scope, limit, limitedHere, leastEq⟩ := leastSpendable_spec found
  constructor
  · intro covered uncapped
    obtain ⟨poor, poorLimit, poorLimited, unpaid⟩ := uncapped.unpaid
    have admits := admits_of_evaluate uncapped.passed
    have paid := price_le_spendable priced uncapped.passed limitedHere
    rw [← leastEq] at paid
    have invoked : ∀ r ∈ minimumRemaining budget (loadState (exactNumerics elapsedMs text) budget ledger started)
        .modelInvocations, 1 ≤ r := fun r member => required_le_minimumRemaining admits member
    obtain ⟨plan, planned, ungranted, cheap⟩ := reservationPlan_unlimited elapsedMs text priced uncapped.unlimited
      found rfl (attemptLimit_pos invoked) paid ((bound poor poorLimit poorLimited).trans_lt unpaid)
    have fits : costFits (exactNumerics elapsedMs text) (some least) plan.reservedCost = true := by
      simp [costFits, cheap]
    obtain ⟨after, decided⟩ : ∃ after, preflightMutation (exactNumerics elapsedMs text) budget arguments started ledger =
        .ok (after, .admitted plan) := by
      simp only [preflightMutation, uncapped.passed, uncapped.unconfigured, planned, minimumRemainingCost_eq, found,
        Result.ok_bind, fits, ↓reduceIte, pure_eq_ok]
      exact ⟨_, rfl⟩
    obtain ⟨limit, granted, -⟩ := covered after plan decided
    rw [ungranted] at granted
    cases granted
  · intro capped after plan decided
    simp only [preflightMutation, bind_eq_ok] at decided
    obtain ⟨decision, evaluated, decided⟩ := decided
    cases decision with
    | some decision => cases decided
    | none =>
      simp only [bind_eq_ok] at decided
      obtain ⟨admitted, planned, remainingCost, -, decided⟩ := decided
      split at decided
      · cases decided
        have admits := admits_of_evaluate evaluated
        cases granted : plan.effectiveOutput with
        | some limit =>
          exact ⟨limit, rfl, reservationPlan_pays priced positive (le_max_left _ _) admits planned granted⟩
        | none =>
          obtain ⟨unlimited, unconfigured, unaffordable⟩ := reservationPlan_limit planned granted priced found
          refine absurd ⟨evaluated, unlimited, unconfigured, scope, limit, limitedHere, ?_⟩ capped
          rw [← leastEq]
          by_contra paid
          have invoked : ∀ r ∈ minimumRemaining budget
              (loadState (exactNumerics elapsedMs text) budget ledger started) .modelInvocations, 1 ≤ r :=
            fun r member => required_le_minimumRemaining admits member
          obtain ⟨tokens, afforded⟩ := affordableTokens_eq_some (attemptLimit_pos invoked) positive (not_lt.mp paid)
          rw [afforded] at unaffordable
          cases unaffordable
      · simp only [bind_eq_ok] at decided
        obtain ⟨_, -, decided⟩ := decided
        cases decided

end Coverage

section Example

def unitPricing : Pricing Rat := { inputPerMillionTokens := 1, outputPerMillionTokens := 1 }

/-- The workflow may spend this much; an attempt with one output token costs two millionths. -/
def costBudget (limit : Rat) : TaskBudget Rat where
  taskKey := "Task|review|1.0.0"
  agentKey := "Agent|reviewer|1.0.0"
  resolved :=
    let unlimited : Limits Rat := ⟨none, none, none, none, none⟩
    ⟨{ unlimited with maxCostUsd := some { value := limit, scope := "Execution", resourceRef := none } }, unlimited,
      unlimited⟩
  modelPricing := some unitPricing

def threeAttempts : PreflightArguments := ⟨1, none, some 3, "2026-01-01T00:00:00Z"⟩

def startedAt : StartTimes := ⟨"2026-01-01T00:00:00Z", "2026-01-01T00:00:00Z"⟩

def noTime (_ _ : String) : Int := 0

def noText (_ : Amount Rat) : String := ""

theorem grantCovered_iff_five : GrantCovered noTime noText (costBudget (5 / 1000000)) unitPricing threeAttempts startedAt {} ↔
    ¬Uncapped noTime noText (costBudget (5 / 1000000)) unitPricing threeAttempts startedAt {} :=
  grantCovered_iff rfl (by decide) ⟨.workflow, _, rfl⟩

def Admission.grant {κ : Type} : Admission κ → Option (Int × Option Int × κ)
  | .admitted plan => some (plan.attempts, plan.effectiveOutput, plan.reservedCost)
  | .blocked _ => none

/-- Five millionths pay for two of the three attempts, which are admitted without an output limit. -/
theorem uncapped_admitted : ¬∀ (limit : Rat) (arguments : PreflightArguments) (ledger : Ledger Rat),
    GrantCovered noTime noText (costBudget limit) unitPricing arguments startedAt ledger := by
  intro covered
  have granted : ((preflightMutation (exactNumerics noTime noText) (costBudget (5 / 1000000)) threeAttempts startedAt
      {}).map fun outcome => outcome.2.grant) = .ok (some (2, none, 4 / 1000000)) := by
    decide +kernel
  cases decided : preflightMutation (exactNumerics noTime noText) (costBudget (5 / 1000000)) threeAttempts startedAt {} with
  | error error =>
    rw [decided] at granted
    cases granted
  | ok outcome =>
    obtain ⟨after, admission⟩ := outcome
    rw [decided] at granted
    cases admission with
    | blocked decision => cases granted
    | admitted plan =>
      obtain ⟨limit, limited, -⟩ := covered _ threeAttempts {} after plan decided
      simp only [Except.map, Admission.grant, limited, Except.ok.injEq, Option.some.injEq, Prod.mk.injEq, reduceCtorEq,
        false_and, and_false] at granted

end Example

end Aep.ExecutionBudgets
