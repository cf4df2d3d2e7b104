import Aep.ExecutionBudgets.TaskBudget
import Aep.Library.Result

namespace Aep.ExecutionBudgets

open Result

variable {κ : Type}

def Plan.amount (plan : Plan κ) : Counter → Int
  | .modelInvocations => plan.attempts
  | .inputTokens => plan.reservedInput
  | .outputTokens => plan.reservedOutput

def Admits (budget : TaskBudget κ) (state : Scoped (Consumption κ)) (estimatedInputTokens : Int) : Prop :=
  ∀ scope counter limit, (budget.resolved.get scope).counter counter = some limit →
    (state.get scope).committed counter + requiredOf estimatedInputTokens counter ≤ limit.value

section Evaluation

variable {numerics : Numerics κ}

theorem checkCounters_none {scope : Scope} {limits : Limits κ} {record : Consumption κ} {estimatedInputTokens : Int}
    {timestamp : String} {counters : List Counter}
    (checked : checkCounters numerics scope limits record estimatedInputTokens timestamp counters = .ok none)
    {counter : Counter} (member : counter ∈ counters) {limit : CountLimit}
    (limited : limits.counter counter = some limit) :
    record.committed counter + requiredOf estimatedInputTokens counter ≤ limit.value := by
  induction counters with
  | nil => cases member
  | cons head rest ih =>
    unfold checkCounters at checked
    rcases List.mem_cons.mp member with rfl | later
    · rw [limited] at checked
      simp only at checked
      split at checked
      · simp at checked
      · omega
    · split at checked
      · exact ih checked later
      · split at checked
        · simp at checked
        · exact ih checked later

theorem checkScope_none {scope : Scope} {limits : Limits κ} {record : Consumption κ} {estimatedInputTokens : Int}
    {timestamp : String} {pricing : Option (Pricing κ)}
    (checked : checkScope numerics scope limits record estimatedInputTokens timestamp pricing = .ok none) :
    checkCounters numerics scope limits record estimatedInputTokens timestamp Counter.all = .ok none := by
  unfold checkScope at checked
  split at checked
  · cases checked
  · simp only [bind_eq_ok] at checked
    obtain ⟨counted, ran, checked⟩ := checked
    cases counted with
    | some decision => simp at checked
    | none => exact ran

theorem evaluate_none {budget : TaskBudget κ} {state : Scoped (Consumption κ)} {estimatedInputTokens : Int}
    {timestamp : String} {scopes : List Scope}
    (evaluated : evaluate numerics budget state estimatedInputTokens timestamp scopes = .ok none)
    {scope : Scope} (member : scope ∈ scopes) :
    checkScope numerics scope (budget.resolved.get scope) (state.get scope) estimatedInputTokens timestamp
      budget.modelPricing = .ok none := by
  induction scopes with
  | nil => cases member
  | cons head rest ih =>
    simp only [evaluate, bind_eq_ok] at evaluated
    obtain ⟨checked, ran, evaluated⟩ := evaluated
    cases checked with
    | some decision => simp at evaluated
    | none =>
      rcases List.mem_cons.mp member with rfl | later
      · exact ran
      · exact ih evaluated later

theorem admits_of_evaluate {budget : TaskBudget κ} {state : Scoped (Consumption κ)} {estimatedInputTokens : Int}
    {timestamp : String}
    (evaluated : evaluate numerics budget state estimatedInputTokens timestamp Scope.all = .ok none) :
    Admits budget state estimatedInputTokens := by
  intro scope counter limit limited
  have counted := checkScope_none (evaluate_none evaluated (Scope.mem_all scope))
  exact checkCounters_none counted (Counter.mem_all counter) limited

end Evaluation

section Remaining

section Least

variable {α : Type} [LinearOrder α]

theorem minimumOf_le_left {left right : Option α} {least value : α} (found : minimumOf min left right = some least)
    (here : left = some value) : least ≤ value := by
  subst here
  cases right with
  | none =>
    cases found
    exact le_rfl
  | some other =>
    cases found
    exact min_le_left _ _

theorem minimumOf_le_right {left right : Option α} {least value : α}
    (found : minimumOf min left right = some least) (here : right = some value) : least ≤ value := by
  subst here
  cases left with
  | none =>
    cases found
    exact le_rfl
  | some other =>
    cases found
    exact min_le_right _ _

theorem minimumOf_none {left right : Option α} (found : minimumOf min left right = none) :
    left = none ∧ right = none := by
  cases left with
  | none => exact ⟨rfl, found⟩
  | some value => cases right <;> cases found

theorem minimumOf_cases {left right : Option α} {least : α} (found : minimumOf min left right = some least) :
    left = some least ∨ right = some least := by
  cases left with
  | none => exact .inr found
  | some value =>
    cases right with
    | none => exact .inl found
    | some other =>
      cases found
      rcases le_total value other with less | less
      · exact .inl (by rw [min_eq_left less])
      · exact .inr (by rw [min_eq_right less])

end Least

variable {budget : TaskBudget κ} {state : Scoped (Consumption κ)} {counter : Counter}

theorem minimumRemaining_le {least : Int} (found : minimumRemaining budget state counter = some least) {scope : Scope}
    {limit : CountLimit} (limited : (budget.resolved.get scope).counter counter = some limit) :
    least + (state.get scope).committed counter ≤ limit.value := by
  have left : remainingIn (budget.resolved.get scope) (state.get scope) counter =
      some (limit.value - (state.get scope).committed counter) := by
    simp [remainingIn, limited]
  obtain ⟨inner, innerEq⟩ : ∃ inner, minimumOf min (remainingIn budget.resolved.workflow state.workflow counter)
      (remainingIn budget.resolved.task state.task counter) = inner := ⟨_, rfl⟩
  have outer : minimumOf min inner (remainingIn budget.resolved.agent state.agent counter) = some least := by
    rw [← innerEq]
    exact found
  have bound : least ≤ limit.value - (state.get scope).committed counter := by
    cases scope with
    | agent => exact minimumOf_le_right outer left
    | workflow =>
      cases inner with
      | none => cases (minimumOf_none innerEq).1.symm.trans left
      | some middle => exact (minimumOf_le_left outer rfl).trans (minimumOf_le_left innerEq left)
    | task =>
      cases inner with
      | none => cases (minimumOf_none innerEq).2.symm.trans left
      | some middle => exact (minimumOf_le_left outer rfl).trans (minimumOf_le_right innerEq left)
  omega

theorem minimumRemaining_none (found : minimumRemaining budget state counter = none) (scope : Scope) :
    (budget.resolved.get scope).counter counter = none := by
  obtain ⟨inner, agent⟩ := minimumOf_none found
  obtain ⟨workflow, task⟩ := minimumOf_none inner
  cases scope
  · exact Option.map_eq_none_iff.mp workflow
  · exact Option.map_eq_none_iff.mp task
  · exact Option.map_eq_none_iff.mp agent

theorem required_le_minimumRemaining {estimatedInputTokens least : Int}
    (admits : Admits budget state estimatedInputTokens) (found : minimumRemaining budget state counter = some least) :
    requiredOf estimatedInputTokens counter ≤ least := by
  have bound (scope : Scope)
      (here : remainingIn (budget.resolved.get scope) (state.get scope) counter = some least) :
      requiredOf estimatedInputTokens counter ≤ least := by
    unfold remainingIn at here
    obtain ⟨limit, limited, rfl⟩ := Option.map_eq_some_iff.mp here
    have room := admits scope counter limit limited
    omega
  rcases minimumOf_cases found with inner | agent
  · rcases minimumOf_cases inner with workflow | task
    · exact bound .workflow workflow
    · exact bound .task task
  · exact bound .agent agent

end Remaining

section Grant

/-- A grant that fits what is left of the invocations, the input tokens and the output tokens. -/
structure Grant.Fits (grant : Grant) (invocations input output : Option Int) (estimatedInputTokens : Int) :
    Prop where
  positive : 1 ≤ grant.attempts
  invocations : ∀ remaining ∈ invocations, grant.attempts ≤ remaining
  input : ∀ remaining ∈ input, estimatedInputTokens * grant.attempts ≤ remaining
  output : ∀ remaining ∈ output, ∃ perAttempt, grant.perAttemptOutput = some perAttempt ∧ 1 ≤ perAttempt ∧
    perAttempt * grant.attempts ≤ remaining

theorem cappedOutput_pos (configured : Option Int) (remaining attempts : Int) :
    1 ≤ cappedOutput configured remaining attempts := le_max_left _ _

theorem cappedOutput_mul_le (configured : Option Int) {remaining attempts : Int} (positive : 1 ≤ attempts)
    (enough : attempts ≤ remaining) : cappedOutput configured remaining attempts * attempts ≤ remaining := by
  have share : 1 ≤ remaining / attempts := (Int.le_ediv_iff_mul_le (by omega)).mpr (by omega)
  have capped : cappedOutput configured remaining attempts ≤ remaining / attempts := by
    simp only [cappedOutput]
    omega
  calc cappedOutput configured remaining attempts * attempts ≤ remaining / attempts * attempts :=
        Int.mul_le_mul_of_nonneg_right capped (by omega)
    _ ≤ remaining := Int.ediv_mul_le remaining (by omega)

theorem cap_le (bound : Option Int) (value : Int) : cap bound value ≤ value := by
  cases bound with
  | none => exact le_rfl
  | some bound => exact min_le_left _ _

theorem cap_le_bound {bound : Option Int} {limit : Int} (present : bound = some limit) (value : Int) :
    cap bound value ≤ limit := by
  subst present
  exact min_le_right _ _

theorem one_le_cap {bound : Option Int} {value : Int} (positive : 1 ≤ value) (bounded : ∀ limit ∈ bound, 1 ≤ limit) :
    1 ≤ cap bound value := by
  cases bound with
  | none => exact positive
  | some limit => exact le_min positive (bounded limit rfl)

section

variable {configuredProviderAttempts invocations input output : Option Int} {estimatedInputTokens : Int}

theorem attemptLimit_pos (invoked : ∀ r ∈ invocations, 1 ≤ r) :
    1 ≤ attemptLimit configuredProviderAttempts invocations input output estimatedInputTokens := by
  unfold attemptLimit
  refine one_le_cap (one_le_cap (one_le_cap ?_ invoked) ?_) ?_
  · cases configuredProviderAttempts with
    | some attempts => exact le_max_left _ _
    | none =>
      cases invocations with
      | none => exact le_rfl
      | some allowance => exact invoked allowance rfl
  · rintro limit found
    obtain ⟨remaining, -, rfl⟩ := Option.map_eq_some_iff.mp found
    exact le_max_left _ _
  · rintro limit found
    obtain ⟨remaining, -, rfl⟩ := Option.map_eq_some_iff.mp found
    exact le_max_left _ _

theorem attemptLimit_le_invocations {remaining : Int} (found : invocations = some remaining) :
    attemptLimit configuredProviderAttempts invocations input output estimatedInputTokens ≤ remaining :=
  (cap_le _ _).trans ((cap_le _ _).trans (cap_le_bound found _))

theorem mul_attemptLimit_le_input (estimated : 1 ≤ estimatedInputTokens) {remaining : Int}
    (found : input = some remaining) (enough : estimatedInputTokens ≤ remaining) :
    estimatedInputTokens * attemptLimit configuredProviderAttempts invocations input output estimatedInputTokens ≤
      remaining := by
  have share : 1 ≤ remaining / estimatedInputTokens := (Int.le_ediv_iff_mul_le (by omega)).mpr (by omega)
  have bound : attemptLimit configuredProviderAttempts invocations input output estimatedInputTokens ≤
      max 1 (remaining / estimatedInputTokens) := by
    refine (cap_le _ _).trans (cap_le_bound ?_ _)
    simp [found]
  rw [max_eq_right share] at bound
  calc estimatedInputTokens * _ ≤ estimatedInputTokens * (remaining / estimatedInputTokens) :=
        Int.mul_le_mul_of_nonneg_left bound (by omega)
    _ ≤ remaining := Int.mul_ediv_self_le (by omega)

theorem attemptLimit_le_output {remaining : Int} (found : output = some remaining) (enough : 1 ≤ remaining) :
    attemptLimit configuredProviderAttempts invocations input output estimatedInputTokens ≤ remaining := by
  have present : (output.map fun remaining => max 1 remaining) = some (max 1 remaining) := by simp [found]
  exact (cap_le_bound present _).trans (max_eq_right enough).le

end

variable {numerics : Numerics κ}

theorem initialGrant_fits {budget : TaskBudget κ} {attempts estimatedInputTokens : Int}
    {configured invocations input output : Option Int} {remainingCost : Option κ} {grant : Grant}
    (positive : 1 ≤ attempts) (invoked : ∀ r ∈ invocations, attempts ≤ r)
    (fed : ∀ r ∈ input, estimatedInputTokens * attempts ≤ r) (produced : ∀ r ∈ output, attempts ≤ r)
    (granted : initialGrant numerics budget attempts estimatedInputTokens configured output remainingCost = .ok grant) :
    grant.Fits invocations input output estimatedInputTokens := by
  unfold initialGrant at granted
  split at granted
  · cases granted
    refine ⟨positive, invoked, fed, ?_⟩
    rintro _ ⟨⟩
    exact ⟨_, rfl, cappedOutput_pos _ _ _, cappedOutput_mul_le _ positive (produced _ rfl)⟩
  · simp only [bind_eq_ok, pure_eq_ok] at granted
    obtain ⟨perAttempt, -, rfl⟩ := granted
    exact ⟨positive, invoked, fed, by rintro _ ⟨⟩⟩
  · cases granted
    exact ⟨positive, invoked, fed, by rintro _ ⟨⟩⟩

theorem Grant.Fits.fewer {grant : Grant} {configured invocations input output : Option Int}
    {estimatedInputTokens attempts : Int} (fits : grant.Fits invocations input output estimatedInputTokens)
    (estimated : 1 ≤ estimatedInputTokens) (positive : 1 ≤ attempts) (fewer : attempts ≤ grant.attempts) :
    Grant.Fits { attempts, perAttemptOutput := outputShare configured output attempts grant.perAttemptOutput }
      invocations input output estimatedInputTokens := by
  refine ⟨positive, fun r member => fewer.trans (fits.invocations r member), fun r member => ?_, ?_⟩
  · exact (Int.mul_le_mul_of_nonneg_left fewer (by omega)).trans (fits.input r member)
  · rintro remaining rfl
    obtain ⟨perAttempt, -, one, total⟩ := fits.output remaining rfl
    have enough : attempts ≤ remaining := by
      have alone : grant.attempts ≤ perAttempt * grant.attempts := by
        calc grant.attempts = 1 * grant.attempts := (Int.one_mul _).symm
          _ ≤ perAttempt * grant.attempts := Int.mul_le_mul_of_nonneg_right one (by have := fits.positive; omega)
      omega
    exact ⟨_, rfl, cappedOutput_pos _ _ _, cappedOutput_mul_le configured positive enough⟩

theorem shrink_fits {pricing : Pricing κ} {estimatedInputTokens : Int}
    {configured invocations input output : Option Int} {remainingCost : κ} (estimated : 1 ≤ estimatedInputTokens)
    {rounds : Nat} {grant result : Grant} (fits : grant.Fits invocations input output estimatedInputTokens)
    (shrunk : shrink numerics pricing estimatedInputTokens configured output remainingCost rounds grant = .ok result) :
    result.Fits invocations input output estimatedInputTokens := by
  induction rounds generalizing grant with
  | zero =>
    cases shrunk
    exact fits
  | succ rounds ih =>
    simp only [shrink, bind_eq_ok] at shrunk
    obtain ⟨minimumCost, -, shrunk⟩ := shrunk
    split at shrunk
    · cases shrunk
      exact fits
    · simp only [bind_eq_ok] at shrunk
      obtain ⟨maxByCost, -, shrunk⟩ := shrunk
      split at shrunk
      · cases shrunk
        exact fits
      · have positive := fits.positive
        exact ih (fits.fewer estimated (le_max_left 1 maxByCost) (by omega)) shrunk

end Grant

section Plan

variable {numerics : Numerics κ} {budget : TaskBudget κ} {state : Scoped (Consumption κ)}
  {estimatedInputTokens : Int} {configuredOutputTokenLimit configuredProviderAttempts : Option Int} {plan : Plan κ}

theorem reservationPlan_grant (estimated : 1 ≤ estimatedInputTokens) (admits : Admits budget state estimatedInputTokens)
    (planned : reservationPlan numerics budget state estimatedInputTokens configuredOutputTokenLimit
      configuredProviderAttempts = .ok plan) :
    ∃ grant : Grant, grant.Fits (minimumRemaining budget state .modelInvocations)
        (minimumRemaining budget state .inputTokens) (minimumRemaining budget state .outputTokens)
        estimatedInputTokens ∧
      plan.attempts = grant.attempts ∧ plan.reservedInput = estimatedInputTokens * grant.attempts ∧
      plan.reservedOutput = reservedOutput (minimumRemaining budget state .outputTokens) grant := by
  have invoked : ∀ r ∈ minimumRemaining budget state .modelInvocations, 1 ≤ r :=
    fun r found => required_le_minimumRemaining admits found
  have fed : ∀ r ∈ minimumRemaining budget state .inputTokens, estimatedInputTokens ≤ r :=
    fun r found => required_le_minimumRemaining admits found
  have produced : ∀ r ∈ minimumRemaining budget state .outputTokens, 1 ≤ r :=
    fun r found => required_le_minimumRemaining admits found
  simp only [reservationPlan, bind_eq_ok, pure_eq_ok] at planned
  obtain ⟨remainingCost, -, initial, granted, grant, shrunk, reservedCost, -, rfl⟩ := planned
  have fits := initialGrant_fits (attemptLimit_pos invoked) (fun r found => attemptLimit_le_invocations found)
    (fun r found => mul_attemptLimit_le_input estimated found (fed r found))
    (fun r found => attemptLimit_le_output found (produced r found)) granted
  refine ⟨grant, ?_, rfl, rfl, rfl⟩
  unfold affordableGrant at shrunk
  split at shrunk
  · exact shrink_fits estimated fits shrunk
  · cases shrunk
    exact fits
  · cases shrunk
    exact fits

theorem plan_nonneg (estimated : 1 ≤ estimatedInputTokens) (admits : Admits budget state estimatedInputTokens)
    (planned : reservationPlan numerics budget state estimatedInputTokens configuredOutputTokenLimit
      configuredProviderAttempts = .ok plan) (counter : Counter) : 0 ≤ plan.amount counter := by
  obtain ⟨grant, fits, attempts, input, output⟩ := reservationPlan_grant estimated admits planned
  have positive := fits.positive
  cases counter with
  | modelInvocations =>
    change 0 ≤ plan.attempts
    omega
  | inputTokens =>
    change 0 ≤ plan.reservedInput
    rw [input]
    exact Int.mul_nonneg (by omega) (by omega)
  | outputTokens =>
    change 0 ≤ plan.reservedOutput
    rw [output]
    cases found : minimumRemaining budget state .outputTokens with
    | none => exact le_rfl
    | some remaining =>
      obtain ⟨perAttempt, produced, one, -⟩ := fits.output remaining found
      simp only [reservedOutput, produced, Option.getD_some]
      exact Int.mul_nonneg (by omega) (by omega)

theorem plan_within_limits (estimated : 1 ≤ estimatedInputTokens) (admits : Admits budget state estimatedInputTokens)
    (planned : reservationPlan numerics budget state estimatedInputTokens configuredOutputTokenLimit
      configuredProviderAttempts = .ok plan) {scope : Scope} {counter : Counter} {limit : CountLimit}
    (limited : (budget.resolved.get scope).counter counter = some limit) :
    (state.get scope).committed counter + plan.amount counter ≤ limit.value := by
  obtain ⟨grant, fits, attempts, input, output⟩ := reservationPlan_grant estimated admits planned
  obtain ⟨least, found⟩ : ∃ least, minimumRemaining budget state counter = some least := by
    cases found : minimumRemaining budget state counter with
    | some least => exact ⟨least, rfl⟩
    | none =>
      rw [minimumRemaining_none found scope] at limited
      cases limited
  have bound := minimumRemaining_le found limited
  suffices amount : plan.amount counter ≤ least by omega
  cases counter with
  | modelInvocations => exact attempts.trans_le (fits.invocations least found)
  | inputTokens => exact input.trans_le (fits.input least found)
  | outputTokens =>
    obtain ⟨perAttempt, produced, -, total⟩ := fits.output least found
    have reserved : plan.reservedOutput = perAttempt * grant.attempts := by
      rw [output, found]
      simp [reservedOutput, produced]
    exact reserved.trans_le total

end Plan

end Aep.ExecutionBudgets
