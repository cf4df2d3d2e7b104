import Aep.Errors

namespace Aep.ExecutionBudgets

inductive Scope where
  | workflow
  | task
  | agent
  deriving DecidableEq

namespace Scope

def name : Scope → String
  | workflow => "workflow"
  | task => "task"
  | agent => "agent"

def all : List Scope := [.workflow, .task, .agent]

@[simp] theorem mem_all (scope : Scope) : scope ∈ all := by cases scope <;> decide

end Scope

structure Scoped (α : Type) where
  workflow : α
  task : α
  agent : α

namespace Scoped

variable {α β : Type}

def get (values : Scoped α) : Scope → α
  | .workflow => values.workflow
  | .task => values.task
  | .agent => values.agent

def map (change : Scope → α → β) (values : Scoped α) : Scoped β where
  workflow := change .workflow values.workflow
  task := change .task values.task
  agent := change .agent values.agent

@[simp] theorem get_map (change : Scope → α → β) (values : Scoped α) (scope : Scope) :
    (values.map change).get scope = change scope (values.get scope) := by
  cases scope <;> rfl

def mapM (change : Scope → α → Except PyError β) (values : Scoped α) : Except PyError (Scoped β) := do
  let workflow ← change .workflow values.workflow
  let task ← change .task values.task
  let agent ← change .agent values.agent
  return { workflow, task, agent }

theorem mapM_get {change : Scope → α → Except PyError β} {values : Scoped α} {result : Scoped β}
    (changed : values.mapM change = .ok result) (scope : Scope) :
    change scope (values.get scope) = .ok (result.get scope) := by
  unfold mapM at changed
  cases workflow : change .workflow values.workflow with
  | error error => rw [workflow] at changed; cases changed
  | ok first =>
    cases task : change .task values.task with
    | error error => rw [workflow, task] at changed; cases changed
    | ok second =>
      cases agent : change .agent values.agent with
      | error error => rw [workflow, task, agent] at changed; cases changed
      | ok third =>
        rw [workflow, task, agent] at changed
        cases changed
        cases scope
        · exact workflow
        · exact task
        · exact agent

end Scoped

structure Reference where
  kind : String
  name : String
  version : String
  deriving DecidableEq

structure BudgetLimit (ν : Type) where
  value : ν
  scope : String
  resourceRef : Option Reference

structure CountLimit extends BudgetLimit Int where
  positive : 0 < value

structure Limits (κ : Type) where
  maxModelInvocations : Option CountLimit
  maxInputTokens : Option CountLimit
  maxOutputTokens : Option CountLimit
  maxElapsedMs : Option CountLimit
  maxCostUsd : Option (BudgetLimit κ)

structure Pricing (κ : Type) where
  inputPerMillionTokens : κ
  outputPerMillionTokens : κ

/-- An integer counter or an amount of money, as a decision reports it. -/
inductive Amount (κ : Type) where
  | count (value : Int)
  | cost (value : κ)

structure Decision (κ : Type) where
  reason : String
  dimension : String
  scope : String
  internalScope : String
  resourceRef : Option Reference
  limit : Amount κ
  consumed : Amount κ
  reserved : Amount κ
  remaining : Amount κ
  required : Amount κ
  sticky : Bool
  message : String
  decidedAt : String

inductive LastDecision (κ : Type) where
  | blocked (decision : Decision κ)
  | admitted (effectiveOutputTokenLimit : Option Int) (estimatedInputTokens : Int) (decidedAt : String)
  | charged (decidedAt : String)

structure Consumption (κ : Type) where
  modelInvocations : Int := 0
  inputTokens : Int := 0
  outputTokens : Int := 0
  reservedModelInvocations : Int := 0
  reservedInputTokens : Int := 0
  reservedOutputTokens : Int := 0
  elapsedMs : Int := 0
  costUsd : κ
  reservedCostUsd : κ
  costStatus : String := "UNAVAILABLE"
  costStatusCounts : Dict String Int := []
  startedAt : String
  updatedAt : String
  lastProvider : String
  lastModel : String
  overrun : Bool := false
  blockedReason : Option String := none
  blockedDecision : Option (Decision κ) := none
  lastDecision : Option (LastDecision κ) := none

structure Ledger (κ : Type) where
  workflow : Option (Consumption κ) := none
  tasks : Dict String (Consumption κ) := []
  agents : Dict String (Consumption κ) := []
  lastDecision : Option (Decision κ) := none

/-- The three integer counters that a budget limits. -/
inductive Counter where
  | modelInvocations
  | inputTokens
  | outputTokens
  deriving DecidableEq

namespace Counter

def all : List Counter := [.modelInvocations, .inputTokens, .outputTokens]

@[simp] theorem mem_all (counter : Counter) : counter ∈ all := by cases counter <;> decide

def field : Counter → String
  | modelInvocations => "maxModelInvocations"
  | inputTokens => "maxInputTokens"
  | outputTokens => "maxOutputTokens"

end Counter

namespace Limits

variable {κ : Type}

def counter (limits : Limits κ) : Counter → Option CountLimit
  | .modelInvocations => limits.maxModelInvocations
  | .inputTokens => limits.maxInputTokens
  | .outputTokens => limits.maxOutputTokens

end Limits

namespace Consumption

variable {κ : Type}

def consumed (record : Consumption κ) : Counter → Int
  | .modelInvocations => record.modelInvocations
  | .inputTokens => record.inputTokens
  | .outputTokens => record.outputTokens

def reserved (record : Consumption κ) : Counter → Int
  | .modelInvocations => record.reservedModelInvocations
  | .inputTokens => record.reservedInputTokens
  | .outputTokens => record.reservedOutputTokens

def committed (record : Consumption κ) (counter : Counter) : Int := record.consumed counter + record.reserved counter

end Consumption

/-- What the source computes on floats and decimals, on clock texts and for messages. The results below hold
    whatever these functions return. -/
structure Numerics (κ : Type) where
  zero : κ
  add : κ → κ → κ
  subtract : κ → κ → κ
  /-- `max(0.0, held - given)` -/
  giveBack : κ → κ → κ
  /-- `cost / attempts` -/
  share : κ → Int → κ
  /-- `round(share * attempts, 12)` -/
  retain : κ → Int → κ
  minimum : κ → κ → κ
  normalizedCost : κ → Except PyError κ
  costTotal : κ → κ → Except PyError κ
  costExceeds : κ → κ → Bool
  costFloorDiv : κ → κ → Except PyError Int
  estimateCost : Pricing κ → Int → Int → Except PyError κ
  isPositive : κ → Bool
  isNonNegativeFinite : κ → Bool
  /-- The output tokens of one attempt that the remaining cost pays for: remaining, pricing, attempts, input. -/
  affordableOutput : κ → Pricing κ → Int → Int → Except PyError (Option Int)
  /-- `round(float(limit) - float(consumed), 12)` -/
  countDifference : Int → Int → Except PyError κ
  elapsedMs : String → String → Int
  text : Amount κ → String

end Aep.ExecutionBudgets
