import Aep.Errors
import Aep.ExecutionBudgets.Ledger
import Aep.Library.JsonSchema
import Aep.Library.Result
import Mathlib.Algebra.Order.Ring.Rat
import Mathlib.Data.List.Dedup
import Mathlib.Order.WithBot
import Mathlib.Tactic.Cases

/-! The budgets that a Workflow, a Task, an Agent and an execution declare, and what they come to together. -/
namespace Aep.ExecutionBudgets

open Result

inductive BudgetField where
  | maxModelInvocations
  | maxInputTokens
  | maxOutputTokens
  | maxElapsedMs
  | maxCostUsd
  deriving DecidableEq

def BudgetField.name : BudgetField → String
  | .maxModelInvocations => "maxModelInvocations"
  | .maxInputTokens => "maxInputTokens"
  | .maxOutputTokens => "maxOutputTokens"
  | .maxElapsedMs => "maxElapsedMs"
  | .maxCostUsd => "maxCostUsd"

def BUDGET_FIELDS : List BudgetField :=
  [.maxModelInvocations, .maxInputTokens, .maxOutputTokens, .maxElapsedMs, .maxCostUsd]

theorem mem_budgetFields (field : BudgetField) : field ∈ BUDGET_FIELDS := by
  cases field <;> decide

def scopeSpecificity : String → Nat
  | "Execution" => 0
  | "Task" => 1
  | "Agent" => 2
  | "Workflow" => 3
  | _ => 99

def executionBudgetError {α : Type} (message : String) : Except PyError α := .error { errorClass := .executionBudgetError, message }

/-- `float` of an integer from here on is too large. -/
def floatOverflow : Int := 2 ^ 1024 - 2 ^ 970

/-- `isfinite` of a number. A double is a finite one here. -/
def isFinite : Json → Except PyError Bool
  | .int value =>
    if floatOverflow ≤ value ∨ value ≤ -floatOverflow then
      .error { errorClass := .overflowError, message := "int too large to convert to float" }
    else .ok true
  | _ => .ok true

namespace Reference

def asRecord (ref : Reference) : Record := [("kind", .str ref.kind), ("name", .str ref.name), ("version", .str ref.version)]

def toJson (ref : Reference) : Json := .obj ref.asRecord

def before (left right : Reference) : Bool :=
  left.kind < right.kind ||
    left.kind = right.kind && (left.name < right.name || left.name = right.name && decide (left.version < right.version))

end Reference

/-- `_reference_record`. -/
def referenceRecord (value : Option Record) : Option Reference :=
  value.bind fun fields =>
    match fields.field "kind", fields.field "name", fields.field "version" with
    | .str kind, .str name, .str version =>
      if kind ≠ "" ∧ name ≠ "" ∧ version ≠ "" then some ⟨kind, name, version⟩ else none
    | _, _, _ => none

namespace BudgetLimit

def asRecord (limit : BudgetLimit Json) : Record :=
  [("value", limit.value), ("scope", .str limit.scope)] ++ (limit.resourceRef.map fun ref => ("resourceRef", ref.toJson)).toList

def amount (limit : BudgetLimit Json) : Rat := (JsonSchema.number? limit.value).getD 0

def refText (limit : BudgetLimit Json) : String := ((limit.resourceRef.map Reference.toJson).getD .null).text

/-- Whether the key by which `min` compares two limits is smaller. -/
def before (left right : BudgetLimit Json) : Bool :=
  left.amount < right.amount ||
    left.amount = right.amount &&
      (scopeSpecificity left.scope < scopeSpecificity right.scope ||
        scopeSpecificity left.scope = scopeSpecificity right.scope && decide (left.refText < right.refText))

def least : List (BudgetLimit Json) → Option (BudgetLimit Json)
  | [] => none
  | first :: rest => some (rest.foldl (fun best limit => if limit.before best then limit else best) first)

end BudgetLimit

abbrev ScopeLimits := Dict BudgetField (Option (BudgetLimit Json))

def ScopeLimits.limit? (limits : ScopeLimits) (field : BudgetField) : Option (BudgetLimit Json) := (Dict.get? limits field).join

section Declared

def positiveInt (value : Json) (field : String) : Except PyError (Option Int) :=
  match value with
  | .null => .ok none
  | .int number =>
    if number < 1 then executionBudgetError (field ++ " must be a positive integer") else .ok (some number)
  | _ => executionBudgetError (field ++ " must be a positive integer")

def positiveCost (value : Json) (field : String) : Except PyError Unit :=
  match JsonSchema.number? value with
  | none => executionBudgetError (field ++ " must be a positive finite number")
  | some number => do
    let finite ← isFinite value
    raiseIf (finite = false ∨ number ≤ 0)
      { errorClass := .executionBudgetError, message := field ++ " must be a positive finite number" }

def checkLimit (field : BudgetField) (value : Json) : Except PyError Unit :=
  if field = .maxCostUsd then positiveCost value field.name else (fun _ => ()) <$> positiveInt value field.name

def declaredLimit (fields : Record) (scope : String) (ref : Option Reference) (field : BudgetField) :
    Except PyError (Option (BudgetLimit Json)) :=
  let value := fields.field field.name
  if value = .null then .ok none
  else do
    checkLimit field value
    pure (some ⟨value, scope, ref⟩)

/-- `_declared_limits`. -/
def declaredLimits (declarations : Json) (scope : String) (ref : Option Record) : Except PyError ScopeLimits :=
  match declarations with
  | .null => .ok (BUDGET_FIELDS.map fun field => (field, none))
  | .obj fields => do
    raiseIf (∃ key ∈ Dict.keys fields, key ∉ BUDGET_FIELDS.map BudgetField.name)
      { errorClass := .executionBudgetError, message := "execution budget contains unsupported fields" }
    BUDGET_FIELDS.mapM fun field => do
      let limit ← declaredLimit fields scope (referenceRecord ref) field
      pure (field, limit)
  | _ => executionBudgetError "execution budget must be an object"

end Declared

section Narrowing

def widens (parent child : ScopeLimits) (field : BudgetField) : Bool :=
  match parent.limit? field, child.limit? field with
  | some above, some below => above.amount < below.amount
  | _, _ => false

def wideningMessage (parent child : ScopeLimits) (parentScope childScope : String) (field : BudgetField) : String :=
  let written (limits : ScopeLimits) := ((limits.limit? field).map fun limit => limit.value.text).getD ""
  childScope ++ " " ++ field.name ++ " (" ++ written child ++ ") widens " ++ parentScope ++ " limit (" ++ written parent ++ ")"

def rejectWidening (parent child : ScopeLimits) (parentScope childScope : String) : Except PyError Unit :=
  match BUDGET_FIELDS.find? (widens parent child) with
  | some field => executionBudgetError (wideningMessage parent child parentScope childScope field)
  | none => .ok ()

def rejectWideningIf (condition : Bool) (parent child : ScopeLimits) (parentScope childScope : String) : Except PyError Unit :=
  if condition then rejectWidening parent child parentScope childScope else .ok ()

def mostRestrictive (scopes : List ScopeLimits) : ScopeLimits :=
  BUDGET_FIELDS.map fun field => (field, BudgetLimit.least (scopes.filterMap fun scope => scope.limit? field))

structure BudgetDeclarations where
  workflowBudget : Json := .null
  taskBudget : Json := .null
  agentBudget : Json := .null
  workflowRef : Option Record := none
  taskRef : Option Record := none
  agentRef : Option Record := none

def validateBudgetNarrowing (declarations : BudgetDeclarations) : Except PyError Unit := do
  let workflowLimits ← declaredLimits declarations.workflowBudget "Workflow" declarations.workflowRef
  let taskLimits ← declaredLimits declarations.taskBudget "Task" declarations.taskRef
  let agentLimits ← declaredLimits declarations.agentBudget "Agent" declarations.agentRef
  rejectWideningIf (!taskLimits.isEmpty) workflowLimits taskLimits "Workflow" "Task"
  rejectWideningIf (!agentLimits.isEmpty) workflowLimits agentLimits "Workflow" "Agent"
  rejectWideningIf (!agentLimits.isEmpty && !taskLimits.isEmpty) taskLimits agentLimits "Task" "Agent"

end Narrowing

section Resolve

/-- Effective limits for one Task execution, separated by enforcement scope. -/
structure ResolvedExecutionBudget where
  workflow : ScopeLimits
  task : ScopeLimits
  agent : ScopeLimits
  modelOutputTokenLimit : Option Int
  modelPricing : Option Record
  resourceRefs : List Reference

def pricingNumber (pricing : Record) (field : String) : Except PyError Unit :=
  let message := "pricing." ++ field ++ " must be a non-negative number"
  match JsonSchema.number? (pricing.field field) with
  | none => executionBudgetError message
  | some number => do
    let finite ← isFinite (pricing.field field)
    raiseIf (finite = false ∨ number < 0) { errorClass := .executionBudgetError, message }

/-- `_model_pricing`. -/
def modelPricing : Json → Except PyError (Option Record)
  | .null => .ok none
  | .obj pricing => do
    pricingNumber pricing "inputPerMillionTokens"
    pricingNumber pricing "outputPerMillionTokens"
    raiseIf (Dict.field pricing "currency" ≠ .str "USD")
      { errorClass := .executionBudgetError, message := "pricing.currency must be USD" }
    pure (some pricing)
  | _ => executionBudgetError "Model.spec.pricing must be an object"

def refKey (ref : Record) : Option Reference :=
  let part (field : String) := ((ref.get? field).getD (.str "")).text
  if part "kind" ≠ "" ∧ part "name" ≠ "" ∧ part "version" ≠ "" then some ⟨part "kind", part "name", part "version"⟩ else none

def resourceRefs (refs : List (Option Record)) : List Reference :=
  ((refs.filterMap fun ref => ref.bind refKey).dedup).mergeSort fun left right => !right.before left

def resolveExecutionBudget (declarations : BudgetDeclarations) (executionBudget modelTokenLimit pricing : Json) :
    Except PyError ResolvedExecutionBudget := do
  let declaredWorkflow ← declaredLimits declarations.workflowBudget "Workflow" declarations.workflowRef
  let executionLimits ← declaredLimits executionBudget "Execution" none
  let taskLimits ← declaredLimits declarations.taskBudget "Task" declarations.taskRef
  let agentLimits ← declaredLimits declarations.agentBudget "Agent" declarations.agentRef
  rejectWideningIf (!executionLimits.isEmpty) declaredWorkflow executionLimits "Workflow" "Execution"
  rejectWideningIf (!taskLimits.isEmpty) declaredWorkflow taskLimits "Workflow" "Task"
  rejectWideningIf (!agentLimits.isEmpty) declaredWorkflow agentLimits "Workflow" "Agent"
  rejectWideningIf (!agentLimits.isEmpty && !taskLimits.isEmpty) taskLimits agentLimits "Task" "Agent"
  let effectiveWorkflow :=
    if executionLimits.isEmpty then declaredWorkflow else mostRestrictive [declaredWorkflow, executionLimits]
  let modelOutputTokenLimit ← positiveInt modelTokenLimit "Model.spec.tokenLimit"
  let modelPricing ← modelPricing pricing
  pure {
    workflow := effectiveWorkflow
    task := mostRestrictive [effectiveWorkflow, taskLimits]
    -- A Task's limits bind its own ledger only: the Agent's is shared by other Tasks.
    agent := mostRestrictive [effectiveWorkflow, agentLimits]
    modelOutputTokenLimit, modelPricing
    resourceRefs := resourceRefs [declarations.workflowRef, declarations.taskRef, declarations.agentRef] }

end Resolve

end Aep.ExecutionBudgets

/-! Declared limits as bounds: what narrowing accepts, and the minimum that an effective limit is. -/
namespace Aep.ExecutionBudgets

open Result

def declaredBound (declarations : Json) (field : BudgetField) : WithTop Rat :=
  match declarations with
  | .obj fields => ((JsonSchema.number? (Dict.field fields field.name)).map WithTop.some).getD ⊤
  | _ => ⊤

def ScopeLimits.bound (limits : ScopeLimits) (field : BudgetField) : WithTop Rat :=
  ((limits.limit? field).map fun limit => (limit.amount : WithTop Rat)).getD ⊤

def Within (child parent : BudgetField → WithTop Rat) : Prop := ∀ field, child field = ⊤ ∨ child field ≤ parent field

section Declared

theorem limit?_map (limit : BudgetField → Option (BudgetLimit Json)) (field : BudgetField) :
    ScopeLimits.limit? (BUDGET_FIELDS.map fun field => (field, limit field)) field = limit field := by
  cases field <;> rfl

theorem mapM_fields {compute : BudgetField → Except PyError (Option (BudgetLimit Json))} {limits : ScopeLimits}
    (computed : (BUDGET_FIELDS.mapM fun field => do
      let limit ← compute field
      pure (field, limit)) = .ok limits) :
    limits.isEmpty = false ∧ ∀ field, compute field = .ok (limits.limit? field) := by
  simp only [BUDGET_FIELDS, List.mapM_cons, List.mapM_nil, bind_eq_ok, pure_eq_ok] at computed
  obtain ⟨_, ⟨invocations, first, rfl⟩, _, ⟨_, ⟨input, second, rfl⟩, _, ⟨_, ⟨output, third, rfl⟩, _,
    ⟨_, ⟨elapsed, fourth, rfl⟩, _, ⟨_, ⟨cost, fifth, rfl⟩, _, rfl, rfl⟩, rfl⟩, rfl⟩, rfl⟩, rfl⟩ := computed
  constructor
  · rfl
  · intro field
    cases field
    · exact first
    · exact second
    · exact third
    · exact fourth
    · exact fifth

theorem declaredLimit_ok {fields : Record} {scope : String} {ref : Option Reference} {field : BudgetField}
    {limit : Option (BudgetLimit Json)} (declared : declaredLimit fields scope ref field = .ok limit) :
    (limit.map fun limit => (limit.amount : WithTop Rat)).getD ⊤ =
      ((JsonSchema.number? (Dict.field fields field.name)).map WithTop.some).getD ⊤ := by
  simp only [declaredLimit] at declared
  split at declared
  · rename_i absent
    cases declared
    simp [absent, JsonSchema.number?]
  · rw [bind_eq_ok] at declared
    obtain ⟨_, checked, kept⟩ := declared
    cases kept
    have number : (JsonSchema.number? (Dict.field fields field.name)).isSome := by
      unfold checkLimit at checked
      split at checked
      · cases found : JsonSchema.number? (Dict.field fields field.name) with
        | none => simp [positiveCost, found, executionBudgetError] at checked
        | some number => rfl
      · cases value : Dict.field fields field.name with
        | null => contradiction
        | int number => rfl
        | _ =>
          rw [value] at checked
          cases checked
    obtain ⟨amount, found⟩ := Option.isSome_iff_exists.mp number
    simp [BudgetLimit.amount, found]

theorem declaredLimits_ok {declarations : Json} {scope : String} {ref : Option Record} {limits : ScopeLimits}
    (declared : declaredLimits declarations scope ref = .ok limits) :
    limits.isEmpty = false ∧ limits.bound = declaredBound declarations := by
  cases declarations with
  | null =>
    cases declared
    constructor
    · rfl
    · funext field
      rw [ScopeLimits.bound, limit?_map]
      rfl
  | obj fields =>
    simp only [declaredLimits, bind_eq_ok, raiseIf_eq_ok] at declared
    obtain ⟨_, known, declared⟩ := declared
    have each := mapM_fields declared
    constructor
    · exact each.1
    · funext field
      exact declaredLimit_ok (each.2 field)
  | _ => simp [declaredLimits, executionBudgetError] at declared

/-- Whether a declaration is accepted by itself does not depend on who declares it. -/
def ValidBudget (declarations : Json) : Prop := ∃ limits, declaredLimits declarations "Execution" none = .ok limits

theorem declaredLimits_valid {declarations : Json} {scope : String} {ref : Option Record} :
    (∃ limits, declaredLimits declarations scope ref = .ok limits) ↔ ValidBudget declarations := by
  cases declarations with
  | obj fields =>
    have each (scope : String) (ref : Option Reference) (field : BudgetField) :
        (∃ limit, declaredLimit fields scope ref field = .ok limit) ↔
          Dict.field fields field.name = .null ∨ checkLimit field (Dict.field fields field.name) = .ok () := by
      by_cases absent : Dict.field fields field.name = .null
      · simp [declaredLimit, absent]
      · simp only [declaredLimit, absent, if_false, bind_eq_ok, pure_eq_ok, false_or]
        constructor
        · rintro ⟨_, _, checked, _⟩
          exact checked
        · intro checked
          exact ⟨_, (), checked, rfl⟩
    have all (scope : String) (ref : Option Record) :
        (∃ limits, declaredLimits (.obj fields) scope ref = .ok limits) ↔
          (¬∃ key ∈ Dict.keys fields, key ∉ BUDGET_FIELDS.map BudgetField.name) ∧
            ∀ field, Dict.field fields field.name = .null ∨ checkLimit field (Dict.field fields field.name) = .ok () := by
      simp only [← each scope (referenceRecord ref)]
      constructor
      · rintro ⟨limits, declared⟩
        simp only [declaredLimits, bind_eq_ok, raiseIf_eq_ok] at declared
        obtain ⟨_, known, declared⟩ := declared
        exact ⟨known, fun field => ⟨_, (mapM_fields declared).2 field⟩⟩
      · rintro ⟨known, limits⟩
        choose limit computed using limits
        refine ⟨BUDGET_FIELDS.map fun field => (field, limit field), ?_⟩
        simp only [declaredLimits, raiseIf_neg known, ok_bind]
        simp only [BUDGET_FIELDS, List.mapM_cons, List.mapM_nil, computed, ok_bind, Result.pure_bind]
        rfl
    rw [all, ValidBudget, all]
  | null => exact ⟨fun _ => ⟨_, rfl⟩, fun _ => ⟨_, rfl⟩⟩
  | _ => simp [ValidBudget, declaredLimits]

end Declared

section Least

theorem least_amount (limits : List (BudgetLimit Json)) :
    ((BudgetLimit.least limits).map fun limit => (limit.amount : WithTop Rat)).getD ⊤ =
      (limits.map fun limit => (limit.amount : WithTop Rat)).foldr min ⊤ := by
  have smaller (limit best : BudgetLimit Json) :
      ((if limit.before best then limit else best).amount : WithTop Rat) = min (limit.amount : WithTop Rat) best.amount := by
    by_cases less : limit.amount < best.amount
    · have before : limit.before best = true := by simp [BudgetLimit.before, less]
      rw [if_pos before, min_eq_left (by exact_mod_cast less.le)]
    · rw [min_eq_right (by exact_mod_cast not_lt.mp less)]
      by_cases before : limit.before best = true
      · have same : limit.amount = best.amount := by
          simp only [BudgetLimit.before, less, decide_false, Bool.false_or, Bool.and_eq_true, decide_eq_true_eq] at before
          exact before.1
        rw [if_pos before, same]
      · rw [if_neg before]
  have fold (best : BudgetLimit Json) (rest : List (BudgetLimit Json)) :
      ((rest.foldl (fun best limit => if limit.before best then limit else best) best).amount : WithTop Rat) =
        min (best.amount : WithTop Rat) ((rest.map fun limit => (limit.amount : WithTop Rat)).foldr min ⊤) := by
    induction rest generalizing best with
    | nil => simp
    | cons limit rest ih =>
      rw [List.foldl_cons, ih, smaller, List.map_cons, List.foldr_cons, min_left_comm, min_assoc]
  cases limits with
  | nil => rfl
  | cons first rest => exact fold first rest

theorem mostRestrictive_bound (left right : ScopeLimits) (field : BudgetField) :
    (mostRestrictive [left, right]).bound field = min (left.bound field) (right.bound field) := by
  rw [ScopeLimits.bound, mostRestrictive, limit?_map, least_amount]
  unfold ScopeLimits.bound
  cases first : left.limit? field <;> cases second : right.limit? field <;> simp [first, second]

theorem rejectWidening_ok {parent child : ScopeLimits} {parentScope childScope : String} :
    rejectWidening parent child parentScope childScope = .ok () ↔ Within child.bound parent.bound := by
  have none_widens : rejectWidening parent child parentScope childScope = .ok () ↔
      ∀ field, widens parent child field = false := by
    unfold rejectWidening
    cases found : BUDGET_FIELDS.find? (widens parent child) with
    | some field =>
      have wide := List.find?_some found
      simp only [executionBudgetError, reduceCtorEq, false_iff, not_forall]
      exact ⟨field, by simp [wide]⟩
    | none =>
      rw [List.find?_eq_none] at found
      simp only [true_iff]
      intro field
      simpa using found field (mem_budgetFields field)
  rw [none_widens, Within]
  apply forall_congr'
  intro field
  simp only [widens, ScopeLimits.bound]
  cases parent.limit? field <;> cases child.limit? field <;> simp

end Least

section Resolve

theorem rejectWideningIf_ok {parent child : ScopeLimits} {condition : Bool} {parentScope childScope : String}
    (checked : condition = true) :
    rejectWideningIf condition parent child parentScope childScope = .ok () ↔ Within child.bound parent.bound := by
  rw [rejectWideningIf, if_pos checked, rejectWidening_ok]

/-- Every scope declares a budget that is accepted by itself, and none is wider than the one above it. -/
structure Narrows (declarations : BudgetDeclarations) : Prop where
  workflow : ValidBudget declarations.workflowBudget
  task : ValidBudget declarations.taskBudget
  agent : ValidBudget declarations.agentBudget
  taskWithin : Within (declaredBound declarations.taskBudget) (declaredBound declarations.workflowBudget)
  agentWithin : Within (declaredBound declarations.agentBudget) (declaredBound declarations.workflowBudget)
  agentWithinTask : Within (declaredBound declarations.agentBudget) (declaredBound declarations.taskBudget)

theorem validateBudgetNarrowing_ok {declarations : BudgetDeclarations} :
    validateBudgetNarrowing declarations = .ok () ↔ Narrows declarations := by
  simp only [validateBudgetNarrowing, bind_eq_ok]
  constructor
  · rintro ⟨workflow, declaredWorkflow, task, declaredTask, agent, declaredAgent, _, first, _, second, third⟩
    obtain ⟨_, workflowBound⟩ := declaredLimits_ok declaredWorkflow
    obtain ⟨taskFull, taskBound⟩ := declaredLimits_ok declaredTask
    obtain ⟨agentFull, agentBound⟩ := declaredLimits_ok declaredAgent
    rw [rejectWideningIf_ok (by simp [taskFull]), taskBound, workflowBound] at first
    rw [rejectWideningIf_ok (by simp [agentFull]), agentBound, workflowBound] at second
    rw [rejectWideningIf_ok (by simp [taskFull, agentFull]), agentBound, taskBound] at third
    exact ⟨declaredLimits_valid.mp ⟨_, declaredWorkflow⟩, declaredLimits_valid.mp ⟨_, declaredTask⟩,
      declaredLimits_valid.mp ⟨_, declaredAgent⟩, first, second, third⟩
  · intro narrows
    obtain ⟨workflow, declaredWorkflow⟩ := declaredLimits_valid.mpr narrows.workflow
    obtain ⟨task, declaredTask⟩ := declaredLimits_valid.mpr narrows.task
    obtain ⟨agent, declaredAgent⟩ := declaredLimits_valid.mpr narrows.agent
    obtain ⟨_, workflowBound⟩ := declaredLimits_ok declaredWorkflow
    obtain ⟨taskFull, taskBound⟩ := declaredLimits_ok declaredTask
    obtain ⟨agentFull, agentBound⟩ := declaredLimits_ok declaredAgent
    refine ⟨workflow, declaredWorkflow, task, declaredTask, agent, declaredAgent, (), ?_, (), ?_, ?_⟩
    · rw [rejectWideningIf_ok (by simp [taskFull]), taskBound, workflowBound]
      exact narrows.taskWithin
    · rw [rejectWideningIf_ok (by simp [agentFull]), agentBound, workflowBound]
      exact narrows.agentWithin
    · rw [rejectWideningIf_ok (by simp [taskFull, agentFull]), agentBound, taskBound]
      exact narrows.agentWithinTask

def ValidModel (tokenLimit pricing : Json) : Prop :=
  (∃ limit, positiveInt tokenLimit "Model.spec.tokenLimit" = .ok limit) ∧ ∃ prices, modelPricing pricing = .ok prices

variable {declarations : BudgetDeclarations} {executionBudget tokenLimit pricing : Json} {resolved : ResolvedExecutionBudget}

theorem resolveExecutionBudget_ok (resolution : resolveExecutionBudget declarations executionBudget tokenLimit pricing = .ok resolved) :
    Narrows declarations ∧ ValidBudget executionBudget ∧
      Within (declaredBound executionBudget) (declaredBound declarations.workflowBudget) ∧ ValidModel tokenLimit pricing ∧
      (∃ workflow execution, declaredLimits declarations.workflowBudget "Workflow" declarations.workflowRef = .ok workflow ∧
        declaredLimits executionBudget "Execution" none = .ok execution ∧
        resolved.workflow = mostRestrictive [workflow, execution]) ∧
      (∀ field, resolved.task.bound field = min (resolved.workflow.bound field) (declaredBound declarations.taskBudget field)) ∧
      (∀ field, resolved.agent.bound field = min (resolved.workflow.bound field) (declaredBound declarations.agentBudget field)) ∧
      resolved.resourceRefs = resourceRefs [declarations.workflowRef, declarations.taskRef, declarations.agentRef] := by
  simp only [resolveExecutionBudget, bind_eq_ok, pure_eq_ok] at resolution
  obtain ⟨workflow, declaredWorkflow, execution, declaredExecution, task, declaredTask, agent, declaredAgent, _, zeroth, _,
    first, _, second, _, third, limit, limited, prices, priced, rfl⟩ := resolution
  obtain ⟨_, workflowBound⟩ := declaredLimits_ok declaredWorkflow
  obtain ⟨executionFull, executionBound⟩ := declaredLimits_ok declaredExecution
  obtain ⟨taskFull, taskBound⟩ := declaredLimits_ok declaredTask
  obtain ⟨agentFull, agentBound⟩ := declaredLimits_ok declaredAgent
  rw [rejectWideningIf_ok (by simp [executionFull]), executionBound, workflowBound] at zeroth
  rw [rejectWideningIf_ok (by simp [taskFull]), taskBound, workflowBound] at first
  rw [rejectWideningIf_ok (by simp [agentFull]), agentBound, workflowBound] at second
  rw [rejectWideningIf_ok (by simp [taskFull, agentFull]), agentBound, taskBound] at third
  have narrows : Narrows declarations :=
    ⟨declaredLimits_valid.mp ⟨_, declaredWorkflow⟩, declaredLimits_valid.mp ⟨_, declaredTask⟩,
      declaredLimits_valid.mp ⟨_, declaredAgent⟩, first, second, third⟩
  simp only [executionFull, Bool.false_eq_true, if_false]
  refine ⟨narrows, ⟨_, declaredExecution⟩, zeroth, ⟨⟨_, limited⟩, ⟨_, priced⟩⟩,
    ⟨workflow, execution, declaredWorkflow, declaredExecution, rfl⟩, ?_, ?_, trivial⟩
  · intro field
    rw [mostRestrictive_bound, taskBound]
  · intro field
    rw [mostRestrictive_bound, agentBound]

theorem resolveExecutionBudget_total (narrows : Narrows declarations) (valid : ValidBudget executionBudget)
    (within : Within (declaredBound executionBudget) (declaredBound declarations.workflowBudget))
    (model : ValidModel tokenLimit pricing) :
    ∃ resolved, resolveExecutionBudget declarations executionBudget tokenLimit pricing = .ok resolved := by
  obtain ⟨workflow, declaredWorkflow⟩ := (@declaredLimits_valid _ "Workflow" declarations.workflowRef).mpr narrows.workflow
  obtain ⟨execution, declaredExecution⟩ := valid
  obtain ⟨task, declaredTask⟩ := (@declaredLimits_valid _ "Task" declarations.taskRef).mpr narrows.task
  obtain ⟨agent, declaredAgent⟩ := (@declaredLimits_valid _ "Agent" declarations.agentRef).mpr narrows.agent
  obtain ⟨_, workflowBound⟩ := declaredLimits_ok declaredWorkflow
  obtain ⟨executionFull, executionBound⟩ := declaredLimits_ok declaredExecution
  obtain ⟨taskFull, taskBound⟩ := declaredLimits_ok declaredTask
  obtain ⟨agentFull, agentBound⟩ := declaredLimits_ok declaredAgent
  obtain ⟨⟨limit, limited⟩, ⟨prices, priced⟩⟩ := model
  have zeroth : rejectWideningIf (!execution.isEmpty) workflow execution "Workflow" "Execution" = .ok () := by
    rw [rejectWideningIf_ok (by simp [executionFull]), executionBound, workflowBound]
    exact within
  have first : rejectWideningIf (!task.isEmpty) workflow task "Workflow" "Task" = .ok () := by
    rw [rejectWideningIf_ok (by simp [taskFull]), taskBound, workflowBound]
    exact narrows.taskWithin
  have second : rejectWideningIf (!agent.isEmpty) workflow agent "Workflow" "Agent" = .ok () := by
    rw [rejectWideningIf_ok (by simp [agentFull]), agentBound, workflowBound]
    exact narrows.agentWithin
  have third : rejectWideningIf (!agent.isEmpty && !task.isEmpty) task agent "Task" "Agent" = .ok () := by
    rw [rejectWideningIf_ok (by simp [taskFull, agentFull]), agentBound, taskBound]
    exact narrows.agentWithinTask
  exact ⟨_, by
    simp only [resolveExecutionBudget, declaredWorkflow, declaredExecution, declaredTask, declaredAgent, ok_bind, zeroth,
      first, second, third, limited, priced]
    rfl⟩

theorem resolved_workflow_bound (resolution : resolveExecutionBudget declarations executionBudget tokenLimit pricing = .ok resolved)
    (field : BudgetField) :
    resolved.workflow.bound field = min (declaredBound declarations.workflowBudget field) (declaredBound executionBudget field) := by
  obtain ⟨workflow, execution, declaredWorkflow, declaredExecution, effective⟩ := (resolveExecutionBudget_ok resolution).2.2.2.2.1
  rw [effective, mostRestrictive_bound, (declaredLimits_ok declaredWorkflow).2, (declaredLimits_ok declaredExecution).2]

end Resolve

end Aep.ExecutionBudgets
