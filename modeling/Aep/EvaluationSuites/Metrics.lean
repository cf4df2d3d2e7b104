import Aep.EvaluationSuites.Verdicts
import Aep.Library.Float64
import Mathlib.Algebra.BigOperators.Group.List.Basic

namespace Aep.EvaluationSuites

open RuntimeStore

section Metrics

variable {platform : ReplayPlatform} {results other : List Record}

def metricEntries (result : Record) : List (String × Json) :=
  match result.field "metrics" with
  | .obj metrics => metrics
  | _ => []

def metricNumbers (name : String) (results : List Record) : List Json :=
  ((results.flatMap metricEntries).filter fun entry => isNumber entry.2 && entry.1 = name).map Prod.snd

def ExactSums (platform : ReplayPlatform) : Prop :=
  ∀ first second : Int, platform.add (.int first) (.int second) = .ok (.int (first + second))

theorem foldlM_addMetrics (totals : Record) :
    results.foldlM (addMetrics platform) totals = (results.flatMap metricEntries).foldlM (addMetric platform) totals := by
  induction results generalizing totals with
  | nil => rfl
  | cons result rest ih =>
    have step : addMetrics platform totals result = (metricEntries result).foldlM (addMetric platform) totals := by
      unfold addMetrics metricEntries
      cases result.field "metrics" <;> rfl
    rw [List.foldlM_cons, List.flatMap_cons, List.foldlM_append, step]
    exact congrArg _ (funext ih)

theorem addMetrics_total {entries : List (String × Json)} {totals metrics : Record}
    (added : entries.foldlM (addMetric platform) totals = .ok metrics) (name : String) :
    let numbers := (entries.filter fun entry => isNumber entry.2 && entry.1 = name).map Prod.snd
    (numbers = [] → metrics.get? name = totals.get? name) ∧
      (numbers ≠ [] → ∃ sum, numbers.foldlM platform.add (itemOr totals name (.int 0)) = .ok sum ∧
        metrics.get? name = some sum) := by
  induction entries generalizing totals with
  | nil =>
    cases added
    exact ⟨fun _ => rfl, fun some => absurd rfl some⟩
  | cons entry rest ih =>
    obtain ⟨key, value⟩ := entry
    rw [List.foldlM_cons, Result.bind_eq_ok] at added
    obtain ⟨next, one, others⟩ := added
    have later := ih others
    unfold addMetric at one
    by_cases number : isNumber value = true
    · simp only [number, ↓reduceIte, Result.bind_eq_ok, Result.pure_eq_ok] at one
      obtain ⟨sum, summed, rfl⟩ := one
      by_cases same : key = name
      · subst same
        have present : itemOr (totals.set key sum) key (.int 0) = sum := by simp [itemOr]
        rw [List.filter_cons_of_pos (by simp [number]), List.map_cons]
        refine ⟨fun none => absurd none (List.cons_ne_nil _ _), fun _ => ?_⟩
        rw [List.foldlM_cons, summed, Result.ok_bind]
        rw [present] at later
        by_cases none : (rest.filter fun entry => isNumber entry.2 && entry.1 = key).map Prod.snd = []
        · refine ⟨sum, by rw [none]; rfl, ?_⟩
          rw [later.1 none, Dict.get?_set_self]
        · exact later.2 none
      · have kept : (totals.set key sum).get? name = totals.get? name := Dict.get?_set_ne _ _ same
        rw [List.filter_cons_of_neg (by simp [same])]
        rwa [itemOr, kept, ← itemOr] at later
    · simp only [number, Bool.false_eq_true, ↓reduceIte, Result.pure_eq_ok] at one
      subst one
      rwa [List.filter_cons_of_neg (by simp [number])]

theorem evaluationMetrics_total (isResult : ∀ result ∈ results, isKind "EvaluationResult" result = true)
    {metrics : Record} (measured : evaluationMetrics platform results = .ok metrics) (name : String) :
    (metricNumbers name results = [] → metrics.get? name = none) ∧
      (metricNumbers name results ≠ [] →
        ∃ sum, total platform (metricNumbers name results) = .ok sum ∧ metrics.get? name = some sum) := by
  rw [evaluationMetrics, List.filter_eq_self.mpr isResult, foldlM_addMetrics] at measured
  exact addMetrics_total measured name

theorem metricNumbers_perm (same : results.Perm other) (name : String) :
    (metricNumbers name results).Perm (metricNumbers name other) :=
  ((same.flatMap_right _).filter _).map _

theorem total_integers (exact : ExactSums platform) {numbers : List Int} {start : Int} :
    (numbers.map Json.int).foldlM platform.add (.int start) = .ok (.int (start + numbers.sum)) := by
  induction numbers generalizing start with
  | nil => simp [pure, Except.pure]
  | cons number rest ih =>
    rw [List.map_cons, List.foldlM_cons, exact, Result.ok_bind, ih, List.sum_cons, Int.add_assoc]

def integer : Json → Int
  | .int value => value
  | _ => 0

theorem total_perm (exact : ExactSums platform) {numbers others : List Json} (same : numbers.Perm others)
    (integers : ∀ number ∈ numbers, ∃ value, number = .int value) : total platform numbers = total platform others := by
  have encoded (numbers : List Json) (integers : ∀ number ∈ numbers, ∃ value, number = .int value) :
      (numbers.map integer).map Json.int = numbers := by
    rw [List.map_map]
    refine (List.map_congr_left fun number member => ?_).trans numbers.map_id
    obtain ⟨value, rfl⟩ := integers number member
    rfl
  rw [← encoded numbers integers, ← encoded others fun number member => integers number (same.mem_iff.mpr member)]
  unfold total
  rw [total_integers exact, total_integers exact, (same.map integer).sum_eq]

theorem allPass_perm (same : results.Perm other) : allPass results = allPass other := by
  have empty : results = [] ↔ other = [] := by
    rw [← List.length_eq_zero_iff, same.length_eq, List.length_eq_zero_iff]
  have all : (results.all fun result => result.field "outcome" = .str "PASS") =
      other.all fun result => result.field "outcome" = .str "PASS" := by
    rw [Bool.eq_iff_iff, List.all_eq_true, List.all_eq_true]
    simp only [same.mem_iff]
  unfold allPass
  simp only [empty, all]

end Metrics

section Scores

variable {platform : ReplayPlatform} {execution : Record} {left right : Listing} {references : List Record}

def verdictOf (platform : ReplayPlatform) (kind : String) (results : List Record) : Json :=
  allPass (results.filter fun result => evaluationType platform result = some kind)

theorem verdictOf_perm {results other : List Record} (same : results.Perm other) (kind : String) :
    verdictOf platform kind results = verdictOf platform kind other := allPass_perm (same.filter _)

theorem executionEvidence_ok {related : List Record} {source : Json} {evidence : Record}
    (returned : executionEvidence platform execution related source = .ok evidence) :
    ∃ scored metrics, effectiveEvaluations platform related = .ok scored ∧
      evaluationMetrics platform scored = .ok metrics ∧ evidence.field "metrics" = .obj metrics ∧
      evidence.field "buildSuccess" = verdictOf platform "build" scored ∧
      evidence.field "testSuccess" = verdictOf platform "test" scored := by
  simp only [executionEvidence, Result.bind_eq_ok, Result.pure_eq_ok] at returned
  obtain ⟨_, -, _, -, _, -, scored, evaluated, _, -, _, -, _, -, metrics, measured, _, -, rfl⟩ := returned
  exact ⟨scored, metrics, evaluated, measured, rfl, rfl, rfl⟩

def IntegerMetric (name : String) (results : List Record) : Prop :=
  ∀ number ∈ metricNumbers name results, ∃ value, number = .int value

structure SameScores (platform : ReplayPlatform) (left right : List Record) (evidence other : Record) : Prop where
  build : evidence.field "buildSuccess" = other.field "buildSuccess"
  test : evidence.field "testSuccess" = other.field "testSuccess"
  metrics : ∃ metrics others : Record, evidence.field "metrics" = .obj metrics ∧ other.field "metrics" = .obj others ∧
    (∀ name, (metrics.get? name = none ↔ others.get? name = none) ∧
      (∀ sum, metrics.get? name = some sum → total platform (metricNumbers name (scoring platform left)) = .ok sum) ∧
      (metricNumbers name (scoring platform left)).Perm (metricNumbers name (scoring platform right)) ∧
      (IntegerMetric name (scoring platform left) → metrics.get? name = others.get? name)) ∧
    (unsuperseded platform left = unsuperseded platform right → metrics = others)

structure Attested (platform : ReplayPlatform) (execution : Record) (related references : List Record) : Prop where
  selected : ∀ reference ∈ references, Met (scoring platform related) reference
  tolerated : ∀ task ∈ effectiveAttempts platform related, Tolerated (publicationDisabled execution) task

theorem sameScores (exact : ExactSums platform)
    (same : (unsuperseded platform left.records).Perm (unsuperseded platform right.records)) {source : Json}
    {evidence other : Record} (returned : executionEvidence platform execution left.records source = .ok evidence)
    (returnedOther : executionEvidence platform execution right.records source = .ok other) :
    SameScores platform left.records right.records evidence other := by
  obtain ⟨scored, metrics, evaluated, measured, isMetrics, build, test⟩ := executionEvidence_ok returned
  obtain ⟨scoredOther, others, evaluatedOther, measuredOther, isOthers, buildOther, testOther⟩ :=
    executionEvidence_ok returnedOther
  obtain ⟨-, rfl⟩ := effectiveEvaluations_ok.mp evaluated
  obtain ⟨-, rfl⟩ := effectiveEvaluations_ok.mp evaluatedOther
  have permuted : (scoring platform left.records).Perm (scoring platform right.records) := by
    rw [scoring_unsuperseded, scoring_unsuperseded]
    exact same.filter _
  have isResult (related : List Record) : ∀ result ∈ scoring platform related, isKind "EvaluationResult" result = true := by
    intro result member
    exact ((Bool.and_eq_true _ _).mp (List.mem_filter.mp member).2).1
  refine ⟨by rw [build, buildOther, verdictOf_perm permuted], by rw [test, testOther, verdictOf_perm permuted], metrics,
    others, isMetrics, isOthers, fun name => ?_, fun identical => ?_⟩
  · have numbers := metricNumbers_perm permuted name
    have empty : metricNumbers name (scoring platform left.records) = [] ↔
        metricNumbers name (scoring platform right.records) = [] := by
      rw [← List.length_eq_zero_iff, numbers.length_eq, List.length_eq_zero_iff]
    obtain ⟨absent, present⟩ := evaluationMetrics_total (isResult _) measured name
    obtain ⟨absentOther, presentOther⟩ := evaluationMetrics_total (isResult _) measuredOther name
    by_cases none : metricNumbers name (scoring platform left.records) = []
    · rw [absent none, absentOther (empty.mp none)]
      exact ⟨Iff.rfl, fun _ found => (Option.some_ne_none _ found.symm).elim, numbers, fun _ => rfl⟩
    · obtain ⟨sum, summed, found⟩ := present none
      obtain ⟨sumOther, summedOther, foundOther⟩ := presentOther fun none' => none (empty.mpr none')
      rw [found, foundOther]
      refine ⟨by simp, fun sum' same => ?_, numbers, fun integers => ?_⟩
      · rw [summed, Option.some.inj same]
      · rw [total_perm exact numbers integers, summedOther] at summed
        rw [Except.ok.inj summed]
  · rw [scoring_unsuperseded, identical, ← scoring_unsuperseded, measuredOther] at measured
    exact (Except.ok.inj measured).symm

/-- The scores of a replay depend on its effective attempts alone, and not on the order of its records. -/
theorem scores_effective_attempts (exact : ExactSums platform)
    (same : (unsuperseded platform left.records).Perm (unsuperseded platform right.records)) :
    passed (historicalCasePassed platform execution left.records references) =
        passed (historicalCasePassed platform execution right.records references) ∧
      ((∀ task ∈ effectiveAttempts platform left.records, (task.field "status").isHashable = true) →
        (historicalCasePassed platform execution left.records references).toOption =
          (historicalCasePassed platform execution right.records references).toOption) ∧
      (∀ source evidence other, executionEvidence platform execution left.records source = .ok evidence →
        executionEvidence platform execution right.records source = .ok other →
          SameScores platform left.records right.records evidence other) ∧
      (passed (historicalCasePassed platform execution left.records references) = true →
        Attested platform execution left.records references) := by
  refine ⟨passed_congr same, historicalCasePassed_congr same,
    fun source evidence other returned returnedOther => sameScores exact same returned returnedOther, fun found => ?_⟩
  have passing := passed_iff.mp found
  exact ⟨judgeReferences_none passing.judged, fun task member => (passing.tolerable task member).2⟩

end Scores

namespace Sample

def add : Json → Json → Except PyError Json
  | .int first, .int second => .ok (.int (first + second))
  | .int first, .float second => .ok (.float (Float64.add first second))
  | .float first, .int second => .ok (.float (Float64.add first second))
  | .float first, .float second => .ok (.float (Float64.add first second))
  | _, _ => .error (typeError "unsupported operand type(s) for +")

def platform : ReplayPlatform where
  violation _ := none
  digest _ := ""
  isResourceName _ := true
  isVersion _ := true
  leaseExpiry text := .ok text
  latency _ _ := some 0
  add := add
  mean _ := .ok .null
  dumps reference := (Json.obj reference).repr
  toInt
    | .int value => .ok value
    | value => .error (typeError (value.repr ++ " is no integer"))
  lower text := text

def acceptance : Record := [("kind", .str "Evaluation"), ("name", .str "acceptance"), ("version", .str "2.0.0")]

def attempt (id status : String) (number : Int) : Record := [
  ("id", .str id), ("kind", .str "TaskExecution"), ("taskRef", .obj [("name", .str "run-validation")]),
  ("attempt", .int number), ("status", .str status)]

def result (id : String) (owner : Json) (status outcome : String) (score : Json) : Record := [
  ("id", .str id), ("kind", .str "EvaluationResult"), ("taskExecutionId", owner), ("evaluationRef", .obj acceptance),
  ("status", .str status), ("outcome", .str outcome), ("evidence", .obj [("evaluationType", .str "test")]),
  ("metrics", .obj [("score", score)])]

def execution : Record := [("id", .str "workflowexecution-1"), ("status", .str "SUCCEEDED")]

def listing (records : List Record) (identified : (records.all fun record => (record.field "id").isString) = true)
    (unique : ∀ first ∈ records, ∀ second ∈ records, first.field "id" = second.field "id" → first = second) : Listing where
  records
  identified record member := by
    have isString := List.all_eq_true.mp identified record member
    cases named : record.field "id" <;> simp_all [Json.isString]
  unique

def retried : Listing := listing [
  attempt "run-1" "FAILED" 1, attempt "run-2" "SUCCEEDED" 2, result "failed" (.str "run-1") "FAILED" "FAIL" (.int 100),
  result "passed" (.str "run-2") "SUCCEEDED" "PASS" (.int 20)] (by decide +kernel) (by decide +kernel)

def reordered : Listing := listing [
  result "passed" (.str "run-2") "SUCCEEDED" "PASS" (.int 20), attempt "run-2" "SUCCEEDED" 2,
  attempt "run-1" "BLOCKED" 1] (by decide +kernel) (by decide +kernel)

theorem scores_effective_attempts_retried :
    passed (historicalCasePassed platform execution retried.records [acceptance]) = true ∧
      passed (historicalCasePassed platform execution reordered.records [acceptance]) = true ∧
      Attested platform execution retried.records [acceptance] := by
  have same : (unsuperseded platform retried.records).Perm (unsuperseded platform reordered.records) := by decide +kernel
  obtain ⟨verdict, -, -, attested⟩ := @scores_effective_attempts _ execution _ _ [acceptance]
    (fun _ _ => rfl) same
  have found : passed (historicalCasePassed platform execution retried.records [acceptance]) = true := by decide +kernel
  exact ⟨found, verdict ▸ found, attested found⟩

def tenth : Rat := 3602879701896397 / 2 ^ 55

def threeTenths : Rat := 5404319552844595 / 2 ^ 54

def scored (id : String) (score : Rat) : Record := result id .null "SUCCEEDED" "PASS" (.float score)

/-- A sum of doubles depends on their order, and a result of no attempt lets a case pass. -/
theorem scores_order_and_unattributed :
    (executionEvidence platform execution [scored "a" tenth, scored "b" (2 * tenth), scored "c" threeTenths] .null).map
        (fun evidence => evidence.field "metrics") ≠
      (executionEvidence platform execution [scored "c" threeTenths, scored "b" (2 * tenth), scored "a" tenth] .null).map
        (fun evidence => evidence.field "metrics") ∧
    passed (historicalCasePassed platform execution [scored "a" tenth] [acceptance]) = true ∧
      attempts [scored "a" tenth] = [] := by
  decide +kernel

end Sample

end Aep.EvaluationSuites
