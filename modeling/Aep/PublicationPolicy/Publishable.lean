import Aep.PublicationPolicy.Evaluate
import Aep.RuntimeStore.Operations

namespace Aep.PublicationPolicy

open StateAction RuntimeStore

variable {platform : Platform}

section Rules

/-- A rule of an applicable policy with this outcome, whose conditions hold of the input. -/
def Matches (platform : Platform) (request : Request) (input : Json) (decision : PolicyDecision) : Prop :=
  ∃ binding ∈ request.applicablePolicies, ∃ rule ∈ declaredRules binding.resource,
    mappingField rule "effect" = .str decision.effect ∧
      ∀ conditions, mappingField rule "conditions" = .obj conditions → platform.isValid conditions input = true

theorem effectDecision_ok {index : Nat} {effect : Json} {decision : PolicyDecision}
    (decided : effectDecision index effect = .ok decision) : effect = .str decision.effect := by
  unfold effectDecision at decided
  split at decided
  · rename_i allows
    cases decided
    exact allows
  split at decided
  · rename_i requires
    cases decided
    exact requires
  split at decided
  · rename_i denies
    cases decided
    exact denies
  split at decided
  · cases decided
  · cases decided

theorem ruleConditions_ok {index : Nat} {value : Json} {conditions : Option Record}
    (read : ruleConditions index value = .ok conditions) (schema : Record) :
    value = .obj schema ↔ conditions = some schema := by
  unfold ruleConditions at read
  split at read
  · cases read
    simp
  · split at read
    · rename_i fields mapping
      cases read
      rw [Json.asRecord?_eq_some] at mapping
      simp [mapping]
    · cases read

theorem validatedRule_ok {index : Nat} {rule : Json} {checked : PublicationRule}
    (valid : validatedRule index rule = .ok checked) : mappingField rule "effect" = .str checked.decision.effect ∧
      ∀ conditions, mappingField rule "conditions" = .obj conditions ↔ checked.conditions = some conditions := by
  unfold validatedRule at valid
  unfold mappingField
  cases mapping : rule.asRecord? with
  | none =>
    rw [mapping] at valid
    cases valid
  | some fields =>
    rw [mapping] at valid
    simp only [Result.bind_eq_ok, Result.raiseIf_eq_ok, Result.pure_eq_ok] at valid
    obtain ⟨decision, decided, -, -, reason, -, conditions, read, rfl⟩ := valid
    exact ⟨effectDecision_ok decided, fun schema => ruleConditions_ok read schema⟩

theorem validatedRules_ok {index : Nat} {rules : List Json} {checked : List PublicationRule}
    (valid : validatedRules index rules = .ok checked) :
    List.Forall₂ (fun rule read => mappingField rule "effect" = .str read.decision.effect ∧
      ∀ conditions, mappingField rule "conditions" = .obj conditions ↔ read.conditions = some conditions)
      rules checked := by
  induction rules generalizing index checked with
  | nil =>
    cases valid
    exact .nil
  | cons rule rest ih =>
    simp only [validatedRules, Result.bind_eq_ok, Result.pure_eq_ok] at valid
    obtain ⟨first, read, later, others, rfl⟩ := valid
    exact .cons (validatedRule_ok read) (ih others)

def Holds (platform : Platform) (input : Json) (decision : PolicyDecision) (rule : PublicationRule) : Prop :=
  rule.decision = decision ∧ ∀ conditions ∈ rule.conditions, platform.isValid conditions input = true

theorem ruleHolds_ok {conditions : Option Record} {input : Json} {name : String} {index : Nat} {holds : Bool}
    (checked : ruleHolds platform conditions input name index = .ok holds) :
    holds = true ↔ ∀ schema ∈ conditions, platform.isValid schema input = true := by
  unfold ruleHolds at checked
  cases conditions with
  | none =>
    cases checked
    simp
  | some schema =>
    simp only [conditionsMatch] at checked
    split at checked
    · cases checked
    · rw [← Except.ok.inj checked]
      simp

theorem matchedFrom_holds {input : Json} {policy : ValidatedPolicy} {index : Nat} {rules : List PublicationRule}
    {matched : List MatchedRule} (found : matchedFrom platform input policy index rules = .ok matched)
    (decision : PolicyDecision) :
    (∃ rule ∈ matched, rule.decision = decision) ↔ ∃ rule ∈ rules, Holds platform input decision rule := by
  induction rules generalizing index matched with
  | nil =>
    cases found
    simp
  | cons rule rest ih =>
    simp only [matchedFrom, Result.bind_eq_ok, Result.pure_eq_ok] at found
    obtain ⟨holds, checked, later, others, rfl⟩ := found
    have conditional := ruleHolds_ok checked
    rw [List.exists_mem_cons_iff, ← ih others]
    unfold Holds
    rw [← conditional]
    by_cases held : holds = true <;> simp [held]

theorem matchedRules_holds {input : Json} {policies : List ValidatedPolicy} {matched : List MatchedRule}
    (found : matchedRules platform input policies = .ok matched) (decision : PolicyDecision) :
    (∃ rule ∈ matched, rule.decision = decision) ↔
      ∃ policy ∈ policies, ∃ rule ∈ policy.rules, Holds platform input decision rule := by
  simp only [matchedRules, Result.bind_eq_ok, Result.pure_eq_ok] at found
  obtain ⟨lists, mapped, rfl⟩ := found
  have each := Result.exists_mem_congr (Result.forall₂_of_mapM mapped) fun policy list computed =>
    (matchedFrom_holds computed decision).symm
  rw [each]
  simp only [List.mem_flatten]
  constructor
  · rintro ⟨rule, ⟨list, listed, member⟩, same⟩
    exact ⟨list, listed, rule, member, same⟩
  · rintro ⟨list, listed, rule, member, same⟩
    exact ⟨rule, ⟨list, listed, member⟩, same⟩

theorem validatedPublicationPolicy_ok {binding : ApplicablePolicy} {policy : ValidatedPolicy}
    (valid : validatedPublicationPolicy platform binding = .ok policy) :
    validatedRules 0 (declaredRules binding.resource) = .ok policy.rules := by
  simp only [validatedPublicationPolicy, Result.bind_eq_ok, Result.raiseIf_eq_ok, Result.pure_eq_ok] at valid
  obtain ⟨-, -, name, -, version, -, -, -, -, -, rules, read, rfl⟩ := valid
  exact read

theorem exists_holds_iff {rules : List Json} {checked : List PublicationRule} {index : Nat}
    (valid : validatedRules index rules = .ok checked) (input : Json) (decision : PolicyDecision) :
    (∃ rule ∈ checked, Holds platform input decision rule) ↔
      ∃ rule ∈ rules, mappingField rule "effect" = .str decision.effect ∧
        ∀ conditions, mappingField rule "conditions" = .obj conditions → platform.isValid conditions input = true := by
  have effects {first second : PolicyDecision} : first = second ↔ first.effect = second.effect := by
    cases first <;> cases second <;> decide
  refine (Result.exists_mem_congr (validatedRules_ok valid) fun rule read same => ?_).symm
  obtain ⟨effect, conditions⟩ := same
  simp only [Holds, effect, conditions, Option.mem_def, Json.str.injEq, effects]

theorem matches_iff {request : Request} {policies : List ValidatedPolicy} {input : Json} {matched : List MatchedRule}
    (sorted : sortedPolicies platform request.applicablePolicies = .ok policies)
    (found : matchedRules platform input policies = .ok matched) (decision : PolicyDecision) :
    (∃ rule ∈ matched, rule.decision = decision) ↔ Matches platform request input decision := by
  rw [matchedRules_holds found]
  simp only [sortedPolicies, Result.bind_eq_ok, Result.pure_eq_ok] at sorted
  obtain ⟨validated, mapped, rfl⟩ := sorted
  simp only [List.mem_insertionSort]
  exact (Result.exists_mem_congr (Result.forall₂_of_mapM mapped) fun binding policy valid =>
    (exists_holds_iff (validatedPublicationPolicy_ok valid) input decision).symm).symm

end Rules

section Winning

theorem winningRule_eq_none {matched : List MatchedRule} : winningRule matched = none ↔ matched = [] := by
  cases matched with
  | nil => simp [winningRule]
  | cons rule rest =>
    simp only [winningRule]
    split
    · simp
    · split <;> simp

theorem winningRule_max {matched : List MatchedRule} {winning : MatchedRule} (wins : winningRule matched = some winning) :
    winning ∈ matched ∧ ∀ rule ∈ matched, rule.decision.priority ≤ winning.decision.priority := by
  induction matched generalizing winning with
  | nil => cases wins
  | cons rule rest ih =>
    simp only [winningRule] at wins
    cases later : winningRule rest with
    | none =>
      rw [later] at wins
      cases wins
      rw [winningRule_eq_none.mp later]
      simp
    | some other =>
      rw [later] at wins
      obtain ⟨member, highest⟩ := ih later
      simp only at wins
      split at wins
      · rename_i lower
        cases wins
        refine ⟨List.mem_cons_of_mem _ member, fun item included => ?_⟩
        rcases List.mem_cons.mp included with rfl | elsewhere
        · exact Nat.le_of_lt lower
        · exact highest item elsewhere
      · rename_i higher
        cases wins
        refine ⟨List.mem_cons_self, fun item included => ?_⟩
        rcases List.mem_cons.mp included with rfl | elsewhere
        · exact Nat.le_refl _
        · exact Nat.le_trans (highest item elsewhere) (Nat.le_of_not_lt higher)

theorem winningRule_decision (matched : List MatchedRule) :
    (((winningRule matched).map MatchedRule.decision).getD .deny = .deny ↔
      (∃ rule ∈ matched, rule.decision = .deny) ∨ ∀ decision, ¬∃ rule ∈ matched, rule.decision = decision) ∧
    (((winningRule matched).map MatchedRule.decision).getD .deny = .allow ↔
      (∃ rule ∈ matched, rule.decision = .allow) ∧ ∀ rule ∈ matched, rule.decision = .allow) := by
  cases wins : winningRule matched with
  | none =>
    rw [winningRule_eq_none.mp wins]
    simp
  | some winning =>
    obtain ⟨member, highest⟩ := winningRule_max wins
    have matchless : ¬∀ decision, ¬∃ rule ∈ matched, rule.decision = decision := fun none => none _ ⟨winning, member, rfl⟩
    simp only [Option.map_some, Option.getD_some, matchless, or_false]
    constructor
    · refine ⟨fun denies => ⟨winning, member, denies⟩, ?_⟩
      rintro ⟨rule, included, denies⟩
      have lower := highest rule included
      rw [denies] at lower
      cases decided : winning.decision <;> rw [decided] at lower
      · exact absurd lower (by decide)
      · exact absurd lower (by decide)
    · refine ⟨fun allows => ⟨⟨winning, member, allows⟩, fun rule included => ?_⟩, fun ⟨_, unanimous⟩ => unanimous winning member⟩
      have lower := highest rule included
      rw [allows] at lower
      cases decided : rule.decision <;> rw [decided] at lower
      · exact absurd lower (by decide)
      · exact absurd lower (by decide)

end Winning

section Evaluation

variable {request : Request} {prepared : Prepared} {store after : Store} {record : Record}

theorem verdict_decision {failures : List String} {matched : List MatchedRule} {decided : Verdict}
    (reached : verdict prepared failures matched = .ok decided) :
    decided.decision = if failures ≠ [] then .deny else if RequiresApproval prepared.evidence then .requireApproval
      else ((winningRule matched).map MatchedRule.decision).getD .deny := by
  unfold verdict at reached
  split at reached
  · rename_i failed
    cases reached
    rw [if_pos failed]
  · rename_i trusted
    rw [if_neg trusted]
    split at reached
    · rename_i requires
      cases reached
      rw [if_pos requires]
    · rename_i free
      rw [if_neg free]
      cases wins : winningRule matched with
      | none =>
        rw [wins] at reached
        cases reached
        rfl
      | some winning =>
        rw [wins] at reached
        simp only [Result.bind_eq_ok, Result.pure_eq_ok] at reached
        obtain ⟨reason, -, rfl⟩ := reached
        rfl

theorem createDecision_returns {decisionId key : String} {value : Record}
    (returned : (createDecision decisionId key value).Returns store record after) :
    (create (.obj value) key).Returns store record after := by
  unfold Returns createDecision at returned
  unfold Returns
  rcases ran : create (.obj value) key store with ⟨error | created, last⟩
  · rw [ran] at returned
    simp only at returned
    split at returned <;> cases returned
  · rw [ran] at returned
    exact returned

theorem evaluate_persists (returned : (evaluate platform request).Returns store record after) (persisted : after ≠ store) :
    ∃ prepared matched decided, prepare platform request = .ok prepared ∧
      matchedRules platform (policyInput prepared (evidenceFailures platform store prepared.evidence))
        prepared.policies = .ok matched ∧
      verdict prepared (evidenceFailures platform store prepared.evidence) matched = .ok decided ∧
      record = decisionRecord prepared (evidenceFailures platform store prepared.evidence) matched decided := by
  simp only [evaluate, returns_bind, returns_liftExcept, returns_read] at returned
  obtain ⟨prepared, _, ⟨ready, rfl⟩, _, _, ⟨rfl, rfl⟩, matched, _, ⟨found, rfl⟩, decided, _, ⟨reached, rfl⟩, -, _,
    ⟨-, rfl⟩, created⟩ := returned
  refine ⟨prepared, matched, decided, ready, found, reached, ?_⟩
  obtain ⟨value, copied, -, ⟨-, -, -, same⟩ | ⟨-, -, new, -⟩⟩ := create_cases (createDecision_returns created)
  · exact absurd same persisted
  · rw [new]
    exact (Json.obj.inj (copyAndValidate_ok copied).1).symm

theorem field_decisionRecord (failures : List String) (matched : List MatchedRule) (decided : Verdict) :
    (decisionRecord prepared failures matched decided).field "decision" = .str decided.decision.value := rfl

theorem prepare_policies (ready : prepare platform request = .ok prepared) :
    sortedPolicies platform request.applicablePolicies = .ok prepared.policies := by
  simp only [prepare, Result.bind_eq_ok, Result.pure_eq_ok] at ready
  obtain ⟨_, -, _, -, _, -, _, -, _, -, _, -, _, -, _, -, _, -, _, -, _, -, _, -, _, -, _, -, _, -, policies, sorted,
    rfl⟩ := ready
  exact sorted

def Denying (platform : Platform) (request : Request) (input : Json) : Prop :=
  Matches platform request input .deny ∨ ∀ decision, ¬Matches platform request input decision

def Unanimous (platform : Platform) (request : Request) (input : Json) : Prop :=
  Matches platform request input .allow ∧ ∀ decision, Matches platform request input decision → decision = .allow

/-- The conditions of rules are checked against the request and the summary of its evidence in the store. -/
def conditionInput (platform : Platform) (store : Store) (prepared : Prepared) : Json :=
  policyInput prepared (evidenceFailures platform store prepared.evidence)

theorem evaluate_decision (ready : prepare platform request = .ok prepared)
    (returned : (evaluate platform request).Returns store record after) (persisted : after ≠ store) :
    (record.field "decision" = .str "DENY" ↔ ¬Trusted platform store prepared.evidence ∨
      ¬RequiresApproval prepared.evidence ∧ Denying platform request (conditionInput platform store prepared)) ∧
    (record.field "decision" = .str "ALLOW" ↔ Trusted platform store prepared.evidence ∧
      ¬RequiresApproval prepared.evidence ∧ Unanimous platform request (conditionInput platform store prepared)) := by
  obtain ⟨same, matched, decided, readyAgain, found, reached, rfl⟩ := evaluate_persists returned persisted
  obtain rfl := Except.ok.inj (ready.symm.trans readyAgain)
  have rules := matches_iff (prepare_policies ready) found
  have decides (decision : PolicyDecision) : Json.str decided.decision.value = .str decision.value ↔
      decided.decision = decision := by
    rw [Json.str.injEq]
    exact ⟨PolicyDecision.value_injective, congrArg PolicyDecision.value⟩
  have denied : Json.str decided.decision.value = .str "DENY" ↔ decided.decision = .deny := decides .deny
  have allowed : Json.str decided.decision.value = .str "ALLOW" ↔ decided.decision = .allow := decides .allow
  have unanimous : (∀ rule ∈ matched, rule.decision = .allow) ↔
      ∀ decision, Matches platform request (conditionInput platform store prepared) decision → decision = .allow := by
    unfold conditionInput
    simp only [← rules]
    exact ⟨fun all decision ⟨rule, included, same⟩ => same ▸ all rule included,
      fun all rule included => all _ ⟨rule, included, rfl⟩⟩
  obtain ⟨denies, allows⟩ := winningRule_decision matched
  rw [unanimous] at allows
  simp only [rules] at denies allows
  rw [field_decisionRecord, denied, allowed, verdict_decision reached, ← evidenceFailures_eq_nil_iff]
  by_cases trusted : evidenceFailures platform store prepared.evidence = []
  · by_cases requires : RequiresApproval prepared.evidence
    · simp [trusted, requires]
    · simp only [trusted, requires, ne_eq, not_true_eq_false, ↓reduceIte, not_false_eq_true, true_and, false_or]
      exact ⟨denies, allows⟩
  · simp [trusted]

/-- Exactly when a rule that denies, or the want of a matching rule, has the last word. -/
theorem denied_iff (platform : Platform) (request : Request) (prepared : Prepared) (store after : Store)
    (record : Record) (ready : prepare platform request = .ok prepared)
    (returned : (evaluate platform request).Returns store record after) (persisted : after ≠ store) :
    (Denying platform request (conditionInput platform store prepared) → record.field "decision" = .str "DENY") ↔
      ¬(Denying platform request (conditionInput platform store prepared) ∧
        Trusted platform store prepared.evidence ∧ RequiresApproval prepared.evidence) := by
  rw [(evaluate_decision ready returned persisted).1]
  constructor
  · rintro denied ⟨denying, trusted, requires⟩
    rcases denied denying with untrusted | ⟨free, -⟩
    · exact untrusted trusted
    · exact free requires
  · intro spared denying
    by_cases trusted : Trusted platform store prepared.evidence
    · exact .inr ⟨fun requires => spared ⟨denying, trusted, requires⟩, denying⟩
    · exact .inl trusted

end Evaluation

section Sample

/-- A platform for which records fit their schemas, as those of the sample do, but for decisions of another name. -/
def samplePlatform : Platform where
  uuid5 := id
  sha256 := id
  strip := id
  isRfc3339Timestamp _ := true
  instant _ := none
  violation kind record :=
    if kind = "PolicyDecision" ∧ record.field "decision" ∉ [.str "ALLOW", .str "DENY", .str "REQUIRE_APPROVAL"] then
      some ("$.decision", (record.field "decision").repr ++ " is not one of ['ALLOW', 'DENY', 'REQUIRE_APPROVAL']")
    else none
  recursionLimit := 1000
  isSemver _ := true
  schemaError _ := none
  isValid _ _ := true
  digest _ := "digest"

def sampleRevision : Json := .str "1111111111111111111111111111111111111111"

def sampleProvenance : Json := .obj [
  ("actor", .str "engine"), ("workflowExecutionId", .str "workflowexecution-bbbbbbbbbbbb"),
  ("repositoryRevision", sampleRevision), ("resourceRefs", .arr [])]

def sampleBase (kind id : String) : Record := [
  ("apiVersion", .str "aep.dev/v1alpha1"), ("kind", .str kind), ("id", .str id), ("traceId", .str "trace-publication-1"),
  ("createdAt", .str "2026-08-06T11:00:00Z"), ("updatedAt", .str "2026-08-06T11:00:00Z"),
  ("taskExecutionId", .str "taskexecution-aaaaaaaaaaaa"), ("provenance", sampleProvenance)]

def samplePatch : Record := sampleBase "GeneratedArtifact" "generatedartifact-cccccccccccc" ++ [
  ("artifactType", .str "PATCH"), ("repositoryRevision", sampleRevision),
  ("contentAddress", .str "sha256:2222222222222222222222222222222222222222222222222222222222222222")]

def samplePassed : Record := sampleBase "EvaluationResult" "evaluationresult-dddddddddddd" ++ [
  ("evaluationRef", .obj [("kind", .str "Evaluation"), ("name", .str "tests"), ("version", .str "1.0.0")]),
  ("target", .obj [("type", .str "GeneratedArtifact"), ("id", .str "generatedartifact-cccccccccccc")]),
  ("status", .str "SUCCEEDED"), ("outcome", .str "PASS")]

def samplePrior : Record := sampleBase "PolicyDecision" "policydecision-a22222222222" ++ [
  ("gate", .str "PRE_EXECUTION_CAPABILITY"), ("policyRefs", .arr []), ("action", .str "github.create_pr"),
  ("decision", .str "REQUIRE_APPROVAL"), ("reason", .str "The owner approves pull requests."),
  ("approvalRequired", .bool true), ("evaluatedAt", .str "2026-08-06T11:00:00Z"), ("subject", .str "agent"),
  ("resourceScope", .obj []), ("evaluatedRule", .null), ("matchedRules", .arr [])]

def sampleStore : Store where
  objects := [("generatedartifact-cccccccccccc", samplePatch), ("evaluationresult-dddddddddddd", samplePassed),
    ("policydecision-a22222222222", samplePrior)]

def samplePolicy (effect : String) : ApplicablePolicy where
  scope := .workspace
  resource := [("apiVersion", .str "aep.dev/v1alpha1"), ("kind", .str "Policy"),
    ("metadata", .obj [("name", .str "publication"), ("version", .str "1.0.0")]),
    ("spec", .obj [("type", .str "publication"), ("rules", .arr [.obj [("effect", .str effect)]])])]

def sampleRequest (effect : String) (priors : List Json) : Request where
  decisionId := .str "policydecision-eeeeeeeeeeee"
  taskExecutionId := .str "taskexecution-aaaaaaaaaaaa"
  candidateAction := .obj [("action", .str "github.create_pr"), ("target", .obj [("repositoryRevision", sampleRevision)])]
  requiredArtifactIds := .arr [.str "generatedartifact-cccccccccccc"]
  artifacts := .arr [.obj samplePatch]
  requiredEvaluationIds := .arr [.str "evaluationresult-dddddddddddd"]
  evaluationResults := .arr [.obj samplePassed]
  priorPolicyDecisions := .arr priors
  applicablePolicies := [samplePolicy effect]
  actor := .str "TaskExecution"
  resourceScope := .obj [("repository", .str "acme/widgets")]
  correlation := .context ⟨"trace-publication-1", "workflowexecution-bbbbbbbbbbbb", some "taskexecution-aaaaaaaaaaaa"⟩
  timestamp := .str "2026-08-06T12:00:00Z"

def Persists (effect : String) (priors : List Json) (decision : String) : Prop :=
  ((evaluate samplePlatform (sampleRequest effect priors) sampleStore).1.map fun record => record.field "decision") =
      .ok (.str decision) ∧
    (evaluate samplePlatform (sampleRequest effect priors) sampleStore).2 ≠ sampleStore

instance (effect : String) (priors : List Json) (decision : String) : Decidable (Persists effect priors decision) :=
  inferInstanceAs (Decidable (_ ∧ _))

theorem Persists.returns {effect decision : String} {priors : List Json} (persists : Persists effect priors decision) :
    ∃ prepared record after, prepare samplePlatform (sampleRequest effect priors) = .ok prepared ∧
      (evaluate samplePlatform (sampleRequest effect priors)).Returns sampleStore record after ∧ after ≠ sampleStore ∧
        record.field "decision" = .str decision := by
  obtain ⟨decided, persisted⟩ := persists
  rcases ran : evaluate samplePlatform (sampleRequest effect priors) sampleStore with ⟨error | record, after⟩
  · rw [ran] at decided
    cases decided
  · rw [ran] at decided persisted
    obtain ⟨prepared, -, -, ready, -⟩ := evaluate_persists ran persisted
    exact ⟨prepared, record, after, ready, ran, persisted, Except.ok.inj decided⟩

theorem denied_iff_sample : ∃ prepared record after,
    prepare samplePlatform (sampleRequest "deny" []) = .ok prepared ∧
      (evaluate samplePlatform (sampleRequest "deny" [])).Returns sampleStore record after ∧
      ((Denying samplePlatform (sampleRequest "deny" []) (conditionInput samplePlatform sampleStore prepared) →
          record.field "decision" = .str "DENY") ↔
        ¬(Denying samplePlatform (sampleRequest "deny" []) (conditionInput samplePlatform sampleStore prepared) ∧
          Trusted samplePlatform sampleStore prepared.evidence ∧ RequiresApproval prepared.evidence)) := by
  have persists : Persists "deny" [] "DENY" := by decide +kernel
  obtain ⟨prepared, record, after, ready, returned, persisted, -⟩ := persists.returns
  exact ⟨prepared, record, after, ready, returned, denied_iff _ _ _ _ _ _ ready returned persisted⟩

/-- A rule denies, and what is persisted asks for an approval. -/
theorem denial_overruled : ∃ platform request prepared store record after,
    prepare platform request = .ok prepared ∧ (evaluate platform request).Returns store record after ∧ after ≠ store ∧
      Denying platform request (conditionInput platform store prepared) ∧
        record.field "decision" ≠ .str "DENY" := by
  have persists : Persists "deny" [.obj samplePrior] "REQUIRE_APPROVAL" := by decide +kernel
  obtain ⟨prepared, record, after, ready, returned, persisted, decided⟩ := persists.returns
  refine ⟨_, _, prepared, sampleStore, record, after, ready, returned, persisted, .inl ?_, by rw [decided]; decide⟩
  refine ⟨samplePolicy "deny", List.mem_singleton.mpr rfl, .obj [("effect", .str "deny")], ?_, rfl, fun _ _ => rfl⟩
  exact List.mem_singleton.mpr rfl

end Sample

end Aep.PublicationPolicy

namespace Aep.PublicationPolicy

open StateAction RuntimeStore

variable {platform : Platform} {store after : Store} {request : Request} {prepared : Prepared} {record : Record}

section Arguments

def members : Json → List Json
  | .arr items => items
  | .obj fields => (Dict.keys fields).map .str
  | _ => []

theorem iterate_ok {value : Json} {items : List Json} (visited : iterate value = .ok items) : items = members value := by
  unfold iterate at visited
  unfold members
  split at visited <;> cases visited <;> rfl

theorem requireText_ok {field text : String} {value : Json} (read : requireText field value = .ok text) :
    value = .str text ∧ text ≠ "" := by
  unfold requireText at read
  split at read
  · split at read
    · cases read
    · rename_i named
      cases read
      exact ⟨rfl, named⟩
  · cases read

theorem requireMapping_ok {field : String} {value : Json} {fields : Record}
    (read : requireMapping field value = .ok fields) : value = .obj fields := by
  unfold requireMapping at read
  split at read
  · rename_i mapping
    cases read
    exact Json.asRecord?_eq_some.mp mapping
  · cases read

theorem addRecord_ok {name : String} {earlier later : Dict String Record} {item : Json}
    (added : addRecord name earlier item = .ok later) :
    ∃ (record : Record) (id : String), item = .obj record ∧ record.field "id" = .str id ∧ earlier.get? id = none ∧
      later = earlier.set id record := by
  unfold addRecord at added
  cases mapping : item.asRecord? with
  | none =>
    rw [mapping] at added
    cases added
  | some record =>
    rw [mapping] at added
    simp only [Result.bind_eq_ok, Result.raiseIf_eq_ok, Result.pure_eq_ok] at added
    obtain ⟨id, read, -, fresh, rfl⟩ := added
    exact ⟨record, id, Json.asRecord?_eq_some.mp mapping, (requireText_ok read).1, Dict.get?_eq_none.mpr fresh, rfl⟩

theorem addRecords_ok {name : String} {items : List Json} {earlier result : Dict String Record}
    (added : items.foldlM (addRecord name) earlier = .ok result) :
    (∀ id record, earlier.get? id = some record → result.get? id = some record) ∧
      (∀ id record, result.get? id = some record → earlier.get? id = some record ∨
        .obj record ∈ items ∧ record.field "id" = .str id) ∧
      ∀ item ∈ items, ∃ (record : Record) (id : String), item = .obj record ∧ record.field "id" = .str id ∧ result.get? id = some record := by
  induction items generalizing earlier with
  | nil =>
    cases added
    exact ⟨fun _ _ found => found, fun _ _ found => .inl found, fun _ member => by cases member⟩
  | cons item rest ih =>
    rw [List.foldlM_cons, Result.bind_eq_ok] at added
    obtain ⟨middle, first, others⟩ := added
    obtain ⟨new, id, rfl, named, fresh, rfl⟩ := addRecord_ok first
    obtain ⟨kept, origin, present⟩ := ih others
    refine ⟨fun other record found => kept other record ?_, fun other record found => ?_, fun item member => ?_⟩
    · have different : id ≠ other := by
        rintro rfl
        rw [fresh] at found
        cases found
      rwa [Dict.get?_set_ne _ _ different]
    · rcases origin other record found with before | ⟨listed, sameId⟩
      · rw [Dict.get?_set] at before
        split at before
        · rename_i same
          cases before
          exact .inr ⟨List.mem_cons_self, same ▸ named⟩
        · exact .inl before
      · exact .inr ⟨List.mem_cons_of_mem _ listed, sameId⟩
    · rcases List.mem_cons.mp member with rfl | later
      · exact ⟨new, id, rfl, named, kept id new (Dict.get?_set_self _ _ _)⟩
      · exact present item later

theorem recordsById_ok {name : String} {records : Json} {result : Dict String Record}
    (read : recordsById name records = .ok result) :
    (∀ id record, result.get? id = some record → .obj record ∈ members records ∧ record.field "id" = .str id) ∧
      ∀ item ∈ members records, ∃ (record : Record) (id : String), item = .obj record ∧ record.field "id" = .str id ∧
        result.get? id = some record := by
  simp only [recordsById, Result.bind_eq_ok] at read
  obtain ⟨-, -, items, visited, added⟩ := read
  obtain rfl := iterate_ok visited
  obtain ⟨-, origin, present⟩ := addRecords_ok added
  exact ⟨fun id record found => (origin id record found).resolve_left (by simp), present⟩

theorem validatedId_ok {name id : String} {item : Json} (read : validatedId name item = .ok id) : item = .str id := by
  unfold validatedId at read
  split at read
  · split at read
    · cases read
    · cases read
      rfl
  · cases read

theorem validatedIds_ok {name : String} {values : Json} {ids : List String}
    (read : validatedIds name values = .ok ids) : members values = ids.map .str := by
  simp only [validatedIds, Result.bind_eq_ok, Result.pure_eq_ok] at read
  obtain ⟨-, -, items, visited, checked, mapped, -, -, rfl⟩ := read
  obtain rfl := iterate_ok visited
  exact Result.eq_map_of_mapM mapped fun _ _ valid => validatedId_ok valid

structure Reads (platform : Platform) (request : Request) (prepared : Prepared) : Prop where
  revision : mappingField (mappingField request.candidateAction "target") "repositoryRevision" =
    .str prepared.evidence.repositoryRevision
  correlation : ∃ context, request.correlation.read platform = .ok context ∧
    context.traceId = prepared.evidence.traceId ∧ context.workflowExecutionId = prepared.evidence.workflowExecutionId
  artifactIds : members request.requiredArtifactIds = prepared.evidence.artifactIds.map .str
  evaluationIds : members request.requiredEvaluationIds = prepared.evidence.evaluationIds.map .str
  artifacts : recordsById "artifacts" request.artifacts = .ok prepared.evidence.artifacts
  evaluations : recordsById "evaluation_results" request.evaluationResults = .ok prepared.evidence.evaluations
  priors : recordsById "prior_policy_decisions" request.priorPolicyDecisions = .ok prepared.evidence.priorDecisions

theorem bindCorrelation_ok {context bound : WorkflowScheduler.CorrelationContext} {taskExecutionId : String}
    {provenance : Record} (agreed : WorkflowScheduler.bindCorrelation context taskExecutionId provenance = .ok bound) :
    bound = context := by
  unfold WorkflowScheduler.bindCorrelation at agreed
  simp only at agreed
  split at agreed
  · cases agreed
  split at agreed
  · cases agreed
  split at agreed
  · cases agreed
  · exact (Except.ok.inj agreed).symm

theorem prepare_reads (ready : prepare platform request = .ok prepared) : Reads platform request prepared := by
  simp only [prepare, Result.bind_eq_ok, Result.pure_eq_ok] at ready
  obtain ⟨_, -, taskExecutionId, -, _, -, _, -, candidateAction, candidate, _, -, _, -, target, targeted, revision, revised,
    context, bound, artifactIds, artifactsRead, evaluationIds, evaluationsRead, artifacts, artifactRecords, evaluations,
    evaluationRecords, priors, priorRecords, policies, -, rfl⟩ := ready
  simp only [boundCorrelation, Result.bind_eq_ok] at bound
  obtain ⟨given, read, agreed⟩ := bound
  obtain rfl := bindCorrelation_ok agreed
  refine ⟨?_, ⟨context, read, rfl, rfl⟩, validatedIds_ok artifactsRead, validatedIds_ok evaluationsRead, artifactRecords,
    evaluationRecords, priorRecords⟩
  have action := requireMapping_ok candidate
  have aim := requireMapping_ok targeted
  have asked := (requireText_ok revised).1
  rw [action]
  change mappingField (Dict.field candidateAction "target") "repositoryRevision" = _
  rw [aim]
  exact asked

end Arguments

/-- The record carries the trace, the workflow and the revision that the request names. -/
def OfExecution (evidence : Evidence) (record : Record) : Prop :=
  record.field "traceId" = .str evidence.traceId ∧ ∃ provenance : Record, record.field "provenance" = .obj provenance ∧
    provenance.field "workflowExecutionId" = .str evidence.workflowExecutionId ∧
      (record.get? "repositoryRevision").getD (provenance.field "repositoryRevision") =
        .str evidence.repositoryRevision

theorem sameExecution_iff {evidence : Evidence} : sameExecution evidence record = true ↔ OfExecution evidence record := by
  unfold sameExecution OfExecution
  cases mapping : (record.field "provenance").asRecord? with
  | none =>
    refine iff_of_false (by simp) ?_
    rintro ⟨-, provenance, found, -⟩
    rw [found] at mapping
    cases mapping
  | some provenance =>
    simp [Json.asRecord?_eq_some.mp mapping]

structure Publishable (platform : Platform) (request : Request) (prepared : Prepared) (store : Store) : Prop where
  reads : Reads platform request prepared
  artifacts_declared : members request.requiredArtifactIds ≠ []
  evaluations_declared : members request.requiredEvaluationIds ≠ []
  artifacts : ∀ id : String, .str id ∈ members request.requiredArtifactIds → ∃ record : Record,
    .obj record ∈ members request.artifacts ∧ record.field "id" = .str id ∧
      Genuine platform store "GeneratedArtifact" id record ∧ OfExecution prepared.evidence record
  patch : ∃ (id : String) (record : Record), .str id ∈ members request.requiredArtifactIds ∧
    .obj record ∈ members request.artifacts ∧ record.field "id" = .str id ∧ record.field "artifactType" = .str "PATCH"
  evaluations : ∀ id : String, .str id ∈ members request.requiredEvaluationIds → ∃ record : Record,
    .obj record ∈ members request.evaluationResults ∧ record.field "id" = .str id ∧
      Genuine platform store "EvaluationResult" id record ∧ OfExecution prepared.evidence record ∧
        record.field "status" = .str "SUCCEEDED" ∧ record.field "outcome" = .str "PASS"
  priors : ∀ item ∈ members request.priorPolicyDecisions, ∃ (record : Record) (id : String), item = .obj record ∧
    record.field "id" = .str id ∧ Genuine platform store "PolicyDecision" id record ∧
      record.field "decision" = .str "ALLOW"
  rules : Unanimous platform request (conditionInput platform store prepared)

theorem Trusted.publishable (reads : Reads platform request prepared) (trusted : Trusted platform store prepared.evidence)
    (free : ¬RequiresApproval prepared.evidence)
    (rules : Unanimous platform request (conditionInput platform store prepared))
    (decides : ∀ record : Record, platform.violation "PolicyDecision" record = none →
      record.field "decision" ∈ [Json.str "ALLOW", .str "DENY", .str "REQUIRE_APPROVAL"]) :
    Publishable platform request prepared store := by
  have required {ids : Json} {known : List String} (same : members ids = known.map .str) {id : String} :
      Json.str id ∈ members ids ↔ id ∈ known := by
    rw [same]
    simp
  refine ⟨reads, ?_, ?_, fun id needed => ?_, ?_, fun id needed => ?_, fun item supplied => ?_, rules⟩
  · rw [reads.artifactIds]
    simpa using trusted.artifacts_declared
  · rw [reads.evaluationIds]
    simpa using trusted.evaluations_declared
  · obtain ⟨record, found, genuine, -, same⟩ := trusted.artifacts id ((required reads.artifactIds).mp needed)
    obtain ⟨supplied, named⟩ := (recordsById_ok reads.artifacts).1 id record found
    exact ⟨record, supplied, named, genuine, sameExecution_iff.mp same⟩
  · obtain ⟨id, needed, record, found, isPatch⟩ := trusted.patch
    obtain ⟨supplied, named⟩ := (recordsById_ok reads.artifacts).1 id record found
    exact ⟨id, record, (required reads.artifactIds).mpr needed, supplied, named, isPatch⟩
  · obtain ⟨record, found, genuine, -, same, passed⟩ := trusted.evaluations id ((required reads.evaluationIds).mp needed)
    obtain ⟨supplied, named⟩ := (recordsById_ok reads.evaluations).1 id record found
    exact ⟨record, supplied, named, genuine, sameExecution_iff.mp same, passed⟩
  · obtain ⟨record, id, rfl, named, found⟩ := (recordsById_ok reads.priors).2 item supplied
    have listed : record ∈ prepared.evidence.priorDecisions.map Prod.snd :=
      List.mem_map.mpr ⟨(id, record), Dict.get?_eq_some_mem found, rfl⟩
    obtain ⟨genuine, -, notDenied⟩ := trusted.priors record listed
    rw [named] at genuine
    refine ⟨record, id, rfl, named, genuine, ?_⟩
    have values := decides record genuine.valid
    simp only [List.mem_cons, List.not_mem_nil, or_false] at values
    rcases values with allowed | denied | requires
    · exact allowed
    · exact absurd denied notDenied
    · exact absurd ⟨record, listed, requires⟩ free

/-- An allowance is persisted only for a publication whose evidence, prior decisions and rules all speak for it. -/
theorem allowed_publishable (platform : Platform) (request : Request) (store after : Store) (record : Record)
    (decides : ∀ record : Record, platform.violation "PolicyDecision" record = none →
      record.field "decision" ∈ [Json.str "ALLOW", .str "DENY", .str "REQUIRE_APPROVAL"])
    (returned : (evaluate platform request).Returns store record after) (persisted : after ≠ store)
    (allowed : record.field "decision" = .str "ALLOW") :
    ∃ prepared, prepare platform request = .ok prepared ∧ Publishable platform request prepared store := by
  obtain ⟨prepared, -, -, ready, -⟩ := evaluate_persists returned persisted
  obtain ⟨trusted, free, rules⟩ := (evaluate_decision ready returned persisted).2.mp allowed
  exact ⟨prepared, ready, trusted.publishable (prepare_reads ready) free rules decides⟩

theorem allowed_publishable_sample : ∃ record after,
    (evaluate samplePlatform (sampleRequest "allow" [])).Returns sampleStore record after ∧
      ∃ prepared, prepare samplePlatform (sampleRequest "allow" []) = .ok prepared ∧
        Publishable samplePlatform (sampleRequest "allow" []) prepared sampleStore := by
  have persists : Persists "allow" [] "ALLOW" := by decide +kernel
  obtain ⟨-, record, after, -, returned, persisted, allowed⟩ := persists.returns
  refine ⟨record, after, returned, allowed_publishable _ _ _ after record (fun decision valid => ?_) returned persisted
    allowed⟩
  by_contra other
  change (if _ then some _ else none) = none at valid
  rw [if_pos ⟨rfl, other⟩] at valid
  cases valid

end Aep.PublicationPolicy
