import Aep.PublicationPolicy.Policies

namespace Aep.PublicationPolicy

open RuntimeStore

variable (platform : Platform)

/-- What a `for` loop over a value visits. -/
def iterate (value : Json) : Except PyError (List Json) :=
  match value with
  | .arr items => .ok items
  | .obj fields => .ok ((Dict.keys fields).map .str)
  | _ => .error (typeError "object is not iterable")

def addRecord (name : String) (result : Dict String Record) (record : Json) :
    Except PyError (Dict String Record) :=
  match record.asRecord? with
  | none => .error (contractError (name ++ " must contain mappings"))
  | some value => do
    let recordId ← requireText (name ++ " record id") (value.field "id")
    Result.raiseIf (recordId ∈ result.keys)
      (contractError (name ++ " contains duplicate id " ++ (Json.str recordId).repr))
    return result.set recordId value

def recordsById (name : String) (records : Json) : Except PyError (Dict String Record) := do
  Result.raiseIf (records.isString = true) (contractError (name ++ " must be a sequence of mappings"))
  (← iterate records).foldlM (addRecord name) []

def validatedId (name : String) (item : Json) : Except PyError String :=
  match item with
  | .str id => if id = "" then .error (contractError (name ++ " must contain non-empty string ids")) else .ok id
  | _ => .error (contractError (name ++ " must contain non-empty string ids"))

def validatedIds (name : String) (values : Json) : Except PyError (List String) := do
  Result.raiseIf (values.isString = true) (contractError (name ++ " must be a sequence of ids"))
  let ids ← (← iterate values).mapM (validatedId name)
  Result.raiseIf (¬ids.Nodup) (contractError (name ++ " must contain unique ids"))
  return ids

def runtimeEvidenceError (kind : String) (record : Record) : Option String :=
  (platform.violation kind record).map fun error => error.1 ++ ": " ++ error.2

/-- What publication is asked for: the request's identities and the records it comes with. -/
structure Evidence where
  traceId : String
  workflowExecutionId : String
  repositoryRevision : String
  artifactIds : List String
  artifacts : Dict String Record
  evaluationIds : List String
  evaluations : Dict String Record
  priorDecisions : Dict String Record

variable (store : Store) (evidence : Evidence)

def trustFailure (label kind id : String) (record : Record) : Option String :=
  match runtimeEvidenceError platform kind record with
  | some error => some (label ++ " " ++ id ++ " is invalid: " ++ error ++ ".")
  | none =>
    match store.get id with
    | none => some (label ++ " " ++ id ++ " is not persisted.")
    | some persisted =>
      if (Json.obj persisted).pyEq (.obj record) then none
      else some (label ++ " " ++ id ++ " does not match persisted evidence.")

def sameExecution (value : Record) : Bool :=
  match (value.field "provenance").asRecord? with
  | none => false
  | some provenance =>
    value.field "traceId" = .str evidence.traceId ∧
      provenance.field "workflowExecutionId" = .str evidence.workflowExecutionId ∧
        (value.get? "repositoryRevision").getD (provenance.field "repositoryRevision") =
          .str evidence.repositoryRevision

def missing (ids : List String) (records : Dict String Record) : List String :=
  ids.filter fun id => id ∉ records.keys

def missingFailures : List String :=
  (if missing evidence.artifactIds evidence.artifacts ≠ [] then
    ["Required artifacts are missing: " ++
      ", ".intercalate (missing evidence.artifactIds evidence.artifacts) ++ "."] else []) ++
  (if evidence.artifactIds = [] then ["At least one required artifact must be declared."] else []) ++
  (if missing evidence.evaluationIds evidence.evaluations ≠ [] then
    ["Required EvaluationResults are missing: " ++
      ", ".intercalate (missing evidence.evaluationIds evidence.evaluations) ++ "."] else []) ++
  (if evidence.evaluationIds = [] then
    ["Validation did not run: no required EvaluationResults were declared."] else [])

def artifactTrustFailure (artifactId : String) : Option String := do
  trustFailure platform store "GeneratedArtifact" "GeneratedArtifact" artifactId (← evidence.artifacts.get? artifactId)

def requiredArtifacts : List Record :=
  evidence.artifactIds.filterMap fun artifactId =>
    if artifactTrustFailure platform store evidence artifactId = none then evidence.artifacts.get? artifactId else none

def provenanceFailure (artifact : Record) : Option String :=
  if artifact.field "kind" ≠ .str "GeneratedArtifact" then
    some ("Artifact " ++ (artifact.field "id").text ++ " is not a GeneratedArtifact.")
  else if sameExecution evidence artifact = false then
    some ("GeneratedArtifact " ++ (artifact.field "id").text ++ " has mismatched provenance.")
  else none

def artifactFailures : List String :=
  evidence.artifactIds.filterMap (artifactTrustFailure platform store evidence) ++
  (if (requiredArtifacts platform store evidence).any fun artifact => artifact.field "artifactType" = .str "PATCH"
    then [] else ["Patch generation did not produce a required PATCH artifact."]) ++
  (requiredArtifacts platform store evidence).filterMap (provenanceFailure evidence)

def outcomeFailure (resultId : String) (result : Record) : Option String :=
  if result.field "kind" ≠ .str "EvaluationResult" then
    some ("Evidence " ++ resultId ++ " is not an EvaluationResult.")
  else if sameExecution evidence result = false then
    some ("EvaluationResult " ++ resultId ++ " has mismatched provenance.")
  else if result.field "status" ≠ .str "SUCCEEDED" then
    some ("Required EvaluationResult " ++ resultId ++ " did not complete successfully.")
  else if result.field "outcome" ≠ .str "PASS" then
    some ("Required EvaluationResult " ++ resultId ++ " failed.")
  else none

def evaluationFailure (resultId : String) : Option String := do
  let result ← evidence.evaluations.get? resultId
  (trustFailure platform store "EvaluationResult" "EvaluationResult" resultId result).or
    (outcomeFailure evidence resultId result)

def priorFailures (value : Record) : List String :=
  let decisionId := (value.field "id").text
  match trustFailure platform store "Prior PolicyDecision" "PolicyDecision" decisionId value with
  | some failure => [failure]
  | none =>
    (if value.field "traceId" ≠ .str evidence.traceId then
      ["Prior PolicyDecision " ++ decisionId ++ " has mismatched trace provenance."] else []) ++
    (if value.field "decision" = .str "DENY" then
      ["Prior PolicyDecision " ++ decisionId ++ " denied publication prerequisites."] else [])

def evidenceFailures : List String :=
  missingFailures evidence ++ artifactFailures platform store evidence ++
    evidence.evaluationIds.filterMap (evaluationFailure platform store evidence) ++
      (evidence.priorDecisions.map Prod.snd).flatMap (priorFailures platform store evidence)

/-- The record fits the schema of its kind and equals the stored record of the id. -/
structure Genuine (kind id : String) (record : Record) : Prop where
  valid : platform.violation kind record = none
  stored : ∃ persisted, store.get id = some persisted ∧ (Json.obj persisted).pyEq (.obj record) = true

/-- The request's evidence is complete, genuine, of the request's execution and passing, and no prior decision denies. -/
structure Trusted : Prop where
  artifacts_declared : evidence.artifactIds ≠ []
  evaluations_declared : evidence.evaluationIds ≠ []
  artifacts : ∀ id ∈ evidence.artifactIds, ∃ record, evidence.artifacts.get? id = some record ∧
    Genuine platform store "GeneratedArtifact" id record ∧ record.field "kind" = .str "GeneratedArtifact" ∧
      sameExecution evidence record = true
  patch : ∃ id ∈ evidence.artifactIds, ∃ record, evidence.artifacts.get? id = some record ∧
    record.field "artifactType" = .str "PATCH"
  evaluations : ∀ id ∈ evidence.evaluationIds, ∃ record, evidence.evaluations.get? id = some record ∧
    Genuine platform store "EvaluationResult" id record ∧ record.field "kind" = .str "EvaluationResult" ∧
      sameExecution evidence record = true ∧ record.field "status" = .str "SUCCEEDED" ∧
        record.field "outcome" = .str "PASS"
  priors : ∀ record ∈ evidence.priorDecisions.map Prod.snd,
    Genuine platform store "PolicyDecision" (record.field "id").text record ∧
      record.field "traceId" = .str evidence.traceId ∧ record.field "decision" ≠ .str "DENY"

variable {platform store evidence}

section Trust

theorem trustFailure_eq_none {label kind id : String} {record : Record} :
    trustFailure platform store label kind id record = none ↔ Genuine platform store kind id record := by
  unfold trustFailure runtimeEvidenceError
  cases violated : platform.violation kind record with
  | some error =>
    refine iff_of_false (by simp) ?_
    rintro ⟨valid, -⟩
    rw [violated] at valid
    cases valid
  | none =>
    cases found : store.get id with
    | none =>
      refine iff_of_false (by simp) ?_
      rintro ⟨-, persisted, present, -⟩
      rw [found] at present
      cases present
    | some persisted =>
      by_cases same : (Json.obj persisted).pyEq (.obj record) = true
      · exact iff_of_true (by simp [same]) ⟨violated, persisted, found, same⟩
      · refine iff_of_false (by simp [same]) ?_
        rintro ⟨-, other, present, equal⟩
        obtain rfl := Option.some.inj (found.symm.trans present)
        exact same equal

theorem missing_eq_nil {ids : List String} {records : Dict String Record} :
    missing ids records = [] ↔ ∀ id ∈ ids, ∃ record, records.get? id = some record := by
  unfold missing
  simp only [List.filter_eq_nil_iff, decide_eq_true_eq, not_not]
  refine forall₂_congr fun id _ => ?_
  rw [← not_iff_not, ← Dict.get?_eq_none, Option.eq_none_iff_forall_ne_some, not_exists]

theorem missingFailures_eq_nil : missingFailures evidence = [] ↔
    evidence.artifactIds ≠ [] ∧ evidence.evaluationIds ≠ [] ∧
      (∀ id ∈ evidence.artifactIds, ∃ record, evidence.artifacts.get? id = some record) ∧
        ∀ id ∈ evidence.evaluationIds, ∃ record, evidence.evaluations.get? id = some record := by
  unfold missingFailures
  simp only [List.append_eq_nil_iff, ← missing_eq_nil]
  split <;> split <;> split <;> split <;> simp_all

theorem artifactTrustFailure_eq_none {id : String} {record : Record}
    (supplied : evidence.artifacts.get? id = some record) :
    artifactTrustFailure platform store evidence id = none ↔ Genuine platform store "GeneratedArtifact" id record := by
  unfold artifactTrustFailure
  rw [supplied]
  exact trustFailure_eq_none

theorem provenanceFailure_eq_none {artifact : Record} : provenanceFailure evidence artifact = none ↔
    artifact.field "kind" = .str "GeneratedArtifact" ∧ sameExecution evidence artifact = true := by
  unfold provenanceFailure
  split
  · rename_i other
    exact iff_of_false (by simp) fun both => other both.1
  · rename_i kind
    split
    · rename_i mismatched
      exact iff_of_false (by simp) fun both => by simp [mismatched] at both
    · rename_i matched
      exact iff_of_true rfl ⟨not_not.mp kind, by simpa using matched⟩

theorem outcomeFailure_eq_none {id : String} {result : Record} : outcomeFailure evidence id result = none ↔
    result.field "kind" = .str "EvaluationResult" ∧ sameExecution evidence result = true ∧
      result.field "status" = .str "SUCCEEDED" ∧ result.field "outcome" = .str "PASS" := by
  unfold outcomeFailure
  by_cases kind : result.field "kind" = .str "EvaluationResult"
  · by_cases matched : sameExecution evidence result = true
    · by_cases status : result.field "status" = .str "SUCCEEDED"
      · by_cases outcome : result.field "outcome" = .str "PASS" <;> simp [kind, matched, status, outcome]
      · simp [kind, matched, status]
    · simp [kind, matched]
  · simp [kind]

theorem mem_requiredArtifacts {record : Record} : record ∈ requiredArtifacts platform store evidence ↔
    ∃ id ∈ evidence.artifactIds, artifactTrustFailure platform store evidence id = none ∧
      evidence.artifacts.get? id = some record := by
  unfold requiredArtifacts
  simp only [List.mem_filterMap, Option.ite_none_right_eq_some]

theorem artifactFailures_eq_nil
    (supplied : ∀ id ∈ evidence.artifactIds, ∃ record, evidence.artifacts.get? id = some record) :
    artifactFailures platform store evidence = [] ↔
      (∀ id ∈ evidence.artifactIds, ∃ record, evidence.artifacts.get? id = some record ∧
        Genuine platform store "GeneratedArtifact" id record ∧ record.field "kind" = .str "GeneratedArtifact" ∧
          sameExecution evidence record = true) ∧
        ∃ id ∈ evidence.artifactIds, ∃ record, evidence.artifacts.get? id = some record ∧
          record.field "artifactType" = .str "PATCH" := by
  unfold artifactFailures
  simp only [List.append_eq_nil_iff, List.filterMap_eq_nil_iff, mem_requiredArtifacts, ite_eq_left_iff, reduceCtorEq,
    imp_false, not_not, List.any_eq_true, decide_eq_true_eq, provenanceFailure_eq_none]
  constructor
  · rintro ⟨⟨trusted, record, ⟨id, required, -, found⟩, isPatch⟩, matched⟩
    refine ⟨fun other needed => ?_, id, required, record, found, isPatch⟩
    obtain ⟨artifact, present⟩ := supplied other needed
    have genuine := (artifactTrustFailure_eq_none present).mp (trusted other needed)
    exact ⟨artifact, present, genuine, matched artifact ⟨other, needed, trusted other needed, present⟩⟩
  · rintro ⟨trusted, id, required, record, found, isPatch⟩
    have trusts : ∀ other ∈ evidence.artifactIds, artifactTrustFailure platform store evidence other = none := by
      intro other needed
      obtain ⟨artifact, present, genuine, -⟩ := trusted other needed
      exact (artifactTrustFailure_eq_none present).mpr genuine
    refine ⟨⟨trusts, record, ⟨id, required, trusts id required, found⟩, isPatch⟩, ?_⟩
    rintro artifact ⟨other, needed, -, present⟩
    obtain ⟨same, sameFound, -, matched⟩ := trusted other needed
    obtain rfl := Option.some.inj (present.symm.trans sameFound)
    exact matched

theorem evaluationFailure_eq_none {id : String} {result : Record}
    (supplied : evidence.evaluations.get? id = some result) : evaluationFailure platform store evidence id = none ↔
      Genuine platform store "EvaluationResult" id result ∧ result.field "kind" = .str "EvaluationResult" ∧
        sameExecution evidence result = true ∧ result.field "status" = .str "SUCCEEDED" ∧
          result.field "outcome" = .str "PASS" := by
  unfold evaluationFailure
  rw [supplied]
  change Option.or _ _ = none ↔ _
  rw [Option.or_eq_none_iff, trustFailure_eq_none, outcomeFailure_eq_none]

theorem priorFailures_eq_nil {value : Record} : priorFailures platform store evidence value = [] ↔
    Genuine platform store "PolicyDecision" (value.field "id").text value ∧
      value.field "traceId" = .str evidence.traceId ∧ value.field "decision" ≠ .str "DENY" := by
  unfold priorFailures
  cases failed : trustFailure platform store "Prior PolicyDecision" "PolicyDecision" (value.field "id").text value with
  | some failure =>
    refine iff_of_false (by simp [failed]) fun trusted => ?_
    rw [trustFailure_eq_none.mpr trusted.1] at failed
    cases failed
  | none =>
    have genuine := trustFailure_eq_none.mp failed
    simp only [failed, genuine, true_and, List.append_eq_nil_iff, ite_eq_right_iff, reduceCtorEq, imp_false, ne_eq,
      not_not]

theorem evidenceFailures_eq_nil_iff :
    evidenceFailures platform store evidence = [] ↔ Trusted platform store evidence := by
  unfold evidenceFailures
  simp only [List.append_eq_nil_iff, missingFailures_eq_nil, List.filterMap_eq_nil_iff, List.flatMap_eq_nil_iff,
    priorFailures_eq_nil]
  constructor
  · rintro ⟨⟨⟨⟨artifactsDeclared, evaluationsDeclared, supplied, evaluated⟩, artifacts⟩, evaluations⟩, priors⟩
    obtain ⟨trusted, patch⟩ := (artifactFailures_eq_nil supplied).mp artifacts
    refine ⟨artifactsDeclared, evaluationsDeclared, trusted, patch, fun id required => ?_, priors⟩
    obtain ⟨result, found⟩ := evaluated id required
    exact ⟨result, found, (evaluationFailure_eq_none found).mp (evaluations id required)⟩
  · rintro ⟨artifactsDeclared, evaluationsDeclared, artifacts, patch, evaluations, priors⟩
    have supplied : ∀ id ∈ evidence.artifactIds, ∃ record, evidence.artifacts.get? id = some record :=
      fun id required => (artifacts id required).imp fun _ trusted => trusted.1
    have evaluated : ∀ id ∈ evidence.evaluationIds, ∃ record, evidence.evaluations.get? id = some record :=
      fun id required => (evaluations id required).imp fun _ trusted => trusted.1
    refine ⟨⟨⟨⟨artifactsDeclared, evaluationsDeclared, supplied, evaluated⟩,
      (artifactFailures_eq_nil supplied).mpr ⟨artifacts, patch⟩⟩, fun id required => ?_⟩, priors⟩
    obtain ⟨result, found, trusted⟩ := evaluations id required
    exact (evaluationFailure_eq_none found).mpr trusted

end Trust

end Aep.PublicationPolicy
