import Aep.BuildImplementationPlan.Accepted
import Mathlib.Data.List.Perm.Basic

namespace Aep.BuildImplementationPlan

open Result

namespace Accepted

variable {analysis plan : Record} {accounts : Accounts} {items : List Record} {bound : List (String × List Key)}
  {evidence : List Record}
  (accepted : Accepted analysis plan accounts items bound) (valid : ValidPlan plan)
  (collected : evidence.foldlM addEvidence {} = .ok accounts.evidence)

include accepted valid

theorem classified_iff :
    ((recordsOf plan "acceptanceCriteriaClassifications").map fun item => item.field "criterionId").Perm
      ((analysedCriteria analysis).map .str) ↔ (analysedCriteria analysis).Nodup := by
  obtain ⟨perm, distinct⟩ := accepted.criteria_perm valid
  have pairs : (bound.map fun entry => Json.str entry.1) = (bound.map Prod.fst).map .str := by
    rw [List.map_map]
    rfl
  rw [(accepted.bound_criteria valid).2, pairs]
  constructor
  · intro same
    have names := (List.map_perm_map_iff fun _ _ equal => Json.str.inj equal).mp same
    exact names.nodup_iff.mp distinct
  · intro unique
    have keys := (keys_criteriaById analysis).2 unique
    rw [accepted.criteria, keys] at perm
    exact perm.map _

omit valid in
theorem analysed_mem {criterion : String} {expected : List Key}
    (entry : accounts.expected.get? criterion = some expected) (key : Key) :
    key ∈ expected ↔ Analysed analysis criterion key := by
  have computed := accepted.expected
  exact expected_mem computed entry key

theorem checked_of_classifies {item : Record} {criterion disposition : String}
    (classified : Classifies plan item criterion disposition) :
    Classification item ∧ ∃ bindings, Checked accounts item criterion bindings := by
  obtain ⟨member, named, _⟩ := classified
  rw [accepted.items_eq] at member
  exact ⟨accepted.shaped valid member, accepted.item_checked valid member named⟩

theorem unsupportedBindings {item : Record} {criterion : String}
    (classified : Classifies plan item criterion "UNSUPPORTED") : keysOf item "requiredInsertions" = [] := by
  obtain ⟨_, bindings, checked⟩ := accepted.checked_of_classifies valid classified
  obtain ⟨_, empty⟩ := checkUnsupported_ok (checked.unsupported classified.2.2)
  rw [List.eq_nil_iff_forall_not_mem]
  intro key member
  have inside := (checked.members key).mpr member
  rw [empty] at inside
  cases inside

theorem evaluatorInsertions {item : Record} {criterion : String}
    (classified : Classifies plan item criterion "EVALUATOR_OWNED") (key : Key) : ¬Analysed analysis criterion key := by
  obtain ⟨_, bindings, checked⟩ := accepted.checked_of_classifies valid classified
  obtain ⟨_, _, expected⟩ := checkEvaluatorOwned_ok (checked.evaluatorOwned classified.2.2)
  intro analysed
  have member := (accepted.analysed_mem expected key).mpr analysed
  cases member

include collected

theorem required_bindings {item : Record} {criterion : String}
    (classified : Classifies plan item criterion "REQUIRED_INSERTION") :
    (∀ key, key ∈ keysOf item "requiredInsertions" ↔ Analysed analysis criterion key) ∧
      keysOf item "requiredInsertions" ≠ [] ∧
        ∀ key ∈ keysOf item "requiredInsertions", (Supports evidence criterion key.1 ∨ Reserved evidence key.1) ∧
          ¬Contradicts evidence criterion key.1 := by
  obtain ⟨shaped, bindings, checked⟩ := accepted.checked_of_classifies valid classified
  have named := named_of_field shaped classified.2.1
  have texts : ∀ key ∈ bindings, isKey key :=
    fun key member => isKey_of_mem shaped ((checked.members key).mp member)
  obtain ⟨expected, entry, same, unrefuted, supported, filled⟩ :=
    checkRequired_ok texts (checked.required classified.2.2)
  have analysed := accepted.analysed_mem entry
  refine ⟨fun key => ?_, fun empty => ?_, fun key member => ⟨?_, fun contradicted => ?_⟩⟩
  · rw [← checked.members, same, analysed]
  · apply filled
    rw [List.eq_nil_iff_forall_not_mem]
    intro key member
    have inside := (checked.members key).mp member
    rw [empty] at inside
    cases inside
  · have inside := (same key).mp ((checked.members key).mpr member)
    exact (noted_supported collected named key.1).mp (supported key inside)
  · have inside := (same key).mp ((checked.members key).mpr member)
    have noting := noted_unsupported collected named contradicted
    rw [unrefuted key inside] at noting
    cases noting

theorem accounted_iff : Accounted analysis plan evidence ↔ Unambiguous analysis plan evidence := by
  constructor
  · intro accounted
    constructor
    · exact (accepted.classified_iff valid).mp accounted.classified
    · intro item criterion classified key analysed _
      obtain ⟨same, _, supported⟩ := accounted.required item criterion classified
      exact (supported key ((same key).mpr analysed)).1
  · intro unambiguous
    have keys := (keys_criteriaById analysis).2 unambiguous.distinct
    constructor
    · exact (accepted.classified_iff valid).mpr unambiguous.distinct
    · intro item criterion classified
      obtain ⟨same, filled, supported⟩ := accepted.required_bindings valid collected classified
      refine ⟨same, filled, fun key member => ⟨?_, (supported key member).2⟩⟩
      rcases (supported key member).1 with own | reserved
      · exact own
      · exact unambiguous.own item criterion classified key ((same key).mp member) reserved
    · exact accepted.insertions_mem valid
    · intro criterion
      rw [accepted.unsupported_mem, ← accepted.classifiedAs_mem valid]
      exact (sameCriteria_mem accepted.unsupportedClassified criterion).symm
    · intro item criterion classified
      exact accepted.unsupportedBindings valid classified
    · intro criterion
      rw [← accepted.classifiedAs_mem valid, sameCriteria_mem accepted.evaluatorClassified]
      rw [evaluatorCriteria_mem accepted.evaluatorCriteria, accepted.criteria, keys]
    · intro item criterion classified
      exact accepted.evaluatorInsertions valid classified

end Accepted

section Calls

variable {store : ArtifactStore} {taskExecution contextPackage : Record} {output analysis : Json}

theorem checkInvocationOutput_ok (found : issueAnalysis store taskExecution = .ok (some analysis)) {plan : Record}
    (checked : checkInvocationOutput store taskExecution contextPackage (.obj plan) = .ok ()) :
    ∃ fields evidence bindings, analysis = .obj fields ∧ evidenceOf contextPackage = .ok evidence ∧
      evidence.foldlM addEvidence {} = .ok bindings ∧ checkAccounting plan fields bindings = .ok () := by
  simp only [checkInvocationOutput, Json.asRecord?_obj, bind_eq_ok] at checked
  obtain ⟨evidence, listed, _, _, _, _, _, _, _, _, bindings, collected, checked⟩ := checked
  simp only [validateAcceptanceCriteriaAccounting, Json.asRecord?_obj, found, ok_bind, bind_eq_ok] at checked
  obtain ⟨fields, recorded, checked⟩ := checked
  have same : analysis = .obj fields := by
    unfold WorkflowScheduler.asDict at recorded
    split at recorded
    · rename_i read
      cases recorded
      exact Json.asRecord?_eq_some.mp read
    · cases recorded
  exact ⟨fields, evidence, bindings, same, listed, collected, checked⟩

end Calls

namespace Sample

def taskExecution : Record := [("dependencyTaskExecutionIds", .arr [.str "task-execution-1"])]

def insertion : Json := .obj [("path", .str "README.md"), ("value", .str "Status: Completed")]

def criterion (id : String) : Json := .obj [("id", .str id), ("text", .str id)]

def analysis (criteria : List String) : Record := [
  ("acceptanceCriteria", .arr (criteria.map criterion)),
  ("acceptanceCriterionInsertions", .arr (criteria.map fun id =>
    .obj [("criterionId", .str id), ("requiredInsertions", .arr [insertion])]))]

def store (criteria : List String) : ArtifactStore where
  listByTaskExecution _ := .ok [[("id", .str "artifact-1"), ("artifactType", .str "ISSUE_ANALYSIS")]]
  document _ := .ok (.obj (analysis criteria))

def classification (id : String) : Record := [
  ("criterionId", .str id), ("criterion", .str id), ("classification", .str "REQUIRED_INSERTION"),
  ("requiredInsertions", .arr [insertion])]

def plan (criteria : List String) : Record := [
  ("intendedFiles", .arr [.str "README.md"]), ("deletionAuthorizedFiles", .arr []), ("noChangeFiles", .arr []),
  ("requiredInsertions", .arr [insertion]), ("unsupportedAcceptanceCriteria", .arr []),
  ("acceptanceCriteriaClassifications", .arr (criteria.map fun id => .obj (classification id))),
  ("tests", .arr [.str "python -m unittest"]), ("assumptions", .arr []), ("risks", .arr []),
  ("implementationSteps", .arr [.str "Set the status."]), ("authorizedPaths", .arr [.str "README.md"]),
  ("requiredChangePaths", .arr [.str "README.md"]), ("verifiedNoChangePaths", .arr []), ("unsupportedPaths", .arr []),
  ("pathEvidence", .arr [.str "README.md"]), ("evaluatorEvidence", .arr [])]

def evidence (criterion : String) : Record := [
  ("path", .str "README.md"), ("authorizationRole", .str "EDITABLE"),
  ("criterionBindings", .arr [.obj [("criterionId", .str criterion), ("predicateResult", .str "MATCH")]])]

def contextPackage (criterion : String) : Record := [
  ("elements", .arr [.obj [("type", .str "planning-evidence"), ("content", .obj (evidence criterion))]])]

end Sample

end Aep.BuildImplementationPlan
