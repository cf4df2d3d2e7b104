import Aep.WorkflowScheduler.TaskExecution

namespace Aep.BuildImplementationPlan

open RuntimeStore
open WorkflowScheduler (item asDict iterate)

abbrev Key : Type := Json × Json

abbrev Binding : Type := String × Json

def contractError (message : String) : PyError := { errorClass := .buildImplementationPlanContractError, message }

def LEGACY : String := "__legacy__"

def hashed (value : Json) : Except PyError Json :=
  match value with
  | .arr _ => .error (typeError "unhashable type: 'list'")
  | .obj _ => .error (typeError "unhashable type: 'dict'")
  | other => .ok other

def getOr (fields : Record) (key : String) (default : Json) : Json := (fields.get? key).getD default

def mappings (value : Json) : Except PyError (List Record) := do return (← iterate value).filterMap Json.asRecord?

/-- `key in values`, by Python's equality. -/
def has (values : List Key) (key : Key) : Bool := values.any fun other => other.1.pyEq key.1 && other.2.pyEq key.2

def sameMembers (left right : List Key) : Bool := left.all (has right) && right.all (has left)

section Evidence

/-- The evidence bindings that planning evidence supports, and those that it does not. -/
structure Bindings where
  supported : List Binding := []
  unsupported : List Binding := []

def evidenceOf (contextPackage : Record) : Except PyError (List Record) := do
  let elements ← mappings (getOr contextPackage "elements" (.arr []))
  return (elements.filter fun element => element.field "type" = .str "planning-evidence").filterMap fun element =>
    (element.field "content").asRecord?

def addBinding (path : Json) (bindings : Bindings) (binding : Record) : Bindings :=
  match binding.field "criterionId" with
  | .str criterionId =>
    if criterionId = "" then bindings
    else
      let predicate := binding.field "predicateResult"
      let postcondition := binding.field "postconditionResult"
      let refuted := predicate = .str "UNSUPPORTED" ∨ predicate ≠ .str "MATCH" ∧ postcondition ≠ .str "MATCH"
      { supported := bindings.supported ++ if predicate = .str "MATCH" then [(criterionId, path)] else []
        unsupported := bindings.unsupported ++ if refuted then [(criterionId, path)] else [] }
  | _ => bindings

def allMatch (states : List Json) : Bool := states ≠ [] ∧ states.all (· = .str "MATCH")

def addLegacy (bindings : Bindings) (evidence : Record) : Except PyError Bindings := do
  let path := evidence.field "path"
  let states := (← mappings (getOr evidence "predicateResults" (.arr []))).map fun result => result.field "result"
  let postStates := (← mappings (getOr evidence "postconditionResults" (.arr []))).map fun result => result.field "result"
  if .str "UNSUPPORTED" ∈ states ∨ ¬(allMatch states ∨ allMatch postStates) then
    return { bindings with unsupported := bindings.unsupported ++ [(LEGACY, path)] }
  else if allMatch states then return { bindings with supported := bindings.supported ++ [(LEGACY, path)] }
  else return bindings

def addEvidence (bindings : Bindings) (evidence : Record) : Except PyError Bindings :=
  if evidence.field "authorizationRole" = .str "EVALUATOR_ONLY" then .ok bindings
  else
    match (evidence.field "criterionBindings").asItems? with
    | some items => .ok ((items.filterMap Json.asRecord?).foldl (addBinding (evidence.field "path")) bindings)
    | none => addLegacy bindings evidence

end Evidence

section Analysis

def criterionEntry (value : Json) : Option (String × String) := do
  let fields ← value.asRecord?
  return (← (fields.field "id").asString?, ← (fields.field "text").asString?)

def ofEntries (entries : List (String × String)) : Dict String String :=
  entries.foldl (fun found entry => found.set entry.1 entry.2) []

def criteriaById (analysis : Record) : Dict String String :=
  match (getOr analysis "acceptanceCriteria" (.arr [])).asItems? with
  | none => []
  | some records =>
    match records.filterMap criterionEntry with
    | [] => ofEntries ((records.filterMap Json.asString?).map fun text => (text, text))
    | entries => ofEntries entries

def criterionOf (fields : Record) : Json := getOr fields "criterionId" (fields.field "criterion")

def insertionKey (fields : Record) : Key := (fields.field "path", fields.field "value")

def isText : Json → Bool
  | .str text => text ≠ ""
  | _ => false

def unmapped : PyError := contractError "issue analysis must provide per-criterion insertion requirements"

def expectedKeys (found : List Key) : List Json → Except PyError (List Key)
  | [] => .ok found
  | value :: rest =>
    match value.asRecord? with
    | none => .error unmapped
    | some fields =>
      let key := insertionKey fields
      if ¬(isText key.1 ∧ isText key.2) then .error unmapped
      else if key ∈ found then
        .error (contractError "issue analysis insertion requirements must be unique per criterion")
      else expectedKeys (found ++ [key]) rest

def expectedRecord (criteria : Dict String String) (found : Dict String (List Key)) (record : Json) :
    Except PyError (Dict String (List Key)) :=
  match record.asRecord? with
  | none => .error unmapped
  | some fields =>
    match criterionOf fields, (fields.field "requiredInsertions").asItems? with
    | .str criterionId, some values =>
      if criterionId ∉ criteria.keys ∨ criterionId ∈ found.keys then .error unmapped
      else do return found.set criterionId (← expectedKeys [] values)
    | _, _ => .error unmapped

def expectedByCriterion (criteria : Dict String String) (analysis : Record) : Except PyError (Dict String (List Key)) :=
  match (getOr analysis "acceptanceCriterionInsertions" (.arr [])).asItems? with
  | none => .error unmapped
  | some records => records.foldlM (expectedRecord criteria) []

def evaluatorCriteria (criteria : Dict String String) (analysis : Record) : Except PyError (List String) := do
  let requirements := (getOr analysis "evaluatorRequirements" (.arr [])).asItems?.getD []
  let named ← ((requirements.filterMap Json.asRecord?).map criterionOf).mapM hashed
  return criteria.keys.filter fun criterion => .str criterion ∈ named

end Analysis

section Plan

def classificationCriterionId (fields : Record) (criteria : Dict String String) : Option String :=
  match fields.field "criterionId", fields.field "criterion" with
  | .str criterionId, criterion =>
    if (criteria.get? criterionId).any fun text => criterion = .str text then some criterionId else none
  | _, .str criterion =>
    if criterion ∈ criteria.keys then some criterion
    else
      match criteria.filter fun entry => entry.2 = criterion with
      | [only] => some only.1
      | _ => none
  | _, _ => none

def classifiedOf (criteria : Dict String String) (plan : Record) : List (Option String) :=
  let items := (getOr plan "acceptanceCriteriaClassifications" (.arr [])).asItems?.getD []
  (items.filterMap Json.asRecord?).map fun fields => classificationCriterionId fields criteria

def Unclassified (criteria : Dict String String) (classified : List (Option String)) : Prop :=
  criteria = [] ∨ none ∈ classified ∨
    (classified.filterMap id).insertionSort (· ≤ ·) ≠ criteria.keys.insertionSort (· ≤ ·) ∨ ¬classified.Nodup

instance (criteria : Dict String String) (classified : List (Option String)) :
    Decidable (Unclassified criteria classified) := inferInstanceAs (Decidable (_ ∨ _ ∨ _ ∨ _))

def unsupportedValues (plan : Record) : Except PyError (List String) :=
  let malformed := contractError "unsupportedAcceptanceCriteria must contain unique criteria"
  match (getOr plan "unsupportedAcceptanceCriteria" (.arr [])).asItems? with
  | none => .error malformed
  | some values =>
    match values.mapM Json.asString? with
    | none => .error malformed
    | some texts => if "" ∈ texts ∨ ¬texts.Nodup then .error malformed else .ok texts

def insertionsOf (plan : Record) : Except PyError (List Key) := do
  (← mappings (getOr plan "requiredInsertions" (.arr []))).mapM fun fields => do
    return (← hashed (fields.field "path"), ← hashed (fields.field "value"))

def unboundInsertion : PyError :=
  contractError "each required-insertion classification must bind its own insertion evidence"

def boundKeys (insertions found : List Key) : List Json → Except PyError (List Key)
  | [] => .ok found
  | binding :: rest =>
    match binding.asRecord? with
    | none => .error unboundInsertion
    | some fields =>
      let key := insertionKey fields
      if has found key then .error (contractError "required-insertion bindings must be unique")
      else do
        let _ ← hashed key.1
        let _ ← hashed key.2
        if has insertions key then boundKeys insertions (found ++ [key]) rest else .error unboundInsertion

def bindingsOf (insertions : List Key) (fields : Record) : Except PyError (List Key) :=
  match fields.field "requiredInsertions", fields.field "requiredInsertion" with
  | .null, .null => .ok []
  | .null, legacy => boundKeys insertions [] [legacy]
  | .arr plural, .null => boundKeys insertions [] plural
  | _, .null => .error (contractError "required-insertion bindings must be an array")
  | _, _ => .error (contractError "plural requiredInsertions cannot conflict with legacy requiredInsertion")

structure Accounts where
  criteria : Dict String String
  expected : Dict String (List Key)
  unsupported : List String
  evaluatorCriteria : List String
  insertions : List Key
  evidence : Bindings

def expectedOf (accounts : Accounts) (criterion : String) : Except PyError (List Key) :=
  match accounts.expected.get? criterion with
  | some keys => .ok keys
  | none => .error (keyError criterion)

def noted (bindings : List Binding) (criterion : String) (path : Json) : Bool :=
  (criterion, path) ∈ bindings ∨ (LEGACY, path) ∈ bindings

def checkRequired (accounts : Accounts) (criterion : String) (bindings : List Key) : Except PyError Unit := do
  let expected ← expectedOf accounts criterion
  Result.raiseIf (!sameMembers bindings expected)
    (contractError "criterion insertion bindings must exactly match analyzed requirements")
  Result.raiseIf (expected.any fun key => noted accounts.evidence.unsupported criterion key.1)
    (contractError "required-insertion criterion cannot rely on unsupported path evidence")
  Result.raiseIf (expected.any fun key => !noted accounts.evidence.supported criterion key.1)
    (contractError "required-insertion criterion lacks trusted bound evidence")
  Result.raiseIf (bindings = [])
    (contractError "each required-insertion classification must bind at least one insertion")

def checkUnsupported (accounts : Accounts) (criterion : String) (bindings : List Key) : Except PyError Unit := do
  Result.raiseIf (criterion ∉ accounts.unsupported)
    (contractError "unsupported criterion classification must be preserved in unsupportedAcceptanceCriteria")
  Result.raiseIf (bindings ≠ [])
    (contractError "unsupported criterion classification must have no insertion bindings")
  let expected ← expectedOf accounts criterion
  Result.raiseIf (expected ≠ [] ∧ ¬expected.any fun key => noted accounts.evidence.unsupported criterion key.1)
    (contractError "unsupported criterion requires trusted unsupported path evidence")

def checkEvaluatorOwned (accounts : Accounts) (criterion : String) (bindings : List Key) : Except PyError Unit := do
  let unowned :=
    contractError "evaluator-owned criterion must bind one typed evaluator requirement and no insertions"
  Result.raiseIf (criterion ∉ accounts.evaluatorCriteria ∨ bindings ≠ [] ∨ criterion ∈ accounts.unsupported) unowned
  Result.raiseIf ((← expectedOf accounts criterion) ≠ []) unowned

/-- The criterion of a classification with its bindings, once they are accounted for. -/
def checkClassification (accounts : Accounts) (fields : Record) : Except PyError (String × List Key) := do
  let bindings ← bindingsOf accounts.insertions fields
  match classificationCriterionId fields accounts.criteria with
  | none => .error (contractError "implementation plan classifications require a known criterionId")
  | some criterion =>
    match fields.field "classification" with
    | .str "REQUIRED_INSERTION" => checkRequired accounts criterion bindings
    | .str "UNSUPPORTED" => checkUnsupported accounts criterion bindings
    | .str "EVALUATOR_OWNED" => checkEvaluatorOwned accounts criterion bindings
    | _ => .ok ()
    return (criterion, bindings)

def classifiedAs (criteria : Dict String String) (classifications : List Record) (disposition : String) :
    List (Option String) :=
  (classifications.filter fun fields => fields.field "classification" = .str disposition).map fun fields =>
    classificationCriterionId fields criteria

def sameCriteria (classified : List (Option String)) (criteria : List String) : Prop :=
  (∀ criterion ∈ classified, ∃ name ∈ criteria, criterion = some name) ∧ ∀ name ∈ criteria, some name ∈ classified

instance (classified : List (Option String)) (criteria : List String) : Decidable (sameCriteria classified criteria) :=
  inferInstanceAs (Decidable (_ ∧ _))

def checkAccounting (plan analysis : Record) (evidence : Bindings) : Except PyError Unit := do
  let criteria := criteriaById analysis
  let expected ← expectedByCriterion criteria analysis
  Result.raiseIf (Unclassified criteria (classifiedOf criteria plan))
    (contractError "implementation plan must classify every analyzed acceptance criterion exactly once")
  Result.raiseIf (¬(expected.keys ⊆ criteria.keys ∧ criteria.keys ⊆ expected.keys))
    (contractError "issue analysis must map every acceptance criterion exactly once")
  let unsupported ← unsupportedValues plan
  let classifications ← ((getOr plan "acceptanceCriteriaClassifications" (.arr [])).asItems?.getD []).mapM asDict
  Result.raiseIf (¬sameCriteria (classifiedAs criteria classifications "UNSUPPORTED") unsupported)
    (contractError "unsupportedAcceptanceCriteria must exactly match UNSUPPORTED classifications")
  let evaluatorCriteria ← evaluatorCriteria criteria analysis
  let insertions ← insertionsOf plan
  let accounts := { criteria, expected, unsupported, evaluatorCriteria, insertions, evidence }
  let bound ← classifications.mapM (checkClassification accounts)
  -- The owner of an insertion is derived from its binders and not used further.
  let boundByCriterion : Dict String (List Key) := bound.foldl (fun found entry => found.set entry.1 entry.2) []
  Result.raiseIf (!sameMembers (boundByCriterion.flatMap Prod.snd) insertions)
    (contractError "every required insertion must have deterministic criterion ownership")
  Result.raiseIf (¬sameCriteria (classifiedAs criteria classifications "EVALUATOR_OWNED") evaluatorCriteria)
    (contractError "EVALUATOR_OWNED classifications must exactly match typed evaluator requirements")

end Plan

section Handler

/-- The artifacts of a Task execution, and the JSON document that the content of one holds. -/
structure ArtifactStore where
  listByTaskExecution : String → Except PyError (List Record)
  document : String → Except PyError Json

variable (store : ArtifactStore)

def firstDependency (taskExecution : Record) : Option String :=
  match getOr taskExecution "dependencyTaskExecutionIds" (.arr []) with
  | .arr (first :: _) => some first.text
  | .str text => text.toList.head?.map String.singleton
  | _ => none

def issueAnalysis (taskExecution : Record) : Except PyError (Option Json) := do
  match firstDependency taskExecution with
  | none => return none
  | some dependency =>
    let artifacts ← store.listByTaskExecution dependency
    match artifacts.filter fun artifact => artifact.field "artifactType" = .str "ISSUE_ANALYSIS" with
    | [only] => return some (← store.document (← item only "id").text)
    | _ => return none

def validateAcceptanceCriteriaAccounting (taskExecution : Record) (plan : Json) (evidence : Bindings) :
    Except PyError Unit :=
  match plan.asRecord? with
  | none => .ok ()
  | some plan => do
    match ← issueAnalysis store taskExecution with
    | none => return ()
    | some analysis => checkAccounting plan (← asDict analysis) evidence

def checkInvocationOutput (taskExecution contextPackage : Record) (output : Json) : Except PyError Unit := do
  let evidence ← evidenceOf contextPackage
  let evidencePaths ← evidence.mapM fun record => hashed (record.field "path")
  let insertionPaths ← match output.asRecord? with
    | none => pure []
    | some plan => do
      (← mappings (getOr plan "requiredInsertions" (.arr []))).mapM fun fields => hashed (fields.field "path")
  Result.raiseIf (evidencePaths ≠ [] ∧ ¬insertionPaths.all fun path => evidencePaths.any fun other => other.pyEq path)
    (contractError "required insertions must target trusted authorized paths")
  let bindings ← evidence.foldlM addEvidence {}
  validateAcceptanceCriteriaAccounting store taskExecution output bindings

/-- The errors of a plan. Of the exceptions only a contract error is one of them. -/
def invocationOutputErrors (taskExecution contextPackage : Record) (output : Json) : Except PyError (List String) :=
  match checkInvocationOutput store taskExecution contextPackage output with
  | .ok () => .ok []
  | .error error =>
    if error.errorClass = .buildImplementationPlanContractError then .ok [error.message] else .error error

end Handler

end Aep.BuildImplementationPlan
