import Aep.BuildImplementationPlan.Accounting
import Aep.Library.Shape

namespace Aep.BuildImplementationPlan

open Shape (text object uniqueList)

def insertionShape : Shape := object ["path", "value"] [("path", text 1), ("value", text 1)]

def DISPOSITIONS : List String := ["REQUIRED_INSERTION", "UNSUPPORTED", "EVALUATOR_OWNED"]

def classificationShape : Shape :=
  object ["criterionId", "criterion", "classification", "requiredInsertions"] [
    ("criterionId", text 1), ("criterion", text 1), ("classification", Shape.enum DISPOSITIONS),
    ("requiredInsertions", uniqueList 0 insertionShape)]

def planShape : Shape :=
  object ["intendedFiles", "deletionAuthorizedFiles", "noChangeFiles", "requiredInsertions",
    "unsupportedAcceptanceCriteria", "acceptanceCriteriaClassifications", "tests", "assumptions", "risks",
    "implementationSteps", "authorizedPaths", "requiredChangePaths", "verifiedNoChangePaths", "unsupportedPaths",
    "pathEvidence", "evaluatorEvidence"] [
    ("intendedFiles", uniqueList 1 (text 1)), ("deletionAuthorizedFiles", uniqueList 0 (text 1)),
    ("noChangeFiles", uniqueList 0 (text 1)), ("requiredInsertions", uniqueList 0 insertionShape),
    ("unsupportedAcceptanceCriteria", uniqueList 0 (text 1)),
    ("acceptanceCriteriaClassifications", uniqueList 1 classificationShape), ("tests", uniqueList 1 (text 1)),
    ("assumptions", Shape.list 0 (text 1)), ("risks", Shape.list 0 (text 1)),
    ("implementationSteps", Shape.list 1 (text 1)), ("authorizedPaths", uniqueList 1 (text 1)),
    ("requiredChangePaths", uniqueList 0 (text 1)), ("verifiedNoChangePaths", uniqueList 0 (text 1)),
    ("unsupportedPaths", uniqueList 0 (text 1)), ("pathEvidence", uniqueList 1 (text 1)),
    ("evaluatorEvidence", uniqueList 0 (text 1))]

def recordsOf (fields : Record) (name : String) : List Record :=
  ((getOr fields name (.arr [])).asItems?.getD []).filterMap Json.asRecord?

def keysOf (fields : Record) (name : String) : List Key := (recordsOf fields name).map insertionKey

def isKey (key : Key) : Prop := isText key.1 = true ∧ isText key.2 = true

section Shapes

theorem text_one {value : Json} (valid : text 1 value = true) : isText value = true := by
  cases value with
  | str chars =>
    rw [Shape.text_of_str] at valid
    have filled : chars ≠ "" := by
      rintro rfl
      cases valid
    simpa [isText] using filled
  | _ => cases valid

theorem object_inv {required : List String} {properties : List (String × Shape)} {value : Json}
    (valid : object required properties value = true) : ∃ record, value = .obj record := by
  cases value with
  | obj record => exact ⟨record, rfl⟩
  | _ => cases valid

theorem object_field {required : List String} {properties : List (String × Shape)} {record : Record}
    (valid : object required properties (.obj record) = true) {name : String} {shape : Shape}
    (described : (name, shape) ∈ properties) (needed : name ∈ required) :
    ∃ value, record.get? name = some value ∧ shape value = true := by
  obtain ⟨value, found⟩ := Shape.object_required valid needed
  exact ⟨value, found, Shape.object_property valid described found⟩

theorem uniqueList_inv {minItems : Nat} {shape : Shape} {value : Json} (valid : uniqueList minItems shape value = true) :
    ∃ items, value = .arr items ∧ ∀ item ∈ items, shape item = true := by
  cases value with
  | arr items =>
    have parts := of_decide_eq_true valid
    exact ⟨items, rfl, List.all_eq_true.mp parts.2.1⟩
  | _ => cases valid

theorem isKey_of_shape {value : Json} (valid : insertionShape value = true) :
    ∃ fields, value = .obj fields ∧ isKey (insertionKey fields) := by
  obtain ⟨fields, rfl⟩ := object_inv valid
  obtain ⟨path, pathFound, pathValid⟩ := object_field valid (.head _) (by simp)
  obtain ⟨inserted, insertedFound, insertedValid⟩ := object_field valid (.tail _ (.head _)) (by simp)
  refine ⟨fields, rfl, ?_⟩
  unfold isKey insertionKey
  rw [Dict.field_of_get? pathFound, Dict.field_of_get? insertedFound]
  exact ⟨text_one pathValid, text_one insertedValid⟩

theorem object_closed {required : List String} {properties : List (String × Shape)} {record : Record}
    (valid : object required properties (.obj record) = true) {name : String} (unknown : name ∉ properties.map Prod.fst) :
    record.field name = .null := by
  simp only [object, Shape.fields, Bool.and_eq_true, List.all_eq_true] at valid
  have absent : record.get? name = none := by
    rw [Dict.get?_eq_none]
    intro present
    obtain ⟨entry, inside, same⟩ := List.mem_map.mp present
    have known := of_decide_eq_true (valid.2 entry inside)
    rw [same] at known
    exact unknown known
  unfold Dict.field
  rw [absent]
  rfl

structure Classification (fields : Record) : Prop where
  criterionId : ∃ criterion, fields.field "criterionId" = .str criterion ∧ criterion ≠ ""
  disposition : ∃ name ∈ DISPOSITIONS, fields.field "classification" = .str name
  bindings : ∃ items, fields.get? "requiredInsertions" = some (.arr items) ∧
    ∀ item ∈ items, ∃ binding, item = .obj binding ∧ isKey (insertionKey binding)
  single : fields.field "requiredInsertion" = .null

theorem classification_of_shape {value : Json} (valid : classificationShape value = true) :
    ∃ fields, value = .obj fields ∧ Classification fields := by
  obtain ⟨fields, rfl⟩ := object_inv valid
  refine ⟨fields, rfl, ?_, ?_, ?_, object_closed valid (by decide)⟩
  · obtain ⟨value, found, named⟩ := object_field valid (.head _) (by simp)
    have filled := text_one named
    rw [Dict.field_of_get? found]
    cases value with
    | str criterion => exact ⟨criterion, rfl, of_decide_eq_true filled⟩
    | _ => cases filled
  · obtain ⟨value, found, known⟩ := object_field valid (.tail _ (.tail _ (.head _))) (by simp)
    rw [Dict.field_of_get? found]
    obtain ⟨name, listed, same⟩ := List.any_eq_true.mp known
    exact ⟨name, listed, of_decide_eq_true same⟩
  · obtain ⟨value, found, listed⟩ := object_field valid (.tail _ (.tail _ (.tail _ (.head _)))) (by simp)
    obtain ⟨items, rfl, keys⟩ := uniqueList_inv listed
    exact ⟨items, found, fun item inside => isKey_of_shape (keys item inside)⟩

theorem eq_map_obj {items : List Json} {shaped : Record → Prop}
    (each : ∀ item ∈ items, ∃ fields, item = .obj fields ∧ shaped fields) :
    ∃ records : List Record, items = records.map .obj ∧ ∀ fields ∈ records, shaped fields := by
  induction items with
  | nil => exact ⟨[], rfl, fun _ inside => by cases inside⟩
  | cons item rest ih =>
    obtain ⟨fields, rfl, first⟩ := each item List.mem_cons_self
    obtain ⟨records, rfl, others⟩ := ih fun other inside => each other (List.mem_cons_of_mem _ inside)
    exact ⟨fields :: records, rfl, List.forall_mem_cons.mpr ⟨first, others⟩⟩

structure ValidPlan (plan : Record) : Prop where
  classifications : ∃ records : List Record,
    plan.get? "acceptanceCriteriaClassifications" = some (.arr (records.map .obj)) ∧
      ∀ fields ∈ records, Classification fields
  insertions : ∃ records : List Record, plan.get? "requiredInsertions" = some (.arr (records.map .obj)) ∧
    ∀ fields ∈ records, isKey (insertionKey fields)

theorem validPlan_of_shape {output : Json} (valid : planShape output = true) :
    ∃ plan, output = .obj plan ∧ ValidPlan plan := by
  obtain ⟨plan, rfl⟩ := object_inv valid
  refine ⟨plan, rfl, ?_, ?_⟩
  · obtain ⟨value, found, listed⟩ := object_field valid
      (.tail _ (.tail _ (.tail _ (.tail _ (.tail _ (.head _)))))) (by simp)
    obtain ⟨items, rfl, shaped⟩ := uniqueList_inv listed
    obtain ⟨records, rfl, all⟩ := eq_map_obj fun item inside => classification_of_shape (shaped item inside)
    exact ⟨records, found, all⟩
  · obtain ⟨value, found, listed⟩ := object_field valid (.tail _ (.tail _ (.tail _ (.head _)))) (by simp)
    obtain ⟨items, rfl, shaped⟩ := uniqueList_inv listed
    obtain ⟨records, rfl, all⟩ := eq_map_obj fun item inside => isKey_of_shape (shaped item inside)
    exact ⟨records, found, all⟩

end Shapes

end Aep.BuildImplementationPlan

namespace Aep.BuildImplementationPlan

open Result
open WorkflowScheduler (iterate)

def resultsOf (record : Record) (name : String) : List Json := (recordsOf record name).map fun result => result.field "result"

def Editable (record : Record) : Prop := record.field "authorizationRole" ≠ .str "EVALUATOR_ONLY"

def BindingMatches (binding : Record) : Prop := binding.field "predicateResult" = .str "MATCH"

def BindingFails (binding : Record) : Prop :=
  binding.field "predicateResult" = .str "UNSUPPORTED" ∨
    binding.field "predicateResult" ≠ .str "MATCH" ∧ binding.field "postconditionResult" ≠ .str "MATCH"

def PathMatches (record : Record) : Prop := allMatch (resultsOf record "predicateResults") = true

def PathFails (record : Record) : Prop :=
  .str "UNSUPPORTED" ∈ resultsOf record "predicateResults" ∨
    ¬(allMatch (resultsOf record "predicateResults") = true ∨ allMatch (resultsOf record "postconditionResults") = true)

def Binds (verdict : Record → Prop) (record : Record) (criterion : String) (path : Json) : Prop :=
  Editable record ∧ record.field "path" = path ∧ ∃ items, (record.field "criterionBindings").asItems? = some items ∧
    ∃ binding ∈ items.filterMap Json.asRecord?, binding.field "criterionId" = .str criterion ∧ verdict binding

def Covers (verdict : Record → Prop) (record : Record) (path : Json) : Prop :=
  Editable record ∧ record.field "path" = path ∧ (record.field "criterionBindings").asItems? = none ∧ verdict record

def Supports (evidence : List Record) (criterion : String) (path : Json) : Prop :=
  ∃ record ∈ evidence, Binds BindingMatches record criterion path ∨ Covers PathMatches record path

def Contradicts (evidence : List Record) (criterion : String) (path : Json) : Prop :=
  ∃ record ∈ evidence, Binds BindingFails record criterion path ∨ Covers PathFails record path

/-- Evidence whose criterion has the name that stands for evidence without criteria. -/
def Reserved (evidence : List Record) (path : Json) : Prop :=
  ∃ record ∈ evidence, Binds BindingMatches record LEGACY path

section Collected

theorem mappings_eq {value : Json} {found : List Record} (computed : mappings value = .ok found) :
    found = (value.asItems?.getD []).filterMap Json.asRecord? := by
  simp only [mappings, bind_eq_ok, pure_eq_ok] at computed
  obtain ⟨items, iterated, rfl⟩ := computed
  cases value with
  | arr elements =>
    cases iterated
    rfl
  | str chars =>
    cases iterated
    simp [Json.asItems?, List.filterMap_map, Function.comp_def, Json.asRecord?]
  | obj fields =>
    cases iterated
    simp [Json.asItems?, List.filterMap_map, Function.comp_def, Json.asRecord?]
  | _ => cases iterated

def Adds (bound whole : Record → Prop) (record : Record) (entry : Binding) : Prop :=
  entry.1 ≠ "" ∧ Binds bound record entry.1 entry.2 ∨ entry.1 = LEGACY ∧ Covers whole record entry.2

theorem addBinding_mem (path : Json) (bindings : Bindings) (binding : Record) (entry : Binding) :
    let named := entry.1 ≠ "" ∧ path = entry.2 ∧ binding.field "criterionId" = .str entry.1
    (entry ∈ (addBinding path bindings binding).supported ↔
        entry ∈ bindings.supported ∨ named ∧ BindingMatches binding) ∧
      (entry ∈ (addBinding path bindings binding).unsupported ↔
        entry ∈ bindings.unsupported ∨ named ∧ BindingFails binding) := by
  obtain ⟨criterion, place⟩ := entry
  unfold addBinding BindingMatches BindingFails
  cases named : binding.field "criterionId" with
  | str criterionId =>
    by_cases empty : criterionId = ""
    · simp only [empty, ↓reduceIte]
      constructor <;>
        constructor <;>
          grind
    · simp only [empty, ↓reduceIte]
      constructor <;>
        simp only [List.mem_append] <;>
        split <;>
          grind
  | _ => simp

theorem addBindings_mem (path : Json) (listed : List Record) (bindings : Bindings) (entry : Binding) :
    let named := fun binding : Record => entry.1 ≠ "" ∧ path = entry.2 ∧ binding.field "criterionId" = .str entry.1
    (entry ∈ (listed.foldl (addBinding path) bindings).supported ↔
        entry ∈ bindings.supported ∨ ∃ binding ∈ listed, named binding ∧ BindingMatches binding) ∧
      (entry ∈ (listed.foldl (addBinding path) bindings).unsupported ↔
        entry ∈ bindings.unsupported ∨ ∃ binding ∈ listed, named binding ∧ BindingFails binding) := by
  induction listed generalizing bindings with
  | nil => simp
  | cons binding rest ih =>
    have first := addBinding_mem path bindings binding entry
    have others := ih (addBinding path bindings binding)
    simp only [List.foldl_cons, List.exists_mem_cons_iff]
    simp only at first others
    rw [others.1, others.2, first.1, first.2, or_assoc, or_assoc]
    exact ⟨Iff.rfl, Iff.rfl⟩

theorem addLegacy_mem {bindings added : Bindings} {record : Record} (computed : addLegacy bindings record = .ok added)
    (entry : Binding) :
    let located := entry.1 = LEGACY ∧ record.field "path" = entry.2
    (entry ∈ added.supported ↔ entry ∈ bindings.supported ∨ located ∧ PathMatches record) ∧
      (entry ∈ added.unsupported ↔ entry ∈ bindings.unsupported ∨ located ∧ PathFails record) := by
  simp only [addLegacy, bind_eq_ok] at computed
  obtain ⟨predicates, predicatesFound, posts, postsFound, computed⟩ := computed
  have states : predicates.map (fun result => result.field "result") = resultsOf record "predicateResults" := by
    rw [mappings_eq predicatesFound]
    rfl
  have postStates : posts.map (fun result => result.field "result") = resultsOf record "postconditionResults" := by
    rw [mappings_eq postsFound]
    rfl
  rw [states, postStates] at computed
  obtain ⟨criterion, place⟩ := entry
  have allowed : PathMatches record → ¬PathFails record := by
    intro matched failed
    rcases failed with refuted | neither
    · have all := (of_decide_eq_true matched).2
      have same := of_decide_eq_true (List.all_eq_true.mp all _ refuted)
      simp at same
    · exact neither (.inl matched)
  split at computed
  · rename_i failed
    have unmatched : ¬PathMatches record := fun matched => allowed matched failed
    obtain rfl := pure_eq_ok.mp computed
    have holds : PathFails record := failed
    simp [unmatched, holds, eq_comm, Prod.ext_iff]
  · rename_i passed
    have unfailed : ¬PathFails record := passed
    split at computed
    · rename_i matched
      obtain rfl := pure_eq_ok.mp computed
      have holds : PathMatches record := matched
      simp [unfailed, holds, eq_comm, Prod.ext_iff]
    · rename_i unmatched
      obtain rfl := pure_eq_ok.mp computed
      have misses : ¬PathMatches record := unmatched
      simp [unfailed, misses]

theorem addEvidence_mem {bindings added : Bindings} {record : Record}
    (computed : addEvidence bindings record = .ok added) (entry : Binding) :
    (entry ∈ added.supported ↔ entry ∈ bindings.supported ∨ Adds BindingMatches PathMatches record entry) ∧
      (entry ∈ added.unsupported ↔ entry ∈ bindings.unsupported ∨ Adds BindingFails PathFails record entry) := by
  unfold addEvidence at computed
  split at computed
  · rename_i evaluator
    cases computed
    simp [Adds, Binds, Covers, Editable, evaluator]
  · rename_i editable
    split at computed
    · rename_i items listed
      cases computed
      have both := addBindings_mem (record.field "path") (items.filterMap Json.asRecord?) bindings entry
      simp only at both
      rw [both.1, both.2]
      have holds : Editable record := editable
      constructor <;>
        simp only [Adds, Binds, Covers, listed, holds] <;>
        grind
    · rename_i unlisted
      have both := addLegacy_mem computed entry
      simp only at both
      rw [both.1, both.2]
      have holds : Editable record := editable
      constructor <;>
        simp [Adds, Binds, Covers, unlisted, holds, and_assoc]

theorem collected_mem {evidence : List Record} {bindings collected : Bindings}
    (computed : evidence.foldlM addEvidence bindings = .ok collected) (entry : Binding) :
    (entry ∈ collected.supported ↔
        entry ∈ bindings.supported ∨ ∃ record ∈ evidence, Adds BindingMatches PathMatches record entry) ∧
      (entry ∈ collected.unsupported ↔
        entry ∈ bindings.unsupported ∨ ∃ record ∈ evidence, Adds BindingFails PathFails record entry) := by
  induction evidence generalizing bindings with
  | nil =>
    cases computed
    simp
  | cons record rest ih =>
    simp only [List.foldlM_cons, bind_eq_ok] at computed
    obtain ⟨added, first, computed⟩ := computed
    have step := addEvidence_mem first entry
    have others := ih computed
    rw [others.1, others.2, step.1, step.2, List.exists_mem_cons_iff, List.exists_mem_cons_iff, or_assoc, or_assoc]
    exact ⟨Iff.rfl, Iff.rfl⟩

variable {evidence : List Record} {collected : Bindings} (computed : evidence.foldlM addEvidence {} = .ok collected)

include computed

theorem noted_supported {criterion : String} (named : criterion ≠ "") (path : Json) :
    noted collected.supported criterion path = true ↔ Supports evidence criterion path ∨ Reserved evidence path := by
  have own := (collected_mem computed (criterion, path)).1
  have legacy := (collected_mem computed (LEGACY, path)).1
  have reserved : LEGACY ≠ "" := by decide
  simp only [noted, decide_eq_true_eq, own, legacy, Supports, Reserved, Adds]
  simp only [List.not_mem_nil, false_or, ne_eq, named, not_false_eq_true, true_and, reserved, ← exists_or,
    ← and_or_left]
  constructor
  · rintro ⟨record, member, (bound | ⟨_, whole⟩) | bound | whole⟩
    · exact ⟨record, member, .inl (.inl bound)⟩
    · exact ⟨record, member, .inl (.inr whole)⟩
    · exact ⟨record, member, .inr bound⟩
    · exact ⟨record, member, .inl (.inr whole)⟩
  · rintro ⟨record, member, (bound | whole) | bound⟩
    · exact ⟨record, member, .inl (.inl bound)⟩
    · exact ⟨record, member, .inr (.inr whole)⟩
    · exact ⟨record, member, .inr (.inl bound)⟩

theorem noted_unsupported {criterion : String} (named : criterion ≠ "") {path : Json}
    (contradicted : Contradicts evidence criterion path) : noted collected.unsupported criterion path = true := by
  obtain ⟨record, member, found⟩ := contradicted
  apply decide_eq_true
  rcases found with bound | whole
  · left
    exact (collected_mem computed _).2.mpr (.inr ⟨record, member, .inl ⟨named, bound⟩⟩)
  · right
    exact (collected_mem computed _).2.mpr (.inr ⟨record, member, .inr ⟨rfl, whole⟩⟩)

end Collected

end Aep.BuildImplementationPlan
