import Aep.AnalyzeIssue.Ownership
import Aep.BuildImplementationPlan.Analysis
import Mathlib.Data.List.Dedup

namespace Aep.AnalyzeIssue

open RuntimeStore Result
open WorkflowScheduler (iterate)
open BuildImplementationPlan (getOr hashed criterionEntry ofEntries criterionOf isText)

section Schema

open Shape (text object uniqueList anyOf atMost upTo)

def insertionShape : Shape :=
  object ["criterionId", "requiredInsertions"] [("criterionId", text 1),
    ("requiredInsertions", uniqueList 0 (object ["path", "value"] [("path", text 1), ("value", text 1)]))]

def requirementShape : Shape :=
  object ["criterionId", "path", "owner", "requirementId", "selectionReason"] [("criterionId", text 1), ("path", text 1),
    ("owner", Shape.enum ["PATCH_EVALUATION"]), ("requirementId", Shape.enum ["DIFF_CHECK_PASSES"]),
    ("selectionReason", text 1)]

def predicateShape : Shape :=
  object ["kind", "value"] [
    ("kind", Shape.enum ["STATUS_EQUALS", "TEXT_PRESENT", "TEXT_ABSENT", "UNSUPPORTED_SEMANTIC"]), ("value", text 1)]

def regionShape : Shape :=
  anyOf [
    object ["kind", "name"] [("kind", Shape.enum ["MARKDOWN_SECTION", "MARKDOWN_FENCE"]), ("name", text 1)],
    object ["kind", "name"] [("kind", Shape.enum ["WHOLE_FILE"]), ("name", Shape.enum ["WHOLE_FILE"])],
    fun value => value = .null]

def declarationShape : Shape :=
  object ["criterionId", "scopeType", "path", "predicate", "postcondition", "region", "selectionReason", "maxBytes",
    "maxPaths"] [
    ("criterionId", text 1), ("scopeType", Shape.enum ["EXACT", "PREFIX"]), ("path", text 1),
    ("predicate", predicateShape), ("postcondition", predicateShape), ("region", regionShape),
    ("selectionReason", text 1), ("maxBytes", upTo 262144 (Shape.integer 1)), ("maxPaths", upTo 200 (Shape.integer 1))]

def issueAnalysisShape : Shape :=
  object ["requestedChange", "acceptanceCriteria", "acceptanceCriterionInsertions", "evaluatorRequirements", "risks",
    "likelyRepositoryAreas", "planningPredicates"] [
    ("requestedChange", text 1),
    ("acceptanceCriteria", Shape.list 0 (object ["id", "text"] [("id", text 1), ("text", text 1)])),
    ("acceptanceCriterionInsertions", uniqueList 1 insertionShape),
    ("evaluatorRequirements", Shape.list 0 requirementShape), ("risks", Shape.list 0 (text 1)),
    ("likelyRepositoryAreas", Shape.list 1 (text 1)),
    ("planningPredicates", atMost 20 (Shape.list 1 declarationShape))]

end Schema

section Records

def recordsOf (output : Record) (key : String) : List Record := mappings ((listOf output key).getD [])

def criterionIds (output : Record) : List Json := ((listOf output "acceptanceCriteria").getD []).map criterionId

def predicateCriteria (output : Record) : List Json := (recordsOf output "planningPredicates").map predicateCriterion

def requirementCriteria (output : Record) : List Json := (recordsOf output "evaluatorRequirements").map criterionOf

def insertionCriteria (output : Record) : List Json := (recordsOf output "acceptanceCriterionInsertions").map criterionOf

/-- What any schema of an issue analysis says of its lists: the predicates are objects and the insertions lists. -/
structure Listed (output : Record) : Prop where
  predicates : ∃ declarations : List Record, listOf output "planningPredicates" = some (declarations.map .obj)
  insertions : ∀ record ∈ recordsOf output "acceptanceCriterionInsertions",
    ∃ values, record.field "requiredInsertions" = .arr values

theorem mappings_obj (records : List Record) : mappings (records.map .obj) = records := by
  unfold mappings
  rw [List.filterMap_map]
  exact List.filterMap_some

theorem iterate_of_listOf {output : Record} {key : String} {items : List Json} (found : listOf output key = some items) :
    iterate (getOr output key (.arr [])) = .ok items := by
  unfold listOf at found
  rw [Json.asItems?_eq_some] at found
  rw [found]
  rfl

theorem hashed_all {values results : List Json} (computed : values.mapM hashed = .ok results) : results = values := by
  have same : values = results.map id := by
    apply eq_map_of_mapM computed
    intro value result hashable
    unfold hashed at hashable
    cases value <;> cases hashable <;> rfl
  rw [same, List.map_id]

theorem exists_map {α β : Type} {encode : β → α} {items : List α} (each : ∀ item ∈ items, ∃ source, item = encode source) :
    ∃ sources : List β, items = sources.map encode := by
  induction items with
  | nil => exact ⟨[], rfl⟩
  | cons item rest ih =>
    obtain ⟨source, rfl⟩ := each item List.mem_cons_self
    obtain ⟨sources, rfl⟩ := ih fun other member => each other (List.mem_cons_of_mem _ member)
    exact ⟨source :: sources, rfl⟩

theorem listed_of_shape {output : Record} (valid : issueAnalysisShape (.obj output) = true) : Listed output := by
  obtain ⟨predicates, declared, predicatesValid⟩ := BuildImplementationPlan.object_field valid
    (.tail _ (.tail _ (.tail _ (.tail _ (.tail _ (.tail _ (.head _))))))) (by decide)
  obtain ⟨inserted, insertions, insertionsValid⟩ := BuildImplementationPlan.object_field valid
    (.tail _ (.tail _ (.head _))) (by decide)
  have reads {key : String} {items : List Json} (found : output.get? key = some (.arr items)) : listOf output key = some items := by
    rw [listOf, BuildImplementationPlan.getOr, found]
    rfl
  constructor
  · cases predicates with
    | arr items =>
      simp only [Shape.atMost, Shape.list, Bool.and_eq_true, decide_eq_true_eq, List.all_eq_true] at predicatesValid
      obtain ⟨records, rfl⟩ := exists_map fun item member =>
        BuildImplementationPlan.object_inv (predicatesValid.2.2 item member)
      exact ⟨records, reads declared⟩
    | _ => cases predicatesValid
  · obtain ⟨items, rfl, shaped⟩ := BuildImplementationPlan.uniqueList_inv insertionsValid
    intro record member
    rw [recordsOf, reads insertions, Option.getD_some, mappings, List.mem_filterMap] at member
    obtain ⟨item, inside, same⟩ := member
    cases Json.asRecord?_eq_some.mp same
    obtain ⟨values, found, listed⟩ := BuildImplementationPlan.object_field (shaped _ inside) (.tail _ (.head _)) (by decide)
    obtain ⟨values, rfl, _⟩ := BuildImplementationPlan.uniqueList_inv listed
    exact ⟨values, Dict.field_of_get? found⟩

theorem mapM_asString {values : List Json} {names : List String} (read : values.mapM Json.asString? = some names) :
    values = names.map .str := by
  induction values generalizing names with
  | nil =>
    cases read
    rfl
  | cons value rest ih =>
    simp only [List.mapM_cons, Option.pure_def, Option.bind_eq_bind, Option.bind_eq_some_iff, Option.some.injEq,
      Json.asString?_eq_some] at read
    obtain ⟨name, rfl, others, later, rfl⟩ := read
    rw [ih later, List.map_cons]

end Records

section Insertions

theorem isText_str {value : Json} (text : isText value = true) : ∃ name, value = .str name := by
  cases value with
  | str name => exact ⟨name, rfl⟩
  | _ => cases text

theorem insertions_ok {output : Record} (checked : validateAcceptanceCriterionInsertions output = .ok ()) :
    ∃ (criteria : List Json) (ids : List String), listOf output "acceptanceCriteria" = some criteria ∧ criteria.map criterionId = ids.map .str ∧
      ids.Nodup ∧ (∃ records, listOf output "acceptanceCriterionInsertions" = some records) ∧
      (insertionCriteria output).Perm (ids.map .str) := by
  unfold validateAcceptanceCriterionInsertions at checked
  split at checked
  · rename_i criteria records criteriaFound recordsFound
    simp only [bind_eq_ok, raiseIf_eq_ok, Bool.not_eq_false] at checked
    obtain ⟨_, texts, _, distinct, _, _, checked⟩ := checked
    obtain ⟨ids, same⟩ := exists_map fun item member => isText_str (List.all_eq_true.mp texts item member)
    rw [same] at distinct checked
    refine ⟨criteria, ids, criteriaFound, same, (not_not.mp distinct).of_map _, ⟨records, recordsFound⟩, ?_⟩
    have mapped : insertionCriteria output = (mappings records).map criterionOf := by
      rw [insertionCriteria, recordsOf, recordsFound]
      rfl
    rw [mapped]
    split at checked
    · cases checked
    · rename_i names read
      simp only [bind_eq_ok, raiseIf_eq_ok, ne_eq, not_not] at checked
      obtain ⟨_, equal, _⟩ := checked
      have texts : (ids.map Json.str).map Json.text = ids := by
        rw [List.map_map]
        exact List.map_id _
      rw [texts] at equal
      rw [mapM_asString read]
      apply List.Perm.map
      exact (List.mergeSort_perm names _).symm.trans ((List.Perm.of_eq equal).trans (List.mergeSort_perm ids _))
  · cases checked

end Insertions

section Requirements

/-- What the second check has found of the declarations and of the requirements. -/
structure Checks (platform : Platform) (output : Record) (declarations : List Record) (criteria requirements : List Json)
    (records : List Record) : Prop where
  regions : ∀ declaration ∈ declarations, declaration.field "region" ≠ .null
  distinct : (criterionById criteria).length = criteria.length ∧ ((criterionById criteria).map Prod.snd).Nodup
  statuses : ∀ declaration ∈ declarations, statusRefused platform (criterionById criteria) declaration = false
  hashable : ∃ named, ((mappings requirements).map criterionOf).mapM hashed = .ok named
  recorded : ∃ named, (records.map criterionOf).mapM hashed = .ok named
  exempt : ∀ criterion ∈ (mappings requirements).map criterionOf, requiresInsertions (insertionsOf records criterion) = false
  bound : ∀ declaration ∈ declarations, namesCriterion (criterionById criteria) (predicateCriterion declaration) = true
  accepted : checkRequirements (criterionById criteria) [] requirements = .ok ()
  owned : "planningPredicates" ∈ output.keys ∨ "evaluatorRequirements" ∈ output.keys →
    (∀ owner ∈ declarations.map predicateCriterion ++ (mappings requirements).map criterionOf,
      namesCriterion (criterionById criteria) owner = true) ∧
    ∀ name ∈ (criterionById criteria).keys,
      .str name ∈ declarations.map predicateCriterion ++ (mappings requirements).map criterionOf

variable {platform : Platform} {output : Record}

theorem requirements_ok {items : List Json} (declared : listOf output "planningPredicates" = some items) :
    validateEvaluatorOwnedRequirements platform output = .ok () ↔
      ∃ criteria requirements insertions, iterate (getOr output "acceptanceCriteria" (.arr [])) = .ok criteria ∧
        listOf output "evaluatorRequirements" = some requirements ∧
        iterate (getOr output "acceptanceCriterionInsertions" (.arr [])) = .ok insertions ∧
        Checks platform output (mappings items) criteria requirements (mappings insertions) := by
  unfold validateEvaluatorOwnedRequirements
  rw [declared]
  dsimp only
  constructor
  · intro checked
    simp only [bind_eq_ok, raiseIf_eq_ok, not_or, not_not, ne_eq, Bool.not_eq_true, List.any_eq_false, decide_eq_true_eq]
      at checked
    obtain ⟨_, regions, criteria, criteriaFound, _, distinct, _, statuses, checked⟩ := checked
    split at checked
    · cases checked
    · rename_i requirements requirementsFound
      simp only [bind_eq_ok, raiseIf_eq_ok, Bool.not_eq_true, List.any_eq_false, Bool.not_eq_true',
        Bool.not_eq_false, not_and, not_not] at checked
      obtain ⟨named, hashing, insertions, insertionsFound, others, recorded, _, exempt, _, bound, _, accepted, owned⟩ := checked
      cases hashed_all hashing
      refine ⟨criteria, requirements, insertions, criteriaFound, requirementsFound, insertionsFound, regions, distinct,
        statuses, ⟨_, hashing⟩, ⟨others, recorded⟩, exempt, bound, accepted, fun declared => ?_⟩
      have both := owned declared
      simp only [List.all_eq_true, Classical.not_imp, Bool.not_eq_false, decide_eq_true_eq] at both
      exact both
  · rintro ⟨criteria, requirements, insertions, criteriaFound, requirementsFound, insertionsFound, checks⟩
    obtain ⟨named, hashing⟩ := checks.hashable
    obtain ⟨others, recorded⟩ := checks.recorded
    cases hashed_all hashing
    simp only [bind_eq_ok, raiseIf_eq_ok, not_or, not_not, ne_eq, Bool.not_eq_true, List.any_eq_false, decide_eq_true_eq]
    refine ⟨(), checks.regions, criteria, criteriaFound, (), checks.distinct, (), checks.statuses, ?_⟩
    rw [requirementsFound]
    simp only [bind_eq_ok, raiseIf_eq_ok, Bool.not_eq_true, List.any_eq_false, Bool.not_eq_true',
      Bool.not_eq_false, not_and, not_not]
    refine ⟨_, hashing, insertions, insertionsFound, others, recorded, (), checks.exempt, (), checks.bound, (),
      checks.accepted, fun declared => ?_⟩
    have both := checks.owned declared
    simp only [List.all_eq_true, Classical.not_imp, Bool.not_eq_false, decide_eq_true_eq]
    exact both

theorem namesCriterion_str {known : Dict String String} {criterion : Json} (names : namesCriterion known criterion = true) :
    ∃ name ∈ known.keys, criterion = .str name := by
  cases criterion with
  | str name => exact ⟨name, of_decide_eq_true names, rfl⟩
  | _ => cases names

theorem requirementAccepted_names {known : Dict String String} {item : Record}
    (accepted : requirementAccepted known item = true) : namesCriterion known (criterionOf item) = true := by
  unfold requirementAccepted at accepted
  split at accepted
  · rename_i path criterion _ named
    rw [named]
    simp only [Bool.and_eq_true, Option.any_eq_true] at accepted
    obtain ⟨_, text, found, _⟩ := accepted
    apply decide_eq_true
    by_contra absent
    rw [Dict.get?_eq_none.mpr absent] at found
    cases found
  · cases accepted

theorem checkRequirements_ok {known : Dict String String} {seen items : List Json}
    (checked : checkRequirements known seen items = .ok ()) :
    ((mappings items).map criterionOf).Nodup ∧ ∀ item ∈ mappings items, criterionOf item ∉ seen ∧
      namesCriterion known (criterionOf item) = true := by
  induction items generalizing seen with
  | nil => exact ⟨List.nodup_nil, by simp [mappings]⟩
  | cons item rest ih =>
    cases item with
    | obj record =>
      rw [checkRequirements] at checked
      simp only [bind_eq_ok, raiseIf_eq_ok, Bool.not_eq_false] at checked
      obtain ⟨_, accepted, _, fresh, checked⟩ := checked
      obtain ⟨distinct, others⟩ := ih checked
      have split : mappings (.obj record :: rest) = record :: mappings rest := rfl
      rw [split, List.map_cons]
      refine ⟨List.nodup_cons.mpr ⟨fun again => ?_, distinct⟩, ?_⟩
      · obtain ⟨other, member, same⟩ := List.mem_map.mp again
        exact (others other member).1 (same ▸ List.mem_cons_self)
      · intro other member
        rcases List.mem_cons.mp member with rfl | later
        · exact ⟨fresh, requirementAccepted_names accepted⟩
        · have known := others other later
          exact ⟨fun inside => known.1 (List.mem_cons_of_mem _ inside), known.2⟩
    | _ => cases checked

end Requirements

section Criteria

theorem filterMap_full {α β : Type} {choose : α → Option β} {items : List α}
    (full : items.length ≤ (items.filterMap choose).length) : ∀ item ∈ items, ∃ chosen, choose item = some chosen := by
  induction items with
  | nil => simp
  | cons item rest ih =>
    have bound := List.length_filterMap_le choose rest
    cases found : choose item with
    | none =>
      rw [List.filterMap_cons_none found, List.length_cons] at full
      omega
    | some chosen =>
      rw [List.filterMap_cons_some found, List.length_cons, List.length_cons] at full
      intro other member
      rcases List.mem_cons.mp member with rfl | later
      · exact ⟨chosen, found⟩
      · exact ih (Nat.le_of_succ_le_succ full) other later

theorem length_ofEntries (entries : List (String × String)) : (ofEntries entries).length ≤ entries.length := by
  have keyed := Dict.keys_foldl_set entries [] List.nodup_nil
  have sub : (ofEntries entries).keys ⊆ entries.map Prod.fst := by
    intro key member
    rcases (keyed.2 key).mp member with none | some
    · cases none
    · exact some
  have length := (List.subperm_of_subset keyed.1 sub).length_le
  rw [Dict.keys, List.length_map, List.length_map] at length
  exact length

theorem criterionEntry_id {item : Json} {entry : String × String} (found : criterionEntry item = some entry) :
    criterionId item = .str entry.1 := by
  unfold criterionEntry at found
  simp only [Option.bind_eq_bind, Option.bind_eq_some_iff, Json.asRecord?_eq_some, Json.asString?_eq_some,
    Option.pure_def, Option.some.injEq] at found
  obtain ⟨fields, rfl, id, named, text, _, rfl⟩ := found
  exact named

theorem map_criterionId {criteria : List Json} (found : ∀ item ∈ criteria, ∃ entry, criterionEntry item = some entry) :
    criteria.map criterionId = (criteria.filterMap criterionEntry).map fun entry => .str entry.1 := by
  induction criteria with
  | nil => rfl
  | cons item rest ih =>
    obtain ⟨entry, named⟩ := found item List.mem_cons_self
    rw [List.filterMap_cons_some named, List.map_cons, List.map_cons, criterionEntry_id named,
      ih fun other member => found other (List.mem_cons_of_mem _ member)]

theorem criterionById_keys {criteria : List Json} {ids : List String} (same : criteria.map criterionId = ids.map .str)
    (distinct : ids.Nodup) (full : (criterionById criteria).length = criteria.length) : (criterionById criteria).keys = ids := by
  have keys (entries : List (String × String)) (names : entries.map Prod.fst = ids) : (ofEntries entries).keys = ids := by
    have nodup : ([] ++ entries : Dict String String).keys.Nodup := by
      rw [List.nil_append, Dict.keys, names]
      exact distinct
    rw [ofEntries, Dict.foldl_set_eq entries [] nodup, List.nil_append, Dict.keys, names]
  have ofNames (names : List String) (equal : criteria.map criterionId = names.map .str) : names = ids :=
    List.map_injective_iff.mpr (fun _ _ equal => Json.str.inj equal) (equal.symm.trans same)
  unfold criterionById at full ⊢
  split at full
  · have bound := length_ofEntries ((criteria.filterMap Json.asString?).map fun text => (text, text))
    rw [full, List.length_map] at bound
    apply keys
    rw [List.map_map]
    apply ofNames
    have texts := filterMap_full bound
    obtain ⟨names, rfl⟩ := exists_map fun item member => (texts item member).imp fun name found => Json.asString?_eq_some.mp found
    have read : (names.map Json.str).filterMap Json.asString? = names := by
      rw [List.filterMap_map]
      exact List.filterMap_some
    rw [read, List.map_map, List.map_map]
    rfl
  · rename_i entries _
    have bound := length_ofEntries (criteria.filterMap criterionEntry)
    rw [full] at bound
    apply keys
    apply ofNames
    rw [map_criterionId (filterMap_full bound), List.map_map]
    rfl

end Criteria

section Normalisation

variable {platform : Platform} {output normalised : Record} {declarations : List Record}

theorem listOf_congr {key : String} (same : normalised.get? key = output.get? key) : listOf normalised key = listOf output key := by
  unfold listOf BuildImplementationPlan.getOr
  rw [same]

theorem predicateCriterion_owned {known : Dict String String} {criteria : List Json} {declaration : Record}
    (bound : namesCriterion known (predicateCriterion declaration) = true) :
    evaluatorOwned criteria declaration = decide (predicateCriterion declaration ∈ criteria) := by
  obtain ⟨name, _, named⟩ := namesCriterion_str bound
  unfold evaluatorOwned
  rw [named, Bool.eq_iff_iff, List.any_eq_true, decide_eq_true_eq]
  constructor
  · rintro ⟨criterion, member, equal⟩
    rw [Json.pyEq_comm, Json.pyEq_str] at equal
    exact equal ▸ member
  · intro member
    exact ⟨_, member, Json.pyEq_refl _⟩

def owned (output : Record) : List Record :=
  (recordsOf output "planningPredicates").filter fun declaration => predicateCriterion declaration ∈ requirementCriteria output

def retained (output : Record) : List Record :=
  (recordsOf output "planningPredicates").filter fun declaration => predicateCriterion declaration ∉ requirementCriteria output

theorem normalize_eq (listed : listOf output "planningPredicates" = some (declarations.map .obj))
    (checked : validateEvaluatorOwnedRequirements platform output = .ok ()) :
    normalizeEvaluatorOwnedPredicates platform (.obj output) = .ok
      (if owned output = [] then (.obj output, [])
      else (.obj (Dict.set output "planningPredicates" (.arr ((retained output).map .obj))), (owned output).map removedEvidence)) := by
  obtain ⟨criteria, requirements, insertions, criteriaFound, requirementsFound, insertionsFound, checks⟩ :=
    (requirements_ok listed).mp checked
  rw [mappings_obj] at checks
  obtain ⟨named, hashing⟩ := checks.hashable
  cases hashed_all hashing
  have records : recordsOf output "planningPredicates" = declarations := by
    rw [recordsOf, listed]
    exact mappings_obj declarations
  have owners : requirementCriteria output = (mappings requirements).map criterionOf := by
    rw [requirementCriteria, recordsOf, requirementsFound]
    rfl
  have same : ∀ declaration ∈ declarations, evaluatorOwned (requirementCriteria output) declaration =
      decide (predicateCriterion declaration ∈ requirementCriteria output) :=
    fun declaration member => predicateCriterion_owned (checks.bound declaration member)
  have hashes : ∃ others, (declarations.map predicateCriterion).mapM hashed = .ok others := by
    apply mapM_total
    intro criterion member
    obtain ⟨declaration, inside, rfl⟩ := List.mem_map.mp member
    obtain ⟨name, _, named⟩ := namesCriterion_str (checks.bound declaration inside)
    exact ⟨_, by rw [named]; rfl⟩
  obtain ⟨others, hashes⟩ := hashes
  have front : declarations.filter (evaluatorOwned (requirementCriteria output)) = owned output := by
    rw [owned, records]
    exact List.filter_congr same
  have back : (declarations.map Json.obj).filter (isRetained (requirementCriteria output)) = (retained output).map .obj := by
    rw [retained, records, List.filter_map]
    congr 1
    apply List.filter_congr
    intro declaration member
    simp [isRetained, Json.asRecord?, same declaration member]
  unfold normalizeEvaluatorOwnedPredicates
  dsimp only
  rw [checked, ok_bind, iterate_of_listOf requirementsFound, ok_bind, hashing, ok_bind, iterate_of_listOf listed, ok_bind,
    mappings_obj, hashes, ok_bind, ← owners, front, back]
  by_cases none : owned output = []
  · simp [none]
  · simp [none]

theorem Checks.filter {criteria requirements : List Json} {records : List Record}
    (checks : Checks platform output declarations criteria requirements records)
    (declared : "planningPredicates" ∈ output.keys ∨ "evaluatorRequirements" ∈ output.keys) :
    Checks platform normalised
      (declarations.filter fun declaration => predicateCriterion declaration ∉ (mappings requirements).map criterionOf)
      criteria requirements records := by
  obtain ⟨known, covered⟩ := checks.owned declared
  refine ⟨fun declaration member => checks.regions declaration (List.mem_of_mem_filter member), checks.distinct,
    fun declaration member => checks.statuses declaration (List.mem_of_mem_filter member), checks.hashable, checks.recorded,
    checks.exempt, fun declaration member => checks.bound declaration (List.mem_of_mem_filter member), checks.accepted,
    fun _ => ⟨fun owner member => known owner ?_, fun name member => ?_⟩⟩
  · rcases List.mem_append.mp member with predicate | requirement
    · obtain ⟨declaration, inside, rfl⟩ := List.mem_map.mp predicate
      exact List.mem_append_left _ (List.mem_map_of_mem (List.mem_of_mem_filter inside))
    · exact List.mem_append_right _ requirement
  · by_cases evaluator : Json.str name ∈ (mappings requirements).map criterionOf
    · exact List.mem_append_right _ evaluator
    · rcases List.mem_append.mp (covered name member) with predicate | requirement
      · obtain ⟨declaration, inside, named⟩ := List.mem_map.mp predicate
        apply List.mem_append_left
        rw [← named]
        exact List.mem_map_of_mem (List.mem_filter.mpr ⟨inside, by simpa [named] using evaluator⟩)
      · exact absurd requirement evaluator

theorem insertions_congr (same : ∀ key ≠ "planningPredicates", normalised.get? key = output.get? key) :
    validateAcceptanceCriterionInsertions normalised = validateAcceptanceCriterionInsertions output := by
  unfold validateAcceptanceCriterionInsertions
  rw [listOf_congr (same "acceptanceCriteria" (by decide)), listOf_congr (same "acceptanceCriterionInsertions" (by decide))]

theorem invocationOutputErrors_nil : invocationOutputErrors platform "analyze-issue" (.obj output) = .ok [] ↔
    validateAcceptanceCriterionInsertions output = .ok () ∧ validateEvaluatorOwnedRequirements platform output = .ok () := by
  unfold invocationOutputErrors
  rw [if_neg (by simp)]
  dsimp only
  cases validateAcceptanceCriterionInsertions output with
  | error raised =>
    simp only [error_bind, reduceCtorEq, false_and, iff_false]
    split <;> simp
  | ok checked =>
    rw [ok_bind]
    cases validateEvaluatorOwnedRequirements platform output with
    | error raised =>
      simp only [reduceCtorEq, and_false, iff_false]
      split <;> simp
    | ok checked => simp

/-- Every criterion has one record of insertions and either predicates or one evaluator requirement. -/
structure Partitioned (output normalised : Record) (evidence : List Record) : Prop where
  insertions : ∀ criterion ∈ criterionIds output, (insertionCriteria output).count criterion = 1
  partition : ∀ criterion ∈ criterionIds output,
    (0 < (predicateCriteria normalised).count criterion ∧ (requirementCriteria normalised).count criterion = 0) ∨
      ((predicateCriteria normalised).count criterion = 0 ∧ (requirementCriteria normalised).count criterion = 1)
  exempt : ∀ record ∈ recordsOf output "acceptanceCriterionInsertions",
    criterionOf record ∈ requirementCriteria normalised → record.field "requiredInsertions" = .arr []
  predicates : listOf normalised "planningPredicates" = some ((retained output).map .obj)
  evidence : evidence = (owned output).map removedEvidence
  others : ∀ key ≠ "planningPredicates", normalised.get? key = output.get? key

theorem insertionsOf_unique {records : List Record} (distinct : (records.map criterionOf).Nodup) {record : Record}
    (member : record ∈ records) {name : String} (named : criterionOf record = .str name) :
    insertionsOf records (.str name) = record.field "requiredInsertions" := by
  unfold insertionsOf
  cases found : records.reverse.find? fun record => (criterionOf record).pyEq (.str name) with
  | none =>
    have not := List.find?_eq_none.mp found record (List.mem_reverse.mpr member)
    rw [named] at not
    exact absurd (Json.pyEq_refl _) not
  | some other =>
    have holds := List.find?_some found
    have same := Json.pyEq_str.mp holds
    have inside := List.mem_reverse.mp (List.mem_of_find?_eq_some found)
    rw [List.inj_on_of_nodup_map distinct inside member (same.trans named.symm)]
    rfl

theorem owned_once (listed : Listed output) (declared : "planningPredicates" ∈ output.keys ∨ "evaluatorRequirements" ∈ output.keys)
    (inserted : validateAcceptanceCriterionInsertions output = .ok ())
    (checked : validateEvaluatorOwnedRequirements platform output = .ok ()) :
    (∀ criterion ∈ criterionIds output, (insertionCriteria output).count criterion = 1) ∧
      (∀ criterion ∈ criterionIds output, criterion ∈ predicateCriteria output ∨ criterion ∈ requirementCriteria output) ∧
      (requirementCriteria output).Nodup ∧
      ∀ record ∈ recordsOf output "acceptanceCriterionInsertions",
        criterionOf record ∈ requirementCriteria output → record.field "requiredInsertions" = .arr [] := by
  obtain ⟨declarations, listing⟩ := listed.predicates
  obtain ⟨criteria, ids, criteriaFound, same, distinct, ⟨records, recordsFound⟩, mapped⟩ := insertions_ok inserted
  obtain ⟨criteria', requirements, insertions, criteriaFound', requirementsFound, insertionsFound, checks⟩ :=
    (requirements_ok listing).mp checked
  rw [iterate_of_listOf criteriaFound] at criteriaFound'
  cases criteriaFound'
  rw [iterate_of_listOf recordsFound] at insertionsFound
  cases insertionsFound
  rw [mappings_obj] at checks
  have predicates : predicateCriteria output = declarations.map predicateCriterion := by
    rw [predicateCriteria, recordsOf, listing]
    exact congrArg _ (mappings_obj declarations)
  have owners : requirementCriteria output = (mappings requirements).map criterionOf := by
    rw [requirementCriteria, recordsOf, requirementsFound]
    rfl
  have found : recordsOf output "acceptanceCriterionInsertions" = mappings records := by
    rw [recordsOf, recordsFound]
    rfl
  have known : criterionIds output = ids.map .str := by
    rw [criterionIds, criteriaFound]
    exact same
  have keys := criterionById_keys same distinct checks.distinct.1
  have nodup : (ids.map Json.str).Nodup := distinct.map fun _ _ equal => Json.str.inj equal
  refine ⟨fun criterion member => ?_, fun criterion member => ?_, ?_, fun record member evaluator => ?_⟩
  · rw [mapped.count_eq]
    rw [known] at member
    exact List.count_eq_one_of_mem nodup member
  · rw [known] at member
    obtain ⟨name, inside, rfl⟩ := List.mem_map.mp member
    rw [predicates, owners, ← List.mem_append]
    exact (checks.owned declared).2 name (keys ▸ inside)
  · rw [owners]
    exact (checkRequirements_ok checks.accepted).1
  · rw [owners] at evaluator
    have recorded : (recordsOf output "acceptanceCriterionInsertions").map criterionOf = insertionCriteria output := rfl
    obtain ⟨values, shape⟩ := listed.insertions record member
    have named : ∃ name, criterionOf record = .str name := by
      have inside : criterionOf record ∈ insertionCriteria output := List.mem_map_of_mem member
      obtain ⟨name, _, equal⟩ := List.mem_map.mp (mapped.mem_iff.mp inside)
      exact ⟨name, equal.symm⟩
    obtain ⟨name, named⟩ := named
    have exempt := checks.exempt _ evaluator
    rw [found] at member recorded
    rw [named, insertionsOf_unique (recorded ▸ mapped.nodup_iff.mpr nodup) member named, shape] at exempt
    rw [shape]
    cases values with
    | nil => rfl
    | cons value rest => cases exempt

/-- Every accepted analysis is normalised to one in which each criterion has one kind of owner. -/
theorem normalize_partitions (listed : Listed output)
    (declared : "planningPredicates" ∈ output.keys ∨ "evaluatorRequirements" ∈ output.keys)
    (accepted : invocationOutputErrors platform "analyze-issue" (.obj output) = .ok []) :
    ∃ normalised evidence,
      normalizeEvaluatorOwnedPredicates platform (.obj output) = .ok (.obj normalised, evidence) ∧
        Partitioned output normalised evidence ∧
        invocationOutputErrors platform "analyze-issue" (.obj normalised) = .ok [] ∧
        normalizeEvaluatorOwnedPredicates platform (.obj normalised) = .ok (.obj normalised, []) := by
  obtain ⟨inserted, checked⟩ := invocationOutputErrors_nil.mp accepted
  obtain ⟨once, covered, distinct, exempt⟩ := owned_once listed declared inserted checked
  obtain ⟨declarations, listing⟩ := listed.predicates
  have records : recordsOf output "planningPredicates" = declarations := by
    rw [recordsOf, listing]
    exact mappings_obj declarations
  have computed := normalize_eq listing checked
  have shape : ∃ normalised evidence, normalizeEvaluatorOwnedPredicates platform (.obj output) = .ok (.obj normalised, evidence) ∧
      listOf normalised "planningPredicates" = some ((retained output).map .obj) ∧
      evidence = (owned output).map removedEvidence ∧
      ∀ key ≠ "planningPredicates", Dict.get? normalised key = output.get? key := by
    by_cases none : owned output = []
    · rw [if_pos none] at computed
      refine ⟨output, [], computed, ?_, by rw [none, List.map_nil], fun _ _ => rfl⟩
      rw [listing, retained, records]
      have all : declarations.filter (fun declaration => predicateCriterion declaration ∉ requirementCriteria output) =
          declarations := by
        rw [List.filter_eq_self]
        intro declaration member
        have not := List.filter_eq_nil_iff.mp none declaration (records ▸ member)
        simpa using not
      rw [all]
    · rw [if_neg none] at computed
      refine ⟨_, _, computed, ?_, rfl, fun key different => Dict.get?_set_ne _ _ (Ne.symm different)⟩
      unfold listOf BuildImplementationPlan.getOr
      rw [Dict.get?_set_self]
      rfl
  obtain ⟨normalised, evidence, returned, predicates, removed, others⟩ := shape
  have owners : requirementCriteria normalised = requirementCriteria output := by
    rw [requirementCriteria, recordsOf, listOf_congr (others "evaluatorRequirements" (by decide))]
    rfl
  have remaining : predicateCriteria normalised = (retained output).map predicateCriterion := by
    rw [predicateCriteria, recordsOf, predicates]
    exact congrArg _ (mappings_obj _)
  have rechecked : validateEvaluatorOwnedRequirements platform normalised = .ok () := by
    obtain ⟨criteria, requirements, insertions, criteriaFound, requirementsFound, insertionsFound, checks⟩ :=
      (requirements_ok listing).mp checked
    have same {key : String} (different : key ≠ "planningPredicates") : getOr normalised key (.arr []) = getOr output key (.arr []) := by
      unfold BuildImplementationPlan.getOr
      rw [others key different]
    have kept : retained output = declarations.filter fun declaration =>
        predicateCriterion declaration ∉ (mappings requirements).map criterionOf := by
      rw [retained, records, requirementCriteria, recordsOf, requirementsFound]
      rfl
    rw [mappings_obj] at checks
    refine (requirements_ok predicates).mpr ⟨criteria, requirements, insertions, ?_, ?_, ?_, ?_⟩
    · rw [same (by decide), criteriaFound]
    · rw [listOf_congr (others "evaluatorRequirements" (by decide)), requirementsFound]
    · rw [same (by decide), insertionsFound]
    · rw [mappings_obj, kept]
      exact checks.filter declared
  refine ⟨normalised, evidence, returned, ⟨once, fun criterion member => ?_, ?_, predicates, removed, others⟩,
    invocationOutputErrors_nil.mpr ⟨(insertions_congr others).trans inserted, rechecked⟩, ?_⟩
  · rw [owners, remaining]
    by_cases evaluator : criterion ∈ requirementCriteria output
    · refine .inr ⟨List.count_eq_zero.mpr fun inside => ?_, List.count_eq_one_of_mem distinct evaluator⟩
      obtain ⟨declaration, kept, named⟩ := List.mem_map.mp inside
      have not := (List.mem_filter.mp kept).2
      rw [named, decide_eq_true_eq] at not
      exact not evaluator
    · refine .inl ⟨List.count_pos_iff.mpr ?_, List.count_eq_zero.mpr evaluator⟩
      rcases covered criterion member with predicate | requirement
      · obtain ⟨declaration, inside, named⟩ := List.mem_map.mp predicate
        rw [← named]
        exact List.mem_map_of_mem (List.mem_filter.mpr ⟨inside, by simpa [named] using evaluator⟩)
      · exact absurd requirement evaluator
  · rw [owners]
    exact exempt
  · have again := normalize_eq predicates rechecked
    have none : owned normalised = [] := by
      rw [owned, owners, recordsOf, predicates, Option.getD_some, mappings_obj, List.filter_eq_nil_iff]
      intro declaration kept
      have not := (List.mem_filter.mp kept).2
      simpa using not
    rw [again, if_pos none]

def sampleCriterion (id text : String) : Json := .obj [("id", .str id), ("text", .str text)]

def sampleDeclaration (criterion : String) : Json :=
  .obj [("criterionId", .str criterion), ("scopeType", .str "EXACT"), ("path", .str "README.md"),
    ("predicate", .obj [("kind", .str "TEXT_PRESENT"), ("value", .str "draft")]),
    ("postcondition", .obj [("kind", .str "TEXT_ABSENT"), ("value", .str "draft")]),
    ("region", .obj [("kind", .str "WHOLE_FILE"), ("name", .str "WHOLE_FILE")]), ("selectionReason", .str "issue"),
    ("maxBytes", .int 4096), ("maxPaths", .int 1)]

def sampleAnalysis : Record :=
  [("requestedChange", .str "Remove the draft note"),
    ("acceptanceCriteria", .arr [sampleCriterion "AC1" "The note is gone", sampleCriterion "AC2" "git diff --check passes"]),
    ("acceptanceCriterionInsertions", .arr [
      .obj [("criterionId", .str "AC1"), ("requiredInsertions", .arr [])],
      .obj [("criterionId", .str "AC2"), ("requiredInsertions", .arr [])]]),
    ("evaluatorRequirements", .arr [
      .obj [("criterionId", .str "AC2"), ("path", .str "README.md"), ("owner", .str "PATCH_EVALUATION"),
        ("requirementId", .str "DIFF_CHECK_PASSES"), ("selectionReason", .str "issue")]]),
    ("risks", .arr []), ("likelyRepositoryAreas", .arr [.str "README.md"]),
    ("planningPredicates", .arr [sampleDeclaration "AC2", sampleDeclaration "AC1"])]

theorem sampleAnalysis_inserted : validateAcceptanceCriterionInsertions sampleAnalysis = .ok () := by
  have criteria : listOf sampleAnalysis "acceptanceCriteria" =
      some [sampleCriterion "AC1" "The note is gone", sampleCriterion "AC2" "git diff --check passes"] := rfl
  have records : listOf sampleAnalysis "acceptanceCriterionInsertions" =
      some [.obj [("criterionId", .str "AC1"), ("requiredInsertions", .arr [])],
        .obj [("criterionId", .str "AC2"), ("requiredInsertions", .arr [])]] := rfl
  unfold validateAcceptanceCriterionInsertions
  rw [criteria, records]
  have names : ((mappings [.obj [("criterionId", .str "AC1"), ("requiredInsertions", .arr [])],
      .obj [("criterionId", .str "AC2"), ("requiredInsertions", .arr [])]]).map criterionOf).mapM Json.asString? =
      some ["AC1", "AC2"] := rfl
  dsimp only
  rw [names]
  simp only [bind_eq_ok, raiseIf_eq_ok]
  exact ⟨(), by decide, (), by decide, (), by decide, (), fun different => different rfl, by decide⟩

theorem normalize_partitions_sample :
    ∃ normalised evidence,
      normalizeEvaluatorOwnedPredicates ⟨fun text => text.map Char.toLower⟩ (.obj sampleAnalysis) = .ok (.obj normalised, evidence) ∧
        Partitioned sampleAnalysis normalised evidence ∧
        invocationOutputErrors ⟨fun text => text.map Char.toLower⟩ "analyze-issue" (.obj normalised) = .ok [] ∧
        normalizeEvaluatorOwnedPredicates ⟨fun text => text.map Char.toLower⟩ (.obj normalised) = .ok (.obj normalised, []) :=
  normalize_partitions (listed_of_shape (by decide +kernel)) (.inl (by decide))
    (invocationOutputErrors_nil.mpr ⟨sampleAnalysis_inserted, by decide +kernel⟩)

end Normalisation

end Aep.AnalyzeIssue
