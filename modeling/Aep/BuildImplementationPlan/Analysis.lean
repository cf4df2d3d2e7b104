import Aep.BuildImplementationPlan.Evidence

namespace Aep.BuildImplementationPlan

open Result

def itemsOf (fields : Record) (name : String) : List Json := (getOr fields name (.arr [])).asItems?.getD []

def analysedCriteria (analysis : Record) : List String :=
  match (itemsOf analysis "acceptanceCriteria").filterMap criterionEntry with
  | [] => (itemsOf analysis "acceptanceCriteria").filterMap Json.asString?
  | entries => entries.map Prod.fst

def Requires (records : List Record) (criterion : String) (key : Key) : Prop :=
  ∃ record ∈ records, criterionOf record = .str criterion ∧ key ∈ keysOf record "requiredInsertions"

def Analysed (analysis : Record) (criterion : String) (key : Key) : Prop :=
  Requires (recordsOf analysis "acceptanceCriterionInsertions") criterion key

def OwnedByEvaluator (analysis : Record) (criterion : String) : Prop :=
  ∃ requirement ∈ recordsOf analysis "evaluatorRequirements", criterionOf requirement = .str criterion

section Criteria

theorem keys_criteriaById (analysis : Record) :
    (criteriaById analysis).keys.Nodup ∧
      ((analysedCriteria analysis).Nodup → (criteriaById analysis).keys = analysedCriteria analysis) := by
  have keyed (entries : List (String × String)) : (ofEntries entries).keys.Nodup ∧
      ((entries.map Prod.fst).Nodup → (ofEntries entries).keys = entries.map Prod.fst) := by
    constructor
    · exact (Dict.keys_foldl_set entries [] List.nodup_nil).1
    · intro distinct
      have same := Dict.foldl_set_eq entries [] distinct
      unfold ofEntries
      rw [same]
      rfl
  unfold criteriaById analysedCriteria itemsOf
  cases (getOr analysis "acceptanceCriteria" (.arr [])).asItems? with
  | none => exact ⟨List.nodup_nil, fun _ => rfl⟩
  | some records =>
    simp only [Option.getD_some]
    cases records.filterMap criterionEntry with
    | nil =>
      have both := keyed ((records.filterMap Json.asString?).map fun text => (text, text))
      simp only [List.map_map, Function.comp_def, List.map_id'] at both
      exact both
    | cons first rest => exact keyed (first :: rest)

theorem evaluatorCriteria_mem {criteria : Dict String String} {analysis : Record} {owned : List String}
    (computed : evaluatorCriteria criteria analysis = .ok owned) (criterion : String) :
    criterion ∈ owned ↔ criterion ∈ criteria.keys ∧ OwnedByEvaluator analysis criterion := by
  simp only [evaluatorCriteria, bind_eq_ok, pure_eq_ok] at computed
  obtain ⟨named, hashing, rfl⟩ := computed
  have plain : (recordsOf analysis "evaluatorRequirements").map criterionOf = named.map id := by
    apply eq_map_of_mapM hashing
    intro value result hashable
    unfold hashed at hashable
    split at hashable
    · cases hashable
    · cases hashable
    · cases hashable
      rfl
  rw [List.map_id] at plain
  rw [← plain, List.mem_filter, decide_eq_true_eq, List.mem_map]
  exact Iff.rfl

end Criteria

section Insertions

theorem getOr_of_items {fields : Record} {name : String} {items : List Json}
    (found : (fields.field name).asItems? = some items) : itemsOf fields name = items := by
  unfold itemsOf getOr
  unfold Dict.field at found
  cases present : fields.get? name with
  | none =>
    rw [present] at found
    cases found
  | some value =>
    rw [present] at found
    rw [Option.getD_some]
    rw [Option.getD_some] at found
    rw [found]
    rfl

theorem mem_keysOf {fields : Record} {name : String} {key : Key} :
    key ∈ keysOf fields name ↔ ∃ binding, .obj binding ∈ itemsOf fields name ∧ insertionKey binding = key := by
  unfold keysOf recordsOf itemsOf
  simp [List.mem_map, List.mem_filterMap]

theorem expectedKeys_mem {values : List Json} {found expected : List Key}
    (computed : expectedKeys found values = .ok expected) (key : Key) :
    key ∈ expected ↔ key ∈ found ∨ ∃ binding, .obj binding ∈ values ∧ insertionKey binding = key := by
  induction values generalizing found with
  | nil =>
    cases computed
    simp
  | cons value rest ih =>
    unfold expectedKeys at computed
    split at computed
    · cases computed
    · rename_i fields recorded
      obtain rfl := Json.asRecord?_eq_some.mp recorded
      simp only at computed
      split at computed
      · cases computed
      · split at computed
        · cases computed
        · rw [ih computed]
          simp only [List.mem_append, List.mem_singleton, List.mem_cons, Json.obj.injEq]
          grind

theorem expectedRecord_ok {criteria : Dict String String} {found next : Dict String (List Key)} {record : Json}
    (computed : expectedRecord criteria found record = .ok next) :
    ∃ fields criterion keys, record = .obj fields ∧ criterionOf fields = .str criterion ∧
      found.get? criterion = none ∧ next = found.set criterion keys ∧
        ∀ key, key ∈ keys ↔ key ∈ keysOf fields "requiredInsertions" := by
  unfold expectedRecord at computed
  split at computed
  · cases computed
  · rename_i fields recorded
    obtain rfl := Json.asRecord?_eq_some.mp recorded
    split at computed
    · rename_i criterion values named listed
      split at computed
      · cases computed
      · rename_i fresh
        simp only [bind_eq_ok, pure_eq_ok] at computed
        obtain ⟨keys, expected, rfl⟩ := computed
        have absent : found.get? criterion = none := Dict.get?_eq_none.mpr fun present => fresh (.inr present)
        refine ⟨fields, criterion, keys, rfl, named, absent, rfl, fun key => ?_⟩
        rw [expectedKeys_mem expected, mem_keysOf, getOr_of_items listed]
        simp
    · cases computed

theorem expected_fold {criteria : Dict String String} {records : List Json} {found expected : Dict String (List Key)}
    (computed : records.foldlM (expectedRecord criteria) found = .ok expected) {criterion : String} {keys : List Key}
    (entry : expected.get? criterion = some keys) :
    found.get? criterion = some keys ∧ (∀ record ∈ records.filterMap Json.asRecord?, criterionOf record ≠ .str criterion) ∨
      found.get? criterion = none ∧ ∀ key, key ∈ keys ↔ Requires (records.filterMap Json.asRecord?) criterion key := by
  induction records generalizing found with
  | nil =>
    cases computed
    left
    exact ⟨entry, by simp⟩
  | cons record rest ih =>
    simp only [List.foldlM_cons, bind_eq_ok] at computed
    obtain ⟨next, first, computed⟩ := computed
    obtain ⟨fields, named, own, rfl, names, absent, rfl, members⟩ := expectedRecord_ok first
    have front : (Json.obj fields :: rest).filterMap Json.asRecord? = fields :: rest.filterMap Json.asRecord? := rfl
    have head (key : Key) : Requires (fields :: rest.filterMap Json.asRecord?) criterion key ↔
        named = criterion ∧ key ∈ own ∨ Requires (rest.filterMap Json.asRecord?) criterion key := by
      unfold Requires
      rw [List.exists_mem_cons_iff, names, members, Json.str.injEq]
    rw [front]
    rcases ih computed with ⟨before, others⟩ | ⟨before, others⟩
    · rw [Dict.get?_set] at before
      have silent (key : Key) : ¬Requires (rest.filterMap Json.asRecord?) criterion key := by
        rintro ⟨record, member, same, _⟩
        exact others record member same
      split at before
      · rename_i same
        right
        cases before
        refine ⟨same ▸ absent, fun key => ?_⟩
        rw [head]
        simp [same, silent key]
      · rename_i different
        left
        refine ⟨before, List.forall_mem_cons.mpr ⟨?_, others⟩⟩
        rw [names]
        intro same
        exact different (Json.str.inj same)
    · rw [Dict.get?_set] at before
      split at before
      · cases before
      · rename_i different
        right
        refine ⟨before, fun key => ?_⟩
        rw [head, others key]
        simp [different]

theorem expected_mem {criteria : Dict String String} {analysis : Record} {expected : Dict String (List Key)}
    (computed : expectedByCriterion criteria analysis = .ok expected) {criterion : String} {keys : List Key}
    (entry : expected.get? criterion = some keys) (key : Key) : key ∈ keys ↔ Analysed analysis criterion key := by
  unfold expectedByCriterion at computed
  split at computed
  · cases computed
  · rename_i records listed
    have same : recordsOf analysis "acceptanceCriterionInsertions" = records.filterMap Json.asRecord? := by
      unfold recordsOf
      rw [listed]
      rfl
    unfold Analysed
    rw [same]
    rcases expected_fold computed entry with ⟨before, _⟩ | ⟨_, members⟩
    · cases before
    · exact members key

end Insertions

end Aep.BuildImplementationPlan
