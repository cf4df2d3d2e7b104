import Aep.BuildImplementationPlan.Analysis

namespace Aep.BuildImplementationPlan

open Result

section Keys

theorem pyEq_text {value other : Json} (text : isText value = true) : value.pyEq other = true ↔ value = other := by
  cases value with
  | str chars =>
    have flipped : (Json.str chars).pyEq other = other.pyEq (.str chars) := by simp [Json.pyEq, eq_comm]
    rw [flipped, Json.pyEq_str]
    exact eq_comm
  | _ => cases text

theorem pyEq_text' {value other : Json} (text : isText other = true) : value.pyEq other = true ↔ value = other := by
  cases other with
  | str chars => exact Json.pyEq_str
  | _ => cases text

theorem has_iff {values : List Key} {key : Key} (texts : isKey key ∨ ∀ other ∈ values, isKey other) :
    has values key = true ↔ key ∈ values := by
  unfold has
  rw [List.any_eq_true]
  have same (other : Key) (member : other ∈ values) :
      (other.1.pyEq key.1 && other.2.pyEq key.2) = true ↔ other = key := by
    rw [Bool.and_eq_true, Prod.ext_iff]
    rcases texts with text | texts
    · rw [pyEq_text' text.1, pyEq_text' text.2]
    · rw [pyEq_text (texts other member).1, pyEq_text (texts other member).2]
  constructor
  · rintro ⟨other, member, equal⟩
    exact (same other member).mp equal ▸ member
  · intro member
    exact ⟨key, member, (same key member).mpr rfl⟩

theorem sameMembers_iff {left right : List Key} (texts : ∀ key ∈ left, isKey key) :
    sameMembers left right = true ↔ ∀ key, key ∈ left ↔ key ∈ right := by
  unfold sameMembers
  rw [Bool.and_eq_true, List.all_eq_true, List.all_eq_true]
  constructor
  · rintro ⟨forward, backward⟩ key
    constructor
    · intro member
      exact (has_iff (.inl (texts key member))).mp (forward key member)
    · intro member
      exact (has_iff (.inr texts)).mp (backward key member)
  · intro same
    constructor
    · intro key member
      exact (has_iff (.inl (texts key member))).mpr ((same key).mp member)
    · intro key member
      exact (has_iff (.inr texts)).mpr ((same key).mpr member)

theorem hashed_eq {value result : Json} (computed : hashed value = .ok result) : result = value := by
  unfold hashed at computed
  split at computed
  · cases computed
  · cases computed
  · cases computed
    rfl

theorem insertionsOf_eq {plan : Record} {insertions : List Key} (computed : insertionsOf plan = .ok insertions) :
    insertions = keysOf plan "requiredInsertions" := by
  simp only [insertionsOf, bind_eq_ok] at computed
  obtain ⟨records, listed, computed⟩ := computed
  have plain := forall₂_of_mapM computed
  have same : recordsOf plan "requiredInsertions" = records := (mappings_eq listed).symm
  unfold keysOf
  rw [same]
  clear listed computed same
  induction plain with
  | nil => rfl
  | cons here _ ih =>
    simp only [bind_eq_ok, pure_eq_ok] at here
    obtain ⟨path, pathHashed, value, valueHashed, rfl⟩ := here
    rw [List.map_cons, ← ih, hashed_eq pathHashed, hashed_eq valueHashed]
    rfl

theorem boundKeys_ok {insertions found bound : List Key} {items : List Json}
    (texts : ∀ item ∈ items, ∃ binding, item = .obj binding ∧ isKey (insertionKey binding))
    (computed : boundKeys insertions found items = .ok bound) :
    (∀ key, key ∈ bound ↔ key ∈ found ∨ ∃ binding, .obj binding ∈ items ∧ insertionKey binding = key) ∧
      ∀ key ∈ bound, key ∈ found ∨ key ∈ insertions := by
  induction items generalizing found with
  | nil =>
    cases computed
    exact ⟨fun key => by simp, fun _ member => .inl member⟩
  | cons item rest ih =>
    obtain ⟨binding, rfl, text⟩ := texts item List.mem_cons_self
    simp only [boundKeys, Json.asRecord?_obj] at computed
    split at computed
    · cases computed
    · simp only [bind_eq_ok] at computed
      obtain ⟨_, _, _, _, computed⟩ := computed
      split at computed
      · rename_i listed
        rw [has_iff (.inl text)] at listed
        obtain ⟨members, within⟩ := ih (fun other later => texts other (List.mem_cons_of_mem _ later)) computed
        constructor
        · intro key
          rw [members]
          simp only [List.mem_append, List.mem_cons, Json.obj.injEq]
          grind
        · intro key member
          rcases within key member with before | later
          · rcases List.mem_append.mp before with old | new
            · exact .inl old
            · exact .inr (List.mem_singleton.mp new ▸ listed)
          · exact .inr later
      · cases computed

end Keys

structure Checked (accounts : Accounts) (fields : Record) (criterion : String) (bindings : List Key) : Prop where
  resolved : classificationCriterionId fields accounts.criteria = some criterion
  members : ∀ key, key ∈ bindings ↔ key ∈ keysOf fields "requiredInsertions"
  listed : ∀ key ∈ bindings, key ∈ accounts.insertions
  required : fields.field "classification" = .str "REQUIRED_INSERTION" → checkRequired accounts criterion bindings = .ok ()
  unsupported : fields.field "classification" = .str "UNSUPPORTED" → checkUnsupported accounts criterion bindings = .ok ()
  evaluatorOwned :
    fields.field "classification" = .str "EVALUATOR_OWNED" → checkEvaluatorOwned accounts criterion bindings = .ok ()

section Item

variable {fields : Record} (shaped : Classification fields)

include shaped

theorem criterion_of_resolved {criteria : Dict String String} {criterion : String}
    (resolved : classificationCriterionId fields criteria = some criterion) :
    fields.field "criterionId" = .str criterion := by
  obtain ⟨named, found, _⟩ := shaped.criterionId
  unfold classificationCriterionId at resolved
  rw [found] at resolved
  simp only at resolved
  split at resolved
  · cases resolved
    exact found
  · cases resolved

theorem named_of_field {criterion : String} (named : fields.field "criterionId" = .str criterion) : criterion ≠ "" := by
  obtain ⟨other, found, filled⟩ := shaped.criterionId
  rw [named, Json.str.injEq] at found
  rw [found]
  exact filled

theorem isKey_of_mem {key : Key} (member : key ∈ keysOf fields "requiredInsertions") : isKey key := by
  obtain ⟨items, found, texts⟩ := shaped.bindings
  obtain ⟨binding, inside, rfl⟩ := mem_keysOf.mp member
  have listed : itemsOf fields "requiredInsertions" = items := by
    apply getOr_of_items
    rw [Dict.field_of_get? found]
    rfl
  rw [listed] at inside
  obtain ⟨other, same, text⟩ := texts _ inside
  rw [Json.obj.inj same]
  exact text

theorem bindingsOf_ok {insertions bindings : List Key} (computed : bindingsOf insertions fields = .ok bindings) :
    (∀ key, key ∈ bindings ↔ key ∈ keysOf fields "requiredInsertions") ∧ ∀ key ∈ bindings, key ∈ insertions := by
  obtain ⟨items, found, texts⟩ := shaped.bindings
  have listed : fields.field "requiredInsertions" = .arr items := Dict.field_of_get? found
  have same : itemsOf fields "requiredInsertions" = items := by
    apply getOr_of_items
    rw [listed]
    rfl
  unfold bindingsOf at computed
  rw [listed, shaped.single] at computed
  obtain ⟨members, within⟩ := boundKeys_ok texts computed
  constructor
  · intro key
    rw [members, mem_keysOf, same]
    simp
  · intro key member
    rcases within key member with empty | inside
    · cases empty
    · exact inside

theorem checkClassification_ok {accounts : Accounts} {criterion : String} {bindings : List Key}
    (computed : checkClassification accounts fields = .ok (criterion, bindings)) :
    Checked accounts fields criterion bindings := by
  simp only [checkClassification, bind_eq_ok] at computed
  obtain ⟨bound, binding, computed⟩ := computed
  obtain ⟨members, listed⟩ := bindingsOf_ok shaped binding
  split at computed
  · cases computed
  · rename_i named resolved
    split at computed
    all_goals
      rename_i disposition
      simp only [bind_eq_ok, pure_eq_ok, Prod.mk.injEq] at computed
      obtain ⟨_, checked, rfl, rfl⟩ := computed
      constructor
      · exact resolved
      · exact members
      · exact listed
      all_goals
        intro other
        simp_all

end Item

section Dispositions

variable {accounts : Accounts} {criterion : String} {bindings : List Key}

theorem expectedOf_ok {expected : List Key} (computed : expectedOf accounts criterion = .ok expected) :
    accounts.expected.get? criterion = some expected := by
  unfold expectedOf at computed
  split at computed
  · rename_i keys found
    cases computed
    exact found
  · cases computed

theorem checkRequired_ok (texts : ∀ key ∈ bindings, isKey key)
    (checked : checkRequired accounts criterion bindings = .ok ()) :
    ∃ expected, accounts.expected.get? criterion = some expected ∧ (∀ key, key ∈ bindings ↔ key ∈ expected) ∧
      (∀ key ∈ expected, noted accounts.evidence.unsupported criterion key.1 = false) ∧
      (∀ key ∈ expected, noted accounts.evidence.supported criterion key.1 = true) ∧ bindings ≠ [] := by
  simp only [checkRequired, bind_eq_ok, raiseIf_eq_ok] at checked
  obtain ⟨expected, found, _, same, _, unrefuted, _, supported, filled⟩ := checked
  refine ⟨expected, expectedOf_ok found, ?_, ?_, ?_, filled⟩
  · rw [Bool.not_eq_true', Bool.not_eq_false] at same
    exact (sameMembers_iff texts).mp same
  · intro key member
    cases noting : noted accounts.evidence.unsupported criterion key.1 with
    | false => rfl
    | true => exact absurd (List.any_eq_true.mpr ⟨key, member, noting⟩) unrefuted
  · intro key member
    cases noting : noted accounts.evidence.supported criterion key.1 with
    | true => rfl
    | false => exact absurd (List.any_eq_true.mpr ⟨key, member, by rw [noting]; rfl⟩) supported

theorem checkUnsupported_ok (checked : checkUnsupported accounts criterion bindings = .ok ()) :
    criterion ∈ accounts.unsupported ∧ bindings = [] := by
  simp only [checkUnsupported, bind_eq_ok, raiseIf_eq_ok] at checked
  obtain ⟨_, listed, _, empty, _⟩ := checked
  exact ⟨not_not.mp listed, not_not.mp empty⟩

theorem checkEvaluatorOwned_ok (checked : checkEvaluatorOwned accounts criterion bindings = .ok ()) :
    criterion ∈ accounts.evaluatorCriteria ∧ bindings = [] ∧ accounts.expected.get? criterion = some [] := by
  simp only [checkEvaluatorOwned, bind_eq_ok, raiseIf_eq_ok] at checked
  obtain ⟨_, owned, expected, found, empty⟩ := checked
  have none := not_not.mp empty
  rw [none] at found
  have parts := not_or.mp owned
  exact ⟨not_not.mp parts.1, not_not.mp (not_or.mp parts.2).1, expectedOf_ok found⟩

end Dispositions

end Aep.BuildImplementationPlan

namespace Aep.BuildImplementationPlan

open Result

def Classifies (plan item : Record) (criterion disposition : String) : Prop :=
  item ∈ recordsOf plan "acceptanceCriteriaClassifications" ∧ item.field "criterionId" = .str criterion ∧
    item.field "classification" = .str disposition

structure Accounted (analysis plan : Record) (evidence : List Record) : Prop where
  classified : ((recordsOf plan "acceptanceCriteriaClassifications").map fun item => item.field "criterionId").Perm
    ((analysedCriteria analysis).map .str)
  required : ∀ item criterion, Classifies plan item criterion "REQUIRED_INSERTION" →
    (∀ key, key ∈ keysOf item "requiredInsertions" ↔ Analysed analysis criterion key) ∧
      keysOf item "requiredInsertions" ≠ [] ∧
        ∀ key ∈ keysOf item "requiredInsertions",
          Supports evidence criterion key.1 ∧ ¬Contradicts evidence criterion key.1
  insertions : ∀ key, key ∈ keysOf plan "requiredInsertions" ↔
    ∃ item ∈ recordsOf plan "acceptanceCriteriaClassifications", key ∈ keysOf item "requiredInsertions"
  unsupported : ∀ criterion, .str criterion ∈ itemsOf plan "unsupportedAcceptanceCriteria" ↔
    ∃ item, Classifies plan item criterion "UNSUPPORTED"
  unsupportedBindings : ∀ item criterion, Classifies plan item criterion "UNSUPPORTED" →
    keysOf item "requiredInsertions" = []
  evaluatorOwned : ∀ criterion, (∃ item, Classifies plan item criterion "EVALUATOR_OWNED") ↔
    criterion ∈ analysedCriteria analysis ∧ OwnedByEvaluator analysis criterion
  evaluatorInsertions : ∀ item criterion, Classifies plan item criterion "EVALUATOR_OWNED" →
    ∀ key, ¬Analysed analysis criterion key

/-- No two criteria have one id, and the reserved name supports no criterion that has no evidence of its own. -/
structure Unambiguous (analysis plan : Record) (evidence : List Record) : Prop where
  distinct : (analysedCriteria analysis).Nodup
  own : ∀ item criterion, Classifies plan item criterion "REQUIRED_INSERTION" → ∀ key, Analysed analysis criterion key →
    Reserved evidence key.1 → Supports evidence criterion key.1

structure Accepted (analysis plan : Record) (accounts : Accounts) (items : List Record)
    (bound : List (String × List Key)) : Prop where
  listed : itemsOf plan "acceptanceCriteriaClassifications" = items.map .obj
  criteria : accounts.criteria = criteriaById analysis
  expected : expectedByCriterion accounts.criteria analysis = .ok accounts.expected
  classified : ¬Unclassified accounts.criteria (classifiedOf accounts.criteria plan)
  unsupported : unsupportedValues plan = .ok accounts.unsupported
  unsupportedClassified : sameCriteria (classifiedAs accounts.criteria items "UNSUPPORTED") accounts.unsupported
  evaluatorCriteria : evaluatorCriteria accounts.criteria analysis = .ok accounts.evaluatorCriteria
  insertions : insertionsOf plan = .ok accounts.insertions
  binding : items.mapM (checkClassification accounts) = .ok bound
  owned : sameMembers
    ((bound.foldl (fun (found : Dict String (List Key)) entry => found.set entry.1 entry.2) []).flatMap Prod.snd)
    accounts.insertions = true
  evaluatorClassified :
    sameCriteria (classifiedAs accounts.criteria items "EVALUATOR_OWNED") accounts.evaluatorCriteria

theorem checkAccounting_ok {plan analysis : Record} {evidence : Bindings}
    (checked : checkAccounting plan analysis evidence = .ok ()) :
    ∃ accounts items bound, accounts.evidence = evidence ∧ Accepted analysis plan accounts items bound := by
  simp only [checkAccounting, bind_eq_ok, raiseIf_eq_ok] at checked
  obtain ⟨expected, expecting, _, classified, _, _, unsupported, unsupporting, items, listed, _, unsupportedSame,
    owners, owning, insertions, inserting, bound, binding, _, owned, evaluatorSame⟩ := checked
  refine ⟨{ criteria := criteriaById analysis, expected, unsupported, evaluatorCriteria := owners, insertions, evidence },
    items, bound, rfl, ?_⟩
  constructor
  · apply eq_map_of_mapM listed
    intro value fields converted
    unfold WorkflowScheduler.asDict at converted
    split at converted
    · rename_i recorded
      cases converted
      exact Json.asRecord?_eq_some.mp recorded
    · cases converted
  · rfl
  · exact expecting
  · exact classified
  · exact unsupporting
  · exact not_not.mp unsupportedSame
  · exact owning
  · exact inserting
  · exact binding
  · rw [Bool.not_eq_true', Bool.not_eq_false] at owned
    exact owned
  · exact not_not.mp evaluatorSame

namespace Accepted

variable {analysis plan : Record} {accounts : Accounts} {items : List Record} {bound : List (String × List Key)}
  (accepted : Accepted analysis plan accounts items bound) (valid : ValidPlan plan)

include accepted

theorem items_eq : recordsOf plan "acceptanceCriteriaClassifications" = items := by
  have listed := accepted.listed
  unfold itemsOf at listed
  unfold recordsOf
  rw [listed, List.filterMap_map]
  exact List.filterMap_some

theorem unsupported_mem (criterion : String) :
    .str criterion ∈ itemsOf plan "unsupportedAcceptanceCriteria" ↔ criterion ∈ accounts.unsupported := by
  have computed := accepted.unsupported
  unfold unsupportedValues at computed
  simp only at computed
  unfold itemsOf
  split at computed
  · cases computed
  · rename_i values listed
    split at computed
    · cases computed
    · rename_i texts named
      split at computed
      · cases computed
      · cases computed
        rw [listed, Option.getD_some]
        have each := forall₂_of_mapM_some named
        have both : (∃ value ∈ values, value = .str criterion) ↔ ∃ text ∈ accounts.unsupported, text = criterion := by
          apply exists_mem_congr each
          intro value text found
          rw [Json.asString?_eq_some.mp found, Json.str.injEq]
        simpa using both

omit accepted in
theorem sameCriteria_mem {classified : List (Option String)} {criteria : List String}
    (same : sameCriteria classified criteria) (criterion : String) : some criterion ∈ classified ↔ criterion ∈ criteria := by
  constructor
  · intro member
    obtain ⟨name, listed, equal⟩ := same.1 _ member
    exact Option.some.inj equal ▸ listed
  · exact same.2 criterion

include valid

theorem shaped {item : Record} (member : item ∈ items) : Classification item := by
  obtain ⟨records, found, all⟩ := valid.classifications
  have listed : itemsOf plan "acceptanceCriteriaClassifications" = records.map .obj := by
    apply getOr_of_items
    rw [Dict.field_of_get? found]
    rfl
  have same := accepted.items_eq
  unfold recordsOf at same
  unfold itemsOf at listed
  rw [listed, List.filterMap_map] at same
  simp only [Function.comp_def, Json.asRecord?_obj, List.filterMap_some] at same
  exact all item (same ▸ member)

theorem checked : List.Forall₂ (fun item entry => item ∈ items ∧ Checked accounts item entry.1 entry.2) items bound := by
  have each := forall₂_of_mapM accepted.binding
  have inside : ∀ item ∈ items, Classification item := fun _ member => accepted.shaped valid member
  rw [List.forall₂_iff_get] at each ⊢
  refine ⟨each.1, fun index small large => ?_⟩
  have member := List.get_mem items ⟨index, small⟩
  exact ⟨member, checkClassification_ok (inside _ member) (each.2 index small large)⟩

theorem item_checked {item : Record} (member : item ∈ items) {criterion : String}
    (named : item.field "criterionId" = .str criterion) :
    ∃ bindings, Checked accounts item criterion bindings := by
  obtain ⟨⟨other, bindings⟩, _, _, found⟩ := exists_right_of_mem (accepted.checked valid) member
  have same := criterion_of_resolved (accepted.shaped valid member) found.resolved
  rw [named, Json.str.injEq] at same
  exact ⟨bindings, same ▸ found⟩

theorem resolved_iff {item : Record} (member : item ∈ items) (criterion : String) :
    classificationCriterionId item accounts.criteria = some criterion ↔ item.field "criterionId" = .str criterion := by
  constructor
  · exact criterion_of_resolved (accepted.shaped valid member)
  · intro named
    obtain ⟨_, found⟩ := accepted.item_checked valid member named
    exact found.resolved

theorem classifiedAs_mem (criterion disposition : String) :
    some criterion ∈ classifiedAs accounts.criteria items disposition ↔
      ∃ item, Classifies plan item criterion disposition := by
  unfold classifiedAs Classifies
  rw [accepted.items_eq, List.mem_map]
  simp only [List.mem_filter, decide_eq_true_eq]
  constructor
  · rintro ⟨item, ⟨member, disposed⟩, resolved⟩
    exact ⟨item, member, (accepted.resolved_iff valid member criterion).mp resolved, disposed⟩
  · rintro ⟨item, member, named, disposed⟩
    exact ⟨item, ⟨member, disposed⟩, (accepted.resolved_iff valid member criterion).mpr named⟩

theorem bound_criteria :
    (classifiedOf accounts.criteria plan) = bound.map (fun entry => some entry.1) ∧
      (recordsOf plan "acceptanceCriteriaClassifications").map (fun item => item.field "criterionId") =
        bound.map fun entry => .str entry.1 := by
  have each := accepted.checked valid
  have inside : ∀ item ∈ items, Classification item := fun _ member => accepted.shaped valid member
  have listed : classifiedOf accounts.criteria plan =
      items.map fun item => classificationCriterionId item accounts.criteria := by
    rw [← accepted.items_eq]
    rfl
  rw [listed, accepted.items_eq]
  constructor <;> apply (congrFun (congrFun List.forall₂_eq_eq_eq _) _).mp
  · rw [List.forall₂_map_left_iff, List.forall₂_map_right_iff]
    exact each.imp fun _ _ found => found.2.resolved
  · rw [List.forall₂_map_left_iff, List.forall₂_map_right_iff]
    exact each.imp fun _ _ found => criterion_of_resolved (inside _ found.1) found.2.resolved

theorem criteria_perm : (bound.map Prod.fst).Perm accounts.criteria.keys ∧ (bound.map Prod.fst).Nodup := by
  have passed := accepted.classified
  unfold Unclassified at passed
  rw [(accepted.bound_criteria valid).1] at passed
  simp only [not_or, not_not] at passed
  obtain ⟨_, _, sorted, distinct⟩ := passed
  have names : (bound.map fun entry => some entry.1).filterMap id = bound.map Prod.fst := by
    rw [List.filterMap_map]
    simp
  rw [names] at sorted
  constructor
  · have left := List.perm_insertionSort (· ≤ ·) (bound.map Prod.fst)
    have right := List.perm_insertionSort (· ≤ ·) accounts.criteria.keys
    rw [sorted] at left
    exact left.symm.trans right
  · have pairs : (bound.map fun entry => some entry.1) = (bound.map Prod.fst).map some := by
      rw [List.map_map]
      rfl
    rw [pairs] at distinct
    exact distinct.of_map

theorem insertions_mem (key : Key) : key ∈ keysOf plan "requiredInsertions" ↔
    ∃ item ∈ recordsOf plan "acceptanceCriteriaClassifications", key ∈ keysOf item "requiredInsertions" := by
  have assigned := Dict.foldl_set_eq bound [] (accepted.criteria_perm valid).2
  have owned := accepted.owned
  rw [assigned, List.nil_append] at owned
  have same (key : Key) : key ∈ bound.flatMap Prod.snd ↔ ∃ item ∈ items, key ∈ keysOf item "requiredInsertions" := by
    rw [List.mem_flatMap]
    apply Iff.symm
    apply exists_mem_congr (accepted.checked valid)
    intro item entry found
    exact (found.2.members key).symm
  have texts : ∀ key ∈ bound.flatMap Prod.snd, isKey key := by
    intro key member
    obtain ⟨item, inside, bindsKey⟩ := (same key).mp member
    exact isKey_of_mem (accepted.shaped valid inside) bindsKey
  rw [sameMembers_iff texts, insertionsOf_eq accepted.insertions] at owned
  rw [← owned key, same key, accepted.items_eq]

end Accepted

end Aep.BuildImplementationPlan
