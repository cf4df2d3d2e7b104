import Aep.BuildImplementationPlan.Accounting
import Aep.PlanningEvidence.PathContract
import Mathlib.Data.List.Dedup

namespace Aep.BuildImplementationPlan

open Result RuntimeStore
open PlanningEvidence (EvidenceError ScopeDisposition scopeDisposition isEditable decidingRecords pathOf selectionOf
  validatePlanPathContract)
open WorkflowScheduler (item)

/-- A failure of the handler's own, or one of the planning evidence that it does not catch. -/
inductive OutputError where
  | raised (error : PyError)
  | evidenceError (error : EvidenceError)
  deriving DecidableEq

def raised {α : Type} : Except PyError α → Except OutputError α
  | .ok value => .ok value
  | .error error => .error (.raised error)

def uncaught {α : Type} : Except EvidenceError α → Except OutputError α
  | .ok value => .ok value
  | .error error => .error (.evidenceError error)

/-- `except PlanningEvidenceError as error: raise BuildImplementationPlanContractError(str(error))`. -/
def contracted : Except EvidenceError Unit → Except OutputError Unit
  | .ok () => .ok ()
  | .error .typeError => .error (.evidenceError .typeError)
  | .error (.planningEvidenceError message) => .error (.raised (contractError message))
  | .error (.inspectionError _ _) => .error (.raised (contractError "planning-evidence inspection failed"))

section Package

variable (contextPackage : Record)

def planningRecords : Except PyError (List Record) := do
  return (← evidenceOf contextPackage).filter fun record => (record.field "path").isString

/-- Python's `in`. -/
def contains (values : Json) (name : String) : Except PyError Bool :=
  match values with
  | .arr items => .ok (items.contains (.str name))
  | .obj fields => .ok ((Dict.keys fields).contains name)
  | .str text => .ok (Text.contains name.toList text.toList)
  | value => .error (typeError ("argument of type " ++ value.repr ++ " is not iterable"))

def requiresEvidence : Except PyError Bool :=
  match getOr contextPackage "selection" (.obj []) with
  | .obj selection => contains (getOr selection "requiredContext" (.arr [])) "planning-evidence"
  | _ => .ok false

end Package

section Plan

variable (evidence : Dict String (List Record))

def sortedTexts (texts : List String) : List String := texts.insertionSort (· ≤ ·)

def authorizedPaths : List String :=
  sortedTexts ((evidence.filter fun entry => entry.2.any isEditable).map Prod.fst)

def evaluatorEvidence : List Record := evidence.flatMap fun entry => entry.2.filter fun record => !isEditable record

def recordsAt (path : String) : List Record := (evidence.get? path).getD []

def combined (dispositions : List ScopeDisposition) : ScopeDisposition :=
  if .change ∈ dispositions then .change
  else if .unsupported ∈ dispositions then .unsupported
  else if !dispositions.isEmpty && dispositions.all (· = .noChange) then .noChange
  else .unsupported

def classified (path : String) : Except OutputError (String × ScopeDisposition) := do
  return (path, combined (← uncaught ((decidingRecords (recordsAt evidence path)).mapM scopeDisposition)))

def pathsWith (disposition : ScopeDisposition) (paths : List (String × ScopeDisposition)) : List String :=
  (paths.filter fun entry => entry.2 = disposition).map Prod.fst

def texts (values : List String) : Json := .arr (values.map .str)

def selectedRecords : List Record := (authorizedPaths evidence).flatMap (recordsAt evidence)

def planEntries (paths : List (String × ScopeDisposition)) : Record :=
  [("authorizedPaths", texts (authorizedPaths evidence)),
    ("requiredChangePaths", texts (pathsWith .change paths)),
    ("verifiedNoChangePaths", texts (pathsWith .noChange paths)),
    ("unsupportedPaths", texts (pathsWith .unsupported paths)),
    ("pathEvidence", .arr ((selectedRecords evidence).map .obj)),
    ("evaluatorEvidence", .arr ((evaluatorEvidence evidence).map .obj)),
    ("intendedFiles", texts (authorizedPaths evidence)),
    ("noChangeFiles", texts (pathsWith .noChange paths))]

def assign (plan entries : Record) : Record := entries.foldl (fun plan entry => plan.set entry.1 entry.2) plan

variable (canonical : Record → String)

def canonicalPlan (plan : Record) (repositoryRevision : Except PyError Json) : Except OutputError Record := do
  let paths ← (authorizedPaths evidence).mapM (classified evidence)
  let decided := assign plan (planEntries evidence paths)
  let revision ← raised repositoryRevision
  contracted (validatePlanPathContract canonical revision.text decided ((selectedRecords evidence).map .obj))
  let cited ← raised ((selectedRecords evidence).mapM fun record => item record "selectionId")
  let evaluators ← raised ((evaluatorEvidence evidence).mapM fun record => item record "selectionId")
  return assign decided [("pathEvidence", .arr cited), ("evaluatorEvidence", .arr evaluators)]

end Plan

def missingPaths (evidence : Dict String (List Record)) (intended : List Json) : List String :=
  (sortedTexts (intended.map Json.text).dedup).filter fun path => (evidence.get? path).isNone

def authoritativePlan (canonical : Record → String) (plan workflow contextPackage : Record) (intended : List Json) :
    Except OutputError Record := do
  let records ← raised (planningRecords contextPackage)
  let evidence := Dict.grouped pathOf records
  let evidenceRequired ← raised (requiresEvidence contextPackage)
  raiseIf (evidence.isEmpty ∧ evidenceRequired = true)
    (.raised (contractError "authoritative plan requires trusted planning evidence"))
  if evidence.isEmpty then return plan
  else
    raiseIf (missingPaths evidence intended ≠ []) (.raised (contractError
      ("planned paths lack trusted planning evidence: " ++ Json.repr (texts (missingPaths evidence intended)))))
    canonicalPlan evidence canonical plan (item workflow "repositoryRevision")

def authoritativeOutput (canonical : Record → String) (output : Json) (workflow contextPackage : Record) :
    Except OutputError Json :=
  match output with
  | .obj plan =>
    match Dict.field plan "intendedFiles" with
    | .arr intended => do return .obj (← authoritativePlan canonical plan workflow contextPackage intended)
    | _ => .ok output
  | _ => .ok output

end Aep.BuildImplementationPlan

namespace Aep.BuildImplementationPlan

open Result
open PlanningEvidence (ScopeDisposition scopeDisposition scopeDisposition_total isEditable decidingRecords
  mem_decidingRecords pathOf selectionOf EditableAt WellFormed Coherent validatePlanPathContract validatePlanPathContract_ok)
open WorkflowScheduler (item)

/-- A Context Package whose planning evidence is well formed at a revision, with an editable scope. -/
structure Package (contextPackage : Record) (repositoryRevision : String) (records : List Record) : Prop where
  gathered : evidenceOf contextPackage = .ok records
  requiredContext : ∃ evidenceRequired, requiresEvidence contextPackage = .ok evidenceRequired
  wellFormed : ∀ record ∈ records, WellFormed repositoryRevision record
  identities : (records.map selectionOf).Nodup
  editable : ∃ record ∈ records, isEditable record = true

structure States (plan : Record) (authorized required noChange unsupported : List String) : Prop where
  authorized : plan.field "authorizedPaths" = texts authorized
  required : plan.field "requiredChangePaths" = texts required
  noChange : plan.field "verifiedNoChangePaths" = texts noChange
  unsupported : plan.field "unsupportedPaths" = texts unsupported

/-- The groups of paths are those that the editable evidence decides. -/
structure Decided (records : List Record) (authorized required noChange unsupported : List String) : Prop where
  distinct : authorized.Nodup
  partitioned : (required ++ noChange ++ unsupported).Perm authorized
  mem_authorized : ∀ path, path ∈ authorized ↔ ∃ record, EditableAt records path record
  mem_required : ∀ path, path ∈ required ↔ ∃ record, EditableAt records path record ∧ scopeDisposition record = .ok .change
  mem_noChange : ∀ path ∈ authorized, path ∈ noChange ↔
    ∀ record, EditableAt records path record → scopeDisposition record = .ok .noChange

section Evidence

variable {records : List Record}

theorem recordsAt_grouped (path : String) :
    recordsAt (Dict.grouped pathOf records) path = records.filter fun record => pathOf record = path :=
  Dict.getD_grouped pathOf records path

theorem authorizedPaths_perm (evidence : Dict String (List Record)) :
    (authorizedPaths evidence).Perm ((evidence.filter fun entry => entry.2.any isEditable).map Prod.fst) :=
  List.perm_insertionSort _ _

theorem mem_authorizedPaths {path : String} :
    path ∈ authorizedPaths (Dict.grouped pathOf records) ↔ ∃ record, EditableAt records path record := by
  rw [(authorizedPaths_perm _).mem_iff, List.mem_map]
  constructor
  · rintro ⟨entry, member, rfl⟩
    obtain ⟨inside, any⟩ := List.mem_filter.mp member
    obtain ⟨record, listed, editable⟩ := List.any_eq_true.mp any
    rw [Dict.group_of_mem inside] at listed
    simp only [List.mem_filter, decide_eq_true_eq] at listed
    exact ⟨record, listed.1, editable, listed.2⟩
  · rintro ⟨record, member, editable, located⟩
    have present : path ∈ (Dict.grouped pathOf records).keys := Dict.mem_keys_grouped.mpr ⟨record, member, located⟩
    refine ⟨_, List.mem_filter.mpr ⟨Dict.mem_grouped present, List.any_eq_true.mpr ⟨record, ?_, editable⟩⟩, rfl⟩
    simp [member, located]

theorem nodup_authorizedPaths : (authorizedPaths (Dict.grouped pathOf records)).Nodup := by
  rw [(authorizedPaths_perm _).nodup_iff]
  exact (Dict.nodup_keys_grouped pathOf records).sublist (List.filter_sublist.map _)

theorem mem_selectedRecords {record : Record} : record ∈ selectedRecords (Dict.grouped pathOf records) ↔
    record ∈ records ∧ pathOf record ∈ authorizedPaths (Dict.grouped pathOf records) := by
  unfold selectedRecords
  rw [List.mem_flatMap]
  constructor
  · rintro ⟨path, authorized, member⟩
    rw [recordsAt_grouped, List.mem_filter, decide_eq_true_eq] at member
    obtain ⟨listed, rfl⟩ := member
    exact ⟨listed, authorized⟩
  · rintro ⟨listed, authorized⟩
    refine ⟨pathOf record, authorized, ?_⟩
    rw [recordsAt_grouped, List.mem_filter, decide_eq_true_eq]
    exact ⟨listed, rfl⟩

theorem selectedRecords_identities (identities : (records.map selectionOf).Nodup) :
    ((selectedRecords (Dict.grouped pathOf records)).map selectionOf).Nodup := by
  unfold selectedRecords
  rw [List.map_flatMap, List.nodup_flatMap]
  constructor
  · intro path _
    rw [recordsAt_grouped]
    exact identities.sublist (List.filter_sublist.map _)
  · refine nodup_authorizedPaths.imp ?_
    intro first second different identity inFirst inSecond
    dsimp only at inFirst inSecond
    rw [recordsAt_grouped] at inFirst inSecond
    obtain ⟨one, listed, rfl⟩ := List.mem_map.mp inFirst
    obtain ⟨two, listedToo, same⟩ := List.mem_map.mp inSecond
    simp only [List.mem_filter, decide_eq_true_eq] at listed listedToo
    have equal := List.inj_on_of_nodup_map identities listedToo.1 listed.1 same
    exact different (listed.2.symm.trans ((congrArg pathOf equal.symm).trans listedToo.2))

end Evidence

section Classes

theorem combined_change {dispositions : List ScopeDisposition} :
    combined dispositions = .change ↔ .change ∈ dispositions := by
  unfold combined
  split
  · simp [*]
  · split
    · simp [*]
    · split <;> simp [*]

theorem combined_noChange {dispositions : List ScopeDisposition} (some : dispositions ≠ []) :
    combined dispositions = .noChange ↔ ∀ disposition ∈ dispositions, disposition = .noChange := by
  unfold combined
  by_cases change : .change ∈ dispositions
  · rw [if_pos change]
    refine ⟨fun same => absurd same (by simp), fun all => ?_⟩
    cases all _ change
  · rw [if_neg change]
    by_cases unsupported : .unsupported ∈ dispositions
    · rw [if_pos unsupported]
      refine ⟨fun same => absurd same (by simp), fun all => ?_⟩
      cases all _ unsupported
    · have all : ∀ disposition ∈ dispositions, disposition = .noChange := by
        intro disposition member
        cases disposition with
        | change => exact absurd member change
        | noChange => rfl
        | unsupported => exact absurd member unsupported
      have each : (!dispositions.isEmpty && dispositions.all (· = .noChange)) = true := by simpa [some] using all
      rw [if_neg unsupported, if_pos each]
      exact ⟨fun _ => all, fun _ => rfl⟩

theorem combined_unsupported {dispositions : List ScopeDisposition} (some : dispositions ≠ [])
    (unsupported : combined dispositions = .unsupported) : .unsupported ∈ dispositions := by
  by_contra missing
  have noChange : ¬∀ disposition ∈ dispositions, disposition = .noChange := by
    rw [← combined_noChange some, unsupported]
    simp
  have change : .change ∉ dispositions := by
    rw [← combined_change, unsupported]
    simp
  refine noChange fun disposition member => ?_
  cases disposition with
  | change => exact absurd member change
  | noChange => rfl
  | unsupported => exact absurd member missing

theorem mem_pathsWith {disposition : ScopeDisposition} {paths : List (String × ScopeDisposition)} {path : String} :
    path ∈ pathsWith disposition paths ↔ (path, disposition) ∈ paths := by
  simp [pathsWith]

theorem pathsWith_perm (paths : List (String × ScopeDisposition)) :
    (pathsWith .change paths ++ pathsWith .noChange paths ++ pathsWith .unsupported paths).Perm (paths.map Prod.fst) := by
  induction paths with
  | nil => exact .nil
  | cons entry rest ih =>
    obtain ⟨path, disposition⟩ := entry
    cases disposition with
    | change => simpa [pathsWith] using ih
    | noChange =>
      have moved : (pathsWith .change rest ++ path :: (pathsWith .noChange rest ++ pathsWith .unsupported rest)).Perm
          (path :: (pathsWith .change rest ++ (pathsWith .noChange rest ++ pathsWith .unsupported rest))) := List.perm_middle
      simpa [pathsWith] using moved.trans (by simpa [pathsWith] using ih)
    | unsupported =>
      have moved : (pathsWith .change rest ++ pathsWith .noChange rest ++ path :: pathsWith .unsupported rest).Perm
          (path :: (pathsWith .change rest ++ pathsWith .noChange rest ++ pathsWith .unsupported rest)) := List.perm_middle
      simpa [pathsWith] using moved.trans (by simpa [pathsWith] using ih)

end Classes

section Plan

variable {records : List Record} {repositoryRevision : String} {contextPackage : Record}

structure Classes (records : List Record) (paths : List (String × ScopeDisposition)) : Prop where
  names : paths.map Prod.fst = authorizedPaths (Dict.grouped pathOf records)
  change : ∀ path, (path, .change) ∈ paths ↔
    ∃ record, EditableAt records path record ∧ scopeDisposition record = .ok .change
  noChange : ∀ path ∈ paths.map Prod.fst, (path, .noChange) ∈ paths ↔
    ∀ record, EditableAt records path record → scopeDisposition record = .ok .noChange
  unsupported : ∀ path, (path, .unsupported) ∈ paths →
    ∃ record, EditableAt records path record ∧ scopeDisposition record = .ok .unsupported

theorem mem_deciding {path : String} {record : Record} (editable : ∃ found, EditableAt records path found) :
    record ∈ decidingRecords (recordsAt (Dict.grouped pathOf records) path) ↔ EditableAt records path record := by
  obtain ⟨found, member, its, located⟩ := editable
  rw [recordsAt_grouped, mem_decidingRecords ⟨found, by simp [member, located], its⟩]
  simp only [List.mem_filter, decide_eq_true_eq, EditableAt]
  constructor
  · rintro ⟨⟨member, here⟩, editable⟩
    exact ⟨member, editable, here⟩
  · rintro ⟨member, editable, here⟩
    exact ⟨⟨member, here⟩, editable⟩

/-- The dispositions that a path is classified by are those of its editable scopes. -/
structure Scopes (records : List Record) (path : String) (dispositions : List ScopeDisposition) : Prop where
  some : dispositions ≠ []
  mem : ∀ disposition, disposition ∈ dispositions ↔
    ∃ record, EditableAt records path record ∧ scopeDisposition record = .ok disposition
  total : ∀ record, EditableAt records path record → ∃ disposition, scopeDisposition record = .ok disposition

theorem classified_ok (wellFormed : ∀ record ∈ records, WellFormed repositoryRevision record) {path : String}
    (editable : ∃ record, EditableAt records path record) :
    ∃ dispositions, classified (Dict.grouped pathOf records) path = .ok (path, combined dispositions) ∧
      Scopes records path dispositions := by
  have total (record : Record) (its : EditableAt records path record) :
      ∃ disposition, scopeDisposition record = .ok disposition := scopeDisposition_total (wellFormed record its.1).scope
  obtain ⟨dispositions, decided⟩ : ∃ dispositions,
      (decidingRecords (recordsAt (Dict.grouped pathOf records) path)).mapM scopeDisposition = .ok dispositions :=
    mapM_total fun record member => total record ((mem_deciding editable).mp member)
  have mem (disposition : ScopeDisposition) : disposition ∈ dispositions ↔
      ∃ record, EditableAt records path record ∧ scopeDisposition record = .ok disposition := by
    rw [mem_mapM_iff decided]
    exact exists_congr fun record => and_congr_left fun _ => mem_deciding editable
  refine ⟨dispositions, by simp [classified, decided, uncaught, pure, Except.pure], ?_, mem, total⟩
  obtain ⟨record, its⟩ := editable
  obtain ⟨disposition, here⟩ := total record its
  exact List.ne_nil_of_mem ((mem disposition).mpr ⟨record, its, here⟩)

theorem classes_ok (wellFormed : ∀ record ∈ records, WellFormed repositoryRevision record) :
    ∃ paths, (authorizedPaths (Dict.grouped pathOf records)).mapM (classified (Dict.grouped pathOf records)) = .ok paths ∧
      Classes records paths := by
  have each (path : String) (member : path ∈ authorizedPaths (Dict.grouped pathOf records)) :=
    classified_ok wellFormed (mem_authorizedPaths.mp member)
  obtain ⟨paths, computed⟩ : ∃ paths,
      (authorizedPaths (Dict.grouped pathOf records)).mapM (classified (Dict.grouped pathOf records)) = .ok paths :=
    mapM_total fun path member => by
      obtain ⟨dispositions, here, _⟩ := each path member
      exact ⟨_, here⟩
  have named : authorizedPaths (Dict.grouped pathOf records) = paths.map Prod.fst := by
    apply eq_map_of_mapM computed
    intro path entry here
    simp only [classified, bind_eq_ok, pure_eq_ok] at here
    obtain ⟨dispositions, _, rfl⟩ := here
    rfl
  have listed (path : String) (member : path ∈ authorizedPaths (Dict.grouped pathOf records)) :
      ∃ dispositions, Scopes records path dispositions ∧ (path, combined dispositions) ∈ paths := by
    obtain ⟨dispositions, here, scopes⟩ := each path member
    exact ⟨dispositions, scopes, (mem_mapM_iff computed).mpr ⟨path, member, here⟩⟩
  have decided {path : String} {disposition : ScopeDisposition} (inside : (path, disposition) ∈ paths) :
      ∃ dispositions, Scopes records path dispositions ∧ combined dispositions = disposition := by
    obtain ⟨other, member, here⟩ := (mem_mapM_iff computed).mp inside
    obtain ⟨dispositions, computed, scopes⟩ := each other member
    cases here.symm.trans computed
    exact ⟨dispositions, scopes, rfl⟩
  refine ⟨paths, computed, named.symm, fun path => ⟨fun inside => ?_, fun changes => ?_⟩,
    fun path member => ⟨fun inside record its => ?_, fun all => ?_⟩, fun path inside => ?_⟩
  · obtain ⟨dispositions, scopes, combination⟩ := decided inside
    exact (scopes.mem _).mp (combined_change.mp combination)
  · obtain ⟨record, its, here⟩ := changes
    obtain ⟨dispositions, scopes, inside⟩ := listed path (mem_authorizedPaths.mpr ⟨record, its⟩)
    rwa [combined_change.mpr ((scopes.mem _).mpr ⟨record, its, here⟩)] at inside
  · obtain ⟨dispositions, scopes, combination⟩ := decided inside
    obtain ⟨disposition, here⟩ := scopes.total record its
    rw [here, (combined_noChange scopes.some).mp combination disposition ((scopes.mem _).mpr ⟨record, its, here⟩)]
  · rw [← named] at member
    obtain ⟨dispositions, scopes, inside⟩ := listed path member
    rwa [(combined_noChange scopes.some).mpr] at inside
    intro disposition inDispositions
    obtain ⟨record, its, here⟩ := (scopes.mem disposition).mp inDispositions
    exact (Except.ok.inj (here.symm.trans (all record its)))
  · obtain ⟨dispositions, scopes, combination⟩ := decided inside
    exact (scopes.mem _).mp (combined_unsupported scopes.some combination)

def groupsOf (paths : List (String × ScopeDisposition)) : PlanningEvidence.PathGroups where
  required := pathsWith .change paths
  noChange := pathsWith .noChange paths
  unsupported := pathsWith .unsupported paths

theorem editable_selected {path : String} {record : Record} : EditableAt (selectedRecords (Dict.grouped pathOf records)) path record ↔
    EditableAt records path record := by
  unfold EditableAt
  rw [mem_selectedRecords]
  constructor
  · rintro ⟨⟨member, _⟩, editable, located⟩
    exact ⟨member, editable, located⟩
  · rintro ⟨member, editable, rfl⟩
    exact ⟨⟨member, mem_authorizedPaths.mpr ⟨record, member, editable, rfl⟩⟩, editable, rfl⟩

theorem coherent_of_classes (package : Package contextPackage repositoryRevision records)
    {paths : List (String × ScopeDisposition)} (classes : Classes records paths) :
    Coherent repositoryRevision (authorizedPaths (Dict.grouped pathOf records)) (groupsOf paths)
      (selectedRecords (Dict.grouped pathOf records)) where
  some := by
    obtain ⟨record, member, editable⟩ := package.editable
    exact List.ne_nil_of_mem (mem_authorizedPaths.mpr ⟨record, member, editable, rfl⟩)
  distinct := nodup_authorizedPaths
  partitioned := classes.names ▸ pathsWith_perm paths
  wellFormed record member := package.wellFormed record (mem_selectedRecords.mp member).1
  identities := selectedRecords_identities package.identities
  covers path := by
    constructor
    · intro authorized
      obtain ⟨record, member, _, rfl⟩ := mem_authorizedPaths.mp authorized
      exact ⟨record, mem_selectedRecords.mpr ⟨member, authorized⟩, rfl⟩
    · rintro ⟨record, member, rfl⟩
      exact (mem_selectedRecords.mp member).2
  editable path authorized := by
    obtain ⟨record, its⟩ := mem_authorizedPaths.mp authorized
    exact ⟨record, editable_selected.mpr its⟩
  required path member := by
    obtain ⟨record, its, here⟩ := (classes.change path).mp (mem_pathsWith.mp member)
    exact ⟨record, editable_selected.mpr its, here⟩
  noChange path member record its := by
    have inside := mem_pathsWith.mp member
    exact (classes.noChange path (List.mem_map_of_mem inside)).mp inside record (editable_selected.mp its)
  unsupported path member := by
    obtain ⟨record, its, here⟩ := classes.unsupported path (mem_pathsWith.mp member)
    exact ⟨record, editable_selected.mpr its, here⟩

theorem decided_of_classes {paths : List (String × ScopeDisposition)} (classes : Classes records paths) :
    Decided records (authorizedPaths (Dict.grouped pathOf records)) (pathsWith .change paths) (pathsWith .noChange paths)
      (pathsWith .unsupported paths) where
  distinct := nodup_authorizedPaths
  partitioned := classes.names ▸ pathsWith_perm paths
  mem_authorized _ := mem_authorizedPaths
  mem_required path := mem_pathsWith.trans (classes.change path)
  mem_noChange path authorized := mem_pathsWith.trans (classes.noChange path (classes.names ▸ authorized))

theorem item_selectionId (wellFormed : ∀ record ∈ records, WellFormed repositoryRevision record) (listed : List Record)
    (inside : ∀ record ∈ listed, record ∈ records) :
    ∃ cited, (listed.mapM fun record => item record "selectionId") = .ok cited := by
  apply mapM_total
  intro record member
  obtain ⟨selectionId, named, _⟩ := (wellFormed record (inside record member)).selectionId
  refine ⟨.str selectionId, ?_⟩
  rw [item, Dict.get?_of_field named (by simp)]

theorem canonicalPlan_ok (package : Package contextPackage repositoryRevision records) (canonical : Record → String)
    (plan : Record) {revision : Json} (same : revision.text = repositoryRevision) :
    ∃ decided authorized required noChange unsupported,
      canonicalPlan (Dict.grouped pathOf records) canonical plan (.ok revision) = .ok decided ∧
        States decided authorized required noChange unsupported ∧ Decided records authorized required noChange unsupported := by
  obtain ⟨paths, computed, classes⟩ := classes_ok package.wellFormed
  have accepted : validatePlanPathContract canonical repositoryRevision
      (assign plan (planEntries (Dict.grouped pathOf records) paths))
      ((selectedRecords (Dict.grouped pathOf records)).map .obj) = .ok () :=
    validatePlanPathContract_ok (coherent_of_classes package classes) canonical
    (by simp [assign, planEntries, Dict.field, Dict.get?_set, texts])
    (by simp [assign, planEntries, Dict.field, Dict.get?_set, texts, groupsOf])
    (by simp [assign, planEntries, Dict.field, Dict.get?_set, texts, groupsOf])
    (by simp [assign, planEntries, Dict.field, Dict.get?_set, texts, groupsOf])
    (by simp [assign, planEntries, Dict.field, Dict.get?_set])
  obtain ⟨cited, citing⟩ := item_selectionId package.wellFormed (selectedRecords (Dict.grouped pathOf records))
    fun record member => (mem_selectedRecords.mp member).1
  obtain ⟨evaluators, evaluating⟩ := item_selectionId package.wellFormed (evaluatorEvidence (Dict.grouped pathOf records))
    fun record member => by
      obtain ⟨entry, inside, listed⟩ := List.mem_flatMap.mp member
      have group := (List.mem_filter.mp listed).1
      rw [Dict.group_of_mem inside] at group
      exact (List.mem_filter.mp group).1
  refine ⟨assign (assign plan (planEntries (Dict.grouped pathOf records) paths))
    [("pathEvidence", .arr cited), ("evaluatorEvidence", .arr evaluators)], _, _, _, _, ?_, ?_, decided_of_classes classes⟩
  · rw [canonicalPlan, computed, ok_bind]
    simp only [raised, ok_bind, same]
    rw [accepted, contracted, ok_bind, citing, evaluating]
    rfl
  · constructor <;> simp [assign, planEntries, Dict.field, Dict.get?_set]

/-- Over well-formed evidence the authoritative plan is made, and states what the editable evidence decides. -/
theorem authoritativeOutput_decided {workflow plan : Record} {revision : Json} {intended : List Json}
    (known : workflow.get? "repositoryRevision" = some revision)
    (package : Package contextPackage revision.text records) (proposed : plan.field "intendedFiles" = .arr intended)
    (evident : ∀ file ∈ intended, ∃ record ∈ records, pathOf record = file.text) (canonical : Record → String) :
    ∃ decided authorized required noChange unsupported,
      authoritativeOutput canonical (.obj plan) workflow contextPackage = .ok (.obj decided) ∧
        States decided authorized required noChange unsupported ∧ Decided records authorized required noChange unsupported := by
  obtain ⟨decided, authorized, required, noChange, unsupported, made, states, its⟩ :=
    canonicalPlan_ok package canonical plan rfl
  refine ⟨decided, authorized, required, noChange, unsupported, ?_, states, its⟩
  have gathered : planningRecords contextPackage = .ok records := by
    rw [planningRecords, package.gathered, ok_bind]
    congr 1
    refine List.filter_eq_self.mpr fun record member => ?_
    obtain ⟨path, named, _⟩ := (package.wellFormed record member).path
    rw [named]
    rfl
  obtain ⟨evidenceRequired, needed⟩ := package.requiredContext
  have some : (Dict.grouped pathOf records).isEmpty = false := by
    obtain ⟨record, member, _⟩ := package.editable
    have present : pathOf record ∈ (Dict.grouped pathOf records).keys := Dict.mem_keys_grouped.mpr ⟨record, member, rfl⟩
    have present := Dict.mem_grouped present
    exact List.isEmpty_eq_false_iff_exists_mem.mpr ⟨_, present⟩
  have missing : missingPaths (Dict.grouped pathOf records) intended = [] := by
    unfold missingPaths
    rw [List.filter_eq_nil_iff]
    intro path member
    have inside : path ∈ (intended.map Json.text).dedup := (List.perm_insertionSort _ _).mem_iff.mp member
    obtain ⟨file, listed, rfl⟩ := List.mem_map.mp (List.mem_dedup.mp inside)
    have present : file.text ∈ (Dict.grouped pathOf records).keys := Dict.mem_keys_grouped.mpr (evident file listed)
    intro none
    exact Dict.get?_eq_none.mp (Option.isNone_iff_eq_none.mp none) present
  have revised : item workflow "repositoryRevision" = .ok revision := by rw [item, known]
  unfold authoritativeOutput
  dsimp only
  rw [proposed]
  dsimp only
  rw [authoritativePlan, gathered]
  simp only [raised, ok_bind]
  rw [needed, some, missing, revised]
  simp [raised, raiseIf_neg, made, pure, Except.pure]

namespace Sample

def scopeRecord (path selectionId : String) (scope : Record) : Record :=
  [("path", .str path), ("selectionId", .str selectionId),
    ("preimageSha256", .str "e3b0c44298fc1c149afbf4c8996fb92427ae41e4649b934ca495991b7852b855"),
    ("repositoryRevision", .str "r1")] ++ scope

def scopeRecords : List Record := [
  scopeRecord "a.md" "s1" [("predicateResults", .arr [.obj [("result", .str "MATCH")]])],
  scopeRecord "b.md" "s2" [("criterionBindings", .arr [.obj [("postconditionResult", .str "MATCH")]])],
  scopeRecord "c.md" "s3" [("authorizationRole", .str "EVALUATOR_ONLY"),
    ("predicateResults", .arr [.obj [("result", .str "MATCH")]])]]

def scopePackage : Record := [
  ("elements", .arr (scopeRecords.map fun record => .obj [("type", .str "planning-evidence"), ("content", .obj record)])),
  ("selection", .obj [("requiredContext", .arr [.str "planning-evidence"])])]

theorem scopePackage_wellFormed : Package scopePackage "r1" scopeRecords where
  gathered := rfl
  requiredContext := ⟨true, rfl⟩
  wellFormed record member := by
    simp only [scopeRecords, List.mem_cons, List.not_mem_nil, or_false] at member
    rcases member with rfl | rfl | rfl
    · exact ⟨⟨"a.md", rfl, by decide⟩, ⟨"s1", rfl, by decide⟩, ⟨_, rfl, by decide⟩, rfl,
        .inr ⟨fun _ => Json.noConfusion, _, rfl, by decide, by decide⟩⟩
    · exact ⟨⟨"b.md", rfl, by decide⟩, ⟨"s2", rfl, by decide⟩, ⟨_, rfl, by decide⟩, rfl, .inl ⟨_, rfl, by decide, by decide⟩⟩
    · exact ⟨⟨"c.md", rfl, by decide⟩, ⟨"s3", rfl, by decide⟩, ⟨_, rfl, by decide⟩, rfl,
        .inr ⟨fun _ => Json.noConfusion, _, rfl, by decide, by decide⟩⟩
  identities := by decide
  editable := ⟨_, List.mem_cons_self, by decide⟩

end Sample

theorem authoritativeOutput_decided_sample : ∃ decided authorized required noChange unsupported,
    authoritativeOutput (fun record => Json.repr (.obj record)) (.obj [("intendedFiles", .arr [.str "c.md"])])
        [("repositoryRevision", .str "r1")] Sample.scopePackage = .ok (.obj decided) ∧
      States decided authorized required noChange unsupported ∧
        Decided Sample.scopeRecords authorized required noChange unsupported :=
  authoritativeOutput_decided rfl Sample.scopePackage_wellFormed rfl
    (fun file listed => ⟨_, List.mem_cons_of_mem _ (List.mem_cons_of_mem _ List.mem_cons_self), by
      rw [List.mem_singleton.mp listed]
      decide⟩) _

end Plan

end Aep.BuildImplementationPlan
