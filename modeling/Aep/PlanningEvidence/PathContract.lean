import Aep.Library.Grouping
import Aep.PlanningEvidence.Reconciliation

namespace Aep.PlanningEvidence

open Result

inductive ScopeDisposition where
  | change
  | noChange
  | unsupported
  deriving DecidableEq

def malformed (part : String) : EvidenceError :=
  .planningEvidenceError ("planning evidence has malformed " ++ part)

def asMappings (part : String) (items : List Json) : Except EvidenceError (List Record) :=
  items.mapM fun item => match item with
    | .obj fields => .ok fields
    | _ => .error (malformed part)

section Scopes

def bindingDisposition (binding : Record) : ScopeDisposition :=
  if Dict.field binding "predicateResult" = .str "MATCH" then .change
  else if Dict.field binding "postconditionResult" = .str "MATCH" then .noChange
  else .unsupported

def bindingsDisposition (bindings : List Json) : Except EvidenceError ScopeDisposition := do
  raiseIf (bindings = []) (malformed "criterion bindings")
  let dispositions := (← asMappings "criterion bindings" bindings).map bindingDisposition
  return if .change ∈ dispositions then .change
    else if dispositions.all (· = .noChange) then .noChange else .unsupported

def isMatchResult : Json → Bool
  | .obj result => Dict.field result "result" = .str "MATCH"
  | _ => false

def postconditionsHold (record : Record) : Bool :=
  match (record.get? "postconditionResults").getD (.arr []) with
  | .arr results => !results.isEmpty && results.all isMatchResult
  | _ => false

def resultsDisposition (record : Record) (results : List Json) : Except EvidenceError ScopeDisposition := do
  raiseIf (results = []) (malformed "predicate results")
  let states := (← asMappings "predicate results" results).map fun result => Dict.field result "result"
  return if .str "UNSUPPORTED" ∈ states then .unsupported
    else if states.all (· = .str "MATCH") then .change
    else if postconditionsHold record then .noChange else .unsupported

def scopeDisposition (record : Record) : Except EvidenceError ScopeDisposition :=
  match Dict.field record "criterionBindings" with
  | .arr bindings => bindingsDisposition bindings
  | _ =>
    match (record.get? "predicateResults").getD (.arr []) with
    | .arr results => resultsDisposition record results
    | _ => .error (malformed "predicate results")

def isEditable (record : Record) : Bool := Dict.field record "authorizationRole" ≠ .str "EVALUATOR_ONLY"

def decidingRecords (records : List Record) : List Record :=
  if (records.filter isEditable).isEmpty then records else records.filter isEditable

end Scopes

section Contract

def checkedPath : Json → Except EvidenceError String
  | .str path => do
    checkPath path
    return path
  | _ => .error (.planningEvidenceError "planning evidence path is unsafe")

/-- `_paths`. -/
def pathList (field : String) (required : Bool) : Json → Except EvidenceError (List String)
  | .arr items => do
    raiseIf (required = true ∧ items = []) (.planningEvidenceError (field ++ " must be an array with paths"))
    raiseIf ((items.all Json.isHashable) = false) .typeError
    raiseIf (hasDuplicates items = true) (.planningEvidenceError (field ++ " contains duplicates"))
    items.mapM checkedPath
  | _ => .error (.planningEvidenceError (field ++ " must be an array" ++ if required then " with paths" else ""))

def pathOf (record : Record) : String := (Dict.field record "path").text

def selectionOf (record : Record) : String := (Dict.field record "selectionId").text

def evidenceRecord : Json → Except EvidenceError Record
  | .obj record => do
    let _ ← checkedPath (Dict.field record "path")
    return record
  | _ => .error (.planningEvidenceError "pathEvidence must contain planning evidence records")

def identityError : EvidenceError :=
  .planningEvidenceError "trusted planning evidence has invalid or duplicate identities"

def trustRecord (trusted : Dict String Record) : Json → Except EvidenceError (Dict String Record)
  | .obj record =>
    match Dict.field record "selectionId" with
    | .str selectionId => do
      raiseIf (selectionId = "" ∨ selectionId ∈ trusted.keys) identityError
      return trusted.set selectionId record
    | _ => .error identityError
  | _ => .error identityError

def isHexDigit (char : Char) : Bool := ('0' ≤ char && char ≤ '9') || ('a' ≤ char && char ≤ 'f')

/-- `[0-9a-f]{64}`. -/
def isDigest (text : String) : Bool := text.toList.length = 64 && text.toList.all isHexDigit

structure PathGroups where
  required : List String
  noChange : List String
  unsupported : List String

def aboutPath (path rest : String) : EvidenceError :=
  .planningEvidenceError ("planning evidence for " ++ Json.repr (.str path) ++ " " ++ rest)

variable (canonical : Record → String) (trusted : Dict String Record) (repositoryRevision : String)

def checkTrusted (path : String) (record : Record) : Except EvidenceError Unit := do
  raiseIf (Dict.field record "repositoryRevision" ≠ .str repositoryRevision) (aboutPath path "is revision-mismatched")
  raiseIf (isDigest ((record.get? "preimageSha256").getD (.str "")).text = false) (aboutPath path "lacks a content digest")
  raiseIf (((trusted.get? ((record.get? "selectionId").getD (.str "")).text).any fun known =>
      canonical record = canonical known) = false)
    (aboutPath path "does not match trusted Context Builder evidence")

def checkDispositions (groups : PathGroups) (path : String) (dispositions : List ScopeDisposition) :
    Except EvidenceError Unit := do
  raiseIf (path ∈ groups.required ∧ .change ∉ dispositions) (.planningEvidenceError
    ("required-change path " ++ Json.repr (.str path) ++ " does not satisfy its planning predicates"))
  raiseIf (path ∈ groups.noChange ∧ (dispositions = [] ∨ (dispositions.any (· ≠ .noChange)) = true)) (.planningEvidenceError
    ("no-change path " ++ Json.repr (.str path) ++ " lacks satisfied planning-time postconditions"))
  raiseIf (path ∈ groups.unsupported ∧ .unsupported ∉ dispositions) (.planningEvidenceError
    ("unsupported path " ++ Json.repr (.str path) ++ " lacks unsupported evidence"))

def checkEvidence (groups : PathGroups) (path : String) (records : List Record) : Except EvidenceError Unit := do
  raiseIf (¬(records.map selectionOf).Nodup) (.planningEvidenceError "pathEvidence has duplicate scope identities")
  let _ ← records.mapM (checkTrusted canonical trusted repositoryRevision path)
  checkDispositions groups path (← (decidingRecords records).mapM scopeDisposition)

def shareAny (left right : List String) : Bool := left.any fun path => right.contains path

def checkGroups (groups : PathGroups) (authorized : List String) : Except EvidenceError Unit := do
  raiseIf ((shareAny groups.required groups.noChange || shareAny groups.required groups.unsupported ||
      shareAny groups.noChange groups.unsupported) = true)
    (.planningEvidenceError "implementation-plan path dispositions conflict")
  raiseIf (¬(groups.required ++ groups.noChange ++ groups.unsupported ⊆ authorized ∧
      authorized ⊆ groups.required ++ groups.noChange ++ groups.unsupported))
    (.planningEvidenceError "every authorized path requires exactly one disposition")

def pathGroups (plan : Record) : Except EvidenceError PathGroups := do
  return {
    required := ← pathList "requiredChangePaths" false (Dict.field plan "requiredChangePaths")
    noChange := ← pathList "verifiedNoChangePaths" false (Dict.field plan "verifiedNoChangePaths")
    unsupported := ← pathList "unsupportedPaths" false (Dict.field plan "unsupportedPaths") }

def evidenceItems (plan : Record) : Except EvidenceError (List Json) :=
  match Dict.field plan "pathEvidence" with
  | .arr items => .ok items
  | _ => .error (.planningEvidenceError "implementation plan requires pathEvidence")

def validatePlanPathContract (plan : Record) (trustedPathEvidence : List Json) : Except EvidenceError Unit := do
  let authorized ← pathList "authorizedPaths" true (Dict.field plan "authorizedPaths")
  let groups ← pathGroups plan
  checkGroups groups authorized
  let records ← (← evidenceItems plan).mapM evidenceRecord
  let byPath := Dict.grouped pathOf records
  raiseIf (¬(byPath.keys ⊆ authorized ∧ authorized ⊆ byPath.keys))
    (.planningEvidenceError "pathEvidence must cover every authorized path")
  let trusted ← trustedPathEvidence.foldlM trustRecord []
  let _ ← byPath.mapM fun entry => checkEvidence canonical trusted repositoryRevision groups entry.1 entry.2
  return ()

end Contract

end Aep.PlanningEvidence

namespace Aep.PlanningEvidence

open Result

def ScopeRecord (record : Record) : Prop :=
  (∃ bindings, Dict.field record "criterionBindings" = .arr bindings ∧ bindings ≠ [] ∧
    ∀ binding ∈ bindings, binding.isMapping = true) ∨
  (∀ bindings, Dict.field record "criterionBindings" ≠ .arr bindings) ∧
    ∃ results, Dict.field record "predicateResults" = .arr results ∧ results ≠ [] ∧
      ∀ result ∈ results, result.isMapping = true

structure WellFormed (repositoryRevision : String) (record : Record) : Prop where
  path : ∃ path, Dict.field record "path" = .str path ∧ checkPath path = .ok ()
  selectionId : ∃ selectionId, Dict.field record "selectionId" = .str selectionId ∧ selectionId ≠ ""
  digest : ∃ digest, Dict.field record "preimageSha256" = .str digest ∧ isDigest digest = true
  revision : Dict.field record "repositoryRevision" = .str repositoryRevision
  scope : ScopeRecord record

def EditableAt (records : List Record) (path : String) (record : Record) : Prop :=
  record ∈ records ∧ isEditable record = true ∧ pathOf record = path

structure Coherent (repositoryRevision : String) (authorized : List String) (groups : PathGroups) (cited : List Record) :
    Prop where
  some : authorized ≠ []
  distinct : authorized.Nodup
  partitioned : (groups.required ++ groups.noChange ++ groups.unsupported).Perm authorized
  wellFormed : ∀ record ∈ cited, WellFormed repositoryRevision record
  identities : (cited.map selectionOf).Nodup
  covers : ∀ path, path ∈ authorized ↔ ∃ record ∈ cited, pathOf record = path
  editable : ∀ path ∈ authorized, ∃ record, EditableAt cited path record
  required : ∀ path ∈ groups.required, ∃ record, EditableAt cited path record ∧ scopeDisposition record = .ok .change
  noChange : ∀ path ∈ groups.noChange, ∀ record, EditableAt cited path record → scopeDisposition record = .ok .noChange
  unsupported : ∀ path ∈ groups.unsupported, ∃ record, EditableAt cited path record ∧
    scopeDisposition record = .ok .unsupported

section Scopes

theorem asMappings_ok {part : String} {items : List Json} (mappings : ∀ item ∈ items, item.isMapping = true) :
    ∃ records, asMappings part items = .ok records := by
  apply mapM_total
  intro item member
  have mapping := mappings item member
  cases item with
  | obj fields => exact ⟨fields, rfl⟩
  | _ => cases mapping

theorem field_getD {record : Record} {key : String} {items : List Json} (found : Dict.field record key = .arr items)
    (default : Json) : (record.get? key).getD default = .arr items := by
  rw [Dict.get?_of_field found (by simp), Option.getD_some]

theorem scopeDisposition_total {record : Record} (scope : ScopeRecord record) :
    ∃ disposition, scopeDisposition record = .ok disposition := by
  unfold scopeDisposition
  rcases scope with ⟨bindings, found, some, mappings⟩ | ⟨unbound, results, found, some, mappings⟩
  · obtain ⟨records, each⟩ := @asMappings_ok "criterion bindings" _ mappings
    rw [found]
    simp [bindingsDisposition, raiseIf_neg, some, each]
  · obtain ⟨records, each⟩ := @asMappings_ok "predicate results" _ mappings
    split
    · rename_i bindings bound
      exact absurd bound (unbound bindings)
    · rw [field_getD found]
      simp [resultsDisposition, raiseIf_neg, some, each]

theorem mem_decidingRecords {records : List Record} (editable : ∃ record ∈ records, isEditable record = true)
    {record : Record} : record ∈ decidingRecords records ↔ record ∈ records ∧ isEditable record = true := by
  obtain ⟨found, member, its⟩ := editable
  have some : (records.filter isEditable).isEmpty = false := by
    rw [List.isEmpty_eq_false_iff_exists_mem]
    exact ⟨found, List.mem_filter.mpr ⟨member, its⟩⟩
  rw [decidingRecords, some]
  exact List.mem_filter

end Scopes

section Lists

theorem hasDuplicates_texts {names : List String} (distinct : names.Nodup) : hasDuplicates (names.map .str) = false := by
  induction names with
  | nil => rfl
  | cons name rest ih =>
    rw [List.nodup_cons] at distinct
    have fresh : ((rest.map Json.str).any (Json.str name).pyEq) = false := by
      rw [List.any_eq_false]
      intro other member equal
      obtain ⟨text, present, rfl⟩ := List.mem_map.mp member
      cases Json.pyEq_str.mp equal
      exact distinct.1 present
    simp [hasDuplicates, fresh, ih distinct.2]

theorem pathList_texts {field : String} {required : Bool} {names : List String} (distinct : names.Nodup)
    (safe : ∀ name ∈ names, checkPath name = .ok ()) (some : required = true → names ≠ []) :
    pathList field required (.arr (names.map .str)) = .ok names := by
  have each : (names.map Json.str).mapM checkedPath = .ok names :=
    mapM_map_of_each fun name member => by simp [checkedPath, safe name member, pure, Except.pure]
  have hashable : (names.map Json.str).all Json.isHashable = true := by simp [Json.isHashable]
  have nonempty : ¬(required = true ∧ names.map Json.str = []) := by
    rintro ⟨demanded, none⟩
    exact some demanded (List.map_eq_nil_iff.mp none)
  unfold pathList
  dsimp only
  rw [raiseIf_neg nonempty, raiseIf_neg (by simp [hashable]), raiseIf_neg (by simp [hasDuplicates_texts distinct])]
  exact each

end Lists

section Evidence

variable {repositoryRevision : String}

theorem WellFormed.pathOf_eq {record : Record} (wellFormed : WellFormed repositoryRevision record) :
    Dict.field record "path" = .str (pathOf record) ∧ checkPath (pathOf record) = .ok () := by
  obtain ⟨path, named, safe⟩ := wellFormed.path
  have same : pathOf record = path := by rw [pathOf, named, Json.text_str]
  rw [same]
  exact ⟨named, safe⟩

theorem WellFormed.selectionOf_eq {record : Record} (wellFormed : WellFormed repositoryRevision record) :
    Dict.field record "selectionId" = .str (selectionOf record) ∧ selectionOf record ≠ "" := by
  obtain ⟨selectionId, named, some⟩ := wellFormed.selectionId
  have same : selectionOf record = selectionId := by rw [selectionOf, named, Json.text_str]
  rw [same]
  exact ⟨named, some⟩

theorem evidenceRecord_ok {record : Record} (wellFormed : WellFormed repositoryRevision record) :
    evidenceRecord (.obj record) = .ok record := by
  obtain ⟨named, safe⟩ := wellFormed.pathOf_eq
  simp [evidenceRecord, named, checkedPath, safe, pure, Except.pure]

theorem trustRecord_ok {record : Record} {trusted : Dict String Record} (wellFormed : WellFormed repositoryRevision record)
    (fresh : selectionOf record ∉ trusted.keys) :
    trustRecord trusted (.obj record) = .ok (trusted.set (selectionOf record) record) := by
  obtain ⟨named, some⟩ := wellFormed.selectionOf_eq
  simp only [trustRecord, named]
  rw [raiseIf_neg (by simp [some, fresh])]
  rfl

theorem trusted_ok {records : List Record} (wellFormed : ∀ record ∈ records, WellFormed repositoryRevision record)
    (distinct : (records.map selectionOf).Nodup) (start : Dict String Record)
    (fresh : ∀ record ∈ records, selectionOf record ∉ start.keys) :
    ∃ trusted, (records.map Json.obj).foldlM trustRecord start = .ok trusted ∧
      (∀ name ∈ start.keys, trusted.get? name = start.get? name) ∧
      ∀ record ∈ records, trusted.get? (selectionOf record) = some record := by
  induction records generalizing start with
  | nil => exact ⟨start, rfl, fun _ _ => rfl, by simp⟩
  | cons record rest ih =>
    rw [List.map_cons, List.nodup_cons] at distinct
    have step := trustRecord_ok (wellFormed record List.mem_cons_self) (fresh record List.mem_cons_self)
    have later : ∀ other ∈ rest, selectionOf other ∉ (start.set (selectionOf record) record).keys := by
      intro other member inside
      have keys := Dict.keys_set start (selectionOf record) record
      rw [keys, if_neg (fresh record List.mem_cons_self), List.mem_append, List.mem_singleton] at inside
      rcases inside with before | same
      · exact fresh other (List.mem_cons_of_mem _ member) before
      · exact distinct.1 (same ▸ List.mem_map_of_mem member)
    obtain ⟨trusted, folded, kept, each⟩ := ih (fun other member => wellFormed other (List.mem_cons_of_mem _ member))
      distinct.2 (start.set (selectionOf record) record) later
    have inside : selectionOf record ∈ (start.set (selectionOf record) record).keys := by
      rw [Dict.keys_set, if_neg (fresh record List.mem_cons_self)]
      simp
    refine ⟨trusted, ?_, fun name present => ?_, List.forall_mem_cons.mpr ⟨?_, each⟩⟩
    · rw [List.map_cons, List.foldlM_cons, step, ok_bind, folded]
    · have other : selectionOf record ≠ name := fun same => fresh record List.mem_cons_self (same ▸ present)
      rw [kept name, Dict.get?_set_ne _ _ other]
      rw [Dict.keys_set, if_neg (fresh record List.mem_cons_self)]
      exact List.mem_append_left _ present
    · rw [kept _ inside, Dict.get?_set_self]

theorem checkTrusted_ok {record : Record} {trusted : Dict String Record} (canonical : Record → String) (path : String)
    (wellFormed : WellFormed repositoryRevision record) (known : trusted.get? (selectionOf record) = some record) :
    checkTrusted canonical trusted repositoryRevision path record = .ok () := by
  obtain ⟨digest, written, hex⟩ := wellFormed.digest
  have digestText : ((record.get? "preimageSha256").getD (.str "")).text = digest := by
    rw [Dict.get?_of_field written (by simp), Option.getD_some, Json.text_str]
  have identity : ((record.get? "selectionId").getD (.str "")).text = selectionOf record := by
    obtain ⟨named, _⟩ := wellFormed.selectionOf_eq
    rw [Dict.get?_of_field named (by simp), Option.getD_some, Json.text_str]
  unfold checkTrusted
  rw [raiseIf_neg (by simp [wellFormed.revision]), digestText, raiseIf_neg (by simp [hex]), identity, known,
    raiseIf_neg (by simp)]
  rfl

section Acceptance

variable {authorized : List String} {groups : PathGroups} {cited : List Record}

theorem Coherent.in_authorized (coherent : Coherent repositoryRevision authorized groups cited) {path : String} :
    path ∈ groups.required ∨ path ∈ groups.noChange ∨ path ∈ groups.unsupported ↔ path ∈ authorized := by
  rw [← coherent.partitioned.mem_iff, List.mem_append, List.mem_append, or_assoc]

theorem checkGroups_ok (coherent : Coherent repositoryRevision authorized groups cited) :
    checkGroups groups authorized = .ok () := by
  have nodup := coherent.partitioned.nodup_iff.mpr coherent.distinct
  rw [List.append_assoc, List.nodup_append, List.nodup_append] at nodup
  obtain ⟨_, ⟨_, _, later⟩, first⟩ := nodup
  have apart {left right : List String} (different : ∀ path ∈ left, ∀ other ∈ right, path ≠ other) :
      shareAny left right = false := by
    rw [shareAny, List.any_eq_false]
    intro path member inside
    exact different path member path (by simpa using inside) rfl
  have one := apart fun path member other inside => first path member other (List.mem_append_left _ inside)
  have two := apart fun path member other inside => first path member other (List.mem_append_right _ inside)
  have three := apart later
  unfold checkGroups
  rw [one, two, three, raiseIf_neg (by simp),
    raiseIf_neg (not_not.mpr ⟨coherent.partitioned.subset, coherent.partitioned.symm.subset⟩)]
  rfl

theorem checkEvidence_ok (coherent : Coherent repositoryRevision authorized groups cited) (canonical : Record → String)
    {trusted : Dict String Record} (known : ∀ record ∈ cited, trusted.get? (selectionOf record) = some record)
    {path : String} (present : path ∈ authorized) :
    checkEvidence canonical trusted repositoryRevision groups path (cited.filter fun record => pathOf record = path) =
      .ok () := by
  have inCited {record : Record} (member : record ∈ cited.filter fun record => pathOf record = path) :
      record ∈ cited ∧ pathOf record = path := by simpa using member
  obtain ⟨found, its⟩ := coherent.editable path present
  have deciding {record : Record} :
      record ∈ decidingRecords (cited.filter fun record => pathOf record = path) ↔ EditableAt cited path record := by
    rw [mem_decidingRecords ⟨found, by simp [its.1, its.2.2], its.2.1⟩]
    simp only [List.mem_filter, decide_eq_true_eq, EditableAt]
    exact ⟨fun ⟨⟨member, here⟩, editable⟩ => ⟨member, editable, here⟩, fun ⟨member, editable, here⟩ => ⟨⟨member, here⟩, editable⟩⟩
  obtain ⟨dispositions, decided⟩ : ∃ dispositions,
      (decidingRecords (cited.filter fun record => pathOf record = path)).mapM scopeDisposition = .ok dispositions :=
    mapM_total fun record member => scopeDisposition_total (coherent.wellFormed record (deciding.mp member).1).scope
  have mem (disposition : ScopeDisposition) : disposition ∈ dispositions ↔
      ∃ record, EditableAt cited path record ∧ scopeDisposition record = .ok disposition := by
    rw [mem_mapM_iff decided]
    exact exists_congr fun record => and_congr_left fun _ => deciding
  have some : dispositions ≠ [] := by
    obtain ⟨disposition, here⟩ := scopeDisposition_total (coherent.wellFormed found its.1).scope
    exact List.ne_nil_of_mem ((mem disposition).mpr ⟨found, its, here⟩)
  obtain ⟨units, checked⟩ : ∃ units, (cited.filter fun record => pathOf record = path).mapM
      (checkTrusted canonical trusted repositoryRevision path) = .ok units :=
    mapM_total fun record member => ⟨(), checkTrusted_ok canonical path (coherent.wellFormed record (inCited member).1)
      (known record (inCited member).1)⟩
  have distinct : ((cited.filter fun record => pathOf record = path).map selectionOf).Nodup :=
    coherent.identities.sublist (List.filter_sublist.map _)
  have settled : checkDispositions groups path dispositions = .ok () := by
    have required : ¬(path ∈ groups.required ∧ .change ∉ dispositions) := by
      rintro ⟨member, missing⟩
      exact missing ((mem _).mpr (coherent.required path member))
    have noChange : ¬(path ∈ groups.noChange ∧ (dispositions = [] ∨ (dispositions.any (· ≠ .noChange)) = true)) := by
      rintro ⟨member, none | other⟩
      · exact some none
      · obtain ⟨disposition, listed, differs⟩ := List.any_eq_true.mp other
        obtain ⟨record, editable, here⟩ := (mem disposition).mp listed
        have same := coherent.noChange path member record editable
        rw [here] at same
        cases same
        simp at differs
    have unsupported : ¬(path ∈ groups.unsupported ∧ .unsupported ∉ dispositions) := by
      rintro ⟨member, missing⟩
      exact missing ((mem _).mpr (coherent.unsupported path member))
    unfold checkDispositions
    rw [raiseIf_neg required, raiseIf_neg noChange, raiseIf_neg unsupported]
    rfl
  unfold checkEvidence
  rw [raiseIf_neg (not_not.mpr distinct), checked, decided]
  exact settled

theorem validatePlanPathContract_ok (coherent : Coherent repositoryRevision authorized groups cited)
    (canonical : Record → String) {plan : Record} (paths : Dict.field plan "authorizedPaths" = .arr (authorized.map .str))
    (required : Dict.field plan "requiredChangePaths" = .arr (groups.required.map .str))
    (noChange : Dict.field plan "verifiedNoChangePaths" = .arr (groups.noChange.map .str))
    (unsupported : Dict.field plan "unsupportedPaths" = .arr (groups.unsupported.map .str))
    (evidence : Dict.field plan "pathEvidence" = .arr (cited.map .obj)) :
    validatePlanPathContract canonical repositoryRevision plan (cited.map .obj) = .ok () := by
  have safe : ∀ path ∈ authorized, checkPath path = .ok () := by
    intro path member
    obtain ⟨record, listed, rfl⟩ := (coherent.covers path).mp member
    exact (coherent.wellFormed record listed).pathOf_eq.2
  have nodup := coherent.partitioned.nodup_iff.mpr coherent.distinct
  have group {field : String} {names : List String} (distinct : names.Nodup) (inside : ∀ name ∈ names, name ∈ authorized) :
      pathList field false (.arr (names.map .str)) = .ok names :=
    pathList_texts distinct (fun name member => safe name (inside name member)) (fun never => by cases never)
  rw [List.append_assoc, List.nodup_append, List.nodup_append] at nodup
  obtain ⟨first, ⟨second, third, _⟩, _⟩ := nodup
  have grouped : pathGroups plan = .ok groups := by
    unfold pathGroups
    rw [required, noChange, unsupported, group first fun name member => coherent.in_authorized.mp (.inl member),
      group second fun name member => coherent.in_authorized.mp (.inr (.inl member)),
      group third fun name member => coherent.in_authorized.mp (.inr (.inr member))]
    rfl
  have records : (cited.map Json.obj).mapM evidenceRecord = .ok cited :=
    mapM_map_of_each fun record member => evidenceRecord_ok (coherent.wellFormed record member)
  have keys (path : String) : path ∈ (Dict.grouped pathOf cited).keys ↔ path ∈ authorized := by
    rw [Dict.mem_keys_grouped, coherent.covers]
  obtain ⟨trusted, folded, _, known⟩ := trusted_ok coherent.wellFormed coherent.identities [] (fun _ _ => List.not_mem_nil)
  obtain ⟨units, checked⟩ : ∃ units, (Dict.grouped pathOf cited).mapM
      (fun entry => checkEvidence canonical trusted repositoryRevision groups entry.1 entry.2) = .ok units := by
    apply mapM_total
    rintro ⟨path, records⟩ member
    have present := (keys path).mp (List.mem_map_of_mem member)
    rw [Dict.group_of_mem member]
    exact ⟨(), checkEvidence_ok coherent canonical known present⟩
  unfold validatePlanPathContract
  rw [paths, pathList_texts coherent.distinct safe fun _ => coherent.some, ok_bind, grouped, ok_bind,
    checkGroups_ok coherent, ok_bind, evidenceItems, evidence]
  dsimp only
  rw [ok_bind, records, ok_bind,
    raiseIf_neg (not_not.mpr ⟨fun path => (keys path).mp, fun path => (keys path).mpr⟩), ok_bind, folded, ok_bind, checked]
  rfl

end Acceptance

end Evidence

end Aep.PlanningEvidence
