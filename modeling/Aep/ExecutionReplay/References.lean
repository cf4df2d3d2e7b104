import Aep.Errors
import Aep.Library.Pattern
import Aep.Library.Worklist
import Aep.WorkflowScheduler.TaskDag
import Mathlib.Data.List.Sort
import Mathlib.Data.Prod.Lex
import Mathlib.Data.String.Basic

namespace Aep.ExecutionReplay

open Result
open WorkflowScheduler (ResourceRef)

structure Resource where
  ref : ResourceRef
  path : String
  data : Record
  references : List ResourceRef
  deriving DecidableEq

structure ResourceCollection where
  workspace : Resource
  resources : List Resource
  deriving DecidableEq

def indexed (resources : List Resource) : Dict ResourceRef Resource :=
  resources.foldl (fun index resource => index.set resource.ref resource) []

def ResourceCollection.get (collection : ResourceCollection) (ref : ResourceRef) : Option Resource :=
  (indexed collection.resources).get? ref

def replayError (message : String) : PyError := { errorClass := .replayError, message }

section Provenance

def RESOURCE_KINDS : List String :=
  ["Workspace", "Workflow", "Task", "Agent", "Prompt", "Model", "Tool", "KnowledgeBase", "Policy", "Evaluation", "Event"]

def isNameChar (char : Char) : Bool := char.isLower || char.isDigit

/-- `[a-z0-9](?:[a-z0-9-]*[a-z0-9])?`. -/
def isResourceName (name : Text) : Bool :=
  name.head?.any isNameChar && name.getLast?.any isNameChar && name.all fun char => isNameChar char || char = '-'

def digit : Pattern := .one Char.isDigit

def versionNumber : Pattern := .alt (.char '0') (.seq (.one fun char => char.isDigit && char ≠ '0') (.many digit))

def versionSuffix (mark : Char) : Pattern :=
  .optional (.seq (.char mark) (.repeated (.one fun char => char.isAlphanum || char = '.' || char = '-')))

def SEMVER : Pattern :=
  .seq (.optional (.char 'v')) (.seq versionNumber (.sequence
    [.char '.', versionNumber, .char '.', versionNumber, versionSuffix '-', versionSuffix '+', .atEnd]))

def versionedRef (ref : ResourceRef) : Bool :=
  RESOURCE_KINDS.contains ref.kind && isResourceName ref.name.toList && SEMVER.accepted ref.version.toList

def sameName (left right : ResourceRef) : Prop := left.kind = right.kind ∧ left.name = right.name

instance (left right : ResourceRef) : Decidable (sameName left right) := by
  unfold sameName
  infer_instance

def refRank (ref : ResourceRef) : String ×ₗ String ×ₗ String := toLex (ref.kind, toLex (ref.name, ref.version))

/-- One round of `_apply_overrides`: the references, and the overrides that have been applied. -/
def applyOverride (found : List ResourceRef × List ResourceRef) (override : ResourceRef) :
    Except PyError (List ResourceRef × List ResourceRef) := do
  let (result, seen) := found
  raiseIf (∃ earlier ∈ seen, sameName earlier override)
    (replayError "only one override per Resource kind and name is allowed")
  raiseIf (¬∃ ref ∈ result, sameName ref override)
    (replayError ("override does not match a historical " ++ override.kind ++ " resource"))
  return ((result.filter fun ref => ¬sameName ref override) ++ [override], seen ++ [override])

def applyOverrides (refs overrides : List ResourceRef) : Except PyError (List ResourceRef) := do
  let (result, _) ← overrides.foldlM applyOverride (refs, [])
  return result.insertionSort fun first second => refRank first ≤ refRank second

structure ReplayProvenance where
  inheritedResourceRefs : List ResourceRef
  resourceRefs : List ResourceRef
  overrides : List ResourceRef

/-- The references that `replay` records for those of the source execution and its parsed overrides. -/
def replayProvenance (inherited overrides : List ResourceRef) : Except PyError ReplayProvenance := do
  raiseIf (∃ ref ∈ inherited, versionedRef ref = false)
    (replayError "historical execution contains a malformed or floating Resource reference")
  raiseIf (inherited = []) (replayError "exact replay is missing historical Resource provenance")
  raiseIf (∃ override ∈ overrides, versionedRef override = false)
    (replayError "override must use a supported Resource kind, valid name, and semantic version")
  return { inheritedResourceRefs := inherited, resourceRefs := ← applyOverrides inherited overrides, overrides }

end Provenance

section Substitution

abbrev Replacements := Dict ResourceRef ResourceRef

variable (replacements : Replacements)

def substituted (fields : Record) : Record :=
  match (ResourceRef.fromMapping fields).bind replacements.get? with
  | none => fields
  | some replacement =>
    ((fields.set "kind" (.str replacement.kind)).set "name" (.str replacement.name)).set "version" (.str replacement.version)

mutual

def replaceVersionedRefs : Json → Json
  | .obj fields => .obj (substituted replacements (replaceInFields fields))
  | .arr items => .arr (replaceInItems items)
  | value => value

def replaceInItems : List Json → List Json
  | [] => []
  | item :: rest => replaceVersionedRefs item :: replaceInItems rest

def replaceInFields : List (String × Json) → List (String × Json)
  | [] => []
  | (key, value) :: rest => (key, replaceVersionedRefs value) :: replaceInFields rest

end

def replacedData (data : Record) : Record := substituted replacements (replaceInFields replacements data)

def rewritten (resource : Resource) : Resource where
  ref := resource.ref
  path := resource.path
  data := replacedData replacements resource.data
  references := resource.references.map fun ref => (replacements.get? ref).getD ref

end Substitution

section Replay

variable (historical available : ResourceCollection)

def missingDependency : PyError := replayError "an overridden Resource dependency cannot be reconstructed"

def addOverride (resources : Dict ResourceRef Resource) (override : ResourceRef) :
    Except PyError (Dict ResourceRef Resource) :=
  match (resources.get? override).or (available.get override) with
  | none => .error (replayError "an overridden Resource version cannot be reconstructed")
  | some candidate =>
    (Worklist.drain available.get Resource.references missingDependency (available.resources.length + 1)
      ⟨resources.set override candidate, [candidate]⟩).getD (.error missingDependency)

def replacementsOf (provenance : ReplayProvenance) : Replacements :=
  provenance.inheritedResourceRefs.foldl (fun replacements original =>
    match provenance.overrides.reverse.find? fun override => sameName override original with
    | some replacement =>
      if replacement.version ≠ original.version then replacements.set original replacement else replacements
    | none => replacements) []

def resourceRank (resource : Resource) : String ×ₗ String ×ₗ String := refRank resource.ref

def sortedResources (resources : List Resource) : List Resource :=
  resources.insertionSort fun first second => resourceRank first ≤ resourceRank second

def replayResourceCollection (provenance : ReplayProvenance) : Except PyError ResourceCollection := do
  let resources ← provenance.overrides.foldlM (addOverride available) (indexed historical.resources)
  let replaced := resources.map fun entry => rewritten (replacementsOf provenance) entry.2
  let workspace := (resources.get? historical.workspace.ref).getD historical.workspace
  let collection : ResourceCollection := ⟨workspace, sortedResources replaced⟩
  raiseIf (∃ ref ∈ provenance.resourceRefs, collection.get ref = none)
    (replayError "a required historical Resource version is unavailable")
  return collection

end Replay

end Aep.ExecutionReplay

namespace Aep.ExecutionReplay

open Result
open WorkflowScheduler (ResourceRef)

section Plain

def Plain (text : String) : Prop := text.toList.head? ≠ some '[' ∧ text.toList.head? ≠ some '\x7b'

theorem plain_hashable {value : Json} (plain : Plain value.text) : value.isHashable = true := by
  cases value with
  | arr items =>
    refine absurd ?_ plain.1
    simp [Json.text, Json.repr, String.toList_append]
  | obj fields =>
    refine absurd ?_ plain.2
    simp [Json.text, Json.repr, String.toList_append]
  | _ => rfl

theorem plain_of_head {text : String} {char : Char} (head : text.toList.head? = some char) (bracket : char ≠ '[')
    (brace : char ≠ '\x7b') : Plain text := by
  unfold Plain
  rw [head]
  exact ⟨fun same => bracket (Option.some.inj same), fun same => brace (Option.some.inj same)⟩

theorem versionNumber_ways {text : Text} {found : Pattern.Match} (member : found ∈ versionNumber.ways text) :
    ∃ char, text.head? = some char ∧ char.isDigit = true := by
  cases text with
  | nil => simp [versionNumber, Pattern.ways, Pattern.char] at member
  | cons char rest =>
    refine ⟨char, rfl, ?_⟩
    by_contra other
    have zero : char ≠ '0' := by
      rintro rfl
      exact other (by decide)
    simp [versionNumber, Pattern.ways, Pattern.char, zero, other] at member

theorem semver_head {text : Text} (accepted : SEMVER.accepted text = true) :
    ∃ char, text.head? = some char ∧ (char = 'v' ∨ char.isDigit = true) := by
  have some : ∃ found, found ∈ SEMVER.ways text := by
    unfold Pattern.accepted Pattern.matchStart at accepted
    obtain ⟨found, first⟩ := Option.isSome_iff_exists.mp accepted
    exact ⟨found, List.mem_of_mem_head? first⟩
  obtain ⟨found, member⟩ := some
  unfold SEMVER at member
  rw [Pattern.ways, List.mem_flatMap] at member
  obtain ⟨mark, marked, member⟩ := member
  rw [Pattern.followedBy, List.mem_map] at member
  obtain ⟨number, member, -⟩ := member
  rw [Pattern.ways, List.mem_flatMap] at member
  obtain ⟨digits, member, -⟩ := member
  obtain ⟨char, head, isDigit⟩ := versionNumber_ways member
  unfold Pattern.optional at marked
  rw [Pattern.ways, List.mem_append] at marked
  rcases marked with letter | bare
  · cases text with
    | nil => simp [Pattern.ways, Pattern.char] at letter
    | cons first rest =>
      refine ⟨first, rfl, .inl ?_⟩
      by_contra other
      simp [Pattern.ways, Pattern.char, other] at letter
  · rw [Pattern.ways, List.mem_singleton] at bare
    subst bare
    exact ⟨char, head, .inr isDigit⟩

theorem versionedRef_plain {ref : ResourceRef} (valid : versionedRef ref = true) :
    Plain ref.kind ∧ Plain ref.name ∧ Plain ref.version := by
  simp only [versionedRef, Bool.and_eq_true, List.contains_iff_mem] at valid
  obtain ⟨⟨kind, name⟩, version⟩ := valid
  refine ⟨?_, ?_, ?_⟩
  · have all : ∀ kind ∈ RESOURCE_KINDS, Plain kind := by
      unfold Plain
      decide
    exact all _ kind
  · simp only [isResourceName, Bool.and_eq_true] at name
    obtain ⟨char, head, named⟩ : ∃ char, ref.name.toList.head? = some char ∧ isNameChar char = true := by
      cases first : ref.name.toList.head? with
      | none => simp [first] at name
      | some char => exact ⟨char, rfl, by simpa [first] using name.1.1⟩
    refine plain_of_head head ?_ ?_
    · rintro rfl
      exact absurd named (by decide)
    · rintro rfl
      exact absurd named (by decide)
  · obtain ⟨char, head, letter | digit⟩ := semver_head version
    · subst letter
      exact plain_of_head head (by decide) (by decide)
    · refine plain_of_head head ?_ ?_
      · rintro rfl
        exact absurd digit (by decide)
      · rintro rfl
        exact absurd digit (by decide)

end Plain

section References

/-- A mapping whose kind, name and version are not lists or mappings themselves is a versioned reference. -/
def referenceOf (fields : Record) : Option ResourceRef :=
  if (Dict.field fields "kind").isHashable && (Dict.field fields "name").isHashable && (Dict.field fields "version").isHashable
  then ResourceRef.fromMapping fields else none

mutual

def referencesIn : Json → List ResourceRef
  | .obj fields => (referenceOf fields).toList ++ referencesInFields fields
  | .arr items => referencesInItems items
  | _ => []

def referencesInItems : List Json → List ResourceRef
  | [] => []
  | item :: rest => referencesIn item ++ referencesInItems rest

def referencesInFields : List (String × Json) → List ResourceRef
  | [] => []
  | (_, value) :: rest => referencesIn value ++ referencesInFields rest

end

def Readable (replacements : Replacements) : Prop :=
  ∀ ref ∈ replacements.keys, Plain ref.kind ∧ Plain ref.name ∧ Plain ref.version

def replaced (replacements : Replacements) (ref : ResourceRef) : ResourceRef := (replacements.get? ref).getD ref

variable {replacements : Replacements}

theorem referencesIn_hashable {value : Json} (scalar : value.isHashable = true) : referencesIn value = [] := by
  cases value with
  | arr _ => cases scalar
  | obj _ => cases scalar
  | _ => rfl

theorem replace_hashable {value : Json} (scalar : value.isHashable = true) :
    replaceVersionedRefs replacements value = value := by
  cases value with
  | arr _ => cases scalar
  | obj _ => cases scalar
  | _ => rfl

theorem isHashable_replace (value : Json) : (replaceVersionedRefs replacements value).isHashable = value.isHashable := by
  cases value <;> rfl

theorem get?_replaceInFields (fields : Record) (key : String) :
    Dict.get? (replaceInFields replacements fields) key = (Dict.get? fields key).map (replaceVersionedRefs replacements) := by
  induction fields with
  | nil => rfl
  | cons entry rest ih =>
    obtain ⟨name, value⟩ := entry
    rw [replaceInFields, Dict.get?_cons, Dict.get?_cons]
    split
    · rfl
    · exact ih

theorem field_replaceInFields (fields : Record) (key : String) :
    Dict.field (replaceInFields replacements fields) key = replaceVersionedRefs replacements (Dict.field fields key) := by
  unfold Dict.field
  rw [get?_replaceInFields]
  cases Dict.get? fields key <;> rfl

theorem referenceOf_replaceInFields (fields : Record) :
    referenceOf (replaceInFields replacements fields) = referenceOf fields := by
  unfold referenceOf
  simp only [field_replaceInFields, isHashable_replace]
  by_cases scalar : ((Dict.field fields "kind").isHashable && (Dict.field fields "name").isHashable &&
      (Dict.field fields "version").isHashable) = true
  · rw [if_pos scalar, if_pos scalar]
    simp only [Bool.and_eq_true] at scalar
    have same (key : String) (its : (Dict.field fields key).isHashable = true) :
        Dict.get? (replaceInFields replacements fields) key = Dict.get? fields key := by
      rw [get?_replaceInFields]
      cases found : Dict.get? fields key with
      | none => rfl
      | some value =>
        rw [Dict.field_of_get? found] at its
        rw [Option.map_some, replace_hashable its]
    unfold ResourceRef.fromMapping
    rw [same _ scalar.1.1, same _ scalar.1.2, same _ scalar.2]
  · rw [if_neg scalar, if_neg scalar]

theorem found_referenceOf (readable : Readable replacements) {fields : Record} {replacement : ResourceRef}
    (found : (ResourceRef.fromMapping fields).bind replacements.get? = some replacement) :
    ∃ ref, referenceOf fields = some ref ∧ replacements.get? ref = some replacement := by
  obtain ⟨ref, read, its⟩ := Option.bind_eq_some_iff.mp found
  refine ⟨ref, ?_, its⟩
  obtain ⟨plainKind, plainName, plainVersion⟩ := readable ref (List.mem_map_of_mem (Dict.get?_eq_some_mem its))
  have fields' := read
  simp only [ResourceRef.fromMapping, Option.bind_eq_bind, Option.pure_def, Option.bind_eq_some_iff, Option.some.injEq] at fields'
  obtain ⟨kind, hasKind, name, hasName, version, hasVersion, rfl⟩ := fields'
  have scalar : ((Dict.field fields "kind").isHashable && (Dict.field fields "name").isHashable &&
      (Dict.field fields "version").isHashable) = true := by
    rw [Dict.field_of_get? hasKind, Dict.field_of_get? hasName, Dict.field_of_get? hasVersion, plain_hashable plainKind,
      plain_hashable plainName, plain_hashable plainVersion]
    rfl
  rw [referenceOf, if_pos scalar, read]

theorem referencesInFields_set {fields : Record} {key : String} (scalar : (Dict.field fields key).isHashable = true)
    (text : String) : referencesInFields (fields.set key (.str text)) = referencesInFields fields := by
  induction fields with
  | nil => rfl
  | cons entry rest ih =>
    obtain ⟨name, value⟩ := entry
    by_cases same : name = key
    · subst same
      have its : value.isHashable = true := by simpa [Dict.field, Dict.get?] using scalar
      simp [Dict.set, referencesInFields, referencesIn_hashable its, referencesIn]
    · have later : (Dict.field rest key).isHashable = true := by simpa [Dict.field, Dict.get?, same] using scalar
      simp [Dict.set, same, referencesInFields, ih later]

theorem substituted_of_none {fields : Record} (readable : Readable replacements)
    (none : ∀ ref, referenceOf fields = some ref → replacements.get? ref = Option.none) :
    substituted replacements fields = fields := by
  unfold substituted
  split
  · rfl
  · rename_i replacement found
    obtain ⟨ref, read, its⟩ := found_referenceOf readable found
    rw [none ref read] at its
    cases its

theorem substituted_of_some {fields : Record} {ref replacement : ResourceRef} (read : referenceOf fields = some ref)
    (found : replacements.get? ref = some replacement) :
    referenceOf (substituted replacements fields) = some replacement ∧
      referencesInFields (substituted replacements fields) = referencesInFields fields := by
  unfold referenceOf at read
  split at read
  · rename_i scalar
    simp only [Bool.and_eq_true] at scalar
    have made : substituted replacements fields = ((fields.set "kind" (.str replacement.kind)).set "name"
        (.str replacement.name)).set "version" (.str replacement.version) := by
      unfold substituted
      rw [read, Option.bind_some, found]
    rw [made]
    constructor
    · simp [referenceOf, ResourceRef.fromMapping, Dict.field, Dict.get?_set, Json.isHashable]
    · rw [referencesInFields_set, referencesInFields_set, referencesInFields_set scalar.1.1]
      · rw [Dict.field, Dict.get?_set_ne _ _ (by decide)]
        exact scalar.1.2
      · rw [Dict.field, Dict.get?_set_ne _ _ (by decide), Dict.get?_set_ne _ _ (by decide)]
        exact scalar.2
  · cases read

theorem references_substituted (readable : Readable replacements) (fields : Record) :
    (referenceOf (substituted replacements fields)).toList ++ referencesInFields (substituted replacements fields) =
      (referenceOf fields).toList.map (replaced replacements) ++ referencesInFields fields := by
  cases read : referenceOf fields with
  | none =>
    rw [substituted_of_none readable (by simp [read]), read]
    rfl
  | some ref =>
    cases found : replacements.get? ref with
    | none =>
      have absent : ∀ other, referenceOf fields = some other → replacements.get? other = Option.none := by
        intro other its
        cases read.symm.trans its
        exact found
      rw [substituted_of_none readable absent, read]
      simp [replaced, found]
    | some replacement =>
      obtain ⟨reads, others⟩ := substituted_of_some read found
      rw [reads, others]
      simp [replaced, found]

mutual

theorem referencesIn_replace (readable : Readable replacements) :
    (value : Json) → referencesIn (replaceVersionedRefs replacements value) = (referencesIn value).map (replaced replacements)
  | .obj fields => by
    rw [replaceVersionedRefs, referencesIn, referencesIn, references_substituted readable, referenceOf_replaceInFields,
      referencesInFields_replace readable fields, List.map_append]
  | .arr items => by
    rw [replaceVersionedRefs, referencesIn, referencesIn, referencesInItems_replace readable items]
  | .null => rfl
  | .bool _ => rfl
  | .int _ => rfl
  | .float _ => rfl
  | .str _ => rfl

theorem referencesInItems_replace (readable : Readable replacements) : (items : List Json) →
    referencesInItems (replaceInItems replacements items) = (referencesInItems items).map (replaced replacements)
  | [] => rfl
  | item :: rest => by
    rw [replaceInItems, referencesInItems, referencesInItems, referencesIn_replace readable item,
      referencesInItems_replace readable rest, List.map_append]

theorem referencesInFields_replace (readable : Readable replacements) : (fields : List (String × Json)) →
    referencesInFields (replaceInFields replacements fields) = (referencesInFields fields).map (replaced replacements)
  | [] => rfl
  | (_, value) :: rest => by
    rw [replaceInFields, referencesInFields, referencesInFields, referencesIn_replace readable value,
      referencesInFields_replace readable rest, List.map_append]

end

mutual

theorem replace_unchanged (readable : Readable replacements) : (value : Json) →
    (∀ ref ∈ referencesIn value, replacements.get? ref = none) → replaceVersionedRefs replacements value = value
  | .obj fields => fun kept => by
    rw [referencesIn, List.forall_mem_append] at kept
    have inner := replaceInFields_unchanged readable fields kept.2
    rw [replaceVersionedRefs, inner, substituted_of_none readable]
    intro ref read
    exact kept.1 ref (by simp [read])
  | .arr items => fun kept => by
    rw [replaceVersionedRefs, replaceInItems_unchanged readable items kept]
  | .null => fun _ => rfl
  | .bool _ => fun _ => rfl
  | .int _ => fun _ => rfl
  | .float _ => fun _ => rfl
  | .str _ => fun _ => rfl

theorem replaceInItems_unchanged (readable : Readable replacements) : (items : List Json) →
    (∀ ref ∈ referencesInItems items, replacements.get? ref = none) → replaceInItems replacements items = items
  | [] => fun _ => rfl
  | item :: rest => fun kept => by
    rw [referencesInItems, List.forall_mem_append] at kept
    rw [replaceInItems, replace_unchanged readable item kept.1, replaceInItems_unchanged readable rest kept.2]

theorem replaceInFields_unchanged (readable : Readable replacements) : (fields : List (String × Json)) →
    (∀ ref ∈ referencesInFields fields, replacements.get? ref = none) → replaceInFields replacements fields = fields
  | [] => fun _ => rfl
  | (_, value) :: rest => fun kept => by
    rw [referencesInFields, List.forall_mem_append] at kept
    rw [replaceInFields, replace_unchanged readable value kept.1, replaceInFields_unchanged readable rest kept.2]

end

end References

end Aep.ExecutionReplay
