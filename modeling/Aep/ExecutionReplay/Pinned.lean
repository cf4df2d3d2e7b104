import Aep.ExecutionReplay.Assembly
import Mathlib.Data.List.Pairwise
import Mathlib.Data.List.Perm.Basic

namespace Aep.ExecutionReplay

open Result
open WorkflowScheduler (ResourceRef)

section Overrides

variable {overrides : List ResourceRef}

theorem applyOverride_ok {found after : List ResourceRef × List ResourceRef} {override : ResourceRef}
    (applied : applyOverride found override = .ok after) :
    after.2 = found.2 ++ [override] ∧ ∀ earlier ∈ found.2, ¬sameName earlier override := by
  obtain ⟨result, seen⟩ := found
  simp only [applyOverride, bind_eq_ok, raiseIf_eq_ok, pure_eq_ok] at applied
  obtain ⟨_, fresh, _, _, rfl⟩ := applied
  exact ⟨rfl, fun earlier member same => fresh ⟨earlier, member, same⟩⟩

theorem applyOverride_run {found after : List ResourceRef × List ResourceRef}
    (applied : overrides.foldlM applyOverride found = .ok after) :
    overrides.Pairwise (fun first second => ¬sameName first second) ∧
      ∀ override ∈ overrides, ∀ earlier ∈ found.2, ¬sameName earlier override := by
  induction overrides generalizing found with
  | nil => exact ⟨.nil, by simp⟩
  | cons override rest ih =>
    simp only [List.foldlM_cons, bind_eq_ok] at applied
    obtain ⟨middle, first, later⟩ := applied
    obtain ⟨seen, fresh⟩ := applyOverride_ok first
    obtain ⟨apart, others⟩ := ih later
    rw [seen] at others
    have head (other : ResourceRef) (member : other ∈ rest) : ¬sameName override other :=
      others other member override (List.mem_append_right _ List.mem_cons_self)
    refine ⟨List.pairwise_cons.mpr ⟨head, apart⟩, List.forall_mem_cons.mpr ⟨fresh, fun other member earlier known => ?_⟩⟩
    exact others other member earlier (List.mem_append_left _ known)

theorem sameName_symm {left right : ResourceRef} (same : sameName left right) : sameName right left :=
  ⟨same.1.symm, same.2.symm⟩

theorem sameName_trans {left middle right : ResourceRef} (first : sameName left middle) (second : sameName middle right) :
    sameName left right := ⟨first.1.trans second.1, first.2.trans second.2⟩

theorem replayProvenance_ok {inherited : List ResourceRef} {provenance : ReplayProvenance}
    (given : replayProvenance inherited overrides = .ok provenance) :
    provenance.inheritedResourceRefs = inherited ∧ provenance.overrides = overrides ∧
      (∀ ref ∈ inherited, versionedRef ref = true) ∧
      ∀ first ∈ overrides, ∀ second ∈ overrides, sameName first second → first = second := by
  simp only [replayProvenance, bind_eq_ok, raiseIf_eq_ok, pure_eq_ok] at given
  obtain ⟨_, versioned, _, _, _, _, refs, applied, rfl⟩ := given
  refine ⟨rfl, rfl, fun ref member => ?_, ?_⟩
  · cases valid : versionedRef ref with
    | true => rfl
    | false => exact absurd ⟨ref, member, valid⟩ versioned
  · simp only [applyOverrides, bind_eq_ok] at applied
    obtain ⟨after, folded, _⟩ := applied
    have apart := (applyOverride_run folded).1
    intro first inside second member same
    have symmetric : Std.Symm fun left right : ResourceRef => ¬sameName left right :=
      ⟨fun _ _ other back => other (sameName_symm back)⟩
    by_contra different
    exact apart.forall inside member different same

end Overrides

section Replacements

variable (overrides : List ResourceRef)

def replacementOf (original : ResourceRef) : Option ResourceRef :=
  (overrides.reverse.find? fun override => sameName override original).filter fun override =>
    override.version ≠ original.version

variable {overrides} {inherited : List ResourceRef}

theorem replacementOf_some {original replacement : ResourceRef} (found : replacementOf overrides original = some replacement) :
    replacement ∈ overrides ∧ sameName replacement original ∧ replacement.version ≠ original.version := by
  obtain ⟨first, other⟩ := Option.filter_eq_some_iff.mp found
  have member := List.mem_reverse.mp (List.mem_of_find?_eq_some first)
  have same := List.find?_some first
  exact ⟨member, by simpa using same, by simpa using other⟩

theorem replacementOf_none {original : ResourceRef}
    (unique : ∀ first ∈ overrides, ∀ second ∈ overrides, sameName first second → first = second)
    (none : replacementOf overrides original = Option.none) {override : ResourceRef} (member : override ∈ overrides)
    (same : sameName override original) : override.version = original.version := by
  cases first : overrides.reverse.find? (fun override => sameName override original) with
  | none =>
    have all := List.find?_eq_none.mp first override (List.mem_reverse.mpr member)
    exact absurd same (by simpa using all)
  | some chosen =>
    have chosenSame : sameName chosen original := by simpa using List.find?_some first
    have inside : chosen ∈ overrides := List.mem_reverse.mp (List.mem_of_find?_eq_some first)
    have equal := unique override member chosen inside (sameName_trans same (sameName_symm chosenSame))
    subst equal
    rw [replacementOf, first, Option.filter_some] at none
    by_contra different
    rw [if_pos (by simpa using different)] at none
    cases none

theorem replacementsOf_step (replacements : Replacements) (original : ResourceRef) :
    (match overrides.reverse.find? fun override => sameName override original with
      | some replacement =>
        if replacement.version ≠ original.version then replacements.set original replacement else replacements
      | none => replacements) =
    match replacementOf overrides original with
      | some replacement => replacements.set original replacement
      | none => replacements := by
  unfold replacementOf
  cases overrides.reverse.find? (fun override => sameName override original) with
  | none => rfl
  | some replacement =>
    rw [Option.filter_some]
    by_cases same : replacement.version = original.version
    · simp [same]
    · simp [same]

theorem get?_foldl_replacement (start : Replacements) (ref : ResourceRef) :
    (inherited.foldl (fun (replacements : Replacements) original =>
      match replacementOf overrides original with
      | some replacement => replacements.set original replacement
      | none => replacements) start).get? ref =
    if ref ∈ inherited then (replacementOf overrides ref).or (start.get? ref) else start.get? ref := by
  induction inherited generalizing start with
  | nil => rfl
  | cons original rest ih =>
    have first : (match replacementOf overrides original with
        | some replacement => start.set original replacement
        | none => start).get? ref =
        if original = ref then (replacementOf overrides ref).or (start.get? ref) else start.get? ref := by
      by_cases same : original = ref
      · subst same
        cases replacementOf overrides original <;> simp
      · cases replacementOf overrides original with
        | none => simp [same]
        | some replacement => simp [same, Dict.get?_set_ne _ _ same]
    rw [List.foldl_cons, ih, first]
    by_cases same : original = ref
    · subst same
      cases replacementOf overrides original <;> simp
    · simp [same, Ne.symm same]

theorem get?_replacementsOf {provenance : ReplayProvenance} {ref : ResourceRef} :
    (replacementsOf provenance).get? ref =
      if ref ∈ provenance.inheritedResourceRefs then replacementOf provenance.overrides ref else none := by
  have steps : replacementsOf provenance =
      provenance.inheritedResourceRefs.foldl (fun (replacements : Replacements) original =>
        match replacementOf provenance.overrides original with
        | some replacement => replacements.set original replacement
        | none => replacements) [] := by
    unfold replacementsOf
    congr 1
    funext replacements original
    exact replacementsOf_step replacements original
  rw [steps, get?_foldl_replacement]
  simp

theorem readable_replacementsOf {provenance : ReplayProvenance}
    (versioned : ∀ ref ∈ provenance.inheritedResourceRefs, versionedRef ref = true) : Readable (replacementsOf provenance) := by
  intro ref key
  obtain ⟨replacement, found⟩ := Worklist.mem_keys_iff.mp key
  rw [get?_replacementsOf] at found
  split at found
  · rename_i member
    exact versionedRef_plain (versioned ref member)
  · cases found

end Replacements

section Pinned

def Resource.mentioned (resource : Resource) : List ResourceRef := resource.references ++ referencesIn (.obj resource.data)

def Untouched (overrides : List ResourceRef) (resource : Resource) : Prop :=
  ∀ ref ∈ resource.ref :: resource.mentioned, ∀ override ∈ overrides, ¬sameName override ref

/-- The collection refers to the overriding versions only, and is otherwise that of the source execution. -/
structure Replayed (historical available : ResourceCollection) (overrides : List ResourceRef)
    (collection : ResourceCollection) : Prop where
  resolves : ∀ resource ∈ collection.resources, ∀ ref ∈ resource.references, ∃ other ∈ collection.resources, other.ref = ref
  distinct : (collection.resources.map Resource.ref).Nodup
  pinned : ∀ resource ∈ collection.workspace :: collection.resources, ∀ ref ∈ resource.mentioned, ∀ override ∈ overrides,
    sameName override ref → ref.version = override.version
  unchanged : ∀ resource ∈ collection.resources, ∃ original, lookup historical available resource.ref = some original ∧
    (Untouched overrides original → resource = original)
  retained : ∀ original ∈ historical.resources, Untouched overrides original → original ∈ collection.resources
  reproduced : overrides = [] →
    collection.workspace = historical.workspace ∧ collection.resources.Perm historical.resources

/-- A reference to an overridden resource at another version is one that the source execution recorded. -/
structure Covered (historical available : ResourceCollection) (inherited overrides : List ResourceRef) : Prop where
  needed : ∀ resource, Needed historical available overrides resource → ∀ ref ∈ resource.mentioned, ∀ override ∈ overrides,
    sameName override ref → ref.version = override.version ∨ ref ∈ inherited
  workspace : ∀ ref ∈ historical.workspace.mentioned, ∀ override ∈ overrides, sameName override ref →
    ref.version = override.version

variable {historical available collection : ResourceCollection} {inherited overrides : List ResourceRef}
  {provenance : ReplayProvenance} {resources : Dict ResourceRef Resource} {replacements : Replacements}

theorem mentioned_rewritten (readable : Readable replacements) (resource : Resource) :
    (rewritten replacements resource).mentioned = resource.mentioned.map (replaced replacements) := by
  have data : referencesIn (.obj (rewritten replacements resource).data) =
      (referencesIn (.obj resource.data)).map (replaced replacements) := referencesIn_replace readable (.obj resource.data)
  rw [Resource.mentioned, data, Resource.mentioned, List.map_append]
  rfl

theorem rewritten_unchanged (readable : Readable replacements) {resource : Resource}
    (kept : ∀ ref ∈ resource.mentioned, replacements.get? ref = none) : rewritten replacements resource = resource := by
  rw [Resource.mentioned, List.forall_mem_append] at kept
  have data : replaceVersionedRefs replacements (.obj resource.data) = .obj resource.data :=
    replace_unchanged readable _ kept.2
  have references : (resource.references.map fun ref => (replacements.get? ref).getD ref) = resource.references := by
    have same : resource.references.map (fun ref => (replacements.get? ref).getD ref) = resource.references.map id :=
      List.map_congr_left fun ref member => by simp [kept.1 ref member]
    rw [same, List.map_id]
  have same : replacedData replacements resource.data = resource.data := Json.obj.inj data
  rw [rewritten, references, same]

theorem replaced_pinned (unique : ∀ first ∈ provenance.overrides, ∀ second ∈ provenance.overrides,
    sameName first second → first = second) (ref : ResourceRef) :
    (∀ override ∈ provenance.overrides, sameName override (replaced (replacementsOf provenance) ref) →
      (replaced (replacementsOf provenance) ref).version = override.version) ↔
    ∀ override ∈ provenance.overrides, sameName override ref →
      ref.version = override.version ∨ ref ∈ provenance.inheritedResourceRefs := by
  unfold replaced
  rw [get?_replacementsOf]
  by_cases recorded : ref ∈ provenance.inheritedResourceRefs
  · rw [if_pos recorded]
    refine ⟨fun _ _ _ _ => .inr recorded, fun _ => ?_⟩
    cases found : replacementOf provenance.overrides ref with
    | none =>
      intro override member same
      exact (replacementOf_none unique found member same).symm
    | some replacement =>
      obtain ⟨inside, _, _⟩ := replacementOf_some found
      intro override member same
      rw [unique override member replacement inside same]
      rfl
  · rw [if_neg recorded]
    simp [recorded]

theorem get?_replacementsOf_untouched {ref : ResourceRef}
    (apart : ∀ override ∈ provenance.overrides, ¬sameName override ref) : (replacementsOf provenance).get? ref = none := by
  rw [get?_replacementsOf]
  split
  · cases found : replacementOf provenance.overrides ref with
    | none => rfl
    | some replacement =>
      obtain ⟨member, same, _⟩ := replacementOf_some found
      exact absurd same (apart replacement member)
  · rfl

structure Composed (historical available : ResourceCollection) (provenance : ReplayProvenance)
    (collection : ResourceCollection) (resources : Dict ResourceRef Resource) : Prop where
  assembled : Assembled historical available provenance.overrides resources
  overrides : ∀ override ∈ provenance.overrides, override ∈ resources.keys
  members : collection.resources = sortedResources (resources.map fun entry => rewritten (replacementsOf provenance) entry.2)
  workspace : collection.workspace = historical.workspace

theorem replayResourceCollection_ok (loaded : Loaded historical)
    (replayed : replayResourceCollection historical available provenance = .ok collection) :
    ∃ resources, provenance.overrides.foldlM (addOverride available) (indexed historical.resources) = .ok resources ∧
      Composed historical available provenance collection resources := by
  simp only [replayResourceCollection, bind_eq_ok, raiseIf_eq_ok, pure_eq_ok] at replayed
  obtain ⟨resources, added, _, _, rfl⟩ := replayed
  obtain ⟨assembled, overrides, _⟩ := addOverrides_ok loaded (fun _ member => member) (assembled_historical loaded) added
  refine ⟨resources, added, ⟨assembled, overrides, rfl, ?_⟩⟩
  rw [assembled.kept _ loaded.workspace]
  rfl

theorem Composed.mem_iff (composed : Composed historical available provenance collection resources) {resource : Resource} :
    resource ∈ collection.resources ↔
      ∃ ref original, resources.get? ref = some original ∧ rewritten (replacementsOf provenance) original = resource := by
  rw [composed.members, sortedResources, List.mem_insertionSort, List.mem_map]
  constructor
  · rintro ⟨⟨ref, original⟩, member, rfl⟩
    exact ⟨ref, original, Dict.get?_of_mem composed.assembled.distinct member, rfl⟩
  · rintro ⟨ref, original, found, rfl⟩
    exact ⟨(ref, original), Dict.get?_eq_some_mem found, rfl⟩

theorem Composed.present (composed : Composed historical available provenance collection resources) (loaded : Loaded historical)
    (availableLoaded : Loaded available) {ref : ResourceRef} (key : ref ∈ resources.keys) :
    ∃ other ∈ collection.resources, other.ref = ref := by
  obtain ⟨original, found⟩ := Worklist.mem_keys_iff.mp key
  refine ⟨rewritten (replacementsOf provenance) original, composed.mem_iff.mpr ⟨ref, original, found, rfl⟩, ?_⟩
  exact (lookup_ref loaded availableLoaded (composed.assembled.entries ref original found).1).1

theorem Composed.resolves (composed : Composed historical available provenance collection resources) (loaded : Loaded historical)
    (availableLoaded : Loaded available) {resource : Resource} (member : resource ∈ collection.resources) {ref : ResourceRef}
    (referenced : ref ∈ resource.references) : ∃ other ∈ collection.resources, other.ref = ref := by
  obtain ⟨key, original, found, rfl⟩ := composed.mem_iff.mp member
  obtain ⟨source, listed, rfl⟩ := List.mem_map.mp referenced
  apply composed.present loaded availableLoaded
  cases replacement : (replacementsOf provenance).get? source with
  | none => exact composed.assembled.closed key original found source listed
  | some override =>
    rw [get?_replacementsOf] at replacement
    split at replacement
    · exact composed.overrides _ (replacementOf_some replacement).1
    · cases replacement

theorem Composed.distinct (composed : Composed historical available provenance collection resources) (loaded : Loaded historical)
    (availableLoaded : Loaded available) : (collection.resources.map Resource.ref).Nodup := by
  have refs : (resources.map fun entry => rewritten (replacementsOf provenance) entry.2).map Resource.ref = resources.keys := by
    rw [List.map_map, Dict.keys]
    refine List.map_congr_left fun entry member => ?_
    have found := Dict.get?_of_mem composed.assembled.distinct member
    exact (lookup_ref loaded availableLoaded (composed.assembled.entries entry.1 entry.2 found).1).1
  rw [composed.members, sortedResources, ((List.perm_insertionSort _ _).map Resource.ref).nodup_iff, refs]
  exact composed.assembled.distinct

theorem Composed.original (composed : Composed historical available provenance collection resources) (loaded : Loaded historical)
    (availableLoaded : Loaded available) (readable : Readable (replacementsOf provenance)) {resource : Resource}
    (member : resource ∈ collection.resources) :
    ∃ original, lookup historical available resource.ref = some original ∧
      (Untouched provenance.overrides original → resource = original) := by
  obtain ⟨key, original, found, rfl⟩ := composed.mem_iff.mp member
  obtain ⟨looked, -⟩ := composed.assembled.entries key original found
  have same : original.ref = key := (lookup_ref loaded availableLoaded looked).1
  subst same
  refine ⟨original, looked, fun untouched => ?_⟩
  apply rewritten_unchanged readable
  intro ref mentioned
  exact get?_replacementsOf_untouched (untouched ref (List.mem_cons_of_mem _ mentioned))

theorem Composed.retained (composed : Composed historical available provenance collection resources)
    (readable : Readable (replacementsOf provenance)) {original : Resource} (member : original ∈ historical.resources)
    (untouched : Untouched provenance.overrides original) : original ∈ collection.resources := by
  refine composed.mem_iff.mpr ⟨original.ref, original, composed.assembled.kept original member, ?_⟩
  apply rewritten_unchanged readable
  intro ref mentioned
  exact get?_replacementsOf_untouched (untouched ref (List.mem_cons_of_mem _ mentioned))

theorem reproduced (loaded : Loaded historical) (none : provenance.overrides = []) (readable : Readable (replacementsOf provenance))
    (added : provenance.overrides.foldlM (addOverride available) (indexed historical.resources) = .ok resources)
    (composed : Composed historical available provenance collection resources) :
    collection.resources = sortedResources historical.resources := by
  rw [none] at added
  cases added
  have unchanged (resource : Resource) : rewritten (replacementsOf provenance) resource = resource := by
    apply rewritten_unchanged readable
    intro ref _
    apply get?_replacementsOf_untouched
    simp [none]
  have same : (indexed historical.resources).map (fun entry => rewritten (replacementsOf provenance) entry.2) =
      historical.resources := by
    rw [indexed_eq loaded.distinct, List.map_map]
    exact List.map_id'' unchanged _
  rw [composed.members, same]

theorem sortedResources_eq_iff {listed : List Resource} :
    sortedResources listed = listed ↔ listed.Pairwise fun first second => resourceRank first ≤ resourceRank second := by
  have total : Std.Total fun first second : Resource => resourceRank first ≤ resourceRank second :=
    ⟨fun first second => le_total (resourceRank first) (resourceRank second)⟩
  have trans : IsTrans Resource fun first second => resourceRank first ≤ resourceRank second :=
    ⟨fun _ _ _ => le_trans⟩
  constructor
  · intro same
    rw [← same]
    exact List.pairwise_insertionSort _ _
  · intro sorted
    exact List.Pairwise.insertionSort_eq sorted

/-- The collection of a replay is pinned to its overrides exactly where the references to them have been recorded. -/
theorem replayResourceCollection_pinned (loaded : Loaded historical) (availableLoaded : Loaded available)
    (given : replayProvenance inherited overrides = .ok provenance)
    (replayed : replayResourceCollection historical available provenance = .ok collection) :
    (Replayed historical available overrides collection ↔ Covered historical available inherited overrides) ∧
      (overrides = [] → (collection = historical ↔
        historical.resources.Pairwise fun first second => refRank first.ref ≤ refRank second.ref)) := by
  obtain ⟨rfl, rfl, versioned, unique⟩ := replayProvenance_ok given
  obtain ⟨resources, added, composed⟩ := replayResourceCollection_ok loaded replayed
  have readable := readable_replacementsOf versioned
  refine ⟨⟨fun sound => ⟨?_, ?_⟩, fun covered => ⟨?_, ?_, ?_, ?_, ?_, ?_⟩⟩, fun none => ?_⟩
  · intro resource needed ref mentioned
    have found := (assembled_iff loaded availableLoaded added).mpr ⟨rfl, needed⟩
    have member := composed.mem_iff.mpr ⟨resource.ref, resource, found, rfl⟩
    apply (replaced_pinned unique ref).mp
    apply sound.pinned _ (List.mem_cons_of_mem _ member)
    rw [mentioned_rewritten readable]
    exact List.mem_map_of_mem mentioned
  · intro ref mentioned
    rw [← composed.workspace] at mentioned
    exact sound.pinned _ List.mem_cons_self ref mentioned
  · intro resource member ref referenced
    exact composed.resolves loaded availableLoaded member referenced
  · exact composed.distinct loaded availableLoaded
  · refine List.forall_mem_cons.mpr ⟨?_, fun resource member ref mentioned => ?_⟩
    · rw [composed.workspace]
      exact covered.workspace
    · obtain ⟨key, original, found, rfl⟩ := composed.mem_iff.mp member
      rw [mentioned_rewritten readable] at mentioned
      obtain ⟨source, listed, rfl⟩ := List.mem_map.mp mentioned
      have needed := (composed.assembled.entries key original found).2
      exact (replaced_pinned unique source).mpr (covered.needed original needed source listed)
  · intro resource member
    exact composed.original loaded availableLoaded readable member
  · intro original member untouched
    exact composed.retained readable member untouched
  · intro none
    rw [reproduced loaded none readable added composed]
    exact ⟨composed.workspace, List.perm_insertionSort _ _⟩
  · have members := reproduced loaded none readable added composed
    have same : collection = historical ↔ collection.resources = historical.resources := by
      obtain ⟨workspace, listed⟩ := collection
      obtain ⟨historicalWorkspace, historicalListed⟩ := historical
      have workspaces := composed.workspace
      dsimp only at workspaces ⊢
      rw [workspaces]
      simp
    rw [same, members]
    exact sortedResources_eq_iff

end Pinned

section Samples

def guardRef (version : String) : ResourceRef := ⟨"Policy", "guard", version⟩

def refData (refs : List ResourceRef) : Record :=
  [("policies", .arr (refs.map fun ref =>
    .obj [("kind", .str ref.kind), ("name", .str ref.name), ("version", .str ref.version)]))]

def sampleResource (ref : ResourceRef) (references : List ResourceRef) : Resource where
  ref := ref
  path := ref.name ++ ".yaml"
  data := refData references
  references := references

def sampleWorkspace (references : List ResourceRef) : Resource := sampleResource ⟨"Workspace", "main", "1.0.0"⟩ references

def sampleAgent (version guard : String) : Resource := sampleResource ⟨"Agent", "writer", version⟩ [guardRef guard]

def sampleGuard (version : String) : Resource := sampleResource (guardRef version) []

def sampleHistorical (references : List ResourceRef) : ResourceCollection where
  workspace := sampleWorkspace references
  resources := [sampleAgent "1.0.0" "1.0.0", sampleGuard "1.0.0", sampleWorkspace references]

def sampleAvailable : ResourceCollection where
  workspace := sampleWorkspace []
  resources := [sampleAgent "2.0.0" "3.0.0", sampleGuard "2.0.0", sampleGuard "3.0.0", sampleWorkspace []]

def sampleInherited : List ResourceRef := [⟨"Agent", "writer", "1.0.0"⟩, guardRef "1.0.0"]

theorem loaded_sampleHistorical_guarded : Loaded (sampleHistorical [guardRef "1.0.0"]) :=
  ⟨by decide, by decide, by decide⟩

theorem loaded_sampleHistorical : Loaded (sampleHistorical []) := ⟨by decide, by decide, by decide⟩

theorem loaded_sampleAvailable : Loaded sampleAvailable := ⟨by decide, by decide, by decide⟩

def sampleNeeded : List Resource := [sampleAgent "1.0.0" "1.0.0", sampleGuard "1.0.0", sampleWorkspace [], sampleGuard "2.0.0"]

theorem sampleNeeded_closed {resource : Resource}
    (needed : Needed (sampleHistorical []) sampleAvailable [guardRef "2.0.0"] resource) : resource ∈ sampleNeeded := by
  induction needed with
  | historical member =>
    have inside : ∀ resource ∈ (sampleHistorical []).resources, resource ∈ sampleNeeded := by decide
    exact inside _ member
  | override given looked =>
    cases List.mem_singleton.mp given
    have guard : lookup (sampleHistorical []) sampleAvailable (guardRef "2.0.0") = some (sampleGuard "2.0.0") := by decide
    cases guard.symm.trans looked
    decide
  | @dependency resource other ref _ referenced looked member =>
    have inside : ∀ resource ∈ sampleNeeded, ∀ ref ∈ resource.references,
        lookup (sampleHistorical []) sampleAvailable ref = some (sampleGuard "1.0.0") := by decide
    cases (inside resource member ref referenced).symm.trans looked
    decide

theorem covered_sample : Covered (sampleHistorical []) sampleAvailable sampleInherited [guardRef "2.0.0"] := by
  constructor
  · intro resource needed
    have all : ∀ resource ∈ sampleNeeded, ∀ ref ∈ resource.mentioned, ∀ override ∈ [guardRef "2.0.0"],
        sameName override ref → ref.version = override.version ∨ ref ∈ sampleInherited := by decide
    exact all resource (sampleNeeded_closed needed)
  · decide

theorem replayResourceCollection_pinned_sample : ∃ provenance collection,
    replayProvenance sampleInherited [guardRef "2.0.0"] = .ok provenance ∧
      replayResourceCollection (sampleHistorical []) sampleAvailable provenance = .ok collection ∧
      Replayed (sampleHistorical []) sampleAvailable [guardRef "2.0.0"] collection := by
  refine ⟨_, _, rfl, rfl, ?_⟩
  have given : replayProvenance sampleInherited [guardRef "2.0.0"] =
      .ok ⟨sampleInherited, [⟨"Agent", "writer", "1.0.0"⟩, guardRef "2.0.0"], [guardRef "2.0.0"]⟩ := rfl
  have pinned := replayResourceCollection_pinned loaded_sampleHistorical loaded_sampleAvailable given rfl
  exact pinned.1.mpr covered_sample

/-- An overriding Agent brings a reference of its own to another version, and the workspace keeps the old one. -/
theorem replayResourceCollection_unpinned : ∃ provenance collection,
    Loaded (sampleHistorical [guardRef "1.0.0"]) ∧ Loaded sampleAvailable ∧
      replayProvenance sampleInherited [⟨"Agent", "writer", "2.0.0"⟩, guardRef "2.0.0"] = .ok provenance ∧
      replayResourceCollection (sampleHistorical [guardRef "1.0.0"]) sampleAvailable provenance = .ok collection ∧
      (∃ resource ∈ collection.resources, guardRef "3.0.0" ∈ resource.references) ∧
      guardRef "1.0.0" ∈ collection.workspace.references ∧
      ¬Replayed (sampleHistorical [guardRef "1.0.0"]) sampleAvailable [⟨"Agent", "writer", "2.0.0"⟩, guardRef "2.0.0"]
        collection := by
  refine ⟨_, _, loaded_sampleHistorical_guarded, loaded_sampleAvailable, rfl, rfl, ?_, ?_, fun sound => ?_⟩
  · exact ⟨sampleAgent "2.0.0" "3.0.0", by decide, by decide⟩
  · decide
  · have pinned := sound.pinned _ List.mem_cons_self (guardRef "1.0.0") (by decide) (guardRef "2.0.0") (by decide) (by decide)
    exact absurd pinned (by decide)

end Samples

end Aep.ExecutionReplay
