import Aep.ContextBuilder.Selection
import Aep.ContextBuilder.Slices

namespace Aep.ContextBuilder

open RuntimeStore Result
open WorkflowScheduler (ResourceRef refRecord)

/-- An element as `build` makes them: a retrieved slice, or one without an identity. -/
inductive Built : Record → Prop
  | slice (elementType : SliceType) (result : KnowledgeResult) (ref : Option ResourceRef) :
      Built (knowledgeElement elementType result ref)
  | other (element : Record) (unidentified : repositoryIdentity element = none) : Built element

abbrev BuiltCandidate : Type := { candidate : Candidate // Built candidate.2 }

/-- An element that is ready to be selected. -/
inductive Ready : Record → Prop
  | slice (slice : Slice) : Ready slice.element
  | other (element : Record) (unidentified : repositoryIdentity element = none) : Ready element

def gatheredOf (element : Record) : List Json :=
  let content := ((element.field "content").asRecord?).getD []
  let retrieval := ((content.field "retrieval").asRecord?).getD []
  let provenance := ((element.field "provenance").asRecord?).getD []
  let items (fields : Record) (key : String) := ((fields.field key).asItems?).getD []
  items content "selectionReasons" ++ items retrieval "selectionTraversalPaths" ++ items provenance "resourceRefs"

/-- An element that stands for another one: a slice with its identity and all it has gathered, or itself. -/
def Covers (element covered : Record) : Prop :=
  match repositoryIdentity covered with
  | some identity => repositoryIdentity element = some identity ∧ gatheredOf covered ⊆ gatheredOf element
  | none => element = covered

def Represents (floatSize : Rat → Nat) (element prepared : Record) : Prop :=
  match repositoryIdentity prepared with
  | some identity => repositoryIdentity element = some identity ∧ gatheredOf prepared ⊆ gatheredOf element
  | none => element = withTokenMetadata floatSize prepared

section Elements

theorem gatheredOf_element (slice : Slice) : gatheredOf slice.element = slice.gathered := by
  change slice.reasons.map Json.str ++ slice.paths.map strings ++ (slice.refs.map refRecord).map Json.obj = slice.gathered
  rw [List.map_map]
  rfl

theorem repositoryIdentity_eq (element : Record) : repositoryIdentity element =
    if isSlice element then
      (element.field "content").asRecord?.bind fun content =>
      (element.field "provenance").asRecord?.bind fun provenance =>
      (content.field "source").asRecord?.bind fun source =>
      ((content.field "retrieval").asRecord?.map fun retrieval => Dict.field retrieval "snapshotVersion").map
        fun snapshot => [provenance.field "repositoryRevision", snapshot, source.field "path",
          source.field "startLine", source.field "endLine", source.field "symbol"]
    else none := by
  unfold repositoryIdentity
  split
  · rename_i sliced
    rw [sliced]
    simp only [guard, ↓reduceIte, Option.bind_eq_bind, Option.pure_def, Option.bind_some,
      Option.map_eq_bind, Option.bind_assoc, Function.comp_def]
  · rename_i unsliced
    rw [Bool.eq_false_of_not_eq_true unsliced]
    rfl

theorem field_set_ne (fields : Record) {key other : String} (value : Json) (apart : key ≠ other) :
    Dict.field (fields.set key value) other = fields.field other :=
  Dict.field_congr (Dict.get?_set_ne fields value apart)

theorem field_set_self (fields : Record) (key : String) (value : Json) :
    Dict.field (fields.set key value) key = value :=
  Dict.field_of_get? (Dict.get?_set_self fields key value)

theorem noteTraversal_field (content : Record) : (noteTraversal content).field "source" = content.field "source" ∧
    (((noteTraversal content).field "retrieval").asRecord?.map fun retrieval => Dict.field retrieval "snapshotVersion") =
      (content.field "retrieval").asRecord?.map fun retrieval => Dict.field retrieval "snapshotVersion" := by
  unfold noteTraversal
  split
  · exact ⟨rfl, rfl⟩
  · rename_i retrieval found
    split
    · exact ⟨rfl, rfl⟩
    · constructor
      · exact field_set_ne content _ (by decide)
      · rw [field_set_self, found]
        simp only [Json.asRecord?, Option.map_some, Option.some.injEq]
        exact field_set_ne retrieval _ (by decide)

theorem identity_withSelectionReason (element : Record) (name : String) :
    repositoryIdentity (withSelectionReason element name) = repositoryIdentity element := by
  unfold withSelectionReason
  split
  · rfl
  · rename_i content found
    split
    · rename_i sliced
      obtain ⟨source, retrieval⟩ := noteTraversal_field (content.set "selectionReasons" (.arr [.str name]))
      rw [field_set_ne content _ (by decide)] at source
      rw [field_set_ne content _ (by decide)] at retrieval
      have type := field_set_ne element (.obj (noteTraversal (content.set "selectionReasons" (.arr [.str name]))))
        (show "content" ≠ "type" by decide)
      have provenance := field_set_ne element
        (.obj (noteTraversal (content.set "selectionReasons" (.arr [.str name]))))
        (show "content" ≠ "provenance" by decide)
      have sameType : isSlice (element.set "content"
          (.obj (noteTraversal (content.set "selectionReasons" (.arr [.str name]))))) = isSlice element := by
        unfold isSlice
        rw [type]
      rw [repositoryIdentity_eq, repositoryIdentity_eq, sameType, provenance, field_set_self, found]
      simp only [Option.bind_some, source, retrieval, Json.asRecord?_obj]
    · rfl

theorem Built.ready {element : Record} (built : Built element) (name : String) : Ready (withSelectionReason element name) := by
  cases built with
  | slice elementType result ref =>
    rw [Slice.withSelectionReason_knowledgeElement]
    exact .slice _
  | other element unidentified =>
    apply Ready.other
    rw [identity_withSelectionReason, unidentified]

theorem Ready.sliced {element : Record} (ready : Ready element) {identity : Identity}
    (identified : repositoryIdentity element = some identity) :
    ∃ slice : Slice, element = slice.element ∧ slice.identity = identity := by
  cases ready with
  | slice slice =>
    rw [Slice.repositoryIdentity_element] at identified
    exact ⟨slice, rfl, Option.some.inj identified⟩
  | other element unidentified =>
    rw [unidentified] at identified
    cases identified

theorem covers_self (element : Record) : Covers element element := by
  unfold Covers
  split
  · rename_i identity identified
    exact ⟨identified, List.Subset.refl _⟩
  · rfl

theorem covers_of_slice {slice : Slice} {element : Record} (identified : repositoryIdentity element = some slice.identity)
    (within : slice.gathered ⊆ gatheredOf element) : Covers element slice.element := by
  unfold Covers
  rw [Slice.repositoryIdentity_element, gatheredOf_element]
  exact ⟨identified, within⟩

theorem covers_merge {first second : Slice} {covered : Record} (covers : Covers first.element covered) :
    Covers (first.merge second).element covered := by
  unfold Covers at covers ⊢
  split at covers
  · simp only [Slice.repositoryIdentity_element, gatheredOf_element] at covers ⊢
    exact ⟨covers.1, List.Subset.trans covers.2 (first.gathered_merge second).1⟩
  · rename_i unidentified
    rw [← covers, Slice.repositoryIdentity_element] at unidentified
    cases unidentified

def mergeCandidates (prior duplicate : Candidate) : Except PyError Candidate := do
  return (prior.1, ← mergeDuplicate prior.2 duplicate.2)

end Elements

section Deduplicated

theorem laws : Coalesce.Laws (fun candidate : Candidate => repositoryIdentity candidate.2) mergeCandidates
    (fun candidate => Ready candidate.2) (fun candidate covered => Covers candidate.2 covered.2) := by
  constructor
  · intro candidate _
    exact covers_self _
  · rintro ⟨name, prior⟩ ⟨other, item⟩ merged identity priorReady itemReady priorIdentified itemIdentified made
    obtain ⟨first, rfl, firstIdentity⟩ := priorReady.sliced priorIdentified
    obtain ⟨second, rfl, secondIdentity⟩ := itemReady.sliced itemIdentified
    unfold mergeCandidates at made
    simp only [Slice.mergeDuplicate_element, ok_bind, pure_eq_ok] at made
    subst made
    constructor
    · simp only [Slice.repositoryIdentity_element, Slice.identity_merge]
    · exact .slice _
    · apply covers_of_slice
      · rw [Slice.repositoryIdentity_element, Slice.identity_merge, firstIdentity, secondIdentity]
      · rw [gatheredOf_element]
        exact (first.gathered_merge second).2
    · rintro ⟨third, covered⟩ covers
      exact covers_merge covers

theorem deduplicate_eq (candidates : List Candidate) : deduplicate candidates = do
    let selected ← Coalesce.coalesce (fun candidate : Candidate => repositoryIdentity candidate.2) mergeCandidates
      (candidates.map fun candidate => (candidate.1, withSelectionReason candidate.2 candidate.1))
    return selected.items := rfl

structure Deduplicated (candidates deduplicated : List Candidate) : Prop where
  ready : ∀ candidate ∈ deduplicated, Ready candidate.2
  distinct : deduplicated.Pairwise fun left right => ∀ identity, repositoryIdentity left.2 = some identity →
    repositoryIdentity right.2 ≠ some identity
  covered : ∀ candidate ∈ candidates, ∃ holder ∈ deduplicated,
    Covers holder.2 (withSelectionReason candidate.2 candidate.1)

theorem deduplicated {candidates : List BuiltCandidate} {result : List Candidate}
    (ran : deduplicate (candidates.map Subtype.val) = .ok result) :
    Deduplicated (candidates.map Subtype.val) result := by
  rw [deduplicate_eq] at ran
  simp only [bind_eq_ok, pure_eq_ok] at ran
  obtain ⟨state, coalesced, rfl⟩ := ran
  have fits : ∀ prepared ∈ (candidates.map Subtype.val).map fun candidate =>
      (candidate.1, withSelectionReason candidate.2 candidate.1), Ready prepared.2 := by
    intro prepared inside
    obtain ⟨candidate, built, rfl⟩ := List.mem_map.mp inside
    obtain ⟨⟨source, ready⟩, -, rfl⟩ := List.mem_map.mp built
    exact ready.ready source.1
  have left := Coalesce.coalesced laws fits coalesced
  constructor
  · exact left.fit
  · exact left.places.pairwise
  · intro candidate inside
    exact left.covered _ (List.mem_map_of_mem inside)

end Deduplicated

end Aep.ContextBuilder
