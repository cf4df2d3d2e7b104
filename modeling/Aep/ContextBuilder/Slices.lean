import Aep.ContextBuilder.Selection
import Aep.Library.Json
import Aep.Library.Result
import Mathlib.Data.List.Dedup

namespace Aep.ContextBuilder

open WorkflowScheduler (item iterate asDict RefKey ResourceRef refRecord)

section Unions

variable {α β : Type}

theorem mem_sortedUnion [DecidableEq α] {before : α → α → Prop} [DecidableRel before] {first second : List α} {item : α} :
    item ∈ sortedUnion before first second ↔ item ∈ first ∨ item ∈ second := by
  simp [sortedUnion]

theorem nodup_sortedUnion [DecidableEq α] {before : α → α → Prop} [DecidableRel before] (first second : List α) :
    (sortedUnion before first second).Nodup :=
  (List.perm_insertionSort _ _).nodup_iff.mpr (List.nodup_dedup _)

theorem subperm_sortedUnion [DecidableEq α] {before : α → α → Prop} [DecidableRel before] {first : List α}
    (once : first.Nodup) (second : List α) : first.Subperm (sortedUnion before first second) := by
  apply List.subperm_of_subset once
  intro item inside
  exact mem_sortedUnion.mpr (.inl inside)

theorem subperm_map (encode : α → β) {first second : List α} (within : first.Subperm second) :
    (first.map encode).Subperm (second.map encode) := by
  obtain ⟨kept, perm, sub⟩ := within
  exact ⟨kept.map encode, perm.map encode, sub.map encode⟩

def lastBy (key : α → RefKey) (found : Dict RefKey α) (items : List α) : Dict RefKey α :=
  items.foldl (fun found item => found.set (key item) item) found

theorem nodup_keys_lastBy (key : α → RefKey) {found : Dict RefKey α} (distinct : found.keys.Nodup) (items : List α) :
    (lastBy key found items).keys.Nodup := by
  induction items generalizing found with
  | nil => exact distinct
  | cons item rest ih => exact ih (Dict.nodup_keys_set distinct _ _)

theorem get?_lastBy {key : α → RefKey} (injective : Function.Injective key) (found : Dict RefKey α) (items : List α)
    (item : α) : (lastBy key found items).get? (key item) = some item ↔
      item ∈ items ∨ found.get? (key item) = some item := by
  induction items generalizing found with
  | nil => simp [lastBy]
  | cons first rest ih =>
    have step := ih (found.set (key first) first)
    rw [Dict.get?_set] at step
    change (lastBy key (found.set (key first) first) rest).get? (key item) = some item ↔ _
    rw [step, List.mem_cons]
    by_cases same : first = item
    · subst same
      simp
    · have apart : key first ≠ key item := fun equal => same (injective equal)
      simp [apart, Ne.symm same]

theorem eq_of_lastBy {key : α → RefKey} {found : Dict RefKey α} (own : ∀ entry ∈ found, entry.1 = key entry.2)
    (items : List α) : ∀ entry ∈ lastBy key found items, entry.1 = key entry.2 := by
  induction items generalizing found with
  | nil => exact own
  | cons item rest ih =>
    apply ih
    intro entry inside
    rcases Dict.mem_of_mem_set inside with rfl | old
    · rfl
    · exact own entry old

theorem uniqueBy_perm (key : α → RefKey) (items : List α) :
    (uniqueBy key items).Perm ((lastBy key [] items).map Prod.snd) :=
  (List.perm_insertionSort _ _).map _

theorem mem_uniqueBy {key : α → RefKey} (injective : Function.Injective key) {items : List α} {item : α} :
    item ∈ uniqueBy key items ↔ item ∈ items := by
  have own : ∀ entry ∈ lastBy key [] items, entry.1 = key entry.2 := eq_of_lastBy (fun _ inside => by cases inside) items
  have none : Dict.keys ([] : Dict RefKey α) = [] := rfl
  have distinct : (lastBy key [] items).keys.Nodup := nodup_keys_lastBy key (none ▸ List.nodup_nil) items
  have found := get?_lastBy injective [] items item
  rw [(uniqueBy_perm key items).mem_iff, List.mem_map]
  constructor
  · rintro ⟨entry, inside, rfl⟩
    have lookup : (lastBy key [] items).get? (key entry.2) = some entry.2 := by
      rw [← own entry inside]
      exact Dict.get?_of_mem distinct inside
    exact ((get?_lastBy injective [] items entry.2).mp lookup).resolve_right (by simp)
  · intro inside
    exact ⟨_, Dict.get?_eq_some_mem (found.mpr (.inl inside)), rfl⟩

theorem nodup_uniqueBy (key : α → RefKey) (items : List α) : (uniqueBy key items).Nodup := by
  have own : ∀ entry ∈ lastBy key [] items, entry.1 = key entry.2 := eq_of_lastBy (fun _ inside => by cases inside) items
  have none : Dict.keys ([] : Dict RefKey α) = [] := rfl
  have distinct : (lastBy key [] items).keys.Nodup := nodup_keys_lastBy key (none ▸ List.nodup_nil) items
  rw [(uniqueBy_perm key items).nodup_iff]
  apply List.Nodup.of_map key
  rw [List.map_map]
  have same : (lastBy key [] items).map (key ∘ Prod.snd) = (lastBy key [] items).keys := by
    apply List.map_congr_left
    intro entry inside
    exact (own entry inside).symm
  rwa [same]

theorem subperm_uniqueBy {key : α → RefKey} (injective : Function.Injective key) {first : List α} (once : first.Nodup)
    (second : List α) : first.Subperm (uniqueBy key (first ++ second)) := by
  apply List.subperm_of_subset once
  intro item inside
  exact (mem_uniqueBy injective).mpr (List.mem_append_left _ inside)

theorem lastBy_map (key : α → RefKey) (encode : α → β) {key' : β → RefKey} (same : ∀ item, key' (encode item) = key item)
    (found : Dict RefKey α) (items : List α) :
    lastBy key' (found.map fun entry => (entry.1, encode entry.2)) (items.map encode) =
      (lastBy key found items).map fun entry => (entry.1, encode entry.2) := by
  induction items generalizing found with
  | nil => rfl
  | cons item rest ih =>
    have step := ih (found.set (key item) item)
    rw [← Dict.set_map] at step
    change lastBy key' (Dict.set _ (key' (encode item)) (encode item)) (rest.map encode) = _
    rw [same]
    exact step

theorem uniqueBy_map (key : α → RefKey) (encode : α → β) {key' : β → RefKey}
    (same : ∀ item, key' (encode item) = key item) (items : List α) :
    uniqueBy key' (items.map encode) = (uniqueBy key items).map encode := by
  change ((lastBy key' [] (items.map encode)).insertionSort _).map Prod.snd =
    (((lastBy key [] items).insertionSort _).map Prod.snd).map encode
  have mapped := lastBy_map key encode same [] items
  rw [List.map_nil] at mapped
  rw [mapped, ← List.map_insertionSort (r := fun left right => RefKey.before left.1 right.1), List.map_map, List.map_map]
  · rfl
  · intro left _ right _
    rfl

end Unions

def slicedKey (ref : ResourceRef) : RefKey := (ref.kind, ref.name, ref.version)

theorem slicedKey_injective : Function.Injective slicedKey := by
  intro left right same
  cases left
  cases right
  simpa [slicedKey] using same

theorem refKey_refRecord (ref : ResourceRef) : refKey (refRecord ref) = slicedKey ref := rfl

/-- A slice of the repository as it goes through the selection: what was retrieved, and what it has gathered. -/
structure Slice where
  elementType : SliceType
  result : KnowledgeResult
  reasons : List String
  paths : List (List String)
  refs : List ResourceRef
  reasonsOnce : reasons.Nodup
  pathsOnce : paths.Nodup
  refsOnce : refs.Nodup

namespace Slice

variable (slice other : Slice)

def retrieval : Record := [
  ("snapshotVersion", .str slice.result.provenance.snapshotVersion),
  ("snapshotCreatedAt", .str slice.result.provenance.snapshotCreatedAt),
  ("snapshotProducer", .str slice.result.provenance.snapshotProducer),
  ("traversalPath", strings slice.result.provenance.traversalPath),
  ("selectionTraversalPaths", .arr (slice.paths.map strings))]

def content : Record := [
  ("id", .str slice.result.id), ("kind", .str slice.result.kind.value), ("score", .int slice.result.score),
  ("attributes", .obj slice.result.attributes), ("source", .obj slice.result.provenance.source.record),
  ("retrieval", .obj slice.retrieval), ("selectionReasons", strings slice.reasons)]

def provenance : Record := [
  ("actor", .str "repository-knowledge-query"),
  ("repositoryRevision", .str slice.result.provenance.repositoryRevision),
  ("knowledgeGraphVersion", .str slice.result.provenance.snapshotVersion),
  ("resourceRefs", .arr ((slice.refs.map refRecord).map .obj))]

def element : Record :=
  [("type", .str slice.elementType.name), ("content", .obj slice.content), ("provenance", .obj slice.provenance)]

def identity : Identity :=
  let source := slice.result.provenance.source.record
  [.str slice.result.provenance.repositoryRevision, .str slice.result.provenance.snapshotVersion, source.field "path",
    source.field "startLine", source.field "endLine", source.field "symbol"]

def merge : Slice where
  elementType := slice.elementType
  result := slice.result
  reasons := sortedUnion (· ≤ ·) slice.reasons other.reasons
  paths := sortedUnion (· ≤ ·) slice.paths other.paths
  refs := uniqueBy slicedKey (slice.refs ++ other.refs)
  reasonsOnce := nodup_sortedUnion _ _
  pathsOnce := nodup_sortedUnion _ _
  refsOnce := nodup_uniqueBy _ _

def retrieved (elementType : SliceType) (result : KnowledgeResult) (ref : Option ResourceRef) (name : String) : Slice where
  elementType := elementType
  result := result
  reasons := [name]
  paths := [result.provenance.traversalPath]
  refs := ref.toList
  reasonsOnce := List.nodup_singleton _
  pathsOnce := List.nodup_singleton _
  refsOnce := by cases ref <;> simp

def gathered : List Json := slice.reasons.map .str ++ slice.paths.map strings ++ slice.refs.map fun ref => .obj (refRecord ref)

@[simp] theorem isSlice_element : isSlice slice.element = true := by
  cases slice with
  | mk elementType => cases elementType <;> rfl

@[simp] theorem repositoryIdentity_element : repositoryIdentity slice.element = some slice.identity := by
  unfold repositoryIdentity
  rw [isSlice_element]
  rfl

@[simp] theorem identity_merge : (slice.merge other).identity = slice.identity := rfl

theorem withSelectionReason_knowledgeElement (elementType : SliceType) (result : KnowledgeResult)
    (ref : Option ResourceRef) (name : String) :
    withSelectionReason (knowledgeElement elementType result ref) name =
      (retrieved elementType result ref name).element := by
  have isSlice : isSlice (knowledgeElement elementType result ref) = true := by cases elementType <;> rfl
  unfold withSelectionReason
  rw [isSlice]
  cases ref <;> rfl

theorem mapM_asText (texts : List String) : (texts.map Json.str).mapM asText = .ok texts := by
  induction texts with
  | nil => rfl
  | cons text rest ih =>
    rw [List.map_cons, List.mapM_cons, ih]
    rfl

theorem textsOf_content : textsOf slice.content "selectionReasons" = .ok slice.reasons := mapM_asText slice.reasons

theorem pathsOf_retrieval : pathsOf slice.retrieval = .ok slice.paths := by
  change (slice.paths.map strings).mapM (fun path => do (← iterate path).mapM asText) = .ok slice.paths
  induction slice.paths with
  | nil => rfl
  | cons path rest ih =>
    rw [List.map_cons, List.mapM_cons, ih]
    change (do let first ← (path.map Json.str).mapM asText; let rest ← Except.ok rest; pure (first :: rest)) = _
    rw [mapM_asText]
    rfl

theorem refsOf_provenance : refsOf slice.provenance = .ok (slice.refs.map refRecord) := by
  change ((slice.refs.map refRecord).map Json.obj).mapM asDict = .ok (slice.refs.map refRecord)
  induction slice.refs.map refRecord with
  | nil => rfl
  | cons ref rest ih =>
    rw [List.map_cons, List.mapM_cons, ih]
    rfl

theorem mergeDuplicate_element : mergeDuplicate slice.element other.element = .ok (slice.merge other).element := by
  have content (slice : Slice) : item slice.element "content" = .ok (.obj slice.content) := rfl
  have provenance (slice : Slice) : item slice.element "provenance" = .ok (.obj slice.provenance) := rfl
  have source (slice : Slice) : (slice.element.get? "provenance").getD (.obj []) = .obj slice.provenance := rfl
  have retrieval (slice : Slice) : retrievalOf slice.content = .ok slice.retrieval := rfl
  have mapping (fields : Record) : asDict (.obj fields) = .ok fields := rfl
  have noted : withTraversalPaths (slice.content.set "selectionReasons"
      (strings (sortedUnion (· ≤ ·) slice.reasons other.reasons))) (sortedUnion (· ≤ ·) slice.paths other.paths) =
      .ok (slice.merge other).content := rfl
  unfold mergeDuplicate
  simp only [content, provenance, source, retrieval, mapping, textsOf_content, pathsOf_retrieval, refsOf_provenance,
    Result.ok_bind, noted]
  rw [← List.map_append, uniqueBy_map slicedKey refRecord refKey_refRecord]
  rfl

theorem gathered_merge : slice.gathered ⊆ (slice.merge other).gathered ∧ other.gathered ⊆ (slice.merge other).gathered := by
  have reasons (reason : String) : reason ∈ (slice.merge other).reasons ↔ reason ∈ slice.reasons ∨ reason ∈ other.reasons :=
    mem_sortedUnion
  have paths (path : List String) : path ∈ (slice.merge other).paths ↔ path ∈ slice.paths ∨ path ∈ other.paths :=
    mem_sortedUnion
  have refs (ref : ResourceRef) : ref ∈ (slice.merge other).refs ↔ ref ∈ slice.refs ∨ ref ∈ other.refs :=
    (mem_uniqueBy slicedKey_injective).trans List.mem_append
  constructor
  · intro fact inside
    simp only [gathered, List.mem_append, List.mem_map, reasons, paths, refs] at inside ⊢
    rcases inside with (⟨reason, found, rfl⟩ | ⟨path, found, rfl⟩) | ⟨ref, found, rfl⟩
    · exact .inl (.inl ⟨reason, .inl found, rfl⟩)
    · exact .inl (.inr ⟨path, .inl found, rfl⟩)
    · exact .inr ⟨ref, .inl found, rfl⟩
  · intro fact inside
    simp only [gathered, List.mem_append, List.mem_map, reasons, paths, refs] at inside ⊢
    rcases inside with (⟨reason, found, rfl⟩ | ⟨path, found, rfl⟩) | ⟨ref, found, rfl⟩
    · exact .inl (.inl ⟨reason, .inr found, rfl⟩)
    · exact .inl (.inr ⟨path, .inr found, rfl⟩)
    · exact .inr ⟨ref, .inr found, rfl⟩

theorem size_merge (floatSize : Rat → Nat) :
    (Json.obj slice.element).size floatSize ≤ (Json.obj (slice.merge other).element).size floatSize := by
  have reasons : (strings slice.reasons).size floatSize ≤ (strings (slice.merge other).reasons).size floatSize :=
    Json.size_arr_mono (subperm_map Json.str (subperm_sortedUnion slice.reasonsOnce other.reasons))
  have paths : (Json.arr (slice.paths.map strings)).size floatSize ≤
      (Json.arr ((slice.merge other).paths.map strings)).size floatSize :=
    Json.size_arr_mono (subperm_map strings (subperm_sortedUnion slice.pathsOnce other.paths))
  have refs : (Json.arr ((slice.refs.map refRecord).map .obj)).size floatSize ≤
      (Json.arr (((slice.merge other).refs.map refRecord).map .obj)).size floatSize :=
    Json.size_arr_mono (subperm_map Json.obj (subperm_map refRecord (subperm_uniqueBy slicedKey_injective slice.refsOnce
      other.refs)))
  have retrieval : (Json.obj slice.retrieval).size floatSize ≤ (Json.obj (slice.merge other).retrieval).size floatSize := by
    apply Json.size_obj_mono
    iterate 4 apply Json.sizeFields_cons_mono le_rfl
    exact Json.sizeFields_cons_mono paths le_rfl
  have content : (Json.obj slice.content).size floatSize ≤ (Json.obj (slice.merge other).content).size floatSize := by
    apply Json.size_obj_mono
    iterate 5 apply Json.sizeFields_cons_mono le_rfl
    exact Json.sizeFields_cons_mono retrieval (Json.sizeFields_cons_mono reasons le_rfl)
  have provenance : (Json.obj slice.provenance).size floatSize ≤
      (Json.obj (slice.merge other).provenance).size floatSize := by
    apply Json.size_obj_mono
    iterate 3 apply Json.sizeFields_cons_mono le_rfl
    exact Json.sizeFields_cons_mono refs le_rfl
  apply Json.size_obj_mono
  apply Json.sizeFields_cons_mono le_rfl
  exact Json.sizeFields_cons_mono content (Json.sizeFields_cons_mono provenance le_rfl)

end Slice

end Aep.ContextBuilder
