import Aep.RepositoryKnowledge.Provider
import Mathlib.Data.List.Induction

namespace Aep.RepositoryKnowledge

open RuntimeStore

section Order

variable {platform : Platform} {records permuted : List (SnapshotRecord × Nat)}

def Distinct (records : List (SnapshotRecord × Nat)) : Prop :=
  ∀ first ∈ records, ∀ second ∈ records, first.1.id = second.1.id → first = second

theorem rankOf_id {first second : SnapshotRecord × Nat} (same : rankOf platform first = rankOf platform second) :
    first.1.id = second.1.id := by
  simp only [rankOf, EmbeddingLike.apply_eq_iff_eq, Prod.mk.injEq] at same
  exact same.2.2.2

theorem ordered_all (distinct : Distinct records) (same : records.Perm permuted) :
    ordered platform records none = ordered platform permuted none := by
  have sorted (items : List (SnapshotRecord × Nat)) :
      (items.insertionSort fun first second => rankOf platform first ≤ rankOf platform second).Pairwise
        fun first second => rankOf platform first ≤ rankOf platform second := by
    have : Std.Total fun first second : SnapshotRecord × Nat => rankOf platform first ≤ rankOf platform second :=
      ⟨fun first second => le_total _ _⟩
    have : IsTrans (SnapshotRecord × Nat) fun first second => rankOf platform first ≤ rankOf platform second :=
      ⟨fun _ _ _ => le_trans⟩
    exact List.pairwise_insertionSort _ items
  have itself (items : List (SnapshotRecord × Nat)) :
      (items.insertionSort fun first second => rankOf platform first ≤ rankOf platform second).Perm items :=
    List.perm_insertionSort _ items
  have perm := ((itself records).trans same).trans (itself permuted).symm
  refine perm.eq_of_pairwise (fun first second inFirst inSecond before after => ?_) (sorted records) (sorted permuted)
  have inRecords := (itself records).mem_iff.mp inFirst
  have inPermuted := same.mem_iff.mpr ((itself permuted).mem_iff.mp inSecond)
  exact distinct first inRecords second inPermuted (rankOf_id (le_antisymm before after))

theorem ordered_perm (distinct : Distinct records) (same : records.Perm permuted) (limit : Option Nat) :
    ordered platform records limit = ordered platform permuted limit := by
  have all := @ordered_all platform _ _ distinct same
  cases limit with
  | none => exact all
  | some count => exact congrArg (List.take count) all

theorem ordered_take (records : List (SnapshotRecord × Nat)) (count : Nat) :
    ordered platform records (some count) = (ordered platform records none).take count := rfl

end Order

section Searches

variable {platform : Platform} {provider other : Provider} {keeps : SnapshotRecord → Bool}
  {score : SnapshotRecord → Nat} {operation : String}

theorem select_limit {results : List KnowledgeResult} (unlimited : select platform provider keeps score operation none = .ok results)
    (count : Nat) : select platform provider keeps score operation (some count) = .ok (results.take count) := by
  unfold select at unlimited ⊢
  rw [ordered_take]
  exact Result.mapM_take unlimited count

theorem distinct_scored (provider : Provider) (keeps : SnapshotRecord → Bool) (score : SnapshotRecord → Nat) :
    Distinct ((provider.records.filter keeps).map fun record => (record, score record)) := by
  intro first one second two same
  obtain ⟨record, kept, rfl⟩ := List.mem_map.mp one
  obtain ⟨later, keptLater, rfl⟩ := List.mem_map.mp two
  rw [List.inj_on_of_nodup_map provider.facts.2 (List.mem_filter.mp kept).1 (List.mem_filter.mp keptLater).1 same]

theorem select_perm (labels : ∀ record score operation, result provider record score operation = result other record score operation)
    (same : provider.records.Perm other.records) (limit : Option Nat) :
    select platform provider keeps score operation limit = select platform other keeps score operation limit := by
  unfold select
  rw [ordered_perm (distinct_scored provider keeps score) ((same.filter keeps).map _) limit]
  congr 1
  funext item
  exact labels _ _ _

end Searches

section Snapshots

variable {platform : Platform} {snapshot other : RepositoryKnowledgeSnapshot} {provider : Provider}

structure Reordered (snapshot other : RepositoryKnowledgeSnapshot) : Prop where
  snapshotVersion : snapshot.snapshotVersion = other.snapshotVersion
  repositoryRevision : snapshot.repositoryRevision = other.repositoryRevision
  createdAt : snapshot.createdAt = other.createdAt
  scannerVersion : snapshot.scannerVersion = other.scannerVersion
  files : snapshot.files.Perm other.files
  documentation : snapshot.documentation.Perm other.documentation
  dependencyManifests : snapshot.dependencyManifests.Perm other.dependencyManifests
  testCommandHints : snapshot.testCommandHints.Perm other.testCommandHints

theorem languageByPath_get? {files : List RepositoryFile} (distinct : (files.map RepositoryFile.path).Nodup) (path : String)
    (language : Option String) : (languageByPath files).get? path = some language ↔
      ∃ file ∈ files, file.path = path ∧ file.language = language := by
  unfold languageByPath
  induction files using List.reverseRecOn with
  | nil => simp
  | append_singleton files file ih =>
    rw [List.map_append, List.nodup_append] at distinct
    have earlier := ih distinct.1
    rw [List.foldl_append, List.foldl_cons, List.foldl_nil]
    by_cases same : file.path = path
    · rw [same, Dict.get?_set_self]
      constructor
      · intro found
        exact ⟨file, by simp, same, Option.some.inj found⟩
      · rintro ⟨found, member, named, rfl⟩
        rcases List.mem_append.mp member with old | new
        · have apart := distinct.2.2 found.path (List.mem_map_of_mem old) file.path (by simp)
          exact absurd (named.trans same.symm) apart
        · rw [List.mem_singleton.mp new]
    · rw [Dict.get?_set_ne _ _ same, earlier]
      constructor
      · rintro ⟨found, member, facts⟩
        exact ⟨found, List.mem_append_left _ member, facts⟩
      · rintro ⟨found, member, named, language⟩
        rcases List.mem_append.mp member with old | new
        · exact ⟨found, old, named, language⟩
        · rw [List.mem_singleton.mp new] at named
          exact absurd named same

theorem languageByPath_perm {files permuted : List RepositoryFile} (distinct : (files.map RepositoryFile.path).Nodup)
    (same : files.Perm permuted) (path : String) :
    (languageByPath files).get? path = (languageByPath permuted).get? path := by
  have distinctOther := (same.map RepositoryFile.path).nodup_iff.mp distinct
  refine Option.ext fun language => ?_
  rw [languageByPath_get? distinct, languageByPath_get? distinctOther]
  exact exists_congr fun file => and_congr_left fun _ => same.mem_iff

theorem fileRecord_ok {file : RepositoryFile} {record : SnapshotRecord} (made : fileRecord platform file = .ok record) :
    normalizePath false file.path = .ok record.path ∧ record.id = "file:" ++ file.path ∧ record.kind = .file := by
  simp only [fileRecord, Result.bind_eq_ok, Result.pure_eq_ok] at made
  obtain ⟨path, normalized, rfl⟩ := made
  exact ⟨normalized, rfl, rfl⟩

/-- The files of a snapshot, and the rest, whose records are of other kinds. -/
structure Gathered (platform : Platform) (snapshot : RepositoryKnowledgeSnapshot) (records : List SnapshotRecord) : Prop where
  parts : ∃ files rest, records = files ++ rest ∧ snapshot.files.mapM (fileRecord platform) = .ok files ∧
    ∀ record ∈ rest, record.kind ≠ .file

theorem gatheredRecords_ok {records : List SnapshotRecord} (gathered : gatheredRecords platform snapshot = .ok records) :
    Gathered platform snapshot records := by
  simp only [gatheredRecords, Result.bind_eq_ok, Result.pure_eq_ok] at gathered
  obtain ⟨files, made, documents, documented, manifests, manifested, hints, hinted, rfl⟩ := gathered
  refine ⟨files, documents ++ manifests ++ hints, by simp, made, fun record member => ?_⟩
  rcases List.mem_append.mp member with first | hint
  · rcases List.mem_append.mp first with document | manifest
    · obtain ⟨_, -, here⟩ := Result.mem_of_mapM documented document
      simp only [documentationRecord, Result.bind_eq_ok, Result.pure_eq_ok] at here
      obtain ⟨_, -, rfl⟩ := here
      simp
    · obtain ⟨_, -, here⟩ := Result.mem_of_mapM manifested manifest
      simp only [manifestRecord, Result.bind_eq_ok, Result.pure_eq_ok] at here
      obtain ⟨_, -, rfl⟩ := here
      simp
  · obtain ⟨_, -, here⟩ := Result.mem_of_mapM hinted hint
    simp only [hintRecord, Result.bind_eq_ok, Result.pure_eq_ok] at here
    obtain ⟨_, -, rfl⟩ := here
    simp

theorem fileRecord_ids {files : List RepositoryFile} {records : List SnapshotRecord}
    (made : files.mapM (fileRecord platform) = .ok records) :
    records.map SnapshotRecord.id = files.map fun file => "file:" ++ file.path := by
  have each := Result.forall₂_of_mapM made
  clear made
  induction each with
  | nil => rfl
  | cons here _ ih => rw [List.map_cons, List.map_cons, ih, (fileRecord_ok here).2.1]

theorem paths_nodup {records : List SnapshotRecord} (gathered : Gathered platform snapshot records)
    (unique : (records.map SnapshotRecord.id).Nodup) : (snapshot.files.map RepositoryFile.path).Nodup := by
  obtain ⟨files, rest, rfl, made, -⟩ := gathered.parts
  rw [List.map_append, List.nodup_append, fileRecord_ids made] at unique
  have mapped : (snapshot.files.map fun file => "file:" ++ file.path) =
      (snapshot.files.map RepositoryFile.path).map fun path => "file:" ++ path := by
    rw [List.map_map]
    rfl
  rw [mapped] at unique
  exact unique.1.of_map _

theorem gatheredRecords_perm (reordered : Reordered snapshot other) {records : List SnapshotRecord}
    (distinct : (snapshot.files.map RepositoryFile.path).Nodup)
    (gathered : gatheredRecords platform snapshot = .ok records) :
    ∃ others, gatheredRecords platform other = .ok others ∧ records.Perm others := by
  simp only [gatheredRecords, Result.bind_eq_ok, Result.pure_eq_ok] at gathered ⊢
  obtain ⟨files, made, documents, documented, manifests, manifested, hints, hinted, rfl⟩ := gathered
  have languages : hintRecord (languageByPath snapshot.files) = hintRecord (languageByPath other.files) := by
    funext hint
    simp only [hintRecord, languageByPath_perm distinct reordered.files]
  rw [languages] at hinted
  obtain ⟨otherFiles, madeOther, filesPerm⟩ := Result.mapM_perm reordered.files made
  obtain ⟨otherDocuments, documentedOther, documentsPerm⟩ := Result.mapM_perm reordered.documentation documented
  obtain ⟨otherManifests, manifestedOther, manifestsPerm⟩ := Result.mapM_perm reordered.dependencyManifests manifested
  obtain ⟨otherHints, hintedOther, hintsPerm⟩ := Result.mapM_perm reordered.testCommandHints hinted
  exact ⟨_, ⟨otherFiles, madeOther, otherDocuments, documentedOther, otherManifests, manifestedOther, otherHints,
    hintedOther, rfl⟩, ((filesPerm.append documentsPerm).append manifestsPerm).append hintsPerm⟩

theorem inMemoryProvider_ok (built : inMemoryProvider platform snapshot = .ok provider) :
    provider.snapshot = snapshot ∧ gatheredRecords platform snapshot = .ok provider.records := by
  simp only [inMemoryProvider, snapshotRecords, Result.bind_eq_ok, Result.pure_eq_ok] at built
  obtain ⟨facts, ⟨records, gathered, made⟩, rfl⟩ := built
  split at made
  · rw [← Result.pure_eq_ok.mp made]
    exact ⟨rfl, gathered⟩
  · cases made

theorem inMemoryProvider_of_gathered {records : List SnapshotRecord}
    (gathered : gatheredRecords platform snapshot = .ok records) (unique : (records.map SnapshotRecord.id).Nodup) :
    inMemoryProvider platform snapshot = .ok ⟨snapshot, records, unique⟩ := by
  simp [inMemoryProvider, snapshotRecords, gathered, unique, pure, Except.pure]

theorem provider_reordered (reordered : Reordered snapshot other) (built : inMemoryProvider platform snapshot = .ok provider) :
    ∃ again, inMemoryProvider platform other = .ok again ∧ provider.records.Perm again.records ∧
      ∀ record score operation, result provider record score operation = result again record score operation := by
  obtain ⟨named, gathered⟩ := inMemoryProvider_ok built
  have distinct := paths_nodup (gatheredRecords_ok gathered) provider.facts.2
  obtain ⟨others, gatheredOther, perm⟩ := gatheredRecords_perm reordered distinct gathered
  have unique := (perm.map SnapshotRecord.id).nodup_iff.mp provider.facts.2
  refine ⟨_, inMemoryProvider_of_gathered gatheredOther unique, perm, fun record score operation => ?_⟩
  simp only [result, named, reordered.repositoryRevision, reordered.snapshotVersion, reordered.createdAt,
    reordered.scannerVersion]

end Snapshots

section Lookup

variable {platform : Platform} {snapshot : RepositoryKnowledgeSnapshot} {provider : Provider}
  {keeps : SnapshotRecord → Bool} {score : SnapshotRecord → Nat} {operation : String}

structure Labelled (snapshot : RepositoryKnowledgeSnapshot) : Prop where
  repositoryRevision : snapshot.repositoryRevision ≠ ""
  snapshotVersion : snapshot.snapshotVersion ≠ ""
  createdAt : snapshot.createdAt ≠ ""
  scannerVersion : snapshot.scannerVersion ≠ ""

theorem result_ok {record : SnapshotRecord} {points : Nat} {found : KnowledgeResult}
    (made : result provider record points operation = .ok found) :
    Labelled provider.snapshot ∧ found.id = record.id ∧ found.provenance.source = record.path := by
  simp only [result, Result.bind_eq_ok, Result.raiseIf_eq_ok, Result.pure_eq_ok] at made
  obtain ⟨_, revision, _, version, _, created, _, scanner, rfl⟩ := made
  exact ⟨⟨revision, version, created, scanner⟩, rfl, rfl⟩

theorem result_of_labelled (labelled : Labelled provider.snapshot) (record : SnapshotRecord) (points : Nat) :
    ∃ found, result provider record points operation = .ok found := by
  simp [result, Result.raiseIf_neg, labelled.repositoryRevision, labelled.snapshotVersion, labelled.createdAt,
    labelled.scannerVersion]

theorem mem_select {limit : Option Nat} {results : List KnowledgeResult} {found : KnowledgeResult}
    (selected : select platform provider keeps score operation limit = .ok results) (member : found ∈ results) :
    ∃ record ∈ provider.records, keeps record = true ∧ result provider record (score record) operation = .ok found := by
  obtain ⟨item, listed, made⟩ := Result.mem_of_mapM selected member
  have sorted : item ∈ (provider.records.filter keeps).map fun record => (record, score record) := by
    unfold ordered at listed
    cases limit with
    | none => exact (List.mem_insertionSort _).mp listed
    | some count => exact (List.mem_insertionSort _).mp (List.mem_of_mem_take listed)
  obtain ⟨record, kept, rfl⟩ := List.mem_map.mp sorted
  obtain ⟨present, held⟩ := List.mem_filter.mp kept
  exact ⟨record, present, held, made⟩

theorem select_singleton {record : SnapshotRecord} (only : provider.records.filter keeps = [record]) :
    select platform provider keeps score operation none = (do return [← result provider record (score record) operation]) := by
  unfold select ordered
  rw [only]
  rfl

end Lookup

section Retrieval

variable {platform : Platform} {snapshot : RepositoryKnowledgeSnapshot} {provider : Provider}

def Found (platform : Platform) (provider : Provider) (file : RepositoryFile) : Prop :=
  ∃ query found, FileQuery.of file.path = .ok query ∧ lookupFile platform provider query = .ok [found] ∧
    found.id = "file:" ++ file.path ∧ found.provenance.source = file.path

structure SameAnswers (platform : Platform) (provider other : Provider) : Prop where
  documentation : ∀ query, lookupDocumentation platform provider query = lookupDocumentation platform other query
  manifests : ∀ query, lookupDependencyManifests platform provider query = lookupDependencyManifests platform other query
  hints : ∀ query, lookupTestHints platform provider query = lookupTestHints platform other query
  candidates : ∀ query, searchCandidateFiles platform provider query = searchCandidateFiles platform other query

/-- A limited search gives the first results of the unlimited one. -/
structure Limited (platform : Platform) (provider : Provider) : Prop where
  documentation : ∀ (query : DocumentationQuery) results count,
    lookupDocumentation platform provider { query with limit := none } = .ok results →
      lookupDocumentation platform provider { query with limit := some count } = .ok (results.take count)
  candidates : ∀ (query : CandidateFileQuery) results count,
    searchCandidateFiles platform provider { query with limit := none } = .ok results →
      searchCandidateFiles platform provider { query with limit := some count } = .ok (results.take count)

/-- Every file is retrieved at its own path, and the searches depend on nothing but the facts. -/
structure Retrievable (platform : Platform) (snapshot : RepositoryKnowledgeSnapshot) (provider : Provider) : Prop where
  found : ∀ file ∈ snapshot.files, Found platform provider file
  distinct : ∀ first ∈ snapshot.files, ∀ second ∈ snapshot.files, ∀ path, normalizePath false first.path = .ok path →
    normalizePath false second.path = .ok path → first = second
  orderless : ∀ other, Reordered snapshot other → ∃ again, inMemoryProvider platform other = .ok again ∧
    SameAnswers platform provider again
  limited : Limited platform provider

theorem record_of_file (built : inMemoryProvider platform snapshot = .ok provider) {file : RepositoryFile}
    (member : file ∈ snapshot.files) : ∃ record ∈ provider.records, fileRecord platform file = .ok record := by
  obtain ⟨-, gathered⟩ := inMemoryProvider_ok built
  obtain ⟨files, rest, together, made, -⟩ := (gatheredRecords_ok gathered).parts
  obtain ⟨record, present, here⟩ := Result.exists_right_of_mem (Result.forall₂_of_mapM made) member
  exact ⟨record, by rw [together]; exact List.mem_append_left _ present, here⟩

theorem file_of_record (built : inMemoryProvider platform snapshot = .ok provider) {record : SnapshotRecord}
    (member : record ∈ provider.records) (kind : record.kind = .file) :
    ∃ file ∈ snapshot.files, fileRecord platform file = .ok record := by
  obtain ⟨-, gathered⟩ := inMemoryProvider_ok built
  obtain ⟨files, rest, together, made, others⟩ := (gatheredRecords_ok gathered).parts
  rw [together] at member
  rcases List.mem_append.mp member with present | other
  · exact Result.mem_of_mapM made present
  · exact absurd kind (others record other)

theorem found_plain (built : inMemoryProvider platform snapshot = .ok provider) {file : RepositoryFile}
    (found : Found platform provider file) : Plain file.path ∧ Labelled snapshot := by
  obtain ⟨query, found, asked, answered, -, source⟩ := found
  obtain ⟨named, -⟩ := inMemoryProvider_ok built
  obtain ⟨record, present, kept, made⟩ := mem_select answered List.mem_cons_self
  obtain ⟨labelled, -, located⟩ := result_ok made
  simp only [FileQuery.of, Result.bind_eq_ok, Result.pure_eq_ok] at asked
  obtain ⟨path, normalized, rfl⟩ := asked
  simp only [Bool.and_eq_true, decide_eq_true_eq] at kept
  rw [named] at labelled
  refine ⟨(normalizePath_eq_self normalized).mp ?_, labelled⟩
  rw [← source, located, kept.2]

theorem plain_found (built : inMemoryProvider platform snapshot = .ok provider) (labelled : Labelled snapshot)
    (plain : ∀ file ∈ snapshot.files, Plain file.path) {file : RepositoryFile} (member : file ∈ snapshot.files) :
    Found platform provider file := by
  obtain ⟨named, -⟩ := inMemoryProvider_ok built
  obtain ⟨record, present, made⟩ := record_of_file built member
  obtain ⟨normalized, id, kind⟩ := fileRecord_ok made
  have path := normalizePath_plain (plain file member) normalized
  have only : provider.records.filter (fun record => record.kind = .file && record.path = file.path) = [record] := by
    have nodup : (provider.records.filter fun record => record.kind = .file && record.path = file.path).Nodup :=
      (provider.facts.2.of_map _).filter _
    refine List.perm_singleton.mp ((List.perm_ext_iff_of_nodup nodup (List.nodup_singleton _)).mpr fun other => ?_)
    rw [List.mem_singleton, List.mem_filter]
    constructor
    · rintro ⟨inRecords, kept⟩
      simp only [Bool.and_eq_true, decide_eq_true_eq] at kept
      obtain ⟨second, listed, again⟩ := file_of_record built inRecords kept.1
      obtain ⟨normalizedOther, idOther, -⟩ := fileRecord_ok again
      have same := normalizePath_plain (plain second listed) normalizedOther
      refine List.inj_on_of_nodup_map provider.facts.2 inRecords present ?_
      rw [idOther, id, ← same, kept.2]
    · rintro rfl
      exact ⟨present, by simp [kind, path]⟩
  rw [← named] at labelled
  obtain ⟨found, answered⟩ := result_of_labelled labelled record 0
  obtain ⟨-, sameId, source⟩ := result_ok answered
  refine ⟨⟨file.path⟩, found, ?_, ?_, sameId.trans id, source.trans path⟩
  · rw [FileQuery.of, normalized, path]
    rfl
  · unfold lookupFile
    rw [select_singleton only, answered]
    rfl

theorem plain_distinct (built : inMemoryProvider platform snapshot = .ok provider)
    (plain : ∀ file ∈ snapshot.files, Plain file.path) {first second : RepositoryFile} (one : first ∈ snapshot.files)
    (two : second ∈ snapshot.files) {path : String} (normalized : normalizePath false first.path = .ok path)
    (normalizedOther : normalizePath false second.path = .ok path) : first = second := by
  obtain ⟨-, gathered⟩ := inMemoryProvider_ok built
  have nodup := paths_nodup (gatheredRecords_ok gathered) provider.facts.2
  refine List.inj_on_of_nodup_map nodup one two ?_
  rw [← normalizePath_plain (plain first one) normalized, ← normalizePath_plain (plain second two) normalizedOther]

theorem sameAnswers {other : Provider} (same : provider.records.Perm other.records)
    (labels : ∀ record score operation, result provider record score operation = result other record score operation) :
    SameAnswers platform provider other where
  documentation query := select_perm labels same query.limit
  manifests _ := select_perm labels same none
  hints _ := select_perm labels same none
  candidates query := select_perm labels same query.limit

theorem limited : Limited platform provider where
  documentation _ _ count unlimited := select_limit unlimited count
  candidates _ _ count unlimited := select_limit unlimited count

/-- Every file can be retrieved exactly where normalisation leaves the paths as they are. -/
theorem provider_retrievable (built : inMemoryProvider platform snapshot = .ok provider) :
    Retrievable platform snapshot provider ↔ ∀ file ∈ snapshot.files, Plain file.path ∧ Labelled snapshot := by
  constructor
  · intro retrievable file member
    exact found_plain built (retrievable.found file member)
  · intro each
    have plain : ∀ file ∈ snapshot.files, Plain file.path := fun file member => (each file member).1
    refine ⟨fun file member => plain_found built (each file member).2 plain member, ?_, ?_, limited⟩
    · intro first one second two path normalized normalizedOther
      exact plain_distinct built plain one two normalized normalizedOther
    · intro other reordered
      obtain ⟨again, rebuilt, same, labels⟩ := provider_reordered reordered built
      exact ⟨again, rebuilt, sameAnswers same labels⟩

def samplePlatform : Platform := ⟨String.toLower⟩

def sampleFile (path : String) : RepositoryFile := { path, language := some "Python", isDocumentation := false }

def sampleSnapshot (paths : List String) : RepositoryKnowledgeSnapshot where
  snapshotVersion := "sha256:1"
  repositoryRevision := "r1"
  createdAt := "2026-01-01T00:00:00Z"
  scannerVersion := "1.0.0"
  files := paths.map sampleFile
  documentation := []
  dependencyManifests := []
  testCommandHints := [⟨"pytest", "src/a.py"⟩]

def sampleRecord (path location : String) : SnapshotRecord where
  id := "file:" ++ path
  kind := .file
  path := location
  attributes := [("language", .str "Python"), ("is_documentation", .bool false), ("is_test", .bool false)]

def sampleHint (language : Json) : SnapshotRecord where
  id := "test-hint:src/a.py:pytest"
  kind := .testHint
  path := "src/a.py"
  attributes := [("command", .str "pytest"), ("language", language)]

theorem provider_retrievable_sample :
    Retrievable samplePlatform (sampleSnapshot ["src/a.py", "README.md"])
      ⟨sampleSnapshot ["src/a.py", "README.md"],
        [sampleRecord "src/a.py" "src/a.py", sampleRecord "README.md" "README.md", sampleHint (.str "Python")], by decide⟩ := by
  refine (provider_retrievable (inMemoryProvider_of_gathered (by decide +kernel) _)).mpr fun file member => ?_
  have labelled : Labelled (sampleSnapshot ["src/a.py", "README.md"]) := ⟨by decide, by decide, by decide, by decide⟩
  rcases List.mem_pair.mp member with rfl | rfl
  · exact ⟨⟨Text.trimmed_of_ends (by decide) (by decide), by decide, by decide⟩, labelled⟩
  · exact ⟨⟨Text.trimmed_of_ends (by decide) (by decide), by decide, by decide⟩, labelled⟩

/-- A path that begins with a space is looked up, and located, as the one that does not. -/
theorem provider_spaced :
    inMemoryProvider samplePlatform (sampleSnapshot ["a.py", " a.py"]) =
        .ok ⟨sampleSnapshot ["a.py", " a.py"],
          [sampleRecord "a.py" "a.py", sampleRecord " a.py" "a.py", sampleHint .null], by decide⟩ ∧
      ¬Retrievable samplePlatform (sampleSnapshot ["a.py", " a.py"])
        ⟨sampleSnapshot ["a.py", " a.py"],
          [sampleRecord "a.py" "a.py", sampleRecord " a.py" "a.py", sampleHint .null], by decide⟩ := by
  refine ⟨inMemoryProvider_of_gathered (by decide +kernel) _, fun retrievable => ?_⟩
  have same := retrievable.distinct (sampleFile "a.py") (by decide) (sampleFile " a.py") (by decide) "a.py" (by decide)
    (by decide)
  exact absurd same (by decide)

end Retrieval

end Aep.RepositoryKnowledge
