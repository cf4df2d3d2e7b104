import Aep.Library.Result
import Aep.RepositoryKnowledge.Paths
import Mathlib.Data.List.Sort
import Mathlib.Data.Prod.Lex
import Mathlib.Data.String.Basic

namespace Aep.RepositoryKnowledge

open RuntimeStore

structure Platform where
  casefold : String → String

structure RepositoryFile where
  path : String
  language : Option String
  isDocumentation : Bool
  deriving DecidableEq

structure DependencyManifest where
  path : String
  ecosystem : String
  manifestType : String
  deriving DecidableEq

structure TestCommandHint where
  command : String
  sourcePath : String
  deriving DecidableEq

structure RepositoryKnowledgeSnapshot where
  snapshotVersion : String
  repositoryRevision : String
  createdAt : String
  scannerVersion : String
  files : List RepositoryFile
  documentation : List RepositoryFile
  dependencyManifests : List DependencyManifest
  testCommandHints : List TestCommandHint
  deriving DecidableEq

inductive KnowledgeKind where
  | file
  | documentation
  | dependencyManifest
  | testHint
  deriving DecidableEq

structure SnapshotRecord where
  id : String
  kind : KnowledgeKind
  path : String
  attributes : Record
  keywords : List String := []
  deriving DecidableEq

structure QueryProvenance where
  repositoryRevision : String
  snapshotVersion : String
  snapshotCreatedAt : String
  snapshotProducer : String
  source : String
  traversalPath : List String
  deriving DecidableEq

structure KnowledgeResult where
  id : String
  kind : KnowledgeKind
  score : Nat
  attributes : Record
  provenance : QueryProvenance
  deriving DecidableEq

section Records

variable (platform : Platform)

def stemOf (name : Text) : Text :=
  let index := name.length - (name.reverse.takeWhile (· ≠ '.')).length - 1
  if '.' ∈ name ∧ 0 < index ∧ index + 1 < name.length then name.take index else name

def isTestFile (path : String) : Bool :=
  let parts := partsOf path.toList
  let directories := parts.dropLast.map fun part => platform.casefold (String.ofList part)
  let stem := platform.casefold (String.ofList (stemOf (parts.getLast?.getD [])))
  (directories.any fun part => ["test", "tests", "spec", "specs"].contains part) ||
    "test_".toList.isPrefixOf stem.toList || "_test".toList.isSuffixOf stem.toList

def optional : Option String → Json
  | some text => .str text
  | none => .null

def fileRecord (file : RepositoryFile) : Except PyError SnapshotRecord := do
  let path ← normalizePath false file.path
  return {
    id := "file:" ++ file.path, kind := .file, path
    attributes := [("language", optional file.language), ("is_documentation", .bool file.isDocumentation),
      ("is_test", .bool (isTestFile platform file.path))] }

def documentationRecord (document : RepositoryFile) : Except PyError SnapshotRecord := do
  let path ← normalizePath false document.path
  return {
    id := "documentation:" ++ document.path, kind := .documentation, path
    attributes := [("language", optional document.language)] }

def manifestRecord (manifest : DependencyManifest) : Except PyError SnapshotRecord := do
  let path ← normalizePath false manifest.path
  return {
    id := "dependency-manifest:" ++ manifest.path, kind := .dependencyManifest, path
    attributes := [("ecosystem", .str manifest.ecosystem), ("manifest_type", .str manifest.manifestType)] }

def languageByPath (files : List RepositoryFile) : Dict String (Option String) :=
  files.foldl (fun found file => found.set file.path file.language) []

def hintRecord (languages : Dict String (Option String)) (hint : TestCommandHint) : Except PyError SnapshotRecord := do
  let path ← normalizePath false hint.sourcePath
  return {
    id := "test-hint:" ++ hint.sourcePath ++ ":" ++ hint.command, kind := .testHint, path
    attributes := [("command", .str hint.command),
      ("language", optional ((languages.get? hint.sourcePath).getD none))] }

def gatheredRecords (snapshot : RepositoryKnowledgeSnapshot) : Except PyError (List SnapshotRecord) := do
  let files ← snapshot.files.mapM (fileRecord platform)
  let documents ← snapshot.documentation.mapM documentationRecord
  let manifests ← snapshot.dependencyManifests.mapM manifestRecord
  let hints ← snapshot.testCommandHints.mapM (hintRecord (languageByPath snapshot.files))
  return files ++ documents ++ manifests ++ hints

abbrev Facts : Type := { records : List SnapshotRecord // (records.map SnapshotRecord.id).Nodup }

def snapshotRecords (snapshot : RepositoryKnowledgeSnapshot) : Except PyError Facts := do
  let records ← gatheredRecords platform snapshot
  if unique : (records.map SnapshotRecord.id).Nodup then return ⟨records, unique⟩
  else .error (valueError "snapshot facts must have unique stable identifiers")

structure Provider where
  snapshot : RepositoryKnowledgeSnapshot
  facts : Facts

def Provider.records (provider : Provider) : List SnapshotRecord := provider.facts.1

def inMemoryProvider (snapshot : RepositoryKnowledgeSnapshot) : Except PyError Provider := do
  return ⟨snapshot, ← snapshotRecords platform snapshot⟩

end Records

section Queries

variable (platform : Platform)

def normalizeTerms (values : List String) (fieldName : String) : Except PyError (List String) := do
  let stripped := (values.map fun value => String.ofList (Text.strip value.toList)).filter fun value => value ≠ ""
  let terms := (stripped.map platform.casefold).eraseDups
  Result.raiseIf (terms.length ≠ values.length)
    (valueError (fieldName ++ " must contain unique, non-empty values"))
  return terms

def validateLimit (limit : Option Int) : Except PyError (Option Nat) := do
  Result.raiseIf (∃ number ∈ limit, number < 1) (valueError "limit must be a positive integer")
  return limit.map Int.toNat

structure FileQuery where
  path : String

def FileQuery.of (path : String) : Except PyError FileQuery := do return ⟨← normalizePath false path⟩

structure DocumentationQuery where
  terms : List String
  pathPrefix : String
  limit : Option Nat

def DocumentationQuery.of (terms : List String) (pathPrefix : String) (limit : Option Int) :
    Except PyError DocumentationQuery := do
  return ⟨← normalizeTerms platform terms "terms", ← normalizePath true pathPrefix, ← validateLimit limit⟩

structure DependencyManifestQuery where
  ecosystems : List String
  pathPrefix : String

def DependencyManifestQuery.of (ecosystems : List String) (pathPrefix : String) :
    Except PyError DependencyManifestQuery := do
  return ⟨← normalizeTerms platform ecosystems "ecosystems", ← normalizePath true pathPrefix⟩

structure TestHintQuery where
  languages : List String
  pathPrefix : String

def TestHintQuery.of (languages : List String) (pathPrefix : String) : Except PyError TestHintQuery := do
  return ⟨← normalizeTerms platform languages "languages", ← normalizePath true pathPrefix⟩

structure CandidateFileQuery where
  terms : List String
  languages : List String
  pathPrefix : String
  includeTests : Bool
  limit : Option Nat

def CandidateFileQuery.of (terms languages : List String) (pathPrefix : String) (includeTests : Bool)
    (limit : Option Int) : Except PyError CandidateFileQuery := do
  let terms ← normalizeTerms platform terms "terms"
  let languages ← normalizeTerms platform languages "languages"
  return ⟨terms, languages, ← normalizePath true pathPrefix, includeTests, ← validateLimit limit⟩

end Queries

section Searches

variable (platform : Platform) (provider : Provider)

def hasPrefix (path pathPrefix : String) : Bool :=
  pathPrefix = "" || path = pathPrefix || (pathPrefix ++ "/").toList.isPrefixOf path.toList

mutual

/-- The texts of a value: the keys of a mapping, in their order, each before its own value. -/
def attributeValues : Json → List String
  | .null => []
  | .arr items => attributeItems items
  | .obj fields =>
    ((attributeFields fields).insertionSort fun first second => first.1 ≤ second.1).flatMap fun entry => entry.1 :: entry.2
  | value => [value.text]

def attributeItems : List Json → List String
  | [] => []
  | item :: rest => attributeValues item ++ attributeItems rest

def attributeFields : List (String × Json) → List (String × List String)
  | [] => []
  | (key, value) :: rest => (key, attributeValues value) :: attributeFields rest

end

def searchText (record : SnapshotRecord) : String :=
  platform.casefold ("\n".intercalate (record.path :: record.keywords ++ attributeValues (.obj record.attributes)))

def termScore (record : SnapshotRecord) (terms : List String) : Nat :=
  let path := platform.casefold record.path
  let text := searchText platform record
  ((terms.filter fun term => Text.contains term.toList text.toList).map fun term =>
    if Text.contains term.toList path.toList then 3 else 1).sum

def attributeMatches (record : SnapshotRecord) (name : String) (values : List String) : Bool :=
  let value := record.attributes.field name
  let candidates := (value.asItems?.getD [value]).filter fun candidate => candidate ≠ .null
  values.isEmpty || candidates.any fun candidate => values.contains (platform.casefold candidate.text)

def result (record : SnapshotRecord) (score : Nat) (operation : String) : Except PyError KnowledgeResult := do
  let snapshot := provider.snapshot
  Result.raiseIf (snapshot.repositoryRevision = "") (valueError "repository_revision must not be empty")
  Result.raiseIf (snapshot.snapshotVersion = "") (valueError "snapshot_version must not be empty")
  Result.raiseIf (snapshot.createdAt = "") (valueError "snapshot_created_at must not be empty")
  Result.raiseIf (snapshot.scannerVersion = "") (valueError "snapshot_producer must not be empty")
  return {
    id := record.id, kind := record.kind, score, attributes := record.attributes
    provenance := {
      repositoryRevision := snapshot.repositoryRevision, snapshotVersion := snapshot.snapshotVersion
      snapshotCreatedAt := snapshot.createdAt, snapshotProducer := snapshot.scannerVersion, source := record.path
      traversalPath := ["snapshot:" ++ snapshot.snapshotVersion, operation ++ ":" ++ record.id] } }

def rankOf (item : SnapshotRecord × Nat) : Int ×ₗ String ×ₗ String ×ₗ String :=
  toLex (-item.2, toLex (platform.casefold item.1.path, toLex (item.1.path, item.1.id)))

def ordered (records : List (SnapshotRecord × Nat)) (limit : Option Nat) : List (SnapshotRecord × Nat) :=
  let sorted := records.insertionSort fun first second => rankOf platform first ≤ rankOf platform second
  match limit with
  | none => sorted
  | some count => sorted.take count

def select (keeps : SnapshotRecord → Bool) (score : SnapshotRecord → Nat) (operation : String) (limit : Option Nat) :
    Except PyError (List KnowledgeResult) :=
  (ordered platform ((provider.records.filter keeps).map fun record => (record, score record)) limit).mapM
    fun item => result provider item.1 item.2 operation

def lookupFile (query : FileQuery) : Except PyError (List KnowledgeResult) :=
  select platform provider (fun record => record.kind = .file && record.path = query.path) (fun _ => 0) "file" none

def lookupDocumentation (query : DocumentationQuery) : Except PyError (List KnowledgeResult) :=
  select platform provider
    (fun record => record.kind = .documentation && hasPrefix record.path query.pathPrefix &&
      !(!query.terms.isEmpty && termScore platform record query.terms = 0))
    (fun record => termScore platform record query.terms) "documentation" query.limit

def lookupDependencyManifests (query : DependencyManifestQuery) : Except PyError (List KnowledgeResult) :=
  select platform provider
    (fun record => record.kind = .dependencyManifest && hasPrefix record.path query.pathPrefix &&
      attributeMatches platform record "ecosystem" query.ecosystems)
    (fun _ => 0) "dependency-manifest" none

def lookupTestHints (query : TestHintQuery) : Except PyError (List KnowledgeResult) :=
  select platform provider
    (fun record => record.kind = .testHint && hasPrefix record.path query.pathPrefix &&
      attributeMatches platform record "language" query.languages)
    (fun _ => 0) "test-hint" none

def searchCandidateFiles (query : CandidateFileQuery) : Except PyError (List KnowledgeResult) :=
  select platform provider
    (fun record => record.kind = .file && hasPrefix record.path query.pathPrefix &&
      !(!query.includeTests && (record.attributes.field "is_test").truthy) &&
      attributeMatches platform record "language" query.languages &&
      !(!query.terms.isEmpty && termScore platform record query.terms = 0))
    (fun record => termScore platform record query.terms) "candidate-file" query.limit

end Searches

end Aep.RepositoryKnowledge
