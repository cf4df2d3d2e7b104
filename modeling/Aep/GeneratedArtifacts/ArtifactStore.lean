import Aep.Library.Program
import Aep.RuntimeStore.InMemory
import Aep.WorkflowScheduler.TaskExecution

namespace Aep.GeneratedArtifacts

open StateAction

abbrev Bytes := List UInt8

/-- What the store of artifacts leaves to the hash, to the JSON writer and to the JSON Schema validator. -/
structure Platform extends WorkflowScheduler.Platform where
  /-- The SHA-256 digest as hexadecimal text. -/
  hexdigest : Bytes → String
  /-- The compact JSON text of a value, its keys in order. -/
  canonicalText : Json → String

def contentIntegrity (message : String) : PyError := { errorClass := .contentIntegrityError, message }

def addressPrefix : String := "sha256:"

abbrev Path := List Char × List Char

/-- The contents of one of the two content stores. -/
inductive ContentStore where
  | inMemory (content : Dict String Bytes)
  | filesystem (files : Dict Path Bytes)

def removePrefix (address : String) : List Char :=
  if addressPrefix.toList.isPrefixOf address.toList then address.toList.drop addressPrefix.length else address.toList

def hexDigits : List Char := "0123456789abcdef".toList

def IsDigest (digest : List Char) : Prop := digest.length = 64 ∧ ∀ digit ∈ digest, digit ∈ hexDigits

instance (digest : List Char) : Decidable (IsDigest digest) :=
  @instDecidableAnd _ _ inferInstance (List.decidableBAll (· ∈ hexDigits) digest)

def isContentAddress (address : String) : Prop :=
  addressPrefix.toList.isPrefixOf address.toList ∧ IsDigest (address.toList.drop addressPrefix.length)

instance (address : String) : Decidable (isContentAddress address) := inferInstanceAs (Decidable (_ ∧ _))

def target (digest : List Char) : Path := (digest.take 2, digest.drop 2)

def temporaryOf (path : Path) : Path := (path.1, path.2 ++ ".tmp".toList)

section Operations

variable (platform : Platform)

def contentAddress (content : Bytes) : String := addressPrefix ++ platform.hexdigest content

def checkAddress (content : Bytes) (expectedAddress : Option String) : Except PyError Unit :=
  Result.raiseIf (∃ expected ∈ expectedAddress, expected ≠ contentAddress platform content) (contentIntegrity
    ("content digest " ++ (Json.str (contentAddress platform content)).repr ++ " does not match expected address " ++
      (Json.str (expectedAddress.getD "")).repr))

def putInMemory (content : Bytes) (expectedAddress : Option String) : StateAction (Dict String Bytes) PyError String := do
  liftExcept (checkAddress platform content expectedAddress)
  modify (·.setDefault (contentAddress platform content) content)
  return contentAddress platform content

def getInMemory (address : String) (stored : Dict String Bytes) : Except PyError (Option Bytes) :=
  match stored.get? address with
  | none => .ok none
  | some content =>
    if contentAddress platform content = address then .ok (some content)
    else .error (contentIntegrity ("stored content digest " ++ (Json.str (contentAddress platform content)).repr ++
      " does not match address " ++ (Json.str address).repr))

def replaceFile (path : Path) (content : Bytes) (files : Dict Path Bytes) : Dict Path Bytes :=
  ((files.set (temporaryOf path) content).erase (temporaryOf path)).set path content

def putInFiles (content : Bytes) (expectedAddress : Option String) : StateAction (Dict Path Bytes) PyError String := do
  liftExcept (checkAddress platform content expectedAddress)
  let path := target (removePrefix (contentAddress platform content))
  match (← read).get? path with
  | some existing => do
    raiseIf (existing ≠ content) (contentIntegrity
      ("stored content at " ++ (Json.str (contentAddress platform content)).repr ++ " does not match its digest"))
    return contentAddress platform content
  | none => do
    modify (replaceFile path content)
    return contentAddress platform content

def getFromFiles (address : String) (files : Dict Path Bytes) : Except PyError (Option Bytes) := do
  Result.raiseIf (¬ isContentAddress address) (contentIntegrity "content address must be a lowercase SHA-256 address")
  match files.get? (target (removePrefix address)) with
  | none => .ok none
  | some content =>
    if contentAddress platform content = address then .ok (some content)
    else .error (contentIntegrity ("stored content does not match address " ++ (Json.str address).repr))

namespace ContentStore

def put (content : Bytes) (expectedAddress : Option String) : StateAction ContentStore PyError String
  | .inMemory stored => Prod.map id .inMemory (putInMemory platform content expectedAddress stored)
  | .filesystem files => Prod.map id .filesystem (putInFiles platform content expectedAddress files)

def get (address : String) : ContentStore → Except PyError (Option Bytes)
  | .inMemory stored => getInMemory platform address stored
  | .filesystem files => getFromFiles platform address files

end ContentStore

def CollisionFree (known : Bytes → Prop) : Prop :=
  ∀ content other, known content → known other → platform.hexdigest content = platform.hexdigest other → content = other

def Hexadecimal : Prop := ∀ content, IsDigest (platform.hexdigest content).toList

end Operations

section Addresses

variable {platform : Platform}

theorem removePrefix_contentAddress (content : Bytes) :
    removePrefix (contentAddress platform content) = (platform.hexdigest content).toList := by
  have prefixed : (contentAddress platform content).toList = addressPrefix.toList ++ (platform.hexdigest content).toList :=
    String.toList_append
  unfold removePrefix
  rw [prefixed, if_pos (List.isPrefixOf_iff_prefix.mpr (List.prefix_append _ _)), ← String.length_toList,
    List.drop_left]

theorem isContentAddress_contentAddress (hex : Hexadecimal platform) (content : Bytes) :
    isContentAddress (contentAddress platform content) := by
  have prefixed : (contentAddress platform content).toList = addressPrefix.toList ++ (platform.hexdigest content).toList :=
    String.toList_append
  refine ⟨?_, ?_⟩
  · rw [prefixed]
    exact List.isPrefixOf_iff_prefix.mpr (List.prefix_append _ _)
  · rw [prefixed, ← String.length_toList, List.drop_left]
    exact hex content

theorem contentAddress_inj {content other : Bytes} :
    contentAddress platform content = contentAddress platform other ↔
      platform.hexdigest content = platform.hexdigest other :=
  String.append_right_inj addressPrefix

theorem target_injective {digest other : List Char} (same : target digest = target other) : digest = other := by
  have first : digest.take 2 = other.take 2 := congrArg Prod.fst same
  have rest : digest.drop 2 = other.drop 2 := congrArg Prod.snd same
  rw [← List.take_append_drop 2 digest, first, rest, List.take_append_drop]

theorem target_ne_temporary {digest other : List Char} (isDigest : IsDigest digest) (otherIs : IsDigest other) :
    target other ≠ temporaryOf (target digest) := by
  intro same
  have names : (other.drop 2).length = (digest.drop 2 ++ ".tmp".toList).length :=
    congrArg (fun path : Path => path.2.length) same
  simp only [List.length_append, List.length_drop, isDigest.1, otherIs.1] at names
  exact absurd names (by decide)

theorem get?_replaceFile (digest other : List Char) (isDigest : IsDigest digest) (otherIs : IsDigest other)
    (content : Bytes) (files : Dict Path Bytes) :
    (replaceFile (target digest) content files).get? (target other) =
      if digest = other then some content else files.get? (target other) := by
  unfold replaceFile
  by_cases same : digest = other
  · subst same
    rw [Dict.get?_set_self, if_pos rfl]
  · have apart : target digest ≠ target other := fun equal => same (target_injective equal)
    rw [Dict.get?_set_ne _ _ apart, Dict.get?_erase_ne _ (target_ne_temporary isDigest otherIs).symm,
      Dict.get?_set_ne _ _ (target_ne_temporary isDigest otherIs).symm, if_neg same]

end Addresses

namespace ContentStore

variable (platform : Platform)

def lookup (content : Bytes) : ContentStore → Option Bytes
  | .inMemory stored => stored.get? (contentAddress platform content)
  | .filesystem files => files.get? (target (platform.hexdigest content).toList)

def Sound (known : Bytes → Prop) : ContentStore → Prop
  | .inMemory stored => ∀ address content, stored.get? address = some content →
      known content ∧ address = contentAddress platform content
  | .filesystem files => ∀ digest content, IsDigest digest → files.get? (target digest) = some content →
      known content ∧ digest = (platform.hexdigest content).toList

def Stores (store : ContentStore) (content : Bytes) : Prop :=
  store.get platform (contentAddress platform content) = .ok (some content)

variable {platform} {known : Bytes → Prop} {store : ContentStore} {content : Bytes}

theorem stores_iff (hex : Hexadecimal platform) : store.Stores platform content ↔ store.lookup platform content = some content := by
  cases store with
  | inMemory stored =>
    simp only [Stores, get, lookup, getInMemory]
    cases found : stored.get? (contentAddress platform content) with
    | none => simp
    | some other =>
      by_cases same : other = content
      · simp [same]
      · by_cases address : contentAddress platform other = contentAddress platform content <;> simp [same, address]
  | filesystem files =>
    simp only [Stores, get, lookup, getFromFiles, removePrefix_contentAddress, Result.raiseIf,
      isContentAddress_contentAddress hex content, not_true_eq_false, if_false]
    cases found : files.get? (target (platform.hexdigest content).toList) with
    | none => simp
    | some other =>
      by_cases same : other = content
      · simp [same]
      · by_cases address : contentAddress platform other = contentAddress platform content <;> simp [same, address]

variable (platform) in
/-- The content lies where it belongs, unless another one already did, and nothing else has changed. -/
structure Holding (before : ContentStore) (content : Bytes) (after : ContentStore) : Prop where
  there : after.lookup platform content = some ((before.lookup platform content).getD content)
  others : ∀ other, platform.hexdigest other ≠ platform.hexdigest content →
    after.lookup platform other = before.lookup platform other
  sound : ∀ known, known content → before.Sound platform known → after.Sound platform known

variable (platform) in
theorem putInMemory_cases (content : Bytes) (expectedAddress : Option String) (stored : Dict String Bytes) :
    (∃ error, putInMemory platform content expectedAddress stored = (.error error, stored)) ∨
      putInMemory platform content expectedAddress stored = (.ok (contentAddress platform content),
        stored.setDefault (contentAddress platform content) content) := by
  cases checked : checkAddress platform content expectedAddress with
  | error error => exact .inl ⟨error, by simp only [putInMemory, checked]; rfl⟩
  | ok _ => exact .inr (by simp only [putInMemory, checked]; rfl)

variable (platform) in
theorem putInFiles_cases (content : Bytes) (expectedAddress : Option String) (files : Dict Path Bytes) :
    (∃ error, putInFiles platform content expectedAddress files = (.error error, files)) ∨
      (files.get? (target (platform.hexdigest content).toList) = some content ∧
        putInFiles platform content expectedAddress files = (.ok (contentAddress platform content), files)) ∨
      (files.get? (target (platform.hexdigest content).toList) = none ∧
        putInFiles platform content expectedAddress files = (.ok (contentAddress platform content),
          replaceFile (target (platform.hexdigest content).toList) content files)) := by
  cases checked : checkAddress platform content expectedAddress with
  | error error => exact .inl ⟨error, by simp only [putInFiles, checked]; rfl⟩
  | ok _ =>
    have ran : putInFiles platform content expectedAddress files = (do
        match files.get? (target (removePrefix (contentAddress platform content))) with
        | some existing => do
          raiseIf (existing ≠ content) (contentIntegrity
            ("stored content at " ++ (Json.str (contentAddress platform content)).repr ++ " does not match its digest"))
          return contentAddress platform content
        | none => do
          modify (replaceFile (target (removePrefix (contentAddress platform content))) content)
          return contentAddress platform content : StateAction (Dict Path Bytes) PyError String) files := by
      simp only [putInFiles, checked]
      rfl
    rw [ran, removePrefix_contentAddress]
    cases found : files.get? (target (platform.hexdigest content).toList) with
    | none => exact .inr (.inr ⟨rfl, rfl⟩)
    | some existing =>
      by_cases same : existing = content
      · subst same
        exact .inr (.inl ⟨rfl, by simp only [raiseIf, ne_eq, not_true_eq_false, if_false]; rfl⟩)
      · exact .inl ⟨_, by simp only [raiseIf, ne_eq, same, not_false_eq_true, if_true]; rfl⟩

theorem holding_inMemory (content : Bytes) (stored : Dict String Bytes) :
    Holding platform (.inMemory stored) content (.inMemory (stored.setDefault (contentAddress platform content) content))
    where
  there := by
    simp only [lookup, Dict.get?_setDefault, if_true]
  others other apart := by
    have address : contentAddress platform content ≠ contentAddress platform other :=
      fun same => apart (contentAddress_inj.mp same).symm
    simp [lookup, Dict.get?_setDefault, address]
  sound known mine sound := by
    intro address other found
    rw [Dict.get?_setDefault] at found
    split at found
    · rename_i here
      subst here
      cases old : stored.get? (contentAddress platform content) with
      | none =>
        rw [old] at found
        cases found
        exact ⟨mine, rfl⟩
      | some kept =>
        rw [old] at found
        cases found
        exact sound _ _ old
    · exact sound address other found

theorem holding_files (hex : Hexadecimal platform) (content : Bytes) {files : Dict Path Bytes}
    (fresh : files.get? (target (platform.hexdigest content).toList) = none) :
    Holding platform (.filesystem files) content
      (.filesystem (replaceFile (target (platform.hexdigest content).toList) content files)) where
  there := by simp [lookup, fresh, get?_replaceFile _ _ (hex content) (hex content)]
  others other apart := by
    have names : (platform.hexdigest content).toList ≠ (platform.hexdigest other).toList :=
      fun same => apart (String.toList_inj.mp same).symm
    simp only [lookup, get?_replaceFile _ _ (hex content) (hex other), if_neg names]
  sound known mine sound := by
    intro digest other isDigest found
    rw [get?_replaceFile _ _ (hex content) isDigest] at found
    split at found
    · rename_i same
      cases found
      exact ⟨mine, same.symm⟩
    · exact sound digest other isDigest found

theorem put_cases (hex : Hexadecimal platform) (content : Bytes) (expectedAddress : Option String)
    (store : ContentStore) :
    (∃ error, store.put platform content expectedAddress = (.error error, store)) ∨
      ∃ after, store.put platform content expectedAddress = (.ok (contentAddress platform content), after) ∧
        Holding platform store content after := by
  cases store with
  | inMemory stored =>
    rcases putInMemory_cases platform content expectedAddress stored with ⟨error, ran⟩ | ran
    · exact .inl ⟨error, by simp [put, ran]⟩
    · exact .inr ⟨_, by simp only [put, ran]; rfl, holding_inMemory content stored⟩
  | filesystem files =>
    rcases putInFiles_cases platform content expectedAddress files with ⟨error, ran⟩ | ⟨found, ran⟩ | ⟨fresh, ran⟩
    · exact .inl ⟨error, by simp [put, ran]⟩
    · refine .inr ⟨.filesystem files, by simp only [put, ran]; rfl, ?_, fun _ _ => rfl, fun _ _ sound => sound⟩
      simp only [lookup, found, Option.getD_some]
    · exact .inr ⟨_, by simp only [put, ran]; rfl, holding_files hex content fresh⟩

theorem Sound.lookup (hex : Hexadecimal platform) (sound : store.Sound platform known) {found : Bytes}
    (there : store.lookup platform content = some found) :
    known found ∧ platform.hexdigest found = platform.hexdigest content := by
  cases store with
  | inMemory stored =>
    obtain ⟨mine, address⟩ := sound _ _ there
    exact ⟨mine, (contentAddress_inj.mp address).symm⟩
  | filesystem files =>
    obtain ⟨mine, digest⟩ := sound _ _ (hex content) there
    exact ⟨mine, (String.toList_inj.mp digest).symm⟩

section Free

variable {after : ContentStore} (hex : Hexadecimal platform) (free : CollisionFree platform known)
  (sound : store.Sound platform known) (mine : known content)
include hex free sound mine

theorem Holding.stores (holding : Holding platform store content after) : after.Stores platform content := by
  rw [stores_iff hex, holding.there]
  cases found : store.lookup platform content with
  | none => rfl
  | some old =>
    obtain ⟨theirs, digest⟩ := sound.lookup hex found
    rw [Option.getD_some, free old content theirs mine digest]

theorem Holding.keeps (holding : Holding platform store content after) {other : Bytes}
    (stored : store.Stores platform other) : after.Stores platform other := by
  rw [stores_iff hex] at stored ⊢
  by_cases same : platform.hexdigest other = platform.hexdigest content
  · obtain ⟨theirs, -⟩ := sound.lookup hex stored
    obtain rfl := free other content theirs mine same
    rw [holding.there, stored, Option.getD_some]
  · rw [holding.others other same, stored]

end Free

end ContentStore

end Aep.GeneratedArtifacts

namespace Aep.GeneratedArtifacts

open RuntimeStore WorkflowScheduler

/-- Bytes, or a text or a structured value. -/
inductive ArtifactContent where
  | bytes (content : Bytes)
  | value (content : Json)

def utf8 (text : String) : Bytes := text.toUTF8.toList

def invalidArtifact (message : String) : PyError := { errorClass := .generatedArtifactValidationError, message }

def immutableArtifact (artifactId : String) : PyError :=
  { errorClass := .immutableGeneratedArtifactError
    message := "published GeneratedArtifact " ++ (Json.str artifactId).repr ++ " is immutable" }

def artifactNotFound (message : String) : PyError := { errorClass := .generatedArtifactNotFoundError, message }

def artifactKey (artifactId : String) : String := "generated-artifact:" ++ artifactId

def publicationKey (artifactId : String) : String := "generated-artifact-publication:" ++ artifactId

section Checks

variable (platform : Platform)

def copyMetadata (metadata : Json) : Except PyError Record :=
  match metadata with
  | .obj fields => .ok fields
  | _ => .error (typeError "metadata must be a mapping")

def encodeContent : ArtifactContent → Except PyError Bytes
  | .bytes content => .ok content
  | .value (.str text) => .ok (utf8 text)
  | .value (.obj fields) => .ok (utf8 (platform.canonicalText (.obj fields)))
  | .value (.arr items) => .ok (utf8 (platform.canonicalText (.arr items)))
  | .value _ => .error (typeError "content must be bytes, text, or structured JSON")

def checkExpectedAddress (encoded : Bytes) : Json → Except PyError Unit
  | .null => .ok ()
  | .str expected => Result.raiseIf (expected ≠ contentAddress platform encoded) (contentIntegrity
      ("content digest " ++ (Json.str (contentAddress platform encoded)).repr ++ " does not match expected address " ++
        (Json.str expected).repr))
  | _ => .error (invalidArtifact "invalid GeneratedArtifact at $.contentAddress: must be a string")

/-- The metadata with its address, and with the time of its creation where it has none of its publication. -/
def addressed (encoded : Bytes) (metadata : Record) : Record :=
  let value := metadata.set "contentAddress" (.str (contentAddress platform encoded))
  match value.field "createdAt" with
  | .str createdAt => value.setDefault "publishedAt" (.str createdAt)
  | _ => value

def checkCorrelation (value : Record) : Except PyError Unit :=
  match fromRuntimeObject platform.toPlatform value with
  | .ok _ => .ok ()
  | .error error =>
    if error.errorClass = .observabilityContractError then
      .error (invalidArtifact ("invalid GeneratedArtifact correlation: " ++ error.message))
    else .error error

def validateMetadata (value : Record) : Except PyError Unit :=
  validated platform.toPlatform "generatedartifact.schema.json" value fun violated =>
    invalidArtifact ("invalid GeneratedArtifact at " ++ violated.1 ++ ": " ++ violated.2)

/-- What a call publishes: the metadata as it is stored, and the encoded content. -/
def prepare (metadata : Json) (content : ArtifactContent) : Except PyError (Record × Bytes) := do
  let given ← copyMetadata metadata
  let encoded ← encodeContent platform content
  checkExpectedAddress platform encoded (given.field "contentAddress")
  checkCorrelation platform (addressed platform encoded given)
  validateMetadata platform (addressed platform encoded given)
  return (addressed platform encoded given, encoded)

end Checks

/-- A call that writes to one of the two stores. -/
inductive Write where
  | claim (key : String) (value : Record)
  | put (content : Bytes) (expectedAddress : String)
  | create (value : Record) (key : String)

def Write.Result : Write → Type
  | .claim .. => Bool × Json
  | .put .. => String
  | .create .. => Record

inductive Call where
  | get (objectId : String)
  | read (contentAddress : String)
  | write (change : Write)

def Call.Answer : Call → Type
  | .get _ => Option Record
  | .read _ => Except PyError (Option Bytes)
  | .write change => Except PyError change.Result

abbrev Calls : Interface := ⟨Call, Call.Answer⟩

abbrev Prog (α : Type) : Type := Program Calls PyError α

def lookUp (objectId : String) : Prog (Option Record) := .call (.get objectId) .ret

def perform (change : Write) : Prog change.Result := .call (.write change) Program.liftExcept

section Publish

variable (artifactId : String) (value : Record)

def settle (existing : Record) : Prog Record :=
  if (Json.obj existing).pyEq (.obj value) then .ret existing else .raise (immutableArtifact artifactId)

def storeContent (platform : Platform) (encoded : Bytes) : Prog Record := do
  let _ ← perform (.put encoded (contentAddress platform encoded))
  let created ← perform (.create value (artifactKey artifactId))
  settle artifactId value created

def settleOr (existing : Option Record) (otherwise : Prog Record) : Prog Record :=
  match existing with
  | some existing => settle artifactId value existing
  | none => otherwise

def claimed (platform : Platform) (encoded : Bytes) : Prog Record := do
  let (_, claimed) ← perform (.claim (publicationKey artifactId) value)
  if claimed.pyEq (.obj value) then do
    let existing ← lookUp artifactId
    settleOr artifactId value existing (storeContent artifactId value platform encoded)
  else .raise (immutableArtifact artifactId)

def publishValue (platform : Platform) (encoded : Bytes) : Prog Record := do
  let existing ← lookUp artifactId
  settleOr artifactId value existing (claimed artifactId value platform encoded)

end Publish

def publish (platform : Platform) (metadata : Json) (content : ArtifactContent) : Prog Record := do
  let (value, encoded) ← Program.liftExcept (prepare platform metadata content)
  match value.field "id" with
  | .str artifactId => publishValue artifactId value platform encoded
  | _ => .raise (typeError "id must be a string")

def ofArtifact (value : Option Record) : Option Record :=
  value.filter fun record => record.field "kind" = .str "GeneratedArtifact"

def get (artifactId : String) : Prog (Option Record) := do
  let value ← lookUp artifactId
  return ofArtifact value

def addressOf (artifactId : String) (metadata : Option Record) : Except PyError String :=
  match metadata with
  | none => .error (artifactNotFound ("GeneratedArtifact " ++ (Json.str artifactId).repr ++ " was not found"))
  | some metadata =>
    match metadata.get? "contentAddress" with
    | some (.str address) => .ok address
    | some _ => .error (contentIntegrity "content address must be a lowercase SHA-256 address")
    | none => .error (keyError "contentAddress")

def foundContent (artifactId address : String) (content : Option Bytes) : Except PyError Bytes :=
  match content with
  | some content => .ok content
  | none => .error (artifactNotFound ("content " ++ (Json.str address).repr ++ " for GeneratedArtifact " ++
      (Json.str artifactId).repr ++ " was not found"))

def getContent (artifactId : String) : Prog Bytes := do
  let metadata ← get artifactId
  let address ← Program.liftExcept (addressOf artifactId metadata)
  let content ← .call (.read address) Program.liftExcept
  Program.liftExcept (foundContent artifactId address content)

end Aep.GeneratedArtifacts
