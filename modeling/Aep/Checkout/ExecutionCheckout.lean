import Aep.Errors
import Aep.Library.Isoformat
import Aep.Library.Result

namespace Aep.Checkout

inductive CheckoutFailureClass where
  | recoverable
  | configuration
  deriving DecidableEq

def CheckoutFailureClass.value : CheckoutFailureClass → String
  | .recoverable => "RECOVERABLE"
  | .configuration => "CONFIGURATION"

def CheckoutFailureClass.ofValue : String → Option CheckoutFailureClass
  | "RECOVERABLE" => some .recoverable
  | "CONFIGURATION" => some .configuration
  | _ => none

inductive CheckoutState where
  | provisioning
  | ready
  | cleanupFailed
  | cleaned
  | failed
  deriving DecidableEq

def CheckoutState.value : CheckoutState → String
  | .provisioning => "PROVISIONING"
  | .ready => "READY"
  | .cleanupFailed => "CLEANUP_FAILED"
  | .cleaned => "CLEANED"
  | .failed => "FAILED"

def CheckoutState.ofValue : String → Option CheckoutState
  | "PROVISIONING" => some .provisioning
  | "READY" => some .ready
  | "CLEANUP_FAILED" => some .cleanupFailed
  | "CLEANED" => some .cleaned
  | "FAILED" => some .failed
  | _ => none

@[simp] theorem CheckoutFailureClass.ofValue_value (failure : CheckoutFailureClass) :
    ofValue failure.value = some failure := by cases failure <;> rfl

@[simp] theorem CheckoutState.ofValue_value (state : CheckoutState) : ofValue state.value = some state := by
  cases state <;> rfl

structure CheckoutProvisionError where
  classification : CheckoutFailureClass
  code : String
  message : String
  deriving DecidableEq

/-- What a registry call raises: its own error, or an exception of the language or the database. -/
inductive CheckoutError where
  | provision (error : CheckoutProvisionError)
  | integrityError
  | exception (errorClass : ErrorClass)
  deriving DecidableEq

def configuration (code message : String) : CheckoutError := .provision ⟨.configuration, code, message⟩

def recoverable (code message : String) : CheckoutError := .provision ⟨.recoverable, code, message⟩

def CheckoutClaimInProgress : CheckoutError :=
  recoverable "claim_in_progress" "checkout provisioning is owned by another worker"

def CheckoutCacheClaimInProgress : CheckoutError :=
  recoverable "cache_claim_in_progress" "repository source cache is owned by another worker"

def isIdentifier (value : String) : Bool :=
  match value.toList with
  | [] => false
  | first :: rest => first.isAlphanum && rest.all fun letter => letter.isAlphanum || letter ∈ ['.', '_', '-']

structure RepositoryIdentity where
  provider : String
  owner : String
  name : String
  safe : [provider, owner, name].all isIdentifier
  deriving DecidableEq

namespace RepositoryIdentity

def make (provider owner name : String) : Except CheckoutError RepositoryIdentity :=
  if safe : [provider, owner, name].all isIdentifier then .ok ⟨provider, owner, name, safe⟩
  else .error (configuration "unsafe_repository_identity" "repository identity contains unsafe characters")

def canonical (repository : RepositoryIdentity) : String :=
  repository.provider.map Char.toLower ++ ":" ++ repository.owner.map Char.toLower ++ "/" ++
    repository.name.map Char.toLower

@[simp] theorem make_parts (repository : RepositoryIdentity) :
    make repository.provider repository.owner repository.name = .ok repository := by
  unfold make
  rw [dif_pos repository.safe]

end RepositoryIdentity

/-- The object that Python compares by identity before it compares two times. -/
inductive Tzinfo where
  | utc
  | other (name : String)
  deriving DecidableEq

/-- An aware time: its wall clock in microseconds from the year 1 and the offset from UTC in force then. -/
structure Datetime where
  wall : Nat
  offset : Int
  tzinfo : Tzinfo
  inRange : wall < Timestamp.limit
  fixed : tzinfo = .utc → offset = 0
  deriving DecidableEq

namespace Datetime

def instant (time : Datetime) : Int := time.wall - time.offset

def later (left right : Datetime) : Bool :=
  if left.tzinfo = right.tzinfo then decide (right.wall < left.wall) else decide (right.instant < left.instant)

def utc (wall : Nat) (inRange : wall < Timestamp.limit) : Datetime := ⟨wall, 0, .utc, inRange, fun _ => rfl⟩

def ofInstant (instant : Int) : Except CheckoutError Datetime :=
  if within : 0 ≤ instant ∧ instant.toNat < Timestamp.limit then .ok (utc instant.toNat within.2)
  else .error (.exception .overflowError)

def astimezone (time : Datetime) : Except CheckoutError Datetime := ofInstant time.instant

def isoformat (time : Datetime) : List Char := Timestamp.isoText time.wall ++ ['+', '0', '0', ':', '0', '0']

end Datetime

def formatDatetime (value : Datetime) : Except CheckoutError String := do
  let time ← value.astimezone
  pure (String.ofList (Text.replace ['+', '0', '0', ':', '0', '0'] ['Z'] time.isoformat))

def parseDatetime (value : String) : Except CheckoutError Datetime :=
  match Timestamp.fromisoformat (Text.replace ['Z'] ['+', '0', '0', ':', '0', '0'] value.toList) with
  | none => .error (.exception .valueError)
  | some (wall, offset) => Datetime.ofInstant (wall - offset)

structure ExecutionCheckout where
  executionId : String
  repository : RepositoryIdentity
  baseRevision : String
  knowledgeRevision : String
  branch : String
  workspacePath : String
  sourceCachePath : String
  state : CheckoutState
  createdAt : Datetime
  updatedAt : Datetime
  fenceToken : Int := 0
  ownerToken : Option String := none
  leaseExpiresAt : Option Datetime := none
  cleanupAttempts : Int := 0
  failureClass : Option CheckoutFailureClass := none
  failureCode : Option String := none
  failureMessage : Option String := none
  deriving DecidableEq

def sameBinding (left right : ExecutionCheckout) : Except CheckoutError Unit :=
  Result.raiseIf (left.repository ≠ right.repository ∨ left.baseRevision ≠ right.baseRevision ∨
      left.knowledgeRevision ≠ right.knowledgeRevision ∨ left.branch ≠ right.branch ∨
      left.workspacePath ≠ right.workspacePath ∨ left.sourceCachePath ≠ right.sourceCachePath)
    (configuration "execution_identity_conflict" "execution id was reused with different immutable inputs")

def unexpired (lease : Option Datetime) (now : Datetime) : Bool :=
  match lease with
  | none => false
  | some expiry => expiry.later now

def owns (checkout : Option ExecutionCheckout) (ownerToken : String) (fenceToken : Int) (now : Datetime) : Bool :=
  match checkout with
  | none => false
  | some checkout => checkout.state = .provisioning ∧ checkout.ownerToken = some ownerToken ∧
      checkout.fenceToken = fenceToken ∧ unexpired checkout.leaseExpiresAt now

def optional (value : Option String) : Json := value.elim .null .str

def formatOptional (value : Option Datetime) : Except CheckoutError Json :=
  match value with
  | none => pure .null
  | some time => .str <$> formatDatetime time

def checkoutToJson (checkout : ExecutionCheckout) : Except CheckoutError Record := do
  let createdAt ← formatDatetime checkout.createdAt
  let updatedAt ← formatDatetime checkout.updatedAt
  let leaseExpiresAt ← formatOptional checkout.leaseExpiresAt
  pure [("executionId", .str checkout.executionId),
    ("repository", .obj [("provider", .str checkout.repository.provider),
      ("owner", .str checkout.repository.owner), ("name", .str checkout.repository.name)]),
    ("baseRevision", .str checkout.baseRevision),
    ("knowledgeRevision", .str checkout.knowledgeRevision),
    ("branch", .str checkout.branch),
    ("workspacePath", .str checkout.workspacePath),
    ("sourceCachePath", .str checkout.sourceCachePath),
    ("state", .str checkout.state.value),
    ("createdAt", .str createdAt),
    ("updatedAt", .str updatedAt),
    ("fenceToken", .int checkout.fenceToken),
    ("ownerToken", optional checkout.ownerToken),
    ("leaseExpiresAt", leaseExpiresAt),
    ("cleanupAttempts", .int checkout.cleanupAttempts),
    ("failureClass", optional (checkout.failureClass.map CheckoutFailureClass.value)),
    ("failureCode", optional checkout.failureCode),
    ("failureMessage", optional checkout.failureMessage)]

section Decoding

variable (data : Record)

def required (key : String) : Except CheckoutError Json :=
  match data.get? key with
  | none => .error (.exception .keyError)
  | some value => pure value

def textOf : Json → Except CheckoutError String
  | .str value => pure value
  | _ => .error (.exception .typeError)

def requiredText (key : String) : Except CheckoutError String := required data key >>= textOf

def optionalText (key : String) : Except CheckoutError (Option String) :=
  match data.field key with
  | .null => pure none
  | value => some <$> textOf value

def integer : Json → Except CheckoutError Int
  | .int value => pure value
  | _ => .error (.exception .typeError)

def ofValue {α : Type} (read : String → Option α) (value : String) : Except CheckoutError α :=
  match read value with
  | none => .error (.exception .valueError)
  | some found => pure found

def optionalDatetime (key : String) : Except CheckoutError (Option Datetime) :=
  if (data.field key).truthy then some <$> (textOf (data.field key) >>= parseDatetime) else pure none

def optionalClass (key : String) : Except CheckoutError (Option CheckoutFailureClass) :=
  if (data.field key).truthy then
    some <$> (textOf (data.field key) >>= ofValue CheckoutFailureClass.ofValue)
  else pure none

def recordOf : Json → Except CheckoutError Record
  | .obj fields => pure fields
  | _ => .error (.exception .typeError)

def repositoryFromJson : Except CheckoutError RepositoryIdentity := do
  RepositoryIdentity.make (← requiredText data "provider") (← requiredText data "owner")
    (← requiredText data "name")

def checkoutFromJson : Except CheckoutError ExecutionCheckout := do
  let repository ← recordOf (← required data "repository")
  pure {
    executionId := ← requiredText data "executionId"
    repository := ← repositoryFromJson repository
    baseRevision := ← requiredText data "baseRevision"
    knowledgeRevision := ← requiredText data "knowledgeRevision"
    branch := ← requiredText data "branch"
    workspacePath := ← requiredText data "workspacePath"
    sourceCachePath := ← requiredText data "sourceCachePath"
    state := ← requiredText data "state" >>= ofValue CheckoutState.ofValue
    createdAt := ← requiredText data "createdAt" >>= parseDatetime
    updatedAt := ← requiredText data "updatedAt" >>= parseDatetime
    fenceToken := ← required data "fenceToken" >>= integer
    ownerToken := ← optionalText data "ownerToken"
    leaseExpiresAt := ← optionalDatetime data "leaseExpiresAt"
    cleanupAttempts := ← integer ((data.get? "cleanupAttempts").getD (.int 0))
    failureClass := ← optionalClass data "failureClass"
    failureCode := ← optionalText data "failureCode"
    failureMessage := ← optionalText data "failureMessage" }

end Decoding

def ExecutionCheckout.inUtc (checkout : ExecutionCheckout) : Except CheckoutError ExecutionCheckout := do
  let createdAt ← checkout.createdAt.astimezone
  let updatedAt ← checkout.updatedAt.astimezone
  let leaseExpiresAt ← checkout.leaseExpiresAt.mapM Datetime.astimezone
  pure { checkout with createdAt, updatedAt, leaseExpiresAt }

theorem parseDatetime_isoText {wall : Nat} (inRange : wall < Timestamp.limit) :
    parseDatetime (String.ofList (Timestamp.isoText wall ++ ['Z'])) = .ok (.utc wall inRange) := by
  unfold parseDatetime
  have absent : 'Z' ∉ Timestamp.isoText wall := Timestamp.not_mem_isoText (by decide) (by decide) wall
  rw [String.toList_ofList, Text.replace_suffix absent, Timestamp.fromisoformat_isoText inRange]
  simp [Datetime.ofInstant, inRange]

theorem formatDatetime_eq_ok {value : Datetime} {text : String} :
    formatDatetime value = .ok text ↔
      ∃ time, value.astimezone = .ok time ∧ text = String.ofList (Timestamp.isoText time.wall ++ ['Z']) := by
  have absent (wall : Nat) : '+' ∉ Timestamp.isoText wall := Timestamp.not_mem_isoText (by decide) (by decide) wall
  simp only [formatDatetime, Result.bind_eq_ok, Result.pure_eq_ok, Datetime.isoformat,
    Text.replace_suffix (absent _)]
  exact exists_congr fun time => and_congr_right fun _ => eq_comm

theorem Datetime.astimezone_eq_ok {value time : Datetime} : value.astimezone = .ok time ↔
    ∃ within : 0 ≤ value.instant ∧ value.instant.toNat < Timestamp.limit, time = .utc value.instant.toNat within.2 := by
  unfold Datetime.astimezone Datetime.ofInstant
  by_cases within : 0 ≤ value.instant ∧ value.instant.toNat < Timestamp.limit
  · rw [dif_pos within, Except.ok.injEq]
    exact ⟨fun same => ⟨within, same.symm⟩, fun ⟨_, same⟩ => same.symm⟩
  · rw [dif_neg within]
    exact ⟨nofun, fun ⟨found, _⟩ => absurd found within⟩

theorem parse_of_format {value : Datetime} {text : String} (written : formatDatetime value = .ok text) :
    parseDatetime text = value.astimezone := by
  obtain ⟨time, converted, rfl⟩ := formatDatetime_eq_ok.mp written
  obtain ⟨within, rfl⟩ := Datetime.astimezone_eq_ok.mp converted
  rw [converted]
  exact parseDatetime_isoText within.2

theorem format_text_ne_empty {value : Datetime} {text : String} (written : formatDatetime value = .ok text) :
    text ≠ "" := by
  obtain ⟨time, -, rfl⟩ := formatDatetime_eq_ok.mp written
  intro empty
  have length := congrArg String.length empty
  simp at length

theorem optionalDatetime_written {data : Record} {key : String} {value : Option Datetime} {json : Json}
    (written : formatOptional value = .ok json) (found : data.field key = json) :
    optionalDatetime data key = value.mapM Datetime.astimezone := by
  unfold optionalDatetime
  rw [found]
  cases value with
  | none =>
    cases written
    rfl
  | some time =>
    simp only [formatOptional, Result.map_eq_ok] at written
    obtain ⟨text, formatted, rfl⟩ := written
    have full : (Json.str text).truthy = true := by simp [Json.truthy, format_text_ne_empty formatted]
    rw [if_pos full]
    show some <$> parseDatetime text = _
    rw [parse_of_format formatted]
    rfl

theorem optionalText_written {data : Record} {key : String} {value : Option String}
    (found : data.field key = optional value) : optionalText data key = .ok value := by
  unfold optionalText
  rw [found]
  cases value <;> rfl

theorem optionalClass_written {data : Record} {key : String} {value : Option CheckoutFailureClass}
    (found : data.field key = optional (value.map CheckoutFailureClass.value)) :
    optionalClass data key = .ok value := by
  unfold optionalClass
  rw [found]
  cases value with
  | none => rfl
  | some failure => cases failure <;> rfl

theorem checkoutFromJson_written {checkout : ExecutionCheckout} {data : Record}
    (written : checkoutToJson checkout = .ok data) : checkoutFromJson data = checkout.inUtc := by
  unfold checkoutToJson at written
  simp only [Result.bind_eq_ok, Result.pure_eq_ok] at written
  obtain ⟨createdAt, created, updatedAt, updated, lease, leased, rfl⟩ := written
  have createdBack := parse_of_format created
  have updatedBack := parse_of_format updated
  obtain ⟨createdUtc, created, -⟩ := formatDatetime_eq_ok.mp created
  obtain ⟨updatedUtc, updated, -⟩ := formatDatetime_eq_ok.mp updated
  unfold checkoutFromJson ExecutionCheckout.inUtc
  rw [optionalDatetime_written leased rfl, optionalText_written rfl, optionalText_written rfl,
    optionalText_written rfl, optionalClass_written rfl]
  simp only [required, requiredText, textOf, Dict.get?, recordOf, repositoryFromJson, ofValue, integer,
    String.reduceEq, ↓reduceIte, Result.pure_bind, Result.ok_bind, RepositoryIdentity.make_parts, createdBack,
    updatedBack, created, updated, CheckoutState.ofValue_value, Option.getD_some]

theorem formatDatetime_raises {value : Datetime} {error : CheckoutError} :
    formatDatetime value = .error error ↔ value.astimezone = .error error := by
  unfold formatDatetime
  cases value.astimezone <;> simp

theorem formatOptional_raises {value : Option Datetime} {error : CheckoutError} :
    formatOptional value = .error error ↔ value.mapM Datetime.astimezone = .error error := by
  cases value with
  | none => simp [formatOptional]
  | some time =>
    show Json.str <$> formatDatetime time = .error error ↔ some <$> time.astimezone = .error error
    simp only [Result.map_eq_error, formatDatetime_raises]

theorem checkoutToJson_raises {checkout : ExecutionCheckout} {error : CheckoutError} :
    checkoutToJson checkout = .error error ↔ checkout.inUtc = .error error := by
  unfold checkoutToJson ExecutionCheckout.inUtc
  cases created : formatDatetime checkout.createdAt with
  | error raised => simp [formatDatetime_raises.mp created]
  | ok createdAt =>
    obtain ⟨createdUtc, converted, -⟩ := formatDatetime_eq_ok.mp created
    cases updated : formatDatetime checkout.updatedAt with
    | error raised => simp [converted, formatDatetime_raises.mp updated]
    | ok updatedAt =>
      obtain ⟨updatedUtc, converted', -⟩ := formatDatetime_eq_ok.mp updated
      simp only [converted, converted', Result.ok_bind, Result.bind_eq_error, Result.pure_ne_error,
        and_false, exists_false, or_false, formatOptional_raises]

end Aep.Checkout
