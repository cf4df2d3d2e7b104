import Aep.LocalizedPatch.Operations
import Mathlib.Data.List.Sort

namespace Aep.LocalizedPatch

open Result Splice

/-- What `_validated_changes` raises; what it does not catch passes through. -/
inductive GenerateError where
  | generatePatchContractError (message : String)
  | rejectedPatchCandidateError (message : String)
  | disallowedPatchPathError (message : String)
  | raised (error : Raised)
  deriving DecidableEq

def quoted (path : String) : String := Json.repr (.str path)

/-- The regions that the caller gives for a path: one mapping or a sequence of them. -/
inductive RawRegions where
  | one (region : Record)
  | many (regions : List Record)

def RawRegions.normalized : RawRegions → List Record
  | .one region => [region]
  | .many regions => regions

/-- The arguments of `_validated_changes`. -/
structure Validation where
  output : Json
  allowedPaths : List String
  editableTargets : List Record
  repositoryRevision : Option String := none
  regionsByPath : Option (Dict String RawRegions) := none

/-- An entry of the result. The localized form also has the evidence of its operations. -/
structure Change where
  path : String
  content : Text
  operation : String
  localized : Option (Preservation × List OperationRecord) := none
  deriving DecidableEq

/-- `_safe_path` of `generate_patch`. -/
def isSafePath (path : String) : Bool :=
  let parts := (path.toList.splitOn '/').filter fun part => !part.isEmpty && part ≠ ['.']
  let written := if parts.isEmpty then ['.'] else List.intercalate ['/'] parts
  path ≠ "" && !path.toList.contains '\\' && path.toList.head? ≠ some '/' && written = path.toList &&
    !parts.contains ['.', '.'] && (parts.head?.map fun first => first.map Char.toLower) ≠ some ".git".toList

def isAllowed (allowedPaths : List String) (path : String) : Bool :=
  allowedPaths.any fun rule => path = rule || (rule ++ "/").toList.isPrefixOf path.toList

def memberOf' (value : Json) (names : List String) : Except GenerateError (Option String) :=
  match memberOf value names with
  | .ok found => .ok found
  | .error error => .error (.raised error)

def hasLocalizedForm : List Json → Except GenerateError Bool
  | [] => pure false
  | .obj fields :: rest => do
    let operation := Dict.field fields "operation"
    match ← memberOf' operation ["insert", "replace", "rewrite"] with
    | some _ => pure true
    | none =>
      if operation = .str "delete" ∧ (Dict.get? fields "anchor").isSome then pure true else hasLocalizedForm rest
  | _ :: rest => hasLocalizedForm rest

def changePath (allowedPaths : List String) (fields : Record) : Except GenerateError String :=
  match fields.field "path" with
  | .str path => do
    raiseIf (isSafePath path = false) (.generatePatchContractError "Code Generator change path is unsafe")
    raiseIf (isAllowed allowedPaths path = false) (.disallowedPatchPathError
      ("Code Generator path " ++ quoted path ++ " is outside IMPLEMENTATION_PLAN.intendedFiles"))
    pure path
  | _ => .error (.generatePatchContractError "Code Generator change path is unsafe")

def groupByPath (allowedPaths : List String) (grouped : Dict String (List Record)) :
    List Json → Except GenerateError (Dict String (List Record))
  | [] => pure grouped
  | .obj fields :: rest => do
    let path ← changePath allowedPaths fields
    groupByPath allowedPaths (grouped.set path ((grouped.get? path).getD [] ++ [fields])) rest
  | _ :: _ => .error (.generatePatchContractError "each Code Generator change must be an object")

/-- `{str(item.get("path")): item for item in editable_targets}`. -/
def targetsByPath (editableTargets : List Record) : Dict String Record :=
  editableTargets.foldl (fun targets item => targets.set (item.field "path").text item) []

/-- The call that `_validated_changes` makes for some of the operations on a target. -/
def requestFor (validation : Validation) (path : String) (target : Record) (content : String) (region : Record)
    (operations : List Record) : Request where
  path := path
  preimage := content.toList
  preimageSha256 := ((target.get? "preimageSha256").getD (.str "")).text
  repositoryRevision :=
    (validation.repositoryRevision.filter fun revision => revision ≠ "").getD
      ((target.get? "repositoryRevision").getD (.str "")).text
  operations := operations.map Json.obj
  region := some region
  allowRewrite := false
  targetExists := ((target.get? "exists").getD (.bool true)).truthy

structure Resolutions where
  found : List LocalizedPatch := []
  failure : Option (String × String) := none

def tryRegions (platform : Platform) (request : Record → Request) :
    Resolutions → List Record → Except GenerateError Resolutions
  | resolutions, [] => pure resolutions
  | resolutions, region :: rest =>
    match applyLocalizedOperations platform (request region) with
    | .ok patch => tryRegions platform request { resolutions with found := resolutions.found ++ [patch] } rest
    | .error (.localizedPatchError code message) =>
      tryRegions platform request { resolutions with failure := some (code, message) } rest
    | .error error => .error (.raised error)

def resolveOperation (platform : Platform) (request : Record → Request) (regions : List Record) :
    Except GenerateError LocalizedPatch := do
  let resolutions ← tryRegions platform request {} regions
  match resolutions.found, resolutions.failure with
  | [patch], _ => pure patch
  | _ :: _ :: _, _ =>
    .error (.rejectedPatchCandidateError "AMBIGUOUS_TRUSTED_REGION: operation resolves in multiple trusted regions")
  | [], some (code, message) =>
    if code = "TRUSTED_REGION_MISSING" ∨ code = "TRUSTED_REGION_UNRESOLVED" then
      .error (.generatePatchContractError (code ++ ": " ++ message))
    else .error (.rejectedPatchCandidateError (code ++ ": " ++ message))
  | [], none => .error (.raised .indexError)

structure Resolved where
  edit : Edit Char
  record : OperationRecord
  deriving DecidableEq

def resolvedOf (patch : LocalizedPatch) : Except GenerateError Resolved :=
  match patch.operations, patch.replacements with
  | record :: _, replacement :: _ => .ok ⟨⟨record.span.1, record.span.2, replacement⟩, record⟩
  | _, _ => .error (.raised .indexError)

def resolveAll (platform : Platform) (request : Record → Record → Request) (regions : List Record) :
    List Record → Except GenerateError (List Resolved)
  | [] => pure []
  | operation :: rest => do
    let patch ← resolveOperation platform (request operation) regions
    let resolved ← resolvedOf patch
    let others ← resolveAll platform request regions rest
    pure (resolved :: others)

def spanLe (left right : Nat × Nat) : Prop := left.1 < right.1 ∨ (left.1 = right.1 ∧ left.2 ≤ right.2)

instance (left right : Nat × Nat) : Decidable (spanLe left right) := by unfold spanLe; infer_instance

def reassemble (preimage : Text) (assembly : Assembly) : List Resolved → Except GenerateError Assembly
  | [] => pure (assembly.finish preimage)
  | resolved :: rest => do
    raiseIf (resolved.edit.start < assembly.cursor)
      (.rejectedPatchCandidateError "OVERLAPPING_EDITS: operation spans overlap")
    reassemble preimage (assembly.add preimage resolved.edit) rest

def growthWhere (counts : Resolved → Bool) (resolved : List Resolved) : Int :=
  growth ((resolved.filter counts).map Resolved.edit)

/-- A zero-width insertion at the start of a region belongs to the selection that authorized it. -/
def shiftsStart (start : Nat) (selectionId : Json) (resolved : Resolved) : Bool :=
  resolved.edit.stop < start ||
    (resolved.edit.stop = start &&
      !((resolved.record.trustedRegion.map TrustedRegion.selectionId).getD .null).pyEq selectionId)

def recheckSelector (content postimage : Text) (resolved : List Resolved) (region : Record) :
    Except GenerateError Unit :=
  match regionSpan content region, regionSpan postimage region with
  | .ok span, .ok post =>
    raiseIf ((post.start : Int) ≠ span.start +
          growthWhere (shiftsStart span.start (region.field "selectionId")) resolved ∨
        (post.stop : Int) ≠ span.stop + growthWhere (fun other => other.edit.stop ≤ span.stop) resolved)
      (.rejectedPatchCandidateError "OUT_OF_REGION: assembled postimage invalidates a trusted region")
  | _, _ => .error (.rejectedPatchCandidateError "OUT_OF_REGION: assembled postimage invalidates a trusted region")

def recheckSelectors (content postimage : Text) (resolved : List Resolved) : List Record → Except GenerateError Unit
  | [] => pure ()
  | region :: rest => do
    recheckSelector content postimage resolved region
    recheckSelectors content postimage resolved rest

def hasOperation (name : String) (fields : Record) : Bool := fields.field "operation" = .str name

def isWholeFileDelete (content : String) (operations : List Record) : Bool :=
  match operations with
  | [fields] => hasOperation "delete" fields && fields.field "anchor" = .str content
  | _ => false

def targetOf (validation : Validation) (path : String) : Except GenerateError (Record × String) :=
  match (targetsByPath validation.editableTargets).get? path with
  | some target =>
    match target.field "content" with
    | .str content => .ok (target, content)
    | _ => .error (.generatePatchContractError
        ("localized operation target " ++ quoted path ++ " is unavailable or non-UTF-8"))
  | none => .error (.generatePatchContractError
      ("localized operation target " ++ quoted path ++ " is unavailable or non-UTF-8"))

def regionsOf (validation : Validation) (path : String) : List Record :=
  (((validation.regionsByPath.getD []).get? path).map RawRegions.normalized).getD []

def changeOf (platform : Platform) (path : String) (content : Text) (wholeFileDelete : Bool)
    (resolved : List Resolved) (assembly : Assembly) : Change :=
  let postimage := assembly.output.flatten
  let assembledDigest := platform.sha256 postimage
  let records := resolved.mapIdx fun ordinal entry =>
    { entry.record with ordinal := ordinal, postimageSha256 := assembledDigest }
  { path := path
    content := postimage
    operation := if wholeFileDelete then "delete" else "write"
    localized := some ({
      preimageSha256 := platform.sha256 content
      postimageSha256 := assembledDigest
      unchangedRegionCount := assembly.unchanged.length
      unchangedBytes := Text.utf8Length assembly.unchanged.flatten
      unchangedSha256 := platform.sha256 assembly.unchanged.flatten
      authorizedSpans := records.map fun record => record.span }, records) }

def localizedChange (platform : Platform) (validation : Validation) (path : String) (operations : List Record) :
    Except GenerateError Change := do
  let (target, content) ← targetOf validation path
  let regions := regionsOf validation path
  raiseIf (operations.any (hasOperation "replace") = true ∨
      (operations.any (hasOperation "delete") = true ∧ isWholeFileDelete content operations = false))
    (.generatePatchContractError "localized replace/delete requires immutable plan-operation evidence")
  raiseIf (regions = []) (.rejectedPatchCandidateError
    "TRUSTED_REGION_MISSING: localized operation requires a server-derived region selector")
  let resolved ← resolveAll platform
    (fun operation region => requestFor validation path target content region [operation]) regions operations
  let spans := resolved.map fun entry => entry.record.span
  raiseIf (spans ≠ spans.insertionSort spanLe)
    (.rejectedPatchCandidateError "OUT_OF_ORDER_EDITS: operation spans are not source ordered")
  let assembly ← reassemble content.toList {} resolved
  recheckSelectors content.toList assembly.output.flatten resolved regions
  raiseIf (resolved = []) (.rejectedPatchCandidateError "MISSING_OPERATION: localized operations are required")
  pure (changeOf platform path content.toList (isWholeFileDelete content operations) resolved assembly)

def historicChange (validation : Validation) (seen : List String) (fields : Record) : Except GenerateError Change :=
  match fields.field "path" with
  | .str path => do
    let invalid := "Code Generator operation for " ++ quoted path ++ " is invalid"
    raiseIf (isSafePath path = false) (.generatePatchContractError "Code Generator change path is unsafe")
    match ← memberOf' ((fields.get? "operation").getD (.str "write")) ["write", "delete"] with
    | none => .error (.generatePatchContractError invalid)
    | some operation =>
      let content ← historicContent path operation (fields.field "content")
      raiseIf (path ∈ seen) (.generatePatchContractError ("Code Generator repeats path " ++ quoted path))
      raiseIf (isAllowed validation.allowedPaths path = false) (.disallowedPatchPathError
        ("Code Generator path " ++ quoted path ++ " is outside IMPLEMENTATION_PLAN.intendedFiles"))
      let target := validation.editableTargets.find? fun item => item.field "path" = .str path
      raiseIf ((target.any fun item => (fields.field "preimageSha256").pyEq (item.field "preimageSha256")) = false)
        (.generatePatchContractError
          ("Code Generator change for " ++ quoted path ++ " is not bound to the supplied preimage"))
      pure { path := path, content := content, operation := operation }
  | _ => .error (.generatePatchContractError "Code Generator change path is unsafe")
where
  historicContent (path operation : String) : Json → Except GenerateError Text
    | .str content => do
      raiseIf (operation = "write" ∧ '\x00' ∈ content.toList) (.generatePatchContractError
        ("Code Generator content for " ++ quoted path ++ " contains binary NUL bytes"))
      raiseIf (operation = "delete" ∧ content ≠ "") (.generatePatchContractError
        ("Code Generator delete for " ++ quoted path ++ " must not include content"))
      pure content.toList
    | .null =>
      if operation = "write" then
        .error (.generatePatchContractError ("Code Generator content for " ++ quoted path ++ " must be text"))
      else pure []
    | value =>
      if operation = "write" then
        .error (.generatePatchContractError ("Code Generator content for " ++ quoted path ++ " must be text"))
      else if value.isHashable then
        .error (.generatePatchContractError ("Code Generator delete for " ++ quoted path ++ " must not include content"))
      else .error (.raised .typeError)

def historicChanges (validation : Validation) (seen : List String) : List Json → Except GenerateError (List Change)
  | [] => pure []
  | .obj fields :: rest => do
    let change ← historicChange validation seen fields
    let others ← historicChanges validation (change.path :: seen) rest
    pure (change :: others)
  | _ :: _ => .error (.generatePatchContractError "each Code Generator change must be an object")

def localizedChanges (platform : Platform) (validation : Validation) :
    Dict String (List Record) → Except GenerateError (List Change)
  | [] => pure []
  | (path, operations) :: rest => do
    let change ← localizedChange platform validation path operations
    let others ← localizedChanges platform validation rest
    pure (change :: others)

def outputChanges : Json → Except GenerateError (List Json)
  | .obj fields =>
    match Dict.field fields "changes" with
    | .arr values => .ok values
    | _ => .error (.generatePatchContractError "Code Generator output must contain changes")
  | _ => .error (.generatePatchContractError "Code Generator output must be an object")

def validatedChanges (platform : Platform) (validation : Validation) : Except GenerateError (List Change) := do
  let values ← outputChanges validation.output
  if ← hasLocalizedForm values then
    localizedChanges platform validation (← groupByPath validation.allowedPaths [] values)
  else historicChanges validation [] values

end Aep.LocalizedPatch
