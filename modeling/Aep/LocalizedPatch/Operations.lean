import Aep.Library.Result
import Aep.Library.Splice
import Aep.Library.Text
import Aep.LocalizedPatch.Regions

namespace Aep.LocalizedPatch

open Splice

def rawLines : Text → List Text
  | [] => []
  | char :: rest =>
    if char = '\n' then [char] :: rawLines rest
    else
      match rawLines rest with
      | [] => [[char]]
      | line :: others => (char :: line) :: others

def crlf : Text := ['\r', '\n']

def lineTerminator (line : Text) : Text :=
  if crlf.isSuffixOf line then crlf else if ['\n'].isSuffixOf line then ['\n'] else []

theorem lineTerminator_suffix (line : Text) : lineTerminator line <:+ line := by
  unfold lineTerminator
  split
  · rename_i ends
    exact List.isSuffixOf_iff_suffix.mp ends
  · split
    · rename_i ends
      exact List.isSuffixOf_iff_suffix.mp ends
    · exact List.nil_suffix

/-- A logical line: its span without the terminator, and the terminator. -/
structure LineMatch where
  start : Nat
  stop : Nat
  terminator : Text
  deriving DecidableEq

def logicalLines (cursor : Nat) : List Text → List LineMatch
  | [] => []
  | line :: rest =>
    let terminator := lineTerminator line
    ⟨cursor, cursor + line.length - terminator.length, terminator⟩ :: logicalLines (cursor + line.length) rest

def logicalLineMatches (content anchor : Text) (regionStart regionEnd : Int) : List LineMatch :=
  (logicalLines 0 (rawLines content)).filter fun line =>
    regionStart ≤ line.start && line.stop ≤ regionEnd && slice content line.start line.stop = anchor

theorem flatten_rawLines (content : Text) : (rawLines content).flatten = content := by
  induction content with
  | nil => rfl
  | cons char rest ih =>
    unfold rawLines
    by_cases newline : char = '\n'
    · simp [newline, ih]
    · simp only [newline, ↓reduceIte]
      cases lines : rawLines rest with
      | nil =>
        rw [lines] at ih
        simp [← ih]
      | cons line others =>
        rw [lines] at ih
        simp [← ih]

theorem mem_logicalLines {cursor : Nat} {lines : List Text} {line : LineMatch}
    (member : line ∈ logicalLines cursor lines) :
    cursor ≤ line.start ∧ line.start ≤ line.stop ∧
      line.stop + line.terminator.length ≤ cursor + lines.flatten.length := by
  induction lines generalizing cursor with
  | nil => simp [logicalLines] at member
  | cons first rest ih =>
    have terminated := (lineTerminator_suffix first).length_le
    rw [List.flatten_cons, List.length_append]
    simp only [logicalLines, List.mem_cons] at member
    rcases member with rfl | member
    · dsimp only
      omega
    · have := ih member
      omega

theorem mem_logicalLineMatches {content anchor : Text} {regionStart regionEnd : Int} {line : LineMatch}
    (member : line ∈ logicalLineMatches content anchor regionStart regionEnd) :
    line.start + anchor.length = line.stop ∧ line.stop + line.terminator.length ≤ content.length := by
  obtain ⟨listed, matched⟩ := List.mem_filter.mp member
  have bounds := mem_logicalLines listed
  rw [flatten_rawLines] at bounds
  simp only [Bool.and_eq_true, decide_eq_true_eq] at matched
  have stop_le : line.stop ≤ content.length := by omega
  have same_length : (slice content line.start line.stop).length = line.stop - line.start := length_slice content stop_le
  rw [matched.2] at same_length
  omega

def lineEnding (content : Text) : Text :=
  match rawLines content with
  | line :: _ => if crlf.isSuffixOf line then crlf else ['\n']
  | [] => ['\n']

def isLineBreak (char : Char) : Bool := char = '\r' || char = '\n'

def endsLine (text : Text) : Bool := text.getLast?.any isLineBreak

def normalized (ending content : Text) : Text :=
  Text.replace ['\n'] ending (Text.replace ['\r'] ['\n'] (Text.replace crlf ['\n'] content))

def withEnding (preimage : Text) (offset : Nat) (ending content : Text) : Text :=
  if !endsLine content && (offset < preimage.length || offset ≠ preimage.length || endsLine preimage) then
    content ++ ending
  else content

def lineBoundaryContent (preimage : Text) (offset : Nat) (content : Text) (placement : String) : Text :=
  let ending := lineEnding preimage
  let content := normalized ending content
  let atStart := offset = 0 || (preimage[offset - 1]?).any isLineBreak
  if content.isEmpty then content
  else if placement = "after" && !atStart && offset = preimage.length then
    let trimmed := if ending.isSuffixOf content then content.take (content.length - ending.length) else content
    if trimmed.isEmpty then [] else withEnding preimage offset ending (ending ++ trimmed)
  else withEnding preimage offset ending content

end Aep.LocalizedPatch

namespace Aep.LocalizedPatch

open Result Splice

/-- The hash of a text's UTF-8 bytes and the character table that the code reads. -/
structure Platform where
  sha256 : Text → String
  isprintable : Char → Bool

inductive Raised where
  | localizedPatchError (code message : String)
  | typeError
  | indexError
  deriving DecidableEq

def safePath (path : String) : Except Raised Unit := do
  raiseIf (path = "" ∨ '\\' ∈ path.toList ∨ '\x00' ∈ path.toList)
    (.localizedPatchError "UNSAFE_PATH" "operation path is unsafe")
  let parts := (path.toList.splitOn '/').filter fun part => !part.isEmpty && part ≠ ['.']
  let written := if parts.isEmpty then ['.'] else List.intercalate ['/'] parts
  raiseIf (path.toList.head? = some '/' ∨ ['.', '.'] ∈ parts ∨ written ≠ path.toList)
    (.localizedPatchError "UNSAFE_PATH" "operation path is unsafe")
  match parts with
  | [] => .error .indexError
  | first :: _ =>
    raiseIf (first.map Char.toLower = ".git".toList) (.localizedPatchError "UNSAFE_PATH" "operation path is unsafe")

structure Request where
  path : String
  preimage : Text
  preimageSha256 : String
  repositoryRevision : String
  operations : List Json
  region : Option Record := none
  allowRewrite : Bool := false
  targetExists : Bool := true

structure TrustedRegion where
  kind : Json
  name : Json
  selectionId : Json
  planArtifactId : Json
  span : Nat × Nat
  deriving DecidableEq

/-- The trusted region of a call with the bounds that every operation is held to. -/
structure Scope where
  trustedRegion : Option TrustedRegion
  regionStart : Int
  regionEnd : Int

def regionBounds (content : Text) (region : Record) : Except Raised (Nat × Nat) :=
  match regionSpan content region with
  | .ok span => .ok (span.start, span.stop)
  | .error _ =>
    .error (.localizedPatchError "TRUSTED_REGION_UNRESOLVED" "trusted region does not resolve uniquely")

def isRewrite : Json → Bool
  | .obj fields => Dict.field fields "operation" = .str "rewrite"
  | _ => false

def resolveScope (request : Request) : Except Raised Scope :=
  match request.region with
  | none =>
    if request.operations.all isRewrite then .ok ⟨none, -1, -1⟩
    else
      .error (.localizedPatchError "TRUSTED_REGION_MISSING"
        "localized operation requires a server-derived region selector")
  | some region => do
    let (start, stop) ← regionBounds request.preimage region
    pure ⟨some {
      kind := region.field "kind"
      name := region.field "name"
      selectionId := region.field "selectionId"
      planArtifactId := region.field "planArtifactId"
      span := (start, stop) }, start, stop⟩

structure AnchorEvidence where
  anchorSha256 : String
  anchorKind : String
  resolvedAnchorSpan : Nat × Nat
  matchCount : Nat
  deriving DecidableEq

structure EditRecord where
  ordinal : Nat
  operation : String
  span : Nat × Nat
  anchor : Option AnchorEvidence
  modelDeclaredRegionId : Json
  trustedRegion : Option TrustedRegion
  deriving DecidableEq

structure PlannedEdit where
  edit : Edit Char
  record : EditRecord
  deriving DecidableEq

/-- `value in names` for a set of names. -/
def memberOf (value : Json) (names : List String) : Except Raised (Option String) :=
  if value.isHashable then .ok (value.asString?.filter fun name => name ∈ names) else .error .typeError

def invalidOperation {α : Type} (message : String) : Except Raised α :=
  .error (.localizedPatchError "INVALID_OPERATION" message)

def operationKind (fields : Record) : Except Raised String := do
  match ← memberOf (fields.field "operation") ["insert", "replace", "delete", "rewrite"] with
  | some operation => pure operation
  | none => invalidOperation "operation must be insert, replace, delete, or rewrite"

def checkBinding (platform : Platform) (request : Request) (fields : Record) : Except Raised Unit := do
  raiseIf (fields.field "path" ≠ .str request.path)
    (.localizedPatchError "PATH_MISMATCH" "operation path differs from target")
  raiseIf (fields.field "repositoryRevision" ≠ .str request.repositoryRevision)
    (.localizedPatchError "STALE_REVISION" "operation revision differs from target")
  raiseIf (fields.field "preimageSha256" ≠ .str request.preimageSha256)
    (.localizedPatchError "STALE_PREIMAGE" "operation digest differs from target")
  match fields.field "regionId" with
  | .null => pure ()
  | .str label =>
    if label ≠ "" ∧ label.length ≤ 128 ∧ label.toList.all platform.isprintable then pure ()
    else invalidOperation "regionId must be a bounded diagnostic identifier when present"
  | _ => invalidOperation "regionId must be a bounded diagnostic identifier when present"

def operationContent (fields : Record) : Except Raised Text :=
  match (fields.get? "content").getD (.str "") with
  | .str content =>
    if '\x00' ∈ content.toList then
      .error (.localizedPatchError "UNSAFE_CONTENT" "operation content must be UTF-8 text without NUL")
    else .ok content.toList
  | _ => .error (.localizedPatchError "UNSAFE_CONTENT" "operation content must be UTF-8 text without NUL")

def anchorText (fields : Record) : Except Raised Text :=
  match fields.field "anchor" with
  | .str anchor =>
    if anchor = "" then .error (.localizedPatchError "MISSING_ANCHOR" "localized operation requires a non-empty anchor")
    else .ok anchor.toList
  | _ => .error (.localizedPatchError "MISSING_ANCHOR" "localized operation requires a non-empty anchor")

def checkMatchCount (fields : Record) : Except Raised Unit :=
  match fields.field "expectedMatchCount" with
  | .int expected =>
    raiseIf (expected < 1)
      (.localizedPatchError "INVALID_MATCH_COUNT" "expectedMatchCount must be a positive integer")
  | _ => .error (.localizedPatchError "INVALID_MATCH_COUNT" "expectedMatchCount must be a positive integer")

def resolveAnchor (request : Request) (scope : Scope) (anchor : Text) : Except Raised LineMatch := do
  raiseIf (anchor.any isLineBreak) (.localizedPatchError "INVALID_ANCHOR"
    "localized anchor must be one complete logical line without a line terminator")
  match logicalLineMatches request.preimage anchor scope.regionStart scope.regionEnd with
  | [found] => pure found
  | [] => .error (.localizedPatchError "ANCHOR_MISSING" "anchor matched 0 times inside trusted region")
  | several => .error (.localizedPatchError "ANCHOR_AMBIGUOUS"
      ("anchor matched " ++ toString several.length ++ " times inside trusted region"))

def placement (fields : Record) : Json := (fields.get? "placement").getD (.str "after")

def insertionOffset (found : LineMatch) (placement : String) : Nat :=
  if placement = "before" then found.start else found.stop + found.terminator.length

structure Located where
  edit : Edit Char
  anchorStart : Nat
  anchorEnd : Nat
  anchorKind : String

def locateInsert (request : Request) (fields : Record) (content anchor : Text) (found : LineMatch) :
    Except Raised Located := do
  match ← memberOf (placement fields) ["before", "after"] with
  | none => invalidOperation "insert placement must be before or after"
  | some placement =>
    let offset := insertionOffset found placement
    pure ⟨⟨offset, offset, lineBoundaryContent request.preimage offset content placement⟩, found.start,
      found.start + anchor.length, "LOGICAL_LINE"⟩

def locate (request : Request) (scope : Scope) (operation : String) (fields : Record) (content anchor : Text) :
    Except Raised Located := do
  if operation = "delete" ∧ anchor = request.preimage ∧ request.operations.length = 1 then
    raiseIf (content ≠ []) (.localizedPatchError "INVALID_OPERATION" "delete must not include content")
    pure ⟨⟨0, anchor.length, content⟩, 0, anchor.length, "WHOLE_FILE"⟩
  else
    let found ← resolveAnchor request scope anchor
    if operation = "insert" then locateInsert request fields content anchor found
    else if operation = "delete" then
      raiseIf (content ≠ []) (.localizedPatchError "INVALID_OPERATION" "delete must not include content")
      .error (.localizedPatchError "DELETE_NOT_AUTHORIZED"
        "localized deletion requires plan-operation evidence; only an exact whole-file delete is available")
    else pure ⟨⟨found.start, found.start + anchor.length, content⟩, found.start, found.start + anchor.length, "LOGICAL_LINE"⟩

def isSection (scope : Scope) : Bool :=
  scope.trustedRegion.any fun region => region.kind = .str "MARKDOWN_SECTION"

def outOfRegion (request : Request) (scope : Scope) (operation : String) (fields : Record) (located : Located) : Bool :=
  located.anchorStart < scope.regionStart || located.anchorEnd > scope.regionEnd ||
    located.edit.start < scope.regionStart || located.edit.stop > scope.regionEnd ||
    (operation = "insert" && placement fields = .str "before" && located.edit.start = scope.regionStart &&
      isSection scope) ||
    (operation = "insert" && placement fields = .str "after" && located.edit.start = scope.regionEnd &&
      isSection scope && scope.regionEnd < request.preimage.length && !located.edit.content.isEmpty &&
      !endsLine located.edit.content)

def planLocalized (platform : Platform) (request : Request) (scope : Scope) (ordinal : Nat) (operation : String)
    (fields : Record) (content : Text) : Except Raised PlannedEdit := do
  let anchor ← anchorText fields
  checkMatchCount fields
  let located ← locate request scope operation fields content anchor
  raiseIf (outOfRegion request scope operation fields located = true)
    (.localizedPatchError "OUT_OF_REGION" "operation anchor is outside the trusted region")
  pure ⟨located.edit, {
    ordinal := ordinal
    operation := operation
    span := (located.edit.start, located.edit.stop)
    anchor := some ⟨platform.sha256 anchor, located.anchorKind, (located.anchorStart, located.anchorEnd), 1⟩
    modelDeclaredRegionId := fields.field "regionId"
    trustedRegion := scope.trustedRegion }⟩

def planRewrite (request : Request) (scope : Scope) (ordinal : Nat) (rewriteSeen : Bool) (fields : Record)
    (content : Text) : Except Raised PlannedEdit := do
  raiseIf ((request.allowRewrite = false ∧ request.targetExists = true) ∨ rewriteSeen = true ∨
      request.operations.length ≠ 1)
    (.localizedPatchError "REWRITE_NOT_AUTHORIZED" "full-file rewrite requires one explicit authorized operation")
  pure ⟨⟨0, request.preimage.length, content⟩, {
    ordinal := ordinal
    operation := "rewrite"
    span := (0, request.preimage.length)
    anchor := none
    modelDeclaredRegionId := fields.field "regionId"
    trustedRegion := scope.trustedRegion }⟩

def planEdit (platform : Platform) (request : Request) (scope : Scope) (ordinal : Nat) (rewriteSeen : Bool) :
    Json → Except Raised PlannedEdit
  | .obj fields => do
    let operation ← operationKind fields
    checkBinding platform request fields
    let content ← operationContent fields
    if operation = "rewrite" then planRewrite request scope ordinal rewriteSeen fields content
    else planLocalized platform request scope ordinal operation fields content
  | _ => invalidOperation "operation must be an object"

def planEdits (platform : Platform) (request : Request) (scope : Scope) (ordinal : Nat) (rewriteSeen : Bool) :
    List Json → Except Raised (List PlannedEdit)
  | [] => pure []
  | raw :: rest => do
    let planned ← planEdit platform request scope ordinal rewriteSeen raw
    let others ← planEdits platform request scope (ordinal + 1) (rewriteSeen || isRewrite raw) rest
    pure (planned :: others)

/-- The spans are in source order and do not overlap. The prior bounds start at `-1`. -/
def checkOrder (priorStart priorEnd : Int) : List (Edit Char) → Except Raised Unit
  | [] => pure ()
  | edit :: rest => do
    raiseIf (edit.start < priorStart)
      (.localizedPatchError "OUT_OF_ORDER_EDITS" "operation spans are not source ordered")
    raiseIf (edit.start < priorEnd) (.localizedPatchError "OVERLAPPING_EDITS" "operation spans overlap")
    checkOrder edit.start (max priorEnd edit.stop) rest

/-- What the loop over the edits has written: the pieces of the output and the unchanged ones. -/
structure Assembly where
  cursor : Nat := 0
  output : List Text := []
  unchanged : List Text := []

namespace Assembly

def add (preimage : Text) (assembly : Assembly) (edit : Edit Char) : Assembly where
  cursor := edit.stop
  output := assembly.output ++ [slice preimage assembly.cursor edit.start, edit.content]
  unchanged := assembly.unchanged ++ [slice preimage assembly.cursor edit.start]

def finish (preimage : Text) (assembly : Assembly) : Assembly where
  cursor := assembly.cursor
  output := assembly.output ++ [preimage.drop assembly.cursor]
  unchanged := assembly.unchanged ++ [preimage.drop assembly.cursor]

def of (preimage : Text) (edits : List (Edit Char)) : Assembly :=
  (edits.foldl (add preimage) {}).finish preimage

end Assembly

def recheckRegion (request : Request) (scope : Scope) (edits : List (Edit Char)) (postimage : Text) :
    Except Raised Unit :=
  match request.region, scope.trustedRegion with
  | some region, some trusted =>
    if trusted.kind = .str "WHOLE_FILE" then pure ()
    else
      match regionBounds postimage region with
      | .error _ => .error (.localizedPatchError "OUT_OF_REGION" "operation changes the trusted region boundary")
      | .ok (start, stop) =>
        raiseIf ((start : Int) ≠ scope.regionStart ∨ (stop : Int) ≠ scope.regionEnd + growth edits)
          (.localizedPatchError "OUT_OF_REGION" "operation changes the trusted region boundary")
  | _, _ => pure ()

structure OperationRecord extends EditRecord where
  path : String
  repositoryRevision : String
  preimageSha256 : String
  postimageSha256 : String
  deriving DecidableEq

structure Preservation where
  preimageSha256 : String
  postimageSha256 : String
  unchangedRegionCount : Nat
  unchangedBytes : Nat
  unchangedSha256 : String
  authorizedSpans : List (Nat × Nat)
  deriving DecidableEq

structure LocalizedPatch where
  content : Text
  operations : List OperationRecord
  replacements : List Text
  preservation : Preservation
  deriving DecidableEq

def patchOf (platform : Platform) (request : Request) (planned : List PlannedEdit) : LocalizedPatch :=
  let assembly := Assembly.of request.preimage (planned.map PlannedEdit.edit)
  let postimage := assembly.output.flatten
  let postimageSha256 := platform.sha256 postimage
  { content := postimage
    operations := planned.map fun plan => {
      plan.record with
      path := request.path
      repositoryRevision := request.repositoryRevision
      preimageSha256 := request.preimageSha256
      postimageSha256 := postimageSha256 }
    replacements := planned.map fun plan => plan.edit.content
    preservation := {
      preimageSha256 := request.preimageSha256
      postimageSha256 := postimageSha256
      unchangedRegionCount := assembly.unchanged.length
      unchangedBytes := Text.utf8Length assembly.unchanged.flatten
      unchangedSha256 := platform.sha256 assembly.unchanged.flatten
      authorizedSpans := planned.map fun plan => plan.record.span } }

def checkTarget (platform : Platform) (request : Request) : Except Raised Unit := do
  safePath request.path
  raiseIf ('\x00' ∈ request.preimage)
    (.localizedPatchError "NON_UTF8_TARGET" "target must be UTF-8 text without NUL")
  raiseIf (platform.sha256 request.preimage ≠ request.preimageSha256)
    (.localizedPatchError "STALE_PREIMAGE" "preimage digest does not bind target content")
  raiseIf (request.repositoryRevision.length ≠ 40)
    (.localizedPatchError "STALE_REVISION" "repository revision must be immutable")
  raiseIf (request.operations = [])
    (.localizedPatchError "MISSING_OPERATION" "localized operations are required")

def applyLocalizedOperations (platform : Platform) (request : Request) : Except Raised LocalizedPatch := do
  checkTarget platform request
  let scope ← resolveScope request
  let planned ← planEdits platform request scope 0 false request.operations
  checkOrder (-1) (-1) (planned.map PlannedEdit.edit)
  let patch := patchOf platform request planned
  recheckRegion request scope (planned.map PlannedEdit.edit) patch.content
  pure patch

end Aep.LocalizedPatch
