import Aep.Library.Utf8
import Aep.PlanningEvidence.Predicates

/-! The scan of `PinnedWorkspaceReader.inspect`, which reads a blob in chunks. -/
namespace Aep.PinnedWorkspace

open LocalizedPatch PlanningEvidence Result

inductive ReaderReason where
  | sizeLimitExceeded
  | binaryContent
  | invalidUtf8
  | revisionMismatch
  | concurrentSizeDrift
  | statusFieldMalformed
  | statusFieldScanLimitExceeded
  deriving DecidableEq

structure ReaderError where
  reason : ReaderReason
  metadata : InspectionMetadata
  deriving DecidableEq

structure PlanningEvidenceInspection where
  content : Text
  blobSize : Nat
  blobSha256 : String
  inspectedBytes : Nat
  statusFields : List (Text × Nat)
  deriving DecidableEq

/-- What is asked of the reader, and what Git reports of the blob and of the process that prints it. -/
structure Request where
  path : String
  maxBytes : Nat
  strategy : String
  statusScanBytes : Nat
  size : Nat
  returnCode : Int := 0

/-- The variables that the nested functions of `inspect` share. -/
structure ScanState where
  statusFields : List (Text × Nat) := []
  statusBuffer : Text := []
  statusLine : Nat := 1
  statusActive : Bool := true
  statusAfterCr : Bool := false
  titleSeen : Bool := false
  statusSeen : Bool := false
  deriving DecidableEq

def ceilingError (request : Request) (reason : ReaderReason) (blobSize : Nat) : ReaderError where
  reason := reason
  metadata := {
    path := request.path
    blobSize := some blobSize
    appliedTrustedCeiling := some request.maxBytes
    inspectionStrategy := some request.strategy }

def malformedError (request : Request) : ReaderError where
  reason := .statusFieldMalformed
  metadata := { (ceilingError request .statusFieldMalformed request.size).metadata with evaluationComplete := true }

def scanLimitError (request : Request) : ReaderError where
  reason := .statusFieldScanLimitExceeded
  metadata := {
    path := request.path
    blobSize := some request.size
    appliedTrustedCeiling := some request.statusScanBytes
    inspectionStrategy := some request.strategy }

section Lines

def isBreak (char : Char) : Bool := char = '\r' || char = '\n'

def statusPrefix : Text := "**Status:**".toList

/-- `^ {0,3}#(?:[ \t].*)?$`. -/
def titleStartPattern : Pattern :=
  indented [.literal "#", .optional (.seq (.anyOf " \t") (.many (.noneOf "\n"))), .atEnd]

def possibleMetadata (titleSeen statusSeen : Bool) (candidate : Text) : Bool :=
  if statusPrefix.isPrefixOf candidate then true
  else if candidate.isPrefixOf statusPrefix then true
  else if !titleSeen && !statusSeen then titleStartPattern.accepted candidate
  else false

def removeCr (line : Text) : Text := if line.getLast? = some '\r' then line.dropLast else line

variable (request : Request)

def consumeStatusLine (state : ScanState) (line : Text) : Except ReaderError ScanState :=
  let text := removeCr line
  if isMarkdownBlank text then .ok { state with statusLine := state.statusLine + 1 }
  else
    match statusPattern.matchStart text with
    | some found => .ok { state with
        statusFields := state.statusFields ++ [((found.group "value").getD [], state.statusLine)]
        statusSeen := true
        statusLine := state.statusLine + 1 }
    | none =>
      if (Pattern.literal "**Status:**").accepted text then .error (malformedError request)
      else if !state.titleSeen && !state.statusSeen && isNonemptyDocumentTitle text then
        .ok { state with titleSeen := true, statusLine := state.statusLine + 1 }
      else .ok { state with statusActive := false, statusLine := state.statusLine + 1 }

def retainStatusFragment (state : ScanState) (fragment : Text) : Except ReaderError ScanState :=
  let candidate := state.statusBuffer ++ fragment
  if !isMarkdownBlank candidate && !possibleMetadata state.titleSeen state.statusSeen candidate then
    .ok { state with statusActive := false, statusBuffer := [] }
  else if state.statusBuffer.utf8Length + fragment.utf8Length > request.statusScanBytes then
    .error (scanLimitError request)
  else .ok { state with statusBuffer := candidate }

/-- The loop of `consume_status_text`. Each round takes at least one character. -/
def consumeRemainder : (fuel : Nat) → ScanState → Text → Except ReaderError ScanState
  | 0, state, _ => .ok state
  | fuel + 1, state, remainder =>
    if remainder = [] || !state.statusActive then .ok state
    else
      match remainder.dropWhile (!isBreak ·) with
      | [] => retainStatusFragment request state remainder
      | delimiter :: rest => do
        let retained ← retainStatusFragment request state (remainder.takeWhile (!isBreak ·))
        if !retained.statusActive then return retained
        let consumed ← consumeStatusLine request retained retained.statusBuffer
        let emptied := { consumed with statusBuffer := [] }
        if delimiter = '\r' && rest.head? = some '\n' then consumeRemainder fuel emptied rest.tail
        else if delimiter = '\r' && rest = [] then return { emptied with statusAfterCr := true }
        else consumeRemainder fuel emptied rest

def withoutNewline (text : Text) : Text := if text.head? = some '\n' then text.tail else text

def consumeStatusText (state : ScanState) (value : Text) : Except ReaderError ScanState :=
  let remainder := if state.statusAfterCr then withoutNewline value else value
  consumeRemainder request remainder.length { state with statusAfterCr := false } remainder

end Lines

section Chunks

structure StreamState where
  inspected : Nat := 0
  digested : List UInt8 := []
  undecoded : List UInt8 := []
  scan : ScanState

variable (request : Request)

def scanText (scan : ScanState) (decoded : Text) : Except ReaderError ScanState :=
  if scan.statusActive then consumeStatusText request scan decoded else .ok scan

def readChunk (state : StreamState) (chunk : List UInt8) : Except ReaderError StreamState := do
  let inspected := state.inspected + chunk.length
  raiseIf (inspected > request.maxBytes) (ceilingError request .sizeLimitExceeded inspected)
  raiseIf (0 ∈ chunk) (ceilingError request .binaryContent request.size)
  match Utf8.decode (state.undecoded ++ chunk) with
  | none => .error (ceilingError request .invalidUtf8 request.size)
  | some (decoded, undecoded) =>
    let scan ← scanText request state.scan decoded
    return { inspected, digested := state.digested ++ chunk, undecoded, scan }

def readChunks : StreamState → List (List UInt8) → Except ReaderError StreamState
  | state, [] => .ok state
  | state, chunk :: rest => if chunk = [] then .ok state else do readChunks (← readChunk request state chunk) rest

def finishScan (scan : ScanState) : Except ReaderError ScanState :=
  if scan.statusActive then do
    let consumed ← consumeStatusText request scan []
    if consumed.statusBuffer = [] then return consumed
    consumeStatusLine request consumed consumed.statusBuffer
  else .ok scan

def retainedContent (bytes : List UInt8) : Except ReaderError Text :=
  match Utf8.decode bytes with
  | some (text, []) => .ok text
  | _ => .error {
      reason := .invalidUtf8
      metadata := {
        path := request.path
        blobSize := some request.size
        appliedTrustedCeiling := some request.maxBytes } }

/-- `inspect` from the check of the blob's size on. -/
def inspect (sha256 : List UInt8 → String) (chunks : List (List UInt8)) : Except ReaderError PlanningEvidenceInspection := do
  raiseIf (request.size > request.maxBytes) {
    reason := .sizeLimitExceeded
    metadata := { path := request.path, blobSize := some request.size, appliedTrustedCeiling := some request.maxBytes } }
  let complete := request.strategy = "COMPLETE_BLOB_SCAN"
  let stream ← readChunks request { scan := { statusActive := !complete } } chunks
  raiseIf (stream.undecoded ≠ []) (ceilingError request .invalidUtf8 request.size)
  let scan ← finishScan request stream.scan
  raiseIf (request.returnCode ≠ 0) (ceilingError request .revisionMismatch stream.inspected)
  raiseIf (stream.inspected ≠ request.size) {
    reason := .concurrentSizeDrift
    metadata := { path := request.path, blobSize := some stream.inspected, appliedTrustedCeiling := some request.maxBytes } }
  let content ← if complete then retainedContent request stream.digested else .ok []
  return {
    content
    blobSize := request.size
    blobSha256 := sha256 stream.digested
    inspectedBytes := stream.inspected
    statusFields := scan.statusFields }

end Chunks

end Aep.PinnedWorkspace
