import Aep.Errors
import Aep.Library.Result
import Aep.Library.SurrogateEscape

/-! The paths that Git reports: `git status -z`, `git apply --numstat -z` and the quoted paths of a patch. -/
namespace Aep.GitTool

open Result SurrogateEscape

abbrev Bytes := List UInt8

def byteOf (char : Char) : UInt8 := char.toNat.toUInt8

def gitToolContractError {α : Type} (message : String) : Except PyError α := .error { errorClass := .valueError, message }

structure ChangedPath where
  path : EscapedText
  status : EscapedText
  indexStatus : Option EscapedChar := none
  worktreeStatus : Option EscapedChar := none
  previousPath : Option EscapedText := none
  deriving DecidableEq

section Status

/-- The record of an entry and the entries behind it: a rename or copy in the index takes its source from them. -/
def statusRecord (raw : Bytes) (rest : List Bytes) : Except PyError (ChangedPath × Bool) :=
  match decode raw with
  | indexStatus :: worktreeStatus :: third :: path :: more =>
    let record : ChangedPath :=
      { path := path :: more, status := [indexStatus, worktreeStatus], indexStatus := some indexStatus,
        worktreeStatus := some worktreeStatus }
    if indexStatus = .char 'R' ∨ indexStatus = .char 'C' then
      match rest with
      | [] => gitToolContractError "git status omitted rename source"
      | source :: _ =>
        if source = [] then gitToolContractError "git status omitted rename source"
        else .ok ({ record with previousPath := some (decode source) }, true)
    else .ok (record, false)
  | _ => gitToolContractError "git status returned malformed evidence"

/-- The loop of `_parse_status`. The skip counts the entries that a record has taken as its source. -/
def parseStatusEntries : (skip : Nat) → List Bytes → Except PyError (List ChangedPath)
  | _, [] => .ok []
  | skip + 1, _ :: rest => parseStatusEntries skip rest
  | 0, raw :: rest =>
    if raw = [] then parseStatusEntries 0 rest
    else do
      let (record, sourced) ← statusRecord raw rest
      let changed ← parseStatusEntries sourced.toNat rest
      pure (record :: changed)

def parseStatus (value : Bytes) : Except PyError (List ChangedPath) := parseStatusEntries 0 (value.splitOn 0)

end Status

section Numstat

/-- `raw.split(b"\t", 2)`, when it has three fields: only the last one is used. -/
def thirdField (raw : Bytes) : Option Bytes :=
  match raw.dropWhile (· ≠ byteOf '\t') with
  | [] => none
  | _ :: behindFirst =>
    match behindFirst.dropWhile (· ≠ byteOf '\t') with
    | [] => none
    | _ :: path => some path

def patchRecord (path : Bytes) (previousPath : Option Bytes) : ChangedPath :=
  { path := decode path, status := "PATCH".toList.map .char, previousPath := previousPath.map decode }

def numstatRecord (raw : Bytes) (rest : List Bytes) : Except PyError (ChangedPath × Bool) :=
  match thirdField raw with
  | none => gitToolContractError "git apply returned malformed path evidence"
  | some [] =>
    match rest with
    | previous :: path :: _ => .ok (patchRecord path (some previous), true)
    | _ => gitToolContractError "git apply returned malformed rename evidence"
  | some path => .ok (patchRecord path none, false)

def parseNumstatEntries : (skip : Nat) → List Bytes → Except PyError (List ChangedPath)
  | _, [] => .ok []
  | skip + 1, _ :: rest => parseNumstatEntries skip rest
  | 0, raw :: rest =>
    if raw = [] then parseNumstatEntries 0 rest
    else do
      let (record, renamed) ← numstatRecord raw rest
      let changed ← parseNumstatEntries (if renamed then 2 else 0) rest
      pure (record :: changed)

/-- `str.casefold`. -/
structure Platform where
  casefold : EscapedText → EscapedText

variable (platform : Platform)

def sortKey (record : ChangedPath) : List Nat × List Nat :=
  ((platform.casefold record.path).map EscapedChar.codePoint, record.path.map EscapedChar.codePoint)

def keyAtMost (left right : List Nat × List Nat) : Bool :=
  decide (left.1 < right.1) || decide (left.1 = right.1) && !decide (right.2 < left.2)

def sortedPaths (changed : List ChangedPath) : List ChangedPath :=
  changed.mergeSort fun left right => keyAtMost (sortKey platform left) (sortKey platform right)

def parseNumstat (value : Bytes) : Except PyError (List ChangedPath) :=
  sortedPaths platform <$> parseNumstatEntries 0 (value.splitOn 0)

end Numstat

section Quoted

def ESCAPES : List (UInt8 × UInt8) :=
  [(byteOf 'a', 0x07), (byteOf 'b', 0x08), (byteOf 't', 0x09), (byteOf 'n', 0x0a), (byteOf 'v', 0x0b), (byteOf 'f', 0x0c),
    (byteOf 'r', 0x0d), (byteOf '\\', byteOf '\\'), (byteOf '"', byteOf '"')]

def escapeOf (letter : UInt8) : Option UInt8 := (ESCAPES.find? fun entry => entry.1 = letter).map Prod.snd

def isOctal (byte : UInt8) : Bool := byteOf '0' ≤ byte && byte ≤ byteOf '7'

def octalRun (bytes : Bytes) : Bytes := (bytes.takeWhile isOctal).take 3

def octalValue (digits : Bytes) : Nat := digits.foldl (fun value digit => 8 * value + (digit.toNat - (byteOf '0').toNat)) 0

/-- The loop over what stands between the quotes. Each round takes at least one byte. -/
def unescape : (fuel : Nat) → Bytes → Except PyError Bytes
  | _, [] => .ok []
  | 0, _ => .ok []
  | fuel + 1, current :: rest =>
    if current ≠ byteOf '\\' then (current :: ·) <$> unescape fuel rest
    else
      match rest with
      | [] => gitToolContractError "patch contains malformed quoted path"
      | escaped :: behind =>
        match escapeOf escaped with
        | some byte => (byte :: ·) <$> unescape fuel behind
        | none =>
          if isOctal escaped then
            if 0xff < octalValue (octalRun rest) then gitToolContractError "patch contains invalid octal path escape"
            else ((octalValue (octalRun rest)).toUInt8 :: ·) <$> unescape fuel (rest.drop (octalRun rest).length)
          else gitToolContractError "patch contains unsupported quoted path escape"

def strictText (bytes : Bytes) : Except PyError Text :=
  match strict? bytes with
  | some text => .ok text
  | none => gitToolContractError "patch path is not valid UTF-8"

def decodePatchPath (value : Bytes) : Except PyError Text :=
  if value.head? ≠ some (byteOf '"') then strictText value
  else if value.length < 2 ∨ value.getLast? ≠ some (byteOf '"') then
    gitToolContractError "patch contains malformed quoted path"
  else do
    let quoted := value.tail.dropLast
    let encoded ← unescape quoted.length quoted
    raiseIf (0 ∈ encoded) { errorClass := .valueError, message := "patch path must not contain NUL" }
    strictText encoded

end Quoted

end Aep.GitTool
