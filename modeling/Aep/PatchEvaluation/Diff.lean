import Aep.GitTool.Evidence
import Aep.Library.Dict
import Aep.Library.Float64
import Aep.Library.Pattern
import Mathlib.Data.List.Dedup
import Mathlib.Data.List.Sort

/-! What the patch evaluation reads of a diff: its files, its hunks and what they delete and add. -/
namespace Aep.PatchEvaluation

open GitTool (Bytes)

/-- `str.casefold`, `str.lower`, the values of decimal digits, UTF-8 with replacement characters and SHA-256 in hexadecimal. -/
structure Platform where
  casefold : Text → Text
  lower : Text → Text
  decimal : Char → Option Nat
  decodeReplacing : Bytes → Text
  sha256 : Bytes → String

section Lines

/-- The characters other than a line feed and a carriage return at which `str.splitlines` ends a line. -/
def OTHER_BREAKS : List Nat := [0x0b, 0x0c, 0x1c, 0x1d, 0x1e, 0x85, 0x2028, 0x2029]

def isLineBreak (char : Char) : Bool := char = '\n' || char = '\r' || OTHER_BREAKS.contains char.toNat

def splitlinesFrom (line : Text) : Text → List Text
  | [] => if line.isEmpty then [] else [line.reverse]
  | '\r' :: '\n' :: rest => line.reverse :: splitlinesFrom [] rest
  | char :: rest => if isLineBreak char then line.reverse :: splitlinesFrom [] rest else splitlinesFrom (char :: line) rest

/-- `str.splitlines`. -/
def splitlines (text : Text) : List Text := splitlinesFrom [] text

def starts (line : Text) (marker : String) : Bool := marker.toList.isPrefixOf line

def isAddition (line : Text) : Bool := starts line "+" && !starts line "+++"

def isDeletion (line : Text) : Bool := starts line "-" && !starts line "---"

def devNull : Text := "/dev/null".toList

/-- `_patch_marker_path`. -/
def patchMarkerPath (line : Text) (marker : String) : Except PyError (Option Text) :=
  if starts line marker then do
    let path ← GitTool.decodePatchPath (Utf8.encode (line.drop marker.length))
    pure (if path = devNull then some path else if starts path "a/" || starts path "b/" then some (path.drop 2) else none)
  else .ok none

end Lines

section Order

variable (platform : Platform)

/-- Whether one path comes before another, or where it does: by the folded path, then by the path. -/
def pathAtMost (left right : Text) : Bool :=
  decide (platform.casefold left < platform.casefold right) ||
    decide (platform.casefold left = platform.casefold right) && !decide (right < left)

def sortedSet (paths : List Text) : List Text := paths.dedup.insertionSort fun left right => pathAtMost platform left right

theorem mem_sortedSet {path : Text} {paths : List Text} : path ∈ sortedSet platform paths ↔ path ∈ paths := by
  rw [sortedSet, List.mem_insertionSort, List.mem_dedup]

end Order

section Counts

/-- `_line_change_counts`. -/
def lineChangeCounts (content : Bytes) : Nat × Nat :=
  match SurrogateEscape.strict? content with
  | some text => ((splitlines text).countP isAddition, (splitlines text).countP isDeletion)
  | none => (0, 0)

def ratio (part whole : Nat) : Rat := Float64.nearest (part / whole)

def FOUR_FIFTHS : Rat := Float64.nearest (4 / 5)

end Counts

section Hunks

variable (platform : Platform)

structure Hunk where
  path : Text
  deletedLines : Nat := 0
  addedLines : Nat := 0
  contextLines : Nat := 0
  sourceLines : Nat
  deriving DecidableEq

def Hunk.isUnpreserved (hunk : Hunk) : Bool :=
  hunk.deletedLines ≥ 2 &&
    (hunk.contextLines = 0 ||
      hunk.deletedLines ≥ 5 && hunk.sourceLines > 0 && decide (FOUR_FIFTHS ≤ ratio hunk.deletedLines hunk.sourceLines))

/-- `int` of decimal digits, of which there may not be more than 4300. -/
def intOf (digits : Text) : Except PyError Nat :=
  if 4300 < digits.length then .error { errorClass := .valueError, message := "Exceeds the limit for integer string conversion" }
  else .ok (digits.foldl (fun value digit => 10 * value + (platform.decimal digit).getD 0) 0)

def digit : Pattern := .one fun char => (platform.decimal char).isSome

/-- `^@@ -\d+(?:,(\d+))? `. -/
def hunkPattern : Pattern :=
  .sequence [.literal "@@ -", .repeated (digit platform),
    .optional (.sequence [.literal ",", .group "count" (.repeated (digit platform))]), .literal " "]

def sourceLines (line : Text) : Except PyError Nat :=
  match (hunkPattern platform).matchStart line with
  | some found => intOf platform ((found.group "count").getD ['1'])
  | none => .ok 0

structure HunkScan where
  hunks : List Hunk := []
  current : Option Hunk := none
  path : Option Text := none

def HunkScan.finish (scan : HunkScan) : List Hunk := scan.hunks ++ (scan.current.filter Hunk.isUnpreserved).toList

def Hunk.count (hunk : Hunk) (line : Text) : Hunk :=
  if isDeletion line then { hunk with deletedLines := hunk.deletedLines + 1 }
  else if isAddition line then { hunk with addedLines := hunk.addedLines + 1 }
  else if starts line " " then { hunk with contextLines := hunk.contextLines + 1 }
  else hunk

def HunkScan.step (scan : HunkScan) (line : Text) : Except PyError HunkScan := do
  let marker ← patchMarkerPath line "--- "
  match marker.filter (· ≠ devNull) with
  | some path => pure { scan with path := some path }
  | none =>
    if starts line "@@ " then
      (fun lines => { scan with hunks := scan.finish, current := some { path := scan.path.getD [], sourceLines := lines } }) <$>
        sourceLines platform line
    else pure { scan with current := scan.current.map (Hunk.count · line) }

/-- `_unpreserved_hunks`. -/
def unpreservedHunks (content : Bytes) : Except PyError (List Hunk) :=
  HunkScan.finish <$> (splitlines (platform.decodeReplacing content)).foldlM (HunkScan.step platform) {}

end Hunks

section Deletions

variable (platform : Platform)

structure DeletionScan where
  current : Option Text := none
  deleted : Nat := 0
  added : Nat := 0
  paths : List Text := []

def DeletionScan.completeHunk (scan : DeletionScan) : DeletionScan :=
  match scan.current with
  | some current => if scan.deleted > scan.added then { scan with paths := current :: scan.paths } else scan
  | none => scan

def DeletionScan.step (scan : DeletionScan) (line : Text) : Except PyError DeletionScan := do
  let marker ← patchMarkerPath line "--- "
  pure <| match marker with
    | some path =>
      { scan.completeHunk with current := if path = devNull then none else some path, deleted := 0, added := 0 }
    | none =>
      if starts line "@@ " then { scan.completeHunk with deleted := 0, added := 0 }
      else if scan.current.isSome && isDeletion line then { scan with deleted := scan.deleted + 1 }
      else if scan.current.isSome && isAddition line then { scan with added := scan.added + 1 }
      else scan

/-- `_deleted_paths`. -/
def deletedPaths (content : Bytes) : Except PyError (List Text) :=
  (fun scan => sortedSet platform scan.completeHunk.paths) <$>
    (splitlines (platform.decodeReplacing content)).foldlM DeletionScan.step {}

end Deletions

section Postimages

variable (platform : Platform)

structure BlockScan where
  current : Option Text := none
  active : List Text := []
  hasAddition : Bool := false
  values : Dict Text (List Text) := []

def BlockScan.finish (scan : BlockScan) : BlockScan :=
  let values :=
    match scan.current with
    | some current =>
      if !scan.active.isEmpty && scan.hasAddition then
        scan.values.set current ((scan.values.get? current).getD [] ++ [['\n'].intercalate scan.active])
      else scan.values
    | none => scan.values
  { scan with active := [], hasAddition := false, values }

def BlockScan.step (scan : BlockScan) (line : Text) : Except PyError BlockScan := do
  let marker ← patchMarkerPath line "+++ "
  pure <| match marker with
    | some path => { scan.finish with current := if path = devNull then none else some path }
    | none =>
      if starts line "@@ " then scan.finish
      else if scan.current.isSome && isAddition line then
        { scan with active := scan.active ++ [line.drop 1], hasAddition := true }
      else if scan.current.isSome && starts line " " then { scan with active := scan.active ++ [line.drop 1] }
      else if scan.current.isSome && isDeletion line then scan
      else if starts line "\\ No newline at end of file" then scan
      else scan.finish

/-- `_postimage_blocks_by_path`: the postimages of the hunks that add lines. -/
def postimageBlocksByPath (content : Bytes) : Except PyError (Dict Text (List Text)) :=
  (fun scan => scan.finish.values) <$> (splitlines (platform.decodeReplacing content)).foldlM BlockScan.step {}

end Postimages

end Aep.PatchEvaluation
