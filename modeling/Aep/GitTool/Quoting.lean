import Aep.GitTool.Evidence
import Mathlib.Data.List.TakeWhile

/-! What Git prints, and what the parsers read of it. -/
namespace Aep.GitTool

open Result SurrogateEscape

structure GitPath where
  bytes : Bytes
  named : bytes ≠ []
  plain : 0 ∉ bytes

/-- The output of a command under `-z`. -/
def terminated (pieces : List Bytes) : Bytes := pieces.flatMap (· ++ [0])

theorem splitOn_terminated {pieces : List Bytes} (plain : ∀ piece ∈ pieces, 0 ∉ piece) :
    (terminated pieces).splitOn 0 = pieces ++ [[]] := by
  induction pieces with
  | nil => rfl
  | cons piece rest ih =>
    have whole : terminated (piece :: rest) = piece ++ 0 :: terminated rest := by simp [terminated]
    rw [whole, List.splitOn_append_cons_self, ih fun piece member => plain piece (.tail _ member),
      List.splitOn_eq_singleton (plain piece (.head _))]
    rfl

section Status

inductive StatusCode where
  | unmodified
  | modified
  | typeChanged
  | added
  | deleted
  | renamed
  | copied
  | unmerged
  | untracked
  | ignored
  deriving DecidableEq

namespace StatusCode

def char : StatusCode → Char
  | .unmodified => ' '
  | .modified => 'M'
  | .typeChanged => 'T'
  | .added => 'A'
  | .deleted => 'D'
  | .renamed => 'R'
  | .copied => 'C'
  | .unmerged => 'U'
  | .untracked => '?'
  | .ignored => '!'

def moves (code : StatusCode) : Bool := code = .renamed || code = .copied

theorem encode_char (code : StatusCode) : String.utf8EncodeChar code.char = [byteOf code.char] := by
  cases code <;> decide

theorem char_ne_nul (code : StatusCode) : (0 : UInt8) ≠ byteOf code.char := by
  cases code <;> decide

theorem char_moves (code : StatusCode) :
    (EscapedChar.char code.char = .char 'R' ∨ EscapedChar.char code.char = .char 'C') ↔ code.moves = true := by
  cases code <;> decide

end StatusCode

/-- An entry of `git status --porcelain=v1 -z`. It has a source when either side of it is a rename or a copy. -/
structure StatusEntry where
  index : StatusCode
  worktree : StatusCode
  path : GitPath
  source : Option GitPath
  sourced : source.isSome = (index.moves || worktree.moves)

namespace StatusEntry

def head (entry : StatusEntry) : Bytes :=
  byteOf entry.index.char :: byteOf entry.worktree.char :: byteOf ' ' :: entry.path.bytes

def sourcePieces (entry : StatusEntry) : List Bytes := (entry.source.map GitPath.bytes).toList

def pieces (entry : StatusEntry) : List Bytes := entry.head :: entry.sourcePieces

def unsourced (entry : StatusEntry) : ChangedPath where
  path := decode entry.path.bytes
  status := [.char entry.index.char, .char entry.worktree.char]
  indexStatus := some (.char entry.index.char)
  worktreeStatus := some (.char entry.worktree.char)

def record (entry : StatusEntry) : ChangedPath :=
  { entry.unsourced with previousPath := entry.source.map fun source => decode source.bytes }

theorem plain (entry : StatusEntry) : ∀ piece ∈ entry.pieces, 0 ∉ piece := by
  intro piece member
  rcases List.mem_cons.mp member with rfl | source
  · have space : (0 : UInt8) ≠ byteOf ' ' := by decide
    simp [head, entry.index.char_ne_nul, entry.worktree.char_ne_nul, space, entry.path.plain]
  · cases found : entry.source with
    | none => simp [sourcePieces, found] at source
    | some path =>
      simp only [sourcePieces, found, Option.map_some, Option.toList_some, List.mem_singleton] at source
      rw [source]
      exact path.plain

theorem statusRecord_head (entry : StatusEntry) (rest : List Bytes) :
    statusRecord entry.head rest =
      if entry.index.moves then
        match rest with
        | [] => gitToolContractError "git status omitted rename source"
        | source :: _ =>
          if source = [] then gitToolContractError "git status omitted rename source"
          else .ok ({ entry.unsourced with previousPath := some (decode source) }, true)
      else .ok (entry.unsourced, false) := by
  have space : String.utf8EncodeChar ' ' = [byteOf ' '] := by decide
  cases path : decode entry.path.bytes with
  | nil => exact absurd (decode_injective (path.trans (by rfl : [] = decode []))) entry.path.named
  | cons first more =>
    simp only [statusRecord, head, decode_cons entry.index.encode_char, decode_cons entry.worktree.encode_char,
      decode_cons space, path, entry.index.char_moves, unsourced] <;> rfl

end StatusEntry

def statusOutput (entries : List StatusEntry) : Bytes := terminated (entries.flatMap StatusEntry.pieces)

theorem parseStatusEntries_indexed {entry : StatusEntry} (indexed : entry.worktree.moves → entry.index.moves)
    (rest : List Bytes) :
    parseStatusEntries 0 (entry.pieces ++ rest) = (entry.record :: ·) <$> parseStatusEntries 0 rest := by
  have named : entry.head ≠ [] := by simp [StatusEntry.head]
  have sourced := entry.sourced
  rw [StatusEntry.pieces, List.cons_append, parseStatusEntries, if_neg named, StatusEntry.statusRecord_head]
  by_cases moves : entry.index.moves
  · cases source : entry.source with
    | none => simp [source, moves] at sourced
    | some path =>
      simp only [StatusEntry.sourcePieces, source, Option.map_some, Option.toList_some, List.singleton_append, moves, if_true,
        path.named, if_false, ok_bind, Bool.toNat_true, parseStatusEntries, StatusEntry.record]
      rfl
  · cases source : entry.source with
    | none =>
      simp only [StatusEntry.sourcePieces, source, Option.map_none, Option.toList_none, List.nil_append, moves,
        Bool.false_eq_true, if_false, ok_bind, Bool.toNat_false, StatusEntry.record]
      rfl
    | some path =>
      have still : entry.worktree.moves = false := by
        cases moving : entry.worktree.moves
        · rfl
        · exact absurd (indexed moving) moves
      simp [source, moves, still] at sourced

theorem parseStatusEntries_unindexed {entry : StatusEntry} (unindexed : entry.index.moves = false) (rest : List Bytes) :
    parseStatusEntries 0 (entry.pieces ++ rest) =
      (entry.unsourced :: ·) <$> parseStatusEntries 0 (entry.sourcePieces ++ rest) := by
  have named : entry.head ≠ [] := by simp [StatusEntry.head]
  rw [StatusEntry.pieces, List.cons_append, parseStatusEntries, if_neg named, StatusEntry.statusRecord_head]
  simp only [unindexed, Bool.false_eq_true, if_false, ok_bind, Bool.toNat_false]
  rfl

theorem parseStatus_output (entries : List StatusEntry) :
    parseStatus (statusOutput entries) = .ok (entries.map StatusEntry.record) ↔
      ∀ entry ∈ entries, entry.worktree.moves → entry.index.moves := by
  have plain : ∀ piece ∈ entries.flatMap StatusEntry.pieces, 0 ∉ piece := by
    intro piece member
    obtain ⟨entry, -, inside⟩ := List.mem_flatMap.mp member
    exact entry.plain piece inside
  rw [parseStatus, statusOutput, splitOn_terminated plain]
  clear plain
  induction entries with
  | nil =>
    constructor
    · intro _ entry member
      cases member
    · intro _
      rfl
  | cons entry rest ih =>
    rw [List.flatMap_cons, List.append_assoc, List.map_cons, List.forall_mem_cons]
    by_cases indexed : entry.worktree.moves → entry.index.moves
    · rw [parseStatusEntries_indexed indexed]
      simp only [map_eq_ok, List.cons.injEq, true_and, exists_eq_right]
      exact ⟨fun parsed => ⟨indexed, ih.mp parsed⟩, fun all => ih.mpr all.2⟩
    · rw [Classical.not_imp] at indexed
      have unindexed : entry.index.moves = false := by simpa using indexed.2
      rw [parseStatusEntries_unindexed unindexed]
      constructor
      · intro parsed
        obtain ⟨changed, -, same⟩ := map_eq_ok.mp parsed
        have previous := congrArg ChangedPath.previousPath (List.cons.inj same).1
        have sourced := entry.sourced
        rw [indexed.1, Bool.or_true] at sourced
        simp only [StatusEntry.unsourced, StatusEntry.record] at previous
        rw [eq_comm, Option.map_eq_none_iff] at previous
        rw [previous] at sourced
        cases sourced
      · intro both
        exact absurd (both.1 indexed.1) indexed.2

end Status

section Numstat

def digits (count : Nat) : Bytes := (Nat.toDigits 10 count).map byteOf

theorem digits_plain {count : Nat} {byte : UInt8} (member : byte ∈ digits count) : byte ≠ byteOf '\t' ∧ byte ≠ 0 := by
  obtain ⟨char, inside, rfl⟩ := List.mem_map.mp member
  have digit := Nat.isDigit_of_mem_toDigits (by omega) (by omega) inside
  simp only [Char.isDigit, Bool.and_eq_true, decide_eq_true_eq] at digit
  have least : 48 ≤ char.toNat := UInt32.le_iff_toNat_le.mp digit.1
  have most : char.toNat ≤ 57 := UInt32.le_iff_toNat_le.mp digit.2
  have number : (byteOf char).toNat = char.toNat := by
    rw [byteOf, UInt8.toNat_ofNat']
    omega
  constructor
  · intro same
    rw [same] at number
    have tab : (byteOf '\t').toNat = 9 := rfl
    omega
  · intro same
    rw [same] at number
    have zero : (0 : UInt8).toNat = 0 := rfl
    omega

/-- An entry of `--numstat -z`: the lines added and deleted, unless the file is binary, and the path. A diff also names the
    source of a rename; `git apply` does not. -/
structure NumstatEntry where
  counts : Option (Nat × Nat)
  path : GitPath
  source : Option GitPath

namespace NumstatEntry

def added (entry : NumstatEntry) : Bytes := (entry.counts.map fun counts => digits counts.1).getD [byteOf '-']

def deleted (entry : NumstatEntry) : Bytes := (entry.counts.map fun counts => digits counts.2).getD [byteOf '-']

def head (entry : NumstatEntry) (path : Bytes) : Bytes :=
  entry.added ++ byteOf '\t' :: (entry.deleted ++ byteOf '\t' :: path)

def pieces (entry : NumstatEntry) : List Bytes :=
  match entry.source with
  | none => [entry.head entry.path.bytes]
  | some source => [entry.head [], source.bytes, entry.path.bytes]

def record (entry : NumstatEntry) : ChangedPath := patchRecord entry.path.bytes (entry.source.map GitPath.bytes)

theorem counts_plain (entry : NumstatEntry) : (byteOf '\t' ∉ entry.added ∧ 0 ∉ entry.added) ∧
    (byteOf '\t' ∉ entry.deleted ∧ 0 ∉ entry.deleted) := by
  unfold added deleted
  cases entry.counts with
  | none => decide
  | some counts =>
    exact ⟨⟨fun member => (digits_plain member).1 rfl, fun member => (digits_plain member).2 rfl⟩,
      ⟨fun member => (digits_plain member).1 rfl, fun member => (digits_plain member).2 rfl⟩⟩

theorem head_plain (entry : NumstatEntry) {path : Bytes} (plain : 0 ∉ path) : 0 ∉ entry.head path := by
  have tab : (0 : UInt8) ≠ byteOf '\t' := by decide
  have counts := entry.counts_plain
  simp [head, counts.1.2, counts.2.2, plain, tab]

theorem plain (entry : NumstatEntry) : ∀ piece ∈ entry.pieces, 0 ∉ piece := by
  intro piece member
  unfold pieces at member
  cases source : entry.source with
  | none =>
    rw [source, List.mem_singleton] at member
    rw [member]
    exact entry.head_plain entry.path.plain
  | some path =>
    simp only [source, List.mem_cons, List.not_mem_nil, or_false] at member
    rcases member with rfl | rfl | rfl
    · exact entry.head_plain (by simp)
    · exact path.plain
    · exact entry.path.plain

theorem thirdField_head (entry : NumstatEntry) (path : Bytes) : thirdField (entry.head path) = some path := by
  have cut {front rest : Bytes} (plain : byteOf '\t' ∉ front) :
      (front ++ byteOf '\t' :: rest).dropWhile (· ≠ byteOf '\t') = byteOf '\t' :: rest := by
    rw [List.dropWhile_append_of_pos]
    · simp
    · intro byte member
      have other : byte ≠ byteOf '\t' := fun same => plain (same ▸ member)
      simpa using other
  rw [thirdField, head, cut entry.counts_plain.1.1]
  simp only
  rw [cut entry.counts_plain.2.1]

end NumstatEntry

def numstatOutput (entries : List NumstatEntry) : Bytes := terminated (entries.flatMap NumstatEntry.pieces)

theorem parseNumstatEntries_entry (entry : NumstatEntry) (rest : List Bytes) :
    parseNumstatEntries 0 (entry.pieces ++ rest) = (entry.record :: ·) <$> parseNumstatEntries 0 rest := by
  have named (path : Bytes) : entry.head path ≠ [] := by simp [NumstatEntry.head]
  cases source : entry.source with
  | none =>
    cases bytes : entry.path.bytes with
    | nil => exact absurd bytes entry.path.named
    | cons first more =>
      simp only [NumstatEntry.pieces, source, List.singleton_append, parseNumstatEntries, named, if_false, numstatRecord,
        entry.thirdField_head, bytes, ok_bind, Bool.false_eq_true, NumstatEntry.record, Option.map_none]
      rfl
  | some path =>
    simp only [NumstatEntry.pieces, source, List.cons_append, List.nil_append, parseNumstatEntries, named, if_false,
      numstatRecord, entry.thirdField_head, ok_bind, if_true, NumstatEntry.record, Option.map_some]
    rfl

variable (platform : Platform)

theorem parseNumstat_output (entries : List NumstatEntry) :
    parseNumstat platform (numstatOutput entries) = .ok (sortedPaths platform (entries.map NumstatEntry.record)) := by
  have plain : ∀ piece ∈ entries.flatMap NumstatEntry.pieces, 0 ∉ piece := by
    intro piece member
    obtain ⟨entry, -, inside⟩ := List.mem_flatMap.mp member
    exact entry.plain piece inside
  have parsed : parseNumstatEntries 0 (entries.flatMap NumstatEntry.pieces ++ [[]]) = .ok (entries.map NumstatEntry.record) := by
    clear plain
    induction entries with
    | nil => rfl
    | cons entry rest ih =>
      rw [List.flatMap_cons, List.append_assoc, parseNumstatEntries_entry, ih]
      rfl
  rw [parseNumstat, numstatOutput, splitOn_terminated plain, parsed]
  rfl

end Numstat

end Aep.GitTool

/-! The quoted paths of a patch: what Git writes between the quotes, and what is read of it. -/
namespace Aep.GitTool

open Result SurrogateEscape

/-- What a body stands for: Git writes a byte as it is, by the letter of its escape or by three octal digits. -/
inductive GitQuoted : Bytes → Bytes → Prop
  | nil : GitQuoted [] []
  | plain {byte : UInt8} {body bytes : Bytes} (unquoted : byte ≠ byteOf '"') (unescaped : byte ≠ byteOf '\\')
      (rest : GitQuoted body bytes) : GitQuoted (byte :: body) (byte :: bytes)
  | letter {letter byte : UInt8} {body bytes : Bytes} (escape : escapeOf letter = some byte)
      (rest : GitQuoted body bytes) : GitQuoted (byteOf '\\' :: letter :: body) (byte :: bytes)
  | octal {first second third : UInt8} {body bytes : Bytes} (small : byteOf '0' ≤ first ∧ first ≤ byteOf '3')
      (octals : isOctal second ∧ isOctal third) (rest : GitQuoted body bytes) :
      GitQuoted (byteOf '\\' :: first :: second :: third :: body) ((octalValue [first, second, third]).toUInt8 :: bytes)

def GitQuotes (value bytes : Bytes) : Prop := ∃ body, value = byteOf '"' :: (body ++ [byteOf '"']) ∧ GitQuoted body bytes

inductive Token where
  | plain (byte : UInt8)
  | letter (char : UInt8)
  | octal (digits : Bytes)
  | cut

namespace Token

def value? : Token → Option UInt8
  | .plain byte => some byte
  | .letter char => escapeOf char
  | .octal digits => if 0xff < octalValue digits then none else some (octalValue digits).toUInt8
  | .cut => none

def proper : Token → Bool
  | .plain byte => byte ≠ byteOf '"'
  | .octal digits => digits.length = 3
  | _ => true

end Token

def nextToken (current : UInt8) (rest : Bytes) : Token × Bytes :=
  if current ≠ byteOf '\\' then (.plain current, rest)
  else
    match rest with
    | [] => (.cut, [])
    | escaped :: behind =>
      if isOctal escaped then (.octal (octalRun rest), rest.drop (octalRun rest).length) else (.letter escaped, behind)

/-- The bytes and escapes of a body. An octal escape ends with its third digit at the latest. -/
def tokens : (fuel : Nat) → Bytes → List Token
  | _, [] => []
  | 0, _ => []
  | fuel + 1, current :: rest => (nextToken current rest).1 :: tokens fuel (nextToken current rest).2

section Octal

theorem escapeOf_octal {letter : UInt8} (octal : isOctal letter = true) : escapeOf letter = none := by
  simp only [isOctal, Bool.and_eq_true, decide_eq_true_eq, UInt8.le_iff_toNat_le] at octal
  simp only [escapeOf, Option.map_eq_none_iff, List.find?_eq_none, decide_eq_true_eq]
  intro entry member same
  have outside : ∀ entry ∈ ESCAPES, ¬((byteOf '0').toNat ≤ entry.1.toNat ∧ entry.1.toNat ≤ (byteOf '7').toNat) := by
    intro entry member within
    simp only [ESCAPES, List.mem_cons, List.not_mem_nil, or_false] at member
    rcases member with rfl | rfl | rfl | rfl | rfl | rfl | rfl | rfl | rfl <;> revert within <;> decide
  exact outside entry member (same ▸ octal)

theorem octalRun_three {first second third : UInt8} {rest : Bytes} (firstOctal : isOctal first = true)
    (secondOctal : isOctal second = true) (thirdOctal : isOctal third = true) :
    octalRun (first :: second :: third :: rest) = [first, second, third] := by
  simp [octalRun, firstOctal, secondOctal, thirdOctal]

theorem octalRun_length {bytes : Bytes} (three : (octalRun bytes).length = 3) :
    ∃ first second third rest, bytes = first :: second :: third :: rest ∧ isOctal first = true ∧ isOctal second = true ∧
      isOctal third = true ∧ octalRun bytes = [first, second, third] := by
  have run : (bytes.takeWhile isOctal).length ≥ 3 := by
    rw [octalRun, List.length_take] at three
    omega
  obtain ⟨first, second, third, more, taken⟩ : ∃ first second third more, bytes.takeWhile isOctal = first :: second :: third :: more := by
    match whole : bytes.takeWhile isOctal with
    | [] | [_] | [_, _] => simp [whole] at run
    | first :: second :: third :: more => exact ⟨first, second, third, more, rfl⟩
  have split := List.takeWhile_append_dropWhile (p := isOctal) (l := bytes)
  rw [taken] at split
  have each : ∀ byte ∈ bytes.takeWhile isOctal, isOctal byte = true := fun byte member => List.mem_takeWhile_imp member
  rw [taken] at each
  exact ⟨first, second, third, more ++ bytes.dropWhile isOctal, by simpa using split.symm, each first (by simp),
    each second (by simp), each third (by simp), by simp [octalRun, taken]⟩

theorem octalValue_three {first second third : UInt8} (firstOctal : isOctal first = true) (secondOctal : isOctal second = true)
    (thirdOctal : isOctal third = true) :
    octalValue [first, second, third] ≤ 0xff ↔ byteOf '0' ≤ first ∧ first ≤ byteOf '3' := by
  have zero : (byteOf '0').toNat = 48 := rfl
  have three : (byteOf '3').toNat = 51 := rfl
  have seven : (byteOf '7').toNat = 55 := rfl
  simp only [isOctal, Bool.and_eq_true, decide_eq_true_eq, UInt8.le_iff_toNat_le, zero, seven] at firstOctal secondOctal thirdOctal
  simp only [octalValue, List.foldl_cons, List.foldl_nil, UInt8.le_iff_toNat_le, zero, three]
  omega

end Octal

section Bodies

theorem unescape_token (fuel : Nat) (current : UInt8) (rest : Bytes) :
    (∃ byte, (nextToken current rest).1.value? = some byte ∧
      unescape (fuel + 1) (current :: rest) = (byte :: ·) <$> unescape fuel (nextToken current rest).2) ∨
    ((nextToken current rest).1.value? = none ∧ ∃ error, unescape (fuel + 1) (current :: rest) = .error error) := by
  by_cases plain : current ≠ byteOf '\\'
  · left
    refine ⟨current, ?_, ?_⟩
    · simp [nextToken, plain, Token.value?]
    · cases rest <;> simp [unescape, nextToken, plain]
  · rw [not_not] at plain
    subst plain
    cases rest with
    | nil => exact .inr ⟨rfl, _, rfl⟩
    | cons escaped behind =>
      by_cases octal : isOctal escaped = true
      · by_cases large : 0xff < octalValue (octalRun (escaped :: behind))
        · right
          simp [nextToken, unescape, escapeOf_octal octal, Token.value?, octal, large, gitToolContractError]
        · left
          refine ⟨(octalValue (octalRun (escaped :: behind))).toUInt8, ?_, ?_⟩
          · simp [nextToken, Token.value?, octal, large]
          · simp [nextToken, unescape, escapeOf_octal octal, octal, large]
      · cases escape : escapeOf escaped with
        | some byte =>
          left
          exact ⟨byte, by simp [nextToken, Token.value?, octal, escape], by simp [nextToken, unescape, octal, escape]⟩
        | none =>
          right
          simp [nextToken, unescape, Token.value?, escape, octal, gitToolContractError]

theorem unescape_tokens (fuel : Nat) (body : Bytes) :
    (∃ bytes, (tokens fuel body).mapM Token.value? = some bytes ∧ unescape fuel body = .ok bytes) ∨
      ((tokens fuel body).mapM Token.value? = none ∧ ∃ error, unescape fuel body = .error error) := by
  induction fuel generalizing body with
  | zero =>
    cases body <;> exact .inl ⟨[], rfl, rfl⟩
  | succ fuel ih =>
    cases body with
    | nil => exact .inl ⟨[], rfl, rfl⟩
    | cons current rest =>
      rw [tokens, List.mapM_cons]
      rcases unescape_token fuel current rest with ⟨byte, value, round⟩ | ⟨value, error, raised⟩
      · rw [value, round]
        rcases ih (nextToken current rest).2 with ⟨bytes, values, read⟩ | ⟨values, error, raised⟩
        · rw [values, read]
          exact .inl ⟨byte :: bytes, rfl, rfl⟩
        · rw [values, raised]
          exact .inr ⟨rfl, error, rfl⟩
      · rw [value, raised]
        exact .inr ⟨rfl, error, rfl⟩

theorem nextToken_shorter (current : UInt8) (rest : Bytes) : (nextToken current rest).2.length ≤ rest.length := by
  unfold nextToken
  by_cases plain : current ≠ byteOf '\\'
  · simp [plain]
  · rw [if_neg plain]
    cases rest with
    | nil => rfl
    | cons escaped behind =>
      by_cases octal : isOctal escaped = true <;> simp [octal]

theorem GitQuoted.tokens {body bytes : Bytes} (quoted : GitQuoted body bytes) (fuel : Nat) (enough : body.length ≤ fuel) :
    (tokens fuel body).mapM Token.value? = some bytes ∧ ∀ token ∈ tokens fuel body, token.proper = true := by
  induction quoted generalizing fuel with
  | nil => cases fuel <;> exact ⟨rfl, by simp [GitTool.tokens]⟩
  | @plain byte body bytes unquoted unescaped rest ih =>
    cases fuel with
    | zero => simp at enough
    | succ fuel =>
      have later := ih fuel (by simpa using enough)
      have next : nextToken byte body = (.plain byte, body) := by simp [nextToken, unescaped]
      rw [GitTool.tokens, next]
      constructor
      · rw [List.mapM_cons, later.1]
        rfl
      · rw [List.forall_mem_cons]
        exact ⟨by simpa [Token.proper] using unquoted, later.2⟩
  | @letter letter byte body bytes escape rest ih =>
    cases fuel with
    | zero => simp at enough
    | succ fuel =>
      have later := ih fuel (by simp only [List.length_cons] at enough; omega)
      have other : isOctal letter = false := by
        cases octal : isOctal letter
        · rfl
        · rw [escapeOf_octal octal] at escape
          cases escape
      have next : nextToken (byteOf '\\') (letter :: body) = (.letter letter, body) := by simp [nextToken, other]
      rw [GitTool.tokens, next]
      constructor
      · rw [List.mapM_cons, later.1, Token.value?, escape]
        rfl
      · rw [List.forall_mem_cons]
        exact ⟨rfl, later.2⟩
  | @octal first second third body bytes small octals rest ih =>
    cases fuel with
    | zero => simp at enough
    | succ fuel =>
      have later := ih fuel (by simp only [List.length_cons] at enough; omega)
      have firstOctal : isOctal first = true := by
        have three : (byteOf '3').toNat ≤ (byteOf '7').toNat := by decide
        simp only [isOctal, Bool.and_eq_true, decide_eq_true_eq]
        exact ⟨small.1, UInt8.le_trans small.2 (UInt8.le_iff_toNat_le.mpr three)⟩
      have fits := (octalValue_three firstOctal octals.1 octals.2).mpr small
      have next : nextToken (byteOf '\\') (first :: second :: third :: body) = (.octal [first, second, third], body) := by
        simp [nextToken, firstOctal, octalRun_three firstOctal octals.1 octals.2]
      rw [GitTool.tokens, next]
      constructor
      · rw [List.mapM_cons, later.1, Token.value?, if_neg (by omega)]
        rfl
      · rw [List.forall_mem_cons]
        exact ⟨rfl, later.2⟩

theorem gitQuoted_of_tokens (fuel : Nat) {body bytes : Bytes} (enough : body.length ≤ fuel)
    (values : (tokens fuel body).mapM Token.value? = some bytes) (proper : ∀ token ∈ tokens fuel body, token.proper = true) :
    GitQuoted body bytes := by
  induction fuel generalizing body bytes with
  | zero =>
    rw [List.eq_nil_of_length_eq_zero (Nat.le_zero.mp enough)] at values ⊢
    cases values
    exact .nil
  | succ fuel ih =>
    cases body with
    | nil =>
      cases values
      exact .nil
    | cons current rest =>
      have shorter := nextToken_shorter current rest
      rw [tokens, List.mapM_cons, Option.bind_eq_bind, Option.bind_eq_some_iff] at values
      obtain ⟨byte, value, values⟩ := values
      rw [Option.bind_eq_bind, Option.bind_eq_some_iff] at values
      obtain ⟨more, values, same⟩ := values
      cases same
      rw [tokens, List.forall_mem_cons] at proper
      have later := ih (by simp only [List.length_cons] at enough; omega) values proper.2
      have first := proper.1
      unfold nextToken at value first later
      by_cases plain : current ≠ byteOf '\\'
      · rw [if_pos plain] at value first later
        cases value
        exact .plain (by simpa [Token.proper] using first) plain later
      · rw [if_neg plain] at value first later
        rw [not_not.mp plain]
        cases rest with
        | nil => cases value
        | cons escaped behind =>
          dsimp only at value first later
          by_cases octal : isOctal escaped = true
          · rw [if_pos octal] at value first later
            have three : (octalRun (escaped :: behind)).length = 3 := by simpa [Token.proper] using first
            obtain ⟨one, two, three, body, split, oneOctal, twoOctal, threeOctal, run⟩ := octalRun_length three
            rw [split] at value later ⊢
            rw [← split, run] at value
            rw [← split, run, split] at later
            simp only [Token.value?] at value
            split at value
            · cases value
            · rename_i fits
              cases value
              exact .octal ((octalValue_three oneOctal twoOctal threeOctal).mp (by omega)) ⟨twoOctal, threeOctal⟩ later
          · rw [if_neg octal] at value first later
            exact .letter value later

end Bodies

section Paths

/-- What is asked of a quoted form: Git's quoting of a path reads as the path, and any form that is malformed or has a NUL
    raises. -/
def QuotedContract (value : Bytes) : Prop :=
  (∀ path : Text, '\x00' ∉ path → GitQuotes value (Utf8.encode path) → decodePatchPath value = .ok path) ∧
    ((¬∃ bytes, GitQuotes value bytes ∧ 0 ∉ bytes) → ∃ error, decodePatchPath value = .error error)

/-- Between the quotes there is no bare quote and no octal escape of one or two digits, unless something else is wrong as well:
    an escape that stands for no byte, a NUL, or bytes that are no text. -/
def Careful (value : Bytes) : Prop :=
  ∀ body bytes, value = byteOf '"' :: (body ++ [byteOf '"']) → (tokens body.length body).mapM Token.value? = some bytes →
    0 ∉ bytes → (strict? bytes).isSome → ∀ token ∈ tokens body.length body, token.proper = true

theorem zero_mem_encode_iff {path : Text} : 0 ∈ Utf8.encode path ↔ '\x00' ∈ path := by
  constructor
  · exact Utf8.zero_mem_encode
  · intro member
    exact List.mem_flatMap.mpr ⟨'\x00', member, by decide⟩

theorem decodePatchPath_quoted (body : Bytes) :
    decodePatchPath (byteOf '"' :: (body ++ [byteOf '"'])) = (do
      let encoded ← unescape body.length body
      raiseIf (0 ∈ encoded) { errorClass := .valueError, message := "patch path must not contain NUL" }
      strictText encoded) := by
  have last : (byteOf '"' :: (body ++ [byteOf '"'])).getLast? = some (byteOf '"') := by
    rw [← List.cons_append, List.getLast?_append]
    rfl
  have long : ¬body.length + 1 + 1 < 2 := by omega
  simp [decodePatchPath, last, long]

theorem strictText_encode (path : Text) : strictText (Utf8.encode path) = .ok path := by
  rw [strictText, strict?_eq_some.mpr rfl]

theorem unquoted_path (path : Text) (bare : path.head? ≠ some '"') : decodePatchPath (Utf8.encode path) = .ok path := by
  have other : (Utf8.encode path).head? ≠ some (byteOf '"') := by
    intro quote
    cases path with
    | nil => cases quote
    | cons char rest =>
      cases bytes : Utf8.encode (char :: rest) with
      | nil => simp [bytes] at quote
      | cons byte more =>
        rw [bytes] at quote
        cases quote
        have quoteByte : String.utf8EncodeChar '"' = [byteOf '"'] := by decide
        have read := Utf8.decodeChar?_encodeChar '"' more
        rw [quoteByte, List.singleton_append, ← bytes, Utf8.encode_cons, Utf8.decodeChar?_encodeChar] at read
        cases read
        exact bare rfl
  rw [decodePatchPath, if_pos other, strictText_encode]

theorem decodePatchPath_careful (rest : Bytes) : QuotedContract (byteOf '"' :: rest) ↔ Careful (byteOf '"' :: rest) := by
  by_cases closed : ∃ body, rest = body ++ [byteOf '"']
  · obtain ⟨body, rfl⟩ := closed
    have only (other : Bytes) : byteOf '"' :: (body ++ [byteOf '"']) = byteOf '"' :: (other ++ [byteOf '"']) ↔ other = body := by
      simp [eq_comm]
    have quotes (bytes : Bytes) : GitQuotes (byteOf '"' :: (body ++ [byteOf '"'])) bytes ↔ GitQuoted body bytes := by
      simp [GitQuotes]
    have grammar (bytes : Bytes) : GitQuoted body bytes ↔
        (tokens body.length body).mapM Token.value? = some bytes ∧ ∀ token ∈ tokens body.length body, token.proper = true :=
      ⟨fun quoted => quoted.tokens _ (Nat.le_refl _), fun both => gitQuoted_of_tokens _ (Nat.le_refl _) both.1 both.2⟩
    simp only [QuotedContract, quotes, grammar, decodePatchPath_quoted]
    have careful : Careful (byteOf '"' :: (body ++ [byteOf '"'])) ↔ ∀ bytes,
        (tokens body.length body).mapM Token.value? = some bytes → 0 ∉ bytes → (strict? bytes).isSome →
          ∀ token ∈ tokens body.length body, token.proper = true := by
      constructor
      · intro careful bytes
        exact careful body bytes rfl
      · intro careful other bytes same
        rw [(only other).mp same]
        exact careful bytes
    rw [careful]
    rcases unescape_tokens body.length body with ⟨bytes, values, read⟩ | ⟨values, error, raised⟩
    · simp only [values, read, ok_bind, Option.some.injEq, forall_eq', and_imp]
      by_cases nul : 0 ∈ bytes
      · rw [raiseIf_pos nul]
        constructor
        · intro _ clean
          exact absurd nul clean
        · intro _
          refine ⟨?_, fun _ => ⟨_, rfl⟩⟩
          intro path clean same
          rw [same, zero_mem_encode_iff] at nul
          exact absurd nul clean
      · rw [raiseIf_neg nul, ok_bind]
        cases text : strict? bytes with
        | none =>
          have raised : ∃ error, strictText bytes = .error error := ⟨_, by rw [strictText, text]; rfl⟩
          constructor
          · intro _ _ readable
            cases readable
          · intro _
            refine ⟨?_, fun _ => raised⟩
            intro path _ same
            rw [strict?_eq_some.mpr same] at text
            cases text
        | some path =>
          have returned : strictText bytes = .ok path := by rw [strictText, text]
          rw [returned]
          constructor
          · intro contract _ _
            by_contra improper
            obtain ⟨error, raised⟩ := contract.2 (by
              rintro ⟨other, ⟨same, proper⟩, -⟩
              exact improper proper)
            cases raised
          · intro proper
            constructor
            · intro other _ same _
              rw [strict?_eq_some.mpr same] at text
              rw [Option.some.inj text]
            · intro malformed
              exact absurd ⟨bytes, ⟨rfl, proper nul rfl⟩, nul⟩ malformed
    · rw [values, raised, error_bind]
      constructor
      · intro _ bytes same
        cases same
      · intro _
        refine ⟨?_, fun _ => ⟨_, rfl⟩⟩
        rintro path _ ⟨same, -⟩
        cases same
  · have open_ : ∀ body, byteOf '"' :: rest ≠ byteOf '"' :: (body ++ [byteOf '"']) := by
      intro body same
      exact closed ⟨body, (List.cons.inj same).2⟩
    have raised : ∃ error, decodePatchPath (byteOf '"' :: rest) = .error error := by
      have broken : (byteOf '"' :: rest).length < 2 ∨ (byteOf '"' :: rest).getLast? ≠ some (byteOf '"') := by
        cases last : rest.getLast? with
        | none =>
          rw [List.getLast?_eq_none_iff] at last
          exact .inl (by simp [last])
        | some byte =>
          right
          rw [List.getLast?_cons, last]
          intro same
          cases same
          exact closed (List.getLast?_eq_some_iff.mp last)
      exact ⟨_, by rw [decodePatchPath, if_neg (by simp), if_pos broken]; rfl⟩
    constructor
    · intro _ body bytes same
      exact absurd same (open_ body)
    · intro _
      refine ⟨?_, fun _ => raised⟩
      rintro path _ ⟨body, same, -⟩
      exact absurd same (open_ body)

/-- What the three parsers make of what Git prints: a quoted path is read exactly when it is careful, a status when no entry is
    a rename of the worktree alone, and the counts of a patch always. -/
theorem git_evidence (platform : Platform) :
    ((∀ path : Text, path.head? ≠ some '"' → decodePatchPath (Utf8.encode path) = .ok path) ∧
      ∀ rest, QuotedContract (byteOf '"' :: rest) ↔ Careful (byteOf '"' :: rest)) ∧
    (∀ entries : List StatusEntry, parseStatus (statusOutput entries) = .ok (entries.map StatusEntry.record) ↔
      ∀ entry ∈ entries, entry.worktree.moves → entry.index.moves) ∧
    ∀ entries : List NumstatEntry,
      parseNumstat platform (numstatOutput entries) = .ok (sortedPaths platform (entries.map NumstatEntry.record)) :=
  ⟨⟨unquoted_path, decodePatchPath_careful⟩, parseStatus_output, parseNumstat_output platform⟩

/-- A rename of the worktree alone, from `a.mk` to `b`. -/
def worktreeRename : StatusEntry where
  index := .unmodified
  worktree := .renamed
  path := ⟨[byteOf 'b'], by decide, by decide⟩
  source := some ⟨"a.mk".toList.map byteOf, by decide, by decide⟩
  sourced := by decide

/-- What begins the source is read as a status, and a bare quote and an octal escape of one digit are taken for a path. -/
theorem git_evidence_slips :
    (parseStatus (statusOutput [worktreeRename]) ≠ .ok [worktreeRename.record] ∧
      parseStatus (statusOutput [worktreeRename]) = .ok [
        { path := [.char 'b'], status := [.char ' ', .char 'R'], indexStatus := some (.char ' '),
          worktreeStatus := some (.char 'R') },
        { path := [.char 'k'], status := [.char 'a', .char '.'], indexStatus := some (.char 'a'),
          worktreeStatus := some (.char '.') }]) ∧
    (¬∃ bytes, GitQuotes ("\"a\"b\\1\"".toList.map byteOf) bytes ∧ 0 ∉ bytes) ∧
      decodePatchPath ("\"a\"b\\1\"".toList.map byteOf) = .ok "a\"b\u0001".toList := by
  refine ⟨⟨by decide +kernel, by decide +kernel⟩, ?_, by decide +kernel⟩
  rintro ⟨bytes, ⟨body, same, quoted⟩, -⟩
  have proper := (quoted.tokens _ (Nat.le_refl _)).2
  have read : body = "a\"b\\1".toList.map byteOf := by
    have split : "\"a\"b\\1\"".toList.map byteOf = byteOf '"' :: ("a\"b\\1".toList.map byteOf ++ [byteOf '"']) := by decide
    rw [split] at same
    exact (List.append_cancel_right (List.cons.inj same).2).symm
  rw [read] at proper
  revert proper
  decide

end Paths

end Aep.GitTool
