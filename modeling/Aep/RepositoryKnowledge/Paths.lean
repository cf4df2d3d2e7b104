import Aep.Library.Text
import Aep.RuntimeStore.Objects
import Mathlib.Data.List.DropRight
import Mathlib.Data.List.SplitOn

namespace Aep.RepositoryKnowledge

open RuntimeStore

def pathError : PyError := valueError "repository paths must be non-empty relative paths"

/-- A drive of a Windows path. One that begins with separators is refused as an absolute path anyway. -/
def hasDrive : Text → Bool
  | _ :: ':' :: _ => true
  | _ => false

def forward (char : Char) : Char := if char = '\\' then '/' else char

def isSlash (char : Char) : Bool := char = '/'

def partsOf (path : Text) : List Text := (path.splitOn '/').filter fun part => !part.isEmpty && part ≠ ['.']

def asPosix (path : Text) : Text := if partsOf path = [] then ['.'] else ['/'].intercalate (partsOf path)

def normalizePath (allowRoot : Bool) (value : String) : Except PyError String :=
  let stripped := Text.strip value.toList
  let converted := stripped.map forward
  let normalized := Text.rstrip isSlash (converted.dropWhile isSlash)
  if hasDrive stripped then .error pathError
  else if converted.head? = some '/' then .error pathError
  else if allowRoot ∧ (normalized = [] ∨ normalized = ['.']) then .ok ""
  else if normalized = [] ∨ normalized = ['.'] ∨ ['.', '.'] ∈ partsOf normalized then .error pathError
  else .ok (String.ofList (asPosix normalized))

structure Plain (path : String) : Prop where
  trimmed : Text.Trimmed Text.isSpace path.toList
  forward : '\\' ∉ path.toList
  parts : ∀ part ∈ path.toList.splitOn '/', part ≠ [] ∧ part ≠ ['.']

section Posix

variable {path : Text}

theorem length_intercalate (parts : List Text) (some : parts ≠ []) :
    (['/'].intercalate parts).length + 1 = (parts.map fun part => part.length + 1).sum := by
  induction parts with
  | nil => exact absurd rfl some
  | cons part rest ih =>
    cases rest with
    | nil => simp [List.intercalate]
    | cons next others =>
      have step : ['/'].intercalate (part :: next :: others) = part ++ '/' :: ['/'].intercalate (next :: others) := by
        simp [List.intercalate]
      have later := ih (by simp)
      rw [step, List.map_cons, List.sum_cons, ← later, List.length_append, List.length_cons]
      omega

theorem sum_filter_le (keeps : Text → Bool) (parts : List Text) :
    ((parts.filter keeps).map fun part => part.length + 1).sum ≤ (parts.map fun part => part.length + 1).sum := by
  induction parts with
  | nil => simp
  | cons part rest ih =>
    by_cases kept : keeps part = true
    · rw [List.filter_cons_of_pos kept, List.map_cons, List.map_cons, List.sum_cons, List.sum_cons]
      omega
    · rw [List.filter_cons_of_neg kept, List.map_cons, List.sum_cons]
      omega

theorem length_asPosix (some : path ≠ []) : (asPosix path).length ≤ path.length := by
  have positive : 0 < path.length := List.length_pos_iff.mpr some
  unfold asPosix
  split
  · exact positive
  · rename_i parts
    have kept := length_intercalate _ parts
    have whole := length_intercalate _ (List.splitOn_ne_nil '/' path)
    have shorter := sum_filter_le (fun part => !part.isEmpty && part ≠ ['.']) (path.splitOn '/')
    rw [List.intercalate_splitOn] at whole
    unfold partsOf at kept ⊢
    omega

theorem mem_partsOf {part : Text} : part ∈ partsOf path ↔ part ∈ path.splitOn '/' ∧ part ≠ [] ∧ part ≠ ['.'] := by
  simp [partsOf]

theorem mem_part {part : Text} (member : part ∈ path.splitOn '/') : ∀ char ∈ part, char ∈ path ∧ char ≠ '/' := by
  induction path generalizing part with
  | nil =>
    rw [List.splitOn_nil] at member
    simp [List.mem_singleton.mp member]
  | cons first rest ih =>
    rw [List.splitOn, List.splitOnP_cons_eq_if_modifyHead] at member
    obtain ⟨head, tail, split⟩ := List.exists_cons_of_ne_nil (List.splitOn_ne_nil '/' rest)
    have parts : rest.splitOnP (· == '/') = head :: tail := split
    rw [split] at ih
    have deeper {part : Text} (later : part ∈ head :: tail) : ∀ char ∈ part, char ∈ first :: rest ∧ char ≠ '/' :=
      fun char inside => ⟨List.mem_cons_of_mem _ (ih later char inside).1, (ih later char inside).2⟩
    by_cases slash : (first == '/') = true
    · rw [if_pos slash, parts] at member
      rcases List.mem_cons.mp member with rfl | later
      · simp
      · exact deeper later
    · rw [if_neg slash, parts, List.modifyHead_cons] at member
      rcases List.mem_cons.mp member with rfl | later
      · intro char inside
        rcases List.mem_cons.mp inside with rfl | behind
        · exact ⟨List.mem_cons_self, by simpa using slash⟩
        · exact deeper List.mem_cons_self char behind
      · exact deeper (List.mem_cons_of_mem _ later)

theorem mem_intercalate {parts : List Text} {char : Char} (inside : char ∈ ['/'].intercalate parts) :
    char = '/' ∨ ∃ part ∈ parts, char ∈ part := by
  induction parts with
  | nil => cases inside
  | cons part rest ih =>
    cases rest with
    | nil => exact .inr ⟨part, List.mem_cons_self, by simpa [List.intercalate] using inside⟩
    | cons next others =>
      have step : ['/'].intercalate (part :: next :: others) = part ++ '/' :: ['/'].intercalate (next :: others) := by
        simp [List.intercalate]
      rw [step] at inside
      rcases List.mem_append.mp inside with here | behind
      · exact .inr ⟨part, List.mem_cons_self, here⟩
      · rcases List.mem_cons.mp behind with rfl | later
        · exact .inl rfl
        · obtain slash | ⟨other, member, found⟩ := ih later
          · exact .inl slash
          · exact .inr ⟨other, List.mem_cons_of_mem _ member, found⟩

theorem splitOn_asPosix (some : partsOf path ≠ []) : (asPosix path).splitOn '/' = partsOf path := by
  unfold asPosix
  rw [if_neg some, List.splitOn_intercalate _ _ some]
  exact fun part member slash => (mem_part (mem_partsOf.mp member).1 '/' slash).2 rfl

theorem asPosix_of_parts (parts : ∀ part ∈ path.splitOn '/', part ≠ [] ∧ part ≠ ['.']) : asPosix path = path := by
  have all : partsOf path = path.splitOn '/' := List.filter_eq_self.mpr fun part member => by simp [parts part member]
  unfold asPosix
  rw [all, if_neg (List.splitOn_ne_nil '/' path), List.intercalate_splitOn]

theorem slash_free_ends (parts : ∀ part ∈ path.splitOn '/', part ≠ [] ∧ part ≠ ['.']) : Text.Trimmed isSlash path := by
  constructor
  · intro char first
    cases path with
    | nil => cases first
    | cons other rest =>
      obtain rfl := Option.some.inj first
      by_contra slash
      have isSeparator : other = '/' := by simpa [isSlash] using slash
      have empty : ([] : Text) ∈ (other :: rest).splitOn '/' := by
        rw [isSeparator]
        have split : ([] ++ '/' :: rest).splitOn '/' = _ := List.splitOn_append_cons_self [] rest
        rw [← List.nil_append ('/' :: rest), split]
        simp
      exact (parts [] empty).1 rfl
  · intro char last
    obtain ⟨front, rfl⟩ := List.getLast?_eq_some_iff.mp last
    by_contra slash
    have isSeparator : char = '/' := by simpa [isSlash] using slash
    have empty : ([] : Text) ∈ (front ++ [char]).splitOn '/' := by
      rw [isSeparator]
      have split : (front ++ '/' :: []).splitOn '/' = _ := List.splitOn_append_cons_self front []
      rw [split]
      simp
    exact (parts [] empty).1 rfl

end Posix

section Normal

variable {path normal : String}

theorem forward_of_absent {text : Text} (absent : '\\' ∉ text) : text.map forward = text := by
  refine (List.map_congr_left fun char member => ?_).trans text.map_id
  have other : char ≠ '\\' := fun same => absent (same ▸ member)
  simp [forward, other]

theorem normalizePath_plain (plain : Plain path) (normalized : normalizePath false path = .ok normal) : normal = path := by
  have stripped : Text.strip path.toList = path.toList := Text.strip_of_trimmed plain.trimmed
  have converted : (Text.strip path.toList).map forward = path.toList := by
    rw [stripped, forward_of_absent plain.forward]
  have bare := Text.strip_of_trimmed (slash_free_ends plain.parts)
  unfold normalizePath at normalized
  simp only [converted, bare, asPosix_of_parts plain.parts, String.ofList_toList] at normalized
  split at normalized
  · cases normalized
  · split at normalized
    · cases normalized
    · split at normalized
      · rename_i root
        cases root.1
      · split at normalized
        · cases normalized
        · exact (Except.ok.inj normalized).symm

theorem plain_of_asPosix
    (some : Text.rstrip isSlash (((Text.strip path.toList).map forward).dropWhile isSlash) ≠ [])
    (proper : Text.rstrip isSlash (((Text.strip path.toList).map forward).dropWhile isSlash) ≠ ['.'])
    (written : asPosix (Text.rstrip isSlash (((Text.strip path.toList).map forward).dropWhile isSlash)) = path.toList) :
    Plain path := by
  have shorter := length_asPosix some
  have bare := @Text.length_strip isSlash ((Text.strip path.toList).map forward)
  have stripped := @Text.length_strip Text.isSpace path.toList
  rw [List.length_map] at bare
  rw [written] at shorter
  have trimmed : Text.Trimmed Text.isSpace path.toList := Text.trimmed_of_length (shorter.trans bare)
  have same : Text.strip path.toList = path.toList := Text.strip_of_trimmed trimmed
  rw [same] at shorter some proper written
  have slashes : Text.Trimmed isSlash (path.toList.map forward) :=
    Text.trimmed_of_length (by rw [List.length_map]; exact shorter)
  rw [Text.strip_of_trimmed slashes] at some proper written
  have parts : partsOf (path.toList.map forward) ≠ [] := by
    intro none
    have dot : path.toList = ['.'] := by
      rw [← written, asPosix, if_pos none]
    rw [dot] at proper
    exact proper (by decide)
  have split := splitOn_asPosix parts
  rw [written] at split
  refine ⟨trimmed, fun inside => ?_, fun part member => ?_⟩
  · rw [← written, asPosix, if_neg parts] at inside
    rcases mem_intercalate inside with slash | ⟨part, member, found⟩
    · exact absurd slash (by decide)
    · obtain ⟨char, -, converted⟩ := List.mem_map.mp (mem_part (mem_partsOf.mp member).1 _ found).1
      unfold forward at converted
      split at converted
      · exact absurd converted (by decide)
      · rename_i other
        exact other converted
  · rw [split] at member
    exact (mem_partsOf.mp member).2

theorem normalizePath_eq_self (normalized : normalizePath false path = .ok normal) : normal = path ↔ Plain path := by
  refine ⟨fun same => ?_, fun plain => normalizePath_plain plain normalized⟩
  subst same
  unfold normalizePath at normalized
  dsimp only at normalized
  split at normalized
  · cases normalized
  · split at normalized
    · cases normalized
    · split at normalized
      · rename_i root
        cases root.1
      · split at normalized
        · cases normalized
        · rename_i proper
          have written := congrArg String.toList (Except.ok.inj normalized)
          rw [String.toList_ofList] at written
          exact plain_of_asPosix (fun same => proper (.inl same)) (fun same => proper (.inr (.inl same))) written

end Normal

end Aep.RepositoryKnowledge
