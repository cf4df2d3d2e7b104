import Aep.Library.Dict
import Aep.Library.Text
import Mathlib.Data.List.Sort

namespace Aep.PlanningEvidence

open Text

/-- `_canonical_insertion`. -/
def canonicalInsertion (value : Text) : Text := replace ['\r'] ['\n'] (replace ['\r', '\n'] ['\n'] value)

def endsWithFeed (text : Text) : Bool := text.getLast? = some '\n'

def isBlockAt (content candidate : Text) (start : Nat) : Bool :=
  let stop := start + candidate.length
  (start = 0 || content[start - 1]? = some '\n') &&
    (endsWithFeed candidate || stop = content.length || content[stop]? = some '\n')

def blockPositions (content candidate : Text) : List Nat := (positions candidate content).filter (isBlockAt content candidate)

def firstFound (content : Text) : List Text → List Nat
  | [] => []
  | candidate :: rest =>
    if (blockPositions content candidate).isEmpty then firstFound content rest else blockPositions content candidate

/-- `_logical_text_positions`. -/
def logicalTextPositions (content expected : Text) : List Nat :=
  if endsWithFeed expected then firstFound content [expected, expected.dropLast] else scanFrom expected 0 0 content

/-- `_logical_line_positions`. -/
def logicalLinePositions (content expected : Text) : List Nat :=
  firstFound content (if endsWithFeed expected then [expected, expected.dropLast] else [expected])

/-- `canonical_line_match`. -/
def canonicalLineMatch (required content : Text) : Bool :=
  !(logicalLinePositions (canonicalInsertion content) (canonicalInsertion required)).isEmpty

/-- `_insertion_matches` of the patch evaluation. -/
def insertionMatches (required block : Text) : Bool := canonicalLineMatch required block

def dropFinalFeed (text : Text) : Text := if endsWithFeed text then text.dropLast else text

structure StartsAt (content part : Text) (front back : Text) : Prop where
  whole : content = front ++ part ++ back
  start : StartsLine front

theorem isBlockAt_iff {content candidate front back : Text} (whole : content = front ++ candidate ++ back) :
    isBlockAt content candidate front.length = true ↔
      StartsLine front ∧ (endsWithFeed candidate = true ∨ EndsLine back) := by
  subst whole
  have before : (front.length = 0 ∨ (front ++ candidate ++ back)[front.length - 1]? = some '\n') ↔ StartsLine front := by
    rcases List.eq_nil_or_concat front with rfl | ⟨others, last, rfl⟩
    · simp [StartsLine]
    · simp [StartsLine, List.getElem?_append]
  have after : (front.length + candidate.length = (front ++ candidate ++ back).length ∨
      (front ++ candidate ++ back)[front.length + candidate.length]? = some '\n') ↔ EndsLine back := by
    rw [← List.length_append, List.getElem?_append_right (Nat.le_refl _), Nat.sub_self]
    cases back with
    | nil => simp [EndsLine]
    | cons char rest => simp [EndsLine]
  simp only [isBlockAt, Bool.and_eq_true, Bool.or_eq_true, decide_eq_true_eq, before, or_assoc, after]

theorem mem_blockPositions {content candidate : Text} {start : Nat} (member : start ∈ blockPositions content candidate) :
    ∃ front back, StartsAt content candidate front back ∧ (endsWithFeed candidate = true ∨ EndsLine back) ∧
      start = front.length := by
  obtain ⟨found, block⟩ := List.mem_filter.mp member
  obtain ⟨bounded, back, rest⟩ := mem_positions.mp found
  have whole : content = content.take start ++ candidate ++ back := by
    rw [List.append_assoc, rest, List.take_append_drop]
  have length : (content.take start).length = start := by simp [bounded]
  rw [← length] at block
  obtain ⟨starts, ends⟩ := (isBlockAt_iff whole).mp block
  exact ⟨_, back, ⟨whole, starts⟩, ends, length.symm⟩

theorem blockPositions_ne_nil {content candidate : Text} :
    blockPositions content candidate ≠ [] ↔ ∃ front back, StartsAt content candidate front back ∧
      (endsWithFeed candidate = true ∨ EndsLine back) := by
  constructor
  · intro some
    obtain ⟨start, member⟩ := List.exists_mem_of_ne_nil _ some
    obtain ⟨front, back, starts, ends, _⟩ := mem_blockPositions member
    exact ⟨front, back, starts, ends⟩
  · rintro ⟨front, back, ⟨whole, starts⟩, ends⟩ none
    have found : front.length ∈ positions candidate content := by
      apply mem_positions.mpr
      rw [whole]
      refine ⟨by simp, ?_⟩
      rw [List.append_assoc, List.drop_left]
      exact List.prefix_append candidate back
    have member : front.length ∈ blockPositions content candidate :=
      List.mem_filter.mpr ⟨found, (isBlockAt_iff whole).mpr ⟨starts, ends⟩⟩
    rw [none] at member
    cases member

theorem mem_firstFound {content : Text} {candidates : List Text} {start : Nat}
    (member : start ∈ firstFound content candidates) : ∃ candidate ∈ candidates, start ∈ blockPositions content candidate := by
  induction candidates with
  | nil => cases member
  | cons candidate rest ih =>
    unfold firstFound at member
    split at member
    · obtain ⟨other, listed, its⟩ := ih member
      exact ⟨other, List.mem_cons_of_mem candidate listed, its⟩
    · exact ⟨candidate, List.mem_cons_self, member⟩

theorem firstFound_ne_nil {content : Text} {candidates : List Text} :
    firstFound content candidates ≠ [] ↔ ∃ candidate ∈ candidates, blockPositions content candidate ≠ [] := by
  induction candidates with
  | nil => simp [firstFound]
  | cons candidate rest ih =>
    by_cases empty : blockPositions content candidate = []
    · simp [firstFound, empty, ih]
    · simp [firstFound, empty]

theorem endsWithFeed_iff {text : Text} : endsWithFeed text = true ↔ ∃ front, text = front ++ ['\n'] := by
  simp [endsWithFeed, List.getLast?_eq_some_iff]

theorem logicalLinePositions_feed (content value : Text) :
    logicalLinePositions content (value ++ ['\n']) ≠ [] ↔ ∃ front back, StartsAt content value front back ∧
      (endsWithFeed value = true ∨ EndsLine back) := by
  have feed : endsWithFeed (value ++ ['\n']) = true := endsWithFeed_iff.mpr ⟨value, rfl⟩
  rw [logicalLinePositions, if_pos feed, List.dropLast_concat, firstFound_ne_nil]
  simp only [List.mem_cons, List.not_mem_nil, or_false, exists_eq_or_imp, exists_eq_left, blockPositions_ne_nil]
  constructor
  · rintro (⟨front, back, ⟨whole, starts⟩, _⟩ | found)
    · exact ⟨front, '\n' :: back, ⟨by simpa using whole, starts⟩, Or.inr (Or.inr rfl)⟩
    · exact found
  · exact Or.inr

theorem logicalLinePositions_bare {content value : Text} (bare : endsWithFeed value = false) :
    logicalLinePositions content value ≠ [] ↔ lines value <:+: lines content := by
  rw [logicalLinePositions, bare, if_neg Bool.false_ne_true, firstFound_ne_nil, lines_infix_iff]
  simp only [List.mem_singleton, exists_eq_left, blockPositions_ne_nil, bare, Bool.false_eq_true, false_or]
  constructor
  · rintro ⟨front, back, ⟨whole, starts⟩, ends⟩
    exact ⟨front, back, whole, starts, ends⟩
  · rintro ⟨front, back, whole, starts, ends⟩
    exact ⟨front, back, ⟨whole, starts⟩, ends⟩

/-- The value ends in two newlines, and without its last one it starts some line of the content but is never
    followed by a newline or the end of the content. -/
def Strays (content value : Text) : Prop :=
  ∃ start, value = start ++ ['\n', '\n'] ∧ (∃ front back, StartsAt content (start ++ ['\n']) front back) ∧
    ∀ front back, StartsAt content (start ++ ['\n']) front back → ¬EndsLine back

theorem logicalLinePositions_iff (content value : Text) :
    (logicalLinePositions content value ≠ [] ↔ lines (dropFinalFeed value) <:+: lines content) ↔
      ¬Strays content value := by
  by_cases feed : endsWithFeed value = true
  · obtain ⟨front, rfl⟩ := endsWithFeed_iff.mp feed
    rw [logicalLinePositions_feed, dropFinalFeed, if_pos feed, List.dropLast_concat, lines_infix_iff]
    by_cases double : endsWithFeed front = true
    · obtain ⟨start, rfl⟩ := endsWithFeed_iff.mp double
      constructor
      · rintro same ⟨other, value, ⟨before, back, starts⟩, never⟩
        have equal : other = start := by simpa using value.symm
        subst equal
        obtain ⟨before', back', whole, starts', ends⟩ := same.mp ⟨before, back, starts, Or.inl double⟩
        exact never before' back' ⟨whole, starts'⟩ ends
      · intro stays
        constructor
        · rintro ⟨before, back, starts, _⟩
          by_contra never
          apply stays
          refine ⟨start, by simp, ⟨before, back, starts⟩, ?_⟩
          intro before' back' starts' ends
          exact never ⟨before', back', starts'.whole, starts'.start, ends⟩
        · rintro ⟨before, back, whole, starts, _⟩
          exact ⟨before, back, ⟨whole, starts⟩, Or.inl double⟩
    · have sound : ¬Strays content (front ++ ['\n']) := by
        rintro ⟨start, value, _⟩
        apply double
        have same : front = start ++ ['\n'] := by
          have both : front ++ ['\n'] = (start ++ ['\n']) ++ ['\n'] := by rw [value]; simp
          exact List.append_cancel_right both
        exact endsWithFeed_iff.mpr ⟨start, same⟩
      refine ⟨fun _ => sound, fun _ => ?_⟩
      simp only [double, Bool.false_eq_true, false_or]
      constructor
      · rintro ⟨before, back, ⟨whole, starts⟩, ends⟩
        exact ⟨before, back, whole, starts, ends⟩
      · rintro ⟨before, back, whole, starts, ends⟩
        exact ⟨before, back, ⟨whole, starts⟩, ends⟩
  · rw [Bool.not_eq_true] at feed
    have kept : dropFinalFeed value = value := by simp [dropFinalFeed, feed]
    rw [logicalLinePositions_bare feed, kept]
    have sound : ¬Strays content value := by
      rintro ⟨start, rfl, _⟩
      simp [endsWithFeed] at feed
    exact ⟨fun _ => sound, fun _ => Iff.rfl⟩

end Aep.PlanningEvidence

namespace Aep.PlanningEvidence

/-- A required text with the index of its result and the positions that are offered for it. -/
structure Candidate where
  resultIndex : Nat
  value : Text
  positions : List Nat
  deriving DecidableEq

abbrev Interval := Nat × Nat

def overlap (left right : Interval) : Bool := left.1 < right.2 && right.1 < left.2

abbrev Chosen := Dict Nat Nat

def Candidate.interval (candidate : Candidate) (position : Nat) : Interval :=
  (position, position + candidate.value.length)

def attemptBound : Nat := 256

/-- The loop over the positions of one candidate. The number of attempts is shared by the whole search. -/
def tryPositions (next : List Interval → Chosen → Nat → Nat × Option Chosen) (candidate : Candidate)
    (intervals : List Interval) (chosen : Chosen) : List Nat → Nat → Nat × Option Chosen
  | [], attempts => (attempts, none)
  | position :: rest, attempts =>
    let attempts := attempts + 1
    if attempts > attemptBound then (attempts, none)
    else
      let interval := candidate.interval position
      if intervals.any (overlap interval) then tryPositions next candidate intervals chosen rest attempts
      else
        match next (intervals ++ [interval]) (chosen.set candidate.resultIndex position) attempts with
        | (attempts, some result) => (attempts, some result)
        | (attempts, none) => tryPositions next candidate intervals chosen rest attempts

/-- The backtracking search of `_independent_text_positions`. -/
def select : List Candidate → List Interval → Chosen → Nat → Nat × Option Chosen
  | [], _, chosen, attempts => (attempts, some chosen)
  | candidate :: rest, intervals, chosen, attempts =>
    tryPositions (select rest) candidate intervals chosen candidate.positions attempts

def fewerPositions (left right : Candidate) : Prop :=
  left.positions.length < right.positions.length ∨
    (left.positions.length = right.positions.length ∧ left.resultIndex ≤ right.resultIndex)

instance (left right : Candidate) : Decidable (fewerPositions left right) := by unfold fewerPositions; infer_instance

def search (candidates : List Candidate) : Nat × Option Chosen :=
  select (candidates.insertionSort fewerPositions) [] [] 0

/-- `_independent_text_positions`: the result indices that the search has chosen a position for. -/
def independentTextPositions (candidates : List Candidate) : List Nat := ((search candidates).2.getD []).keys

end Aep.PlanningEvidence
