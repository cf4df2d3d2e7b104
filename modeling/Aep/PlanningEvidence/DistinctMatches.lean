import Aep.PlanningEvidence.Predicates
import Mathlib.Data.List.Forall2

namespace Aep.PlanningEvidence

open Result Text

theorem evaluateText_line {scope : Scope} {kind : TextKind} {predicate : Record} {expected : Text}
    {result : PredicateResult × Text × List Nat} (line : kind.isLine = true)
    (value : predicate.field "value" = .str (String.ofList expected))
    (evaluated : evaluateText scope kind predicate = .ok result) :
    result.2 = (canonicalInsertion expected,
        logicalLinePositions (canonicalInsertion scope.scopedContent) (canonicalInsertion expected)) ∧
      result.1.result = .of (if kind.isPresent then !result.2.2.isEmpty else result.2.2.isEmpty) := by
  obtain ⟨text, known, made⟩ := bind_eq_ok.mp evaluated
  have same : text = canonicalInsertion expected := by
    unfold expectedText at known
    rw [value] at known
    split at known
    · cases known
    · rename_i other _ its
      cases its
      cases known
      rw [String.toList_ofList]
    · cases known
  cases made
  simp only [TextKind.positions, line, ↓reduceIte, same, and_self]

/-- Every reader of the line positions takes the expected lines to be found exactly in one case. -/
structure ReportedIff (content expected : Text) (found : Prop) : Prop where
  positions : logicalLinePositions (canonicalInsertion content) (canonicalInsertion expected) ≠ [] ↔ found
  lineMatch : canonicalLineMatch expected content = true ↔ found
  linePresent : ∀ scope predicate result, scope.scopedContent = content →
    predicate.field "value" = .str (String.ofList expected) →
    evaluateText scope .linePresent predicate = .ok result → (result.1.result = .isMatch ↔ found)
  lineAbsent : ∀ scope predicate result, scope.scopedContent = content →
    predicate.field "value" = .str (String.ofList expected) →
    evaluateText scope .lineAbsent predicate = .ok result → (result.1.result = .noMatch ↔ found)

theorem reportedIff {content expected : Text} {found : Prop}
    (positions : logicalLinePositions (canonicalInsertion content) (canonicalInsertion expected) ≠ [] ↔ found) :
    ReportedIff content expected found where
  positions := positions
  lineMatch := by
    rw [← positions]
    simp [canonicalLineMatch]
  linePresent scope predicate result scoped_ value evaluated := by
    obtain ⟨same, outcome⟩ := evaluateText_line rfl value evaluated
    rw [outcome, same, scoped_, ← positions]
    simp [TextKind.isPresent, Outcome.of]
  lineAbsent scope predicate result scoped_ value evaluated := by
    obtain ⟨same, outcome⟩ := evaluateText_line rfl value evaluated
    rw [outcome, same, scoped_, ← positions]
    simp [TextKind.isPresent, Outcome.of]

/-- The lines of a value are reported exactly where the content has them as consecutive lines, unless the
    value strays. -/
theorem line_match_iff (content expected : Text) :
    ReportedIff content expected
        (lines (dropFinalFeed (canonicalInsertion expected)) <:+: lines (canonicalInsertion content)) ↔
      ¬Strays (canonicalInsertion content) (canonicalInsertion expected) := by
  rw [← logicalLinePositions_iff]
  exact ⟨fun reported => reported.positions, reportedIff⟩

/-- A value that ends in a blank line is reported in a content without it. -/
theorem line_match_without_blank_line :
    canonicalLineMatch "a\n\n".toList "a\nb".toList = true ∧
      ¬lines (dropFinalFeed (canonicalInsertion "a\n\n".toList)) <:+: lines (canonicalInsertion "a\nb".toList) := by
  decide +kernel

end Aep.PlanningEvidence

namespace Aep.PlanningEvidence

open Result Text

theorem overlap_comm (left right : Interval) : overlap left right = overlap right left := by
  simp [overlap, Bool.and_comm]

/-- Positions for the candidates that are offered and stay clear of each other and of some intervals. -/
def Fits : List Candidate → List Interval → List Nat → Prop
  | [], _, [] => True
  | candidate :: rest, intervals, position :: others =>
    position ∈ candidate.positions ∧ (∀ other ∈ intervals, overlap (candidate.interval position) other = false) ∧
      Fits rest (intervals ++ [candidate.interval position]) others
  | _, _, _ => False

def assign (chosen : Chosen) : List Candidate → List Nat → Chosen
  | candidate :: rest, position :: others => assign (chosen.set candidate.resultIndex position) rest others
  | _, _ => chosen

/-- What a search that has used some attempts says: positions that fit, or, if it was not cut off, that there are none. -/
structure Answers (candidates : List Candidate) (intervals : List Interval) (chosen : Chosen) (attempts : Nat)
    (answer : Nat × Option Chosen) : Prop where
  grows : attempts ≤ answer.1
  found : ∀ result, answer.2 = some result → attempts ≤ attemptBound → answer.1 ≤ attemptBound ∧
    ∃ positions, Fits candidates intervals positions ∧ result = assign chosen candidates positions
  none : answer.2 = none → answer.1 ≤ attemptBound → ¬∃ positions, Fits candidates intervals positions

theorem any_overlap_false {interval : Interval} {intervals : List Interval} :
    ¬intervals.any (overlap interval) = true ↔ ∀ other ∈ intervals, overlap interval other = false := by
  simp [List.any_eq_true]

theorem tryPositions_answers {next : List Interval → Chosen → Nat → Nat × Option Chosen} {candidate : Candidate}
    {rest : List Candidate}
    (nextAnswers : ∀ intervals chosen attempts, Answers rest intervals chosen attempts (next intervals chosen attempts))
    (intervals : List Interval) (chosen : Chosen) (positions : List Nat) (attempts : Nat)
    (offered : ∀ position ∈ positions, position ∈ candidate.positions) :
    attempts ≤ (tryPositions next candidate intervals chosen positions attempts).1 ∧
      (∀ result, (tryPositions next candidate intervals chosen positions attempts).2 = some result →
        attempts ≤ attemptBound → (tryPositions next candidate intervals chosen positions attempts).1 ≤ attemptBound ∧
          ∃ found, Fits (candidate :: rest) intervals found ∧ result = assign chosen (candidate :: rest) found) ∧
      ((tryPositions next candidate intervals chosen positions attempts).2 = none →
        (tryPositions next candidate intervals chosen positions attempts).1 ≤ attemptBound →
          ∀ position ∈ positions, ¬∃ others, Fits (candidate :: rest) intervals (position :: others)) := by
  induction positions generalizing attempts with
  | nil => simp [tryPositions]
  | cons position others ih =>
    have later := ih (attempts + 1) (fun other member => offered other (List.mem_cons_of_mem position member))
    unfold tryPositions
    dsimp only
    by_cases over_ : attempts + 1 > attemptBound
    · rw [if_pos over_]
      refine ⟨by dsimp only; omega, by simp, ?_⟩
      intro _ bounded
      dsimp only at bounded
      omega
    · rw [if_neg over_]
      by_cases taken : intervals.any (overlap (candidate.interval position)) = true
      · rw [if_pos taken]
        refine ⟨by omega, ?_, ?_⟩
        · intro result found _
          exact later.2.1 result found (by omega)
        · intro none bounded its member
          rcases List.mem_cons.mp member with rfl | member
          · rintro ⟨more, fits⟩
            exact any_overlap_false.mpr fits.2.1 taken
          · exact later.2.2 none bounded its member
      · rw [if_neg taken]
        have clear := any_overlap_false.mp taken
        have deeper := nextAnswers (intervals ++ [candidate.interval position])
          (chosen.set candidate.resultIndex position) (attempts + 1)
        have grown := deeper.grows
        split
        · rename_i used result answered
          rw [answered] at deeper grown
          refine ⟨by dsimp only at grown ⊢; omega, ?_, by simp⟩
          intro its same _
          cases same
          obtain ⟨bounded, more, fits, assigned⟩ := deeper.found result rfl (by omega)
          exact ⟨bounded, position :: more, ⟨offered position List.mem_cons_self, clear, fits⟩, assigned⟩
        · rename_i used answered
          rw [answered] at deeper grown
          dsimp only at grown
          have again := ih used (fun other member => offered other (List.mem_cons_of_mem position member))
          refine ⟨by omega, ?_, ?_⟩
          · intro result found _
            by_cases inBound : used ≤ attemptBound
            · exact again.2.1 result found inBound
            · exfalso
              cases others with
              | nil => simp [tryPositions] at found
              | cons _ _ =>
                have exceeded : used + 1 > attemptBound := by omega
                simp [tryPositions, exceeded] at found
          · intro none bounded its member
            rcases List.mem_cons.mp member with rfl | member
            · rintro ⟨more, fits⟩
              exact deeper.none rfl (by dsimp only; omega) ⟨more, fits.2.2⟩
            · exact again.2.2 none bounded its member

theorem select_answers (candidates : List Candidate) (intervals : List Interval) (chosen : Chosen) (attempts : Nat) :
    Answers candidates intervals chosen attempts (select candidates intervals chosen attempts) := by
  induction candidates generalizing intervals chosen attempts with
  | nil =>
    refine ⟨Nat.le_refl _, ?_, by simp [select]⟩
    intro result same bounded
    cases same
    exact ⟨bounded, [], trivial, rfl⟩
  | cons candidate rest ih =>
    obtain ⟨grows, found, none⟩ := tryPositions_answers ih intervals chosen candidate.positions attempts (fun _ member => member)
    refine ⟨grows, found, ?_⟩
    rintro empty bounded ⟨positions, fits⟩
    cases positions with
    | nil => cases fits
    | cons position others => exact none empty bounded position fits.1 ⟨others, fits⟩

/-- Positions for the candidates, one of each, no two of which share a character. -/
def Family (candidates : List Candidate) (positions : List Nat) : Prop :=
  List.Forall₂ (fun candidate position => position ∈ candidate.positions) candidates positions ∧
    (List.zipWith Candidate.interval candidates positions).Pairwise fun left right => overlap left right = false

theorem fits_iff {candidates : List Candidate} {intervals : List Interval} {positions : List Nat} :
    Fits candidates intervals positions ↔ Family candidates positions ∧
      ∀ placed ∈ List.zipWith Candidate.interval candidates positions, ∀ other ∈ intervals, overlap placed other = false := by
  induction candidates generalizing intervals positions with
  | nil => cases positions <;> simp [Fits, Family]
  | cons candidate rest ih =>
    cases positions with
    | nil => simp [Fits, Family]
    | cons position others =>
      simp only [Fits, ih, Family, List.forall₂_cons, List.zipWith_cons_cons, List.pairwise_cons, List.mem_cons,
        forall_eq_or_imp, List.mem_append, List.not_mem_nil, or_false]
      constructor
      · rintro ⟨offered, clear, ⟨each, apart⟩, both⟩
        refine ⟨⟨⟨offered, each⟩, ?_, apart⟩, clear, fun placed member other listed => both placed member other (Or.inl listed)⟩
        intro placed member
        rw [overlap_comm]
        exact both placed member _ (Or.inr rfl)
      · rintro ⟨⟨⟨offered, each⟩, first, apart⟩, clear, others'⟩
        refine ⟨offered, clear, ⟨each, apart⟩, ?_⟩
        rintro placed member other (listed | rfl)
        · exact others' placed member other listed
        · rw [overlap_comm]
          exact first placed member

theorem exists_family_iff {candidates : List Candidate} (distinct : candidates.Nodup) :
    (∃ positions, Family candidates positions) ↔ ∃ choose : Candidate → Nat,
      (∀ candidate ∈ candidates, choose candidate ∈ candidate.positions) ∧
        candidates.Pairwise fun left right => overlap (left.interval (choose left)) (right.interval (choose right)) = false := by
  constructor
  · rintro ⟨positions, each, apart⟩
    obtain ⟨choose, rfl⟩ : ∃ choose : Candidate → Nat, positions = candidates.map choose := by
      clear apart
      induction each with
      | nil => exact ⟨fun _ => 0, rfl⟩
      | @cons candidate position rest others _ _ ih =>
        obtain ⟨choose, same⟩ := ih distinct.tail
        refine ⟨fun other => if other = candidate then position else choose other, ?_⟩
        rw [List.map_cons, if_pos rfl, same]
        congr 1
        apply List.map_congr_left
        intro other member
        have different : other ≠ candidate := by
          rintro rfl
          exact (List.nodup_cons.mp distinct).1 member
        rw [if_neg different]
    refine ⟨choose, ?_, ?_⟩
    · rw [List.forall₂_map_right_iff, List.forall₂_same] at each
      exact each
    · rw [List.zipWith_map_right, List.zipWith_self, List.pairwise_map] at apart
      exact apart
  · rintro ⟨choose, each, apart⟩
    refine ⟨candidates.map choose, ?_, ?_⟩
    · rw [List.forall₂_map_right_iff, List.forall₂_same]
      exact each
    · rw [List.zipWith_map_right, List.zipWith_self, List.pairwise_map]
      exact apart

theorem exists_family_perm {left right : List Candidate} (same : left.Perm right) (distinct : left.Nodup) :
    (∃ positions, Family left positions) ↔ ∃ positions, Family right positions := by
  rw [exists_family_iff distinct, exists_family_iff (same.nodup_iff.mp distinct)]
  constructor
  · rintro ⟨choose, each, apart⟩
    refine ⟨choose, fun candidate member => each candidate (same.mem_iff.mpr member), ?_⟩
    refine (same.pairwise_iff ?_).mp apart
    intro first second clear
    rw [overlap_comm]
    exact clear
  · rintro ⟨choose, each, apart⟩
    refine ⟨choose, fun candidate member => each candidate (same.mem_iff.mp member), ?_⟩
    refine (same.pairwise_iff ?_).mpr apart
    intro first second clear
    rw [overlap_comm]
    exact clear

theorem mem_keys_assign {candidates : List Candidate} {positions : List Nat} (chosen : Chosen)
    (aligned : candidates.length = positions.length) (index : Nat) :
    index ∈ (assign chosen candidates positions).keys ↔
      index ∈ chosen.keys ∨ ∃ candidate ∈ candidates, candidate.resultIndex = index := by
  induction candidates generalizing chosen positions with
  | nil => simp [assign]
  | cons candidate rest ih =>
    cases positions with
    | nil => cases aligned
    | cons position others =>
      have tail := ih (chosen.set candidate.resultIndex position) (Nat.succ.inj aligned)
      rw [assign, tail]
      have keys : index ∈ (chosen.set candidate.resultIndex position).keys ↔
          index ∈ chosen.keys ∨ candidate.resultIndex = index := by
        have known (entries : Chosen) : index ∈ entries.keys ↔ entries.get? index ≠ none := by
          rw [ne_eq, Dict.get?_eq_none, not_not]
        rw [known, known, Dict.get?_set]
        by_cases same : candidate.resultIndex = index
        · simp [same]
        · simp [same]
      simp only [keys, List.mem_cons, exists_eq_or_imp, or_assoc]

theorem Family.length_eq {candidates : List Candidate} {positions : List Nat} (family : Family candidates positions) :
    candidates.length = positions.length := family.1.length_eq

theorem search_complete {candidates : List Candidate} (distinct : candidates.Nodup) :
    ((search candidates).1 ≤ attemptBound → ((∃ positions, Family candidates positions) ↔ (search candidates).2.isSome)) ∧
      ((search candidates).2.isSome → (search candidates).1 ≤ attemptBound ∧
        (∃ positions, Family candidates positions) ∧
        ∀ candidate ∈ candidates, candidate.resultIndex ∈ independentTextPositions candidates) := by
  have answers := select_answers (candidates.insertionSort fewerPositions) [] [] 0
  have same : (candidates.insertionSort fewerPositions).Perm candidates := List.perm_insertionSort _ candidates
  have order := exists_family_perm same (same.nodup_iff.mpr distinct)
  have fits (positions : List Nat) : Fits (candidates.insertionSort fewerPositions) [] positions ↔
      Family (candidates.insertionSort fewerPositions) positions := by simp [fits_iff]
  have sound : (search candidates).2.isSome → (search candidates).1 ≤ attemptBound ∧
      (∃ positions, Family candidates positions) ∧
        ∀ candidate ∈ candidates, candidate.resultIndex ∈ independentTextPositions candidates := by
    intro some
    obtain ⟨result, found⟩ := Option.isSome_iff_exists.mp some
    obtain ⟨bounded, positions, its, assigned⟩ := answers.found result found (Nat.zero_le _)
    have family := (fits positions).mp its
    refine ⟨bounded, order.mp ⟨positions, family⟩, ?_⟩
    intro candidate member
    rw [independentTextPositions, found, Option.getD_some, assigned]
    apply (mem_keys_assign [] family.length_eq _).mpr
    exact Or.inr ⟨candidate, same.mem_iff.mpr member, rfl⟩
  refine ⟨?_, sound⟩
  intro bounded
  constructor
  · intro exists_
    by_contra none
    obtain ⟨positions, family⟩ := order.mpr exists_
    exact answers.none (by simpa [search] using none) bounded ⟨positions, (fits positions).mpr family⟩
  · intro some
    exact (sound some).2.1

def Requires (predicates : List Record) (required : List (TextKind × Text)) : Prop :=
  List.Forall₂ (fun predicate (text : TextKind × Text) => ∃ name value, predicate.field "kind" = .str name ∧
    textKind? name = some text.1 ∧ text.1.isPresent = true ∧ predicate.field "value" = .str value ∧
    text.2 = canonicalInsertion value.toList) predicates required

/-- Where a required text occurs: a plain text anywhere, a block of lines from the start of a line to the end of one.
    A final newline of a block may also be the end of the content. -/
def Occurs (content : Text) (required : TextKind × Text) (position : Nat) : Prop :=
  if required.1.isLine || endsWithFeed required.2 then
    ∃ front back, StartsAt content (dropFinalFeed required.2) front back ∧ EndsLine back ∧ position = front.length
  else required.2 <+: content.drop position

def Offered (content : Text) (required : TextKind × Text) (position : Nat) : Prop :=
  position ∈ required.1.positions content required.2

/-- Allowed positions for all required texts, no two of which share a character. -/
def Apart (allowed : TextKind × Text → Nat → Prop) (required : List (TextKind × Text)) : Prop :=
  ∃ positions, List.Forall₂ allowed required positions ∧
    (List.zipWith (fun (text : TextKind × Text) position => (position, position + text.2.length)) required positions).Pairwise
      fun left right => overlap left right = false

def candidatesOf (content : Text) (first : Nat) : List (TextKind × Text) → List Candidate
  | [] => []
  | text :: rest => ⟨first, text.2, text.1.positions content text.2⟩ :: candidatesOf content (first + 1) rest

def CutOff (content : Text) (required : List (TextKind × Text)) : Prop :=
  attemptBound < (search (candidatesOf content 0 required)).1

theorem apart_offered_iff (content : Text) (first : Nat) {required : List (TextKind × Text)} :
    Apart (Offered content) required ↔ ∃ positions, Family (candidatesOf content first required) positions := by
  have each (positions : List Nat) :
      (List.Forall₂ (Offered content) required positions ↔
        List.Forall₂ (fun candidate position => position ∈ candidate.positions) (candidatesOf content first required) positions) ∧
      List.zipWith (fun (text : TextKind × Text) position => (position, position + text.2.length)) required positions =
        List.zipWith Candidate.interval (candidatesOf content first required) positions := by
    induction required generalizing first positions with
    | nil => simp [candidatesOf]
    | cons text rest ih =>
      cases positions with
      | nil => simp [candidatesOf]
      | cons position others =>
        obtain ⟨tail, intervals⟩ := ih (first + 1) others
        simp [candidatesOf, tail, intervals, Offered, Candidate.interval]
  constructor
  · rintro ⟨positions, offered, apart⟩
    exact ⟨positions, (each positions).1.mp offered, (each positions).2 ▸ apart⟩
  · rintro ⟨positions, offered, apart⟩
    exact ⟨positions, (each positions).1.mpr offered, (each positions).2 ▸ apart⟩

theorem candidatesOf_index (content : Text) (first : Nat) {required : List (TextKind × Text)} :
    ∀ candidate ∈ candidatesOf content first required,
      first ≤ candidate.resultIndex ∧ candidate.resultIndex < first + required.length := by
  induction required generalizing first with
  | nil => simp [candidatesOf]
  | cons text rest ih =>
    intro candidate member
    rcases List.mem_cons.mp member with rfl | member
    · simp
    · have := ih (first + 1) candidate member
      simp only [List.length_cons]
      omega

theorem candidatesOf_nodup (content : Text) (first : Nat) (required : List (TextKind × Text)) :
    (candidatesOf content first required).Nodup := by
  induction required generalizing first with
  | nil => exact List.nodup_nil
  | cons text rest ih =>
    apply List.nodup_cons.mpr
    refine ⟨?_, ih (first + 1)⟩
    intro member
    have := candidatesOf_index content (first + 1) _ member
    dsimp only at this
    omega

theorem exists_candidate_index (content : Text) (first : Nat) {required : List (TextKind × Text)} {index : Nat}
    (after : first ≤ index) (before : index < first + required.length) :
    ∃ candidate ∈ candidatesOf content first required, candidate.resultIndex = index := by
  induction required generalizing first with
  | nil => simp at before; omega
  | cons text rest ih =>
    by_cases here : index = first
    · exact ⟨_, List.mem_cons_self, here.symm⟩
    · simp only [List.length_cons] at before
      obtain ⟨candidate, member, its⟩ := ih (first + 1) (by omega) (by omega)
      exact ⟨candidate, List.mem_cons_of_mem _ member, its⟩

section Evaluations

variable {platform : Platform} {evaluation : Evaluation} {scope : Scope} {required : List (TextKind × Text)}

theorem evaluatePredicate_present {predicate : Record} {text : TextKind × Text} {name value : String}
    {entry : PredicateResult × Option (Text × List Nat)} (distinct : evaluation.distinctTextMatches = true)
    (kind : predicate.field "kind" = .str name) (known : textKind? name = some text.1) (present : text.1.isPresent = true)
    (given : predicate.field "value" = .str value) (canonical : text.2 = canonicalInsertion value.toList)
    (evaluated : evaluatePredicate evaluation scope predicate = .ok entry) :
    entry.2 = some (text.2, text.1.positions (canonicalInsertion scope.scopedContent) text.2) := by
  have other : name ≠ "STATUS_EQUALS" := by
    rintro rfl
    cases known
  unfold evaluatePredicate at evaluated
  rw [kind] at evaluated
  split at evaluated
  · rename_i same
    exact absurd (Json.str.inj same) other
  · rename_i its same
    cases same
    rw [known] at evaluated
    dsimp only at evaluated
    obtain ⟨⟨result, candidate⟩, text', made⟩ := bind_eq_ok.mp evaluated
    obtain ⟨expected, looked, made'⟩ := bind_eq_ok.mp text'
    have same : expected = text.2 := by
      unfold expectedText at looked
      rw [given] at looked
      split at looked
      · cases looked
      · rename_i its' _ equal
        cases equal
        cases looked
        exact canonical.symm
      · cases looked
    cases made'
    cases made
    simp [distinct, present, same]
  · rename_i never
    exact absurd rfl (never name)

theorem evaluatePredicates_present {predicates : List Record} {entries : List (PredicateResult × Option (Text × List Nat))}
    (distinct : evaluation.distinctTextMatches = true) (requires : Requires predicates required)
    (evaluated : evaluatePredicates evaluation scope predicates = .ok entries) :
    List.Forall₂ (fun entry text => entry.2 = some (text.2, text.1.positions (canonicalInsertion scope.scopedContent) text.2))
      entries required := by
  induction requires generalizing entries with
  | nil =>
    cases evaluated
    exact List.Forall₂.nil
  | cons this _ ih =>
    simp only [evaluatePredicates, bind_eq_ok] at evaluated
    obtain ⟨entry, first, others, rest, made⟩ := evaluated
    cases made
    obtain ⟨name, value, kind, known, present, given, canonical⟩ := this
    exact List.Forall₂.cons (evaluatePredicate_present distinct kind known present given canonical first) (ih rest)

theorem distinctCandidates_eq {content : Text} {entries : List (PredicateResult × Option (Text × List Nat))}
    (offered : List.Forall₂ (fun entry text => entry.2 = some (text.2, text.1.positions content text.2)) entries required) :
    distinctCandidates entries = candidatesOf content 0 required := by
  have general (first : Nat) : (entries.zipIdx first).filterMap (fun placed =>
      placed.1.2.map fun found => Candidate.mk placed.2 found.1 found.2) = candidatesOf content first required := by
    induction offered generalizing first with
    | nil => rfl
    | cons this _ ih =>
      rw [List.zipIdx_cons, List.filterMap_cons]
      simp only [this, Option.map_some, ih, candidatesOf]
  exact general 0

def AllMatch (evidence : Evidence) : Prop := ∀ result ∈ evidence.predicateResults, result.result = .isMatch

theorem settleDistinct_allMatch {content : Text} {entries : List (PredicateResult × Option (Text × List Nat))}
    (offered : List.Forall₂ (fun entry text => entry.2 = some (text.2, text.1.positions content text.2)) entries required) :
    (∀ result ∈ settleDistinct entries, result.result = .isMatch) ↔
      ∀ index < required.length, index ∈ independentTextPositions (candidatesOf content 0 required) := by
  have length := offered.length_eq
  have outcome (index : Nat) (bounded : index < entries.length) :
      ((settleDistinct entries)[index]?.map PredicateResult.result) =
        some (.of ((independentTextPositions (candidatesOf content 0 required)).contains index)) := by
    have its := List.forall₂_iff_get.mp offered |>.2 index bounded (length ▸ bounded)
    have some : entries[index]? = some (entries.get ⟨index, bounded⟩) := by simp
    rw [settleDistinct, List.getElem?_mapIdx, some, distinctCandidates_eq offered]
    simp only [Option.map_some, its]
  constructor
  · intro all index bounded
    have here := outcome index (length ▸ bounded)
    obtain ⟨result, found, its⟩ := Option.map_eq_some_iff.mp here
    have isMatch := all result (List.mem_of_getElem? found)
    rw [its] at isMatch
    by_contra missing
    simp [Outcome.of, missing] at isMatch
  · intro all result member
    obtain ⟨index, bounded, rfl⟩ := List.mem_iff_getElem.mp member
    have inside : index < entries.length := by simpa [settleDistinct] using bounded
    have here := outcome index inside
    rw [List.getElem?_eq_getElem bounded, Option.map_some] at here
    rw [Option.some.inj here]
    simp [Outcome.of, all index (length ▸ inside)]

theorem evaluated_cases {evidence : Evidence} (evaluated : evaluatePathPredicates platform evaluation = .ok evidence) :
    ∃ scope entries, scopeOf evaluation = .ok scope ∧ evaluation.predicates ≠ [] ∧
      evaluatePredicates evaluation scope evaluation.predicates = .ok entries ∧
      evidence.predicateResults = settleDistinct entries := by
  simp only [evaluatePathPredicates, bind_eq_ok] at evaluated
  obtain ⟨_, checked, scope, scopes, entries, all, _, _, made⟩ := evaluated
  cases made
  simp only [checkEvaluation, bind_eq_ok, raiseIf_eq_ok] at checked
  obtain ⟨_, _, _, _, _, _, _, _, some⟩ := checked
  exact ⟨scope, entries, scopes, some, all, rfl⟩

theorem allMatch_iff {evidence : Evidence} (evaluated : evaluatePathPredicates platform evaluation = .ok evidence)
    (distinct : evaluation.distinctTextMatches = true) (requires : Requires evaluation.predicates required) :
    ∃ scope, scopeOf evaluation = .ok scope ∧
      (AllMatch evidence ↔ ¬CutOff (canonicalInsertion scope.scopedContent) required ∧
        Apart (Offered (canonicalInsertion scope.scopedContent)) required) := by
  obtain ⟨scope, entries, scopes, nonempty, all, results⟩ := evaluated_cases evaluated
  have offered := evaluatePredicates_present distinct requires all
  obtain ⟨complete, sound⟩ := search_complete (candidatesOf_nodup (canonicalInsertion scope.scopedContent) 0 required)
  have positive : 0 < required.length := by
    rw [← requires.length_eq]
    exact List.length_pos_iff.mpr nonempty
  refine ⟨scope, scopes, ?_⟩
  rw [AllMatch, results, settleDistinct_allMatch offered, apart_offered_iff _ 0, CutOff, Nat.not_lt]
  constructor
  · intro selected
    have some : (search (candidatesOf (canonicalInsertion scope.scopedContent) 0 required)).2.isSome := by
      by_contra none
      have first := selected 0 positive
      rw [independentTextPositions] at first
      simp only [Option.not_isSome_iff_eq_none] at none
      rw [none] at first
      cases first
    exact ⟨(sound some).1, (sound some).2.1⟩
  · rintro ⟨bounded, family⟩ index inside
    have some := (complete bounded).mp family
    have within : index < 0 + required.length := by omega
    obtain ⟨candidate, member, rfl⟩ :=
      exists_candidate_index (canonicalInsertion scope.scopedContent) 0 (Nat.zero_le index) within
    exact (sound some).2.2 candidate member

end Evaluations

theorem mem_scanFrom {needle text : Text} {offset skip position : Nat} (member : position ∈ scanFrom needle offset skip text) :
    ∃ distance, position = offset + distance ∧ needle <+: text.drop distance := by
  induction text generalizing offset skip with
  | nil => cases skip <;> cases member
  | cons char rest ih =>
    cases skip with
    | succ skip =>
      have later : position ∈ scanFrom needle (offset + 1) skip rest := member
      obtain ⟨distance, rfl, found⟩ := ih later
      exact ⟨distance + 1, by omega, found⟩
    | zero =>
      unfold scanFrom at member
      split at member
      · rename_i here
        rcases List.mem_cons.mp member with rfl | member
        · exact ⟨0, rfl, List.isPrefixOf_iff_prefix.mp here⟩
        · obtain ⟨distance, rfl, found⟩ := ih member
          exact ⟨distance + 1, by omega, found⟩
      · obtain ⟨distance, rfl, found⟩ := ih member
        exact ⟨distance + 1, by omega, found⟩

theorem offered_occurs {content : Text} {required : TextKind × Text} {position : Nat}
    (single : endsWithFeed required.2 = true → endsWithFeed required.2.dropLast = false)
    (offered : Offered content required position) : Occurs content required position := by
  obtain ⟨kind, value⟩ := required
  dsimp only at single
  have block (candidate : Text) (known : candidate = value ∨ (endsWithFeed value = true ∧ candidate = value.dropLast))
      (member : position ∈ blockPositions content candidate) :
      ∃ front back, StartsAt content (dropFinalFeed value) front back ∧ EndsLine back ∧ position = front.length := by
    obtain ⟨front, back, starts, ends, here⟩ := mem_blockPositions member
    by_cases feed : endsWithFeed value = true
    · obtain ⟨bare, rfl⟩ := endsWithFeed_iff.mp feed
      rw [dropFinalFeed, if_pos feed, List.dropLast_concat]
      rw [List.dropLast_concat] at single known
      rcases known with rfl | ⟨_, rfl⟩
      · exact ⟨front, '\n' :: back, ⟨by simpa using starts.whole, starts.start⟩, Or.inr rfl, here⟩
      · exact ⟨front, back, starts, ends.resolve_left (by simp [single feed]), here⟩
    · have same : candidate = value := known.resolve_right fun both => feed both.1
      subst same
      rw [dropFinalFeed, if_neg feed]
      exact ⟨front, back, starts, ends.resolve_left feed, here⟩
  unfold Offered TextKind.positions at offered
  unfold Occurs
  by_cases blocks : (kind.isLine || endsWithFeed value) = true
  · rw [if_pos blocks]
    have found : position ∈ firstFound content (if endsWithFeed value then [value, value.dropLast] else [value]) := by
      by_cases line : kind.isLine = true
      · simpa [line, logicalLinePositions] using offered
      · have feed : endsWithFeed value = true := by simpa [line] using blocks
        simpa [line, logicalTextPositions, feed] using offered
    obtain ⟨candidate, listed, member⟩ := mem_firstFound found
    apply block candidate _ member
    split at listed
    · rename_i feed
      simp only [List.mem_cons, List.not_mem_nil, or_false] at listed
      exact listed.imp_right fun same => ⟨feed, same⟩
    · exact Or.inl (List.mem_singleton.mp listed)
  · rw [if_neg blocks]
    simp only [Bool.or_eq_true, not_or, Bool.not_eq_true] at blocks
    simp only [blocks.1, Bool.false_eq_true, ↓reduceIte, logicalTextPositions, blocks.2] at offered
    obtain ⟨distance, same, found⟩ := mem_scanFrom offered
    rw [same, Nat.zero_add]
    exact found

theorem occurs_plain {content value : Text} {position : Nat} (bare : endsWithFeed value = false)
    (found : value <+: content.drop position) : Occurs content (.textPresent, value) position := by
  simpa [Occurs, TextKind.isLine, bare] using found

namespace Sample

def platform : Platform where
  sha256 text := String.ofList text
  bodyDigest _ := ""

def evaluation (content : String) (values : List String) : Evaluation where
  path := "README.md"
  content := content.toList
  repositoryRevision := "aaaaaaaaaaaaaaaaaaaaaaaaaaaaaaaaaaaaaaaa"
  sourceId := "generated-insertion-reconciliation"
  predicates := values.map fun value => [("kind", .str "TEXT_PRESENT"), ("value", .str value)]
  distinctTextMatches := true

end Sample

end Aep.PlanningEvidence
