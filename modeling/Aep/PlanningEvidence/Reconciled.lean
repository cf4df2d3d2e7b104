import Aep.PlanningEvidence.DistinctMatches
import Aep.PlanningEvidence.Reconciliation

namespace Aep.PlanningEvidence

open LocalizedPatch Result

section Evaluations

variable {platform : Platform} {evaluation : Evaluation} {scope : Scope}

theorem evaluatePredicate_predicate {predicate : Record} {entry : PredicateResult × Option (Text × List Nat)}
    (done : evaluatePredicate evaluation scope predicate = .ok entry) : entry.1.predicate = predicate := by
  unfold evaluatePredicate at done
  split at done
  · obtain ⟨result, status, made⟩ := bind_eq_ok.mp done
    cases made
    unfold evaluateStatus at status
    split at status <;> cases status
    rfl
  · split at done
    · obtain ⟨⟨result, candidate⟩, text, made⟩ := bind_eq_ok.mp done
      obtain ⟨expected, _, here⟩ := bind_eq_ok.mp text
      cases here
      cases made
      rfl
    · cases done
      rfl
  · split at done <;> cases done
    rfl

theorem evaluatePredicates_predicates {predicates : List Record}
    {entries : List (PredicateResult × Option (Text × List Nat))}
    (done : evaluatePredicates evaluation scope predicates = .ok entries) :
    entries.map (fun entry => entry.1.predicate) = predicates := by
  induction predicates generalizing entries with
  | nil =>
    cases done
    rfl
  | cons predicate rest ih =>
    simp only [evaluatePredicates, bind_eq_ok, pure_eq_ok] at done
    obtain ⟨entry, first, others, later, rfl⟩ := done
    rw [List.map_cons, evaluatePredicate_predicate first, ih later]

theorem settleDistinct_predicates (entries : List (PredicateResult × Option (Text × List Nat))) :
    (settleDistinct entries).map PredicateResult.predicate = entries.map fun entry => entry.1.predicate := by
  unfold settleDistinct
  refine List.ext_getElem? fun index => ?_
  rw [List.getElem?_map, List.getElem?_mapIdx, List.getElem?_map, Option.map_map]
  refine congrArg (Option.map · entries[index]?) (funext fun entry => ?_)
  obtain ⟨result, candidate⟩ := entry
  cases candidate <;> rfl

theorem evidence_predicates {evidence : Evidence} (done : evaluatePathPredicates platform evaluation = .ok evidence) :
    evidence.predicateResults.map PredicateResult.predicate = evaluation.predicates := by
  obtain ⟨scope, entries, -, -, all, results⟩ := evaluated_cases done
  rw [results, settleDistinct_predicates, evaluatePredicates_predicates all]

def requiredText (value : String) : TextKind × Text :=
  (if '\n' ∈ value.toList ∨ '\r' ∈ value.toList then .linePresent else .textPresent, canonicalInsertion value.toList)

theorem presence_requires (values : List String) : Requires (values.map presence) (values.map requiredText) := by
  induction values with
  | nil => exact List.Forall₂.nil
  | cons value rest ih =>
    refine List.Forall₂.cons ?_ ih
    by_cases lines : '\n' ∈ value.toList ∨ '\r' ∈ value.toList
    · exact ⟨"LINE_PRESENT", value, by simp [presence, lines, Dict.field, Dict.get?], by simp [requiredText, lines, textKind?],
        by simp [requiredText, lines, TextKind.isPresent], by simp [presence, Dict.field, Dict.get?], rfl⟩
    · exact ⟨"TEXT_PRESENT", value, by simp [presence, lines, Dict.field, Dict.get?], by simp [requiredText, lines, textKind?],
        by simp [requiredText, lines, TextKind.isPresent], by simp [presence, Dict.field, Dict.get?], rfl⟩

theorem evaluateText_presence {kind : TextKind} {value : String} {result : PredicateResult × Text × List Nat}
    (present : kind.isPresent = true) (done : evaluateText scope kind (presence value) = .ok result) :
    result.1.result =
      .of (!(kind.positions (canonicalInsertion scope.scopedContent) (canonicalInsertion value.toList)).isEmpty) := by
  obtain ⟨expected, looked, made⟩ := bind_eq_ok.mp done
  have given : Dict.field (presence value) "value" = .str value := by simp [presence, Dict.field, Dict.get?]
  have same : expected = canonicalInsertion value.toList := by
    unfold expectedText at looked
    rw [given] at looked
    split at looked
    · cases looked
    · rename_i its _ equal
      cases equal
      cases looked
      rfl
    · cases looked
  cases made
  simp [present, same]

theorem evaluatePredicate_presence {value : String} {entry : PredicateResult × Option (Text × List Nat)}
    (together : evaluation.distinctTextMatches = false)
    (done : evaluatePredicate evaluation scope (presence value) = .ok entry) :
    (entry.1.result = .isMatch ↔ ∃ position, Offered (canonicalInsertion scope.scopedContent) (requiredText value) position) ∧
      entry.2 = none := by
  have general (kind : TextKind) (present : kind.isPresent = true) (its : (requiredText value).1 = kind)
      (made : (evaluateText scope kind (presence value) >>= fun evaluated =>
        pure (evaluated.1, if evaluation.distinctTextMatches && kind.isPresent then some evaluated.2 else none)) =
          Except.ok entry) :
      (entry.1.result = .isMatch ↔
        ∃ position, Offered (canonicalInsertion scope.scopedContent) (requiredText value) position) ∧ entry.2 = none := by
    obtain ⟨⟨result, candidate⟩, text, here⟩ := bind_eq_ok.mp made
    have outcome := evaluateText_presence present text
    cases here
    refine ⟨?_, by simp [together]⟩
    dsimp only at outcome ⊢
    rw [outcome]
    unfold Offered
    rw [its]
    cases found : kind.positions (canonicalInsertion scope.scopedContent) (canonicalInsertion value.toList) with
    | nil => simp [Outcome.of, requiredText, found]
    | cons first rest => simp [Outcome.of, requiredText, found]
  have required : requiredText value = (if '\n' ∈ value.toList ∨ '\r' ∈ value.toList then .linePresent else .textPresent,
    canonicalInsertion value.toList) := rfl
  unfold evaluatePredicate at done
  by_cases lines : '\n' ∈ value.toList ∨ '\r' ∈ value.toList
  · have kind : Dict.field (presence value) "kind" = .str "LINE_PRESENT" := by simp [presence, lines, Dict.field, Dict.get?]
    rw [kind] at done
    exact general .linePresent rfl (by simp [required, lines]) done
  · have kind : Dict.field (presence value) "kind" = .str "TEXT_PRESENT" := by simp [presence, lines, Dict.field, Dict.get?]
    rw [kind] at done
    exact general .textPresent rfl (by simp [required, lines]) done

theorem single_match {value : String} {evidence : Evidence} (together : evaluation.distinctTextMatches = false)
    (only : evaluation.predicates = [presence value])
    (done : evaluatePathPredicates platform evaluation = .ok evidence) :
    ∃ scope, scopeOf evaluation = .ok scope ∧
      ((evidence.predicateResults.head?.map PredicateResult.result) = some .isMatch ↔
        ∃ position, Offered (canonicalInsertion scope.scopedContent) (requiredText value) position) := by
  obtain ⟨scope, entries, scopes, -, all, results⟩ := evaluated_cases done
  rw [only] at all
  simp only [evaluatePredicates, bind_eq_ok, pure_eq_ok] at all
  obtain ⟨entry, first, others, rfl, rfl⟩ := all
  obtain ⟨outcome, candidate⟩ := evaluatePredicate_presence together first
  refine ⟨scope, scopes, ?_⟩
  rw [results, ← outcome]
  obtain ⟨result, position⟩ := entry
  dsimp only at candidate
  subst candidate
  simp [settleDistinct]

end Evaluations

section Statement

variable (platform : ReconciliationPlatform) (asked : Reconciliation)

def scopedText (content : Text) : Option Record → Except InspectionReason Text
  | none => .ok content
  | some region => do
    let span ← regionSpan content region
    return Splice.slice content span.start span.stop

/-- An occurrence as the evaluator offers it. Unless the value ends in two line breaks it is one of the text itself. -/
structure Found (content : Text) (required : TextKind × Text) (position : Nat) : Prop where
  offered : Offered content required position
  occurs : (endsWithFeed required.2 = true → endsWithFeed required.2.dropLast = false) → Occurs content required position

/-- Every postcondition of a scope evaluates to a match within the scope's region. -/
structure Satisfied (path : String) (content : Text) (scope : Record) : Prop where
  evaluated : ∃ predicates region sourceId evidence, scopePredicates path scope = .ok predicates ∧
    scopeRegion scope = .ok region ∧
    evaluatePathPredicates platform.toPlatform (evaluationOf asked path content predicates sourceId region false) =
      .ok evidence ∧
    evidence.predicateResults.map PredicateResult.predicate = predicates ∧ AllMatch evidence

def Holds (content : Text) (value : String) (scope : Record) : Prop :=
  ownsValue scope value = .ok true ∧ ∃ region text position, scopeRegion scope = .ok region ∧
    scopedText content region = .ok text ∧ Found (canonicalInsertion text) (requiredText value) position

def OwnedOnce (scopes : List Record) (content : Text) (value : String) : Prop :=
  ∃ before scope after, scopes = before ++ scope :: after ∧ Holds content value scope ∧
    ∀ other ∈ before ++ after, ¬Holds content value other

/-- The required values occur apart from one another in one scope, or each within exactly one owning scope. -/
def Inserted (path : String) (content : Text) : Prop :=
  (∃ scope ∈ scopesOf asked path, ∃ region text, scopeRegion scope = .ok region ∧ scopedText content region = .ok text ∧
    Apart (Found (canonicalInsertion text)) ((insertionsOf asked path).map requiredText)) ∨
  ∀ value ∈ insertionsOf asked path, OwnedOnce (scopesOf asked path) content value

/-- The content that a disposition leaves: the proposed one of a change, the target's own otherwise. -/
def resultingContent (path : String) : PathState → Option Text
  | .change => (asked.proposedContentsByPath.get? path).map String.toList
  | .noChange => targetContent (itemAt asked.targets path)

/-- All that is recorded of a path that stays is about one content. -/
structure Kept (entry : PathDisposition) (content : Text) : Prop where
  resulting : resultingContent asked entry.path entry.disposition = some content
  postconditions : ∀ scope ∈ scopesOf asked entry.path, Satisfied platform asked entry.path content scope
  insertions : Inserted asked entry.path content
  digest : entry.outputSha256 = some (platform.sha256 content)

structure Deleted (entry : PathDisposition) : Prop where
  disposition : entry.disposition = .change
  postconditions : ∃ predicates, deletedPostconditions asked entry.path = .ok predicates ∧ predicates ≠ [] ∧
    ∀ predicate ∈ predicates, Dict.field predicate "kind" = .str "TEXT_ABSENT"
  insertions : insertionsOf asked entry.path = []
  digest : entry.outputSha256 = none

def Proven (entry : PathDisposition) : Prop :=
  (entry.path ∈ asked.deletedPaths → Deleted asked entry) ∧
    (entry.path ∉ asked.deletedPaths → ∃ content, Kept platform asked entry content)

structure Reconciled (record : ReconciliationRecord) : Prop where
  disjoint : ∀ path ∈ record.effectiveRequiredPaths, path ∉ record.verifiedNoChangePaths
  covers : ∀ path, path ∈ record.effectiveRequiredPaths ∨ path ∈ record.verifiedNoChangePaths ↔
    path ∈ asked.originalRequiredPaths
  recorded : ∀ path ∈ asked.originalRequiredPaths, ∃ entry ∈ record.pathDispositions, entry.path = path
  effective : ∀ entry ∈ record.pathDispositions,
    (entry.path ∈ record.effectiveRequiredPaths ↔ entry.disposition = .change)
  proven : ∀ entry ∈ record.pathDispositions, Proven platform asked entry

/-- A path without a change is not deleted, and what is proposed for it is what it holds. -/
def Unproposed : Prop :=
  ∀ path ∈ asked.originalRequiredPaths,
    Dict.field (itemAt asked.dispositions path) "disposition" = .str "NO_CHANGE" →
      path ∉ asked.deletedPaths ∧ ∀ proposed, asked.proposedContentsByPath.get? path = some proposed →
        targetContent (itemAt asked.targets path) = some proposed.toList

def Told : Prop :=
  ∀ path proposed content, asked.proposedContentsByPath.get? path = some proposed →
    targetContent (itemAt asked.targets path) = some content →
      platform.sha256 proposed.toList = platform.sha256 content → content = proposed.toList

end Statement

section Proofs

variable {platform : ReconciliationPlatform} {asked : Reconciliation} {path : String} {content : Text}

@[simp] theorem evaluated_eq_ok {α : Type} {computed : Except EvidenceError α} {value : α} :
    evaluated computed = .ok value ↔ computed = .ok value := by
  cases computed <;> simp [evaluated]

@[simp] theorem refuseIf_eq_ok {condition : Prop} [Decidable condition] {message : String} {result : Unit} :
    refuseIf condition message = .ok result ↔ ¬condition := raiseIf_eq_ok

theorem scopedText_of_scopeOf {evaluation : Evaluation} {scope : Scope} (scopes : scopeOf evaluation = .ok scope) :
    scopedText evaluation.content evaluation.region = .ok scope.scopedContent := by
  unfold scopeOf at scopes
  unfold scopedText
  cases given : evaluation.region with
  | none =>
    rw [given] at scopes
    cases scopes
    rfl
  | some region =>
    rw [given] at scopes
    dsimp only at scopes ⊢
    cases found : regionSpan evaluation.content region with
    | error reason =>
      rw [found] at scopes
      cases scopes
    | ok span =>
      rw [found] at scopes
      cases scopes
      rfl

theorem found_of_offered {required : TextKind × Text} {position : Nat} (offered : Offered content required position) :
    Found content required position := ⟨offered, fun single => offered_occurs single offered⟩

theorem apart_mono {first second : TextKind × Text → Nat → Prop} {required : List (TextKind × Text)}
    (weaker : ∀ text position, first text position → second text position) (apart : Apart first required) :
    Apart second required := by
  obtain ⟨positions, allowed, disjoint⟩ := apart
  exact ⟨positions, allowed.imp fun text position => weaker text position, disjoint⟩

theorem satisfied_of_proof {sourceId : String} {scope : Record} {proof : ScopeProof}
    (proved : scopeProof asked path platform content sourceId scope = .ok proof)
    (holds : ∀ result ∈ proof.predicateResults, result.result = .isMatch) : Satisfied platform asked path content scope := by
  simp only [scopeProof, bind_eq_ok, pure_eq_ok] at proved
  obtain ⟨predicates, given, region, selected, evidence, done, rfl⟩ := proved
  exact ⟨predicates, region, sourceId, evidence, given, selected, done, evidence_predicates done, holds⟩

theorem satisfied_of_scopedProof {value : Option Text} {sourceId : String} {proof : PostconditionProof}
    (proved : scopedProof asked path platform value sourceId = .ok proof) (holds : proof.holds = true) :
    ∃ content, value = some content ∧ ∀ scope ∈ scopesOf asked path, Satisfied platform asked path content scope := by
  unfold scopedProof at proved
  split at proved
  · cases proved
  · rename_i content
    simp only [bind_eq_ok, pure_eq_ok] at proved
    obtain ⟨proofs, all, rfl⟩ := proved
    refine ⟨content, rfl, fun scope member => ?_⟩
    obtain ⟨proof, present, here⟩ := exists_right_of_mem (forall₂_of_mapM all) member
    simp only [PostconditionProof.holds, List.all_eq_true, decide_eq_true_eq] at holds
    exact satisfied_of_proof here (holds proof present)

theorem changeProof_kept {proof : PostconditionProof} (kept : path ∉ asked.deletedPaths)
    (proved : changeProof asked path platform = .ok proof) :
    ∃ proposed, asked.proposedContentsByPath.get? path = some proposed ∧
      ∀ scope ∈ scopesOf asked path, Satisfied platform asked path proposed.toList scope := by
  simp only [changeProof, bind_eq_ok, raiseIf_eq_ok, pure_eq_ok, Bool.not_eq_false] at proved
  obtain ⟨found, chosen, _, holds, rfl⟩ := proved
  rw [proposedProof, if_neg kept] at chosen
  split at chosen
  · cases chosen
  · rename_i proposed given
    obtain ⟨content, same, satisfied⟩ := satisfied_of_scopedProof (evaluated_eq_ok.mp chosen) holds
    cases same
    exact ⟨proposed, given, satisfied⟩

theorem changeProof_deleted {proof : PostconditionProof} (deleted : path ∈ asked.deletedPaths)
    (proved : changeProof asked path platform = .ok proof) :
    ∃ predicates, deletedPostconditions asked path = .ok predicates ∧ predicates ≠ [] ∧
      ∀ predicate ∈ predicates, Dict.field predicate "kind" = .str "TEXT_ABSENT" := by
  simp only [changeProof, proposedProof, if_pos deleted, bind_eq_ok, raiseIf_eq_ok, pure_eq_ok, deletionProof,
    refuseIf_eq_ok, evaluated_eq_ok] at proved
  obtain ⟨_, ⟨_, _, predicates, given, _, absent, _⟩, _⟩ := proved
  simp only [not_or, Bool.not_eq_true, List.any_eq_false, decide_eq_true_eq, not_not] at absent
  exact ⟨predicates, given, absent.1, absent.2⟩

theorem noChangeProof_ok {target : Record} {value : Option Text} {proof : PostconditionProof}
    (proved : noChangeProof asked path platform target value = .ok proof) :
    ∃ content, value = some content ∧ ∀ scope ∈ scopesOf asked path, Satisfied platform asked path content scope := by
  simp only [noChangeProof, bind_eq_ok, raiseIf_eq_ok, pure_eq_ok, evaluated_eq_ok, Bool.not_eq_false] at proved
  obtain ⟨source, _, found, inScopes, _, holds, rfl⟩ := proved
  exact satisfied_of_scopedProof inScopes holds

theorem matchesOf_cons {value : String} {scope : Record} {rest : List Record} {found : List Json}
    (matched : matchesOf asked path platform content value (scope :: rest) = .ok found) :
    ∃ others, matchesOf asked path platform content value rest = .ok others ∧
      ((Holds content value scope ∧ found = Dict.field scope "selectionId" :: others) ∨
        (¬Holds content value scope ∧ found = others)) := by
  simp only [matchesOf, bind_eq_ok] at matched
  obtain ⟨owned, owns, matched⟩ := matched
  cases owned with
  | false =>
    refine ⟨found, by simpa using matched, Or.inr ⟨fun holds => ?_, rfl⟩⟩
    exact absurd (owns.symm.trans holds.1) (by simp)
  | true =>
    simp only [↓reduceIte, bind_eq_ok, pure_eq_ok] at matched
    obtain ⟨region, selected, evidence, done, others, later, made⟩ := matched
    obtain ⟨part, parts, outcome⟩ := single_match rfl rfl done
    have text : scopedText content region = .ok part.scopedContent := scopedText_of_scopeOf parts
    refine ⟨others, later, ?_⟩
    have same : Holds content value scope ↔
        (evidence.predicateResults.head?.map PredicateResult.result) = some .isMatch := by
      rw [outcome]
      constructor
      · rintro ⟨_, other, its, position, chosen, inside, found⟩
        cases selected.symm.trans chosen
        cases text.symm.trans inside
        exact ⟨position, found.offered⟩
      · rintro ⟨position, offered⟩
        exact ⟨owns, region, part.scopedContent, position, selected, text, found_of_offered offered⟩
    rw [same]
    split at made
    · rename_i isMatch
      exact Or.inl ⟨isMatch, made.symm⟩
    · rename_i other
      exact Or.inr ⟨other, made.symm⟩

theorem matchesOf_nil {value : String} {scopes : List Record}
    (matched : matchesOf asked path platform content value scopes = .ok []) :
    ∀ scope ∈ scopes, ¬Holds content value scope := by
  induction scopes with
  | nil => simp
  | cons scope rest ih =>
    obtain ⟨others, later, ⟨_, some⟩ | ⟨fails, none⟩⟩ := matchesOf_cons matched
    · cases some
    · subst none
      exact List.forall_mem_cons.mpr ⟨fails, ih later⟩

theorem matchesOf_singleton {value : String} {scopes : List Record} {selection : Json}
    (matched : matchesOf asked path platform content value scopes = .ok [selection]) : OwnedOnce scopes content value := by
  induction scopes with
  | nil => cases matched
  | cons scope rest ih =>
    obtain ⟨others, later, ⟨holds, found⟩ | ⟨fails, found⟩⟩ := matchesOf_cons matched
    · cases found
      exact ⟨[], scope, rest, rfl, holds, matchesOf_nil later⟩
    · subst found
      obtain ⟨before, owner, after, rfl, holds, others⟩ := ih later
      refine ⟨scope :: before, owner, after, rfl, holds, ?_⟩
      rw [List.cons_append]
      exact List.forall_mem_cons.mpr ⟨fails, others⟩

theorem scopedInsertion_ok {value : String} {proof : InsertionProof}
    (proved : scopedInsertion asked path platform content value = .ok proof) (isMatch : proof.result = .isMatch) :
    OwnedOnce (scopesOf asked path) content value := by
  simp only [scopedInsertion, bind_eq_ok, pure_eq_ok] at proved
  obtain ⟨found, matched, rfl⟩ := proved
  split at isMatch
  · exact matchesOf_singleton matched
  · cases isMatch

theorem zipWith_results (values : List String) (results : List PredicateResult) (same : results.length = values.length) :
    (List.zipWith (fun value result => InsertionProof.mk value result.result none) values results).map
      InsertionProof.result = results.map PredicateResult.result := by
  induction values generalizing results with
  | nil =>
    rw [List.length_eq_zero_iff.mp same]
    rfl
  | cons value rest ih =>
    obtain ⟨result, others, rfl⟩ := List.exists_cons_of_length_eq_add_one same
    rw [List.zipWith_cons_cons, List.map_cons, List.map_cons, ih others (Nat.succ.inj same)]

theorem wholeInsertions_ok {scope : Record} {proofs : List InsertionProof}
    (proved : wholeInsertions asked path platform content scope = .ok proofs)
    (isMatch : ∀ proof ∈ proofs, proof.result = .isMatch) :
    ∃ region text, scopeRegion scope = .ok region ∧ scopedText content region = .ok text ∧
      Apart (Found (canonicalInsertion text)) ((insertionsOf asked path).map requiredText) := by
  simp only [wholeInsertions, bind_eq_ok, pure_eq_ok] at proved
  obtain ⟨region, selected, evidence, done, rfl⟩ := proved
  have answered := congrArg List.length (evidence_predicates done)
  rw [List.length_map] at answered
  have lengths : evidence.predicateResults.length = (insertionsOf asked path).length := by
    rw [answered]
    exact List.length_map _
  have same := zipWith_results (insertionsOf asked path) evidence.predicateResults lengths
  have all : AllMatch evidence := by
    intro result member
    have inside : result.result ∈ evidence.predicateResults.map PredicateResult.result := List.mem_map_of_mem member
    rw [← same] at inside
    obtain ⟨proof, present, its⟩ := List.mem_map.mp inside
    rw [← its, isMatch proof present]
  obtain ⟨part, parts, outcome⟩ := allMatch_iff done rfl (presence_requires _)
  exact ⟨region, part.scopedContent, selected, scopedText_of_scopeOf parts,
    apart_mono (fun _ _ => found_of_offered) (outcome.mp all).2⟩

theorem outputInsertions_ok {proofs : List InsertionProof} (proved : outputInsertions asked path platform content = .ok proofs)
    (isMatch : ∀ proof ∈ proofs, proof.result = .isMatch) : Inserted asked path content := by
  have each {results : List InsertionProof}
      (computed : (insertionsOf asked path).mapM (scopedInsertion asked path platform content) = .ok results)
      (matched : ∀ proof ∈ results, proof.result = .isMatch) : Inserted asked path content := by
    refine Or.inr fun value member => ?_
    obtain ⟨proof, present, here⟩ := exists_right_of_mem (forall₂_of_mapM computed) member
    exact scopedInsertion_ok here (matched proof present)
  unfold outputInsertions at proved
  split at proved
  · rename_i scope only
    split at proved
    · exact Or.inl ⟨scope, by simp [only], wholeInsertions_ok proved isMatch⟩
    · exact each proved isMatch
  · exact each proved isMatch

theorem insertionProof_ok {state : PathState} {output : Option Text} {proofs : List InsertionProof}
    (proved : insertionProof asked path platform state output = .ok proofs) :
    (output = none → insertionsOf asked path = []) ∧ ∀ content, output = some content → Inserted asked path content := by
  unfold insertionProof at proved
  split at proved
  · rename_i none
    refine ⟨fun _ => none, fun content _ => Or.inr ?_⟩
    simp [none]
  · split at proved
    · cases proved
    · rename_i content
      simp only [bind_eq_ok, raiseIf_eq_ok, pure_eq_ok, evaluated_eq_ok, Bool.not_eq_false] at proved
      obtain ⟨found, done, _, all, rfl⟩ := proved
      simp only [List.all_eq_true, decide_eq_true_eq] at all
      refine ⟨fun none => absurd none (by simp), fun other same => ?_⟩
      cases same
      exact outputInsertions_ok done all

end Proofs

section Entries

variable {platform : ReconciliationPlatform} {asked : Reconciliation} {path : String} {entry : PathDisposition}
  {record : ReconciliationRecord}

structure Settled (platform : ReconciliationPlatform) (asked : Reconciliation) (entry : PathDisposition) : Prop where
  change : entry.disposition = .change → (entry.path ∈ asked.deletedPaths → ∃ predicates,
      deletedPostconditions asked entry.path = .ok predicates ∧ predicates ≠ [] ∧
        ∀ predicate ∈ predicates, Dict.field predicate "kind" = .str "TEXT_ABSENT") ∧
    (entry.path ∉ asked.deletedPaths → ∃ proposed, asked.proposedContentsByPath.get? entry.path = some proposed ∧
      ∀ scope ∈ scopesOf asked entry.path, Satisfied platform asked entry.path proposed.toList scope)
  noChange : entry.disposition = .noChange →
    Dict.field (itemAt asked.dispositions entry.path) "disposition" = .str "NO_CHANGE" ∧
    ∃ content, targetContent (itemAt asked.targets entry.path) = some content ∧
      ∀ scope ∈ scopesOf asked entry.path, Satisfied platform asked entry.path content scope
  stated : Dict.field (itemAt asked.dispositions entry.path) "disposition" = .str entry.disposition.text
  insertions : ∃ proofs, insertionProof asked entry.path platform entry.disposition
    (outputOf asked entry.path (targetContent (itemAt asked.targets entry.path))) = .ok proofs
  digest : entry.outputSha256 =
    (outputOf asked entry.path (targetContent (itemAt asked.targets entry.path))).map platform.sha256

theorem reconcilePath_ok (done : reconcilePath platform asked path = .ok entry) :
    entry.path = path ∧ Settled platform asked entry := by
  simp only [reconcilePath, bind_eq_ok, pure_eq_ok] at done
  obtain ⟨_, _, _, _, ⟨state, proof⟩, proved, insertions, inserted, rfl⟩ := done
  refine ⟨rfl, ?_⟩
  unfold stateProof at proved
  split at proved
  · rename_i stated
    simp only [bind_eq_ok, pure_eq_ok, Prod.mk.injEq] at proved
    obtain ⟨found, changed, rfl, rfl⟩ := proved
    exact {
      change := fun _ => ⟨fun deleted => changeProof_deleted deleted changed, fun kept => changeProof_kept kept changed⟩
      noChange := fun other => absurd other (by simp)
      stated
      insertions := ⟨insertions, inserted⟩
      digest := rfl }
  · rename_i stated
    simp only [bind_eq_ok, pure_eq_ok, Prod.mk.injEq] at proved
    obtain ⟨found, unchanged, rfl, rfl⟩ := proved
    exact {
      change := fun other => absurd other (by simp)
      noChange := fun _ => ⟨stated, noChangeProof_ok unchanged⟩
      stated
      insertions := ⟨insertions, inserted⟩
      digest := rfl }
  · cases proved

theorem outputOf_kept (kept : path ∉ asked.deletedPaths) {proposed : String}
    (given : asked.proposedContentsByPath.get? path = some proposed) (content : Option Text) :
    outputOf asked path content = some proposed.toList := by
  simp [outputOf, kept, given]

theorem Settled.proven_change (settled : Settled platform asked entry) (change : entry.disposition = .change) :
    Proven platform asked entry := by
  obtain ⟨proofs, inserted⟩ := settled.insertions
  obtain ⟨none, some⟩ := insertionProof_ok inserted
  obtain ⟨deletion, replacement⟩ := settled.change change
  constructor
  · intro deleted
    have output : outputOf asked entry.path (targetContent (itemAt asked.targets entry.path)) = Option.none := if_pos deleted
    have digest := settled.digest
    rw [output] at digest
    exact ⟨change, deletion deleted, none output, digest⟩
  · intro kept
    obtain ⟨proposed, given, satisfied⟩ := replacement kept
    have output := outputOf_kept kept given (targetContent (itemAt asked.targets entry.path))
    have digest := settled.digest
    rw [output] at digest
    refine ⟨proposed.toList, ?_, satisfied, some _ output, digest⟩
    simp [change, resultingContent, given]

theorem Settled.proven_noChange (settled : Settled platform asked entry) (noChange : entry.disposition = .noChange)
    (kept : entry.path ∉ asked.deletedPaths)
    (same : ∀ proposed, asked.proposedContentsByPath.get? entry.path = some proposed →
      targetContent (itemAt asked.targets entry.path) = some proposed.toList) : Proven platform asked entry := by
  obtain ⟨proofs, inserted⟩ := settled.insertions
  obtain ⟨_, some⟩ := insertionProof_ok inserted
  obtain ⟨_, content, holds, satisfied⟩ := settled.noChange noChange
  have output : outputOf asked entry.path (targetContent (itemAt asked.targets entry.path)) = Option.some content := by
    unfold outputOf
    rw [if_neg kept, holds]
    cases given : asked.proposedContentsByPath.get? entry.path with
    | none => rfl
    | some proposed =>
      have its := holds.symm.trans (same proposed given)
      simpa using (Option.some.inj its).symm
  have digest := settled.digest
  rw [output] at digest
  refine ⟨fun deleted => absurd deleted kept, fun _ => ⟨content, ?_, satisfied, some content output, digest⟩⟩
  simpa [noChange, resultingContent] using holds

theorem proven_noChange (settled : Settled platform asked entry) (told : Told platform asked)
    (noChange : entry.disposition = .noChange) (proven : Proven platform asked entry) :
    entry.path ∉ asked.deletedPaths ∧ ∀ proposed, asked.proposedContentsByPath.get? entry.path = some proposed →
      targetContent (itemAt asked.targets entry.path) = some proposed.toList := by
  have kept : entry.path ∉ asked.deletedPaths := by
    intro deleted
    have changed := (proven.1 deleted).disposition
    rw [noChange] at changed
    cases changed
  refine ⟨kept, fun proposed given => ?_⟩
  obtain ⟨content, about⟩ := proven.2 kept
  have holds := about.resulting
  rw [noChange] at holds
  have digest := settled.digest
  rw [outputOf_kept kept given, about.digest] at digest
  have same := told entry.path proposed content given holds (Option.some.inj digest).symm
  rw [← same]
  exact holds

theorem mem_of_sameElements {items : List Json} : sameElements items (asked.originalRequiredPaths.map .str) = true →
    ∀ name, Json.str name ∈ items ↔ name ∈ asked.originalRequiredPaths := by
  intro same name
  simp only [sameElements, Bool.and_eq_true, List.all_eq_true, List.any_eq_true, List.mem_map, exists_exists_and_eq_and,
    forall_exists_index, and_imp, forall_apply_eq_imp_iff₂] at same
  constructor
  · intro listed
    obtain ⟨other, original, equal⟩ := same.1 _ listed
    cases Json.pyEq_str.mp equal
    exact original
  · intro original
    obtain ⟨item, listed, equal⟩ := same.2 name original
    rw [Json.pyEq_comm] at equal
    cases Json.pyEq_str.mp equal
    exact listed

theorem mem_sortedPaths {targets : List Json} (covered : checkCoverage asked = .ok targets) (name : String) :
    name ∈ sortedPaths platform targets ↔ name ∈ asked.originalRequiredPaths := by
  simp only [checkCoverage, bind_eq_ok, refuseIf_eq_ok, pure_eq_ok, not_or, Bool.not_eq_false] at covered
  obtain ⟨items, _, _, _, _, ⟨_, same⟩, _, _, _, _, _, _, rfl⟩ := covered
  rw [← mem_of_sameElements same name]
  unfold sortedPaths
  rw [List.mem_insertionSort, List.mem_filterMap]
  simp

theorem reconcileDispositions_ok (done : reconcileDispositions platform asked = .ok record) :
    record.toReconciliationBody = bodyOfEntries asked record.pathDispositions ∧
      (∀ path ∈ asked.originalRequiredPaths, ∃ entry ∈ record.pathDispositions, entry.path = path) ∧
      ∀ entry ∈ record.pathDispositions, entry.path ∈ asked.originalRequiredPaths ∧
        reconcilePath platform asked entry.path = .ok entry := by
  simp only [reconcileDispositions, bind_eq_ok, pure_eq_ok] at done
  obtain ⟨targets, covered, entries, all, rfl⟩ := done
  have each := forall₂_of_mapM all
  refine ⟨rfl, fun path original => ?_, fun entry member => ?_⟩
  · obtain ⟨entry, present, here⟩ := exists_right_of_mem each ((mem_sortedPaths covered path).mpr original)
    exact ⟨entry, present, (reconcilePath_ok here).1⟩
  · obtain ⟨path, listed, here⟩ := exists_left_of_mem each member
    have same := (reconcilePath_ok here).1
    rw [same]
    exact ⟨(mem_sortedPaths covered path).mp listed, here⟩

theorem mem_effective {entries : List PathDisposition} {state : PathState} :
    path ∈ (entries.filter fun entry => entry.disposition = state).map PathDisposition.path ↔
      ∃ entry ∈ entries, entry.disposition = state ∧ entry.path = path := by
  simp [and_assoc]

end Entries

namespace Sample

def reconciliationPlatform : ReconciliationPlatform where
  toPlatform := platform
  casefold := String.toLower
  recordDigest _ := ""

def target (path content : String) : Record :=
  [("path", .str path), ("content", .str content), ("preimageSha256", .str content),
    ("repositoryRevision", .str "aaaaaaaaaaaaaaaaaaaaaaaaaaaaaaaaaaaaaaaa"), ("provenance", .obj [])]

def reconciliation (deleted : List String) : Reconciliation where
  planId := "artifact-1"
  repositoryRevision := "aaaaaaaaaaaaaaaaaaaaaaaaaaaaaaaaaaaaaaaa"
  originalRequiredPaths := ["a.md", "b.md"]
  targets := [target "a.md" "old", target "b.md" "done"]
  dispositions := [[("path", .str "a.md"), ("disposition", .str "CHANGE")],
    [("path", .str "b.md"), ("disposition", .str "NO_CHANGE")]]
  postconditionsByPath := [("a.md", [[("kind", .str "TEXT_PRESENT"), ("value", .str "new")]]),
    ("b.md", [[("kind", .str "TEXT_PRESENT"), ("value", .str "done")]])]
  evaluatorRef := []
  proposedContentsByPath := [("a.md", "new")]
  deletedPaths := deleted
  requiredInsertionsByPath := [("a.md", ["new"])]

end Sample

end Aep.PlanningEvidence
