import Aep.EvaluationSuites.Suite
import Aep.ExecutionReplay.Provenance

namespace Aep.EvaluationSuites

open RuntimeStore Result
open WorkflowScheduler (ResourceRef)
open ExecutionReplay

structure SuiteRefs where
  workflowRef : ResourceRef
  evaluationRefs : List ResourceRef
  resourceOverrides : List ResourceRef := []
  deriving DecidableEq

abbrev Identity := String × String

def identityOf (ref : ResourceRef) : Identity := (ref.kind, ref.name)

def byIdentity (refs : List ResourceRef) : Dict Identity ResourceRef :=
  refs.foldl (fun selected ref => selected.set (identityOf ref) ref) []

section Historical

def workflowMatches (spec : SuiteRefs) (source : Record) : Bool :=
  match source.field "workflowRef" with
  | .obj workflow =>
    Dict.field workflow "kind" = .str spec.workflowRef.kind && Dict.field workflow "name" = .str spec.workflowRef.name &&
      Dict.field workflow "version" = .str spec.workflowRef.version
  | _ => false

/-- The reference that overrides the versions of the source execution, if it differs from one of them. -/
def overrideOf (historical : List ResourceRef) (ref : ResourceRef) : Except PyError (Option ResourceRef) :=
  let versions := historical.filter fun other => sameName other ref
  if versions = [] then
    .error (suiteError ("selected " ++ ref.kind ++ " " ++ Json.repr (.str ref.name) ++
      " is absent from historical Resource provenance"))
  else .ok (if versions.any (·.version ≠ ref.version) then some ref else none)

def identityRank (ref : ResourceRef) : String ×ₗ String := toLex (ref.kind, ref.name)

def asSuiteError (raised : PyError) : PyError :=
  if raised.errorClass = .replayError then suiteError raised.message else raised

def historicalOverrides (source : Record) (related : List Record) (spec : SuiteRefs) : Except PyError (List String) := do
  raiseIf (workflowMatches spec source = false)
    (suiteError "suite Workflow does not match the historical execution; Workflow overrides are unsupported")
  let historical ← (collectResourceRefs source related).mapError asSuiteError
  let overrides ← (byIdentity (spec.evaluationRefs ++ spec.resourceOverrides)).mapM fun entry => overrideOf historical entry.2
  let sorted := (overrides.filterMap id).insertionSort fun first second => identityRank first ≤ identityRank second
  return sorted.map overrideText

end Historical

def scoredAs (selected : Dict Identity ResourceRef) (evaluation : ResourceRef) : ResourceRef :=
  match selected.get? ("Evaluation", evaluation.name) with
  | some override => { evaluation with version := override.version }
  | none => evaluation

/-- The suite of an arm of an experiment: its overrides come after those of the suite, also for the scored Evaluations. -/
def armSuite (spec : SuiteRefs) (arm : List ResourceRef) : SuiteRefs :=
  let selected := byIdentity (spec.resourceOverrides ++ arm)
  { spec with
    resourceOverrides :=
      (selected.map Prod.snd).insertionSort fun first second => identityRank first ≤ identityRank second
    evaluationRefs := spec.evaluationRefs.map (scoredAs selected) }

def runRefs (spec : SuiteRefs) : Option (List ResourceRef) → SuiteRefs
  | none => spec
  | some arm => armSuite spec arm

section Selection

/-- What is selected of a kind and name: the last override of the arm, else that of the suite, else the last Evaluation. -/
def selection (spec : SuiteRefs) (arm : Option (List ResourceRef)) (identity : Identity) : Option ResourceRef :=
  (spec.evaluationRefs ++ spec.resourceOverrides ++ arm.getD []).reverse.find? fun ref => identityOf ref = identity

variable {spec : SuiteRefs} {arm : Option (List ResourceRef)} {refs : List ResourceRef}

theorem get?_foldl_identity (start : Dict Identity ResourceRef) (identity : Identity) :
    (refs.foldl (fun selected ref => selected.set (identityOf ref) ref) start).get? identity =
      (refs.reverse.find? fun ref => identityOf ref = identity).or (start.get? identity) := by
  induction refs generalizing start with
  | nil => simp
  | cons ref rest ih =>
    rw [List.foldl_cons, ih, List.reverse_cons, List.find?_append, Option.or_assoc, Dict.get?_set]
    by_cases same : identityOf ref = identity
    · simp [same]
    · simp [same]

theorem get?_byIdentity (identity : Identity) :
    (byIdentity refs).get? identity = refs.reverse.find? fun ref => identityOf ref = identity := by
  rw [byIdentity, get?_foldl_identity, Dict.get?_nil, Option.or_none]

theorem byIdentity_keys (refs : List ResourceRef) : (byIdentity refs).keys.Nodup := by
  have keyed := Dict.keys_foldl_set (refs.map fun ref => (identityOf ref, ref)) [] List.nodup_nil
  rw [List.foldl_map] at keyed
  exact keyed.1

theorem byIdentity_mem {entry : Identity × ResourceRef} : entry ∈ byIdentity refs ↔
    (refs.reverse.find? fun ref => identityOf ref = entry.1) = some entry.2 := by
  rw [← get?_byIdentity]
  exact ⟨Dict.get?_of_mem (byIdentity_keys refs), Dict.get?_mem⟩

theorem byIdentity_identity {entry : Identity × ResourceRef} (member : entry ∈ byIdentity refs) :
    identityOf entry.2 = entry.1 ∧ entry.2 ∈ refs := by
  have found := byIdentity_mem.mp member
  have holds := List.find?_some found
  exact ⟨of_decide_eq_true holds, List.mem_reverse.mp (List.mem_of_find?_eq_some found)⟩

theorem find?_unique (distinct : (refs.map identityOf).Nodup) {identity : Identity} {ref : ResourceRef} :
    (refs.reverse.find? fun ref => identityOf ref = identity) = some ref ↔ ref ∈ refs ∧ identityOf ref = identity := by
  constructor
  · intro found
    have holds := List.find?_some found
    exact ⟨List.mem_reverse.mp (List.mem_of_find?_eq_some found), of_decide_eq_true holds⟩
  · rintro ⟨member, same⟩
    cases found : refs.reverse.find? fun ref => identityOf ref = identity with
    | none =>
      have not := List.find?_eq_none.mp found ref (List.mem_reverse.mpr member)
      exact absurd (decide_eq_true same) not
    | some other =>
      have holds := List.find?_some found
      have inside := List.mem_reverse.mp (List.mem_of_find?_eq_some found)
      rw [List.inj_on_of_nodup_map distinct inside member ((of_decide_eq_true holds).trans same.symm)]

theorem find?_sorted (identity : Identity) :
    (((byIdentity refs).map Prod.snd).insertionSort fun first second => identityRank first ≤ identityRank second).reverse.find?
      (fun ref => identityOf ref = identity) = refs.reverse.find? fun ref => identityOf ref = identity := by
  have same := List.perm_insertionSort (fun first second => identityRank first ≤ identityRank second)
    ((byIdentity refs).map Prod.snd)
  have identities : ((byIdentity refs).map Prod.snd).map identityOf = (byIdentity refs).keys := by
    rw [List.map_map, Dict.keys]
    exact List.map_congr_left fun entry member => (byIdentity_identity member).1
  have distinct := (same.map identityOf).nodup_iff.mpr (identities ▸ byIdentity_keys refs)
  apply Option.ext
  intro ref
  rw [find?_unique distinct, same.mem_iff, List.mem_map]
  constructor
  · rintro ⟨⟨entry, member, rfl⟩, rfl⟩
    rw [(byIdentity_identity member).1]
    exact byIdentity_mem.mp member
  · intro found
    have holds := List.find?_some found
    exact ⟨⟨(identity, ref), byIdentity_mem.mpr found, rfl⟩, of_decide_eq_true holds⟩

def overriding (spec : SuiteRefs) (arm : List ResourceRef) (identity : Identity) : Option ResourceRef :=
  (spec.resourceOverrides ++ arm).reverse.find? fun ref => identityOf ref = identity

theorem selection_eq (overrides : List ResourceRef) (identity : Identity) : selection spec (some overrides) identity =
    (overriding spec overrides identity).or (spec.evaluationRefs.reverse.find? fun ref => identityOf ref = identity) := by
  unfold selection overriding
  rw [Option.getD_some, List.append_assoc, List.reverse_append, List.find?_append]

theorem identityOf_scoredAs (selected : Dict Identity ResourceRef) (evaluation : ResourceRef) :
    identityOf (scoredAs selected evaluation) = identityOf evaluation := by
  unfold scoredAs
  cases selected.get? ("Evaluation", evaluation.name) <;> rfl

theorem run_selection (evaluations : ∀ ref ∈ spec.evaluationRefs, ref.kind = "Evaluation") (identity : Identity) :
    (byIdentity ((runRefs spec arm).evaluationRefs ++ (runRefs spec arm).resourceOverrides)).get? identity =
      selection spec arm identity := by
  rw [get?_byIdentity]
  cases arm with
  | none => simp [runRefs, selection]
  | some overrides =>
    rw [selection_eq, List.reverse_append, List.find?_append]
    have sorted := @find?_sorted (spec.resourceOverrides ++ overrides) identity
    unfold runRefs armSuite
    dsimp only
    rw [sorted]
    cases found : overriding spec overrides identity with
    | some override =>
      unfold overriding at found
      rw [found, Option.some_or, Option.some_or]
    | none =>
      have absent := found
      unfold overriding at found
      rw [found, Option.none_or, Option.none_or, ← List.map_reverse, List.find?_map]
      have same : (fun ref => decide (identityOf ref = identity)) ∘ scoredAs (byIdentity (spec.resourceOverrides ++ overrides)) =
          fun ref => decide (identityOf ref = identity) := by
        funext evaluation
        rw [Function.comp, identityOf_scoredAs]
      rw [same]
      cases last : spec.evaluationRefs.reverse.find? fun ref => identityOf ref = identity with
      | none => rfl
      | some evaluation =>
        have holds := List.find?_some last
        have inside := List.mem_reverse.mp (List.mem_of_find?_eq_some last)
        have key : ("Evaluation", evaluation.name) = identity := by
          rw [← of_decide_eq_true holds, identityOf, evaluations evaluation inside]
        rw [Option.map_some, scoredAs, get?_byIdentity, key, found]

end Selection

section Effective

theorem applyOverrides_run {overrides result seen : List ResourceRef}
    (apart : overrides.Pairwise fun first second => ¬sameName first second)
    (fresh : ∀ override ∈ overrides, (∃ ref ∈ result, sameName ref override) ∧ ∀ earlier ∈ seen, ¬sameName earlier override) :
    ∃ after, overrides.foldlM applyOverride (result, seen) = .ok (after, seen ++ overrides) ∧ (result.Nodup → after.Nodup) ∧
      ∀ ref, ref ∈ after ↔ ref ∈ overrides ∨ ref ∈ result ∧ ∀ override ∈ overrides, ¬sameName ref override := by
  induction overrides generalizing result seen with
  | nil => exact ⟨result, by simp, id, by simp⟩
  | cons override rest ih =>
    obtain ⟨⟨ref, member, same⟩, unseen⟩ := fresh override List.mem_cons_self
    rw [List.pairwise_cons] at apart
    have step : applyOverride (result, seen) override =
        .ok ((result.filter fun ref => ¬sameName ref override) ++ [override], seen ++ [override]) := by
      unfold applyOverride
      dsimp only
      rw [raiseIf_neg (by simpa using unseen), ok_bind, raiseIf_neg (not_not_intro ⟨ref, member, same⟩), ok_bind]
      rfl
    have later : ∀ other ∈ rest,
        (∃ ref ∈ (result.filter fun ref => ¬sameName ref override) ++ [override], sameName ref other) ∧
          ∀ earlier ∈ seen ++ [override], ¬sameName earlier other := by
      intro other inside
      obtain ⟨⟨found, present, matching⟩, unseen⟩ := fresh other (List.mem_cons_of_mem _ inside)
      have different := apart.1 other inside
      refine ⟨⟨found, List.mem_append_left _ (List.mem_filter.mpr ⟨present, ?_⟩), matching⟩, fun earlier known => ?_⟩
      · apply decide_eq_true
        exact fun back => different ⟨back.1.symm.trans matching.1, back.2.symm.trans matching.2⟩
      · rcases List.mem_append.mp known with before | last
        · exact unseen earlier before
        · exact List.mem_singleton.mp last ▸ different
    obtain ⟨after, folded, distinct, members⟩ := ih apart.2 later
    refine ⟨after, ?_, fun nodup => distinct ?_, fun ref => ?_⟩
    · rw [List.foldlM_cons, step, ok_bind, folded, List.append_assoc]
      rfl
    · refine List.nodup_append.mpr ⟨nodup.filter _, List.nodup_singleton _, ?_⟩
      rintro ref kept other last rfl
      cases List.mem_singleton.mp last
      exact of_decide_eq_true (List.mem_filter.mp kept).2 ⟨rfl, rfl⟩
    · rw [members, List.mem_append, List.mem_filter, List.mem_singleton, List.mem_cons, decide_eq_true_eq, List.forall_mem_cons]
      constructor
      · rintro (later | ⟨⟨old, other⟩ | rfl, others⟩)
        · exact .inl (.inr later)
        · exact .inr ⟨old, other, others⟩
        · exact .inl (.inl rfl)
      · rintro ((rfl | later) | ⟨old, other, others⟩)
        · exact .inr ⟨.inr rfl, apart.1⟩
        · exact .inl later
        · exact .inr ⟨.inl ⟨old, other⟩, others⟩

/-- What the schemas of suites and experiments say of the references, and that the overrides' versions are semantic. -/
structure ValidRefs (spec : SuiteRefs) (arm : Option (List ResourceRef)) : Prop where
  evaluations : ∀ ref ∈ spec.evaluationRefs, ref.kind = "Evaluation" ∧ SEMVER.accepted ref.version.toList = true
  overrides : ∀ ref ∈ spec.resourceOverrides ++ arm.getD [],
    ref.kind ∈ OVERRIDE_KINDS ∧ SEMVER.accepted ref.version.toList = true

variable {spec : SuiteRefs} {arm : Option (List ResourceRef)} {source : Record} {related : List Record}
  {historical : List ResourceRef} {overrides : List String}

theorem selection_valid (valid : ValidRefs spec arm) {identity : Identity} {ref : ResourceRef}
    (selected : selection spec arm identity = some ref) :
    identityOf ref = identity ∧ ref.kind ∈ OVERRIDE_KINDS ∧ SEMVER.accepted ref.version.toList = true := by
  have holds := List.find?_some selected
  have inside := List.mem_reverse.mp (List.mem_of_find?_eq_some selected)
  refine ⟨of_decide_eq_true holds, ?_⟩
  rw [List.append_assoc] at inside
  rcases List.mem_append.mp inside with evaluation | override
  · obtain ⟨kind, version⟩ := valid.evaluations ref evaluation
    rw [kind]
    exact ⟨by decide, version⟩
  · exact valid.overrides ref override

theorem sameName_iff {left right : ResourceRef} : sameName left right ↔ identityOf left = identityOf right := by
  simp [sameName, identityOf]

def Differs (historical : List ResourceRef) (ref : ResourceRef) : Prop :=
  ∃ old ∈ historical, sameName old ref ∧ old.version ≠ ref.version

instance (historical : List ResourceRef) (ref : ResourceRef) : Decidable (Differs historical ref) := by
  unfold Differs
  infer_instance

theorem overrideOf_ok {ref : ResourceRef} {override : Option ResourceRef} (computed : overrideOf historical ref = .ok override) :
    (∃ old ∈ historical, sameName old ref) ∧ override = if Differs historical ref then some ref else none := by
  unfold overrideOf at computed
  dsimp only at computed
  split at computed
  · cases computed
  · rename_i some
    obtain ⟨old, rest, first⟩ := List.exists_cons_of_ne_nil some
    have member : old ∈ historical.filter fun other => sameName other ref := first ▸ List.mem_cons_self
    rw [List.mem_filter, decide_eq_true_eq] at member
    have same : (historical.filter fun other => sameName other ref).any (·.version ≠ ref.version) =
        decide (Differs historical ref) := by
      rw [Bool.eq_iff_iff, List.any_eq_true, decide_eq_true_eq]
      simp only [List.mem_filter, decide_eq_true_eq, and_assoc]
      rfl
    rw [same] at computed
    cases computed
    exact ⟨⟨old, member⟩, by simp⟩

theorem overrides_chosen {entries : List (Identity × ResourceRef)} {chosen : List (Option ResourceRef)}
    (computed : entries.mapM (fun entry => overrideOf historical entry.2) = .ok chosen) :
    (∀ entry ∈ entries, ∃ old ∈ historical, sameName old entry.2) ∧
      chosen.filterMap id = (entries.filter fun entry => Differs historical entry.2).map Prod.snd := by
  induction entries generalizing chosen with
  | nil =>
    cases computed
    exact ⟨by simp, rfl⟩
  | cons entry rest ih =>
    simp only [List.mapM_cons, bind_eq_ok, pure_eq_ok] at computed
    obtain ⟨first, here, others, later, rfl⟩ := computed
    obtain ⟨present, same⟩ := ih later
    obtain ⟨old, rfl⟩ := overrideOf_ok here
    refine ⟨List.forall_mem_cons.mpr ⟨old, present⟩, ?_⟩
    by_cases differs : Differs historical entry.2
    · rw [if_pos differs, @List.filterMap_cons_some _ _ id _ _ _ rfl, List.filter_cons, if_pos (decide_eq_true differs), List.map_cons, same]
    · rw [if_neg differs, @List.filterMap_cons_none _ _ id _ _ rfl, List.filter_cons, if_neg (by simpa using differs), same]

theorem historicalOverrides_ok (valid : ValidRefs spec arm) (collected : collectResourceRefs source related = .ok historical)
    (returned : historicalOverrides source related (runRefs spec arm) = .ok overrides) :
    ∃ refs : List ResourceRef, overrides = refs.map overrideText ∧ (refs.map identityOf).Nodup ∧
      (∀ identity ref, selection spec arm identity = some ref → ∃ old ∈ historical, sameName old ref) ∧
      ∀ ref, ref ∈ refs ↔ selection spec arm (identityOf ref) = some ref ∧ Differs historical ref := by
  simp only [historicalOverrides, bind_eq_ok, raiseIf_eq_ok, pure_eq_ok, collected, Except.mapError, Except.ok.injEq] at returned
  obtain ⟨_, _, _, rfl, chosen, computed, rfl⟩ := returned
  obtain ⟨present, same⟩ := overrides_chosen computed
  have entries (entry : Identity × ResourceRef) :
      entry ∈ byIdentity ((runRefs spec arm).evaluationRefs ++ (runRefs spec arm).resourceOverrides) ↔
        selection spec arm entry.1 = some entry.2 := by
    rw [← run_selection fun ref member => (valid.evaluations ref member).1]
    exact ⟨Dict.get?_of_mem (byIdentity_keys _), Dict.get?_mem⟩
  have sorted := List.perm_insertionSort (fun first second => identityRank first ≤ identityRank second) (chosen.filterMap id)
  refine ⟨_, rfl, ?_, fun identity ref selected => present (identity, ref) ((entries _).mpr selected), fun ref => ?_⟩
  · rw [(sorted.map identityOf).nodup_iff, same, List.map_map]
    have identities : ((byIdentity ((runRefs spec arm).evaluationRefs ++ (runRefs spec arm).resourceOverrides)).filter
        fun entry => Differs historical entry.2).map (identityOf ∘ Prod.snd) =
          ((byIdentity ((runRefs spec arm).evaluationRefs ++ (runRefs spec arm).resourceOverrides)).filter
            fun entry => Differs historical entry.2).map Prod.fst :=
      List.map_congr_left fun entry member => (byIdentity_identity (List.mem_of_mem_filter member)).1
    rw [identities]
    exact (byIdentity_keys _).sublist (List.filter_sublist.map Prod.fst)
  · rw [sorted.mem_iff, same, List.mem_map]
    constructor
    · rintro ⟨entry, member, rfl⟩
      obtain ⟨inside, differs⟩ := List.mem_filter.mp member
      rw [(byIdentity_identity inside).1]
      exact ⟨(entries entry).mp inside, of_decide_eq_true differs⟩
    · rintro ⟨selected, differs⟩
      exact ⟨(identityOf ref, ref), List.mem_filter.mpr ⟨(entries _).mpr selected, decide_eq_true differs⟩, rfl⟩

/-- The effective references: what is selected in the selected version, and everything else as it was. -/
structure Effective (spec : SuiteRefs) (arm : Option (List ResourceRef)) (historical effective : List ResourceRef) : Prop where
  distinct : effective.Nodup
  selected : ∀ ref chosen, selection spec arm (identityOf ref) = some chosen → (ref ∈ effective ↔ ref = chosen)
  others : ∀ ref, selection spec arm (identityOf ref) = none → (ref ∈ effective ↔ ref ∈ historical)

theorem effectiveRefs_ok (valid : ValidRefs spec arm) (collected : collectResourceRefs source related = .ok historical)
    (returned : historicalOverrides source related (runRefs spec arm) = .ok overrides) :
    ∃ effective, effectiveRefs historical overrides = .ok effective ∧ Effective spec arm historical effective := by
  obtain ⟨refs, rfl, distinct, present, members⟩ := historicalOverrides_ok valid collected returned
  obtain ⟨nodup, versioned⟩ := collectResourceRefs_ok collected
  have parsed : (refs.map overrideText).mapM parseOverride = .ok refs := by
    apply mapM_map_of_each
    intro ref member
    obtain ⟨selected, old, inside, same, _⟩ := (members ref).mp member
    obtain ⟨_, kind, version⟩ := selection_valid valid selected
    have listed := versioned old inside
    apply parseOverride_text kind
    simp only [versionedRef, Bool.and_eq_true] at listed ⊢
    rw [← same.1, ← same.2]
    exact ⟨listed.1, version⟩
  have apart : refs.Pairwise fun first second => ¬sameName first second := by
    simp only [sameName_iff]
    exact List.pairwise_map.mp distinct
  obtain ⟨after, folded, kept, result⟩ := @applyOverrides_run refs historical [] apart fun override member =>
    ⟨present _ override ((members override).mp member).1, by simp⟩
  have sorted := List.perm_insertionSort (fun first second => refRank first ≤ refRank second) after
  have contains (ref : ResourceRef) : ref ∈ after.insertionSort (fun first second => refRank first ≤ refRank second) ↔
      ref ∈ refs ∨ ref ∈ historical ∧ ∀ override ∈ refs, ¬sameName ref override := by
    rw [sorted.mem_iff, result]
  refine ⟨_, ?_, sorted.nodup_iff.mpr (kept nodup), fun ref chosen selected => ?_, fun ref none => ?_⟩
  · unfold effectiveRefs
    rw [parsed, ok_bind, applyOverrides, folded, ok_bind]
    rfl
  · have same := (selection_valid valid selected).1
    rw [contains]
    by_cases differs : Differs historical chosen
    · have overriding : chosen ∈ refs := (members chosen).mpr ⟨same ▸ selected, differs⟩
      constructor
      · rintro (inside | ⟨_, other⟩)
        · exact Option.some.inj (((members ref).mp inside).1.symm.trans selected)
        · exact absurd (sameName_iff.mpr same.symm) (other chosen overriding)
      · rintro rfl
        exact .inl overriding
    · have none (override : ResourceRef) (member : override ∈ refs) : ¬sameName ref override := by
        intro name
        obtain ⟨found, varies⟩ := (members override).mp member
        rw [← sameName_iff.mp name, selected] at found
        cases found
        exact differs varies
      constructor
      · rintro (inside | ⟨old, _⟩)
        · exact absurd ⟨rfl, rfl⟩ (none ref inside)
        · have version : ref.version = chosen.version := by
            by_contra other
            exact differs ⟨ref, old, sameName_iff.mpr same.symm, other⟩
          obtain ⟨kind, name⟩ := sameName_iff.mpr same
          cases ref
          cases chosen
          simp_all
      · rintro rfl
        obtain ⟨old, inside, name⟩ := present _ _ selected
        have version : old.version = ref.version := by
          by_contra other
          exact differs ⟨old, inside, name, other⟩
        have equal : old = ref := by
          cases old
          cases ref
          simp_all [sameName]
        exact .inr ⟨equal ▸ inside, none⟩
  · rw [contains]
    constructor
    · rintro (inside | ⟨old, _⟩)
      · rw [((members ref).mp inside).1] at none
        cases none
      · exact old
    · intro old
      refine .inr ⟨old, fun override member name => ?_⟩
      have found := ((members override).mp member).1
      rw [← sameName_iff.mp name, none] at found
      cases found

def ScoredAsRun (spec : SuiteRefs) (effective : List ResourceRef) : Prop :=
  ∀ ref ∈ spec.evaluationRefs, ∀ version, ⟨"Evaluation", ref.name, version⟩ ∈ effective ↔ version = ref.version

/-- Each Evaluation of the suite is the one that is selected, or, in an arm, one that is overridden. -/
def Aligned (spec : SuiteRefs) (arm : Option (List ResourceRef)) : Prop :=
  ∀ ref ∈ spec.evaluationRefs, selection spec arm (identityOf ref) = some ref ∨
    ∃ overrides, arm = some overrides ∧ ∃ override ∈ spec.resourceOverrides ++ overrides, identityOf override = identityOf ref

theorem scoredAsRun_iff (valid : ValidRefs spec arm) {effective : List ResourceRef}
    (result : Effective spec arm historical effective) : ScoredAsRun (runRefs spec arm) effective ↔ Aligned spec arm := by
  have chosen (ref : ResourceRef) (member : ref ∈ spec.evaluationRefs) :
      ∃ selected, selection spec arm (identityOf ref) = some selected := by
    cases found : selection spec arm (identityOf ref) with
    | some selected => exact ⟨selected, rfl⟩
    | none =>
      have not := List.find?_eq_none.mp found ref (by simp [member])
      exact absurd (decide_eq_true rfl) not
  have scored (ref : ResourceRef) (kind : ref.kind = "Evaluation") {selected : ResourceRef}
      (found : selection spec arm (identityOf ref) = some selected) :
      (∀ version, ⟨"Evaluation", ref.name, version⟩ ∈ effective ↔ version = ref.version) ↔ selected = ref := by
    have identity (version : String) : identityOf ⟨"Evaluation", ref.name, version⟩ = identityOf ref := by
      rw [identityOf, identityOf, kind]
    constructor
    · intro exact
      have mine := (exact ref.version).mpr rfl
      rw [result.selected _ selected (by rw [identity]; exact found)] at mine
      rw [← mine, ← kind]
    · rintro rfl version
      rw [result.selected _ selected (by rw [identity]; exact found)]
      constructor
      · intro same
        rw [← same]
      · rintro rfl
        rw [← kind]
  unfold ScoredAsRun Aligned
  cases arm with
  | none =>
    simp only [runRefs, reduceCtorEq, false_and, exists_false, or_false]
    refine forall₂_congr fun ref member => ?_
    obtain ⟨selected, found⟩ := chosen ref member
    rw [scored ref (valid.evaluations ref member).1 found, found, Option.some.injEq]
  | some overrides =>
    simp only [runRefs, armSuite, List.forall_mem_map, Option.some.injEq, exists_eq_left']
    refine forall₂_congr fun ref member => ?_
    obtain ⟨selected, found⟩ := chosen ref member
    have kind := (valid.evaluations ref member).1
    have key : ("Evaluation", ref.name) = identityOf ref := by rw [identityOf, kind]
    rw [scoredAs, key, get?_byIdentity]
    have order := @selection_eq spec overrides (identityOf ref)
    unfold overriding at order
    cases last : (spec.resourceOverrides ++ overrides).reverse.find? fun other => identityOf other = identityOf ref with
    | some override =>
      rw [last, Option.some_or] at order
      have holds := List.find?_some last
      have inside := List.mem_reverse.mp (List.mem_of_find?_eq_some last)
      have same := of_decide_eq_true holds
      dsimp only
      constructor
      · intro _
        exact .inr ⟨override, inside, same⟩
      · intro _
        apply (scored { ref with version := override.version } kind order).mpr
        obtain ⟨kinds, names⟩ := sameName_iff.mpr same
        cases override
        cases ref
        simp_all
    | none =>
      have apart : ¬∃ override ∈ spec.resourceOverrides ++ overrides, identityOf override = identityOf ref := by
        rintro ⟨override, inside, same⟩
        have not := List.find?_eq_none.mp last override (List.mem_reverse.mpr inside)
        exact not (decide_eq_true same)
      dsimp only
      rw [scored ref kind found, found, Option.some.injEq]
      exact ⟨.inl, fun either => either.resolve_right apart⟩

/-- The overrides of a historical case, and when its scoring is that of what is run. -/
theorem historicalOverrides_effective (valid : ValidRefs spec arm)
    (collected : collectResourceRefs source related = .ok historical)
    (returned : historicalOverrides source related (runRefs spec arm) = .ok overrides) :
    ∃ effective, effectiveRefs historical overrides = .ok effective ∧ Effective spec arm historical effective ∧
      (ScoredAsRun (runRefs spec arm) effective ↔ Aligned spec arm) := by
  obtain ⟨effective, applied, result⟩ := effectiveRefs_ok valid collected returned
  exact ⟨effective, applied, result, scoredAsRun_iff valid result⟩

def quality (version : String) : ResourceRef := ⟨"Evaluation", "quality", version⟩

def sampleSource : Record :=
  [("workflowRef", .obj [("kind", .str "Workflow"), ("name", .str "flow"), ("version", .str "1.0.0")]),
    ("provenance", .obj [("resourceRefs", .arr [
      .obj [("kind", .str "Evaluation"), ("name", .str "quality"), ("version", .str "1.0.0")],
      .obj [("kind", .str "Prompt"), ("name", .str "planner"), ("version", .str "1.0.0")]])])]

def sampleHistorical : List ResourceRef := [quality "1.0.0", ⟨"Prompt", "planner", "1.0.0"⟩, ⟨"Workflow", "flow", "1.0.0"⟩]

def recordedSuite : SuiteRefs where
  workflowRef := ⟨"Workflow", "flow", "1.0.0"⟩
  evaluationRefs := [quality "1.0.0"]
  resourceOverrides := [quality "2.0.0"]

theorem historicalOverrides_effective_sample : ∃ effective,
    effectiveRefs sampleHistorical ["Evaluation:quality:2.0.0"] = .ok effective ∧
      Effective recordedSuite (some []) sampleHistorical effective ∧
      (ScoredAsRun (runRefs recordedSuite (some [])) effective ↔ Aligned recordedSuite (some [])) :=
  historicalOverrides_effective ⟨by decide +kernel, by decide +kernel⟩
    (show collectResourceRefs sampleSource [] = .ok sampleHistorical by decide +kernel) (by decide +kernel)

theorem historicalOverrides_unscored :
    ValidRefs recordedSuite none ∧ collectResourceRefs sampleSource [] = .ok sampleHistorical ∧
      historicalOverrides sampleSource [] recordedSuite = .ok ["Evaluation:quality:2.0.0"] ∧
      effectiveRefs sampleHistorical ["Evaluation:quality:2.0.0"] =
        .ok [quality "2.0.0", ⟨"Prompt", "planner", "1.0.0"⟩, ⟨"Workflow", "flow", "1.0.0"⟩] ∧
      ¬ScoredAsRun recordedSuite [quality "2.0.0", ⟨"Prompt", "planner", "1.0.0"⟩, ⟨"Workflow", "flow", "1.0.0"⟩] := by
  refine ⟨⟨by decide +kernel, by decide +kernel⟩, by decide +kernel, by decide +kernel, by decide +kernel, fun scored => ?_⟩
  have ran := (scored (quality "1.0.0") (by decide) "1.0.0").mpr rfl
  exact absurd ran (by decide)

end Effective

end Aep.EvaluationSuites
