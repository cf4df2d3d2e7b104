import Aep.ContextBuilder.Greedy
import Mathlib.Data.List.Induction

namespace Aep.ContextBuilder

open RuntimeStore Result

section Breakdown

def breakdownTokens (breakdown : Dict String BreakdownEntry) : Int := (breakdown.map fun entry => entry.2.tokenCount).sum

theorem breakdownTokens_set (breakdown : Dict String BreakdownEntry) (category : String) (entry : BreakdownEntry) :
    breakdownTokens (breakdown.set category entry) =
      breakdownTokens breakdown - ((breakdown.get? category).getD ⟨0, 0⟩).tokenCount + entry.tokenCount := by
  induction breakdown with
  | nil => simp [breakdownTokens, Dict.set]
  | cons head rest ih =>
    by_cases same : head.1 = category
    · simp only [breakdownTokens, Dict.set, same, ↓reduceIte, Dict.get?, List.map_cons, List.sum_cons, Option.getD_some]
      omega
    · simp only [breakdownTokens, Dict.set, same, ↓reduceIte, Dict.get?, List.map_cons, List.sum_cons] at ih ⊢
      omega

theorem breakdownTokens_foldl (pairs : List (String × Record)) (breakdown : Dict String BreakdownEntry) :
    breakdownTokens (pairs.foldl countElement breakdown) = breakdownTokens breakdown + total (pairs.map Prod.snd) := by
  induction pairs generalizing breakdown with
  | nil => simp [total]
  | cons pair rest ih =>
    rw [List.foldl_cons, ih, countElement, breakdownTokens_set]
    simp only [total, List.map_cons, List.sum_cons]
    omega

theorem breakdownTokens_tokenBreakdown {categories : List String} {elements : List Record}
    {breakdown : Dict String BreakdownEntry} (counted : tokenBreakdown categories elements = .ok breakdown) :
    breakdownTokens breakdown = total elements := by
  unfold tokenBreakdown at counted
  split at counted
  · cases counted
  · rename_i lengths
    obtain rfl := Except.ok.inj counted
    have perm := List.perm_insertionSort (fun left right : String × BreakdownEntry => left.1 ≤ right.1)
      ((categories.zip elements).foldl countElement [])
    have sum := breakdownTokens_foldl (categories.zip elements) []
    rw [List.map_snd_zip (by omega)] at sum
    rw [breakdownTokens, (perm.map _).sum_eq]
    exact sum.trans (zero_add _)

end Breakdown

section Mandatory

theorem places_mandatoryIdentityIndices {elements : List Record} (distinct : elements.Pairwise Apart) :
    Coalesce.Places repositoryIdentity elements (mandatoryIdentityIndices elements) := by
  induction elements using List.reverseRecOn with
  | nil => exact Coalesce.places_nil
  | append_singleton elements element ih =>
    obtain ⟨before, -, apart⟩ := List.pairwise_append.mp distinct
    have places := ih before
    have step : mandatoryIdentityIndices (elements ++ [element]) =
        placeElement (mandatoryIdentityIndices elements) (element, elements.length) := by
      unfold mandatoryIdentityIndices
      rw [List.zipIdx_append, List.foldl_append, Nat.zero_add]
      rfl
    rw [step]
    unfold placeElement
    split
    · rename_i unidentified
      exact Coalesce.places_append places unidentified
    · rename_i identity identified
      apply Coalesce.places_appendAt places identified
      cases found : (mandatoryIdentityIndices elements).get? identity with
      | none => rfl
      | some position =>
        have located := (places identity position).mp found
        rw [Option.bind_eq_some_iff] at located
        obtain ⟨old, there, sameIdentity⟩ := located
        exact absurd identified (apart old (List.mem_of_getElem? there) element (List.mem_singleton_self _) identity
          sameIdentity)

end Mandatory

section Represented

variable {floatSize : Rat → Nat} {elements offered : List Record} {candidate : Candidate}

theorem represents_merge {slice other : Slice} {prepared : Record}
    (represents : Represents floatSize (withTokenMetadata floatSize slice.element) prepared) :
    Represents floatSize (withTokenMetadata floatSize (slice.merge other).element) prepared := by
  unfold Represents at represents ⊢
  split at represents
  · simp only [repositoryIdentity_withTokenMetadata, gatheredOf_withTokenMetadata, Slice.repositoryIdentity_element,
      gatheredOf_element, Slice.identity_merge] at represents ⊢
    exact ⟨represents.1, List.Subset.trans represents.2 (slice.gathered_merge other).1⟩
  · rename_i unidentified
    have identity := congrArg repositoryIdentity represents
    simp [unidentified] at identity

def AllReady (floatSize : Rat → Nat) (elements : List Record) : Prop :=
  ∀ element ∈ elements, ∃ prepared, Ready prepared ∧ element = withTokenMetadata floatSize prepared

theorem Offers.represents (ready : AllReady floatSize elements) (candidateReady : Ready candidate.2)
    (offers : Offers floatSize elements candidate offered) :
    (∃ element ∈ offered, Represents floatSize element candidate.2) ∧
      (∀ prepared, (∃ element ∈ elements, Represents floatSize element prepared) →
        ∃ element ∈ offered, Represents floatSize element prepared) ∧ AllReady floatSize offered := by
  cases offers with
  | into index element merged identity there same identified made =>
    obtain ⟨prepared, preparedReady, rfl⟩ := ready element (List.mem_of_getElem? there)
    rw [repositoryIdentity_withTokenMetadata] at same
    obtain ⟨slice, rfl, sliceIdentity⟩ := preparedReady.sliced same
    obtain ⟨other, sameElement, otherIdentity⟩ := candidateReady.sliced identified
    rw [withoutTokenMetadata_slice, sameElement, Slice.mergeDuplicate_element] at made
    obtain rfl := Except.ok.inj made
    have within := (List.getElem?_eq_some_iff.mp there).1
    have inside := List.mem_set within (withTokenMetadata floatSize (slice.merge other).element)
    refine ⟨⟨_, inside, ?_⟩, ?_, ?_⟩
    · rw [sameElement]
      apply represents_of_covers
      apply covers_of_slice
      · rw [Slice.repositoryIdentity_element, Slice.identity_merge, sliceIdentity, otherIdentity]
      · rw [gatheredOf_element]
        exact (slice.gathered_merge other).2
    · rintro prepared ⟨old, member, represents⟩
      obtain ⟨place, here⟩ := List.getElem?_of_mem member
      by_cases moved : index = place
      · subst moved
        obtain rfl := Option.some.inj (there.symm.trans here)
        exact ⟨_, inside, represents_merge represents⟩
      · have kept : (elements.set index (withTokenMetadata floatSize (slice.merge other).element))[place]? = some old := by
          rw [List.getElem?_set_ne moved, here]
        exact ⟨old, List.mem_of_getElem? kept, represents⟩
    · intro found member
      rcases List.mem_or_eq_of_mem_set member with old | rfl
      · exact ready found old
      · exact ⟨_, .slice _, rfl⟩
  | alone fresh =>
    refine ⟨⟨_, List.mem_append_right _ (List.mem_singleton_self _), ?_⟩, ?_, ?_⟩
    · exact represents_of_covers floatSize _ (covers_self _)
    · rintro prepared ⟨old, member, represents⟩
      exact ⟨old, List.mem_append_left _ member, represents⟩
    · intro found member
      rcases List.mem_append.mp member with old | new
      · exact ready found old
      · exact ⟨candidate.2, candidateReady, List.mem_singleton.mp new⟩

theorem Greedy.represents {tokenBudget : Int} {candidates : List Candidate} {discarded : List Discarded}
    {last : List Record} (greedy : Greedy floatSize tokenBudget elements candidates discarded last)
    (ready : AllReady floatSize elements) (candidatesReady : ∀ candidate ∈ candidates, Ready candidate.2) :
    (∀ prepared, (∃ element ∈ elements, Represents floatSize element prepared) →
        ∃ element ∈ last, Represents floatSize element prepared) ∧
      ∃ kept lost : List Candidate, (kept ++ lost).Perm candidates ∧ lost.map Prod.fst = discarded.map Discarded.context ∧
        ∀ candidate ∈ kept, ∃ element ∈ last, Represents floatSize element candidate.2 := by
  induction greedy with
  | done elements =>
    refine ⟨fun _ there => there, [], [], .refl _, rfl, ?_⟩
    intro candidate inside
    cases inside
  | @kept elements offered last candidate candidates discarded offers fits rest ih =>
    obtain ⟨own, keeps, offeredReady⟩ := offers.represents ready (candidatesReady candidate List.mem_cons_self)
    obtain ⟨later, kept, lost, perm, listed, all⟩ :=
      ih offeredReady fun other inside => candidatesReady other (List.mem_cons_of_mem _ inside)
    refine ⟨fun prepared there => later prepared (keeps prepared there), candidate :: kept, lost, perm.cons candidate,
      listed, ?_⟩
    intro other inside
    rcases List.mem_cons.mp inside with rfl | old
    · exact later _ own
    · exact all other old
  | @discarded elements offered last candidate candidates entry discarded offers exceeds context reason cost rest ih =>
    obtain ⟨later, kept, lost, perm, listed, all⟩ :=
      ih ready fun other inside => candidatesReady other (List.mem_cons_of_mem _ inside)
    refine ⟨later, kept, candidate :: lost, ?_, ?_, all⟩
    · exact List.perm_middle.trans (perm.cons candidate)
    · rw [List.map_cons, List.map_cons, listed, context]

end Represented

structure Packed (floatSize : Rat → Nat) (tokenBudget : Int) (mandatory optional : List Candidate)
    (selection : Selection) : Prop where
  counted : selection.tokenCount = total selection.elements
  shared : selection.tokenCount = breakdownTokens selection.breakdown
  within : selection.tokenCount ≤ tokenBudget
  represented : ∀ candidate ∈ mandatory, ∃ element ∈ selection.elements,
    Represents floatSize element (withSelectionReason candidate.2 candidate.1)
  distinct : selection.elements.Pairwise Apart
  greedy : ∃ required candidates : List Candidate, deduplicate mandatory = .ok required ∧
    deduplicate optional = .ok candidates ∧ Deduplicated optional candidates ∧
    Greedy floatSize tokenBudget (required.map fun candidate => withTokenMetadata floatSize candidate.2) candidates
      selection.discarded selection.elements ∧
    ∃ kept lost : List Candidate, (kept ++ lost).Perm candidates ∧
      lost.map Prod.fst = selection.discarded.map Discarded.context ∧
      ∀ candidate ∈ kept, ∃ element ∈ selection.elements, Represents floatSize element candidate.2
  pruned : selection.truncation = "PRUNED" ↔ selection.discarded ≠ []

/-- A selection that succeeds keeps within its budget, counts what it holds and loses nothing that it does not list. -/
theorem select_packs (floatSize : Rat → Nat) (tokenBudget : Int) (optionalNames requiredNames : List String)
    (mandatory optional : List BuiltCandidate) {selection : Selection}
    (selected : select floatSize tokenBudget optionalNames requiredNames (mandatory.map Subtype.val)
      (optional.map Subtype.val) = .ok selection) :
    Packed floatSize tokenBudget (mandatory.map Subtype.val) (optional.map Subtype.val) selection := by
  simp only [select, bind_eq_ok, pure_eq_ok] at selected
  obtain ⟨required, requiredRan, candidates, candidatesRan, _, fits, picked, ran, breakdown, counted, rfl⟩ := selected
  have requiredLeft := deduplicated requiredRan
  have candidatesLeft := deduplicated candidatesRan
  have elementsReady : AllReady floatSize (required.map fun candidate => withTokenMetadata floatSize candidate.2) := by
    intro element inside
    obtain ⟨candidate, member, rfl⟩ := List.mem_map.mp inside
    exact ⟨candidate.2, requiredLeft.ready candidate member, rfl⟩
  have elementsDistinct : (required.map fun candidate => withTokenMetadata floatSize candidate.2).Pairwise Apart := by
    rw [List.pairwise_map]
    apply requiredLeft.distinct.imp
    intro left right apart identity identified
    rw [repositoryIdentity_withTokenMetadata] at identified ⊢
    exact apart identity identified
  have places := places_mandatoryIdentityIndices elementsDistinct
  have start : Accounted floatSize tokenBudget
      (mandatoryIdentityIndices (required.map fun candidate => withTokenMetadata floatSize candidate.2))
      { elements := required.map fun candidate => withTokenMetadata floatSize candidate.2
        selectedNames := required.map Prod.fst, selectedCategories := required.map Prod.fst, discarded := []
        tokenCount := total (required.map fun candidate => withTokenMetadata floatSize candidate.2) } := by
    refine ⟨rfl, not_lt.mp (raiseIf_eq_ok.mp fits), elementsReady, ?_, ?_, elementsDistinct⟩
    · simp only [List.length_map]
    · intro identity index found
      exact (places identity index).mp found
  have fresh : Fresh (mandatoryIdentityIndices (required.map fun candidate => withTokenMetadata floatSize candidate.2))
      (required.map fun candidate => withTokenMetadata floatSize candidate.2) candidates := by
    intro candidate _ identity _ absent element member same
    obtain ⟨index, there⟩ := List.getElem?_of_mem member
    have found := (places identity index).mpr (by rw [there, Option.bind_some, same])
    rw [absent] at found
    cases found
  obtain ⟨accounted, discarded, gathered, greedy⟩ :=
    greedy_of_foldlM start candidatesLeft.ready fresh candidatesLeft.distinct ran
  obtain ⟨keeps, kept, lost, perm, listed, all⟩ := greedy.represents elementsReady candidatesLeft.ready
  rw [List.nil_append] at gathered
  constructor
  · exact accounted.counted
  · rw [breakdownTokens_tokenBreakdown counted]
    exact accounted.counted
  · exact accounted.within
  · intro candidate inside
    obtain ⟨holder, member, covers⟩ := requiredLeft.covered candidate inside
    exact keeps _ ⟨_, List.mem_map_of_mem member, represents_of_covers floatSize holder.2 covers⟩
  · exact accounted.distinct
  · rw [← gathered] at greedy listed
    exact ⟨required, candidates, requiredRan, candidatesRan, candidatesLeft, greedy, kept, lost, perm, listed, all⟩
  · dsimp only
    split
    · rename_i empty
      simp [empty]
    · rename_i some
      simp [some]

namespace Sample

def taskElement : Record := [
  ("type", .str "task"), ("content", .obj [("kind", .str "Task")]),
  ("provenance", .obj [("actor", .str "resource-loader"), ("resourceRefs", .arr [])])]

def found (path : String) : KnowledgeResult where
  id := path
  kind := .file
  score := 1
  attributes := []
  provenance := ⟨"abc", "snapshot-1", "2026-01-01T00:00:00Z", "scanner", { path }, ["root", path]⟩

def slice (name path : String) : BuiltCandidate :=
  ⟨(name, knowledgeElement .repository (found path) none), .slice .repository (found path) none⟩

def mandatory : List BuiltCandidate := [⟨("task", taskElement), .other taskElement rfl⟩, slice "candidate-files" "a.py"]

/-- The first of these is merged, the second is included, and there is no room for the third. -/
def optional : List BuiltCandidate :=
  [slice "documentation" "a.py", slice "documentation" "b.py", slice "test-hints" "c.py"]

def selected : Except PyError Selection :=
  select (fun _ => 0) 300 ["documentation", "test-hints"] ["candidate-files", "task"] (mandatory.map Subtype.val)
    (optional.map Subtype.val)

theorem select_packs_slices : ∃ selection, selected = .ok selection ∧
    selection.discarded.map Discarded.context = ["test-hints"] ∧
    Packed (fun _ => 0) 300 (mandatory.map Subtype.val) (optional.map Subtype.val) selection := by
  have discards : selected.toOption.map (fun selection => selection.discarded.map Discarded.context) =
      some ["test-hints"] := by decide +kernel
  cases ran : selected with
  | error error =>
    rw [ran] at discards
    cases discards
  | ok selection =>
    rw [ran] at discards
    exact ⟨selection, rfl, Option.some.inj discards, select_packs _ _ _ _ mandatory optional ran⟩

end Sample

end Aep.ContextBuilder
