import Aep.ContextBuilder.Accounting

namespace Aep.ContextBuilder

open RuntimeStore Result

def total (elements : List Record) : Int := (elements.map tokensOf).sum

section Tokens

variable (floatSize : Rat → Nat) (element : Record)

theorem field_withTokenMetadata (key : String) (counted : "tokenCount" ≠ key) (truncated : "truncated" ≠ key) :
    Dict.field (withTokenMetadata floatSize element) key = element.field key := by
  unfold withTokenMetadata
  rw [field_set_ne _ _ truncated, field_set_ne _ _ counted]

@[simp] theorem tokensOf_withTokenMetadata :
    tokensOf (withTokenMetadata floatSize element) = estimatedTokens floatSize element := by
  have counted : Dict.field (withTokenMetadata floatSize element) "tokenCount" =
      .int (estimatedTokens floatSize element) := by
    unfold withTokenMetadata
    rw [field_set_ne _ _ (by decide), field_set_self]
  unfold tokensOf
  rw [counted]

@[simp] theorem repositoryIdentity_withTokenMetadata :
    repositoryIdentity (withTokenMetadata floatSize element) = repositoryIdentity element := by
  unfold repositoryIdentity isSlice
  simp only [field_withTokenMetadata floatSize element "type" (by decide) (by decide),
    field_withTokenMetadata floatSize element "content" (by decide) (by decide),
    field_withTokenMetadata floatSize element "provenance" (by decide) (by decide)]

@[simp] theorem gatheredOf_withTokenMetadata : gatheredOf (withTokenMetadata floatSize element) = gatheredOf element := by
  unfold gatheredOf
  simp only [field_withTokenMetadata floatSize element "content" (by decide) (by decide),
    field_withTokenMetadata floatSize element "provenance" (by decide) (by decide)]

theorem withoutTokenMetadata_slice (slice : Slice) :
    withoutTokenMetadata (withTokenMetadata floatSize slice.element) = slice.element := rfl

theorem estimatedTokens_merge (slice other : Slice) :
    estimatedTokens floatSize slice.element ≤ estimatedTokens floatSize (slice.merge other).element := by
  have longer := slice.size_merge other floatSize
  unfold estimatedTokens
  omega

theorem represents_of_covers {prepared : Record} (covers : Covers element prepared) :
    Represents floatSize (withTokenMetadata floatSize element) prepared := by
  unfold Covers at covers
  unfold Represents
  split at covers
  · simpa using covers
  · rw [covers]

end Tokens

variable (floatSize : Rat → Nat)

/-- The elements with a candidate: merged into the one of its identity, or at the end. -/
inductive Offers (elements : List Record) (candidate : Candidate) : List Record → Prop
  | into (index : Nat) (element merged : Record) (identity : Identity) (there : elements[index]? = some element)
      (same : repositoryIdentity element = some identity)
      (identified : repositoryIdentity candidate.2 = some identity)
      (made : mergeDuplicate (withoutTokenMetadata element) candidate.2 = .ok merged) :
      Offers elements candidate (elements.set index (withTokenMetadata floatSize merged))
  | alone (fresh : ∀ identity, repositoryIdentity candidate.2 = some identity → ∀ element ∈ elements,
      repositoryIdentity element ≠ some identity) :
      Offers elements candidate (elements ++ [withTokenMetadata floatSize candidate.2])

/-- The greedy selection, which counts all tokens again in every turn: a candidate is kept, or it is discarded where
    the budget would be exceeded with it. -/
inductive Greedy (tokenBudget : Int) : List Record → List Candidate → List Discarded → List Record → Prop
  | done (elements : List Record) : Greedy tokenBudget elements [] [] elements
  | kept {elements offered last : List Record} {candidate : Candidate} {candidates : List Candidate}
      {discarded : List Discarded} (offers : Offers floatSize elements candidate offered)
      (fits : total offered ≤ tokenBudget) (rest : Greedy tokenBudget offered candidates discarded last) :
      Greedy tokenBudget elements (candidate :: candidates) discarded last
  | discarded {elements offered last : List Record} {candidate : Candidate} {candidates : List Candidate}
      {entry : Discarded} {discarded : List Discarded} (offers : Offers floatSize elements candidate offered)
      (exceeds : tokenBudget < total offered) (context : entry.context = candidate.1)
      (reason : entry.reason = "TOKEN_BUDGET") (cost : entry.estimatedTokens = total offered - total elements)
      (rest : Greedy tokenBudget elements candidates discarded last) :
      Greedy tokenBudget elements (candidate :: candidates) (entry :: discarded) last

def Apart (left right : Record) : Prop :=
  ∀ identity, repositoryIdentity left = some identity → repositoryIdentity right ≠ some identity

structure Accounted (tokenBudget : Int) (indices : Dict Identity Nat) (state : Picked) : Prop where
  counted : state.tokenCount = total state.elements
  within : state.tokenCount ≤ tokenBudget
  ready : ∀ element ∈ state.elements, ∃ prepared, Ready prepared ∧ element = withTokenMetadata floatSize prepared
  aligned : state.selectedCategories.length = state.elements.length
  located : ∀ identity index, indices.get? identity = some index →
    state.elements[index]?.bind repositoryIdentity = some identity
  distinct : state.elements.Pairwise Apart

def Fresh (indices : Dict Identity Nat) (elements : List Record) (candidates : List Candidate) : Prop :=
  ∀ candidate ∈ candidates, ∀ identity, repositoryIdentity candidate.2 = some identity → indices.get? identity = none →
    ∀ element ∈ elements, repositoryIdentity element ≠ some identity

/-- What one turn makes of the selection. -/
inductive Turn (tokenBudget : Int) (candidate : Candidate) (before after : Picked) : Prop
  | kept (offers : Offers floatSize before.elements candidate after.elements)
      (fits : total after.elements ≤ tokenBudget) (same : after.discarded = before.discarded)
  | discarded (offered : List Record) (offers : Offers floatSize before.elements candidate offered)
      (exceeds : tokenBudget < total offered) (same : after.elements = before.elements) (entry : Discarded)
      (context : entry.context = candidate.1) (reason : entry.reason = "TOKEN_BUDGET")
      (cost : entry.estimatedTokens = total offered - total before.elements)
      (added : after.discarded = before.discarded ++ [entry])

section Steps

variable {floatSize} {tokenBudget : Int} {indices : Dict Identity Nat} {state after : Picked} {candidate : Candidate}
  {rest : List Candidate} {optional : List String}

theorem total_append (elements : List Record) (element : Record) :
    total (elements ++ [element]) = total elements + tokensOf element := by
  simp [total]

theorem total_set {elements : List Record} {index : Nat} {old : Record} (there : elements[index]? = some old)
    (element : Record) : total (elements.set index element) = total elements - tokensOf old + tokensOf element := by
  induction elements generalizing index with
  | nil => cases there
  | cons first others ih =>
    cases index with
    | zero =>
      obtain rfl := Option.some.inj there
      simp only [total, List.set_cons_zero, List.map_cons, List.sum_cons]
      omega
    | succ index =>
      have step := ih there
      simp only [total, List.set_cons_succ, List.map_cons, List.sum_cons] at step ⊢
      omega

theorem slices_of_index (accounted : Accounted floatSize tokenBudget indices state) (ready : Ready candidate.2)
    {identity : Identity} (identified : repositoryIdentity candidate.2 = some identity) {index : Nat}
    (found : indices.get? identity = some index) :
    ∃ slice other : Slice, state.elements[index]? = some (withTokenMetadata floatSize slice.element) ∧
      candidate.2 = other.element ∧ slice.identity = identity ∧ other.identity = identity := by
  have located := accounted.located identity index found
  rw [Option.bind_eq_some_iff] at located
  obtain ⟨element, there, same⟩ := located
  obtain ⟨prepared, preparedReady, rfl⟩ := accounted.ready element (List.mem_of_getElem? there)
  rw [repositoryIdentity_withTokenMetadata] at same
  obtain ⟨slice, rfl, sliceIdentity⟩ := preparedReady.sliced same
  obtain ⟨other, otherElement, otherIdentity⟩ := ready.sliced identified
  exact ⟨slice, other, there, otherElement, sliceIdentity, otherIdentity⟩

theorem identities_set {elements : List Record} {index : Nat} {old : Record} (there : elements[index]? = some old)
    {element : Record} (same : repositoryIdentity element = repositoryIdentity old) :
    (elements.set index element).map repositoryIdentity = elements.map repositoryIdentity := by
  rw [List.map_set, same]
  obtain ⟨within, rfl⟩ := List.getElem?_eq_some_iff.mp there
  have mapped : index < (elements.map repositoryIdentity).length := by rwa [List.length_map]
  rw [← List.getElem_map repositoryIdentity (h := mapped), List.set_getElem_self]

section Congruence

variable {elements others : List Record} (same : others.map repositoryIdentity = elements.map repositoryIdentity)

include same

theorem located_congr (index : Nat) : others[index]?.bind repositoryIdentity = elements[index]?.bind repositoryIdentity := by
  have lookup := congrArg (fun identities => identities[index]?.join) same
  simp only [List.getElem?_map] at lookup
  revert lookup
  cases others[index]? <;> cases elements[index]? <;> exact id

theorem distinct_congr (distinct : elements.Pairwise Apart) : others.Pairwise Apart := by
  have identities : (elements.map repositoryIdentity).Pairwise fun left right =>
      ∀ identity, left = some identity → right ≠ some identity := List.pairwise_map.mpr distinct
  rw [← same, List.pairwise_map] at identities
  exact identities

theorem fresh_congr {candidates : List Candidate} (fresh : Fresh indices elements candidates) :
    Fresh indices others candidates := by
  intro candidate inside identity identified absent element member equal
  have there : repositoryIdentity element ∈ others.map repositoryIdentity := List.mem_map_of_mem member
  rw [same, List.mem_map] at there
  obtain ⟨old, oldMember, sameIdentity⟩ := there
  exact fresh candidate inside identity identified absent old oldMember (sameIdentity.trans equal)

end Congruence

theorem turn_pickInto (accounted : Accounted floatSize tokenBudget indices state) (ready : Ready candidate.2)
    {identity : Identity} (identified : repositoryIdentity candidate.2 = some identity) {index : Nat}
    (found : indices.get? identity = some index) (fresh : Fresh indices state.elements rest)
    (ran : pickInto floatSize tokenBudget optional state candidate index = .ok after) :
    Turn floatSize tokenBudget candidate state after ∧ Accounted floatSize tokenBudget indices after ∧
      Fresh indices after.elements rest := by
  obtain ⟨slice, other, there, sameElement, sliceIdentity, otherIdentity⟩ :=
    slices_of_index accounted ready identified found
  have made : mergeDuplicate (withoutTokenMetadata (withTokenMetadata floatSize slice.element)) candidate.2 =
      .ok (slice.merge other).element := by
    rw [withoutTokenMetadata_slice, sameElement, Slice.mergeDuplicate_element]
  have offers : Offers floatSize state.elements candidate
      (state.elements.set index (withTokenMetadata floatSize (slice.merge other).element)) := by
    apply Offers.into index _ _ identity there _ identified made
    rw [repositoryIdentity_withTokenMetadata, Slice.repositoryIdentity_element, sliceIdentity]
  have grows := estimatedTokens_merge floatSize slice other
  have charged : total (state.elements.set index (withTokenMetadata floatSize (slice.merge other).element)) =
      total state.elements + max 0 (tokensOf (withTokenMetadata floatSize (slice.merge other).element) -
        tokensOf (withTokenMetadata floatSize slice.element)) := by
    rw [total_set there, tokensOf_withTokenMetadata, tokensOf_withTokenMetadata]
    omega
  have counted := accounted.counted
  unfold pickInto at ran
  rw [there] at ran
  simp only [made, ok_bind] at ran
  split at ran
  · rename_i fits
    obtain rfl := pure_eq_ok.mp ran
    have same : (state.elements.set index (withTokenMetadata floatSize (slice.merge other).element)).map
        repositoryIdentity = state.elements.map repositoryIdentity := by
      apply identities_set there
      simp only [repositoryIdentity_withTokenMetadata, Slice.repositoryIdentity_element, Slice.identity_merge]
    refine ⟨.kept offers (by rw [charged]; omega) rfl, ?_, fresh_congr same fresh⟩
    constructor
    · rw [charged, counted]
    · exact fits
    · intro element inside
      rcases List.mem_or_eq_of_mem_set inside with old | rfl
      · exact accounted.ready element old
      · exact ⟨_, .slice _, rfl⟩
    · rw [List.length_set]
      exact accounted.aligned
    · intro wanted position indexed
      rw [located_congr same]
      exact accounted.located wanted position indexed
    · exact distinct_congr same accounted.distinct
  · rename_i exceeds
    obtain rfl := pure_eq_ok.mp ran
    refine ⟨.discarded _ offers (by rw [charged]; omega) rfl _ rfl rfl ?_ rfl, ?_, fresh⟩
    · rw [charged]
      dsimp only
      omega
    · exact ⟨accounted.counted, accounted.within, accounted.ready, accounted.aligned, accounted.located,
        accounted.distinct⟩

theorem turn_pickAlone (accounted : Accounted floatSize tokenBudget indices state) (ready : Ready candidate.2)
    (unplaced : ∀ identity, repositoryIdentity candidate.2 = some identity → indices.get? identity = none)
    (fresh : Fresh indices state.elements (candidate :: rest))
    (apart : ∀ later ∈ rest, ∀ identity, repositoryIdentity candidate.2 = some identity →
      repositoryIdentity later.2 ≠ some identity)
    (ran : pickAlone floatSize tokenBudget state candidate = after) :
    Turn floatSize tokenBudget candidate state after ∧ Accounted floatSize tokenBudget indices after ∧
      Fresh indices after.elements rest := by
  have unheld : ∀ identity, repositoryIdentity candidate.2 = some identity → ∀ element ∈ state.elements,
      repositoryIdentity element ≠ some identity := by
    intro identity identified
    exact fresh candidate List.mem_cons_self identity identified (unplaced identity identified)
  have offers : Offers floatSize state.elements candidate (state.elements ++ [withTokenMetadata floatSize candidate.2]) :=
    .alone unheld
  have later : Fresh indices state.elements rest := fun other inside => fresh other (List.mem_cons_of_mem _ inside)
  have counted := accounted.counted
  have charged := total_append state.elements (withTokenMetadata floatSize candidate.2)
  unfold pickAlone at ran
  subst ran
  dsimp only
  split
  · rename_i fits
    refine ⟨.kept offers (by rw [charged]; omega) rfl, ?_, ?_⟩
    · constructor
      · rw [charged, counted]
      · exact fits
      · intro element inside
        rcases List.mem_append.mp inside with old | new
        · exact accounted.ready element old
        · exact ⟨candidate.2, ready, List.mem_singleton.mp new⟩
      · simp only [List.length_append, accounted.aligned, List.length_singleton]
      · intro wanted position indexed
        have located := accounted.located wanted position indexed
        have within : position < state.elements.length := by
          by_contra beyond
          rw [List.getElem?_eq_none (not_lt.mp beyond)] at located
          cases located
        rwa [List.getElem?_append_left within]
      · rw [List.pairwise_append]
        refine ⟨accounted.distinct, List.pairwise_singleton _ _, ?_⟩
        intro element inside new newInside identity identified equal
        rw [List.mem_singleton.mp newInside, repositoryIdentity_withTokenMetadata] at equal
        exact unheld identity equal element inside identified
    · intro other inside identity identified absent element member equal
      rcases List.mem_append.mp member with old | new
      · exact later other inside identity identified absent element old equal
      · rw [List.mem_singleton.mp new, repositoryIdentity_withTokenMetadata] at equal
        exact apart other inside identity equal identified
  · rename_i exceeds
    refine ⟨.discarded _ offers (by rw [charged]; omega) rfl _ rfl rfl ?_ rfl, ?_, later⟩
    · rw [charged]
      dsimp only
      omega
    · exact ⟨accounted.counted, accounted.within, accounted.ready, accounted.aligned, accounted.located,
        accounted.distinct⟩

theorem turn_pick (accounted : Accounted floatSize tokenBudget indices state) (ready : Ready candidate.2)
    (fresh : Fresh indices state.elements (candidate :: rest))
    (apart : ∀ later ∈ rest, ∀ identity, repositoryIdentity candidate.2 = some identity →
      repositoryIdentity later.2 ≠ some identity)
    (ran : pick floatSize tokenBudget optional indices state candidate = .ok after) :
    Turn floatSize tokenBudget candidate state after ∧ Accounted floatSize tokenBudget indices after ∧
      Fresh indices after.elements rest := by
  unfold pick at ran
  split at ran
  · rename_i index found
    rw [Option.bind_eq_some_iff] at found
    obtain ⟨identity, identified, placed⟩ := found
    exact turn_pickInto accounted ready identified placed (fun other inside => fresh other (List.mem_cons_of_mem _ inside))
      ran
  · rename_i unplaced
    apply turn_pickAlone accounted ready _ fresh apart (Except.ok.inj ran)
    intro identity identified
    rwa [identified, Option.bind_some] at unplaced

theorem greedy_of_foldlM {candidates : List Candidate} (accounted : Accounted floatSize tokenBudget indices state)
    (ready : ∀ candidate ∈ candidates, Ready candidate.2) (fresh : Fresh indices state.elements candidates)
    (distinct : candidates.Pairwise fun left right => ∀ identity, repositoryIdentity left.2 = some identity →
      repositoryIdentity right.2 ≠ some identity)
    (ran : candidates.foldlM (pick floatSize tokenBudget optional indices) state = .ok after) :
    Accounted floatSize tokenBudget indices after ∧ ∃ discarded, after.discarded = state.discarded ++ discarded ∧
      Greedy floatSize tokenBudget state.elements candidates discarded after.elements := by
  induction candidates generalizing state with
  | nil =>
    obtain rfl := Except.ok.inj ran
    exact ⟨accounted, [], (List.append_nil _).symm, .done _⟩
  | cons candidate rest ih =>
    rw [List.foldlM_cons] at ran
    cases picked : pick floatSize tokenBudget optional indices state candidate with
    | error error =>
      rw [picked] at ran
      cases ran
    | ok middle =>
      rw [picked] at ran
      obtain ⟨apart, restDistinct⟩ := List.pairwise_cons.mp distinct
      obtain ⟨turn, next, restFresh⟩ := turn_pick accounted (ready candidate List.mem_cons_self) fresh apart picked
      obtain ⟨last, discarded, gathered, greedy⟩ :=
        ih next (fun other inside => ready other (List.mem_cons_of_mem _ inside)) restFresh restDistinct ran
      refine ⟨last, ?_⟩
      cases turn with
      | kept offers fits same =>
        rw [same] at gathered
        exact ⟨discarded, gathered, .kept offers fits greedy⟩
      | discarded offered offers exceeds same entry context reason cost added =>
        rw [added, List.append_assoc] at gathered
        rw [same] at greedy
        exact ⟨entry :: discarded, gathered, .discarded offers exceeds context reason cost greedy⟩

end Steps

end Aep.ContextBuilder
