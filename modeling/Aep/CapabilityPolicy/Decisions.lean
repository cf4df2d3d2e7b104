import Aep.CapabilityPolicy.Evaluate

namespace Aep.CapabilityPolicy

open Result StateAction RuntimeStore

open PublicationPolicy (Platform ApplicablePolicy PolicyDecision declaredRules)

variable {platform : Platform}

section Rules

/-- A declared rule that lists the capability, has this outcome and whose conditions hold of the input. -/
def RuleMatches (platform : Platform) (capability : String) (input : Json) (decision : PolicyDecision) (rule : Json) :
    Prop :=
  mappingField rule "effect" = .str decision.effect ∧
    (∃ names, mappingField rule "capabilities" = .arr names ∧ Json.str capability ∈ names) ∧
    ∀ conditions, mappingField rule "conditions" = .obj conditions → platform.isValid conditions input = true

def Matches (platform : Platform) (bindings : List ApplicablePolicy) (capability : String) (input : Json)
    (decision : PolicyDecision) : Prop :=
  ∃ binding ∈ bindings, ∃ rule ∈ declaredRules binding.resource, RuleMatches platform capability input decision rule

/-- The highest of the effects of the matching rules, and a denial when none matches. -/
structure MostRestrictive (platform : Platform) (bindings : List ApplicablePolicy) (capability : String) (input : Json)
    (decision : PolicyDecision) : Prop where
  matched : (∃ other, Matches platform bindings capability input other) →
    Matches platform bindings capability input decision
  highest : ∀ other, Matches platform bindings capability input other → other.priority ≤ decision.priority
  byDefault : (∀ other, ¬Matches platform bindings capability input other) → decision = .deny

structure ReadAs (rule : Json) (checked : CapabilityRule) : Prop where
  effect : mappingField rule "effect" = .str checked.decision.effect
  capabilities : mappingField rule "capabilities" = .arr (checked.capabilities.map .str)
  conditions : ∀ schema, mappingField rule "conditions" = .obj schema ↔ checked.conditions = some schema

theorem effectDecision_ok {index : Nat} {effect : Json} {decision : PolicyDecision}
    (decided : effectDecision index effect = .ok decision) : effect = .str decision.effect := by
  unfold effectDecision at decided
  split at decided
  · rename_i allows
    cases decided
    exact allows
  split at decided
  · rename_i requires
    cases decided
    exact requires
  split at decided
  · rename_i denies
    cases decided
    exact denies
  split at decided <;> cases decided

theorem mapM_capabilityName {items : List Json} {names : List String}
    (read : items.mapM capabilityName = some names) : items = names.map .str := by
  have each := forall₂_of_mapM_some read
  clear read
  induction each with
  | nil => rfl
  | cons here _ ih =>
    obtain ⟨text, _⟩ := Option.filter_eq_some_iff.mp here
    rw [List.map_cons, ← ih, Json.asString?_eq_some.mp text]

theorem ruleCapabilities_ok {index : Nat} {value : Json} {names : List String}
    (read : ruleCapabilities index value = .ok names) : value = .arr (names.map .str) := by
  unfold ruleCapabilities at read
  split at read
  · cases read
  · rename_i _ found
    split at read
    · cases read
      obtain ⟨items, kept, named⟩ := Option.bind_eq_some_iff.mp found
      obtain ⟨array, _⟩ := Option.filter_eq_some_iff.mp kept
      rw [Json.asItems?_eq_some.mp array, mapM_capabilityName named]
    · cases read

theorem ruleConditions_ok {index : Nat} {value : Json} {conditions : Option Record}
    (read : ruleConditions index value = .ok conditions) (schema : Record) :
    value = .obj schema ↔ conditions = some schema := by
  unfold ruleConditions at read
  split at read
  · cases read
    simp
  · cases read
    simp
  · cases read

theorem validatedRule_ok {index : Nat} {rule : Json} {checked : CapabilityRule}
    (valid : validatedRule index rule = .ok checked) : ReadAs rule checked := by
  unfold validatedRule at valid
  cases mapping : rule.asRecord? with
  | none =>
    rw [mapping] at valid
    cases valid
  | some fields =>
    rw [mapping] at valid
    simp only [bind_eq_ok, pure_eq_ok] at valid
    obtain ⟨decision, decided, capabilities, listed, reason, -, conditions, read, rfl⟩ := valid
    constructor
    · simpa [mappingField, mapping] using effectDecision_ok decided
    · simpa [mappingField, mapping] using ruleCapabilities_ok listed
    · simpa [mappingField, mapping] using ruleConditions_ok read

theorem validatedRules_ok {index : Nat} {rules : List Json} {checked : List CapabilityRule}
    (valid : validatedRules index rules = .ok checked) : List.Forall₂ ReadAs rules checked := by
  induction rules generalizing index checked with
  | nil =>
    cases valid
    exact .nil
  | cons rule rest ih =>
    simp only [validatedRules, bind_eq_ok, pure_eq_ok] at valid
    obtain ⟨first, read, later, others, rfl⟩ := valid
    exact .cons (validatedRule_ok read) (ih others)

def Applies (platform : Platform) (capability : String) (input : Json) (rule : CapabilityRule) : Prop :=
  capability ∈ rule.capabilities ∧ ∀ conditions ∈ rule.conditions, platform.isValid conditions input = true

theorem ReadAs.matches_iff {rule : Json} {checked : CapabilityRule} (same : ReadAs rule checked) (capability : String)
    (input : Json) (decision : PolicyDecision) :
    RuleMatches platform capability input decision rule ↔
      checked.decision = decision ∧ Applies platform capability input checked := by
  have effects {first second : PolicyDecision} : first.effect = second.effect ↔ first = second := by
    cases first <;> cases second <;> decide
  simp [RuleMatches, Applies, same.effect, same.capabilities, same.conditions, effects]

theorem ruleApplies_ok {capability name : String} {input : Json} {index : Nat} {rule : CapabilityRule} {applies : Bool}
    (checked : ruleApplies platform capability input name index rule = .ok applies) :
    applies = true ↔ Applies platform capability input rule := by
  unfold ruleApplies at checked
  unfold Applies
  split at checked
  · rename_i other
    cases checked
    simp [other]
  · rename_i listed
    simp only [not_not] at listed
    split at checked
    · rename_i unconditional
      cases checked
      simp [listed, unconditional]
    · rename_i conditions conditional
      simp only [conditionsMatch] at checked
      split at checked
      · cases checked
      · cases checked
        simp [listed, conditional]

end Rules

section Policies

/-- What the check of a policy reads is a function of its resource. -/
structure ReadPolicy (platform : Platform) (binding : ApplicablePolicy) (policy : ValidatedPolicy) : Prop where
  sameBinding : policy.toApplicablePolicy = binding
  name : mappingField (binding.resource.field "metadata") "name" = .str policy.name
  version : mappingField (binding.resource.field "metadata") "version" = .str policy.version
  rules : validatedRules 0 (declaredRules binding.resource) = .ok policy.rules

theorem requireText_ok {field : String} {value : Json} {text : String} (read : requireText field value = .ok text) :
    value = .str text := by
  unfold requireText at read
  split at read
  · split at read
    · cases read
    · cases read
      rfl
  · cases read

theorem requireMapping_ok {field : String} {value : Json} {fields : Record}
    (read : requireMapping field value = .ok fields) : value = .obj fields := by
  unfold requireMapping at read
  split at read
  · rename_i mapping
    cases read
    exact Json.asRecord?_eq_some.mp mapping
  · cases read

theorem policyVersion_ok {value : Json} {version : String} (read : policyVersion platform value = .ok version) :
    value = .str version := by
  unfold policyVersion at read
  split at read
  · split at read
    · cases read
      rfl
    · cases read
  · cases read

theorem validatedPolicy_ok {binding : ApplicablePolicy} {policy : ValidatedPolicy}
    (valid : validatedPolicy platform binding = .ok policy) : ReadPolicy platform binding policy := by
  simp only [validatedPolicy, bind_eq_ok, raiseIf_eq_ok, pure_eq_ok] at valid
  obtain ⟨-, -, -, -, metadata, isMapping, name, named, version, versioned, -, -, -, -, -, -, rules, read, rfl⟩ := valid
  constructor
  · rfl
  · rw [requireMapping_ok isMapping]
    exact requireText_ok named
  · rw [requireMapping_ok isMapping]
    exact policyVersion_ok versioned
  · exact read

def Valid (platform : Platform) (binding : ApplicablePolicy) : Prop :=
  ∃ policy, validatedPolicy platform binding = .ok policy ∧
    ∀ rule ∈ policy.rules, ∀ conditions ∈ rule.conditions, platform.schemaError conditions = none

def identity (resource : Record) : Json × Json :=
  (mappingField (resource.field "metadata") "name", mappingField (resource.field "metadata") "version")

def OneResource (bindings : List ApplicablePolicy) : Prop :=
  ∀ first ∈ bindings, ∀ second ∈ bindings,
    identity first.resource = identity second.resource → first.resource = second.resource

theorem ReadPolicy.ref_eq {first second : ApplicablePolicy} {firstPolicy secondPolicy : ValidatedPolicy}
    (firstRead : ReadPolicy platform first firstPolicy) (secondRead : ReadPolicy platform second secondPolicy)
    (name : firstPolicy.name = secondPolicy.name) (version : firstPolicy.version = secondPolicy.version) :
    identity first.resource = identity second.resource := by
  simp only [identity, firstRead.name, firstRead.version, secondRead.name, secondRead.version, name, version]

theorem ReadPolicy.rules_eq {first second : ApplicablePolicy} {firstPolicy secondPolicy : ValidatedPolicy}
    (firstRead : ReadPolicy platform first firstPolicy) (secondRead : ReadPolicy platform second secondPolicy)
    (same : first.resource = second.resource) : firstPolicy.rules = secondPolicy.rules := by
  have rules := firstRead.rules
  rw [same, secondRead.rules, Except.ok.injEq] at rules
  exact rules.symm

theorem ReadPolicy.eq {first second : ApplicablePolicy} {firstPolicy secondPolicy : ValidatedPolicy}
    (firstRead : ReadPolicy platform first firstPolicy) (secondRead : ReadPolicy platform second secondPolicy)
    (same : first.resource = second.resource) (scope : firstPolicy.scope = secondPolicy.scope)
    (name : firstPolicy.name = secondPolicy.name) (version : firstPolicy.version = secondPolicy.version) :
    firstPolicy = secondPolicy := by
  have rules := firstRead.rules_eq secondRead same
  have firstBinding := firstRead.sameBinding
  have secondBinding := secondRead.sameBinding
  obtain ⟨⟨_, _⟩, _, _, _⟩ := firstPolicy
  obtain ⟨⟨_, _⟩, _, _, _⟩ := secondPolicy
  subst firstBinding secondBinding
  simp_all

end Policies

section Matching

variable {capability : String} {input : Json}

structure FromPolicy (platform : Platform) (capability : String) (input : Json) (start : Nat) (policy : ValidatedPolicy)
    (rules : List CapabilityRule) (matched : MatchedRule) : Prop where
  policy : matched.policy = policy
  index : start ≤ matched.ruleIndex
  rule : ∃ rule, rules[matched.ruleIndex - start]? = some rule ∧ matched.decision = rule.decision ∧
    Applies platform capability input rule

theorem matchedFrom_sound {policy : ValidatedPolicy} {start : Nat} {rules : List CapabilityRule}
    {matched : List MatchedRule} (found : matchedFrom platform capability input policy start rules = .ok matched) :
    ∀ rule ∈ matched, FromPolicy platform capability input start policy rules rule := by
  induction rules generalizing start matched with
  | nil =>
    cases found
    intro rule member
    cases member
  | cons rule rest ih =>
    simp only [matchedFrom, bind_eq_ok, pure_eq_ok] at found
    obtain ⟨applies, checked, later, others, rfl⟩ := found
    have inLater (other : MatchedRule) (member : other ∈ later) :
        FromPolicy platform capability input start policy (rule :: rest) other := by
      obtain ⟨samePolicy, index, source, found, decision, holds⟩ := ih others other member
      refine ⟨samePolicy, by omega, source, ?_, decision, holds⟩
      have position : other.ruleIndex - start = (other.ruleIndex - (start + 1)) + 1 := by omega
      rw [position, List.getElem?_cons_succ]
      exact found
    by_cases holds : applies = true
    · simp only [holds, ↓reduceIte, List.mem_cons]
      rintro other (rfl | member)
      · exact ⟨rfl, le_rfl, rule, by simp, rfl, (ruleApplies_ok checked).mp holds⟩
      · exact inLater other member
    · simp only [holds, Bool.false_eq_true, ↓reduceIte]
      exact inLater

theorem matchedFrom_complete {policy : ValidatedPolicy} {start : Nat} {rules : List CapabilityRule}
    {matched : List MatchedRule} (found : matchedFrom platform capability input policy start rules = .ok matched)
    {rule : CapabilityRule} (member : rule ∈ rules) (applicable : Applies platform capability input rule) :
    ∃ other ∈ matched, other.decision = rule.decision := by
  induction rules generalizing start matched with
  | nil => cases member
  | cons first rest ih =>
    simp only [matchedFrom, bind_eq_ok, pure_eq_ok] at found
    obtain ⟨applies, checked, later, others, rfl⟩ := found
    rcases List.mem_cons.mp member with rfl | inRest
    · simp only [(ruleApplies_ok checked).mpr applicable, ↓reduceIte]
      exact ⟨_, List.mem_cons_self, rfl⟩
    · obtain ⟨other, listed, same⟩ := ih others inRest
      refine ⟨other, ?_, same⟩
      split
      · exact List.mem_cons_of_mem _ listed
      · exact listed

theorem matchedFrom_total {policy : ValidatedPolicy} {rules : List CapabilityRule}
    (schemas : ∀ rule ∈ rules, ∀ conditions ∈ rule.conditions, platform.schemaError conditions = none) (start : Nat) :
    ∃ matched, matchedFrom platform capability input policy start rules = .ok matched := by
  induction rules generalizing start with
  | nil => exact ⟨[], rfl⟩
  | cons rule rest ih =>
    obtain ⟨later, others⟩ := ih (fun other member => schemas other (List.mem_cons_of_mem _ member)) (start + 1)
    have checked : ∃ applies, ruleApplies platform capability input policy.name start rule = .ok applies := by
      unfold ruleApplies
      split
      · exact ⟨false, rfl⟩
      · split
        · exact ⟨true, rfl⟩
        · rename_i conditions conditional
          simp only [conditionsMatch, schemas rule List.mem_cons_self conditions conditional]
          exact ⟨_, rfl⟩
    obtain ⟨applies, checked⟩ := checked
    simp only [matchedFrom, checked, others, ok_bind]
    exact ⟨_, rfl⟩

end Matching

section Composition

variable {bindings : List ApplicablePolicy} {policies : List ValidatedPolicy} {capability : String} {input : Json}

theorem mem_sortedPolicies (sorted : sortedPolicies platform bindings = .ok policies) (policy : ValidatedPolicy) :
    policy ∈ policies ↔ ∃ binding ∈ bindings, validatedPolicy platform binding = .ok policy := by
  simp only [sortedPolicies, bind_eq_ok, pure_eq_ok] at sorted
  obtain ⟨validated, mapped, rfl⟩ := sorted
  rw [List.mem_insertionSort]
  exact mem_mapM_iff mapped

theorem mem_matchedRules {matched : List MatchedRule}
    (found : matchedRules platform capability input policies = .ok matched) {rule : MatchedRule}
    (member : rule ∈ matched) : ∃ policy ∈ policies, FromPolicy platform capability input 0 policy policy.rules rule := by
  simp only [matchedRules, bind_eq_ok, pure_eq_ok] at found
  obtain ⟨lists, mapped, rfl⟩ := found
  obtain ⟨list, listed, inList⟩ := List.mem_flatten.mp member
  obtain ⟨policy, isPolicy, computed⟩ := mem_of_mapM mapped listed
  exact ⟨policy, isPolicy, matchedFrom_sound computed rule inList⟩

theorem matchedRules_complete {matched : List MatchedRule}
    (found : matchedRules platform capability input policies = .ok matched) {policy : ValidatedPolicy}
    (isPolicy : policy ∈ policies) {rule : CapabilityRule} (member : rule ∈ policy.rules)
    (applicable : Applies platform capability input rule) : ∃ other ∈ matched, other.decision = rule.decision := by
  simp only [matchedRules, bind_eq_ok, pure_eq_ok] at found
  obtain ⟨lists, mapped, rfl⟩ := found
  obtain ⟨list, listed, computed⟩ := exists_right_of_mem (forall₂_of_mapM mapped) isPolicy
  obtain ⟨other, inList, same⟩ := matchedFrom_complete computed member applicable
  exact ⟨other, List.mem_flatten.mpr ⟨list, listed, inList⟩, same⟩

theorem matches_iff (sorted : sortedPolicies platform bindings = .ok policies) {matched : List MatchedRule}
    (found : matchedRules platform capability input policies = .ok matched) (decision : PolicyDecision) :
    Matches platform bindings capability input decision ↔ ∃ rule ∈ matched, rule.decision = decision := by
  constructor
  · rintro ⟨binding, isBinding, rule, declared, matching⟩
    have total : ∃ policy, validatedPolicy platform binding = .ok policy := by
      simp only [sortedPolicies, bind_eq_ok, pure_eq_ok] at sorted
      obtain ⟨validated, mapped, -⟩ := sorted
      obtain ⟨policy, -, valid⟩ := exists_right_of_mem (forall₂_of_mapM mapped) isBinding
      exact ⟨policy, valid⟩
    obtain ⟨policy, valid⟩ := total
    have isPolicy := (mem_sortedPolicies sorted policy).mpr ⟨binding, isBinding, valid⟩
    obtain ⟨checked, member, read⟩ := exists_right_of_mem (validatedRules_ok (validatedPolicy_ok valid).rules) declared
    obtain ⟨same, applicable⟩ := (read.matches_iff capability input decision).mp matching
    obtain ⟨other, inMatched, decided⟩ := matchedRules_complete found isPolicy member applicable
    exact ⟨other, inMatched, decided.trans same⟩
  · rintro ⟨rule, member, same⟩
    obtain ⟨policy, isPolicy, -, -, checked, position, decided, applicable⟩ := mem_matchedRules found member
    obtain ⟨binding, isBinding, valid⟩ := (mem_sortedPolicies sorted policy).mp isPolicy
    obtain ⟨declared, inRules, read⟩ := exists_left_of_mem (validatedRules_ok (validatedPolicy_ok valid).rules)
      (List.mem_of_getElem? position)
    exact ⟨binding, isBinding, declared, inRules,
      (read.matches_iff capability input decision).mpr ⟨decided.symm.trans same, applicable⟩⟩

theorem verdict_decision {matched : List MatchedRule} {decided : Verdict}
    (reached : verdict capability policies matched = .ok decided) :
    decided.winning = winningRule matched ∧
      decided.decision = ((winningRule matched).map MatchedRule.decision).getD .deny := by
  unfold verdict at reached
  split at reached
  · rename_i winning wins
    simp only [bind_eq_ok, pure_eq_ok] at reached
    obtain ⟨reason, -, rfl⟩ := reached
    simp [wins]
  · rename_i wins
    cases reached
    simp [wins]

theorem decide_mostRestrictive {request : Request} {decided : Decided} (reached : decide platform request = .ok decided) :
    MostRestrictive platform request.applicablePolicies decided.prepared.capability (policyInput decided.prepared)
      decided.verdict.decision := by
  simp only [decide, bind_eq_ok, pure_eq_ok] at reached
  obtain ⟨prepared, -, policies, sorted, matched, found, verdict, judged, rfl⟩ := reached
  have rules := matches_iff sorted found
  obtain ⟨-, decision⟩ := verdict_decision judged
  dsimp only
  rw [decision]
  cases wins : winningRule matched with
  | none =>
    have empty : matched = [] := List.argmax_eq_none.mp wins
    have never (other : PolicyDecision) :
        ¬Matches platform request.applicablePolicies prepared.capability (policyInput prepared) other := by
      rw [rules, empty]
      simp
    refine ⟨fun some => ?_, fun other matching => absurd matching (never other), fun _ => rfl⟩
    obtain ⟨other, matching⟩ := some
    exact absurd matching (never other)
  | some winning =>
    have member : winning ∈ matched := List.argmax_mem wins
    have winner := (rules winning.decision).mpr ⟨winning, member, rfl⟩
    refine ⟨fun _ => winner, ?_, fun none => absurd winner (none _)⟩
    intro other matching
    obtain ⟨rule, listed, rfl⟩ := (rules other).mp matching
    exact List.le_of_mem_argmax (f := fun rule : MatchedRule => rule.decision.priority) listed wins

theorem MostRestrictive.priority_le {longer : List ApplicablePolicy} {decision later : PolicyDecision}
    (first : MostRestrictive platform bindings capability input decision)
    (second : MostRestrictive platform longer capability input later) (subset : ∀ binding ∈ bindings, binding ∈ longer)
    (some : ∃ other, Matches platform bindings capability input other) : decision.priority ≤ later.priority := by
  obtain ⟨binding, member, matching⟩ := first.matched some
  exact second.highest decision ⟨binding, subset binding member, matching⟩

end Composition

section Permutations

variable {bindings : List ApplicablePolicy} {policies : List ValidatedPolicy} {capability : String} {input : Json}

theorem before_total (first second : ValidatedPolicy) : first.before second ∨ second.before first := by
  unfold ValidatedPolicy.before
  rcases Nat.lt_trichotomy first.scope.order second.scope.order with lower | same | higher
  · exact .inl (.inl lower)
  · by_cases less : first.name < second.name
    · exact .inl (.inr ⟨same, .inl less⟩)
    by_cases more : second.name < first.name
    · exact .inr (.inr ⟨same.symm, .inl more⟩)
    have equal := String.le_antisymm (String.not_lt.mp more) (String.not_lt.mp less)
    rcases String.le_total first.version second.version with older | newer
    · exact .inl (.inr ⟨same, .inr ⟨equal, older⟩⟩)
    · exact .inr (.inr ⟨same.symm, .inr ⟨equal.symm, newer⟩⟩)
  · exact .inr (.inl higher)

theorem before_trans {first second third : ValidatedPolicy} (one : first.before second) (two : second.before third) :
    first.before third := by
  unfold ValidatedPolicy.before at *
  rcases one with lower | ⟨same, names⟩
  · rcases two with lower' | ⟨same', -⟩ <;> exact .inl (by omega)
  · rcases two with lower' | ⟨same', names'⟩
    · exact .inl (by omega)
    · refine .inr ⟨same.trans same', ?_⟩
      rcases names with less | ⟨equal, older⟩ <;> rcases names' with less' | ⟨equal', older'⟩
      · exact .inl (String.lt_trans less less')
      · exact .inl (equal' ▸ less)
      · exact .inl (equal ▸ less')
      · exact .inr ⟨equal.trans equal', String.le_trans older older'⟩

theorem before_antisymm {first second : ValidatedPolicy} (one : first.before second) (two : second.before first) :
    first.scope = second.scope ∧ first.name = second.name ∧ first.version = second.version := by
  have orders : first.scope.order = second.scope.order := by
    rcases one with lower | ⟨same, -⟩ <;> rcases two with lower' | ⟨same', -⟩ <;> omega
  have scopes : first.scope = second.scope := by
    revert orders
    cases first.scope <;> cases second.scope <;> decide
  unfold ValidatedPolicy.before at one two
  simp only [orders, Nat.lt_irrefl, false_or, true_and] at one two
  rcases one with less | ⟨equal, older⟩ <;> rcases two with less' | ⟨equal', older'⟩
  · exact absurd less' (String.lt_asymm less)
  · exact absurd (equal' ▸ less) (String.lt_irrefl _)
  · exact absurd (equal ▸ less') (String.lt_irrefl _)
  · exact ⟨scopes, equal, String.le_antisymm older older'⟩

theorem sortedPolicies_perm {permuted : List ApplicablePolicy} (same : bindings.Perm permuted)
    (one : OneResource bindings) (sorted : sortedPolicies platform bindings = .ok policies) :
    sortedPolicies platform permuted = .ok policies := by
  have members := mem_sortedPolicies sorted
  simp only [sortedPolicies, bind_eq_ok, pure_eq_ok] at sorted ⊢
  obtain ⟨validated, mapped, rfl⟩ := sorted
  obtain ⟨others, found, perm⟩ := mapM_perm same mapped
  refine ⟨others, found, ?_⟩
  have total : Std.Total ValidatedPolicy.before := ⟨before_total⟩
  have transitive : IsTrans ValidatedPolicy ValidatedPolicy.before := ⟨fun _ _ _ => before_trans⟩
  have sortedPerm := (List.perm_insertionSort ValidatedPolicy.before others).trans
    (perm.symm.trans (List.perm_insertionSort ValidatedPolicy.before validated).symm)
  apply List.Perm.eq_of_pairwise _ (List.pairwise_insertionSort _ _) (List.pairwise_insertionSort _ _) sortedPerm
  intro first second firstMember secondMember before after
  obtain ⟨firstBinding, firstListed, firstValid⟩ := (members first).mp (sortedPerm.mem_iff.mp firstMember)
  obtain ⟨secondBinding, secondListed, secondValid⟩ := (members second).mp secondMember
  obtain ⟨scope, name, version⟩ := before_antisymm before after
  have firstRead := validatedPolicy_ok firstValid
  have secondRead := validatedPolicy_ok secondValid
  have resource := one firstBinding firstListed secondBinding secondListed (firstRead.ref_eq secondRead name version)
  exact firstRead.eq secondRead resource scope name version

theorem decide_perm {request : Request} {permuted : List ApplicablePolicy}
    (same : request.applicablePolicies.Perm permuted) (one : OneResource request.applicablePolicies)
    (valid : ∀ binding ∈ request.applicablePolicies, Valid platform binding) :
    decide platform { request with applicablePolicies := permuted } = decide platform request := by
  have total : ∃ validated, request.applicablePolicies.mapM (validatedPolicy platform) = .ok validated := by
    apply mapM_total
    intro binding member
    obtain ⟨policy, read, -⟩ := valid binding member
    exact ⟨policy, read⟩
  obtain ⟨validated, mapped⟩ := total
  have sorted : sortedPolicies platform request.applicablePolicies =
      .ok (validated.insertionSort ValidatedPolicy.before) := by
    simp only [sortedPolicies, mapped, ok_bind]
    rfl
  have prepared : prepare platform { request with applicablePolicies := permuted } = prepare platform request := rfl
  simp only [decide, prepared, sorted, sortedPolicies_perm same one sorted]

end Permutations

section Totality

variable {bindings : List ApplicablePolicy} {policies : List ValidatedPolicy} {capability : String} {input : Json}

theorem ref_injective {first second : ValidatedPolicy} (same : first.ref = second.ref) :
    first.name = second.name ∧ first.version = second.version := by
  simpa [ValidatedPolicy.ref] using same

theorem winningReason_total (one : OneResource bindings) (sorted : sortedPolicies platform bindings = .ok policies)
    {matched : List MatchedRule} (found : matchedRules platform capability input policies = .ok matched)
    {winning : MatchedRule} (member : winning ∈ matched) :
    ∃ rule, winning.policy.rules[winning.ruleIndex]? = some rule ∧
      winningReason capability policies winning =
        .ok (rule.reason.getD (defaultReason capability winning.decision winning)) := by
  obtain ⟨policy, isPolicy, rfl, -, rule, position, -, -⟩ := mem_matchedRules found member
  rw [Nat.sub_zero] at position
  refine ⟨rule, position, ?_⟩
  have located : ∃ item, policies.find? (fun item => item.ref = winning.policy.ref) = some item := by
    rw [← Option.isSome_iff_exists, List.find?_isSome]
    exact ⟨winning.policy, isPolicy, by simp⟩
  obtain ⟨item, first⟩ := located
  have sameRef : item.ref = winning.policy.ref := by simpa using List.find?_some first
  obtain ⟨name, version⟩ := ref_injective sameRef
  obtain ⟨itemBinding, itemListed, itemValid⟩ := (mem_sortedPolicies sorted item).mp (List.mem_of_find?_eq_some first)
  obtain ⟨binding, listed, valid⟩ := (mem_sortedPolicies sorted winning.policy).mp isPolicy
  have itemRead := validatedPolicy_ok itemValid
  have read := validatedPolicy_ok valid
  have resource := one itemBinding itemListed binding listed (itemRead.ref_eq read name version)
  simp only [winningReason, first, Option.bind_some, itemRead.rules_eq read resource, position]

theorem decide_total {request : Request} {prepared : Prepared} (ready : prepare platform request = .ok prepared)
    (valid : ∀ binding ∈ request.applicablePolicies, Valid platform binding)
    (one : OneResource request.applicablePolicies) :
    ∃ decided, decide platform request = .ok decided ∧ decided.prepared = prepared := by
  have total : ∃ validated, request.applicablePolicies.mapM (validatedPolicy platform) = .ok validated := by
    apply mapM_total
    intro binding member
    obtain ⟨policy, read, -⟩ := valid binding member
    exact ⟨policy, read⟩
  obtain ⟨validated, mapped⟩ := total
  obtain ⟨policies, sorted⟩ : ∃ policies, sortedPolicies platform request.applicablePolicies = .ok policies := by
    simp only [sortedPolicies, mapped, ok_bind]
    exact ⟨_, rfl⟩
  have lists : ∃ lists, policies.mapM (fun policy =>
      matchedFrom platform prepared.capability (policyInput prepared) policy 0 policy.rules) = .ok lists := by
    apply mapM_total
    intro policy member
    obtain ⟨binding, listed, read⟩ := (mem_sortedPolicies sorted policy).mp member
    obtain ⟨other, readAgain, schemas⟩ := valid binding listed
    obtain rfl := Except.ok.inj (read.symm.trans readAgain)
    exact matchedFrom_total schemas 0
  obtain ⟨lists, listed⟩ := lists
  have found : matchedRules platform prepared.capability (policyInput prepared) policies = .ok lists.flatten := by
    simp only [matchedRules, listed, ok_bind]
    rfl
  have judged : ∃ verdict_, verdict prepared.capability policies lists.flatten = .ok verdict_ := by
    unfold verdict
    cases wins : winningRule lists.flatten with
    | none => exact ⟨_, rfl⟩
    | some winning =>
      obtain ⟨rule, -, reason⟩ := winningReason_total one sorted found (List.argmax_mem wins)
      simp only [reason, ok_bind]
      exact ⟨_, rfl⟩
  obtain ⟨verdict_, judged⟩ := judged
  simp only [decide, ready, sorted, found, judged, ok_bind]
  exact ⟨_, rfl, rfl⟩

end Totality

section Evaluation

variable {request : Request} {decided : Decided}

theorem evaluate_eq (reached : decide platform request = .ok decided) (store : Store) :
    evaluate platform request store =
      createDecision decided.prepared.decisionId (decisionKey platform decided.prepared decided.policies)
        (decisionRecord decided.prepared decided.policies decided.matched decided.verdict) store := by
  have ran : (liftExcept (decide platform request) : StoreM Decided) store = (.ok decided, store) := by
    rw [reached]
    rfl
  exact apply_bind_ok ran

theorem decide_prepared (reached : decide platform request = .ok decided) :
    prepare platform request = .ok decided.prepared := by
  simp only [decide, bind_eq_ok, pure_eq_ok] at reached
  obtain ⟨prepared, ready, _, -, _, -, _, -, rfl⟩ := reached
  exact ready

/-- An evaluation persists the most restrictive of the effects that match, whatever the order of the policies, and
    another policy never loosens it. -/
theorem evaluate_composes (platform : Platform) (request : Request) (prepared : Prepared)
    (ready : prepare platform request = .ok prepared)
    (valid : ∀ binding ∈ request.applicablePolicies, Valid platform binding)
    (one : OneResource request.applicablePolicies) :
    ∃ decided : Decided, decided.prepared = prepared ∧
      (∀ store, evaluate platform request store = createDecision prepared.decisionId
        (decisionKey platform prepared decided.policies)
        (decisionRecord prepared decided.policies decided.matched decided.verdict) store) ∧
      MostRestrictive platform request.applicablePolicies prepared.capability (policyInput prepared)
        decided.verdict.decision ∧
      (∀ permuted, request.applicablePolicies.Perm permuted →
        evaluate platform { request with applicablePolicies := permuted } = evaluate platform request) ∧
      ((∃ other, Matches platform request.applicablePolicies prepared.capability (policyInput prepared) other) →
        ∀ policy later, decide platform { request with applicablePolicies := request.applicablePolicies ++ [policy] } =
          .ok later → decided.verdict.decision.priority ≤ later.verdict.decision.priority) := by
  obtain ⟨decided, reached, rfl⟩ := decide_total ready valid one
  have restrictive := decide_mostRestrictive reached
  refine ⟨decided, rfl, evaluate_eq reached, restrictive, ?_, ?_⟩
  · intro permuted same
    rw [evaluate, decide_perm same one valid]
    rfl
  · intro matching policy later reachedLater
    have laterReady := decide_prepared reachedLater
    have preparedSame : later.prepared = decided.prepared := Except.ok.inj (laterReady.symm.trans ready)
    have laterRestrictive := decide_mostRestrictive reachedLater
    rw [preparedSame] at laterRestrictive
    exact restrictive.priority_le laterRestrictive (fun binding member => List.mem_append_left _ member) matching

end Evaluation

namespace Sample

open PublicationPolicy (PolicyScope)

def samplePlatform : Platform where
  uuid5 := id
  sha256 := id
  strip := id
  isRfc3339Timestamp _ := true
  instant _ := none
  violation _ _ := none
  recursionLimit := 1000
  isSemver _ := true
  schemaError _ := none
  isValid _ _ := true
  digest _ := "digest"

def rule (effect : String) : Json := .obj [("effect", .str effect), ("capabilities", .arr [.str "git.push"])]

def policy (scope : PolicyScope) (effects : List String) : ApplicablePolicy where
  scope := scope
  resource := [("apiVersion", .str "aep.dev/v1alpha1"), ("kind", .str "Policy"),
    ("metadata", .obj [("name", .str "agent-safety"), ("version", .str "v1.0.0")]),
    ("spec", .obj [("type", .str "pre-execution-capability"), ("rules", .arr (effects.map rule))])]

def request (policies : List ApplicablePolicy) : Request where
  decisionId := .str "policydecision-aaaaaaaaaaaa"
  taskExecutionId := .str "taskexecution-aaaaaaaaaaaa"
  capability := .str "git.push"
  actor := .str "Agent:coder"
  resourceScope := .obj [("repository", .str "acme/widgets")]
  executionContext := .obj []
  applicablePolicies := policies
  correlation := .context ⟨"trace-capability-1", "workflowexecution-aaaaaaaaaaaa", some "taskexecution-aaaaaaaaaaaa"⟩
  timestamp := .str "2026-08-06T12:00:00Z"

example : ((decide samplePlatform (request [policy .task ["allow"], policy .workspace ["allow"]])).map fun decided =>
    (decided.verdict.decision, decided.matched.map fun rule => rule.policy.scope.value)).toOption =
      some (.allow, ["Workspace", "Task"]) := by
  decide +kernel

theorem policy_valid (scope : PolicyScope) (effects : List String) {checked : List CapabilityRule}
    (rules : validatedRules 0 (declaredRules (policy scope effects).resource) = .ok checked)
    (some : effects ≠ []) : Valid samplePlatform (policy scope effects) := by
  have declared : declaredRules (policy scope effects).resource ≠ [] := by
    intro empty
    exact some (List.map_eq_nil_iff.mp empty)
  refine ⟨⟨policy scope effects, "agent-safety", "v1.0.0", checked⟩, ?_, fun _ _ _ _ => rfl⟩
  unfold validatedPolicy
  simp only [declared, raiseIf_neg not_false, rules, ok_bind]
  rfl

theorem evaluate_composes_scopes : ∃ decided : Decided,
    MostRestrictive samplePlatform [policy .task ["allow", "deny"], policy .workspace ["allow", "deny"]] "git.push"
      (policyInput decided.prepared) decided.verdict.decision := by
  have valid (scope : PolicyScope) : Valid samplePlatform (policy scope ["allow", "deny"]) :=
    policy_valid scope ["allow", "deny"] rfl (by simp)
  obtain ⟨prepared, ready, capability⟩ : ∃ prepared,
      prepare samplePlatform (request [policy .task ["allow", "deny"], policy .workspace ["allow", "deny"]]) = .ok prepared ∧
        prepared.capability = "git.push" := ⟨_, rfl, rfl⟩
  obtain ⟨decided, rfl, -, restrictive, -⟩ := evaluate_composes samplePlatform
    (request [policy .task ["allow", "deny"], policy .workspace ["allow", "deny"]]) prepared ready
    (by
      intro binding member
      simp only [request, List.mem_cons, List.not_mem_nil, or_false] at member
      rcases member with rfl | rfl <;> exact valid _)
    (by
      intro first firstMember second secondMember _
      simp only [request, List.mem_cons, List.not_mem_nil, or_false] at firstMember secondMember
      rcases firstMember with rfl | rfl <;> rcases secondMember with rfl | rfl <;> rfl)
  rw [capability] at restrictive
  exact ⟨decided, restrictive⟩

/-- Two resources of one version at one scope decide by another rule when they change places, and at two scopes the
    rule that wins is not found again. -/
theorem two_resources_of_one_version :
    ((∀ effects ∈ [["deny"], ["allow", "deny"], ["allow"]], ∀ scope, Valid samplePlatform (policy scope effects)) ∧
      (decide samplePlatform (request [policy .task ["deny"], policy .task ["allow", "deny"]])).map
          (fun decided => decided.verdict.winning.map MatchedRule.ruleIndex) = .ok (some 0) ∧
      (decide samplePlatform (request [policy .task ["allow", "deny"], policy .task ["deny"]])).map
          (fun decided => decided.verdict.winning.map MatchedRule.ruleIndex) = .ok (some 1)) ∧
      (decide samplePlatform (request [policy .workspace ["allow"], policy .task ["allow", "deny"]])).map
          (fun decided => decided.verdict.decision) =
        .error { errorClass := .indexError, message := "list index out of range" } := by
  refine ⟨⟨?_, by decide +kernel, by decide +kernel⟩, by decide +kernel⟩
  intro effects member scope
  simp only [List.mem_cons, List.not_mem_nil, or_false] at member
  rcases member with rfl | rfl | rfl
  · exact policy_valid scope _ rfl (by simp)
  · exact policy_valid scope _ rfl (by simp)
  · exact policy_valid scope _ rfl (by simp)

end Sample

end Aep.CapabilityPolicy
