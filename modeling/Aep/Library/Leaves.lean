import Aep.Library.Pattern

/-! What a pattern can leave of a text. -/
namespace Pattern

def Leaves (pattern : Pattern) (text rest : Text) : Prop := ∃ groups, ⟨groups, rest⟩ ∈ pattern.ways text

variable {text rest : Text}

theorem accepted_iff {pattern : Pattern} : pattern.accepted text = true ↔ ∃ rest, pattern.Leaves text rest := by
  unfold accepted matchStart Leaves
  cases ways pattern text with
  | nil => simp
  | cons first others => simpa using ⟨first.rest, first.groups, .inl rfl⟩

theorem leaves_of_matchStart {pattern : Pattern} {found : Match} (first : pattern.matchStart text = some found) :
    pattern.Leaves text found.rest := ⟨found.groups, List.mem_of_mem_head? first⟩

@[simp] theorem leaves_nothing : nothing.Leaves text rest ↔ rest = text := by
  simp [Leaves, ways]

@[simp] theorem leaves_one {accepts : Char → Bool} :
    (one accepts).Leaves text rest ↔ ∃ char, accepts char = true ∧ text = char :: rest := by
  cases text with
  | nil => simp [Leaves, ways]
  | cons char later =>
    unfold Leaves ways
    by_cases holds : accepts char = true
    · simp only [holds, if_pos, List.mem_singleton, Match.mk.injEq, List.cons.injEq]
      constructor
      · rintro ⟨_, _, rfl⟩
        exact ⟨char, holds, rfl, rfl⟩
      · rintro ⟨_, _, rfl, rfl⟩
        exact ⟨[], rfl, rfl⟩
    · simp only [holds, List.cons.injEq]
      constructor
      · rintro ⟨_, member⟩
        cases member
      · rintro ⟨_, accepted, rfl, _⟩
        exact absurd accepted holds

@[simp] theorem leaves_seq {first second : Pattern} :
    (seq first second).Leaves text rest ↔ ∃ middle, first.Leaves text middle ∧ second.Leaves middle rest := by
  unfold Leaves
  rw [ways]
  constructor
  · rintro ⟨groups, member⟩
    obtain ⟨found, inFirst, member⟩ := List.mem_flatMap.mp member
    obtain ⟨later, inSecond, same⟩ := List.mem_map.mp member
    obtain ⟨firstGroups, middle⟩ := found
    obtain ⟨laterGroups, laterRest⟩ := later
    cases same
    exact ⟨middle, ⟨firstGroups, inFirst⟩, laterGroups, inSecond⟩
  · rintro ⟨middle, ⟨firstGroups, inFirst⟩, laterGroups, inSecond⟩
    exact ⟨firstGroups ++ laterGroups, List.mem_flatMap.mpr ⟨_, inFirst, List.mem_map.mpr ⟨_, inSecond, rfl⟩⟩⟩

@[simp] theorem leaves_alt {first second : Pattern} :
    (alt first second).Leaves text rest ↔ first.Leaves text rest ∨ second.Leaves text rest := by
  unfold Leaves
  simp only [ways, List.mem_append, exists_or]

@[simp] theorem leaves_atEnd : atEnd.Leaves text rest ↔ text = [] ∧ rest = [] := by
  unfold Leaves ways
  cases text with
  | nil => simp
  | cons char later => simp

@[simp] theorem leaves_char {expected : Char} : (char expected).Leaves text rest ↔ text = expected :: rest := by
  simp [char]

@[simp] theorem leaves_optional {body : Pattern} :
    (optional body).Leaves text rest ↔ body.Leaves text rest ∨ rest = text := by
  simp [optional]

theorem leaves_literal {literal : String} :
    (Pattern.literal literal).Leaves text rest ↔ text = literal.toList ++ rest := by
  unfold Pattern.literal
  generalize literal.toList = letters
  induction letters generalizing text with
  | nil => simpa [sequence] using eq_comm
  | cons letter others ih =>
    simp only [List.map_cons, sequence, List.foldr_cons, leaves_seq, leaves_char]
    constructor
    · rintro ⟨middle, rfl, later⟩
      rw [ih.mp later]
      rfl
    · rintro rfl
      exact ⟨others ++ rest, rfl, ih.mpr rfl⟩

theorem leaves_upTo {count : Nat} {expected : Char} :
    (upTo count (char expected)).Leaves text rest ↔ ∃ taken ≤ count, text = List.replicate taken expected ++ rest := by
  induction count generalizing text with
  | zero =>
    constructor
    · intro left
      exact ⟨0, Nat.le_refl _, (leaves_nothing.mp left).symm⟩
    · rintro ⟨taken, none, rfl⟩
      cases Nat.le_zero.mp none
      exact leaves_nothing.mpr rfl
  | succ count ih =>
    simp only [upTo, leaves_optional, leaves_seq, leaves_char]
    constructor
    · rintro (⟨middle, rfl, later⟩ | rfl)
      · obtain ⟨taken, few, rfl⟩ := ih.mp later
        exact ⟨taken + 1, Nat.succ_le_succ few, rfl⟩
      · exact ⟨0, Nat.zero_le _, rfl⟩
    · rintro ⟨taken, few, rfl⟩
      cases taken with
      | zero => exact .inr rfl
      | succ taken => exact .inl ⟨_, rfl, ih.mpr ⟨taken, Nat.le_of_succ_le_succ few, rfl⟩⟩

theorem leaves_repetitions {greedy : Bool} {accepts : Char → Bool} {fuel : Nat} (enough : text.length ≤ fuel) :
    (∃ groups, ⟨groups, rest⟩ ∈ repetitions greedy (ways (one accepts)) fuel text) ↔
      ∃ taken, (∀ char ∈ taken, accepts char = true) ∧ text = taken ++ rest := by
  induction fuel generalizing text with
  | zero =>
    have none : text = [] := List.eq_nil_of_length_eq_zero (Nat.le_zero.mp enough)
    subst none
    simp only [repetitions, List.mem_singleton, Match.mk.injEq]
    constructor
    · rintro ⟨_, _, rfl⟩
      exact ⟨[], by simp, rfl⟩
    · rintro ⟨taken, _, empty⟩
      exact ⟨[], rfl, (List.append_eq_nil_iff.mp empty.symm).2⟩
  | succ fuel ih =>
    have either (found : Match) : found ∈ repetitions greedy (ways (one accepts)) (fuel + 1) text ↔
        found ∈ ((ways (one accepts) text).filter fun found => found.rest.length < text.length).flatMap
          (followedBy (repetitions greedy (ways (one accepts)) fuel)) ∨ found = ⟨[], text⟩ := by
      unfold repetitions
      cases greedy <;> simp [or_comm]
    simp only [either, exists_or]
    cases text with
    | nil =>
      simp only [ways, List.filter_nil, List.flatMap_nil, List.not_mem_nil, exists_false, false_or, Match.mk.injEq]
      constructor
      · rintro ⟨_, _, rfl⟩
        exact ⟨[], by simp, rfl⟩
      · rintro ⟨taken, _, empty⟩
        exact ⟨[], rfl, (List.append_eq_nil_iff.mp empty.symm).2⟩
    | cons char later =>
      have shorter : later.length ≤ fuel := Nat.le_of_succ_le_succ enough
      constructor
      · rintro (⟨groups, member⟩ | ⟨groups, same⟩)
        · obtain ⟨first, kept, member⟩ := List.mem_flatMap.mp member
          have one : first ∈ (one accepts).ways (char :: later) := (List.mem_filter.mp kept).1
          obtain ⟨letter, accepted, split⟩ := leaves_one.mp ⟨first.groups, one⟩
          obtain ⟨next, inNext, same⟩ := List.mem_map.mp member
          cases split
          have restEq : next.rest = rest := congrArg Match.rest same
          obtain ⟨taken, all, whole⟩ := (ih shorter).mp ⟨next.groups, restEq ▸ inNext⟩
          exact ⟨char :: taken, List.forall_mem_cons.mpr ⟨accepted, all⟩, by rw [whole]; rfl⟩
        · cases same
          exact ⟨[], by simp, rfl⟩
      · rintro ⟨taken, all, whole⟩
        cases taken with
        | nil =>
          cases whole
          exact .inr ⟨[], rfl⟩
        | cons letter taken =>
          cases whole
          rw [List.forall_mem_cons] at all
          obtain ⟨groups, member⟩ := (ih shorter).mpr ⟨taken, all.2, rfl⟩
          obtain ⟨firstGroups, one⟩ := leaves_one.mpr ⟨char, all.1, rfl⟩
          refine .inl ⟨firstGroups ++ groups, List.mem_flatMap.mpr ⟨_, List.mem_filter.mpr ⟨one, by simp⟩, ?_⟩⟩
          exact List.mem_map.mpr ⟨_, member, rfl⟩

theorem leaves_many_one {accepts : Char → Bool} : (many (one accepts)).Leaves text rest ↔
    ∃ taken, (∀ char ∈ taken, accepts char = true) ∧ text = taken ++ rest := leaves_repetitions (Nat.le_refl _)

section Consumed

def Takes (allowed : Char → Prop) : Pattern → Prop
  | .nothing | .atEnd => True
  | .one accepts => ∀ char, accepts char = true → allowed char
  | .seq first second | .alt first second => first.Takes allowed ∧ second.Takes allowed
  | .many body | .few body | .group _ body => body.Takes allowed

variable {allowed : Char → Prop}

def Consumes (allowed : Char → Prop) (text rest : Text) : Prop := ∃ front, text = front ++ rest ∧ ∀ char ∈ front, allowed char

theorem Consumes.refl (text : Text) : Consumes allowed text text := ⟨[], rfl, by simp⟩

theorem Consumes.trans {middle : Text} (first : Consumes allowed text middle) (second : Consumes allowed middle rest) :
    Consumes allowed text rest := by
  obtain ⟨front, rfl, letters⟩ := first
  obtain ⟨more, rfl, others⟩ := second
  refine ⟨front ++ more, (List.append_assoc _ _ _).symm, fun char member => ?_⟩
  rcases List.mem_append.mp member with early | late
  · exact letters char early
  · exact others char late

theorem repetitions_consumes {greedy : Bool} {body : Text → List Match} (fuel : Nat)
    (round : ∀ text, ∀ found ∈ body text, Consumes allowed text found.rest) (text : Text) :
    ∀ found ∈ repetitions greedy body fuel text, Consumes allowed text found.rest := by
  induction fuel generalizing text with
  | zero =>
    intro found member
    rw [repetitions, List.mem_singleton] at member
    exact member ▸ .refl text
  | succ fuel ih =>
    intro found member
    have either : found ∈ ((body text).filter fun found => found.rest.length < text.length).flatMap
        (followedBy (repetitions greedy body fuel)) ∨ found = ⟨[], text⟩ := by
      unfold repetitions at member
      cases greedy
      · simpa [or_comm] using member
      · simpa using member
    rcases either with again | rfl
    · obtain ⟨first, inFirst, later⟩ := List.mem_flatMap.mp again
      obtain ⟨next, inNext, rfl⟩ := List.mem_map.mp later
      exact (round text first (List.mem_of_mem_filter inFirst)).trans (ih first.rest next inNext)
    · exact .refl text

theorem ways_consumes {pattern : Pattern} (takes : pattern.Takes allowed) (text : Text) :
    ∀ found ∈ pattern.ways text, Consumes allowed text found.rest := by
  induction pattern generalizing text with
  | nothing =>
    intro found member
    rw [ways, List.mem_singleton] at member
    exact member ▸ .refl text
  | one accepts =>
    intro found member
    obtain ⟨char, holds, rfl⟩ := leaves_one.mp ⟨found.groups, member⟩
    exact ⟨[char], rfl, by simpa using takes char holds⟩
  | seq first second firstHolds secondHolds =>
    intro found member
    rw [ways] at member
    obtain ⟨middle, inFirst, later⟩ := List.mem_flatMap.mp member
    obtain ⟨next, inNext, rfl⟩ := List.mem_map.mp later
    exact (firstHolds takes.1 text middle inFirst).trans (secondHolds takes.2 middle.rest next inNext)
  | alt first second firstHolds secondHolds =>
    intro found member
    rw [ways] at member
    rcases List.mem_append.mp member with inFirst | inSecond
    · exact firstHolds takes.1 text found inFirst
    · exact secondHolds takes.2 text found inSecond
  | many body bodyHolds => exact repetitions_consumes text.length (bodyHolds takes) text
  | few body bodyHolds => exact repetitions_consumes text.length (bodyHolds takes) text
  | group name body bodyHolds =>
    intro found member
    rw [ways] at member
    obtain ⟨inner, inBody, rfl⟩ := List.mem_map.mp member
    exact bodyHolds takes text inner inBody
  | atEnd =>
    intro found member
    obtain ⟨rfl, ends⟩ := leaves_atEnd.mp ⟨found.groups, member⟩
    rw [ends]
    exact .refl []

theorem Leaves.consumes {pattern : Pattern} (takes : pattern.Takes allowed) (left : pattern.Leaves text rest) :
    Consumes allowed text rest := by
  obtain ⟨groups, member⟩ := left
  exact ways_consumes takes text _ member

end Consumed

end Pattern
