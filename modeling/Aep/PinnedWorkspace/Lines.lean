import Aep.Library.Leaves
import Aep.PinnedWorkspace.StatusScan

namespace Aep.PinnedWorkspace

open LocalizedPatch PlanningEvidence Result

section Breaks

def Unbroken (text : Text) : Prop := ∀ char ∈ text, isBreak char = false

def afterBreak (delimiter : Char) (rest : Text) : Text := if delimiter = '\r' then withoutNewline rest else rest

variable {line rest : Text} {delimiter : Char}

theorem Unbroken.append {first second : Text} (left : Unbroken first) (right : Unbroken second) :
    Unbroken (first ++ second) := by
  intro char member
  rcases List.mem_append.mp member with inFirst | inSecond
  · exact left char inFirst
  · exact right char inSecond

theorem Unbroken.prefix {first second : Text} (unbroken : Unbroken second) (begins : first <+: second) : Unbroken first :=
  fun char member => unbroken char (begins.subset member)

theorem isBreak_iff {char : Char} : isBreak char = true ↔ char = '\r' ∨ char = '\n' := by
  simp [isBreak]

theorem lineText_append {terminator : Text} (unbroken : Unbroken line) (breaks : ∀ char ∈ terminator, isBreak char = true) :
    lineText (line ++ terminator) = line := by
  unfold lineText Text.rstrip
  have drops : (fun char : Char => (char = '\r' || char = '\n' : Bool)) = isBreak := rfl
  rw [drops, List.reverse_append, List.dropWhile_append_of_pos]
  · cases backwards : line.reverse with
    | nil =>
      cases List.reverse_eq_nil_iff.mp backwards
      rfl
    | cons last others =>
      have member : last ∈ line := by
        rw [← List.mem_reverse, backwards]
        exact List.mem_cons_self
      rw [List.dropWhile_cons_of_neg (by simp [unbroken last member]), ← backwards, List.reverse_reverse]
  · intro char member
    exact breaks char (List.mem_reverse.mp member)

theorem markdownLines_unbroken (unbroken : Unbroken line) (some : line ≠ []) : markdownLines line = [line] := by
  induction line with
  | nil => exact absurd rfl some
  | cons char others ih =>
    have first : isBreak char = false := unbroken char List.mem_cons_self
    have later : Unbroken others := fun other member => unbroken other (List.mem_cons_of_mem _ member)
    have notReturn : char ≠ '\r' := by
      rintro rfl
      cases first
    have plain : (char = '\n' || char = '\r') = false := by
      rw [← first, isBreak, Bool.or_comm]
    rw [markdownLines]
    · rw [plain]
      cases others with
      | nil => rfl
      | cons next more => rw [ih later (by simp)]; rfl
    · rintro more rfl
      exact absurd rfl notReturn

theorem markdownLines_broken (unbroken : Unbroken line) (breaks : isBreak delimiter = true) :
    ∃ terminator, (∀ char ∈ terminator, isBreak char = true) ∧ terminator ≠ [] ∧
      markdownLines (line ++ delimiter :: rest) = (line ++ terminator) :: markdownLines (afterBreak delimiter rest) := by
  induction line with
  | nil =>
    rcases isBreak_iff.mp breaks with rfl | rfl
    · cases rest with
      | nil => exact ⟨['\r'], by simp [isBreak], by simp, rfl⟩
      | cons next more =>
        by_cases newline : next = '\n'
        · subst newline
          exact ⟨['\r', '\n'], by simp [isBreak], by simp, rfl⟩
        · refine ⟨['\r'], by simp [isBreak], by simp, ?_⟩
          have single : markdownLines ('\r' :: next :: more) = ['\r'] :: markdownLines (next :: more) := by
            rw [markdownLines]
            · rfl
            · intro others _ same
              cases same
              exact newline rfl
          rw [List.nil_append, single]
          simp [afterBreak, withoutNewline, newline]
    · refine ⟨['\n'], by simp [isBreak], by simp, ?_⟩
      rw [List.nil_append, markdownLines]
      · rfl
      · rintro _ same
        cases same
  | cons char others ih =>
    have first : isBreak char = false := unbroken char List.mem_cons_self
    have notReturn : char ≠ '\r' := by
      rintro rfl
      cases first
    have plain : (char = '\n' || char = '\r') = false := by
      rw [← first, isBreak, Bool.or_comm]
    obtain ⟨terminator, all, some, split⟩ := ih fun other member => unbroken other (List.mem_cons_of_mem _ member)
    refine ⟨terminator, all, some, ?_⟩
    rw [List.cons_append, markdownLines]
    · rw [plain, split]
      rfl
    · rintro more same
      exact absurd same notReturn

theorem splitBreaks_unbroken (unbroken : Unbroken line) : splitBreaks line = [line] := by
  by_cases none : line = []
  · subst none
    rfl
  · have whole : lineText line = line := by
      have stripped := @lineText_append line [] unbroken (by simp)
      rwa [List.append_nil] at stripped
    unfold splitBreaks
    rw [markdownLines_unbroken unbroken none]
    simp [whole]

theorem splitBreaks_broken (unbroken : Unbroken line) (breaks : isBreak delimiter = true) :
    splitBreaks (line ++ delimiter :: rest) = line :: splitBreaks (afterBreak delimiter rest) := by
  obtain ⟨terminator, all, some, split⟩ := @markdownLines_broken _ rest _ unbroken breaks
  have text := lineText_append unbroken all
  unfold splitBreaks
  rw [split]
  cases later : markdownLines (afterBreak delimiter rest) with
  | nil => simp [text, some]
  | cons next others => simp [text]

end Breaks

section Classification

/-- What the scan makes of a line. -/
inductive LineOutcome where
  | blank
  | field (value : Text)
  | malformed
  | title
  | body
  deriving DecidableEq

def classify (titleSeen statusSeen : Bool) (line : Text) : LineOutcome :=
  if isMarkdownBlank line then .blank
  else
    match statusPattern.matchStart line with
    | some found => .field ((found.group "value").getD [])
    | none =>
      if (Pattern.literal "**Status:**").accepted line then .malformed
      else if !titleSeen && !statusSeen && isNonemptyDocumentTitle line then .title
      else .body

variable {titleSeen statusSeen : Bool} {line : Text}

theorem statusFieldsFrom_cons (lineNumber : Nat) (rest : List Text) :
    statusFieldsFrom titleSeen statusSeen lineNumber (line :: rest) =
      match classify titleSeen statusSeen line with
      | .blank => statusFieldsFrom titleSeen statusSeen (lineNumber + 1) rest
      | .field value => do
        let others ← statusFieldsFrom titleSeen true (lineNumber + 1) rest
        pure ((value, lineNumber) :: others)
      | .malformed => .error .statusFieldMalformed
      | .title => statusFieldsFrom true statusSeen (lineNumber + 1) rest
      | .body => pure [] := by
  rw [statusFieldsFrom]
  unfold classify
  by_cases blank : isMarkdownBlank line = true
  · simp only [blank, if_true]
  · simp only [blank]
    cases statusPattern.matchStart line with
    | some found => rfl
    | none =>
      by_cases marked : (Pattern.literal "**Status:**").accepted line = true
      · simp [marked]
      · by_cases title : (!titleSeen && !statusSeen && isNonemptyDocumentTitle line) = true
        · simp [marked, title]
        · simp [marked, title]

theorem removeCr_unbroken (unbroken : Unbroken line) : removeCr line = line := by
  unfold removeCr
  split
  · rename_i last
    exact absurd (unbroken _ (List.mem_of_getLast? last)) (by decide)
  · rfl

theorem consumeStatusLine_eq (request : Request) (state : ScanState) (unbroken : Unbroken line) :
    consumeStatusLine request state line =
      match classify state.titleSeen state.statusSeen line with
      | .blank => .ok { state with statusLine := state.statusLine + 1 }
      | .field value => .ok { state with
          statusFields := state.statusFields ++ [(value, state.statusLine)]
          statusSeen := true
          statusLine := state.statusLine + 1 }
      | .malformed => .error (malformedError request)
      | .title => .ok { state with titleSeen := true, statusLine := state.statusLine + 1 }
      | .body => .ok { state with statusActive := false, statusLine := state.statusLine + 1 } := by
  unfold consumeStatusLine classify
  simp only [removeCr_unbroken unbroken]
  by_cases blank : isMarkdownBlank line = true
  · simp only [blank, if_true]
  · simp only [blank]
    cases statusPattern.matchStart line with
    | some found => rfl
    | none =>
      by_cases marked : (Pattern.literal "**Status:**").accepted line = true
      · simp [marked]
      · by_cases title : (!state.titleSeen && !state.statusSeen && isNonemptyDocumentTitle line) = true
        · simp [marked, title]
        · simp [marked, title]

def CouldBe (titleSeen statusSeen : Bool) (text : Text) : Prop :=
  isMarkdownBlank text = true ∨ possibleMetadata titleSeen statusSeen text = true

instance (titleSeen statusSeen : Bool) (text : Text) : Decidable (CouldBe titleSeen statusSeen text) := by
  unfold CouldBe
  infer_instance

def TitleLike (text : Text) : Prop :=
  ∃ spaces ≤ 3, ∃ rest, text = List.replicate spaces ' ' ++ '#' :: rest ∧ ∀ char, rest.head? = some char → isBlank char = true

theorem titleStart_iff {text : Text} (unbroken : Unbroken text) : titleStartPattern.accepted text = true ↔ TitleLike text := by
  unfold titleStartPattern indented
  simp only [Pattern.accepted_iff, Pattern.sequence, List.foldr_cons, List.foldr_nil, Pattern.leaves_seq, Pattern.leaves_upTo,
    Pattern.leaves_literal, Pattern.leaves_optional, Pattern.anyOf, Pattern.noneOf, Pattern.leaves_one, Pattern.leaves_many_one,
    Pattern.leaves_atEnd, Pattern.leaves_nothing]
  constructor
  · rintro ⟨_, _, ⟨spaces, few, rfl⟩, rest, rfl, left, blank, _, ⟨rfl, rfl⟩, rfl⟩
    refine ⟨spaces, few, rest, rfl, fun char head => ?_⟩
    rcases blank with ⟨_, ⟨first, isBlank, rfl⟩, _⟩ | same
    · cases head
      simpa [isBlank, LocalizedPatch.isBlank] using isBlank
    · rw [← same] at head
      cases head
  · rintro ⟨spaces, few, rest, rfl, blank⟩
    refine ⟨[], _, ⟨spaces, few, rfl⟩, rest, rfl, [], ?_, [], ⟨rfl, rfl⟩, rfl⟩
    cases rest with
    | nil => exact .inr rfl
    | cons first others =>
      have head := blank first rfl
      refine .inl ⟨others, ⟨first, ?_, rfl⟩, others, ?_, by simp⟩
      · simpa [LocalizedPatch.isBlank] using head
      · intro char member
        have plain := unbroken char (List.mem_append_right _ (List.mem_cons_of_mem _ (List.mem_cons_of_mem _ member)))
        have other : char ≠ '\n' := by
          rintro rfl
          cases plain
        simpa using other

theorem titleLike_of_title {text : Text} (title : titlePattern.accepted text = true) : TitleLike text := by
  unfold titlePattern indented at title
  simp only [Pattern.accepted_iff, Pattern.sequence, List.foldr_cons, List.foldr_nil, Pattern.leaves_seq, Pattern.leaves_upTo,
    Pattern.leaves_literal, Pattern.oneOf, Pattern.leaves_alt, Pattern.repeated, Pattern.anyOf, Pattern.leaves_one,
    Pattern.leaves_many_one, Pattern.leaves_atEnd, Pattern.leaves_nothing] at title
  obtain ⟨_, _, ⟨spaces, few, rfl⟩, rest, rfl, _, next, _⟩ := title
  refine ⟨spaces, few, rest, rfl, fun char head => ?_⟩
  rcases next with ⟨_, ⟨first, isBlank, rfl⟩, _⟩ | ⟨rfl, _⟩
  · cases head
    simpa [LocalizedPatch.isBlank] using isBlank
  · cases head

theorem statusPrefix_of_status {found : Pattern.Match} (matched : statusPattern.matchStart line = some found) :
    statusPrefix <+: line := by
  have left := Pattern.leaves_of_matchStart matched
  unfold statusPattern at left
  rw [Pattern.sequence, List.foldr_cons, Pattern.leaves_seq] at left
  obtain ⟨middle, literal, _⟩ := left
  exact ⟨middle, (Pattern.leaves_literal.mp literal).symm⟩

theorem statusPrefix_of_literal (accepted : (Pattern.literal "**Status:**").accepted line = true) : statusPrefix <+: line := by
  obtain ⟨rest, left⟩ := Pattern.accepted_iff.mp accepted
  exact ⟨rest, (Pattern.leaves_literal.mp left).symm⟩

theorem possibleMetadata_iff {text : Text} (unbroken : Unbroken text) : possibleMetadata titleSeen statusSeen text = true ↔
    statusPrefix <+: text ∨ text <+: statusPrefix ∨ titleSeen = false ∧ statusSeen = false ∧ TitleLike text := by
  unfold possibleMetadata
  simp only [List.isPrefixOf_iff_prefix]
  by_cases starts : statusPrefix <+: text
  · simp [starts]
  · by_cases begins : text <+: statusPrefix
    · simp [starts, begins]
    · simp only [starts, begins, if_false, false_or]
      rw [← titleStart_iff unbroken]
      cases titleSeen <;> cases statusSeen <;> simp

theorem titleLike_prefix {first second : Text} (begins : first <+: second) (title : TitleLike second) :
    isMarkdownBlank first = true ∨ TitleLike first := by
  obtain ⟨spaces, few, rest, rfl, blank⟩ := title
  have spaced : List.replicate spaces ' ' <+: List.replicate spaces ' ' ++ '#' :: rest := List.prefix_append _ _
  rcases List.prefix_or_prefix_of_prefix spaced begins with longer | shorter
  · obtain ⟨later, rfl⟩ := longer
    rw [List.prefix_append_right_inj] at begins
    cases later with
    | nil =>
      left
      simp [isMarkdownBlank, LocalizedPatch.isBlank]
    | cons mark more =>
      obtain ⟨rfl, followed⟩ := List.cons_prefix_cons.mp begins
      refine .inr ⟨spaces, few, more, rfl, fun char head => blank char ?_⟩
      cases more with
      | nil => cases head
      | cons next others =>
        obtain ⟨tail, same⟩ := followed
        rw [← same]
        exact head
  · left
    rw [isMarkdownBlank, List.all_eq_true]
    intro char member
    rw [List.eq_of_mem_replicate (shorter.subset member)]
    rfl

theorem CouldBe.prefix {first second : Text} (could : CouldBe titleSeen statusSeen second) (unbroken : Unbroken second)
    (begins : first <+: second) : CouldBe titleSeen statusSeen first := by
  have plain := unbroken.prefix begins
  rcases could with blank | possible
  · left
    rw [isMarkdownBlank, List.all_eq_true] at blank ⊢
    exact fun char member => blank char (begins.subset member)
  · rw [possibleMetadata_iff unbroken] at possible
    rcases possible with starts | starts | ⟨noTitle, noStatus, title⟩
    · right
      rw [possibleMetadata_iff plain]
      rcases List.prefix_or_prefix_of_prefix starts begins with longer | shorter
      · exact .inl longer
      · exact .inr (.inl shorter)
    · right
      rw [possibleMetadata_iff plain]
      exact .inr (.inl (begins.trans starts))
    · rcases titleLike_prefix begins title with blank | title
      · exact .inl blank
      · right
        rw [possibleMetadata_iff plain]
        exact .inr (.inr ⟨noTitle, noStatus, title⟩)

theorem classify_body (unbroken : Unbroken line) (not : ¬CouldBe titleSeen statusSeen line) :
    classify titleSeen statusSeen line = .body := by
  unfold CouldBe at not
  rw [possibleMetadata_iff unbroken, not_or, not_or, not_or] at not
  obtain ⟨blank, starts, _, title⟩ := not
  unfold classify
  rw [if_neg blank]
  split
  · rename_i found matched
    exact absurd (statusPrefix_of_status matched) starts
  · rw [if_neg fun accepted => starts (statusPrefix_of_literal accepted), if_neg]
    intro documented
    simp only [Bool.and_eq_true, Bool.not_eq_true'] at documented
    have nonempty := documented.2
    rw [isNonemptyDocumentTitle, Bool.and_eq_true] at nonempty
    exact title ⟨documented.1.1, documented.1.2, titleLike_of_title nonempty.1⟩

end Classification

end Aep.PinnedWorkspace
