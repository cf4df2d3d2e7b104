import Aep.PinnedWorkspace.Lines

namespace Aep.PinnedWorkspace

open LocalizedPatch PlanningEvidence Result

section Reaches

def lineFlags (titleSeen statusSeen : Bool) (line : Text) : Option (Bool × Bool) :=
  match classify titleSeen statusSeen line with
  | .blank => some (titleSeen, statusSeen)
  | .field _ => some (titleSeen, true)
  | .title => some (true, statusSeen)
  | .malformed => none
  | .body => none

/-- The scan of the lines comes to one that is wanted. -/
inductive Reaches (wanted : Bool → Bool → Text → Prop) : (titleSeen statusSeen : Bool) → List Text → Prop where
  | here {titleSeen statusSeen : Bool} {line : Text} {rest : List Text} : wanted titleSeen statusSeen line →
      Reaches wanted titleSeen statusSeen (line :: rest)
  | later {titleSeen statusSeen : Bool} {line : Text} {rest : List Text} {flags : Bool × Bool} :
      lineFlags titleSeen statusSeen line = some flags → Reaches wanted flags.1 flags.2 rest →
      Reaches wanted titleSeen statusSeen (line :: rest)

variable {wanted : Bool → Bool → Text → Prop} {titleSeen statusSeen : Bool} {line : Text} {rest : List Text}

theorem reaches_cons : Reaches wanted titleSeen statusSeen (line :: rest) ↔
    wanted titleSeen statusSeen line ∨
      ∃ flags, lineFlags titleSeen statusSeen line = some flags ∧ Reaches wanted flags.1 flags.2 rest := by
  constructor
  · intro reaches
    cases reaches with
    | here holds => exact .inl holds
    | later goes reaches => exact .inr ⟨_, goes, reaches⟩
  · rintro (holds | ⟨flags, goes, reaches⟩)
    · exact .here holds
    · exact .later goes reaches

def Exceeding (limit : Nat) (titleSeen statusSeen : Bool) (line : Text) : Prop :=
  CouldBe titleSeen statusSeen line ∧ limit < line.utf8Length

/-- A line of which more bytes than are retained are those of a line that may be metadata. -/
def Overlong (limit : Nat) (titleSeen statusSeen : Bool) (line : Text) : Prop :=
  ∃ start, start <+: line ∧ Exceeding limit titleSeen statusSeen start

end Reaches

section States

def remainingText (state : ScanState) (rest : Text) : Text :=
  state.statusBuffer ++ if state.statusAfterCr then withoutNewline rest else rest

def expected (state : ScanState) (rest : Text) : Except InspectionReason (List (Text × Nat)) :=
  if state.statusActive then
    (state.statusFields ++ ·) <$>
      statusFieldsFrom state.titleSeen state.statusSeen state.statusLine (splitBreaks (remainingText state rest))
  else .ok state.statusFields

def Comes (wanted : Bool → Bool → Text → Prop) (state : ScanState) (rest : Text) : Prop :=
  state.statusActive = true ∧ Reaches wanted state.titleSeen state.statusSeen (splitBreaks (remainingText state rest))

structure Inv (limit : Nat) (state : ScanState) : Prop where
  unbroken : Unbroken state.statusBuffer
  couldBe : state.statusActive = true → CouldBe state.titleSeen state.statusSeen state.statusBuffer
  within : state.statusBuffer.utf8Length ≤ limit
  afterCr : state.statusAfterCr = true → state.statusBuffer = []

/-- Scanning the first text leads from one state to another where the second text follows. -/
structure Leads (limit : Nat) (state : ScanState) (first : Text) (after : ScanState) (second : Text) : Prop where
  expected : ∀ rest, expected state (first ++ (second ++ rest)) = expected after (second ++ rest)
  exceeds : ∀ rest, Comes (Exceeding limit) state (first ++ (second ++ rest)) ↔ Comes (Exceeding limit) after (second ++ rest)
  overlong : ∀ rest, Comes (Overlong limit) after (second ++ rest) → Comes (Overlong limit) state (first ++ (second ++ rest))

/-- What may come of scanning a text. -/
inductive Consumed (request : Request) (state : ScanState) (text : Text) : Except ReaderError ScanState → Prop where
  | goesOn {after : ScanState} : Inv request.statusScanBytes after →
      Leads request.statusScanBytes state text after [] → Consumed request state text (.ok after)
  | malformed : (∀ rest, expected state (text ++ rest) = .error .statusFieldMalformed) →
      (∀ rest, ¬Comes (Exceeding request.statusScanBytes) state (text ++ rest)) →
      Consumed request state text (.error (malformedError request))
  | limited : Comes (Exceeding request.statusScanBytes) state text →
      (∀ rest, Comes (Overlong request.statusScanBytes) state (text ++ rest)) →
      Consumed request state text (.error (scanLimitError request))

variable {request : Request} {state middle after : ScanState} {first second text : Text}

theorem Leads.consumed (leads : Leads request.statusScanBytes state first middle second)
    {result : Except ReaderError ScanState} (consumed : Consumed request middle second result) :
    Consumed request state (first ++ second) result := by
  cases consumed with
  | goesOn inv later =>
    refine .goesOn inv ⟨fun rest => ?_, fun rest => ?_, fun rest comes => ?_⟩
    · rw [List.append_assoc, leads.expected, ← later.expected]
    · rw [List.append_assoc, leads.exceeds, ← later.exceeds]
    · rw [List.append_assoc]
      exact leads.overlong _ (later.overlong rest comes)
  | malformed malformed within =>
    refine .malformed (fun rest => ?_) (fun rest => ?_)
    · rw [List.append_assoc, leads.expected, malformed]
    · rw [List.append_assoc, leads.exceeds]
      exact within rest
  | limited exceeds overlong =>
    refine .limited ?_ (fun rest => ?_)
    · have comes := (leads.exceeds []).mpr
      rw [List.append_nil] at comes
      exact comes exceeds
    · rw [List.append_assoc]
      exact leads.overlong _ (overlong rest)

theorem leads_inactive (inactive : state.statusActive = false) (after' : Text) :
    Leads request.statusScanBytes state text state after' := by
  refine ⟨fun rest => ?_, fun rest => ?_, fun rest comes => ?_⟩
  · simp [expected, inactive]
  · simp [Comes, inactive]
  · simp [Comes, inactive] at comes

theorem leads_nothing : Leads request.statusScanBytes state [] state text :=
  ⟨fun _ => rfl, fun _ => Iff.rfl, fun _ comes => comes⟩

end States

section Fragments

variable {limit : Nat} {titleSeen statusSeen : Bool} {text : Text}

theorem unbroken_takeWhile (rest : Text) : Unbroken (rest.takeWhile (!isBreak ·)) := by
  intro char member
  have all := List.all_eq_true.mp (List.all_takeWhile (p := (!isBreak ·)) (l := rest)) char member
  simpa using all

theorem splitBreaks_begins (unbroken : Unbroken text) (rest : Text) :
    ∃ more others, splitBreaks (text ++ rest) = (text ++ more) :: others ∧ Unbroken (text ++ more) := by
  have front : Unbroken (rest.takeWhile (!isBreak ·)) := unbroken_takeWhile rest
  have line := unbroken.append front
  have split := List.takeWhile_append_dropWhile (p := (!isBreak ·)) (l := rest)
  cases breaks : rest.dropWhile (!isBreak ·) with
  | nil =>
    rw [breaks, List.append_nil] at split
    rw [split] at line
    exact ⟨rest, [], splitBreaks_unbroken line, line⟩
  | cons delimiter later =>
    have isDelimiter : isBreak delimiter = true := by
      have head := List.head_dropWhile_not (p := (!isBreak ·)) (l := rest) (by simp [breaks])
      simpa [breaks] using head
    refine ⟨rest.takeWhile (!isBreak ·), splitBreaks (afterBreak delimiter later), ?_, line⟩
    rw [← splitBreaks_broken line isDelimiter, List.append_assoc, ← breaks, split]

theorem ended (unbroken : Unbroken text) (not : ¬CouldBe titleSeen statusSeen text) (lineNumber : Nat) (rest : Text) :
    statusFieldsFrom titleSeen statusSeen lineNumber (splitBreaks (text ++ rest)) = .ok [] ∧
      ¬Reaches (Exceeding limit) titleSeen statusSeen (splitBreaks (text ++ rest)) := by
  obtain ⟨more, others, split, line⟩ := splitBreaks_begins unbroken rest
  have never : ¬CouldBe titleSeen statusSeen (text ++ more) := fun could => not <| could.prefix line (List.prefix_append _ _)
  have body := classify_body line never
  rw [split]
  constructor
  · rw [statusFieldsFrom_cons, body]
    rfl
  · rw [reaches_cons, lineFlags, body]
    rintro (exceeding | ⟨_, goes, _⟩)
    · exact never exceeding.1
    · cases goes

theorem reaches_overlong (unbroken : Unbroken text) (exceeding : Exceeding limit titleSeen statusSeen text) (rest : Text) :
    Reaches (Overlong limit) titleSeen statusSeen (splitBreaks (text ++ rest)) := by
  obtain ⟨more, others, split, line⟩ := splitBreaks_begins unbroken rest
  rw [split]
  exact .here ⟨text, List.prefix_append _ _, exceeding⟩

end Fragments

section Rounds

variable {request : Request} {state : ScanState} {fragment : Text}

theorem utf8Length_append (first second : Text) :
    (first ++ second).utf8Length = first.utf8Length + second.utf8Length := by
  simp [Text.utf8Length]

theorem remainingText_append (settled : state.statusAfterCr = false) (rest : Text) :
    remainingText state (fragment ++ rest) = state.statusBuffer ++ fragment ++ rest := by
  simp [remainingText, settled]

theorem retain_eq : retainStatusFragment request state fragment =
    if ¬CouldBe state.titleSeen state.statusSeen (state.statusBuffer ++ fragment) then
      .ok { state with statusActive := false, statusBuffer := [] }
    else if request.statusScanBytes < (state.statusBuffer ++ fragment).utf8Length then .error (scanLimitError request)
    else .ok { state with statusBuffer := state.statusBuffer ++ fragment } := by
  unfold retainStatusFragment CouldBe
  dsimp only
  rw [utf8Length_append]
  by_cases blank : isMarkdownBlank (state.statusBuffer ++ fragment) = true
  · simp [blank]
  · by_cases possible : possibleMetadata state.titleSeen state.statusSeen (state.statusBuffer ++ fragment) = true
    · simp [blank, possible]
    · simp [blank, possible]

theorem retain_cases (request : Request) (state : ScanState) (fragment : Text) :
    (¬CouldBe state.titleSeen state.statusSeen (state.statusBuffer ++ fragment) ∧
        retainStatusFragment request state fragment = .ok { state with statusActive := false, statusBuffer := [] }) ∨
      (Exceeding request.statusScanBytes state.titleSeen state.statusSeen (state.statusBuffer ++ fragment) ∧
        retainStatusFragment request state fragment = .error (scanLimitError request)) ∨
      (CouldBe state.titleSeen state.statusSeen (state.statusBuffer ++ fragment) ∧
        (state.statusBuffer ++ fragment).utf8Length ≤ request.statusScanBytes ∧
        retainStatusFragment request state fragment = .ok { state with statusBuffer := state.statusBuffer ++ fragment }) := by
  rw [retain_eq]
  by_cases could : CouldBe state.titleSeen state.statusSeen (state.statusBuffer ++ fragment)
  · rw [if_neg (not_not_intro could)]
    by_cases long : request.statusScanBytes < (state.statusBuffer ++ fragment).utf8Length
    · exact .inr (.inl ⟨⟨could, long⟩, if_pos long⟩)
    · exact .inr (.inr ⟨could, Nat.not_lt.mp long, if_neg long⟩)
  · exact .inl ⟨could, if_pos could⟩

theorem Inv.ended (inv : Inv request.statusScanBytes state) :
    Inv request.statusScanBytes { state with statusActive := false, statusBuffer := [] } :=
  ⟨by simp [Unbroken], fun active => absurd active (by simp), Nat.zero_le _, fun _ => rfl⟩

theorem retained_ended (active : state.statusActive = true) (settled : state.statusAfterCr = false)
    (unbroken : Unbroken (state.statusBuffer ++ fragment))
    (not : ¬CouldBe state.titleSeen state.statusSeen (state.statusBuffer ++ fragment)) (more second : Text) :
    Leads request.statusScanBytes state (fragment ++ more) { state with statusActive := false, statusBuffer := [] } second := by
  have ends (rest : Text) := @ended request.statusScanBytes _ _ _ unbroken not state.statusLine rest
  refine ⟨fun rest => ?_, fun rest => ?_, fun rest comes => ?_⟩
  · rw [List.append_assoc, expected, if_pos active, remainingText_append settled, (ends _).1]
    simp [expected]
  · rw [List.append_assoc, Comes, remainingText_append settled]
    exact ⟨fun comes => absurd comes.2 (ends _).2, fun comes => absurd comes.1 (by simp)⟩
  · cases comes.1

theorem retained_overlong (active : state.statusActive = true) (settled : state.statusAfterCr = false)
    (unbroken : Unbroken (state.statusBuffer ++ fragment))
    (exceeding : Exceeding request.statusScanBytes state.titleSeen state.statusSeen (state.statusBuffer ++ fragment))
    (rest : Text) : Comes (Overlong request.statusScanBytes) state (fragment ++ rest) := by
  refine ⟨active, ?_⟩
  rw [remainingText_append settled]
  exact reaches_overlong unbroken exceeding rest

theorem retained_exceeds (active : state.statusActive = true) (settled : state.statusAfterCr = false)
    (unbroken : Unbroken (state.statusBuffer ++ fragment))
    (exceeding : Exceeding request.statusScanBytes state.titleSeen state.statusSeen (state.statusBuffer ++ fragment)) :
    Comes (Exceeding request.statusScanBytes) state fragment ∧ ∀ delimiter rest, isBreak delimiter = true →
      Comes (Exceeding request.statusScanBytes) state (fragment ++ delimiter :: rest) := by
  constructor
  · refine ⟨active, ?_⟩
    have whole := @remainingText_append state fragment settled []
    rw [List.append_nil, List.append_nil] at whole
    rw [whole, splitBreaks_unbroken unbroken]
    exact .here exceeding
  · intro delimiter rest breaks
    refine ⟨active, ?_⟩
    rw [remainingText_append settled, splitBreaks_broken unbroken breaks]
    exact .here exceeding

theorem retained_leads (settled : state.statusAfterCr = false) (second : Text) :
    Leads request.statusScanBytes state fragment { state with statusBuffer := state.statusBuffer ++ fragment } second := by
  have same (rest : Text) : remainingText state (fragment ++ rest) =
      remainingText { state with statusBuffer := state.statusBuffer ++ fragment } rest := by
    rw [remainingText_append settled]
    simp [remainingText, settled]
  refine ⟨fun rest => ?_, fun rest => ?_, fun rest comes => ?_⟩
  · unfold expected
    rw [same]
  · unfold Comes
    rw [same]
  · unfold Comes
    rw [same]
    exact comes

def emptied (state : ScanState) : ScanState := { state with statusBuffer := [] }

structure Passes (limit : Nat) (state after : ScanState) (text rest : Text) : Prop where
  expected : expected state text = expected after rest
  exceeds : Comes (Exceeding limit) state text ↔ Comes (Exceeding limit) after rest
  overlong : Comes (Overlong limit) after rest → Comes (Overlong limit) state text

theorem line_consumed (inv : Inv request.statusScanBytes state) (active : state.statusActive = true)
    (settled : state.statusAfterCr = false) :
    (∃ consumed, consumeStatusLine request state state.statusBuffer = .ok consumed ∧
      Inv request.statusScanBytes (emptied consumed) ∧ consumed.statusAfterCr = false ∧
      ∀ text rest, splitBreaks (state.statusBuffer ++ text) = state.statusBuffer :: splitBreaks rest →
        Passes request.statusScanBytes state (emptied consumed) text rest) ∨
      (consumeStatusLine request state state.statusBuffer = .error (malformedError request) ∧
        ∀ text rest, splitBreaks (state.statusBuffer ++ text) = state.statusBuffer :: splitBreaks rest →
          expected state text = .error .statusFieldMalformed ∧
            ¬Comes (Exceeding request.statusScanBytes) state text) := by
  have small : ¬Exceeding request.statusScanBytes state.titleSeen state.statusSeen state.statusBuffer :=
    fun exceeding => Nat.not_lt.mpr inv.within exceeding.2
  have remaining (text : Text) : remainingText state text = state.statusBuffer ++ text := by
    simp [remainingText, settled]
  have goes {flags : Bool × Bool} (known : lineFlags state.titleSeen state.statusSeen state.statusBuffer = some flags)
      {text rest : Text} (split : splitBreaks (state.statusBuffer ++ text) = state.statusBuffer :: splitBreaks rest) :
      (Comes (Exceeding request.statusScanBytes) state text ↔
        Reaches (Exceeding request.statusScanBytes) flags.1 flags.2 (splitBreaks rest)) ∧
      (Reaches (Overlong request.statusScanBytes) flags.1 flags.2 (splitBreaks rest) →
        Comes (Overlong request.statusScanBytes) state text) := by
    unfold Comes
    rw [remaining, split, reaches_cons, known]
    refine ⟨⟨?_, fun later => ⟨active, .inr ⟨flags, rfl, later⟩⟩⟩, fun later => ⟨active, .later known later⟩⟩
    rintro ⟨_, exceeding | ⟨_, same, later⟩⟩
    · exact absurd exceeding small
    · cases same
      exact later
  have stops (none : lineFlags state.titleSeen state.statusSeen state.statusBuffer = Option.none) {text rest : Text}
      (split : splitBreaks (state.statusBuffer ++ text) = state.statusBuffer :: splitBreaks rest) :
      ¬Comes (Exceeding request.statusScanBytes) state text := by
    rintro ⟨_, comes⟩
    rw [remaining, split, reaches_cons, none] at comes
    rcases comes with exceeding | ⟨_, same, _⟩
    · exact small exceeding
    · cases same
  have start (titleSeen statusSeen : Bool) : CouldBe titleSeen statusSeen [] := .inl rfl
  have unbroken : Unbroken [] := by simp [Unbroken]
  rw [consumeStatusLine_eq request state inv.unbroken]
  cases outcome : classify state.titleSeen state.statusSeen state.statusBuffer with
  | blank =>
    have known : lineFlags state.titleSeen state.statusSeen state.statusBuffer = some (state.titleSeen, state.statusSeen) := by
      rw [lineFlags, outcome]
    refine .inl ⟨_, rfl, ⟨unbroken, fun _ => start _ _, Nat.zero_le _, fun _ => rfl⟩, settled, fun text rest split => ?_⟩
    refine ⟨?_, ?_, fun comes => (goes known split).2 ?_⟩
    · simp [expected, active, remaining, split, statusFieldsFrom_cons, outcome, emptied, remainingText, settled]
    · rw [(goes known split).1]
      simp [Comes, active, emptied, remainingText, settled]
    · simpa [Comes, active, emptied, remainingText, settled] using comes
  | field value =>
    have known : lineFlags state.titleSeen state.statusSeen state.statusBuffer = some (state.titleSeen, true) := by
      rw [lineFlags, outcome]
    refine .inl ⟨_, rfl, ⟨unbroken, fun _ => start _ _, Nat.zero_le _, fun _ => rfl⟩, settled, fun text rest split => ?_⟩
    refine ⟨?_, ?_, fun comes => (goes known split).2 ?_⟩
    · simp only [expected, active, if_true, remaining, split, statusFieldsFrom_cons, outcome, emptied, remainingText, settled,
        Bool.false_eq_true, if_false, List.nil_append]
      cases statusFieldsFrom state.titleSeen true (state.statusLine + 1) (splitBreaks rest) with
      | error reason => rfl
      | ok others => simp
    · rw [(goes known split).1]
      simp [Comes, active, emptied, remainingText, settled]
    · simpa [Comes, active, emptied, remainingText, settled] using comes
  | malformed =>
    refine .inr ⟨rfl, fun text rest split => ⟨?_, stops (by rw [lineFlags, outcome]) split⟩⟩
    simp [expected, active, remaining, split, statusFieldsFrom_cons, outcome]
  | title =>
    have known : lineFlags state.titleSeen state.statusSeen state.statusBuffer = some (true, state.statusSeen) := by
      rw [lineFlags, outcome]
    refine .inl ⟨_, rfl, ⟨unbroken, fun _ => start _ _, Nat.zero_le _, fun _ => rfl⟩, settled, fun text rest split => ?_⟩
    refine ⟨?_, ?_, fun comes => (goes known split).2 ?_⟩
    · simp [expected, active, remaining, split, statusFieldsFrom_cons, outcome, emptied, remainingText, settled]
    · rw [(goes known split).1]
      simp [Comes, active, emptied, remainingText, settled]
    · simpa [Comes, active, emptied, remainingText, settled] using comes
  | body =>
    refine .inl ⟨_, rfl, ⟨unbroken, fun _ => start _ _, Nat.zero_le _, fun _ => rfl⟩, settled, fun text rest split => ?_⟩
    refine ⟨?_, ?_, fun comes => absurd comes.1 (by simp [emptied])⟩
    · simp [expected, active, remaining, split, statusFieldsFrom_cons, outcome, emptied]
    · exact ⟨fun comes => absurd comes (stops (by rw [lineFlags, outcome]) split), fun comes => absurd comes.1 (by simp [emptied])⟩

theorem withoutNewline_append {text : Text} (rest : Text) (plain : text.head? ≠ some '\n') (some : text ≠ []) :
    withoutNewline (text ++ rest) = text ++ rest := by
  unfold withoutNewline
  rw [List.head?_append_of_ne_nil _ some, if_neg plain]

theorem leads_of_passes {limit : Nat} {after : ScanState} {first second : Text}
    (passes : ∀ rest, Passes limit state after (first ++ (second ++ rest)) (second ++ rest)) :
    Leads limit state first after second :=
  ⟨fun rest => (passes rest).expected, fun rest => (passes rest).exceeds, fun rest => (passes rest).overlong⟩

theorem remainder_consumed {fuel : Nat} {text : Text} (enough : text.length ≤ fuel)
    (inv : Inv request.statusScanBytes state) (settled : state.statusAfterCr = false) :
    Consumed request state text (consumeRemainder request fuel state text) := by
  induction fuel generalizing state text with
  | zero =>
    cases List.eq_nil_of_length_eq_zero (Nat.le_zero.mp enough)
    exact .goesOn inv leads_nothing
  | succ fuel ih =>
    rw [consumeRemainder]
    by_cases ended : (text = [] || !state.statusActive) = true
    · rw [if_pos ended]
      rcases (Bool.or_eq_true _ _).mp ended with empty | inactive
      · cases of_decide_eq_true empty
        exact .goesOn inv leads_nothing
      · exact .goesOn inv (leads_inactive (by simpa using inactive) [])
    · rw [if_neg ended]
      rw [Bool.or_eq_true, not_or] at ended
      have active : state.statusActive = true := by simpa using ended.2
      have split := List.takeWhile_append_dropWhile (p := (!isBreak ·)) (l := text)
      have front := unbroken_takeWhile text
      have unbroken := inv.unbroken.append front
      cases breaks : text.dropWhile (!isBreak ·) with
      | nil =>
        rw [breaks, List.append_nil] at split
        rw [split] at unbroken
        rcases retain_cases request state text with ⟨not, kept⟩ | ⟨exceeding, kept⟩ | ⟨could, short, kept⟩
        · have leads := @retained_ended request _ _ active settled unbroken not [] []
          rw [List.append_nil] at leads
          exact kept ▸ .goesOn inv.ended leads
        · exact kept ▸ .limited (retained_exceeds active settled unbroken exceeding).1
            (retained_overlong active settled unbroken exceeding)
        · have later : Inv request.statusScanBytes { state with statusBuffer := state.statusBuffer ++ text } :=
            ⟨unbroken, fun _ => could, short, fun after => absurd (settled.symm.trans after) (by simp)⟩
          exact kept ▸ .goesOn later (retained_leads settled [])
      | cons delimiter rest =>
        rw [breaks] at split
        have isDelimiter : isBreak delimiter = true := by
          have head := List.head_dropWhile_not (p := (!isBreak ·)) (l := text) (by simp [breaks])
          simpa [breaks] using head
        have shorter : rest.length ≤ fuel := by
          have length := congrArg List.length split
          rw [List.length_append, List.length_cons] at length
          omega
        dsimp only
        generalize text.takeWhile (!isBreak ·) = line at split front unbroken
        subst split
        rcases retain_cases request state line with ⟨not, kept⟩ | ⟨exceeding, kept⟩ | ⟨could, short, kept⟩
        · rw [kept, ok_bind]
          exact .goesOn inv.ended (retained_ended active settled unbroken not _ [])
        · rw [kept, error_bind]
          exact .limited ((retained_exceeds active settled unbroken exceeding).2 delimiter rest isDelimiter)
            fun more => by
              rw [List.append_assoc]
              exact retained_overlong active settled unbroken exceeding _
        · rw [kept, ok_bind, if_neg (by simp [active])]
          have middle : Inv request.statusScanBytes { state with statusBuffer := state.statusBuffer ++ line } :=
            ⟨unbroken, fun _ => could, short, fun after => absurd (settled.symm.trans after) (by simp)⟩
          apply (retained_leads settled (delimiter :: rest)).consumed
          rcases line_consumed middle active settled with ⟨consumed, returned, later, open', goes⟩ | ⟨raised, malformed⟩
          · rw [returned, ok_bind]
            have broken (more : Text) := @splitBreaks_broken _ (rest ++ more) _ unbroken isDelimiter
            by_cases pair : (delimiter = '\r' && rest.head? = some '\n') = true
            · rw [if_pos pair]
              simp only [Bool.and_eq_true, decide_eq_true_eq] at pair
              obtain ⟨rfl, newline⟩ := pair
              obtain ⟨tail, rfl⟩ : ∃ tail, rest = '\n' :: tail := by
                cases rest with
                | nil => cases newline
                | cons first tail =>
                  cases newline
                  exact ⟨tail, rfl⟩
              have leads : Leads request.statusScanBytes { state with statusBuffer := state.statusBuffer ++ line } ['\r', '\n']
                  (emptied consumed) tail :=
                leads_of_passes fun more => goes _ _ (broken more)
              exact leads.consumed (ih (by simpa using Nat.le_of_succ_le shorter) later open')
            · rw [if_neg pair]
              by_cases last : (delimiter = '\r' && rest = []) = true
              · rw [if_pos last]
                simp only [Bool.and_eq_true, decide_eq_true_eq] at last
                obtain ⟨rfl, rfl⟩ := last
                have same (more : Text) : remainingText (emptied consumed) (withoutNewline more) =
                    remainingText { emptied consumed with statusAfterCr := true } more := by
                  simp [remainingText, emptied, open']
                have passes (more : Text) := goes _ _ (broken more)
                refine .goesOn ⟨later.unbroken, later.couldBe, later.within, fun _ => rfl⟩ (leads_of_passes fun more => ?_)
                refine ⟨(passes more).expected.trans ?_, (passes more).exceeds.trans ?_, fun comes => (passes more).overlong ?_⟩
                · exact congrArg (fun text => if consumed.statusActive then (consumed.statusFields ++ ·) <$>
                    statusFieldsFrom consumed.titleSeen consumed.statusSeen consumed.statusLine (splitBreaks text)
                    else Except.ok consumed.statusFields) (same more)
                · exact iff_of_eq (congrArg (fun text => consumed.statusActive = true ∧
                    Reaches (Exceeding request.statusScanBytes) consumed.titleSeen consumed.statusSeen (splitBreaks text))
                    (same more))
                · exact (congrArg (fun text => consumed.statusActive = true ∧
                    Reaches (Overlong request.statusScanBytes) consumed.titleSeen consumed.statusSeen (splitBreaks text))
                    (same more)).mpr comes
              · rw [if_neg last]
                have leads : Leads request.statusScanBytes { state with statusBuffer := state.statusBuffer ++ line } [delimiter]
                    (emptied consumed) rest := by
                  refine leads_of_passes fun more => goes _ _ ((broken more).trans ?_)
                  have kept : afterBreak delimiter (rest ++ more) = rest ++ more := by
                    unfold afterBreak
                    by_cases carriage : delimiter = '\r'
                    · simp only [carriage, decide_true, Bool.true_and, decide_eq_true_eq] at pair last
                      rw [if_pos carriage, withoutNewline_append more pair last]
                    · exact if_neg carriage
                  rw [kept]
                exact leads.consumed (ih shorter later open')
          · rw [raised, error_bind]
            have broken (more : Text) := @splitBreaks_broken _ (rest ++ more) _ unbroken isDelimiter
            exact .malformed (fun more => (malformed _ _ (broken more)).1) fun more => (malformed _ _ (broken more)).2

end Rounds

end Aep.PinnedWorkspace
