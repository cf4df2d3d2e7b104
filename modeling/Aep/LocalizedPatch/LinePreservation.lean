import Aep.LocalizedPatch.Containment

namespace Aep.LocalizedPatch

open Result Splice

def dropTerminator (line : Text) : Text := line.take (line.length - (lineTerminator line).length)

def logicalTexts (content : Text) : List Text := (rawLines content).map dropTerminator

/-- A text that is empty or ends with a line feed, so that what follows it is a line of its own. -/
def Closed (text : Text) : Prop := ∀ last, text.getLast? = some last → last = '\n'

/-- A text that does not end with a carriage return, which a line feed behind it would swallow. -/
def Tidy (text : Text) : Prop := text.getLast? ≠ some '\r'

theorem closed_nil : Closed [] := by simp [Closed]

theorem Closed.append {front back : Text} (first : Closed front) (second : Closed back) : Closed (front ++ back) := by
  intro last found
  rw [List.getLast?_append] at found
  cases ends : back.getLast? with
  | none =>
    rw [ends] at found
    exact first last found
  | some its =>
    rw [ends] at found
    cases found
    exact second last ends

theorem Closed.tail {char : Char} {rest : Text} (closed : Closed (char :: rest)) : Closed rest := by
  intro last found
  apply closed last
  rw [List.getLast?_cons, found]
  rfl

theorem closed_of_suffix {front back : Text} (closed : Closed (front ++ back)) : Closed back := by
  intro last found
  apply closed last
  rw [List.getLast?_append, found]
  rfl

theorem rawLines_ne_nil {char : Char} {rest : Text} : rawLines (char :: rest) ≠ [] := by
  unfold rawLines
  split
  · simp
  · split <;> simp

theorem rawLines_append {front : Text} (closed : Closed front) (back : Text) :
    rawLines (front ++ back) = rawLines front ++ rawLines back := by
  induction front with
  | nil => rfl
  | cons char rest ih =>
    have rested := ih closed.tail
    rw [List.cons_append, rawLines, rawLines, rested]
    by_cases newline : char = '\n'
    · simp [newline]
    · simp only [newline, ↓reduceIte]
      cases rest with
      | nil => exact absurd (closed char rfl) newline
      | cons next others =>
        cases lines : rawLines (next :: others) with
        | nil => exact absurd lines rawLines_ne_nil
        | cons line more => rfl

theorem logicalTexts_append {front : Text} (closed : Closed front) (back : Text) :
    logicalTexts (front ++ back) = logicalTexts front ++ logicalTexts back := by
  simp [logicalTexts, rawLines_append closed]

theorem exists_last_line {text : Text} (opened : ¬Closed text) :
    ∃ front last, text = front ++ last ∧ Closed front ∧ last ≠ [] ∧ '\n' ∉ last := by
  induction text with
  | nil => exact absurd closed_nil opened
  | cons char rest ih =>
    by_cases closed : Closed rest
    · by_cases empty : rest = []
      · subst empty
        have other : '\n' ≠ char := by
          intro same
          apply opened
          intro last found
          cases found
          exact same.symm
        exact ⟨[], [char], rfl, closed_nil, by simp, by simpa using other⟩
      · exfalso
        apply opened
        intro last found
        obtain ⟨next, others, rfl⟩ := List.exists_cons_of_ne_nil empty
        exact closed last found
    · obtain ⟨front, last, rfl, first, some, none⟩ := ih closed
      by_cases empty : front = []
      · subst empty
        by_cases newline : char = '\n'
        · refine ⟨[char], last, rfl, ?_, some, none⟩
          intro its found
          cases found
          exact newline
        · exact ⟨[], char :: last, rfl, closed_nil, by simp, by simp [Ne.symm newline, none]⟩
      · refine ⟨char :: front, last, rfl, ?_, some, none⟩
        obtain ⟨next, others, rfl⟩ := List.exists_cons_of_ne_nil empty
        intro its found
        exact first its found

theorem rawLines_line {line : Text} (none : '\n' ∉ line) (some : line ≠ []) : rawLines line = [line] := by
  induction line with
  | nil => exact absurd rfl some
  | cons char rest ih =>
    simp only [List.mem_cons, not_or] at none
    unfold rawLines
    rw [if_neg (Ne.symm none.1)]
    cases rest with
    | nil => rfl
    | cons next others => rw [ih none.2 (by simp)]

theorem rawLines_terminated {line : Text} (none : '\n' ∉ line) : rawLines (line ++ ['\n']) = [line ++ ['\n']] := by
  induction line with
  | nil => rfl
  | cons char rest ih =>
    simp only [List.mem_cons, not_or] at none
    rw [List.cons_append, rawLines, if_neg (Ne.symm none.1), ih none.2]

def IsEnding (ending : Text) : Prop := ending = crlf ∨ ending = ['\n']

theorem IsEnding.closed {ending : Text} (kind : IsEnding ending) : Closed ending := by
  intro last found
  rcases kind with rfl | rfl <;> · cases found; rfl

theorem dropTerminator_open {line : Text} (none : '\n' ∉ line) : dropTerminator line = line := by
  have bare : lineTerminator line = [] := by
    have suffix := lineTerminator_suffix line
    unfold lineTerminator at suffix ⊢
    split
    · rename_i ends
      rw [if_pos ends] at suffix
      exact absurd (suffix.subset (by simp [crlf])) none
    · rename_i noCrlf
      rw [if_neg noCrlf] at suffix
      split
      · rename_i ends
        rw [if_pos ends] at suffix
        exact absurd (suffix.subset (by simp)) none
      · rfl
  simp [dropTerminator, bare]

theorem dropTerminator_ending {line ending : Text} (kind : IsEnding ending) (tidy : Tidy line) :
    dropTerminator (line ++ ending) = line := by
  have terminator : lineTerminator (line ++ ending) = ending := by
    rcases kind with rfl | rfl
    · have ends : crlf.isSuffixOf (line ++ crlf) := List.isSuffixOf_iff_suffix.mpr (List.suffix_append line crlf)
      simp [lineTerminator, ends]
    · have bare : ¬crlf.isSuffixOf (line ++ ['\n']) := by
        intro ends
        obtain ⟨front, same⟩ := List.isSuffixOf_iff_suffix.mp ends
        apply tidy
        have fronts : front ++ ['\r'] = line := by
          apply List.append_cancel_right
          rw [List.append_assoc]
          exact same
        rw [← fronts]
        simp
      have ends : ['\n'].isSuffixOf (line ++ ['\n']) := List.isSuffixOf_iff_suffix.mpr (List.suffix_append line _)
      simp [lineTerminator, bare, ends]
  rw [dropTerminator, terminator, List.length_append, Nat.add_sub_cancel]
  simp

theorem logicalTexts_ending_open {text ending : Text} (kind : IsEnding ending) (opened : ¬Closed text) (tidy : Tidy text) :
    logicalTexts (text ++ ending) = logicalTexts text := by
  obtain ⟨front, last, rfl, closed, some, none⟩ := exists_last_line opened
  have lastTidy : Tidy last := by
    intro ends
    apply tidy
    rw [List.getLast?_append, ends]
    rfl
  rw [List.append_assoc, logicalTexts_append closed, logicalTexts_append closed]
  congr 1
  have whole : rawLines (last ++ ending) = [last ++ ending] := by
    rcases kind with rfl | rfl
    · have noFeed : '\n' ∉ last ++ ['\r'] := by simp [none]
      have := rawLines_terminated noFeed
      rwa [List.append_assoc] at this
    · exact rawLines_terminated none
  simp only [logicalTexts, whole, rawLines_line none some, List.map_cons, List.map_nil]
  rw [dropTerminator_ending kind lastTidy, dropTerminator_open none]

theorem logicalTexts_ending {ending : Text} (kind : IsEnding ending) : logicalTexts ending = [[]] := by
  rcases kind with rfl | rfl <;> rfl

theorem ne_nil_of_mem_rawLines {content line : Text} (member : line ∈ rawLines content) : line ≠ [] := by
  induction content generalizing line with
  | nil => cases member
  | cons char rest ih =>
    unfold rawLines at member
    split at member
    · rcases List.mem_cons.mp member with rfl | member
      · simp
      · exact ih member
    · split at member
      · rw [List.mem_singleton.mp member]
        simp
      · rename_i line' others lines
        rcases List.mem_cons.mp member with rfl | member
        · simp
        · exact ih (lines ▸ List.mem_cons_of_mem line' member)

theorem closed_before {content : Text} {before after : List Text} (lines : rawLines content = before ++ after)
    (more : after ≠ []) : Closed before.flatten := by
  induction content generalizing before with
  | nil =>
    obtain ⟨rfl, _⟩ := List.append_eq_nil_iff.mp lines.symm
    exact closed_nil
  | cons char rest ih =>
    cases before with
    | nil => exact closed_nil
    | cons first others =>
      unfold rawLines at lines
      split at lines
      · rename_i newline
        obtain ⟨rfl, tail⟩ := List.cons.inj lines
        have feed : Closed [char] := by
          intro last found
          cases found
          exact newline
        exact feed.append (ih tail)
      · split at lines
        · obtain ⟨_, tail⟩ := List.cons.inj lines
          exact absurd (List.append_eq_nil_iff.mp tail.symm).2 more
        · rename_i line remaining its
          obtain ⟨rfl, tail⟩ := List.cons.inj lines
          have rest_lines : rawLines rest = (line :: others) ++ after := by
            rw [its, tail]
            rfl
          have rested := ih rest_lines
          have some : line ≠ [] := ne_nil_of_mem_rawLines (its ▸ List.mem_cons_self)
          obtain ⟨next, more', rfl⟩ := List.exists_cons_of_ne_nil some
          intro last found
          exact rested last found

theorem lineTerminator_of_closed {line : Text} (closed : Closed line) (some : line ≠ []) : lineTerminator line ≠ [] := by
  obtain ⟨front, last, rfl⟩ := (List.eq_nil_or_concat line).resolve_left some
  rw [List.concat_eq_append] at closed ⊢
  have feed : last = '\n' := closed last (by simp)
  subst feed
  have ends : ['\n'].isSuffixOf (front ++ ['\n']) := List.isSuffixOf_iff_suffix.mpr (List.suffix_append front _)
  unfold lineTerminator
  split
  · simp [crlf]
  · simp

theorem closed_of_lineTerminator {line : Text} (terminated : lineTerminator line ≠ []) : Closed line := by
  have suffix := lineTerminator_suffix line
  obtain ⟨front, same⟩ := suffix
  rw [← same]
  intro last found
  rw [List.getLast?_append] at found
  unfold lineTerminator at found terminated
  split at found
  · cases found
    rfl
  · rename_i noCrlf
    rw [if_neg noCrlf] at terminated
    split at found
    · cases found
      rfl
    · rename_i noFeed
      rw [if_neg noFeed] at terminated
      exact absurd rfl terminated

theorem mem_logicalLines_split {cursor : Nat} {lines : List Text} {line : LineMatch}
    (member : line ∈ logicalLines cursor lines) :
    ∃ before raw after, lines = before ++ raw :: after ∧ line.start = cursor + before.flatten.length ∧
      line.stop + line.terminator.length = cursor + (before ++ [raw]).flatten.length ∧
      line.terminator = lineTerminator raw := by
  induction lines generalizing cursor with
  | nil => cases member
  | cons first rest ih =>
    have terminated := (lineTerminator_suffix first).length_le
    simp only [logicalLines, List.mem_cons] at member
    rcases member with rfl | member
    · refine ⟨[], first, rest, rfl, rfl, ?_, rfl⟩
      simp only [List.nil_append, List.flatten_cons, List.flatten_nil, List.append_nil]
      omega
    · obtain ⟨before, raw, after, rfl, start, stop, terminator⟩ := ih member
      refine ⟨first :: before, raw, after, rfl, ?_, ?_, terminator⟩
      · simp only [List.flatten_cons, List.length_append]
        omega
      · simp only [List.cons_append, List.flatten_cons, List.length_append] at stop ⊢
        omega

theorem logicalLines_bounds {content : Text} {line : LineMatch} (member : line ∈ logicalLines 0 (rawLines content)) :
    Closed (content.take line.start) ∧
      ((line.terminator ≠ [] ∧ Closed (content.take (line.stop + line.terminator.length))) ∨
        (line.terminator = [] ∧ line.stop = content.length)) := by
  obtain ⟨before, raw, after, lines, start, stop, terminator⟩ := mem_logicalLines_split member
  have whole := flatten_rawLines content
  rw [lines, List.flatten_append] at whole
  have startTake : content.take line.start = before.flatten := by
    rw [start, Nat.zero_add, ← whole, List.take_left]
  have before_closed : Closed before.flatten := closed_before lines (by simp)
  have stopTake : content.take (line.stop + line.terminator.length) = before.flatten ++ raw := by
    rw [stop, Nat.zero_add, ← whole, List.flatten_append, List.flatten_singleton, List.flatten_cons, ← List.append_assoc,
      List.take_left]
  refine ⟨startTake ▸ before_closed, ?_⟩
  by_cases terminated : lineTerminator raw = []
  · refine Or.inr ⟨terminator.trans terminated, ?_⟩
    have last : after = [] := by
      by_contra more
      have regrouped : rawLines content = (before ++ [raw]) ++ after := by rw [lines, List.append_assoc]; rfl
      have closed := closed_before regrouped more
      rw [List.flatten_append, List.flatten_singleton] at closed
      have listed : raw ∈ rawLines content := by simp [lines]
      have some := ne_nil_of_mem_rawLines listed
      exact lineTerminator_of_closed (closed_of_suffix closed) some terminated
    subst last
    rw [terminator, terminated] at stop
    rw [← whole]
    simpa using stop
  · refine Or.inl ⟨terminator ▸ terminated, ?_⟩
    rw [stopTake]
    exact before_closed.append (closed_of_lineTerminator terminated)

theorem replace_single (old : Char) (new text : Text) :
    Text.replace [old] new text = text.flatMap fun char => if char = old then new else [char] := by
  unfold Text.replace
  induction text with
  | nil => rfl
  | cons char rest ih =>
    rw [Text.replaceFrom, List.flatMap_cons]
    by_cases same : char = old
    · have here : [old].isPrefixOf (char :: rest) := by simp [List.isPrefixOf, same]
      rw [if_pos here, if_pos same]
      exact congrArg (new ++ ·) ih
    · have nowhere : ¬[old].isPrefixOf (char :: rest) := by simp [List.isPrefixOf, Ne.symm same]
      rw [if_neg nowhere, if_neg same]
      exact congrArg (char :: ·) ih

def withEndings (ending text : Text) : Text := text.flatMap fun char => if char = '\n' then ending else [char]

theorem normalized_eq (ending content : Text) : ∃ bare, '\r' ∉ bare ∧ normalized ending content = withEndings ending bare := by
  refine ⟨Text.replace ['\r'] ['\n'] (Text.replace crlf ['\n'] content), ?_, ?_⟩
  · rw [replace_single]
    intro member
    obtain ⟨char, _, its⟩ := List.mem_flatMap.mp member
    split at its
    · simp at its
    · rename_i other
      exact other (List.mem_singleton.mp its).symm
  · exact replace_single '\n' ending _

theorem withEndings_append (ending front back : Text) :
    withEndings ending (front ++ back) = withEndings ending front ++ withEndings ending back := by
  simp [withEndings]

theorem IsEnding.getLast? {ending : Text} (kind : IsEnding ending) : ending.getLast? = some '\n' := by
  rcases kind with rfl | rfl <;> rfl

theorem withEndings_last {ending bare : Text} (kind : IsEnding ending) (none : '\r' ∉ bare) :
    (withEndings ending bare).getLast? = bare.getLast? ∧ bare.getLast? ≠ some '\r' := by
  rcases List.eq_nil_or_concat bare with rfl | ⟨front, last, rfl⟩
  · exact ⟨rfl, by simp⟩
  · rw [List.concat_eq_append] at none ⊢
    have other : last ≠ '\r' := by
      rintro rfl
      simp at none
    refine ⟨?_, by simpa using other⟩
    rw [withEndings_append, List.getLast?_append]
    by_cases feed : last = '\n'
    · simp [withEndings, feed, kind.getLast?]
    · simp [withEndings, feed]

theorem withEndings_tidy {ending bare : Text} (kind : IsEnding ending) (none : '\r' ∉ bare) :
    Tidy (withEndings ending bare) := by
  obtain ⟨same, other⟩ := withEndings_last kind none
  rw [Tidy, same]
  exact other

theorem lineEnding_kind (content : Text) : IsEnding (lineEnding content) := by
  unfold lineEnding
  split
  · split
    · exact Or.inl rfl
    · exact Or.inr rfl
  · exact Or.inr rfl

theorem endsLine_iff {text : Text} (tidy : Tidy text) : endsLine text = true ↔ text.getLast? = some '\n' := by
  unfold endsLine
  cases ends : text.getLast? with
  | none => simp
  | some last =>
    have other : last ≠ '\r' := by
      rintro rfl
      exact tidy ends
    simp [isLineBreak, other]

theorem withEnding_closed {preimage ending content : Text} {offset : Nat} (kind : IsEnding ending) (tidy : Tidy content)
    (boundary : offset < preimage.length ∨ endsLine preimage = true) :
    Closed (withEnding preimage offset ending content) := by
  unfold withEnding
  split
  · intro last found
    rw [List.getLast?_append, kind.getLast?] at found
    cases found
    rfl
  · rename_i complete
    have ends : endsLine content = true := by
      by_contra unfinished
      rw [Bool.not_eq_true] at unfinished
      apply complete
      rcases boundary with before | final
      · simp [unfinished, before]
      · simp [unfinished, final]
    intro last found
    rw [(endsLine_iff tidy).mp ends] at found
    cases found
    rfl

theorem lineBoundaryContent_closed {preimage content : Text} {offset : Nat} {placement : String}
    (bounded : offset ≤ preimage.length) (some : preimage ≠ []) (start : Closed (preimage.take offset)) :
    Closed (lineBoundaryContent preimage offset content placement) := by
  have kind := lineEnding_kind preimage
  obtain ⟨bare, none, written⟩ := normalized_eq (lineEnding preimage) content
  have tidy : Tidy (normalized (lineEnding preimage) content) := written ▸ withEndings_tidy kind none
  have boundary : offset < preimage.length ∨ endsLine preimage = true := by
    by_cases inner : offset < preimage.length
    · exact Or.inl inner
    · have whole : preimage.take offset = preimage := List.take_of_length_le (by omega)
      rw [whole] at start
      obtain ⟨last, ends⟩ := List.getLast?_isSome.mpr some |> Option.isSome_iff_exists.mp
      apply Or.inr
      rw [endsLine, ends, start last ends]
      rfl
  unfold lineBoundaryContent
  dsimp only
  split
  · rename_i empty
    rw [List.isEmpty_iff.mp empty]
    exact closed_nil
  · split
    · rename_i final
      exfalso
      simp only [Bool.and_eq_true, decide_eq_true_eq, Bool.not_eq_true', Bool.or_eq_false_iff,
        decide_eq_false_iff_not] at final
      obtain ⟨⟨_, nonzero, noBreak⟩, atEnd⟩ := final
      rw [List.take_of_length_le (by omega)] at start
      obtain ⟨last, ends⟩ := List.getLast?_isSome.mpr some |> Option.isSome_iff_exists.mp
      have feed := start last ends
      rw [List.getLast?_eq_getElem?, ← atEnd] at ends
      rw [ends, feed] at noBreak
      cases noBreak
    · exact withEnding_closed kind tidy boundary

def trimmed (ending content : Text) : Text :=
  if ending.isSuffixOf content then content.take (content.length - ending.length) else content

theorem trimmed_tidy {ending bare : Text} (kind : IsEnding ending) (none : '\r' ∉ bare) :
    Tidy (trimmed ending (withEndings ending bare)) := by
  unfold trimmed
  split
  · rename_i suffix
    obtain ⟨front, same⟩ := List.isSuffixOf_iff_suffix.mp suffix
    rcases List.eq_nil_or_concat bare with rfl | ⟨others, final, rfl⟩
    · simp [withEndings, Tidy]
    · rw [List.concat_eq_append] at same none ⊢
      have feed : final = '\n' := by
        have lasts := congrArg List.getLast? same
        rw [List.getLast?_append, kind.getLast?, (withEndings_last kind none).1] at lasts
        simpa using lasts.symm
      have cut : (withEndings ending (others ++ [final])).take
          ((withEndings ending (others ++ [final])).length - ending.length) = withEndings ending others := by
        rw [withEndings_append, feed]
        simp [withEndings]
      rw [cut]
      apply withEndings_tidy kind
      intro member
      exact none (List.mem_append_left _ member)
  · exact withEndings_tidy kind none

theorem lineBoundaryContent_final {preimage content : Text} (opened : ¬Closed preimage) (tidy : Tidy preimage) :
    lineBoundaryContent preimage preimage.length content "after" = [] ∨
      ∃ ending rest, IsEnding ending ∧ Tidy rest ∧
        lineBoundaryContent preimage preimage.length content "after" = ending ++ rest := by
  have kind := lineEnding_kind preimage
  obtain ⟨bare, none, written⟩ := normalized_eq (lineEnding preimage) content
  have some : preimage ≠ [] := by
    rintro rfl
    exact opened closed_nil
  obtain ⟨last, ends⟩ := List.getLast?_isSome.mpr some |> Option.isSome_iff_exists.mp
  have unfinished : endsLine preimage = false := by
    by_contra complete
    apply opened
    intro other found
    rw [(endsLine_iff tidy).mp (by simpa using complete)] at found
    cases found
    rfl
  have noBreak : (preimage[preimage.length - 1]?).any isLineBreak = false := by
    rw [← List.getLast?_eq_getElem?]
    exact unfinished
  have nonzero : preimage.length ≠ 0 := by simpa using some
  unfold lineBoundaryContent
  simp only [noBreak, nonzero, decide_false, Bool.or_self, Bool.not_false, Bool.and_self, decide_true, Bool.and_true,
    ↓reduceIte]
  rw [← trimmed]
  by_cases empty : (normalized (lineEnding preimage) content).isEmpty = true
  · rw [if_pos empty]
    exact Or.inl (List.isEmpty_iff.mp empty)
  · rw [if_neg empty]
    have trimmed_tidy := trimmed_tidy kind none
    rw [← written] at trimmed_tidy
    split
    · exact Or.inl rfl
    · apply Or.inr
      have kept (text : Text) : withEnding preimage preimage.length (lineEnding preimage) text = text := by
        simp [withEnding, unfinished]
      rw [kept]
      exact ⟨lineEnding preimage, _, kind, trimmed_tidy, rfl⟩

/-- Where an insertion goes: whole lines at the start of a line, or behind a last line without terminator. -/
inductive Placed (preimage : Text) (edit : Edit Char) : Prop where
  | atLineStart (empty : edit.start = edit.stop) (start : Closed (preimage.take edit.start)) (lines : Closed edit.content)
  | atEnd (start : edit.start = preimage.length) (stop : edit.stop = preimage.length) (opened : ¬Closed preimage)
      (tidy : Tidy preimage)
      (content : edit.content = [] ∨ ∃ ending rest, IsEnding ending ∧ Tidy rest ∧ edit.content = ending ++ rest)

/-- The lines that a replacement adds. Its first one may only end the line before it. -/
def AddsLines (replacement : Text) (block : List Text) : Prop :=
  logicalTexts replacement = block ∨ logicalTexts replacement = [] :: block

/-- What the loop has written so far leaves the next piece of the preimage to start a line, or to be empty. -/
def Resumes (preimage written : Text) (cursor : Nat) : Prop :=
  (Closed written ∧ Closed (preimage.take cursor)) ∨ (cursor = preimage.length ∧ Tidy written ∧ ¬Closed preimage)

theorem slice_at_end (preimage : Text) (stop : Nat) : slice preimage preimage.length stop = [] := by simp [slice]

theorem Resumes.append {preimage written : Text} {cursor : Nat} (resumes : Resumes preimage written cursor) (stop : Nat) :
    logicalTexts (written ++ slice preimage cursor stop) = logicalTexts written ++ logicalTexts (slice preimage cursor stop) := by
  rcases resumes with ⟨closed, _⟩ | ⟨rfl, _⟩
  · exact logicalTexts_append closed _
  · rw [slice_at_end]
    simp [logicalTexts, rawLines]

theorem Resumes.lineStart {preimage written : Text} {cursor start : Nat} (resumes : Resumes preimage written cursor)
    (forward : cursor ≤ start) (lineStart : Closed (preimage.take start)) :
    Closed (written ++ slice preimage cursor start) := by
  rcases resumes with ⟨closed, _⟩ | ⟨rfl, _, opened⟩
  · rw [← take_append_slice preimage forward] at lineStart
    exact closed.append (closed_of_suffix lineStart)
  · rw [List.take_of_length_le forward] at lineStart
    exact absurd lineStart opened

theorem Resumes.final {preimage written : Text} {cursor : Nat} (resumes : Resumes preimage written cursor)
    (bounded : cursor ≤ preimage.length) (opened : ¬Closed preimage) (tidy : Tidy preimage) :
    Tidy (written ++ slice preimage cursor preimage.length) := by
  rcases resumes with ⟨_, lineStart⟩ | ⟨rfl, kept, _⟩
  · have whole := take_append_slice preimage bounded
    rw [List.take_length] at whole
    have some : slice preimage cursor preimage.length ≠ [] := by
      intro empty
      rw [empty, List.append_nil] at whole
      rw [whole] at lineStart
      exact opened lineStart
    obtain ⟨last, ends⟩ := Option.isSome_iff_exists.mp (List.getLast?_isSome.mpr some)
    rw [← whole, Tidy, List.getLast?_append, ends] at tidy
    rw [Tidy, List.getLast?_append, ends]
    exact tidy
  · rw [slice_at_end, List.append_nil]
    exact kept

theorem Placed.adds {preimage written : Text} {cursor : Nat} {edit : Edit Char} (placed : Placed preimage edit)
    (resumes : Resumes preimage written cursor) (forward : cursor ≤ edit.start) (bounded : edit.start ≤ preimage.length) :
    ∃ block, AddsLines edit.content block ∧
      logicalTexts (written ++ slice preimage cursor edit.start ++ edit.content) =
        logicalTexts (written ++ slice preimage cursor edit.start) ++ block ∧
      Resumes preimage (written ++ slice preimage cursor edit.start ++ edit.content) edit.stop := by
  cases placed with
  | atLineStart empty start lines =>
    have closed := resumes.lineStart forward start
    refine ⟨logicalTexts edit.content, Or.inl rfl, logicalTexts_append closed _, Or.inl ⟨closed.append lines, ?_⟩⟩
    rw [← empty]
    exact start
  | atEnd start stop opened tidy content =>
    rw [start] at forward ⊢
    have kept := resumes.final forward opened tidy
    rcases content with none | ⟨ending, rest, kind, restTidy, same⟩
    · refine ⟨[], Or.inl (by rw [none]; rfl), ?_, Or.inr ⟨stop, ?_, opened⟩⟩
      · rw [none, List.append_nil, List.append_nil]
      · rw [none, List.append_nil]
        exact kept
    · have after : Tidy (written ++ slice preimage cursor preimage.length ++ edit.content) := by
        rw [same, Tidy, List.getLast?_append, List.getLast?_append, kind.getLast?]
        cases ends : rest.getLast? with
        | none => simp
        | some last =>
          rw [Tidy, ends] at restTidy
          simpa using restTidy
      have lines := logicalTexts_append kind.closed rest
      rw [logicalTexts_ending kind, ← same] at lines
      by_cases closed : Closed (written ++ slice preimage cursor preimage.length)
      · exact ⟨logicalTexts edit.content, Or.inl rfl, logicalTexts_append closed _, Or.inr ⟨stop, after, opened⟩⟩
      · refine ⟨logicalTexts rest, Or.inr lines, ?_, Or.inr ⟨stop, after, opened⟩⟩
        have feed : Closed (written ++ slice preimage cursor preimage.length ++ ending) := by
          intro last found
          rw [List.getLast?_append, kind.getLast?] at found
          cases found
          rfl
        rw [same, ← List.append_assoc, logicalTexts_append feed, logicalTexts_ending_open kind closed kept]

theorem logicalTexts_assemble {preimage written : Text} {cursor : Nat} {edits : List (Edit Char)}
    (ordered : Ordered preimage.length cursor edits) (placed : ∀ edit ∈ edits, Placed preimage edit)
    (resumes : Resumes preimage written cursor) :
    ∃ blocks, List.Forall₂ AddsLines (edits.map Edit.content) blocks ∧
      logicalTexts (written ++ assemble preimage preimage.length cursor edits) =
        logicalTexts written ++ weave ((gaps preimage preimage.length cursor edits).map logicalTexts) blocks := by
  induction edits generalizing written cursor with
  | nil =>
    refine ⟨[], List.Forall₂.nil, ?_⟩
    rw [assemble, resumes.append]
    simp [gaps, weave]
  | cons edit rest ih =>
    obtain ⟨forward, empty, others⟩ := ordered
    have bounded : edit.start ≤ preimage.length := Nat.le_trans empty others.le
    obtain ⟨block, adds, lines, next⟩ := (placed edit List.mem_cons_self).adds resumes forward bounded
    obtain ⟨blocks, more, tail⟩ := ih others (fun other member => placed other (List.mem_cons_of_mem edit member)) next
    refine ⟨block :: blocks, List.Forall₂.cons adds more, ?_⟩
    calc logicalTexts (written ++ assemble preimage preimage.length cursor (edit :: rest))
        = logicalTexts (written ++ slice preimage cursor edit.start ++ edit.content
            ++ assemble preimage preimage.length edit.stop rest) := by
          simp only [assemble, List.append_assoc]
      _ = logicalTexts written ++ logicalTexts (slice preimage cursor edit.start) ++ block
            ++ weave ((gaps preimage preimage.length edit.stop rest).map logicalTexts) blocks := by
          rw [tail, lines, resumes.append]
      _ = logicalTexts written
            ++ weave ((gaps preimage preimage.length cursor (edit :: rest)).map logicalTexts) (block :: blocks) := by
          simp only [gaps, weave, List.map_cons, List.append_assoc]

theorem logicalTexts_gaps {preimage : Text} {cursor : Nat} {edits : List (Edit Char)}
    (ordered : Ordered preimage.length cursor edits) (placed : ∀ edit ∈ edits, Placed preimage edit) :
    ((gaps preimage preimage.length cursor edits).map logicalTexts).flatten =
      logicalTexts (slice preimage cursor preimage.length) := by
  induction edits generalizing cursor with
  | nil => simp [gaps]
  | cons edit rest ih =>
    obtain ⟨forward, empty, others⟩ := ordered
    have tail := ih others (fun other member => placed other (List.mem_cons_of_mem edit member))
    have bounded := others.le
    rw [gaps, List.map_cons, List.flatten_cons, tail]
    cases placed edit List.mem_cons_self with
    | atLineStart same start lines =>
      have closed : Closed (slice preimage cursor edit.start) := by
        rw [← take_append_slice preimage forward] at start
        exact closed_of_suffix start
      rw [← same, ← logicalTexts_append closed, slice_append_slice preimage forward (Nat.le_trans empty bounded)]
    | atEnd start stop opened tidy content =>
      rw [start, stop, slice_at_end]
      simp [logicalTexts, rawLines]

def isInsert : Json → Bool
  | .obj fields => Dict.field fields "operation" = .str "insert"
  | _ => false

section Calls

variable {platform : Platform} {request : Request} {scope : Scope}

theorem resolveAnchor_found {anchor : Text} {found : LineMatch}
    (resolved : resolveAnchor request scope anchor = .ok found) :
    anchor.any isLineBreak = false ∧
      found ∈ logicalLineMatches request.preimage anchor scope.regionStart scope.regionEnd := by
  simp only [resolveAnchor, bind_eq_ok, raiseIf_eq_ok, Bool.not_eq_true] at resolved
  obtain ⟨_, noBreak, chosen⟩ := resolved
  refine ⟨noBreak, ?_⟩
  split at chosen
  · rename_i only
    cases chosen
    rw [only]
    exact List.mem_singleton_self _
  · cases chosen
  · cases chosen

theorem insertion_placed {anchor content : Text} {found : LineMatch} {placement : String} (some : anchor ≠ [])
    (noBreak : anchor.any isLineBreak = false)
    (member : found ∈ logicalLineMatches request.preimage anchor scope.regionStart scope.regionEnd)
    (known : placement = "before" ∨ placement = "after") :
    Placed request.preimage ⟨insertionOffset found placement, insertionOffset found placement,
      lineBoundaryContent request.preimage (insertionOffset found placement) content placement⟩ := by
  obtain ⟨length, bounded⟩ := mem_logicalLineMatches member
  obtain ⟨listed, matched⟩ := List.mem_filter.mp member
  obtain ⟨start, finish⟩ := logicalLines_bounds listed
  simp only [Bool.and_eq_true, decide_eq_true_eq] at matched
  have positive : 0 < anchor.length := List.length_pos_iff.mpr some
  have nonempty : request.preimage ≠ [] := by
    intro empty
    rw [empty, List.length_nil] at bounded
    omega
  rcases known with rfl | rfl
  · have offset : insertionOffset found "before" = found.start := rfl
    rw [offset]
    exact Placed.atLineStart rfl start (lineBoundaryContent_closed (by omega) nonempty start)
  · have offset : insertionOffset found "after" = found.stop + found.terminator.length := rfl
    rw [offset]
    rcases finish with ⟨_, next⟩ | ⟨bare, last⟩
    · exact Placed.atLineStart rfl next (lineBoundaryContent_closed bounded nonempty next)
    · have whole : found.stop + found.terminator.length = request.preimage.length := by simp [bare, last]
      rw [whole]
      -- The anchor is the rest of the text and has no line break.
      have suffix : request.preimage.drop found.start = anchor := by
        rw [← slice_to_end, ← last]
        exact matched.2
      have ends : request.preimage.getLast? = anchor.getLast? := by
        rw [← suffix, List.getLast?_drop, if_neg]
        omega
      obtain ⟨final, its⟩ := Option.isSome_iff_exists.mp (List.getLast?_isSome.mpr some)
      have ordinary := List.any_eq_false.mp noBreak final (List.mem_of_getLast? its)
      simp only [isLineBreak, Bool.or_eq_true, decide_eq_true_eq, not_or] at ordinary
      have opened : ¬Closed request.preimage := by
        intro closed
        exact ordinary.2 (closed final (ends.trans its))
      have tidy : Tidy request.preimage := by
        rw [Tidy, ends, its]
        simpa using ordinary.1
      exact Placed.atEnd rfl rfl opened tidy (lineBoundaryContent_final opened tidy)

theorem planEdit_placed {ordinal : Nat} {rewriteSeen : Bool} {fields : Record} {plan : PlannedEdit}
    (planned : planEdit platform request scope ordinal rewriteSeen (.obj fields) = .ok plan)
    (insertion : fields.field "operation" = .str "insert") : Placed request.preimage plan.edit := by
  obtain ⟨_, operation, content, same, known, _, _, chosen⟩ := planEdit_cases planned
  cases same
  have named : operation = "insert" := by
    have its := (operationKind_mem known).1
    rw [insertion] at its
    exact (Json.str.inj its).symm
  have localized : ¬isRewrite (.obj fields) = true := by simp [isRewrite, insertion]
  rw [if_neg localized] at chosen
  subst named
  simp only [planLocalized, bind_eq_ok] at chosen
  obtain ⟨anchor, text, _, _, located, found, _, _, made⟩ := chosen
  cases made
  have some : anchor ≠ [] := by
    unfold anchorText at text
    split at text
    · split at text
      · cases text
      · rename_i value _ nonempty
        cases text
        simpa using nonempty
    · cases text
  have notDelete : ¬("insert" = "delete" ∧ anchor = request.preimage ∧ request.operations.length = 1) := by simp
  rw [locate, if_neg notDelete] at found
  obtain ⟨line, resolved, placed⟩ := bind_eq_ok.mp found
  obtain ⟨noBreak, member⟩ := resolveAnchor_found resolved
  rw [if_pos rfl] at placed
  obtain ⟨choice, looked, placed⟩ := bind_eq_ok.mp placed
  cases choice with
  | none => cases placed
  | some placement =>
    cases placed
    apply insertion_placed some noBreak member
    unfold memberOf at looked
    split at looked
    · have chosen := Option.filter_eq_some_iff.mp (Except.ok.inj looked)
      simpa using chosen.2
    · cases looked

/-- The lines of a text with insertions are its own lines, in order, with the inserted ones between them. -/
structure LinesKept (preimage : Text) (patch : LocalizedPatch) : Prop where
  kept : ((gaps preimage preimage.length 0 patch.edits).map logicalTexts).flatten = logicalTexts preimage
  added : ∃ blocks, List.Forall₂ AddsLines patch.replacements blocks ∧
    logicalTexts patch.content = weave ((gaps preimage preimage.length 0 patch.edits).map logicalTexts) blocks
  subsequence : (logicalTexts preimage).Sublist (logicalTexts patch.content)

/-- Insertions only add lines. -/
theorem insertions_keep_lines {patch : LocalizedPatch} (applied : applyLocalizedOperations platform request = .ok patch)
    (insertions : ∀ raw ∈ request.operations, isInsert raw = true) : LinesKept request.preimage patch := by
  have localized : ∀ raw ∈ request.operations, isRewrite raw = false := by
    intro raw listed
    have named := insertions raw listed
    cases raw with
    | obj fields =>
      simp only [isInsert, decide_eq_true_eq] at named
      simp [isRewrite, named]
    | _ => rfl
  obtain ⟨region, regionStart, regionEnd, contained⟩ := localized_edits_contained applied localized
  obtain ⟨scope, planned, _, _, all, _, _, rfl⟩ := applied_cases applied
  have within := regionBounds_within contained.resolved
  have edits : (patchOf platform request planned).edits = planned.map PlannedEdit.edit := by
    apply LocalizedPatch.edits_patchOf
    intro plan member
    obtain ⟨_, _, _, _, its⟩ := mem_planEdits all plan member
    exact (planEdit_record its).1
  have ordered : Ordered request.preimage.length 0 (patchOf platform request planned).edits := by
    apply ordered_of_pairwise (Nat.zero_le _) _ (contained.ordered.imp fun both => both.2)
    intro edit member
    have := contained.inside edit member
    omega
  have placed : ∀ edit ∈ (patchOf platform request planned).edits, Placed request.preimage edit := by
    rw [edits]
    intro edit member
    obtain ⟨plan, listed, rfl⟩ := List.mem_map.mp member
    obtain ⟨_, _, raw, among, its⟩ := mem_planEdits all plan listed
    have named := insertions raw among
    cases raw with
    | obj fields => exact planEdit_placed its (by simpa [isInsert] using named)
    | _ => cases named
  have kept := logicalTexts_gaps ordered placed
  rw [slice_to_end, List.drop_zero] at kept
  have fresh : Resumes request.preimage [] 0 := Or.inl ⟨closed_nil, closed_nil⟩
  obtain ⟨blocks, adds, lines⟩ := logicalTexts_assemble ordered placed fresh
  have content := applyAll_eq request.preimage ordered (Nat.le_refl _)
  rw [← contained.content, List.take_zero, List.drop_length, List.append_nil] at content
  have replacements : (patchOf platform request planned).edits.map Edit.content =
      (patchOf platform request planned).replacements := by
    rw [edits]
    simp [patchOf]
  have result : logicalTexts (patchOf platform request planned).content =
      weave ((gaps request.preimage request.preimage.length 0 (patchOf platform request planned).edits).map logicalTexts)
        blocks := by
    rw [content, lines]
    rfl
  refine ⟨kept, ⟨blocks, replacements ▸ adds, result⟩, ?_⟩
  rw [result, ← kept]
  exact flatten_sublist_weave _ _

end Calls

theorem insertions_keep_lines_section :
    ∃ patch : LocalizedPatch, patch.content = "# Layout\ndocs\nsrc\ntests\nlib\n# Other\nrest\n".toList ∧
      LinesKept Sample.preimage patch := by
  have written : (LocalizedPatch.content <$> applyLocalizedOperations Sample.platform Sample.request) =
      .ok "# Layout\ndocs\nsrc\ntests\nlib\n# Other\nrest\n".toList := by decide +kernel
  obtain ⟨patch, applied, content⟩ := map_eq_ok.mp written
  exact ⟨patch, content, insertions_keep_lines applied (by decide +kernel)⟩

end Aep.LocalizedPatch
