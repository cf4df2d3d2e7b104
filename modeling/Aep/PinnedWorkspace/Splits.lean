import Aep.PinnedWorkspace.Simulation

namespace Aep.PinnedWorkspace

open LocalizedPatch PlanningEvidence Result

section Steps

/-- What may come of scanning the beginning of a text, or all of it. -/
inductive Outcome {α : Type} (request : Request) (state : ScanState) (text : Text) (good : α → Prop) (exceeds : Prop) :
    Except ReaderError α → Prop where
  | ok {value : α} : good value → Outcome request state text good exceeds (.ok value)
  | malformed : expected state text = .error .statusFieldMalformed → ¬Comes (Exceeding request.statusScanBytes) state text →
      Outcome request state text good exceeds (.error (malformedError request))
  | limited : exceeds → Comes (Overlong request.statusScanBytes) state text →
      Outcome request state text good exceeds (.error (scanLimitError request))

variable {request : Request} {state after : ScanState} {first second text : Text}

theorem Passes.refl (limit : Nat) (state : ScanState) (text : Text) : Passes limit state state text text :=
  ⟨rfl, Iff.rfl, id⟩

theorem Passes.outcome (passes : Passes request.statusScanBytes state after text second) {α : Type} {good : α → Prop}
    {exceeds : Prop} {result : Except ReaderError α} (outcome : Outcome request after second good exceeds result) :
    Outcome request state text good exceeds result := by
  cases outcome with
  | ok holds => exact .ok holds
  | malformed malformed within => exact .malformed (passes.expected.trans malformed) (mt passes.exceeds.mp within)
  | limited exceeds overlong => exact .limited exceeds (passes.overlong overlong)

theorem Inv.not_exceeding (inv : Inv request.statusScanBytes state) : ¬Comes (Exceeding request.statusScanBytes) state [] := by
  rintro ⟨_, reaches⟩
  have rest : remainingText state [] = state.statusBuffer := by
    simp [remainingText, withoutNewline]
  rw [rest, splitBreaks_unbroken inv.unbroken, reaches_cons] at reaches
  rcases reaches with exceeding | ⟨_, _, later⟩
  · exact Nat.not_lt.mpr inv.within exceeding.2
  · cases later

theorem text_consumed (inv : Inv request.statusScanBytes state) (active : state.statusActive = true) (some : first ≠ []) :
    Consumed request state first (consumeStatusText request state first) := by
  have settled : Inv request.statusScanBytes { state with statusAfterCr := false } :=
    ⟨inv.unbroken, inv.couldBe, inv.within, by simp⟩
  unfold consumeStatusText
  by_cases after : state.statusAfterCr = true
  · rw [if_pos after]
    by_cases newline : first.head? = Option.some '\n'
    · obtain ⟨tail, rfl⟩ : ∃ tail, first = '\n' :: tail := by
        cases first with
        | nil => cases newline
        | cons head tail =>
          cases newline
          exact ⟨tail, rfl⟩
      have leads : Leads request.statusScanBytes state ['\n'] { state with statusAfterCr := false } tail := by
        have same (rest : Text) : remainingText state (['\n'] ++ rest) =
            remainingText { state with statusAfterCr := false } rest := by
          simp [remainingText, after, withoutNewline]
        refine ⟨fun rest => ?_, fun rest => ?_, fun rest comes => ?_⟩
        · unfold expected
          rw [same]
        · unfold Comes
          rw [same]
        · unfold Comes
          rw [same]
          exact comes
      exact leads.consumed (remainder_consumed (Nat.le_refl _) settled rfl)
    · have leads : Leads request.statusScanBytes state [] { state with statusAfterCr := false } first := by
        have same (rest : Text) : remainingText state ([] ++ (first ++ rest)) =
            remainingText { state with statusAfterCr := false } (first ++ rest) := by
          simp [remainingText, after, withoutNewline_append rest newline some]
        refine ⟨fun rest => ?_, fun rest => ?_, fun rest comes => ?_⟩
        · unfold expected
          rw [same]
        · unfold Comes
          rw [same]
        · unfold Comes
          rw [same]
          exact comes
      have kept : withoutNewline first = first := if_neg newline
      rw [kept]
      exact leads.consumed (remainder_consumed (Nat.le_refl _) settled rfl)
  · rw [if_neg after]
    have same : { state with statusAfterCr := false } = state := by
      cases state
      simp_all
    rw [same]
    exact remainder_consumed (Nat.le_refl _) inv (by simpa using after)

theorem scanText_outcome (inv : Inv request.statusScanBytes state)
    (begun : first = [] → second.head? ≠ some '\n') :
    Outcome request state (first ++ second)
      (fun after => Inv request.statusScanBytes after ∧ Passes request.statusScanBytes state after (first ++ second) second)
      (Comes (Exceeding request.statusScanBytes) state first) (scanText request state first) := by
  unfold scanText
  by_cases active : state.statusActive = true
  · rw [if_pos active]
    by_cases none : first = []
    · subst none
      have plain := begun rfl
      have returned : consumeStatusText request state [] = .ok { state with statusAfterCr := false } := by
        simp [consumeStatusText, withoutNewline, consumeRemainder]
      rw [returned]
      refine .ok ⟨⟨inv.unbroken, inv.couldBe, inv.within, by simp⟩, ?_⟩
      have same : remainingText state ([] ++ second) = remainingText { state with statusAfterCr := false } second := by
        simp [remainingText, withoutNewline, plain]
      refine ⟨?_, ?_, fun comes => ?_⟩
      · unfold expected
        rw [same]
      · unfold Comes
        rw [same]
      · unfold Comes
        rw [same]
        exact comes
    · have consumed := text_consumed inv active none
      generalize consumeStatusText request state first = result at consumed ⊢
      cases consumed with
      | goesOn later leads =>
        exact .ok ⟨later, leads.expected second, leads.exceeds second, leads.overlong second⟩
      | malformed malformed within => exact .malformed (malformed second) (within second)
      | limited exceeds overlong => exact .limited exceeds (overlong second)
  · rw [if_neg active]
    have inactive : state.statusActive = false := by simpa using active
    have leads := @leads_inactive request state first inactive []
    exact .ok ⟨inv, leads.expected second, leads.exceeds second, leads.overlong second⟩

end Steps

section Chunks

variable {request : Request}

theorem readChunk_ok {state : StreamState} {chunk more : List UInt8} {first second : Text}
    (within : state.inspected + chunk.length ≤ request.maxBytes) (text : 0 ∉ chunk)
    (split : state.undecoded ++ chunk = Utf8.encode first ++ more) (begun : Utf8.Begun more second) :
    readChunk request state chunk = (scanText request state.scan first).map fun scan =>
      { inspected := state.inspected + chunk.length, digested := state.digested ++ chunk, undecoded := more, scan } := by
  unfold readChunk
  dsimp only
  rw [raiseIf, if_neg (Nat.not_lt.mpr within), ok_bind, raiseIf, if_neg text, ok_bind, split, Utf8.decode_encode begun]
  dsimp only
  cases scanText request state.scan first with
  | error raised => rfl
  | ok scan => rfl

structure Read (request : Request) (state : StreamState) (bytes : List UInt8) (text : Text) (after : StreamState) : Prop where
  inspected : after.inspected = state.inspected + bytes.length
  digested : after.digested = state.digested ++ bytes
  undecoded : after.undecoded = []
  inv : Inv request.statusScanBytes after.scan
  passes : Passes request.statusScanBytes state.scan after.scan text []

theorem readChunks_outcome {chunks : List (List UInt8)} {state : StreamState} {text : Text}
    (nonempty : ∀ chunk ∈ chunks, chunk ≠ []) (bytes : state.undecoded ++ chunks.flatten = Utf8.encode text)
    (begun : Utf8.Begun state.undecoded text) (inv : Inv request.statusScanBytes state.scan) (plain : 0 ∉ chunks.flatten)
    (within : state.inspected + chunks.flatten.length ≤ request.maxBytes) :
    Outcome request state.scan text (Read request state chunks.flatten text)
      (chunks.length ≤ 1 → Comes (Exceeding request.statusScanBytes) state.scan text) (readChunks request state chunks) := by
  induction chunks generalizing state text with
  | nil =>
    rw [List.flatten_nil, List.append_nil] at bytes
    cases begun.empty bytes
    rw [Utf8.encode_nil] at bytes
    exact .ok ⟨by simp, by simp, bytes, inv, .refl _ _ _⟩
  | cons chunk chunks ih =>
    have some := nonempty chunk List.mem_cons_self
    rw [List.flatten_cons, List.mem_append, not_or] at plain
    rw [List.flatten_cons, List.length_append] at within
    rw [List.flatten_cons, ← List.append_assoc] at bytes
    obtain ⟨first, second, more, rfl, split, later⟩ := Utf8.cut_encode ⟨_, bytes⟩
    have read := @readChunk_ok request _ _ _ _ _ (by omega : state.inspected + chunk.length ≤ request.maxBytes) plain.1 split later
    have rest : more ++ chunks.flatten = Utf8.encode second := by
      rw [split, Utf8.encode_append, List.append_assoc] at bytes
      exact List.append_cancel_left bytes
    have head : first = [] → second.head? ≠ Option.some '\n' := by
      rintro rfl newline
      have begins : more ≠ [] := by
        rintro rfl
        rw [Utf8.encode_nil, List.append_nil] at split
        exact some (List.append_eq_nil_iff.mp split).2
      exact absurd (later.head begins newline) (by decide)
    rw [readChunks, if_neg some, read]
    have scanned := scanText_outcome inv head
    generalize scanText request state.scan first = result at scanned ⊢
    cases scanned with
    | @ok scan holds =>
      obtain ⟨kept, passes⟩ := holds
      have others : ∀ chunk ∈ chunks, chunk ≠ [] := fun chunk member => nonempty chunk (List.mem_cons_of_mem _ member)
      have outcome := passes.outcome (@ih { inspected := state.inspected + chunk.length
                                            digested := state.digested ++ chunk
                                            undecoded := more
                                            scan } _ others rest later kept plain.2 (by dsimp only; omega))
      rw [Except.map, ok_bind]
      generalize readChunks request _ chunks = result at outcome ⊢
      cases outcome with
      | ok read =>
        refine .ok ⟨?_, ?_, read.undecoded, read.inv, ?_⟩
        · rw [read.inspected, List.flatten_cons, List.length_append, Nat.add_assoc]
        · rw [read.digested, List.flatten_cons, List.append_assoc]
        · exact ⟨passes.expected.trans read.passes.expected, passes.exceeds.trans read.passes.exceeds,
            fun comes => passes.overlong (read.passes.overlong comes)⟩
      | malformed malformed fits => exact .malformed malformed fits
      | limited exceeds overlong =>
        refine .limited (fun single => passes.exceeds.mpr (exceeds ?_)) overlong
        rw [List.length_cons] at single
        omega
    | malformed malformed fits => exact .malformed malformed fits
    | limited exceeds overlong =>
      refine .limited (fun single => ?_) overlong
      cases List.eq_nil_of_length_eq_zero (Nat.le_zero.mp (Nat.le_of_succ_le_succ single))
      rw [List.flatten_nil, List.append_nil] at rest
      cases later.empty rest
      rw [List.append_nil]
      exact exceeds

theorem finishScan_outcome {state : ScanState} (inv : Inv request.statusScanBytes state) :
    (∃ finished, finishScan request state = .ok finished ∧ expected state [] = .ok finished.statusFields) ∨
      (finishScan request state = .error (malformedError request) ∧ expected state [] = .error .statusFieldMalformed) := by
  unfold finishScan expected
  by_cases active : state.statusActive = true
  · have returned : consumeStatusText request state [] = .ok { state with statusAfterCr := false } := by
      simp [consumeStatusText, withoutNewline, consumeRemainder]
    have rest : remainingText state [] = state.statusBuffer := by
      simp [remainingText, withoutNewline]
    rw [if_pos active, if_pos active, returned, ok_bind, rest, splitBreaks_unbroken inv.unbroken, statusFieldsFrom_cons]
    dsimp only
    by_cases empty : state.statusBuffer = []
    · have blank : classify state.titleSeen state.statusSeen [] = .blank := rfl
      rw [if_pos empty, empty, blank]
      exact .inl ⟨_, rfl, by simp [statusFieldsFrom]⟩
    · rw [if_neg empty, consumeStatusLine_eq _ _ inv.unbroken]
      dsimp only
      cases classify state.titleSeen state.statusSeen state.statusBuffer with
      | malformed => exact .inr ⟨rfl, rfl⟩
      | field value => exact .inl ⟨_, rfl, rfl⟩
      | blank => exact .inl ⟨_, rfl, by simp [statusFieldsFrom]⟩
      | title => exact .inl ⟨_, rfl, by simp [statusFieldsFrom]⟩
      | body => exact .inl ⟨_, rfl, by simp⟩
  · rw [if_neg active, if_neg active]
    exact .inl ⟨state, rfl, rfl⟩

end Chunks

section Whole

structure Scans (request : Request) (text : Text) : Prop where
  strategy : request.strategy = "STRUCTURED_STATUS_FIELD_SCAN"
  size : request.size = (Utf8.encode text).length
  returnCode : request.returnCode = 0
  plain : '\x00' ∉ text

/-- A way of reading the bytes of a text: no chunk of a stream is empty before its end. -/
def Split (text : Text) (chunks : List (List UInt8)) : Prop :=
  (∀ chunk ∈ chunks, chunk ≠ []) ∧ chunks.flatten = Utf8.encode text

def wholeScan (request : Request) (sha256 : List UInt8 → String) (text : Text) :
    Except ReaderError PlanningEvidenceInspection :=
  match structuredStatusFields text with
  | .error _ => .error (malformedError request)
  | .ok statusFields => .ok {
      content := []
      blobSize := request.size
      blobSha256 := sha256 (Utf8.encode text)
      inspectedBytes := request.size
      statusFields }

def MetadataLine (wanted : Bool → Bool → Text → Prop) (text : Text) : Prop := Reaches wanted false false (splitBreaks text)

variable {request : Request} {text : Text} {chunks : List (List UInt8)} (sha256 : List UInt8 → String)

theorem start_inv (limit : Nat) : Inv limit {} :=
  ⟨by simp [Unbroken], fun _ => .inl rfl, Nat.zero_le _, fun _ => rfl⟩

theorem comes_start {wanted : Bool → Bool → Text → Prop} : Comes wanted {} text ↔ MetadataLine wanted text := by
  simp [Comes, MetadataLine, remainingText]

theorem expected_start : expected {} text = structuredStatusFields text := by
  simp only [expected, if_true, remainingText, List.nil_append, Bool.false_eq_true, if_false, structuredStatusFields]
  cases statusFieldsFrom false false 1 (splitBreaks text) <;> rfl

theorem inspect_eq (scans : Scans request text) (within : request.size ≤ request.maxBytes) :
    inspect request sha256 chunks = (do
      let stream ← readChunks request { scan := {} } chunks
      raiseIf (stream.undecoded ≠ []) (ceilingError request .invalidUtf8 request.size)
      let scan ← finishScan request stream.scan
      raiseIf (stream.inspected ≠ request.size) {
        reason := .concurrentSizeDrift
        metadata := { path := request.path, blobSize := some stream.inspected, appliedTrustedCeiling := some request.maxBytes } }
      return {
        content := []
        blobSize := request.size
        blobSha256 := sha256 stream.digested
        inspectedBytes := stream.inspected
        statusFields := scan.statusFields }) := by
  have complete : (request.strategy = "COMPLETE_BLOB_SCAN") = False := by
    rw [scans.strategy]
    exact eq_false (by decide)
  unfold inspect
  rw [raiseIf_neg (Nat.not_lt.mpr within), ok_bind]
  simp only [complete, decide_false, Bool.not_false, Bool.false_eq_true, if_false, scans.returnCode, ne_eq,
    not_true_eq_false, raiseIf_neg not_false, ok_bind]

theorem inspect_outcome (scans : Scans request text) (within : request.size ≤ request.maxBytes) (split : Split text chunks) :
    (inspect request sha256 chunks = wholeScan request sha256 text ∧ ¬MetadataLine (Exceeding request.statusScanBytes) text) ∨
      (inspect request sha256 chunks = .error (scanLimitError request) ∧
        MetadataLine (Overlong request.statusScanBytes) text ∧
        (chunks.length ≤ 1 → MetadataLine (Exceeding request.statusScanBytes) text)) := by
  have outcome := @readChunks_outcome request chunks { scan := {} } text split.1 split.2 (.inl rfl) (start_inv _)
    (by
      rw [split.2]
      exact fun zero => scans.plain (Utf8.zero_mem_encode zero))
    (by
      rw [split.2, ← scans.size, Nat.zero_add]
      exact within)
  rw [inspect_eq sha256 scans within]
  generalize readChunks request { scan := {} } chunks = result at outcome ⊢
  cases outcome with
  | @ok after read =>
    have fits := read.passes.exceeds.not.mpr read.inv.not_exceeding
    rw [comes_start] at fits
    have inspected : after.inspected = request.size := by
      rw [read.inspected, Nat.zero_add, split.2, scans.size]
    have digested : after.digested = Utf8.encode text := by
      rw [read.digested, List.nil_append, split.2]
    have whole := expected_start.symm.trans read.passes.expected
    rw [ok_bind, raiseIf, if_neg (not_not_intro read.undecoded), ok_bind, wholeScan, whole]
    refine .inl ⟨?_, fits⟩
    rcases finishScan_outcome read.inv with ⟨finished, returned, fields⟩ | ⟨raised, malformed⟩
    · rw [returned, ok_bind, raiseIf, if_neg (not_not_intro inspected), ok_bind, fields, inspected, digested]
      rfl
    · rw [raised, error_bind, malformed]
  | malformed malformed fits =>
    rw [expected_start] at malformed
    rw [comes_start] at fits
    rw [wholeScan, malformed]
    exact .inl ⟨rfl, fits⟩
  | limited exceeds overlong =>
    exact .inr ⟨rfl, comes_start.mp overlong, fun single => comes_start.mp (exceeds single)⟩

theorem splitBreaks_cases (text : Text) : (Unbroken text ∧ splitBreaks text = [text]) ∨
    ∃ line delimiter rest, text = line ++ delimiter :: rest ∧ Unbroken line ∧ isBreak delimiter = true ∧
      splitBreaks text = line :: splitBreaks (afterBreak delimiter rest) := by
  have split := List.takeWhile_append_dropWhile (p := (!isBreak ·)) (l := text)
  have front := unbroken_takeWhile text
  cases breaks : text.dropWhile (!isBreak ·) with
  | nil =>
    rw [breaks, List.append_nil] at split
    rw [split] at front
    exact .inl ⟨front, splitBreaks_unbroken front⟩
  | cons delimiter rest =>
    have isDelimiter : isBreak delimiter = true := by
      have head := List.head_dropWhile_not (p := (!isBreak ·)) (l := text) (by simp [breaks])
      simpa [breaks] using head
    rw [breaks] at split
    refine .inr ⟨_, delimiter, rest, split.symm, front, isDelimiter, ?_⟩
    rw [← splitBreaks_broken front isDelimiter, split]

theorem exists_terminator {delimiter : Char} {rest first second : Text} (breaks : isBreak delimiter = true)
    (split : afterBreak delimiter rest = first ++ second) :
    ∃ start, delimiter :: rest = start ++ second ∧
      ∀ line, Unbroken line → splitBreaks (line ++ start) = line :: splitBreaks first := by
  unfold afterBreak at split
  by_cases carriage : delimiter = '\r'
  · subst carriage
    rw [if_pos rfl] at split
    by_cases newline : rest.head? = some '\n'
    · rw [withoutNewline, if_pos newline] at split
      obtain ⟨tail, rfl⟩ : ∃ tail, rest = '\n' :: tail := by
        cases rest with
        | nil => cases newline
        | cons head tail =>
          cases newline
          exact ⟨tail, rfl⟩
      refine ⟨'\r' :: '\n' :: first, by simpa using split, fun line unbroken => ?_⟩
      rw [splitBreaks_broken unbroken breaks]
      rfl
    · rw [withoutNewline, if_neg newline] at split
      subst split
      refine ⟨'\r' :: first, rfl, fun line unbroken => ?_⟩
      have plain : first.head? ≠ some '\n' := by
        intro begins
        cases first with
        | nil => cases begins
        | cons head tail => exact newline begins
      rw [splitBreaks_broken unbroken breaks, afterBreak, if_pos rfl, withoutNewline, if_neg plain]
  · rw [if_neg carriage] at split
    refine ⟨delimiter :: first, by rw [split, List.cons_append], fun line unbroken => ?_⟩
    rw [splitBreaks_broken unbroken breaks, afterBreak, if_neg carriage]

theorem exists_cut {limit : Nat} {titleSeen statusSeen : Bool} {text : Text}
    (reaches : Reaches (Overlong limit) titleSeen statusSeen (splitBreaks text)) :
    ∃ first second, text = first ++ second ∧ Reaches (Exceeding limit) titleSeen statusSeen (splitBreaks first) := by
  generalize same : splitBreaks text = lines at reaches
  have here (more : Text) {line : Text} {titleSeen statusSeen : Bool} (unbroken : Unbroken line)
      (overlong : Overlong limit titleSeen statusSeen line) :
      ∃ first second, line ++ more = first ++ second ∧ Reaches (Exceeding limit) titleSeen statusSeen (splitBreaks first) := by
    obtain ⟨start, ⟨tail, rfl⟩, exceeding⟩ := overlong
    refine ⟨start, tail ++ more, List.append_assoc _ _ _, ?_⟩
    have plain := unbroken.prefix (List.prefix_append start tail)
    rw [splitBreaks_unbroken plain]
    exact .here exceeding
  induction reaches generalizing text with
  | here overlong =>
    rcases splitBreaks_cases text with ⟨unbroken, split⟩ | ⟨line, delimiter, rest, rfl, unbroken, breaks, split⟩
    · cases split.symm.trans same
      have found := here [] unbroken overlong
      rwa [List.append_nil] at found
    · cases split.symm.trans same
      exact here _ unbroken overlong
  | later goes _ ih =>
    rcases splitBreaks_cases text with ⟨unbroken, split⟩ | ⟨line, delimiter, rest, rfl, unbroken, breaks, split⟩
    · cases split.symm.trans same
      have none : splitBreaks ([] : Text) = [[]] := rfl
      rename_i reaches
      cases reaches
    · cases split.symm.trans same
      obtain ⟨first, second, cut, exceeds⟩ := ih rfl
      obtain ⟨start, whole, lines⟩ := exists_terminator breaks cut
      refine ⟨_ ++ start, second, by rw [whole, List.append_assoc], ?_⟩
      rw [lines _ unbroken]
      exact .later goes exceeds

theorem inspect_cut {first : Text} {others : List (List UInt8)} (scans : Scans request text)
    (within : request.size ≤ request.maxBytes) (split : Split text (Utf8.encode first :: others))
    (exceeds : MetadataLine (Exceeding request.statusScanBytes) first) :
    inspect request sha256 (Utf8.encode first :: others) = .error (scanLimitError request) := by
  have some : Utf8.encode first ≠ [] := split.1 _ List.mem_cons_self
  have text : first ≠ [] := mt Utf8.encode_eq_nil.mpr some
  have bytes := split.2
  rw [List.flatten_cons] at bytes
  have length : (Utf8.encode first).length ≤ request.maxBytes := by
    have whole := congrArg List.length bytes
    rw [List.length_append] at whole
    have size := scans.size
    omega
  have plain : 0 ∉ Utf8.encode first := by
    intro zero
    apply scans.plain
    apply Utf8.zero_mem_encode
    rw [← bytes]
    exact List.mem_append_left _ zero
  have read := @readChunk_ok request { scan := {} } (Utf8.encode first) [] first [] (by simpa using length) plain
    (by simp) (.inl rfl)
  rw [inspect_eq sha256 scans within, readChunks, if_neg some, read, scanText, if_pos rfl]
  have consumed := text_consumed (start_inv request.statusScanBytes) rfl text
  have comes := comes_start.mpr exceeds
  generalize consumeStatusText request {} first = result at consumed ⊢
  cases consumed with
  | goesOn inv leads =>
    have none := (leads.exceeds []).mp (by simpa using comes)
    exact absurd none inv.not_exceeding
  | malformed _ fits => exact absurd comes (by simpa using fits [])
  | limited => rfl

theorem wholeScan_ne : wholeScan request sha256 text ≠ .error (scanLimitError request) := by
  unfold wholeScan
  cases structuredStatusFields text with
  | error reason => simp [malformedError, ceilingError, scanLimitError]
  | ok fields => simp

theorem whole_split (text : Text) (some : text ≠ []) : Split text [Utf8.encode text] :=
  ⟨by simp [Utf8.encode_eq_nil, some], by simp⟩

/-- What the status scan of a blob gives, and when it does not depend on how the blob is read. -/
theorem inspect_split (scans : Scans request text) :
    (request.size ≤ request.maxBytes → ∀ chunks, Split text chunks →
      inspect request sha256 chunks = .error (scanLimitError request) ∨
        inspect request sha256 chunks = wholeScan request sha256 text) ∧
      ((∀ chunks chunks', Split text chunks → Split text chunks' →
          inspect request sha256 chunks = inspect request sha256 chunks') ↔
        (request.size ≤ request.maxBytes → MetadataLine (Overlong request.statusScanBytes) text →
          MetadataLine (Exceeding request.statusScanBytes) text)) := by
  refine ⟨fun within chunks split => ?_, fun same within overlong => ?_, fun condition chunks chunks' split split' => ?_⟩
  · rcases inspect_outcome sha256 scans within split with ⟨whole, _⟩ | ⟨limited, _⟩
    · exact .inr whole
    · exact .inl limited
  · by_contra fits
    obtain ⟨first, second, rfl, exceeds⟩ := exists_cut overlong
    have some : first ≠ [] := by
      rintro rfl
      rcases reaches_cons.mp (show Reaches _ _ _ [[]] from exceeds) with ⟨_, long⟩ | ⟨_, _, later⟩
      · exact absurd long (Nat.not_lt.mpr (Nat.zero_le _))
      · cases later
    have rest : second ≠ [] := by
      rintro rfl
      rw [List.append_nil] at fits
      exact fits exceeds
    have split : Split (first ++ second) [Utf8.encode first, Utf8.encode second] :=
      ⟨by simp [Utf8.encode_eq_nil, some, rest], by simp⟩
    have single := whole_split (first ++ second) (by simp [some])
    have limited := (same _ _ single split).trans (inspect_cut sha256 scans within split exceeds)
    rcases inspect_outcome sha256 scans within single with ⟨whole, _⟩ | ⟨_, _, exceeding⟩
    · exact wholeScan_ne sha256 (whole.symm.trans limited)
    · exact fits (exceeding (Nat.le_refl _))
  · by_cases within : request.size ≤ request.maxBytes
    · rcases inspect_outcome sha256 scans within split with ⟨whole, fits⟩ | ⟨limited, overlong, _⟩
      · rcases inspect_outcome sha256 scans within split' with ⟨whole', _⟩ | ⟨_, overlong, _⟩
        · exact whole.trans whole'.symm
        · exact absurd (condition within overlong) fits
      · rcases inspect_outcome sha256 scans within split' with ⟨_, fits⟩ | ⟨limited', _⟩
        · exact absurd (condition within overlong) fits
        · exact limited.trans limited'.symm
    · have excess (chunks : List (List UInt8)) : inspect request sha256 chunks = .error {
          reason := .sizeLimitExceeded
          metadata := {
            path := request.path
            blobSize := some request.size
            appliedTrustedCeiling := some request.maxBytes } } := by
        rw [inspect, raiseIf_pos (Nat.lt_of_not_le within), error_bind]
      exact (excess chunks).trans (excess chunks').symm

def sampleRequest (statusScanBytes size : Nat) : Request where
  path := "docs/plan.md"
  maxBytes := 4096
  strategy := "STRUCTURED_STATUS_FIELD_SCAN"
  statusScanBytes := statusScanBytes
  size := size

/-- Spaces that begin an ordinary line, read with the line and on their own. -/
theorem inspect_split_spaces :
    Scans (sampleRequest 4 6) "     x".toList ∧
      Split "     x".toList [Utf8.encode "     x".toList] ∧
      Split "     x".toList [Utf8.encode "     ".toList, Utf8.encode "x".toList] ∧
      inspect (sampleRequest 4 6) (fun _ => "digest") [Utf8.encode "     ".toList, Utf8.encode "x".toList] =
        .error (scanLimitError (sampleRequest 4 6)) ∧
      inspect (sampleRequest 4 6) (fun _ => "digest") [Utf8.encode "     x".toList] ≠
        inspect (sampleRequest 4 6) (fun _ => "digest") [Utf8.encode "     ".toList, Utf8.encode "x".toList] := by
  refine ⟨⟨rfl, rfl, rfl, by decide⟩, ⟨by decide, rfl⟩, ⟨by decide, rfl⟩, by decide +kernel, by decide +kernel⟩

theorem inspect_split_sample :
    (∀ chunks, Split "**Status:** Open".toList chunks →
      inspect (sampleRequest 64 16) (fun _ => "digest") chunks = .error (scanLimitError (sampleRequest 64 16)) ∨
        inspect (sampleRequest 64 16) (fun _ => "digest") chunks =
          wholeScan (sampleRequest 64 16) (fun _ => "digest") "**Status:** Open".toList) ∧
      ∀ chunks chunks', Split "**Status:** Open".toList chunks → Split "**Status:** Open".toList chunks' →
        inspect (sampleRequest 64 16) (fun _ => "digest") chunks = inspect (sampleRequest 64 16) (fun _ => "digest") chunks' := by
  have scans : Scans (sampleRequest 64 16) "**Status:** Open".toList := ⟨rfl, rfl, rfl, by decide⟩
  have independent := inspect_split (fun _ => "digest") scans
  refine ⟨independent.1 (by decide), independent.2.mpr fun _ overlong => ?_⟩
  have lines : splitBreaks "**Status:** Open".toList = ["**Status:** Open".toList] := rfl
  rw [MetadataLine, lines, reaches_cons] at overlong
  rcases overlong with ⟨start, ⟨rest, whole⟩, _, long⟩ | ⟨_, _, later⟩
  · have length := congrArg Text.utf8Length whole
    rw [utf8Length_append] at length
    have bytes : Text.utf8Length "**Status:** Open".toList = 16 := rfl
    have limit : (sampleRequest 64 16).statusScanBytes = 64 := rfl
    omega
  · cases later

end Whole

end Aep.PinnedWorkspace
