import Mathlib.Data.List.Pairwise
import Aep.PlanningEvidence.Predicates

namespace Aep.PlanningEvidence

open LocalizedPatch Result

section Notes

def HeadingAt (lines : List Text) (heading : Heading) : Prop :=
  ∃ before line after marks body, lines = before ++ line :: after ∧
    fenceOrHeading (lineText line) = .heading marks body ∧
    heading = ⟨before.flatten.length, headingTitle body, marks.length, before.length + 1⟩

def Opens (opening marker info : Text) : Prop := fenceOrHeading (lineText opening) = .fence marker info

/-- A complete fence: its region begins behind the line that opens it and ends before the one that closes it. -/
def FenceAt (lines : List Text) (fence : Fence) : Prop :=
  ∃ before opening inner closing after marker info, lines = before ++ opening :: (inner ++ closing :: after) ∧
    Opens opening marker info ∧ (closingPattern (marker.headD ' ') marker.length).accepted (lineText closing) = true ∧
    fence = ⟨(before ++ [opening]).flatten.length, (before ++ opening :: inner).flatten.length, Text.strip info,
      before.length + 1⟩

def ActiveAt (lines : List Text) (active : ActiveFence) : Prop :=
  ∃ before opening inner marker info, lines = before ++ opening :: inner ∧ Opens opening marker info ∧
    active = ⟨marker.headD ' ', marker.length, (before ++ [opening]).flatten.length, Text.strip info, before.length + 1⟩

variable {lines : List Text} {heading : Heading} {fence : Fence} {active : ActiveFence}

theorem HeadingAt.append (stands : HeadingAt lines heading) (more : List Text) : HeadingAt (lines ++ more) heading := by
  obtain ⟨before, line, after, marks, body, rfl, shape, same⟩ := stands
  exact ⟨before, line, after ++ more, marks, body, by simp, shape, same⟩

theorem FenceAt.append (stands : FenceAt lines fence) (more : List Text) : FenceAt (lines ++ more) fence := by
  obtain ⟨before, opening, inner, closing, after, marker, info, rfl, opens, closes, same⟩ := stands
  exact ⟨before, opening, inner, closing, after ++ more, marker, info, by simp, opens, closes, same⟩

theorem ActiveAt.append (stands : ActiveAt lines active) (more : List Text) : ActiveAt (lines ++ more) active := by
  obtain ⟨before, opening, inner, marker, info, rfl, opens, same⟩ := stands
  exact ⟨before, opening, inner ++ more, marker, info, by simp, opens, same⟩

theorem FenceAt.of_active (stands : ActiveAt lines active) {closing : Text}
    (closes : (closingPattern active.markerChar active.markerLength).accepted (lineText closing) = true) :
    FenceAt (lines ++ [closing]) ⟨active.start, lines.flatten.length, active.info, active.line⟩ := by
  obtain ⟨before, opening, inner, marker, info, rfl, opens, rfl⟩ := stands
  exact ⟨before, opening, inner, closing, [], marker, info, by simp, opens, closes, rfl⟩

theorem FenceAt.start_le_stop (stands : FenceAt lines fence) : fence.start ≤ fence.stop := by
  obtain ⟨before, opening, inner, closing, after, marker, info, _, _, _, rfl⟩ := stands
  simp only [List.flatten_append, List.flatten_cons, List.flatten_nil, List.length_append, List.length_nil]
  omega

end Notes

section Kinds

theorem lineKind_fence {paragraphActive : Bool} {text marker info : Text}
    (kind : lineKind paragraphActive text = .fence marker info) : fenceOrHeading text = .fence marker info := by
  unfold lineKind markedBlock at kind
  repeat' split at kind
  all_goals first
    | cases kind
    | exact kind

theorem lineKind_heading {paragraphActive : Bool} {text marks body : Text}
    (kind : lineKind paragraphActive text = .heading marks body) : fenceOrHeading text = .heading marks body := by
  unfold lineKind markedBlock at kind
  repeat' split at kind
  all_goals first
    | cases kind
    | exact kind

theorem markdownLines_nonempty {content line : Text} (member : line ∈ markdownLines content) : line ≠ [] := by
  fun_induction markdownLines content with
  | case1 => cases member
  | case2 rest ih =>
    rcases List.mem_cons.mp member with rfl | later
    · simp
    · exact ih later
  | case3 char rest _ terminator ih =>
    rcases List.mem_cons.mp member with rfl | later
    · simp
    · exact ih later
  | case4 char rest _ _ none ih =>
    rw [List.mem_singleton.mp member]
    simp
  | case5 char rest _ _ first others split ih =>
    rcases List.mem_cons.mp member with rfl | later
    · simp
    · exact ih (split ▸ List.mem_cons_of_mem _ later)

end Kinds

section Scanning

structure Noted (lines : List Text) (scan : Scan) : Prop where
  offset : scan.offset = lines.flatten.length
  headings : ∀ heading ∈ scan.headings, HeadingAt lines heading ∧ heading.offset < scan.offset
  ordered : scan.headings.Pairwise (·.offset < ·.offset)
  fences : ∀ fence ∈ scan.fences, FenceAt lines fence ∧ fence.stop < scan.offset
  disjoint : scan.fences.Pairwise (·.stop < ·.start)
  outside : ∀ heading ∈ scan.headings, ∀ fence ∈ scan.fences, heading.offset < fence.start ∨ fence.stop < heading.offset
  active : ∀ active, scan.active = some active → ActiveAt lines active ∧
    (∀ heading ∈ scan.headings, heading.offset < active.start) ∧ ∀ fence ∈ scan.fences, fence.stop < active.start

variable {lines : List Text} {scan : Scan}

theorem noted_start : Noted [] {} := by
  constructor <;> simp

theorem pairwise_append_one {α : Type} {r : α → α → Prop} {items : List α} {last : α} (ordered : items.Pairwise r)
    (before : ∀ item ∈ items, r item last) : (items ++ [last]).Pairwise r := by
  rw [List.pairwise_append]
  exact ⟨ordered, List.pairwise_singleton _ _, fun item member other only => List.mem_singleton.mp only ▸ before item member⟩

theorem Noted.moves (noted : Noted lines scan) {line : Text} (some : line ≠ []) {next : Scan}
    (headings : next.headings = scan.headings) (fences : next.fences = scan.fences)
    (offset : next.offset = scan.offset + line.length)
    (active : ∀ active, next.active = Option.some active → ActiveAt (lines ++ [line]) active ∧
      scan.offset ≤ active.start ∨ scan.active = Option.some active) : Noted (lines ++ [line]) next := by
  have moved : next.offset = (lines ++ [line]).flatten.length := by
    rw [offset, noted.offset]
    simp
  have grows : scan.offset < next.offset := by
    have positive := List.length_pos_iff.mpr some
    omega
  refine ⟨moved, ?_, headings ▸ noted.ordered, ?_, fences ▸ noted.disjoint, ?_, ?_⟩
  · intro heading member
    have known := noted.headings heading (headings ▸ member)
    exact ⟨known.1.append _, Nat.lt_trans known.2 grows⟩
  · intro fence member
    have known := noted.fences fence (fences ▸ member)
    exact ⟨known.1.append _, Nat.lt_trans known.2 grows⟩
  · rw [headings, fences]
    exact noted.outside
  · intro opened isActive
    rw [headings, fences]
    rcases active opened isActive with ⟨stands, later⟩ | before
    · exact ⟨stands, fun heading member => Nat.lt_of_lt_of_le (noted.headings heading member).2 later,
        fun fence member => Nat.lt_of_lt_of_le (noted.fences fence member).2 later⟩
    · have known := noted.active opened before
      exact ⟨known.1.append _, known.2⟩

theorem Noted.closes (noted : Noted lines scan) {line : Text} (some : line ≠ []) {fence : ActiveFence}
    (opened : scan.active = Option.some fence)
    (closes : (closingPattern fence.markerChar fence.markerLength).accepted (lineText line) = true) :
    Noted (lines ++ [line]) { scan with
      paragraphActive := false
      fences := scan.fences ++ [⟨fence.start, scan.offset, fence.info, fence.line⟩]
      active := none
      offset := scan.offset + line.length } := by
  obtain ⟨stands, headings, fences⟩ := noted.active fence opened
  have positive := List.length_pos_iff.mpr some
  have closed : FenceAt (lines ++ [line]) ⟨fence.start, scan.offset, fence.info, fence.line⟩ := by
    rw [noted.offset]
    exact FenceAt.of_active stands closes
  refine ⟨by simp [noted.offset], ?_, noted.ordered, ?_, pairwise_append_one noted.disjoint fences, ?_, by simp⟩
  · intro heading member
    have known := noted.headings heading member
    exact ⟨known.1.append _, Nat.lt_add_right _ known.2⟩
  · intro other member
    rcases List.mem_append.mp member with before | last
    · have known := noted.fences other before
      exact ⟨known.1.append _, Nat.lt_add_right _ known.2⟩
    · cases List.mem_singleton.mp last
      exact ⟨closed, Nat.lt_add_of_pos_right positive⟩
  · intro heading member other among
    rcases List.mem_append.mp among with before | last
    · exact noted.outside heading member other before
    · cases List.mem_singleton.mp last
      exact .inl (headings heading member)

theorem Noted.heads (noted : Noted lines scan) {line marks body : Text} (some : line ≠ []) (inactive : scan.active = none)
    (shape : fenceOrHeading (lineText line) = .heading marks body) :
    Noted (lines ++ [line]) { scan with
      paragraphActive := false
      headings := scan.headings ++ [⟨scan.offset, headingTitle body, marks.length, lines.length + 1⟩]
      offset := scan.offset + line.length } := by
  have positive := List.length_pos_iff.mpr some
  refine ⟨by simp [noted.offset], ?_, ?_, ?_, noted.disjoint, ?_, by simp [inactive]⟩
  · intro heading member
    rcases List.mem_append.mp member with before | last
    · have known := noted.headings heading before
      exact ⟨known.1.append _, Nat.lt_add_right _ known.2⟩
    · cases List.mem_singleton.mp last
      exact ⟨⟨lines, line, [], marks, body, rfl, shape, by rw [noted.offset]⟩, Nat.lt_add_of_pos_right positive⟩
  · exact pairwise_append_one noted.ordered fun heading member => (noted.headings heading member).2
  · intro fence member
    have known := noted.fences fence member
    exact ⟨known.1.append _, Nat.lt_add_right _ known.2⟩
  · intro heading member fence among
    rcases List.mem_append.mp member with before | last
    · exact noted.outside heading before fence among
    · cases List.mem_singleton.mp last
      exact .inr (noted.fences fence among).2

theorem Noted.step (noted : Noted lines scan) {line : Text} (some : line ≠ []) :
    Noted (lines ++ [line]) (scan.step (lines.length + 1) line) := by
  unfold Scan.step Scan.read
  have text : (line.rstrip fun char => char = '\r' || char = '\n') = lineText line := rfl
  rw [text]
  cases opened : scan.active with
  | some fence =>
    dsimp only
    unfold Scan.insideFence
    by_cases closes : (closingPattern fence.markerChar fence.markerLength).accepted (lineText line) = true
    · rw [if_pos closes]
      exact noted.closes some opened closes
    · rw [if_neg closes]
      exact noted.moves some rfl rfl rfl fun _ active => .inr active
  | none =>
    cases scan.htmlTerminator with
    | some terminator => exact noted.moves some rfl rfl rfl fun _ active => .inr (by rwa [opened] )
    | none =>
      dsimp only
      unfold Scan.outside
      cases kind : lineKind scan.paragraphActive (lineText line) with
      | html terminator => exact noted.moves some rfl rfl rfl fun _ active => .inr active
      | fence marker info =>
        refine noted.moves some rfl rfl rfl fun active isActive => .inl ?_
        cases isActive
        refine ⟨⟨lines, line, [], marker, info, rfl, lineKind_fence kind, ?_⟩, Nat.le_add_right _ _⟩
        simp [noted.offset]
      | heading marks body => exact noted.heads some opened (lineKind_heading kind)
      | other => exact noted.moves some rfl rfl rfl fun _ active => .inr active

theorem Noted.run (noted : Noted lines scan) {rest : List Text} (nonempty : ∀ line ∈ rest, line ≠ []) :
    Noted (lines ++ rest) (scan.run (lines.length + 1) rest) := by
  induction rest generalizing scan lines with
  | nil =>
    rw [List.append_nil]
    exact noted
  | cons line rest ih =>
    have next := ih (noted.step (nonempty line List.mem_cons_self)) fun other member =>
      nonempty other (List.mem_cons_of_mem _ member)
    rw [List.length_append, List.append_assoc] at next
    exact next

end Scanning

section Structures

def LineStart (content : Text) (offset : Nat) : Prop :=
  ∃ before after, markdownLines content = before ++ after ∧ offset = before.flatten.length

structure WellStructured (content : Text) (headings : List Heading) (fences : List Fence) : Prop where
  headingLines : ∀ heading ∈ headings, HeadingAt (markdownLines content) heading ∧ LineStart content heading.offset
  fenceLines : ∀ fence ∈ fences, FenceAt (markdownLines content) fence ∧ fence.start ≤ fence.stop ∧
    LineStart content fence.start ∧ LineStart content fence.stop
  ordered : headings.Pairwise (·.offset < ·.offset)
  disjoint : fences.Pairwise (·.stop < ·.start)
  outside : ∀ heading ∈ headings, ∀ fence ∈ fences, heading.offset < fence.start ∨ fence.stop < heading.offset

def SectionOf (content : Text) (headings : List Heading) (name : String) (span : RegionSpan) : Prop :=
  ∃ heading ∈ headings, heading.title = name.toList ∧ span.start = heading.offset ∧
    (∀ other ∈ headings, other ≠ heading → other.level ≤ heading.level →
      ¬(span.start ≤ other.offset ∧ other.offset < span.stop)) ∧
    (span.stop = content.length ∨ ∃ other ∈ headings, other.level ≤ heading.level ∧ other.offset = span.stop)

def FenceOf (content : Text) (fences : List Fence) (name : String) (span : RegionSpan) : Prop :=
  ∃ fence ∈ fences, name.toList ∈ Text.words fence.info ∧ span.start = fence.start ∧ span.stop = fence.stop ∧
    ∃ before opening inner closing after marker info,
      markdownLines content = before ++ opening :: (inner ++ closing :: after) ∧ Opens opening marker info ∧
      (closingPattern (marker.headD ' ') marker.length).accepted (lineText closing) = true ∧
      span.start = (before ++ [opening]).flatten.length ∧
      (content.drop span.start).take (span.stop - span.start) = inner.flatten

variable {content : Text} {headings : List Heading} {fences : List Fence}

theorem HeadingAt.lineStart {heading : Heading} (stands : HeadingAt (markdownLines content) heading) :
    LineStart content heading.offset := by
  obtain ⟨before, line, after, marks, body, lines, _, rfl⟩ := stands
  exact ⟨before, line :: after, lines, rfl⟩

theorem FenceAt.lineStarts {fence : Fence} (stands : FenceAt (markdownLines content) fence) :
    LineStart content fence.start ∧ LineStart content fence.stop := by
  obtain ⟨before, opening, inner, closing, after, marker, info, lines, _, _, rfl⟩ := stands
  exact ⟨⟨before ++ [opening], inner ++ closing :: after, by simp [lines], rfl⟩,
    before ++ opening :: inner, closing :: after, by simp [lines], rfl⟩

theorem wellStructured_of_parsed (parsed : markdownStructure content = .ok (headings, fences)) :
    WellStructured content headings fences := by
  have noted := noted_start.run fun line (member : line ∈ markdownLines content) => markdownLines_nonempty member
  rw [List.nil_append, List.length_nil] at noted
  unfold markdownStructure at parsed
  dsimp only at parsed
  split at parsed
  · cases parsed
  · cases parsed
    refine ⟨fun heading member => ?_, fun fence member => ?_, noted.ordered, noted.disjoint, noted.outside⟩
    · have known := (noted.headings heading member).1
      exact ⟨known, known.lineStart⟩
    · have known := (noted.fences fence member).1
      exact ⟨known, known.start_le_stop, known.lineStarts⟩

theorem sectionSpan_section (ordered : headings.Pairwise (·.offset < ·.offset)) {name : String} {span : RegionSpan}
    (found : sectionSpan content headings name = .ok span) : SectionOf content headings name span := by
  unfold sectionSpan at found
  split at found
  · cases found
  · rename_i heading only
    have listed : heading ∈ headings.filter fun heading => heading.title = name.toList := only ▸ List.mem_singleton_self heading
    rw [List.mem_filter, decide_eq_true_eq] at listed
    have apart {first second : Heading} (one : first ∈ headings) (two : second ∈ headings)
        (same : first.offset = second.offset) : first = second := by
      by_contra different
      rcases List.pairwise_iff_getElem.mp ordered, List.mem_iff_getElem.mp one, List.mem_iff_getElem.mp two with
        ⟨less, ⟨i, hi, rfl⟩, ⟨j, hj, rfl⟩⟩
      rcases Nat.lt_trichotomy i j with before | rfl | behind
      · exact absurd same (Nat.ne_of_lt (less i j hi hj before))
      · exact different rfl
      · exact absurd same.symm (Nat.ne_of_lt (less j i hj hi behind))
    cases found
    refine ⟨heading, listed.1, listed.2, rfl, ?_, ?_⟩
    · rintro other member different level ⟨least, inside⟩
      have later : heading.offset < other.offset :=
        Nat.lt_of_le_of_ne least fun same => different (apart member listed.1 same.symm)
      cases next : headings.find? fun other => other.offset > heading.offset && other.level ≤ heading.level with
      | none =>
        have not := List.find?_eq_none.mp next other member
        simp only [Bool.and_eq_true, decide_eq_true_eq] at not
        exact not ⟨later, level⟩
      | some first =>
        obtain ⟨_, before, after, split, none⟩ := List.find?_eq_some_iff_append.mp next
        rw [next, Option.map_some, Option.getD_some] at inside
        rw [split] at member ordered
        rcases List.mem_append.mp member with early | late
        · have not := none other early
          simp only [Bool.not_eq_true', Bool.and_eq_false_iff, decide_eq_false_iff_not] at not
          omega
        · rcases List.mem_cons.mp late with rfl | behind
          · exact absurd inside (Nat.lt_irrefl _)
          · have order := (List.pairwise_cons.mp (List.pairwise_append.mp ordered).2.1).1 other behind
            exact absurd inside (Nat.not_lt.mpr (Nat.le_of_lt order))
    · cases next : headings.find? fun other => other.offset > heading.offset && other.level ≤ heading.level with
      | none => exact .inl rfl
      | some first =>
        have shape := List.find?_some next
        simp only [Bool.and_eq_true, decide_eq_true_eq] at shape
        exact .inr ⟨first, List.mem_of_find?_eq_some next, shape.2, rfl⟩
  · cases found

theorem fenceSpan_fence (fencesAt : ∀ fence ∈ fences, FenceAt (markdownLines content) fence) {name : String}
    {span : RegionSpan} (found : fenceSpan fences name = .ok span) : FenceOf content fences name span := by
  unfold fenceSpan at found
  split at found
  · cases found
  · rename_i fence only
    have listed : fence ∈ fences.filter fun fence => (Text.words fence.info).contains name.toList :=
      only ▸ List.mem_singleton_self fence
    rw [List.mem_filter, List.contains_iff_mem] at listed
    cases found
    obtain ⟨before, opening, inner, closing, after, marker, info, lines, opens, closes, rfl⟩ := fencesAt fence listed.1
    refine ⟨_, listed.1, listed.2, rfl, rfl, before, opening, inner, closing, after, marker, info, lines, opens, closes, rfl, ?_⟩
    have text : content = (before ++ [opening]).flatten ++ (inner.flatten ++ (closing :: after).flatten) := by
      rw [← flatten_markdownLines content, lines]
      simp
    have length : (before ++ opening :: inner).flatten.length - (before ++ [opening]).flatten.length = inner.flatten.length := by
      simp only [List.flatten_append, List.flatten_cons, List.flatten_nil, List.length_append, List.length_nil]
      omega
    rw [length]
    conv_lhs => rw [text]
    rw [List.drop_left, List.take_left]
  · cases found

/-- The structure of a document and the regions that are found in it. -/
theorem markdownStructure_wellStructured (parsed : markdownStructure content = .ok (headings, fences)) :
    (markdownLines content).flatten = content ∧ WellStructured content headings fences ∧
      ∀ region span, regionSpan content region = .ok span →
        span.start ≤ span.stop ∧ span.stop ≤ content.length ∧
        (region.field "kind" = .str "MARKDOWN_SECTION" →
          ∃ name, region.field "name" = .str name ∧ SectionOf content headings name span) ∧
        (region.field "kind" = .str "MARKDOWN_FENCE" →
          ∃ name, region.field "name" = .str name ∧ FenceOf content fences name span) := by
  have structured := wellStructured_of_parsed parsed
  refine ⟨flatten_markdownLines content, structured, fun region span found => ?_⟩
  obtain ⟨ordered, within⟩ := regionSpan_within found
  refine ⟨ordered, within, fun kind => ?_, fun kind => ?_⟩
  · unfold regionSpan at found
    rw [kind] at found
    cases named : region.field "name" with
    | str name =>
      rw [named] at found
      dsimp only at found
      split at found
      · cases found
      · refine ⟨name, rfl, sectionSpan_section structured.ordered ?_⟩
        rw [if_neg (by decide), structuredSpan, parsed] at found
        exact found
    | _ =>
      rw [named] at found
      cases found
  · unfold regionSpan at found
    rw [kind] at found
    cases named : region.field "name" with
    | str name =>
      rw [named] at found
      dsimp only at found
      split at found
      · cases found
      · refine ⟨name, rfl, fenceSpan_fence (fun fence member => (structured.fenceLines fence member).1) ?_⟩
        rw [if_neg (by decide), structuredSpan, parsed] at found
        exact found
    | _ =>
      rw [named] at found
      cases found

theorem markdownStructure_wellStructured_sample :
    WellStructured "# A\r```x\n# b\r\n```\n## B".toList
      [⟨0, "A".toList, 1, 1⟩, ⟨18, "B".toList, 2, 5⟩] [⟨9, 14, "x".toList, 2⟩] :=
  (markdownStructure_wellStructured (by decide +kernel)).2.1

end Structures

end Aep.PlanningEvidence
