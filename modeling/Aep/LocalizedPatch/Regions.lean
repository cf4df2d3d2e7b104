import Aep.Library.Json
import Aep.Library.Pattern
import Aep.Library.Result

namespace Aep.LocalizedPatch

def markdownLines : Text → List Text
  | [] => []
  | '\r' :: '\n' :: rest => ['\r', '\n'] :: markdownLines rest
  | char :: rest =>
    if char = '\n' || char = '\r' then [char] :: markdownLines rest
    else
      match markdownLines rest with
      | [] => [[char]]
      | line :: others => (char :: line) :: others

theorem flatten_markdownLines (content : Text) : (markdownLines content).flatten = content := by
  fun_induction markdownLines content with
  | case1 => rfl
  | case2 rest ih => simp [ih]
  | case3 char rest _ terminator ih => simp [ih]
  | case4 char rest _ _ lines ih =>
    rw [lines] at ih
    simp [← ih]
  | case5 char rest _ _ line others lines ih =>
    rw [lines] at ih
    simp [← ih]

structure Heading where
  offset : Nat
  title : Text
  level : Nat
  line : Nat
  deriving DecidableEq

structure Fence where
  start : Nat
  stop : Nat
  info : Text
  line : Nat
  deriving DecidableEq

structure ActiveFence where
  markerChar : Char
  markerLength : Nat
  start : Nat
  info : Text
  line : Nat
  deriving DecidableEq

/-- What ends an HTML block. -/
inductive HtmlTerminator where
  | closingTag (tag : Text)
  | mark (text : String)
  | blankLine
  deriving DecidableEq

def HtmlTerminator.search : HtmlTerminator → Text → Bool
  | .closingTag tag, text =>
    (Pattern.sequence [.literal "</", .caseless tag, .many .space, .literal ">"]).search text
  | .mark needle, text => Text.contains needle.toList text
  | .blankLine, text => (Pattern.sequence [.many (.anyOf " \t"), .atEnd]).accepted text

/-- `^ {0,3}` in front of a pattern. -/
def indented (parts : List Pattern) : Pattern := .seq (.upTo 3 (.char ' ')) (.sequence parts)

def fencePattern : Pattern :=
  indented [.oneOf [
    .seq (.group "ticks" (.atLeast 3 (.anyOf "`"))) (.group "tick_info" (.many (.noneOf "`"))),
    .seq (.group "tildes" (.atLeast 3 (.anyOf "~"))) (.group "tilde_info" (.many .any))], .atEnd]

def closingPattern (markerChar : Char) (markerLength : Nat) : Pattern :=
  indented [.atLeast markerLength (.char markerChar), .many (.anyOf " \t"), .atEnd]

def rawTextPattern : Pattern :=
  indented [.literal "<",
    .group "tag" (.oneOf (["script", "pre", "style", "textarea"].map fun tag => .caseless tag.toList)),
    .oneOf [.space, .literal ">", .atEnd]]

def blockTags : List String :=
  ["address", "article", "aside", "base", "basefont", "blockquote", "body", "caption", "center", "col", "colgroup",
    "dd", "details", "dialog", "dir", "div", "dl", "dt", "fieldset", "figcaption", "figure", "footer", "form", "frame",
    "frameset", "h1", "h2", "h3", "h4", "h5", "h6", "head", "header", "hgroup", "hr", "html", "iframe", "legend", "li",
    "link", "main", "menu", "menuitem", "nav", "noframes", "ol", "optgroup", "option", "p", "param", "search",
    "section", "summary", "table", "tbody", "td", "tfoot", "th", "thead", "title", "tr", "track", "ul"]

def blockTagPattern : Pattern :=
  indented [.literal "<", .optional (.literal "/"), .oneOf (blockTags.map fun tag => .caseless tag.toList),
    .oneOf [.space, .seq (.optional (.literal "/")) (.literal ">"), .atEnd]]

def letter : Pattern := .one Char.isAlpha

def attributePattern : Pattern :=
  .sequence [.repeated .space, .one fun char => char.isAlpha || char = '_' || char = ':',
    .many (.one fun char => char.isAlphanum || "_.:-".toList.contains char),
    .optional (.sequence [.many .space, .literal "=", .many .space, .oneOf [
      .repeated (.noneOf " \t\r\n\"'=<>`"),
      .sequence [.literal "'", .many (.noneOf "'"), .literal "'"],
      .sequence [.literal "\"", .many (.noneOf "\""), .literal "\""]]])]

def anyTagPattern : Pattern :=
  indented [.literal "<", .optional (.literal "/"), letter, .many (.one fun char => char.isAlphanum || char = '-'),
    .many attributePattern, .many .space, .optional (.literal "/"), .literal ">", .many (.anyOf " \t"), .atEnd]

def headingPattern : Pattern :=
  indented [.group "marks" (.seq (.literal "#") (.upTo 5 (.literal "#"))),
    .oneOf [.seq (.repeated (.anyOf " \t")) (.group "body" (.many .any)), .many (.anyOf " \t")], .atEnd]

def closingMarksPattern : Pattern :=
  .sequence [.group "title" (.few .any), .repeated (.anyOf " \t"), .repeated (.literal "#"), .atEnd]

def isBlank (char : Char) : Bool := char = ' ' || char = '\t'

def headingTitle (body : Text) : Text :=
  let title := body.rstrip isBlank
  match closingMarksPattern.matchStart title with
  | some closing => ((closing.group "title").getD []).rstrip isBlank
  | none => if title.all (· = '#') then [] else title

/-- What a line opens where no fence and no HTML block is open. -/
inductive LineKind where
  | html (terminator : Option HtmlTerminator)
  | fence (marker info : Text)
  | heading (marks body : Text)
  | other
  deriving DecidableEq

/-- An HTML block that ends with a mark is over at once when its first line holds the mark. -/
def markedBlock (mark : String) (text : Text) : LineKind :=
  .html (if Text.contains mark.toList text then none else some (.mark mark))

def fenceOrHeading (text : Text) : LineKind :=
  match fencePattern.matchStart text with
  | some found =>
    .fence (((found.group "ticks").orElse fun _ => found.group "tildes").getD [])
      ((((found.group "tick_info").filter fun info => !info.isEmpty).orElse fun _ => found.group "tilde_info").getD [])
  | none =>
    match headingPattern.matchStart text with
    | some heading => .heading ((heading.group "marks").getD []) ((heading.group "body").getD [])
    | none => .other

def lineKind (paragraphActive : Bool) (text : Text) : LineKind :=
  match rawTextPattern.matchStart text with
  | some html =>
    let terminator := HtmlTerminator.closingTag ((html.group "tag").getD [])
    .html (if terminator.search html.rest then none else some terminator)
  | none =>
    if (indented [.literal "<!--"]).accepted text then
      .html (if Text.contains "-->".toList ((Text.after? "<!--".toList text).getD []) then none else some (.mark "-->"))
    else if (indented [.literal "<?"]).accepted text then markedBlock "?>" text
    else if (indented [.literal "<!", .one Char.isUpper]).accepted text then markedBlock ">" text
    else if (indented [.literal "<![", .caseless "CDATA".toList, .literal "["]).accepted text then markedBlock "]]>" text
    else if blockTagPattern.accepted text then .html (some .blankLine)
    else if !paragraphActive && anyTagPattern.accepted text then .html (some .blankLine)
    else fenceOrHeading text

structure Scan where
  headings : List Heading := []
  fences : List Fence := []
  active : Option ActiveFence := none
  htmlTerminator : Option HtmlTerminator := none
  paragraphActive : Bool := false
  offset : Nat := 0
  deriving DecidableEq

namespace Scan

def insideFence (scan : Scan) (fence : ActiveFence) (text : Text) : Scan :=
  if (closingPattern fence.markerChar fence.markerLength).accepted text then
    { scan with
      paragraphActive := false
      fences := scan.fences ++ [⟨fence.start, scan.offset, fence.info, fence.line⟩]
      active := none }
  else { scan with paragraphActive := false }

def outside (scan : Scan) (lineNumber : Nat) (line text : Text) : Scan :=
  match lineKind scan.paragraphActive text with
  | .html terminator => { scan with paragraphActive := false, htmlTerminator := terminator }
  | .fence marker info =>
    { scan with
      paragraphActive := false
      active := some ⟨marker.headD ' ', marker.length, scan.offset + line.length, Text.strip info, lineNumber⟩ }
  | .heading marks body =>
    { scan with
      paragraphActive := false
      headings := scan.headings ++ [⟨scan.offset, headingTitle body, marks.length, lineNumber⟩] }
  | .other => { scan with paragraphActive := !(Text.strip text).isEmpty }

/-- One round of the loop of `_markdown_structure`, before the offset moves on. -/
def read (scan : Scan) (lineNumber : Nat) (line : Text) : Scan :=
  let text := line.rstrip fun char => char = '\r' || char = '\n'
  match scan.active, scan.htmlTerminator with
  | some fence, _ => scan.insideFence fence text
  | none, some terminator =>
    { scan with paragraphActive := false, htmlTerminator := if terminator.search text then none else some terminator }
  | none, none => scan.outside lineNumber line text

def step (scan : Scan) (lineNumber : Nat) (line : Text) : Scan :=
  { scan.read lineNumber line with offset := scan.offset + line.length }

def run (scan : Scan) : (lineNumber : Nat) → List Text → Scan
  | _, [] => scan
  | lineNumber, line :: rest => run (scan.step lineNumber line) (lineNumber + 1) rest

end Scan

namespace Scan

/-- Every offset that the scan has noted stands in the text read so far. -/
structure Within (scan : Scan) (limit : Nat) : Prop where
  headings : ∀ heading ∈ scan.headings, heading.offset ≤ limit
  fences : ∀ fence ∈ scan.fences, fence.start ≤ fence.stop ∧ fence.stop ≤ limit
  active : ∀ fence, scan.active = some fence → fence.start ≤ limit

theorem Within.mono {scan : Scan} {limit higher : Nat} (within : scan.Within limit) (le : limit ≤ higher) :
    scan.Within higher where
  headings heading member := Nat.le_trans (within.headings heading member) le
  fences fence member := ⟨(within.fences fence member).1, Nat.le_trans (within.fences fence member).2 le⟩
  active fence opened := Nat.le_trans (within.active fence opened) le

theorem Within.insideFence {scan : Scan} (within : scan.Within scan.offset) {fence : ActiveFence}
    (opened : scan.active = some fence) (text : Text) : (scan.insideFence fence text).Within scan.offset := by
  unfold Scan.insideFence
  split
  · refine ⟨within.headings, ?_, by simp⟩
    intro closed member
    rcases List.mem_append.mp member with member | member
    · exact within.fences closed member
    · rw [List.mem_singleton.mp member]
      exact ⟨within.active fence opened, Nat.le_refl _⟩
  · exact ⟨within.headings, within.fences, within.active⟩

theorem Within.outside {scan : Scan} (within : scan.Within scan.offset) (lineNumber : Nat) (line text : Text) :
    (scan.outside lineNumber line text).Within (scan.offset + line.length) := by
  have later := within.mono (Nat.le_add_right scan.offset line.length)
  unfold Scan.outside
  cases lineKind scan.paragraphActive text with
  | html terminator => exact ⟨later.headings, later.fences, later.active⟩
  | fence marker info =>
    refine ⟨later.headings, later.fences, ?_⟩
    intro fence opened
    rw [← Option.some.inj opened]
  | heading marks body =>
    refine ⟨?_, later.fences, later.active⟩
    intro heading member
    rcases List.mem_append.mp member with member | member
    · exact later.headings heading member
    · rw [List.mem_singleton.mp member]
      exact Nat.le_add_right _ _
  | other => exact ⟨later.headings, later.fences, later.active⟩

theorem Within.step {scan : Scan} (within : scan.Within scan.offset) (lineNumber : Nat) (line : Text) :
    (scan.step lineNumber line).Within (scan.step lineNumber line).offset := by
  have later := within.mono (Nat.le_add_right scan.offset line.length)
  have read : (scan.read lineNumber line).Within (scan.offset + line.length) := by
    unfold Scan.read
    cases opened : scan.active with
    | some fence => exact (within.insideFence opened _).mono (Nat.le_add_right _ _)
    | none =>
      cases scan.htmlTerminator with
      | some terminator => exact ⟨later.headings, later.fences, by simp⟩
      | none => exact within.outside lineNumber line _
  exact ⟨read.headings, read.fences, read.active⟩

theorem Within.run {scan : Scan} (within : scan.Within scan.offset) (lineNumber : Nat) (lines : List Text) :
    (scan.run lineNumber lines).Within (scan.offset + lines.flatten.length) := by
  induction lines generalizing scan lineNumber with
  | nil => exact within
  | cons line rest ih =>
    have tail := ih (within.step lineNumber line) (lineNumber + 1)
    rw [List.flatten_cons, List.length_append, ← Nat.add_assoc]
    exact tail

end Scan

/-- The reasons that `PlanningEvidenceInspectionError` gives. -/
inductive InspectionReason where
  | regionSelectorMalformed
  | regionMissing
  | regionAmbiguous
  | regionUnsupported
  | regionMalformed
  | statusFieldMalformed
  | statusFieldMissing
  | statusFieldAmbiguous
  | blobIdentityMismatch
  deriving DecidableEq

def markdownStructure (content : Text) : Except InspectionReason (List Heading × List Fence) :=
  let scan := ({} : Scan).run 1 (markdownLines content)
  if scan.active.isSome then .error .regionMalformed else .ok (scan.headings, scan.fences)

theorem markdownStructure_within {content : Text} {headings : List Heading} {fences : List Fence}
    (parsed : markdownStructure content = .ok (headings, fences)) :
    (∀ heading ∈ headings, heading.offset ≤ content.length) ∧
      ∀ fence ∈ fences, fence.start ≤ fence.stop ∧ fence.stop ≤ content.length := by
  have empty : ({} : Scan).Within 0 := ⟨by simp, by simp, by simp⟩
  have within := Scan.Within.run empty 1 (markdownLines content)
  rw [flatten_markdownLines] at within
  simp only [Nat.zero_add] at within
  unfold markdownStructure at parsed
  dsimp only at parsed
  split at parsed
  · cases parsed
  · cases parsed
    exact ⟨within.headings, within.fences⟩

/-- A resolved region with its identity and the number of matches. -/
structure RegionSpan where
  start : Nat
  stop : Nat
  identity : String
  matchCount : Nat
  deriving DecidableEq

def sectionSpan (content : Text) (headings : List Heading) (name : String) : Except InspectionReason RegionSpan :=
  match headings.filter fun heading => heading.title = name.toList with
  | [] => .error .regionMissing
  | [heading] =>
    let next := headings.find? fun other => other.offset > heading.offset && other.level ≤ heading.level
    .ok ⟨heading.offset, (next.map Heading.offset).getD content.length,
      "markdown-section:" ++ name ++ ":line-" ++ toString heading.line, 1⟩
  | _ => .error .regionAmbiguous

def fenceSpan (fences : List Fence) (name : String) : Except InspectionReason RegionSpan :=
  match fences.filter fun fence => (Text.words fence.info).contains name.toList with
  | [] => .error .regionMissing
  | [fence] => .ok ⟨fence.start, fence.stop, "markdown-fence:" ++ name ++ ":line-" ++ toString fence.line, 1⟩
  | _ => .error .regionAmbiguous

def structuredSpan (content : Text) (kind name : String) : Except InspectionReason RegionSpan := do
  let (headings, fences) ← markdownStructure content
  if kind = "MARKDOWN_SECTION" then sectionSpan content headings name
  else if kind = "MARKDOWN_FENCE" then fenceSpan fences name
  else .error .regionUnsupported

def regionSpan (content : Text) (region : Record) : Except InspectionReason RegionSpan :=
  match region.field "kind", region.field "name" with
  | .str kind, .str name =>
    if (Text.strip name.toList).isEmpty then .error .regionSelectorMalformed
    else if kind = "WHOLE_FILE" then
      if name ≠ "WHOLE_FILE" then .error .regionSelectorMalformed else .ok ⟨0, content.length, "whole-file", 1⟩
    else structuredSpan content kind name
  | _, _ => .error .regionSelectorMalformed

theorem sectionSpan_within {content : Text} {headings : List Heading} {name : String} {span : RegionSpan}
    (within : ∀ heading ∈ headings, heading.offset ≤ content.length)
    (found : sectionSpan content headings name = .ok span) : span.start ≤ span.stop ∧ span.stop ≤ content.length := by
  unfold sectionSpan at found
  split at found
  · cases found
  · rename_i heading only
    have listed : heading ∈ headings := List.mem_of_mem_filter (only ▸ List.mem_singleton_self heading)
    have start_le := within heading listed
    cases found
    dsimp only
    cases next : headings.find? fun other => other.offset > heading.offset && other.level ≤ heading.level with
    | none => exact ⟨start_le, Nat.le_refl _⟩
    | some other =>
      have later := List.find?_some next
      simp only [Bool.and_eq_true, decide_eq_true_eq] at later
      exact ⟨Nat.le_of_lt later.1, within other (List.mem_of_find?_eq_some next)⟩
  · cases found

theorem fenceSpan_within {content : Text} {fences : List Fence} {name : String} {span : RegionSpan}
    (within : ∀ fence ∈ fences, fence.start ≤ fence.stop ∧ fence.stop ≤ content.length)
    (found : fenceSpan fences name = .ok span) : span.start ≤ span.stop ∧ span.stop ≤ content.length := by
  unfold fenceSpan at found
  split at found
  · cases found
  · rename_i fence only
    have listed : fence ∈ fences := List.mem_of_mem_filter (only ▸ List.mem_singleton_self fence)
    cases found
    exact within fence listed
  · cases found

theorem regionSpan_within {content : Text} {region : Record} {span : RegionSpan}
    (found : regionSpan content region = .ok span) : span.start ≤ span.stop ∧ span.stop ≤ content.length := by
  unfold regionSpan at found
  split at found
  · split at found
    · cases found
    · split at found
      · split at found
        · cases found
        · cases found
          exact ⟨Nat.zero_le _, Nat.le_refl _⟩
      · unfold structuredSpan at found
        obtain ⟨⟨headings, fences⟩, parsed, chosen⟩ := Result.bind_eq_ok.mp found
        have within := markdownStructure_within parsed
        dsimp only at chosen
        split at chosen
        · exact sectionSpan_within within.1 chosen
        · split at chosen
          · exact fenceSpan_within within.2 chosen
          · cases chosen
  · cases found

end Aep.LocalizedPatch
