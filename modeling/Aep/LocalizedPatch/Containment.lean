import Aep.LocalizedPatch.Operations

namespace Aep.LocalizedPatch

open Result Splice

section Calls

variable {platform : Platform} {request : Request} {scope : Scope}

theorem resolveScope_some {region : Record} (selected : request.region = some region)
    (resolved : resolveScope request = .ok scope) :
    ∃ regionStart regionEnd trusted, regionBounds request.preimage region = .ok (regionStart, regionEnd) ∧
      scope = ⟨some trusted, regionStart, regionEnd⟩ ∧ trusted.kind = region.field "kind" ∧
      trusted.selectionId = region.field "selectionId" := by
  unfold resolveScope at resolved
  rw [selected] at resolved
  obtain ⟨⟨regionStart, regionEnd⟩, bounds, made⟩ := bind_eq_ok.mp resolved
  cases made
  exact ⟨regionStart, regionEnd, _, bounds, rfl, rfl, rfl⟩

theorem resolveScope_none (selected : request.region = none) (resolved : resolveScope request = .ok scope) :
    ∀ raw ∈ request.operations, isRewrite raw = true := by
  unfold resolveScope at resolved
  rw [selected] at resolved
  dsimp only at resolved
  split at resolved
  · rename_i rewrites
    exact List.all_eq_true.mp rewrites
  · cases resolved

theorem regionBounds_within {content : Text} {region : Record} {start stop : Nat}
    (bounds : regionBounds content region = .ok (start, stop)) : start ≤ stop ∧ stop ≤ content.length := by
  unfold regionBounds at bounds
  split at bounds
  · rename_i span found
    cases bounds
    exact regionSpan_within found
  · cases bounds

theorem operationKind_mem {fields : Record} {operation : String} (known : operationKind fields = .ok operation) :
    fields.field "operation" = .str operation ∧ operation ∈ ["insert", "replace", "delete", "rewrite"] := by
  obtain ⟨found, looked, chosen⟩ := bind_eq_ok.mp known
  unfold memberOf at looked
  split at looked
  · cases looked
    cases found : (fields.field "operation").asString?.filter fun name =>
        name ∈ ["insert", "replace", "delete", "rewrite"] with
    | none =>
      rw [found] at chosen
      cases chosen
    | some name =>
      rw [found] at chosen
      cases chosen
      obtain ⟨text, listed⟩ := Option.filter_eq_some_iff.mp found
      exact ⟨Json.asString?_eq_some.mp text, by simpa using listed⟩
  · cases looked

theorem planEdit_cases {ordinal : Nat} {rewriteSeen : Bool} {raw : Json} {plan : PlannedEdit}
    (planned : planEdit platform request scope ordinal rewriteSeen raw = .ok plan) :
    ∃ fields operation content, raw = .obj fields ∧ operationKind fields = .ok operation ∧
      checkBinding platform request fields = .ok () ∧ operationContent fields = .ok content ∧
      if isRewrite raw then planRewrite request scope ordinal rewriteSeen fields content = .ok plan
      else planLocalized platform request scope ordinal operation fields content = .ok plan := by
  cases raw with
  | obj fields =>
    simp only [planEdit, bind_eq_ok] at planned
    obtain ⟨operation, known, _, bound, content, text, chosen⟩ := planned
    refine ⟨fields, operation, content, rfl, known, bound, text, ?_⟩
    have named := (operationKind_mem known).1
    by_cases rewrite : operation = "rewrite"
    · have marked : isRewrite (.obj fields) = true := by simp [isRewrite, named, rewrite]
      rw [if_pos rewrite] at chosen
      rw [if_pos marked]
      exact chosen
    · have unmarked : ¬isRewrite (.obj fields) = true := by simp [isRewrite, named, rewrite]
      rw [if_neg rewrite] at chosen
      rw [if_neg unmarked]
      exact chosen
  | _ => cases planned

theorem locate_forward {operation : String} {fields : Record} {content anchor : Text} {located : Located}
    (found : locate request scope operation fields content anchor = .ok located) :
    located.edit.start ≤ located.edit.stop := by
  unfold locate at found
  split at found
  · obtain ⟨_, _, made⟩ := bind_eq_ok.mp found
    cases made
    exact Nat.zero_le _
  · obtain ⟨line, _, made⟩ := bind_eq_ok.mp found
    split at made
    · obtain ⟨placed, _, made⟩ := bind_eq_ok.mp made
      cases placed with
      | none => cases made
      | some placement =>
        cases made
        exact Nat.le_refl _
    · split at made
      · obtain ⟨_, _, made⟩ := bind_eq_ok.mp made
        cases made
      · cases made
        exact Nat.le_add_right _ _

theorem planLocalized_within {ordinal : Nat} {operation : String} {fields : Record} {content : Text}
    {plan : PlannedEdit} (planned : planLocalized platform request scope ordinal operation fields content = .ok plan) :
    scope.regionStart ≤ plan.edit.start ∧ plan.edit.start ≤ plan.edit.stop ∧ plan.edit.stop ≤ scope.regionEnd := by
  simp only [planLocalized, bind_eq_ok, raiseIf_eq_ok] at planned
  obtain ⟨anchor, _, _, _, located, found, _, inside, made⟩ := planned
  have forward := locate_forward found
  cases made
  simp only [outOfRegion, Bool.or_eq_true, decide_eq_true_eq, not_or, Int.not_lt, gt_iff_lt] at inside
  exact ⟨inside.1.1.1.2, forward, inside.1.1.2⟩

theorem planEdit_within {ordinal : Nat} {rewriteSeen : Bool} {raw : Json} {plan : PlannedEdit}
    (planned : planEdit platform request scope ordinal rewriteSeen raw = .ok plan) (localized : isRewrite raw = false) :
    scope.regionStart ≤ plan.edit.start ∧ plan.edit.start ≤ plan.edit.stop ∧ plan.edit.stop ≤ scope.regionEnd := by
  obtain ⟨fields, operation, content, _, _, _, _, chosen⟩ := planEdit_cases planned
  rw [localized, if_neg Bool.false_ne_true] at chosen
  exact planLocalized_within chosen

theorem planEdit_record {ordinal : Nat} {rewriteSeen : Bool} {raw : Json} {plan : PlannedEdit}
    (planned : planEdit platform request scope ordinal rewriteSeen raw = .ok plan) :
    plan.record.span = (plan.edit.start, plan.edit.stop) ∧ plan.record.ordinal = ordinal ∧
      plan.record.trustedRegion = scope.trustedRegion := by
  obtain ⟨fields, operation, content, _, _, _, _, chosen⟩ := planEdit_cases planned
  split at chosen
  · obtain ⟨_, _, made⟩ := bind_eq_ok.mp chosen
    cases made
    exact ⟨rfl, rfl, rfl⟩
  · simp only [planLocalized, bind_eq_ok] at chosen
    obtain ⟨_, _, _, _, _, _, _, _, made⟩ := chosen
    cases made
    exact ⟨rfl, rfl, rfl⟩

theorem mem_planEdits {ordinal : Nat} {rewriteSeen : Bool} {operations : List Json} {planned : List PlannedEdit}
    (all : planEdits platform request scope ordinal rewriteSeen operations = .ok planned) :
    ∀ plan ∈ planned, ∃ position seen, ∃ raw ∈ operations,
      planEdit platform request scope position seen raw = .ok plan := by
  induction operations generalizing ordinal rewriteSeen planned with
  | nil =>
    cases all
    simp
  | cons raw rest ih =>
    simp only [planEdits, bind_eq_ok] at all
    obtain ⟨first, this, others, tail, made⟩ := all
    cases made
    intro plan member
    rcases List.mem_cons.mp member with rfl | member
    · exact ⟨ordinal, rewriteSeen, raw, List.mem_cons_self, this⟩
    · obtain ⟨position, seen, other, listed, its⟩ := ih tail plan member
      exact ⟨position, seen, other, List.mem_cons_of_mem raw listed, its⟩

theorem length_planEdits {ordinal : Nat} {rewriteSeen : Bool} {operations : List Json} {planned : List PlannedEdit}
    (all : planEdits platform request scope ordinal rewriteSeen operations = .ok planned) :
    planned.length = operations.length := by
  induction operations generalizing ordinal rewriteSeen planned with
  | nil =>
    cases all
    rfl
  | cons raw rest ih =>
    simp only [planEdits, bind_eq_ok] at all
    obtain ⟨first, this, others, tail, made⟩ := all
    cases made
    simp [ih tail]

theorem checkOrder_pairwise {priorStart priorEnd : Int} {edits : List (Edit Char)}
    (ordered : checkOrder priorStart priorEnd edits = .ok ()) :
    (∀ edit ∈ edits, priorStart ≤ edit.start ∧ priorEnd ≤ edit.start) ∧
      edits.Pairwise fun earlier later => earlier.start ≤ later.start ∧ earlier.stop ≤ later.start := by
  induction edits generalizing priorStart priorEnd with
  | nil => exact ⟨by simp, List.Pairwise.nil⟩
  | cons edit rest ih =>
    simp only [checkOrder, bind_eq_ok, raiseIf_eq_ok, Int.not_lt] at ordered
    obtain ⟨_, starts, _, ends, tail⟩ := ordered
    obtain ⟨later, apart⟩ := ih tail
    refine ⟨?_, List.Pairwise.cons ?_ apart⟩
    · intro other member
      rcases List.mem_cons.mp member with rfl | member
      · exact ⟨starts, ends⟩
      · have := later other member
        omega
    · intro other member
      have := later other member
      omega

theorem assembly_foldl (preimage : Text) (edits : List (Edit Char)) (assembly : Assembly) :
    ((edits.foldl (Assembly.add preimage) assembly).finish preimage).output.flatten =
      assembly.output.flatten ++ assemble preimage preimage.length assembly.cursor edits := by
  induction edits generalizing assembly with
  | nil => simp [Assembly.finish, assemble, slice_to_end]
  | cons edit rest ih =>
    rw [List.foldl_cons, ih]
    simp [Assembly.add, assemble]

theorem assembly_output (preimage : Text) {edits : List (Edit Char)} (ordered : Ordered preimage.length 0 edits) :
    (Assembly.of preimage edits).output.flatten = applyAll preimage edits := by
  rw [applyAll_eq preimage ordered (Nat.le_refl _), Assembly.of, assembly_foldl]
  simp

namespace LocalizedPatch

def edits (patch : LocalizedPatch) : List (Edit Char) :=
  List.zipWith (fun record replacement => ⟨record.span.1, record.span.2, replacement⟩) patch.operations patch.replacements

theorem edits_patchOf {planned : List PlannedEdit}
    (spans : ∀ plan ∈ planned, plan.record.span = (plan.edit.start, plan.edit.stop)) :
    (patchOf platform request planned).edits = planned.map PlannedEdit.edit := by
  simp only [edits, patchOf, List.zipWith_map, List.zipWith_self]
  apply List.map_congr_left
  intro plan member
  rw [spans plan member]

end LocalizedPatch

/-- What a patch of localized edits is: the trusted region resolves in the preimage, the recorded spans stand
    in it in order and apart, and nothing around it is touched. -/
structure Contained (request : Request) (patch : LocalizedPatch) (region : Record) (regionStart regionEnd : Nat) :
    Prop where
  selected : request.region = some region
  resolved : regionBounds request.preimage region = .ok (regionStart, regionEnd)
  recorded : patch.operations.length = request.operations.length ∧ patch.replacements.length = patch.operations.length
  spans : patch.preservation.authorizedSpans = patch.edits.map fun edit => (edit.start, edit.stop)
  ordered : patch.edits.Pairwise fun earlier later => earlier.start ≤ later.start ∧ earlier.stop ≤ later.start
  inside : ∀ edit ∈ patch.edits, regionStart ≤ edit.start ∧ edit.start ≤ edit.stop ∧ edit.stop ≤ regionEnd
  content : patch.content = applyAll request.preimage patch.edits
  before : patch.content.take regionStart = request.preimage.take regionStart
  after : ∃ postEnd : Nat, (postEnd : Int) = regionEnd + growth patch.edits ∧ regionStart ≤ postEnd ∧
    patch.content.drop postEnd = request.preimage.drop regionEnd ∧
    (region.field "kind" ≠ .str "WHOLE_FILE" → regionBounds patch.content region = .ok (regionStart, postEnd))

theorem applyAll_around {source : Text} {edits : List (Edit Char)} {low high : Nat} (ordered : Ordered high low edits)
    (bounded : high ≤ source.length) :
    (applyAll source edits).take low = source.take low ∧
      ∃ postEnd : Nat, (postEnd : Int) = high + growth edits ∧ low ≤ postEnd ∧
        (applyAll source edits).drop postEnd = source.drop high := by
  have written := applyAll_eq source ordered bounded
  have grown := length_assemble source ordered bounded
  have low_le : low ≤ source.length := Nat.le_trans ordered.le bounded
  have low_length : (source.take low).length = low := by simp [low_le]
  refine ⟨?_, low + (assemble source high low edits).length, by omega, by omega, ?_⟩
  · rw [written, List.append_assoc, List.take_left' low_length]
  · rw [written]
    apply List.drop_left'
    rw [List.length_append, low_length]

theorem recheckRegion_bounds {region : Record} {trusted : TrustedRegion} {edits : List (Edit Char)} {postimage : Text}
    (selected : request.region = some region) (trust : scope.trustedRegion = some trusted)
    (other : trusted.kind ≠ .str "WHOLE_FILE") (rechecked : recheckRegion request scope edits postimage = .ok ()) :
    ∃ start stop : Nat, regionBounds postimage region = .ok (start, stop) ∧ (start : Int) = scope.regionStart ∧
      (stop : Int) = scope.regionEnd + growth edits := by
  unfold recheckRegion at rechecked
  rw [selected, trust] at rechecked
  simp only [other, ↓reduceIte] at rechecked
  split at rechecked
  · cases rechecked
  · rename_i start stop bounds
    simp only [raiseIf_eq_ok, not_or, not_not] at rechecked
    exact ⟨start, stop, bounds, rechecked⟩

theorem applied_cases {patch : LocalizedPatch} (applied : applyLocalizedOperations platform request = .ok patch) :
    ∃ scope planned, checkTarget platform request = .ok () ∧ resolveScope request = .ok scope ∧
      planEdits platform request scope 0 false request.operations = .ok planned ∧
      checkOrder (-1) (-1) (planned.map PlannedEdit.edit) = .ok () ∧
      recheckRegion request scope (planned.map PlannedEdit.edit) (patchOf platform request planned).content = .ok () ∧
      patch = patchOf platform request planned := by
  simp only [applyLocalizedOperations, bind_eq_ok] at applied
  obtain ⟨_, checked, scope, resolved, planned, all, _, inOrder, _, rechecked, made⟩ := applied
  cases made
  exact ⟨scope, planned, checked, resolved, all, inOrder, rechecked, rfl⟩

/-- Localized edits stay inside the trusted region and keep its boundaries. -/
theorem localized_edits_contained {patch : LocalizedPatch}
    (applied : applyLocalizedOperations platform request = .ok patch)
    (localized : ∀ raw ∈ request.operations, isRewrite raw = false) :
    ∃ region regionStart regionEnd, Contained request patch region regionStart regionEnd := by
  obtain ⟨scope, planned, checked, resolved, all, inOrder, rechecked, rfl⟩ := applied_cases applied
  have nonempty : request.operations ≠ [] := by
    simp only [checkTarget, bind_eq_ok, raiseIf_eq_ok] at checked
    obtain ⟨_, _, _, _, _, _, _, _, some⟩ := checked
    exact some
  cases selected : request.region with
  | none =>
    obtain ⟨raw, listed⟩ := List.exists_mem_of_ne_nil _ nonempty
    have rewrite := resolveScope_none selected resolved raw listed
    rw [localized raw listed] at rewrite
    cases rewrite
  | some region =>
    obtain ⟨regionStart, regionEnd, trusted, bounds, rfl, kind, _⟩ := resolveScope_some selected resolved
    have within := regionBounds_within bounds
    have spans : ∀ plan ∈ planned, plan.record.span = (plan.edit.start, plan.edit.stop) := by
      intro plan member
      obtain ⟨_, _, _, _, its⟩ := mem_planEdits all plan member
      exact (planEdit_record its).1
    have edits : (patchOf platform request planned).edits = planned.map PlannedEdit.edit :=
      LocalizedPatch.edits_patchOf spans
    have inside : ∀ edit ∈ planned.map PlannedEdit.edit,
        regionStart ≤ edit.start ∧ edit.start ≤ edit.stop ∧ edit.stop ≤ regionEnd := by
      intro edit member
      obtain ⟨plan, listed, rfl⟩ := List.mem_map.mp member
      obtain ⟨_, _, raw, from_, its⟩ := mem_planEdits all plan listed
      have := planEdit_within its (localized raw from_)
      dsimp only at this
      omega
    have apart := (checkOrder_pairwise inOrder).2
    have separate := apart.imp fun both => both.2
    have ordered := ordered_of_pairwise within.1 inside separate
    have content : (patchOf platform request planned).content = applyAll request.preimage (planned.map PlannedEdit.edit) := by
      apply assembly_output
      apply ordered_of_pairwise (Nat.zero_le _) _ separate
      intro edit member
      have := inside edit member
      omega
    obtain ⟨before, postEnd, grown, forward, after⟩ := applyAll_around ordered within.2
    refine ⟨region, regionStart, regionEnd, ⟨selected, bounds, ?_, ?_, ?_, ?_, ?_, ?_, postEnd, ?_, forward, ?_, ?_⟩⟩
    · simp [patchOf, length_planEdits all]
    · rw [edits, List.map_map]
      apply List.map_congr_left
      exact spans
    · rw [edits]
      exact apart
    · rw [edits]
      exact inside
    · rw [edits]
      exact content
    · rw [content]
      exact before
    · rw [edits]
      exact grown
    · rw [content]
      exact after
    · intro other
      rw [← kind] at other
      obtain ⟨start, stop, post, sameStart, shifted⟩ := recheckRegion_bounds selected rfl other rechecked
      dsimp only at sameStart shifted
      have first : start = regionStart := by omega
      have last : stop = postEnd := by omega
      rw [post, first, last]

end Calls

namespace Sample

def platform : Platform where
  sha256 text := String.ofList text
  isprintable _ := true

def preimage : Text := "# Layout\nsrc\n# Other\nrest\n".toList

def revision : String := "aaaaaaaaaaaaaaaaaaaaaaaaaaaaaaaaaaaaaaaa"

def insertion (anchor content : String) : Record :=
  [("operation", .str "insert"), ("path", .str "README.md"), ("repositoryRevision", .str revision),
    ("preimageSha256", .str (platform.sha256 preimage)), ("anchor", .str anchor), ("expectedMatchCount", .int 1),
    ("placement", .str "after"), ("content", .str content)]

def insertions : List Record := [insertion "# Layout" "docs", insertion "src" "tests\nlib"]

def layoutSection : Record := [("kind", .str "MARKDOWN_SECTION"), ("name", .str "Layout")]

def request : Request where
  path := "README.md"
  preimage := preimage
  preimageSha256 := platform.sha256 preimage
  repositoryRevision := revision
  operations := insertions.map Json.obj
  region := some layoutSection

end Sample

theorem localized_edits_contained_section :
    ∃ patch : LocalizedPatch, patch.content = "# Layout\ndocs\nsrc\ntests\nlib\n# Other\nrest\n".toList ∧
      ∃ region regionStart regionEnd, Contained Sample.request patch region regionStart regionEnd := by
  have written : (LocalizedPatch.content <$> applyLocalizedOperations Sample.platform Sample.request) =
      .ok "# Layout\ndocs\nsrc\ntests\nlib\n# Other\nrest\n".toList := by decide +kernel
  obtain ⟨patch, applied, content⟩ := map_eq_ok.mp written
  exact ⟨patch, content, localized_edits_contained applied (by decide +kernel)⟩

end Aep.LocalizedPatch
