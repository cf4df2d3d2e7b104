import Aep.LocalizedPatch.Containment
import Aep.LocalizedPatch.ValidatedChanges

namespace Aep.LocalizedPatch

open Result Splice

section Calls

variable {platform : Platform} {request : Request} {scope : Scope}

theorem applied_of {planned : List PlannedEdit} (checked : checkTarget platform request = .ok ())
    (resolved : resolveScope request = .ok scope)
    (all : planEdits platform request scope 0 false request.operations = .ok planned)
    (inOrder : checkOrder (-1) (-1) (planned.map PlannedEdit.edit) = .ok ())
    (rechecked : recheckRegion request scope (planned.map PlannedEdit.edit)
      (patchOf platform request planned).content = .ok ()) :
    applyLocalizedOperations platform request = .ok (patchOf platform request planned) := by
  simp [applyLocalizedOperations, checked, resolved, all, inOrder, rechecked]

theorem planEdits_rewrite {ordinal : Nat} {rewriteSeen : Bool} {operations : List Json} {planned : List PlannedEdit}
    (all : planEdits platform request scope ordinal rewriteSeen operations = .ok planned)
    {raw : Json} (listed : raw ∈ operations) (rewrite : isRewrite raw = true) : request.operations.length = 1 := by
  induction operations generalizing ordinal rewriteSeen planned with
  | nil => cases listed
  | cons first rest ih =>
    simp only [planEdits, bind_eq_ok] at all
    obtain ⟨plan, this, others, tail, _⟩ := all
    rcases List.mem_cons.mp listed with rfl | listed
    · obtain ⟨fields, operation, content, _, _, _, _, chosen⟩ := planEdit_cases this
      rw [if_pos rewrite] at chosen
      simp only [planRewrite, bind_eq_ok, raiseIf_eq_ok, not_or, not_not] at chosen
      obtain ⟨_, authorized, _⟩ := chosen
      exact authorized.2.2
    · exact ih tail listed

theorem planEdit_insert (operations : List Json) (ordinal : Nat) (rewriteSeen : Bool) {fields : Record}
    {plan : PlannedEdit} (alone : planEdit platform request scope 0 false (.obj fields) = .ok plan)
    (insertion : fields.field "operation" = .str "insert") :
    planEdit platform { request with operations := operations } scope ordinal rewriteSeen (.obj fields) =
      .ok { plan with record := { plan.record with ordinal := ordinal } } := by
  obtain ⟨_, operation, content, same, known, bound, text, chosen⟩ := planEdit_cases alone
  cases same
  have named : operation = "insert" := by
    have its := (operationKind_mem known).1
    rw [insertion] at its
    exact (Json.str.inj its).symm
  have localized : ¬isRewrite (.obj fields) = true := by simp [isRewrite, insertion]
  rw [if_neg localized] at chosen
  subst named
  have bound' : checkBinding platform { request with operations := operations } fields = .ok () := bound
  simp only [planLocalized, bind_eq_ok, raiseIf_eq_ok] at chosen
  obtain ⟨anchor, named, _, count, located, found, _, inside, made⟩ := chosen
  cases made
  have located' : locate { request with operations := operations } scope "insert" fields content anchor =
      .ok located := by
    simpa [locate, resolveAnchor, locateInsert] using found
  have inside' : ¬outOfRegion { request with operations := operations } scope "insert" fields located = true := inside
  simp [planEdit, known, bound', text, planLocalized, named, count, located', raiseIf_neg inside']

end Calls

def operationRecord (request : Request) (postimageSha256 : String) (record : EditRecord) : OperationRecord :=
  { record with
    path := request.path
    repositoryRevision := request.repositoryRevision
    preimageSha256 := request.preimageSha256
    postimageSha256 := postimageSha256 }

theorem resolveOperation_single {platform : Platform} {request : Record → Request} {region : Record}
    {patch : LocalizedPatch} (resolved : resolveOperation platform request [region] = .ok patch) :
    applyLocalizedOperations platform (request region) = .ok patch := by
  unfold resolveOperation at resolved
  obtain ⟨resolutions, tried, chosen⟩ := bind_eq_ok.mp resolved
  unfold tryRegions at tried
  split at tried
  · rename_i found applied
    cases tried
    cases chosen
    exact applied
  · rename_i code message applied
    cases tried
    dsimp only at chosen
    split at chosen <;> cases chosen
  · cases tried

section Path

variable {platform : Platform} {validation : Validation} {path content : String} {target region : Record} {scope : Scope}

/-- The edits that a call with the whole list plans are those that the calls alone have made. -/
structure SameEdits (request : Request) (first : Nat) (planned : List PlannedEdit) (resolved : List Resolved) : Prop where
  edits : planned.map PlannedEdit.edit = resolved.map Resolved.edit
  forward : ∀ entry ∈ resolved, entry.edit.start ≤ entry.edit.stop
  spans : ∀ entry ∈ resolved, entry.record.span = (entry.edit.start, entry.edit.stop)
  records : ∀ postimageSha256,
    (planned.map fun plan => operationRecord request postimageSha256 plan.record) =
      resolved.mapIdx fun ordinal entry =>
        { entry.record with ordinal := first + ordinal, postimageSha256 := postimageSha256 }

theorem planEdit_forward {request : Request} {ordinal : Nat} {rewriteSeen : Bool} {raw : Json} {plan : PlannedEdit}
    (planned : planEdit platform request scope ordinal rewriteSeen raw = .ok plan) : plan.edit.start ≤ plan.edit.stop := by
  cases kind : isRewrite raw with
  | false => exact (planEdit_within planned kind).2.1
  | true =>
    obtain ⟨fields, operation, content, _, _, _, _, chosen⟩ := planEdit_cases planned
    rw [if_pos kind] at chosen
    obtain ⟨_, _, made⟩ := bind_eq_ok.mp chosen
    cases made
    exact Nat.zero_le _

theorem resolved_entry {operation : Record} {patch : LocalizedPatch} {entry : Resolved}
    (resolved : resolveScope (requestFor validation path target content region []) = .ok scope)
    (applied : applyLocalizedOperations platform (requestFor validation path target content region [operation]) = .ok patch)
    (kept : resolvedOf patch = .ok entry) :
    ∃ plan postimageSha256, checkTarget platform (requestFor validation path target content region [operation]) = .ok () ∧
      planEdit platform (requestFor validation path target content region [operation]) scope 0 false (.obj operation) =
        .ok plan ∧ entry.edit = plan.edit ∧ plan.record.ordinal = 0 ∧
      entry.record = operationRecord (requestFor validation path target content region []) postimageSha256 plan.record := by
  obtain ⟨scope', planned, checked, resolved', all, _, _, rfl⟩ := applied_cases applied
  have same : scope' = scope := Except.ok.inj (resolved'.symm.trans resolved)
  subst same
  simp only [requestFor, List.map_cons, List.map_nil, planEdits, bind_eq_ok] at all
  obtain ⟨plan, this, others, none, made⟩ := all
  cases none
  cases made
  obtain ⟨span, first, _⟩ := planEdit_record this
  cases kept
  refine ⟨plan, _, checked, this, ?_, first, rfl⟩
  rw [span]

theorem sameEdits_nil (request : Request) (first : Nat) : SameEdits request first [] [] :=
  ⟨rfl, by simp, by simp, by simp⟩

theorem SameEdits.cons {request : Request} {first : Nat} {planned : List PlannedEdit} {resolved : List Resolved}
    (plan : PlannedEdit) {entry : Resolved} {postimageSha256 : String} (edit : entry.edit = plan.edit)
    (forward : plan.edit.start ≤ plan.edit.stop) (span : plan.record.span = (plan.edit.start, plan.edit.stop))
    (ordinal : plan.record.ordinal = first)
    (record : ∃ other, entry.record = operationRecord request postimageSha256 { plan.record with ordinal := other })
    (others : SameEdits request (first + 1) planned resolved) :
    SameEdits request first (plan :: planned) (entry :: resolved) := by
  obtain ⟨other, record⟩ := record
  refine ⟨?_, ?_, ?_, ?_⟩
  · simp [edit, others.edits]
  · intro its member
    rcases List.mem_cons.mp member with rfl | member
    · rw [edit]
      exact forward
    · exact others.forward its member
  · intro its member
    rcases List.mem_cons.mp member with rfl | member
    · rw [record, edit]
      exact span
    · exact others.spans its member
  · intro digest
    rw [List.map_cons, List.mapIdx_cons, others.records digest, record]
    congr 1
    · simp [operationRecord, ← ordinal]
    · congr 1
      funext position its
      rw [Nat.add_assoc, Nat.add_comm 1 position]

theorem planEdits_of_resolveAll (whole : List Record) {operations : List Record} {resolved : List Resolved}
    (scopes : resolveScope (requestFor validation path target content region []) = .ok scope)
    (all : resolveAll platform
      (fun operation region => requestFor validation path target content region [operation]) [region] operations =
        .ok resolved)
    (insertions : ∀ fields ∈ operations, fields.field "operation" = .str "insert") (first : Nat) (rewriteSeen : Bool) :
    ∃ planned, planEdits platform (requestFor validation path target content region whole) scope first rewriteSeen
        (operations.map Json.obj) = .ok planned ∧
      SameEdits (requestFor validation path target content region whole) first planned resolved := by
  induction operations generalizing resolved first rewriteSeen with
  | nil =>
    cases all
    exact ⟨[], rfl, sameEdits_nil _ first⟩
  | cons operation rest ih =>
    simp only [resolveAll, bind_eq_ok] at all
    obtain ⟨patch, chosen, entry, kept, others, tail, made⟩ := all
    cases made
    obtain ⟨plan, digest, _, alone, edit, _, record⟩ := resolved_entry scopes (resolveOperation_single chosen) kept
    have insertion := insertions operation List.mem_cons_self
    have later : ∀ fields ∈ rest, fields.field "operation" = .str "insert" :=
      fun fields listed => insertions fields (List.mem_cons_of_mem operation listed)
    obtain ⟨planned, rested, same⟩ := ih tail later (first + 1) (rewriteSeen || isRewrite (.obj operation))
    obtain ⟨numbered, numbering⟩ : ∃ numbered : PlannedEdit,
        numbered = { plan with record := { plan.record with ordinal := first } } := ⟨_, rfl⟩
    have inWhole : planEdit platform (requestFor validation path target content region whole) scope first rewriteSeen
        (.obj operation) = .ok numbered := by
      rw [numbering]
      exact planEdit_insert (whole.map Json.obj) first rewriteSeen alone insertion
    obtain ⟨span, ordinal, _⟩ := planEdit_record inWhole
    refine ⟨numbered :: planned, ?_, ?_⟩
    · simp [planEdits, inWhole, rested]
    · have sameEdit : entry.edit = numbered.edit := by rw [numbering, edit]
      apply SameEdits.cons numbered sameEdit (planEdit_forward inWhole) span ordinal ⟨plan.record.ordinal, ?_⟩ same
      · exact digest
      · rw [numbering, record]
        rfl

theorem reassemble_eq {preimage : Text} {assembly final : Assembly} {resolved : List Resolved}
    (done : reassemble preimage assembly resolved = .ok final) :
    final = ((resolved.map Resolved.edit).foldl (Assembly.add preimage) assembly).finish preimage := by
  induction resolved generalizing assembly with
  | nil =>
    cases done
    rfl
  | cons entry rest ih =>
    simp only [reassemble, bind_eq_ok, raiseIf_eq_ok] at done
    obtain ⟨_, _, tail⟩ := done
    exact ih tail

theorem checkOrder_of_reassemble (priorStart priorEnd : Int) {preimage : Text} {assembly final : Assembly}
    {resolved : List Resolved} (done : reassemble preimage assembly resolved = .ok final)
    (forward : ∀ entry ∈ resolved, entry.edit.start ≤ entry.edit.stop)
    (start_le : priorStart ≤ assembly.cursor) (end_le : priorEnd ≤ assembly.cursor) :
    checkOrder priorStart priorEnd (resolved.map Resolved.edit) = .ok () := by
  induction resolved generalizing assembly priorStart priorEnd with
  | nil => rfl
  | cons entry rest ih =>
    simp only [reassemble, bind_eq_ok, raiseIf_eq_ok, Nat.not_lt] at done
    obtain ⟨_, after, tail⟩ := done
    have this := forward entry List.mem_cons_self
    have others := fun other member => forward other (List.mem_cons_of_mem entry member)
    have later := ih entry.edit.start (max priorEnd entry.edit.stop) tail others
      (by simp only [Assembly.add]; omega) (by simp only [Assembly.add]; omega)
    have starts : ¬(entry.edit.start : Int) < priorStart := by omega
    have ends : ¬(entry.edit.start : Int) < priorEnd := by omega
    rw [List.map_cons, checkOrder, raiseIf_neg starts, raiseIf_neg ends]
    exact later

theorem recheckRegion_of_selector {request : Request} {trusted : TrustedRegion} {regionStart regionEnd : Nat}
    {postimage : Text} {resolved : List Resolved} (selected : request.region = some region)
    (bounds : regionBounds request.preimage region = .ok (regionStart, regionEnd))
    (own : ∀ entry ∈ resolved, entry.record.trustedRegion.map TrustedRegion.selectionId = some (region.field "selectionId"))
    (inside : ∀ entry ∈ resolved, regionStart ≤ entry.edit.start ∧ entry.edit.start ≤ entry.edit.stop ∧
      entry.edit.stop ≤ regionEnd)
    (rechecked : recheckSelector request.preimage postimage resolved region = .ok ()) :
    recheckRegion request ⟨some trusted, regionStart, regionEnd⟩ (resolved.map Resolved.edit) postimage = .ok () := by
  unfold recheckRegion
  rw [selected]
  dsimp only
  split
  · rfl
  · unfold recheckSelector at rechecked
    split at rechecked
    · rename_i span post found foundPost
      have sameBounds : span.start = regionStart ∧ span.stop = regionEnd := by
        unfold regionBounds at bounds
        rw [found] at bounds
        exact ⟨congrArg Prod.fst (Except.ok.inj bounds), congrArg Prod.snd (Except.ok.inj bounds)⟩
      have noShift : resolved.filter (shiftsStart span.start (region.field "selectionId")) = [] := by
        apply List.filter_eq_nil_iff.mpr
        intro entry member
        have within := inside entry member
        rw [shiftsStart, own entry member, Option.getD_some, Json.pyEq_refl]
        simp
        omega
      have allCount : (resolved.filter fun other => other.edit.stop ≤ span.stop) = resolved := by
        apply List.filter_eq_self.mpr
        intro entry member
        have within := inside entry member
        simp
        omega
      rw [growthWhere, growthWhere, noShift, allCount, sameBounds.1, sameBounds.2] at rechecked
      simp only [raiseIf_eq_ok, List.map_nil, growth, List.sum_nil, Int.add_zero] at rechecked
      have postBounds : regionBounds postimage region = .ok (post.start, post.stop) := by
        unfold regionBounds
        rw [foundPost]
      rw [postBounds]
      exact raiseIf_neg rechecked _
    · cases rechecked

/-- The change has the text of the patch, its spans with their digests, and its records. -/
def Agrees (change : Change) (patch : LocalizedPatch) : Prop :=
  change.content = patch.content ∧ change.localized = some (patch.preservation, patch.operations)

theorem changeOf_agrees {request : Request} {planned : List PlannedEdit} {resolved : List Resolved}
    (same : SameEdits request 0 planned resolved) (bound : platform.sha256 request.preimage = request.preimageSha256)
    (wholeFileDelete : Bool) :
    Agrees (changeOf platform path request.preimage wholeFileDelete resolved
        (Assembly.of request.preimage (resolved.map Resolved.edit)))
      (patchOf platform request planned) := by
  have records := same.records (platform.sha256 (Assembly.of request.preimage (resolved.map Resolved.edit)).output.flatten)
  simp only [Nat.zero_add] at records
  have spans := congrArg (List.map fun record => record.span) records
  rw [List.map_map] at spans
  refine ⟨?_, ?_⟩
  · simp only [changeOf, patchOf, same.edits]
  · simp only [changeOf, patchOf, same.edits, bound, ← records]
    congr 3
    simp [List.map_map, operationRecord]

theorem localizedChange_cases {operations : List Record} {change : Change}
    (made : localizedChange platform validation path operations = .ok change)
    (single : regionsOf validation path = [region]) :
    ∃ target content resolved final, targetOf validation path = .ok (target, content) ∧
      operations.any (hasOperation "replace") = false ∧
      (operations.any (hasOperation "delete") = true → isWholeFileDelete content operations = true) ∧
      resolveAll platform
        (fun operation region => requestFor validation path target content region [operation]) [region] operations =
          .ok resolved ∧
      reassemble content.toList {} resolved = .ok final ∧
      recheckSelector content.toList final.output.flatten resolved region = .ok () ∧ resolved ≠ [] ∧
      change = changeOf platform path content.toList (isWholeFileDelete content operations) resolved final := by
  simp only [localizedChange, bind_eq_ok, raiseIf_eq_ok, single] at made
  obtain ⟨⟨target, content⟩, found, _, evidence, _, _, resolved, all, _, _, final, done, _, rechecked, _, some, same⟩ := made
  cases same
  simp only [recheckSelectors, bind_eq_ok] at rechecked
  obtain ⟨_, rechecked, _⟩ := rechecked
  refine ⟨target, content, resolved, final, found, ?_, ?_, all, done, rechecked, some, rfl⟩
  · by_contra replaces
    exact evidence (Or.inl (by simpa using replaces))
  · intro deletes
    by_contra partialDelete
    exact evidence (Or.inr ⟨deletes, by simpa using partialDelete⟩)

theorem resolveAll_forall₂ {operations : List Record} {resolved : List Resolved}
    (all : resolveAll platform
      (fun operation region => requestFor validation path target content region [operation]) [region] operations =
        .ok resolved) :
    List.Forall₂ (fun operation entry => ∃ patch,
      applyLocalizedOperations platform (requestFor validation path target content region [operation]) = .ok patch ∧
        resolvedOf patch = .ok entry) operations resolved := by
  induction operations generalizing resolved with
  | nil =>
    cases all
    exact List.Forall₂.nil
  | cons operation rest ih =>
    simp only [resolveAll, bind_eq_ok] at all
    obtain ⟨patch, chosen, entry, kept, others, tail, made⟩ := all
    cases made
    exact List.Forall₂.cons ⟨patch, resolveOperation_single chosen, kept⟩ (ih tail)

theorem exists_left_of_forall₂ {α β : Type} {related : α → β → Prop} {left : List α} {right : List β}
    (all : List.Forall₂ related left right) : ∀ entry ∈ right, ∃ item ∈ left, related item entry := by
  induction all with
  | nil => simp
  | cons this _ ih =>
    intro entry member
    rcases List.mem_cons.mp member with rfl | member
    · exact ⟨_, List.mem_cons_self, this⟩
    · obtain ⟨item, listed, its⟩ := ih entry member
      exact ⟨item, List.mem_cons_of_mem _ listed, its⟩

theorem checkTarget_whole {operation : Record} {operations : List Record} (nonempty : operations ≠ [])
    (checked : checkTarget platform (requestFor validation path target content region [operation]) = .ok ()) :
    checkTarget platform (requestFor validation path target content region operations) = .ok () := by
  have listed : ¬(operations.map Json.obj = []) := by simpa using nonempty
  simp only [checkTarget, requestFor, bind_eq_ok] at checked ⊢
  obtain ⟨_, safe, _, text, _, digest, _, revision, _⟩ := checked
  exact ⟨(), safe, (), text, (), digest, (), revision, raiseIf_neg listed _⟩

theorem whole_call_single {operation : Record} {resolved : List Resolved} {final : Assembly} {wholeFileDelete : Bool}
    (all : resolveAll platform
      (fun operation region => requestFor validation path target content region [operation]) [region] [operation] =
        .ok resolved)
    (done : reassemble content.toList {} resolved = .ok final) :
    ∃ patch, applyLocalizedOperations platform (requestFor validation path target content region [operation]) = .ok patch ∧
      Agrees (changeOf platform path content.toList wholeFileDelete resolved final) patch := by
  simp only [resolveAll, bind_eq_ok] at all
  obtain ⟨patch, chosen, entry, kept, _, none, made⟩ := all
  cases none
  cases made
  have applied := resolveOperation_single chosen
  obtain ⟨scope, planned, checked, resolves, planning, _, _, rfl⟩ := applied_cases applied
  obtain ⟨plan, digest, _, alone, edit, first, record⟩ := resolved_entry resolves applied kept
  have onlyOne : planned = [plan] := by
    simp only [requestFor, List.map_cons, List.map_nil, planEdits, bind_eq_ok] at planning
    obtain ⟨other, this, _, none, made⟩ := planning
    cases none
    cases made
    have same := Except.ok.inj (this.symm.trans alone)
    rw [same]
  refine ⟨_, applied, ?_⟩
  have same : SameEdits (requestFor validation path target content region [operation]) 0 [plan] [entry] :=
    SameEdits.cons plan edit (planEdit_forward alone) (planEdit_record alone).1 first ⟨plan.record.ordinal, record⟩
      (sameEdits_nil _ 1)
  simp only [checkTarget, bind_eq_ok, raiseIf_eq_ok, not_not] at checked
  obtain ⟨_, _, _, _, _, bound, _⟩ := checked
  rw [onlyOne, reassemble_eq done]
  exact changeOf_agrees same bound wholeFileDelete

theorem whole_call_insertions {operations : List Record} {resolved : List Resolved} {final : Assembly}
    {wholeFileDelete : Bool}
    (all : resolveAll platform
      (fun operation region => requestFor validation path target content region [operation]) [region] operations =
        .ok resolved)
    (insertions : ∀ fields ∈ operations, fields.field "operation" = .str "insert")
    (done : reassemble content.toList {} resolved = .ok final) (some : resolved ≠ [])
    (rechecked : recheckSelector content.toList final.output.flatten resolved region = .ok ()) :
    ∃ patch, applyLocalizedOperations platform (requestFor validation path target content region operations) = .ok patch ∧
      Agrees (changeOf platform path content.toList wholeFileDelete resolved final) patch := by
  have each := resolveAll_forall₂ all
  obtain ⟨entry, listed⟩ := List.exists_mem_of_ne_nil _ some
  obtain ⟨operation, among, patch, applied, kept⟩ := exists_left_of_forall₂ each entry listed
  obtain ⟨scope, _, checked, resolves, _⟩ := applied_cases applied
  have scopes : resolveScope (requestFor validation path target content region []) = .ok scope := resolves
  obtain ⟨planned, planning, same⟩ := planEdits_of_resolveAll operations scopes all insertions 0 false
  have nonempty := List.ne_nil_of_mem among
  have target_ := checkTarget_whole nonempty checked
  have bound := target_
  simp only [checkTarget, bind_eq_ok, raiseIf_eq_ok, not_not] at bound
  obtain ⟨_, _, _, _, _, bound, _⟩ := bound
  have assembled := reassemble_eq done
  obtain ⟨regionStart, regionEnd, trusted, bounds, shape, _, selection⟩ := resolveScope_some rfl scopes
  subst shape
  refine ⟨_, applied_of target_ scopes planning ?_ ?_, ?_⟩
  · rw [same.edits]
    exact checkOrder_of_reassemble (-1) (-1) done same.forward (by simp) (by simp)
  · have output : (patchOf platform (requestFor validation path target content region operations) planned).content =
        final.output.flatten := by
      rw [assembled]
      simp only [patchOf, same.edits]
      rfl
    rw [same.edits, output]
    apply recheckRegion_of_selector rfl bounds _ _ rechecked
    · intro other member
      obtain ⟨its, _, _, itsApplied, itsKept⟩ := exists_left_of_forall₂ each other member
      obtain ⟨plan, digest, _, alone, _, _, record⟩ := resolved_entry scopes itsApplied itsKept
      rw [record, ← selection]
      simp [operationRecord, (planEdit_record alone).2.2]
    · intro other member
      obtain ⟨its, itsListed, _, itsApplied, itsKept⟩ := exists_left_of_forall₂ each other member
      obtain ⟨plan, digest, _, alone, edit, _, _⟩ := resolved_entry scopes itsApplied itsKept
      have localized : isRewrite (.obj its) = false := by simp [isRewrite, insertions its itsListed]
      have within := planEdit_within alone localized
      rw [edit]
      dsimp only at within
      omega
  · rw [assembled]
    exact changeOf_agrees same bound wholeFileDelete

theorem localizedChange_agrees {operations : List Record} {change : Change}
    (made : localizedChange platform validation path operations = .ok change)
    (single : regionsOf validation path = [region])
    (exclusive : operations.length = 1 ∨ ∀ fields ∈ operations, isRewrite (.obj fields) = false) :
    ∃ target content, targetOf validation path = .ok (target, content) ∧ ∃ patch,
      applyLocalizedOperations platform (requestFor validation path target content region operations) = .ok patch ∧
        Agrees change patch := by
  obtain ⟨target, content, resolved, final, found, noReplace, deletes, all, done, rechecked, some, rfl⟩ :=
    localizedChange_cases made single
  refine ⟨target, content, found, ?_⟩
  by_cases alone : operations.length = 1
  · obtain ⟨operation, rfl⟩ := List.length_eq_one_iff.mp alone
    exact whole_call_single all done
  · have localized := exclusive.resolve_left alone
    have noDelete : operations.any (hasOperation "delete") = false := by
      by_contra deleted
      have whole := deletes (by simpa using deleted)
      unfold isWholeFileDelete at whole
      split at whole
      · exact alone rfl
      · cases whole
    apply whole_call_insertions all _ done some rechecked
    intro fields listed
    obtain ⟨entry, _, patch, applied, kept⟩ : ∃ entry, ∃ (_ : entry ∈ resolved), ∃ patch,
        applyLocalizedOperations platform (requestFor validation path target content region [fields]) = .ok patch ∧
          resolvedOf patch = .ok entry := by
      obtain ⟨entry, member, its⟩ := exists_left_of_forall₂ (List.Forall₂.flip (resolveAll_forall₂ all)) fields listed
      exact ⟨entry, member, its⟩
    obtain ⟨scope, _, _, scopes, _⟩ := applied_cases applied
    obtain ⟨plan, _, _, planned, _⟩ := resolved_entry scopes applied kept
    obtain ⟨_, operation, _, same, known, _⟩ := planEdit_cases planned
    cases same
    obtain ⟨named, kinds⟩ := operationKind_mem known
    have notReplace := List.any_eq_false.mp noReplace fields listed
    have notDelete := List.any_eq_false.mp noDelete fields listed
    have notRewrite := localized fields listed
    simp only [hasOperation, named, Json.str.injEq, decide_eq_true_eq] at notReplace notDelete
    simp only [isRewrite, named, Json.str.injEq, decide_eq_false_iff_not] at notRewrite
    simp only [List.mem_cons, List.not_mem_nil, or_false] at kinds
    rcases kinds with rfl | rfl | rfl | rfl
    · exact named
    · exact absurd rfl notReplace
    · exact absurd rfl notDelete
    · exact absurd rfl notRewrite

theorem localizedChanges_mem {grouped : Dict String (List Record)} {changes : List Change}
    (made : localizedChanges platform validation grouped = .ok changes) {operations : List Record}
    (listed : (path, operations) ∈ grouped) :
    ∃ change ∈ changes, localizedChange platform validation path operations = .ok change := by
  induction grouped generalizing changes with
  | nil => cases listed
  | cons group rest ih =>
    simp only [localizedChanges, bind_eq_ok] at made
    obtain ⟨first, this, others, tail, same⟩ := made
    cases same
    rcases List.mem_cons.mp listed with rfl | listed
    · exact ⟨first, List.mem_cons_self, this⟩
    · obtain ⟨change, member, its⟩ := ih tail listed
      exact ⟨change, List.mem_cons_of_mem first member, its⟩

/-- Accepting the operations of a path one at a time is accepting them as one list, except that it never sees
    that a rewrite has other operations beside it. -/
theorem whole_call_agrees_iff {values : List Json} {grouped : Dict String (List Record)} {changes : List Change}
    {operations : List Record} (accepted : validatedChanges platform validation = .ok changes)
    (given : outputChanges validation.output = .ok values) (localized : hasLocalizedForm values = .ok true)
    (groups : groupByPath validation.allowedPaths [] values = .ok grouped) (listed : (path, operations) ∈ grouped)
    (single : regionsOf validation path = [region]) :
    ∃ change ∈ changes, change.path = path ∧ ∃ target content, targetOf validation path = .ok (target, content) ∧
      ((∃ patch, applyLocalizedOperations platform (requestFor validation path target content region operations) =
          .ok patch ∧ Agrees change patch) ↔
        (operations.length = 1 ∨ ∀ fields ∈ operations, isRewrite (.obj fields) = false)) := by
  simp only [validatedChanges, given, localized, groups, ok_bind, ↓reduceIte] at accepted
  obtain ⟨change, member, made⟩ := localizedChanges_mem accepted listed
  obtain ⟨target, content, resolved, final, found, _, _, _, _, _, _, same⟩ := localizedChange_cases made single
  refine ⟨change, member, ?_, target, content, found, ?_, ?_⟩
  · rw [same]
    rfl
  · intro ⟨patch, applied, _⟩
    obtain ⟨scope, planned, _, _, planning, _⟩ := applied_cases applied
    by_cases alone : operations.length = 1
    · exact Or.inl alone
    · apply Or.inr
      intro fields among
      by_contra rewrite
      have only := planEdits_rewrite planning (List.mem_map_of_mem among) (by simpa using rewrite)
      exact alone (by simpa [requestFor] using only)
  · intro exclusive
    obtain ⟨target', content', found', patch, applied, agrees⟩ := localizedChange_agrees made single exclusive
    have sameTarget := Except.ok.inj (found'.symm.trans found)
    cases sameTarget
    exact ⟨patch, applied, agrees⟩

end Path

namespace Sample

def creation (content : String) : Record :=
  [("operation", .str "rewrite"), ("path", .str "new.py"), ("repositoryRevision", .str revision),
    ("preimageSha256", .str ""), ("content", .str content)]

def wholeFile : Record := [("kind", .str "WHOLE_FILE"), ("name", .str "WHOLE_FILE")]

def absentTarget : Record :=
  [("path", .str "new.py"), ("content", .str ""), ("preimageSha256", .str ""), ("exists", .bool false)]

def twoInsertions : Validation where
  output := .obj [("changes", .arr (insertions.map Json.obj))]
  allowedPaths := ["README.md"]
  editableTargets := [[("path", .str "README.md"), ("content", .str (String.ofList preimage)),
    ("preimageSha256", .str (platform.sha256 preimage))]]
  repositoryRevision := some revision
  regionsByPath := some [("README.md", .one layoutSection)]

def twoRewrites : Validation where
  output := .obj [("changes", .arr [.obj (creation "first\n"), .obj (creation "second\n")])]
  allowedPaths := ["new.py"]
  editableTargets := [absentTarget]
  repositoryRevision := some revision
  regionsByPath := some [("new.py", .one wholeFile)]

end Sample

theorem whole_call_agrees_insertions :
    ∃ target content patch, targetOf Sample.twoInsertions "README.md" = .ok (target, content) ∧
      applyLocalizedOperations Sample.platform
        (requestFor Sample.twoInsertions "README.md" target content Sample.layoutSection Sample.insertions) = .ok patch := by
  have written : (List.map (fun change => String.ofList change.content) <$>
      validatedChanges Sample.platform Sample.twoInsertions) =
        .ok ["# Layout\ndocs\nsrc\ntests\nlib\n# Other\nrest\n"] := by decide +kernel
  obtain ⟨changes, accepted, _⟩ := map_eq_ok.mp written
  have groups : groupByPath ["README.md"] [] (Sample.insertions.map Json.obj) =
      .ok [("README.md", Sample.insertions)] := by decide +kernel
  obtain ⟨_, _, _, target, content, found, agrees⟩ :=
    whole_call_agrees_iff accepted rfl rfl groups List.mem_cons_self rfl
  obtain ⟨patch, applied, _⟩ := agrees.mpr (Or.inr (by decide +kernel))
  exact ⟨target, content, patch, found, applied⟩

/-- The second rewrite is appended to the first, which a call with both refuses. -/
theorem two_rewrites_accepted :
    (List.map (fun change => String.ofList change.content) <$> validatedChanges Sample.platform Sample.twoRewrites) =
        .ok ["first\nsecond\n"] ∧
      applyLocalizedOperations Sample.platform (requestFor Sample.twoRewrites "new.py" Sample.absentTarget ""
        Sample.wholeFile [Sample.creation "first\n", Sample.creation "second\n"]) =
        .error (.localizedPatchError "REWRITE_NOT_AUTHORIZED"
          "full-file rewrite requires one explicit authorized operation") := by
  decide +kernel

end Aep.LocalizedPatch
