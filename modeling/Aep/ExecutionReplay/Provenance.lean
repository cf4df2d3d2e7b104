import Aep.ExecutionReplay.References
import Aep.Library.Leaves
import Mathlib.Data.List.Dedup
import Mathlib.Data.List.SplitOn

/-! The references that a source execution has used, and the overrides that are asked for. -/
namespace Aep.ExecutionReplay

open Result
open WorkflowScheduler (ResourceRef)

section Collect

def malformed (what : String) : PyError := replayError ("historical " ++ what ++ " malformed")

def listOr (fields : Record) (key what : String) : Except PyError (List Json) :=
  match (fields.get? key).getD (.arr []) with
  | .arr items => .ok items
  | _ => .error (malformed what)

def given (value : Json) : List Json := if value = .null then [] else [value]

def planNodeRefs : Json → Except PyError (List Json)
  | .obj node => do
    let dependencies ← listOr node "dependencies" "Task dependencies are"
    return given (Dict.field node "taskRef") ++ dependencies
  | _ => .error (malformed "resolved Task plan node is")

def planRefs (source : Record) : Except PyError (List Json) :=
  match source.field "resolvedTaskPlan" with
  | .null => .ok []
  | .arr nodes => do return (← nodes.mapM planNodeRefs).flatten
  | _ => .error (malformed "resolved Task plan is")

def provenanceRefs (fields : Record) (what : String) : Except PyError (List Json) :=
  match fields.field "provenance" with
  | .obj provenance => listOr provenance "resourceRefs" what
  | _ => .ok []

def elementRefs : Json → Except PyError (List Json)
  | .obj element => provenanceRefs element "ContextPackage Resource references are"
  | _ => .error (malformed "ContextPackage element is")

def packageRefs (object : Record) : Except PyError (List Json) :=
  if object.field "kind" = .str "ContextPackage" then do
    return (← (← listOr object "elements" "ContextPackage elements are").mapM elementRefs).flatten
  else .ok []

def singleRefFields : List String :=
  ["taskRef", "agentRef", "promptRef", "modelRef", "toolRef", "evaluationRef", "policyRef"]

def severalRefFields : List String := ["toolRefs", "policyRefs", "evaluationRefs"]

def objectRefs (object : Record) : Except PyError (List Json) := do
  let refs ← provenanceRefs object "runtime Resource references are"
  let single := singleRefFields.flatMap fun field => given (object.field field)
  let several := severalRefFields.flatMap fun field => (object.field field).asItems?.getD []
  return refs ++ single ++ several ++ (← packageRefs object)

def versionedReference (candidate : Json) : Except PyError ResourceRef :=
  let floating := replayError "historical execution contains a malformed or floating Resource reference"
  match candidate with
  | .obj fields =>
    if (Dict.field fields "kind").isHashable = false then .error { errorClass := .typeError, message := "unhashable type" }
    else
      match Dict.field fields "kind", Dict.field fields "name", Dict.field fields "version" with
      | .str kind, .str name, .str version =>
        if versionedRef ⟨kind, name, version⟩ then .ok ⟨kind, name, version⟩ else .error floating
      | _, _, _ => .error floating
  | _ => .error floating

def sortedRefs (refs : List ResourceRef) : List ResourceRef :=
  refs.insertionSort fun first second => refRank first ≤ refRank second

/-- `_collect_resource_refs`. -/
def collectResourceRefs (source : Record) (related : List Record) : Except PyError (List ResourceRef) := do
  let plan ← planRefs source
  let root ← provenanceRefs source "root Resource references are"
  let objects ← related.mapM objectRefs
  let candidates := given (source.field "workflowRef") ++ given (source.field "eventRef") ++ plan ++ root ++ objects.flatten
  let refs ← (candidates.filter (· ≠ .null)).mapM versionedReference
  return sortedRefs refs.dedup

theorem collectResourceRefs_ok {source : Record} {related : List Record} {refs : List ResourceRef}
    (collected : collectResourceRefs source related = .ok refs) :
    refs.Nodup ∧ ∀ ref ∈ refs, versionedRef ref = true := by
  simp only [collectResourceRefs, bind_eq_ok, pure_eq_ok] at collected
  obtain ⟨plan, _, root, _, objects, _, found, read, rfl⟩ := collected
  have same := List.perm_insertionSort (fun first second => refRank first ≤ refRank second) found.dedup
  refine ⟨same.nodup_iff.mpr (List.nodup_dedup found), fun ref member => ?_⟩
  have listed := List.mem_dedup.mp (same.mem_iff.mp member)
  obtain ⟨candidate, _, valid⟩ := mem_of_mapM read listed
  unfold versionedReference at valid
  repeat' split at valid
  all_goals cases valid
  assumption

end Collect

section Overrides

def OVERRIDE_KINDS : List String := ["Agent", "Prompt", "Model", "KnowledgeBase", "Evaluation", "Policy"]

def parseOverride (value : String) : Except PyError ResourceRef :=
  match value.toList.splitOn ':' with
  | [kind, name, version] =>
    let ref : ResourceRef := ⟨String.ofList kind, String.ofList name, String.ofList version⟩
    if OVERRIDE_KINDS.contains ref.kind && versionedRef ref then .ok ref
    else .error (replayError "override must use a supported Resource kind, valid name, and semantic version")
  | _ => .error (replayError "override must use Kind:name:version with an explicit immutable version")

def overrideText (ref : ResourceRef) : String := ref.kind ++ ":" ++ ref.name ++ ":" ++ ref.version

def effectiveRefs (historical : List ResourceRef) (overrides : List String) : Except PyError (List ResourceRef) := do
  applyOverrides historical (← overrides.mapM parseOverride)

theorem versionNumber_takes : versionNumber.Takes (· ≠ ':') := by
  refine ⟨?_, ?_, ?_⟩
  · intro char zero
    rw [of_decide_eq_true zero]
    decide
  · rintro char holds rfl
    exact absurd holds (by decide)
  · rintro char holds rfl
    exact absurd holds (by decide)

theorem versionSuffix_takes {mark : Char} (plain : mark ≠ ':') : (versionSuffix mark).Takes (· ≠ ':') := by
  refine ⟨⟨?_, ?_, ?_⟩, trivial⟩
  · intro char same
    rw [of_decide_eq_true same]
    exact plain
  · rintro char holds rfl
    exact absurd holds (by decide)
  · rintro char holds rfl
    exact absurd holds (by decide)

theorem semver_chars {version : Text} (accepted : SEMVER.accepted version = true) : ':' ∉ version := by
  have dot : (Pattern.char '.').Takes (· ≠ ':') := by
    intro char same
    rw [of_decide_eq_true same]
    decide
  have letter : (Pattern.char 'v').Takes (· ≠ ':') := by
    intro char same
    rw [of_decide_eq_true same]
    decide
  have takes : SEMVER.Takes (· ≠ ':') :=
    ⟨⟨letter, trivial⟩, versionNumber_takes, dot, versionNumber_takes, dot, versionNumber_takes,
      versionSuffix_takes (by decide), versionSuffix_takes (by decide), trivial, trivial⟩
  obtain ⟨rest, left⟩ := Pattern.accepted_iff.mp accepted
  obtain ⟨front, rfl, letters⟩ := left.consumes takes
  have ends : rest = [] := by
    unfold SEMVER at left
    simp only [Pattern.sequence, List.foldr_cons, List.foldr_nil, Pattern.leaves_seq, Pattern.leaves_atEnd,
      Pattern.leaves_nothing] at left
    obtain ⟨_, _, _, _, _, _, _, _, _, _, _, _, _, _, _, _, last, ⟨_, rfl⟩, same⟩ := left
    exact same
  rw [ends, List.append_nil]
  exact fun member => letters ':' member rfl

theorem isResourceName_chars {name : Text} (valid : isResourceName name = true) : ':' ∉ name := by
  intro member
  simp only [isResourceName, Bool.and_eq_true, List.all_eq_true] at valid
  exact absurd (valid.2 ':' member) (by decide)

theorem parseOverride_text {ref : ResourceRef} (kind : ref.kind ∈ OVERRIDE_KINDS) (valid : versionedRef ref = true) :
    parseOverride (overrideText ref) = .ok ref := by
  have parts := valid
  simp only [versionedRef, Bool.and_eq_true] at parts
  have plain : ':' ∉ ref.kind.toList := by
    have all : ∀ kind ∈ OVERRIDE_KINDS, ':' ∉ kind.toList := by decide
    exact all _ kind
  have text : (overrideText ref).toList = ref.kind.toList ++ ':' :: (ref.name.toList ++ ':' :: ref.version.toList) := by
    simp [overrideText]
  unfold parseOverride
  rw [text, List.splitOn_append_cons_self, List.splitOn_append_cons_self, List.splitOn_eq_singleton plain,
    List.splitOn_eq_singleton (isResourceName_chars parts.1.2), List.splitOn_eq_singleton (semver_chars parts.2)]
  simp [kind, valid]

end Overrides

end Aep.ExecutionReplay
