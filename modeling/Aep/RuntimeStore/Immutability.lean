import Aep.RuntimeStore.Durable

namespace Aep.RuntimeStore

open StateAction

/-- The write-once fields that no operation removes. A wake-up drops the dispatch fields for the next start. -/
def lastingFields (kind : Json) : List String :=
  (kindWriteOnceFields kind).filter (· ∉ ["dispatchState", "dispatchOwnerId"])

example : lastingFields (.str "TaskExecution") =
    ["contextPackageId", "resolvedAgentId", "terminalEvidence", "executionBudget"] := by decide

/-- What may have happened to one object between two states of the store. -/
structure Evolves (old new : Record) : Prop where
  identity : ∀ field ∈ RUNTIME_IDENTITY_FIELDS ++ kindIdentityFields (old.field "kind"),
    new.get? field = old.get? field
  lasting : ∀ field ∈ lastingFields (old.field "kind"), ∀ value, old.get? field = some value →
    new.get? field = some value
  terminal : isTerminal (old.field "status") = true → new = old

namespace Evolves

variable {old middle new : Record}

@[refl] theorem refl (value : Record) : Evolves value value :=
  ⟨fun _ _ => rfl, fun _ _ _ found => found, fun _ => rfl⟩

theorem get?_eq (evolves : Evolves old new) {field : String} (fixed : field ∈ RUNTIME_IDENTITY_FIELDS) :
    new.get? field = old.get? field :=
  evolves.identity field (List.mem_append_left _ fixed)

theorem field_eq (evolves : Evolves old new) {field : String} (fixed : field ∈ RUNTIME_IDENTITY_FIELDS) :
    new.field field = old.field field :=
  Dict.field_congr (evolves.get?_eq fixed)

theorem trans (first : Evolves old middle) (second : Evolves middle new) : Evolves old new := by
  have kind : middle.field "kind" = old.field "kind" := first.field_eq (by decide)
  constructor
  · intro field fixed
    rw [second.identity field (kind ▸ fixed), first.identity field fixed]
  · intro field lasting value found
    exact second.lasting field (kind ▸ lasting) value (first.lasting field lasting value found)
  · intro done
    have same := first.terminal done
    subst same
    exact second.terminal done

theorem objectId_eq (evolves : Evolves old new) : objectId new = objectId old := by
  unfold objectId
  have same : new.field "id" = old.field "id" := evolves.field_eq (by decide)
  rw [same]

theorem valid (evolves : Evolves old new) (valid : ValidObject old) : ValidObject new :=
  valid.congr (evolves.field_eq (by decide)) (evolves.field_eq (by decide))

theorem of_live (live : isTerminal (old.field "status") = false)
    (same : ∀ field, field ∈ RUNTIME_IDENTITY_FIELDS ++ kindIdentityFields (old.field "kind") ∨
      (field ∈ lastingFields (old.field "kind") ∧ field ∈ old.keys) → new.get? field = old.get? field) :
    Evolves old new := by
  constructor
  · exact fun field fixed => same field (.inl fixed)
  · intro field lasting value found
    have present : field ∈ old.keys := by
      by_contra absent
      rw [Dict.get?_eq_none.mpr absent] at found
      cases found
    rw [same field (.inr ⟨lasting, present⟩), found]
  · intro done
    rw [live] at done
    cases done

end Evolves

def managedFields : List String :=
  ["status", "updatedAt", "completedAt", "approvalId", "dispatchState", "dispatchOwnerId", "taskExecutionIds"]

theorem not_managed (kind : Json) {field : String}
    (fixed : field ∈ RUNTIME_IDENTITY_FIELDS ++ kindIdentityFields kind ∨ field ∈ lastingFields kind) :
    field ∉ managedFields := by
  suffices disjoint : ∀ name ∈ RUNTIME_IDENTITY_FIELDS ++ kindIdentityFields kind ++ lastingFields kind,
      name ∉ managedFields from disjoint field (List.mem_append.mpr fixed)
  unfold lastingFields kindIdentityFields kindWriteOnceFields
  by_cases task : kind = .str "TaskExecution"
  · simp only [task, ↓reduceIte]
    decide
  · by_cases workflow : kind = .str "WorkflowExecution"
    · subst workflow
      decide
    · simp only [task, workflow, ↓reduceIte]
      decide

theorem Evolves.of_managed {old new : Record} (live : isTerminal (old.field "status") = false)
    (same : ∀ field ∉ managedFields, new.get? field = old.get? field) : Evolves old new := by
  refine .of_live live fun field fixed => same field (not_managed (old.field "kind") ?_)
  exact fixed.imp_right And.left

theorem withStatus_get? {value changes : Record} {status now field : String} (unmanaged : field ∉ managedFields) :
    (withStatus value changes status now).get? field = (changes.get? field).or (value.get? field) := by
  simp only [managedFields, List.mem_cons, List.not_mem_nil, or_false, not_or] at unmanaged
  obtain ⟨notStatus, notUpdated, notCompleted, -⟩ := unmanaged
  unfold withStatus
  split <;> simp [Dict.get?_setDefault, Dict.get?_set, Dict.get?_update, Ne.symm notStatus, Ne.symm notUpdated,
    Ne.symm notCompleted]

theorem withStatus_status (value changes : Record) (status now : String) :
    (withStatus value changes status now).field "status" = .str status := by
  refine Dict.field_of_get? ?_
  unfold withStatus
  split <;> simp [Dict.get?_set, Dict.get?_setDefault]

theorem withStatus_evolves {value changes : Record} {status now : String}
    (live : isTerminal (value.field "status") = false) (unprotected : protectedFields value changes = []) :
    Evolves value (withStatus value changes status now) := by
  have none_protected : ∀ field, field ∉ protectedFields value changes := by simp [unprotected]
  simp only [protectedFields, List.mem_insertionSort, List.mem_append, List.mem_filter, decide_eq_true_eq,
    not_or, not_and] at none_protected
  refine .of_live live fun field fixed => ?_
  rw [withStatus_get? (not_managed (value.field "kind") (fixed.imp_right And.left))]
  have unchanged : field ∉ changes.keys := by
    rcases fixed with identity | ⟨lasting, present⟩
    · rcases List.mem_append.mp identity with runtime | ofKind
      · exact (none_protected field).1 (.inl (.inl runtime))
      · exact (none_protected field).1 (.inr ofKind)
    · exact fun changed => (none_protected field).2 (List.mem_filter.mp lasting).1 present changed
  simp [Dict.get?_eq_none.mpr unchanged]

theorem isTerminal_of_live {status : String} (live : status ∉ TERMINAL_STATUSES) :
    isTerminal (.str status) = false := by
  simpa [isTerminal] using live

theorem bound_get? {task : Record} {approvalId updatedAt field : String} (unmanaged : field ∉ managedFields) :
    (bound task approvalId updatedAt).get? field = task.get? field := by
  simp only [managedFields, List.mem_cons, not_or] at unmanaged
  simp [bound, Dict.get?_set, Ne.symm unmanaged.2.1, Ne.symm unmanaged.2.2.2.1]

theorem bound_evolves {task : Record} {approvalId updatedAt : String}
    (live : isTerminal (task.field "status") = false) : Evolves task (bound task approvalId updatedAt) :=
  .of_managed live fun _ unmanaged => bound_get? unmanaged

theorem woken_get? {task : Record} {approvalId updatedAt field : String} (unmanaged : field ∉ managedFields) :
    (woken task approvalId updatedAt).get? field = task.get? field := by
  simp only [managedFields, List.mem_cons, not_or] at unmanaged
  obtain ⟨notStatus, notUpdated, -, notApproval, notDispatch, notOwner, -⟩ := unmanaged
  unfold woken
  split <;> simp [Dict.get?_set, Dict.get?_erase, Ne.symm notStatus, Ne.symm notUpdated, Ne.symm notApproval,
    Ne.symm notDispatch, Ne.symm notOwner]

theorem woken_evolves {task : Record} {approvalId updatedAt : String}
    (live : isTerminal (task.field "status") = false) : Evolves task (woken task approvalId updatedAt) :=
  .of_managed live fun _ unmanaged => woken_get? unmanaged

namespace Store

def Evolves (before after : Store) : Prop :=
  ∀ id old, before.get id = some old → ∃ new, after.get id = some new ∧ RuntimeStore.Evolves old new

theorem Evolves.refl (store : Store) : store.Evolves store := fun _ old found => ⟨old, found, .refl old⟩

theorem Evolves.trans {before middle after : Store} (first : before.Evolves middle) (second : middle.Evolves after) :
    before.Evolves after := by
  intro id old found
  obtain ⟨between, foundBetween, evolved⟩ := first id old found
  obtain ⟨new, foundNew, evolvedAgain⟩ := second id between foundBetween
  exact ⟨new, foundNew, evolved.trans evolvedAgain⟩

/-- A step from a well-formed store leads to a well-formed store in which every object evolved. -/
def Advances (before after : Store) : Prop := before.WellFormed → after.WellFormed ∧ before.Evolves after

namespace Advances

variable {before middle after : Store}

theorem refl (store : Store) : store.Advances store := fun wellFormed => ⟨wellFormed, .refl store⟩

theorem trans (first : before.Advances middle) (second : middle.Advances after) : before.Advances after := by
  intro wellFormed
  obtain ⟨wellFormedMiddle, evolved⟩ := first wellFormed
  obtain ⟨wellFormedAfter, evolvedAgain⟩ := second wellFormedMiddle
  exact ⟨wellFormedAfter, evolved.trans evolvedAgain⟩

theorem of_same_objects (objects : after.objects = before.objects)
    (keys : after.deterministicKeys = before.deterministicKeys) : before.Advances after := by
  have same (id : String) : after.get id = before.get id := by simp [get, objects]
  intro wellFormed
  refine ⟨⟨objects ▸ wellFormed.distinct, fun found => wellFormed.valid (same _ ▸ found), ?_⟩, ?_⟩
  · intro key id found
    rw [same]
    exact wellFormed.keyed (keys ▸ found)
  · exact fun id old found => ⟨old, (same id).trans found, .refl old⟩

theorem put {id : String} {old new : Record} (found : before.get id = some old)
    (evolves : RuntimeStore.Evolves old new) : before.Advances (before.put id new) := by
  intro wellFormed
  have named := evolves.objectId_eq.trans (wellFormed.valid found).2
  refine ⟨wellFormed.put (evolves.valid (wellFormed.valid found).1) named, ?_⟩
  intro wanted value stored
  by_cases same : id = wanted
  · subst same
    rw [found] at stored
    cases stored
    exact ⟨new, by simp, evolves⟩
  · exact ⟨value, by simpa [same] using stored, .refl value⟩

theorem insert {value : Record} {deterministicKey : String} (valid : ValidObject value)
    (fresh : before.get (objectId value) = none) : before.Advances (before.insert value deterministicKey) := by
  intro wellFormed
  refine ⟨⟨Dict.nodup_keys_set wellFormed.distinct _ _, ?_, ?_⟩, ?_⟩
  · intro wanted stored found
    by_cases same : objectId value = wanted
    · subst same
      simp only [get_insert, ↓reduceIte, Option.some.injEq] at found
      subst found
      exact ⟨valid, rfl⟩
    · simp only [get_insert, same, ↓reduceIte] at found
      exact wellFormed.valid found
  · intro key wanted keyed
    change Dict.get? (Dict.set before.deterministicKeys deterministicKey (objectId value)) key = some wanted at keyed
    by_cases same : objectId value = wanted
    · simp [same]
    · rw [Dict.get?_set] at keyed
      split at keyed
      · exact absurd (Option.some.inj keyed) same
      · simpa [same] using wellFormed.keyed keyed
  · intro wanted old found
    have other : objectId value ≠ wanted := by
      rintro rfl
      rw [fresh] at found
      cases found
    exact ⟨old, by simpa [other] using found, .refl old⟩

theorem reindexed (store : Store) : store.Advances store.reindexed := by
  intro wellFormed
  exact ⟨wellFormed.reindexed, fun id old found => ⟨old, by simpa using found, .refl old⟩⟩

end Advances

end Store

end Aep.RuntimeStore
