import Aep.EvaluationSuites.Evidence
import Aep.RuntimeStore.Steps
import Mathlib.Data.List.Perm.Basic

namespace Aep.EvaluationSuites

open RuntimeStore

/-- Runtime records as a store lists them: each has a text as its id, and no other record has the same. -/
structure Listing where
  records : List Record
  identified : ∀ record ∈ records, ∃ id, record.field "id" = .str id
  unique : ∀ first ∈ records, ∀ second ∈ records, first.field "id" = second.field "id" → first = second

def Listing.ofStore {store : Store} (wellFormed : store.WellFormed) (indexed : store.Indexed) {owner : String}
    {records : List Record} (listed : store.listByWorkflowExecution owner = .ok records) : Listing where
  records
  identified record member := by
    obtain ⟨found, -⟩ := listByWorkflowExecution_mem wellFormed indexed listed member
    obtain ⟨-, ⟨id, named, -⟩, -⟩ := copyAndValidate_ok (wellFormed.valid found).1
    exact ⟨id, named⟩
  unique first member second other same := by
    obtain ⟨found, -⟩ := listByWorkflowExecution_mem wellFormed indexed listed member
    obtain ⟨there, -⟩ := listByWorkflowExecution_mem wellFormed indexed listed other
    rw [objectId, same] at found
    exact Option.some.inj (found.symm.trans there)

section Superseded

variable (platform : ReplayPlatform) (related : List Record)

def rank (task : Record) : Int ×ₗ String := (rankOf platform task).toOption.getD (toLex (0, ""))

def attempts : List Record := related.filter (isKind "TaskExecution")

def superseded (task : Record) : Bool :=
  isKind "TaskExecution" task && (attempts related).any fun later =>
    taskKey platform later = taskKey platform task && rank platform task < rank platform later

def ofSuperseded (result : Record) : Bool :=
  (attempts related).any fun attempt =>
    superseded platform related attempt && attempt.field "id" = result.field "taskExecutionId"

def scoring : List Record :=
  related.filter fun result => isKind "EvaluationResult" result && !ofSuperseded platform related result

def effectiveAttempts : List Record := (attempts related).filter fun task => !superseded platform related task

def identityFields : List String := ["kind", "id", "taskRef", "attempt"]

def identity (record : Record) : Record := record.filter fun entry => entry.1 ∈ identityFields

def remnant (record : Record) : Option Record :=
  if isKind "EvaluationResult" record && ofSuperseded platform related record then none
  else if superseded platform related record then some (identity record)
  else some record

/-- What is left of the records without the results and the course of the superseded attempts. -/
def unsuperseded : List Record := related.filterMap (remnant platform related)

end Superseded

section Identity

variable {platform : ReplayPlatform} {related : List Record}

theorem get?_filter {κ ν : Type} [DecidableEq κ] (kept : κ → Bool) (entries : Dict κ ν) (key : κ) (keeps : kept key = true) :
    Dict.get? (entries.filter fun entry => kept entry.1) key = entries.get? key := by
  induction entries with
  | nil => rfl
  | cons entry rest ih =>
    obtain ⟨other, value⟩ := entry
    by_cases same : other = key
    · simp [same, keeps, Dict.get?]
    · by_cases keepsOther : kept other = true
      · simp [keepsOther, Dict.get?, same, ih]
      · simp [keepsOther, Dict.get?, same, ih]

theorem identity_get? (record : Record) {key : String} (kept : key ∈ identityFields) :
    (identity record).get? key = record.get? key := by
  have found := get?_filter (fun key => decide (key ∈ identityFields)) record key (by simpa using kept)
  exact found

theorem identity_field (record : Record) {key : String} (kept : key ∈ identityFields) :
    (identity record).field key = record.field key := Dict.field_congr (identity_get? record kept)

@[simp] theorem isKind_identity (kind : String) (record : Record) : isKind kind (identity record) = isKind kind record := by
  unfold isKind
  rw [identity_field record (by decide)]

@[simp] theorem taskKey_identity (record : Record) : taskKey platform (identity record) = taskKey platform record := by
  unfold taskKey
  rw [identity_field record (by decide), identity_field record (by decide)]

@[simp] theorem rankOf_identity (record : Record) : rankOf platform (identity record) = rankOf platform record := by
  unfold rankOf itemOr
  rw [identity_get? record (by decide), identity_get? record (by decide)]

@[simp] theorem rank_identity (record : Record) : rank platform (identity record) = rank platform record := by
  unfold rank
  rw [rankOf_identity]

@[simp] theorem identity_identity (record : Record) : identity (identity record) = identity record := by
  unfold identity
  rw [List.filter_filter]
  simp

theorem isKind_exclusive {record : Record} {kind other : String} (different : kind ≠ other)
    (isOne : isKind kind record = true) : isKind other record = false := by
  unfold isKind at isOne ⊢
  rw [of_decide_eq_true isOne]
  simpa using different

end Identity

section Remnants

variable {platform : ReplayPlatform} {related other : List Record}

theorem mem_attempts {task : Record} : task ∈ attempts related ↔ task ∈ related ∧ isKind "TaskExecution" task = true :=
  List.mem_filter

theorem isKind_of_superseded {task : Record} (is_superseded : superseded platform related task = true) :
    isKind "TaskExecution" task = true := by
  simp only [superseded, Bool.and_eq_true] at is_superseded
  exact is_superseded.1

@[simp] theorem superseded_identity (task : Record) :
    superseded platform related (identity task) = superseded platform related task := by
  simp only [superseded, isKind_identity, taskKey_identity, rank_identity]

theorem remnant_attempt {record left : Record} (remains : remnant platform related record = some left) :
    identity left = identity record ∧ (left = record ∨ superseded platform related record = true) := by
  unfold remnant at remains
  split at remains
  · cases remains
  · split at remains <;> cases remains
    · rename_i is_superseded
      exact ⟨identity_identity record, .inr is_superseded⟩
    · exact ⟨rfl, .inl rfl⟩

theorem attempts_unsuperseded (platform : ReplayPlatform) (related : List Record) :
    (attempts (unsuperseded platform related)).map identity = (attempts related).map identity := by
  unfold attempts unsuperseded
  have each (records : List Record) : ((records.filterMap (remnant platform related)).filter (isKind "TaskExecution")).map
      identity = (records.filter (isKind "TaskExecution")).map identity := by
    induction records with
    | nil => rfl
    | cons record rest ih =>
      cases remains : remnant platform related record with
      | none =>
        have dropped : isKind "EvaluationResult" record = true := by
          unfold remnant at remains
          split at remains
          · rename_i both
            exact (Bool.and_eq_true _ _ ▸ both).1
          · split at remains <;> cases remains
        have noTask := @isKind_exclusive _ _ "TaskExecution" (by decide) dropped
        rw [List.filterMap_cons_none remains, ih, List.filter_cons_of_neg (by simp [noTask])]
      | some left =>
        obtain ⟨same, -⟩ := remnant_attempt remains
        have kinds : isKind "TaskExecution" left = isKind "TaskExecution" record := by
          rw [← isKind_identity, same, isKind_identity]
        rw [List.filterMap_cons_some remains]
        by_cases task : isKind "TaskExecution" record = true
        · rw [List.filter_cons_of_pos (kinds.trans task), List.filter_cons_of_pos task, List.map_cons, List.map_cons, same,
            ih]
        · rw [List.filter_cons_of_neg (kinds ▸ task), List.filter_cons_of_neg task, ih]
  exact each related

def SameAttempts (related other : List Record) : Prop :=
  ∀ attempt, attempt ∈ (attempts related).map identity ↔ attempt ∈ (attempts other).map identity

theorem any_attempts (holds : Record → Bool) (ofIdentity : ∀ record, holds (identity record) = holds record) :
    (attempts related).any holds = true ↔ ∃ attempt ∈ (attempts related).map identity, holds attempt = true := by
  simp only [List.any_eq_true, List.mem_map]
  constructor
  · rintro ⟨attempt, member, found⟩
    exact ⟨_, ⟨attempt, member, rfl⟩, (ofIdentity attempt).trans found⟩
  · rintro ⟨_, ⟨attempt, member, rfl⟩, found⟩
    exact ⟨attempt, member, (ofIdentity attempt).symm.trans found⟩

theorem SameAttempts.any (same : SameAttempts related other) (holds : Record → Bool)
    (ofIdentity : ∀ record, holds (identity record) = holds record) :
    (attempts related).any holds = (attempts other).any holds := by
  rw [Bool.eq_iff_iff, any_attempts holds ofIdentity, any_attempts holds ofIdentity]
  exact exists_congr fun attempt => and_congr_left fun _ => same attempt

theorem SameAttempts.superseded (same : SameAttempts related other) (task : Record) :
    superseded platform related task = superseded platform other task := by
  unfold EvaluationSuites.superseded
  rw [same.any _ fun record => by rw [taskKey_identity, rank_identity]]

theorem SameAttempts.ofSuperseded (same : SameAttempts related other) (result : Record) :
    ofSuperseded platform related result = ofSuperseded platform other result := by
  unfold EvaluationSuites.ofSuperseded
  simp only [same.superseded]
  exact same.any _ fun record => by rw [superseded_identity, identity_field record (by decide)]

theorem sameAttempts_unsuperseded (platform : ReplayPlatform) (related : List Record) :
    SameAttempts (unsuperseded platform related) related := by
  intro attempt
  rw [attempts_unsuperseded]

theorem sameAttempts_of_perm (same : (unsuperseded platform related).Perm (unsuperseded platform other)) :
    SameAttempts related other := by
  intro attempt
  rw [← attempts_unsuperseded platform related, ← attempts_unsuperseded platform other]
  exact ((same.filter _).map _).mem_iff

theorem scoring_unsuperseded (platform : ReplayPlatform) (related : List Record) :
    scoring platform related = (unsuperseded platform related).filter (isKind "EvaluationResult") := by
  unfold scoring unsuperseded
  have each (records : List Record) : (records.filter fun result =>
      isKind "EvaluationResult" result && !ofSuperseded platform related result) =
        (records.filterMap (remnant platform related)).filter (isKind "EvaluationResult") := by
    induction records with
    | nil => rfl
    | cons record rest ih =>
      by_cases isResult : isKind "EvaluationResult" record = true
      · by_cases dropped : ofSuperseded platform related record = true
        · have remains : remnant platform related record = none := by simp [remnant, isResult, dropped]
          rw [List.filter_cons_of_neg (by simp [dropped]), List.filterMap_cons_none remains, ih]
        · have noTask : superseded platform related record = false := by
            rw [EvaluationSuites.superseded, isKind_exclusive (by decide) isResult, Bool.false_and]
          have remains : remnant platform related record = some record := by simp [remnant, dropped, noTask]
          rw [List.filter_cons_of_pos (by simp [isResult, dropped]), List.filterMap_cons_some remains,
            List.filter_cons_of_pos isResult, ih]
      · obtain ⟨left, remains⟩ : ∃ left, remnant platform related record = some left := by
          unfold remnant
          split
          · rename_i both
            exact absurd (Bool.and_eq_true _ _ ▸ both).1 isResult
          · split <;> exact ⟨_, rfl⟩
        have kinds : isKind "EvaluationResult" left = isKind "EvaluationResult" record := by
          rw [← isKind_identity, (remnant_attempt remains).1, isKind_identity]
        rw [List.filter_cons_of_neg (by simp [isResult]), List.filterMap_cons_some remains,
          List.filter_cons_of_neg (kinds ▸ isResult), ih]
  exact each related

theorem mem_effectiveAttempts_unsuperseded {task : Record} : task ∈ effectiveAttempts platform related ↔
    task ∈ unsuperseded platform related ∧ isKind "TaskExecution" task = true ∧
      superseded platform related task = false := by
  unfold effectiveAttempts unsuperseded
  simp only [List.mem_filter, mem_attempts, List.mem_filterMap, Bool.not_eq_eq_eq_not, Bool.not_true]
  constructor
  · rintro ⟨⟨member, isTask⟩, effective⟩
    have noResult := @isKind_exclusive _ _ "EvaluationResult" (by decide) isTask
    exact ⟨⟨task, member, by simp [remnant, noResult, effective]⟩, isTask, effective⟩
  · rintro ⟨⟨record, member, remains⟩, isTask, effective⟩
    obtain ⟨same, rfl | is_superseded⟩ := remnant_attempt remains
    · exact ⟨⟨member, isTask⟩, effective⟩
    · rw [← superseded_identity, same, superseded_identity, is_superseded] at effective
      cases effective

theorem mem_effectiveAttempts_congr (same : (unsuperseded platform related).Perm (unsuperseded platform other))
    {task : Record} : task ∈ effectiveAttempts platform related ↔ task ∈ effectiveAttempts platform other := by
  rw [mem_effectiveAttempts_unsuperseded, mem_effectiveAttempts_unsuperseded, same.mem_iff,
    (sameAttempts_of_perm same).superseded]

end Remnants

end Aep.EvaluationSuites
