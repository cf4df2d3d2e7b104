import Aep.EvaluationSuites.Attempts

namespace Aep.EvaluationSuites

open RuntimeStore

section Latest

variable {platform : ReplayPlatform} {related : List Record}

def Ranked (platform : ReplayPlatform) (task : Record) : Prop := ∃ rank, rankOf platform task = .ok rank

theorem rankOf_eq {task : Record} (ranked : Ranked platform task) : rankOf platform task = .ok (rank platform task) := by
  obtain ⟨value, found⟩ := ranked
  rw [rank, found]
  rfl

theorem noteAttempt_eq {latest : Dict String Record} {task : Record} (held : ∀ entry ∈ latest, Ranked platform entry.2)
    (ranked : Ranked platform task) :
    noteAttempt platform latest task = .ok (Latest.note (taskKey platform) (rank platform) latest task) := by
  unfold noteAttempt Latest.note
  rw [rankOf_eq ranked, Result.ok_bind]
  cases found : latest.get? (taskKey platform task) with
  | none => rfl
  | some previous =>
    simp only [rankOf_eq (held _ (Dict.get?_mem found)), Result.ok_bind]
    split <;> rfl

theorem ranked_note {latest : Dict String Record} {task : Record} (held : ∀ entry ∈ latest, Ranked platform entry.2)
    (ranked : Ranked platform task) :
    ∀ entry ∈ Latest.note (taskKey platform) (rank platform) latest task, Ranked platform entry.2 := by
  have set : ∀ entry ∈ latest.set (taskKey platform task) task, Ranked platform entry.2 := by
    intro entry member
    rcases Dict.mem_of_mem_set member with rfl | old
    · exact ranked
    · exact held entry old
  unfold Latest.note
  split
  · exact set
  · split
    · exact set
    · exact held

theorem foldlM_noteAttempt {tasks : List Record} (ranked : ∀ task ∈ tasks, Ranked platform task) :
    tasks.foldlM (noteAttempt platform) [] = .ok (Latest.pass (taskKey platform) (rank platform) tasks) := by
  have each (latest : Dict String Record) (held : ∀ entry ∈ latest, Ranked platform entry.2) :
      tasks.foldlM (noteAttempt platform) latest =
        .ok (tasks.foldl (Latest.note (taskKey platform) (rank platform)) latest) := by
    induction tasks generalizing latest with
    | nil => rfl
    | cons task rest ih =>
      have first := ranked task List.mem_cons_self
      rw [List.foldlM_cons, noteAttempt_eq held first, Result.ok_bind, List.foldl_cons]
      exact ih (fun task member => ranked task (List.mem_cons_of_mem _ member)) _ (ranked_note held first)
  exact each [] fun entry member => by cases member

theorem ranked_of_foldlM {tasks : List Record} {latest result : Dict String Record}
    (noted : tasks.foldlM (noteAttempt platform) latest = .ok result) : ∀ task ∈ tasks, Ranked platform task := by
  induction tasks generalizing latest with
  | nil =>
    intro task member
    cases member
  | cons first rest ih =>
    intro task member
    rw [List.foldlM_cons, Result.bind_eq_ok] at noted
    obtain ⟨next, one, others⟩ := noted
    rcases List.mem_cons.mp member with rfl | later
    · simp only [noteAttempt, Result.bind_eq_ok] at one
      obtain ⟨rank, found, -⟩ := one
      exact ⟨rank, found⟩
    · exact ih others task later

theorem foldlM_noteEffective (ranked : ∀ task ∈ attempts related, Ranked platform task) :
    related.foldlM (noteEffective platform) [] =
      .ok (Latest.pass (taskKey platform) (rank platform) (attempts related)) := by
  rw [← foldlM_noteAttempt ranked]
  unfold attempts at ranked ⊢
  have each (latest : Dict String Record) : related.foldlM (noteEffective platform) latest =
      (related.filter (isKind "TaskExecution")).foldlM (noteAttempt platform) latest := by
    induction related generalizing latest with
    | nil => rfl
    | cons record rest ih =>
      by_cases isTask : isKind "TaskExecution" record = true
      · rw [List.filter_cons_of_pos isTask] at ranked ⊢
        have step : noteEffective platform latest record = noteAttempt platform latest record := by
          unfold noteEffective noteAttempt
          rw [rankOf_eq (ranked record List.mem_cons_self)]
          simp only [isTask, ↓reduceIte, Result.ok_bind]
        rw [List.foldlM_cons, List.foldlM_cons, step]
        exact congrArg _ (funext fun next => ih (fun task member => ranked task (List.mem_cons_of_mem _ member)) next)
      · rw [List.filter_cons_of_neg isTask] at ranked ⊢
        have step : noteEffective platform latest record = .ok latest := by
          simp only [noteEffective, isTask, Bool.false_eq_true, ↓reduceIte]
          rfl
        rw [List.foldlM_cons, step, Result.ok_bind]
        exact ih ranked latest
  exact each []

theorem rank_id {listing : Listing} {first second : Record} (one : first ∈ attempts listing.records)
    (two : second ∈ attempts listing.records) (ranked : ∀ task ∈ attempts listing.records, Ranked platform task)
    (same : rank platform first = rank platform second) : first = second := by
  have named (task : Record) (member : task ∈ attempts listing.records) : ∃ id, task.field "id" = .str id ∧
      (ofLex (rank platform task)).2 = id := by
    obtain ⟨id, isId⟩ := listing.identified task (mem_attempts.mp member).1
    obtain ⟨value, found⟩ := ranked task member
    have present : task.get? "id" = some (.str id) := Dict.get?_of_field isId (by simp)
    refine ⟨id, isId, ?_⟩
    rw [rank, found]
    simp only [rankOf, itemOr, present, Option.getD_some, Result.bind_eq_ok, Result.pure_eq_ok] at found
    obtain ⟨attempt, -, rfl⟩ := found
    rfl
  obtain ⟨id, isId, rankId⟩ := named first one
  obtain ⟨other, isOther, rankOther⟩ := named second two
  refine listing.unique first (mem_attempts.mp one).1 second (mem_attempts.mp two).1 ?_
  rw [isId, isOther, ← rankId, ← rankOther, same]

theorem mem_pass {listing : Listing} (ranked : ∀ task ∈ attempts listing.records, Ranked platform task) {task : Record} :
    task ∈ (Latest.pass (taskKey platform) (rank platform) (attempts listing.records)).map Prod.snd ↔
      task ∈ effectiveAttempts platform listing.records := by
  rw [Latest.mem_pass_iff fun first one second two _ same => rank_id one two ranked same]
  unfold effectiveAttempts superseded
  simp only [List.mem_filter, Bool.not_eq_eq_eq_not, Bool.not_true, Bool.and_eq_false_imp, List.any_eq_false,
    Bool.and_eq_true, decide_eq_true_eq, not_and, not_lt]
  constructor
  · rintro ⟨member, highest⟩
    exact ⟨member, fun _ other listed same => highest other listed same⟩
  · rintro ⟨member, highest⟩
    exact ⟨member, fun other listed same => highest (mem_attempts.mp member).2 other listed same⟩

end Latest

section Effective

variable {platform : ReplayPlatform} {listing left right : Listing}

/-- The attempts of every Task can be compared, and every result names its own. -/
structure Scorable (platform : ReplayPlatform) (related : List Record) : Prop where
  ranked : ∀ task ∈ attempts related, Ranked platform task
  hashable : ∀ result ∈ related, isKind "EvaluationResult" result = true →
    (result.field "taskExecutionId").isHashable = true

theorem attempt_id {task : Record} (member : task ∈ attempts listing.records) : ∃ id, task.field "id" = .str id :=
  listing.identified task (mem_attempts.mp member).1

theorem counts_eq (ranked : ∀ task ∈ attempts listing.records, Ranked platform task) (result : Record) :
    counts ((attempts listing.records).map fun task => task.field "id")
      ((((Latest.pass (taskKey platform) (rank platform) (attempts listing.records)).map fun entry =>
        entry.2.field "id").filter fun id => id ≠ .null).map Json.text) result =
      !ofSuperseded platform listing.records result := by
  have effective (id : String) : (∃ task ∈ effectiveAttempts platform listing.records, task.field "id" = .str id) ↔
      id ∈ (((Latest.pass (taskKey platform) (rank platform) (attempts listing.records)).map fun entry =>
        entry.2.field "id").filter fun id => id ≠ .null).map Json.text := by
    have same : ((Latest.pass (taskKey platform) (rank platform) (attempts listing.records)).map fun entry =>
        entry.2.field "id") = ((Latest.pass (taskKey platform) (rank platform) (attempts listing.records)).map
          Prod.snd).map fun task => task.field "id" := by
      rw [List.map_map]
      rfl
    simp only [same, List.mem_map, List.mem_filter, ← mem_pass ranked]
    constructor
    · rintro ⟨task, ⟨entry, member, rfl⟩, named⟩
      exact ⟨.str id, ⟨⟨_, ⟨entry, member, rfl⟩, named⟩, by simp⟩, rfl⟩
    · rintro ⟨value, ⟨⟨_, ⟨entry, member, rfl⟩, rfl⟩, -⟩, named⟩
      refine ⟨_, ⟨entry, member, rfl⟩, ?_⟩
      have kept := (mem_pass ranked).mp (List.mem_map_of_mem member)
      obtain ⟨text, isText⟩ := attempt_id (List.mem_filter.mp kept).1
      rw [isText] at named ⊢
      rw [← named]
      rfl
  rw [Bool.eq_iff_iff]
  simp only [counts, ofSuperseded, Bool.or_eq_true, decide_eq_true_eq, Bool.not_eq_eq_eq_not, Bool.not_true,
    List.any_eq_false, List.mem_map, Bool.and_eq_true, not_and, forall_exists_index, and_imp, forall_apply_eq_imp_iff₂,
    List.contains_iff_mem, ← effective]
  constructor
  · rintro ((isNull | unlisted) | ⟨kept, member, named⟩) task listed is_superseded same
    · obtain ⟨id, isId⟩ := attempt_id listed
      rw [isNull, isId] at same
      cases same
    · exact unlisted task listed (by rw [same, Json.pyEq_refl])
    · obtain ⟨id, isId⟩ := attempt_id listed
      rw [← same, isId] at named
      have sameTask := listing.unique kept (mem_attempts.mp (List.mem_filter.mp member).1).1 task
        (mem_attempts.mp listed).1 (named.trans isId.symm)
      have effective_kept := (List.mem_filter.mp member).2
      rw [sameTask, is_superseded] at effective_kept
      cases effective_kept
  · intro current
    by_cases unlisted : ∀ task ∈ attempts listing.records, ¬((task.field "id").pyEq (result.field "taskExecutionId") = true)
    · exact .inl (.inr fun task listed => by simpa using unlisted task listed)
    · push Not at unlisted
      obtain ⟨task, listed, same⟩ := unlisted
      obtain ⟨id, isId⟩ := attempt_id listed
      rw [isId, Json.pyEq_comm, Json.pyEq_str] at same
      refine .inr ⟨task, List.mem_filter.mpr ⟨listed, ?_⟩, ?_⟩
      · by_contra is_superseded
        exact current task listed (by simpa using is_superseded) (isId.trans same.symm)
      · rw [isId, same, Json.text_str]

theorem effectiveEvaluations_eq (scorable : Scorable platform listing.records) :
    effectiveEvaluations platform listing.records = .ok (scoring platform listing.records) := by
  have hashableIds : ¬(((attempts listing.records).map fun task => task.field "id").any fun id => !id.isHashable) = true := by
    simp only [List.any_eq_true, List.mem_map, not_exists, not_and]
    rintro _ ⟨task, member, rfl⟩
    obtain ⟨id, isId⟩ := attempt_id member
    simp [isId, Json.isHashable]
  have hashableOwners : ¬((listing.records.filter (isKind "EvaluationResult")).any fun result =>
      !(result.field "taskExecutionId").isHashable) = true := by
    simp only [List.any_eq_true, List.mem_filter, not_exists, not_and]
    rintro result ⟨member, isResult⟩
    simp [scorable.hashable result member isResult]
  have noted := foldlM_noteAttempt scorable.ranked
  have counted := counts_eq scorable.ranked
  unfold attempts at hashableIds noted counted
  unfold effectiveEvaluations scoring
  simp only [Result.raiseIf_neg hashableIds, Result.raiseIf_neg hashableOwners, Result.ok_bind, noted,
    Result.pure_eq_ok, List.filter_filter]
  refine List.filter_congr fun result _ => ?_
  rw [counted, Bool.and_comm]

theorem scorable_of_ok {related scored : List Record} (evaluated : effectiveEvaluations platform related = .ok scored) :
    Scorable platform related := by
  simp only [effectiveEvaluations, Result.bind_eq_ok, Result.raiseIf_eq_ok] at evaluated
  obtain ⟨_, -, latest, noted, _, hashable, -⟩ := evaluated
  refine ⟨ranked_of_foldlM noted, fun result member isResult => ?_⟩
  by_contra unhashable
  refine hashable (List.any_eq_true.mpr ⟨result, List.mem_filter.mpr ⟨member, isResult⟩, ?_⟩)
  simpa using unhashable

theorem effectiveEvaluations_ok {scored : List Record} :
    effectiveEvaluations platform listing.records = .ok scored ↔
      Scorable platform listing.records ∧ scored = scoring platform listing.records := by
  constructor
  · intro evaluated
    have scorable := scorable_of_ok evaluated
    rw [effectiveEvaluations_eq scorable] at evaluated
    exact ⟨scorable, (Except.ok.inj evaluated).symm⟩
  · rintro ⟨scorable, rfl⟩
    exact effectiveEvaluations_eq scorable

theorem Scorable.congr (same : (unsuperseded platform left.records).Perm (unsuperseded platform right.records))
    (scorable : Scorable platform left.records) : Scorable platform right.records := by
  have attemptsSame := sameAttempts_of_perm same
  constructor
  · intro task member
    obtain ⟨other, listed, identical⟩ := List.mem_map.mp ((attemptsSame _).mpr (List.mem_map_of_mem member))
    have ranked := scorable.ranked other listed
    unfold Ranked at ranked ⊢
    rwa [← rankOf_identity, ← identical, rankOf_identity]
  · intro result member isResult
    by_cases dropped : ofSuperseded platform right.records result = true
    · obtain ⟨attempt, listed, both⟩ := List.any_eq_true.mp dropped
      simp only [Bool.and_eq_true, decide_eq_true_eq] at both
      obtain ⟨id, isId⟩ := attempt_id listed
      rw [← both.2, isId]
      rfl
    · have counted : result ∈ scoring platform right.records :=
        List.mem_filter.mpr ⟨member, by simp [isResult, dropped]⟩
      rw [scoring_unsuperseded, ← (same.filter _).mem_iff, ← scoring_unsuperseded] at counted
      exact scorable.hashable result (List.mem_filter.mp counted).1 isResult

end Effective

end Aep.EvaluationSuites
