import Aep.EvaluationSuites.Scoring

namespace Aep.EvaluationSuites

open RuntimeStore

section References

variable {scored other : List Record}

def evaluates (reference result : Record) : Bool := (result.field "evaluationRef").pyEq (.obj reference)

def passes (result : Record) : Bool :=
  result.field "status" = .str "SUCCEEDED" && result.field "outcome" = .str "PASS"

/-- A selected Evaluation has results that count, and all of them passed. -/
structure Met (scored : List Record) (reference : Record) : Prop where
  evaluated : ∃ result ∈ scored, evaluates reference result = true
  passed : ∀ result ∈ scored, evaluates reference result = true → passes result = true

theorem judgeReference_perm (same : scored.Perm other) (reference : Record) :
    judgeReference scored reference = judgeReference other reference := by
  have found := same.filter fun result => (result.field "evaluationRef").pyEq (.obj reference)
  have empty : (scored.filter fun result => (result.field "evaluationRef").pyEq (.obj reference)) = [] ↔
      (other.filter fun result => (result.field "evaluationRef").pyEq (.obj reference)) = [] := by
    rw [← List.length_eq_zero_iff, found.length_eq, List.length_eq_zero_iff]
  simp only [judgeReference, empty, found.mem_iff]

theorem judgeReferences_perm (same : scored.Perm other) (references : List Record) :
    judgeReferences scored references = judgeReferences other references := by
  induction references with
  | nil => rfl
  | cons reference rest ih => rw [judgeReferences, judgeReferences, judgeReference_perm same, ih]

theorem judgeReference_none {reference : Record} (judged : judgeReference scored reference = .ok none) :
    Met scored reference := by
  unfold judgeReference at judged
  dsimp only at judged
  split at judged
  · simp [Result.bind_eq_ok] at judged
  · rename_i found
    split at judged
    · simp [Result.bind_eq_ok] at judged
    · rename_i passed
      obtain ⟨result, member⟩ := List.exists_mem_of_ne_nil _ found
      obtain ⟨listed, evaluated⟩ := List.mem_filter.mp member
      refine ⟨⟨result, listed, evaluated⟩, fun result listed evaluated => ?_⟩
      by_contra failed
      refine passed ⟨result, List.mem_filter.mpr ⟨listed, evaluated⟩, ?_⟩
      simp only [passes, Bool.and_eq_true, decide_eq_true_eq] at failed
      exact not_and_or.mp failed

theorem judgeReferences_none {references : List Record} (judged : judgeReferences scored references = .ok none) :
    ∀ reference ∈ references, Met scored reference := by
  induction references with
  | nil =>
    intro reference member
    cases member
  | cons first rest ih =>
    simp only [judgeReferences, Result.bind_eq_ok] at judged
    obtain ⟨answer, one, others⟩ := judged
    cases answer with
    | some failure => cases others
    | none =>
      intro reference member
      rcases List.mem_cons.mp member with rfl | later
      · exact judgeReference_none one
      · exact ih others reference later

end References

section Tasks

variable {publicationDisabled : Bool} {tasks other : List Record}

/-- A Task does not fail the case: its status is no failure, or it is the refused publication. -/
def Tolerated (publicationDisabled : Bool) (task : Record) : Prop :=
  failedOrBlocked task = true → publicationDenial publicationDisabled task = true

instance (publicationDisabled : Bool) (task : Record) : Decidable (Tolerated publicationDisabled task) :=
  inferInstanceAs (Decidable (_ → _))

def deniedIn (publicationDisabled : Bool) (tasks : List Record) : Bool :=
  tasks.any fun task => failedOrBlocked task && publicationDenial publicationDisabled task

theorem judgeTasks_some {seen denied : Bool} : judgeTasks publicationDisabled tasks seen = .ok (some denied) ↔
    (∀ task ∈ tasks, (task.field "status").isHashable = true ∧ Tolerated publicationDisabled task) ∧
      denied = (seen || deniedIn publicationDisabled tasks) := by
  induction tasks generalizing seen with
  | nil =>
    simp only [judgeTasks, Result.pure_eq_ok, Option.some.injEq, deniedIn, List.any_nil, Bool.or_false,
      List.not_mem_nil, false_implies, implies_true, true_and]
    exact eq_comm
  | cons task rest ih =>
    by_cases hashable : (task.field "status").isHashable = true
    · rw [judgeTasks, Result.raiseIf_neg (by simp [hashable]), Result.ok_bind]
      by_cases failed : failedOrBlocked task = true
      · by_cases denial : publicationDenial publicationDisabled task = true
        · simp [failed, denial, ih, hashable, Tolerated, deniedIn]
        · simp [failed, denial, hashable, Tolerated]
      · simp [failed, ih, hashable, Tolerated, deniedIn]
    · rw [judgeTasks, Result.raiseIf_pos (by simp [hashable]), Result.error_bind]
      simp [hashable]

theorem judgeTasks_none {seen : Bool} (hashable : ∀ task ∈ tasks, (task.field "status").isHashable = true)
    (failing : ¬∀ task ∈ tasks, Tolerated publicationDisabled task) :
    judgeTasks publicationDisabled tasks seen = .ok none := by
  induction tasks generalizing seen with
  | nil => simp at failing
  | cons task rest ih =>
    have later := fun seen => @ih seen fun task member => hashable task (List.mem_cons_of_mem _ member)
    rw [judgeTasks, Result.raiseIf_neg (by simp [hashable task List.mem_cons_self]), Result.ok_bind]
    simp only [List.mem_cons, forall_eq_or_imp, not_and] at failing
    by_cases failed : failedOrBlocked task = true
    · by_cases denial : publicationDenial publicationDisabled task = true
      · simp [failed, denial, later _ (failing fun _ => denial)]
      · simp [failed, denial]
    · simp [failed, later _ (failing fun found => absurd found failed)]

theorem deniedIn_congr (same : ∀ task, task ∈ tasks ↔ task ∈ other) :
    deniedIn publicationDisabled tasks = deniedIn publicationDisabled other := by
  rw [Bool.eq_iff_iff, deniedIn, deniedIn, List.any_eq_true, List.any_eq_true]
  exact exists_congr fun task => and_congr_left fun _ => same task

end Tasks

section Cases

variable {platform : ReplayPlatform} {execution : Record} {listing left right : Listing} {references : List Record}

def passed : Except PyError (Bool × Option String) → Bool
  | .ok (verdict, _) => verdict
  | .error _ => false

def Tolerable (execution task : Record) : Prop :=
  (task.field "status").isHashable = true ∧ Tolerated (publicationDisabled execution) task

def Ended (execution : Record) (denied : Bool) : Prop :=
  execution.field "status" = .str "SUCCEEDED" ∨ execution.field "status" = .str "FAILED" ∧ denied = true

theorem passed_ending (execution : Record) (denied : Bool) :
    passed (if execution.field "status" ≠ .str "SUCCEEDED" ∧ ¬(execution.field "status" = .str "FAILED" ∧ denied = true)
      then pure (false, some "historical replay did not complete successfully") else pure (true, none)) = true ↔
      Ended execution denied := by
  unfold Ended
  by_cases ended : execution.field "status" = .str "SUCCEEDED" ∨ execution.field "status" = .str "FAILED" ∧ denied = true
  · rw [if_neg fun unended => ended.elim unended.1 unended.2]
    exact iff_of_true rfl ended
  · rw [if_pos (not_or.mp ended)]
    exact iff_of_false Bool.false_ne_true ended

structure Passing (platform : ReplayPlatform) (execution : Record) (related references : List Record) : Prop where
  scorable : Scorable platform related
  judged : judgeReferences (scoring platform related) references = .ok none
  tolerable : ∀ task ∈ effectiveAttempts platform related, Tolerable execution task
  ended : Ended execution (deniedIn (publicationDisabled execution) (effectiveAttempts platform related))

theorem passed_iff : passed (historicalCasePassed platform execution listing.records references) = true ↔
    Passing platform execution listing.records references := by
  by_cases scorable : Scorable platform listing.records
  · have kept := foldlM_noteEffective scorable.ranked
    have members := fun task => @mem_pass _ _ scorable.ranked task
    unfold historicalCasePassed
    rw [effectiveEvaluations_eq scorable, Result.ok_bind]
    cases judged : judgeReferences (scoring platform listing.records) references with
    | error error =>
      constructor
      · intro found
        cases found
      · intro passing
        cases judged.symm.trans passing.judged
    | ok answer =>
      cases answer with
      | some failure =>
        constructor
        · intro found
          cases found
        · intro passing
          cases judged.symm.trans passing.judged
      | none =>
        rw [Result.ok_bind]
        dsimp only
        rw [kept, Result.ok_bind]
        have denied := @deniedIn_congr (publicationDisabled execution) _ _ members
        constructor
        · intro found
          cases judgedTasks : judgeTasks (publicationDisabled execution)
              ((Latest.pass (taskKey platform) (rank platform) (attempts listing.records)).map Prod.snd) false with
          | error error =>
            rw [judgedTasks] at found
            cases found
          | ok answer =>
            rw [judgedTasks, Result.ok_bind] at found
            cases answer with
            | none => cases found
            | some seen =>
              obtain ⟨tolerable, rfl⟩ := judgeTasks_some.mp judgedTasks
              refine ⟨scorable, judged, fun task member => tolerable task ((members task).mpr member), ?_⟩
              rw [← denied]
              exact (passed_ending execution _).mp found
        · intro passing
          have ended := passing.ended
          have tolerable := fun task member => passing.tolerable task ((members task).mp member)
          rw [← denied] at ended
          rw [judgeTasks_some.mpr ⟨tolerable, rfl⟩, Result.ok_bind]
          exact (passed_ending execution _).mpr ended
  · constructor
    · intro found
      cases evaluated : effectiveEvaluations platform listing.records with
      | error error =>
        rw [historicalCasePassed, evaluated] at found
        cases found
      | ok scored => exact absurd (scorable_of_ok evaluated) scorable
    · exact fun passing => absurd passing.scorable scorable

theorem Passing.congr (same : (unsuperseded platform left.records).Perm (unsuperseded platform right.records))
    (passing : Passing platform execution left.records references) :
    Passing platform execution right.records references := by
  have scored : (scoring platform left.records).Perm (scoring platform right.records) := by
    rw [scoring_unsuperseded, scoring_unsuperseded]
    exact same.filter _
  have members := fun task => @mem_effectiveAttempts_congr _ _ _ same task
  refine ⟨passing.scorable.congr same, ?_, fun task member => passing.tolerable task ((members task).mpr member), ?_⟩
  · rw [← judgeReferences_perm scored]
    exact passing.judged
  · rw [← deniedIn_congr members]
    exact passing.ended

theorem passed_congr (same : (unsuperseded platform left.records).Perm (unsuperseded platform right.records)) :
    passed (historicalCasePassed platform execution left.records references) =
      passed (historicalCasePassed platform execution right.records references) := by
  rw [Bool.eq_iff_iff, passed_iff, passed_iff]
  exact ⟨fun passing => passing.congr same, fun passing => passing.congr same.symm⟩

theorem historicalCasePassed_congr
    (same : (unsuperseded platform left.records).Perm (unsuperseded platform right.records))
    (hashable : ∀ task ∈ effectiveAttempts platform left.records, (task.field "status").isHashable = true) :
    (historicalCasePassed platform execution left.records references).toOption =
      (historicalCasePassed platform execution right.records references).toOption := by
  have scored : (scoring platform left.records).Perm (scoring platform right.records) := by
    rw [scoring_unsuperseded, scoring_unsuperseded]
    exact same.filter _
  by_cases scorable : Scorable platform left.records
  · have other := scorable.congr same
    have members (task : Record) := (mem_pass scorable.ranked).trans
      ((mem_effectiveAttempts_congr same).trans (@mem_pass _ _ other.ranked task).symm)
    have hashableKept := fun task member => hashable task ((mem_pass scorable.ranked).mp member)
    have hashableOther := fun task member => hashableKept task ((members task).mpr member)
    have judged : judgeTasks (publicationDisabled execution)
        ((Latest.pass (taskKey platform) (rank platform) (attempts left.records)).map Prod.snd) false =
          judgeTasks (publicationDisabled execution)
            ((Latest.pass (taskKey platform) (rank platform) (attempts right.records)).map Prod.snd) false := by
      by_cases tolerated : ∀ task ∈ (Latest.pass (taskKey platform) (rank platform) (attempts left.records)).map Prod.snd,
          Tolerated (publicationDisabled execution) task
      · rw [judgeTasks_some.mpr ⟨fun task member => ⟨hashableKept task member, tolerated task member⟩, rfl⟩,
          judgeTasks_some.mpr ⟨fun task member =>
            ⟨hashableOther task member, tolerated task ((members task).mpr member)⟩, rfl⟩, deniedIn_congr members]
      · rw [judgeTasks_none hashableKept tolerated, judgeTasks_none hashableOther fun all =>
          tolerated fun task member => all task ((members task).mp member)]
    unfold historicalCasePassed
    rw [effectiveEvaluations_eq scorable, effectiveEvaluations_eq other, Result.ok_bind, Result.ok_bind,
      judgeReferences_perm scored, foldlM_noteEffective scorable.ranked, foldlM_noteEffective other.ranked]
    simp only [Result.ok_bind, judged]
  · have unscorable : ¬Scorable platform right.records := fun other => scorable (other.congr same.symm)
    have raises (listing : Listing) (unscorable : ¬Scorable platform listing.records) :
        (historicalCasePassed platform execution listing.records references).toOption = none := by
      cases evaluated : effectiveEvaluations platform listing.records with
      | error error =>
        rw [historicalCasePassed, evaluated]
        rfl
      | ok scored => exact absurd (scorable_of_ok evaluated) unscorable
    rw [raises left scorable, raises right unscorable]

end Cases

end Aep.EvaluationSuites
