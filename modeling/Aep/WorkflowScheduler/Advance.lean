import Aep.WorkflowScheduler.Dispatch

namespace Aep.WorkflowScheduler

open RuntimeStore StateAction Machine.Discipline

variable {setting : Setting} {world next : World} {scheduler : Scheduler} {attempt running : Record} {timestamp : String}

theorem Grows.task (grows : Grows world next) {record : Record} (task : world.Task record) : next.Task record :=
  ⟨grows.seen task.1, task.2⟩

section Start

theorem World.Task.again {record : Record} (task : world.Task attempt) (seen : world.Seen record)
    (named : idOf record = idOf attempt) : world.Task record := by
  refine ⟨seen, ?_⟩
  obtain ⟨current, stored, evolved⟩ := seen
  exact (isTask_evolves evolved).symm.trans (task.of_stored (named ▸ stored))

theorem Writes.diagnostics {changes : Record} {names : List String} (writes : Writes changes names) (value : Json) :
    Writes (("persistenceDiagnostics", value) :: changes) names := by
  intro field member outside
  have other : "persistenceDiagnostics" ≠ field := by
    intro same
    subst same
    simp [lifeFields] at member
  rw [Dict.get?_cons, if_neg other]
  exact writes field member outside

theorem writes_nil (names : List String) : Writes [] names := fun _ _ _ => rfl

theorem triple_diagnostics {id : String} {diagnostics : List Json} :
    setting.Triple (fun _ => True) (Prog.updateStatus id "RUNNING" "RUNNING" timestamp
        [("persistenceDiagnostics", .arr diagnostics)])
      (returns fun updated world => world.Seen updated ∧ idOf updated = id ∧ statusOf updated = .str "RUNNING") :=
  triple_updateStatus (fun _ _ _ _ => trivial) fun _ _ _ => .diagnostics ((writes_nil []).diagnostics _)

theorem keeps_taskEventExists {fact : World → Prop} (persistent : setting.Persistent fact) (event : TaskEvent) :
    setting.Keeps fact (taskEventExists running event) :=
  Keeps.bind persistent (keeps_listByTaskExecution persistent _) fun _ => keeps_pure

theorem triple_persistRecoveredStartDiagnostics {diagnostics : List Json} :
    setting.Triple (fun world => world.Task running) (persistRecoveredStartDiagnostics running diagnostics timestamp)
      (returns fun updated world => world.Task updated) := by
  have persistent : setting.Persistent fun world => world.Task running := persistent_task running
  have written := @triple_diagnostics setting timestamp (idOf running) diagnostics
  have updates := (Triple.frame persistent written).weaken (fun _ known => ⟨known, trivial⟩)
  refine triple_tryCatch updates fun result => ?_
  cases result with
  | ok updated =>
    refine triple_gives fun world known => ?_
    exact known.1.again (known.2 _ rfl).1 (known.2 _ rfl).2.1
  | error error =>
    dsimp only
    split
    · refine Triple.weaken ?_ (fun world known => known.1)
      refine Triple.bind_returns persistent (triple_get (idOf running)) fun found => ?_
      split
      · exact triple_fails
      · rename_i persisted adopted
        obtain ⟨rfl, -⟩ := Option.filter_eq_some_iff.mp adopted
        split
        · refine triple_gives fun world known => ?_
          exact known.1.again (known.2 persisted rfl).1 (known.2 persisted rfl).2
        · refine Triple.bind ((keeps_taskEventExists (persistent_const True) .started).mono fun _ _ => trivial)
            (fun _ => triple_fails) ?_
          intro _ _ _ _ same
          cases same
    · exact triple_fails

theorem writes_startChanges : Writes (startChanges timestamp) ["dispatchState"] := by
  intro field member outside
  simp only [lifeFields, List.mem_cons, List.not_mem_nil, or_false] at member outside
  rcases member with rfl | rfl | rfl | rfl | rfl | rfl | rfl <;> first | rfl | exact absurd rfl outside

theorem triple_start {diagnostics : Record}
    (writes : Writes diagnostics [] ) (unnamed : diagnostics.get? "id" = none) :
    setting.Triple (fun _ => True)
      (transitionAndEmit setting.platform attempt .running .started timestamp (startChanges timestamp ++ diagnostics))
      (returns fun running world => world.Task running ∧ idOf running = idOf attempt ∧
        statusOf running = .str "RUNNING") := by
  refine triple_transition (fun _ _ _ _ => trivial) ?_ fun _ _ _ => .start ?_ ?_
  · rw [Dict.get?_append, unnamed]
    rfl
  · intro field member outside
    rw [Dict.get?_append, writes_startChanges field member outside, writes field member (by simp)]
    rfl
  · rw [Dict.get?_append]
    rfl

theorem triple_adoptCommittedStart {diagnostics : List Json} {diagnostic details : Record} :
    setting.Triple (fun world => world.Task running)
      (adoptCommittedStart running diagnostics timestamp diagnostic details)
      (returns fun started world => world.Task started) := by
  have persistent : setting.Persistent fun world => world.Task running := persistent_task running
  unfold adoptCommittedStart
  split
  · refine Triple.bind_kept persistent (keeps_taskEventExists persistent .started) fun emitted => ?_
    split
    · exact triple_persistRecoveredStartDiagnostics
    · exact triple_fails
  · exact triple_fails

theorem triple_recoverDurableStart (same : scheduler.platform = setting.platform) (depth : Nat) :
    ∀ (attempt diagnostic : Record), setting.Triple (fun world => world.Task attempt)
      (recoverDurableStart scheduler depth attempt timestamp diagnostic)
      (returns fun started world => world.Task started) := by
  induction depth with
  | zero => exact fun _ _ => triple_fails
  | succ depth ih =>
    intro attempt diagnostic
    refine Triple.bind_returns (persistent_task attempt) (triple_get (idOf attempt)) fun found => ?_
    cases found with
    | none => exact triple_fails
    | some persisted =>
      refine Triple.weaken ?_ (fun world known => known.1.again (known.2 persisted rfl).1 (known.2 persisted rfl).2)
      have persistent : setting.Persistent fun world => world.Task persisted := persistent_task persisted
      refine Triple.bind_kept persistent keeps_check fun diagnostics => ?_
      split
      · rw [same]
        refine triple_tryCatch (Triple.frame persistent (triple_start ((writes_nil []).diagnostics _) rfl) |>.weaken
          (fun _ known => ⟨known, trivial⟩)) fun result => ?_
        cases result with
        | ok started =>
          refine triple_gives fun world known => ?_
          exact (known.2 _ rfl).1
        | error error =>
          dsimp only
          split
          · exact (ih persisted error.diagnostic).weaken (fun _ known => known.1)
          · exact triple_fails
      · exact triple_adoptCommittedStart

theorem triple_resumeStart : setting.Triple (fun world => world.Task attempt) (resumeStart attempt timestamp)
    (returns fun found world => ∀ running, found = some running → world.Task running) := by
  have persistent : setting.Persistent fun world => world.Task attempt := persistent_task attempt
  unfold resumeStart
  split
  · refine triple_ret fun world known value same running found => ?_
    cases same
    cases found
    exact known
  · refine Triple.bind_kept persistent keeps_check fun diagnostics => ?_
    refine triple_tryCatch triple_persistRecoveredStartDiagnostics fun result => ?_
    cases result with
    | ok started =>
      refine triple_ret fun world known value same running found => ?_
      cases same
      cases found
      exact known _ rfl
    | error error =>
      dsimp only
      split
      · refine triple_ret fun world known value same running found => ?_
        cases same
        cases found
      · exact triple_fails

theorem triple_startAttempt (same : scheduler.platform = setting.platform) :
    setting.Triple (fun world => world.Task attempt) (startAttempt scheduler attempt timestamp)
      (returns fun found world => ∀ running, found = some running → world.Task running) := by
  have persistent : setting.Persistent fun world => world.Task attempt := persistent_task attempt
  have unstarted {post : Record → World → Prop} : setting.Triple (fun world => world.Task attempt)
      (pure none : Prog (Option Record)) (returns fun found world => ∀ running, found = some running → post running world) :=
    triple_ret fun _ _ _ same _ found => by cases same; cases found
  unfold startAttempt
  split
  · exact triple_resumeStart
  · rw [same]
    have starts := @triple_start setting attempt timestamp [] (writes_nil []) rfl
    rw [List.append_nil] at starts
    refine triple_tryCatch ((Triple.frame persistent starts).weaken (fun _ known => ⟨known, trivial⟩)) fun result => ?_
    cases result with
    | ok started =>
      refine triple_ret fun world known value same running found => ?_
      cases same
      cases found
      exact (known.2 _ rfl).1
    | error error =>
      refine Triple.weaken ?_ (fun world known => known.1)
      dsimp only
      split
      · exact unstarted
      · split
        · refine Triple.bind_returns persistent (triple_recoverDurableStart same _ attempt error.diagnostic) fun started => ?_
          refine triple_ret fun world known value same running found => ?_
          cases same
          cases found
          exact known.2
        · exact unstarted

end Start

section Finish

variable {owner : String} {outcome : Executed}

/-- The thread holds the attempt with the one outcome of its invocation, or has recorded the evidence of it. -/
structure Ending (setting : Setting) (running : Record) (owner : String) (outcome : Executed) (world : World) : Prop where
  finishing : world.Held setting.thread (idOf running) owner [outcome] ∨
    world.Recorded (idOf running) (terminalEvidence (settle setting.platform outcome))
  task : world.Task running

/-- The record of a running attempt with the evidence of an outcome. -/
structure Ended (setting : Setting) (running : Record) (outcome : Executed) (recorded : Record) (world : World) : Prop where
  evidence : world.Recorded (idOf running) (terminalEvidence (settle setting.platform outcome))
  task : world.Task recorded
  named : idOf recorded = idOf running
  status : statusOf recorded = .str "RUNNING"

theorem stable_ending (running : Record) (owner : String) (outcome : Executed) :
    setting.Stable (Ending setting running owner outcome) := by
  intro world next ending rely
  have held : setting.Stable fun world => world.Held setting.thread (idOf running) owner [outcome] := stable_held _ owner _
  have kept := stable_or held
    (Persistent.stable (persistent_recorded (idOf running) (terminalEvidence (settle setting.platform outcome))))
  exact ⟨kept world next ending.finishing rely, rely.grows.task ending.task⟩

theorem Changed.recorded {before middle : Store} {updatedAt clock : String} {changes result evidence : Record}
    (changed : Changed setting.platform setting.jobs setting.thread world next before middle.reindexed)
    (task : world.Task running) (carries : changes.get? "terminalEvidence" = some (.obj evidence))
    (ran : (updateStatus (idOf running) "RUNNING" (some "RUNNING") (some updatedAt) changes clock).Returns before result
      middle) :
    next.Recorded (idOf running) evidence := by
  obtain ⟨updated, old, found, expected⟩ := updateStatus_updated ran
  have status : old.field "status" = .str "RUNNING" := expected _ rfl
  have live : isTerminal (old.field "status") = false := by rw [status]; rfl
  have taskOld : isTask old = true := task.of_stored ⟨before, changed.shows, found⟩
  have lived : next.life (idOf running) = some ((lifeOf old).write "RUNNING" changes) := by
    rw [changed.life_after, life_same (Store.Same.reindexed middle), life_updated updated found live, if_pos rfl,
      life_found found, if_pos taskOld]
    rfl
  exact ⟨_, lived, by simp [Life.write, carries]⟩

theorem triple_evidence {changes : Record} (writes : Writes changes ["terminalEvidence"])
    (carries : changes.get? "terminalEvidence" = some (.obj (terminalEvidence (settle setting.platform outcome)))) :
    setting.Triple (Ending setting running owner outcome)
      (Prog.updateStatus (idOf running) "RUNNING" "RUNNING" timestamp changes)
      (fun result world => Ending setting running owner outcome world ∧
        ∀ updated, result = .ok updated → Ended setting running outcome updated world) := by
  have stable : setting.Stable (Ending setting running owner outcome) := stable_ending running owner outcome
  refine triple_ask_bind (fun _ => Ending setting running owner outcome) stable (fun _ _ _ => trivial) ?_ fun now => ?_
  · intro world now next _ ending executed _
    exact known_alike stable (alike_exec executed (by simp) (by simp) (by simp)) ending
  have permitted : ∀ world, Ending setting running owner outcome world → setting.Operation world
      (.updateStatus (idOf running) "RUNNING" (some "RUNNING") (some timestamp) changes now) := by
    intro world ending
    refine .update (.record writes carries ?_)
    rcases ending.finishing with held | recorded
    · exact .inr ⟨owner, held⟩
    · exact .inl recorded
  refine triple_ask_bind (fun answer world => Ending setting running owner outcome world ∧
    ∀ updated, answer = .ok (.record updated) → Ended setting running outcome updated world)
    stable (fun world _ ending => permitted world ending) ?_ fun answer => ?_
  · intro world answer next inv ending executed _
    have allowed : Permitted setting.platform setting.jobs setting.thread world (.store _) := permitted world ending
    have task : next.Task running := (exec_grows inv allowed executed).task ending.task
    cases Aep.WorkflowScheduler.outcome inv (permitted world ending) executed with
    | returned changed ran =>
      simp only [Operation.run, returns_map] at ran
      obtain ⟨result, ran, rfl⟩ := ran
      have recorded := changed.recorded ending.task carries ran
      refine ⟨⟨.inr recorded, task⟩, fun updated same => ?_⟩
      cases same
      obtain ⟨stored, status⟩ := stored_of_updated (updateStatus_updated ran).1
      obtain ⟨seen, named⟩ := changed.seen_of_stored stored
      exact ⟨recorded, task.again seen named, named, status⟩
    | raised alike => exact ⟨known_alike stable alike ending, fun _ same => by cases same⟩
    | lost changed ran =>
      simp only [Operation.run, returns_map] at ran
      obtain ⟨result, ran, -⟩ := ran
      exact ⟨⟨.inr (changed.recorded ending.task carries ran), task⟩, fun _ same => by cases same⟩
  · unfold Prog.record
    split
    · refine triple_ret fun world known => ⟨known.1, fun updated same => ?_⟩
      cases same
      exact known.2 _ rfl
    · exact triple_cut
    · exact triple_raise fun world known => ⟨known.1, fun _ same => by cases same⟩

theorem pyEq_null_obj (evidence : Record) : Json.null.pyEq (.obj evidence) = false := by
  simp [Json.pyEq, Json.normalizeWith]

theorem triple_recoverTerminalEvidence {error : PyError} :
    setting.Triple (Ending setting running owner outcome)
      (recoverTerminalEvidence running (terminalEvidence (settle setting.platform outcome)) timestamp error)
      (returns (Ended setting running outcome)) := by
  have stable : setting.Stable (Ending setting running owner outcome) := stable_ending running owner outcome
  refine Triple.bind (@triple_get_at setting _ (idOf running) (fun persisted world => world.Task persisted ∧
    idOf persisted = idOf running ∧
    ((persisted.field "terminalEvidence").pyEq (.obj (terminalEvidence (settle setting.platform outcome))) = true →
      world.Recorded (idOf running) (terminalEvidence (settle setting.platform outcome)))) stable ?_)
    (fun found => ?_) fun _ _ _ _ same => by cases same
  · intro world record inv ending stored named
    have taskRecord := ending.task.of_stored stored
    refine ⟨⟨⟨record, named.symm ▸ stored, .refl record⟩, taskRecord⟩, named, fun equal => ?_⟩
    rcases ending.finishing with held | recorded
    · obtain ⟨⟨-, attempt, lived, -, unrecorded⟩, -⟩ := held
      cases lived.symm.trans (world_life_stored stored taskRecord)
      have absent : record.field "terminalEvidence" = .null := by
        unfold Dict.field
        rw [show record.get? "terminalEvidence" = none from unrecorded]
        rfl
      rw [absent, pyEq_null_obj] at equal
      cases equal
    · exact recorded
  · split
    · exact triple_fails
    · rename_i persisted adopted
      obtain ⟨rfl, -⟩ := Option.filter_eq_some_iff.mp adopted
      refine triple_lift_bind (fun _ _ _ _ _ same => by cases same) fun diagnostics _ => ?_
      by_cases equal : (persisted.field "terminalEvidence").pyEq
          (.obj (terminalEvidence (settle setting.platform outcome))) = true
      · simp only [equal, ↓reduceIte]
        have kept : setting.Persistent fun world => world.Task persisted := persistent_task persisted
        have facts := Persistent.and kept (Persistent.and
          (persistent_recorded (idOf running) (terminalEvidence (settle setting.platform outcome)))
          (persistent_const (idOf persisted = idOf running)))
        have written := @triple_diagnostics setting timestamp (idOf persisted) diagnostics
        refine (Triple.frame facts written).mono (fun world known => ?_) fun result world ended updated same => ?_
        · obtain ⟨task, named, recorded⟩ := known.2 persisted rfl
          exact ⟨⟨task, recorded equal, named⟩, trivial⟩
        · obtain ⟨⟨task, recorded, named⟩, known⟩ := ended
          obtain ⟨seen, same, status⟩ := known updated same
          exact ⟨recorded, task.again seen same, same.trans named, status⟩
      · simp only [equal, Bool.false_eq_true, ↓reduceIte]
        intro world known
        have named : idOf persisted = idOf running := (known.2 persisted rfl).2.1
        rw [named]
        have writes := (writes_singleton "terminalEvidence"
          (.obj (terminalEvidence (settle setting.platform outcome)))).diagnostics (.arr diagnostics)
        exact Triple.mono (triple_evidence writes rfl) (fun _ ending => ending) (fun _ _ ended => ended.2) world known.1

theorem writes_carriedDiagnostics {changes : Record} {names : List String} (writes : Writes changes names) :
    Writes (changes ++ carriedDiagnostics running) names := by
  intro field member outside
  rw [Dict.get?_append, writes field member outside]
  unfold carriedDiagnostics
  split
  · exact (writes_nil names).diagnostics _ field member outside
  · rfl

theorem triple_persistTerminalEvidence :
    setting.Triple (Ending setting running owner outcome)
      (persistTerminalEvidence running (terminalEvidence (settle setting.platform outcome)) timestamp)
      (returns (Ended setting running outcome)) := by
  refine triple_tryCatch (triple_evidence (writes_carriedDiagnostics (writes_singleton _ _)) rfl) fun result => ?_
  cases result with
  | ok updated =>
    refine triple_gives fun world known => ?_
    exact known.2 updated rfl
  | error error =>
    dsimp only
    split
    · exact triple_recoverTerminalEvidence.weaken (fun world known => known.1)
    · exact triple_fails

theorem keeps_commitTerminal (same : scheduler.platform = setting.platform) :
    setting.Keeps (Ending setting running owner outcome)
      (commitTerminal scheduler running (settle setting.platform outcome) timestamp) := by
  refine Triple.bind triple_persistTerminalEvidence (fun recorded => ?_) fun _ _ _ => trivial
  rw [same]
  have stable : setting.Stable fun world =>
      world.Recorded (idOf running) (terminalEvidence (settle setting.platform outcome)) ∧
        idOf recorded = idOf running ∧ statusOf recorded = .str "RUNNING" :=
    stable_and (Persistent.stable (persistent_recorded _ _)) fun _ _ known _ => known
  refine Triple.bind (Triple.weaken (triple_transition stable ?_ ?_) (fun world known => ?_))
    (fun _ => keeps_pure) fun _ _ _ => trivial
  · unfold terminalChanges
    split <;> rfl
  · rintro world - ⟨recorded, named, status⟩
    rw [named, status]
    exact .settle recorded
  · have ended := known recorded rfl
    exact ⟨ended.evidence, ended.named, ended.status⟩

theorem keeps_awaitApproval (same : scheduler.platform = setting.platform) (approval : Record) :
    setting.Keeps
      (fun world => world.Held setting.thread (idOf running) owner [outcome] ∧ statusOf running = .str "RUNNING")
      (awaitApproval scheduler running approval timestamp) := by
  have stable : setting.Stable fun world => world.Held setting.thread (idOf running) owner [outcome] ∧
      statusOf running = .str "RUNNING" := stable_and (stable_held _ owner _) fun _ _ known _ => known
  refine Triple.bind (@triple_get_at setting _ _ (fun _ _ => True) stable fun _ _ _ _ _ _ => trivial) (fun found => ?_)
    fun _ _ _ => trivial
  split
  · exact keeps_fail
  · rw [same]
    refine Triple.bind (Triple.weaken (triple_transition stable rfl ?_) (fun world known => known.1))
      (fun waiting => ?_) fun _ _ _ => trivial
    · rintro world - ⟨held, status⟩
      rw [status]
      exact .await held.1
    · have persistent : setting.Persistent fun _ => True := persistent_const True
      refine Keeps.mono ?_ fun _ _ => trivial
      exact Keeps.bind persistent keeps_check fun _ => Keeps.bind persistent keeps_check fun _ =>
        keeps_requestIntent persistent _ _ _ _

theorem keeps_finishAttempt (same : scheduler.platform = setting.platform) :
    setting.Keeps
      (fun world => world.Held setting.thread (idOf running) owner [outcome] ∧ world.Task running ∧
        statusOf running = .str "RUNNING")
      (finishAttempt scheduler running (settle setting.platform outcome) timestamp) := by
  unfold finishAttempt
  split
  · exact (keeps_awaitApproval same _).mono fun world known => ⟨known.1, known.2.2⟩
  · exact (keeps_commitTerminal same).mono fun world known => ⟨.inl known.1, known.2.1⟩

end Finish

section Dispatch

variable {run : Reconciliation} {owner : String}

theorem triple_execute {task : Resource} :
    setting.Triple (fun world => world.Claims setting.thread (idOf running) owner running) (Prog.execute task running)
      (returns fun outcome world => world.Held setting.thread (idOf running) owner [outcome] ∧ world.Task running ∧
        statusOf running = .str "RUNNING") := by
  refine triple_ask (stable_claims (idOf running) owner running) (fun world _ claims => ⟨owner, claims.1.1, claims.1.2⟩) ?_
  rintro world outcome next inv ⟨⟨holds, idle⟩, task, -, status⟩ executed -
  cases executed with
  | execute =>
    refine ⟨⟨holds, ?_⟩, task, status⟩
    change sinceStart (Function.update world.marks (idOf running) _ (idOf running)) = _
    rw [Function.update_self]
    exact congrArg (outcome :: ·) idle

theorem keeps_dispatch (same : scheduler.platform = setting.platform) :
    setting.Keeps (fun world => world.Claims setting.thread (idOf running) owner running)
      (dispatch scheduler run running) := by
  have planned : setting.Triple (fun world => world.Claims setting.thread (idOf running) owner running)
      (Prog.check (plannedNode run.plan running))
      fun _ world => world.Claims setting.thread (idOf running) owner running := triple_liftExcept fun _ known => known
  refine Triple.bind planned (fun node => ?_) fun _ _ _ => trivial
  refine Triple.bind triple_execute (fun outcome => ?_) fun _ _ _ => trivial
  rw [same]
  exact (keeps_finishAttempt same).mono fun world known => known outcome rfl

theorem keeps_claimAndDispatch (same : scheduler.platform = setting.platform) :
    setting.Keeps (fun world => world.Task running) (claimAndDispatch scheduler run running) := by
  refine Triple.bind triple_claimDurableDispatch (fun found => ?_) fun _ _ _ => trivial
  cases found with
  | none => exact keeps_pure
  | some claimed =>
    intro world known
    obtain ⟨owner, claims⟩ := known _ rfl claimed rfl
    have named := claims.2.2.1
    rw [← named] at claims
    exact keeps_dispatch same world claims

theorem keeps_advance (same : scheduler.platform = setting.platform) :
    setting.Keeps (fun world => world.Task attempt) (advance scheduler run attempt) := by
  refine Triple.bind (triple_startAttempt same) (fun found => ?_) fun _ _ _ => trivial
  cases found with
  | none => exact keeps_pure
  | some running => exact (keeps_claimAndDispatch same).mono fun world known => known _ rfl running rfl

end Dispatch

end Aep.WorkflowScheduler
