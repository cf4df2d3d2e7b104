import Aep.WorkflowScheduler.Specs

namespace Aep.WorkflowScheduler

open RuntimeStore StateAction Machine.Discipline

variable {setting : Setting} {world next : World} {fact : World → Prop}

section Gate

theorem approvalRecord_ok {asked : ApprovalRequest} {record : Record} {key : String}
    (made : approvalRecord asked = .ok (record, key)) :
    record.field "kind" = .str "Approval" ∧ ∃ name, key = "approval:" ++ name := by
  simp only [approvalRecord, Result.bind_eq_ok, Result.pure_eq_ok, Prod.mk.injEq] at made
  obtain ⟨_, -, _, -, _, -, _, -, _, -, _, -, decisionId, -, _, -, _, -, _, -, _, -, _, -, _, -, rfl, rfl⟩ := made
  exact ⟨rfl, decisionId.text ++ ":" ++ asked.digest, by simp only [String.append_assoc]⟩

theorem keeps_request (persistent : setting.Persistent fact) (asked : ApprovalRequest) :
    setting.Keeps fact (ApprovalGate.request asked) := by
  refine Triple.bind_keeps persistent triple_check fun made => ?_
  have both := Persistent.and persistent (persistent_const (approvalRecord asked = .ok made))
  refine Keeps.bind both (keeps_ask both fun world _ known => ?_) fun _ => keeps_record
  obtain ⟨kind, name, same⟩ := approvalRecord_ok known.2
  change PermittedOperation _ _ _ _ (.createApprovalRequest (.obj made.1) made.2 _ _)
  rw [same]
  exact .requestApproval kind

theorem keeps_wake (persistent : setting.Persistent fact) {id approvalId timestamp : String}
    (approved : ∀ world, fact world → world.Approved approvalId) :
    setting.Keeps fact (Prog.store (.wakeApprovedTask id approvalId timestamp)) :=
  Keeps.bind persistent (keeps_ask persistent fun world _ known => .wake (approved world known)) fun _ => keeps_record

theorem keeps_discard {program : Prog Record} (persistent : setting.Persistent fact)
    (keeps : setting.Keeps fact program) : setting.Keeps fact (discard program) :=
  Keeps.bind persistent keeps fun _ => keeps_pure

theorem keeps_wakeTask (persistent : setting.Persistent fact) (approval : Record) {approvalId timestamp : String}
    (approved : ∀ world, fact world → world.Approved approvalId) :
    setting.Keeps fact (wakeTask approval approvalId timestamp) := by
  unfold wakeTask
  split
  · refine Keeps.bind persistent (triple_get _).keeps fun found => ?_
    split
    · split
      · exact keeps_discard persistent (keeps_wake persistent approved)
      · exact keeps_pure
    · exact keeps_pure
  · exact keeps_pure

def World.Asked (world : World) (approval : Record) (approvalId : String) : Prop :=
  world.Seen approval ∧ idOf approval = approvalId ∧ approval.field "kind" = .str "Approval"

theorem persistent_asked (approval : Record) (approvalId : String) :
    setting.Persistent fun world => world.Asked approval approvalId :=
  Persistent.and (persistent_seen approval) (persistent_const _)

theorem World.Asked.other {world : World} {approval : Record} {id status expectedStatus : String} {changes : Record}
    {platform : Platform} {thread : Nat} (asked : world.Asked approval id) :
    MayUpdate platform thread world id status expectedStatus changes := by
  obtain ⟨⟨current, stored, evolved⟩, rfl, kind⟩ := asked
  exact .other stored ((evolved.field_eq (by decide)).trans kind) (.inr rfl)

theorem World.Asked.approved {world : World} {approval : Record} {id : String} (asked : world.Asked approval id)
    (status : statusOf approval = .str "APPROVED") : world.Approved id := by
  obtain ⟨seen, rfl, kind⟩ := asked
  exact ⟨approval, seen.terminal (by rw [status]; rfl), kind, status⟩

theorem World.Asked.decided {world : World} {approval decided : Record} {id : String} (asked : world.Asked approval id)
    (seen : world.Seen decided) (same : idOf decided = id) (status : statusOf decided = .str "APPROVED") :
    world.Approved id := by
  subst same
  have stored := seen.terminal (by rw [status]; rfl)
  obtain ⟨seenApproval, named, kind⟩ := asked
  have kept := seenApproval.kind (named.symm ▸ stored)
  exact ⟨decided, stored, kept.trans kind, status⟩

theorem keeps_decideApproval {approval : Record} {asked : Decision} :
    setting.Keeps (fun world => world.Asked approval asked.approvalId)
      (decideApproval setting.platform approval asked) := by
  have persistent : setting.Persistent _ := persistent_asked approval asked.approvalId
  unfold decideApproval
  split
  · exact keeps_fail
  · split
    · exact keeps_fail
    · refine Triple.bind_keeps persistent
        (triple_updateStatus (Persistent.stable persistent) fun _ _ known => known.other) fun decided => ?_
      have more : setting.Persistent fun world => world.Seen decided ∧ idOf decided = asked.approvalId ∧
          statusOf decided = .str asked.decision := Persistent.and (persistent_seen decided) (persistent_const _)
      have both := Persistent.and persistent more
      by_cases approves : asked.decision = "APPROVED"
      · simp only [approves, ↓reduceIte]
        refine Keeps.bind (approves ▸ both) (keeps_wakeTask (approves ▸ both) approval ?_) fun _ => keeps_pure
        rintro world ⟨known, seen, same, status⟩
        exact known.decided seen same status
      · simp only [approves, ↓reduceIte]
        exact keeps_pure

theorem keeps_decide {asked : Decision} (gate : setting.jobs setting.thread = .decide asked) :
    setting.Keeps (fun _ => True) (ApprovalGate.decide setting.platform asked) := by
  refine Triple.bind_keeps (persistent_const True) (triple_get _) fun found => ?_
  cases checked : found.filter fun approval => decide (approval.field "kind" = .str "Approval") with
  | none => exact keeps_fail
  | some approval =>
    obtain ⟨rfl, kind⟩ := Option.filter_eq_some_iff.mp checked
    have persistent : setting.Persistent _ := persistent_asked approval asked.approvalId
    suffices keeps : setting.Keeps (fun world => world.Asked approval asked.approvalId) _ from
      keeps.mono fun world known => ⟨(known.2 approval rfl).1, (known.2 approval rfl).2, by simpa using kind⟩
    refine Keeps.bind persistent keeps_check fun reviewer => ?_
    split
    · refine Keeps.bind persistent ?_ fun _ => keeps_fail
      refine Triple.bind_keeps persistent triple_check fun event => ?_
      have both := Persistent.and persistent (persistent_const (deniedEvent setting.platform approval asked = .ok event))
      exact keeps_discard both (Keeps.bind both (keeps_ask both fun _ _ known => .appendDenied gate known.2) fun _ =>
        keeps_record)
    · split
      · exact keeps_fail
      · refine Keeps.bind persistent keeps_check fun expired => ?_
        split
        · exact Keeps.bind persistent (triple_updateStatus (Persistent.stable persistent)
            fun _ _ known => known.other).keeps fun _ => keeps_fail
        · split
          · unfold alreadyDecided
            split
            · rename_i decided
              by_cases approves : asked.decision = "APPROVED"
              · simp only [approves, ↓reduceIte]
                refine Keeps.bind persistent (keeps_wakeTask persistent approval ?_) fun _ => keeps_pure
                exact fun world known => known.approved (decided.2.trans (by rw [approves]))
              · simp only [approves, ↓reduceIte]
                exact keeps_pure
            · exact keeps_fail
          · exact keeps_decideApproval

end Gate

section Approvals

def World.Listed (world : World) (workflowId : String) (records : List Record) : Prop :=
  ∀ record ∈ records, world.Seen record ∧ workflowExecutionId record = some workflowId

theorem persistent_listed (workflowId : String) (records : List Record) :
    setting.Persistent fun world => world.Listed workflowId records :=
  persistent_of_grows fun grows listed record member => ⟨grows.seen (listed record member).1, (listed record member).2⟩

theorem keeps_requestIntent (persistent : setting.Persistent fact) (intent policyDecision : Record)
    (approvalId timestamp : String) : setting.Keeps fact (requestIntent intent policyDecision approvalId timestamp) :=
  Keeps.bind persistent keeps_check fun asked => keeps_discard persistent (keeps_request persistent asked)

theorem keeps_recoverPendingApprovalRequests (persistent : setting.Persistent fact) (workflowId timestamp : String) :
    setting.Keeps fact (recoverPendingApprovalRequests workflowId timestamp) := by
  refine Keeps.bind persistent (triple_list workflowId).keeps fun records => ?_
  refine keeps_forEach persistent fun task _ => ?_
  unfold recoverPendingRequest
  split
  · refine Keeps.bind persistent (triple_get _).keeps fun decision => ?_
    split
    · exact keeps_requestIntent persistent _ _ _ _
    · exact keeps_pure
  · exact keeps_pure

theorem keeps_recoverApprovedTaskWakeups (persistent : setting.Persistent fact) (workflowId timestamp : String) :
    setting.Keeps fact (recoverApprovedTaskWakeups workflowId timestamp) := by
  refine Triple.bind_keeps persistent (triple_list workflowId) fun records => ?_
  have both := Persistent.and persistent (persistent_listed workflowId records)
  refine keeps_forEach both fun approval member => ?_
  unfold recoverWakeup
  split
  · rename_i decided
    refine Keeps.bind both (triple_get _).keeps fun task => ?_
    split
    · split
      · refine keeps_discard both (keeps_wake both fun world known => ?_)
        have stored := (known.2 approval member).1.terminal (by rw [decided.2.1]; rfl)
        exact ⟨approval, stored, decided.1, decided.2.1⟩
      · exact keeps_pure
    · exact keeps_pure
  · exact keeps_pure

theorem keeps_failRejectedApprovalWaits {scheduler : Scheduler} (same : scheduler.platform = setting.platform)
    (persistent : setting.Persistent fact) (workflowId timestamp : String) :
    setting.Keeps fact (failRejectedApprovalWaits scheduler workflowId timestamp) := by
  refine Keeps.bind persistent (triple_list workflowId).keeps fun records => ?_
  refine keeps_forEach persistent fun task _ => ?_
  unfold failRejectedWait
  split
  · rename_i waits
    have awaiting : statusOf task = .str "AWAITING_APPROVAL" := by
      have both := waits.1
      simp only [isAwaiting, decide_eq_true_eq] at both
      exact both.2
    rw [same]
    refine keeps_discard persistent (triple_transition (Persistent.stable persistent) rfl fun _ _ _ => ?_).keeps
    rw [awaiting]
    exact .reject
  · exact keeps_pure

end Approvals

section Plan

def World.OfKind (world : World) (id kind : String) : Prop :=
  ∃ record, world.Stored id record ∧ record.field "kind" = .str kind

theorem Grows.ofKind (grows : Grows world next) {id kind : String} (ofKind : world.OfKind id kind) :
    next.OfKind id kind := by
  obtain ⟨record, stored, named⟩ := ofKind
  obtain ⟨later, storedLater, evolved⟩ := grows.stored stored
  exact ⟨later, storedLater, (evolved.field_eq (by decide)).trans named⟩

theorem keeps_ensureResolvedTaskPlan {scheduler : Scheduler} (persistent : setting.Persistent fact)
    {workflowId timestamp : String} {plan : TaskDagPlan}
    (workflow : ∀ world, fact world → world.OfKind workflowId "WorkflowExecution") :
    setting.Keeps fact (ensureResolvedTaskPlan scheduler workflowId timestamp plan) := by
  refine Keeps.bind persistent (triple_get workflowId).keeps fun found => ?_
  split
  · exact keeps_fail
  · split
    · split
      · exact keeps_pure
      · exact keeps_fail
    · refine Keeps.bind persistent keeps_check fun _ => ?_
      refine keeps_tryCatch persistent (triple_updateStatus (Persistent.stable persistent) fun world _ known => ?_).keeps
        fun result => ?_
      · obtain ⟨record, stored, named⟩ := workflow world known
        exact .other stored named (.inl rfl)
      · split
        · exact keeps_pure
        · split
          · refine Keeps.bind persistent (triple_get workflowId).keeps fun current => ?_
            split
            · split
              · exact keeps_pure
              · exact keeps_fail
            · exact keeps_fail
          · exact keeps_fail

end Plan

section Repair

theorem keeps_repairTerminal {scheduler : Scheduler} {timestamp : String} {attempt : Record} :
    setting.Keeps (fun world => world.Task attempt) (repairTerminal scheduler timestamp attempt) := by
  have persistent : setting.Persistent _ := persistent_task attempt
  unfold repairTerminal
  split
  · rename_i evidence recorded
    split
    · rename_i repairs
      refine (triple_updateStatus (Persistent.stable persistent) fun world _ known => ?_).keeps
      have known := known.1.recorded known.2 recorded
      rcases repairs.2 with named | named
      · rw [named]
        exact .repair known named (.inl rfl)
      · rw [named]
        exact .repair known named (.inr rfl)
    · exact keeps_pure
  · exact keeps_pure

theorem keeps_repairAttempt {scheduler : Scheduler} (same : scheduler.platform = setting.platform)
    {workflowId timestamp : String} {attempt : Record} :
    setting.Keeps (fun world => world.Seen attempt) (repairAttempt scheduler workflowId timestamp attempt) := by
  unfold repairAttempt
  split
  · rename_i kind
    have persistent : setting.Persistent _ := persistent_task attempt
    suffices keeps : setting.Keeps (fun world => world.Task attempt) _ from
      keeps.mono fun world seen => ⟨seen, by simp [isTask, kind]⟩
    refine Keeps.bind persistent (keeps_appendTaskExecutionId persistent _ _ _) fun _ => ?_
    rw [same]
    refine Keeps.bind persistent (keeps_emit persistent _ _ _ _) fun _ => ?_
    refine Keeps.bind persistent ?_ fun _ => Keeps.bind persistent keeps_repairTerminal fun repaired => ?_
    · unfold repairStarted
      split
      · rw [same]
        exact keeps_discard persistent (keeps_emit persistent _ _ _ _)
      · exact keeps_pure
    · unfold emitTerminal
      split
      · rw [same]
        exact keeps_discard persistent (keeps_emit persistent _ _ _ _)
      · exact keeps_pure
  · exact keeps_pure

theorem keeps_repairAttemptEvidence {scheduler : Scheduler} (same : scheduler.platform = setting.platform)
    (persistent : setting.Persistent fact) (workflowId timestamp : String) :
    setting.Keeps fact (repairAttemptEvidence scheduler workflowId timestamp) := by
  refine Triple.bind_keeps persistent (triple_list workflowId) fun records => ?_
  have both := Persistent.and persistent (persistent_listed workflowId records)
  exact keeps_forEach both fun attempt member =>
    (keeps_repairAttempt same).mono fun world known => (known.2 attempt member).1

end Repair

end Aep.WorkflowScheduler
