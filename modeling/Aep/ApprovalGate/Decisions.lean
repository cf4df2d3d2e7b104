import Aep.ApprovalGate.Discipline

namespace Aep.ApprovalGate

open RuntimeStore WorkflowScheduler StateAction Machine.Discipline

/-- The calls that leave the approval as it is. -/
inductive Quiet : Call → Prop where
  | get (objectId : String) : Quiet (.get objectId)
  | wake (taskId id timestamp : String) : Quiet (.store (.wakeApprovedTask taskId id timestamp))
  | append (event : Record) : Quiet (.store (.appendEvent (.obj event)))

section Quiet

theorem only_ask {call : Call} (quiet : Quiet call) : (Prog.ask call).Only Quiet := ⟨quiet, fun _ => trivial⟩

theorem only_check {α : Type} (result : Except PyError α) : (Prog.check result).Only Quiet :=
  Program.only_liftExcept result

theorem only_store {operation : Operation} (quiet : Quiet (.store operation)) : (Prog.store operation).Only Quiet := by
  refine Program.only_bind (only_ask quiet) fun reply => ?_
  rcases reply with error | reply
  · trivial
  · cases reply <;> trivial

theorem only_get (objectId : String) : (Prog.get objectId).Only Quiet :=
  Program.only_bind (only_ask (.get objectId)) fun _ => only_check _

theorem only_discard {program : Prog Record} (only : program.Only Quiet) : (discard program).Only Quiet :=
  Program.only_bind only fun _ => trivial

theorem only_wakeTask (approval : Record) (approvalId timestamp : String) :
    (wakeTask approval approvalId timestamp).Only Quiet := by
  unfold wakeTask
  split
  · refine Program.only_bind (only_get _) fun found => ?_
    cases found with
    | none => trivial
    | some task =>
      dsimp only
      split
      · exact only_discard (only_store (.wake _ _ _))
      · trivial
  · trivial

theorem only_recordUnauthorizedAttempt (platform : Platform) (approval : Record) (asked : Decision) :
    (recordUnauthorizedAttempt platform approval asked).Only Quiet :=
  Program.only_bind (only_check _) fun _ => only_discard (only_store (.append _))

end Quiet

variable {platform : Platform} {approvalId : String} {asked : Nat → Decision} {initial : Record}
  {approval : initial.field "kind" = .str "Approval"} {thread : Nat}

def Changed (initial : Record) (thread : Nat) (status : String) (world : World) : Prop :=
  ∃ after, own thread world = [⟨thread, initial, after⟩] ∧ statusOf after = .str status

/-- What holds when a call has raised. -/
inductive Raised (asked : Nat → Decision) (initial : Record) (thread : Nat) (error : PyError) (world : World) : Prop where
  | unchanged (none : own thread world = [])
  | expired (named : error = expiryError) (changed : Changed initial thread "EXPIRED" world)
  | unwoken (approves : (asked thread).decision = "APPROVED") (changed : Changed initial thread "APPROVED" world)

def Ended (asked : Nat → Decision) (initial : Record) (thread : Nat) (result : Except PyError Record) (world : World) :
    Prop :=
  match result with
  | .ok record => statusOf record = .str (asked thread).decision
  | .error error => Raised asked initial thread error world

section Triples

theorem triple_quiet {α : Type} {program : Prog α} (only : program.Only Quiet) (known : List Change → Prop) :
    (discipline platform approvalId asked approval).Triple thread (fun world => known (own thread world)) program
      fun _ world => known (own thread world) := by
  refine triple_only (fun world later holds rely => ?_) (fun world call quiet course => ?_)
    (fun world call answer after quiet course executed holds => ?_) only
  · exact (congrArg known rely).mpr holds
  · cases quiet with
    | get objectId => exact .get objectId
    | wake taskId id timestamp => exact .wake taskId id timestamp
    | append event => exact .append event
  · cases executed with
    | now time => exact holds
    | get objectId => exact holds
    | getFault objectId error => exact holds
    | storeFault operation error => exact holds
    | store operation =>
      have same : (operation.run world.store).2.get approvalId = world.store.get approvalId := by
        cases quiet with
        | wake taskId id timestamp =>
          rw [Operation.run, map_state]
          exact wake_other course approval taskId id timestamp
        | append event =>
          rw [Operation.run, map_state]
          exact append_other course event
      have changes := @move_same _ thread _ _ same
      change known (own thread (world.move approvalId thread _))
      rw [own, changes]
      exact holds

/-- An update that returns has set the status, of the approval or of another record. -/
def Updates (approvalId : String) (asked : Nat → Decision) (initial : Record) (thread : Nat) (status : String)
    (result : Except PyError Record) (world : World) : Prop :=
  match result with
  | .ok record => statusOf record = .str status ∧ (own thread world = [] ∨ Changed initial thread status world ∧
      (asked thread).approvalId = approvalId)
  | .error _ => own thread world = []

def UpdateReplied (approvalId : String) (asked : Nat → Decision) (initial : Record) (thread : Nat) (status : String)
    (reply : Except PyError Reply) (world : World) : Prop :=
  match reply with
  | .ok (.record record) => Updates approvalId asked initial thread status (.ok record) world
  | .ok _ => False
  | .error _ => own thread world = []

theorem triple_updateStatus {status timestamp : String} {changes : Record}
    (may : (asked thread).approvalId = approvalId → MaySettle platform initial (asked thread) status changes) :
    (discipline platform approvalId asked approval).Triple thread (fun world => own thread world = [])
      (Prog.updateStatus (asked thread).approvalId status "PENDING" timestamp changes)
      (Updates approvalId asked initial thread status) := by
  refine triple_call (fun _ world => own thread world = []) (fun world later holds rely => rely.trans holds)
    (fun world course holds => .now) (fun world answer after course holds executed _ => ?_) fun clock => ?_
  · cases executed
    exact holds
  · refine triple_call (UpdateReplied approvalId asked initial thread status)
      (fun world later holds rely => rely.trans holds)
      (fun world course holds => .update status timestamp clock changes may)
      (fun world answer after course holds executed _ => ?_) fun reply => ?_
    · cases executed with
      | storeFault operation error => exact holds
      | store operation =>
        have replied : (Operation.run (.updateStatus (asked thread).approvalId status (some "PENDING") (some timestamp)
            changes clock) world.store).1 = (updateStatus (asked thread).approvalId status (some "PENDING")
              (some timestamp) changes clock world.store).1.map Reply.record :=
          congrArg Prod.fst (apply_map _ _)
        have moved : (Operation.run (.updateStatus (asked thread).approvalId status (some "PENDING") (some timestamp)
            changes clock) world.store).2 = (updateStatus (asked thread).approvalId status (some "PENDING")
              (some timestamp) changes clock world.store).2 := map_state _ _
        rw [replied, moved]
        rcases RuntimeStore.update_step live_pending (asked thread).approvalId status timestamp clock changes world.store
          with ⟨same, error, failed⟩ | ⟨record, now, found, pending, -, returned, stored⟩
        · rw [failed, same]
          change own thread (world.move approvalId thread world.store) = []
          rw [own, move_same rfl]
          exact holds
        · rw [returned]
          refine ⟨withStatus_status _ _ _ _, ?_⟩
          rcases @update_step _ _ _ _ _ _ course _ timestamp clock _ may with
            ⟨same, -⟩ | ⟨addressed, unchanged, there, updated, held, result, -, settles⟩
          · refine .inl ?_
            rw [own, move_same same]
            exact holds
          · refine .inr ⟨⟨updated, ?_, ?_⟩, addressed⟩
            · rw [own, move_changed there held settles.ne, unchanged]
              simp
            · rw [returned] at result
              rw [← Except.ok.inj result]
              exact withStatus_status _ _ _ _
    · rcases reply with error | reply
      · exact triple_raise fun world holds => holds
      · cases reply with
        | record record => exact triple_ret fun world holds => holds
        | _ => exact triple_cut

def Read (approvalId : String) (initial : Record) (objectId : String) (found : Option Record) : Prop :=
  ∀ record, found = some record → objectId = approvalId → statusOf record = .str "PENDING" → record = initial

theorem triple_get (objectId : String) :
    (discipline platform approvalId asked approval).Triple thread (fun world => own thread world = [])
      (Prog.get objectId) fun result world => own thread world = [] ∧ ∀ found, result = .ok found →
        Read approvalId initial objectId found := by
  refine triple_call (fun answer world => own thread world = [] ∧ ∀ found, answer = .ok found →
    Read approvalId initial objectId found) (fun world later holds rely => rely.trans holds)
    (fun world course holds => .get objectId) (fun world answer after course holds executed _ => ?_) fun answer =>
      triple_liftExcept fun world holds => holds
  cases executed with
  | getFault objectId error => exact ⟨holds, fun found wrong => by cases wrong⟩
  | get objectId =>
    refine ⟨holds, fun found same record there addressed pending => ?_⟩
    cases same
    rw [addressed] at there
    exact (course.pending there pending).1

theorem triple_fail (error : PyError) :
    (discipline platform approvalId asked approval).Triple thread (fun world => own thread world = [])
      (Prog.fail error) (Ended asked initial thread) :=
  triple_raise fun _ none => .unchanged none

theorem triple_expire {record : Record} (seen : Read approvalId initial (asked thread).approvalId (some record))
    (pending : statusOf record = .str "PENDING") (lapsed : Lapsed platform (asked thread) record) :
    (discipline platform approvalId asked approval).Triple thread (fun world => own thread world = [])
      (expire (asked thread)) (Ended asked initial thread) := by
  refine Triple.bind (triple_updateStatus fun addressed => ?_) (fun updated => ?_) fun error world none =>
    .unchanged none
  · obtain rfl := seen record rfl addressed pending
    exact .expire pending lapsed rfl rfl
  · refine triple_raise fun world updates => ?_
    rcases updates.2 with none | ⟨changed, -⟩
    · exact .unchanged none
    · exact .expired rfl changed

theorem triple_decideApproval {record : Record}
    (seen : Read approvalId initial (asked thread).approvalId (some record))
    (pending : statusOf record = .str "PENDING") (reviewer : isReviewer record (asked thread).actor = .ok true)
    (digest : record.field "artifactRequestDigest" = .str (asked thread).currentDigest)
    (inTime : InTime platform (asked thread) record) :
    (discipline platform approvalId asked approval).Triple thread (fun world => own thread world = [])
      (decideApproval platform record (asked thread)) (Ended asked initial thread) := by
  unfold decideApproval
  split
  · exact triple_fail _
  · rename_i decision
    split
    · exact triple_fail _
    · rename_i reason
      refine Triple.bind (triple_updateStatus fun addressed => ?_) (fun updated => ?_) fun error world none =>
        .unchanged none
      · obtain rfl := seen record rfl addressed pending
        refine .decide ⟨pending, ?_, reviewer, digest, reason, inTime⟩ rfl rfl
        by_contra other
        exact decision (not_or.mp other)
      · by_cases approves : (asked thread).decision = "APPROVED"
        · simp only [approves, ↓reduceIte]
          refine @Triple.bind _ _ _ _ _ _ _ _ _ _ _
            (fun _ world => Updates approvalId asked initial thread "APPROVED" (.ok updated) world) _
            ?_ (fun _ => ?_) fun error world updates => ?_
          · rintro world ⟨status, changes⟩
            have quiet := @triple_quiet platform approvalId asked initial approval thread _ _
              (only_wakeTask record (asked thread).approvalId (asked thread).timestamp)
              fun changes => changes = own thread world
            refine (quiet world rfl).mono fun later result same => ⟨status, ?_⟩
            rw [same]
            rcases changes with none | ⟨⟨after, changed, decided⟩, addressed⟩
            · exact .inl none
            · exact .inr ⟨⟨after, same.trans changed, decided⟩, addressed⟩
          · exact triple_ret fun world updates => by rw [Ended, approves]; exact updates.1
          · rcases updates.2 with none | ⟨changed, -⟩
            · exact .unchanged none
            · exact .unwoken approves changed
        · simp only [approves, ↓reduceIte]
          exact triple_ret fun world updates => updates.1

theorem triple_quiet_bind {α : Type} {program : Prog α} {next : α → Prog Record} (only : program.Only Quiet)
    (rest : ∀ value, (discipline platform approvalId asked approval).Triple thread (fun world => own thread world = [])
      (next value) (Ended asked initial thread)) :
    (discipline platform approvalId asked approval).Triple thread (fun world => own thread world = [])
      (program >>= next) (Ended asked initial thread) :=
  Triple.bind (triple_quiet only fun changes => changes = []) rest fun _ _ none => .unchanged none

theorem triple_alreadyDecided (record : Record) :
    (discipline platform approvalId asked approval).Triple thread (fun world => own thread world = [])
      (alreadyDecided record (asked thread)) (Ended asked initial thread) := by
  unfold alreadyDecided
  split
  · rename_i decided
    have ends : (discipline platform approvalId asked approval).Triple thread (fun world => own thread world = [])
        (.ret record) (Ended asked initial thread) := triple_ret fun _ _ => decided.2
    dsimp only
    split
    · exact triple_quiet_bind (only_wakeTask _ _ _) fun _ => ends
    · exact ends
  · exact triple_fail _

theorem hasExpired_ok {record : Record} {timestamp : String} {expired : Bool} {asking : Decision}
    (named : asking.timestamp = timestamp) (checked : hasExpired platform record timestamp = .ok expired) :
    (expired = true → statusOf record = .str "PENDING" ∧ Lapsed platform asking record) ∧
      (expired = false → statusOf record = .str "PENDING" → InTime platform asking record) := by
  subst named
  unfold hasExpired at checked
  split at checked
  · rename_i pending
    simp only [Result.bind_eq_ok, Result.pure_eq_ok] at checked
    obtain ⟨expires, readExpires, now, readNow, rfl⟩ := checked
    refine ⟨fun late => ⟨pending.1, expires, now, readExpires, readNow, of_decide_eq_true late⟩, fun early _ => ?_⟩
    exact .inr ⟨expires, now, readExpires, readNow, not_le.mp (of_decide_eq_false early)⟩
  · rename_i unpending
    obtain rfl := Result.pure_eq_ok.mp checked
    refine ⟨fun wrong => absurd wrong Bool.false_ne_true, fun _ pending => .inl ?_⟩
    by_contra expires
    exact unpending ⟨pending, expires⟩

theorem triple_decide : (discipline platform approvalId asked approval).Triple thread
    (fun world => own thread world = []) (ApprovalGate.decide platform (asked thread)) (Ended asked initial thread) := by
  refine Triple.bind (triple_get _) (fun found => ?_) fun error world ended => .unchanged ended.1
  cases checked : found.filter fun record => decide (record.field "kind" = .str "Approval") with
  | none =>
    dsimp only
    exact (triple_fail _).mono (fun _ known => known.1) fun _ _ ended => ended
  | some record =>
    obtain ⟨rfl, -⟩ := Option.filter_eq_some_iff.mp checked
    dsimp only
    suffices triple : Read approvalId initial (asked thread).approvalId (some record) →
        (discipline platform approvalId asked approval).Triple thread (fun world => own thread world = []) _
          (Ended asked initial thread) from fun world known => triple (known.2 _ rfl) world known.1
    intro seen
    refine triple_lift_bind (fun error _ world none => .unchanged none) fun reviewer reviewed => ?_
    split
    · exact triple_quiet_bind (only_recordUnauthorizedAttempt _ _ _) fun _ => triple_fail _
    · rename_i allowed
      split
      · exact triple_fail _
      · rename_i current
        refine triple_lift_bind (fun error _ world none => .unchanged none) fun expired lapsed => ?_
        obtain ⟨late, early⟩ := @hasExpired_ok _ _ _ _ (asked thread) rfl lapsed
        split
        · rename_i isExpired
          exact triple_expire seen (late isExpired).1 (late isExpired).2
        · rename_i unexpired
          split
          · exact triple_alreadyDecided record
          · rename_i pending
            have isReviewer : reviewer = true := by simpa using allowed
            rw [isReviewer] at reviewed
            exact triple_decideApproval seen (not_not.mp pending) reviewed (not_not.mp current)
              (early (by simpa using unexpired) (not_not.mp pending))

end Triples

section Runs

structure DecidedOnce (platform : Platform) (approvalId : String) (asked : Nat → Decision) (initial : Record)
    (config : Config) : Prop where
  course : Course platform approvalId asked initial config.shared
  stays : ∀ later, Reaches approvalId config later → config.shared.changes ≠ [] →
    later.shared.approval approvalId = config.shared.approval approvalId ∧
      later.shared.changes = config.shared.changes
  returned : ∀ thread record, config.threads thread = .ret record → statusOf record = .str (asked thread).decision
  raised : ∀ thread error, config.threads thread = .raise error → Raised asked initial thread error config.shared

theorem stable_ended (thread : Nat) : (discipline platform approvalId asked approval).Stable thread
    fun world result => Ended asked initial thread result world := by
  intro world later result ended rely
  have kept (status : String) (changed : Changed initial thread status world) : Changed initial thread status later := by
    obtain ⟨after, once, named⟩ := changed
    exact ⟨after, (show own thread later = own thread world from rely).trans once, named⟩
  cases result with
  | ok record => exact ended
  | error error =>
    cases ended with
    | unchanged none => exact .unchanged ((show own thread later = own thread world from rely).trans none)
    | expired named changed => exact .expired named (kept _ changed)
    | unwoken approves changed => exact .unwoken approves (kept _ changed)

theorem holds_start {store : Store} (approval : initial.field "kind" = .str "Approval")
    (there : store.get approvalId = some initial) :
    (discipline platform approvalId asked approval).Holds (fun thread world result => Ended asked initial thread result world)
      (start platform asked store) :=
  ⟨.open there rfl, fun _ => triple_decide _ rfl⟩

theorem settled_stays {config later : Config} (approval : initial.field "kind" = .str "Approval")
    (holds : (discipline platform approvalId asked approval).Holds
      (fun thread world result => Ended asked initial thread result world) config)
    (reaches : Reaches approvalId config later) (settled : config.shared.changes ≠ []) :
    later.shared.approval approvalId = config.shared.approval approvalId ∧
      later.shared.changes = config.shared.changes := by
  refine @Holds.invariant _ _ _ _ _ _ _ _ _ _ stable_ended holds
    (fun world => world.approval approvalId = config.shared.approval approvalId ∧ world.changes = config.shared.changes)
    ⟨rfl, rfl⟩ ?_ ?_ reaches
  · intro thread world call answer after course permitted _ executed known
    cases executed with
    | store operation =>
      rcases run_state approval course permitted with same | ⟨unchanged, -⟩
      · exact ⟨same.trans known.1, (move_same same).trans known.2⟩
      · exact absurd (known.2.symm.trans unchanged) settled
    | _ => exact known
  · intro world after course moved known
    exact ⟨moved.2.trans known.1, moved.1.trans known.2⟩

/-- Over any interleaving of calls an approval is settled at most once, by a call that may, and then stays. -/
theorem decided_once {store : Store} {config : Config} (approval : initial.field "kind" = .str "Approval")
    (there : store.get approvalId = some initial) (reaches : Reaches approvalId (start platform asked store) config) :
    DecidedOnce platform approvalId asked initial config := by
  have holds := (@holds_start platform _ asked _ _ approval there).reaches stable_ended reaches
  refine ⟨holds.1, fun later further settled => settled_stays approval holds further settled, fun thread record ended => ?_,
    fun thread error ended => ?_⟩
  · have sat := holds.2 thread
    rw [ended] at sat
    exact sat
  · have sat := holds.2 thread
    rw [ended] at sat
    exact sat

end Runs

namespace Sample

def gate : Platform where
  uuid5 text := text
  sha256 text := text
  strip text := text
  isRfc3339Timestamp _ := true
  instant text := some text.length
  violation _ _ := none
  recursionLimit := 1000

def pending : Record := [
  ("kind", .str "Approval"), ("id", .str "approval-1"), ("status", .str "PENDING"),
  ("taskExecutionId", .str "taskexecution-1"), ("authorizedReviewers", .arr [.str "alice"]),
  ("artifactRequestDigest", .str "sha256:1"), ("expiresAt", .str "2026-01-02T00:00:00.000Z")]

def waiting : Record := [
  ("kind", .str "TaskExecution"), ("id", .str "taskexecution-1"), ("status", .str "AWAITING_APPROVAL"),
  ("approvalId", .str "approval-1")]

def store : Store := { objects := [("approval-1", pending), ("taskexecution-1", waiting)] }

def request : Decision where
  approvalId := "approval-1"
  actor := "alice"
  decision := "APPROVED"
  timestamp := "2026-01-01T00:00:00Z"
  reason := "reviewed"
  currentDigest := "sha256:1"

def unavailable : PyError := { errorClass := .runtimeStoreError, message := "runtime store is unavailable" }

def respond (wakes : Bool) (world : World) : (call : Call) → call.Answer × World
  | .now => ("2026-01-01T00:00:00Z", world)
  | .get objectId => (.ok (world.store.get objectId), world)
  | .store (.wakeApprovedTask taskId id timestamp) =>
    if wakes then
      (((Operation.wakeApprovedTask taskId id timestamp).run world.store).1,
        world.move "approval-1" 0 ((Operation.wakeApprovedTask taskId id timestamp).run world.store).2)
    else (.error unavailable, world)
  | .store operation => ((operation.run world.store).1, world.move "approval-1" 0 (operation.run world.store).2)
  | .clock => (.null, world)
  | .uuid4 => ("", world)
  | .execute _ _ => (.returnedOther, world)
  | .listByWorkflowExecution _ | .listByTaskExecution _ => (.ok [], world)

def isReady : Call → Bool
  | .now | .get _ | .store _ => true
  | _ => false

theorem respond_exec (wakes : Bool) (world : World) (call : Call) (ready : isReady call = true) :
    (machine "approval-1").exec 0 world call (respond wakes world call).1 (respond wakes world call).2 := by
  cases call with
  | now => exact .now _
  | get objectId => exact .get objectId
  | store operation =>
    cases operation with
    | wakeApprovedTask taskId id timestamp =>
      cases wakes with
      | true => exact .store _
      | false => exact .storeFault _ _
    | _ => exact .store _
  | _ => cases ready

def ran (wakes : Bool) : World × Prog Record :=
  Machine.advance (respond wakes) 10 ⟨store, []⟩ (ApprovalGate.decide gate request)

def finished (wakes : Bool) : Config where
  shared := (ran wakes).1
  threads := Function.update (fun _ => ApprovalGate.decide gate request) 0 (ran wakes).2

theorem finished_thread (wakes : Bool) : (finished wakes).threads 0 = (ran wakes).2 := by
  simp [finished]

theorem reaches_finished (wakes : Bool) :
    Reaches "approval-1" (start gate (fun _ => request) store) (finished wakes) := by
  refine @Machine.reaches_ready _ _ _ _ _ _ _ _ (fun _ call => isReady call = true)
    (fun world call ready => respond_exec wakes world call ready) 10 (start gate (fun _ => request) store) ?_
  cases wakes <;> decide +kernel

/-- A call that approves. -/
theorem decided_once_approved : ∃ config record, Reaches "approval-1" (start gate (fun _ => request) store) config ∧
    config.threads 0 = .ret record ∧ statusOf record = .str "APPROVED" ∧
    DecidedOnce gate "approval-1" (fun _ => request) pending config := by
  have ended : ((ran true).2.value?.map statusOf) = some (.str "APPROVED") := by decide +kernel
  obtain ⟨record, returned, status⟩ := Option.map_eq_some_iff.mp ended
  refine ⟨_, record, reaches_finished true, ?_, status, decided_once rfl rfl (reaches_finished true)⟩
  exact (finished_thread true).trans (Program.eq_ret_of_value? returned)

/-- A call whose wake-up fails raises the store's error, and has approved. -/
theorem unwoken_approves : ∃ config, Reaches "approval-1" (start gate (fun _ => request) store) config ∧
    config.threads 0 = .raise unavailable ∧ unavailable ≠ expiryError ∧
    config.shared.approval "approval-1" ≠ store.get "approval-1" := by
  have raised : (ran false).2.error? = some unavailable := by decide +kernel
  refine ⟨_, reaches_finished false, ?_, by decide +kernel, by decide +kernel⟩
  exact (finished_thread false).trans (Program.eq_raise_of_error? raised)

end Sample

end Aep.ApprovalGate
