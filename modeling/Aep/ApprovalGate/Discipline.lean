import Aep.Library.RelyGuarantee
import Aep.RuntimeStore.Steps
import Aep.WorkflowScheduler.Approval

namespace Aep.ApprovalGate

open RuntimeStore WorkflowScheduler StateAction

/-- A change of the approval: the call that made it, and the record before and after it. -/
structure Change where
  thread : Nat
  before : Record
  after : Record
  deriving DecidableEq

structure World where
  store : Store
  changes : List Change

namespace World

variable (approvalId : String)

def approval (world : World) : Option Record := world.store.get approvalId

def move (world : World) (thread : Nat) (store : Store) : World where
  store
  changes := match world.store.get approvalId, store.get approvalId with
    | some before, some after => if before = after then world.changes else ⟨thread, before, after⟩ :: world.changes
    | _, _ => world.changes

/-- How a call is carried out: a store call in one step. It may raise instead, and has then done nothing. -/
inductive Exec (thread : Nat) (world : World) : (call : Call) → call.Answer → World → Prop where
  | now (time : String) : Exec thread world .now time world
  | get (objectId : String) : Exec thread world (.get objectId) (.ok (world.store.get objectId)) world
  | store (operation : Operation) :
      Exec thread world (.store operation) (operation.run world.store).1
        (world.move approvalId thread (operation.run world.store).2)
  | getFault (objectId : String) (error : PyError) : Exec thread world (.get objectId) (.error error) world
  | storeFault (operation : Operation) (error : PyError) : Exec thread world (.store operation) (.error error) world

end World

/-- The calls of a gate. Others may write to the store as well, but not to the approval. -/
def machine (approvalId : String) : Machine Calls World where
  exec := World.Exec approvalId
  foreign before after := after.changes = before.changes ∧ after.approval approvalId = before.approval approvalId

abbrev Config : Type := Machine.Config Calls World PyError Record

abbrev Reaches (approvalId : String) : Config → Config → Prop := (machine approvalId).Reaches fun _ _ _ => True

def start (platform : Platform) (asked : Nat → Decision) (store : Store) : Config where
  shared := ⟨store, []⟩
  threads i := ApprovalGate.decide platform (asked i)

def expiryError : PyError := approvalError "approval request has expired"

def expiryChanges (asked : Decision) : Record :=
  [("decidedAt", .str asked.timestamp), ("reason", .str "Approval request expired.")]

def Lapsed (platform : Platform) (asked : Decision) (approval : Record) : Prop :=
  ∃ expires now, readInstant platform (approval.field "expiresAt") = .ok expires ∧
    readInstant platform (.str asked.timestamp) = .ok now ∧ expires ≤ now

def InTime (platform : Platform) (asked : Decision) (approval : Record) : Prop :=
  approval.field "expiresAt" = .null ∨
    ∃ expires now, readInstant platform (approval.field "expiresAt") = .ok expires ∧
      readInstant platform (.str asked.timestamp) = .ok now ∧ now < expires

structure Authorized (platform : Platform) (asked : Decision) (approval : Record) : Prop where
  pending : statusOf approval = .str "PENDING"
  decision : asked.decision = "APPROVED" ∨ asked.decision = "REJECTED"
  reviewer : isReviewer approval asked.actor = .ok true
  digest : approval.field "artifactRequestDigest" = .str asked.currentDigest
  reason : platform.strip asked.reason ≠ ""
  inTime : InTime platform asked approval

/-- The two ways in which a call settles a pending approval. -/
inductive Settled (platform : Platform) (asked : Decision) (before after : Record) : Prop where
  | decided (now : String) (authorized : Authorized platform asked before)
      (changed : after = withStatus before (decisionChanges platform asked) asked.decision now)
  | expired (now : String) (pending : statusOf before = .str "PENDING") (lapsed : Lapsed platform asked before)
      (changed : after = withStatus before (expiryChanges asked) "EXPIRED" now)

end Aep.ApprovalGate

namespace Aep.ApprovalGate

open RuntimeStore WorkflowScheduler StateAction

section Changes

variable {platform : Platform} {asked : Decision} {before after : Record}

theorem Settled.status (settled : Settled platform asked before after) :
    statusOf after = .str asked.decision ∧ Authorized platform asked before ∨ statusOf after = .str "EXPIRED" := by
  cases settled with
  | decided now authorized changed =>
    rw [changed]
    exact .inl ⟨withStatus_status _ _ _ _, authorized⟩
  | expired now pending lapsed changed =>
    rw [changed]
    exact .inr (withStatus_status _ _ _ _)

theorem Settled.pending (settled : Settled platform asked before after) : statusOf before = .str "PENDING" := by
  cases settled with
  | decided now authorized changed => exact authorized.pending
  | expired now pending lapsed changed => exact pending

theorem Settled.unpending (settled : Settled platform asked before after) : statusOf after ≠ .str "PENDING" := by
  rcases settled.status with ⟨status, authorized⟩ | status
  · rw [status]
    rcases authorized.decision with approved | rejected
    · rw [approved]
      decide
    · rw [rejected]
      decide
  · rw [status]
    decide

theorem Settled.ne (settled : Settled platform asked before after) : before ≠ after := by
  intro same
  exact settled.unpending (same ▸ settled.pending)

theorem withStatus_kind {record changes : Record} {status now : String} (unchanged : changes.get? "kind" = none) :
    (withStatus record changes status now).field "kind" = record.field "kind" := by
  refine Dict.field_congr ?_
  rw [withStatus_get? (by decide), unchanged, Option.none_or]

theorem Settled.kind (settled : Settled platform asked before after) : after.field "kind" = before.field "kind" := by
  cases settled with
  | decided now authorized changed =>
    rw [changed]
    exact withStatus_kind rfl
  | expired now pending lapsed changed =>
    rw [changed]
    exact withStatus_kind rfl

end Changes

variable (platform : Platform) (approvalId : String) (asked : Nat → Decision) (initial : Record)

/-- The approval is as it was at first, or one call has settled it. -/
inductive Course (world : World) : Prop where
  | open (there : world.approval approvalId = some initial) (unchanged : world.changes = [])
  | settled (thread : Nat) (after : Record) (there : world.approval approvalId = some after)
      (once : world.changes = [⟨thread, initial, after⟩]) (addressed : (asked thread).approvalId = approvalId)
      (settles : Settled platform (asked thread) initial after)

/-- What an update of the approval must be. -/
inductive MaySettle (asked : Decision) (status : String) (changes : Record) : Prop where
  | decide (authorized : Authorized platform asked initial) (named : status = asked.decision)
      (changed : changes = decisionChanges platform asked)
  | expire (pending : statusOf initial = .str "PENDING") (lapsed : Lapsed platform asked initial)
      (named : status = "EXPIRED") (changed : changes = expiryChanges asked)

inductive Permitted (thread : Nat) : Call → Prop where
  | now : Permitted thread .now
  | get (objectId : String) : Permitted thread (.get objectId)
  | wake (taskId id timestamp : String) : Permitted thread (.store (.wakeApprovedTask taskId id timestamp))
  | append (event : Record) : Permitted thread (.store (.appendEvent (.obj event)))
  | update (status timestamp clock : String) (changes : Record)
      (may : (asked thread).approvalId = approvalId → MaySettle platform initial (asked thread) status changes) :
      Permitted thread
        (.store (.updateStatus (asked thread).approvalId status (some "PENDING") (some timestamp) changes clock))

def own (thread : Nat) (world : World) : List Change := world.changes.filter fun change => change.thread = thread

variable {platform approvalId asked initial} {thread : Nat} {world next : World}

section Steps

theorem move_same {store : Store} (same : store.get approvalId = world.store.get approvalId) :
    (world.move approvalId thread store).changes = world.changes := by
  unfold World.move
  rw [same]
  cases world.store.get approvalId <;> simp

theorem move_changed {store : Store} {before after : Record} (there : world.store.get approvalId = some before)
    (now : store.get approvalId = some after) (different : before ≠ after) :
    (world.move approvalId thread store).changes = ⟨thread, before, after⟩ :: world.changes := by
  simp [World.move, there, now, different]

theorem Course.approval (course : Course platform approvalId asked initial world) :
    ∃ current, world.store.get approvalId = some current ∧ current.field "kind" = initial.field "kind" := by
  cases course with
  | «open» there unchanged => exact ⟨initial, there, rfl⟩
  | settled thread after there once addressed settles => exact ⟨after, there, settles.kind⟩

theorem Course.pending (course : Course platform approvalId asked initial world) {current : Record}
    (there : world.store.get approvalId = some current) (pending : statusOf current = .str "PENDING") :
    current = initial ∧ world.changes = [] := by
  cases course with
  | «open» found unchanged => exact ⟨Option.some.inj (there.symm.trans found), unchanged⟩
  | settled thread after found once addressed settles =>
    obtain rfl := Option.some.inj (there.symm.trans found)
    exact absurd pending settles.unpending

theorem map_state (action : StoreM Record) (store : Store) : ((Reply.record <$> action) store).2 = (action store).2 := by
  rw [apply_map]

theorem wake_other (course : Course platform approvalId asked initial world)
    (approval : initial.field "kind" = .str "Approval") (taskId id timestamp : String) :
    (wakeApprovedTask taskId id timestamp world.store).2.get approvalId = world.store.get approvalId := by
  obtain ⟨current, there, kind⟩ := course.approval
  rcases ran : wakeApprovedTask taskId id timestamp world.store with ⟨error | result, after⟩
  · have kept : after = world.store := wakeApprovedTask_keeps _ _ _ _ _ _ ran
    rw [kept]
  · rcases wakeApprovedTask_cases ran with same | ⟨task, isTask, -, -, replaced⟩
    · exact same.get approvalId
    · rw [replaced.get]
      refine if_neg fun same => ?_
      have found := replaced.found
      rw [same, there, Option.some.injEq] at found
      rw [← found, kind, approval] at isTask
      exact absurd (Json.str.inj isTask) (by decide)

theorem append_other (course : Course platform approvalId asked initial world) (event : Record) :
    (appendEvent (.obj event) world.store).2.get approvalId = world.store.get approvalId := by
  obtain ⟨current, there, -⟩ := course.approval
  rcases ran : appendEvent (.obj event) world.store with ⟨error | result, after⟩
  · have kept : after = world.store := appendEvent_keeps _ _ _ _ ran
    rw [kept]
  · obtain ⟨-, -, appended⟩ := appendEvent_cases ran
    cases appended with
    | earlier keyed found same => exact same.get approvalId
    | added added =>
      rw [added.get]
      refine if_neg fun same => ?_
      have fresh := added.fresh
      rw [same, there] at fresh
      cases fresh

theorem Course.same (course : Course platform approvalId asked initial world)
    (there : next.store.get approvalId = world.store.get approvalId) (changes : next.changes = world.changes) :
    Course platform approvalId asked initial next := by
  cases course with
  | «open» found unchanged => exact .open (there.trans found) (changes.trans unchanged)
  | settled thread after found once addressed settles =>
    exact .settled thread after (there.trans found) (changes.trans once) addressed settles

theorem update_step (course : Course platform approvalId asked initial world)
    {status timestamp clock : String} {changes : Record}
    (may : (asked thread).approvalId = approvalId → MaySettle platform initial (asked thread) status changes) :
    let outcome := updateStatus (asked thread).approvalId status (some "PENDING") (some timestamp) changes clock world.store
    (outcome.2.get approvalId = world.store.get approvalId ∧
        ((∃ error, outcome.1 = .error error) ∨ (asked thread).approvalId ≠ approvalId)) ∨
      ((asked thread).approvalId = approvalId ∧ world.changes = [] ∧ world.store.get approvalId = some initial ∧
        ∃ after, outcome.2.get approvalId = some after ∧ outcome.1 = .ok after ∧
          MaySettle platform initial (asked thread) status changes ∧
            Settled platform (asked thread) initial after) := by
  intro outcome
  rcases RuntimeStore.update_step live_pending (asked thread).approvalId status timestamp clock changes world.store with
    ⟨same, failed⟩ | ⟨record, now, found, pending, -, returned, stored⟩
  · exact .inl ⟨congrArg (Store.get · approvalId) same, .inl failed⟩
  · by_cases addressed : (asked thread).approvalId = approvalId
    · rw [addressed] at found
      obtain ⟨rfl, unchanged⟩ := course.pending found pending
      have settles := may addressed
      refine .inr ⟨addressed, unchanged, found, _, ?_, returned, settles, ?_⟩
      · change Store.get _ _ = _
        rw [stored, addressed, Store.get_put, if_pos rfl]
      · cases settles with
        | decide authorized named changed => exact .decided now authorized (by rw [named, changed])
        | expire pending lapsed named changed => exact .expired now pending lapsed (by rw [named, changed])
    · refine .inl ⟨?_, .inr addressed⟩
      change Store.get _ _ = _
      rw [stored, Store.get_put, if_neg addressed]

theorem move_own {other : Nat} (different : other ≠ thread) (store : Store) :
    own other (world.move approvalId thread store) = own other world := by
  unfold World.move own
  split
  · split
    · rfl
    · rw [List.filter_cons_of_neg (by simpa using different.symm)]
  · rfl

theorem run_state {operation : Operation} (approval : initial.field "kind" = .str "Approval")
    (course : Course platform approvalId asked initial world)
    (permitted : Permitted platform approvalId asked initial thread (.store operation)) :
    (operation.run world.store).2.get approvalId = world.store.get approvalId ∨ world.changes = [] ∧
      ∃ after, (operation.run world.store).2.get approvalId = some after ∧ world.store.get approvalId = some initial ∧
        (asked thread).approvalId = approvalId ∧ Settled platform (asked thread) initial after := by
  cases permitted with
  | wake taskId id timestamp =>
    rw [Operation.run, map_state]
    exact .inl (wake_other course approval taskId id timestamp)
  | append event =>
    rw [Operation.run, map_state]
    exact .inl (append_other course event)
  | update status timestamp clock changes may =>
    rw [Operation.run, map_state]
    rcases @update_step _ _ _ _ _ _ course _ timestamp clock _ may with
      ⟨same, -⟩ | ⟨addressed, unchanged, there, after, now, -, -, settles⟩
    · exact .inl same
    · exact .inr ⟨unchanged, after, now, there, addressed, settles⟩

theorem course_exec {call : Call} {answer : call.Answer} (approval : initial.field "kind" = .str "Approval")
    (course : Course platform approvalId asked initial world)
    (permitted : Permitted platform approvalId asked initial thread call)
    (executed : World.Exec approvalId thread world call answer next) : Course platform approvalId asked initial next := by
  cases executed with
  | store operation =>
    rcases run_state approval course permitted with same | ⟨unchanged, after, now, there, addressed, settles⟩
    · exact course.same same (move_same same)
    · refine .settled thread after now ?_ addressed settles
      rw [move_changed there now settles.ne, unchanged]
  | _ => exact course

theorem course_foreign (course : Course platform approvalId asked initial world)
    (moved : (machine approvalId).foreign world next) : Course platform approvalId asked initial next :=
  course.same moved.2 moved.1

variable (platform approvalId asked) in
/-- The calls of a gate settle the approval only as they may, and change nothing in another call's name. -/
def discipline (approval : initial.field "kind" = .str "Approval") : Machine.Discipline (machine approvalId) where
  invariant := Course platform approvalId asked initial
  permitted thread _ := Permitted platform approvalId asked initial thread
  rely thread before after := own thread after = own thread before
  rely_refl _ _ := rfl
  rely_trans first second := second.trans first
  invariant_exec course permitted executed := course_exec approval course permitted executed
  invariant_foreign course moved := course_foreign course moved
  rely_exec different _ _ executed := by
    cases executed with
    | store operation => exact move_own different _
    | _ => rfl
  rely_foreign _ moved := by rw [own, own, moved.1]

end Steps

end Aep.ApprovalGate
