import Aep.Library.RelyGuarantee
import Aep.RuntimeStore.Steps
import Aep.ToolRuntime.Replay

namespace Aep.ToolRuntime

open RuntimeStore

/-- The store, and the threads that have started the adapter for the invocation. -/
structure World where
  store : Store
  starts : List Nat

namespace World

def update (world : World) (objectId status updatedAt clock : String) (changes : Record) :
    Except PyError Record × World :=
  let ran := RuntimeStore.updateStatus objectId status (some "PENDING") (some updatedAt) changes clock world.store
  (ran.1, { world with store := ran.2 })

/-- How a call is carried out: a store call in one step, the others with any answer. An update may also fail, before it
wrote or after. -/
inductive Exec (thread : Nat) (world : World) : (effect : Effect) → effect.Answer → World → Prop where
  | clock (answer : Stamp) : Exec thread world .clock answer world
  | monotonic (answer : ℚ) : Exec thread world .monotonic answer world
  | authorize (request : ToolRequest) (answer : Except Raised Bool) : Exec thread world (.authorize request) answer world
  | start (request : ToolRequest) (answer : Except Raised Unit) :
    Exec thread world (.start request) answer { world with starts := world.starts ++ [thread] }
  | wait (timeoutMs : Int) (answer : Except Raised Waited) : Exec thread world (.wait timeoutMs) answer world
  | terminate (answer : Except Raised Unit) : Exec thread world .terminate answer world
  | kill (answer : Except Raised Unit) : Exec thread world .kill answer world
  | cleanup (answer : Except Raised Unit) : Exec thread world .cleanup answer world
  | capturePreimage (request : ToolRequest) (answer : Captured) :
    Exec thread world (.capturePreimage request) answer world
  | restorePreimage (request : ToolRequest) (answer : Except PyError Unit) :
    Exec thread world (.restorePreimage request) answer world
  | create (record : Record) (key : String) :
    Exec thread world (.create record key) (RuntimeStore.create (.obj record) key world.store).1
      { world with store := (RuntimeStore.create (.obj record) key world.store).2 }
  | get (objectId : String) : Exec thread world (.get objectId) (world.store.get objectId) world
  | updateStatus (objectId status updatedAt clock : String) (changes : Record) :
    Exec thread world (.updateStatus objectId status updatedAt changes)
      (world.update objectId status updatedAt clock changes).1 (world.update objectId status updatedAt clock changes).2
  | failed (objectId status updatedAt : String) (changes : Record) (error : PyError) :
    Exec thread world (.updateStatus objectId status updatedAt changes) (.error error) world
  | lost (objectId status updatedAt clock : String) (changes : Record) (error : PyError) :
    Exec thread world (.updateStatus objectId status updatedAt changes) (.error error)
      (world.update objectId status updatedAt clock changes).2

/-- What all else does to the store: it leaves the record and the key of the invocation alone. -/
structure Foreign (tool : Tool) (invocationId : String) (before after : World) : Prop where
  starts : after.starts = before.starts
  record : after.store.get invocationId = before.store.get invocationId
  key : after.store.deterministicKeys.get? (tool.key invocationId) =
    before.store.deterministicKeys.get? (tool.key invocationId)

end World

def machine (tool : Tool) (invocationId : String) : Machine Effects World :=
  ⟨World.Exec, World.Foreign tool invocationId⟩

section Invariant

variable (platform : Platform) (tool : Tool) (invocationId : String) (calls : Nat → ToolCall)

/-- The record as a thread's call creates it, when its correlation is of its TaskExecution. -/
def Pending (i : Nat) (record : Record) : Prop :=
  (calls i).request.correlation.taskExecutionId = some (calls i).taskExecutionId ∧ ∃ timestamp,
    tool.pendingRecord invocationId (calls i) (requestFingerprint (calls i) platform tool) timestamp = .ok record

/-- A record that a thread's call has created, with an outcome or without. -/
inductive Recorded (i : Nat) : Record → Prop where
  | pending {record : Record} (made : Pending platform tool invocationId calls i record) : Recorded i record
  | ended {record changes : Record} {result : ToolResult} (made : Pending platform tool invocationId calls i record)
      (changed : Changed tool result changes) {status : String} (terminal : status = "SUCCEEDED" ∨ status = "FAILED")
      (now : String) : Recorded i (withStatus record changes status now)

structure Inv (world : World) : Prop where
  named : ∀ record, world.store.get invocationId = some record → invocationId ≠ ""
  keyed : ∀ id, world.store.deterministicKeys.get? (tool.key invocationId) = some id →
    id = invocationId ∧ ∃ record, world.store.get invocationId = some record
  recorded : ∀ record, world.store.get invocationId = some record →
    world.store.deterministicKeys.get? (tool.key invocationId) = some invocationId ∧
      ∃ i, Recorded platform tool invocationId calls i record
  starts : world.starts = [] ∨ ∃ i record, world.starts = [i] ∧ world.store.get invocationId = some record ∧
    Recorded platform tool invocationId calls i record

def Mine (i : Nat) (world : World) : Prop :=
  ∃ record, world.store.get invocationId = some record ∧ record.field "ownerToken" = .str (calls i).ownerToken

/-- The record may get its outcome, and then stays. Nobody else creates it or starts the adapter for a thread. -/
structure Rely (i : Nat) (before after : World) : Prop where
  records : ∀ record, before.store.get invocationId = some record → ∃ later,
    after.store.get invocationId = some later ∧ later.field "requestFingerprint" = record.field "requestFingerprint" ∧
      later.field "ownerToken" = record.field "ownerToken" ∧ (hasEnded record = true → later = record)
  mine : Mine invocationId calls i after → Mine invocationId calls i before
  starts : i ∈ after.starts → i ∈ before.starts

/-- Only the creator of the record starts the adapter, and once. An update writes an outcome. -/
def Permitted (i : Nat) (world : World) : Effect → Prop
  | .start _ => Mine invocationId calls i world ∧ i ∉ world.starts
  | .create record key => Pending platform tool invocationId calls i record ∧ key = tool.key invocationId
  | .updateStatus objectId status _ changes => objectId = invocationId ∧ (status = "SUCCEEDED" ∨ status = "FAILED") ∧
      ∃ result, Changed tool result changes
  | _ => True

def Distinct : Prop := ∀ i j, (calls i).ownerToken = (calls j).ownerToken → i = j

end Invariant

section Steps

variable {platform : Platform} {tool : Tool} {invocationId : String} {calls : Nat → ToolCall}
  {world before after : World} {i j : Nat} {record : Record}

theorem Recorded.owner (recorded : Recorded platform tool invocationId calls i record) :
    record.field "ownerToken" = .str (calls i).ownerToken := by
  cases recorded with
  | pending made =>
    obtain ⟨-, timestamp, made⟩ := made
    exact pending_owner made
  | ended made changed terminal now =>
    obtain ⟨-, timestamp, made⟩ := made
    exact (withStatus_kept changed _ _ (.inr rfl) _).trans (pending_owner made)

theorem Recorded.fingerprint (recorded : Recorded platform tool invocationId calls i record) :
    record.field "requestFingerprint" = .str (requestFingerprint (calls i) platform tool) := by
  cases recorded with
  | pending made =>
    obtain ⟨-, timestamp, made⟩ := made
    exact pending_fingerprint made
  | ended made changed terminal now =>
    obtain ⟨-, timestamp, made⟩ := made
    exact (withStatus_kept changed _ _ (.inl rfl) _).trans (pending_fingerprint made)

theorem Pending.unended (made : Pending platform tool invocationId calls i record) : hasEnded record = false := by
  obtain ⟨-, timestamp, made⟩ := made
  simp [hasEnded, pending_status made]

theorem hasEnded_withStatus {changes : Record} {status now : String} (terminal : status = "SUCCEEDED" ∨ status = "FAILED") :
    hasEnded (withStatus record changes status now) = true := by
  unfold hasEnded
  rw [withStatus_status]
  rcases terminal with rfl | rfl <;> decide

theorem Recorded.agrees (recorded : Recorded platform tool invocationId calls i record) (ended : hasEnded record = true) :
    ∃ result, Agrees tool result record := by
  cases recorded with
  | pending made =>
    rw [made.unended] at ended
    cases ended
  | ended made changed terminal now =>
    obtain ⟨-, timestamp, made⟩ := made
    exact ⟨_, agrees_written made changed _ _⟩

theorem Recorded.update (recorded : Recorded platform tool invocationId calls i record)
    (live : record.field "status" = .str "PENDING") {changes : Record} {result : ToolResult}
    (changed : Changed tool result changes) {status : String} (terminal : status = "SUCCEEDED" ∨ status = "FAILED")
    (now : String) : Recorded platform tool invocationId calls i (withStatus record changes status now) := by
  cases recorded with
  | pending made => exact .ended made changed terminal now
  | ended made changed terminal now =>
    rw [withStatus_status] at live
    rcases terminal with rfl | rfl <;> exact absurd live (by decide)

theorem Recorded.mine (distinct : Distinct calls) (recorded : Recorded platform tool invocationId calls i record)
    (mine : record.field "ownerToken" = .str (calls j).ownerToken) : i = j :=
  distinct i j (Json.str.inj (recorded.owner.symm.trans mine))

theorem Rely.refl (i : Nat) (world : World) : Rely invocationId calls i world world :=
  ⟨fun record found => ⟨record, found, rfl, rfl, fun _ => rfl⟩, id, id⟩

theorem Rely.trans (first : Rely invocationId calls i before world) (second : Rely invocationId calls i world after) :
    Rely invocationId calls i before after := by
  refine ⟨fun record found => ?_, fun mine => first.mine (second.mine mine), fun started => first.starts (second.starts started)⟩
  obtain ⟨middle, there, fingerprint, owner, ended⟩ := first.records record found
  obtain ⟨later, last, fingerprint', owner', ended'⟩ := second.records middle there
  refine ⟨later, last, fingerprint'.trans fingerprint, owner'.trans owner, fun terminal => ?_⟩
  obtain rfl := ended terminal
  exact ended' terminal

theorem Inv.same (inv : Inv platform tool invocationId calls before)
    (starts : after.starts = before.starts) (record : after.store.get invocationId = before.store.get invocationId)
    (key : after.store.deterministicKeys.get? (tool.key invocationId) =
      before.store.deterministicKeys.get? (tool.key invocationId)) :
    Inv platform tool invocationId calls after ∧ ∀ j, Rely invocationId calls j before after := by
  refine ⟨⟨?_, ?_, ?_, ?_⟩, fun j => ⟨fun found there => ?_, ?_, ?_⟩⟩
  · rw [record]
    exact inv.named
  · rw [key, record]
    exact inv.keyed
  · rw [record, key]
    exact inv.recorded
  · rw [starts, record]
    exact inv.starts
  · exact ⟨found, record.trans there, rfl, rfl, fun _ => rfl⟩
  · rintro ⟨mine, there, token⟩
    exact ⟨mine, record.symm.trans there, token⟩
  · rw [starts]
    exact id

theorem objectId_pending (made : Pending platform tool invocationId calls i record) : objectId record = invocationId := by
  obtain ⟨-, timestamp, made⟩ := made
  simp [objectId, pending_id made]

theorem Inv.create (distinct : Distinct calls) (inv : Inv platform tool invocationId calls world)
    (made : Pending platform tool invocationId calls i record) :
    let next : World :=
      { world with store := (RuntimeStore.create (.obj record) (tool.key invocationId) world.store).2 }
    Inv platform tool invocationId calls next ∧ ∀ j ≠ i, Rely invocationId calls j world next := by
  intro next
  rcases create_step record (tool.key invocationId) world.store with ⟨same, -⟩ | ⟨-, added, valid, -⟩
  · have same := @Inv.same platform tool invocationId calls world next inv rfl (congrArg (·.get invocationId) same)
      (congrArg (fun store : Store => store.deterministicKeys.get? _) same)
    exact ⟨same.1, fun j _ => same.2 j⟩
  · have named := objectId_pending made
    have nothing : world.store.get invocationId = none := named ▸ added.fresh
    have there : next.store.get invocationId = some record := by
      rw [added.get, if_pos named]
    have keyed : next.store.deterministicKeys.get? (tool.key invocationId) = some invocationId := by
      rw [added.keys, if_pos rfl, named]
    have unstarted : world.starts = [] := by
      rcases inv.starts with none | ⟨_, _, -, found, -⟩
      · exact none
      · rw [nothing] at found
        cases found
    refine ⟨⟨fun _ _ => ?_, fun id found => ?_, fun other found => ⟨keyed, i, ?_⟩, .inl unstarted⟩,
      fun j different => ⟨fun _ found => ?_, ?_, id⟩⟩
    · obtain ⟨-, ⟨id, same, nonempty⟩, -⟩ := copyAndValidate_ok valid
      rw [← named, objectId, same]
      exact nonempty
    · exact ⟨Option.some.inj (found.symm.trans keyed), record, there⟩
    · obtain rfl := Option.some.inj (there.symm.trans found)
      exact .pending made
    · rw [nothing] at found
      cases found
    · rintro ⟨mine, found, token⟩
      obtain rfl := Option.some.inj (there.symm.trans found)
      exact absurd ((Recorded.pending made).mine distinct token) (Ne.symm different)

theorem Inv.update (inv : Inv platform tool invocationId calls world) {status : String}
    (terminal : status = "SUCCEEDED" ∨ status = "FAILED") {result : ToolResult} {changes : Record}
    (changed : Changed tool result changes) (updatedAt clock : String) :
    Inv platform tool invocationId calls (world.update invocationId status updatedAt clock changes).2 ∧
      ∀ j, Rely invocationId calls j world (world.update invocationId status updatedAt clock changes).2 := by
  rcases update_step live_pending invocationId status updatedAt clock changes world.store with
    ⟨same, -⟩ | ⟨record, now, found, live, -, -, put⟩
  · exact inv.same rfl (congrArg (·.get invocationId) same)
      (congrArg (fun store : Store => store.deterministicKeys.get? _) same)
  · have there : (world.update invocationId status updatedAt clock changes).2.store.get invocationId =
        some (withStatus record changes status now) := by
      change Store.get (RuntimeStore.updateStatus _ _ _ _ _ _ _).2 _ = _
      rw [put, Store.get_put, if_pos rfl]
    have keys : (world.update invocationId status updatedAt clock changes).2.store.deterministicKeys =
        world.store.deterministicKeys := by
      change Store.deterministicKeys (RuntimeStore.updateStatus _ _ _ _ _ _ _).2 = _
      rw [put]
      rfl
    refine ⟨⟨fun _ _ => inv.named record found, fun id keyed => ?_, fun other seen => ?_, ?_⟩, fun j => ⟨fun old seen => ?_, ?_, id⟩⟩
    · exact ⟨(inv.keyed id (keys ▸ keyed)).1, _, there⟩
    · obtain rfl := Option.some.inj (there.symm.trans seen)
      obtain ⟨keyed, i, recorded⟩ := inv.recorded record found
      exact ⟨keys ▸ keyed, i, recorded.update live changed terminal now⟩
    · rcases inv.starts with none | ⟨i, started, one, seen, recorded⟩
      · exact .inl none
      · obtain rfl := Option.some.inj (found.symm.trans seen)
        exact .inr ⟨i, _, one, there, recorded.update live changed terminal now⟩
    · obtain rfl := Option.some.inj (found.symm.trans seen)
      refine ⟨_, there, withStatus_kept changed _ _ (.inl rfl) _, withStatus_kept changed _ _ (.inr rfl) _, fun ended => ?_⟩
      simp [hasEnded, live] at ended
    · rintro ⟨mine, seen, token⟩
      obtain rfl := Option.some.inj (there.symm.trans seen)
      exact ⟨record, found, (withStatus_kept changed _ _ (.inr rfl) _).symm.trans token⟩

theorem Inv.start (distinct : Distinct calls) (inv : Inv platform tool invocationId calls world)
    (mine : Mine invocationId calls i world) (unstarted : i ∉ world.starts) :
    let next : World := { world with starts := world.starts ++ [i] }
    Inv platform tool invocationId calls next ∧ ∀ j ≠ i, Rely invocationId calls j world next := by
  intro next
  obtain ⟨record, found, token⟩ := mine
  obtain ⟨-, maker, recorded⟩ := inv.recorded record found
  obtain rfl := recorded.mine distinct token
  have none : world.starts = [] := by
    rcases inv.starts with none | ⟨other, same, one, seen, theirs⟩
    · exact none
    · obtain rfl := Option.some.inj (found.symm.trans seen)
      obtain rfl := theirs.mine distinct token
      rw [one] at unstarted
      exact absurd (List.mem_singleton_self _) unstarted
  refine ⟨⟨inv.named, inv.keyed, inv.recorded, .inr ⟨maker, record, ?_, found, recorded⟩⟩, fun j different => ⟨fun old seen => ?_, id,
    fun started => ?_⟩⟩
  · simp only [next, none, List.nil_append]
  · exact ⟨old, seen, rfl, rfl, fun _ => rfl⟩
  · simp only [next, none, List.nil_append, List.mem_singleton] at started
    exact absurd started different

theorem inv_exec (distinct : Distinct calls) (inv : Inv platform tool invocationId calls world) {effect : Effect}
    {answer : effect.Answer} (permitted : Permitted platform tool invocationId calls i world effect)
    (executed : world.Exec i effect answer after) :
    Inv platform tool invocationId calls after ∧ ∀ j ≠ i, Rely invocationId calls j world after := by
  cases executed with
  | start => exact inv.start distinct permitted.1 permitted.2
  | create record key =>
    obtain ⟨made, rfl⟩ := permitted
    exact inv.create distinct made
  | updateStatus | lost =>
    obtain ⟨rfl, terminal, result, changed⟩ := permitted
    have updated := inv.update terminal changed
    exact ⟨(updated _ _).1, fun j _ => (updated _ _).2 j⟩
  | _ => exact ⟨inv, fun j _ => .refl j _⟩

end Steps

def discipline (platform : Platform) (tool : Tool) (invocationId : String) {calls : Nat → ToolCall}
    (distinct : Distinct calls) : (machine tool invocationId).Discipline where
  invariant := Inv platform tool invocationId calls
  permitted := Permitted platform tool invocationId calls
  rely := Rely invocationId calls
  rely_refl := .refl
  rely_trans := .trans
  invariant_exec inv permitted executed := (inv_exec distinct inv permitted executed).1
  invariant_foreign inv moved := (inv.same moved.starts moved.record moved.key).1
  rely_exec different inv permitted executed := (inv_exec distinct inv permitted executed).2 _ different
  rely_foreign inv moved := (inv.same moved.starts moved.record moved.key).2 _

end Aep.ToolRuntime
