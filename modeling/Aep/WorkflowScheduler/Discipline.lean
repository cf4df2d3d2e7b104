import Aep.WorkflowScheduler.Transitions

namespace Aep.WorkflowScheduler

open RuntimeStore

variable {platform : Platform} {jobs : Nat → Job} {faults : Prop} {thread : Nat} {world next : World}

section Marks

theorem marked_same (attempt : Option Life) (marks : List Mark) : marked attempt attempt marks = marks := by
  unfold marked
  dsimp only
  split
  · rename_i both
    exact absurd both.1 both.2
  · split
    · rename_i both
      exact absurd both.1 both.2
    · rfl

theorem marked_unchanged {old new : Life} (same : new.status = old.status) (marks : List Mark) :
    marked (some old) (some new) marks = marks := by
  have first := marked_same (some old) marks
  unfold marked at first ⊢
  simpa only [Option.map_some, same] using first

theorem marked_started {old new : Life} (started : new.status = .str "RUNNING") (idle : old.status ≠ .str "RUNNING")
    (marks : List Mark) : marked (some old) (some new) marks = .started :: marks := by
  simp [marked, started, idle]

theorem marked_waiting {old new : Life} (waits : new.status = .str "AWAITING_APPROVAL")
    (active : old.status ≠ .str "AWAITING_APPROVAL") (marks : List Mark) :
    marked (some old) (some new) marks = .waiting :: marks := by
  simp [marked, waits, active]

theorem marked_other {old : Option Life} {new : Life} (notRunning : new.status ≠ .str "RUNNING")
    (notWaiting : new.status ≠ .str "AWAITING_APPROVAL") (marks : List Mark) :
    marked old (some new) marks = marks := by
  simp [marked, notRunning, notWaiting]

theorem terminal_not_running (result : TaskExecutionResult) : (terminalStatus result).value ≠ "RUNNING" := by
  unfold terminalStatus
  split <;> decide

theorem terminal_not_waiting (result : TaskExecutionResult) :
    (terminalStatus result).value ≠ "AWAITING_APPROVAL" := by
  unfold terminalStatus
  split <;> decide

end Marks

namespace Sound

variable {attempt : Life} {marks : List Mark}

theorem created : Sound platform Life.created [] :=
  .pending rfl rfl rfl rfl (by simp [sinceStart]) fun _ => rfl

theorem of_ready (sound : Sound platform attempt marks) (running : attempt.status = .str "RUNNING")
    (pending : attempt.dispatchState = some (.str "PENDING")) :
    attempt.terminalEvidence = none ∧ attempt.failure = none ∧ sinceStart marks = [] ∧
      (Mark.waiting ∉ marks → marks = [.started]) := by
  cases sound with
  | pending status => simp [status] at running
  | ready _ _ unrecorded unfailed idle first => exact ⟨unrecorded, unfailed, idle, first⟩
  | claimed claimed => simp [claimed.2.1] at pending
  | recorded claimed => simp [claimed.2.1] at pending
  | awaiting status => simp [status] at running
  | @done outcome status => simp [status, terminal_not_running] at running
  | rejected status => simp [status] at running

theorem of_claimed (sound : Sound platform attempt marks) {owner : String} (claimed : attempt.Claimed owner)
    (unrecorded : attempt.terminalEvidence = none) : attempt.failure = none ∧
      (Mark.waiting ∉ marks → marks = (sinceStart marks).map .invoked ++ [.started]) := by
  cases sound with
  | pending status => simp [status, Life.Claimed] at claimed
  | ready _ pending => simp [pending, Life.Claimed] at claimed
  | claimed _ _ unfailed _ first => exact ⟨unfailed, first⟩
  | recorded _ recorded => simp [recorded] at unrecorded
  | awaiting status => simp [status, Life.Claimed] at claimed
  | @done outcome status => simp [status, Life.Claimed, terminal_not_running] at claimed
  | rejected status => simp [status, Life.Claimed] at claimed

theorem of_recorded (sound : Sound platform attempt marks) (running : attempt.status = .str "RUNNING")
    {evidence : Record} (recorded : attempt.terminalEvidence = some (.obj evidence)) :
    ∃ outcome, evidence = terminalEvidence (settle platform outcome) ∧ attempt.failure = none ∧
      attempt.dispatchState ≠ none ∧ sinceStart marks = [outcome] ∧
      (Mark.waiting ∉ marks → marks = [.invoked outcome, .started]) := by
  cases sound with
  | pending status => simp [status] at running
  | ready _ _ unrecorded => simp [recorded] at unrecorded
  | claimed _ unrecorded => simp [recorded] at unrecorded
  | @recorded _ outcome claimed known unfailed once first =>
    rw [recorded] at known
    exact ⟨outcome, by simpa using known, unfailed, by simp [claimed.2.1], once, first⟩
  | awaiting status => simp [status] at running
  | @done outcome status => simp [status, terminal_not_running] at running
  | rejected status => simp [status] at running

theorem of_awaiting (sound : Sound platform attempt marks) (waits : attempt.status = .str "AWAITING_APPROVAL") :
    attempt.dispatchState ≠ none ∧ attempt.terminalEvidence = none ∧ attempt.failure = none ∧
      Mark.waiting ∈ marks := by
  cases sound with
  | pending status => simp [status] at waits
  | ready status => simp [status] at waits
  | claimed claimed => simp [claimed.1] at waits
  | recorded claimed => simp [claimed.1] at waits
  | awaiting _ dispatched unrecorded unfailed _ waited => exact ⟨dispatched, unrecorded, unfailed, waited⟩
  | @done outcome status => simp [status, terminal_not_waiting] at waits
  | rejected status => simp [status] at waits

theorem of_pending (sound : Sound platform attempt marks) (pending : attempt.status = .str "PENDING") :
    attempt.terminalEvidence = none ∧ attempt.failure = none ∧ (Mark.waiting ∉ marks → marks = []) := by
  cases sound with
  | pending _ _ unrecorded unfailed _ first => exact ⟨unrecorded, unfailed, first⟩
  | ready status => simp [status] at pending
  | claimed claimed => simp [claimed.1] at pending
  | recorded claimed => simp [claimed.1] at pending
  | awaiting status => simp [status] at pending
  | @done outcome status =>
    have terminal := terminal_status (settle platform outcome)
    rcases terminal with named | named <;> simp [status, named] at pending
  | rejected status => simp [status] at pending

theorem step {id : String} {action : Life.Action} {new : Life} (sound : Sound platform attempt (world.marks id))
    (lived : world.life id = some attempt) (authorized : Authorized platform thread world id action)
    (step : Life.Step action attempt new) : Sound platform new (marked (some attempt) (some new) (world.marks id)) := by
  cases step with
  | start undispatched =>
    have pending := sound.of_undispatched undispatched
    obtain ⟨unrecorded, unfailed, first⟩ := sound.of_pending pending
    rw [marked_started rfl (by simp [pending])]
    refine .ready rfl rfl unrecorded unfailed rfl fun direct => ?_
    rw [first fun waited => direct (List.mem_cons_of_mem _ waited)]
  | claim running pending =>
    obtain ⟨unrecorded, unfailed, idle, first⟩ := sound.of_ready running pending
    simp only [marked_unchanged]
    refine .claimed ⟨running, rfl, rfl⟩ unrecorded unfailed sound.once fun direct => ?_
    rw [idle, first direct]
    rfl
  | record running unrecorded =>
    obtain ⟨owner, outcome, ⟨-, _, again, claimed, -⟩, once, rfl⟩ := authorized
    cases lived.symm.trans again
    obtain ⟨unfailed, first⟩ := sound.of_claimed claimed unrecorded
    simp only [marked_unchanged]
    refine .recorded claimed rfl unfailed once fun direct => ?_
    rw [first direct, once]
    rfl
  | await running =>
    obtain ⟨owner, -, _, again, claimed, unrecorded⟩ := authorized
    cases lived.symm.trans again
    obtain ⟨unfailed, first⟩ := sound.of_claimed claimed unrecorded
    rw [marked_waiting rfl (by simp [running])]
    exact .awaiting rfl (by simp [claimed.2.1]) unrecorded unfailed sound.once List.mem_cons_self
  | settle running recorded named terminal =>
    obtain ⟨outcome, rfl, unfailed, dispatched, once, first⟩ := sound.of_recorded running recorded
    rw [terminalEvidence_status] at named
    cases named
    rw [marked_other (by simp [terminal_not_running]) (by simp [terminal_not_waiting])]
    exact .done rfl dispatched recorded (by simp [unfailed]) once first
  | reject waits =>
    obtain ⟨dispatched, -, -, waited⟩ := sound.of_awaiting waits
    rw [marked_other (by simp) (by simp)]
    exact .rejected rfl dispatched sound.once waited
  | wake waits current =>
    rw [marked_other (by simp) (by simp)]
    rcases waits with awaiting | pending
    · obtain ⟨-, unrecorded, unfailed, waited⟩ := sound.of_awaiting awaiting
      exact .pending rfl rfl unrecorded unfailed sound.once fun direct => absurd waited direct
    · obtain ⟨unrecorded, unfailed, first⟩ := sound.of_pending pending
      exact .pending rfl rfl unrecorded unfailed sound.once first
  | bind waits =>
    obtain ⟨dispatched, unrecorded, unfailed, waited⟩ := sound.of_awaiting waits
    simp only [marked_unchanged]
    exact .awaiting waits dispatched unrecorded unfailed sound.once waited

end Sound

end Aep.WorkflowScheduler

namespace Aep.WorkflowScheduler

open RuntimeStore

variable {platform : Platform} {jobs : Nat → Job} {faults : Prop} {thread other : Nat} {world next last : World}
  {before after : Store}

def Shaped (record : Record) : Prop :=
  (∃ workflowId, record.field "workflowExecutionId" = .str workflowId) ∧
    ∃ ids, record.field "dependencyTaskExecutionIds" = .arr ids

structure StoreSound (store : Store) : Prop where
  wellFormed : store.WellFormed
  indexed : store.Indexed
  shaped : ∀ {id record}, store.get id = some record → isTask record = true → Shaped record
  keyed : ∀ {workflowId identity attempt id},
    store.deterministicKeys.get? (deterministicKey workflowId identity attempt) = some id →
    ∃ record, store.get id = some record ∧ isTask record = true

structure Inv (platform : Platform) (world : World) : Prop where
  shows : ∃ store, world.Shows store ∧ StoreSound store
  sound : ∀ id attempt, world.life id = some attempt → Sound platform attempt (world.marks id)
  unmarked : ∀ id, world.life id = none → world.marks id = []
  owners : ∀ id attempt owner, world.life id = some attempt → attempt.dispatchOwnerId = some (.str owner) →
    world.issued owner ≠ none

/-- What a thread may rely on when the others take steps: its claims stay its own, and as they are until it records
    evidence. -/
structure Rely (thread : Nat) (world next : World) : Prop where
  evolves : ∀ store, world.Shows store → ∃ later, next.Shows later ∧ store.Evolves later
  issued : ∀ owner holder, world.issued owner = some holder → next.issued owner = some holder
  owns : ∀ id owner, world.issued owner = some thread → next.Owned id owner → world.Owned id owner
  frozen : ∀ id owner, world.Holds thread id owner → next.life id = world.life id ∧ next.marks id = world.marks id

structure World.Alike (world next : World) : Prop where
  visible : next.durable.visible = world.durable.visible
  issued : next.issued = world.issued
  marks : next.marks = world.marks

section Shaped

theorem record_of_life {store : Store} {id : String} {attempt : Life} (lives : life store id = some attempt) :
    ∃ record, store.get id = some record ∧ isTask record = true := by
  cases found : store.get id with
  | none => simp [life, found] at lives
  | some record => exact ⟨record, rfl, (task_of_life found lives).1⟩

theorem identity_of_evolves {id field : String} {old new : Record} (evolves : before.Evolves after)
    (found : before.get id = some old) (foundAfter : after.get id = some new) (task : isTask old = true)
    (fixed : field ∈ kindIdentityFields (.str "TaskExecution")) : new.field field = old.field field := by
  obtain ⟨record, stored, evolved⟩ := evolves id old found
  cases foundAfter.symm.trans stored
  have kind : old.field "kind" = .str "TaskExecution" := by simpa [isTask] using task
  exact Dict.field_congr (evolved.identity field (List.mem_append_right _ (kind ▸ fixed)))

theorem shaped_of_evolves {id : String} {old new : Record} (evolves : before.Evolves after)
    (found : before.get id = some old) (foundAfter : after.get id = some new) (shaped : Shaped old)
    (task : isTask old = true) : Shaped new := by
  unfold Shaped
  rw [identity_of_evolves evolves found foundAfter task (by decide),
    identity_of_evolves evolves found foundAfter task (by decide)]
  exact shaped

theorem task_of_evolves {id : String} {old : Record} (evolves : before.Evolves after)
    (found : before.get id = some old) (task : isTask old = true) :
    ∃ new, after.get id = some new ∧ isTask new = true := by
  obtain ⟨new, stored, evolved⟩ := evolves id old found
  exact ⟨new, stored, (isTask_evolves evolved).trans task⟩

theorem Keyed.stored (keyed : Keyed before after) (evolves : before.Evolves after) (sound : StoreSound before)
    {workflowId identity : String} {attempt : Int} {id : String}
    (found : after.deterministicKeys.get? (deterministicKey workflowId identity attempt) = some id) :
    ∃ record, after.get id = some record ∧ isTask record = true := by
  rcases keyed.named _ "TaskExecution" id (.inl ⟨rfl, _, _, _, rfl⟩) found with earlier | ⟨record, stored, kind⟩
  · obtain ⟨record, found, task⟩ := sound.keyed earlier
    exact task_of_evolves evolves found task
  · exact ⟨record, stored, by simp [isTask, kind]⟩

end Shaped

section Alike

theorem World.Alike.life (alike : world.Alike next) (id : String) : next.life id = world.life id := by
  unfold World.life lifeIn
  rw [alike.visible]

theorem World.Alike.shows (alike : world.Alike next) {store : Store} (shows : world.Shows store) :
    next.Shows store :=
  alike.visible.trans shows

theorem World.Alike.refl (world : World) : world.Alike world := ⟨rfl, rfl, rfl⟩

theorem alike_read {α : Type} (operation : Store → Except PyError α) (world : World) :
    world.Alike (world.move (readVisible operation world.durable).2) := by
  have visible := readVisible_visible operation world.durable
  refine ⟨visible, rfl, funext fun id => ?_⟩
  have same : lifeIn (readVisible operation world.durable).2 id = world.life id := by
    unfold World.life lifeIn
    rw [visible]
  change marked (world.life id) (lifeIn (readVisible operation world.durable).2 id) (world.marks id) = world.marks id
  rw [same, marked_same]

end Alike

section Rely

theorem Rely.refl (thread : Nat) (world : World) : Rely thread world world :=
  ⟨fun store shows => ⟨store, shows, .refl store⟩, fun _ _ found => found, fun _ _ _ claimed => claimed,
    fun _ _ _ => ⟨rfl, rfl⟩⟩

theorem Rely.holds (rely : Rely thread world next) {id owner : String} (holds : world.Holds thread id owner) :
    next.Holds thread id owner := by
  have same := (rely.frozen id owner holds).1
  obtain ⟨issued, attempt, lived, claimed, unrecorded⟩ := holds
  exact ⟨rely.issued _ _ issued, attempt, same.trans lived, claimed, unrecorded⟩

theorem Rely.trans (first : Rely thread world next) (second : Rely thread next last) : Rely thread world last := by
  constructor
  · intro store shows
    obtain ⟨middle, shown, evolved⟩ := first.evolves store shows
    obtain ⟨later, shownLater, evolvedAgain⟩ := second.evolves middle shown
    exact ⟨later, shownLater, evolved.trans evolvedAgain⟩
  · exact fun owner holder issued => second.issued owner holder (first.issued owner holder issued)
  · exact fun id owner issued claimed =>
      first.owns id owner issued (second.owns id owner (first.issued _ _ issued) claimed)
  · intro id owner holds
    have once := first.frozen id owner holds
    have again := second.frozen id owner (first.holds holds)
    exact ⟨again.1.trans once.1, again.2.trans once.2⟩

theorem Rely.of_alike (alike : world.Alike next) : Rely thread world next := by
  refine ⟨fun store shows => ⟨store, alike.shows shows, .refl store⟩, fun owner holder issued => ?_,
    fun id owner _ claimed => ?_, fun id owner _ => ⟨alike.life id, by rw [alike.marks]⟩⟩
  · rw [alike.issued]
    exact issued
  · unfold World.Owned at claimed
    rwa [alike.life] at claimed

theorem Inv.of_alike (inv : Inv platform world) (alike : world.Alike next) : Inv platform next := by
  obtain ⟨store, shows, storeSound⟩ := inv.shows
  refine ⟨⟨store, alike.shows shows, storeSound⟩, ?_, ?_, ?_⟩
  · intro id attempt lived
    rw [alike.marks]
    exact inv.sound id attempt (alike.life id ▸ lived)
  · intro id absent
    rw [alike.marks]
    exact inv.unmarked id (alike.life id ▸ absent)
  · intro id attempt owner lived owned
    rw [alike.issued]
    exact inv.owners id attempt owner (alike.life id ▸ lived) owned

end Rely

section Moved

theorem Life.Claimed.unique {attempt : Life} {owner holder : String} (claimed : attempt.Claimed owner)
    (again : attempt.Claimed holder) : owner = holder := by
  have same := claimed.2.2.symm.trans again.2.2
  simpa using same

theorem Moved.frozen (moved : Moved platform jobs other world before after) (different : thread ≠ other)
    (shows : world.Shows before) {id owner : String} (holds : world.Holds thread id owner) :
    life after id = life before id := by
  obtain ⟨issued, attempt, lived, claimed, unrecorded⟩ := holds
  have lives : life before id = some attempt := (world_life shows id).symm.trans lived
  cases moved with
  | same same => exact same id
  | created new _ absent _ _ same =>
    rw [same, if_neg]
    rintro rfl
    simp [life, absent] at lives
  | @stepped changed action old new found step authorized _ same =>
    rw [same, if_neg]
    rintro rfl
    cases lives.symm.trans found
    cases step with
    | start undispatched => simp [claimed.2.1] at undispatched
    | claim _ pending => simp [claimed.2.1] at pending
    | record =>
      obtain ⟨holder, outcome, ⟨drawn, _, again, held, -⟩, -, -⟩ := authorized
      cases lived.symm.trans again
      rw [held.unique claimed, issued] at drawn
      exact different (Option.some.inj drawn)
    | await =>
      obtain ⟨holder, drawn, _, again, held, -⟩ := authorized
      cases lived.symm.trans again
      rw [held.unique claimed, issued] at drawn
      exact different (Option.some.inj drawn)
    | settle _ recorded => simp [unrecorded] at recorded
    | reject waits => simp [claimed.1] at waits
    | wake waits => simp [claimed.1] at waits
    | bind waits => simp [claimed.1] at waits

theorem Moved.kept (moved : Moved platform jobs thread world before after) {id : String} (absent : life after id = none) :
    life before id = none := by
  cases moved with
  | same same => exact (same id).symm.trans absent
  | created new _ _ _ _ same =>
    rw [same] at absent
    split at absent
    · cases absent
    · exact absent
  | stepped changed _ _ _ _ same =>
    rw [same] at absent
    split at absent
    · cases absent
    · exact absent

theorem Justified.listed {store : Store} {plan : TaskDagPlan} {maxAttempts attempt : Int} {workflowId : String}
    {taskRef dependencies : Json} (sound : StoreSound store)
    (justified : Justified store plan maxAttempts workflowId taskRef dependencies attempt) :
    ∃ ids, dependencies = .arr ids := by
  cases justified with
  | first _ _ listed => exact ⟨_, listed⟩
  | retry _ failed =>
    obtain ⟨id, record, found, task, -, -, -, same, -⟩ := failed
    obtain ⟨-, ids, shaped⟩ := sound.shaped found task
    exact ⟨ids, same.symm.trans shaped⟩

theorem Moved.shaped (moved : Moved platform jobs thread world before after) (shows : world.Shows before)
    (evolves : before.Evolves after) (sound : StoreSound before) {id : String} {record : Record}
    (found : after.get id = some record) (task : isTask record = true) : Shaped record := by
  cases earlier : life before id with
  | some attempt =>
    obtain ⟨old, foundOld, taskOld⟩ := record_of_life earlier
    exact shaped_of_evolves evolves foundOld found (sound.shaped foundOld taskOld) taskOld
  | none =>
    have lives : life after id = some (lifeOf record) := by rw [life_found found, if_pos task]
    cases moved with
    | same same => simp [same, earlier] at lives
    | created new may absent stored keyed same =>
      rw [same] at lives
      split at lives
      · rename_i here
        subst here
        cases found.symm.trans stored
        obtain ⟨_, _, _, _, workflowId, taskRef, _, _, -, -, named, -, -, -, -, justified⟩ := may.planned
        exact ⟨⟨workflowId, named⟩, (justified before shows).listed sound⟩
      · simp [earlier] at lives
    | stepped changed known _ _ _ same =>
      rw [same] at lives
      split at lives
      · rename_i here
        subst here
        simp [earlier] at known
      · simp [earlier] at lives

theorem Moved.owners (moved : Moved platform jobs thread world before after) {id owner : String} {attempt : Life}
    (lived : life after id = some attempt) (owned : attempt.dispatchOwnerId = some (.str owner)) :
    world.issued owner = some thread ∨
      ∃ old, life before id = some old ∧ old.dispatchOwnerId = some (.str owner) := by
  cases moved with
  | same same => exact .inr ⟨attempt, (same id).symm.trans lived, owned⟩
  | created new _ _ _ _ same =>
    rw [same] at lived
    split at lived
    · cases lived
      cases owned
    · exact .inr ⟨attempt, lived, owned⟩
  | @stepped changed action old new found step authorized _ same =>
    rw [same] at lived
    split at lived
    · rename_i here
      subst here
      cases lived
      cases step with
      | claim =>
        simp only [Option.some.injEq, Json.str.injEq] at owned
        subst owned
        exact .inl authorized
      | wake => cases owned
      | _ => exact .inr ⟨old, found, owned⟩
    · exact .inr ⟨attempt, lived, owned⟩

end Moved

structure Changed (platform : Platform) (jobs : Nat → Job) (thread : Nat) (world next : World) (before after : Store) : Prop where
  shows : world.Shows before
  seen : next.Shows after
  storeSound : StoreSound after
  evolves : before.Evolves after
  keys : Keyed before after
  issued : next.issued = world.issued
  marks : ∀ id, next.marks id = marked (life before id) (life after id) (world.marks id)
  moved : Moved platform jobs thread world before after

namespace Changed

theorem of_move (shows : world.Shows before) (storeSound : StoreSound after) (evolves : before.Evolves after)
    {durable : Durable} (seen : durable.visible = .ok after) (keys : Keyed before after)
    (moved : Moved platform jobs thread world before after) : Changed platform jobs thread world (world.move durable) before after := by
  refine ⟨shows, seen, storeSound, evolves, keys, rfl, fun id => ?_, moved⟩
  have first : world.life id = life before id := world_life shows id
  have second : lifeIn durable id = life after id := by
    unfold lifeIn
    rw [seen]
  change marked (world.life id) (lifeIn durable id) (world.marks id) = _
  rw [first, second]

theorem life_before (changed : Changed platform jobs thread world next before after) (id : String) :
    world.life id = life before id := world_life changed.shows id

theorem life_after (changed : Changed platform jobs thread world next before after) (id : String) :
    next.life id = life after id := world_life changed.seen id

theorem rely (changed : Changed platform jobs other world next before after) (different : thread ≠ other) :
    Rely thread world next := by
  constructor
  · intro store shows
    cases changed.shows.symm.trans shows
    exact ⟨after, changed.seen, changed.evolves⟩
  · intro owner holder issued
    rw [changed.issued]
    exact issued
  · rintro id owner issued ⟨attempt, lived, owned⟩
    rw [changed.life_after] at lived
    rcases changed.moved.owners lived owned with drawn | ⟨old, found, owned⟩
    · exact absurd (Option.some.inj (issued.symm.trans drawn)) different
    · exact ⟨old, (changed.life_before id).trans found, owned⟩
  · intro id owner holds
    have same := changed.moved.frozen different changed.shows holds
    refine ⟨(changed.life_after id).trans (same.trans (changed.life_before id).symm), ?_⟩
    rw [changed.marks, same, marked_same]

theorem sound (changed : Changed platform jobs thread world next before after) (inv : Inv platform world) {id : String}
    {attempt : Life} (lived : next.life id = some attempt) : Sound platform attempt (next.marks id) := by
  rw [changed.life_after] at lived
  rw [changed.marks, lived]
  cases changed.moved with
  | same same =>
    rw [same] at lived
    rw [lived, marked_same]
    exact inv.sound id attempt ((changed.life_before id).trans lived)
  | created new _ absent _ _ same =>
    rw [same] at lived
    split at lived
    · rename_i here
      subst here
      cases lived
      have unmarked := inv.unmarked new ((changed.life_before new).trans (by simp [life, absent]))
      rw [marked_other (by decide) (by decide), unmarked]
      exact .created
    · rw [lived, marked_same]
      exact inv.sound id attempt ((changed.life_before id).trans lived)
  | @stepped moved action old new found step authorized _ same =>
    rw [same] at lived
    split at lived
    · rename_i here
      subst here
      cases lived
      rw [found]
      have known := (changed.life_before moved).trans found
      exact (inv.sound moved old known).step known authorized step
    · rw [lived, marked_same]
      exact inv.sound id attempt ((changed.life_before id).trans lived)

theorem inv (changed : Changed platform jobs thread world next before after) (inv : Inv platform world) :
    Inv platform next := by
  refine ⟨⟨after, changed.seen, changed.storeSound⟩, fun id attempt => changed.sound inv, ?_, ?_⟩
  · intro id absent
    rw [changed.life_after] at absent
    have kept := changed.moved.kept absent
    rw [changed.marks, absent, kept, marked_same]
    exact inv.unmarked id ((changed.life_before id).trans kept)
  · intro id attempt owner lived owned
    rw [changed.life_after] at lived
    rw [changed.issued]
    rcases changed.moved.owners lived owned with issued | ⟨old, found, owned⟩
    · simp [issued]
    · exact inv.owners id old owner ((changed.life_before id).trans found) owned

end Changed

section Exec

theorem execute_permitted {operation : Operation} (permitted : PermittedOperation platform jobs thread world operation) :
    operation.execute = mutate operation.run := by
  cases permitted <;> rfl

theorem operation_changed {operation : Operation} (inv : Inv platform world)
    (permitted : PermittedOperation platform jobs thread world operation) :
    ∃ before after, Changed platform jobs thread world (world.move (operation.execute world.durable).2) before after ∧
      ((∃ reply middle, (operation.execute world.durable).1 = .ok reply ∧
          operation.run.Returns before reply middle ∧ after = middle.reindexed) ∨
        (∃ error middle, (operation.execute world.durable).1 = .error error ∧
          operation.run.Raises before error middle ∧ after = before)) := by
  obtain ⟨store, shows, storeSound⟩ := inv.shows
  rw [execute_permitted permitted]
  have advances {before after : Store} {value : Reply} (returned : operation.run.Returns before value after) :
      before.Advances after := run_advances returned
  rcases mutate_cases shows storeSound.wellFormed advances with
    ⟨reply, middle, replied, returned, seen⟩ | ⟨error, middle, raised, raises, seen⟩
  · obtain ⟨wellFormedMiddle, evolved⟩ := run_advances returned storeSound.wellFormed
    obtain ⟨wellFormedAfter, again⟩ := Store.Advances.reindexed middle wellFormedMiddle
    have evolves := evolved.trans again
    have moved := (permitted_moves shows inv.sound permitted returned).trans_same
      (Store.Same.reindexed middle)
    have keys : Keyed store middle.reindexed := (permitted_keys permitted returned).trans_keys
      (Store.Same.reindexed middle).keys fun id kind stored => by simpa only [OfKind, Store.get_reindexed] using stored
    have afterSound : StoreSound middle.reindexed :=
      ⟨wellFormedAfter, wellFormedMiddle.indexed, moved.shaped shows evolves storeSound,
        keys.stored evolves storeSound⟩
    exact ⟨store, middle.reindexed, .of_move shows afterSound evolves seen keys moved,
      .inl ⟨reply, middle, replied, returned, rfl⟩⟩
  · exact ⟨store, store, .of_move shows storeSound (.refl store) seen (.of_keys rfl) (.same fun _ => rfl),
      .inr ⟨error, middle, raised, raises, rfl⟩⟩

theorem store_changed {operation : Operation} {answer : Except PyError Reply} (inv : Inv platform world)
    (permitted : PermittedOperation platform jobs thread world operation)
    (executed : World.Exec faults thread world (.store operation) answer next) :
    world.Alike next ∨ ∃ before after, Changed platform jobs thread world next before after := by
  obtain ⟨before, after, changed, -⟩ := operation_changed inv permitted
  cases executed with
  | store => exact .inr ⟨before, after, changed⟩
  | storeFault _ error written =>
    cases written with
    | true => exact .inr ⟨before, after, changed⟩
    | false => exact .inl (.refl world)

theorem invoked_inv (inv : Inv platform world) {id owner : String} (outcome : Executed)
    (holds : world.Holds thread id owner) (idle : sinceStart (world.marks id) = []) :
    Inv platform (world.invoke id outcome) := by
  refine ⟨inv.shows, fun wanted attempt lived => ?_, fun wanted absent => ?_, inv.owners⟩
  · change Sound platform attempt (Function.update world.marks id _ wanted)
    by_cases same : wanted = id
    · subst same
      obtain ⟨-, _, again, claimed, unrecorded⟩ := holds
      have known : world.life wanted = some attempt := lived
      cases known.symm.trans again
      obtain ⟨unfailed, first⟩ := (inv.sound wanted attempt known).of_claimed claimed unrecorded
      rw [Function.update_self]
      refine .claimed claimed unrecorded unfailed (by simp [sinceStart, idle]) fun direct => ?_
      have earlier : Mark.waiting ∉ world.marks wanted := fun waited => direct (List.mem_cons_of_mem _ waited)
      rw [first earlier, idle]
      rfl
    · rw [Function.update_of_ne same]
      exact inv.sound wanted attempt lived
  · change Function.update world.marks id _ wanted = []
    obtain ⟨-, _, lived, -⟩ := holds
    have different : wanted ≠ id := by
      rintro rfl
      rw [show world.life wanted = none from absent] at lived
      cases lived
    rw [Function.update_of_ne different]
    exact inv.unmarked wanted absent

theorem invoked_rely (different : thread ≠ other) {id owner : String} (outcome : Executed)
    (holds : world.Holds other id owner) : Rely thread world (world.invoke id outcome) := by
  refine ⟨fun store shows => ⟨store, shows, .refl store⟩, fun _ _ issued => issued, fun _ _ _ claimed => claimed,
    fun wanted holder held => ⟨rfl, ?_⟩⟩
  have separate : wanted ≠ id := by
    rintro rfl
    obtain ⟨issued, _, lived, claimed, -⟩ := holds
    obtain ⟨drawn, _, again, mine, -⟩ := held
    cases lived.symm.trans again
    rw [mine.unique claimed, issued] at drawn
    exact different (Option.some.inj drawn).symm
  exact Function.update_of_ne separate _ _

theorem issued_inv (inv : Inv platform world) {token : String} (fresh : world.issued token = none) (holder : Nat) :
    Inv platform (world.issue token holder) := by
  refine ⟨inv.shows, inv.sound, inv.unmarked, fun id attempt owner lived owned => ?_⟩
  have known := inv.owners id attempt owner lived owned
  have different : owner ≠ token := by
    rintro rfl
    exact known fresh
  change Function.update world.issued token (some holder) owner ≠ none
  rwa [Function.update_of_ne different]

theorem issued_rely {token : String} (fresh : world.issued token = none)
    (holder : Nat) : Rely thread world (world.issue token holder) := by
  refine ⟨fun store shows => ⟨store, shows, .refl store⟩, fun owner earlier issued => ?_,
    fun _ _ _ claimed => claimed, fun _ _ _ => ⟨rfl, rfl⟩⟩
  have different : owner ≠ token := by
    rintro rfl
    rw [fresh] at issued
    cases issued
  change Function.update world.issued token (some holder) owner = some earlier
  rwa [Function.update_of_ne different]

theorem alike_exec {call : Call} {answer : call.Answer} (executed : World.Exec faults thread world call answer next)
    (reads : ∀ operation, call ≠ .store operation) (idle : ∀ task running, call ≠ .execute task running)
    (draws : call ≠ .uuid4) : world.Alike next := by
  cases executed with
  | clock => exact .refl world
  | now => exact .refl world
  | uuid4 => exact absurd rfl draws
  | execute => exact absurd rfl (idle _ _)
  | get => exact alike_read _ world
  | listByWorkflowExecution => exact alike_read _ world
  | listByTaskExecution => exact alike_read _ world
  | store => exact absurd rfl (reads _)
  | getFault => exact .refl world
  | listFault => exact .refl world
  | listTaskFault => exact .refl world
  | storeFault => exact absurd rfl (reads _)

theorem exec_inv {call : Call} {answer : call.Answer} (inv : Inv platform world)
    (permitted : Permitted platform jobs thread world call)
    (executed : World.Exec faults thread world call answer next) : Inv platform next := by
  cases call with
  | store operation =>
    rcases store_changed inv permitted executed with alike | ⟨before, after, changed⟩
    · exact inv.of_alike alike
    · exact changed.inv inv
  | execute task running =>
    obtain ⟨owner, holds, idle⟩ := permitted
    cases executed
    exact invoked_inv inv _ holds idle
  | uuid4 =>
    cases executed with
    | uuid4 token fresh => exact issued_inv inv fresh thread
  | _ => exact inv.of_alike (alike_exec executed (by simp) (by simp) (by simp))

theorem exec_rely {call : Call} {answer : call.Answer} (different : thread ≠ other) (inv : Inv platform world)
    (permitted : Permitted platform jobs other world call)
    (executed : World.Exec faults other world call answer next) : Rely thread world next := by
  cases call with
  | store operation =>
    rcases store_changed inv permitted executed with alike | ⟨before, after, changed⟩
    · exact .of_alike alike
    · exact changed.rely different
  | execute task running =>
    obtain ⟨owner, holds, -⟩ := permitted
    cases executed
    exact invoked_rely different _ holds
  | uuid4 =>
    cases executed with
    | uuid4 token fresh => exact issued_rely fresh other
  | _ => exact .of_alike (alike_exec executed (by simp) (by simp) (by simp))

theorem foreign_inv (inv : Inv platform world) (moved : (machine platform faults).foreign world next) :
    Inv platform next := by
  obtain ⟨issued, marks, old, new, shows, seen, foreign⟩ := moved
  have same (id : String) : next.life id = world.life id := by
    rw [world_life seen, world_life shows, foreign.life]
  obtain ⟨store, again, storeSound⟩ := inv.shows
  cases shows.symm.trans again
  have shaped {id : String} {record : Record} (found : new.get id = some record) (task : isTask record = true) :
      Shaped record := by
    have lives : life old id = some (lifeOf record) := by rw [← foreign.life, life_found found, if_pos task]
    obtain ⟨earlier, found_earlier, task_earlier⟩ := record_of_life lives
    exact shaped_of_evolves foreign.evolves found_earlier found (storeSound.shaped found_earlier task_earlier) task_earlier
  have keyed {workflowId identity : String} {attempt : Int} {id : String}
      (found : new.deterministicKeys.get? (deterministicKey workflowId identity attempt) = some id) :
      ∃ record, new.get id = some record ∧ isTask record = true := by
    rw [foreign.reserved _ (.inl ⟨_, _, _, rfl⟩)] at found
    obtain ⟨record, stored, task⟩ := storeSound.keyed found
    exact task_of_evolves foreign.evolves stored task
  refine ⟨⟨new, seen, foreign.wellFormed, foreign.indexed, shaped, keyed⟩, fun id attempt lived => ?_, fun id absent => ?_,
    fun id attempt owner lived owned => ?_⟩
  · rw [marks]
    exact inv.sound id attempt (same id ▸ lived)
  · rw [marks]
    exact inv.unmarked id (same id ▸ absent)
  · rw [issued]
    exact inv.owners id attempt owner (same id ▸ lived) owned

theorem foreign_rely (moved : (machine platform faults).foreign world next) : Rely thread world next := by
  obtain ⟨issued, marks, old, new, shows, seen, foreign⟩ := moved
  have same (id : String) : next.life id = world.life id := by
    rw [world_life seen, world_life shows, foreign.life]
  refine ⟨fun store again => ?_, fun owner holder drawn => ?_, fun id owner _ claimed => ?_,
    fun id owner _ => ⟨same id, by rw [marks]⟩⟩
  · cases shows.symm.trans again
    exact ⟨new, seen, foreign.evolves⟩
  · rw [issued]
    exact drawn
  · unfold World.Owned at claimed
    rwa [same] at claimed

end Exec

def discipline (platform : Platform) (faults : Prop) (jobs : Nat → Job) :
    Machine.Discipline (machine platform faults) where
  invariant := Inv platform
  permitted := Permitted platform jobs
  rely := Rely
  rely_refl := Rely.refl
  rely_trans := Rely.trans
  invariant_exec := exec_inv
  invariant_foreign := foreign_inv
  rely_exec := exec_rely
  rely_foreign := fun _ moved => foreign_rely moved

end Aep.WorkflowScheduler
