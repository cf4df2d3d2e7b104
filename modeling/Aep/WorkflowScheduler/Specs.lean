import Aep.WorkflowScheduler.Discipline

namespace Aep.WorkflowScheduler

open RuntimeStore StateAction Machine.Discipline

structure Setting where
  platform : Platform
  faults : Prop
  jobs : Nat → Job
  thread : Nat

namespace Setting

variable (setting : Setting)

abbrev Triple {α : Type} (pre : World → Prop) (program : Prog α) (post : Except PyError α → World → Prop) : Prop :=
  (discipline setting.platform setting.faults setting.jobs).Triple setting.thread pre program post

abbrev Keeps {α : Type} (fact : World → Prop) (program : Prog α) : Prop :=
  (discipline setting.platform setting.faults setting.jobs).Keeps setting.thread fact program

abbrev Persistent (fact : World → Prop) : Prop :=
  (discipline setting.platform setting.faults setting.jobs).Persistent setting.thread fact

abbrev Stable (pre : World → Prop) : Prop := ∀ world next, pre world → Rely setting.thread world next → pre next

abbrev Operation (world : World) (operation : Operation) : Prop :=
  PermittedOperation setting.platform setting.jobs setting.thread world operation

end Setting

variable {setting : Setting} {world next : World} {before after : Store} {α β : Type}

section Growth

/-- What every step of any thread does: objects evolve, and drawn tokens stay drawn. -/
structure Grows (world next : World) : Prop where
  evolves : ∀ store, world.Shows store → ∃ later, next.Shows later ∧ store.Evolves later
  issued : ∀ owner holder, world.issued owner = some holder → next.issued owner = some holder

theorem Rely.grows {thread : Nat} (rely : Rely thread world next) : Grows world next := ⟨rely.evolves, rely.issued⟩

theorem exec_grows {call : Call} {answer : call.Answer} (inv : Inv setting.platform world)
    (permitted : Permitted setting.platform setting.jobs setting.thread world call)
    (executed : World.Exec setting.faults setting.thread world call answer next) : Grows world next := by
  cases call with
  | store operation =>
    rcases store_changed inv permitted executed with alike | ⟨before, after, changed⟩
    · exact (show Rely 0 world next from .of_alike alike).grows
    · refine ⟨fun store shows => ?_, fun owner holder issued => by rw [changed.issued]; exact issued⟩
      cases changed.shows.symm.trans shows
      exact ⟨after, changed.seen, changed.evolves⟩
  | execute task running =>
    cases executed
    exact ⟨fun store shows => ⟨store, shows, .refl store⟩, fun _ _ issued => issued⟩
  | uuid4 =>
    cases executed with
    | uuid4 token fresh => exact (show Rely 0 world _ from issued_rely fresh setting.thread).grows
  | _ => exact (show Rely 0 world next from .of_alike (alike_exec executed (by simp) (by simp) (by simp))).grows

theorem persistent_of_grows {fact : World → Prop}
    (grows : ∀ {world next}, Grows world next → fact world → fact next) : setting.Persistent fact :=
  ⟨fun known rely => grows (Rely.grows rely) known,
    fun inv permitted executed known => grows (exec_grows inv permitted executed) known⟩

end Growth

section Facts

def World.Seen (world : World) (record : Record) : Prop :=
  ∃ current, world.Stored (idOf record) current ∧ RuntimeStore.Evolves record current

theorem World.Stored.unique {id : String} {first second : Record} (stored : world.Stored id first)
    (again : world.Stored id second) : first = second := by
  obtain ⟨store, shows, found⟩ := stored
  obtain ⟨_, shown, foundAgain⟩ := again
  cases shows.symm.trans shown
  exact Option.some.inj (found.symm.trans foundAgain)

theorem Grows.stored (grows : Grows world next) {id : String} {record : Record} (stored : world.Stored id record) :
    ∃ later, next.Stored id later ∧ RuntimeStore.Evolves record later := by
  obtain ⟨store, shows, found⟩ := stored
  obtain ⟨after, shown, evolves⟩ := grows.evolves store shows
  obtain ⟨later, foundLater, evolved⟩ := evolves id record found
  exact ⟨later, ⟨after, shown, foundLater⟩, evolved⟩

theorem Grows.seen (grows : Grows world next) {record : Record} (seen : world.Seen record) : next.Seen record := by
  obtain ⟨current, stored, evolved⟩ := seen
  obtain ⟨later, storedLater, evolvedAgain⟩ := grows.stored stored
  exact ⟨later, storedLater, evolved.trans evolvedAgain⟩

theorem persistent_seen (record : Record) : setting.Persistent fun world => world.Seen record :=
  persistent_of_grows fun grows seen => grows.seen seen

theorem World.Seen.terminal {record : Record} (seen : world.Seen record) (done : isTerminal (statusOf record) = true) :
    world.Stored (idOf record) record := by
  obtain ⟨current, stored, evolved⟩ := seen
  rwa [evolved.terminal done] at stored

theorem World.Seen.kind {record current : Record} (seen : world.Seen record)
    (stored : world.Stored (idOf record) current) : current.field "kind" = record.field "kind" := by
  obtain ⟨later, found, evolved⟩ := seen
  rw [stored.unique found]
  exact evolved.field_eq (by decide)

theorem World.Seen.recorded {record evidence : Record} (seen : world.Seen record) (task : isTask record = true)
    (recorded : record.field "terminalEvidence" = .obj evidence) : world.Recorded (idOf record) evidence := by
  obtain ⟨current, ⟨store, shows, found⟩, evolved⟩ := seen
  have kind : record.field "kind" = .str "TaskExecution" := by simpa [isTask] using task
  refine ⟨lifeOf current, ?_, ?_⟩
  · rw [world_life shows, life_found found, if_pos ((isTask_evolves evolved).trans task)]
  · exact evolved.lasting "terminalEvidence" (by rw [kind]; decide) _ (Dict.get?_of_field recorded (by simp))

theorem shows_of_life {id : String} {attempt : Life} (lived : world.life id = some attempt) :
    ∃ store, world.Shows store ∧ life store id = some attempt := by
  unfold World.life lifeIn at lived
  cases seen : world.durable.visible with
  | error error => simp [seen] at lived
  | ok store =>
    rw [seen] at lived
    exact ⟨store, seen, lived⟩

theorem Grows.recorded (grows : Grows world next) {id : String} {evidence : Record}
    (recorded : world.Recorded id evidence) : next.Recorded id evidence := by
  obtain ⟨attempt, lived, recorded⟩ := recorded
  obtain ⟨store, shows, lived⟩ := shows_of_life lived
  obtain ⟨record, found, task⟩ := record_of_life lived
  obtain ⟨later, ⟨after, shown, foundLater⟩, evolved⟩ := grows.stored ⟨store, shows, found⟩
  have kind : record.field "kind" = .str "TaskExecution" := by simpa [isTask] using task
  obtain ⟨-, rfl⟩ := task_of_life found lived
  refine ⟨lifeOf later, ?_, evolved.lasting "terminalEvidence" (by rw [kind]; decide) _ recorded⟩
  rw [world_life shown, life_found foundLater, if_pos ((isTask_evolves evolved).trans task)]

theorem persistent_recorded (id : String) (evidence : Record) :
    setting.Persistent fun world => world.Recorded id evidence :=
  persistent_of_grows fun grows recorded => grows.recorded recorded

end Facts

section Outcomes

/-- How a call of a store operation ends: with its reply, without an effect, or with its effect but an error. -/
inductive Outcome (setting : Setting) (world next : World) (operation : Operation) :
    Except PyError Reply → Prop where
  | returned {before middle : Store} {reply : Reply}
      (changed : Changed setting.platform setting.jobs setting.thread world next before middle.reindexed)
      (ran : operation.run.Returns before reply middle) : Outcome setting world next operation (.ok reply)
  | raised {error : PyError} (alike : world.Alike next) : Outcome setting world next operation (.error error)
  | lost {before middle : Store} {reply : Reply} {error : PyError}
      (changed : Changed setting.platform setting.jobs setting.thread world next before middle.reindexed)
      (ran : operation.run.Returns before reply middle) : Outcome setting world next operation (.error error)

theorem alike_of_changed {thread : Nat} {jobs : Nat → Job} {platform : Platform}
    (changed : Changed platform jobs thread world next before before) : world.Alike next := by
  refine ⟨changed.seen.trans changed.shows.symm, changed.issued, funext fun id => ?_⟩
  rw [changed.marks, marked_same]

theorem outcome {operation : Operation} {answer : Except PyError Reply} (inv : Inv setting.platform world)
    (permitted : setting.Operation world operation)
    (executed : World.Exec setting.faults setting.thread world (.store operation) answer next) :
    Outcome setting world next operation answer := by
  obtain ⟨before, after, changed, ⟨reply, middle, replied, ran, rfl⟩ | ⟨error, middle, raised, -, rfl⟩⟩ :=
    operation_changed inv permitted
  · cases executed with
    | store =>
      rw [replied]
      exact .returned changed ran
    | storeFault _ error written =>
      cases written with
      | true => exact .lost changed ran
      | false => exact .raised (.refl world)
  · cases executed with
    | store =>
      rw [raised]
      exact .raised (alike_of_changed changed)
    | storeFault _ error written =>
      cases written with
      | true => exact .raised (alike_of_changed changed)
      | false => exact .raised (.refl world)

end Outcomes

section Calls

variable {fact pre : World → Prop}

theorem triple_ask {call : Call} {info : call.Answer → World → Prop} (stable : setting.Stable pre)
    (permitted : ∀ world, Inv setting.platform world → pre world →
      Permitted setting.platform setting.jobs setting.thread world call)
    (effect : ∀ world answer next, Inv setting.platform world → pre world →
      World.Exec setting.faults setting.thread world call answer next → Inv setting.platform next →
      info answer next) : setting.Triple pre (Prog.ask call) (returns info) := by
  refine triple_call _ stable permitted effect fun answer => triple_ret ?_
  intro world known value same
  cases same
  exact known

theorem Persistent.stable (persistent : setting.Persistent fact) : setting.Stable fact :=
  fun _ _ known rely => persistent.rely known rely

theorem keeps_ask {call : Call} (persistent : setting.Persistent fact)
    (permitted : ∀ world, Inv setting.platform world → fact world →
      Permitted setting.platform setting.jobs setting.thread world call) :
    setting.Keeps fact (Prog.ask call) := by
  have asked : setting.Triple fact (Prog.ask call) (returns fun _ _ => True) :=
    triple_ask (Persistent.stable persistent) permitted fun _ _ _ _ _ _ _ => trivial
  exact asked.keeps

theorem keeps_check {result : Except PyError α} : setting.Keeps fact (Prog.check result) := keeps_liftExcept

theorem triple_check {result : Except PyError α} :
    setting.Triple pre (Prog.check result) (returns fun value _ => result = .ok value) :=
  triple_liftExcept fun _ _ _ same => same

theorem keeps_fail {error : PyError} : setting.Keeps (α := α) fact (Prog.fail error) := keeps_raise

theorem keeps_record {answer : Except PyError Reply} : setting.Keeps fact (Prog.record answer) := by
  unfold Prog.record
  split
  · exact keeps_ret
  · exact triple_cut
  · exact keeps_raise

theorem keeps_pure {value : α} : setting.Keeps fact (pure value : Prog α) := keeps_ret

end Calls

section Reads

variable {fact : World → Prop}

theorem World.Alike.seen (alike : world.Alike next) {store : Store} (shows : world.Shows store)
    (wellFormed : store.WellFormed) {id : String} {record : Record} (found : store.get id = some record) :
    next.Seen record ∧ idOf record = id := by
  have named : objectId record = id := (wellFormed.valid found).2
  refine ⟨⟨record, ⟨store, alike.shows shows, ?_⟩, .refl record⟩, named⟩
  change store.get (objectId record) = some record
  rw [named, found]

theorem triple_get (id : String) : setting.Triple fact (Prog.get id)
    (returns fun found world => ∀ record, found = some record → world.Seen record ∧ idOf record = id) := by
  have asked : setting.Triple (fun _ => True) (Prog.ask (.get id)) (returns fun answer world =>
      ∀ record, answer = .ok (some record) → world.Seen record ∧ idOf record = id) := by
    refine triple_ask (fun _ _ _ _ => trivial) (fun _ _ _ => trivial) ?_
    intro world answer next inv _ executed _ record replied
    obtain ⟨store, shows, sound⟩ := inv.shows
    cases executed with
    | get =>
      rw [readVisible_reply _ shows] at replied
      exact (alike_read _ world).seen shows sound.wellFormed (Except.ok.inj replied)
    | getFault => cases replied
  refine Triple.weaken ?_ (fun _ _ => trivial)
  refine Triple.bind asked (fun answer => triple_liftExcept ?_) fun _ _ _ _ same => by cases same
  rintro world known found rfl record rfl
  exact known _ rfl record rfl

theorem triple_list (workflowId : String) : setting.Triple fact (Prog.listByWorkflowExecution workflowId)
    (returns fun records world => ∀ record ∈ records, world.Seen record ∧
      workflowExecutionId record = some workflowId) := by
  have asked : setting.Triple (fun _ => True) (Prog.ask (.listByWorkflowExecution workflowId))
      (returns fun answer world => ∀ records, answer = .ok records → ∀ record ∈ records, world.Seen record ∧
        workflowExecutionId record = some workflowId) := by
    refine triple_ask (fun _ _ _ _ => trivial) (fun _ _ _ => trivial) ?_
    intro world answer next inv _ executed _ records replied record member
    obtain ⟨store, shows, sound⟩ := inv.shows
    cases executed with
    | listByWorkflowExecution =>
      rw [readVisible_reply _ shows] at replied
      obtain ⟨found, owned⟩ := listByWorkflowExecution_mem sound.wellFormed sound.indexed replied member
      exact ⟨((alike_read _ world).seen shows sound.wellFormed found).1, owned⟩
    | listFault => cases replied
  refine Triple.weaken ?_ (fun _ _ => trivial)
  refine Triple.bind asked (fun answer => triple_liftExcept ?_) fun _ _ _ _ same => by cases same
  rintro world known found rfl record member
  exact known _ rfl found rfl record member

theorem keeps_listByTaskExecution (persistent : setting.Persistent fact) (id : String) :
    setting.Keeps fact (Prog.listByTaskExecution id) :=
  Keeps.bind persistent (keeps_ask persistent fun _ _ _ => trivial) fun _ => keeps_check

end Reads

section Combinators

variable {fact : World → Prop}

theorem keeps_tryCatch {program : Prog α} {next : Except PyError α → Prog β} (persistent : setting.Persistent fact)
    (first : setting.Keeps fact program) (rest : ∀ result, setting.Keeps fact (next result)) :
    setting.Keeps fact (Prog.tryCatch program next) :=
  Keeps.bind persistent first.attempt rest

theorem triple_tryCatch {program : Prog α} {next : Except PyError α → Prog β} {pre : World → Prop}
    {mid : Except PyError α → World → Prop} {post : Except PyError β → World → Prop}
    (first : setting.Triple pre program mid) (rest : ∀ result, setting.Triple (mid result) (next result) post) :
    setting.Triple pre (Prog.tryCatch program next) post := by
  have attempted : setting.Triple pre (Program.attempt program : Prog (Except PyError α))
      fun result world => ∃ inner, result = .ok inner ∧ mid inner world :=
    Triple.attempt first fun inner world known => ⟨inner, rfl, known⟩
  refine Triple.bind attempted (fun inner => (rest inner).mono ?_ ?_) ?_
  · rintro world ⟨_, same, known⟩
    cases same
    exact known
  · exact fun _ _ ended => ended
  · rintro error world ⟨_, same, -⟩
    cases same

theorem keeps_forEach {body : α → Prog Unit} {items : List α} (persistent : setting.Persistent fact)
    (each : ∀ item ∈ items, setting.Keeps fact (body item)) : setting.Keeps fact (Prog.forEach body items) := by
  induction items with
  | nil => exact keeps_pure
  | cons item rest ih =>
    exact Keeps.bind persistent (each item List.mem_cons_self) fun _ =>
      ih fun later member => each later (List.mem_cons_of_mem _ member)

theorem triple_collect {body : α → Prog β} {items : List α} {info : β → World → Prop}
    (persistent : setting.Persistent fact) (stays : ∀ value, setting.Persistent (info value))
    (each : ∀ item ∈ items, setting.Triple fact (body item) (returns info)) :
    setting.Triple fact (Prog.collect body items)
      (returns fun results world => ∀ result ∈ results, info result world) := by
  induction items generalizing fact with
  | nil =>
    rintro world _ results same result member
    cases same
    cases member
  | cons item rest ih =>
    have first := (Triple.frame persistent (each item List.mem_cons_self)).weaken
      (fun world known => (⟨known, known⟩ : fact world ∧ fact world))
    refine Triple.bind first (fun value => ?_) fun error _ _ _ same => by cases same
    have both := Persistent.and persistent (stays value)
    have later := Triple.frame both (ih both fun other member =>
      (each other (List.mem_cons_of_mem _ member)).weaken (fun _ known => known.1))
    have later := later.weaken
      (fun world (known : fact world ∧ returns info (.ok value : Except PyError β) world) =>
        ⟨⟨known.1, known.2 value rfl⟩, ⟨known.1, known.2 value rfl⟩⟩)
    refine Triple.bind later (fun others => triple_ret ?_) fun error _ _ _ same => by cases same
    rintro world ⟨⟨-, here⟩, known⟩ results same result member
    cases same
    rcases List.mem_cons.mp member with rfl | elsewhere
    · exact here
    · exact known others rfl result elsewhere

end Combinators

section Operations

variable {fact pre : World → Prop}

theorem stored_of_updated {id status : String} {changes result : Record}
    (updated : Updated before after id status changes result) :
    after.get id = some result ∧ statusOf result = .str status := by
  cases updated with
  | confirmed found _ named same => exact ⟨(same.get id).trans found, named⟩
  | rewritten _ _ _ written replaced => exact ⟨by simp [replaced.get], written ▸ status_withStatus _ _ _ _⟩

theorem stored_of_commit {id status workflowId expectedStatus updatedAt clock : String}
    {record changes result : Record}
    (returned : (commitTaskExecutionTransition id status workflowId (.obj record) expectedStatus updatedAt changes
      clock).Returns before result after) :
    after.get id = some result ∧ statusOf result = .str status ∧ isTask result = true := by
  obtain ⟨-, written, noted, updated, attached, -, -, appended⟩ := commitTaskExecutionTransition_cases returned
  obtain ⟨stored, status_eq⟩ := stored_of_updated updated
  obtain ⟨task, found, kind⟩ := attached.task
  cases stored.symm.trans found
  obtain ⟨old, new, replaced, oldKind, -⟩ := attached.workflow
  have different : workflowId ≠ id := by
    rintro rfl
    cases stored.symm.trans replaced.found
    simp [kind] at oldKind
  have kept : noted.get id = some result := by rw [replaced.get, if_neg different, stored]
  refine ⟨?_, status_eq, by simp [isTask, kind]⟩
  cases appended with
  | earlier _ _ same => exact (same.get id).trans kept
  | added added =>
    rw [added.get, if_neg, kept]
    rintro rfl
    rw [added.fresh] at kept
    cases kept

theorem Changed.seen_of_stored {setting : Setting} {middle : Store}
    (changed : Changed setting.platform setting.jobs setting.thread world next before middle.reindexed) {id : String}
    {record : Record} (stored : middle.get id = some record) : next.Seen record ∧ idOf record = id := by
  have found : middle.reindexed.get id = some record := by rw [Store.get_reindexed, stored]
  have named : objectId record = id := (changed.storeSound.wellFormed.valid found).2
  refine ⟨⟨record, ⟨_, changed.seen, ?_⟩, .refl record⟩, named⟩
  change middle.reindexed.get (objectId record) = some record
  rw [named, found]

theorem triple_now (stable : setting.Stable pre) : setting.Triple pre (Prog.ask .now) (returns fun _ => pre) := by
  refine triple_ask stable (fun _ _ _ => trivial) ?_
  intro world answer next _ known executed _
  cases executed
  exact known

theorem triple_store {operation : Operation} {info : Record → World → Prop} (stable : setting.Stable pre)
    (permitted : ∀ world, Inv setting.platform world → pre world → setting.Operation world operation)
    (effect : ∀ world next value, Inv setting.platform world → pre world →
      Outcome setting world next operation (.ok (.record value)) → info value next) :
    setting.Triple pre (Prog.store operation) (returns info) := by
  have asked : setting.Triple pre (Prog.ask (.store operation)) (returns fun answer world =>
      ∀ value, answer = .ok (.record value) → info value world) := by
    refine triple_ask stable permitted ?_
    intro world answer next inv known executed _ value same
    subst same
    exact effect world next value inv known (outcome inv (permitted world inv known) executed)
  refine Triple.bind asked (fun answer => ?_) fun _ _ _ _ same => by cases same
  cases answer with
  | error error => exact triple_fails
  | ok reply =>
    cases reply with
    | record value =>
      refine triple_ret fun world known other same => ?_
      cases same
      exact known _ rfl value rfl
    | _ => exact triple_cut

theorem triple_updateStatus {id status expectedStatus updatedAt : String} {changes : Record}
    (stable : setting.Stable pre) (may : ∀ world, Inv setting.platform world → pre world →
      MayUpdate setting.platform setting.thread world id status expectedStatus changes) :
    setting.Triple pre (Prog.updateStatus id status expectedStatus updatedAt changes)
      (returns fun updated world => world.Seen updated ∧ idOf updated = id ∧ statusOf updated = .str status) := by
  refine Triple.bind (triple_now stable) (fun now => ?_) fun _ _ _ _ same => by cases same
  refine Triple.weaken (triple_store stable (fun world inv known => .update (may world inv known)) ?_)
    (fun world known => (known now rfl : pre world))
  intro world next value inv _ ended
  cases ended with
  | returned changed ran =>
    simp only [Operation.run, returns_map, Reply.record.injEq] at ran
    obtain ⟨result, ran, rfl⟩ := ran
    obtain ⟨stored, named⟩ := stored_of_updated (updateStatus_updated ran).1
    obtain ⟨seen, same⟩ := changed.seen_of_stored stored
    exact ⟨seen, same, named⟩

theorem keeps_appendTaskExecutionId (persistent : setting.Persistent fact) (workflowId id updatedAt : String) :
    setting.Keeps fact (Prog.appendTaskExecutionId workflowId id updatedAt) :=
  Keeps.bind persistent (triple_now (Persistent.stable persistent)).keeps fun _ =>
    Keeps.bind persistent (keeps_ask persistent fun _ _ _ => .appendTaskExecutionId) fun _ => keeps_record

def World.Task (world : World) (record : Record) : Prop := world.Seen record ∧ isTask record = true

theorem persistent_task (record : Record) : setting.Persistent fun world => world.Task record :=
  Persistent.and (persistent_seen record) (persistent_const _)

theorem triple_commit {id status workflowId expectedStatus updatedAt : String} {changes record : Record}
    {event : TaskEvent} (stable : setting.Stable pre) (trail : IsTaskEvent setting.platform id event record)
    (may : ∀ world, Inv setting.platform world → pre world →
      MayCommit setting.thread world id status expectedStatus changes event) :
    setting.Triple pre
      (Prog.commitTaskExecutionTransition id status workflowId record expectedStatus updatedAt changes)
      (returns fun updated world => world.Task updated ∧ idOf updated = id ∧ statusOf updated = .str status) := by
  refine Triple.bind (triple_now stable) (fun now => ?_) fun _ _ _ _ same => by cases same
  refine Triple.weaken (triple_store stable (fun world inv known => .commit (may world inv known) trail) ?_)
    (fun world known => (known now rfl : pre world))
  intro world next value inv _ ended
  cases ended with
  | returned changed ran =>
    simp only [Operation.run, returns_map, Reply.record.injEq] at ran
    obtain ⟨result, ran, rfl⟩ := ran
    obtain ⟨stored, named, task⟩ := stored_of_commit ran
    obtain ⟨seen, same⟩ := changed.seen_of_stored stored
    exact ⟨⟨seen, task⟩, same, named⟩

end Operations

section Events

variable {fact pre : World → Prop}

theorem emittedEvent_trail {platform : Platform} {taskExecution record : Record} {event : TaskEvent} {sequence : Int}
    {timestamp : String} (emitted : emittedEvent platform taskExecution event sequence timestamp = .ok record) :
    IsTaskEvent platform (idOf taskExecution) event record := by
  simp only [emittedEvent, Result.bind_eq_ok, Result.pure_eq_ok] at emitted
  obtain ⟨made, same, _, -, rfl⟩ := emitted
  exact ⟨taskExecution, sequence, timestamp, rfl, same⟩

theorem keeps_emit (persistent : setting.Persistent fact) (taskExecution : Record) (event : TaskEvent) (sequence : Int)
    (timestamp : String) : setting.Keeps fact (emit setting.platform taskExecution event sequence timestamp) := by
  refine Triple.bind_keeps persistent triple_check fun record => ?_
  have both := Persistent.and persistent (persistent_const
    (emittedEvent setting.platform taskExecution event sequence timestamp = .ok record))
  exact Keeps.bind both (keeps_ask both fun _ _ known => .appendEvent (emittedEvent_trail known.2)) fun _ =>
    keeps_record

theorem idOf_preview {taskExecution changes : Record} {status : TaskStatus} {timestamp : String}
    (unnamed : changes.get? "id" = none) : idOf (preview taskExecution status timestamp changes) = idOf taskExecution := by
  unfold idOf
  rw [Dict.field_congr]
  unfold preview
  cases status <;> simp [Dict.get?_setDefault, Dict.get?_set, Dict.get?_update, unnamed]

theorem triple_transition {taskExecution changes : Record} {status : TaskStatus} {event : TaskEvent}
    {timestamp : String} (stable : setting.Stable pre) (unnamed : changes.get? "id" = none)
    (may : ∀ world, Inv setting.platform world → pre world → MayCommit setting.thread world (idOf taskExecution)
      status.value (statusOf taskExecution).text changes event) :
    setting.Triple pre (transitionAndEmit setting.platform taskExecution status event timestamp changes)
      (returns fun updated world => world.Task updated ∧ idOf updated = idOf taskExecution ∧
        statusOf updated = .str status.value) := by
  have checked : setting.Triple pre (Prog.check (emittedEvent setting.platform
      (preview taskExecution status timestamp changes) event (transitionSequence status) timestamp))
      (returns fun record world => pre world ∧ IsTaskEvent setting.platform (idOf taskExecution) event record) := by
    refine triple_liftExcept fun world known record same => ⟨known, ?_⟩
    have trail := emittedEvent_trail same
    rwa [idOf_preview unnamed] at trail
  refine Triple.bind checked (fun record => ?_) fun _ _ _ _ same => by cases same
  by_cases trail : IsTaskEvent setting.platform (idOf taskExecution) event record
  · exact Triple.weaken (triple_commit stable trail may) (fun world known => (known record rfl).1)
  · intro world known
    exact absurd (known record rfl).2 trail

end Events

end Aep.WorkflowScheduler
