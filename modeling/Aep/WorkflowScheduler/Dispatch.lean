import Aep.WorkflowScheduler.Recovery

namespace Aep.WorkflowScheduler

open RuntimeStore StateAction Machine.Discipline

variable {setting : Setting} {world next : World} {pre : World → Prop}

section Tokens

def World.Drawn (world : World) (thread : Nat) (owner : String) : Prop :=
  world.issued owner = some thread ∧ ∀ id, ¬world.Owned id owner

/-- The thread holds the dispatch of an attempt, and the executor was invoked like this since it last started. -/
def World.Held (world : World) (thread : Nat) (id owner : String) (outcomes : List Executed) : Prop :=
  world.Holds thread id owner ∧ sinceStart (world.marks id) = outcomes

theorem stable_drawn (owner : String) : setting.Stable fun world => world.Drawn setting.thread owner := by
  rintro world next ⟨issued, unowned⟩ rely
  exact ⟨rely.issued _ _ issued, fun id owned => unowned id (rely.owns id owner issued owned)⟩

theorem stable_held (id owner : String) (outcomes : List Executed) :
    setting.Stable fun world => world.Held setting.thread id owner outcomes := by
  rintro world next ⟨holds, since⟩ rely
  exact ⟨rely.holds holds, by rw [(rely.frozen id owner holds).2, since]⟩

theorem stable_and {fact : World → Prop} (stable : setting.Stable pre) (also : setting.Stable fact) :
    setting.Stable fun world => pre world ∧ fact world :=
  fun _ _ known rely => ⟨stable _ _ known.1 rely, also _ _ known.2 rely⟩

theorem stable_or {fact : World → Prop} (stable : setting.Stable pre) (also : setting.Stable fact) :
    setting.Stable fun world => pre world ∨ fact world :=
  fun _ _ known rely => known.imp (stable _ _ · rely) (also _ _ · rely)

theorem known_alike (stable : setting.Stable pre) (alike : world.Alike next) (known : pre world) : pre next :=
  stable _ _ known (.of_alike alike)

theorem triple_ask_bind {α : Type} {call : Call} {rest : call.Answer → Prog α} {post : Except PyError α → World → Prop}
    (info : call.Answer → World → Prop) (stable : setting.Stable pre)
    (permitted : ∀ world, Inv setting.platform world → pre world →
      Permitted setting.platform setting.jobs setting.thread world call)
    (effect : ∀ world answer next, Inv setting.platform world → pre world →
      World.Exec setting.faults setting.thread world call answer next → Inv setting.platform next → info answer next)
    (goesOn : ∀ answer, setting.Triple (info answer) (rest answer) post) :
    setting.Triple pre (Prog.ask call >>= rest) post :=
  triple_call info stable permitted effect goesOn

theorem triple_get_at {id : String} {info : Record → World → Prop} (stable : setting.Stable pre)
    (effect : ∀ world record, Inv setting.platform world → pre world → world.Stored id record → idOf record = id →
      info record world) :
    setting.Triple pre (Prog.get id)
      fun result world => pre world ∧ ∀ record, result = .ok (some record) → info record world := by
  refine triple_ask_bind (fun answer world => pre world ∧ ∀ record, answer = .ok (some record) → info record world)
    stable (fun _ _ _ => trivial) ?_ fun answer => triple_liftExcept fun _ known => known
  intro world answer next inv known executed after
  have still := known_alike stable (alike_exec executed (by simp) (by simp) (by simp)) known
  refine ⟨still, fun record replied => ?_⟩
  obtain ⟨store, shows, sound⟩ := inv.shows
  cases executed with
  | get =>
    rw [readVisible_reply _ shows] at replied
    have alike := alike_read (fun store => .ok (store.get id)) world
    have found : store.get id = some record := Except.ok.inj replied
    exact effect _ record after still ⟨store, alike.shows shows, found⟩ (sound.wellFormed.valid found).2
  | getFault => cases replied

theorem triple_uuid4 : setting.Triple (fun _ => True) Prog.uuid4
    (returns fun owner world => world.Drawn setting.thread owner) := by
  refine triple_ask (fun _ _ _ _ => trivial) (fun _ _ _ => trivial) ?_
  intro world owner next inv _ executed after
  cases executed with
  | uuid4 _ fresh =>
    refine ⟨Function.update_self _ _ _, fun id owned => ?_⟩
    obtain ⟨attempt, lived, carries⟩ := owned
    exact inv.owners id attempt owner lived carries fresh

end Tokens

theorem World.Task.of_stored {running record : Record} (task : world.Task running)
    (stored : world.Stored (idOf running) record) : isTask record = true := by
  have kind := task.1.kind stored
  have named : running.field "kind" = .str "TaskExecution" := by simpa [isTask] using task.2
  simp [isTask, kind, named]

section Claims

variable {before middle : Store} {id owner updatedAt : String} {won : Bool} {record : Record}

theorem world_life_stored {record : Record} (stored : world.Stored id record) (task : isTask record = true) :
    world.life id = some (lifeOf record) := by
  obtain ⟨store, shows, found⟩ := stored
  rw [world_life shows, life_found found, if_pos task]

theorem Changed.claim (inv : Inv setting.platform world) (drawn : world.Drawn setting.thread owner)
    (changed : Changed setting.platform setting.jobs setting.thread world next before middle.reindexed)
    (ran : (claimTaskDispatch id owner updatedAt).Returns before (won, record) middle) :
    (won = true ∧ next.Held setting.thread id owner [] ∧ next.Task record ∧ idOf record = id ∧
      statusOf record = .str "RUNNING") ∨ (won = false ∧ next.Drawn setting.thread owner) := by
  obtain ⟨value, found, kind, running, ⟨lost, same⟩ | ⟨pending, wins, claimed, replaced⟩⟩ := claimTaskDispatch_cases ran
  · refine .inr ⟨lost, by rw [changed.issued]; exact drawn.1, fun wanted owned => drawn.2 wanted ?_⟩
    obtain ⟨attempt, lived, carries⟩ := owned
    rw [changed.life_after, life_same (Store.Same.reindexed middle), life_same same] at lived
    exact ⟨attempt, (changed.life_before wanted).trans lived, carries⟩
  · dsimp only at wins claimed replaced
    have taskBefore : isTask value = true := by simp [isTask, kind]
    have task : isTask record = true := by simp [isTask, claimed, Dict.field, Dict.get?_set, ← kind]
    have stored : middle.get id = some record := by rw [replaced.get, if_pos rfl]
    obtain ⟨seen, named⟩ := changed.seen_of_stored stored
    have lived : next.life id = some (lifeOf record) := by
      rw [changed.life_after, life_same (Store.Same.reindexed middle), life_found stored, if_pos task]
    have was : life before id = some (lifeOf value) := by rw [life_found found, if_pos taskBefore]
    have readied := (inv.sound id _ ((changed.life_before id).trans was)).of_ready running
      (Dict.get?_of_field pending (by simp))
    have status : statusOf record = .str "RUNNING" := by
      simp [statusOf, claimed, Dict.field, Dict.get?_set, ← running]
    have claims : (lifeOf record).Claimed owner := by
      refine ⟨status, ?_, ?_⟩ <;> simp [lifeOf, claimed, Dict.get?_set]
    have unrecorded : (lifeOf record).terminalEvidence = none := by
      rw [← readied.1]
      simp [lifeOf, claimed, Dict.get?_set]
    have marks : next.marks id = world.marks id := by
      rw [changed.marks, was, ← changed.life_after, lived]
      exact marked_unchanged (status.trans running.symm) _
    refine .inl ⟨wins, ⟨⟨by rw [changed.issued]; exact drawn.1, _, lived, claims, unrecorded⟩, ?_⟩, ⟨seen, task⟩, named, status⟩
    rw [marks]
    exact readied.2.2.1

/-- The thread holds the dispatch of the attempt that the record shows, which was not invoked since its start. -/
def World.Claims (world : World) (thread : Nat) (id owner : String) (record : Record) : Prop :=
  world.Held thread id owner [] ∧ world.Task record ∧ idOf record = id ∧ statusOf record = .str "RUNNING"

theorem stable_claims (id owner : String) (record : Record) :
    setting.Stable fun world => world.Claims setting.thread id owner record :=
  stable_and (stable_held id owner []) (stable_and (Persistent.stable (persistent_task record)) fun _ _ known _ => known)

/-- What is known after a claim: it was won, lost, or raised, with its write done or not. -/
structure Requested (thread : Nat) (id owner : String) (result : Except PyError (Option Record)) (world : World) : Prop where
  won : ∀ record, result = .ok (some record) → world.Claims thread id owner record
  raised : ∀ error, result = .error error → world.Drawn thread owner ∨ world.Held thread id owner []

theorem triple_requestClaim (running : Record) :
    setting.Triple (fun world => world.Drawn setting.thread owner) (requestClaim running owner updatedAt)
      (Requested setting.thread (idOf running) owner) := by
  have permitted : ∀ world, world.Drawn setting.thread owner →
      setting.Operation world (.claimTaskDispatch (idOf running) owner updatedAt) :=
    fun world drawn => .claim drawn.1
  refine triple_ask_bind (fun answer world =>
      (∀ record, answer = .ok (.claimed true (.obj record)) →
        world.Claims setting.thread (idOf running) owner record) ∧
      ∀ error, answer = .error error →
        world.Drawn setting.thread owner ∨ world.Held setting.thread (idOf running) owner [])
    (stable_drawn owner) (fun world _ drawn => permitted world drawn) ?_ fun answer => ?_
  · intro world answer next inv drawn executed _
    cases outcome inv (permitted world drawn) executed with
    | returned changed ran =>
      simp only [Operation.run, returns_map] at ran
      obtain ⟨⟨won, record⟩, ran, rfl⟩ := ran
      refine ⟨fun claimed same => ?_, fun _ same => by cases same⟩
      cases same
      rcases changed.claim inv drawn ran with claims | ⟨lost, -⟩
      · exact claims.2
      · cases lost
    | raised alike =>
      exact ⟨fun _ same => (by cases same), fun _ _ => .inl (known_alike (stable_drawn owner) alike drawn)⟩
    | lost changed ran =>
      simp only [Operation.run, returns_map] at ran
      obtain ⟨⟨won, record⟩, ran, -⟩ := ran
      refine ⟨fun _ same => (by cases same), fun _ _ => ?_⟩
      rcases changed.claim inv drawn ran with claims | ⟨-, still⟩
      · exact .inr claims.2.1
      · exact .inl still
  · unfold claimedRecord
    split
    · rename_i won record
      refine triple_ret fun world known => ⟨fun claimed same => ?_, fun _ same => by cases same⟩
      cases won with
      | true =>
        cases same
        exact known.1 _ rfl
      | false => cases same
    · exact triple_cut
    · rename_i error
      exact triple_raise fun world known => ⟨fun _ same => (by cases same), fun _ _ => known.2 error rfl⟩

theorem triple_adoptClaim {running : Record} {error : PyError} :
    setting.Triple (fun world => world.Task running ∧
        (world.Drawn setting.thread owner ∨ world.Held setting.thread (idOf running) owner []))
      (adoptClaim running owner error)
      (returns fun found world => ∀ record, found = some record →
        world.Claims setting.thread (idOf running) owner record) := by
  have stable : setting.Stable fun world => world.Task running ∧
      (world.Drawn setting.thread owner ∨ world.Held setting.thread (idOf running) owner []) :=
    stable_and (Persistent.stable (persistent_task running)) (stable_or (stable_drawn owner) (stable_held _ owner []))
  refine Triple.bind (@triple_get_at setting _ (idOf running) (fun record world =>
    record.field "dispatchOwnerId" = .str owner → world.Claims setting.thread (idOf running) owner record) stable ?_) (fun found => ?_) fun _ _ _ _ same => by cases same
  · rintro world record inv ⟨task, token⟩ stored named owns
    have taskRecord : isTask record = true := task.of_stored stored
    have lived := world_life_stored stored taskRecord
    have owned : world.Owned (idOf running) owner := ⟨_, lived, Dict.get?_of_field owns (by simp)⟩
    rcases token with drawn | held
    · exact absurd owned (drawn.2 _)
    · obtain ⟨⟨issued, attempt, again, claimed, unrecorded⟩, idle⟩ := held
      cases lived.symm.trans again
      refine ⟨⟨⟨issued, _, lived, claimed, unrecorded⟩, idle⟩, ⟨⟨record, ?_, .refl record⟩, taskRecord⟩, named, claimed.1⟩
      rwa [named]
  · split
    · rename_i persisted adopted
      obtain ⟨rfl, both⟩ := Option.filter_eq_some_iff.mp adopted
      simp only [Bool.decide_and, Bool.and_eq_true, decide_eq_true_eq] at both
      refine triple_ret fun world known value same record found => ?_
      cases same
      cases found
      exact known.2 _ rfl both.2
    · exact triple_fails

theorem triple_claimDurableDispatch {running : Record} :
    setting.Triple (fun world => world.Task running) (claimDurableDispatch running updatedAt)
      (returns fun found world => ∀ record, found = some record →
        ∃ owner, world.Claims setting.thread (idOf running) owner record) := by
  have persistent : setting.Persistent fun world => world.Task running := persistent_task running
  refine Triple.bind ((Triple.frame persistent triple_uuid4).weaken (fun _ known => ⟨known, trivial⟩)) (fun owner => ?_) fun _ _ _ _ same => by cases same
  refine (triple_tryCatch (show setting.Triple (fun world => world.Task running ∧ world.Drawn setting.thread owner) _
      (returns fun found world => ∀ record, found = some record →
        world.Claims setting.thread (idOf running) owner record) from ?claimed)
    fun result => ?caught).weaken (fun world known => ⟨known.1, known.2 owner rfl⟩)
  case claimed =>
    refine triple_tryCatch (Triple.frame persistent (triple_requestClaim running)) fun result => ?_
    cases result with
    | ok found =>
      refine triple_ret fun world known value same record won => ?_
      cases same
      exact known.2.won record (won ▸ rfl)
    | error error =>
      dsimp only
      split
      · exact triple_adoptClaim.weaken (fun world known => ⟨known.1, known.2.raised error rfl⟩)
      · exact triple_fails
  cases result with
  | ok found =>
    refine triple_ret fun world known value same record won => ?_
    cases same
    exact ⟨owner, known found rfl record won⟩
  | error error =>
    dsimp only
    split
    · refine triple_ret fun world known value same record won => ?_
      cases same
      cases won
    · exact triple_fails

end Claims

end Aep.WorkflowScheduler
