import Aep.EvaluationSuites.Discipline

namespace Aep.EvaluationSuites

open RuntimeStore Machine.Discipline

variable {platform : Platform} {plan : Plan} {thread : Nat} {owner : String}

section Facts

def Mine (thread : Nat) (owner : String) (world : World) : Prop := world.issued owner = some thread

def Knows (plan : Plan) (thread : Nat) (owner : String) (results : List Record) (world : World) : Prop :=
  Mine thread owner world ∧ (leaseOwner plan world.store = some owner →
    ∃ record, stored plan world = some record ∧ Holds record results)

theorem persistent_mine : (discipline platform plan).Persistent thread (Mine thread owner) where
  rely mine rely := rely.issued _ _ mine
  exec {world _ _ _} _ _ executed mine := by
    cases executed with
    | uuid4 token fresh =>
      change Function.update world.issued token (some thread) owner = some thread
      by_cases same : owner = token
      · rw [same, Function.update_self]
      · rw [Function.update_of_ne same]
        exact mine
    | acquireLease key ownerId now expiresAt granted store returned =>
      change (World.acquired _ thread granted).issued owner = some thread
      unfold World.acquired
      split <;> exact mine
    | _ => exact mine

theorem Knows.rely {results : List Record} {world next : World} (knows : Knows plan thread owner results world)
    (rely : Rely plan thread world next) : Knows plan thread owner results next := by
  refine ⟨rely.issued _ _ knows.1, fun owns => ?_⟩
  obtain ⟨owned, same⟩ := rely.frozen owner knows.1 owns
  rw [same]
  exact knows.2 owned

end Facts

section Cases

variable {results : List Record} {post : Except PyError Record → World → Prop}

def Quiet : Effect → Prop
  | .clock | .leaseLost | .replay .. => True
  | _ => False

theorem triple_quiet {α : Type} {effect : Effect} {next : effect.Answer → Prog α} {post : Except PyError α → World → Prop}
    (quiet : Quiet effect)
    (rest : ∀ answer, (discipline platform plan).Triple thread (Knows plan thread owner results) (next answer) post) :
    (discipline platform plan).Triple thread (Knows plan thread owner results) (.call effect next) post := by
  refine triple_call (fun _ => Knows plan thread owner results) (fun _ _ knows rely => Knows.rely knows rely) ?_ ?_ rest
  · intro world _ _
    cases effect <;> first | exact trivial | exact quiet.elim
  · intro world answer next _ knows executed _
    cases executed <;> first | exact knows | exact quiet.elim

theorem runCase_triple (historicalRunner : Bool) (case : Case) :
    (discipline platform plan).Triple thread (Knows plan thread owner results) (runCase plan historicalRunner case)
      fun _ => Knows plan thread owner results := by
  unfold runCase
  cases item case.fields "kind" with
  | error error => exact triple_ret fun _ knows => knows
  | ok kind =>
    simp only
    split
    · exact triple_ret fun _ knows => knows
    · unfold runHistorical
      split
      · refine triple_quiet trivial fun answer => ?_
        cases answer <;> exact triple_ret fun _ knows => knows
      · exact triple_ret fun _ knows => knows

theorem orderJson_split {done rest : List Case} {case : Case} (cases : plan.cases = done ++ case :: rest) :
    orderJson plan = (done.map fun case => Json.str case.id) ++ .str case.id :: rest.map fun case => .str case.id := by
  simp [orderJson, Plan.caseOrder, cases, Function.comp_def]

theorem mem_completed_iff (distinct : plan.caseOrder.Nodup) {done rest : List Case} {case : Case}
    (cases : plan.cases = done ++ case :: rest) {n : Nat} :
    .str case.id ∈ (orderJson plan).take n ↔ done.length < n := by
  have fresh : Json.str case.id ∉ done.map fun case => Json.str case.id := by
    have distinct' := distinct
    simp only [Plan.caseOrder, cases, List.map_append, List.map_cons] at distinct'
    intro member
    obtain ⟨earlier, there, same⟩ := List.mem_map.mp member
    exact (List.nodup_append.mp distinct').2.2 _ (List.mem_map_of_mem there) _ List.mem_cons_self (Json.str.inj same)
  rw [orderJson_split cases, List.take_append, List.mem_append, List.length_map]
  constructor
  · rintro (early | here)
    · exact absurd (List.mem_of_mem_take early) fresh
    · by_contra late
      rw [Nat.sub_eq_zero_of_le (by omega)] at here
      cases here
  · intro later
    obtain ⟨k, rest⟩ := Nat.exists_eq_add_of_lt later
    have split : n - done.length = k + 1 := by omega
    rw [split]
    exact .inr List.mem_cons_self

theorem ordered_snoc (ordered : Ordered plan results) {done rest : List Case} {case : Case}
    (cases : plan.cases = done ++ case :: rest) (length : results.length = done.length) {new : Record}
    (named : new.field "caseId" = .str case.id) : Ordered plan (results ++ [new]) := by
  unfold Ordered caseIds at ordered ⊢
  rw [List.map_append, ordered, List.length_append, List.length_singleton, List.map_singleton, named]
  have taken : (done.map fun case => Json.str case.id).take (done.length + 1) = done.map fun case => .str case.id :=
    List.take_of_length_le (by simp)
  rw [orderJson_split cases, length]
  simp [List.take_append, taken]

theorem checkpoint_triple {new : Record} (ordered : Ordered plan (results ++ [new])) (completedAt : String) :
    (discipline platform plan).Triple thread (Knows plan thread owner results)
      (checkpoint plan owner ((results ++ [new]).map .obj) completedAt)
      fun result world => ∀ record, result = .ok record → Knows plan thread owner (results ++ [new]) world := by
  have permitted (world : World) (knows : Knows plan thread owner results world) :
      Permitted platform plan thread world (.updateStatusWithLease plan.suiteId "RUNNING" plan.leaseKey owner completedAt
        [("caseResults", .arr ((results ++ [new]).map .obj))]) := by
    refine ⟨rfl, rfl, knows.1, fun owns => ?_⟩
    obtain ⟨record, run, holds⟩ := knows.2 owns
    exact ⟨record, results, run, holds, .checkpoint new rfl ordered rfl⟩
  refine triple_call (fun answer world => ∀ record, answer = .ok record → Knows plan thread owner (results ++ [new]) world)
    (fun _ _ knows rely => Knows.rely knows rely) (fun world _ knows => permitted world knows) ?_ ?_
  · intro world answer next inv knows executed _ record returned
    cases executed with
    | updateStatusWithLease _ _ _ _ _ clock _ =>
      rcases update_step inv (permitted world knows) with ⟨-, error, failed⟩ | updated
      · cases failed.symm.trans returned
      · obtain ⟨-, old, earlier, now, -, -, -, -, -, after, -⟩ := updated
        refine ⟨knows.1, fun _ => ⟨_, ?_, holds_checkpoint old (results ++ [new]) "RUNNING" now⟩⟩
        rw [after]
        exact stored_put world _
  · intro answer
    refine triple_liftExcept fun world known record returned => ?_
    cases answer with
    | error error => cases returned
    | ok value => exact known value rfl

theorem runCases_triple (historicalRunner : Bool) (distinct : plan.caseOrder.Nodup) {n : Nat}
    (within : n ≤ plan.cases.length) {rest done : List Case} {results : List Record}
    (cases : plan.cases = done ++ rest) (ordered : Ordered plan results) (length : results.length = max n done.length) :
    (discipline platform plan).Triple thread (Knows plan thread owner results)
      (runCases plan historicalRunner owner ((orderJson plan).take n) rest (results.map .obj))
      fun result world => ∀ final, result = .ok final → ∃ finals : List Record, final = finals.map .obj ∧
        finals.length = plan.cases.length ∧ Ordered plan finals ∧ Knows plan thread owner finals world := by
  induction rest generalizing done results with
  | nil =>
    rw [List.append_nil] at cases
    refine triple_ret fun world knows final returned => ?_
    cases returned
    refine ⟨results, rfl, ?_, ordered, knows⟩
    rw [length, cases]
    rw [cases] at within
    exact max_eq_right within
  | cons case rest ih =>
    have further : plan.cases = (done ++ [case]) ++ rest := by simp [cases]
    unfold runCases
    by_cases completed : .str case.id ∈ (orderJson plan).take n
    · rw [if_pos completed]
      have before := (mem_completed_iff distinct cases).mp completed
      refine ih further ordered ?_
      rw [length, List.length_append, List.length_singleton]
      omega
    · rw [if_neg completed]
      have before : ¬done.length < n := fun early => completed ((mem_completed_iff distinct cases).mpr early)
      have position : results.length = done.length := by omega
      refine triple_quiet trivial fun lost => ?_
      cases lost with
      | true => exact triple_raise fun _ _ _ returned => by cases returned
      | false =>
        refine triple_quiet trivial fun startedAt => ?_
        change (discipline platform plan).Triple thread _ (runCase plan historicalRunner case >>= _) _
        refine Triple.bind (runCase_triple historicalRunner case) (fun outcome => ?_) fun error _ _ _ returned => by
          cases returned
        cases item case.fields "kind" with
        | error error => exact triple_raise fun _ _ _ returned => by cases returned
        | ok kind =>
          refine triple_quiet trivial fun completedAt => ?_
          have extended := ordered_snoc ordered cases position
            (show (caseRecord case kind outcome startedAt completedAt).field "caseId" = .str case.id from rfl)
          have appended : results.map Json.obj ++ [.obj (caseRecord case kind outcome startedAt completedAt)] =
              (results ++ [caseRecord case kind outcome startedAt completedAt]).map .obj := by
            simp
          change (discipline platform plan).Triple thread _ (checkpoint plan owner _ completedAt >>= _) _
          rw [appended]
          refine Triple.bind (checkpoint_triple extended completedAt) (fun record => ?_) fun error _ _ _ returned => by
            cases returned
          refine Triple.mono (ih further extended ?_) (fun world known => known record rfl) fun _ _ ended => ended
          simp only [List.length_append, List.length_singleton]
          omega

end Cases

section Run

variable {results : List Record}

theorem ordered_length (ordered : Ordered plan results) : results.length ≤ plan.cases.length := by
  have lengths := congrArg List.length ordered
  simp only [caseIds, List.length_map, List.length_take, orderJson, Plan.caseOrder] at lengths
  omega

theorem iterate_results {record : Record} (holds : Holds record results) :
    iterate (itemOr record "caseResults" (.arr [])) = .ok (results.map .obj) := by
  have present : record.get? "caseResults" = some (.arr (results.map .obj)) := Dict.get?_of_field holds nofun
  unfold itemOr
  rw [present]
  rfl

theorem caseIdsOf_results (ordered : Ordered plan results) :
    (results.map Json.obj).mapM caseIdOf = .ok ((orderJson plan).take results.length) := by
  have named : ∀ result ∈ results, caseIdOf (.obj result) = .ok (result.field "caseId") := by
    intro result member
    have listed : result.field "caseId" ∈ caseIds results := List.mem_map_of_mem member
    rw [ordered] at listed
    obtain ⟨id, -, same⟩ := List.mem_map.mp (List.mem_of_mem_take listed)
    have present := Dict.get?_of_field same.symm nofun
    simp [caseIdOf, WorkflowScheduler.asDict, Json.asRecord?, WorkflowScheduler.item, present, ← same]
  rw [← ordered]
  clear ordered
  induction results with
  | nil => rfl
  | cons result rest ih =>
    rw [List.map_cons, List.mapM_cons, named result List.mem_cons_self, Result.ok_bind,
      ih fun other member => named other (List.mem_cons_of_mem _ member)]
    rfl

def Read (plan : Plan) (thread : Nat) (owner : String) (record : Record) (world : World) : Prop :=
  Mine thread owner world ∧ (leaseOwner plan world.store = some owner → stored plan world = some record)

theorem keeps_finish (all : results.length = plan.cases.length) :
    (discipline platform plan).Keeps thread (Knows plan thread owner results) (do
      let (aggregate, finalStatus) ← Prog.check (conclusion platform plan (results.map .obj))
      let finalizedAt ← Prog.clock
      updateRun plan owner finalStatus finalizedAt "evaluation suite execution lease was lost before finalization"
        [("aggregate", .obj aggregate)]) := by
  cases concluded : conclusion platform plan (results.map .obj) with
  | error error => exact keeps_raise
  | ok conclusion =>
    obtain ⟨aggregate, status⟩ := conclusion
    refine triple_quiet trivial fun finalizedAt => ?_
    refine triple_call (fun _ _ => True) (fun _ _ knows rely => Knows.rely knows rely) ?_ (fun _ _ _ _ _ _ _ => trivial)
      fun _ => keeps_liftExcept
    intro world _ knows
    refine ⟨rfl, rfl, knows.1, fun owns => ?_⟩
    obtain ⟨record, run, holds⟩ := knows.2 owns
    exact ⟨record, results, run, holds, .finish aggregate concluded (all.trans (List.length_map _).symm) rfl⟩

theorem keeps_runClaimedSuite (historicalRunner : Bool) (distinct : plan.caseOrder.Nodup) {record : Record}
    (sound : Sound platform plan record) :
    (discipline platform plan).Keeps thread (Read plan thread owner record)
      (runClaimedSuite platform plan historicalRunner owner record) := by
  obtain ⟨results, holds, ordered, -⟩ := sound.results
  unfold runClaimedSuite
  rw [iterate_results holds]
  change (discipline platform plan).Keeps thread _
    (Prog.check ((results.map Json.obj).mapM caseIdOf) >>= _)
  rw [caseIdsOf_results ordered]
  change (discipline platform plan).Keeps thread _ (runCases plan historicalRunner owner _ plan.cases _ >>= _)
  have whole : plan.cases = [] ++ plan.cases := rfl
  refine Keeps.mono (Triple.bind (runCases_triple historicalRunner distinct (ordered_length ordered) whole ordered
    (max_eq_left (Nat.zero_le _)).symm) (fun finals => ?_) fun _ _ _ => trivial) fun world read =>
    ⟨read.1, fun owns => ⟨record, read.2 owns, holds⟩⟩
  intro world known
  obtain ⟨final, rfl, all, -, knows⟩ := known finals rfl
  exact keeps_finish all world knows

theorem keeps_release : (discipline platform plan).Keeps thread (Mine thread owner)
    (Prog.releaseLease plan.leaseKey owner) :=
  triple_call (fun _ _ => True) (fun _ _ mine rely => rely.issued _ _ mine) (fun _ _ mine => ⟨rfl, mine⟩)
    (fun _ _ _ _ _ _ _ => trivial) fun _ => keeps_ret

theorem keeps_afterAcquire (historicalRunner : Bool) (distinct : plan.caseOrder.Nodup) (latest : Option Record)
    (sound : ∀ record, latest = some record → Sound platform plan record) :
    (discipline platform plan).Keeps thread
      (fun world => Mine thread owner world ∧ (leaseOwner plan world.store = some owner → stored plan world = latest))
      (afterAcquire platform plan historicalRunner owner latest) := by
  cases latest with
  | none =>
    exact (Keeps.bind persistent_mine keeps_release fun _ => keeps_raise).mono fun _ known => known.1
  | some record =>
    change (discipline platform plan).Keeps thread _
      (if isFinished record then pure record else runLeased platform plan historicalRunner owner record)
    split
    · exact keeps_ret
    · have claimed : (discipline platform plan).Keeps thread (Read plan thread owner record) _ :=
        keeps_runClaimedSuite historicalRunner distinct (sound record rfl)
      have first : (discipline platform plan).Triple thread (Read plan thread owner record)
          (Program.attempt (runClaimedSuite platform plan historicalRunner owner record) : Prog _)
          fun _ => Mine thread owner :=
        (Triple.frame persistent_mine (Keeps.attempt claimed)).mono (fun _ read => ⟨read.1, read⟩)
          fun _ _ ended => ended.1
      exact Triple.bind first (fun result => Keeps.bind persistent_mine keeps_release fun _ => keeps_liftExcept)
        fun _ _ _ => trivial

theorem keeps_acquire (historicalRunner : Bool) (distinct : plan.caseOrder.Nodup) (started expiry : String) :
    (discipline platform plan).Keeps thread (fun world => Begun plan world ∧ Mine thread owner world) (do
      let acquired ← Prog.acquireLease plan.leaseKey owner started expiry
      if acquired then do
        let latest ← Prog.get plan.suiteId
        afterAcquire platform plan historicalRunner owner latest
      else Prog.fail (suiteError "evaluation suite is already running")) := by
  have permitted (world : World) (known : Begun plan world ∧ Mine thread owner world) :
      (discipline platform plan).permitted thread world (.acquireLease plan.leaseKey owner started expiry) :=
    ⟨rfl, known.2, known.1⟩
  refine triple_call (fun _ => Mine thread owner)
    (fun _ _ known rely => ⟨rely.begun known.1, rely.issued _ _ known.2⟩) (fun world _ known => permitted world known) ?_ ?_
  · intro world acquired next inv known executed _
    exact persistent_mine.exec inv (permitted world known) executed known.2
  · intro acquired
    cases acquired with
    | false => exact keeps_raise
    | true =>
      refine triple_call (fun latest world => (∀ record, latest = some record → Sound platform plan record) ∧
          Mine thread owner world ∧ (leaseOwner plan world.store = some owner → stored plan world = latest))
        (fun _ _ mine rely => rely.issued _ _ mine) (fun _ _ _ => trivial) ?_ ?_
      · intro world latest next inv mine executed _
        cases executed
        exact ⟨inv.sound, mine, fun _ => rfl⟩
      · rintro latest world ⟨sound, known⟩
        exact keeps_afterAcquire historicalRunner distinct latest sound world known

theorem keeps_runPlan (historicalRunner : Bool) (distinct : plan.caseOrder.Nodup) :
    (discipline platform plan).Keeps thread (fun _ => True) (runPlan platform plan historicalRunner) := by
  refine triple_call (fun _ _ => True) (fun _ _ _ _ => trivial) (fun _ _ _ => trivial) (fun _ _ _ _ _ _ _ => trivial)
    fun started => ?_
  refine triple_call (fun answer world => ∀ record, answer = .ok record → Begun plan world) (fun _ _ _ _ => trivial)
    (fun _ _ _ => ⟨⟨started, rfl⟩, rfl⟩) ?_ fun answer => ?_
  · intro world answer next inv _ executed _ record _
    cases executed
    rcases create_step inv started with ⟨same, begun⟩ | ⟨-, added, -⟩
    · rw [same]
      exact begun
    · rw [Begun, World.move, added.keys, if_pos rfl]
      exact Option.some_ne_none _
  · cases answer with
    | error error => exact keeps_raise
    | ok record =>
      change (discipline platform plan).Triple thread _ (if isFinished record then pure record else _) _
      split
      · exact keeps_ret
      · refine triple_call (fun token world => Begun plan world ∧ Mine thread token world)
          (fun _ _ begun rely => fun record same => rely.begun (begun record same)) (fun _ _ _ => trivial) ?_ fun token => ?_
        · intro world token next _ begun executed _
          cases executed
          exact ⟨begun record rfl, Function.update_self ..⟩
        · cases platform.leaseExpiry started with
          | error error => exact keeps_raise
          | ok expiry => exact keeps_acquire historicalRunner distinct started expiry

end Run

end Aep.EvaluationSuites

namespace Aep.EvaluationSuites

open RuntimeStore

variable {platform : Platform} {plan : Plan}

section Conclusion

variable {results : List Record} {aggregate : Record} {status : String}

theorem mapM_asDict (results : List Record) : (results.map Json.obj).mapM asDict = .ok results := by
  induction results with
  | nil => rfl
  | cons result rest ih =>
    rw [List.map_cons, List.mapM_cons, ih]
    rfl

theorem allPassed_ok {passed : Bool} (found : allPassed (results.map .obj) = .ok passed) :
    passed = true ↔ ∀ result ∈ results, result.field "outcome" = .str "PASS" := by
  induction results with
  | nil =>
    cases found
    simp
  | cons result rest ih =>
    simp only [List.map_cons, allPassed, Result.bind_eq_ok] at found
    obtain ⟨fields, isObject, outcome, present, found⟩ := found
    cases isObject
    have read : result.field "outcome" = outcome := by
      unfold WorkflowScheduler.item at present
      cases lookup : result.get? "outcome" with
      | none => simp [lookup] at present
      | some value =>
        simp only [lookup, Except.ok.injEq] at present
        rw [Dict.field_of_get? lookup, present]
    split at found
    · rename_i passing
      rw [ih found]
      simp [read, Json.pyEq_str.mp passing]
    · rename_i failing
      cases found
      simp only [Bool.false_eq_true, List.forall_mem_cons, false_iff, not_and]
      intro passing
      rw [read] at passing
      exact absurd (Json.pyEq_str.mpr passing) failing

theorem conclusion_ok (concluded : conclusion platform plan (results.map .obj) = .ok (aggregate, status)) :
    (∃ metrics, configuredMetrics plan.spec = .ok metrics ∧ aggregateResults platform results metrics = .ok aggregate) ∧
      (status = "SUCCEEDED" ↔ ∀ result ∈ results, result.field "outcome" = .str "PASS") := by
  simp only [conclusion, Result.bind_eq_ok, Result.pure_eq_ok, mapM_asDict, Except.ok.injEq, exists_eq_left',
    Prod.mk.injEq] at concluded
  obtain ⟨metrics, configured, _, aggregated, passed, verdict, rfl, rfl⟩ := concluded
  refine ⟨⟨metrics, configured, aggregated⟩, ?_⟩
  rw [← allPassed_ok verdict]
  cases passed <;> simp

end Conclusion

section Plans

theorem planOf_distinct {suite : Record} (planned : planOf platform suite = .ok plan) : plan.caseOrder.Nodup := by
  simp only [planOf, validateSuite, Result.bind_eq_ok, Result.pure_eq_ok, Result.raiseIf_eq_ok, not_not] at planned
  obtain ⟨⟨spec, cases⟩, validated, _, -, _, -, _, -, _, -, _, -, _, -, rfl⟩ := planned
  obtain ⟨_, -, _, -, _, -, _, -, _, -, _, -, _, -, _, -, _, -, _, -, _, -, _, distinct, same⟩ := validated
  cases same
  refine List.Perm.nodup ?_ distinct
  exact (List.perm_insertionSort _ _).symm.map _

end Plans

section Runs

/-- What may become of the record of a run: more results, and no change once it is finished. -/
structure Continues (old new : Record) : Prop where
  results : ∃ results more, Holds old results ∧ Holds new (results ++ more)
  finished : isTerminal (old.field "status") = true → new = old

variable {old middle new : Record} {world next : World} {thread : Nat}

theorem Continues.refl (sound : Sound platform plan old) : Continues old old := by
  obtain ⟨results, holds, -⟩ := sound.results
  exact ⟨⟨results, [], holds, by simpa using holds⟩, fun _ => rfl⟩

theorem Continues.trans (first : Continues old middle) (second : Continues middle new) : Continues old new := by
  obtain ⟨⟨results, more, holds, extended⟩, finished⟩ := first
  obtain ⟨⟨between, further, holdsBetween, extendedAgain⟩, finishedAgain⟩ := second
  obtain rfl := extended.unique holdsBetween
  refine ⟨⟨results, more ++ further, holds, ?_⟩, fun done => ?_⟩
  · rw [← List.append_assoc]
    exact extendedAgain
  · have same := finished done
    subst same
    exact finishedAgain done

def ContinuesIn (plan : Plan) (record : Record) (world : World) : Prop :=
  ∃ new, stored plan world = some new ∧ Continues record new

theorem Inv.continues_exec {effect : Effect} {answer : effect.Answer} (inv : Inv platform plan world)
    (permitted : Permitted platform plan thread world effect) (executed : World.Exec thread world effect answer next)
    (found : stored plan world = some old) : ContinuesIn plan old next := by
  rcases exec_stored inv permitted executed with same | absent | ⟨-, status, owner, changes, outcome, updated⟩
  · exact ⟨old, same.trans found, .refl (inv.sound old found)⟩
  · cases absent.symm.trans found
  · obtain ⟨-, record, results, now, run, holds, advance, running, -, after, -⟩ := updated
    obtain rfl := Option.some.inj (found.symm.trans run)
    have follows : ∃ more, Holds (withStatus old changes status now) (results ++ more) :=
      (advance.sound (inv.sound old found) holds).2
    obtain ⟨more, extended⟩ := follows
    refine ⟨_, ?_, ⟨results, more, holds, extended⟩, fun done => ?_⟩
    · unfold stored
      rw [after]
      simp
    · rw [running] at done
      cases done

/-- What holds of the run of a suite in a state, of which the second is a later one. -/
structure RunOnce (platform : Platform) (plan : Plan) (config later : Machine.Config Effects World PyError Record) :
    Prop where
  ordered : ∀ record, stored plan config.shared = some record → ∃ results, Holds record results ∧
    record.field "caseOrder" = .arr (orderJson plan) ∧ caseIds results <+: orderJson plan ∧ (caseIds results).Nodup
  kept : ∀ record results, stored plan config.shared = some record → Holds record results →
    ∃ new more, stored plan later.shared = some new ∧ Holds new (results ++ more)
  finished : ∀ record, stored plan config.shared = some record → isTerminal (record.field "status") = true →
    stored plan later.shared = some record ∧ ∃ results metrics aggregate, Holds record results ∧
      caseIds results = orderJson plan ∧ configuredMetrics plan.spec = .ok metrics ∧
      aggregateResults platform results metrics = .ok aggregate ∧ record.field "aggregate" = .obj aggregate ∧
      (record.field "status" = .str "SUCCEEDED" ↔ ∀ result ∈ results, result.field "outcome" = .str "PASS")
  fenced : ∀ thread effect rest answer next, config.threads thread = .call effect rest →
    World.Exec thread config.shared effect answer next → stored plan config.shared ≠ none →
    stored plan next ≠ stored plan config.shared → config.shared.holder = some thread

theorem inv_unstarted {store : Store} (unstarted : Unstarted plan store) :
    Inv platform plan ⟨store, fun _ => none, none⟩ where
  wellFormed := unstarted.wellFormed
  keyed id found := by cases unstarted.unkeyed.symm.trans found
  absent _ := unstarted.absent
  sound record found := by cases unstarted.absent.symm.trans found
  holder owner owns := by
    rw [leaseOwner, unstarted.free] at owns
    cases owns
  leased owns := by
    rw [leaseOwner, unstarted.free] at owns
    exact absurd rfl owns

theorem sound_finished {record : Record} (sound : Sound platform plan record)
    (done : isTerminal (record.field "status") = true) : ∃ results metrics aggregate, Holds record results ∧
      caseIds results = orderJson plan ∧ configuredMetrics plan.spec = .ok metrics ∧
      aggregateResults platform results metrics = .ok aggregate ∧ record.field "aggregate" = .obj aggregate ∧
      (record.field "status" = .str "SUCCEEDED" ↔ ∀ result ∈ results, result.field "outcome" = .str "PASS") := by
  obtain ⟨results, holds, ordered, running | ⟨aggregate, status, concluded, statusOf, aggregated, all⟩⟩ := sound.results
  · rw [running] at done
    cases done
  · obtain ⟨⟨metrics, configured, same⟩, verdict⟩ := conclusion_ok concluded
    refine ⟨results, metrics, aggregate, holds, ?_, configured, same, aggregated, ?_⟩
    · rw [ordered, all]
      exact List.take_of_length_le (by simp [orderJson])
    · rw [statusOf, Json.str.injEq]
      exact verdict

/-- Whatever calls of the runner do for one suite, its results stay a growing prefix of the case order, it finishes once
    with the aggregate of all of them, and only the call that acquired the lease last changes it. -/
theorem suite_runs_once {suite : Record} (planned : planOf platform suite = .ok plan) (historicalRunners : Nat → Bool)
    {store : Store} (unstarted : Unstarted plan store) {config later : Machine.Config Effects World PyError Record}
    (reached : (machine plan).Reaches (fun _ _ _ => True) (start platform suite historicalRunners store) config)
    (continued : (machine plan).Reaches (fun _ _ _ => True) config later) : RunOnce platform plan config later := by
  have distinct := planOf_distinct planned
  have keeps (i : Nat) : (discipline platform plan).Keeps i (fun _ => True)
      ((start platform suite historicalRunners store).threads i) := by
    change (discipline platform plan).Keeps i _ (Prog.check (planOf platform suite) >>= _)
    rw [planned]
    exact keeps_runPlan (historicalRunners i) distinct
  have begins := Machine.Discipline.holds_of_keeps (inv_unstarted unstarted) keeps
  have stable (i : Nat) :
      (discipline platform plan).Stable i fun (_ : World) (_ : Except PyError Record) => True :=
    fun _ _ _ _ _ => trivial
  have holds := begins.reaches stable reached
  have inv : Inv platform plan config.shared := holds.1
  have follows {record : Record} (found : stored plan config.shared = some record) :
      ContinuesIn plan record later.shared := by
    refine Machine.Discipline.Holds.invariant stable holds ⟨record, found, .refl (inv.sound record found)⟩ ?_ ?_ continued
    · rintro i world effect answer next inv permitted - executed ⟨old, there, before⟩
      obtain ⟨new, after, continues⟩ := inv.continues_exec permitted executed there
      exact ⟨new, after, before.trans continues⟩
    · rintro world next inv ⟨-, -, moved⟩ ⟨old, there, before⟩
      exact ⟨old, moved.run.trans there, before⟩
  constructor
  · intro record found
    obtain ⟨results, held, ordered, -⟩ := (inv.sound record found).results
    have nodup : (orderJson plan).Nodup := distinct.map fun _ _ same => Json.str.inj same
    refine ⟨results, held, (inv.sound record found).order, ?_, ?_⟩
    · rw [ordered]
      exact List.take_prefix _ _
    · rw [ordered]
      exact (List.take_sublist _ _).nodup nodup
  · intro record results found held
    obtain ⟨new, foundNew, ⟨earlier, more, heldEarlier, extended⟩, -⟩ := follows found
    obtain rfl := held.unique heldEarlier
    exact ⟨new, more, foundNew, extended⟩
  · intro record found done
    obtain ⟨new, foundNew, -, same⟩ := follows found
    rw [same done] at foundNew
    exact ⟨foundNew, sound_finished (inv.sound record found) done⟩
  · intro thread effect rest answer next running executed there changed
    have permitted : Permitted platform plan thread config.shared effect := holds.permitted running
    rcases exec_stored inv permitted executed with same | absent | ⟨held, -⟩
    · exact absurd same changed
    · exact absurd absent there
    · exact held

end Runs

section Sample

def sampleTime (thread : Nat) : String := if thread = 0 then "2026-01-01T00:00:00Z" else "2026-01-01T00:01:00Z"

def samplePlatform : Platform where
  violation _ := none
  digest _ := "0123456789abcdef0123456789abcdef"
  isResourceName _ := true
  isVersion _ := true
  leaseExpiry now := .ok (if now = sampleTime 0 then "2026-01-01T00:00:45Z" else "2026-01-01T00:01:45Z")
  latency _ _ := some 0
  add total _ := .ok total
  mean _ := .ok (.float 1)

def sampleRef (kind : String) : Json :=
  .obj [("kind", .str kind), ("name", .str "analyze"), ("version", .str "1.0.0")]

def sampleCase (id : String) : Json :=
  .obj [("id", .str id), ("kind", .str "fixture"), ("expectedOutcome", .str "PASS"), ("sourceRevision", .str "abc"),
    ("inputIdentity", .str "input")]

def sampleSuite : Record := [
  ("metadata", .obj [("name", .str "suite"), ("version", .str "1.0.0")]),
  ("spec", .obj [("workflowRef", sampleRef "Workflow"), ("evaluationRefs", .arr [sampleRef "Evaluation"]),
    ("cases", .arr [sampleCase "second", sampleCase "first"])])]

def respond (thread : Nat) (world : World) : (effect : Effect) → effect.Answer × World
  | .clock => (sampleTime thread, world)
  | .uuid4 => (sampleTime thread, { world with issued := Function.update world.issued (sampleTime thread) (some thread) })
  | .leaseLost => (false, world)
  | .replay _ _ => (.error "no workflow runtime", world)
  | .create record key =>
    let (answer, store) := RuntimeStore.create (.obj record) key world.store
    (answer, world.move store)
  | .acquireLease key ownerId now expiresAt =>
    match RuntimeStore.acquireLease key ownerId now expiresAt world.store with
    | (.ok granted, store) => (granted, (world.move store).acquired thread granted)
    | (.error _, _) => (false, world)
  | .get objectId => (world.store.get objectId, world)
  | .updateStatusWithLease objectId status leaseKey ownerId now changes =>
    let (answer, store) := RuntimeStore.updateStatusWithLease objectId status leaseKey ownerId now (some "RUNNING")
      (some now) changes now world.store
    (answer, world.move store)
  | .releaseLease key ownerId =>
    match RuntimeStore.releaseLease key ownerId world.store with
    | (.ok released, store) => (released, world.move store)
    | (.error _, _) => (false, world)

/-- The calls that are answered as the world may answer them: a token is fresh, and a lease call returns. -/
def Ready (thread : Nat) (world : World) : Effect → Prop
  | .uuid4 => world.issued (sampleTime thread) = none
  | .acquireLease key ownerId now expiresAt =>
    (RuntimeStore.acquireLease key ownerId now expiresAt world.store).1.toOption ≠ none
  | .releaseLease key ownerId => (RuntimeStore.releaseLease key ownerId world.store).1.toOption ≠ none
  | _ => True

instance (thread : Nat) (world : World) : (effect : Effect) → Decidable (Ready thread world effect)
  | .uuid4 => inferInstanceAs (Decidable (_ = _))
  | .acquireLease .. => inferInstanceAs (Decidable (_ ≠ _))
  | .releaseLease .. => inferInstanceAs (Decidable (_ ≠ _))
  | .clock | .leaseLost | .replay .. | .create .. | .get _ | .updateStatusWithLease .. => .isTrue trivial

theorem exec_respond {thread : Nat} {world : World} {effect : Effect} (ready : Ready thread world effect) :
    World.Exec thread world effect (respond thread world effect).1 (respond thread world effect).2 := by
  cases effect with
  | acquireLease key ownerId now expiresAt =>
    rcases ran : RuntimeStore.acquireLease key ownerId now expiresAt world.store with ⟨error | granted, store⟩
    · simp only [Ready, ran] at ready
      exact absurd rfl ready
    · simp only [respond, ran]
      exact .acquireLease key ownerId now expiresAt granted store ran
  | releaseLease key ownerId =>
    rcases ran : RuntimeStore.releaseLease key ownerId world.store with ⟨error | released, store⟩
    · simp only [Ready, ran] at ready
      exact absurd rfl ready
    · simp only [respond, ran]
      exact .releaseLease key ownerId released store ran
  | uuid4 => exact .uuid4 _ ready
  | clock => exact .clock _
  | leaseLost => exact .leaseLost _
  | replay case spec => exact .replay case spec _
  | create record key => exact .create record key
  | get objectId => exact .get objectId
  | updateStatusWithLease objectId status leaseKey ownerId now changes =>
    exact .updateStatusWithLease objectId status leaseKey ownerId now now changes

def sampleRun (thread steps : Nat) (world : World) : World × Prog Record :=
  Machine.advance (respond thread) steps world (runSuite samplePlatform sampleSuite false)

/-- A first call records the first case, and its lease expires before it records the second one. -/
def expiredWorld : World := (sampleRun 0 12 ⟨{}, fun _ => none, none⟩).1

def samplePlan : Plan where
  digest := samplePlatform.digest sampleSuite
  spec := [("workflowRef", sampleRef "Workflow"), ("evaluationRefs", .arr [sampleRef "Evaluation"]),
    ("cases", .arr [sampleCase "second", sampleCase "first"])]
  cases := ["first", "second"].map fun id => ⟨id, (sampleCase id).asRecord?.getD []⟩
  name := .str "suite"
  version := .str "1.0.0"
  workflowRef := sampleRef "Workflow"
  evaluationRefs := .arr [sampleRef "Evaluation"]

theorem planOf_sample : planOf samplePlatform sampleSuite = .ok samplePlan := by decide +kernel

theorem sample_reaches {config : Machine.Config Effects World PyError Record} (i steps : Nat) {world : World}
    (shared : config.shared = world) (thread : config.threads i = runSuite samplePlatform sampleSuite false)
    (ready : Machine.MeetsAlong (fun world effect => True ∧ Ready i world effect) (respond i) steps world
      (runSuite samplePlatform sampleSuite false)) :
    ∃ next, (machine samplePlan).Reaches (fun _ _ _ => True) config next ∧
      next.shared = (sampleRun i steps world).1 ∧ ∀ j, j ≠ i → next.threads j = config.threads j := by
  rw [← shared, ← thread] at ready
  have reaches : (machine samplePlan).Reaches (fun _ _ _ => True) config
      ⟨(Machine.advance (respond i) steps config.shared (config.threads i)).1, Function.update config.threads i
        (Machine.advance (respond i) steps config.shared (config.threads i)).2⟩ :=
    Machine.reaches_ready (fun _ _ => exec_respond) steps config ready
  rw [shared, thread] at reaches
  exact ⟨_, reaches, rfl, fun j other => Function.update_of_ne other ..⟩

theorem unstarted_sample : Unstarted samplePlan {} := ⟨Store.wellFormed_empty, rfl, rfl, rfl⟩

theorem suite_runs_once_resumed : ∃ config, (machine samplePlan).Reaches (fun _ _ _ => True)
    (start samplePlatform sampleSuite (fun _ => false) {}) config ∧
      (stored samplePlan config.shared).map (fun record => (record.field "status").text) = some "SUCCEEDED" ∧
      RunOnce samplePlatform samplePlan config config := by
  have begins : (start samplePlatform sampleSuite (fun _ => false) {}).shared = ⟨{}, fun _ => none, none⟩ := rfl
  obtain ⟨expired, first, shared, kept⟩ := sample_reaches 0 12 begins rfl (by decide +kernel)
  have between : expired.shared = expiredWorld := shared
  obtain ⟨config, second, shared, -⟩ := sample_reaches 1 12 between (kept 1 (by decide)) (by decide +kernel)
  have reaches := first.trans second
  have succeeded : (stored samplePlan (sampleRun 1 12 expiredWorld).1).map
      (fun record => (record.field "status").text) = some "SUCCEEDED" := by decide +kernel
  refine ⟨config, reaches, ?_, suite_runs_once planOf_sample _ unstarted_sample reaches .refl⟩
  rw [shared]
  exact succeeded

end Sample

end Aep.EvaluationSuites
