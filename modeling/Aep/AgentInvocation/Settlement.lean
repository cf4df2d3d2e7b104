import Aep.AgentInvocation.Reservations
import Aep.AgentInvocation.Runs
import Aep.ExecutionBudgets.Grants

namespace Aep.AgentInvocation

open RuntimeStore Result Program
open ExecutionBudgets (Ledger)

variable {κ : Type}

def tracked (accounting : Accounting κ) : Rules Effects (Account κ × Prop) where
  may _ _ := True
  next state effect answer after :=
    Account.Step accounting state.1 effect answer after.1 ∧ (after.2 ↔ state.2 ∧ Foreseen effect answer)

theorem tracked_trace {accounting : Accounting κ} {account last : Account κ} {events : List Effects.Event}
    (trace : (Account.rules accounting).Trace account events last) (start : Prop) :
    (tracked accounting).Trace (account, start) events
      (last, start ∧ ∀ event ∈ events, Foreseen event.op event.answer) := by
  induction trace generalizing start with
  | nil account =>
    have same : (start ∧ ∀ event ∈ ([] : List Effects.Event), Foreseen event.op event.answer) = start := by simp
    rw [same]
    exact .nil _
  | @cons account middle last event events first rest ih =>
    have same : (start ∧ ∀ other ∈ event :: events, Foreseen other.op other.answer) =
        ((start ∧ Foreseen event.op event.answer) ∧ ∀ other ∈ events, Foreseen other.op other.answer) := by
      simp [and_assoc]
    rw [same]
    have head : (tracked accounting).next (account, start) event.op event.answer
        (middle, start ∧ Foreseen event.op event.answer) := ⟨first, Iff.rfl⟩
    exact .cons head (ih _)

variable (accounting : Accounting κ)

def Ends (state : Account κ × Prop) (_ : Except PyError Record) : Prop :=
  ∀ before reservation, state.1.admitted = some (before, reservation) →
    (Settled accounting.numerics before state.1 ↔
      state.2 ∧ (state.1.invoked = none → GivesBack accounting.numerics state.1.budget before reservation))

/-- A call that holds its reservation and has not started the adapter. -/
structure Holding (before : Ledger κ) (reservation : ExecutionBudgets.Reservation κ) (account : Account κ) : Prop where
  admitted : account.admitted = some (before, reservation)
  holds : account.budget.reservation = some reservation
  invoked : account.invoked = none
  releases : account.releases = 0
  records : account.records = 0
  positive : 1 ≤ reservation.amount .modelInvocations
  reserved : ∀ scope, (∀ counter, account.ledger.reserved (account.budget.scopeKey scope) counter =
      before.reserved (account.budget.scopeKey scope) counter + reservation.amount counter) ∧
    reservedCost accounting.numerics account.ledger (account.budget.scopeKey scope) =
      accounting.numerics.add (reservedCost accounting.numerics before (account.budget.scopeKey scope))
        reservation.costUsd

/-- A call that has given its reservation back before it started the adapter. -/
structure Returned (before : Ledger κ) (reservation : ExecutionBudgets.Reservation κ) (account : Account κ) : Prop where
  admitted : account.admitted = some (before, reservation)
  invoked : account.invoked = none
  reserved : ∀ scope, (∀ counter, account.ledger.reserved (account.budget.scopeKey scope) counter =
      max 0 (before.reserved (account.budget.scopeKey scope) counter)) ∧
    reservedCost accounting.numerics account.ledger (account.budget.scopeKey scope) =
      accounting.numerics.giveBack (accounting.numerics.add
        (reservedCost accounting.numerics before (account.budget.scopeKey scope)) reservation.costUsd)
        reservation.costUsd

/-- A call whose adapter has answered, and which has not recorded the usage. -/
structure Answered (before : Ledger κ) (reservation : ExecutionBudgets.Reservation κ) (account : Account κ) : Prop where
  admitted : account.admitted = some (before, reservation)
  invoked : ∃ outcome, account.invoked = some outcome ∧ outcome.settles = true
  releases : account.releases = 0
  records : account.records = 0

def Owing (account : Account κ) : Prop :=
  ∀ (foreseen : Prop) (result : Except PyError Record), ¬foreseen → Ends accounting (account, foreseen) result

section Ends

variable {accounting} {before : Ledger κ} {reservation : ExecutionBudgets.Reservation κ} {account : Account κ}
  {foreseen : Prop} {result : Except PyError Record}

theorem Holding.owing (holding : Holding accounting before reservation account) : Owing accounting account := by
  intro foreseen result unforeseen other held admitted
  obtain ⟨rfl, rfl⟩ := Prod.mk.inj (Option.some.inj (holding.admitted.symm.trans admitted))
  have missing : ¬Settled accounting.numerics before account := by
    intro settled
    have same := (settled.unused holding.invoked .workflow).1 .modelInvocations
    rw [(holding.reserved .workflow).1] at same
    have positive := holding.positive
    omega
  simp [missing, unforeseen]

theorem Answered.owing (answered : Answered before reservation account) : Owing accounting account := by
  intro foreseen result unforeseen other held admitted
  obtain ⟨outcome, invoked, settles⟩ := answered.invoked
  have missing : ¬Settled accounting.numerics other account := by
    intro settled
    have once := (settled.used outcome invoked settles).1
    rw [answered.records] at once
    cases once
  simp [missing, unforeseen]

theorem Answered.record (answered : Answered before reservation account) {charge : Charge} {evidence : Record}
    {after : Account κ} (step : Account.Step accounting account (.record charge) (.ok evidence) after)
    (prepared : foreseen) : Ends accounting (after, foreseen) result := by
  obtain ⟨first, invoked, settles⟩ := answered.invoked
  cases step with
  | recorded charge evidence ledger summary reconciled =>
    intro other held _
    have settled : Settled accounting.numerics other
        { account with ledger, budget := account.held none, records := account.records + 1 } := by
      constructor
      · intro unused
        cases invoked.symm.trans unused
      · intro outcome _ _
        exact ⟨congrArg (· + 1) answered.records, answered.releases, rfl⟩
    refine ⟨fun _ => ⟨prepared, ?_⟩, fun _ => settled⟩
    intro unused
    cases invoked.symm.trans unused

theorem ends_of_raised {error : PyError} (invoked : account.invoked = some (.raised error)) (prepared : foreseen) :
    Ends accounting (account, foreseen) result := by
  intro other held _
  have settled : Settled accounting.numerics other account := by
    constructor
    · intro unused
      rw [invoked] at unused
      cases unused
    · intro outcome found settles
      rw [invoked] at found
      cases found
      cases settles
  simp [settled, prepared, invoked]

theorem Returned.ends (returned : Returned accounting before reservation account) (prepared : foreseen) :
    Ends accounting (account, foreseen) result := by
  intro other held admitted
  obtain ⟨rfl, rfl⟩ := Prod.mk.inj (Option.some.inj (returned.admitted.symm.trans admitted))
  have same : SameReserved accounting.numerics account.budget account.ledger before ↔
      GivesBack accounting.numerics account.budget before reservation := by
    apply forall_congr'
    intro scope
    obtain ⟨counters, cost⟩ := returned.reserved scope
    rw [cost]
    apply and_congr_left
    intro _
    apply forall_congr'
    intro counter
    rw [counters]
    omega
  constructor
  · intro settled
    exact ⟨prepared, fun unused => same.mp (settled.unused unused)⟩
  · rintro ⟨-, restorable⟩
    refine ⟨fun unused => same.mpr (restorable unused), ?_⟩
    intro outcome invoked
    rw [returned.invoked] at invoked
    cases invoked

theorem Holding.release (holding : Holding accounting before reservation account) {after : Account κ}
    (step : Account.Step accounting account .release (.ok ()) after) :
    Returned accounting before reservation after := by
  cases step with
  | nothingHeld free =>
    rw [holding.holds] at free
    cases free
  | released other holds =>
    obtain rfl := Option.some.inj (holding.holds.symm.trans holds)
    refine ⟨holding.admitted, holding.invoked, ?_⟩
    intro scope
    have keys : (account.held none).scopeKey scope = account.budget.scopeKey scope := by cases scope <;> rfl
    obtain ⟨counters, cost⟩ := released_reserved accounting.numerics account.budget reservation accounting.started
      account.ledger scope
    obtain ⟨held, heldCost⟩ := holding.reserved scope
    simp only [keys]
    constructor
    · intro counter
      rw [counters, held]
      congr 1
      omega
    · rw [cost, heldCost]

end Ends

section Calls

variable {accounting} {α : Type} {post : Account κ × Prop → Except PyError α → Prop} {account : Account κ}
  {foreseen : Prop}

def Effect.offBudget : Effect → Bool
  | .preflight _ | .release | .record _ | .invoke .. => false
  | _ => true

theorem Account.Step.unchanged {effect : Effect} {answer : effect.Answer} {after : Account κ}
    (step : Account.Step accounting account effect answer after) (off : effect.offBudget = true) : after = account := by
  cases step <;> first | rfl | cases off

theorem sat_offBudget {effect : Effect} {next : effect.Answer → Prog α} (off : effect.offBudget = true)
    (rest : ∀ answer after, (after ↔ foreseen ∧ Foreseen effect answer) →
      Sat (tracked accounting) post (next answer) (account, after)) :
    Sat (tracked accounting) post (.call effect next) (account, foreseen) := by
  refine ⟨trivial, ?_⟩
  rintro answer ⟨after, followed⟩ ⟨step, tracks⟩
  obtain rfl := step.unchanged off
  exact rest answer followed tracks

def Effect.closing : Effect → Bool
  | .get _ | .updateStatus .. => true
  | .emit eventName _ _ attributes => eventName ∉ startEvents && attributes.isNone
  | _ => false

theorem foreseen_closing {effect : Effect} (quiet : effect.closing = true) (answer : effect.Answer) :
    Foreseen effect answer := by
  cases effect with
  | emit eventName record timestamp attributes =>
    simp only [Effect.closing, Bool.and_eq_true, decide_eq_true_eq, Option.isNone_iff_eq_none] at quiet
    simp [Foreseen, quiet]
  | get objectId => trivial
  | updateStatus objectId status updatedAt changes => trivial
  | _ => cases quiet

theorem sat_closing {program : Prog Record} (quiet : Only (fun effect : Effects.Call => Effect.closing effect = true) program)
    (ends : ∀ result, Ends accounting (account, foreseen) result) :
    Sat (tracked accounting) (Ends accounting) program (account, foreseen) := by
  induction program generalizing foreseen with
  | ret value => exact ends _
  | raise error => exact ends _
  | cut => trivial
  | call effect next ih =>
    obtain ⟨quietCall, quietRest⟩ := quiet
    have off : effect.offBudget = true := by
      cases effect <;> first | rfl | cases quietCall
    apply sat_offBudget off
    intro answer after tracks
    have same : after ↔ foreseen := by
      rw [tracks]
      exact and_iff_left (foreseen_closing quietCall answer)
    apply ih answer (quietRest answer)
    intro result
    rw [propext same]
    exact ends result

end Calls

section Coordinator

variable {accounting} {platform : Platform} {request : Request} {prepared : Prepared} {account : Account κ}
  {before : Ledger κ} {reservation : ExecutionBudgets.Reservation κ} {foreseen : Prop}

theorem Owing.sat_check {α : Type} {effect : Effect} {next : α → Prog Record} {read : effect.Answer → Except PyError α}
    (owing : Owing accounting account) (off : effect.offBudget = true)
    (fails : ∀ answer error, read answer = .error error → ¬Foreseen effect answer)
    (rest : ∀ answer value after, read answer = .ok value → (after ↔ foreseen ∧ Foreseen effect answer) →
      Sat (tracked accounting) (Ends accounting) (next value) (account, after)) :
    Sat (tracked accounting) (Ends accounting) (.call effect fun answer => Program.liftExcept (read answer) >>= next)
      (account, foreseen) := by
  apply sat_offBudget off
  intro answer after tracks
  cases given : read answer with
  | error error =>
    apply owing
    intro holds
    exact fails answer error given (tracks.mp holds).2
  | ok value => exact rest answer value after given tracks

theorem Holding.sat_release (holding : Holding accounting before reservation account) (prepared : foreseen)
    (budget : request.budget = true) {next : Unit → Prog Record}
    (rest : ∀ account, Returned accounting before reservation account → ∀ after : Prop, after →
      Sat (tracked accounting) (Ends accounting) (next ()) (account, after)) :
    Sat (tracked accounting) (Ends accounting) (releaseBudget request >>= next) (account, foreseen) := by
  have released : releaseBudget request = Prog.release := if_pos budget
  rw [released]
  refine ⟨trivial, ?_⟩
  rintro answer ⟨after, tracks⟩ ⟨step, followed⟩
  cases answer with
  | error error =>
    have same : after = account := by cases step; rfl
    rw [same]
    apply holding.owing
    intro holds
    exact Bool.false_ne_true (followed.mp holds).2
  | ok done => exact rest after (holding.release step) tracks (followed.mpr ⟨prepared, rfl⟩)

theorem Owing.sat_emit (owing : Owing accounting account) (prepared : foreseen)
    {eventName timestamp : String} {runtimeObject : Record} (starts : eventName ∈ startEvents) {next : Unit → Prog Record}
    (rest : ∀ after : Prop, after → Sat (tracked accounting) (Ends accounting) (next ()) (account, after)) :
    Sat (tracked accounting) (Ends accounting) (emit request eventName runtimeObject timestamp >>= next)
      (account, foreseen) := by
  unfold emit
  split
  · change Sat (tracked accounting) (Ends accounting)
      (.call (Effect.emit eventName runtimeObject timestamp none) fun answer => Program.liftExcept (id answer) >>= next) _
    apply owing.sat_check rfl
    · rintro answer error rfl seen
      exact Bool.false_ne_true (seen (.inl starts))
    · rintro answer value after rfl tracks
      exact rest after (tracks.mpr ⟨prepared, fun _ => rfl⟩)
  · exact rest foreseen prepared

theorem closing_emit {eventName timestamp : String} {runtimeObject : Record} (later : eventName ∉ startEvents) :
    Only (fun effect : Effects.Call => Effect.closing effect = true) (emit request eventName runtimeObject timestamp) := by
  unfold emit
  split
  · refine ⟨?_, fun answer => only_liftExcept _⟩
    simp [Effect.closing, later]
  · trivial

theorem closing_updateStatus (objectId status updatedAt : String) (changes : Record) :
    Only (fun effect : Effects.Call => Effect.closing effect = true)
      (Prog.updateStatus objectId status updatedAt changes) :=
  ⟨rfl, fun _ => only_liftExcept _⟩

theorem closing_finishAgent {status event completedAt : String} {changes : Record} (later : event ∉ startEvents) :
    Only (fun effect : Effects.Call => Effect.closing effect = true)
      (finishAgent platform request status event completedAt changes) := by
  apply only_bind (closing_updateStatus _ _ _ _)
  intro finished
  apply only_bind (only_liftExcept _)
  intro _
  apply only_bind (closing_emit later)
  intro _
  trivial

theorem closing_finishModel {status event completedAt : String} {changes : Record} (later : event ∉ startEvents) :
    Only (fun effect : Effects.Call => Effect.closing effect = true)
      (finishModel platform request status event completedAt changes) := by
  apply only_bind (closing_updateStatus _ _ _ _)
  intro finished
  apply only_bind (only_liftExcept _)
  intro _
  exact closing_emit later

theorem Returned.sat_closing {program : Prog Record} (returned : Returned accounting before reservation account)
    (prepared : foreseen) (quiet : Only (fun effect : Effects.Call => Effect.closing effect = true) program) :
    Sat (tracked accounting) (Ends accounting) program (account, foreseen) :=
  AgentInvocation.sat_closing quiet fun _ => returned.ends prepared

theorem Holding.sat_identityConflict (holding : Holding accounting before reservation account) (known : foreseen)
    (budget : request.budget = true) :
    Sat (tracked accounting) (Ends accounting) (identityConflict platform request) (account, foreseen) := by
  apply holding.sat_release known budget
  intro account returned after holds
  apply returned.sat_closing holds
  apply only_bind (closing_finishAgent (by decide))
  intro _
  trivial

theorem Holding.sat_claimedBefore (holding : Holding accounting before reservation account) (known : foreseen)
    (budget : request.budget = true) (prior : Json) :
    Sat (tracked accounting) (Ends accounting) (claimedBefore request prepared prior) (account, foreseen) := by
  apply holding.sat_release known budget
  intro account returned after holds
  apply returned.sat_closing holds
  split
  · exact ⟨rfl, fun _ => trivial⟩
  · trivial

theorem Owing.sat_completionTime (owing : Owing accounting account) (prepared : foreseen) {next : String → Prog Record}
    (rest : ∀ (time : String) (after : Prop), after →
      Sat (tracked accounting) (Ends accounting) (next time) (account, after)) :
    Sat (tracked accounting) (Ends accounting) (completionTime request >>= next) (account, foreseen) := by
  unfold completionTime
  split
  · change Sat (tracked accounting) (Ends accounting)
      (.call Effect.clock fun answer => Program.liftExcept (id answer) >>= next) _
    apply owing.sat_check rfl
    · rintro answer error rfl seen
      exact Bool.false_ne_true seen
    · rintro answer value after rfl tracks
      exact rest value after (tracks.mpr ⟨prepared, rfl⟩)
  · exact rest _ foreseen prepared

theorem Owing.sat_decisions (owing : Owing accounting account) (prepared : foreseen) {runtimeObject : Record}
    {timestamp : String} (decisions : List (String × Record)) {next : Unit → Prog Record}
    (rest : ∀ after : Prop, after → Sat (tracked accounting) (Ends accounting) (next ()) (account, after)) :
    Sat (tracked accounting) (Ends accounting)
      (Prog.forEach (fun decision => Prog.emit decision.1 runtimeObject timestamp (some decision.2)) decisions >>= next)
      (account, foreseen) := by
  induction decisions generalizing foreseen with
  | nil => exact rest foreseen prepared
  | cons decision others ih =>
    change Sat (tracked accounting) (Ends accounting)
      (.call (Effect.emit decision.1 runtimeObject timestamp (some decision.2)) fun answer =>
        (Program.liftExcept (id answer) >>= fun _ => _) >>= next) _
    apply sat_offBudget rfl
    intro answer after tracks
    cases answer with
    | error error =>
      apply owing
      intro holds
      exact Bool.false_ne_true ((tracks.mp holds).2 (.inr rfl))
    | ok done => exact ih (tracks.mpr ⟨prepared, fun _ => rfl⟩)

theorem Owing.sat_providerDecisions (owing : Owing accounting account) (prepared : foreseen)
    {runtimeObject metadata : Record} {timestamp : String} {next : Unit → Prog Record}
    (rest : ∀ after : Prop, after → Sat (tracked accounting) (Ends accounting) (next ()) (account, after)) :
    Sat (tracked accounting) (Ends accounting) (emitProviderDecisions request runtimeObject metadata timestamp >>= next)
      (account, foreseen) := by
  unfold emitProviderDecisions
  split
  · exact owing.sat_decisions prepared _ rest
  · exact rest foreseen prepared

theorem Answered.sat_recordCharge (answered : Answered before reservation account) (prepared : foreseen)
    (budget : request.budget = true) {charge : Charge} {next : Option Record → Prog Record}
    (quiet : ∀ evidence, Only (fun effect : Effects.Call => Effect.closing effect = true) (next evidence)) :
    Sat (tracked accounting) (Ends accounting) (recordCharge request charge >>= next) (account, foreseen) := by
  have charged : recordCharge request charge = Prog.charge charge >>= fun recorded => return some recorded := if_pos budget
  rw [charged]
  refine ⟨trivial, ?_⟩
  rintro answer ⟨after, tracks⟩ ⟨step, followed⟩
  cases answer with
  | error error =>
    have same : after = account := by cases step; rfl
    rw [same]
    apply answered.owing
    intro holds
    exact Bool.false_ne_true (followed.mp holds).2
  | ok evidence => exact sat_closing (quiet _) fun _ => answered.record step (followed.mpr ⟨prepared, rfl⟩)

theorem Answered.sat_afterError (answered : Answered before reservation account) (prepared : foreseen)
    (budget : request.budget = true) {bounds : Option Reservation} {savedModel : Record}
    (error : OpenaiModelProvider.ModelInvocationError) :
    Sat (tracked accounting) (Ends accounting) (afterError platform request bounds savedModel error)
      (account, foreseen) := by
  apply answered.owing.sat_completionTime prepared
  intro completedAt foreseen prepared
  apply answered.owing.sat_providerDecisions prepared
  intro foreseen prepared
  apply answered.sat_recordCharge prepared budget
  intro charge
  apply only_bind (closing_finishModel (by decide))
  intro _
  exact closing_finishAgent (by decide)

theorem Answered.sat_afterResponse (answered : Answered before reservation account) (prepared : foreseen)
    (budget : request.budget = true) {outputSchema : Json} {bounds : Option Reservation} {savedModel : Record}
    (response : ModelResponse) :
    Sat (tracked accounting) (Ends accounting) (afterResponse platform request outputSchema bounds savedModel response)
      (account, foreseen) := by
  apply answered.owing.sat_completionTime prepared
  intro completedAt foreseen prepared
  apply answered.owing.sat_providerDecisions prepared
  intro foreseen prepared
  apply answered.sat_recordCharge prepared budget
  intro charge
  apply only_bind (only_liftExcept _)
  intro schemaErrors
  split
  · apply only_bind (closing_finishModel (by decide))
    intro _
    apply only_bind (closing_finishAgent (by decide))
    intro _
    trivial
  · apply only_bind (closing_finishModel (by decide))
    intro _
    split
    · exact closing_finishAgent (by decide)
    · exact closing_finishAgent (by decide)

theorem Holding.sat_dispatch (holding : Holding accounting before reservation account) (known : foreseen)
    (budget : request.budget = true) {modelRequest : ModelRequest} {bounds : Option Reservation} {savedModel : Record} :
    Sat (tracked accounting) (Ends accounting)
      (dispatch platform request prepared modelRequest bounds savedModel) (account, foreseen) := by
  apply holding.owing.sat_emit known (by decide)
  intro foreseen known
  refine ⟨trivial, ?_⟩
  rintro outcome ⟨after, tracks⟩ ⟨step, followed⟩
  have holds : tracks := followed.mpr ⟨known, trivial⟩
  cases step with
  | invoke invocationId modelInvocationId request outcome =>
    cases outcome with
    | returned response =>
      have answered : Answered before reservation { account with invoked := some (.returned response) } :=
        ⟨holding.admitted, ⟨_, rfl, rfl⟩, holding.releases, holding.records⟩
      exact answered.sat_afterResponse holds budget response
    | failed error =>
      have answered : Answered before reservation { account with invoked := some (.failed error) } :=
        ⟨holding.admitted, ⟨_, rfl, rfl⟩, holding.releases, holding.records⟩
      exact answered.sat_afterError holds budget error
    | raised error => exact ends_of_raised rfl holds

theorem Holding.sat_afterModel (holding : Holding accounting before reservation account) (known : foreseen)
    (budget : request.budget = true) {modelRequest : ModelRequest} {bounds : Option Reservation}
    (answer : Except PyError Record)
    (caught : ∀ error, answer = .error error → error.errorClass = .runtimeObjectAlreadyExistsError) :
    Sat (tracked accounting) (Ends accounting) (afterModel platform request prepared modelRequest bounds answer)
      (account, foreseen) := by
  unfold afterModel
  split
  · rename_i error
    rw [if_pos (caught error rfl)]
    exact holding.sat_identityConflict known budget
  · split
    · exact holding.sat_dispatch known budget
    · exact holding.sat_identityConflict known budget

theorem Holding.sat_afterAgent (holding : Holding accounting before reservation account) (known : foreseen)
    (budget : request.budget = true) (model : isModel prepared.modelRecord) {modelRequest : ModelRequest}
    {bounds : Option Reservation} {savedAgent : Record}
    (same : validateExistingAgent savedAgent prepared.agentRecord = .ok ()) :
    Sat (tracked accounting) (Ends accounting) (afterAgent platform request prepared modelRequest bounds savedAgent)
      (account, foreseen) := by
  unfold afterAgent
  rw [same]
  change Sat (tracked accounting) (Ends accounting) (if _ then _ else _) _
  split
  · apply holding.sat_release known budget
    intro account returned after holds
    exact returned.ends holds
  · split
    · apply holding.sat_release known budget
      intro account returned after holds
      exact returned.ends holds
    · apply holding.owing.sat_emit known (by decide)
      intro foreseen known
      apply sat_offBudget rfl
      intro answer after tracks
      by_cases caught : ∀ error, answer = .error error → error.errorClass = .runtimeObjectAlreadyExistsError
      · have seen : Foreseen (.create prepared.modelRecord (modelKey request.modelInvocationId)) answer := by
          cases answer with
          | error error => exact fun _ => caught error rfl
          | ok saved => exact fun agent => absurd model agent.not_isModel
        exact holding.sat_afterModel (tracks.mpr ⟨known, seen⟩) budget answer caught
      · push Not at caught
        obtain ⟨error, rfl, other⟩ := caught
        have raised : afterModel platform request prepared modelRequest bounds (.error error) = .raise error :=
          if_neg other
        change Sat (tracked accounting) (Ends accounting)
          (afterModel platform request prepared modelRequest bounds (.error error)) _
        rw [raised]
        apply holding.owing
        intro holds
        exact other ((tracks.mp holds).2 model)

theorem Holding.sat_createAgent (holding : Holding accounting before reservation account) (known : foreseen)
    (budget : request.budget = true) (agent : isAgent prepared.agentRecord) (model : isModel prepared.modelRecord)
    {modelRequest : ModelRequest} {bounds : Option Reservation} :
    Sat (tracked accounting) (Ends accounting) (createAgent platform request prepared modelRequest bounds)
      (account, foreseen) := by
  apply sat_offBudget rfl
  intro answer after tracks
  cases answer with
  | error error =>
    have seen : Foreseen (.create prepared.agentRecord (agentKey request.invocationId)) (.error error) :=
      fun isModel => absurd isModel agent.not_isModel
    apply holding.sat_release (tracks.mpr ⟨known, seen⟩) budget
    intro account returned after holds
    exact returned.ends holds
  | ok saved =>
    cases same : validateExistingAgent saved prepared.agentRecord with
    | ok done => exact holding.sat_afterAgent (tracks.mpr ⟨known, fun _ => same⟩) budget model same
    | error error =>
      change Sat (tracked accounting) (Ends accounting) (afterAgent platform request prepared modelRequest bounds saved) _
      unfold afterAgent
      rw [same]
      apply holding.owing
      intro holds
      have agrees := (tracks.mp holds).2 agent
      rw [same] at agrees
      cases agrees

theorem Holding.sat_afterClaim (holding : Holding accounting before reservation account) (known : foreseen)
    (budget : request.budget = true) (agent : isAgent prepared.agentRecord) (model : isModel prepared.modelRecord)
    {modelRequest : ModelRequest} {bounds : Option Reservation} {running : Option Record} (claimed : Bool × Json) :
    Sat (tracked accounting) (Ends accounting)
      (afterClaim platform request prepared modelRequest bounds running claimed) (account, foreseen) := by
  unfold afterClaim
  split
  · split
    · apply holding.sat_release known budget
      intro account returned after holds
      exact returned.ends holds
    · exact holding.sat_createAgent known budget agent model
  · exact holding.sat_claimedBefore known budget _

theorem ends_of_unadmitted (fresh : account.admitted = none) (result : Except PyError Record) :
    Ends accounting (account, foreseen) result := by
  intro before reservation admitted
  rw [fresh] at admitted
  cases admitted

theorem Holding.sat_claim (holding : Holding accounting before reservation account) (known : foreseen)
    (budget : request.budget = true) (agent : isAgent prepared.agentRecord) (model : isModel prepared.modelRecord)
    {modelRequest : ModelRequest} {bounds : Option Reservation} {running : Option Record} :
    Sat (tracked accounting) (Ends accounting)
      (.call (Effect.claim (pairKey request.invocationId) (pair request)) fun answer =>
        Program.liftExcept (id answer) >>= afterClaim platform request prepared modelRequest bounds running)
      (account, foreseen) := by
  apply holding.owing.sat_check rfl
  · rintro answer error rfl seen
    exact Bool.false_ne_true seen
  · rintro answer claimed after rfl tracks
    exact holding.sat_afterClaim (tracks.mpr ⟨known, rfl⟩) budget agent model claimed

theorem holding_of_admitted {preflight : Preflight} {bounds : Reservation} {after : Account κ}
    (fresh : account.admitted = none ∧ account.invoked = none ∧ account.releases = 0 ∧ account.records = 0)
    (step : Account.Step accounting account (.preflight preflight) (.ok bounds) after) :
    ∃ before reservation, Holding accounting before reservation after := by
  cases step with
  | admitted preflight ledger plan decided =>
    refine ⟨account.ledger, plan.reservation, rfl, rfl, fresh.2.1, fresh.2.2.1, fresh.2.2.2, admitted_positive decided, ?_⟩
    intro scope
    have keys : (account.held (some plan.reservation)).scopeKey scope = account.budget.scopeKey scope := by
      cases scope <;> rfl
    rw [keys]
    exact admitted_reserved decided scope

theorem unadmitted_of_failed {preflight : Preflight} {error : PyError} {after : Account κ}
    (fresh : account.admitted = none)
    (step : Account.Step accounting account (.preflight preflight) (.error error) after) : after.admitted = none := by
  cases step with
  | preflightFailed => exact fresh
  | blocked preflight error ledger decision decided => exact fresh

/-- The configuration within the bounds of a reservation, and the request that carries it. -/
def boundedRequest (request : Request) (prepared : Prepared) (bounds : Reservation) : Except PyError ModelRequest := do
  let configuration ← request.modelConfiguration.withBudgetBounds bounds.effectiveOutputTokenLimit
    bounds.maxProviderAttempts
  modelRequest prepared configuration

theorem boundedRequest_cases {bounds : Reservation} {error : PyError}
    (raised : boundedRequest request prepared bounds = .error error) :
    (∃ limit ∈ bounds.effectiveOutputTokenLimit, limit < 1) ∨ prepared.correlation.taskExecutionId = none := by
  by_contra fits
  obtain ⟨within, named⟩ := not_or.mp fits
  unfold boundedRequest ModelConfiguration.withBudgetBounds modelRequest at raised
  rw [raiseIf_neg within, raiseIf_neg named] at raised
  cases raised

theorem bounds_of_ready {configuration : ModelConfiguration} {ready : ModelRequest} {limit attempts : Option Int}
    (bounded : request.modelConfiguration.withBudgetBounds limit attempts = .ok configuration)
    (carried : modelRequest prepared configuration = .ok ready) :
    (∀ bound ∈ limit, 1 ≤ bound) ∧ prepared.correlation.taskExecutionId ≠ none := by
  unfold ModelConfiguration.withBudgetBounds at bounded
  unfold modelRequest at carried
  constructor
  · intro bound found
    by_contra low
    rw [raiseIf_pos ⟨bound, found, not_le.mp low⟩] at bounded
    cases bounded
  · intro none
    rw [raiseIf_pos none] at carried
    cases carried

theorem sat_claimPair (fresh : account.admitted = none ∧ account.invoked = none ∧ account.releases = 0 ∧
      account.records = 0) (known : foreseen ↔ prepared.correlation.taskExecutionId ≠ none)
    (budget : request.budget = true) (agent : isAgent prepared.agentRecord) (model : isModel prepared.modelRecord)
    {running : Option Record} :
    Sat (tracked accounting) (Ends accounting) (claimPair platform request prepared running) (account, foreseen) := by
  unfold claimPair effectiveConfiguration
  rw [if_pos budget]
  refine ⟨trivial, ?_⟩
  rintro answer ⟨after, tracks⟩ ⟨step, followed⟩
  cases answer with
  | error error => exact ends_of_unadmitted (unadmitted_of_failed fresh.1 step) _
  | ok bounds =>
    obtain ⟨before, reservation, holding⟩ := holding_of_admitted fresh step
    have unready : ∀ error, boundedRequest request prepared bounds = .error error → ¬tracks := by
      intro error raised holds
      obtain ⟨task, seen⟩ := followed.mp holds
      rcases boundedRequest_cases raised with ⟨limit, found, low⟩ | none
      · exact absurd (seen bounds rfl limit found) (not_le.mpr low)
      · exact known.mp task none
    unfold boundedRequest at unready
    change Sat (tracked accounting) (Ends accounting) (((Program.liftExcept
      (request.modelConfiguration.withBudgetBounds _ _)).bind _).bind _) _
    cases bounded : request.modelConfiguration.withBudgetBounds bounds.effectiveOutputTokenLimit
      bounds.maxProviderAttempts with
    | error error =>
      rw [bounded] at unready
      exact holding.owing _ _ (unready error rfl)
    | ok configuration =>
      rw [bounded] at unready
      change Sat (tracked accounting) (Ends accounting)
        ((Program.liftExcept (modelRequest prepared configuration)).bind _) _
      cases carried : modelRequest prepared configuration with
      | error error => exact holding.owing _ _ (unready error carried)
      | ok modelRequest =>
        apply holding.sat_claim _ budget agent model
        obtain ⟨within, named⟩ := bounds_of_ready bounded carried
        refine followed.mpr ⟨known.mpr named, ?_⟩
        intro granted same
        obtain rfl := Except.ok.inj same
        exact within

theorem sat_reading {α : Type} {program : Prog α} {next : α → Prog Record}
    (reads : Only (fun effect : Effects.Call => ∃ objectId, effect = Effect.get objectId) program)
    (fresh : account.admitted = none)
    (rest : ∀ value, Sat (tracked accounting) (Ends accounting) (next value) (account, foreseen)) :
    Sat (tracked accounting) (Ends accounting) (program >>= next) (account, foreseen) := by
  induction program with
  | ret value => exact rest value
  | raise error => exact ends_of_unadmitted fresh _
  | cut => trivial
  | call effect answered ih =>
    obtain ⟨⟨objectId, rfl⟩, readsRest⟩ := reads
    change Sat (tracked accounting) (Ends accounting)
      (.call (Effect.get objectId) fun answer => answered answer >>= next) _
    apply sat_offBudget rfl
    intro answer after tracks
    have same : after ↔ foreseen := by
      rw [tracks]
      exact and_iff_left trivial
    rw [propext same]
    exact ih answer (readsRest answer)

theorem reads_get (objectId : String) :
    Only (fun effect : Effects.Call => ∃ objectId, effect = Effect.get objectId) (Prog.get objectId) :=
  ⟨⟨objectId, rfl⟩, fun _ => trivial⟩

theorem reads_lineage (agent package : Record) :
    Only (fun effect : Effects.Call => ∃ objectId, effect = Effect.get objectId)
      (lineageVerifiedReplayContext platform Prog.get agent package) := by
  unfold lineageVerifiedReplayContext
  cases lineageOf platform agent package with
  | none => trivial
  | some lineage =>
    apply only_bind (reads_get _)
    intro replay
    cases replay with
    | none => trivial
    | some replay =>
      dsimp only
      split
      · apply only_bind (reads_get _)
        intro source
        apply only_bind (reads_get _)
        intro sourceTask
        apply only_bind (reads_get _)
        intro currentTask
        cases source <;> cases sourceTask <;> cases currentTask <;> trivial
      · trivial

theorem sat_invokePrepared (fresh : account.admitted = none ∧ account.invoked = none ∧ account.releases = 0 ∧
      account.records = 0) (known : foreseen ↔ prepared.correlation.taskExecutionId ≠ none)
    (budget : request.budget = true) (agent : isAgent prepared.agentRecord) (model : isModel prepared.modelRecord) :
    Sat (tracked accounting) (Ends accounting) (invokePrepared platform request prepared) (account, foreseen) := by
  apply sat_reading (reads_get _) fresh.1
  intro existingAgent
  apply sat_reading (only_liftExcept _) fresh.1
  intro _
  split
  · exact ends_of_unadmitted fresh.1 _
  · apply sat_reading (reads_get _) fresh.1
    intro existingModel
    apply sat_reading (only_liftExcept _) fresh.1
    intro running
    exact sat_claimPair fresh known budget agent model

theorem prepare_correlation {allowed : Bool} (ran : prepare platform request allowed = .ok prepared) :
    WorkflowScheduler.fromRuntimeObject platform.toPlatform request.resolvedAgent = .ok prepared.correlation := by
  simp only [prepare, Result.bind_eq_ok, Result.pure_eq_ok] at ran
  obtain ⟨_, -, _, -, _, -, correlation, read, _, -, _, -, _, -, _, -, _, -, _, -, _, -, rfl⟩ := ran
  exact read

theorem sat_invokeAgent (fresh : account.admitted = none ∧ account.invoked = none ∧ account.releases = 0 ∧
      account.records = 0) (budget : request.budget = true) :
    Sat (tracked accounting) (Ends accounting) (invokeAgent platform request)
      (account, NamesTask platform request) := by
  apply sat_reading (reads_lineage _ _) fresh.1
  intro allowed
  cases ran : prepare platform request allowed with
  | error error => exact ends_of_unadmitted fresh.1 _
  | ok prepared =>
    have prepares := prepare_ok ran
    have named : NamesTask platform request ↔ prepared.correlation.taskExecutionId ≠ none := by
      unfold NamesTask
      rw [prepare_correlation ran]
      constructor
      · intro named
        exact named _ rfl
      · intro named context same
        obtain rfl := Except.ok.inj same
        exact named
    exact sat_invokePrepared fresh named budget prepares.agent.kind prepares.model.kind

end Coordinator

end Aep.AgentInvocation

namespace Aep.AgentInvocation

open RuntimeStore Program
open ExecutionBudgets (Ledger)

variable {κ : Type}

def opening (ledger : Ledger κ) (budget : ExecutionBudgets.TaskBudget κ) : Account κ := { ledger, budget }

namespace Sample

open ExecutionBudgets (preflightMutation recordMutation releaseMutation)

def accounting : Accounting Rat where
  numerics := ExecutionBudgets.exactNumerics (fun _ _ => 0) fun _ => ""
  started := ⟨"2026-01-01T00:00:00Z", "2026-01-01T00:00:00Z"⟩
  cost _ := 0

def unlimited : ExecutionBudgets.Limits Rat := ⟨none, none, none, none, none⟩

def budget : ExecutionBudgets.TaskBudget Rat where
  taskKey := "task-1"
  agentKey := "agent"
  resolved := ⟨unlimited, unlimited, unlimited⟩
  modelOutputTokenLimit := some 100

/-- A store that creates what it is told to, unless that fails, and a budget that does what it can. -/
def respond (create : Record → Except PyError Record) (account : Account Rat) : (effect : Effect) →
    effect.Answer × Account Rat
  | .clock => (.ok "2026-01-01T00:02:00Z", account)
  | .emit .. => (.ok (), account)
  | .get _ => (none, account)
  | .claim _ value => (.ok (true, .obj value), account)
  | .create record _ => (create record, account)
  | .updateStatus _ _ _ changes => (.ok changes, account)
  | .invoke .. =>
    let outcome := .returned { output := .ok (.str "done"), inputTokens := 1, outputTokens := 1, latencyMs := 5 }
    (outcome, { account with invoked := some outcome })
  | .preflight preflight =>
    match preflightMutation accounting.numerics account.budget preflight.arguments accounting.started account.ledger with
    | .ok (ledger, .admitted plan) => (.ok ⟨plan.effectiveOutput, some plan.attempts⟩, { account with
        ledger, budget := account.held (some plan.reservation), admitted := some (account.ledger, plan.reservation) })
    | .ok (ledger, .blocked _) => (.error (valueError "blocked"), { account with ledger })
    | .error error => (.error error, account)
  | .release =>
    match account.budget.reservation with
    | none => (.ok (), account)
    | some reservation => (.ok (), { account with
        ledger := releaseMutation accounting.numerics account.budget reservation accounting.started account.ledger
        budget := account.held none, releases := account.releases + 1 })
  | .record charge =>
    match recordMutation accounting.numerics account.budget (accounting.charged charge) accounting.started
      account.ledger with
    | .ok (ledger, _) => (.ok [], { account with ledger, budget := account.held none, records := account.records + 1 })
    | .error error => (.error error, account)

theorem step_respond (create : Record → Except PyError Record) (account : Account Rat) (effect : Effect) :
    Account.Step accounting account effect (respond create account effect).1 (respond create account effect).2 := by
  cases effect with
  | clock => exact .clock _
  | emit eventName record timestamp attributes => exact .emit _ _ _ _ _
  | get objectId => exact .get _ _
  | claim key value => exact .claim _ _ _
  | create record key => exact .create _ _ _
  | updateStatus objectId status updatedAt changes => exact .updateStatus _ _ _ _ _
  | invoke invocationId modelInvocationId request => exact .invoke _ _ request _
  | preflight preflight =>
    dsimp only [respond]
    split
    · rename_i ledger plan decided
      exact .admitted preflight ledger plan decided
    · rename_i ledger decision decided
      exact .blocked preflight _ ledger decision decided
    · exact .preflightFailed preflight _
  | release =>
    dsimp only [respond]
    split
    · rename_i free
      exact .nothingHeld free
    · rename_i reservation holds
      exact .released reservation holds
  | record charge =>
    dsimp only [respond]
    split
    · rename_i ledger summary reconciled
      exact .recorded charge [] ledger summary reconciled
    · exact .recordFailed charge _

/-- The call of the sample with its answers, its result and what it leaves of its account. -/
def run (create : Record → Except PyError Record) : List Effects.Event × Option (Except PyError Record) × Account Rat :=
  (invokeAgent samplePlatform (sampleRequests 0)).play (respond create) (opening {} budget)

theorem run_finishes (create : Record → Except PyError Record) (ends : (run create).2.1.isSome = true) :
    ∃ result, Finishes (invokeAgent samplePlatform (sampleRequests 0)) (run create).1 result ∧
      (Account.rules accounting).Trace (opening {} budget) (run create).1 (run create).2.2 := by
  obtain ⟨result, found⟩ := Option.isSome_iff_exists.mp ends
  exact ⟨result, finishes_play found, trace_play (step_respond create) _ _⟩

def storeFault : PyError where
  errorClass := .runtimeStoreError
  message := "disk I/O error"

def failing (record : Record) : Except PyError Record := if isModel record then .error storeFault else .ok record

end Sample

end Aep.AgentInvocation
