import Aep.AgentInvocation.Discipline

namespace Aep.AgentInvocation

open RuntimeStore Machine.Discipline Program

variable {platform : Platform} {requests : Nat → Request} {thread : Nat}

section Quiet

def Quiet : Effect → Prop
  | .clock | .emit .. | .preflight _ | .release | .record _ | .get _ => True
  | _ => False

variable {request : Request}

theorem quiet_check {α : Type} (result : Except PyError α) : (Prog.check result).Only Quiet := only_liftExcept result

theorem quiet_releaseBudget : (releaseBudget request).Only Quiet := by
  unfold releaseBudget
  split
  · exact ⟨trivial, fun _ => quiet_check _⟩
  · trivial

theorem quiet_emit (eventName : String) (record : Record) (timestamp : String) :
    (emit request eventName record timestamp).Only Quiet := by
  unfold emit
  split
  · exact ⟨trivial, fun _ => quiet_check _⟩
  · trivial

theorem quiet_forEach {α : Type} {body : α → Prog Unit} (only : ∀ item, (body item).Only Quiet) (items : List α) :
    (Prog.forEach body items).Only Quiet := by
  induction items with
  | nil => trivial
  | cons item rest ih => exact only_bind (only item) fun _ => ih

theorem quiet_emitProviderDecisions (record metadata : Record) (timestamp : String) :
    (emitProviderDecisions request record metadata timestamp).Only Quiet := by
  unfold emitProviderDecisions
  split
  · refine quiet_forEach (fun decision => ?_) _
    exact ⟨trivial, fun _ => quiet_check _⟩
  · trivial

theorem quiet_completionTime : (completionTime request).Only Quiet := by
  unfold completionTime
  split
  · exact ⟨trivial, fun _ => quiet_check _⟩
  · trivial

theorem quiet_recordCharge (charge : Charge) : (recordCharge request charge).Only Quiet := by
  unfold recordCharge
  split
  · exact only_bind ⟨trivial, fun _ => quiet_check _⟩ fun _ => trivial
  · trivial

theorem quiet_effectiveConfiguration (prepared : Prepared) : (effectiveConfiguration request prepared).Only Quiet := by
  unfold effectiveConfiguration
  split
  · refine only_bind (only_attempt ⟨trivial, fun _ => quiet_check _⟩) fun _ => only_bind (quiet_check _) fun _ => ?_
    exact only_bind (quiet_check _) fun _ => trivial
  · trivial

theorem quiet_get (objectId : String) : (Prog.get objectId).Only Quiet := ⟨trivial, fun _ => trivial⟩

theorem quiet_lineage (agent package : Record) :
    Program.Only Quiet (lineageVerifiedReplayContext platform Prog.get agent package) := by
  unfold lineageVerifiedReplayContext
  cases lineageOf platform agent package with
  | none => trivial
  | some lineage =>
    refine only_bind (quiet_get _) fun replay => ?_
    cases replay with
    | none => trivial
    | some replay =>
      simp only
      split
      · refine only_bind (quiet_get _) fun source => only_bind (quiet_get _) fun sourceTask =>
          only_bind (quiet_get _) fun currentTask => ?_
        cases source <;> cases sourceTask <;> cases currentTask <;> trivial
      · trivial

variable {α β : Type} {fact : World → Prop} {program : Prog α} {next : α → Prog β}

theorem triple_quiet (stable : ∀ world later, fact world → Rely requests thread world later → fact later)
    (only : program.Only Quiet) : (discipline platform requests).Triple thread fact program fun _ => fact := by
  refine triple_only stable (fun world effect quiet _ => ?_)
    (fun world effect answer later quiet _ executed known => ?_) only
  · cases effect <;> first | exact trivial | exact quiet.elim
  · cases executed <;> first | exact known | exact quiet.elim

theorem bind_quiet (stable : ∀ world later, fact world → Rely requests thread world later → fact later)
    (only : program.Only Quiet) (rest : ∀ value, (discipline platform requests).Keeps thread fact (next value)) :
    (discipline platform requests).Keeps thread fact (program >>= next) :=
  Triple.bind (triple_quiet stable only) rest fun _ _ _ => trivial

theorem keeps_quiet (only : program.Only Quiet) : (discipline platform requests).Keeps thread fact program :=
  (Triple.keeps (triple_quiet (fun _ _ _ _ => trivial) only)).mono fun _ _ => trivial

end Quiet

section Facts

/-- The thread claimed the pair, and knows something of its own records and starts. -/
def Known (requests : Nat → Request) (thread : Nat) (fact : (String → Option Record) → List Start → Prop)
    (world : World) : Prop :=
  Claimed requests thread world ∧
    fact (ownedAt (requests thread).invocationId world) (startsOf (requests thread).invocationId world)

def AgentIn (request : Request) (owned : String → Option Record) : Prop :=
  ∃ record, owned request.invocationId = some record ∧ isAgent record

def ModelIn (request : Request) (owned : String → Option Record) : Prop :=
  ∃ record, owned request.modelInvocationId = some record ∧ isModel record

def ModelDone (request : Request) (status : String) (changes : Record) (owned : String → Option Record) : Prop :=
  ∃ old now, owned request.modelInvocationId = some (withStatus old changes status now) ∧
    isModel (withStatus old changes status now) ∧ old.get? "cost" = none

def Dispatched (request : Request) (owned : String → Option Record) (starts : List Start) : Prop :=
  AgentIn request owned ∧ ModelIn request owned ∧ starts ≠ []

def Done (request : Request) (status : String) (changes : Record) (owned : String → Option Record)
    (starts : List Start) : Prop :=
  AgentIn request owned ∧ ModelDone request status changes owned ∧ starts ≠ []

variable {fact : (String → Option Record) → List Start → Prop}

theorem Known.rely {world later : World} (known : Known requests thread fact world)
    (rely : Rely requests thread world later) : Known requests thread fact later := by
  obtain ⟨claimed, holds⟩ := known
  refine ⟨rely.claimant _ _ claimed, ?_⟩
  rw [show ownedAt (requests thread).invocationId later = ownedAt (requests thread).invocationId world from
    funext (rely.records claimed), rely.starts claimed]
  exact holds

theorem known_stable (world later : World) (known : Known requests thread fact world)
    (rely : Rely requests thread world later) : Known requests thread fact later := known.rely rely

theorem AgentIn.there {world : World} {request : Request}
    (agentIn : AgentIn request (ownedAt request.invocationId world)) : ∃ record, world.store.get request.invocationId = some record ∧ isAgent record := by
  obtain ⟨record, found, agent⟩ := agentIn
  exact ⟨record, (ownedAt_eq_some.mp found).1, agent⟩

theorem started_of_startsOf {world : World} {invocationId : String} (started : startsOf invocationId world ≠ []) :
    ∃ start ∈ world.starts, start.invocationId = invocationId := by
  obtain ⟨start, member⟩ := List.exists_mem_of_ne_nil _ started
  obtain ⟨there, named⟩ := List.mem_filter.mp member
  exact ⟨start, there, of_decide_eq_true named⟩

end Facts

section Finish

variable {fact : (String → Option Record) → List Start → Prop}

theorem keeps_finishAgent {status event completedAt : String} {changes : Record}
    (agentIn : ∀ owned starts, fact owned starts → AgentIn (requests thread) owned)
    (outcome : ∀ world, Known requests thread fact world → status = "FAILED" ∨ (status = "SUCCEEDED" ∧
      (∃ start ∈ world.starts, start.invocationId = (requests thread).invocationId) ∧
      ∃ model, Passed (requests thread) world.store model ∧ Agrees platform (requests thread) model changes)) :
    (discipline platform requests).Keeps thread (Known requests thread fact)
      (finishAgent platform (requests thread) status event completedAt changes) := by
  refine triple_call (fun _ _ => True) known_stable (fun world _ known => ?_) (fun _ _ _ _ _ _ _ => trivial)
    fun answer => ?_
  · exact ⟨known.1, .inl ⟨rfl, (agentIn _ _ known.2).there, outcome world known⟩⟩
  · exact keeps_quiet (only_bind (quiet_check _) fun _ => only_bind (quiet_check _) fun _ =>
      only_bind (quiet_emit _ _ _) fun _ => trivial)

theorem keeps_failAgent {event completedAt : String} {changes : Record}
    (agentIn : ∀ owned starts, fact owned starts → AgentIn (requests thread) owned) :
    (discipline platform requests).Keeps thread (Known requests thread fact)
      (finishAgent platform (requests thread) "FAILED" event completedAt changes) :=
  keeps_finishAgent agentIn fun _ _ => .inl rfl

theorem keeps_failAfterModel {status event completedAt : String} {modelChanges changes : Record} :
    (discipline platform requests).Keeps thread
      (returns (fun (_ : Unit) => Known requests thread (Done (requests thread) status modelChanges))
        (.ok () : Except PyError Unit))
      (finishAgent platform (requests thread) "FAILED" event completedAt changes) :=
  (keeps_failAgent fun _ _ (done : Done (requests thread) status modelChanges _ _) => done.1).mono fun _ known =>
    known () rfl

theorem finishModel_triple {status event completedAt : String} {changes : Record}
    (unowned : changes.get? "agentInvocationId" = none) (outcome : status = "FAILED" ∨ status = "SUCCEEDED")
    (there : ∀ owned starts, fact owned starts → Dispatched (requests thread) owned starts) :
    (discipline platform requests).Triple thread (Known requests thread fact)
      (finishModel platform (requests thread) status event completedAt changes)
      (returns fun _ => Known requests thread (Done (requests thread) status changes)) := by
  have permitted (world : World) (known : Known requests thread fact world) : Permitted platform requests thread world
      (.updateStatus (requests thread).modelInvocationId status completedAt changes) :=
    ⟨known.1, .inr ⟨rfl, (there _ _ known.2).2.1, unowned, outcome⟩⟩
  refine triple_call (fun answer world => ∀ updated, answer = .ok updated →
    Known requests thread (Done (requests thread) status changes) world) known_stable
    (fun world _ known => permitted world known) ?_ fun answer => ?_
  · intro world answer next inv known executed invNext updated answered
    obtain ⟨⟨agent, agentAt, isAgent⟩, ⟨old, oldAt, wasModel⟩, started⟩ := there _ _ known.2
    obtain ⟨agentFound, agentOwned⟩ := ownedAt_eq_some.mp agentAt
    obtain ⟨oldFound, -⟩ := ownedAt_eq_some.mp oldAt
    cases executed with
    | updateStatus _ _ _ clock _ =>
      rcases update_step live_running (requests thread).modelInvocationId status completedAt clock changes world.store with
        ⟨-, error, raised⟩ | ⟨record, now, found, running, evolves, -, same⟩
      · rw [raised] at answered
        cases answered
      · obtain rfl := Option.some.inj (oldFound.symm.trans found)
        have updates : Updates platform (requests thread) world _ old (withStatus old changes status now) :=
          ModelEnd.updates ⟨rfl, ⟨old, oldAt, wasModel⟩, unowned, outcome⟩ found running evolves
        have uncosted : old.get? "cost" = none := by
          obtain ⟨other, -, state⟩ := inv.models _ old found wasModel
          rcases state.status with ⟨-, uncosted⟩ | failed | succeeded
          · exact uncosted
          · simp [running] at failed
          · simp [running] at succeeded
        have kind : isModel (withStatus old changes status now) := (evolves.field_eq (by decide)).trans wasModel
        have apart : (requests thread).modelInvocationId ≠ (requests thread).invocationId := by
          intro ids
          rw [ids, agentFound] at found
          obtain rfl := Option.some.inj found
          exact isAgent.not_isModel wasModel
        rw [same]
        refine ⟨known.1, ⟨agent, ownedAt_eq_some.mpr ⟨?_, agentOwned⟩, isAgent⟩,
          ⟨old, now, ownedAt_eq_some.mpr ⟨?_, updates.touches.new⟩, kind, uncosted⟩, started⟩
        · exact (Store.get_put _ _ _ _).trans ((if_neg apart).trans agentFound)
        · exact (Store.get_put _ _ _ _).trans (if_pos rfl)
  · cases answer with
    | error error => exact triple_raise fun _ _ _ wrong => by cases wrong
    | ok updated =>
      have quiet : Program.Only Quiet (do
          Prog.check (validateRuntime platform updated "ModelInvocation" "modelinvocation.schema.json")
          emit (requests thread) event updated completedAt) :=
        only_bind (quiet_check _) fun _ => quiet_emit _ _ _
      exact (triple_quiet known_stable quiet).mono (fun world known => known updated rfl) fun _ _ known _ _ => known

end Finish

section Outcomes

variable {fact : (String → Option Record) → List Start → Prop} {outputSchema : Json} {reservation : Option Reservation}
  {savedModel : Record}

theorem budgetChanges_get? {charge : Option Record} {field : String}
    (other : field ∉ ["effectiveOutputTokenLimit", "effectiveProviderAttemptLimit", "budgetCharge"]) :
    (budgetChanges reservation charge).get? field = none := by
  simp only [List.mem_cons, List.not_mem_nil, or_false, not_or] at other
  obtain ⟨tokens, attempts, charged⟩ := other
  simp only [budgetChanges, Dict.get?_append, Dict.get?_toList_map, Ne.symm tokens, Ne.symm attempts, Ne.symm charged,
    ↓reduceIte, Option.or_none]

theorem keeps_afterError {error : OpenaiModelProvider.ModelInvocationError} :
    (discipline platform requests).Keeps thread (Known requests thread (Dispatched (requests thread)))
      (afterError platform (requests thread) reservation savedModel error) := by
  refine bind_quiet known_stable quiet_completionTime fun completedAt =>
    bind_quiet known_stable (quiet_emitProviderDecisions _ _ _) fun _ =>
    bind_quiet known_stable (quiet_recordCharge _) fun charge => ?_
  refine Triple.bind (finishModel_triple ?_ (.inl rfl) fun _ _ there => there) (fun _ => ?_) fun _ _ _ => trivial
  · simp [budgetChanges_get?, Dict.get?]
  · exact keeps_failAfterModel

section Changes

variable {request : Request} {response : ModelResponse} {validation : String} {failure charge : Option Record}

theorem modelChanges_unowned :
    (modelChanges platform reservation response validation failure charge).get? "agentInvocationId" = none := by
  simp [modelChanges, Dict.get?_toList_map, Dict.get?_toList, budgetChanges_get?, Dict.get?_append, Dict.get?]

theorem modelChanges_validation : (modelChanges platform reservation response validation failure charge).get?
    "schemaValidation" = some (.str validation) := by
  simp [modelChanges, Dict.get?]

theorem modelChanges_usage : (modelChanges platform reservation response validation failure charge).get?
    "tokenUsage" = some (usageRecord response) := by
  simp [modelChanges, Dict.get?]

theorem modelChanges_address : (modelChanges platform reservation response validation failure charge).get?
    "outputAddress" = response.output.toOption.map fun output => .str (contentAddress platform output) := by
  simp [modelChanges, Dict.get?_toList_map, Dict.get?_toList, budgetChanges_get?, Dict.get?_append, Dict.get?]

theorem modelChanges_cost :
    (modelChanges platform reservation response validation failure charge).get? "cost" = response.cost := by
  simp [modelChanges, Dict.get?_toList_map, Dict.get?_toList, budgetChanges_get?, Dict.get?_append, Dict.get?]

theorem agentChanges_ids : (agentChanges request reservation response validation failure charge).get?
    "modelInvocationIds" = some (.arr [.str request.modelInvocationId]) := by
  simp [agentChanges, Dict.get?]

theorem agentChanges_usage : (agentChanges request reservation response validation failure charge).get?
    "tokenUsage" = some (usageRecord response) := by
  simp [agentChanges, Dict.get?]

theorem agentChanges_output : (agentChanges request reservation response validation failure charge).get?
    "output" = response.output.toOption := by
  simp [agentChanges, Dict.get?_toList_map, Dict.get?_toList, budgetChanges_get?, Dict.get?_append, Dict.get?]

theorem agentChanges_cost :
    (agentChanges request reservation response validation failure charge).get? "cost" = response.cost := by
  simp [agentChanges, Dict.get?_toList_map, Dict.get?_toList, budgetChanges_get?, Dict.get?_append, Dict.get?]

end Changes

section Judged

variable {response : ModelResponse} {completedAt : String} {charge : Option Record}

theorem keeps_validatorFailed : (discipline platform requests).Keeps thread
    (Known requests thread (Dispatched (requests thread)))
    (validatorFailed platform (requests thread) reservation response completedAt charge) := by
  refine Triple.bind (finishModel_triple modelChanges_unowned (.inl rfl) fun _ _ there => there) (fun _ => ?_)
    fun _ _ _ => trivial
  exact Triple.bind keeps_failAfterModel (fun _ => keeps_raise) fun _ _ _ => trivial

theorem passed_output {request : Request} {schemaErrors : List String}
    (judged : outputErrors platform outputSchema response = .ok schemaErrors)
    (checked : validatorErrors request response schemaErrors = some []) :
    ∃ output, response.output = .ok output ∧ platform.outputErrors outputSchema output = .ok [] ∧
      ∀ validator ∈ request.outputValidator, validator output = .ok [] := by
  cases produced : response.output with
  | error reason =>
    simp only [outputErrors, produced, Except.ok.injEq] at judged
    subst judged
    simp [validatorErrors] at checked
  | ok output =>
    simp only [outputErrors, produced] at judged
    cases schemaErrors with
    | cons first rest => simp [validatorErrors] at checked
    | nil =>
      refine ⟨output, rfl, judged, fun validator given => ?_⟩
      rw [Option.mem_def] at given
      simp only [validatorErrors, given, produced] at checked
      cases found : validator output with
      | error error => simp [found, Except.toOption] at checked
      | ok errors => simpa [found, Except.toOption] using checked

theorem agrees_done {world : World} {output : Json} (produced : response.output = .ok output)
    (satisfied : Satisfies platform (requests thread) output)
    (done : ModelDone (requests thread) "SUCCEEDED" (modelChanges platform reservation response "PASSED" none charge)
      (ownedAt (requests thread).invocationId world)) :
    ∃ model, Passed (requests thread) world.store model ∧ Agrees platform (requests thread) model
      (agentChanges (requests thread) reservation response "PASSED" none charge) := by
  obtain ⟨old, now, ownedModel, kind, uncosted⟩ := done
  obtain ⟨found, owned⟩ := ownedAt_eq_some.mp ownedModel
  generalize changed : modelChanges platform reservation response "PASSED" none charge = changes
    at ownedModel kind found owned
  have fieldOf (field : String) (unmanaged : field ∉ managedFields) :
      (withStatus old changes "SUCCEEDED" now).get? field = (changes.get? field).or (old.get? field) :=
    withStatus_get? unmanaged
  have owner : (withStatus old changes "SUCCEEDED" now).field "agentInvocationId" =
      .str (requests thread).invocationId := by
    rcases owned with ⟨agent, -⟩ | ⟨-, owner⟩
    · exact absurd kind agent.not_isModel
    · exact owner
  refine ⟨_, ⟨found, kind, owner, withStatus_status .., Dict.field_of_get? ?_⟩, Dict.field_of_get? agentChanges_ids,
    ⟨usageRecord response, agentChanges_usage, ?_⟩, ?_, output, ?_, Dict.field_of_get? ?_, satisfied⟩
  · rw [fieldOf _ (by decide), ← changed, modelChanges_validation]
    rfl
  · rw [fieldOf _ (by decide), ← changed, modelChanges_usage]
    rfl
  · rw [agentChanges_cost, fieldOf _ (by decide), ← changed, modelChanges_cost, uncosted, Option.or_none]
  · rw [agentChanges_output, produced]
    rfl
  · rw [fieldOf _ (by decide), ← changed, modelChanges_address, produced]
    rfl

theorem keeps_validated {schemaErrors validationErrors : List String}
    (schema : (requests thread).resolvedAgent.get? "outputSchema" = some outputSchema)
    (judged : outputErrors platform outputSchema response = .ok schemaErrors)
    (checked : validatorErrors (requests thread) response schemaErrors = some validationErrors) :
    (discipline platform requests).Keeps thread (Known requests thread (Dispatched (requests thread)))
      (validated platform (requests thread) reservation response completedAt charge validationErrors) := by
  refine Triple.bind (finishModel_triple modelChanges_unowned (.inr rfl) fun _ _ there => there) (fun _ => ?_)
    fun _ _ _ => trivial
  change (discipline platform requests).Triple thread _ (if validationErrors = [] then _ else _) _
  split
  · rename_i nothing
    subst nothing
    obtain ⟨output, produced, meets, accepted⟩ := passed_output judged checked
    have keeps : (discipline platform requests).Keeps thread
        (Known requests thread (Done (requests thread) "SUCCEEDED"
          (modelChanges platform reservation response "PASSED" none charge)))
        (finishAgent platform (requests thread) "SUCCEEDED" "AgentInvocationCompleted" completedAt
          (agentChanges (requests thread) reservation response "PASSED" none charge)) :=
      keeps_finishAgent (fun _ _ done => done.1) fun world known =>
        .inr ⟨rfl, started_of_startsOf known.2.2.2,
          agrees_done produced ⟨outputSchema, schema, meets, accepted⟩ known.2.2.1⟩
    exact keeps.mono fun world known => known () rfl
  · exact keeps_failAfterModel

end Judged

theorem keeps_afterInvoke (schema : (requests thread).resolvedAgent.get? "outputSchema" = some outputSchema)
    (invoked : Invoked) : (discipline platform requests).Keeps thread
      (Known requests thread (Dispatched (requests thread)))
      (afterInvoke platform (requests thread) outputSchema reservation savedModel invoked) := by
  cases invoked with
  | raised error => exact keeps_raise
  | failed error => exact keeps_afterError
  | returned response =>
    refine bind_quiet known_stable quiet_completionTime fun completedAt =>
      bind_quiet known_stable (quiet_emitProviderDecisions _ _ _) fun _ =>
      bind_quiet known_stable (quiet_recordCharge _) fun charge => ?_
    refine triple_lift_bind (fun _ _ _ _ => trivial) fun schemaErrors judged => ?_
    cases checked : validatorErrors (requests thread) response schemaErrors with
    | none => exact keeps_validatorFailed
    | some validationErrors => exact keeps_validated schema judged checked

end Outcomes

end Aep.AgentInvocation

namespace Aep.AgentInvocation

open RuntimeStore Machine.Discipline Program
open WorkflowScheduler (item)

variable {platform : Platform} {requests : Nat → Request} {thread : Nat}

section Prepared

variable {request : Request} {prepared : Prepared}

/-- What the calls of an invocation need of its prepared inputs. -/
structure Prepares (request : Request) (prepared : Prepared) : Prop where
  schema : request.resolvedAgent.get? "outputSchema" = some prepared.outputSchema
  agent : AgentStart request prepared.agentRecord (agentKey request.invocationId)
  model : ModelStart request prepared.modelRecord (modelKey request.modelInvocationId)

theorem item_ok {fields : Record} {key : String} {value : Json} (found : item fields key = .ok value) :
    fields.get? key = some value := by
  unfold item at found
  cases lookup : fields.get? key with
  | none => simp [lookup] at found
  | some present => simpa [lookup] using found

theorem prepare_ok {allowed : Bool} (ran : prepare platform request allowed = .ok prepared) :
    Prepares request prepared := by
  simp only [prepare, Result.bind_eq_ok, Result.pure_eq_ok] at ran
  obtain ⟨_, -, schema, found, _, -, _, -, _, -, _, -, _, -, _, -, _, -, _, -, _, -, rfl⟩ := ran
  exact ⟨item_ok found, ⟨rfl, rfl, rfl, rfl, rfl⟩, ⟨rfl, rfl, rfl, rfl, rfl, rfl⟩⟩

end Prepared

section Calls

variable {prepared : Prepared} {modelRequest : ModelRequest} {reservation : Option Reservation} {savedModel : Record}

def Unstarted (_ : String → Option Record) (starts : List Start) : Prop := starts = []

def Opened (request : Request) (owned : String → Option Record) (starts : List Start) : Prop :=
  AgentIn request owned ∧ starts = []

def Ready (request : Request) (owned : String → Option Record) (starts : List Start) : Prop :=
  AgentIn request owned ∧ ModelIn request owned ∧ starts = []

theorem keeps_dispatch (prepares : Prepares (requests thread) prepared) :
    (discipline platform requests).Keeps thread (Known requests thread (Ready (requests thread)))
      (dispatch platform (requests thread) prepared modelRequest reservation savedModel) := by
  refine bind_quiet known_stable (quiet_emit _ _ _) fun _ => ?_
  refine triple_call (fun _ => Known requests thread (Dispatched (requests thread))) known_stable
    (fun world _ known => ?_) (fun world invoked next _ known executed _ => ?_) fun invoked =>
      keeps_afterInvoke prepares.schema invoked
  · obtain ⟨claimed, -, model, unstarted⟩ := known
    exact ⟨claimed, rfl, rfl, unstarted, model⟩
  · obtain ⟨claimed, agent, model, -⟩ := known
    cases executed
    refine ⟨claimed, agent, model, ?_⟩
    simp [startsOf]

theorem keeps_identityConflict : (discipline platform requests).Keeps thread
    (Known requests thread (Opened (requests thread))) (identityConflict platform (requests thread)) := by
  refine bind_quiet known_stable quiet_releaseBudget fun _ => ?_
  exact Triple.bind (keeps_failAgent fun _ _ opened => opened.1) (fun _ => keeps_raise) fun _ _ _ => trivial

theorem create_model {world next : World} {answer : Except PyError Record} (inv : Inv platform requests world)
    (prepares : Prepares (requests thread) prepared) (known : Known requests thread (Opened (requests thread)) world)
    (executed : World.Exec thread world
      (.create prepared.modelRecord (modelKey (requests thread).modelInvocationId)) answer next) :
    Known requests thread (Opened (requests thread)) next ∧ ∀ saved, answer = .ok saved →
      (Json.obj saved).pyEq (.obj prepared.modelRecord) = true →
      Known requests thread (Ready (requests thread)) next := by
  obtain ⟨claimed, ⟨agent, agentAt, isAgent⟩, unstarted⟩ := known
  have owner : prepared.modelRecord.field "agentInvocationId" = .str (requests thread).invocationId :=
    prepares.model.owner
  cases executed
  rcases create_step prepared.modelRecord (modelKey (requests thread).modelInvocationId) world.store with
    ⟨same, found⟩ | ⟨-, added, -, -⟩
  · rw [same]
    refine ⟨⟨claimed, ⟨agent, agentAt, isAgent⟩, unstarted⟩, fun saved answered equal => ?_⟩
    obtain ⟨id, keyed, stored⟩ := found saved answered
    obtain ⟨rfl, record, there, model⟩ := inv.modelKeyed _ id keyed
    obtain rfl := Option.some.inj (stored.symm.trans there)
    have fields := Json.pyEq_field equal "agentInvocationId"
    change (saved.field "agentInvocationId").pyEq (prepared.modelRecord.field "agentInvocationId") = true at fields
    rw [owner, Json.pyEq_str] at fields
    exact ⟨claimed, ⟨agent, agentAt, isAgent⟩, ⟨saved, ownedAt_eq_some.mpr ⟨stored, .inr ⟨model, fields⟩⟩, model⟩,
      unstarted⟩
  · obtain ⟨agentFound, agentOwned⟩ := ownedAt_eq_some.mp agentAt
    have named : objectId prepared.modelRecord = (requests thread).modelInvocationId := by
      unfold objectId
      rw [prepares.model.id]
      rfl
    have apart : objectId prepared.modelRecord ≠ (requests thread).invocationId := by
      intro same
      have fresh := added.fresh
      rw [same, agentFound] at fresh
      cases fresh
    have kept : ownedAt (requests thread).invocationId (world.move _) (requests thread).invocationId = some agent :=
      ownedAt_eq_some.mpr ⟨(added.get _).trans ((if_neg apart).trans agentFound), agentOwned⟩
    have there : ownedAt (requests thread).invocationId (world.move _) (requests thread).modelInvocationId =
        some prepared.modelRecord :=
      ownedAt_eq_some.mpr ⟨(added.get _).trans (if_pos named), .inr ⟨prepares.model.kind, owner⟩⟩
    exact ⟨⟨claimed, ⟨agent, kept, isAgent⟩, unstarted⟩, fun _ _ _ =>
      ⟨claimed, ⟨agent, kept, isAgent⟩, ⟨_, there, prepares.model.kind⟩, unstarted⟩⟩

theorem keeps_afterModel (prepares : Prepares (requests thread) prepared) :
    (discipline platform requests).Keeps thread (Known requests thread (Opened (requests thread)))
      (.call (.create prepared.modelRecord (modelKey (requests thread).modelInvocationId))
        (afterModel platform (requests thread) prepared modelRequest reservation)) := by
  refine triple_call (fun answer world => Known requests thread (Opened (requests thread)) world ∧ ∀ saved,
    answer = .ok saved → (Json.obj saved).pyEq (.obj prepared.modelRecord) = true →
      Known requests thread (Ready (requests thread)) world)
    known_stable (fun world _ known => ⟨known.1, .inr prepares.model⟩)
    (fun world answer next inv known executed _ => create_model inv prepares known executed) fun answer => ?_
  cases answer with
  | error error =>
    unfold afterModel
    simp only
    split
    · exact keeps_identityConflict.mono fun _ known => known.1
    · exact keeps_raise
  | ok saved =>
    unfold afterModel
    simp only
    split
    · rename_i equal
      exact (keeps_dispatch prepares).mono fun _ known => known.2 saved rfl equal
    · exact keeps_identityConflict.mono fun _ known => known.1

theorem keeps_afterAgent (prepares : Prepares (requests thread) prepared) (savedAgent : Record) :
    (discipline platform requests).Keeps thread (Known requests thread (Opened (requests thread)))
      (afterAgent platform (requests thread) prepared modelRequest reservation savedAgent) := by
  refine bind_quiet known_stable (quiet_check _) fun _ => ?_
  change (discipline platform requests).Triple thread _ (if isFinished savedAgent then _ else _) _
  split
  · exact keeps_quiet (only_bind quiet_releaseBudget fun _ => trivial)
  · split
    · exact keeps_quiet (only_bind quiet_releaseBudget fun _ => trivial)
    · exact bind_quiet known_stable (quiet_emit _ _ _) fun _ => keeps_afterModel prepares

theorem create_agent {world next : World} {answer : Except PyError Record} (inv : Inv platform requests world)
    (prepares : Prepares (requests thread) prepared) (known : Known requests thread Unstarted world)
    (executed : World.Exec thread world
      (.create prepared.agentRecord (agentKey (requests thread).invocationId)) answer next) (saved : Record)
    (answered : answer = .ok saved) : Known requests thread (Opened (requests thread)) next := by
  obtain ⟨claimed, unstarted⟩ := known
  cases executed
  rcases create_step prepared.agentRecord (agentKey (requests thread).invocationId) world.store with
    ⟨same, found⟩ | ⟨-, added, -, -⟩
  · rw [same]
    obtain ⟨id, keyed, stored⟩ := found saved answered
    obtain ⟨rfl, record, there, agent⟩ := inv.agentKeyed _ id keyed
    exact ⟨claimed, ⟨record, ownedAt_agent there inv.wellFormed agent, agent⟩, unstarted⟩
  · have named : objectId prepared.agentRecord = (requests thread).invocationId := by
      unfold objectId
      rw [prepares.agent.id]
      rfl
    refine ⟨claimed, ⟨prepared.agentRecord, ownedAt_eq_some.mpr ⟨?_, .inl ⟨prepares.agent.kind, prepares.agent.id⟩⟩,
      prepares.agent.kind⟩, unstarted⟩
    exact (added.get _).trans (if_pos named)

theorem keeps_createAgent (prepares : Prepares (requests thread) prepared) :
    (discipline platform requests).Keeps thread (Known requests thread Unstarted)
      (createAgent platform (requests thread) prepared modelRequest reservation) := by
  refine triple_call (fun answer world => ∀ saved, answer = .ok saved →
      Known requests thread (Opened (requests thread)) world) known_stable
    (fun world _ known => ⟨known.1, .inl prepares.agent⟩)
    (fun world answer next inv known executed _ saved => create_agent inv prepares known executed saved)
    fun answer => ?_
  cases answer with
  | error error =>
    change (discipline platform requests).Keeps thread _ (releaseBudget (requests thread) >>= fun _ => Prog.fail error)
    exact keeps_quiet (only_bind quiet_releaseBudget fun _ => trivial)
  | ok savedAgent => exact (keeps_afterAgent prepares savedAgent).mono fun _ known => known savedAgent rfl

theorem claim_granted {world next : World} {answer : Except PyError (Bool × Json)} (inv : Inv platform requests world)
    (executed : World.Exec thread world
      (.claim (pairKey (requests thread).invocationId) (pair (requests thread))) answer next) {claimed : Bool × Json}
    (answered : answer = .ok claimed) (granted : claimed.1 = true) : Known requests thread Unstarted next := by
  cases executed
  rcases claim_world inv thread with ⟨existing, refused, -⟩ | ⟨-, free, same⟩
  · rw [refused] at answered
    cases answered
    cases granted
  · rw [same]
    refine ⟨Function.update_self .., ?_⟩
    change world.starts.filter _ = []
    rw [List.filter_eq_nil_iff]
    intro start started other
    obtain ⟨named, -, taken, -⟩ := inv.starts start started
    unfold Claimed at taken
    rw [named, of_decide_eq_true other, free] at taken
    cases taken

theorem keeps_claimPair (prepares : Prepares (requests thread) prepared) (running : Option Record) :
    (discipline platform requests).Keeps thread (fun _ => True)
      (claimPair platform (requests thread) prepared running) := by
  refine bind_quiet (fun _ _ known _ => known) (quiet_effectiveConfiguration prepared) fun configured =>
    bind_quiet (fun _ _ known _ => known) (quiet_check _) fun modelRequest => ?_
  refine triple_call (fun answer world => ∀ claimed, answer = .ok claimed → claimed.1 = true →
      Known requests thread Unstarted world) (fun _ _ known _ => known) (fun _ _ _ => ⟨rfl, rfl⟩)
    (fun world answer next inv _ executed _ claimed answered granted => claim_granted inv executed answered granted)
    fun answer => ?_
  cases answer with
  | error error => exact keeps_raise
  | ok claimed =>
    change (discipline platform requests).Triple thread _
      (afterClaim platform (requests thread) prepared modelRequest configured.2 running claimed) _
    unfold afterClaim
    split
    · rename_i granted
      cases running with
      | some agent => exact keeps_quiet (only_bind quiet_releaseBudget fun _ => trivial)
      | none => exact (keeps_createAgent prepares).mono fun _ known => known claimed rfl granted
    · refine keeps_quiet (only_bind quiet_releaseBudget fun _ => ?_)
      split
      · exact only_bind (quiet_get _) fun _ => trivial
      · trivial

theorem keeps_invokeAgent : (discipline platform requests).Keeps thread (fun _ => True)
    (invokeAgent platform (requests thread)) := by
  refine bind_quiet (fun _ _ known _ => known) (quiet_lineage _ _) fun allowed => ?_
  cases ran : prepare platform (requests thread) allowed with
  | error error => exact keeps_raise
  | ok prepared =>
    have prepares := prepare_ok ran
    change (discipline platform requests).Keeps thread _ (invokePrepared platform (requests thread) prepared)
    refine bind_quiet (fun _ _ known _ => known) (quiet_get _) fun existingAgent =>
      bind_quiet (fun _ _ known _ => known) (quiet_check _) fun _ => ?_
    cases existingAgent.filter isFinished with
    | some finished => exact keeps_ret
    | none =>
      exact bind_quiet (fun _ _ known _ => known) (quiet_get _) fun existingModel =>
        bind_quiet (fun _ _ known _ => known) (quiet_check _) fun running => keeps_claimPair prepares running

end Calls

section Runs

variable {world next : World}

def Stored (id : String) (record : Record) (world : World) : Prop := world.store.get id = some record

theorem exec_finished {effect : Effect} {answer : effect.Answer} (inv : Inv platform requests world)
    (permitted : Permitted platform requests thread world effect)
    (executed : World.Exec thread world effect answer next) {id : String} {record : Record}
    (found : Stored id record world) (finished : record.field "status" ≠ .str "RUNNING") : Stored id record next := by
  cases executed with
  | claim key value =>
    obtain ⟨rfl, rfl⟩ := permitted
    rcases claim_world inv thread with ⟨existing, -, same⟩ | ⟨-, -, same⟩ <;> (rw [same]; exact found)
  | create created key =>
    obtain ⟨claimed, starts⟩ := permitted
    have creates : Creates (requests thread) created key := starts.elim AgentStart.creates ModelStart.creates
    rcases create_step created key world.store with ⟨same, -⟩ | ⟨-, added, -, -⟩
    · rw [same]
      exact found
    · exact (creates.touches added).finished found finished
  | updateStatus target status updatedAt clock changes =>
    rcases update_step live_running target status updatedAt clock changes world.store with
      ⟨same, -⟩ | ⟨old, now, there, running, -, -, same⟩
    · rw [same]
      exact found
    · rw [same]
      refine (Store.get_put _ _ _ _).trans ((if_neg ?_).trans found)
      rintro rfl
      obtain rfl := Option.some.inj (there.symm.trans found)
      exact finished running
  | _ => exact found

/-- What holds of the invocations in a state, of which the second is a later one. -/
structure InvokedOnce (platform : Platform) (requests : Nat → Request)
    (config later : Machine.Config Effects World PyError Record) : Prop where
  invocations : (config.shared.starts.map Start.invocationId).Nodup
  modelInvocations : (config.shared.starts.map Start.modelInvocationId).Nodup
  closed : ∀ id record, config.shared.store.get id = some record → isAgent record ∨ isModel record →
    record.field "status" ≠ .str "RUNNING" → later.shared.store.get id = some record
  succeeded : ∀ id record, config.shared.store.get id = some record → isAgent record →
    record.field "status" = .str "SUCCEEDED" → ∃ i model, (requests i).invocationId = id ∧
      ⟨i, id, (requests i).modelInvocationId⟩ ∈ config.shared.starts ∧
      Passed (requests i) config.shared.store model ∧ Agrees platform (requests i) model record

/-- Whatever calls share a store, with any ids, the adapter is started once per invocation and once per model
    invocation, a record is closed once, and a success is that of its model invocation with an output that passed. -/
theorem invoke_agent_once (platform : Platform) (requests : Nat → Request) {store : Store} (fresh : Uninvoked store)
    {config later : Machine.Config Effects World PyError Record}
    (reached : machine.Reaches (fun _ _ _ => True) (start platform requests store) config)
    (continued : machine.Reaches (fun _ _ _ => True) config later) : InvokedOnce platform requests config later := by
  have initially : Inv platform requests ⟨store, fun _ => none, []⟩ := by
    refine ⟨fresh.wellFormed, fun _ _ found => ?_, fun id _ keyed => ?_, fun id _ keyed => ?_,
      fun id record found agent => absurd agent (fresh.records id record found).1,
      fun id record found model => absurd model (fresh.records id record found).2,
      fun id record found agent => absurd agent (fresh.records id record found).1, fun _ started => ?_, .nil, .nil⟩
    · cases found
    · rw [fresh.agentKeys] at keyed
      cases keyed
    · rw [fresh.modelKeys] at keyed
      cases keyed
    · cases started
  have begins : (discipline platform requests).Holds (fun _ _ _ => True) (start platform requests store) :=
    holds_of_keeps initially fun i => keeps_invokeAgent
  have stable (i : Nat) :
      (discipline platform requests).Stable i fun (_ : World) (_ : Except PyError Record) => True :=
    fun _ _ _ _ _ => trivial
  have holds := begins.reaches stable reached
  have inv : Inv platform requests config.shared := holds.1
  refine ⟨inv.agentOnce, inv.modelOnce, fun id record found invocation finished => ?_,
    fun id record found agent done => ?_⟩
  · have there : Stored id record config.shared := found
    suffices kept : Stored id record later.shared from kept
    refine Holds.invariant stable holds there ?_ ?_ continued
    · intro i world effect answer next inv permitted _ executed there
      exact exec_finished inv permitted executed there finished
    · rintro world next _ ⟨-, -, foreign⟩ there
      exact (foreign.records id record invocation).mpr there
  · obtain ⟨i, claimed, named, state⟩ := inv.agents id record found agent
    obtain ⟨start, started, startNamed⟩ := inv.succeeded id record found agent done
    obtain ⟨ofThread, modelNamed, alsoClaimed, -⟩ := inv.starts start started
    obtain rfl := claimed.unique alsoClaimed (named.trans (startNamed.symm.trans ofThread.symm))
    cases state with
    | running status => simp [done] at status
    | failed status => simp [done] at status
    | succeeded _ model passed agrees =>
      refine ⟨start.thread, model, named, ?_, passed, agrees⟩
      rw [modelNamed, ← startNamed]
      exact started

end Runs

section Sample

def samplePlatform : Platform where
  uuid5 name := name
  sha256 text := text
  strip text := text
  isRfc3339Timestamp _ := true
  instant _ := none
  violation _ _ := none
  recursionLimit := 1000
  contentDigest _ := "0123456789abcdef"
  identityDigest _ := "0123456789abcdef"
  schemaError _ := none
  outputErrors schema output := .ok (if schema = .obj [] ∨ schema = output then [] else ["$: is not the schema"])

def sampleRef (kind : String) : Record := [("kind", .str kind), ("name", .str "analyze"), ("version", .str "1.0.0")]

def sampleOwned (kind id : String) : Record := [
  ("kind", .str kind), ("id", .str id), ("traceId", .str "trace-1"), ("repositoryRevision", .str "abc"),
  ("provenance", .obj [("workflowExecutionId", .str "workflow-1"), ("taskExecutionId", .str "task-1"),
    ("resourceRefs", .arr [.obj (sampleRef "Agent")])])]

def sampleRequests (i : Nat) : Request where
  invocationId := if i = 0 then "agent-1" else "agent-2"
  modelInvocationId := "model-1"
  resolvedAgent := sampleOwned "ResolvedAgent" "resolved-1" ++ [
    ("taskExecutionId", .str "task-1"), ("promptRef", .obj (sampleRef "Prompt")),
    ("modelRef", .obj (sampleRef "Model")), ("outputSchema", .obj [])]
  contextPackage := sampleOwned "ContextPackage" "context-1" ++ [("elements", .arr [])]
  prompt := [("kind", .str "Prompt"),
    ("metadata", .obj [("name", .str "analyze"), ("version", .str "1.0.0")]), ("spec", .obj [])]
  modelConfiguration := ⟨sampleRef "Model", "openai", "gpt", [], none, none, [], []⟩
  startedAt := "2026-01-01T00:00:00Z"
  completedAt := "2026-01-01T00:01:00Z"
  lifecycleLogger := true
  outputValidator := some fun _ => .ok []
  budget := true
  clock := true

def respond (thread : Nat) (world : World) : (effect : Effect) → effect.Answer × World
  | .clock => (.ok "2026-01-01T00:02:00Z", world)
  | .emit .. => (.ok (), world)
  | .preflight _ => (.ok ⟨some 100, some 1⟩, world)
  | .release => (.ok (), world)
  | .record _ => (.ok [], world)
  | .invoke invocationId modelInvocationId _ =>
    (.returned { output := .ok (.str "done"), inputTokens := 1, outputTokens := 1, latencyMs := 5 },
      { world with starts := world.starts ++ [⟨thread, invocationId, modelInvocationId⟩] })
  | .get objectId => (world.store.get objectId, world)
  | .claim key value =>
    let outcome := RuntimeStore.claim key (.obj value) world.store
    (outcome.1, (world.move outcome.2).claimed thread key outcome.1)
  | .create record key =>
    let outcome := RuntimeStore.create (.obj record) key world.store
    (outcome.1, world.move outcome.2)
  | .updateStatus objectId status updatedAt changes =>
    let outcome := RuntimeStore.updateStatus objectId status (some "RUNNING") (some updatedAt) changes "" world.store
    (outcome.1, world.move outcome.2)

theorem exec_respond (thread : Nat) (world : World) (effect : Effect) :
    World.Exec thread world effect (respond thread world effect).1 (respond thread world effect).2 := by
  cases effect with
  | clock => exact .clock _
  | emit eventName record timestamp attributes => exact .emit _ _ _ _ _
  | preflight arguments => exact .preflight _ _
  | release => exact .release _
  | record charge => exact .record _ _
  | invoke invocationId modelInvocationId request => exact .invoke _ _ request _
  | get objectId => exact .get _
  | claim key value => exact .claim key value
  | create record key => exact .create record key
  | updateStatus objectId status updatedAt changes => exact .updateStatus _ _ _ "" _

def sampleRun (thread steps : Nat) (world : World) : World × Prog Record :=
  Machine.advance (respond thread) steps world (invokeAgent samplePlatform (sampleRequests thread))

theorem sample_reaches {config : Machine.Config Effects World PyError Record} (i steps : Nat) {world : World}
    (shared : config.shared = world) (thread : config.threads i = invokeAgent samplePlatform (sampleRequests i)) :
    ∃ next, machine.Reaches (fun _ _ _ => True) config next ∧ next.shared = (sampleRun i steps world).1 ∧
      ∀ j, j ≠ i → next.threads j = config.threads j := by
  have reaches : machine.Reaches (fun _ _ _ => True) config
      ⟨(Machine.advance (respond i) steps config.shared (config.threads i)).1, Function.update config.threads i
        (Machine.advance (respond i) steps config.shared (config.threads i)).2⟩ :=
    Machine.reaches_advance (exec_respond i) steps config (Machine.meetsAlong_of_forall (fun _ _ => trivial) _ _ _ _)
  rw [shared, thread] at reaches
  exact ⟨_, reaches, rfl, fun j other => Function.update_of_ne other ..⟩

def claimedWorld : World := (sampleRun 0 4 ⟨{}, fun _ => none, []⟩).1

theorem uninvoked_empty : Uninvoked {} where
  wellFormed := Store.wellFormed_empty
  records _ _ found := by cases found
  agentKeys _ := rfl
  modelKeys _ := rfl

theorem invoke_agent_once_shared : ∃ config, machine.Reaches (fun _ _ _ => True)
    (start samplePlatform sampleRequests {}) config ∧
      (config.shared.store.get "agent-2").map (fun record => record.field "status") = some (.str "SUCCEEDED") ∧
      config.shared.starts = [⟨1, "agent-2", "model-1"⟩] ∧ InvokedOnce samplePlatform sampleRequests config config := by
  have begins : (start samplePlatform sampleRequests {}).shared = ⟨{}, fun _ => none, []⟩ := rfl
  obtain ⟨claimed, first, shared, kept⟩ := sample_reaches 0 4 begins rfl
  have between : claimed.shared = claimedWorld := shared
  obtain ⟨config, second, shared, -⟩ := sample_reaches 1 15 between (kept 1 (by decide))
  have reaches := first.trans second
  have succeeded : ((sampleRun 1 15 claimedWorld).1.store.get "agent-2").map (fun record => record.field "status") =
      some (.str "SUCCEEDED") := by decide +kernel
  have started : (sampleRun 1 15 claimedWorld).1.starts = [⟨1, "agent-2", "model-1"⟩] := by decide +kernel
  rw [← shared] at succeeded started
  exact ⟨config, reaches, succeeded, started,
    invoke_agent_once samplePlatform sampleRequests uninvoked_empty reaches .refl⟩

end Sample

end Aep.AgentInvocation
