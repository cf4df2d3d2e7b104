import Aep.AgentInvocation.Coordinator
import Aep.Library.RelyGuarantee
import Aep.RuntimeStore.Steps

namespace Aep.AgentInvocation

open RuntimeStore

structure Start where
  thread : Nat
  invocationId : String
  modelInvocationId : String
  deriving DecidableEq

/-- The store, the calls that claimed the pairs, and the starts of the adapter. -/
structure World where
  store : Store
  claimant : String → Option Nat
  starts : List Start

namespace World

def move (world : World) (store : Store) : World := { world with store }

def claimed (world : World) (thread : Nat) (key : String) : Except PyError (Bool × Json) → World
  | .ok (true, _) => { world with claimant := Function.update world.claimant key (some thread) }
  | _ => world

/-- How a call is carried out: a store call in one step, the others with any answer. -/
inductive Exec (thread : Nat) (world : World) : (effect : Effect) → effect.Answer → World → Prop where
  | clock (answer : Except PyError String) : Exec thread world .clock answer world
  | emit (eventName : String) (runtimeObject : Record) (timestamp : String) (attributes : Option Record)
      (answer : Except PyError Unit) :
      Exec thread world (.emit eventName runtimeObject timestamp attributes) answer world
  | preflight (arguments : Preflight) (answer : Except PyError Reservation) :
      Exec thread world (.preflight arguments) answer world
  | release (answer : Except PyError Unit) : Exec thread world .release answer world
  | record (charge : Charge) (answer : Except PyError Record) : Exec thread world (.record charge) answer world
  | invoke (invocationId modelInvocationId : String) (request : ModelRequest) (answer : Invoked) :
      Exec thread world (.invoke invocationId modelInvocationId request) answer
        { world with starts := world.starts ++ [⟨thread, invocationId, modelInvocationId⟩] }
  | get (objectId : String) : Exec thread world (.get objectId) (world.store.get objectId) world
  | claim (key : String) (value : Record) :
      Exec thread world (.claim key value) (RuntimeStore.claim key (.obj value) world.store).1
        ((world.move (RuntimeStore.claim key (.obj value) world.store).2).claimed thread key
          (RuntimeStore.claim key (.obj value) world.store).1)
  | create (record : Record) (key : String) :
      Exec thread world (.create record key) (RuntimeStore.create (.obj record) key world.store).1
        (world.move (RuntimeStore.create (.obj record) key world.store).2)
  | updateStatus (objectId status updatedAt clock : String) (changes : Record) :
      Exec thread world (.updateStatus objectId status updatedAt changes)
        (RuntimeStore.updateStatus objectId status (some "RUNNING") (some updatedAt) changes clock world.store).1
        (world.move
          (RuntimeStore.updateStatus objectId status (some "RUNNING") (some updatedAt) changes clock world.store).2)

end World

def isAgent (record : Record) : Prop := record.field "kind" = .str "AgentInvocation"

def isModel (record : Record) : Prop := record.field "kind" = .str "ModelInvocation"

instance (record : Record) : Decidable (isAgent record) := inferInstanceAs (Decidable (_ = _))

instance (record : Record) : Decidable (isModel record) := inferInstanceAs (Decidable (_ = _))

/-- What all else does to the store: it leaves the records, the keys and the claims of invocations alone. -/
structure Foreign (before after : Store) : Prop where
  wellFormed : after.WellFormed
  records : ∀ id record, isAgent record ∨ isModel record → (after.get id = some record ↔ before.get id = some record)
  agentKeys : ∀ id, after.deterministicKeys.get? (agentKey id) = before.deterministicKeys.get? (agentKey id)
  modelKeys : ∀ id, after.deterministicKeys.get? (modelKey id) = before.deterministicKeys.get? (modelKey id)
  claims : ∀ id, after.claims.get? (pairKey id) = before.claims.get? (pairKey id)

def machine : Machine Effects World where
  exec := World.Exec
  foreign before after := after.claimant = before.claimant ∧ after.starts = before.starts ∧
    Foreign before.store after.store

structure Uninvoked (store : Store) : Prop where
  wellFormed : store.WellFormed
  records : ∀ id record, store.get id = some record → ¬isAgent record ∧ ¬isModel record
  agentKeys : ∀ id, store.deterministicKeys.get? (agentKey id) = none
  modelKeys : ∀ id, store.deterministicKeys.get? (modelKey id) = none

def start (platform : Platform) (requests : Nat → Request) (store : Store) :
    Machine.Config Effects World PyError Record where
  shared := ⟨store, fun _ => none, []⟩
  threads i := invokeAgent platform (requests i)

end Aep.AgentInvocation

namespace Aep.AgentInvocation

open RuntimeStore StateAction

section Invariant

def OwnedBy (invocationId : String) (record : Record) : Prop :=
  (isAgent record ∧ record.field "id" = .str invocationId) ∨
    (isModel record ∧ record.field "agentInvocationId" = .str invocationId)

instance (invocationId : String) (record : Record) : Decidable (OwnedBy invocationId record) :=
  inferInstanceAs (Decidable (_ ∨ _))

def ownedAt (invocationId : String) (world : World) (id : String) : Option Record :=
  (world.store.get id).filter fun record => OwnedBy invocationId record

def startsOf (invocationId : String) (world : World) : List Start :=
  world.starts.filter fun start => start.invocationId = invocationId

variable (platform : Platform)

def Satisfies (request : Request) (output : Json) : Prop :=
  ∃ schema, request.resolvedAgent.get? "outputSchema" = some schema ∧ platform.outputErrors schema output = .ok [] ∧
    ∀ validator ∈ request.outputValidator, validator output = .ok []

/-- The fields of an invocation that say what its model invocation says. -/
structure Agrees (request : Request) (model fields : Record) : Prop where
  ids : fields.field "modelInvocationIds" = .arr [.str request.modelInvocationId]
  usage : ∃ usage, fields.get? "tokenUsage" = some usage ∧ model.get? "tokenUsage" = some usage
  cost : fields.get? "cost" = model.get? "cost"
  output : ∃ output, fields.get? "output" = some output ∧
    model.field "outputAddress" = .str (contentAddress platform output) ∧ Satisfies platform request output

/-- The model invocation of a request succeeded with an output that passed. -/
structure Passed (request : Request) (store : Store) (model : Record) : Prop where
  found : store.get request.modelInvocationId = some model
  kind : isModel model
  owner : model.field "agentInvocationId" = .str request.invocationId
  status : model.field "status" = .str "SUCCEEDED"
  validation : model.field "schemaValidation" = .str "PASSED"

inductive AgentState (request : Request) (store : Store) (record : Record) : Prop where
  | running (status : record.field "status" = .str "RUNNING") (uncosted : record.get? "cost" = none)
  | failed (status : record.field "status" = .str "FAILED")
  | succeeded (status : record.field "status" = .str "SUCCEEDED") (model : Record)
      (passed : Passed request store model) (agrees : Agrees platform request model record)

/-- The record of a model invocation that was created by a call. -/
structure ModelState (request : Request) (id : String) (record : Record) : Prop where
  named : id = request.modelInvocationId
  owner : record.field "agentInvocationId" = .str request.invocationId
  status : (record.field "status" = .str "RUNNING" ∧ record.get? "cost" = none) ∨
    record.field "status" = .str "FAILED" ∨ record.field "status" = .str "SUCCEEDED"

variable (requests : Nat → Request)

def Claimed (thread : Nat) (world : World) : Prop :=
  world.claimant (pairKey (requests thread).invocationId) = some thread

structure Inv (world : World) : Prop where
  wellFormed : world.store.WellFormed
  claimed : ∀ key thread, world.claimant key = some thread →
    key = pairKey (requests thread).invocationId ∧ world.store.claims.get? key ≠ none
  agentKeyed : ∀ id other, world.store.deterministicKeys.get? (agentKey id) = some other →
    other = id ∧ ∃ record, world.store.get id = some record ∧ isAgent record
  modelKeyed : ∀ id other, world.store.deterministicKeys.get? (modelKey id) = some other →
    other = id ∧ ∃ record, world.store.get id = some record ∧ isModel record
  agents : ∀ id record, world.store.get id = some record → isAgent record → ∃ thread,
    Claimed requests thread world ∧ (requests thread).invocationId = id ∧
      AgentState platform (requests thread) world.store record
  models : ∀ id record, world.store.get id = some record → isModel record → ∃ thread,
    Claimed requests thread world ∧ ModelState (requests thread) id record
  succeeded : ∀ id record, world.store.get id = some record → isAgent record →
    record.field "status" = .str "SUCCEEDED" → ∃ start ∈ world.starts, start.invocationId = id
  starts : ∀ start ∈ world.starts, (requests start.thread).invocationId = start.invocationId ∧
    (requests start.thread).modelInvocationId = start.modelInvocationId ∧ Claimed requests start.thread world ∧
    ∃ record, world.store.get start.modelInvocationId = some record ∧ isModel record ∧
      record.field "agentInvocationId" = .str start.invocationId
  agentOnce : (world.starts.map Start.invocationId).Nodup
  modelOnce : (world.starts.map Start.modelInvocationId).Nodup

structure Rely (thread : Nat) (before after : World) : Prop where
  claimant : ∀ key other, before.claimant key = some other → after.claimant key = some other
  records : Claimed requests thread before → ∀ id,
    ownedAt (requests thread).invocationId after id = ownedAt (requests thread).invocationId before id
  starts : Claimed requests thread before →
    startsOf (requests thread).invocationId after = startsOf (requests thread).invocationId before

variable {platform requests}

structure AgentStart (request : Request) (record : Record) (key : String) : Prop where
  key : key = agentKey request.invocationId
  kind : isAgent record
  id : record.field "id" = .str request.invocationId
  status : record.field "status" = .str "RUNNING"
  uncosted : record.get? "cost" = none

structure ModelStart (request : Request) (record : Record) (key : String) : Prop where
  key : key = modelKey request.modelInvocationId
  kind : isModel record
  id : record.field "id" = .str request.modelInvocationId
  owner : record.field "agentInvocationId" = .str request.invocationId
  status : record.field "status" = .str "RUNNING"
  uncosted : record.get? "cost" = none

variable (platform)

/-- An update of the agent's record: a failure, or what the model invocation that passed says. -/
structure AgentEnd (request : Request) (world : World) (id status : String) (changes : Record) : Prop where
  named : id = request.invocationId
  there : ∃ record, world.store.get id = some record ∧ isAgent record
  outcome : status = "FAILED" ∨ (status = "SUCCEEDED" ∧
    (∃ start ∈ world.starts, start.invocationId = request.invocationId) ∧
    ∃ model, Passed request world.store model ∧ Agrees platform request model changes)

structure ModelEnd (request : Request) (world : World) (id status : String) (changes : Record) : Prop where
  named : id = request.modelInvocationId
  there : ∃ record, ownedAt request.invocationId world id = some record ∧ isModel record
  unowned : changes.get? "agentInvocationId" = none
  outcome : status = "FAILED" ∨ status = "SUCCEEDED"

variable (requests)

def Permitted (thread : Nat) (world : World) : Effect → Prop
  | .claim key value => key = pairKey (requests thread).invocationId ∧ value = pair (requests thread)
  | .create record key => Claimed requests thread world ∧
      (AgentStart (requests thread) record key ∨ ModelStart (requests thread) record key)
  | .updateStatus id status _ changes => Claimed requests thread world ∧
      (AgentEnd platform (requests thread) world id status changes ∨ ModelEnd (requests thread) world id status changes)
  | .invoke invocationId modelInvocationId _ => Claimed requests thread world ∧
      invocationId = (requests thread).invocationId ∧ modelInvocationId = (requests thread).modelInvocationId ∧
      startsOf invocationId world = [] ∧
      ∃ record, ownedAt invocationId world modelInvocationId = some record ∧ isModel record
  | _ => True

end Invariant

variable {platform : Platform} {requests : Nat → Request} {thread : Nat} {world next last : World}

section Rely

theorem Rely.refl (thread : Nat) (world : World) : Rely requests thread world world :=
  ⟨fun _ _ found => found, fun _ _ => rfl, fun _ => rfl⟩

theorem Rely.trans (first : Rely requests thread world next) (second : Rely requests thread next last) :
    Rely requests thread world last := by
  refine ⟨fun key other found => second.claimant _ _ (first.claimant _ _ found), fun claimed id => ?_,
    fun claimed => ?_⟩
  · rw [second.records (first.claimant _ _ claimed), first.records claimed]
  · rw [second.starts (first.claimant _ _ claimed), first.starts claimed]

end Rely

section Owners

variable {record : Record} {owner other id : String}

theorem isAgent.not_isModel (agent : isAgent record) : ¬isModel record := by
  unfold isAgent at agent
  unfold isModel
  rw [agent]
  simp

theorem OwnedBy.unique (first : OwnedBy owner record) (second : OwnedBy other record) : owner = other := by
  rcases first with ⟨agent, named⟩ | ⟨model, owned⟩
  · rcases second with ⟨-, named'⟩ | ⟨model, -⟩
    · exact Json.str.inj (named.symm.trans named')
    · exact absurd model agent.not_isModel
  · rcases second with ⟨agent, -⟩ | ⟨-, owned'⟩
    · exact absurd model agent.not_isModel
    · exact Json.str.inj (owned.symm.trans owned')

theorem ownedAt_eq_some : ownedAt owner world id = some record ↔
    world.store.get id = some record ∧ OwnedBy owner record := by
  simp [ownedAt, Option.filter_eq_some_iff]

theorem ownedAt_agent (found : world.store.get id = some record) (wellFormed : world.store.WellFormed)
    (agent : isAgent record) : ownedAt id world id = some record := by
  obtain ⟨valid, named⟩ := wellFormed.valid found
  refine ownedAt_eq_some.mpr ⟨found, .inl ⟨agent, ?_⟩⟩
  rw [valid.id_eq, named]

theorem agentKey_inj (same : agentKey owner = agentKey other) : owner = other := by
  unfold agentKey at same
  exact String.append_right_inj _ |>.mp same

theorem modelKey_inj (same : modelKey owner = modelKey other) : owner = other := by
  unfold modelKey at same
  exact String.append_right_inj _ |>.mp same

theorem agentKey_ne_modelKey (owner other : String) : agentKey owner ≠ modelKey other := by
  intro same
  unfold agentKey modelKey at same
  have heads := congrArg (fun text : String => text.toList.head?) same
  simp at heads

theorem Claimed.unique {first second : Nat} (one : Claimed requests first world) (two : Claimed requests second world)
    (same : (requests first).invocationId = (requests second).invocationId) : first = second := by
  unfold Claimed at one two
  rw [same, two] at one
  exact (Option.some.inj one).symm

end Owners

section Effects

/-- The call changes the one record at an id, where there was none or one of the same owner. -/
structure Touches (owner : String) (before after : Store) (target : String) (new : Record) : Prop where
  get : ∀ wanted, after.get wanted = if target = wanted then some new else before.get wanted
  old : ∀ record, before.get target = some record → OwnedBy owner record ∧ (isAgent record ↔ isAgent new) ∧
    record.field "status" = .str "RUNNING"
  new : OwnedBy owner new

theorem Touches.owned {owner other target : String} {new : Record} {store : Store}
    (touches : Touches owner world.store store target new) (different : other ≠ owner) (id : String) :
    ownedAt other (world.move store) id = ownedAt other world id := by
  unfold ownedAt
  change (store.get id).filter _ = _
  rw [touches.get]
  by_cases same : target = id
  · subst same
    rw [if_pos rfl, Option.filter_some, if_neg]
    · cases found : world.store.get target with
      | none => rfl
      | some record =>
        rw [Option.filter_some, if_neg]
        simp only [decide_eq_true_eq]
        exact fun owned => different (owned.unique (touches.old record found).1)
    · simp only [decide_eq_true_eq]
      exact fun owned => different (owned.unique touches.new)
  · rw [if_neg same]

end Effects

section Steps

variable {target : String} {new : Record} {after : Store}

theorem Touches.finished {owner : String} {before : Store} (touches : Touches owner before after target new)
    {id : String} {record : Record} (found : before.get id = some record)
    (finished : record.field "status" ≠ .str "RUNNING") : after.get id = some record := by
  rw [touches.get, if_neg, found]
  rintro rfl
  exact finished (touches.old record found).2.2

theorem Passed.keep {request : Request} {before : Store} {model : Record} (passed : Passed request before model)
    (kept : after.get request.modelInvocationId = some model) : Passed request after model :=
  ⟨kept, passed.kind, passed.owner, passed.status, passed.validation⟩

theorem AgentState.keep {request : Request} {before : Store} {record : Record}
    (state : AgentState platform request before record)
    (kept : ∀ model, Passed request before model → after.get request.modelInvocationId = some model) :
    AgentState platform request after record := by
  cases state with
  | running status uncosted => exact .running status uncosted
  | failed status => exact .failed status
  | succeeded status model passed agrees => exact .succeeded status model (passed.keep (kept model passed)) agrees

theorem Passed.finished {request : Request} {store : Store} {model : Record} (passed : Passed request store model) :
    model.field "status" ≠ .str "RUNNING" := by
  rw [passed.status]
  simp

theorem Inv.touch (inv : Inv platform requests world) (claimed : Claimed requests thread world)
    (touches : Touches (requests thread).invocationId world.store after target new) (wellFormed : after.WellFormed)
    (claims : after.claims = world.store.claims)
    (agentKeyed : ∀ id other, after.deterministicKeys.get? (agentKey id) = some other →
      world.store.deterministicKeys.get? (agentKey id) = some other ∨ (other = id ∧ id = target ∧ isAgent new))
    (modelKeyed : ∀ id other, after.deterministicKeys.get? (modelKey id) = some other →
      world.store.deterministicKeys.get? (modelKey id) = some other ∨ (other = id ∧ id = target ∧ isModel new))
    (agent : isAgent new → (requests thread).invocationId = target ∧ AgentState platform (requests thread) after new)
    (succeeded : isAgent new → new.field "status" = .str "SUCCEEDED" →
      ∃ start ∈ world.starts, start.invocationId = target)
    (model : isModel new → ModelState (requests thread) target new) : Inv platform requests (world.move after) := by
  have here : after.get target = some new := by rw [touches.get, if_pos rfl]
  have elsewhere {id : String} (other : target ≠ id) : after.get id = world.store.get id := by
    rw [touches.get, if_neg other]
  have stillModel {record : Record} (found : world.store.get target = some record) (wasModel : isModel record) :
      isModel new := by
    rcases touches.new with ⟨isNow, -⟩ | ⟨isNow, -⟩
    · exact absurd wasModel ((touches.old record found).2.1.mpr isNow).not_isModel
    · exact isNow
  refine ⟨wellFormed, fun key other found => ?_, fun id other keyed => ?_, fun id other keyed => ?_,
    fun id record found isNow => ?_, fun id record found isNow => ?_, fun id record found isNow done => ?_,
    fun start started => ?_, inv.agentOnce, inv.modelOnce⟩
  · rw [World.move, claims]
    exact inv.claimed key other found
  · rcases agentKeyed id other keyed with before | ⟨same, rfl, isNow⟩
    · obtain ⟨same, record, found, wasAgent⟩ := inv.agentKeyed id other before
      refine ⟨same, ?_⟩
      by_cases touched : target = id
      · subst touched
        exact ⟨new, here, (touches.old record found).2.1.mp wasAgent⟩
      · exact ⟨record, (elsewhere touched).trans found, wasAgent⟩
    · exact ⟨same, new, here, isNow⟩
  · rcases modelKeyed id other keyed with before | ⟨same, rfl, isNow⟩
    · obtain ⟨same, record, found, wasModel⟩ := inv.modelKeyed id other before
      refine ⟨same, ?_⟩
      by_cases touched : target = id
      · subst touched
        exact ⟨new, here, stillModel found wasModel⟩
      · exact ⟨record, (elsewhere touched).trans found, wasModel⟩
    · exact ⟨same, new, here, isNow⟩
  · by_cases touched : target = id
    · subst touched
      obtain rfl := Option.some.inj (here.symm.trans found)
      obtain ⟨named, state⟩ := agent isNow
      exact ⟨thread, claimed, named, state⟩
    · obtain ⟨other, owned, named, state⟩ := inv.agents id record ((elsewhere touched).symm.trans found) isNow
      exact ⟨other, owned, named, state.keep fun _ passed => touches.finished passed.found passed.finished⟩
  · by_cases touched : target = id
    · subst touched
      obtain rfl := Option.some.inj (here.symm.trans found)
      exact ⟨thread, claimed, model isNow⟩
    · exact inv.models id record ((elsewhere touched).symm.trans found) isNow
  · by_cases touched : target = id
    · subst touched
      obtain rfl := Option.some.inj (here.symm.trans found)
      exact succeeded isNow done
    · exact inv.succeeded id record ((elsewhere touched).symm.trans found) isNow done
  · obtain ⟨named, modelNamed, owned, record, found, wasModel, owner⟩ := inv.starts start started
    refine ⟨named, modelNamed, owned, ?_⟩
    by_cases touched : target = start.modelInvocationId
    · subst touched
      have isNow := stillModel found wasModel
      have owners : (requests thread).invocationId = start.invocationId :=
        (touches.old record found).1.unique (.inr ⟨wasModel, owner⟩)
      refine ⟨new, here, isNow, ?_⟩
      rcases touches.new with ⟨wrong, -⟩ | ⟨-, owner⟩
      · exact absurd isNow wrong.not_isModel
      · rw [owner, owners]
    · exact ⟨record, (elsewhere touched).trans found, wasModel, owner⟩

structure Creates (request : Request) (record : Record) (key : String) : Prop where
  owned : OwnedBy request.invocationId record
  key : (key = agentKey (objectId record) ∧ isAgent record) ∨ (key = modelKey (objectId record) ∧ isModel record)
  agent : isAgent record → request.invocationId = objectId record ∧ record.field "status" = .str "RUNNING" ∧
    record.get? "cost" = none
  model : isModel record → ModelState request (objectId record) record

theorem AgentStart.creates {request : Request} {record : Record} {key : String}
    (start : AgentStart request record key) : Creates request record key := by
  have named : objectId record = request.invocationId := by
    unfold objectId
    rw [start.id]
    rfl
  refine ⟨.inl ⟨start.kind, start.id⟩, .inl ⟨?_, start.kind⟩, fun _ => ⟨named.symm, start.status, start.uncosted⟩,
    fun model => absurd model start.kind.not_isModel⟩
  rw [named, start.key]

theorem ModelStart.creates {request : Request} {record : Record} {key : String}
    (start : ModelStart request record key) : Creates request record key := by
  have named : objectId record = request.modelInvocationId := by
    unfold objectId
    rw [start.id]
    rfl
  refine ⟨.inr ⟨start.kind, start.owner⟩, .inr ⟨?_, start.kind⟩, fun agent => absurd start.kind agent.not_isModel,
    fun _ => ⟨named, start.owner, .inl ⟨start.status, start.uncosted⟩⟩⟩
  rw [named, start.key]

theorem Creates.touches {request : Request} {record : Record} {key : String} (creates : Creates request record key)
    (added : world.store.Added after record key) :
    Touches request.invocationId world.store after (objectId record) record := by
  refine ⟨added.get, fun old found => ?_, creates.owned⟩
  rw [added.fresh] at found
  cases found

theorem Inv.create (inv : Inv platform requests world) (claimed : Claimed requests thread world) {record : Record}
    {key : String} (creates : Creates (requests thread) record key) (valid : ValidObject record)
    (added : world.store.Added (world.store.insert record key) record key) :
    Inv platform requests (world.move (world.store.insert record key)) := by
  have advanced : world.store.Advances (world.store.insert record key) := .insert valid added.fresh
  have wellFormed := (advanced inv.wellFormed).1
  refine inv.touch claimed (creates.touches added) wellFormed rfl (fun id other keyed => ?_) (fun id other keyed => ?_)
    (fun agent => ?_) (fun agent done => ?_) creates.model
  · rw [added.keys] at keyed
    split at keyed
    · rename_i same
      cases keyed
      rcases creates.key with ⟨named, agent⟩ | ⟨named, -⟩
      · have ids := agentKey_inj (named.symm.trans same)
        exact .inr ⟨ids, ids.symm, agent⟩
      · exact absurd (same.symm.trans named) (agentKey_ne_modelKey _ _)
    · exact .inl keyed
  · rw [added.keys] at keyed
    split at keyed
    · rename_i same
      cases keyed
      rcases creates.key with ⟨named, -⟩ | ⟨named, model⟩
      · exact absurd (named.symm.trans same) (agentKey_ne_modelKey _ _)
      · have ids := modelKey_inj (named.symm.trans same)
        exact .inr ⟨ids, ids.symm, model⟩
    · exact .inl keyed
  · obtain ⟨named, status, uncosted⟩ := creates.agent agent
    exact ⟨named, .running status uncosted⟩
  · rw [(creates.agent agent).2.1] at done
    simp at done

theorem Agrees.withStatus {request : Request} {model changes record : Record} {status now : String}
    (agrees : Agrees platform request model changes) (uncosted : record.get? "cost" = none) :
    Agrees platform request model (withStatus record changes status now) := by
  have fieldOf (field : String) (unmanaged : field ∉ managedFields) :
      (RuntimeStore.withStatus record changes status now).get? field = (changes.get? field).or (record.get? field) :=
    withStatus_get? unmanaged
  obtain ⟨usage, reported, recorded⟩ := agrees.usage
  obtain ⟨output, given, address, satisfied⟩ := agrees.output
  refine ⟨?_, ⟨usage, ?_, recorded⟩, ?_, ⟨output, ?_, address, satisfied⟩⟩
  · have ids := Dict.get?_of_field agrees.ids (by simp)
    refine Dict.field_of_get? ?_
    rw [fieldOf _ (by decide), ids]
    rfl
  · rw [fieldOf _ (by decide), reported]
    rfl
  · rw [fieldOf _ (by decide), uncosted, agrees.cost, Option.or_none]
  · rw [fieldOf _ (by decide), given]
    rfl

variable (platform) in
structure Updates (request : Request) (world : World) (id : String) (record new : Record) : Prop where
  touches : Touches request.invocationId world.store (world.store.put id new) id new
  agent : isAgent new → request.invocationId = id ∧ AgentState platform request (world.store.put id new) new
  succeeded : isAgent new → new.field "status" = .str "SUCCEEDED" → ∃ start ∈ world.starts, start.invocationId = id
  model : isModel new → ModelState request id new

theorem touches_put {owner id status now : String} {record changes : Record} (found : world.store.get id = some record)
    (running : record.field "status" = .str "RUNNING") (evolves : Evolves record (withStatus record changes status now))
    (owned : OwnedBy owner record) (same : OwnedBy owner (withStatus record changes status now)) :
    Touches owner world.store (world.store.put id (withStatus record changes status now)) id
      (withStatus record changes status now) := by
  refine ⟨fun _ => Store.get_put _ _ _ _, fun old there => ?_, same⟩
  obtain rfl := Option.some.inj (found.symm.trans there)
  refine ⟨owned, ?_, running⟩
  unfold isAgent
  rw [evolves.field_eq (by decide)]

theorem AgentEnd.updates (inv : Inv platform requests world)
    {id status now : String} {record changes : Record}
    (ends : AgentEnd platform (requests thread) world id status changes) (found : world.store.get id = some record)
    (running : record.field "status" = .str "RUNNING")
    (evolves : Evolves record (withStatus record changes status now)) : Updates platform (requests thread) world id record (withStatus record changes status now) := by
  obtain ⟨rfl, ⟨old, there, agent⟩, outcome⟩ := ends
  obtain rfl := Option.some.inj (there.symm.trans found)
  have owned := (ownedAt_eq_some.mp (ownedAt_agent found inv.wellFormed agent)).2
  have kind : isAgent (withStatus old changes status now) := (evolves.field_eq (by decide)).trans agent
  have named : (withStatus old changes status now).field "id" = .str (requests thread).invocationId := by
    rw [evolves.field_eq (by decide)]
    rcases owned with ⟨-, named⟩ | ⟨model, -⟩
    · exact named
    · exact absurd model agent.not_isModel
  have touches := touches_put found running evolves owned (.inl ⟨kind, named⟩)
  refine ⟨touches, fun _ => ⟨rfl, ?_⟩, fun _ done => ?_, fun model => absurd model kind.not_isModel⟩
  · rcases outcome with rfl | ⟨rfl, -, model, passed, agrees⟩
    · exact .failed (withStatus_status ..)
    have uncosted : old.get? "cost" = none := by
      obtain ⟨other, claimedBy, same, state⟩ := inv.agents _ old found agent
      cases state with
      | running _ uncosted => exact uncosted
      | failed status => simp [running] at status
      | succeeded status => simp [running] at status
    exact .succeeded (withStatus_status ..) model (passed.keep (touches.finished passed.found passed.finished))
      (agrees.withStatus uncosted)
  · rcases outcome with rfl | ⟨-, started, -⟩
    · rw [withStatus_status] at done
      simp at done
    · exact started

theorem ModelEnd.updates {id status now : String} {record changes : Record}
    (ends : ModelEnd (requests thread) world id status changes) (found : world.store.get id = some record)
    (running : record.field "status" = .str "RUNNING")
    (evolves : Evolves record (withStatus record changes status now)) : Updates platform (requests thread) world id record (withStatus record changes status now) := by
  obtain ⟨named, ⟨old, there, model⟩, unowned, outcome⟩ := ends
  obtain ⟨there, owned⟩ := ownedAt_eq_some.mp there
  obtain rfl := Option.some.inj (there.symm.trans found)
  have kind : isModel (withStatus old changes status now) := (evolves.field_eq (by decide)).trans model
  have owner : (withStatus old changes status now).field "agentInvocationId" = .str (requests thread).invocationId := by
    rcases owned with ⟨agent, -⟩ | ⟨-, owner⟩
    · exact absurd model agent.not_isModel
    · rw [← owner]
      refine Dict.field_congr ?_
      rw [withStatus_get? (by decide), unowned, Option.none_or]
  refine ⟨touches_put found running evolves owned (.inr ⟨kind, owner⟩), fun agent => absurd kind agent.not_isModel,
    fun agent => absurd kind agent.not_isModel, fun _ => ⟨named, owner, .inr ?_⟩⟩
  rw [withStatus_status]
  rcases outcome with rfl | rfl
  · exact .inl rfl
  · exact .inr rfl

theorem Inv.update (inv : Inv platform requests world) (claimed : Claimed requests thread world) {id : String}
    {record new : Record} (found : world.store.get id = some record) (evolves : Evolves record new)
    (updates : Updates platform (requests thread) world id record new) :
    Inv platform requests (world.move (world.store.put id new)) :=
  inv.touch claimed updates.touches (Store.Advances.put found evolves inv.wellFormed).1 rfl
    (fun _ _ keyed => .inl keyed) (fun _ _ keyed => .inl keyed) updates.agent updates.succeeded updates.model

theorem Inv.invoke (inv : Inv platform requests world) (claimed : Claimed requests thread world) {record : Record}
    (unstarted : startsOf (requests thread).invocationId world = [])
    (there : ownedAt (requests thread).invocationId world (requests thread).modelInvocationId = some record)
    (model : isModel record) : Inv platform requests { world with
      starts := world.starts ++ [⟨thread, (requests thread).invocationId, (requests thread).modelInvocationId⟩] } := by
  have fresh : ∀ start ∈ world.starts, start.invocationId ≠ (requests thread).invocationId := by
    intro start started same
    have member : start ∈ startsOf (requests thread).invocationId world :=
      List.mem_filter.mpr ⟨started, decide_eq_true same⟩
    rw [unstarted] at member
    cases member
  obtain ⟨found, owned⟩ := ownedAt_eq_some.mp there
  have owner : record.field "agentInvocationId" = .str (requests thread).invocationId := by
    rcases owned with ⟨agent, -⟩ | ⟨-, owner⟩
    · exact absurd model agent.not_isModel
    · exact owner
  refine ⟨inv.wellFormed, inv.claimed, inv.agentKeyed, inv.modelKeyed, inv.agents, inv.models,
    fun id record found agent done => ?_, fun start started => ?_, ?_, ?_⟩
  · obtain ⟨start, started, named⟩ := inv.succeeded id record found agent done
    exact ⟨start, List.mem_append_left _ started, named⟩
  · rcases List.mem_append.mp started with earlier | last
    · exact inv.starts start earlier
    · cases List.mem_singleton.mp last
      exact ⟨rfl, rfl, claimed, record, found, model, owner⟩
  · rw [List.map_append, List.nodup_append]
    refine ⟨inv.agentOnce, List.nodup_singleton _, ?_⟩
    intro id earlier other last same
    obtain ⟨start, started, rfl⟩ := List.mem_map.mp earlier
    cases List.mem_singleton.mp last
    exact fresh start started same
  · rw [List.map_append, List.nodup_append]
    refine ⟨inv.modelOnce, List.nodup_singleton _, ?_⟩
    intro id earlier other last same
    obtain ⟨start, started, rfl⟩ := List.mem_map.mp earlier
    cases List.mem_singleton.mp last
    obtain ⟨-, -, -, stored, foundStored, -, startOwner⟩ := inv.starts start started
    rw [same, found] at foundStored
    obtain rfl := Option.some.inj foundStored
    exact fresh start started (Json.str.inj (startOwner.symm.trans owner))

theorem pairKey_ne_empty (id : String) : pairKey id ≠ "" := by
  unfold pairKey
  simp

theorem claim_world (inv : Inv platform requests world) (thread : Nat) :
    let key := pairKey (requests thread).invocationId
    let outcome := RuntimeStore.claim key (.obj (pair (requests thread))) world.store
    (∃ existing, outcome.1 = .ok (false, existing) ∧ (world.move outcome.2).claimed thread key outcome.1 = world) ∨
      (outcome.1 = .ok (true, .obj (pair (requests thread))) ∧ world.claimant key = none ∧
        (world.move outcome.2).claimed thread key outcome.1 = { world with
          store := { world.store with claims := world.store.claims.set key (.obj (pair (requests thread))) }
          claimant := Function.update world.claimant key (some thread) }) := by
  intro key outcome
  rcases claim_step world.store key (pair (requests thread)) (pairKey_ne_empty _) with ⟨existing, -, ran⟩ | ⟨free, ran⟩
  · refine .inl ⟨existing, congrArg Prod.fst ran, ?_⟩
    change (world.move (RuntimeStore.claim key _ world.store).2).claimed thread key
      (RuntimeStore.claim key _ world.store).1 = _
    rw [ran]
    rfl
  · refine .inr ⟨congrArg Prod.fst ran, ?_, ?_⟩
    · by_contra taken
      obtain ⟨other, found⟩ := Option.ne_none_iff_exists'.mp taken
      exact (inv.claimed key other found).2 free
    · change (world.move (RuntimeStore.claim key _ world.store).2).claimed thread key
        (RuntimeStore.claim key _ world.store).1 = _
      rw [ran]
      rfl

theorem Claimed.update {store : Store} {starts : List Start} {other : Nat} {key : String}
    (free : world.claimant key = none) (claimed : Claimed requests other world) :
    Claimed requests other ⟨store, Function.update world.claimant key (some thread), starts⟩ := by
  unfold Claimed at claimed ⊢
  change Function.update world.claimant key (some thread) _ = _
  rw [Function.update_of_ne, claimed]
  rintro rfl
  rw [free] at claimed
  cases claimed

theorem Inv.claim (inv : Inv platform requests world)
    (free : world.claimant (pairKey (requests thread).invocationId) = none) (value : Json) : Inv platform requests { world with
      store := { world.store with
        claims := world.store.claims.set (pairKey (requests thread).invocationId) value }
      claimant := Function.update world.claimant (pairKey (requests thread).invocationId) (some thread) } := by
  refine ⟨⟨inv.wellFormed.distinct, inv.wellFormed.valid, inv.wellFormed.keyed⟩, fun key other found => ?_,
    inv.agentKeyed, inv.modelKeyed, fun id record found agent => ?_, fun id record found model => ?_,
    inv.succeeded, fun start started => ?_, inv.agentOnce, inv.modelOnce⟩
  · change Function.update world.claimant _ _ key = _ at found
    change _ ∧ Dict.get? (Dict.set _ _ _) key ≠ none
    by_cases same : key = pairKey (requests thread).invocationId
    · subst same
      rw [Function.update_self] at found
      cases found
      refine ⟨rfl, ?_⟩
      rw [Dict.get?_set_self]
      exact Option.some_ne_none _
    · rw [Function.update_of_ne same] at found
      obtain ⟨named, claimed⟩ := inv.claimed key other found
      rw [Dict.get?_set_ne _ _ (Ne.symm same)]
      exact ⟨named, claimed⟩
  · obtain ⟨other, claimed, named, state⟩ := inv.agents id record found agent
    exact ⟨other, claimed.update free, named, state.keep fun _ passed => passed.found⟩
  · obtain ⟨other, claimed, state⟩ := inv.models id record found model
    exact ⟨other, claimed.update free, state⟩
  · obtain ⟨named, modelNamed, claimed, there⟩ := inv.starts start started
    exact ⟨named, modelNamed, claimed.update free, there⟩

theorem inv_exec {effect : Effect} {answer : effect.Answer} (inv : Inv platform requests world)
    (permitted : Permitted platform requests thread world effect)
    (executed : World.Exec thread world effect answer next) : Inv platform requests next := by
  cases executed with
  | clock | emit | preflight | release | record | get => exact inv
  | invoke invocationId modelInvocationId request =>
    obtain ⟨claimed, rfl, rfl, unstarted, record, there, model⟩ := permitted
    exact inv.invoke claimed unstarted there model
  | claim key value =>
    obtain ⟨rfl, rfl⟩ := permitted
    rcases claim_world inv thread with ⟨existing, -, same⟩ | ⟨-, free, same⟩
    · rw [same]
      exact inv
    · rw [same]
      exact inv.claim free _
  | create record key =>
    obtain ⟨claimed, starts⟩ := permitted
    have creates : Creates (requests thread) record key := starts.elim AgentStart.creates ModelStart.creates
    rcases create_step record key world.store with ⟨same, -⟩ | ⟨-, added, valid, same⟩
    · rw [same]
      exact inv
    · rw [same] at added ⊢
      exact inv.create claimed creates valid added
  | updateStatus id status updatedAt clock changes =>
    obtain ⟨claimed, ends⟩ := permitted
    rcases update_step live_running id status updatedAt clock changes world.store with
      ⟨same, -⟩ | ⟨record, now, found, running, evolves, -, same⟩
    · rw [same]
      exact inv
    · rw [same]
      refine inv.update claimed found evolves ?_
      rcases ends with ends | ends
      · exact ends.updates inv found running evolves
      · exact ends.updates found running evolves

theorem rely_exec {other : Nat} {effect : Effect} {answer : effect.Answer} (different : other ≠ thread)
    (inv : Inv platform requests world) (permitted : Permitted platform requests thread world effect)
    (executed : World.Exec thread world effect answer next) : Rely requests other world next := by
  have apart (claimed : Claimed requests thread world) (mine : Claimed requests other world) :
      (requests other).invocationId ≠ (requests thread).invocationId := fun same => different (mine.unique claimed same)
  have touched {target : String} {new : Record} {store : Store} (claimed : Claimed requests thread world)
      (touches : Touches (requests thread).invocationId world.store store target new) :
      Rely requests other world (world.move store) :=
    ⟨fun _ _ found => found, fun mine id => touches.owned (apart claimed mine) id, fun _ => rfl⟩
  cases executed with
  | clock | emit | preflight | release | record | get => exact .refl _ _
  | invoke invocationId modelInvocationId request =>
    obtain ⟨claimed, rfl, -⟩ := permitted
    refine ⟨fun _ _ found => found, fun _ _ => rfl, fun mine => ?_⟩
    change List.filter _ (world.starts ++ _) = _
    rw [List.filter_append]
    simp [startsOf, Ne.symm (apart claimed mine)]
  | claim key value =>
    obtain ⟨rfl, rfl⟩ := permitted
    rcases claim_world inv thread with ⟨existing, -, same⟩ | ⟨-, free, same⟩
    · rw [same]
      exact .refl _ _
    · rw [same]
      refine ⟨fun key owner found => ?_, fun _ _ => rfl, fun _ => rfl⟩
      change Function.update world.claimant _ _ key = _
      rw [Function.update_of_ne, found]
      rintro rfl
      rw [free] at found
      cases found
  | create record key =>
    obtain ⟨claimed, starts⟩ := permitted
    have creates : Creates (requests thread) record key := starts.elim AgentStart.creates ModelStart.creates
    rcases create_step record key world.store with ⟨same, -⟩ | ⟨-, added, -, -⟩
    · rw [same]
      exact .refl _ _
    · exact touched claimed (creates.touches added)
  | updateStatus id status updatedAt clock changes =>
    obtain ⟨claimed, ends⟩ := permitted
    rcases update_step live_running id status updatedAt clock changes world.store with
      ⟨same, -⟩ | ⟨record, now, found, running, evolves, -, same⟩
    · rw [same]
      exact .refl _ _
    · rw [same]
      rcases ends with ends | ends
      · exact touched claimed (ends.updates inv found running evolves).touches
      · have updates : Updates platform (requests thread) world id record _ := ends.updates found running evolves
        exact touched claimed updates.touches

theorem ownedAt_foreign {store : Store} (foreign : Foreign world.store store) (owner id : String) :
    ownedAt owner ⟨store, next.claimant, next.starts⟩ id = ownedAt owner world id := by
  refine Option.ext fun record => ?_
  simp only [ownedAt_eq_some]
  refine and_congr_left fun owned => foreign.records id record ?_
  exact owned.imp And.left And.left

theorem Inv.foreign (inv : Inv platform requests world) (moved : machine.foreign world next) :
    Inv platform requests next := by
  obtain ⟨store, claimant, starts⟩ := next
  obtain ⟨rfl, rfl, foreign⟩ := moved
  refine ⟨foreign.wellFormed, fun key thread found => ?_, fun id other keyed => ?_, fun id other keyed => ?_,
    fun id record found agent => ?_, fun id record found model => ?_,
    fun id record found agent => inv.succeeded id record ((foreign.records id record (.inl agent)).mp found) agent,
    fun start started => ?_, inv.agentOnce, inv.modelOnce⟩
  · obtain ⟨rfl, claimed⟩ := inv.claimed key thread found
    refine ⟨rfl, ?_⟩
    rw [foreign.claims]
    exact claimed
  · obtain ⟨same, record, found, agent⟩ := inv.agentKeyed id other ((foreign.agentKeys id).symm.trans keyed)
    exact ⟨same, record, (foreign.records id record (.inl agent)).mpr found, agent⟩
  · obtain ⟨same, record, found, model⟩ := inv.modelKeyed id other ((foreign.modelKeys id).symm.trans keyed)
    exact ⟨same, record, (foreign.records id record (.inr model)).mpr found, model⟩
  · obtain ⟨thread, claimed, named, state⟩ :=
      inv.agents id record ((foreign.records id record (.inl agent)).mp found) agent
    exact ⟨thread, claimed, named, state.keep fun model passed =>
      (foreign.records _ model (.inr passed.kind)).mpr passed.found⟩
  · obtain ⟨thread, claimed, state⟩ := inv.models id record ((foreign.records id record (.inr model)).mp found) model
    exact ⟨thread, claimed, state⟩
  · obtain ⟨named, modelNamed, claimed, record, found, model, owner⟩ := inv.starts start started
    exact ⟨named, modelNamed, claimed, record, (foreign.records _ record (.inr model)).mpr found, model, owner⟩

theorem Rely.foreign (moved : machine.foreign world next) : Rely requests thread world next := by
  obtain ⟨store, claimant, starts⟩ := next
  obtain ⟨rfl, rfl, foreign⟩ := moved
  exact ⟨fun _ _ found => found, fun _ id => ownedAt_foreign foreign _ id, fun _ => rfl⟩

end Steps

def discipline (platform : Platform) (requests : Nat → Request) : Machine.Discipline machine where
  invariant := Inv platform requests
  permitted := Permitted platform requests
  rely := Rely requests
  rely_refl := Rely.refl
  rely_trans first second := first.trans second
  invariant_exec inv permitted executed := inv_exec inv permitted executed
  invariant_foreign inv moved := inv.foreign moved
  rely_exec different inv permitted executed := rely_exec different inv permitted executed
  rely_foreign _ moved := .foreign moved

end Aep.AgentInvocation
