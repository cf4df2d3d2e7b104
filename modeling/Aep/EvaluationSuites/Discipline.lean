import Aep.EvaluationSuites.Runner
import Aep.Library.RelyGuarantee
import Aep.RuntimeStore.Leases
import Aep.RuntimeStore.Steps

namespace Aep.EvaluationSuites

open RuntimeStore StateAction

/-- The store, the calls that drew the owner tokens, and the call that acquired the lease last. -/
structure World where
  store : Store
  issued : String → Option Nat
  holder : Option Nat

namespace World

def move (world : World) (store : Store) : World := { world with store }

def acquired (world : World) (thread : Nat) (granted : Bool) : World :=
  if granted then { world with holder := some thread } else world

/-- How a call is carried out: a store call in one step, the others with any answer. -/
inductive Exec (thread : Nat) (world : World) : (effect : Effect) → effect.Answer → World → Prop where
  | clock (time : String) : Exec thread world .clock time world
  | uuid4 (token : String) (fresh : world.issued token = none) :
      Exec thread world .uuid4 token { world with issued := Function.update world.issued token (some thread) }
  | leaseLost (lost : Bool) : Exec thread world .leaseLost lost world
  | replay (case spec : Record) (replayed : Except String Replayed) :
      Exec thread world (.replay case spec) replayed world
  | create (record : Record) (key : String) :
      Exec thread world (.create record key) (RuntimeStore.create (.obj record) key world.store).1
        (world.move (RuntimeStore.create (.obj record) key world.store).2)
  | acquireLease (key ownerId now expiresAt : String) (granted : Bool) (store : Store)
      (returned : (RuntimeStore.acquireLease key ownerId now expiresAt).Returns world.store granted store) :
      Exec thread world (.acquireLease key ownerId now expiresAt) granted ((world.move store).acquired thread granted)
  | get (objectId : String) : Exec thread world (.get objectId) (world.store.get objectId) world
  | updateStatusWithLease (objectId status leaseKey ownerId now clock : String) (changes : Record) :
      Exec thread world (.updateStatusWithLease objectId status leaseKey ownerId now changes)
        (RuntimeStore.updateStatusWithLease objectId status leaseKey ownerId now (some "RUNNING") (some now) changes clock
          world.store).1
        (world.move (RuntimeStore.updateStatusWithLease objectId status leaseKey ownerId now (some "RUNNING") (some now)
          changes clock world.store).2)
  | releaseLease (key ownerId : String) (released : Bool) (store : Store)
      (returned : (RuntimeStore.releaseLease key ownerId).Returns world.store released store) :
      Exec thread world (.releaseLease key ownerId) released (world.move store)

end World

section Others

variable (plan : Plan)

def leaseOwner (store : Store) : Option String := (store.leases.get? plan.leaseKey).map Lease.ownerId

def stored (world : World) : Option Record := world.store.get plan.suiteId

/-- What all else does to the store: the heartbeats renew the lease of its owner, and the replays leave the run alone. -/
structure Foreign (before after : Store) : Prop where
  wellFormed : after.WellFormed
  run : after.get plan.suiteId = before.get plan.suiteId
  key : after.deterministicKeys.get? plan.deterministicKey = before.deterministicKeys.get? plan.deterministicKey
  owner : leaseOwner plan after = leaseOwner plan before

def machine : Machine Effects World where
  exec := World.Exec
  foreign before after := after.issued = before.issued ∧ after.holder = before.holder ∧
    Foreign plan before.store after.store

structure Unstarted (store : Store) : Prop where
  wellFormed : store.WellFormed
  absent : store.get plan.suiteId = none
  unkeyed : store.deterministicKeys.get? plan.deterministicKey = none
  free : store.leases.get? plan.leaseKey = none

end Others

def start (platform : Platform) (suite : Record) (historicalRunners : Nat → Bool) (store : Store) :
    Machine.Config Effects World PyError Record where
  shared := ⟨store, fun _ => none, none⟩
  threads i := runSuite platform suite (historicalRunners i)

end Aep.EvaluationSuites

namespace Aep.EvaluationSuites

open RuntimeStore StateAction

section Invariant

variable (platform : Platform) (plan : Plan)

def orderJson : List Json := plan.caseOrder.map .str

def caseIds (results : List Record) : List Json := results.map fun result => result.field "caseId"

def Ordered (results : List Record) : Prop := caseIds results = (orderJson plan).take results.length

def Holds (record : Record) (results : List Record) : Prop := record.field "caseResults" = .arr (results.map .obj)

/-- What the record of a run always is: results in order, and when it is finished all of them and their conclusion. -/
structure Sound (record : Record) : Prop where
  order : record.field "caseOrder" = .arr (orderJson plan)
  results : ∃ results, Holds record results ∧ Ordered plan results ∧
    (record.field "status" = .str "RUNNING" ∨ ∃ aggregate status,
      conclusion platform plan (results.map .obj) = .ok (aggregate, status) ∧
      record.field "status" = .str status ∧ record.field "aggregate" = .obj aggregate ∧
      results.length = plan.caseOrder.length)

def Begun (world : World) : Prop := world.store.deterministicKeys.get? plan.deterministicKey ≠ none

structure Inv (world : World) : Prop where
  wellFormed : world.store.WellFormed
  keyed : ∀ id, world.store.deterministicKeys.get? plan.deterministicKey = some id → id = plan.suiteId
  absent : world.store.deterministicKeys.get? plan.deterministicKey = none → stored plan world = none
  sound : ∀ record, stored plan world = some record → Sound platform plan record
  holder : ∀ owner, leaseOwner plan world.store = some owner →
    ∃ thread, world.issued owner = some thread ∧ world.holder = some thread
  leased : leaseOwner plan world.store ≠ none → Begun plan world

/-- What a thread may rely on: while its token owns the lease, the record stays as it is. -/
structure Rely (thread : Nat) (before after : World) : Prop where
  issued : ∀ owner other, before.issued owner = some other → after.issued owner = some other
  begun : Begun plan before → Begun plan after
  frozen : ∀ owner, before.issued owner = some thread → leaseOwner plan after.store = some owner →
    leaseOwner plan before.store = some owner ∧ stored plan after = stored plan before

/-- One more result, or the conclusion of all of them. -/
inductive Advance (results : List Record) (status : String) (changes : Record) : Prop where
  | checkpoint (new : Record) (running : status = "RUNNING") (ordered : Ordered plan (results ++ [new]))
      (changed : changes = [("caseResults", .arr ((results ++ [new]).map .obj))])
  | finish (aggregate : Record) (concluded : conclusion platform plan (results.map .obj) = .ok (aggregate, status))
      (all : results.length = plan.caseOrder.length) (changed : changes = [("aggregate", .obj aggregate)])

def Permitted (thread : Nat) (world : World) : Effect → Prop
  | .create record key => (∃ started, record = plan.record started) ∧ key = plan.deterministicKey
  | .acquireLease key ownerId _ _ => key = plan.leaseKey ∧ world.issued ownerId = some thread ∧ Begun plan world
  | .updateStatusWithLease objectId status leaseKey ownerId _ changes =>
    objectId = plan.suiteId ∧ leaseKey = plan.leaseKey ∧ world.issued ownerId = some thread ∧
      (leaseOwner plan world.store = some ownerId → ∃ record results, stored plan world = some record ∧
        Holds record results ∧ Advance platform plan results status changes)
  | .releaseLease key ownerId => key = plan.leaseKey ∧ world.issued ownerId = some thread
  | _ => True

end Invariant

variable {platform : Platform} {plan : Plan} {thread : Nat} {world next last : World}

section Rely

theorem Rely.refl (thread : Nat) (world : World) : Rely plan thread world world :=
  ⟨fun _ _ issued => issued, fun begun => begun, fun _ _ owns => ⟨owns, rfl⟩⟩

theorem Rely.trans (first : Rely plan thread world next) (second : Rely plan thread next last) :
    Rely plan thread world last := by
  refine ⟨fun owner other issued => second.issued owner other (first.issued owner other issued),
    fun begun => second.begun (first.begun begun), ?_⟩
  intro owner issued owns
  obtain ⟨between, same⟩ := second.frozen owner (first.issued _ _ issued) owns
  obtain ⟨before, sameBefore⟩ := first.frozen owner issued between
  exact ⟨before, same.trans sameBefore⟩

theorem Rely.of_owner (issued : next.issued = world.issued) (begun : Begun plan world → Begun plan next)
    (frozen : ∀ owner, world.issued owner = some thread → leaseOwner plan next.store = some owner →
      leaseOwner plan world.store = some owner ∧ stored plan next = stored plan world) : Rely plan thread world next :=
  ⟨fun _ _ found => by rw [issued]; exact found, begun, frozen⟩

end Rely

section Effects

theorem plan_record_valid (plan : Plan) (started : String) : ValidObject (plan.record started) := by
  have named : plan.suiteId ≠ "" := by
    unfold Plan.suiteId
    simp
  simp [ValidObject, copyAndValidate, Json.asRecord?, Plan.record, Dict.field, Dict.get?, named]

theorem objectId_record (plan : Plan) (started : String) : objectId (plan.record started) = plan.suiteId := rfl

theorem sound_record (plan : Plan) (started : String) : Sound platform plan (plan.record started) :=
  ⟨rfl, [], rfl, rfl, .inl rfl⟩

theorem create_step (inv : Inv platform plan world) (started : String) :
    let after := (RuntimeStore.create (.obj (plan.record started)) plan.deterministicKey world.store).2
    (after = world.store ∧ Begun plan world) ∨
      (stored plan world = none ∧ world.store.Added after (plan.record started) plan.deterministicKey ∧
        after.WellFormed ∧ after.leases = world.store.leases) := by
  have valid := plan_record_valid plan started
  have named : plan.deterministicKey ≠ "" := by
    unfold Plan.deterministicKey
    simp
  cases bound : world.store.deterministicKeys.get? plan.deterministicKey with
  | some id =>
    obtain ⟨record, found⟩ := Option.ne_none_iff_exists'.mp (inv.wellFormed.keyed bound)
    have ran : RuntimeStore.create _ _ world.store = _ := create_bound valid named bound found
    exact .inl ⟨congrArg Prod.snd ran, by simp [Begun, bound]⟩
  | none =>
    have absent := inv.absent bound
    have ran : RuntimeStore.create _ _ world.store = _ := create_fresh valid named bound absent
    rw [ran]
    exact .inr ⟨absent, Store.added_insert absent bound, (Store.Advances.insert valid absent inv.wellFormed).1, rfl⟩

structure Updated (platform : Platform) (plan : Plan) (world : World) (status ownerId : String) (changes : Record)
    (answer : Except PyError Record) (after : Store) : Prop where
  owner : leaseOwner plan world.store = some ownerId
  running : ∃ record results now, stored plan world = some record ∧ Holds record results ∧
    Advance platform plan results status changes ∧ record.field "status" = .str "RUNNING" ∧
    answer = .ok (withStatus record changes status now) ∧
    after = world.store.put plan.suiteId (withStatus record changes status now) ∧ after.WellFormed

theorem update_step (inv : Inv platform plan world) {status ownerId now clock : String} {changes : Record}
    (permitted : Permitted platform plan thread world
      (.updateStatusWithLease plan.suiteId status plan.leaseKey ownerId now changes)) :
    let outcome := RuntimeStore.updateStatusWithLease plan.suiteId status plan.leaseKey ownerId now (some "RUNNING")
      (some now) changes clock world.store
    (outcome.2 = world.store ∧ ∃ error, outcome.1 = .error error) ∨
      Updated platform plan world status ownerId changes outcome.1 outcome.2 := by
  intro outcome
  rcases ran : outcome with ⟨error | updated, after⟩
  · exact .inl ⟨updateStatusWithLease_keeps _ _ _ _ _ _ _ _ _ _ _ _ ran, error, rfl⟩
  · have owned := LeaseCall.updateStatusWithLease_returns ran
    obtain ⟨current, found, rfl, -⟩ := owned
    have owner : leaseOwner plan world.store = some current.ownerId := by
      unfold leaseOwner
      rw [found]
      rfl
    obtain ⟨record, results, run, holds, advance⟩ := permitted.2.2.2 owner
    have wellFormed := (updateStatusWithLease_advances ran inv.wellFormed).1
    have returned : (updateStatus plan.suiteId status (some "RUNNING") (some now) changes clock).Returns world.store
        updated after := by
      have steps : (RuntimeStore.updateStatusWithLease _ _ _ _ _ _ _ _ _).Returns world.store updated after := ran
      simp only [RuntimeStore.updateStatusWithLease, returns_bind, returns_read, returns_raiseIf] at steps
      obtain ⟨_, _, ⟨rfl, rfl⟩, -, _, ⟨-, rfl⟩, steps⟩ := steps
      exact steps
    obtain ⟨value, there, -, -, expected, ⟨terminal, -, -, -⟩ | ⟨-, -, rfl, rfl⟩⟩ := updateStatus_cases returned
    · rw [expected _ rfl] at terminal
      cases terminal
    · obtain rfl := Option.some.inj (run.symm.trans there)
      exact .inr ⟨owner, record, results, _, run, holds, advance, expected _ rfl, rfl, rfl, wellFormed⟩

theorem holds_checkpoint (record : Record) (results : List Record) (status now : String) :
    Holds (withStatus record [("caseResults", .arr (results.map .obj))] status now) results := by
  refine Dict.field_of_get? ?_
  rw [withStatus_get? (by decide)]
  simp [Dict.get?]

theorem Holds.unique {record : Record} {results others : List Record} (holds : Holds record results)
    (other : Holds record others) : results = others := by
  have arrays := holds.symm.trans other
  simp only [Json.arr.injEq] at arrays
  exact List.map_injective_iff.mpr (fun _ _ same => Json.obj.inj same) arrays

theorem Advance.sound {record changes : Record} {results : List Record} {status now : String}
    (advance : Advance platform plan results status changes) (sound : Sound platform plan record)
    (holds : Holds record results) :
    Sound platform plan (withStatus record changes status now) ∧
      ∃ more, Holds (withStatus record changes status now) (results ++ more) := by
  have statusOf := withStatus_status record changes status now
  have fieldOf (field : String) (unmanaged : field ∉ managedFields) :
      (withStatus record changes status now).get? field = (changes.get? field).or (record.get? field) :=
    withStatus_get? unmanaged
  have order : (withStatus record changes status now).field "caseOrder" = .arr (orderJson plan) := by
    rw [← sound.order]
    refine Dict.field_congr ?_
    rw [fieldOf _ (by decide)]
    cases advance with
    | checkpoint new running ordered changed => simp [changed, Dict.get?]
    | finish aggregate concluded all changed => simp [changed, Dict.get?]
  cases advance with
  | checkpoint new running ordered changed =>
    have held : Holds (withStatus record changes status now) (results ++ [new]) := by
      rw [changed]
      exact holds_checkpoint _ _ _ _
    exact ⟨⟨order, results ++ [new], held, ordered, .inl (by rw [statusOf, running])⟩, [new], held⟩
  | finish aggregate concluded all changed =>
    obtain ⟨earlier, heldEarlier, ordered, -⟩ := sound.results
    obtain rfl := heldEarlier.unique holds
    have held : Holds (withStatus record changes status now) earlier := by
      refine (Dict.field_congr ?_).trans holds
      rw [fieldOf _ (by decide), changed]
      simp [Dict.get?]
    have aggregated : (withStatus record changes status now).field "aggregate" = .obj aggregate := by
      refine Dict.field_of_get? ?_
      rw [fieldOf _ (by decide), changed]
      simp [Dict.get?]
    refine ⟨⟨order, earlier, held, ordered, .inr ⟨aggregate, status, concluded, statusOf, aggregated, all⟩⟩, [], ?_⟩
    rw [List.append_nil]
    exact held

end Effects

section Steps

theorem stored_put (world : World) (record : Record) :
    stored plan (world.move (world.store.put plan.suiteId record)) = some record := by
  unfold stored World.move
  simp

theorem acquireLease_cases {key ownerId now expiresAt : String} {granted : Bool} {before after : Store}
    (returned : (acquireLease key ownerId now expiresAt).Returns before granted after) :
    (granted = false ∧ after = before) ∨ (granted = true ∧
      after = { before with leases := before.leases.set key ⟨ownerId, expiresAt⟩ }) := by
  by_cases blocked : LeaseCall.Blocks before key ownerId now
  · cases (show _ = _ from returned).symm.trans (LeaseCall.acquireLease_blocked blocked)
    exact .inl ⟨rfl, rfl⟩
  · cases (show _ = _ from returned).symm.trans (LeaseCall.acquireLease_granted blocked)
    exact .inr ⟨rfl, rfl⟩

theorem releaseLease_step {key ownerId : String} {released : Bool} {before after : Store}
    (returned : (releaseLease key ownerId).Returns before released after) :
    after = before ∨ after = { before with leases := before.leases.erase key } := by
  have cases : _ ∨ releaseLease key ownerId before = _ := LeaseCall.releaseLease_cases ownerId
  rcases cases with ran | ran
  · cases (show _ = _ from returned).symm.trans ran
    exact .inl rfl
  · cases (show _ = _ from returned).symm.trans ran
    exact .inr rfl

theorem Inv.create (inv : Inv platform plan world) {started : String} {after : Store}
    (added : world.store.Added after (plan.record started) plan.deterministicKey) (wellFormed : after.WellFormed)
    (leases : after.leases = world.store.leases) : Inv platform plan (world.move after) where
  wellFormed
  keyed id found := by
    rw [World.move, added.keys, if_pos rfl] at found
    exact (Option.some.inj found).symm
  absent unkeyed := by
    rw [World.move, added.keys, if_pos rfl] at unkeyed
    cases unkeyed
  sound record found := by
    rw [stored, World.move, added.get, objectId_record, if_pos rfl] at found
    cases found
    exact sound_record plan started
  holder owner owns := by
    refine inv.holder owner ?_
    unfold leaseOwner at owns ⊢
    rwa [← leases]
  leased _ := by
    rw [Begun, World.move, added.keys, if_pos rfl]
    exact Option.some_ne_none _

theorem Inv.update (inv : Inv platform plan world) {status ownerId : String} {changes : Record}
    {answer : Except PyError Record} {after : Store}
    (updated : Updated platform plan world status ownerId changes answer after) :
    Inv platform plan (world.move after) := by
  obtain ⟨-, record, results, now, run, holds, advance, -, -, rfl, wellFormed⟩ := updated
  refine ⟨wellFormed, inv.keyed, fun unkeyed => ?_, fun other found => ?_, inv.holder, inv.leased⟩
  · have absent := inv.absent unkeyed
    rw [run] at absent
    cases absent
  · rw [stored_put] at found
    cases found
    exact (advance.sound (inv.sound record run) holds).1

theorem inv_exec {effect : Effect} {answer : effect.Answer} (inv : Inv platform plan world)
    (permitted : Permitted platform plan thread world effect) (executed : World.Exec thread world effect answer next) :
    Inv platform plan next := by
  cases executed with
  | clock time => exact inv
  | leaseLost lost => exact inv
  | replay case spec replayed => exact inv
  | get objectId => exact inv
  | uuid4 token fresh =>
    refine ⟨inv.wellFormed, inv.keyed, inv.absent, inv.sound, fun owner owns => ?_, inv.leased⟩
    obtain ⟨other, issued, held⟩ := inv.holder owner owns
    refine ⟨other, ?_, held⟩
    change Function.update world.issued token (some thread) owner = some other
    rw [Function.update_of_ne, issued]
    rintro rfl
    rw [fresh] at issued
    cases issued
  | create record key =>
    obtain ⟨⟨started, rfl⟩, rfl⟩ := permitted
    rcases create_step inv started with ⟨same, -⟩ | ⟨-, added, wellFormed, leases⟩
    · rw [same]
      exact inv
    · exact inv.create added wellFormed leases
  | acquireLease key ownerId now expiresAt granted store returned =>
    obtain ⟨rfl, issued, begun⟩ := permitted
    rcases acquireLease_cases returned with ⟨rfl, rfl⟩ | ⟨rfl, rfl⟩
    · exact inv
    · refine ⟨(acquireLease_advances returned inv.wellFormed).1, inv.keyed, inv.absent, inv.sound, fun owner owns => ?_,
        fun _ => begun⟩
      change leaseOwner plan { world.store with leases := _ } = _ at owns
      simp only [leaseOwner, Dict.get?_set, ↓reduceIte, Option.map_some, Option.some.injEq] at owns
      subst owns
      exact ⟨thread, issued, rfl⟩
  | updateStatusWithLease objectId status leaseKey ownerId now clock changes =>
    obtain ⟨rfl, rfl, mine, running⟩ := permitted
    rcases update_step inv ⟨rfl, rfl, mine, running⟩ with ⟨same, -⟩ | updated
    · rw [same]
      exact inv
    · exact inv.update updated
  | releaseLease key ownerId released store returned =>
    obtain ⟨rfl, -⟩ := permitted
    have wellFormed := (releaseLease_advances returned inv.wellFormed).1
    rcases releaseLease_step returned with rfl | rfl
    · exact inv
    · have free : leaseOwner plan { world.store with leases := world.store.leases.erase plan.leaseKey } = none := by
        simp [leaseOwner]
      refine ⟨wellFormed, inv.keyed, inv.absent, inv.sound, fun owner owns => ?_, fun owns => absurd free owns⟩
      cases free.symm.trans owns

theorem exec_stored {effect : Effect} {answer : effect.Answer} (inv : Inv platform plan world)
    (permitted : Permitted platform plan thread world effect) (executed : World.Exec thread world effect answer next) :
    stored plan next = stored plan world ∨ stored plan world = none ∨ (world.holder = some thread ∧
      ∃ status ownerId changes outcome, Updated platform plan world status ownerId changes outcome next.store) := by
  cases executed with
  | create record key =>
    obtain ⟨⟨started, rfl⟩, rfl⟩ := permitted
    rcases create_step inv started with ⟨same, -⟩ | ⟨absent, -⟩
    · exact .inl (by rw [same]; rfl)
    · exact .inr (.inl absent)
  | acquireLease key ownerId now expiresAt granted store returned =>
    rcases acquireLease_cases returned with ⟨rfl, rfl⟩ | ⟨rfl, rfl⟩ <;> exact .inl rfl
  | updateStatusWithLease objectId status leaseKey ownerId now clock changes =>
    obtain ⟨rfl, rfl, mine, running⟩ := permitted
    rcases update_step inv ⟨rfl, rfl, mine, running⟩ with ⟨same, -⟩ | updated
    · exact .inl (by rw [same]; rfl)
    · obtain ⟨other, issued, held⟩ := inv.holder ownerId updated.owner
      obtain rfl := Option.some.inj (mine.symm.trans issued)
      exact .inr (.inr ⟨held, status, ownerId, changes, _, updated⟩)
  | releaseLease key ownerId released store returned =>
    rcases releaseLease_step returned with rfl | rfl <;> exact .inl rfl
  | _ => exact .inl rfl

theorem rely_exec {other : Nat} {effect : Effect} {answer : effect.Answer} (different : other ≠ thread)
    (inv : Inv platform plan world) (permitted : Permitted platform plan thread world effect)
    (executed : World.Exec thread world effect answer next) : Rely plan other world next := by
  cases executed with
  | uuid4 token fresh =>
    refine ⟨fun owner drawer issued => ?_, fun begun => begun, fun owner issued owns => ⟨owns, rfl⟩⟩
    change Function.update world.issued token (some thread) owner = some drawer
    rw [Function.update_of_ne, issued]
    rintro rfl
    rw [fresh] at issued
    cases issued
  | create record key =>
    obtain ⟨⟨started, rfl⟩, rfl⟩ := permitted
    rcases create_step inv started with ⟨same, -⟩ | ⟨absent, added, -, leases⟩
    · rw [same]
      exact .refl _ _
    · have unbegun : ¬Begun plan world := not_not.mpr added.unkeyed
      have free : leaseOwner plan world.store = none := not_not.mp fun owns => unbegun (inv.leased owns)
      refine .of_owner rfl (fun begun => absurd begun unbegun) fun owner _ owns => ?_
      simp only [leaseOwner, World.move, leases] at owns free
      cases free.symm.trans owns
  | acquireLease key ownerId now expiresAt granted store returned =>
    obtain ⟨rfl, issued, begun⟩ := permitted
    rcases acquireLease_cases returned with ⟨rfl, rfl⟩ | ⟨rfl, rfl⟩
    · exact .refl _ _
    · refine .of_owner rfl (fun begun => begun) fun owner mine owns => ?_
      change leaseOwner plan { world.store with leases := _ } = _ at owns
      simp only [leaseOwner, Dict.get?_set, ↓reduceIte, Option.map_some, Option.some.injEq] at owns
      subst owns
      exact absurd (Option.some.inj (mine.symm.trans issued)) different
  | updateStatusWithLease objectId status leaseKey ownerId now clock changes =>
    obtain ⟨rfl, rfl, issued, running⟩ := permitted
    rcases update_step inv ⟨rfl, rfl, issued, running⟩ with ⟨same, -⟩ | updated
    · rw [same]
      exact .refl _ _
    · obtain ⟨owned, record, results, time, run, holds, advance, -, -, after, -⟩ := updated
      rw [after]
      refine .of_owner rfl (fun begun => begun) fun owner mine owns => ?_
      obtain rfl := Option.some.inj (owned.symm.trans owns)
      exact absurd (Option.some.inj (mine.symm.trans issued)) different
  | releaseLease key ownerId released store returned =>
    obtain ⟨rfl, -⟩ := permitted
    rcases releaseLease_step returned with rfl | rfl
    · exact .refl _ _
    · refine .of_owner rfl (fun begun => begun) fun owner _ owns => ?_
      change leaseOwner plan { world.store with leases := _ } = _ at owns
      simp [leaseOwner] at owns
  | _ => exact .refl _ _

theorem Inv.foreign (inv : Inv platform plan world) (moved : (machine plan).foreign world next) :
    Inv platform plan next := by
  obtain ⟨issued, holder, wellFormed, run, key, owner⟩ := moved
  refine ⟨wellFormed, ?_, ?_, ?_, ?_, ?_⟩
  · rw [key]
    exact inv.keyed
  · rw [key, stored, run]
    exact inv.absent
  · rw [stored, run]
    exact inv.sound
  · rw [owner, issued, holder]
    exact inv.holder
  · rw [owner, Begun, key]
    exact inv.leased

theorem Rely.foreign (moved : (machine plan).foreign world next) : Rely plan thread world next := by
  obtain ⟨issued, -, -, run, key, owner⟩ := moved
  refine .of_owner issued (fun begun => ?_) fun ownerId _ owns => ⟨by rw [← owner]; exact owns, run⟩
  rw [Begun, key]
  exact begun

end Steps

def discipline (platform : Platform) (plan : Plan) : Machine.Discipline (machine plan) where
  invariant := Inv platform plan
  permitted := Permitted platform plan
  rely := Rely plan
  rely_refl := Rely.refl
  rely_trans first second := first.trans second
  invariant_exec inv permitted executed := inv_exec inv permitted executed
  invariant_foreign inv moved := inv.foreign moved
  rely_exec different inv permitted executed := rely_exec different inv permitted executed
  rely_foreign _ moved := .foreign moved

end Aep.EvaluationSuites
