import Aep.Checkout.Workers

namespace Aep.Checkout

section Histories

def lastLook (worker : Nat) : List Happening → Option Look
  | [] => none
  | .granted other _ :: earlier => if other = worker then none else lastLook worker earlier
  | .looked other look :: earlier => if other = worker then some look else lastLook worker earlier
  | _ :: earlier => lastLook worker earlier

def Untouched (worker : Nat) : List Happening → Prop
  | [] => False
  | .granted other _ :: earlier => other = worker ∨ Untouched worker earlier
  | .modified :: _ => False
  | _ :: earlier => Untouched worker earlier

theorem foundClean_of_untouched {worker : Nat} {history : List Happening} (untouched : Untouched worker history)
    (looked : lastLook worker history = some .clean) : FoundClean worker history := by
  induction history with
  | nil => cases looked
  | cons happening earlier ih =>
    cases happening with
    | granted other fence =>
      by_cases mine : other = worker
      · simp [lastLook, mine] at looked
      · simp only [lastLook, if_neg mine] at looked
        exact ih (untouched.resolve_left mine) looked
    | looked other look =>
      by_cases mine : other = worker
      · simpa [lastLook, FoundClean, mine] using looked
      · simp only [lastLook, if_neg mine] at looked
        simp only [FoundClean, if_neg mine]
        exact ih untouched looked
    | modified => exact untouched.elim
    | ready => exact ih untouched looked
    | cleaned => exact ih untouched looked
    | removed other arguments => exact ih untouched looked

end Histories

section Records

def outline (record : ExecutionCheckout) : String × CheckoutState × Int :=
  (record.executionId, record.state, record.fenceToken)

/-- What a registry call does to the record of an execution, and what happens by it. -/
inductive RecordStep (executionId : String) (worker : Nat) (before after : Option ExecutionCheckout) :
    List Happening → Prop where
  | kept (same : after.map outline = before.map outline) : RecordStep executionId worker before after []
  | granted {record : ExecutionCheckout} (found : after = some record) (keyed : record.executionId = executionId)
      (provisioning : record.state = .provisioning)
      (newer : ∀ current, before = some current → current.fenceToken < record.fenceToken) :
      RecordStep executionId worker before after [.granted worker record.fenceToken]
  | settled {current record : ExecutionCheckout} {happened : List Happening} (found : before = some current)
      (provisioning : current.state = .provisioning) (entered : after = some record)
      (keyed : record.executionId = executionId) (settles : record.state ≠ .provisioning)
      (fence : record.fenceToken = current.fenceToken)
      (happens : happened = [] ∨ happened = [.ready] ∨ happened = [.cleaned]) :
      RecordStep executionId worker before after happened

variable {jobs : Nat → Job} {executionId : String} {worker : Nat}

/-- What the calls of the workers ask of the registry, and when they remove a worktree or a branch. -/
def Permitted (jobs : Nat → Job) (executionId : String) (worker : Nat) (world : World) : Effect → Prop
  | .registry (.claim candidate _) =>
    (jobs worker).cleans = false ∧ candidate.executionId = executionId ∧ candidate.state = .provisioning
  | .registry (.beginCleanup cleaned _ _ _) => (jobs worker).cleans ∧ cleaned = executionId
  | .registry (.renew renewed _ _ _ _) => renewed = executionId
  | .registry (.update checkout _ fenceToken _) =>
    checkout.executionId = executionId ∧ checkout.fenceToken = fenceToken ∧ checkout.state ≠ .provisioning
  | .git _ arguments => removes arguments → (jobs worker).cleans →
    lastLook worker world.history = some .clean ∨ lastLook worker world.history = some .missing
  | _ => True

variable {registry after : InMemoryCheckoutRegistry} {answer : Answer}

theorem happening_of_granted {call : Call} {record : ExecutionCheckout} (grants : granted call = some record) :
    happening worker call = [.granted worker record.fenceToken] := by
  simp only [happening, grants]

theorem claimOver_of_granted {candidate record : ExecutionCheckout} {now : Datetime}
    (returned : registry.claim candidate now = .ok (answer, after))
    (grants : granted (.claim candidate now, answer) = some record) :
    claimOver (registry.records.get? candidate.executionId) candidate now = .ok (.inr record) := by
  obtain ⟨outcome, claimed, entered⟩ := Result.bind_eq_ok.mp returned
  cases outcome with
  | inl existing =>
    simp only [Result.pure_eq_ok, Prod.mk.injEq] at entered
    obtain ⟨rfl, -⟩ := entered
    simp [granted, (claimOver_ready claimed).2] at grants
  | inr candidate =>
    simp only [Result.bind_eq_ok, Result.pure_eq_ok, Prod.mk.injEq] at entered
    obtain ⟨-, -, rfl, -⟩ := entered
    simp only [granted, Option.ite_none_left_eq_some, Option.some.injEq] at grants
    rw [claimed, grants.2]

theorem claim_step {candidate : ExecutionCheckout} {now : Datetime} (keyed : candidate.executionId = executionId)
    (provisioning : candidate.state = .provisioning) (returned : registry.claim candidate now = .ok (answer, after)) :
    RecordStep executionId worker (registry.records.get? executionId) (after.records.get? executionId)
      (happening worker (.claim candidate now, answer)) := by
  subst keyed
  rcases claim_returned returned with ⟨existing, found, ready, rfl, rfl⟩ | ⟨record, rfl, entered, -, -, rfl⟩
  · have nothing : happening worker (.claim candidate now, .checkout existing) = [] := by simp [happening, granted, ready]
    rw [nothing]
    exact .kept rfl
  · have state : record.state = .provisioning := entered.state.trans provisioning
    have grants : granted (.claim candidate now, .checkout record) = some record := if_neg (by rw [state]; nofun)
    rw [happening_of_granted grants]
    refine .granted ?_ entered.keyed state fun current found => ?_
    · exact entered.keyed ▸ Dict.get?_set_self _ _ _
    · have := (entered.atop current found).2.2
      omega

theorem renew_step {ownerToken : String} {fenceToken : Int} {now leaseExpiresAt : Datetime}
    (returned : registry.renew executionId ownerToken fenceToken now leaseExpiresAt = .ok (answer, after)) :
    (after.records.get? executionId).map outline = (registry.records.get? executionId).map outline ∧
      ∃ current, registry.records.get? executionId = some current ∧
        answer = .checkout (current.renewed now leaseExpiresAt) := by
  simp only [InMemoryCheckoutRegistry.renew, Result.bind_eq_ok, Result.pure_eq_ok, Prod.mk.injEq] at returned
  obtain ⟨current, mine, rfl, rfl⟩ := returned
  obtain ⟨found, -⟩ := owned_eq_ok.mp mine
  rw [found, Dict.get?_set_self]
  exact ⟨rfl, current, rfl, rfl⟩

theorem beginCleanup_step (worker : Nat) {ownerToken : String} {now leaseExpiresAt : Datetime}
    (keyed : ∀ record, registry.records.get? executionId = some record → record.executionId = executionId)
    (returned : registry.beginCleanup executionId ownerToken now leaseExpiresAt = .ok (answer, after)) :
    RecordStep executionId worker (registry.records.get? executionId) (after.records.get? executionId)
        (happening worker (.beginCleanup executionId ownerToken now leaseExpiresAt, answer)) ∧
      ∃ current, registry.records.get? executionId = some current ∧
        answer = .checkout (current.cleaning ownerToken now leaseExpiresAt) := by
  simp only [InMemoryCheckoutRegistry.beginCleanup, Result.bind_eq_ok, Result.pure_eq_ok, Prod.mk.injEq] at returned
  obtain ⟨current, free, rfl, rfl⟩ := returned
  obtain ⟨found, -⟩ := cleanable_eq_ok.mp free
  refine ⟨.granted (Dict.get?_set_self _ _ _) (keyed current found) rfl fun other here => ?_, current, found, rfl⟩
  cases found.symm.trans here
  exact Int.lt_succ current.fenceToken

theorem update_step {checkout : ExecutionCheckout} {ownerToken : String} {fenceToken : Int} {now : Datetime}
    (keyed : checkout.executionId = executionId) (fence : checkout.fenceToken = fenceToken)
    (settles : checkout.state ≠ .provisioning)
    (returned : registry.update checkout ownerToken fenceToken now = .ok (answer, after)) :
    RecordStep executionId worker (registry.records.get? executionId) (after.records.get? executionId)
      (happening worker (.update checkout ownerToken fenceToken now, answer)) := by
  subst keyed
  simp only [InMemoryCheckoutRegistry.update, Result.bind_eq_ok, Result.pure_eq_ok, Prod.mk.injEq] at returned
  obtain ⟨current, mine, rfl, rfl⟩ := returned
  obtain ⟨found, provisioning, -, sameFence, -⟩ := owned_eq_ok.mp mine
  refine .settled found provisioning (Dict.get?_set_self _ _ _) rfl settles (fence.trans sameFence.symm) ?_
  simp only [happening, granted]
  cases checkout.state <;> simp

theorem perform_step {world : World} {operation : Operation}
    (keyed : ∀ record, world.record executionId = some record → record.executionId = executionId)
    (permitted : Permitted jobs executionId worker world (.registry operation))
    (returned : world.registry.perform operation = .ok (answer, after)) :
    RecordStep executionId worker (world.record executionId) (after.records.get? executionId)
      (happening worker (operation, answer)) := by
  cases operation with
  | get =>
    cases returned
    exact .kept rfl
  | claim candidate now => exact claim_step permitted.2.1 permitted.2.2 returned
  | renew renewed ownerToken fenceToken now leaseExpiresAt =>
    cases permitted
    obtain ⟨same, current, -, rfl⟩ := renew_step returned
    exact .kept same
  | beginCleanup cleaned ownerToken now leaseExpiresAt =>
    obtain ⟨-, rfl⟩ := permitted
    exact (beginCleanup_step worker keyed returned).1
  | update checkout ownerToken fenceToken now => exact update_step permitted.1 permitted.2.1 permitted.2.2 returned
  | claimCache repositoryId claimed ownerToken executionFence now leaseExpiresAt =>
    simp only [InMemoryCheckoutRegistry.perform, InMemoryCheckoutRegistry.claimCache, Result.bind_eq_ok,
      Result.pure_eq_ok, Prod.mk.injEq] at returned
    obtain ⟨_, -, _, -, rfl, rfl⟩ := returned
    exact .kept rfl
  | renewCache repositoryId renewed ownerToken executionFence cacheFence now leaseExpiresAt =>
    simp only [InMemoryCheckoutRegistry.perform, InMemoryCheckoutRegistry.renewCache, Result.bind_eq_ok,
      Result.pure_eq_ok, Prod.mk.injEq] at returned
    obtain ⟨_, -, rfl, rfl⟩ := returned
    exact .kept rfl
  | releaseCache repositoryId ownerToken cacheFence =>
    simp only [InMemoryCheckoutRegistry.perform, InMemoryCheckoutRegistry.releaseCache] at returned
    cases found : world.registry.cacheClaims.get? repositoryId with
    | none =>
      rw [found] at returned
      cases returned
      exact .kept rfl
    | some existing =>
      rw [found] at returned
      simp only [Result.bind_eq_ok, Result.pure_eq_ok, Prod.mk.injEq] at returned
      obtain ⟨_, -, rfl, rfl⟩ := returned
      exact .kept rfl

end Records

section Invariant

variable {jobs : Nat → Job} {executionId : String} {worker : Nat} {world next : World} {happened : List Happening}

/-- A claim has one holder, whom the later fences exclude, and under it nothing is modified. -/
structure Inv (executionId : String) (world : World) : Prop where
  keyed : ∀ record, world.record executionId = some record → record.executionId = executionId
  bounded : ∀ worker fence, fenceOf worker world.history = some fence →
    ∃ record, world.record executionId = some record ∧ fence ≤ record.fenceToken
  single : ∀ worker other, world.Holds executionId worker → world.Holds executionId other → worker = other
  untouched : ∀ worker, world.Holds executionId worker → Untouched worker world.history

structure Passive (happened : List Happening) : Prop where
  fence : ∀ worker history, fenceOf worker (happened ++ history) = fenceOf worker history
  untouched : ∀ worker history, Untouched worker history → Untouched worker (happened ++ history)

theorem passive_settled (happens : happened = [] ∨ happened = [.ready] ∨ happened = [.cleaned]) :
    Passive happened := by
  rcases happens with rfl | rfl | rfl <;> exact ⟨fun _ _ => rfl, fun _ _ untouched => untouched⟩

theorem World.Holds.of_outline {before after : World} (same : (after.record executionId).map outline =
    (before.record executionId).map outline) (fences : ∀ worker, fenceOf worker after.history =
      fenceOf worker before.history) {worker : Nat} (holds : after.Holds executionId worker) :
    before.Holds executionId worker := by
  obtain ⟨record, found, provisioning, mine⟩ := holds
  rw [found] at same
  obtain ⟨current, here, alike⟩ := Option.map_eq_some_iff.mp same.symm
  simp only [outline, Prod.mk.injEq] at alike
  exact ⟨current, here, alike.2.1.trans provisioning, by rw [← fences worker, mine, alike.2.2]⟩

theorem Inv.kept (inv : Inv executionId world)
    (same : (next.record executionId).map outline = (world.record executionId).map outline)
    (passive : Passive happened) (history : next.history = happened ++ world.history) : Inv executionId next := by
  have fences (worker : Nat) : fenceOf worker next.history = fenceOf worker world.history := by
    rw [history, passive.fence]
  refine ⟨fun record found => ?_, fun worker fence granted => ?_, fun worker other holds held => ?_,
    fun worker holds => ?_⟩
  · rw [found] at same
    obtain ⟨current, here, alike⟩ := Option.map_eq_some_iff.mp same.symm
    simp only [outline, Prod.mk.injEq] at alike
    exact alike.1 ▸ inv.keyed current here
  · obtain ⟨record, found, below⟩ := inv.bounded worker fence ((fences worker).symm.trans granted)
    rw [found] at same
    obtain ⟨current, here, alike⟩ := Option.map_eq_some_iff.mp same
    simp only [outline, Prod.mk.injEq] at alike
    exact ⟨current, here, alike.2.2 ▸ below⟩
  · exact inv.single worker other (.of_outline same fences holds) (.of_outline same fences held)
  · rw [history]
    exact passive.untouched worker _ (inv.untouched worker (.of_outline same fences holds))

theorem fenceOf_granted (worker other : Nat) (fence : Int) (history : List Happening) :
    fenceOf worker (.granted other fence :: history) = if other = worker then some fence else fenceOf worker history :=
  rfl

theorem Inv.below (inv : Inv executionId world) {record : ExecutionCheckout}
    (newer : ∀ current, world.record executionId = some current → current.fenceToken < record.fenceToken)
    {worker : Nat} {fence : Int} (granted : fenceOf worker world.history = some fence) :
    fence < record.fenceToken := by
  obtain ⟨current, found, most⟩ := inv.bounded worker fence granted
  have := newer current found
  omega

theorem Inv.holder (inv : Inv executionId world) {record : ExecutionCheckout}
    (found : next.record executionId = some record)
    (newer : ∀ current, world.record executionId = some current → current.fenceToken < record.fenceToken)
    (history : next.history = .granted worker record.fenceToken :: world.history) {other : Nat}
    (holds : next.Holds executionId other) : worker = other := by
  obtain ⟨entered, here, -, fence⟩ := holds
  cases found.symm.trans here
  rw [history, fenceOf_granted] at fence
  by_contra different
  rw [if_neg different] at fence
  exact Int.lt_irrefl _ (inv.below newer fence)

theorem Inv.granted (inv : Inv executionId world) {record : ExecutionCheckout}
    (found : next.record executionId = some record) (keyed : record.executionId = executionId)
    (newer : ∀ current, world.record executionId = some current → current.fenceToken < record.fenceToken)
    (history : next.history = .granted worker record.fenceToken :: world.history) : Inv executionId next := by
  refine ⟨fun entered here => ?_, fun other fence granted => ?_, fun first second holds held => ?_, fun other holds => ?_⟩
  · cases found.symm.trans here
    exact keyed
  · rw [history, fenceOf_granted] at granted
    refine ⟨record, found, ?_⟩
    by_cases same : worker = other
    · rw [if_pos same] at granted
      cases granted
      exact Int.le_refl _
    · rw [if_neg same] at granted
      exact Int.le_of_lt (inv.below newer granted)
  · exact (inv.holder found newer history holds).symm.trans (inv.holder found newer history held)
  · rw [history, inv.holder found newer history holds]
    exact .inl rfl

theorem Inv.free (inv : Inv executionId world)
    (keyed : ∀ record, next.record executionId = some record → record.executionId = executionId)
    (grown : ∀ record, world.record executionId = some record →
      ∃ later, next.record executionId = some later ∧ record.fenceToken ≤ later.fenceToken)
    (settled : ∀ record, next.record executionId = some record → record.state ≠ .provisioning)
    (fences : ∀ worker, fenceOf worker next.history = fenceOf worker world.history) : Inv executionId next := by
  have free (worker : Nat) : ¬next.Holds executionId worker := fun ⟨record, found, provisioning, _⟩ =>
    settled record found provisioning
  refine ⟨keyed, fun worker fence granted => ?_, fun worker _ holds => absurd holds (free worker),
    fun worker holds => absurd holds (free worker)⟩
  obtain ⟨record, found, below⟩ := inv.bounded worker fence ((fences worker).symm.trans granted)
  obtain ⟨later, entered, above⟩ := grown record found
  exact ⟨later, entered, by omega⟩

theorem Inv.record (inv : Inv executionId world)
    (step : RecordStep executionId worker (world.record executionId) (next.record executionId) happened)
    (history : next.history = happened ++ world.history) : Inv executionId next := by
  cases step with
  | kept same => exact inv.kept same (passive_settled (.inl rfl)) history
  | granted found keyed provisioning newer => exact inv.granted found keyed newer history
  | @settled current record happened found provisioning entered keyed settles fence happens =>
    refine inv.free (fun other here => ?_) (fun other here => ?_) (fun other here => ?_) fun worker => ?_
    · cases entered.symm.trans here
      exact keyed
    · cases found.symm.trans here
      exact ⟨record, entered, Int.le_of_eq fence.symm⟩
    · cases entered.symm.trans here
      exact settles
    · rw [history, (passive_settled happens).fence]

theorem passive_git (platform : Platform) (worker : Nat) (arguments : List String) (process : Process) :
    Passive (gitHappening platform worker arguments process) := by
  unfold gitHappening
  split
  · split <;> exact ⟨fun _ _ => rfl, fun _ _ untouched => untouched⟩
  · split <;> exact ⟨fun _ _ => rfl, fun _ _ untouched => untouched⟩

theorem inv_exec {effect : Effect} {answer : effect.Answer} (inv : Inv executionId world)
    (permitted : Permitted jobs executionId worker world effect)
    (executed : World.Exec jobs worker world effect answer next) : Inv executionId next := by
  cases executed with
  | returned performed => exact inv.record (perform_step inv.keyed permitted performed) rfl
  | raised performed => exact inv
  | exist path =>
    have passive : Passive (if world.present then [] else [.looked worker .missing]) := by
      split <;> exact ⟨fun _ _ => rfl, fun _ _ untouched => untouched⟩
    refine inv.kept rfl passive ?_
    dsimp only
    split <;> rfl
  | git repository arguments process present only => exact inv.kept rfl (passive_git _ _ _ _) rfl
  | quiet quiet answer => exact inv

theorem inv_foreign (inv : Inv executionId world) (moved : World.Foreign executionId world next) :
    Inv executionId next := by
  cases moved with
  | modified present free =>
    exact inv.free inv.keyed (fun record found => ⟨record, found, Int.le_refl _⟩) free fun _ => rfl
  | elsewhere registry same =>
    exact inv.kept (congrArg (Option.map outline) same) (passive_settled (.inl rfl)) rfl
  | renewed renewed => exact inv.kept (renew_step renewed).1 (passive_settled (.inl rfl)) rfl

theorem lastLook_exec {other : Nat} (different : other ≠ worker) {effect : Effect} {answer : effect.Answer}
    (executed : World.Exec jobs worker world effect answer next) :
    lastLook other next.history = lastLook other world.history := by
  cases executed with
  | @returned operation answer after performed =>
    show lastLook other (happening worker (operation, answer) ++ world.history) = _
    unfold happening
    split
    · simp [lastLook, different.symm]
    · split
      · split <;> rfl
      · rfl
  | raised performed => rfl
  | exist path =>
    dsimp only
    split
    · rfl
    · simp [lastLook, different.symm]
  | git repository arguments process present only =>
    show lastLook other (gitHappening _ worker arguments process ++ world.history) = _
    unfold gitHappening
    split
    · split
      · simp [lastLook, different.symm]
      · rfl
    · split <;> rfl
  | quiet quiet answer => rfl

theorem lastLook_foreign {other : Nat} (moved : World.Foreign executionId world next) :
    lastLook other next.history = lastLook other world.history := by
  cases moved <;> rfl

/-- The workers keep their claims apart, and each relies on nobody else changing what it saw. -/
def holding (jobs : Nat → Job) (executionId : String) : (workers jobs executionId).Discipline where
  invariant := Inv executionId
  permitted := Permitted jobs executionId
  rely worker world next := lastLook worker next.history = lastLook worker world.history
  rely_refl _ _ := rfl
  rely_trans first second := second.trans first
  invariant_exec := inv_exec
  invariant_foreign := inv_foreign
  rely_exec different _ _ executed := lastLook_exec different executed
  rely_foreign _ moved := lastLook_foreign moved

end Invariant

section Retention

variable {jobs : Nat → Job} {executionId : String} {worker : Nat} {world next : World} {happened : List Happening}

/-- A retained checkout is only held by a cleanup, which saw the workspace before it removes anything. -/
structure Retains (jobs : Nat → Job) (executionId : String) (world : World) : Prop where
  cleaning : Retained world.history → ∀ worker, world.Holds executionId worker → (jobs worker).cleans
  found : ∀ worker, (jobs worker).cleans → lastLook worker world.history ≠ some .missing
  removed : RemovedClean jobs world.history

def Removal : Happening → Prop
  | .removed _ _ => True
  | _ => False

instance (happening : Happening) : Decidable (Removal happening) := by
  cases happening <;> first | exact .isTrue trivial | exact .isFalse id

theorem RemovedClean.other {happening : Happening} {history : List Happening} (removed : RemovedClean jobs history)
    (other : ¬Removal happening) : RemovedClean jobs (happening :: history) := by
  intro later worker arguments earlier split
  cases later with
  | nil =>
    cases split
    exact absurd trivial other
  | cons head later => exact removed later worker arguments earlier (List.cons.inj split).2

theorem RemovedClean.append {history : List Happening} (removed : RemovedClean jobs history)
    (none : ∀ happening ∈ happened, ¬Removal happening) : RemovedClean jobs (happened ++ history) := by
  induction happened with
  | nil => exact removed
  | cons happening rest ih =>
    exact (ih fun other member => none other (List.mem_cons_of_mem _ member)).other (none _ List.mem_cons_self)

theorem RemovedClean.cons {history : List Happening} {arguments : List String} (removed : RemovedClean jobs history)
    (clean : Retained history → (jobs worker).cleans ∧ FoundClean worker history) :
    RemovedClean jobs (.removed worker arguments :: history) := by
  intro later other removal earlier split
  cases later with
  | nil =>
    cases split
    exact clean
  | cons head later => exact removed later other removal earlier (List.cons.inj split).2

theorem cleans_of_granted {operation : Operation} {answer : Answer} {after : InMemoryCheckoutRegistry}
    {record : ExecutionCheckout} (permitted : Permitted jobs executionId worker world (.registry operation))
    (careful : Careful jobs executionId worker world (.registry operation))
    (performed : world.registry.perform operation = .ok (answer, after))
    (grants : granted (operation, answer) = some record) (retained : Retained world.history) : (jobs worker).cleans := by
  cases operation with
  | claim candidate now =>
    obtain ⟨-, rfl, -⟩ := permitted
    have refused := careful retained
    unfold World.record at refused
    rw [claimOver_of_granted performed grants] at refused
    cases refused
  | beginCleanup cleaned ownerToken now leaseExpiresAt => exact permitted.1
  | _ => cases answer <;> cases grants

theorem granted_of_happening {operation : Operation} {answer : Answer} {other : Nat} {fence : Int}
    (happens : happening worker (operation, answer) = [.granted other fence]) :
    ∃ record, granted (operation, answer) = some record := by
  unfold happening at happens
  split at happens
  · exact ⟨_, ‹_›⟩
  · split at happens
    · split at happens <;> cases happens
    · cases happens

theorem happening_passive {operation : Operation} {answer : Answer} :
    ∀ happened ∈ happening worker (operation, answer), ¬Removal happened := by
  unfold happening
  split
  · simp [Removal]
  · split
    · split <;> simp [Removal]
    · simp

theorem lastLook_returned (worker : Nat) (operation : Operation) (answer : Answer) (other : Nat)
    (history : List Happening) :
    lastLook other (happening worker (operation, answer) ++ history) = none ∨
      lastLook other (happening worker (operation, answer) ++ history) = lastLook other history := by
  unfold happening
  split
  · by_cases mine : worker = other
    · exact .inl (by simp [lastLook, mine])
    · exact .inr (by simp [lastLook, mine])
  · split
    · split <;> exact .inr rfl
    · exact .inr rfl

theorem Inv.cleaning (inv : Inv executionId world)
    (cleaning : Retained world.history → ∀ worker, world.Holds executionId worker → (jobs worker).cleans)
    (step : RecordStep executionId worker (world.record executionId) (next.record executionId) happened)
    (history : next.history = happened ++ world.history)
    (grants : ∀ fence, happened = [.granted worker fence] → Retained world.history → (jobs worker).cleans)
    (retained : Retained next.history) (holder : Nat) (holds : next.Holds executionId holder) :
    (jobs holder).cleans := by
  cases step with
  | kept same =>
    rw [history] at retained
    exact cleaning retained holder (.of_outline same (fun _ => by rw [history]; rfl) holds)
  | @granted record found keyed provisioning newer =>
    rw [history] at retained
    rw [← inv.holder found newer history holds]
    exact grants record.fenceToken rfl retained
  | settled found provisioning entered keyed settles fence happens =>
    obtain ⟨record, here, provisioned, -⟩ := holds
    cases entered.symm.trans here
    exact absurd provisioned settles

theorem Retains.returned (retains : Retains jobs executionId world) (inv : Inv executionId world)
    {operation : Operation} {answer : Answer} {after : InMemoryCheckoutRegistry}
    (permitted : Permitted jobs executionId worker world (.registry operation))
    (careful : Careful jobs executionId worker world (.registry operation))
    (performed : world.registry.perform operation = .ok (answer, after)) :
    Retains jobs executionId
      { world with registry := after, history := happening worker (operation, answer) ++ world.history } := by
  have step := perform_step inv.keyed permitted performed
  refine ⟨inv.cleaning retains.cleaning step rfl fun fence happens retained => ?_, fun other cleans => ?_,
    retains.removed.append happening_passive⟩
  · obtain ⟨record, grants⟩ := granted_of_happening happens
    exact cleans_of_granted permitted careful performed grants retained
  · dsimp only
    rcases lastLook_returned worker operation answer other world.history with gone | same
    · rw [gone]
      nofun
    · rw [same]
      exact retains.found other cleans

theorem Retains.looked (retains : Retains jobs executionId world) {look : Look}
    (seen : (jobs worker).cleans → look ≠ .missing) {present : Bool} :
    Retains jobs executionId { world with present, history := .looked worker look :: world.history } := by
  refine ⟨retains.cleaning, fun other cleans => ?_, retains.removed.other (by simp [Removal])⟩
  by_cases mine : worker = other
  · subst mine
    simpa [lastLook] using seen cleans
  · simpa [lastLook, mine] using retains.found other cleans

theorem Retains.removal (retains : Retains jobs executionId world) (inv : Inv executionId world)
    {arguments : List String} (holder : Retained world.history → world.Holds executionId worker)
    (looked : (jobs worker).cleans →
      lastLook worker world.history = some .clean ∨ lastLook worker world.history = some .missing)
    {present : Bool} :
    Retains jobs executionId { world with present, history := .removed worker arguments :: world.history } := by
  refine ⟨retains.cleaning, retains.found, retains.removed.cons fun retained => ?_⟩
  have holds := holder retained
  have cleans := retains.cleaning retained worker holds
  have clean := (looked cleans).resolve_right (retains.found worker cleans)
  exact ⟨cleans, foundClean_of_untouched (inv.untouched worker holds) clean⟩

theorem retains_exec {effect : Effect} {answer : effect.Answer} (inv : Inv executionId world)
    (permitted : Permitted jobs executionId worker world effect) (careful : Careful jobs executionId worker world effect)
    (executed : World.Exec jobs worker world effect answer next) (retains : Retains jobs executionId world) :
    Retains jobs executionId next := by
  cases executed with
  | returned performed => exact retains.returned inv permitted careful performed
  | raised performed => exact retains
  | exist path =>
    by_cases present : world.present
    · rw [if_pos present]
      exact retains
    · rw [if_neg present]
      exact retains.looked fun cleans => absurd (careful cleans) present
  | git repository arguments process present only =>
    unfold gitHappening
    split
    · split
      · exact retains.looked fun _ => by split <;> nofun
      · exact ⟨retains.cleaning, retains.found, retains.removed⟩
    · split
      case isTrue removing => exact retains.removal inv (careful removing) (permitted removing)
      case isFalse => exact ⟨retains.cleaning, retains.found, retains.removed⟩
  | quiet quiet answer => exact retains

theorem retains_foreign (inv : Inv executionId world) (moved : World.Foreign executionId world next)
    (retains : Retains jobs executionId world) : Retains jobs executionId next := by
  cases moved with
  | modified present free =>
    refine ⟨fun _ holder holds => ?_, retains.found, retains.removed.other (by simp [Removal])⟩
    obtain ⟨record, found, provisioning, -⟩ := holds
    exact absurd provisioning (free record found)
  | elsewhere registry same =>
    have step : RecordStep executionId 0 (world.record executionId) (registry.records.get? executionId) [] :=
      .kept (congrArg (Option.map outline) same)
    exact ⟨inv.cleaning retains.cleaning step rfl nofun, retains.found, retains.removed⟩
  | @renewed ownerToken fenceToken now leaseExpiresAt answer registry renewed =>
    have step : RecordStep executionId 0 (world.record executionId) (registry.records.get? executionId) [] :=
      .kept (renew_step renewed).1
    exact ⟨inv.cleaning retains.cleaning step rfl nofun, retains.found, retains.removed⟩

end Retention

end Aep.Checkout
