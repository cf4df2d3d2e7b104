import Aep.Checkout.Retention

namespace Aep.Checkout

open Machine.Discipline

/-- The effects by which a worker is granted a claim or looks at the workspace. -/
def Effect.looks : Effect → Bool
  | .registry (.claim ..) | .registry (.beginCleanup ..) | .exist _ => true
  | .git _ arguments => arguments = statusCommand
  | _ => false

theorem lastLook_own {jobs : Nat → Job} {worker : Nat} {world next : World} {effect : Effect} {answer : effect.Answer}
    (blind : effect.looks = false) (executed : World.Exec jobs worker world effect answer next) :
    lastLook worker next.history = lastLook worker world.history := by
  cases executed with
  | @returned operation answer after performed =>
    cases operation with
    | claim => cases blind
    | beginCleanup => cases blind
    | update checkout ownerToken fenceToken now =>
      dsimp only [happening, granted]
      split <;> rfl
    | _ => rfl
  | raised performed => rfl
  | exist path => cases blind
  | git repository arguments process present only =>
    have other : arguments ≠ statusCommand := of_decide_eq_false blind
    dsimp only [gitHappening]
    rw [if_neg other]
    split <;> rfl
  | quiet quiet answer => rfl

section Rules

variable (jobs : Nat → Job) (executionId : String) (worker : Nat)

def Knows (known : Option Look → Prop) (world : World) : Prop := known (lastLook worker world.history)

def Calm {α : Type} (known : Option Look → Prop) (program : Prog α) : Prop :=
  (holding jobs executionId).Triple worker (Knows worker known) program fun _ => Knows worker known

def Reads (known : Option Look → Prop) (program : Prog ExecutionCheckout) : Prop :=
  (holding jobs executionId).Triple worker (Knows worker known) program fun result world =>
    Knows worker known world ∧ ∀ record, result = .ok record → record.executionId = executionId

def Works {α : Type} (known : Option Look → Prop) (work : Work α) (ends : Except CheckoutError α → Option Look → Prop) :
    Prop :=
  ∀ locals, locals.claimed.executionId = executionId →
    (holding jobs executionId).Triple worker (Knows worker known) (work locals)
      (returns fun result world => Knows worker (ends result.1) world ∧ result.2.claimed.executionId = executionId)

abbrev Kept {α : Type} (known : Option Look → Prop) (work : Work α) : Prop :=
  Works jobs executionId worker known work fun _ => known

def Looked (look : Option Look) : Prop := (jobs worker).cleans → look = some .clean ∨ look = some .missing

end Rules

section Calm

variable {jobs : Nat → Job} {executionId : String} {worker : Nat} {known : Option Look → Prop} {α β : Type}

theorem calm_ret (value : α) : Calm jobs executionId worker known (.ret value) := triple_ret fun _ holds => holds

theorem calm_fail (error : CheckoutError) : Calm jobs executionId worker known (Prog.fail error : Prog α) :=
  triple_raise fun _ holds => holds

theorem calm_cut : Calm jobs executionId worker known (.cut : Prog α) := triple_cut

theorem calm_check (result : Except CheckoutError α) : Calm jobs executionId worker known (Prog.check result) :=
  triple_liftExcept fun _ holds => holds

theorem Calm.bind {program : Prog α} {next : α → Prog β} (first : Calm jobs executionId worker known program)
    (rest : ∀ value, Calm jobs executionId worker known (next value)) :
    Calm jobs executionId worker known (program >>= next) :=
  Triple.bind first rest fun _ _ holds => holds

theorem Calm.attempt {program : Prog α} (calm : Calm jobs executionId worker known program) :
    Calm jobs executionId worker known (Program.attempt program : Prog (Except CheckoutError α)) :=
  Triple.attempt calm fun _ _ holds => holds

theorem knows_rely {world next : World} (knows : Knows worker known world)
    (same : lastLook worker next.history = lastLook worker world.history) : Knows worker known next := by
  unfold Knows
  rw [same]
  exact knows

theorem calm_call {effect : Effect} {next : effect.Answer → Prog α}
    (still : effect.looks = false ∨ ∀ look, known look)
    (permitted : ∀ world, Knows worker known world → Permitted jobs executionId worker world effect)
    (rest : ∀ answer, Calm jobs executionId worker known (next answer)) :
    Calm jobs executionId worker known (.call effect next) := by
  refine triple_call (fun _ => Knows worker known) (fun _ _ knows same => knows_rely knows same)
    (fun world _ knows => permitted world knows) (fun world answer after _ knows executed _ => ?_) rest
  rcases still with blind | anything
  · exact knows_rely knows (lastLook_own blind executed)
  · exact anything _

theorem calm_ask {effect : Effect} (still : effect.looks = false ∨ ∀ look, known look)
    (permitted : ∀ world, Knows worker known world → Permitted jobs executionId worker world effect) :
    Calm jobs executionId worker known (Prog.ask effect) := calm_call still permitted calm_ret

theorem calm_quiet {effect : Effect} (quiet : effect.quiet) : Calm jobs executionId worker known (Prog.ask effect) := by
  cases effect with
  | registry => cases quiet
  | exist => cases quiet
  | git => cases quiet
  | _ => exact calm_ask (.inl rfl) fun _ _ => trivial

theorem calm_git {repository : String} {arguments : List String}
    (still : arguments ≠ statusCommand ∨ ∀ look, known look)
    (allowed : removes arguments = false ∨ ∀ look, known look → Looked jobs worker look) :
    Calm jobs executionId worker known (git repository arguments) := by
  refine Calm.bind (calm_ask (still.imp_left fun other => decide_eq_false other) fun world knows removing => ?_)
    fun process => ?_
  · rcases allowed with harmless | looked
    · rw [harmless] at removing
      cases removing
    · exact looked _ knows
  · cases process with
    | unavailable => exact calm_fail _
    | exited returncode stdout =>
      dsimp only
      split
      · exact calm_ret _
      · exact calm_fail _

theorem calm_gitSucceeds {repository : String} {arguments : List String} (other : arguments ≠ statusCommand)
    (harmless : removes arguments = false) :
    Calm jobs executionId worker known (gitSucceeds repository arguments) := by
  refine Calm.bind (calm_ask (.inl (decide_eq_false other)) fun world knows removing => ?_) fun process => ?_
  · rw [harmless] at removing
    cases removing
  · cases process with
    | unavailable => exact calm_fail _
    | exited returncode stdout => exact calm_ret _

theorem calm_now : Calm jobs executionId worker known now := by
  refine Calm.bind (calm_quiet rfl) fun value => ?_
  cases value with
  | none => exact calm_fail _
  | some time => exact calm_check _

theorem calm_leaseFrom (manager : ExecutionCheckoutManager) (time : Datetime) :
    Calm jobs executionId worker known (leaseFrom manager time) := calm_check _

theorem calm_validateIdentity (platform : Platform) (checkout : ExecutionCheckout) :
    Calm jobs executionId worker known (validateIdentity platform checkout) := by
  refine Calm.bind (calm_quiet rfl) fun directory => ?_
  cases directory with
  | false => exact calm_fail _
  | true =>
    refine Calm.bind (calm_git (.inl (by decide)) (.inl rfl)) fun toplevel => ?_
    refine Calm.bind (calm_quiet rfl) fun root => ?_
    exact Calm.bind (calm_git (.inl (by decide)) (.inl rfl)) fun branch => calm_check _

theorem calm_branchExists (checkout : ExecutionCheckout) :
    Calm jobs executionId worker known (branchExists checkout) :=
  calm_gitSucceeds (by simp [statusCommand]) rfl

theorem calm_makeParent (checkout : ExecutionCheckout) : Calm jobs executionId worker known (makeParent checkout) :=
  Calm.bind (calm_quiet rfl) fun _ => calm_check _

theorem calm_addWorktree (checkout : ExecutionCheckout) : Calm jobs executionId worker known (addWorktree checkout) :=
  Calm.bind (calm_git (.inl (by simp [statusCommand])) (.inl rfl)) fun _ => calm_ret _

theorem calm_validateReady (platform : Platform) (checkout : ExecutionCheckout) :
    Calm jobs executionId worker known (validateReady platform checkout) :=
  Calm.bind (calm_validateIdentity platform checkout) fun _ =>
    Calm.bind (calm_gitSucceeds (by simp [statusCommand]) rfl) fun _ => calm_check _

theorem calm_validateInitial (anything : ∀ look, known look) (platform : Platform) (checkout : ExecutionCheckout) :
    Calm jobs executionId worker known (validateInitial platform checkout) := by
  refine Calm.bind (calm_validateIdentity platform checkout) fun _ => ?_
  refine Calm.bind (calm_git (.inr anything) (.inl rfl)) fun head => ?_
  refine Calm.bind (calm_check _) fun _ => ?_
  exact Calm.bind (calm_git (.inr anything) (.inl rfl)) fun status => calm_check _

theorem calm_isInitial (anything : ∀ look, known look) (platform : Platform) (checkout : ExecutionCheckout) :
    Calm jobs executionId worker known (isInitial platform checkout) := by
  refine Calm.bind (calm_validateInitial anything platform checkout).attempt fun result => ?_
  cases result with
  | ok value => exact calm_ret _
  | error error => cases error <;> first | exact calm_ret _ | exact calm_fail _

section Removals

variable (looked : ∀ look, known look → Looked jobs worker look) (checkout : ExecutionCheckout)

include looked

theorem calm_removeWorktree : Calm jobs executionId worker known (removeWorktree checkout) :=
  Calm.bind (calm_git (.inl (by simp [statusCommand])) (.inr looked)) fun _ => calm_ret _

theorem calm_forceRemoveWorktree : Calm jobs executionId worker known (forceRemoveWorktree checkout) :=
  Calm.bind (calm_git (.inl (by simp [statusCommand])) (.inr looked)) fun _ => calm_ret _

theorem calm_deleteBranch : Calm jobs executionId worker known (deleteBranch checkout) :=
  Calm.bind (calm_git (.inl (by simp [statusCommand])) (.inr looked)) fun _ => calm_ret _

end Removals

theorem calm_registry {operation : Operation} {read : Reply → Prog α}
    (blind : (Effect.registry operation).looks = false)
    (permitted : ∀ world, Permitted jobs executionId worker world (.registry operation))
    (rest : ∀ reply, Calm jobs executionId worker known (read reply)) :
    Calm jobs executionId worker known (Prog.registry operation read) :=
  Calm.bind (calm_ask (.inl blind) fun world _ => permitted world) rest

theorem calm_doneOf (reply : Reply) : Calm jobs executionId worker known (Prog.doneOf reply) := by
  cases reply with
  | error error => exact calm_fail _
  | ok answer => cases answer <;> first | exact calm_ret _ | exact calm_cut

theorem calm_fenceOf (reply : Reply) : Calm jobs executionId worker known (Prog.fenceOf reply) := by
  cases reply with
  | error error => exact calm_fail _
  | ok answer => cases answer <;> first | exact calm_ret _ | exact calm_cut

theorem calm_foundOf (reply : Reply) : Calm jobs executionId worker known (Prog.foundOf reply) := by
  cases reply with
  | error error => exact calm_fail _
  | ok answer => cases answer <;> first | exact calm_ret _ | exact calm_cut

theorem reads_registry {operation : Operation} (still : (Effect.registry operation).looks = false ∨ ∀ look, known look)
    (permitted : ∀ world, Permitted jobs executionId worker world (.registry operation))
    (keyed : ∀ world answer after, Inv executionId world → world.registry.perform operation = .ok (answer, after) →
      ∀ record, answer = .checkout record → record.executionId = executionId) :
    Reads jobs executionId worker known (Prog.registry operation Prog.checkoutOf) := by
  refine triple_call (fun reply world => Knows worker known world ∧
    ∀ record, reply = .ok (.checkout record) → record.executionId = executionId)
    (fun _ _ knows same => knows_rely knows same) (fun world _ _ => permitted world)
    (fun world answer after inv knows executed _ => ⟨?_, ?_⟩) fun reply => ?_
  · rcases still with blind | anything
    · exact knows_rely knows (lastLook_own blind executed)
    · exact anything _
  · intro record returned
    cases executed with
    | returned performed =>
      cases returned
      exact keyed world _ _ inv performed record rfl
    | raised performed => cases returned
    | quiet quiet => cases quiet
  · show (holding jobs executionId).Triple worker _ (Prog.checkoutOf reply) _
    cases reply with
    | error error => exact triple_raise fun _ ended => ⟨ended.1, fun _ same => by cases same⟩
    | ok answer =>
      cases answer with
      | checkout record =>
        refine triple_ret fun _ ended => ⟨ended.1, fun _ same => ?_⟩
        cases same
        exact ended.2 record rfl
      | _ => exact triple_cut

theorem reads_renew {owner : String} {fence : Int} {now leaseExpiresAt : Datetime} :
    Reads jobs executionId worker known
      (Prog.registry (.renew executionId owner fence now leaseExpiresAt) Prog.checkoutOf) := by
  refine reads_registry (.inl rfl) (fun _ => rfl) fun world answer after inv performed record same => ?_
  obtain ⟨-, current, found, answered⟩ := renew_step performed
  cases answered.symm.trans same
  exact inv.keyed current found

theorem reads_beginCleanup (anything : ∀ look, known look) (cleans : (jobs worker).cleans) {owner : String}
    {now leaseExpiresAt : Datetime} : Reads jobs executionId worker known
      (Prog.registry (.beginCleanup executionId owner now leaseExpiresAt) Prog.checkoutOf) := by
  refine reads_registry (.inr anything) (fun _ => ⟨cleans, rfl⟩) fun world answer after inv performed record same => ?_
  obtain ⟨-, current, found, answered⟩ := beginCleanup_step worker inv.keyed performed
  cases answered.symm.trans same
  exact inv.keyed current found

theorem reads_claim (anything : ∀ look, known look) (provisions : (jobs worker).cleans = false)
    {candidate : ExecutionCheckout} {now : Datetime} (keyed : candidate.executionId = executionId)
    (provisioning : candidate.state = .provisioning) :
    Reads jobs executionId worker known (Prog.registry (.claim candidate now) Prog.checkoutOf) := by
  refine reads_registry (.inr anything) (fun _ => ⟨provisions, keyed, provisioning⟩)
    fun world answer after inv performed record same => ?_
  rcases claim_returned performed with ⟨existing, found, -, answered, -⟩ | ⟨entered, answered, ⟨here, -⟩, -⟩
  · cases answered.symm.trans same
    exact inv.keyed record (keyed ▸ found)
  · cases answered.symm.trans same
    exact here.trans keyed

end Calm

section Work

variable {jobs : Nat → Job} {executionId : String} {worker : Nat} {known known' : Option Look → Prop} {α β : Type}
variable {ends : Except CheckoutError α → Option Look → Prop}

theorem works_pure (value : α) : Kept jobs executionId worker known (pure value) :=
  fun _ keyed => triple_ret fun _ knows result same => by
    cases same
    exact ⟨knows, keyed⟩

theorem works_raise {error : CheckoutError} (raised : ∀ look, known look → ends (.error error) look) :
    Works jobs executionId worker known (Body.fail error : Work α) ends :=
  fun _ keyed => triple_ret fun _ knows result same => by
    cases same
    exact ⟨raised _ knows, keyed⟩

theorem works_fail (error : CheckoutError) : Kept jobs executionId worker known (Body.fail error : Work α) :=
  works_raise fun _ knows => knows

theorem Works.mono {work : Work α} (works : Works jobs executionId worker known work ends)
    (stronger : ∀ look, known' look → known look) {ends' : Except CheckoutError α → Option Look → Prop}
    (weaker : ∀ result look, ends result look → ends' result look) :
    Works jobs executionId worker known' work ends' := by
  refine fun locals keyed => (works locals keyed).mono (fun _ knows => stronger _ knows) fun result world ended => ?_
  intro value same
  obtain ⟨knows, kept⟩ := ended value same
  exact ⟨weaker _ _ knows, kept⟩

theorem Works.tryCatch {work : Work α} {next : Except CheckoutError α → Work β}
    {ends' : Except CheckoutError β → Option Look → Prop} (first : Works jobs executionId worker known work ends)
    (rest : ∀ result, Works jobs executionId worker (ends result) (next result) ends') :
    Works jobs executionId worker known (Body.tryCatch work next) ends' := by
  intro locals keyed
  refine Triple.bind (first locals keyed) (fun outcome => ?_) fun error world _ value same => by cases same
  obtain ⟨result, after⟩ := outcome
  intro world ended
  obtain ⟨knows, kept⟩ := ended _ rfl
  exact rest result after kept world knows

theorem Works.bind {work : Work α} {next : α → Work β} {ends' : Except CheckoutError β → Option Look → Prop}
    (first : Works jobs executionId worker known work ends)
    (rest : ∀ value, Works jobs executionId worker (ends (.ok value)) (next value) ends')
    (raised : ∀ error look, ends (.error error) look → ends' (.error error) look) :
    Works jobs executionId worker known (work >>= next) ends' := by
  intro locals keyed
  refine Triple.bind (first locals keyed) (fun outcome => ?_) fun error world _ value same => by cases same
  obtain ⟨result, after⟩ := outcome
  cases result with
  | ok value =>
    intro world ended
    obtain ⟨knows, kept⟩ := ended _ rfl
    exact rest value after kept world knows
  | error error =>
    refine triple_ret fun world ended outcome same => ?_
    cases same
    obtain ⟨knows, kept⟩ := ended _ rfl
    exact ⟨raised error _ knows, kept⟩

theorem Kept.bind {work : Work α} {next : α → Work β} (first : Kept jobs executionId worker known work)
    (rest : ∀ value, Kept jobs executionId worker known (next value)) :
    Kept jobs executionId worker known (work >>= next) :=
  Works.bind first rest fun _ _ knows => knows

theorem Kept.finallyDo {work : Work α} {last : Work Unit} (first : Kept jobs executionId worker known work)
    (after : Kept jobs executionId worker known last) :
    Kept jobs executionId worker known (Body.finallyDo work last) := by
  refine Works.tryCatch first fun result => Kept.bind after fun _ => ?_
  exact fun _ keyed => triple_ret fun _ knows outcome same => by
    cases same
    exact ⟨knows, keyed⟩

theorem works_lift {program : Prog α} (calm : Calm jobs executionId worker known program) :
    Kept jobs executionId worker known (Body.lift program) := by
  intro locals keyed
  refine Triple.bind calm.attempt (fun result => triple_ret fun world knows outcome same => ?_)
    fun error world _ value same => by cases same
  cases same
  exact ⟨knows, keyed⟩

theorem works_locals {next : Locals → Work α}
    (rest : ∀ locals, locals.claimed.executionId = executionId → Works jobs executionId worker known (next locals) ends) :
    Works jobs executionId worker known (Body.get >>= next) ends :=
  fun locals keyed => rest locals keyed locals keyed

theorem works_setCacheFence (cacheFence : Int) : Kept jobs executionId worker known (Work.setCacheFence cacheFence) :=
  fun _ keyed => triple_ret fun _ knows result same => by
    cases same
    exact ⟨knows, keyed⟩

theorem works_setLeased (leased : Bool) : Kept jobs executionId worker known (Work.setLeased leased) :=
  fun _ keyed => triple_ret fun _ knows result same => by
    cases same
    exact ⟨knows, keyed⟩

theorem works_setClaimed {claimed : ExecutionCheckout} (here : claimed.executionId = executionId) :
    Kept jobs executionId worker known (Work.setClaimed claimed) :=
  fun _ _ => triple_ret fun _ knows result same => by
    cases same
    exact ⟨knows, here⟩

theorem works_reads {program : Prog ExecutionCheckout} {next : ExecutionCheckout → Work α}
    (reads : Reads jobs executionId worker known program)
    (rest : ∀ record, record.executionId = executionId → Kept jobs executionId worker known (next record)) :
    Kept jobs executionId worker known (Body.lift program >>= next) := by
  have lifted : Works jobs executionId worker known (Body.lift program) fun result look =>
      known look ∧ ∀ record, result = .ok record → record.executionId = executionId := by
    have attempted : (holding jobs executionId).Triple worker (Knows worker known)
        (Program.attempt program : Prog (Except CheckoutError ExecutionCheckout)) (returns fun result world =>
          Knows worker known world ∧ ∀ record, result = .ok record → record.executionId = executionId) :=
      Triple.attempt reads fun inner world ended result same => by
        cases same
        exact ended
    intro locals keyed
    refine Triple.bind attempted (fun result => triple_ret fun world ended outcome same => ?_)
      fun error world _ value same => by cases same
    cases same
    exact ⟨ended _ rfl, keyed⟩
  refine Works.bind lifted (fun record => ?_) fun _ _ ended => ended.1
  intro locals keyed world ended
  exact rest record (ended.2 record rfl) locals keyed world ended.1

theorem works_call {program : Prog α} {next : α → Work β} (calm : Calm jobs executionId worker known program)
    (rest : ∀ value, Kept jobs executionId worker known (next value)) :
    Kept jobs executionId worker known (Body.lift program >>= next) :=
  Kept.bind (works_lift calm) rest

end Work

section Manager

variable {jobs : Nat → Job} {executionId : String} {worker : Nat} {known : Option Look → Prop} {α : Type}
variable {renew : Work Unit}

theorem kept_renewFences (manager : ExecutionCheckoutManager) (repositoryId owner : String) :
    Kept jobs executionId worker known (renewFences manager repositoryId executionId owner) := by
  refine works_call calm_now fun renewedAt => works_call (calm_leaseFrom manager renewedAt) fun expiresAt => ?_
  refine works_locals fun locals keyed => works_reads reads_renew fun renewed here => ?_
  refine Kept.bind (works_setClaimed here) fun _ => ?_
  cases locals.cacheFence with
  | none => exact works_pure _
  | some cacheFence => exact works_lift (calm_registry rfl (fun _ => trivial) calm_doneOf)

theorem kept_heartbeat (renews : Kept jobs executionId worker known renew) (beats : Nat) :
    Kept jobs executionId worker known (heartbeat renew beats) := by
  induction beats with
  | zero => exact works_pure _
  | succ more ih =>
    refine Works.tryCatch renews fun result => ?_
    cases result with
    | ok value => exact ih
    | error error => exact works_pure _

theorem kept_beating (renews : Kept jobs executionId worker known renew) (failed : Bool) :
    Kept jobs executionId worker known (beating renew failed) := by
  cases failed with
  | true => exact works_pure _
  | false => exact works_call (calm_quiet rfl) fun more => kept_heartbeat renews more

theorem kept_leaseHeartbeat (renews : Kept jobs executionId worker known renew) {mutation : Work α}
    (mutates : Kept jobs executionId worker known mutation) :
    Kept jobs executionId worker known (leaseHeartbeat renew mutation) := by
  refine Kept.bind renews fun _ => Kept.bind (kept_beating renews false) fun before => ?_
  refine Works.tryCatch mutates fun result => Kept.bind (kept_beating renews before) fun failed => ?_
  cases result with
  | error error => exact works_fail error
  | ok value =>
    dsimp only
    split
    · exact works_fail _
    · exact works_pure value

theorem kept_tryRecordTerminal {checkout : ExecutionCheckout} {owner : String} {fence : Int}
    (keyed : checkout.executionId = executionId) (same : checkout.fenceToken = fence)
    (settles : checkout.state ≠ .provisioning) :
    Kept jobs executionId worker known (tryRecordTerminal checkout owner fence) := by
  refine Works.tryCatch (works_call calm_now fun time =>
    works_lift (calm_registry rfl (fun _ => ⟨keyed, same, settles⟩) calm_doneOf)) fun result => ?_
  cases result with
  | ok value => exact works_pure _
  | error error => cases error <;> first | exact works_pure _ | exact works_fail _

theorem kept_releaseCache (repositoryId owner : String) (cacheFence : Int) :
    Kept jobs executionId worker known (releaseCache repositoryId owner cacheFence) := by
  refine Works.tryCatch (works_lift (calm_registry rfl (fun _ => trivial) calm_doneOf)) fun result => ?_
  cases result with
  | ok value => exact works_pure _
  | error error => cases error <;> first | exact works_pure _ | exact works_fail _

end Manager

section Provision

variable {jobs : Nat → Job} {executionId : String} {worker : Nat} {renew : Work Unit}

theorem looked_of_provisions (provisions : (jobs worker).cleans = false) (look : Option Look) : Looked jobs worker look :=
  fun cleans => by
    rw [provisions] at cleans
    cases cleans

abbrev Anything : Option Look → Prop := fun _ => True

theorem kept_create (provisions : (jobs worker).cleans = false)
    (renews : Kept jobs executionId worker Anything renew) (platform : Platform) (checkout : ExecutionCheckout) :
    Kept jobs executionId worker Anything (create platform renew checkout) := by
  have looked (look : Option Look) (_ : Anything look) : Looked jobs worker look := looked_of_provisions provisions look
  have rest : Kept jobs executionId worker Anything (do
      leaseHeartbeat renew (makeParent checkout : Prog Unit)
      leaseHeartbeat renew (addWorktree checkout : Prog Unit)
      validateInitial platform checkout : Work Unit) := by
    refine Kept.bind (kept_leaseHeartbeat renews (works_lift (calm_makeParent checkout))) fun _ => ?_
    refine Kept.bind (kept_leaseHeartbeat renews (works_lift (calm_addWorktree checkout))) fun _ => ?_
    exact works_lift (calm_validateInitial (fun _ => trivial) platform checkout)
  refine works_call (calm_branchExists checkout) fun existing => ?_
  cases existing with
  | true => exact Kept.bind (kept_leaseHeartbeat renews (works_lift (calm_deleteBranch looked checkout))) fun _ => rest
  | false => exact rest

theorem kept_removePartial (provisions : (jobs worker).cleans = false)
    (renews : Kept jobs executionId worker Anything renew) (checkout : ExecutionCheckout) :
    Kept jobs executionId worker Anything (removePartial renew checkout) := by
  have looked (look : Option Look) (_ : Anything look) : Looked jobs worker look := looked_of_provisions provisions look
  refine Works.tryCatch (kept_leaseHeartbeat renews (works_lift (calm_forceRemoveWorktree looked checkout)))
    fun result => ?_
  cases result with
  | ok value => exact works_pure _
  | error error => cases error <;> exact works_fail _

theorem kept_recoverOrCreate (provisions : (jobs worker).cleans = false)
    (renews : Kept jobs executionId worker Anything renew) (platform : Platform) (checkout : ExecutionCheckout) :
    Kept jobs executionId worker Anything (recoverOrCreate platform renew checkout) := by
  refine works_call (calm_ask (.inr fun _ => trivial) fun _ _ => trivial) fun existing => ?_
  cases existing with
  | false => exact kept_create provisions renews platform checkout
  | true =>
    refine works_call (calm_validateIdentity platform checkout) fun _ => ?_
    refine works_call (calm_isInitial (fun _ => trivial) platform checkout) fun initial => ?_
    cases initial with
    | true => exact works_pure _
    | false =>
      exact Kept.bind (kept_removePartial provisions renews checkout) fun _ =>
        kept_create provisions renews platform checkout

theorem kept_sourceMutations (renews : Kept jobs executionId worker Anything renew) (mutations : List Nat) :
    Kept jobs executionId worker Anything (sourceMutations renew mutations) := by
  induction mutations with
  | nil => exact works_pure _
  | cons beats rest ih =>
    refine Kept.bind renews fun _ => Kept.bind (kept_heartbeat renews beats) fun failed => ?_
    cases failed with
    | true => exact works_fail _
    | false => exact ih

theorem kept_materialize (renews : Kept jobs executionId worker Anything renew) (request : CheckoutRequest)
    (cachePath : String) (credentials : List (String × String)) :
    Kept jobs executionId worker Anything (materialize renew request cachePath credentials) := by
  refine works_call (calm_quiet rfl) fun materialized => ?_
  refine Works.tryCatch (kept_sourceMutations renews materialized.mutations) fun result => ?_
  cases result with
  | error error => exact works_fail _
  | ok value =>
    dsimp only
    split
    · exact works_fail _
    · exact works_pure _

theorem kept_acquireCredentials (repository : RepositoryIdentity) :
    Kept jobs executionId worker Anything (acquireCredentials repository) := by
  refine works_call (calm_quiet rfl) fun acquired => Kept.bind (works_setLeased _) fun _ => ?_
  cases acquired.environment with
  | none => exact works_fail _
  | some environment => exact works_pure _

theorem kept_checkSource (request : CheckoutRequest) (cachePath : String) (revision : SourceRevision) :
    Kept jobs executionId worker Anything (Body.lift (checkSource request cachePath revision)) :=
  works_lift (Calm.bind (calm_quiet rfl) fun _ => Calm.bind (calm_check _) fun _ => calm_check _)

theorem kept_claimRepositoryCache (manager : ExecutionCheckoutManager) (request : CheckoutRequest) (owner : String) :
    Kept jobs executionId worker Anything (claimRepositoryCache manager request owner) := by
  refine works_locals fun locals keyed => works_call calm_now fun time => ?_
  refine works_call (Calm.bind calm_now fun later => calm_leaseFrom manager later) fun expiresAt => ?_
  exact works_call (calm_registry rfl (fun _ => trivial) calm_fenceOf) fun cacheFence => works_setCacheFence cacheFence

theorem kept_makeReady (renews : Kept jobs executionId worker Anything renew) (owner : String) :
    Kept jobs executionId worker Anything (makeReady renew owner) := by
  refine Kept.bind renews fun _ => works_locals fun locals keyed => ?_
  refine works_call calm_now fun updatedAt => works_call calm_now fun time => ?_
  refine works_call (calm_registry rfl (fun _ => ⟨keyed, rfl, ?_⟩) calm_doneOf) fun _ => works_pure _
  show CheckoutState.ready ≠ .provisioning
  nofun

theorem kept_provisionSteps (provisions : (jobs worker).cleans = false) (manager : ExecutionCheckoutManager)
    {request : CheckoutRequest} (mine : request.executionId = executionId) (cachePath owner : String) :
    Kept jobs executionId worker Anything (provisionSteps manager request cachePath owner) := by
  subst mine
  have renews : Kept jobs request.executionId worker Anything
      (renewFences manager request.repository.canonical request.executionId owner) := kept_renewFences manager _ owner
  refine Kept.bind (kept_claimRepositoryCache manager request owner) fun _ => ?_
  refine Kept.bind (kept_acquireCredentials request.repository) fun credentials => ?_
  refine Kept.bind (kept_materialize renews request cachePath credentials) fun revision => ?_
  refine Kept.bind (kept_checkSource request cachePath revision) fun _ => works_locals fun locals keyed => ?_
  exact Kept.bind (kept_recoverOrCreate provisions renews manager.platform locals.claimed) fun _ =>
    kept_makeReady renews owner

theorem kept_recordProvisionFailure (owner : String) (error : CheckoutError) :
    Kept jobs executionId worker Anything (recordProvisionFailure owner error) := by
  unfold recordProvisionFailure
  refine works_locals fun locals keyed => works_call calm_now fun updatedAt => ?_
  refine Kept.bind (kept_tryRecordTerminal keyed rfl ?_) fun _ => works_fail _
  show CheckoutState.failed ≠ .provisioning
  nofun

theorem kept_releaseAll (repositoryId owner : String) :
    Kept jobs executionId worker Anything (releaseAll repositoryId owner) := by
  refine Kept.bind (works_locals fun locals keyed => ?_) fun _ => works_locals fun locals keyed => ?_
  · obtain ⟨claimed, cacheFence, leased⟩ := locals
    cases cacheFence with
    | none => exact works_pure _
    | some cacheFence => exact kept_releaseCache repositoryId owner cacheFence
  · obtain ⟨claimed, cacheFence, leased⟩ := locals
    cases leased with
    | true => exact works_lift (calm_quiet rfl)
    | false => exact works_pure _

theorem kept_provisionClaimed (provisions : (jobs worker).cleans = false) (manager : ExecutionCheckoutManager)
    {request : CheckoutRequest} (mine : request.executionId = executionId) (cachePath owner : String) :
    Kept jobs executionId worker Anything (provisionClaimed manager request cachePath owner) := by
  refine Kept.finallyDo (Works.tryCatch (kept_provisionSteps provisions manager mine cachePath owner) fun result => ?_)
    (kept_releaseAll _ owner)
  cases result with
  | ok ready => exact works_pure _
  | error error => exact kept_recordProvisionFailure owner error

theorem calm_run {work : Work ExecutionCheckout} {claimed : ExecutionCheckout}
    (here : claimed.executionId = executionId) (kept : Kept jobs executionId worker Anything work) :
    Calm jobs executionId worker Anything (work.run { claimed }) :=
  Triple.bind (kept { claimed } here) (fun _ => (triple_liftExcept fun _ _ => trivial)) fun _ _ _ => trivial

theorem calm_reads {program : Prog ExecutionCheckout} {next : ExecutionCheckout → Prog ExecutionCheckout}
    (reads : Reads jobs executionId worker Anything program)
    (rest : ∀ record, record.executionId = executionId → Calm jobs executionId worker Anything (next record)) :
    Calm jobs executionId worker Anything (program >>= next) := by
  refine Triple.bind reads (fun record world ended => ?_) fun _ _ _ => trivial
  exact rest record (ended.2 record rfl) world trivial

theorem candidateFor_keyed (manager : ExecutionCheckoutManager) (request : CheckoutRequest) :
    (holding jobs executionId).Triple worker (Knows worker Anything) (candidateFor manager request)
      (returns fun candidate _ => candidate.1.executionId = request.executionId ∧ candidate.1.state = .provisioning) := by
  unfold candidateFor
  refine Triple.bind (calm_quiet rfl) (fun workspacePath => ?_) fun _ _ _ _ same => by cases same
  refine Triple.bind (calm_quiet rfl) (fun sourceCachePath => ?_) fun _ _ _ _ same => by cases same
  refine Triple.bind (calm_check _) (fun _ => ?_) fun _ _ _ _ same => by cases same
  refine Triple.bind (calm_check _) (fun _ => ?_) fun _ _ _ _ same => by cases same
  refine Triple.bind calm_now (fun time => ?_) fun _ _ _ _ same => by cases same
  refine Triple.bind (calm_quiet rfl) (fun owner => ?_) fun _ _ _ _ same => by cases same
  refine Triple.bind (calm_leaseFrom manager time) (fun leaseExpiresAt => triple_ret ?_) fun _ _ _ _ same => by cases same
  intro world _ candidate same
  cases same
  exact ⟨rfl, rfl⟩

theorem calm_provision (provisions : (jobs worker).cleans = false) (manager : ExecutionCheckoutManager)
    {request : CheckoutRequest} (mine : request.executionId = executionId) :
    Calm jobs executionId worker Anything (provision manager request) := by
  have claims : Calm jobs executionId worker Anything (claimAndProvision manager request) := by
    refine Triple.bind (candidateFor_keyed manager request) (fun asked => ?_) fun _ _ _ => trivial
    obtain ⟨candidate, time, owner⟩ := asked
    refine fun world ended => ?_
    obtain ⟨keyed, provisioning⟩ := ended _ rfl
    suffices claims : Calm jobs executionId worker Anything _ from claims world trivial
    refine calm_reads (reads_claim (fun _ => trivial) provisions (keyed.trans mine) provisioning) fun claimed here => ?_
    split
    · exact Calm.bind (calm_validateReady _ claimed) fun _ => calm_ret _
    · exact calm_run here (kept_provisionClaimed provisions manager mine _ owner)
  refine Calm.bind (calm_registry rfl (fun _ => trivial) calm_foundOf) fun existing => ?_
  cases existing.filter fun checkout => decide (checkout.state = .ready) with
  | none => exact claims
  | some checkout =>
    exact Calm.bind (calm_check _) fun _ => Calm.bind (calm_validateReady _ checkout) fun _ => calm_ret _

end Provision

section Cleanup

variable {jobs : Nat → Job} {executionId : String} {worker : Nat} {renew : Work Unit}

theorem kept_recordCleanupFailure (cleanupAttempts : Int) (owner : String) (failure : CheckoutProvisionError)
    {known : Option Look → Prop} :
    Kept jobs executionId worker known (recordCleanupFailure cleanupAttempts owner failure) := by
  refine works_locals fun locals keyed => works_call calm_now fun updatedAt => ?_
  refine Kept.bind (kept_tryRecordTerminal keyed rfl ?_) fun _ => works_pure _
  show CheckoutState.cleanupFailed ≠ .provisioning
  nofun

theorem works_learns {known : Option Look → Prop} {α β : Type} {program : Prog α} {next : α → Work β}
    {info : α → Option Look → Prop} {ends : Except CheckoutError β → Option Look → Prop}
    (learns : (holding jobs executionId).Triple worker (Knows worker known) program
      (returns fun value => Knows worker (info value)))
    (rest : ∀ value, Works jobs executionId worker (info value) (next value) ends)
    (raised : ∀ error look, ends (.error error) look) :
    Works jobs executionId worker known (Body.lift program >>= next) ends := by
  have lifted : Works jobs executionId worker known (Body.lift program) fun result look =>
      ∀ value, result = .ok value → info value look := by
    have attempted : (holding jobs executionId).Triple worker (Knows worker known)
        (Program.attempt program : Prog (Except CheckoutError α)) (returns fun result world =>
          ∀ value, result = .ok value → Knows worker (info value) world) :=
      Triple.attempt learns fun inner world ended result same => by
        cases same
        exact ended
    intro locals keyed
    refine Triple.bind attempted (fun result => triple_ret fun world ended outcome same => ?_)
      fun error world _ value same => by cases same
    cases same
    exact ⟨ended _ rfl, keyed⟩
  refine Works.bind lifted (fun value => ?_) fun error look _ => raised error look
  exact (rest value).mono (fun look ended => ended value rfl) fun _ _ ended => ended

theorem learns_exist (path : String) : (holding jobs executionId).Triple worker (Knows worker Anything)
    (Prog.ask (.exist path)) (returns fun existing => Knows worker fun look => existing = false → look = some .missing) := by
  refine triple_call (fun existing => Knows worker fun look => existing = false → look = some .missing)
    (fun _ _ knows _ => knows) (fun _ _ _ => trivial) (fun world answer after _ _ executed _ absent => ?_)
    fun existing => triple_ret fun world ended value same => ?_
  · cases executed with
    | exist => simp [absent, lastLook]
    | quiet quiet => cases quiet
  · cases same
    exact ended

theorem learns_status {manager : ExecutionCheckoutManager} (mine : (jobs worker).manager = manager) (path : String) :
    (holding jobs executionId).Triple worker (Knows worker Anything) (git path statusCommand)
      (returns fun status => Knows worker fun look => manager.platform.strip status = "" → look = some .clean) := by
  have asked : (holding jobs executionId).Triple worker (Knows worker Anything) (Prog.ask (.git path statusCommand))
      (returns fun process => Knows worker fun look =>
        ∀ stdout, process = Process.exited 0 stdout → manager.platform.strip stdout = "" → look = some .clean) := by
    refine triple_call (fun process => Knows worker fun look =>
        ∀ stdout, process = Process.exited 0 stdout → manager.platform.strip stdout = "" → look = some .clean)
      (fun _ _ knows _ => knows) (fun _ _ _ removing => by cases removing) (fun world answer after _ _ executed _ => ?_)
      fun process => triple_ret fun world ended value same => ?_
    · rintro stdout rfl clean
      cases executed with
      | git repository arguments process present only => simp [gitHappening, mine, clean, lastLook]
      | quiet quiet => cases quiet
    · cases same
      exact ended
  refine Triple.bind asked (fun process => ?_) fun _ _ _ _ same => by cases same
  cases process with
  | unavailable => exact triple_raise fun _ _ _ same => by cases same
  | exited returncode stdout =>
    dsimp only
    split
    case isTrue succeeded =>
      subst succeeded
      refine triple_ret fun world ended status same => ?_
      cases same
      exact ended _ rfl stdout rfl
    case isFalse => exact triple_raise fun _ _ _ same => by cases same

theorem works_retireWorktree {manager : ExecutionCheckoutManager} (mine : (jobs worker).manager = manager)
    (renews : ∀ known, Kept jobs executionId worker known renew) (checkout : ExecutionCheckout) :
    Works jobs executionId worker Anything (retireWorktree manager renew checkout) fun result look =>
      ∀ value, result = .ok value → Looked jobs worker look := by
  refine works_learns (learns_exist checkout.workspacePath) (fun existing => ?_) fun _ _ _ same => by cases same
  cases existing with
  | false =>
    exact (works_pure ()).mono (fun look known => known rfl) fun _ look known _ _ _ => .inr known
  | true =>
    refine Works.bind ((works_lift (calm_validateIdentity manager.platform checkout)).mono (fun _ _ => trivial)
      fun _ _ known => known) (fun _ => ?_) fun _ _ _ _ same => by cases same
    refine works_learns (learns_status mine checkout.workspacePath) (fun status => ?_) fun _ _ _ same => by cases same
    split
    · exact works_raise fun _ _ _ same => by cases same
    case isFalse clean =>
      have looked (look : Option Look) (known : manager.platform.strip status = "" → look = some .clean) :
          Looked jobs worker look := fun _ => .inl (known (not_not.mp clean))
      exact (kept_leaseHeartbeat (renews _) (works_lift (calm_removeWorktree looked checkout))).mono
        (fun _ known => known) fun _ look known _ _ => looked look known

theorem kept_retireBranch (renews : Kept jobs executionId worker (Looked jobs worker) renew)
    (checkout : ExecutionCheckout) :
    Kept jobs executionId worker (Looked jobs worker) (retireBranch renew checkout) := by
  refine works_call (calm_branchExists checkout) fun existing => ?_
  cases existing with
  | true => exact kept_leaseHeartbeat renews (works_lift (calm_deleteBranch (fun _ looked => looked) checkout))
  | false => exact works_pure _

theorem kept_cleanupSteps {manager : ExecutionCheckoutManager} (mine : (jobs worker).manager = manager)
    (checkout : ExecutionCheckout) (owner : String) :
    Kept jobs executionId worker Anything (cleanupSteps manager executionId checkout owner) := by
  have renews (known : Option Look → Prop) : Kept jobs executionId worker known
      (renewFences manager checkout.repository.canonical executionId owner) := kept_renewFences manager _ owner
  refine Works.bind (works_retireWorktree mine renews checkout) (fun _ => ?_) fun _ _ _ => trivial
  refine (show Kept jobs executionId worker (Looked jobs worker) _ from ?_).mono
    (fun look looked => looked () rfl) fun _ _ _ => trivial
  refine Kept.bind (kept_retireBranch (renews _) checkout) fun _ => Kept.bind (renews _) fun _ => ?_
  refine works_locals fun locals keyed => works_call calm_now fun updatedAt => works_call calm_now fun time => ?_
  refine works_call (calm_registry rfl (fun _ => ⟨keyed, rfl, ?_⟩) calm_doneOf) fun _ => works_pure _
  show CheckoutState.cleaned ≠ .provisioning
  decide

theorem kept_cleanupClaimed {manager : ExecutionCheckoutManager} (mine : (jobs worker).manager = manager)
    (checkout : ExecutionCheckout) (owner : String) (time leaseExpiresAt : Datetime) :
    Kept jobs executionId worker Anything (cleanupClaimed manager executionId checkout owner time leaseExpiresAt) := by
  refine works_locals fun locals keyed => Works.tryCatch (works_call (calm_registry rfl (fun _ => trivial) calm_fenceOf)
    fun cacheFence => Kept.bind (works_setCacheFence cacheFence) fun _ => works_pure _) fun result => ?_
  cases result with
  | error error =>
    cases error with
    | provision failure => exact kept_recordCleanupFailure _ owner failure
    | _ => exact works_fail _
  | ok cacheFence =>
    refine Kept.finallyDo (Works.tryCatch (kept_cleanupSteps mine checkout owner) fun result => ?_)
      (kept_releaseCache _ owner cacheFence)
    cases result with
    | ok cleaned => exact works_pure _
    | error error =>
      cases error with
      | provision failure => exact kept_recordCleanupFailure _ owner failure
      | _ => exact works_fail _

theorem calm_cleanup (cleans : (jobs worker).cleans) {manager : ExecutionCheckoutManager}
    (mine : (jobs worker).manager = manager) (terminalEvidenceDurable : Bool) :
    Calm jobs executionId worker Anything (cleanup manager executionId terminalEvidenceDurable) := by
  have begins (checkout : ExecutionCheckout) :
      Calm jobs executionId worker Anything (beginCleanup manager executionId checkout) := by
    refine Calm.bind (calm_quiet rfl) fun owner => Calm.bind calm_now fun time => ?_
    refine Calm.bind (calm_leaseFrom manager time) fun leaseExpiresAt => ?_
    exact calm_reads (reads_beginCleanup (fun _ => trivial) cleans) fun claimed here =>
      calm_run here (kept_cleanupClaimed mine checkout owner time leaseExpiresAt)
  refine Calm.bind (calm_registry rfl (fun _ => trivial) calm_foundOf) fun existing => ?_
  cases existing with
  | none => exact calm_fail _
  | some checkout =>
    refine Calm.bind (calm_check _) fun _ => ?_
    split
    · exact calm_ret _
    · exact Calm.bind (calm_check _) fun _ => begins checkout

end Cleanup

end Aep.Checkout
