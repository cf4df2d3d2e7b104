import Aep.Checkout.Calls

namespace Aep.Checkout

open Machine.Discipline

section Runs

variable {jobs : Nat → Job} {executionId : String}

theorem inv_start {registry : InMemoryCheckoutRegistry} (fresh : registry.records.get? executionId = none)
    (present : Bool) : Inv executionId (start jobs registry present).shared := by
  have free (worker : Nat) : ¬(start jobs registry present).shared.Holds executionId worker := by
    rintro ⟨record, found, -⟩
    cases fresh.symm.trans found
  exact ⟨fun record found => (by cases fresh.symm.trans found), fun _ _ granted => (by cases granted),
    fun worker _ holds => absurd holds (free worker), fun worker holds => absurd holds (free worker)⟩

theorem retains_start (registry : InMemoryCheckoutRegistry) (present : Bool) :
    Retains jobs executionId (start jobs registry present).shared :=
  ⟨fun retained => retained.elim, fun _ _ => by nofun, fun later _ _ _ split => by cases later <;> cases split⟩

theorem keeps_program (mine : ∀ worker, (jobs worker).executionId = executionId) (worker : Nat) :
    (holding jobs executionId).Keeps worker (fun _ => True) (jobs worker).program := by
  cases job : jobs worker with
  | provision manager request =>
    have provisions : (jobs worker).cleans = false := by rw [job]; rfl
    have here : (Job.provision manager request).executionId = executionId := job ▸ mine worker
    exact Triple.keeps (calm_provision provisions manager here)
  | cleanup manager cleaned terminalEvidenceDurable =>
    have cleans : (jobs worker).cleans := by rw [job]; rfl
    have here : (Job.cleanup manager cleaned terminalEvidenceDurable).executionId = executionId := job ▸ mine worker
    have managed : (jobs worker).manager = manager := by rw [job]; rfl
    cases here
    exact Triple.keeps (calm_cleanup cleans managed terminalEvidenceDurable)

/-- However the calls for an execution interleave, in a run whose steps are careful the worktree and the branch of a
    checkout that was READY are removed only by a cleanup that had found its workspace clean after the last
    modification. -/
theorem removed_only_when_clean {jobs : Nat → Job} {executionId : String}
    (mine : ∀ worker, (jobs worker).executionId = executionId) {registry : InMemoryCheckoutRegistry}
    (fresh : registry.records.get? executionId = none) (present : Bool)
    {config : Machine.Config Effects World CheckoutError ExecutionCheckout}
    (reaches : (workers jobs executionId).Reaches (Careful jobs executionId) (start jobs registry present) config) :
    RemovedClean jobs config.shared.history := by
  have holds : (holding jobs executionId).Holds (fun _ _ _ => True) (start jobs registry present) :=
    holds_of_keeps (inv_start fresh present) (keeps_program mine)
  have retains : Retains jobs executionId config.shared :=
    holds.invariant (fun _ _ _ _ _ _ => trivial) (retains_start registry present)
      (fun inv permitted careful executed retains => retains_exec inv permitted careful executed retains)
      (fun inv moved retains => retains_foreign inv moved retains) reaches
  exact retains.removed

end Runs

section Sample

def sampleStrip (text : String) : String :=
  String.ofList ((text.toList.dropWhile Char.isWhitespace).reverse.dropWhile Char.isWhitespace).reverse

def samplePlatform : Platform where
  hexdigest text :=
    if text = "github:owner/name" then "cfba4db8cb50bbc769e2172be1153a43e4350ff464e2fc95d3b5e30764f1cd83"
    else "0b1e67eb5b175973f7a0650ab3b5f747dc5c907294e2dbb2c56aed030f622ad0"
  strip := sampleStrip
  casefold text := String.ofList (text.toList.map Char.toLower)

def sampleManager : ExecutionCheckoutManager where
  platform := samplePlatform
  cacheRoot := "/caches"
  worktreeRoot := "/worktrees"
  claimTtl := 120000000
  positive := by decide

theorem sampleRepository_identified : ["github", "owner", "name"].all isIdentifier = true := by decide

def sampleRequest : CheckoutRequest where
  executionId := "execution-1"
  repository := ⟨"github", "owner", "name", sampleRepository_identified⟩
  defaultBranch := "main"
  baseRevision := "0000000000000000000000000000000000000000"
  knowledgeRevision := "0000000000000000000000000000000000000000"

/-- A provision, a cleanup after the user worked in the checkout, and a later provision. -/
def sampleJobs (worker : Nat) : Job :=
  if worker = 1 then .cleanup sampleManager "execution-1" true else .provision sampleManager sampleRequest

def sampleGit (world : World) : List String → Process
  | ["rev-parse", "--show-toplevel"] => .exited 0 "/worktrees/execution-0b1e67eb5b175973f7a0650a\n"
  | ["symbolic-ref", "--short", "HEAD"] => .exited 0 "aep/execution/0b1e67eb5b175973f7a0\n"
  | ["rev-parse", "HEAD"] => .exited 0 "0000000000000000000000000000000000000000\n"
  | "show-ref" :: _ => .exited (if .ready ∈ world.history then 0 else 1) ""
  | "status" :: _ => .exited 0 (if .modified ∈ world.history.takeWhile (fun happening => ¬Removal happening) then
      " M src/main.py\n" else "")
  | _ => .exited 0 ""

def sampleAnswer (world : World) : (effect : Effect) → effect.Answer
  | .clock => (some sampleTime : Option Datetime)
  | .uuid4 => "5f0c" ++ toString world.history.length
  | .registry _ => (.error CheckoutClaimInProgress : Reply)
  | .acquire _ => (⟨true, some []⟩ : Acquired)
  | .closeLease => ()
  | .materialize repository _ revision cachePath _ =>
    (⟨[0, 0], .ok ⟨cachePath, repository, revision⟩⟩ : Materialized)
  | .resolve path => path
  | .exist _ => world.present
  | .isDir _ => world.present
  | .makeParent _ => true
  | .git _ arguments => sampleGit world arguments
  | .heartbeats => (0 : Nat)

def sampleRespond (worker : Nat) (world : World) : (effect : Effect) → effect.Answer × World
  | .registry operation =>
    match world.registry.perform operation with
    | .ok (answer, after) => ((.ok answer : Reply),
        { world with registry := after, history := happening worker (operation, answer) ++ world.history })
    | .error error => ((.error error : Reply), world)
  | .exist _ => (world.present,
      { world with history := if world.present then world.history else .looked worker .missing :: world.history })
  | .git _ arguments => (sampleGit world arguments, {
      world with
      present := if arguments.head? = some "worktree" then arguments[1]? = some "add" else world.present
      history := gitHappening samplePlatform worker arguments (sampleGit world arguments) ++ world.history })
  | effect => (sampleAnswer world effect, world)

theorem sampleRespond_executed (worker : Nat) (world : World) (effect : Effect) :
    (workers sampleJobs "execution-1").exec worker world effect (sampleRespond worker world effect).1
      (sampleRespond worker world effect).2 := by
  have platform : (sampleJobs worker).manager.platform = samplePlatform := by
    unfold sampleJobs
    split <;> rfl
  cases effect with
  | registry operation =>
    dsimp only [sampleRespond]
    split
    · exact .returned ‹_›
    · exact .raised ‹_›
  | exist path => exact .exist path
  | git repository arguments =>
    dsimp only [sampleRespond]
    rw [← platform]
    exact .git repository arguments (sampleGit world arguments) _ fun other => if_neg other
  | _ => exact .quiet rfl _

def sampleRun (worker : Nat) (world : World) : World :=
  (Machine.advance (sampleRespond worker) 100 world (sampleJobs worker).program).1

theorem sample_reaches (condition : Machine.Condition Effects World)
    (config : Machine.Config Effects World CheckoutError ExecutionCheckout) (worker : Nat) (world : World)
    (shared : config.shared = world) (waiting : config.threads worker = (sampleJobs worker).program)
    (meets : Machine.MeetsAlong (condition worker) (sampleRespond worker) 100 world (sampleJobs worker).program) :
    ∃ next, (workers sampleJobs "execution-1").Reaches condition config next ∧
      next.shared = sampleRun worker world ∧
      ∀ other, other ≠ worker → next.threads other = config.threads other := by
  subst shared
  unfold sampleRun
  rw [← waiting] at meets ⊢
  exact ⟨_, Machine.reaches_advance (sampleRespond_executed worker) 100 config meets, rfl,
    fun other different => Function.update_of_ne different _ _⟩

def readyWorld : World := sampleRun 0 ⟨{}, false, []⟩

def modifiedWorld : World := { readyWorld with history := .modified :: readyWorld.history }

def retainedWorld : World := sampleRun 1 modifiedWorld

def lostWorld : World := sampleRun 2 retainedWorld

theorem lostWorld_history : lostWorld.history = [.ready, .looked 2 .clean,
    .removed 2 ["branch", "-D", "--", "aep/execution/0b1e67eb5b175973f7a0"],
    .removed 2 ["worktree", "remove", "--force", "--", "/worktrees/execution-0b1e67eb5b175973f7a0650a"],
    .looked 2 .dirty, .granted 2 3, .looked 1 .dirty, .granted 1 2, .modified, .ready, .looked 0 .clean,
    .looked 0 .missing, .granted 0 1] := by
  decide +kernel

theorem sampleJobs_executionId (worker : Nat) : (sampleJobs worker).executionId = "execution-1" := by
  unfold sampleJobs
  split <;> rfl

theorem lostWorld_reached : ∃ config, (workers sampleJobs "execution-1").Reaches (fun _ _ _ => True)
    (start sampleJobs {} false) config ∧ config.shared = lostWorld := by
  have always (worker : Nat) (world : World) : Machine.MeetsAlong (fun _ _ => True) (sampleRespond worker) 100 world
      (sampleJobs worker).program := Machine.meetsAlong_of_forall (fun _ _ => trivial) _ _ _ _
  obtain ⟨ready, readied, shared, kept⟩ := sample_reaches (fun _ _ _ => True) (start sampleJobs {} false) 0
    ⟨{}, false, []⟩ rfl rfl (always 0 _)
  have free : ∀ record, ready.shared.record "execution-1" = some record → record.state ≠ .provisioning := by
    have settled : (readyWorld.record "execution-1").map ExecutionCheckout.state = some .ready := by decide +kernel
    intro record found provisioning
    rw [show readyWorld = ready.shared from shared.symm, found] at settled
    rw [Option.map_some, provisioning] at settled
    cases settled
  have modified : (workers sampleJobs "execution-1").Step (fun _ _ _ => True) ready ⟨modifiedWorld, ready.threads⟩ := by
    have moved : World.Foreign "execution-1" ready.shared modifiedWorld := by
      unfold modifiedWorld
      rw [show readyWorld = ready.shared from shared.symm]
      exact .modified ready.shared.present free
    exact .foreign moved
  obtain ⟨retained, cleanup, sharedAfter, keptAfter⟩ := sample_reaches (fun _ _ _ => True)
    ⟨modifiedWorld, ready.threads⟩ 1 modifiedWorld rfl (kept 1 (by decide)) (always 1 _)
  obtain ⟨lost, provision, sharedLast, -⟩ := sample_reaches (fun _ _ _ => True) retained 2 retainedWorld sharedAfter
    ((keptAfter 2 (by decide)).trans (kept 2 (by decide))) (always 2 _)
  exact ⟨lost, (readied.tail modified).trans (cleanup.trans provision), sharedLast⟩

def cleanedWorld : World := sampleRun 1 readyWorld

theorem removed_only_when_clean_sample : ∃ config, (workers sampleJobs "execution-1").Reaches
    (Careful sampleJobs "execution-1") (start sampleJobs {} false) config ∧
      config.shared = cleanedWorld ∧ RemovedClean sampleJobs config.shared.history := by
  obtain ⟨ready, readied, shared, kept⟩ := sample_reaches (Careful sampleJobs "execution-1") (start sampleJobs {} false) 0
    ⟨{}, false, []⟩ rfl rfl (by decide +kernel)
  obtain ⟨cleaned, cleanup, sharedLast, -⟩ := sample_reaches (Careful sampleJobs "execution-1") ready 1 readyWorld shared
    (kept 1 (by decide)) (by decide +kernel)
  have reaches := readied.trans cleanup
  exact ⟨cleaned, reaches, sharedLast, removed_only_when_clean sampleJobs_executionId rfl false reaches⟩

end Sample

/-- The work that a cleanup retained is destroyed by the next provision. -/
theorem provision_destroys_work : ¬∀ (jobs : Nat → Job) (executionId : String) (registry : InMemoryCheckoutRegistry)
    (present : Bool) (config : Machine.Config Effects World CheckoutError ExecutionCheckout),
    (∀ worker, (jobs worker).executionId = executionId) → registry.records.get? executionId = none →
    (workers jobs executionId).Reaches (fun _ _ _ => True) (start jobs registry present) config →
    RemovedClean jobs config.shared.history := by
  intro claimed
  obtain ⟨config, reaches, shared⟩ := lostWorld_reached
  have removed := claimed sampleJobs "execution-1" {} false config sampleJobs_executionId rfl reaches
  rw [shared, lostWorld_history] at removed
  have byProvision := removed [.ready, .looked 2 .clean, .removed 2 ["branch", "-D", "--", "aep/execution/0b1e67eb5b175973f7a0"]]
    2 _ _ rfl (by decide)
  cases byProvision.1

end Aep.Checkout
