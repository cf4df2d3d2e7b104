import Aep.Checkout.Fencing
import Aep.Checkout.Manager
import Aep.Library.RelyGuarantee

namespace Aep.Checkout

/-- A call of a worker. -/
inductive Job where
  | provision (manager : ExecutionCheckoutManager) (request : CheckoutRequest)
  | cleanup (manager : ExecutionCheckoutManager) (executionId : String) (terminalEvidenceDurable : Bool)

namespace Job

def program : Job → Prog ExecutionCheckout
  | provision manager request => Checkout.provision manager request
  | cleanup manager executionId terminalEvidenceDurable =>
    Checkout.cleanup manager executionId terminalEvidenceDurable

def executionId : Job → String
  | provision _ request => request.executionId
  | cleanup _ executionId _ => executionId

def manager : Job → ExecutionCheckoutManager
  | provision manager _ => manager
  | cleanup manager _ _ => manager

def cleans : Job → Bool
  | provision .. => false
  | cleanup .. => true

end Job

/-- What a worker saw when it looked at the workspace. -/
inductive Look where
  | clean
  | dirty
  | missing
  deriving DecidableEq

/-- What happens to a checkout and its workspace. A history has the latest first. -/
inductive Happening where
  | granted (worker : Nat) (fence : Int)
  | ready
  | cleaned
  | modified
  | looked (worker : Nat) (look : Look)
  /-- A worker had git remove the worktree or delete the branch. -/
  | removed (worker : Nat) (arguments : List String)
  deriving DecidableEq

/-- The registry, whether the workspace of the checkout exists, and what happened to it. -/
structure World where
  registry : InMemoryCheckoutRegistry
  present : Bool
  history : List Happening

def happening (worker : Nat) (call : Call) : List Happening :=
  match granted call with
  | some record => [.granted worker record.fenceToken]
  | none =>
    match call with
    | (.update checkout _ _ _, _) =>
      match checkout.state with
      | .ready => [.ready]
      | .cleaned => [.cleaned]
      | _ => []
    | _ => []

def removes : List String → Bool
  | "worktree" :: "remove" :: _ => true
  | "branch" :: "-D" :: _ => true
  | _ => false

def gitHappening (platform : Platform) (worker : Nat) (arguments : List String) (process : Process) :
    List Happening :=
  if arguments = statusCommand then
    match process with
    | .exited 0 stdout => [.looked worker (if platform.strip stdout = "" then .clean else .dirty)]
    | _ => []
  else if removes arguments then [.removed worker arguments]
  else []

def Effect.quiet : Effect → Bool
  | .registry _ | .exist _ | .git .. => false
  | _ => true

section Machine

variable (jobs : Nat → Job) (executionId : String)

/-- How an effect of a worker is carried out. Git and the other boundaries may answer anything. -/
inductive World.Exec (worker : Nat) (world : World) : (effect : Effect) → effect.Answer → World → Prop where
  | returned {operation : Operation} {answer : Answer} {after : InMemoryCheckoutRegistry}
      (performed : world.registry.perform operation = .ok (answer, after)) :
      Exec worker world (.registry operation) (.ok answer : Reply)
        { world with registry := after, history := happening worker (operation, answer) ++ world.history }
  | raised {operation : Operation} {error : CheckoutError} (performed : world.registry.perform operation = .error error) :
      Exec worker world (.registry operation) (.error error : Reply) world
  | exist (path : String) :
      Exec worker world (.exist path) world.present
        { world with history := if world.present then world.history else .looked worker .missing :: world.history }
  | git (repository : String) (arguments : List String) (process : Process) (present : Bool)
      (only : arguments.head? ≠ some "worktree" → present = world.present) :
      Exec worker world (.git repository arguments) process {
        world with
        present
        history := gitHappening (jobs worker).manager.platform worker arguments process ++ world.history }
  | quiet {effect : Effect} (quiet : effect.quiet) (answer : effect.Answer) : Exec worker world effect answer world

def World.record (world : World) : Option ExecutionCheckout := world.registry.records.get? executionId

/-- What others do: the user modifies the workspace while no worker has it, the registry serves other executions, and
    a heartbeat thread that outlived its mutation renews the claim once more. -/
inductive World.Foreign (world : World) : World → Prop where
  | modified (present : Bool) (free : ∀ record, world.record executionId = some record → record.state ≠ .provisioning) :
      Foreign world { world with present, history := .modified :: world.history }
  | elsewhere (registry : InMemoryCheckoutRegistry)
      (same : registry.records.get? executionId = world.registry.records.get? executionId) :
      Foreign world { world with registry }
  | renewed {ownerToken : String} {fenceToken : Int} {now leaseExpiresAt : Datetime} {answer : Answer}
      {registry : InMemoryCheckoutRegistry}
      (renewed : world.registry.renew executionId ownerToken fenceToken now leaseExpiresAt = .ok (answer, registry)) :
      Foreign world { world with registry }

def workers : Machine Effects World where
  exec := World.Exec jobs
  foreign := World.Foreign executionId

/-- All calls before their first step, on a registry without a record of the execution. -/
def start (registry : InMemoryCheckoutRegistry) (present : Bool) : Machine.Config Effects World CheckoutError
    ExecutionCheckout where
  shared := { registry, present, history := [] }
  threads worker := (jobs worker).program

def Retained : List Happening → Prop
  | [] => False
  | .ready :: _ => True
  | .cleaned :: _ => False
  | _ :: earlier => Retained earlier

/-- What the worker last saw was a clean workspace, and that was after the last modification. -/
def FoundClean (worker : Nat) : List Happening → Prop
  | [] => False
  | .looked other look :: earlier => if other = worker then look = .clean else FoundClean worker earlier
  | .modified :: _ => False
  | _ :: earlier => FoundClean worker earlier

/-- Each removal while the checkout was retained was by a cleanup that had found the workspace clean. -/
def RemovedClean (history : List Happening) : Prop :=
  ∀ later worker arguments earlier, history = later ++ .removed worker arguments :: earlier → Retained earlier →
    (jobs worker).cleans ∧ FoundClean worker earlier

def fenceOf (worker : Nat) : List Happening → Option Int
  | [] => none
  | .granted other fence :: earlier => if other = worker then some fence else fenceOf worker earlier
  | _ :: earlier => fenceOf worker earlier

/-- The record is still provisioned under the fence that the worker was granted. -/
def World.Holds (world : World) (worker : Nat) : Prop :=
  ∃ record, world.record executionId = some record ∧ record.state = .provisioning ∧
    fenceOf worker world.history = some record.fenceToken

def isGranted : Except CheckoutError (ExecutionCheckout ⊕ ExecutionCheckout) → Bool
  | .ok (.inr _) => true
  | _ => false

/-- No claim is granted over a retained checkout, no worker whose claim was taken over removes anything of it, and
    every cleanup finds the workspace present. -/
def Careful : Machine.Condition Effects World
  | _, world, .registry (.claim candidate now) =>
    Retained world.history → isGranted (claimOver (world.record executionId) candidate now) = false
  | worker, world, .exist _ => (jobs worker).cleans → world.present
  | worker, world, .git _ arguments => removes arguments → Retained world.history → world.Holds executionId worker
  | _, _, _ => True

instance decidableRetained : (history : List Happening) → Decidable (Retained history)
  | [] => .isFalse id
  | .ready :: _ => .isTrue trivial
  | .cleaned :: _ => .isFalse id
  | .granted _ _ :: earlier => decidableRetained earlier
  | .modified :: earlier => decidableRetained earlier
  | .looked _ _ :: earlier => decidableRetained earlier
  | .removed _ _ :: earlier => decidableRetained earlier

instance (world : World) (worker : Nat) : Decidable (world.Holds executionId worker) :=
  decidable_of_iff ((world.record executionId).any fun record =>
    record.state = .provisioning ∧ fenceOf worker world.history = some record.fenceToken) (by
      simp [World.Holds, Option.any_eq_true])

instance (worker : Nat) (world : World) (effect : Effect) : Decidable (Careful jobs executionId worker world effect) := by
  unfold Careful
  split <;> infer_instance

end Machine

end Aep.Checkout
