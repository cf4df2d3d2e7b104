import Aep.Library.Program
import Mathlib.Logic.Function.Basic
import Mathlib.Logic.Relation

/-- A state that threads share: how a call of a thread is carried out on it, in one step, and what others do. -/
structure Machine (ι : Interface) (σ : Type) where
  exec : Nat → σ → (op : ι.Call) → ι.Answer op → σ → Prop
  foreign : σ → σ → Prop

/-- A condition on the calls of a run, in the states where they are carried out. -/
abbrev Machine.Condition (ι : Interface) (σ : Type) : Type := Nat → σ → ι.Call → Prop

/-- The state that threads share, and what is left of each thread. A thread that is abandoned takes no more steps. -/
structure Machine.Config (ι : Interface) (σ ε α : Type) where
  shared : σ
  threads : Nat → Program ι ε α

namespace Machine

variable {ι : Interface} {σ ε α : Type}

/-- One step of a run: a call of a thread that meets the condition, or a step of others. -/
inductive Step (machine : Machine ι σ) (condition : Condition ι σ) : Config ι σ ε α → Config ι σ ε α → Prop where
  | call {config : Config ι σ ε α} {i : Nat} {op : ι.Call} {next : ι.Answer op → Program ι ε α} {answer : ι.Answer op}
      {after : σ} (running : config.threads i = .call op next) (meets : condition i config.shared op)
      (executed : machine.exec i config.shared op answer after) :
      Step machine condition config ⟨after, Function.update config.threads i (next answer)⟩
  | foreign {config : Config ι σ ε α} {after : σ} (moved : machine.foreign config.shared after) :
      Step machine condition config ⟨after, config.threads⟩

abbrev Reaches (machine : Machine ι σ) (condition : Condition ι σ) : Config ι σ ε α → Config ι σ ε α → Prop :=
  Relation.ReflTransGen (Step machine condition)

theorem Reaches.ended {machine : Machine ι σ} {condition : Condition ι σ} {config next : Config ι σ ε α} {i : Nat}
    {program : Program ι ε α} (reaches : Reaches machine condition config next) (there : config.threads i = program)
    (ended : ∀ op rest, program ≠ .call op rest) : next.threads i = program := by
  induction reaches with
  | refl => exact there
  | tail _ step ih =>
    cases step with
    | @call j op rest answer after running meets executed =>
      have other : i ≠ j := by
        rintro rfl
        exact ended op rest (ih.symm.trans running)
      exact (Function.update_of_ne other _ _).trans ih
    | foreign moved => exact ih

section Advance

variable {machine : Machine ι σ} {condition : Condition ι σ}

/-- The next steps of a program, each call answered by a function of the state. -/
def advance (respond : σ → (op : ι.Call) → ι.Answer op × σ) : Nat → σ → Program ι ε α → σ × Program ι ε α
  | steps + 1, s, .call op next => advance respond steps (respond s op).2 (next (respond s op).1)
  | _, s, program => (s, program)

def MeetsAlong (meets : σ → ι.Call → Prop) (respond : σ → (op : ι.Call) → ι.Answer op × σ) :
    Nat → σ → Program ι ε α → Prop
  | steps + 1, s, .call op next => meets s op ∧ MeetsAlong meets respond steps (respond s op).2 (next (respond s op).1)
  | _, _, _ => True

theorem meetsAlong_of_forall {meets : σ → ι.Call → Prop} (always : ∀ s op, meets s op)
    (respond : σ → (op : ι.Call) → ι.Answer op × σ) (steps : Nat) (s : σ) (program : Program ι ε α) :
    MeetsAlong meets respond steps s program := by
  induction steps generalizing s program with
  | zero => trivial
  | succ steps ih =>
    cases program with
    | call op next => exact ⟨always s op, ih _ _⟩
    | _ => trivial

instance decidableMeetsAlong (meets : σ → ι.Call → Prop) [∀ s op, Decidable (meets s op)]
    (respond : σ → (op : ι.Call) → ι.Answer op × σ) :
    (steps : Nat) → (s : σ) → (program : Program ι ε α) → Decidable (MeetsAlong meets respond steps s program)
  | steps + 1, s, .call op next =>
    have := decidableMeetsAlong meets respond steps (respond s op).2 (next (respond s op).1)
    inferInstanceAs (Decidable (meets s op ∧ MeetsAlong meets respond steps _ _))
  | 0, _, _ => .isTrue trivial
  | _ + 1, _, .ret _ => .isTrue trivial
  | _ + 1, _, .raise _ => .isTrue trivial
  | _ + 1, _, .cut => .isTrue trivial

theorem MeetsAlong.mono {meets weaker : σ → ι.Call → Prop} (implies : ∀ s op, meets s op → weaker s op)
    {respond : σ → (op : ι.Call) → ι.Answer op × σ} {steps : Nat} {s : σ} {program : Program ι ε α}
    (along : MeetsAlong meets respond steps s program) : MeetsAlong weaker respond steps s program := by
  induction steps generalizing s program with
  | zero => trivial
  | succ steps ih =>
    cases program with
    | call op next => exact ⟨implies _ _ along.1, ih along.2⟩
    | _ => trivial

theorem reaches_ready {i : Nat} {respond : σ → (op : ι.Call) → ι.Answer op × σ} {ready : σ → ι.Call → Prop}
    (executed : ∀ s op, ready s op → machine.exec i s op (respond s op).1 (respond s op).2) (steps : Nat)
    (config : Config ι σ ε α)
    (meets : MeetsAlong (fun s op => condition i s op ∧ ready s op) respond steps config.shared (config.threads i)) :
    Reaches machine condition config
      ⟨(advance respond steps config.shared (config.threads i)).1,
        Function.update config.threads i (advance respond steps config.shared (config.threads i)).2⟩ := by
  induction steps generalizing config with
  | zero =>
    simp only [advance, Function.update_eq_self]
    exact .refl
  | succ steps ih =>
    cases running : config.threads i with
    | call op next =>
      rw [running] at meets
      refine .head (.call running meets.1.1 (executed config.shared op meets.1.2)) ?_
      have later := ih
        ⟨(respond config.shared op).2, Function.update config.threads i (next (respond config.shared op).1)⟩
      simp only [Function.update_self, Function.update_idem] at later
      exact later meets.2
    | _ =>
      simp only [advance, ← running, Function.update_eq_self]
      exact .refl

theorem reaches_advance {i : Nat} {respond : σ → (op : ι.Call) → ι.Answer op × σ}
    (executed : ∀ s op, machine.exec i s op (respond s op).1 (respond s op).2) (steps : Nat) (config : Config ι σ ε α)
    (meets : MeetsAlong (condition i) respond steps config.shared (config.threads i)) :
    Reaches machine condition config
      ⟨(advance respond steps config.shared (config.threads i)).1,
        Function.update config.threads i (advance respond steps config.shared (config.threads i)).2⟩ :=
  reaches_ready (fun s op _ => executed s op) steps config (meets.mono fun _ _ met => ⟨met, trivial⟩)

def schedule (respond : Nat → σ → (op : ι.Call) → ι.Answer op × σ) : List (Nat × Nat) → Config ι σ ε α → Config ι σ ε α
  | [], config => config
  | (i, steps) :: turns, config =>
    let ran := advance (respond i) steps config.shared (config.threads i)
    schedule respond turns ⟨ran.1, Function.update config.threads i ran.2⟩

theorem reaches_schedule {respond : Nat → σ → (op : ι.Call) → ι.Answer op × σ}
    (executed : ∀ i s op, machine.exec i s op (respond i s op).1 (respond i s op).2) (free : ∀ i s op, condition i s op)
    (turns : List (Nat × Nat)) (config : Config ι σ ε α) :
    Reaches machine condition config (schedule respond turns config) := by
  induction turns generalizing config with
  | nil => exact .refl
  | cons turn turns ih =>
    refine Relation.ReflTransGen.trans ?_ (ih _)
    exact reaches_advance (executed turn.1) turn.2 config (meetsAlong_of_forall (free turn.1) _ _ _ _)

end Advance

/-- What each thread may call, and what it may rely on when the others take steps. -/
structure Discipline (machine : Machine ι σ) where
  invariant : σ → Prop
  permitted : Nat → σ → ι.Call → Prop
  rely : Nat → σ → σ → Prop
  rely_refl : ∀ i s, rely i s s
  rely_trans : ∀ {i s t u}, rely i s t → rely i t u → rely i s u
  invariant_exec : ∀ {i s op answer t}, invariant s → permitted i s op → machine.exec i s op answer t → invariant t
  invariant_foreign : ∀ {s t}, invariant s → machine.foreign s t → invariant t
  rely_exec : ∀ {i j s op answer t}, i ≠ j → invariant s → permitted j s op → machine.exec j s op answer t → rely i s t
  rely_foreign : ∀ {i s t}, invariant s → machine.foreign s t → rely i s t

namespace Discipline

variable {machine : Machine ι σ} (discipline : Discipline machine)

/-- A thread's calls must be permitted wherever the others may have led, and it goes on from there. -/
def rules (i : Nat) : Program.Rules ι σ where
  may s op := ∀ t, discipline.rely i s t → discipline.invariant t → discipline.permitted i t op
  next s op answer u := ∃ t, discipline.rely i s t ∧ discipline.invariant t ∧ discipline.permitted i t op ∧
    machine.exec i t op answer u

def Stable (i : Nat) (post : σ → Except ε α → Prop) : Prop :=
  ∀ s t result, post s result → discipline.rely i s t → post t result

variable {discipline}

theorem sat_rely {i : Nat} {post : σ → Except ε α → Prop} (stable : discipline.Stable i post) {program : Program ι ε α}
    {s t : σ} (sat : program.Sat (discipline.rules i) post s) (rely : discipline.rely i s t) :
    program.Sat (discipline.rules i) post t := by
  cases program with
  | ret value => exact stable _ _ _ sat rely
  | raise error => exact stable _ _ _ sat rely
  | call op next =>
    refine ⟨fun u later holds => sat.1 u (discipline.rely_trans rely later) holds, ?_⟩
    rintro answer after ⟨u, later, holds, permitted, executed⟩
    exact sat.2 answer after ⟨u, discipline.rely_trans rely later, holds, permitted, executed⟩
  | cut => trivial

variable (discipline) in
def Holds (post : Nat → σ → Except ε α → Prop) (config : Config ι σ ε α) : Prop :=
  discipline.invariant config.shared ∧ ∀ i, (config.threads i).Sat (discipline.rules i) (post i) config.shared

variable {condition : Condition ι σ} {post : Nat → σ → Except ε α → Prop} {config next : Config ι σ ε α}

theorem Holds.permitted {i : Nat} {op : ι.Call} {rest : ι.Answer op → Program ι ε α}
    (holds : discipline.Holds post config) (running : config.threads i = .call op rest) :
    discipline.permitted i config.shared op := by
  have sat := holds.2 i
  rw [running] at sat
  exact sat.1 config.shared (discipline.rely_refl i _) holds.1

theorem Holds.step (stable : ∀ i, discipline.Stable i (post i)) (holds : discipline.Holds post config)
    (step : Step machine condition config next) : discipline.Holds post next := by
  cases step with
  | @call i op rest answer after running meets executed =>
    have permitted := holds.permitted running
    refine ⟨discipline.invariant_exec holds.1 permitted executed, fun j => ?_⟩
    by_cases same : j = i
    · subst same
      have sat := holds.2 j
      rw [running] at sat
      simp only [Function.update_self]
      exact sat.2 answer after ⟨_, discipline.rely_refl j _, holds.1, permitted, executed⟩
    · simp only [Function.update_of_ne same]
      exact sat_rely (stable j) (holds.2 j) (discipline.rely_exec same holds.1 permitted executed)
  | foreign moved =>
    exact ⟨discipline.invariant_foreign holds.1 moved,
      fun j => sat_rely (stable j) (holds.2 j) (discipline.rely_foreign holds.1 moved)⟩

theorem Holds.reaches (stable : ∀ i, discipline.Stable i (post i)) (holds : discipline.Holds post config)
    (reaches : machine.Reaches condition config next) : discipline.Holds post next := by
  induction reaches with
  | refl => exact holds
  | tail _ step ih => exact ih.step stable step

theorem Holds.invariant (stable : ∀ i, discipline.Stable i (post i)) (holds : discipline.Holds post config)
    {property : σ → Prop} (initially : property config.shared)
    (calls : ∀ {i s op answer t}, discipline.invariant s → discipline.permitted i s op → condition i s op →
      machine.exec i s op answer t → property s → property t)
    (others : ∀ {s t}, discipline.invariant s → machine.foreign s t → property s → property t)
    (reaches : machine.Reaches condition config next) : property next.shared := by
  induction reaches with
  | refl => exact initially
  | tail before step ih =>
    have reached := holds.reaches stable before
    cases step with
    | call running meets executed => exact calls reached.1 (reached.permitted running) meets executed ih
    | foreign moved => exact others reached.1 moved ih

section Triples

variable (discipline) in
/-- From a state of the precondition on the thread keeps to the discipline, and ends in the postcondition. -/
def Triple (i : Nat) (pre : σ → Prop) (program : Program ι ε α) (post : Except ε α → σ → Prop) : Prop :=
  ∀ s, pre s → program.Sat (discipline.rules i) (fun t result => post result t) s

variable (discipline) in
structure Persistent (i : Nat) (fact : σ → Prop) : Prop where
  rely : ∀ {s t}, fact s → discipline.rely i s t → fact t
  exec : ∀ {s op answer t}, discipline.invariant s → discipline.permitted i s op → machine.exec i s op answer t →
    fact s → fact t

def returns (info : α → σ → Prop) (result : Except ε α) (s : σ) : Prop := ∀ value, result = .ok value → info value s

variable (discipline) in
def Keeps (i : Nat) (fact : σ → Prop) (program : Program ι ε α) : Prop :=
  discipline.Triple i fact program fun _ _ => True

variable {β ε' : Type} {i : Nat} {pre pre' fact : σ → Prop} {program : Program ι ε α} {post post' : Except ε α → σ → Prop}

theorem triple_call {op : ι.Call} {next : ι.Answer op → Program ι ε α} (mid : ι.Answer op → σ → Prop)
    (stable : ∀ s t, pre s → discipline.rely i s t → pre t)
    (permitted : ∀ t, discipline.invariant t → pre t → discipline.permitted i t op)
    (effect : ∀ t answer u, discipline.invariant t → pre t → machine.exec i t op answer u → discipline.invariant u →
      mid answer u)
    (rest : ∀ answer, discipline.Triple i (mid answer) (next answer) post) :
    discipline.Triple i pre (.call op next) post := by
  intro s holds
  refine ⟨fun t relied invariant => permitted t invariant (stable s t holds relied), ?_⟩
  rintro answer u ⟨t, relied, invariant, allowed, executed⟩
  exact rest answer u (effect t answer u invariant (stable s t holds relied) executed
    (discipline.invariant_exec invariant allowed executed))

theorem triple_ret {value : α} (ends : ∀ s, pre s → post (.ok value) s) :
    discipline.Triple i pre (.ret value) post := ends

theorem triple_raise {error : ε} (ends : ∀ s, pre s → post (.error error) s) :
    discipline.Triple i pre (.raise error) post := ends

theorem triple_cut : discipline.Triple i pre .cut post := fun _ _ => trivial

theorem triple_liftExcept {result : Except ε α} (ends : ∀ s, pre s → post result s) :
    discipline.Triple i pre (.liftExcept result) post := fun s holds => Program.sat_liftExcept.mpr (ends s holds)

theorem Triple.mono (triple : discipline.Triple i pre program post) (stronger : ∀ s, pre' s → pre s)
    (weaker : ∀ result s, post result s → post' result s) : discipline.Triple i pre' program post' :=
  fun s holds => (triple s (stronger s holds)).mono fun t result => weaker result t

theorem Triple.weaken (triple : discipline.Triple i pre program post) (stronger : ∀ s, pre' s → pre s) :
    discipline.Triple i pre' program post :=
  triple.mono stronger fun _ _ ended => ended

theorem triple_fails {error : ε} {info : α → σ → Prop} : discipline.Triple i pre (.raise error) (returns info) :=
  triple_raise fun _ _ _ same => by cases same

theorem triple_gives {value : α} {info : α → σ → Prop} (ends : ∀ s, pre s → info value s) :
    discipline.Triple i pre (.ret value : Program ι ε α) (returns info) := by
  intro s holds other same
  cases same
  exact ends s holds

theorem Triple.bind {next : α → Program ι ε β} {mid : Except ε α → σ → Prop} {post : Except ε β → σ → Prop}
    (first : discipline.Triple i pre program mid)
    (rest : ∀ value, discipline.Triple i (mid (.ok value)) (next value) post)
    (raised : ∀ error s, mid (.error error) s → post (.error error) s) :
    discipline.Triple i pre (program >>= next) post := by
  intro s holds
  refine Program.sat_bind.mpr ((first s holds).mono fun t result ended => ?_)
  cases result with
  | ok value => exact rest value t ended
  | error error => exact raised error t ended

theorem triple_lift_bind {result : Except ε α} {next : α → Program ι ε β} {post : Except ε β → σ → Prop}
    (raised : ∀ error, result = .error error → ∀ s, pre s → post (.error error) s)
    (rest : ∀ value, result = .ok value → discipline.Triple i pre (next value) post) :
    discipline.Triple i pre (Program.liftExcept result >>= next) post := by
  cases computed : result with
  | error error => exact raised error computed
  | ok value => exact rest value computed

theorem Triple.attempt (triple : discipline.Triple i pre program post) {final : Except ε' (Except ε α) → σ → Prop}
    (ends : ∀ result s, post result s → final (.ok result) s) :
    discipline.Triple i pre (Program.attempt program) final :=
  fun s holds => Program.sat_attempt.mpr ((triple s holds).mono fun t result ended => ends result t ended)

theorem Triple.bind_attempt {next : Except ε α → Program ι ε' β} {final : Except ε' β → σ → Prop}
    (triple : discipline.Triple i pre program post) (rest : ∀ result, discipline.Triple i (post result) (next result) final) :
    discipline.Triple i pre (Program.attempt program >>= next) final := by
  intro s holds
  refine Program.sat_bind.mpr (Program.sat_attempt.mpr ((triple s holds).mono fun t result ended => ?_))
  exact rest result t ended

theorem Triple.frame (persistent : discipline.Persistent i fact) (triple : discipline.Triple i pre program post) :
    discipline.Triple i (fun s => fact s ∧ pre s) program fun result s => fact s ∧ post result s := by
  rintro s ⟨known, holds⟩
  have sat := triple s holds
  clear holds triple
  induction program generalizing s with
  | ret value => exact ⟨known, sat⟩
  | raise error => exact ⟨known, sat⟩
  | call op next ih =>
    refine ⟨sat.1, fun answer u reached => ih answer u ?_ (sat.2 answer u reached)⟩
    obtain ⟨t, relied, invariant, allowed, executed⟩ := reached
    exact persistent.exec invariant allowed executed (persistent.rely known relied)
  | cut => trivial

theorem Keeps.frame (persistent : discipline.Persistent i fact) (keeps : discipline.Keeps i fact program) :
    discipline.Triple i fact program fun _ => fact := by
  refine (Triple.frame persistent keeps).mono (fun s known => ⟨known, known⟩) fun _ _ ended => ended.1

theorem Keeps.mono (keeps : discipline.Keeps i pre program) (stronger : ∀ s, pre' s → pre s) :
    discipline.Keeps i pre' program :=
  Triple.mono keeps stronger fun _ _ _ => trivial

theorem triple_only {kind : ι.Call → Prop} (stable : ∀ s t, fact s → discipline.rely i s t → fact t)
    (permitted : ∀ s op, kind op → discipline.invariant s → discipline.permitted i s op)
    (kept : ∀ s op answer t, kind op → discipline.invariant s → machine.exec i s op answer t → fact s → fact t) (only : program.Only kind) :
    discipline.Triple i fact program fun _ => fact := by
  induction program with
  | ret value => exact triple_ret fun _ known => known
  | raise error => exact triple_raise fun _ known => known
  | call op next ih =>
    exact triple_call (fun _ => fact) stable (fun s invariant _ => permitted s op only.1 invariant)
      (fun s answer t invariant known executed _ => kept s op answer t only.1 invariant executed known)
      fun answer => ih answer (only.2 answer)
  | cut => exact triple_cut

theorem Triple.keeps (triple : discipline.Triple i pre program post) : discipline.Keeps i pre program :=
  triple.mono (fun _ holds => holds) fun _ _ _ => trivial

theorem Keeps.bind {next : α → Program ι ε β} (persistent : discipline.Persistent i fact)
    (first : discipline.Keeps i fact program) (rest : ∀ value, discipline.Keeps i fact (next value)) :
    discipline.Keeps i fact (program >>= next) :=
  Triple.bind (first.frame persistent) rest fun _ _ _ => trivial

theorem Triple.bind_keeps {next : α → Program ι ε β} {info : α → σ → Prop} (persistent : discipline.Persistent i fact)
    (first : discipline.Triple i fact program (returns info))
    (rest : ∀ value, discipline.Keeps i (fun s => fact s ∧ info value s) (next value)) :
    discipline.Keeps i fact (program >>= next) := by
  refine Triple.bind (((Triple.frame persistent first)).mono (fun s known => ⟨known, known⟩) fun _ _ ended => ended)
    (fun value => (rest value).mono fun s known => ⟨known.1, known.2 value rfl⟩) fun _ _ _ => trivial

theorem Triple.bind_returns {next : α → Program ι ε β} {info : α → σ → Prop} {later : β → σ → Prop}
    (persistent : discipline.Persistent i fact) (first : discipline.Triple i fact program (returns info))
    (rest : ∀ value, discipline.Triple i (fun s => fact s ∧ info value s) (next value) (returns later)) :
    discipline.Triple i fact (program >>= next) (returns later) := by
  refine Triple.bind ((Triple.frame persistent first).mono (fun s known => ⟨known, known⟩) fun _ _ ended => ended)
    (fun value => (rest value).mono (fun s known => ⟨known.1, known.2 value rfl⟩) fun _ _ ended => ended) ?_
  intro error s known value same
  cases same

theorem Triple.bind_kept {next : α → Program ι ε β} {later : β → σ → Prop} (persistent : discipline.Persistent i fact)
    (first : discipline.Keeps i fact program) (rest : ∀ value, discipline.Triple i fact (next value) (returns later)) :
    discipline.Triple i fact (program >>= next) (returns later) := by
  refine Triple.bind (first.frame persistent) rest ?_
  intro error s known value same
  cases same

theorem Keeps.attempt (keeps : discipline.Keeps i pre program) :
    discipline.Keeps i pre (Program.attempt program : Program ι ε' (Except ε α)) :=
  Triple.attempt keeps fun _ _ _ => trivial

theorem keeps_ret {value : α} : discipline.Keeps i pre (.ret value : Program ι ε α) := fun _ _ => trivial

theorem keeps_raise {error : ε} : discipline.Keeps i pre (.raise error : Program ι ε α) := fun _ _ => trivial

theorem keeps_liftExcept {result : Except ε α} : discipline.Keeps i pre (.liftExcept result) :=
  triple_liftExcept fun _ _ => trivial

theorem Persistent.and {other : σ → Prop} (first : discipline.Persistent i fact)
    (second : discipline.Persistent i other) : discipline.Persistent i fun s => fact s ∧ other s :=
  ⟨fun known relied => ⟨first.rely known.1 relied, second.rely known.2 relied⟩,
    fun invariant allowed executed known =>
      ⟨first.exec invariant allowed executed known.1, second.exec invariant allowed executed known.2⟩⟩

theorem persistent_const (known : Prop) : discipline.Persistent i fun _ => known :=
  ⟨fun holds _ => holds, fun _ _ _ holds => holds⟩

theorem holds_of_keeps {start : Config ι σ ε α} (invariant : discipline.invariant start.shared)
    (keeps : ∀ i, discipline.Keeps i (fun _ => True) (start.threads i)) :
    discipline.Holds (fun _ _ _ => True) start :=
  ⟨invariant, fun i => keeps i start.shared trivial⟩

end Triples

end Discipline

end Machine

namespace Program

variable {ι : Interface} {ε ε' α β : Type}

def Uncut : Program ι ε α → Prop
  | .call _ next => ∀ answer, Uncut (next answer)
  | .cut => False
  | _ => True

theorem uncut_bind {first : Program ι ε α} {next : α → Program ι ε β} (uncut : first.Uncut)
    (rest : ∀ value, (next value).Uncut) : (first >>= next).Uncut := by
  change (bind first next).Uncut
  induction first with
  | ret value => exact rest value
  | raise error => trivial
  | call op next ih => exact fun answer => ih answer (uncut answer)
  | cut => exact uncut.elim

theorem uncut_attempt {program : Program ι ε α} (uncut : program.Uncut) :
    (attempt program : Program ι ε' (Except ε α)).Uncut := by
  induction program with
  | call op next ih => exact fun answer => ih answer (uncut answer)
  | cut => exact uncut.elim
  | _ => trivial

theorem uncut_liftExcept (result : Except ε α) : (liftExcept result : Program ι ε α).Uncut := by
  cases result <;> trivial

end Program

namespace Machine

variable {ι : Interface} {σ ε α : Type} {machine : Machine ι σ} {condition : Condition ι σ}

theorem Reaches.uncut {config next : Config ι σ ε α} (reaches : Reaches machine condition config next)
    (uncut : ∀ i, (config.threads i).Uncut) : ∀ i, (next.threads i).Uncut := by
  induction reaches with
  | refl => exact uncut
  | tail _ step ih =>
    cases step with
    | @call i op rest answer after running meets executed =>
      intro j
      by_cases same : j = i
      · subst same
        have whole := ih j
        rw [running] at whole
        simp only [Function.update_self]
        exact whole answer
      · simp only [Function.update_of_ne same]
        exact ih j
    | foreign moved => exact ih

end Machine
