

/-- The calls that a program makes on its environment, and their answers. -/
structure Interface where
  Call : Type
  Answer : Call → Type

/-- A program that calls on its environment. A cut ends a run that is followed no further. -/
inductive Program (ι : Interface) (ε α : Type) where
  | ret (value : α)
  | raise (error : ε)
  | call (op : ι.Call) (next : ι.Answer op → Program ι ε α)
  | cut

structure Interface.Event (ι : Interface) where
  op : ι.Call
  answer : ι.Answer op

namespace Program

variable {ι : Interface} {ε ε' α β σ : Type}

def bind : Program ι ε α → (α → Program ι ε β) → Program ι ε β
  | .ret value, next => next value
  | .raise error, _ => .raise error
  | .call op rest, next => .call op fun answer => (rest answer).bind next
  | .cut, _ => .cut

instance : Monad (Program ι ε) where
  pure := .ret
  bind := bind

def perform (op : ι.Call) : Program ι ε (ι.Answer op) := .call op .ret

def attempt : Program ι ε α → Program ι ε' (Except ε α)
  | .ret value => .ret (.ok value)
  | .raise error => .ret (.error error)
  | .call op rest => .call op fun answer => (rest answer).attempt
  | .cut => .cut

def liftExcept : Except ε α → Program ι ε α
  | .ok value => .ret value
  | .error error => .raise error

def value? : Program ι ε α → Option α
  | .ret value => some value
  | _ => none

theorem eq_ret_of_value? {program : Program ι ε α} {value : α} (found : program.value? = some value) :
    program = .ret value := by
  cases program <;> cases found
  rfl

def error? : Program ι ε α → Option ε
  | .raise error => some error
  | _ => none

theorem eq_raise_of_error? {program : Program ι ε α} {error : ε} (found : program.error? = some error) :
    program = .raise error := by
  cases program <;> cases found
  rfl

/-- Answered in this order, the calls of the first program lead to the second. -/
inductive Leads : Program ι ε α → List ι.Event → Program ι ε α → Prop where
  | refl (program : Program ι ε α) : Leads program [] program
  | call {op : ι.Call} {next : ι.Answer op → Program ι ε α} {answer : ι.Answer op} {events : List ι.Event}
      {program : Program ι ε α} (rest : Leads (next answer) events program) :
      Leads (.call op next) (⟨op, answer⟩ :: events) program

def Finishes (program : Program ι ε α) (events : List ι.Event) (result : Except ε α) : Prop :=
  Leads program events (liftExcept result)

theorem Leads.bind {first rest : Program ι ε α} {events : List ι.Event} (leads : Leads first events rest)
    (next : α → Program ι ε β) : Leads (first >>= next) events (rest >>= next) := by
  induction leads with
  | refl program => exact .refl _
  | call _ ih => exact .call ih

theorem Leads.trans {first middle last : Program ι ε α} {events later : List ι.Event} (leads : Leads first events middle)
    (rest : Leads middle later last) : Leads first (events ++ later) last := by
  induction leads with
  | refl program => exact rest
  | call _ ih => exact .call (ih rest)

theorem Finishes.bind {first : Program ι ε α} {events later : List ι.Event} {value : α} {next : α → Program ι ε β}
    {result : Except ε β} (finishes : Finishes first events (.ok value)) (rest : Finishes (next value) later result) :
    Finishes (first >>= next) (events ++ later) result :=
  (Leads.bind finishes next).trans rest

theorem Finishes.bind_error {first : Program ι ε α} {events : List ι.Event} {error : ε} (next : α → Program ι ε β)
    (finishes : Finishes first events (.error error)) : Finishes (first >>= next) events (.error error) :=
  Leads.bind finishes next

theorem finishes_ret {value : α} {events : List ι.Event} {result : Except ε α}
    (finishes : Finishes (.ret value) events result) : events = [] ∧ result = .ok value := by
  cases result with
  | ok other =>
    cases finishes
    exact ⟨rfl, rfl⟩
  | error error => cases finishes

theorem finishes_raise {error : ε} {events : List ι.Event} {result : Except ε α}
    (finishes : Finishes (.raise error) events result) : events = [] ∧ result = .error error := by
  cases result with
  | ok value => cases finishes
  | error other =>
    cases finishes
    exact ⟨rfl, rfl⟩

theorem finishes_call {op : ι.Call} {next : ι.Answer op → Program ι ε α} {events : List ι.Event} {result : Except ε α}
    (finishes : Finishes (.call op next) events result) :
    ∃ answer rest, events = ⟨op, answer⟩ :: rest ∧ Finishes (next answer) rest result := by
  unfold Finishes at finishes
  cases ended : (liftExcept result : Program ι ε α) with
  | ret value =>
    rw [ended] at finishes
    cases finishes with
    | call rest => exact ⟨_, _, rfl, by rwa [Finishes, ended]⟩
  | raise error =>
    rw [ended] at finishes
    cases finishes with
    | call rest => exact ⟨_, _, rfl, by rwa [Finishes, ended]⟩
  | call op next => cases result <;> cases ended
  | cut => cases result <;> cases ended

theorem Finishes.of_bind {first : Program ι ε α} {next : α → Program ι ε β} {events : List ι.Event}
    {result : Except ε β} (finishes : Finishes (first >>= next) events result) :
    (∃ value before after, events = before ++ after ∧ Finishes first before (.ok value) ∧
        Finishes (next value) after result) ∨
      ∃ error, result = .error error ∧ Finishes first events (.error error) := by
  induction first generalizing events with
  | ret value => exact .inl ⟨value, [], events, rfl, .refl _, finishes⟩
  | raise error =>
    obtain ⟨rfl, rfl⟩ := finishes_raise finishes
    exact .inr ⟨error, rfl, .refl _⟩
  | call op rest ih =>
    obtain ⟨answer, later, rfl, ran⟩ := finishes_call finishes
    rcases ih answer ran with ⟨value, before, after, rfl, firstRan, nextRan⟩ | ⟨error, rfl, firstRan⟩
    · exact .inl ⟨value, ⟨op, answer⟩ :: before, after, rfl, .call firstRan, nextRan⟩
    · exact .inr ⟨error, rfl, .call firstRan⟩
  | cut => cases result <;> cases finishes

def follow (answer : ∀ op, ι.Answer op) : Program ι ε α → List ι.Event × Option (Except ε α)
  | .ret value => ([], some (.ok value))
  | .raise error => ([], some (.error error))
  | .call op next =>
    let (events, result) := (next (answer op)).follow answer
    (⟨op, answer op⟩ :: events, result)
  | .cut => ([], none)

theorem leads_follow (answer : ∀ op, ι.Answer op) (program : Program ι ε α) :
    ∃ rest, Leads program (program.follow answer).1 rest := by
  induction program with
  | ret value => exact ⟨_, .refl _⟩
  | raise error => exact ⟨_, .refl _⟩
  | call op next ih =>
    obtain ⟨rest, leads⟩ := ih (answer op)
    exact ⟨rest, .call leads⟩
  | cut => exact ⟨_, .refl _⟩

theorem finishes_follow {answer : ∀ op, ι.Answer op} {program : Program ι ε α} {result : Except ε α}
    (found : (program.follow answer).2 = some result) : Finishes program (program.follow answer).1 result := by
  induction program with
  | ret value =>
    cases found
    exact .refl _
  | raise error =>
    cases found
    exact .refl _
  | call op next ih => exact .call (ih (answer op) found)
  | cut => cases found

def play (respond : σ → (op : ι.Call) → ι.Answer op × σ) : Program ι ε α → σ → List ι.Event × Option (Except ε α) × σ
  | .ret value, state => ([], some (.ok value), state)
  | .raise error, state => ([], some (.error error), state)
  | .call op next, state =>
    let answered := respond state op
    let rest := (next answered.1).play respond answered.2
    (⟨op, answered.1⟩ :: rest.1, rest.2)
  | .cut, state => ([], none, state)

theorem finishes_play {respond : σ → (op : ι.Call) → ι.Answer op × σ} {program : Program ι ε α} {state : σ}
    {result : Except ε α} (found : (program.play respond state).2.1 = some result) :
    Finishes program (program.play respond state).1 result := by
  induction program generalizing state with
  | ret value =>
    cases found
    exact .refl _
  | raise error =>
    cases found
    exact .refl _
  | call op next ih => exact .call (ih _ found)
  | cut => cases found

section Only

variable {kind : ι.Call → Prop}

def Only (kind : ι.Call → Prop) : Program ι ε α → Prop
  | .call op next => kind op ∧ ∀ answer, Only kind (next answer)
  | _ => True

theorem only_bind {first : Program ι ε α} {next : α → Program ι ε β} (only : first.Only kind)
    (rest : ∀ value, (next value).Only kind) : (first >>= next).Only kind := by
  change (bind first next).Only kind
  induction first with
  | ret value => exact rest value
  | raise error => trivial
  | call op next ih => exact ⟨only.1, fun answer => ih answer (only.2 answer)⟩
  | cut => trivial

theorem only_liftExcept (result : Except ε α) : (liftExcept result : Program ι ε α).Only kind := by
  cases result <;> trivial

theorem only_attempt {program : Program ι ε α} (only : program.Only kind) :
    (attempt program : Program ι ε' (Except ε α)).Only kind := by
  induction program with
  | call op next ih => exact ⟨only.1, fun answer => ih answer (only.2 answer)⟩
  | _ => trivial

end Only

/-- What a call may be made on, and what it and its answer make of a state. -/
structure Rules (ι : Interface) (σ : Type) where
  may : σ → ι.Call → Prop
  next : σ → (op : ι.Call) → ι.Answer op → σ → Prop

/-- Every call of the program is allowed where it is made, and every result meets the postcondition. -/
def Sat (rules : Rules ι σ) (post : σ → Except ε α → Prop) : Program ι ε α → σ → Prop
  | .ret value, state => post state (.ok value)
  | .raise error, state => post state (.error error)
  | .call op rest, state => rules.may state op ∧
      ∀ answer after, rules.next state op answer after → Sat rules post (rest answer) after
  | .cut, _ => True

section Rules

variable {rules : Rules ι σ} {post post' : σ → Except ε α → Prop} {state : σ}

@[simp] theorem sat_ret {value : α} : Sat rules post (.ret value) state ↔ post state (.ok value) := Iff.rfl

@[simp] theorem sat_pure {value : α} :
    Sat rules post (pure value : Program ι ε α) state ↔ post state (.ok value) := Iff.rfl

@[simp] theorem sat_raise {error : ε} :
    Sat rules post (.raise error : Program ι ε α) state ↔ post state (.error error) := Iff.rfl

@[simp] theorem sat_cut : Sat rules post (.cut : Program ι ε α) state := trivial

theorem sat_call {op : ι.Call} {next : ι.Answer op → Program ι ε α} :
    Sat rules post (.call op next) state ↔ rules.may state op ∧
      ∀ answer after, rules.next state op answer after → Sat rules post (next answer) after := Iff.rfl

theorem Sat.mono {program : Program ι ε α} (sat : Sat rules post program state)
    (weaker : ∀ state result, post state result → post' state result) : Sat rules post' program state := by
  induction program generalizing state with
  | ret value => exact weaker _ _ sat
  | raise error => exact weaker _ _ sat
  | call op rest ih => exact ⟨sat.1, fun answer after moved => ih answer (sat.2 answer after moved)⟩
  | cut => trivial

theorem sat_of_forall (may : ∀ state op, rules.may state op) (ends : ∀ state result, post state result)
    (program : Program ι ε α) (state : σ) : Sat rules post program state := by
  induction program generalizing state with
  | ret value => exact ends state (.ok value)
  | raise error => exact ends state (.error error)
  | call op rest ih => exact ⟨may state op, fun answer after _ => ih answer after⟩
  | cut => trivial

theorem sat_bind {first : Program ι ε α} {next : α → Program ι ε β} {post : σ → Except ε β → Prop} :
    Sat rules post (first >>= next) state ↔ Sat rules (fun state result => match result with
      | .ok value => Sat rules post (next value) state
      | .error error => post state (.error error)) first state := by
  change Sat rules post (bind first next) state ↔ _
  induction first generalizing state with
  | ret value => rfl
  | raise error => rfl
  | call op rest ih =>
    exact and_congr_right fun _ => forall_congr' fun answer => forall_congr' fun after =>
      imp_congr_right fun _ => ih answer
  | cut => rfl

theorem sat_attempt {program : Program ι ε α} {post : σ → Except ε' (Except ε α) → Prop} :
    Sat rules post (attempt program) state ↔ Sat rules (fun state result => post state (.ok result)) program state := by
  induction program generalizing state with
  | ret value => rfl
  | raise error => rfl
  | call op rest ih =>
    exact and_congr_right fun _ => forall_congr' fun answer => forall_congr' fun after =>
      imp_congr_right fun _ => ih answer
  | cut => rfl

theorem sat_liftExcept {result : Except ε α} : Sat rules post (liftExcept result) state ↔ post state result := by
  cases result <;> rfl

end Rules

/-- The states along a sequence of events. -/
inductive Rules.Trace (rules : Rules ι σ) : σ → List ι.Event → σ → Prop where
  | nil (state : σ) : Trace rules state [] state
  | cons {state middle last : σ} {event : ι.Event} {events : List ι.Event}
      (first : rules.next state event.op event.answer middle) (rest : Trace rules middle events last) :
      Trace rules state (event :: events) last

theorem trace_play {rules : Rules ι σ} {respond : σ → (op : ι.Call) → ι.Answer op × σ}
    (follows : ∀ state op, rules.next state op (respond state op).1 (respond state op).2) (program : Program ι ε α)
    (state : σ) : rules.Trace state (program.play respond state).1 (program.play respond state).2.2 := by
  induction program generalizing state with
  | ret value => exact .nil state
  | raise error => exact .nil state
  | call op next ih => exact .cons (follows state op) (ih _ _)
  | cut => exact .nil state

theorem Sat.leads {rules : Rules ι σ} {post : σ → Except ε α → Prop} {program rest : Program ι ε α} {state last : σ}
    {events : List ι.Event} (sat : Sat rules post program state) (leads : Leads program events rest)
    (trace : rules.Trace state events last) : Sat rules post rest last := by
  induction leads generalizing state with
  | refl program =>
    cases trace
    exact sat
  | call _ ih =>
    cases trace with
    | cons first later => exact ih (sat.2 _ _ first) later

theorem Sat.finishes {rules : Rules ι σ} {post : σ → Except ε α → Prop} {program : Program ι ε α} {state last : σ}
    {events : List ι.Event} {result : Except ε α} (sat : Sat rules post program state)
    (finishes : Finishes program events result) (trace : rules.Trace state events last) : post last result :=
  sat_liftExcept.mp (sat.leads finishes trace)

theorem Sat.preserves {rules : Rules ι σ} {post : σ → Except ε α → Prop} {inv : σ → Prop} {program rest : Program ι ε α}
    {state last : σ} {events : List ι.Event} (sat : Sat rules post program state) (leads : Leads program events rest)
    (trace : rules.Trace state events last) (start : inv state)
    (kept : ∀ {state op answer after}, rules.may state op → rules.next state op answer after → inv state → inv after) :
    inv last := by
  induction leads generalizing state with
  | refl program =>
    cases trace
    exact start
  | call _ ih =>
    cases trace with
    | cons first later => exact ih (sat.2 _ _ first) later (kept sat.1 first start)

theorem Sat.allowed {rules : Rules ι σ} {post : σ → Except ε α → Prop} {program rest : Program ι ε α} {state last : σ}
    {before after : List ι.Event} {event : ι.Event} (sat : Sat rules post program state)
    (leads : Leads program (before ++ event :: after) rest) (trace : rules.Trace state before last) :
    rules.may last event.op := by
  induction before generalizing program state with
  | nil =>
    cases trace
    cases leads
    exact sat.1
  | cons head tail ih =>
    cases leads with
    | call later =>
      cases trace with
      | cons first remaining => exact ih (sat.2 _ _ first) later remaining

end Program

/-- A part of a call that works on local variables, and leaves them changed also where it raises. -/
def Body (ι : Interface) (ε σ α : Type) : Type := σ → Program ι ε (Except ε α × σ)

namespace Body

variable {ι : Interface} {ε σ α β : Type}

def bind (body : Body ι ε σ α) (next : α → Body ι ε σ β) : Body ι ε σ β := fun locals => do
  let (result, locals) ← body locals
  match result with
  | .ok value => next value locals
  | .error error => return (.error error, locals)

instance : Monad (Body ι ε σ) where
  pure value locals := .ret (.ok value, locals)
  bind := bind

def fail (error : ε) : Body ι ε σ α := fun locals => .ret (.error error, locals)

def lift (program : Program ι ε α) : Body ι ε σ α := fun locals => do
  let result : Except ε α ← Program.attempt program
  return (result, locals)

instance : MonadLift (Program ι ε) (Body ι ε σ) := ⟨lift⟩

def get : Body ι ε σ σ := fun locals => .ret (.ok locals, locals)

def modify (change : σ → σ) : Body ι ε σ Unit := fun locals => .ret (.ok (), change locals)

def tryCatch (body : Body ι ε σ α) (next : Except ε α → Body ι ε σ β) : Body ι ε σ β := fun locals => do
  let (result, locals) ← body locals
  next result locals

def check (result : Except ε α) : Body ι ε σ α := fun locals => .ret (result, locals)

def finallyDo (body : Body ι ε σ α) (last : Body ι ε σ Unit) : Body ι ε σ α :=
  tryCatch body fun result => do
    last
    check result

def run (body : Body ι ε σ α) (locals : σ) : Program ι ε α := do
  let (result, _) ← body locals
  Program.liftExcept result

section Rules

open Program

variable {τ : Type} {rules : Rules ι τ} {post : τ → Except ε α → σ → Prop} {state : τ} {locals : σ}

/-- Every call of the body is allowed, and its result meets the postcondition together with the local variables. -/
def Meets (rules : Rules ι τ) (post : τ → Except ε α → σ → Prop) (body : Body ι ε σ α) (state : τ) (locals : σ) : Prop :=
  Sat rules (fun state result => match result with
    | .ok (value, locals) => post state value locals
    | .error _ => False) (body locals) state

@[simp] theorem meets_pure {value : α} :
    Meets rules post (pure value : Body ι ε σ α) state locals ↔ post state (.ok value) locals := Iff.rfl

@[simp] theorem meets_fail {error : ε} :
    Meets rules post (fail error : Body ι ε σ α) state locals ↔ post state (.error error) locals := Iff.rfl

@[simp] theorem meets_check {result : Except ε α} :
    Meets rules post (check result : Body ι ε σ α) state locals ↔ post state result locals := Iff.rfl

@[simp] theorem meets_modify {change : σ → σ} {post : τ → Except ε Unit → σ → Prop} :
    Meets rules post (modify change : Body ι ε σ Unit) state locals ↔ post state (.ok ()) (change locals) := Iff.rfl

theorem Meets.mono {post' : τ → Except ε α → σ → Prop} {body : Body ι ε σ α} (meets : Meets rules post body state locals)
    (weaker : ∀ state result locals, post state result locals → post' state result locals) :
    Meets rules post' body state locals := by
  refine Sat.mono meets ?_
  rintro state (_ | ⟨result, locals⟩) holds
  · exact holds
  · exact weaker _ _ _ holds

theorem meets_bind {body : Body ι ε σ α} {next : α → Body ι ε σ β} {post : τ → Except ε β → σ → Prop} :
    Meets rules post (body >>= next) state locals ↔ Meets rules (fun state result locals => match result with
      | .ok value => Meets rules post (next value) state locals
      | .error error => post state (.error error) locals) body state locals := by
  refine Program.sat_bind.trans (iff_of_eq (congrArg (fun post => Sat rules post (body locals) state) ?_))
  funext state result
  rcases result with _ | ⟨_ | _, _⟩ <;> rfl

theorem meets_tryCatch {body : Body ι ε σ α} {next : Except ε α → Body ι ε σ β} {post : τ → Except ε β → σ → Prop} :
    Meets rules post (tryCatch body next) state locals ↔
      Meets rules (fun state result locals => Meets rules post (next result) state locals) body state locals := by
  refine Program.sat_bind.trans (iff_of_eq (congrArg (fun post => Sat rules post (body locals) state) ?_))
  funext state result
  rcases result with _ | ⟨_ | _, _⟩ <;> rfl

theorem meets_lift {program : Program ι ε α} : Meets rules post (lift program : Body ι ε σ α) state locals ↔
    Sat rules (fun state result => post state result locals) program state := by
  refine Program.sat_bind.trans (sat_attempt.trans (iff_of_eq
    (congrArg (fun post => Sat rules post program state) ?_)))
  funext state result
  cases result <;> rfl

end Rules

end Body
