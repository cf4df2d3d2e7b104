import Aep.Library.Program

/-- How a call ends: with a value, with an exception, or with its process. -/
inductive Ended (ε α : Type) where
  | returned (value : α)
  | raised (error : ε)
  | stopped

/-- A statement that fails: it raises or its process stops, and a commit may have been written before that. -/
structure Fault (ε : Type) where
  error : Option ε
  written : Bool

namespace Fault

variable {ε α : Type}

def ended (fault : Fault ε) : Ended ε α :=
  match fault.error with
  | some error => .raised error
  | none => .stopped

theorem ended_ne (fault : Fault ε) (value : α) : fault.ended ≠ .returned value := by
  unfold ended
  split <;> simp

end Fault

/-- The faults of the statements of a call, in order. Past the end there are none. -/
abbrev Faults (ε : Type) := List (Option (Fault ε))

namespace Transaction

variable {ι : Interface} {δ ε α : Type}

-- What the statements do to a database: a statement that raises writes nothing.
variable (statement : (op : ι.Call) → δ → Except ε (ι.Answer op × δ))

def execute : Program ι ε α → Faults ε → δ → Ended ε α × δ × Faults ε
  | .ret value, faults, database => (.returned value, database, faults)
  | .raise error, faults, database => (.raised error, database, faults)
  | .cut, faults, database => (.stopped, database, faults)
  | .call op next, faults, database =>
    match faults.head?.join with
    | some fault => (fault.ended, database, faults.tail)
    | none =>
      match statement op database with
      | .error error => (.raised error, database, faults.tail)
      | .ok (answer, after) => execute (next answer) faults.tail after

def run (body : Program ι ε α) (faults : Faults ε) (database : δ) : Ended ε α × δ :=
  match execute statement body faults database with
  | (.returned value, working, rest) =>
    match rest.head?.join with
    | some fault => (fault.ended, if fault.written then working else database)
    | none => (.returned value, working)
  | (ended, _, _) => (ended, database)

/-- The program returns this value and leaves this database when nothing fails. -/
inductive Completes : Program ι ε α → δ → α → δ → Prop where
  | ret (value : α) (database : δ) : Completes (.ret value) database value database
  | call {op : ι.Call} {next : ι.Answer op → Program ι ε α} {database middle after : δ} {answer : ι.Answer op} {value : α}
      (done : statement op database = .ok (answer, middle)) (rest : Completes (next answer) middle value after) :
      Completes (.call op next) database value after

section Rules

variable {statement} {body : Program ι ε α} {faults : Faults ε} {database : δ}

theorem completes_of_execute {value : α} {after : δ} {rest : Faults ε}
    (returned : execute statement body faults database = (.returned value, after, rest)) :
    Completes statement body database value after := by
  induction body generalizing faults database with
  | ret stored =>
    simp only [execute, Prod.mk.injEq, Ended.returned.injEq] at returned
    obtain ⟨rfl, rfl, -⟩ := returned
    exact .ret _ _
  | raise error => simp [execute] at returned
  | cut => simp [execute] at returned
  | call op next ih =>
    unfold execute at returned
    split at returned
    · rename_i fault _
      exact absurd (congrArg Prod.fst returned) (fault.ended_ne value)
    · split at returned
      · simp at returned
      · rename_i done
        exact .call done (ih _ returned)

theorem run_cases (statement : (op : ι.Call) → δ → Except ε (ι.Answer op × δ)) (body : Program ι ε α) (faults : Faults ε) (database : δ) :
    let outcome := run statement body faults database
    (∃ value, outcome.1 = .returned value ∧ Completes statement body database value outcome.2) ∨
      (∀ value, outcome.1 ≠ .returned value) ∧
        (outcome.2 = database ∨ ∃ value, Completes statement body database value outcome.2) := by
  simp only
  unfold run
  rcases ran : execute statement body faults database with ⟨ended | error | _, working, rest⟩
  · have completes := completes_of_execute ran
    simp only
    split
    · rename_i fault _
      refine .inr ⟨fault.ended_ne, ?_⟩
      by_cases written : fault.written
      · exact .inr ⟨_, by simpa [written] using completes⟩
      · exact .inl (by simp [written])
    · exact .inl ⟨_, rfl, completes⟩
  · exact .inr ⟨by simp, .inl rfl⟩
  · exact .inr ⟨by simp, .inl rfl⟩

theorem run_keeps {kept : δ → δ → Prop} (refl : kept database database)
    (completes : ∀ value after, Completes statement body database value after → kept database after) :
    kept database (run statement body faults database).2 := by
  rcases run_cases statement body faults database with ⟨value, -, done⟩ | ⟨-, same | ⟨value, done⟩⟩
  · exact completes value _ done
  · rw [same]
    exact refl
  · exact completes value _ done

theorem run_returned {value : α} (returned : (run statement body faults database).1 = .returned value) :
    Completes statement body database value (run statement body faults database).2 := by
  rcases run_cases statement body faults database with ⟨same, eq, done⟩ | ⟨other, -⟩
  · rw [returned] at eq
    cases eq
    exact done
  · exact absurd returned (other value)

@[simp] theorem completes_ret {value result : α} {after : δ} :
    Completes statement (.ret value : Program ι ε α) database result after ↔ result = value ∧ after = database := by
  constructor
  · intro completes
    cases completes
    exact ⟨rfl, rfl⟩
  · rintro ⟨rfl, rfl⟩
    exact .ret _ _

@[simp] theorem completes_pure {value result : α} {after : δ} :
    Completes statement (pure value : Program ι ε α) database result after ↔ result = value ∧ after = database :=
  completes_ret

theorem completes_call {op : ι.Call} {next : ι.Answer op → Program ι ε α} {result : α} {after : δ} :
    Completes statement (.call op next) database result after ↔
      ∃ answer middle, statement op database = .ok (answer, middle) ∧
        Completes statement (next answer) middle result after := by
  constructor
  · intro completes
    cases completes with
    | call done rest => exact ⟨_, _, done, rest⟩
  · rintro ⟨answer, middle, done, rest⟩
    exact .call done rest

@[simp] theorem completes_call_ret {op : ι.Call} {answer : ι.Answer op} {after : δ} :
    Completes statement (.call op .ret : Program ι ε (ι.Answer op)) database answer after ↔
      statement op database = .ok (answer, after) := by
  rw [completes_call]
  constructor
  · rintro ⟨_, _, done, rest⟩
    obtain ⟨rfl, rfl⟩ := completes_ret.mp rest
    exact done
  · exact fun done => ⟨answer, after, done, .ret _ _⟩

@[simp] theorem completes_bind {β : Type} {first : Program ι ε α} {next : α → Program ι ε β} {result : β} {after : δ} :
    Completes statement (first >>= next) database result after ↔
      ∃ value middle, Completes statement first database value middle ∧
        Completes statement (next value) middle result after := by
  change Completes statement (Program.bind first next) _ _ _ ↔ _
  induction first generalizing database with
  | ret value =>
    simp only [completes_ret, Program.bind]
    exact ⟨fun done => ⟨value, database, ⟨rfl, rfl⟩, done⟩, by rintro ⟨_, _, ⟨rfl, rfl⟩, done⟩; exact done⟩
  | raise error =>
    constructor
    · exact fun completes => nomatch completes
    · exact fun ⟨_, _, completes, _⟩ => nomatch completes
  | cut =>
    constructor
    · exact fun completes => nomatch completes
    · exact fun ⟨_, _, completes, _⟩ => nomatch completes
  | call op rest ih =>
    simp only [Program.bind, completes_call, ih]
    constructor
    · rintro ⟨answer, middle, done, value, last, completes, remaining⟩
      exact ⟨value, last, ⟨answer, middle, done, completes⟩, remaining⟩
    · rintro ⟨value, last, ⟨answer, middle, done, completes⟩, remaining⟩
      exact ⟨answer, middle, done, value, last, completes, remaining⟩

end Rules

end Transaction
