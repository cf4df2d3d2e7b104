import Mathlib.Logic.Basic

/-- A computation on a state that may raise. What it wrote before raising stays written. -/
def StateAction (σ ε α : Type) : Type := σ → Except ε α × σ

namespace StateAction

variable {σ ε α β : Type}

def pure (value : α) : StateAction σ ε α := fun state => (.ok value, state)

def bind (first : StateAction σ ε α) (next : α → StateAction σ ε β) : StateAction σ ε β := fun state =>
  match first state with
  | (.ok value, after) => next value after
  | (.error error, after) => (.error error, after)

instance : Monad (StateAction σ ε) where
  pure := pure
  bind := bind

def raise (error : ε) : StateAction σ ε α := fun state => (.error error, state)

def raiseIf (condition : Prop) [Decidable condition] (error : ε) : StateAction σ ε Unit :=
  if condition then raise error else pure ()

def read : StateAction σ ε σ := fun state => (.ok state, state)

def modify (change : σ → σ) : StateAction σ ε Unit := fun state => (.ok (), change state)

def liftExcept (value : Except ε α) : StateAction σ ε α := fun state => (value, state)

def some! (value : Option α) (error : ε) : StateAction σ ε α :=
  match value with
  | some found => pure found
  | none => raise error

def atomically (action : StateAction σ ε α) : StateAction σ ε α := fun state =>
  match action state with
  | (.ok value, after) => (.ok value, after)
  | (.error error, _) => (.error error, state)

section Apply

variable {next : σ → StateAction σ ε β} {rest : Unit → StateAction σ ε β} {state : σ}

theorem apply_pure (value : α) : (Pure.pure value : StateAction σ ε α) state = (.ok value, state) := rfl

theorem apply_read_bind : (read >>= next) state = next state state := rfl

theorem apply_modify_bind (change : σ → σ) : (modify change >>= rest) state = rest () (change state) := rfl

theorem apply_bind_ok {first : StateAction σ ε α} {next : α → StateAction σ ε β} {value : α} {after : σ}
    (ran : first state = (.ok value, after)) : (first >>= next) state = next value after := by
  change bind first next state = _
  unfold bind
  rw [ran]

theorem apply_bind_error {first : StateAction σ ε α} {next : α → StateAction σ ε β} {error : ε} {after : σ}
    (ran : first state = (.error error, after)) : (first >>= next) state = (.error error, after) := by
  change bind first next state = _
  unfold bind
  rw [ran]

theorem apply_map (action : StateAction σ ε α) (convert : α → β) :
    (convert <$> action) state = ((action state).1.map convert, (action state).2) := by
  change bind action _ state = _
  unfold bind
  rcases action state with ⟨error | value, after⟩ <;> rfl

end Apply

def Returns (action : StateAction σ ε α) (before : σ) (value : α) (after : σ) : Prop :=
  action before = (.ok value, after)

def Raises (action : StateAction σ ε α) (before : σ) (error : ε) (after : σ) : Prop :=
  action before = (.error error, after)

@[simp] theorem returns_pure {value result : α} {before after : σ} :
    (Pure.pure value : StateAction σ ε α).Returns before result after ↔ result = value ∧ after = before := by
  change ((Except.ok value, before) : Except ε α × σ) = (.ok result, after) ↔ _
  simp only [Prod.mk.injEq, Except.ok.injEq]
  exact ⟨fun ⟨left, right⟩ => ⟨left.symm, right.symm⟩, fun ⟨left, right⟩ => ⟨left.symm, right.symm⟩⟩

@[simp] theorem returns_bind {first : StateAction σ ε α} {next : α → StateAction σ ε β} {result : β}
    {before after : σ} : (first >>= next).Returns before result after ↔
      ∃ value middle, first.Returns before value middle ∧ (next value).Returns middle result after := by
  change bind first next before = _ ↔ _
  unfold bind Returns
  rcases ran : first before with ⟨error | value, middle⟩
  · simp
  · constructor
    · exact fun finished => ⟨value, middle, rfl, finished⟩
    · rintro ⟨_, _, same, finished⟩
      cases same
      exact finished

@[simp] theorem returns_raise {error : ε} {result : α} {before after : σ} :
    (raise error : StateAction σ ε α).Returns before result after ↔ False := by
  simp [Returns, raise]

@[simp] theorem returns_raiseIf {condition : Prop} [Decidable condition] {error : ε} {result : Unit}
    {before after : σ} :
    (raiseIf condition error).Returns before result after ↔ ¬condition ∧ after = before := by
  unfold raiseIf
  by_cases holds : condition
  · simp [holds]
  · simp only [holds, ↓reduceIte, not_false_eq_true, true_and]
    exact returns_pure.trans (by simp)

@[simp] theorem returns_read {result before after : σ} :
    (read : StateAction σ ε σ).Returns before result after ↔ result = before ∧ after = before := by
  simp only [Returns, read, Prod.mk.injEq, Except.ok.injEq]
  exact ⟨fun ⟨left, right⟩ => ⟨left.symm, right.symm⟩, fun ⟨left, right⟩ => ⟨left.symm, right.symm⟩⟩

@[simp] theorem returns_modify {change : σ → σ} {result : Unit} {before after : σ} :
    (modify change : StateAction σ ε Unit).Returns before result after ↔ after = change before := by
  simp only [Returns, modify, Prod.mk.injEq, true_and]
  exact eq_comm

@[simp] theorem returns_liftExcept {value : Except ε α} {result : α} {before after : σ} :
    (liftExcept value : StateAction σ ε α).Returns before result after ↔ value = .ok result ∧ after = before := by
  simp only [Returns, liftExcept, Prod.mk.injEq]
  exact and_congr_right fun _ => eq_comm

@[simp] theorem returns_some {value : Option α} {error : ε} {result : α} {before after : σ} :
    (some! value error : StateAction σ ε α).Returns before result after ↔ value = some result ∧ after = before := by
  cases value with
  | none => exact returns_raise.trans (by simp)
  | some found =>
    refine returns_pure.trans ?_
    simp only [Option.some.injEq]
    exact and_congr_left fun _ => eq_comm

@[simp] theorem returns_ite {condition : Prop} [Decidable condition] {yes no : StateAction σ ε α} {result : α}
    {before after : σ} : (if condition then yes else no).Returns before result after ↔
      (condition ∧ yes.Returns before result after) ∨ (¬condition ∧ no.Returns before result after) := by
  by_cases holds : condition <;> simp [holds]

@[simp] theorem returns_atomically {action : StateAction σ ε α} {result : α} {before after : σ} :
    (atomically action).Returns before result after ↔ action.Returns before result after := by
  unfold atomically Returns
  rcases ran : action before with ⟨error | value, middle⟩ <;> simp only [ran, Prod.mk.injEq, reduceCtorEq, false_and]

@[simp] theorem returns_map {first : StateAction σ ε α} {convert : α → β} {result : β} {before after : σ} :
    (convert <$> first).Returns before result after ↔
      ∃ value, first.Returns before value after ∧ result = convert value := by
  change (first >>= fun value => (Pure.pure (convert value) : StateAction σ ε β)).Returns _ _ _ ↔ _
  rw [returns_bind]
  simp only [returns_pure]
  constructor
  · rintro ⟨value, middle, finished, same, rfl⟩
    exact ⟨value, finished, same⟩
  · rintro ⟨value, finished, same⟩
    exact ⟨value, after, finished, same, rfl⟩

@[simp] theorem raises_pure {value : α} {error : ε} {before after : σ} :
    (Pure.pure value : StateAction σ ε α).Raises before error after ↔ False := by
  change ((Except.ok value, before) : Except ε α × σ) = (.error error, after) ↔ _
  simp

@[simp] theorem raises_bind {first : StateAction σ ε α} {next : α → StateAction σ ε β} {error : ε} {before after : σ} :
    (first >>= next).Raises before error after ↔ first.Raises before error after ∨
      ∃ value middle, first.Returns before value middle ∧ (next value).Raises middle error after := by
  change bind first next before = _ ↔ _
  unfold bind Returns Raises
  rcases ran : first before with ⟨raised | value, middle⟩
  · simp
  · constructor
    · exact fun finished => .inr ⟨value, middle, rfl, finished⟩
    · rintro (failed | ⟨_, _, same, finished⟩)
      · cases failed
      · cases same
        exact finished

@[simp] theorem raises_raise {raised error : ε} {before after : σ} :
    (raise raised : StateAction σ ε α).Raises before error after ↔ error = raised ∧ after = before := by
  simp only [Raises, raise, Prod.mk.injEq, Except.error.injEq]
  exact and_congr eq_comm eq_comm

@[simp] theorem raises_raiseIf {condition : Prop} [Decidable condition] {raised error : ε} {before after : σ} :
    (raiseIf condition raised).Raises before error after ↔ condition ∧ error = raised ∧ after = before := by
  unfold raiseIf
  by_cases holds : condition
  · simp [holds]
  · simp only [holds, ↓reduceIte, false_and]
    exact raises_pure

@[simp] theorem raises_modify {change : σ → σ} {error : ε} {before after : σ} :
    (modify change : StateAction σ ε Unit).Raises before error after ↔ False := by
  simp [Raises, modify]

@[simp] theorem raises_some {value : Option α} {raised error : ε} {before after : σ} :
    (some! value raised : StateAction σ ε α).Raises before error after ↔
      value = none ∧ error = raised ∧ after = before := by
  cases value with
  | none => exact raises_raise.trans (by simp)
  | some found => exact raises_pure.trans (by simp)

@[simp] theorem raises_ite {condition : Prop} [Decidable condition] {yes no : StateAction σ ε α} {error : ε}
    {before after : σ} : (if condition then yes else no).Raises before error after ↔
      (condition ∧ yes.Raises before error after) ∨ (¬condition ∧ no.Raises before error after) := by
  by_cases holds : condition <;> simp [holds]

@[simp] theorem raises_map {first : StateAction σ ε α} {convert : α → β} {error : ε} {before after : σ} :
    (convert <$> first).Raises before error after ↔ first.Raises before error after := by
  change (first >>= fun value => (Pure.pure (convert value) : StateAction σ ε β)).Raises _ _ _ ↔ _
  rw [raises_bind]
  simp

@[simp] theorem raises_atomically {action : StateAction σ ε α} {error : ε} {before after : σ} :
    (atomically action).Raises before error after ↔
      after = before ∧ ∃ middle, action.Raises before error middle := by
  unfold atomically Raises
  rcases ran : action before with ⟨raised | value, middle⟩
  · simp only [ran, Prod.mk.injEq, Except.error.injEq]
    exact ⟨fun ⟨same, kept⟩ => ⟨kept.symm, middle, same, rfl⟩, fun ⟨kept, _, same, _⟩ => ⟨same, kept.symm⟩⟩
  · simp [ran]

def Checks (action : StateAction σ ε α) : Prop := ∀ state, (action state).2 = state

def Keeps (action : StateAction σ ε α) : Prop := ∀ before error after, action.Raises before error after → after = before

def Total (action : StateAction σ ε α) : Prop := ∀ state, ∃ value after, action.Returns state value after

section Rollback

variable {action : StateAction σ ε α} {next : α → StateAction σ ε β}

theorem Checks.keeps (checks : action.Checks) : action.Keeps := by
  intro before error after raises
  have same := checks before
  rw [show action before = _ from raises] at same
  exact same

theorem Total.keeps (total : action.Total) : action.Keeps := by
  intro before error after raises
  obtain ⟨value, last, returns⟩ := total before
  cases (show action before = _ from raises).symm.trans returns

theorem keeps_atomically (action : StateAction σ ε α) : (atomically action).Keeps :=
  fun _ _ _ raises => (raises_atomically.mp raises).1

theorem checks_pure (value : α) : (Pure.pure value : StateAction σ ε α).Checks := fun _ => rfl

theorem checks_raise (error : ε) : (raise error : StateAction σ ε α).Checks := fun _ => rfl

theorem checks_read : (read : StateAction σ ε σ).Checks := fun _ => rfl

theorem checks_liftExcept (value : Except ε α) : (liftExcept value : StateAction σ ε α).Checks := fun _ => rfl

theorem checks_raiseIf (condition : Prop) [Decidable condition] (error : ε) :
    (raiseIf condition error : StateAction σ ε Unit).Checks := by
  unfold raiseIf
  split <;> exact fun _ => rfl

theorem checks_some (value : Option α) (error : ε) : (some! value error : StateAction σ ε α).Checks := by
  cases value <;> exact fun _ => rfl

theorem checks_bind (first : action.Checks) (rest : ∀ value, (next value).Checks) : (action >>= next).Checks := by
  intro state
  have same := first state
  change (bind action next state).2 = state
  unfold bind
  rcases ran : action state with ⟨error | value, middle⟩
  · rw [ran] at same
    exact same
  · rw [ran] at same
    exact (rest value middle).trans same

theorem total_pure (value : α) : (Pure.pure value : StateAction σ ε α).Total := fun state => ⟨value, state, rfl⟩

theorem total_modify (change : σ → σ) : (modify change : StateAction σ ε Unit).Total := fun state => ⟨(), change state, rfl⟩

theorem total_bind (first : action.Total) (rest : ∀ value, (next value).Total) : (action >>= next).Total := by
  intro state
  obtain ⟨value, middle, returns⟩ := first state
  obtain ⟨result, last, returned⟩ := rest value middle
  exact ⟨result, last, returns_bind.mpr ⟨value, middle, returns, returned⟩⟩

theorem raises_after_check (first : action.Checks) {before after : σ} {error : ε}
    (raises : (action >>= next).Raises before error after) :
    after = before ∨ ∃ value, action.Returns before value before ∧ (next value).Raises before error after := by
  rcases raises_bind.mp raises with failed | ⟨value, middle, returned, failed⟩
  · exact .inl (first.keeps before error after failed)
  · obtain rfl : middle = before := by
      have same := first before
      rwa [show action before = _ from returned] at same
    exact .inr ⟨value, returned, failed⟩

theorem keeps_bind (first : action.Checks) (rest : ∀ value, (next value).Keeps) : (action >>= next).Keeps := by
  intro before error after raises
  rcases raises_after_check first raises with same | ⟨value, -, failed⟩
  · exact same
  · exact rest value before error after failed

theorem keeps_ite {condition : Prop} [Decidable condition] {yes no : StateAction σ ε α} (first : yes.Keeps)
    (second : no.Keeps) : (if condition then yes else no).Keeps := by
  split
  · exact first
  · exact second

theorem Keeps.map (keeps : action.Keeps) (convert : α → β) : (convert <$> action).Keeps :=
  fun before error after raises => keeps before error after (raises_map.mp raises)

end Rollback

def Leaves (action : StateAction σ ε α) (state : σ) (holds : σ → Prop) : Prop := holds (action state).2

section Leaves

variable {action : StateAction σ ε α} {next : α → StateAction σ ε β} {state : σ} {holds : σ → Prop}

theorem Checks.leaves (checks : action.Checks) (held : holds state) : action.Leaves state holds := by
  unfold Leaves
  rwa [checks state]

theorem leaves_modify {change : σ → σ} (held : holds (change state)) :
    (modify change : StateAction σ ε Unit).Leaves state holds := held

theorem leaves_bind (first : action.Leaves state holds)
    (rest : ∀ value middle, action.Returns state value middle → holds middle → (next value).Leaves middle holds) :
    (action >>= next).Leaves state holds := by
  unfold Leaves at first
  change holds (bind action next state).2
  unfold bind
  rcases ran : action state with ⟨error | value, middle⟩
  · rwa [ran] at first
  · rw [ran] at first
    exact rest value middle ran first

theorem leaves_check (first : action.Checks) (held : holds state)
    (rest : ∀ value, action.Returns state value state → (next value).Leaves state holds) :
    (action >>= next).Leaves state holds := by
  refine leaves_bind (first.leaves held) fun value middle returned _ => ?_
  have same := first state
  rw [show action state = (.ok value, middle) from returned] at same
  simp only at same
  subst same
  exact rest value returned

theorem leaves_ite {condition : Prop} [Decidable condition] {yes no : StateAction σ ε α}
    (first : condition → yes.Leaves state holds) (second : ¬condition → no.Leaves state holds) :
    (if condition then yes else no).Leaves state holds := by
  split
  · rename_i met
    exact first met
  · rename_i unmet
    exact second unmet

theorem Leaves.atomically (leaves : action.Leaves state holds) (held : holds state) :
    (atomically action).Leaves state holds := by
  unfold Leaves at leaves
  unfold Leaves StateAction.atomically
  rcases ran : action state with ⟨error | value, after⟩
  · exact held
  · rwa [ran] at leaves

theorem Leaves.map (leaves : action.Leaves state holds) (convert : α → β) : (convert <$> action).Leaves state holds := by
  change holds (bind action _ state).2
  unfold Leaves at leaves
  unfold bind
  rcases ran : action state with ⟨error | value, after⟩
  · rwa [ran] at leaves
  · rwa [ran] at leaves

end Leaves

end StateAction
