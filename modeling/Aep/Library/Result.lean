import Mathlib.Data.List.Forall2

namespace Result

variable {ε α β : Type}

def raiseIf (condition : Prop) [Decidable condition] (error : ε) : Except ε Unit :=
  if condition then .error error else .ok ()

@[simp] theorem raiseIf_eq_ok {condition : Prop} [Decidable condition] {error : ε} {result : Unit} :
    raiseIf condition error = .ok result ↔ ¬condition := by
  unfold raiseIf
  split <;> simp_all

theorem raiseIf_pos {condition : Prop} [Decidable condition] (holds : condition) (error : ε) :
    raiseIf condition error = .error error := if_pos holds

theorem raiseIf_neg {condition : Prop} [Decidable condition] (fails : ¬condition) (error : ε) :
    raiseIf condition error = .ok () := if_neg fails

@[simp] theorem pure_eq_ok {value result : α} : (pure value : Except ε α) = .ok result ↔ value = result := by
  change Except.ok value = Except.ok result ↔ _
  simp

@[simp] theorem ok_bind (value : α) (next : α → Except ε β) : (Except.ok value >>= next) = next value := rfl

@[simp] theorem error_bind (error : ε) (next : α → Except ε β) : (Except.error error >>= next) = .error error := rfl

@[simp] theorem pure_bind (value : α) (next : α → Except ε β) :
    ((pure value : Except ε α) >>= next) = next value := rfl

@[simp] theorem map_ok (value : α) (convert : α → β) :
    (convert <$> (Except.ok value : Except ε α)) = .ok (convert value) := rfl

@[simp] theorem pure_ne_error (value : α) (error : ε) : ((pure value : Except ε α) = .error error) ↔ False := by
  change Except.ok value = .error error ↔ _
  simp

@[simp] theorem map_eq_error {first : Except ε α} {convert : α → β} {error : ε} :
    (convert <$> first) = .error error ↔ first = .error error := by
  cases first with
  | error raised =>
    change Except.error raised = Except.error error ↔ _
    simp
  | ok value =>
    change Except.ok (convert value) = Except.error error ↔ _
    simp

theorem bind_eq_error {first : Except ε α} {next : α → Except ε β} {error : ε} :
    (first >>= next) = .error error ↔
      first = .error error ∨ ∃ value, first = .ok value ∧ next value = .error error := by
  cases first <;> simp

@[simp] theorem bind_eq_ok {first : Except ε α} {next : α → Except ε β} {result : β} :
    (first >>= next) = .ok result ↔ ∃ value, first = .ok value ∧ next value = .ok result := by
  cases first with
  | error error =>
    change Except.error error = Except.ok result ↔ _
    simp
  | ok value =>
    change next value = Except.ok result ↔ _
    simp

@[simp] theorem map_eq_ok {first : Except ε α} {convert : α → β} {result : β} :
    (convert <$> first) = .ok result ↔ ∃ value, first = .ok value ∧ convert value = result := by
  cases first with
  | error error =>
    change Except.error error = Except.ok result ↔ _
    simp
  | ok value =>
    change Except.ok (convert value) = _ ↔ _
    simp

theorem forall₂_of_mapM {compute : α → Except ε β} {items : List α} {results : List β}
    (computed : items.mapM compute = .ok results) :
    List.Forall₂ (fun item result => compute item = .ok result) items results := by
  induction items generalizing results with
  | nil =>
    cases computed
    exact .nil
  | cons item rest ih =>
    simp only [List.mapM_cons, bind_eq_ok, pure_eq_ok] at computed
    obtain ⟨first, here, others, later, rfl⟩ := computed
    exact .cons here (ih later)

theorem eq_map_of_mapM {compute : α → Except ε β} {encode : β → α} {items : List α} {results : List β}
    (computed : items.mapM compute = .ok results)
    (told : ∀ item result, compute item = .ok result → item = encode result) : items = results.map encode := by
  have each := forall₂_of_mapM computed
  clear computed
  induction each with
  | nil => rfl
  | cons here _ ih => rw [List.map_cons, ← ih, ← told _ _ here]

theorem exists_left_of_mem {related : α → β → Prop} {items : List α} {results : List β}
    (each : List.Forall₂ related items results) {result : β} (member : result ∈ results) :
    ∃ item ∈ items, related item result := by
  induction each with
  | nil => cases member
  | cons here _ ih =>
    rcases List.mem_cons.mp member with rfl | elsewhere
    · exact ⟨_, List.mem_cons_self, here⟩
    · obtain ⟨item, present, found⟩ := ih elsewhere
      exact ⟨item, List.mem_cons_of_mem _ present, found⟩

theorem exists_right_of_mem {related : α → β → Prop} {items : List α} {results : List β}
    (each : List.Forall₂ related items results) {item : α} (member : item ∈ items) :
    ∃ result ∈ results, related item result :=
  exists_left_of_mem each.flip member

theorem exists_mem_congr {related : α → β → Prop} {items : List α} {results : List β}
    (each : List.Forall₂ related items results) {first : α → Prop} {second : β → Prop}
    (same : ∀ item result, related item result → (first item ↔ second result)) :
    (∃ item ∈ items, first item) ↔ ∃ result ∈ results, second result := by
  induction each with
  | nil => simp
  | cons here _ ih => rw [List.exists_mem_cons_iff, List.exists_mem_cons_iff, same _ _ here, ih]

theorem mem_of_mapM {compute : α → Except ε β} {items : List α} {results : List β}
    (computed : items.mapM compute = .ok results) {result : β} (member : result ∈ results) :
    ∃ item ∈ items, compute item = .ok result := by
  induction items generalizing results with
  | nil =>
    cases computed
    cases member
  | cons item rest ih =>
    simp only [List.mapM_cons, bind_eq_ok, pure_eq_ok] at computed
    obtain ⟨first, here, others, later, rfl⟩ := computed
    rcases List.mem_cons.mp member with rfl | elsewhere
    · exact ⟨item, List.mem_cons_self, here⟩
    · obtain ⟨found, present, same⟩ := ih later elsewhere
      exact ⟨found, List.mem_cons_of_mem _ present, same⟩

theorem mem_mapM_iff {compute : α → Except ε β} {items : List α} {results : List β}
    (computed : items.mapM compute = .ok results) {result : β} :
    result ∈ results ↔ ∃ item ∈ items, compute item = .ok result := by
  constructor
  · exact mem_of_mapM computed
  · rintro ⟨item, member, here⟩
    obtain ⟨other, listed, found⟩ := exists_right_of_mem (forall₂_of_mapM computed) member
    obtain rfl := Except.ok.inj (here.symm.trans found)
    exact listed

theorem mapM_total {compute : α → Except ε β} {items : List α} (each : ∀ item ∈ items, ∃ result, compute item = .ok result) :
    ∃ results, items.mapM compute = .ok results := by
  induction items with
  | nil => exact ⟨[], rfl⟩
  | cons item rest ih =>
    obtain ⟨first, here⟩ := each item List.mem_cons_self
    obtain ⟨others, later⟩ := ih fun other member => each other (List.mem_cons_of_mem _ member)
    exact ⟨first :: others, by simp [List.mapM_cons, here, later]⟩

theorem mapM_map_of_each {encode : β → α} {compute : α → Except ε β} {results : List β}
    (each : ∀ result ∈ results, compute (encode result) = .ok result) :
    (results.map encode).mapM compute = .ok results := by
  induction results with
  | nil => rfl
  | cons result rest ih =>
    have later := ih fun other member => each other (List.mem_cons_of_mem _ member)
    simp [List.mapM_cons, each result List.mem_cons_self, later]

theorem mapM_perm {compute : α → Except ε β} {items permuted : List α} (same : items.Perm permuted) {results : List β}
    (computed : items.mapM compute = .ok results) :
    ∃ others, permuted.mapM compute = .ok others ∧ results.Perm others := by
  induction same generalizing results with
  | nil =>
    cases computed
    exact ⟨[], rfl, .nil⟩
  | cons item _ ih =>
    simp only [List.mapM_cons, bind_eq_ok, pure_eq_ok] at computed
    obtain ⟨first, here, rest, later, rfl⟩ := computed
    obtain ⟨others, found, perm⟩ := ih later
    exact ⟨first :: others, by simp [List.mapM_cons, here, found], perm.cons first⟩
  | swap first second rest =>
    simp only [List.mapM_cons, bind_eq_ok, pure_eq_ok] at computed
    obtain ⟨one, here, _, ⟨two, there, others, later, rfl⟩, rfl⟩ := computed
    exact ⟨two :: one :: others, by simp [List.mapM_cons, here, there, later], .swap two one others⟩
  | trans _ _ firstIh secondIh =>
    obtain ⟨middle, found, perm⟩ := firstIh computed
    obtain ⟨last, foundLast, permLast⟩ := secondIh found
    exact ⟨last, foundLast, perm.trans permLast⟩

theorem mapM_take {compute : α → Except ε β} {items : List α} {results : List β}
    (computed : items.mapM compute = .ok results) (count : Nat) :
    (items.take count).mapM compute = .ok (results.take count) := by
  induction items generalizing results count with
  | nil =>
    cases computed
    simp [pure, Except.pure]
  | cons item rest ih =>
    simp only [List.mapM_cons, bind_eq_ok, pure_eq_ok] at computed
    obtain ⟨first, one, others, later, rfl⟩ := computed
    cases count with
    | zero => rfl
    | succ count =>
      rw [List.take_succ_cons, List.mapM_cons, one, ok_bind, ih later, ok_bind]
      rfl

theorem forall₂_of_mapM_some {compute : α → Option β} {items : List α} {results : List β}
    (computed : items.mapM compute = some results) :
    List.Forall₂ (fun item result => compute item = some result) items results := by
  induction items generalizing results with
  | nil =>
    cases computed
    exact .nil
  | cons item rest ih =>
    simp only [List.mapM_cons, Option.bind_eq_bind, Option.bind_eq_some_iff, Option.pure_def,
      Option.some.injEq] at computed
    obtain ⟨first, here, others, later, rfl⟩ := computed
    exact .cons here (ih later)

end Result
