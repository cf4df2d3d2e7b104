import Aep.Library.Dict

namespace Coalesce

variable {α κ ε : Type} [DecidableEq κ]

/-- A list of items with the positions of those that have a key. -/
structure Indexed (α κ : Type) [DecidableEq κ] where
  items : List α := []
  index : Dict κ Nat := []
  placed : ∀ wanted position, index.get? wanted = some position → position < items.length := by simp

def Places (key : α → Option κ) (items : List α) (index : Dict κ Nat) : Prop :=
  ∀ wanted position, index.get? wanted = some position ↔ items[position]?.bind key = some wanted

namespace Indexed

variable (key : α → Option κ) (merge : α → α → Except ε α)

def append (state : Indexed α κ) (item : α) : Indexed α κ where
  items := state.items ++ [item]
  index := state.index
  placed wanted position found := by
    have within := state.placed wanted position found
    rw [List.length_append]
    omega

theorem placed_appendAt (state : Indexed α κ) (item : α) (wanted other : κ) (position : Nat)
    (found : (state.index.set wanted state.items.length).get? other = some position) :
    position < (state.items ++ [item]).length := by
  rw [List.length_append, List.length_singleton]
  rw [Dict.get?_set] at found
  split at found
  · obtain rfl := Option.some.inj found
    omega
  · have within := state.placed other position found
    omega

def appendAt (state : Indexed α κ) (item : α) (wanted : κ) : Indexed α κ where
  items := state.items ++ [item]
  index := state.index.set wanted state.items.length
  placed := placed_appendAt state item wanted

def replace (state : Indexed α κ) (position : Nat) (item : α) : Indexed α κ where
  items := state.items.set position item
  index := state.index
  placed wanted other found := by
    rw [List.length_set]
    exact state.placed wanted other found

def add (state : Indexed α κ) (item : α) : Except ε (Indexed α κ) :=
  match key item with
  | none => .ok (state.append item)
  | some wanted =>
    match found : state.index.get? wanted with
    | none => .ok (state.appendAt item wanted)
    | some position => do
      let merged ← merge (state.items.get ⟨position, state.placed wanted position found⟩) item
      return state.replace position merged

end Indexed

def coalesce (key : α → Option κ) (merge : α → α → Except ε α) (items : List α) : Except ε (Indexed α κ) :=
  items.foldlM (Indexed.add key merge) {}

variable {key : α → Option κ} {merge : α → α → Except ε α}

theorem Places.distinct {items : List α} {index : Dict κ Nat} (places : Places key items index) {first second : Nat}
    {wanted : κ} (atFirst : items[first]?.bind key = some wanted) (atSecond : items[second]?.bind key = some wanted) :
    first = second := by
  have left := (places wanted first).mpr atFirst
  have right := (places wanted second).mpr atSecond
  exact Option.some.inj (left.symm.trans right)

theorem Places.pairwise {items : List α} {index : Dict κ Nat} (places : Places key items index) :
    items.Pairwise fun left right => ∀ wanted, key left = some wanted → key right ≠ some wanted := by
  rw [List.pairwise_iff_getElem]
  intro first second inFirst inSecond before wanted left right
  have atFirst : items[first]?.bind key = some wanted := by rw [List.getElem?_eq_getElem inFirst]; exact left
  have atSecond : items[second]?.bind key = some wanted := by rw [List.getElem?_eq_getElem inSecond]; exact right
  exact absurd (places.distinct atFirst atSecond) (Nat.ne_of_lt before)

theorem places_nil : Places key [] ([] : Dict κ Nat) := by
  intro wanted position
  simp

theorem places_append {items : List α} {index : Dict κ Nat} (places : Places key items index) {item : α}
    (keyless : key item = none) : Places key (items ++ [item]) index := by
  intro wanted position
  rw [places wanted position, List.getElem?_append]
  split
  · rfl
  · rename_i beyond
    rw [List.getElem?_eq_none (Nat.le_of_not_lt beyond), List.getElem?_singleton]
    split <;> simp [keyless]

theorem places_appendAt {items : List α} {index : Dict κ Nat} (places : Places key items index) {item : α} {wanted : κ}
    (keyed : key item = some wanted) (fresh : index.get? wanted = none) :
    Places key (items ++ [item]) (index.set wanted items.length) := by
  intro other position
  rw [Dict.get?_set, List.getElem?_append]
  by_cases same : wanted = other
  · subst same
    rw [if_pos rfl, Option.some.injEq]
    split
    · rename_i within
      have elsewhere : items[position]?.bind key ≠ some wanted := by
        rw [ne_eq, ← places wanted position, fresh]
        exact Option.some_ne_none position ∘ Eq.symm
      simp only [elsewhere, iff_false]
      omega
    · rename_i beyond
      rw [List.getElem?_singleton]
      split
      · simp only [Option.bind_some, keyed, iff_true]
        omega
      · simp only [Option.bind_none, reduceCtorEq, iff_false]
        omega
  · rw [if_neg same, places other position]
    split
    · rfl
    · rename_i beyond
      rw [List.getElem?_eq_none (Nat.le_of_not_lt beyond), List.getElem?_singleton]
      split <;> simp [keyed, same]

theorem places_replace {items : List α} {index : Dict κ Nat} (places : Places key items index) {position : Nat}
    {prior item : α} (there : items[position]? = some prior) (same : key item = key prior) :
    Places key (items.set position item) index := by
  intro wanted other
  rw [places wanted other, List.getElem?_set]
  split
  · rename_i here
    subst here
    have within : position < items.length := (List.getElem?_eq_some_iff.mp there).1
    rw [if_pos within, there, Option.bind_some, Option.bind_some, same]
  · rfl

/-- What `add` makes of a state. -/
inductive Added (key : α → Option κ) (merge : α → α → Except ε α) (state : Indexed α κ) (item : α) : Indexed α κ → Prop
  | alone (keyless : key item = none) : Added key merge state item (state.append item)
  | first (wanted : κ) (keyed : key item = some wanted) (fresh : state.index.get? wanted = none) :
      Added key merge state item (state.appendAt item wanted)
  | merged (wanted : κ) (keyed : key item = some wanted) (position : Nat) (found : state.index.get? wanted = some position)
      (prior : α) (there : state.items[position]? = some prior) (result : α) (made : merge prior item = .ok result) :
      Added key merge state item (state.replace position result)

theorem added_of_add {state after : Indexed α κ} {item : α} (added : state.add key merge item = .ok after) :
    Added key merge state item after := by
  unfold Indexed.add at added
  split at added
  · rename_i keyless
    obtain rfl := Except.ok.inj added
    exact .alone keyless
  · rename_i wanted keyed
    split at added
    · rename_i fresh
      obtain rfl := Except.ok.inj added
      exact .first wanted keyed fresh
    · rename_i position found
      have within := state.placed wanted position found
      have there : state.items[position]? = some (state.items.get ⟨position, within⟩) :=
        List.getElem?_eq_getElem within
      cases made : merge (state.items.get ⟨position, within⟩) item with
      | error error =>
        rw [made] at added
        cases added
      | ok result =>
        rw [made] at added
        obtain rfl := Except.ok.inj added
        exact .merged wanted keyed position found _ there result made

structure Keeps (key : α → Option κ) (fit : α → Prop) (covers : α → α → Prop) (prior item merged : α) : Prop where
  sameKey : key merged = key prior
  fits : fit merged
  second : covers merged item
  first : ∀ other, covers prior other → covers merged other

structure Laws (key : α → Option κ) (merge : α → α → Except ε α) (fit : α → Prop) (covers : α → α → Prop) : Prop where
  own : ∀ item, fit item → covers item item
  keeps : ∀ prior item merged wanted, fit prior → fit item → key prior = some wanted → key item = some wanted →
    merge prior item = .ok merged → Keeps key fit covers prior item merged

variable {fit : α → Prop} {covers : α → α → Prop}

structure Coalesced (key : α → Option κ) (fit : α → Prop) (covers : α → α → Prop) (seen : List α)
    (state : Indexed α κ) : Prop where
  places : Places key state.items state.index
  fit : ∀ item ∈ state.items, fit item
  covered : ∀ item ∈ seen, ∃ other ∈ state.items, covers other item

theorem Coalesced.add (laws : Laws key merge fit covers) {seen : List α} {state after : Indexed α κ} {item : α}
    (before : Coalesced key fit covers seen state) (fits : fit item) (added : Added key merge state item after) :
    Coalesced key fit covers (seen ++ [item]) after := by
  have own := laws.own item fits
  cases added with
  | alone keyless =>
    refine ⟨places_append before.places keyless, ?_, ?_⟩
    · intro other member
      rcases List.mem_append.mp member with old | new
      · exact before.fit other old
      · rwa [List.mem_singleton.mp new]
    · intro other member
      rcases List.mem_append.mp member with old | new
      · obtain ⟨holder, inside, covered⟩ := before.covered other old
        exact ⟨holder, List.mem_append_left _ inside, covered⟩
      · rw [List.mem_singleton.mp new]
        exact ⟨item, List.mem_append_right _ (List.mem_singleton_self item), own⟩
  | first wanted keyed fresh =>
    refine ⟨places_appendAt before.places keyed fresh, ?_, ?_⟩
    · intro other member
      rcases List.mem_append.mp member with old | new
      · exact before.fit other old
      · rwa [List.mem_singleton.mp new]
    · intro other member
      rcases List.mem_append.mp member with old | new
      · obtain ⟨holder, inside, covered⟩ := before.covered other old
        exact ⟨holder, List.mem_append_left _ inside, covered⟩
      · rw [List.mem_singleton.mp new]
        exact ⟨item, List.mem_append_right _ (List.mem_singleton_self item), own⟩
  | merged wanted keyed position found prior there result made =>
    obtain ⟨within, at_⟩ := List.getElem?_eq_some_iff.mp there
    have priorFits : fit prior := before.fit prior (List.mem_of_getElem? there)
    have priorKey : key prior = some wanted := by
      have placed := (before.places wanted position).mp found
      rwa [there, Option.bind_some] at placed
    have keeps := laws.keeps prior item result wanted priorFits fits priorKey keyed made
    have resultIn : result ∈ state.items.set position result := List.mem_set within result
    refine ⟨places_replace before.places there keeps.sameKey, ?_, ?_⟩
    · intro other member
      rcases List.mem_or_eq_of_mem_set member with old | rfl
      · exact before.fit other old
      · exact keeps.fits
    · intro other member
      rcases List.mem_append.mp member with old | new
      · obtain ⟨holder, inside, covered⟩ := before.covered other old
        obtain ⟨place, here⟩ := List.getElem?_of_mem inside
        by_cases moved : place = position
        · subst moved
          obtain rfl := Option.some.inj (there.symm.trans here)
          exact ⟨result, resultIn, keeps.first other covered⟩
        · have kept : (state.items.set position result)[place]? = some holder := by
            rw [List.getElem?_set_ne (Ne.symm moved), here]
          exact ⟨holder, List.mem_of_getElem? kept, covered⟩
      · rw [List.mem_singleton.mp new]
        exact ⟨result, resultIn, keeps.second⟩

theorem coalesced_foldlM (laws : Laws key merge fit covers) (items : List α) (fits : ∀ item ∈ items, fit item)
    {seen : List α} {state after : Indexed α κ} (before : Coalesced key fit covers seen state)
    (ran : items.foldlM (Indexed.add key merge) state = .ok after) :
    Coalesced key fit covers (seen ++ items) after := by
  induction items generalizing seen state with
  | nil =>
    obtain rfl := Except.ok.inj ran
    rwa [List.append_nil]
  | cons item rest ih =>
    rw [List.foldlM_cons] at ran
    cases added : state.add key merge item with
    | error error =>
      rw [added] at ran
      cases ran
    | ok middle =>
      rw [added] at ran
      have next := before.add laws (fits item List.mem_cons_self) (added_of_add added)
      have rest := ih (fun other inside => fits other (List.mem_cons_of_mem _ inside)) next ran
      rwa [List.append_assoc] at rest

theorem coalesced (laws : Laws key merge fit covers) {items : List α} (fits : ∀ item ∈ items, fit item)
    {result : Indexed α κ} (ran : coalesce key merge items = .ok result) :
    Coalesced key fit covers items result := by
  have start : Coalesced key fit covers [] ({} : Indexed α κ) := by
    constructor
    · exact places_nil
    · intro item member
      cases member
    · intro item member
      cases member
  exact coalesced_foldlM laws items fits start ran

end Coalesce
