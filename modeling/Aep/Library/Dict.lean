import Mathlib.Data.List.Basic

/-- An insertion-ordered dictionary. The first entry of a key is the one that counts. -/
abbrev Dict (κ ν : Type) := List (κ × ν)

namespace Dict

variable {κ ν : Type} [DecidableEq κ]

def get? : Dict κ ν → κ → Option ν
  | [], _ => none
  | (key, value) :: rest, wanted => if key = wanted then some value else get? rest wanted

def keys (entries : Dict κ ν) : List κ := entries.map Prod.fst

def set : Dict κ ν → κ → ν → Dict κ ν
  | [], wanted, value => [(wanted, value)]
  | (key, old) :: rest, wanted, value =>
    if key = wanted then (key, value) :: rest else (key, old) :: set rest wanted value

def erase : Dict κ ν → κ → Dict κ ν
  | [], _ => []
  | (key, value) :: rest, wanted =>
    if key = wanted then erase rest wanted else (key, value) :: erase rest wanted

def update (entries : Dict κ ν) : Dict κ ν → Dict κ ν
  | [] => entries
  | (key, value) :: rest => (update entries rest).set key value

def setDefault (entries : Dict κ ν) (key : κ) (value : ν) : Dict κ ν :=
  match entries.get? key with
  | some _ => entries
  | none => entries.set key value

@[simp] theorem get?_nil (wanted : κ) : get? ([] : Dict κ ν) wanted = none := rfl

theorem get?_cons (key wanted : κ) (value : ν) (rest : Dict κ ν) :
    get? ((key, value) :: rest) wanted = if key = wanted then some value else get? rest wanted := rfl

@[simp] theorem get?_set_self (entries : Dict κ ν) (key : κ) (value : ν) :
    (entries.set key value).get? key = some value := by
  induction entries with
  | nil => simp [set, get?]
  | cons head rest ih =>
    by_cases same : head.1 = key
    · simp [set, get?, same]
    · simp [set, get?, same, ih]

theorem set_of_get? {entries : Dict κ ν} {key : κ} {value : ν} (found : entries.get? key = some value) :
    entries.set key value = entries := by
  induction entries with
  | nil => cases found
  | cons entry rest ih =>
    obtain ⟨other, old⟩ := entry
    by_cases same : other = key
    · simp only [get?, same, ↓reduceIte, Option.some.injEq] at found
      simp [set, same, found]
    · simp only [get?, same, ↓reduceIte] at found
      simp [set, same, ih found]

theorem get?_set_ne (entries : Dict κ ν) {key wanted : κ} (value : ν) (different : key ≠ wanted) :
    (entries.set key value).get? wanted = entries.get? wanted := by
  induction entries with
  | nil => simp [set, get?, different]
  | cons head rest ih =>
    by_cases same : head.1 = key
    · simp [set, get?, same, different]
    · simp only [set, same, ↓reduceIte, get?, ih]

theorem get?_set (entries : Dict κ ν) (key wanted : κ) (value : ν) :
    (entries.set key value).get? wanted = if key = wanted then some value else entries.get? wanted := by
  by_cases same : key = wanted
  · subst same; simp
  · simp [same, get?_set_ne entries value same]

@[simp] theorem get?_erase_self (entries : Dict κ ν) (key : κ) : (entries.erase key).get? key = none := by
  induction entries with
  | nil => rfl
  | cons head rest ih =>
    by_cases same : head.1 = key
    · simp [erase, same, ih]
    · simp [erase, get?, same, ih]

theorem get?_erase_ne (entries : Dict κ ν) {key wanted : κ} (different : key ≠ wanted) :
    (entries.erase key).get? wanted = entries.get? wanted := by
  induction entries with
  | nil => rfl
  | cons head rest ih =>
    by_cases same : head.1 = key
    · simp only [erase, same, ↓reduceIte, get?, different, ih]
    · simp only [erase, same, ↓reduceIte, get?, ih]

theorem get?_erase (entries : Dict κ ν) (key wanted : κ) :
    (entries.erase key).get? wanted = if key = wanted then none else entries.get? wanted := by
  by_cases same : key = wanted
  · subst same; simp
  · simp [same, get?_erase_ne entries same]

theorem get?_update (entries changes : Dict κ ν) (wanted : κ) :
    (entries.update changes).get? wanted = (changes.get? wanted).or (entries.get? wanted) := by
  induction changes with
  | nil => simp [update, get?]
  | cons head rest ih =>
    by_cases same : head.1 = wanted
    · simp [update, get?, same]
    · simp [update, get?, get?_set, same, ih]

theorem get?_setDefault (entries : Dict κ ν) (key wanted : κ) (value : ν) :
    (entries.setDefault key value).get? wanted =
      if key = wanted then some ((entries.get? key).getD value) else entries.get? wanted := by
  cases found : entries.get? key with
  | none => simp [setDefault, found, get?_set]
  | some old =>
    by_cases same : key = wanted
    · subst same; simp [setDefault, found]
    · simp [setDefault, found, same]

theorem get?_append (first second : Dict κ ν) (wanted : κ) :
    get? (first ++ second) wanted = (first.get? wanted).or (second.get? wanted) := by
  induction first with
  | nil => rfl
  | cons entry rest ih =>
    rw [List.cons_append, get?_cons, get?_cons, ih]
    split <;> rfl

theorem get?_toList_map {α : Type} (value : Option α) (key wanted : κ) (convert : α → ν) :
    get? (value.map fun item => (key, convert item)).toList wanted =
      if key = wanted then value.map convert else none := by
  cases value <;> simp [get?]

theorem get?_toList (value : Option ν) (key wanted : κ) :
    get? (value.map (Prod.mk key)).toList wanted = if key = wanted then value else none := by
  cases value <;> simp [get?]

theorem get?_eq_some_mem {entries : Dict κ ν} {key : κ} {value : ν}
    (found : entries.get? key = some value) : (key, value) ∈ entries := by
  induction entries with
  | nil => cases found
  | cons head rest ih =>
    by_cases same : head.1 = key
    · simp only [get?, same, ↓reduceIte, Option.some.injEq] at found
      exact List.mem_cons.mpr (.inl (Prod.ext same.symm found.symm))
    · simp only [get?, same, ↓reduceIte] at found
      exact List.mem_cons_of_mem _ (ih found)

theorem get?_eq_none {entries : Dict κ ν} {key : κ} : entries.get? key = none ↔ key ∉ entries.keys := by
  induction entries with
  | nil => simp [get?, keys]
  | cons head rest ih =>
    by_cases same : head.1 = key
    · simp [get?, keys, same]
    · simp only [get?, same, ↓reduceIte, ih, keys, List.map_cons, List.mem_cons, not_or]
      exact ⟨fun absent => ⟨fun eq => same eq.symm, absent⟩, And.right⟩

theorem get?_of_mem {entries : Dict κ ν} (distinct : entries.keys.Nodup) {key : κ} {value : ν}
    (member : (key, value) ∈ entries) : entries.get? key = some value := by
  induction entries with
  | nil => cases member
  | cons head rest ih =>
    simp only [keys, List.map_cons, List.nodup_cons] at distinct
    rcases List.mem_cons.mp member with rfl | later
    · simp [get?]
    · have other : head.1 ≠ key := by
        intro same
        exact distinct.1 (same ▸ List.mem_map.mpr ⟨_, later, rfl⟩)
      simpa [get?, other] using ih distinct.2 later

theorem get?_mem {entries : Dict κ ν} {key : κ} {value : ν} (found : entries.get? key = some value) :
    (key, value) ∈ entries := by
  induction entries with
  | nil => cases found
  | cons head rest ih =>
    obtain ⟨other, old⟩ := head
    by_cases same : other = key
    · simp only [get?, same, ↓reduceIte, Option.some.injEq] at found
      simp [same, found]
    · simp only [get?, same, ↓reduceIte] at found
      exact List.mem_cons_of_mem _ (ih found)

theorem keys_set (entries : Dict κ ν) (key : κ) (value : ν) :
    (entries.set key value).keys = if key ∈ entries.keys then entries.keys else entries.keys ++ [key] := by
  induction entries with
  | nil => simp [set, keys]
  | cons head rest ih =>
    by_cases same : head.1 = key
    · simp [set, keys, same]
    · have other : key ≠ head.1 := fun eq => same eq.symm
      have step : keys (set (head :: rest) key value) = head.1 :: keys (set rest key value) := by
        simp [set, keys, same]
      have front : keys (head :: rest) = head.1 :: keys rest := rfl
      rw [step, ih, front]
      by_cases present : key ∈ keys rest
      · simp [present]
      · simp [present, other]

theorem nodup_keys_set {entries : Dict κ ν} (distinct : entries.keys.Nodup) (key : κ) (value : ν) :
    (entries.set key value).keys.Nodup := by
  rw [keys_set]
  split
  · exact distinct
  · rename_i fresh
    exact List.nodup_append.mpr ⟨distinct, by simp, by
      intro old member new single
      rw [List.mem_singleton.mp single]
      rintro rfl
      exact fresh member⟩

theorem mem_of_mem_set {entries : Dict κ ν} {key : κ} {value : ν} {entry : κ × ν}
    (inside : entry ∈ entries.set key value) : entry = (key, value) ∨ entry ∈ entries := by
  induction entries with
  | nil => exact .inl (List.mem_singleton.mp inside)
  | cons head rest ih =>
    obtain ⟨other, old⟩ := head
    unfold set at inside
    split at inside
    · rename_i same
      rcases List.mem_cons.mp inside with here | later
      · exact .inl (here.trans (by rw [same]))
      · exact .inr (List.mem_cons_of_mem _ later)
    · rcases List.mem_cons.mp inside with here | later
      · exact .inr (List.mem_cons.mpr (.inl here))
      · exact (ih later).imp_right (List.mem_cons_of_mem _)

theorem set_map {μ : Type} (entries : Dict κ ν) (encode : ν → μ) (key : κ) (value : ν) :
    set (entries.map fun entry => (entry.1, encode entry.2)) key (encode value) =
      (entries.set key value).map fun entry => (entry.1, encode entry.2) := by
  induction entries with
  | nil => rfl
  | cons head rest ih =>
    by_cases same : head.1 = key
    · simp [set, same]
    · simp [set, same, ih]

theorem set_of_absent {entries : Dict κ ν} {key : κ} (absent : entries.get? key = none) (value : ν) :
    entries.set key value = entries ++ [(key, value)] := by
  induction entries with
  | nil => rfl
  | cons head rest ih =>
    by_cases same : head.1 = key
    · simp [get?, same] at absent
    · simp only [get?, same, ↓reduceIte] at absent
      simp [set, same, ih absent]

theorem get?_map {μ : Type} (entries : Dict κ ν) (encode : ν → μ) (key : κ) :
    get? (entries.map fun (name, value) => (name, encode value)) key = (entries.get? key).map encode := by
  induction entries with
  | nil => rfl
  | cons head rest ih =>
    by_cases same : head.1 = key
    · simp [get?, same]
    · simp [get?, same, ih]

omit [DecidableEq κ] in
@[simp] theorem keys_map {μ : Type} (entries : Dict κ ν) (encode : ν → μ) :
    keys (entries.map fun (name, value) => (name, encode value)) = entries.keys := by
  simp [keys, Function.comp_def]

theorem keys_foldl_set (entries start : Dict κ ν) (distinct : start.keys.Nodup) :
    let assigned := entries.foldl (fun found entry => found.set entry.1 entry.2) start
    assigned.keys.Nodup ∧ ∀ key, key ∈ assigned.keys ↔ key ∈ start.keys ∨ key ∈ entries.keys := by
  induction entries generalizing start with
  | nil => simpa [keys] using distinct
  | cons head rest ih =>
    obtain ⟨unique, members⟩ := ih (start.set head.1 head.2) (nodup_keys_set distinct _ _)
    refine ⟨unique, fun key => (members key).trans ?_⟩
    have named : key ∈ keys (head :: rest) ↔ key = head.1 ∨ key ∈ keys rest := List.mem_cons
    rw [keys_set, named]
    by_cases present : head.1 ∈ start.keys
    · rw [if_pos present]
      constructor
      · rintro (before | later)
        · exact .inl before
        · exact .inr (.inr later)
      · rintro (before | rfl | later)
        · exact .inl before
        · exact .inl present
        · exact .inr later
    · rw [if_neg present, List.mem_append, List.mem_singleton, or_assoc]

theorem foldl_set_eq (entries start : Dict κ ν) (distinct : (start ++ entries).keys.Nodup) :
    entries.foldl (fun found entry => found.set entry.1 entry.2) start = start ++ entries := by
  induction entries generalizing start with
  | nil => simp
  | cons head rest ih =>
    have absent : start.get? head.1 = none := by
      rw [get?_eq_none]
      intro present
      rw [keys, List.map_append, List.nodup_append] at distinct
      exact distinct.2.2 _ present _ List.mem_cons_self rfl
    rw [List.foldl_cons, set_of_absent absent, ih]
    · simp
    · simpa using distinct

end Dict

/-! Entries that are assigned one after the other. -/
namespace Dict

variable {κ ν μ : Type} [DecidableEq κ]

def assigned (entries : List (κ × ν)) : Dict κ ν := entries.foldl (fun found entry => found.set entry.1 entry.2) []

theorem assigned_keys (entries : List (κ × ν)) : (assigned entries).keys.Nodup :=
  (keys_foldl_set entries [] List.nodup_nil).1

theorem assigned_of_nodup {entries : List (κ × ν)} (distinct : (keys entries).Nodup) : assigned entries = entries := by
  rw [assigned, foldl_set_eq entries [] (by simpa using distinct), List.nil_append]

theorem set_map_entry (compute : κ → ν → μ) (entries : Dict κ ν) (key : κ) (value : ν) :
    set (entries.map fun entry => (entry.1, compute entry.1 entry.2)) key (compute key value) =
      (entries.set key value).map fun entry => (entry.1, compute entry.1 entry.2) := by
  induction entries with
  | nil => rfl
  | cons entry rest ih =>
    obtain ⟨other, old⟩ := entry
    by_cases same : other = key
    · subst same
      simp [set]
    · simpa [set, same] using ih

theorem assigned_map (compute : κ → ν → μ) (entries : List (κ × ν)) :
    assigned (entries.map fun entry => (entry.1, compute entry.1 entry.2)) =
      (assigned entries).map fun entry => (entry.1, compute entry.1 entry.2) := by
  have fold (start : Dict κ ν) :
      (entries.map fun entry => (entry.1, compute entry.1 entry.2)).foldl
          (fun (found : Dict κ μ) entry => found.set entry.1 entry.2)
        (start.map fun entry => (entry.1, compute entry.1 entry.2)) =
      (entries.foldl (fun found entry => found.set entry.1 entry.2) start).map
        fun entry => (entry.1, compute entry.1 entry.2) := by
    induction entries generalizing start with
    | nil => rfl
    | cons entry rest ih => rw [List.map_cons, List.foldl_cons, set_map_entry, ih, List.foldl_cons]
  exact fold []

theorem get?_concat (front : List (κ × ν)) (entry : κ × ν) (key : κ) :
    get? (front ++ [entry]) key = (get? front key).or (if entry.1 = key then some entry.2 else none) :=
  get?_append front [entry] key

theorem get?_foldl_set (entries : List (κ × ν)) (start : Dict κ ν) (key : κ) :
    (entries.foldl (fun found entry => found.set entry.1 entry.2) start).get? key =
      (get? entries.reverse key).or (start.get? key) := by
  induction entries generalizing start with
  | nil => simp
  | cons entry rest ih =>
    rw [List.foldl_cons, ih, List.reverse_cons, get?_concat, Option.or_assoc, get?_set]
    by_cases same : entry.1 = key
    · simp [same]
    · simp [same]

/-- Something holds of every assigned entry: of those that no later entry replaces. -/
def EachLast (holds : κ → ν → Prop) : List (κ × ν) → Prop
  | [] => True
  | (key, value) :: rest => (key ∈ keys rest ∨ holds key value) ∧ EachLast holds rest

theorem mem_assigned {entries : List (κ × ν)} {entry : κ × ν} :
    entry ∈ assigned entries ↔ get? entries.reverse entry.1 = some entry.2 := by
  rw [← Option.or_none (o := get? entries.reverse entry.1), ← get?_nil entry.1, ← get?_foldl_set]
  exact ⟨get?_of_mem (assigned_keys entries), get?_mem⟩

theorem assigned_subset {entries : List (κ × ν)} {entry : κ × ν} (kept : entry ∈ assigned entries) : entry ∈ entries :=
  List.mem_reverse.mp (get?_mem (mem_assigned.mp kept))

theorem forall_assigned {holds : κ → ν → Prop} {entries : List (κ × ν)} :
    (∀ entry ∈ assigned entries, holds entry.1 entry.2) ↔ EachLast holds entries := by
  simp only [mem_assigned, Prod.forall]
  induction entries with
  | nil => simp [EachLast]
  | cons entry rest ih =>
    obtain ⟨key, value⟩ := entry
    have later {wanted : κ} : get? rest.reverse wanted = none ↔ wanted ∉ keys rest := by
      rw [get?_eq_none, keys, List.map_reverse, List.mem_reverse]
      rfl
    simp only [EachLast, ← ih, List.reverse_cons, get?_concat]
    constructor
    · intro all
      constructor
      · by_cases again : key ∈ keys rest
        · exact .inl again
        · exact .inr (all key value (by simp [later.mpr again]))
      · intro other old found
        exact all other old (by simp [found])
    · rintro ⟨first, others⟩ other old found
      cases last : get? rest.reverse other with
      | some kept =>
        rw [last, Option.some_or] at found
        exact others other old (last.trans found)
      | none =>
        rw [last, Option.none_or] at found
        split at found
        · rename_i same
          subst same
          cases found
          exact first.resolve_left (later.mp last)
        · cases found

end Dict
