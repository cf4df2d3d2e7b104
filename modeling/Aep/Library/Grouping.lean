import Aep.Library.Dict
import Mathlib.Data.List.Induction
import Mathlib.Order.Defs.LinearOrder
import Mathlib.Order.Lattice

namespace Dict

variable {κ α : Type} [DecidableEq κ]

/-- The items under their keys. Keys and items keep the order in which they come. -/
def grouped (key : α → κ) (items : List α) : Dict κ (List α) :=
  items.foldl (fun groups item => groups.set (key item) ((groups.get? (key item)).getD [] ++ [item])) []

theorem grouped_concat (key : α → κ) (items : List α) (item : α) :
    grouped key (items ++ [item]) =
      (grouped key items).set (key item) (((grouped key items).get? (key item)).getD [] ++ [item]) := by
  unfold grouped
  rw [List.foldl_append]
  rfl

theorem getD_grouped (key : α → κ) (items : List α) (wanted : κ) :
    ((grouped key items).get? wanted).getD [] = items.filter fun item => key item = wanted := by
  induction items using List.reverseRecOn with
  | nil => rfl
  | append_singleton items item ih =>
    rw [grouped_concat, List.filter_append]
    by_cases same : key item = wanted
    · subst same
      rw [get?_set_self, Option.getD_some, ih]
      simp
    · rw [get?_set_ne _ _ same, ih]
      simp [same]

theorem mem_keys_grouped {key : α → κ} {items : List α} {wanted : κ} :
    wanted ∈ (grouped key items).keys ↔ ∃ item ∈ items, key item = wanted := by
  induction items using List.reverseRecOn with
  | nil => simp [grouped, keys]
  | append_singleton items item ih =>
    have last : (∃ found ∈ items ++ [item], key found = wanted) ↔ (∃ found ∈ items, key found = wanted) ∨ key item = wanted := by
      simp [or_and_right, exists_or]
    rw [grouped_concat, keys_set, last, ← ih]
    by_cases present : key item ∈ (grouped key items).keys
    · rw [if_pos present]
      constructor
      · exact Or.inl
      · rintro (before | rfl)
        · exact before
        · exact present
    · rw [if_neg present, List.mem_append, List.mem_singleton]
      exact or_congr Iff.rfl eq_comm

theorem nodup_keys_grouped (key : α → κ) (items : List α) : (grouped key items).keys.Nodup := by
  induction items using List.reverseRecOn with
  | nil => exact List.nodup_nil
  | append_singleton items item ih =>
    rw [grouped_concat]
    exact nodup_keys_set ih _ _

theorem group_of_mem {key : α → κ} {items : List α} {wanted : κ} {group : List α}
    (member : (wanted, group) ∈ grouped key items) : group = items.filter fun item => key item = wanted := by
  rw [← getD_grouped, get?_of_mem (nodup_keys_grouped key items) member, Option.getD_some]

theorem mem_grouped {key : α → κ} {items : List α} {wanted : κ} (present : wanted ∈ (grouped key items).keys) :
    (wanted, items.filter fun item => key item = wanted) ∈ grouped key items := by
  obtain ⟨entry, member, rfl⟩ := List.mem_map.mp present
  rw [← group_of_mem member]
  exact member

end Dict

namespace Latest

variable {α κ ρ : Type} [DecidableEq κ] [LinearOrder ρ] (key : α → κ) (rank : α → ρ)

def note (latest : Dict κ α) (item : α) : Dict κ α :=
  match latest.get? (key item) with
  | none => latest.set (key item) item
  | some previous => if rank previous < rank item then latest.set (key item) item else latest

def pass (items : List α) : Dict κ α := items.foldl (note key rank) []

structure IsLatest (items : List α) (best : α) : Prop where
  listed : best ∈ items
  highest : ∀ other ∈ items, key other = key best → rank other ≤ rank best

structure Kept (items : List α) (latest : Dict κ α) : Prop where
  distinct : latest.keys.Nodup
  isLatest : ∀ name best, latest.get? name = some best → key best = name ∧ IsLatest key rank items best
  complete : ∀ item ∈ items, latest.get? (key item) ≠ none

variable {key rank} {items : List α} {latest : Dict κ α} {item : α}

theorem Kept.set (kept : Kept key rank items latest)
    (outranks : ∀ previous, latest.get? (key item) = some previous → rank previous ≤ rank item) :
    Kept key rank (items ++ [item]) (latest.set (key item) item) where
  distinct := Dict.nodup_keys_set kept.distinct _ _
  isLatest name best found := by
    by_cases same : key item = name
    · rw [← same, Dict.get?_set_self, Option.some.injEq] at found
      subst found
      refine ⟨same, by simp, fun other member sameKey => ?_⟩
      rcases List.mem_append.mp member with old | new
      · have present := kept.complete other old
        rw [sameKey] at present
        obtain ⟨previous, there⟩ := Option.ne_none_iff_exists'.mp present
        obtain ⟨named, -, highest⟩ := kept.isLatest _ _ there
        exact le_trans (highest other old (sameKey.trans named.symm)) (outranks previous there)
      · rw [List.mem_singleton.mp new]
    · rw [Dict.get?_set_ne _ _ same] at found
      obtain ⟨named, listed, highest⟩ := kept.isLatest name best found
      refine ⟨named, List.mem_append_left _ listed, fun other member sameKey => ?_⟩
      rcases List.mem_append.mp member with old | new
      · exact highest other old sameKey
      · rw [List.mem_singleton.mp new] at sameKey
        exact absurd (sameKey.trans named) same
  complete other member := by
    by_cases same : key item = key other
    · rw [← same, Dict.get?_set_self]
      exact Option.some_ne_none _
    · rw [Dict.get?_set_ne _ _ same]
      rcases List.mem_append.mp member with old | new
      · exact kept.complete other old
      · rw [List.mem_singleton.mp new] at same
        exact absurd rfl same

theorem Kept.note (kept : Kept key rank items latest) (item : α) :
    Kept key rank (items ++ [item]) (note key rank latest item) := by
  unfold Latest.note
  cases found : latest.get? (key item) with
  | none => exact kept.set fun previous there => by simp [found] at there
  | some previous =>
    by_cases outranked : rank previous < rank item
    · simp only [outranked, ↓reduceIte]
      refine kept.set fun other there => ?_
      obtain rfl := Option.some.inj (found.symm.trans there)
      exact le_of_lt outranked
    · simp only [outranked, ↓reduceIte]
      refine ⟨kept.distinct, fun name best there => ?_, fun other member => ?_⟩
      · obtain ⟨named, listed, highest⟩ := kept.isLatest name best there
        refine ⟨named, List.mem_append_left _ listed, fun other member sameKey => ?_⟩
        rcases List.mem_append.mp member with old | new
        · exact highest other old sameKey
        · rw [List.mem_singleton.mp new] at sameKey ⊢
          rw [sameKey.trans named, there, Option.some.injEq] at found
          subst found
          exact not_lt.mp outranked
      · rcases List.mem_append.mp member with old | new
        · exact kept.complete other old
        · rw [List.mem_singleton.mp new, found]
          exact Option.some_ne_none _

theorem kept_foldl (rest : List α) (kept : Kept key rank items latest) :
    Kept key rank (items ++ rest) (rest.foldl (Latest.note key rank) latest) := by
  induction rest generalizing items latest with
  | nil => rwa [List.append_nil]
  | cons item rest ih =>
    have next := ih (kept.note item)
    rwa [List.append_assoc] at next

theorem kept_nil (key : α → κ) (rank : α → ρ) : Kept key rank [] [] where
  distinct := List.nodup_nil
  isLatest _ _ found := by cases found
  complete _ member := by cases member

theorem kept_pass (key : α → κ) (rank : α → ρ) (items : List α) : Kept key rank items (pass key rank items) :=
  kept_foldl items (kept_nil key rank)

theorem mem_pass_iff (distinct : ∀ first ∈ items, ∀ second ∈ items, key first = key second →
      rank first = rank second → first = second) {best : α} :
    best ∈ (pass key rank items).map Prod.snd ↔ IsLatest key rank items best := by
  have kept := kept_pass key rank items
  constructor
  · intro member
    obtain ⟨⟨name, value⟩, entry, rfl⟩ := List.mem_map.mp member
    exact (kept.isLatest name value (Dict.get?_of_mem kept.distinct entry)).2
  · intro isLatest
    obtain ⟨other, found⟩ := Option.ne_none_iff_exists'.mp (kept.complete best isLatest.listed)
    obtain ⟨named, listed, highest⟩ := kept.isLatest _ _ found
    have same := distinct best isLatest.listed other listed named.symm
      (le_antisymm (highest best isLatest.listed named.symm) (isLatest.highest other listed named))
    rw [same]
    exact List.mem_map_of_mem (Dict.get?_mem found)

end Latest
