import Mathlib.Data.List.Basic
import Mathlib.Algebra.BigOperators.Group.List.Basic
import Mathlib.Algebra.Ring.Int.Defs

namespace Splice

variable {α : Type}

/-- `source[start:stop]`. -/
def slice (source : List α) (start stop : Nat) : List α := (source.drop start).take (stop - start)

theorem take_append_slice (source : List α) {start stop : Nat} (forward : start ≤ stop) :
    source.take start ++ slice source start stop = source.take stop := by
  have split : stop = start + (stop - start) := by omega
  rw [slice, ← List.take_add, ← split]

theorem slice_append_slice (source : List α) {start middle stop : Nat} (first : start ≤ middle) (second : middle ≤ stop) :
    slice source start middle ++ slice source middle stop = slice source start stop := by
  have total : stop - start = (middle - start) + (stop - middle) := by omega
  have offset : start + (middle - start) = middle := by omega
  rw [slice, slice, slice, total, List.take_add, List.drop_drop, offset]

theorem length_slice (source : List α) {start stop : Nat} (bounded : stop ≤ source.length) :
    (slice source start stop).length = stop - start := by
  simp only [slice, List.length_take, List.length_drop]
  omega

theorem slice_to_end (source : List α) (start : Nat) : slice source start source.length = source.drop start := by
  apply List.take_of_length_le
  simp

structure Edit (α : Type) where
  start : Nat
  stop : Nat
  content : List α
  deriving DecidableEq

namespace Edit

def growth (edit : Edit α) : Int := edit.content.length - (edit.stop - edit.start)

def apply (edit : Edit α) (source : List α) : List α :=
  source.take edit.start ++ edit.content ++ source.drop edit.stop

end Edit

def growth (edits : List (Edit α)) : Int := (edits.map Edit.growth).sum

/-- The text with every span replaced. The last span goes first, so that no replacement moves a span
    that is still to come. -/
def applyAll (source : List α) (edits : List (Edit α)) : List α := edits.foldr Edit.apply source

def Ordered (high : Nat) : Nat → List (Edit α) → Prop
  | low, [] => low ≤ high
  | low, edit :: rest => low ≤ edit.start ∧ edit.start ≤ edit.stop ∧ Ordered high edit.stop rest

theorem Ordered.le {low high : Nat} {edits : List (Edit α)} (ordered : Ordered high low edits) : low ≤ high := by
  induction edits generalizing low with
  | nil => exact ordered
  | cons edit rest ih =>
    obtain ⟨after, forward, others⟩ := ordered
    have := ih others
    omega

theorem ordered_of_pairwise {low high : Nat} {edits : List (Edit α)} (bounded : low ≤ high)
    (within : ∀ edit ∈ edits, low ≤ edit.start ∧ edit.start ≤ edit.stop ∧ edit.stop ≤ high)
    (apart : edits.Pairwise fun earlier later => earlier.stop ≤ later.start) : Ordered high low edits := by
  induction edits generalizing low with
  | nil => exact bounded
  | cons edit rest ih =>
    have first := within edit List.mem_cons_self
    have later := List.pairwise_cons.mp apart
    have others : Ordered high edit.stop rest := by
      apply ih first.2.2 _ later.2
      intro other member
      exact ⟨later.1 other member, (within other (List.mem_cons_of_mem edit member)).2⟩
    exact ⟨first.1, first.2.1, others⟩

/-- `source[cursor:high]` with every span replaced, written from left to right. -/
def assemble (source : List α) (high : Nat) : Nat → List (Edit α) → List α
  | cursor, [] => slice source cursor high
  | cursor, edit :: rest => slice source cursor edit.start ++ edit.content ++ assemble source high edit.stop rest

def gaps (source : List α) (high : Nat) : Nat → List (Edit α) → List (List α)
  | cursor, [] => [slice source cursor high]
  | cursor, edit :: rest => slice source cursor edit.start :: gaps source high edit.stop rest

def weave {β : Type} : (kept inserted : List (List β)) → List β
  | piece :: others, block :: blocks => piece ++ block ++ weave others blocks
  | kept, _ => kept.flatten

theorem flatten_sublist_weave {β : Type} (kept inserted : List (List β)) :
    kept.flatten.Sublist (weave kept inserted) := by
  induction kept generalizing inserted with
  | nil => simp
  | cons piece others ih =>
    cases inserted with
    | nil => exact List.Sublist.refl _
    | cons block blocks =>
      rw [List.flatten_cons, weave, List.append_assoc]
      apply List.Sublist.append (List.Sublist.refl piece)
      exact (ih blocks).trans (List.sublist_append_right block _)

theorem applyAll_eq (source : List α) {low high : Nat} {edits : List (Edit α)} (ordered : Ordered high low edits)
    (bounded : high ≤ source.length) :
    applyAll source edits = source.take low ++ assemble source high low edits ++ source.drop high := by
  induction edits generalizing low with
  | nil =>
    simp only [applyAll, List.foldr_nil, assemble, take_append_slice source ordered, List.take_append_drop]
  | cons edit rest ih =>
    obtain ⟨after, forward, others⟩ := ordered
    have stop_le : edit.stop ≤ source.length := Nat.le_trans others.le bounded
    have tail := ih others
    have before : (applyAll source rest).take edit.start = source.take edit.start := by
      rw [tail, List.append_assoc, List.take_append_of_le_length (by simp; omega), List.take_take]
      congr 1
      omega
    have behind : (applyAll source rest).drop edit.stop
        = assemble source high edit.stop rest ++ source.drop high := by
      rw [tail, List.append_assoc, List.drop_append_of_le_length (by simp; omega)]
      simp [List.drop_take]
    calc applyAll source (edit :: rest)
        = (applyAll source rest).take edit.start ++ edit.content ++ (applyAll source rest).drop edit.stop := rfl
      _ = source.take low ++ slice source low edit.start ++ edit.content
            ++ (assemble source high edit.stop rest ++ source.drop high) := by
          rw [before, behind, take_append_slice source after]
      _ = source.take low ++ assemble source high low (edit :: rest) ++ source.drop high := by
          simp only [assemble, List.append_assoc]

theorem length_assemble (source : List α) {low high : Nat} {edits : List (Edit α)} (ordered : Ordered high low edits)
    (bounded : high ≤ source.length) :
    ((assemble source high low edits).length : Int) = high - low + growth edits := by
  induction edits generalizing low with
  | nil =>
    have forward : low ≤ high := ordered
    simp only [assemble, length_slice source bounded, growth, List.map_nil, List.sum_nil]
    omega
  | cons edit rest ih =>
    obtain ⟨after, forward, others⟩ := ordered
    have tail := ih others
    have start_le : edit.start ≤ source.length := Nat.le_trans forward (Nat.le_trans others.le bounded)
    have total : growth (edit :: rest) = edit.growth + growth rest := by simp [growth]
    simp only [assemble, List.length_append, length_slice source start_le, total, Edit.growth]
    omega

end Splice
