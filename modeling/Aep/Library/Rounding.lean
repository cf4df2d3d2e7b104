import Mathlib.Data.Nat.Log
import Mathlib.Algebra.Group.Nat.Defs

namespace Rounding

def shift (n : ℕ) : ℕ := Nat.log 2 n - 52

def roundsUp (n : ℕ) : Prop :=
  2 ^ shift n < 2 * (n % 2 ^ shift n) ∨ (2 * (n % 2 ^ shift n) = 2 ^ shift n ∧ n / 2 ^ shift n % 2 = 1)

instance (n : ℕ) : Decidable (roundsUp n) := by unfold roundsUp; infer_instance

/-- The double nearest to a natural number, of two the one with the even significand. -/
def toDouble (n : ℕ) : ℕ :=
  if roundsUp n then (n / 2 ^ shift n + 1) * 2 ^ shift n else n / 2 ^ shift n * 2 ^ shift n

theorem shift_mono {m n : ℕ} (le : m ≤ n) : shift m ≤ shift n :=
  Nat.sub_le_sub_right (Nat.log_mono_right le) 52

theorem toDouble_of_lt {n : ℕ} (small : n < 2 ^ 53) : toDouble n = n := by
  have flat : shift n = 0 := by
    have bits : Nat.log 2 n < 53 := Nat.log_lt_of_lt_pow' (by decide) small
    unfold shift
    omega
  simp [toDouble, roundsUp, flat, Nat.mod_one]

theorem le_toDouble (n : ℕ) : n / 2 ^ shift n * 2 ^ shift n ≤ toDouble n := by
  unfold toDouble
  split
  · exact Nat.mul_le_mul_right _ (Nat.le_succ _)
  · exact le_rfl

theorem toDouble_le (n : ℕ) : toDouble n ≤ (n / 2 ^ shift n + 1) * 2 ^ shift n := by
  unfold toDouble
  split
  · exact le_rfl
  · exact Nat.mul_le_mul_right _ (Nat.le_succ _)

theorem toDouble_le_of_shift_eq {m n : ℕ} (le : m ≤ n) (same : shift m = shift n) : toDouble m ≤ toDouble n := by
  have quotient : m / 2 ^ shift n ≤ n / 2 ^ shift n := Nat.div_le_div_right le
  rcases Nat.lt_or_eq_of_le quotient with less | equal
  · calc toDouble m ≤ (m / 2 ^ shift m + 1) * 2 ^ shift m := toDouble_le m
      _ ≤ n / 2 ^ shift n * 2 ^ shift n := by
        rw [same]
        exact Nat.mul_le_mul_right _ less
      _ ≤ toDouble n := le_toDouble n
  · have rest : m % 2 ^ shift n ≤ n % 2 ^ shift n := by
      have left := Nat.div_add_mod m (2 ^ shift n)
      have right := Nat.div_add_mod n (2 ^ shift n)
      rw [equal] at left
      omega
    have up : roundsUp m → roundsUp n := by
      unfold roundsUp
      rw [same, equal]
      rintro (above | ⟨tie, odd⟩)
      · exact .inl (lt_of_lt_of_le above (Nat.mul_le_mul_left 2 rest))
      · rcases Nat.lt_or_eq_of_le rest with less | sameRest
        · exact .inl (by omega)
        · exact .inr ⟨by omega, odd⟩
    unfold toDouble
    rw [same, equal]
    by_cases upM : roundsUp m
    · simp [upM, up upM]
    · simp only [upM, ↓reduceIte]
      split
      · exact Nat.mul_le_mul_right _ (Nat.le_succ _)
      · exact le_rfl

theorem log_eq_of_shift_pos {n : ℕ} (positive : 0 < shift n) : Nat.log 2 n = shift n + 52 := by
  unfold shift at positive ⊢
  omega

theorem pos_of_shift_pos {n : ℕ} (positive : 0 < shift n) : n ≠ 0 := by
  rintro rfl
  simp [shift] at positive

theorem toDouble_le_pow {n : ℕ} : toDouble n ≤ 2 ^ (shift n + 53) := by
  have bound : n < 2 ^ (shift n + 53) := by
    have bits : n < 2 ^ (Nat.log 2 n + 1) := Nat.lt_pow_succ_log_self (by decide) n
    refine lt_of_lt_of_le bits (Nat.pow_le_pow_right (by decide) ?_)
    unfold shift
    omega
  have split : 2 ^ (shift n + 53) = 2 ^ 53 * 2 ^ shift n := by rw [Nat.pow_add, Nat.mul_comm]
  have quotient : n / 2 ^ shift n < 2 ^ 53 := by
    rw [Nat.div_lt_iff_lt_mul (Nat.two_pow_pos _), ← split]
    exact bound
  calc toDouble n ≤ (n / 2 ^ shift n + 1) * 2 ^ shift n := toDouble_le n
    _ ≤ 2 ^ 53 * 2 ^ shift n := Nat.mul_le_mul_right _ quotient
    _ = 2 ^ (shift n + 53) := split.symm

theorem pow_le_toDouble {n : ℕ} (positive : 0 < shift n) : 2 ^ (shift n + 52) ≤ toDouble n := by
  have bits : 2 ^ (shift n + 52) ≤ n := by
    rw [← log_eq_of_shift_pos positive]
    exact Nat.pow_log_le_self 2 (pos_of_shift_pos positive)
  have split : 2 ^ (shift n + 52) = 2 ^ 52 * 2 ^ shift n := by rw [Nat.pow_add, Nat.mul_comm]
  have quotient : 2 ^ 52 ≤ n / 2 ^ shift n := by
    rw [Nat.le_div_iff_mul_le (Nat.two_pow_pos _), ← split]
    exact bits
  calc 2 ^ (shift n + 52) = 2 ^ 52 * 2 ^ shift n := split
    _ ≤ n / 2 ^ shift n * 2 ^ shift n := Nat.mul_le_mul_right _ quotient
    _ ≤ toDouble n := le_toDouble n

theorem toDouble_mono {m n : ℕ} (le : m ≤ n) : toDouble m ≤ toDouble n := by
  rcases Nat.lt_or_eq_of_le (shift_mono le) with less | same
  · calc toDouble m ≤ 2 ^ (shift m + 53) := toDouble_le_pow
      _ ≤ 2 ^ (shift n + 52) := Nat.pow_le_pow_right (by decide) (by omega)
      _ ≤ toDouble n := pow_le_toDouble (by omega)
  · exact toDouble_le_of_shift_eq le same

end Rounding
