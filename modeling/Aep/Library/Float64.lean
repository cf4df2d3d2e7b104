import Mathlib.Algebra.Order.Floor.Ring
import Mathlib.Data.Rat.Floor
import Mathlib.Data.Int.Log
import Mathlib.Tactic.Linarith

namespace Float64

/-- The nearest integer, of two the even one. A finite double is a rational number here. -/
def roundHalfEven (x : ℚ) : ℤ :=
  if x - ⌊x⌋ < 1 / 2 then ⌊x⌋
  else if 1 / 2 < x - ⌊x⌋ then ⌊x⌋ + 1
  else if ⌊x⌋ % 2 = 0 then ⌊x⌋ else ⌊x⌋ + 1

def exponent (x : ℚ) : ℤ := max (Int.log 2 |x| - 52) (-1074)

def nearest (x : ℚ) : ℚ := roundHalfEven (x / 2 ^ exponent x) * 2 ^ exponent x

def isFinite (x : ℚ) : Prop := |x| < 2 ^ 1024

instance (x : ℚ) : Decidable (isFinite x) := inferInstanceAs (Decidable (|x| < 2 ^ 1024))

def sub (x y : ℚ) : ℚ := nearest (x - y)

def add (x y : ℚ) : ℚ := nearest (x + y)

/-- The product with a factor, as the nearest integer. An infinite product has none. -/
def roundProduct (x factor : ℚ) : Option ℤ :=
  if isFinite (nearest (x * factor)) then some (roundHalfEven (nearest (x * factor))) else none

/-- The product with a factor, without its fraction. An infinite product has none. -/
def truncProduct (x factor : ℚ) : Option ℤ :=
  if isFinite (nearest (x * factor)) then some ((nearest (x * factor)).num.tdiv (nearest (x * factor)).den) else none

theorem roundHalfEven_nonpos {x : ℚ} (nonpos : x ≤ 0) : roundHalfEven x ≤ 0 := by
  have floor : ⌊x⌋ ≤ 0 := by
    have := Int.floor_mono nonpos
    simpa using this
  unfold roundHalfEven
  by_cases zero : ⌊x⌋ = 0
  · have same : x = 0 := le_antisymm nonpos (by
      have := Int.floor_le x
      rw [zero] at this
      simpa using this)
    simp [same]
  · split
    · exact floor
    · split
      · omega
      · split <;> omega

theorem nearest_nonpos {x : ℚ} (nonpos : x ≤ 0) : nearest x ≤ 0 := by
  have positive : (0 : ℚ) < 2 ^ exponent x := zpow_pos (by norm_num) _
  have scaled : roundHalfEven (x / 2 ^ exponent x) ≤ 0 :=
    roundHalfEven_nonpos (div_nonpos_of_nonpos_of_nonneg nonpos positive.le)
  unfold nearest
  exact mul_nonpos_of_nonpos_of_nonneg (by exact_mod_cast scaled) positive.le

theorem roundProduct_nonpos {x factor : ℚ} {rounded : ℤ} (nonpos : x ≤ 0) (nonneg : 0 ≤ factor)
    (found : roundProduct x factor = some rounded) : rounded ≤ 0 := by
  unfold roundProduct at found
  split at found
  · cases found
    exact roundHalfEven_nonpos (nearest_nonpos (mul_nonpos_of_nonpos_of_nonneg nonpos nonneg))
  · cases found

end Float64
