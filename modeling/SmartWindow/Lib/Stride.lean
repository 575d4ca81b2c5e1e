/-
Walking a distance in equal strides: the stride that covers it has the
number of the quotient rounded up, and overshoots by less than one stride.
-/
import Mathlib.Data.Rat.Floor

namespace Stride

variable {d s n : Int}

theorem ceil_div_le_iff (hs : 0 < s) : ⌈(d : ℚ) / s⌉ ≤ n ↔ d ≤ n * s := by
  have hs' : (0 : ℚ) < s := by exact_mod_cast hs
  rw [Int.ceil_le, div_le_iff₀ hs']
  exact_mod_cast Iff.rfl

theorem ceil_div_pos (hs : 0 < s) (hd : 0 < d) : 0 < ⌈(d : ℚ) / s⌉ := by
  by_contra hle
  have h := (ceil_div_le_iff hs).1 (not_lt.1 hle)
  omega

theorem le_ceil_div_mul (hs : 0 < s) (d : Int) : d ≤ ⌈(d : ℚ) / s⌉ * s := (ceil_div_le_iff hs).1 le_rfl

theorem ceil_div_mul_lt (hs : 0 < s) (d : Int) : ⌈(d : ℚ) / s⌉ * s < d + s := by
  have hless : ¬ ⌈(d : ℚ) / s⌉ ≤ ⌈(d : ℚ) / s⌉ - 1 := by omega
  rw [ceil_div_le_iff hs, sub_mul, one_mul] at hless
  omega

end Stride
