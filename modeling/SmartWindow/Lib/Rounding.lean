/-
Arithmetic with a binary significand of `p` bits. Of a rounding only this is
assumed, on the normal numbers of the format: it leaves a number alone that
has such a significand, and changes any other by less than two of its last
bits, which every direction of rounding keeps to. The integer part of a
quotient survives any such rounding while the quotient is not too large
(`trunc_eq_tdiv`): one that is no integer is too far from the next.
-/
import Mathlib.Algebra.Order.Field.Power
import Mathlib.Tactic.Linarith
import Mathlib.Tactic.FieldSimp
import Mathlib.Tactic.NormNum
import SmartWindow.Lib.Truncation

namespace Rounding

open Truncation

/-- A binary format: the bits of its significand, and the exponents of its normal numbers. -/
structure Format where
  p : Nat
  emin : Nat
  emax : Nat

/-- Zero, or a normal number of the format. -/
def Format.Normal (f : Format) (x : ℚ) : Prop := x = 0 ∨ (1 / 2 ^ f.emin ≤ |x| ∧ |x| < 2 ^ f.emax)

/-- A number with a significand of `p` bits. -/
def Representable (p : Nat) (x : ℚ) : Prop := ∃ m e : Int, |m| < 2 ^ p ∧ x = m * 2 ^ e

structure Rounds (f : Format) (fl : ℚ → ℚ) : Prop where
  exact : ∀ x, f.Normal x → Representable f.p x → fl x = x
  close : ∀ x, f.Normal x → |fl x - x| ≤ |x| / 2 ^ (f.p - 1)

/-- `float`. -/
def binary32 : Format := ⟨24, 126, 127⟩

theorem representable_intCast {p : Nat} {n : Int} (h : |n| < 2 ^ p) : Representable p n := ⟨n, 0, h, by simp⟩

theorem rounds_id (f : Format) : Rounds f id := by
  refine ⟨fun _ _ _ => rfl, fun x _ => ?_⟩
  rw [id, sub_self, abs_zero]
  positivity

theorem normal_div {n : Int} {d : Nat} (hn : |n| < 2 ^ 30) (hd : 0 < d) (hd' : d ≤ 2 ^ 20) :
    binary32.Normal ((n : ℚ) / d) := by
  by_cases hzero : n = 0
  · left
    simp [hzero]
  · right
    have hlow : (1 : ℚ) ≤ |(n : ℚ)| := by
      rw [← Int.cast_abs]
      exact_mod_cast Int.one_le_abs hzero
    have hhigh : |(n : ℚ)| < 2 ^ 30 := by
      rw [← Int.cast_abs]
      exact_mod_cast hn
    have hone : (1 : ℚ) ≤ d := by exact_mod_cast hd
    have hlarge : (d : ℚ) ≤ 1048576 := by exact_mod_cast hd'
    rw [abs_div, abs_of_pos (by linarith : (0 : ℚ) < d)]
    constructor
    · rw [binary32, div_le_div_iff₀ (by positivity) (by linarith)]
      norm_num
      linarith
    · rw [binary32, div_lt_iff₀ (by linarith)]
      norm_num at hhigh ⊢
      linarith

theorem normal_intCast {n : Int} (hn : |n| < 2 ^ 30) : binary32.Normal n := by
  have h := normal_div hn Nat.one_pos (by norm_num)
  rwa [Nat.cast_one, div_one] at h

theorem Rounds.intCast {fl : ℚ → ℚ} (h : Rounds binary32 fl) {n : Int} (hn : |n| < 2 ^ 24) : fl n = n :=
  h.exact n (normal_intCast (hn.trans (by norm_num))) (representable_intCast hn)

/-! ## Integer parts -/

/-- A number that is nearer than every integer has the same integer part. -/
theorem trunc_eq_of_near {x y : ℚ} (h : ∀ n : Int, |y - x| < |x - n|) : trunc y = trunc x := by
  have hzero := h 0
  rw [Int.cast_zero, sub_zero] at hzero
  rcases lt_or_ge x 0 with hx | hx
  · have hneg : y < 0 := by
      rw [abs_of_neg hx] at hzero
      linarith [(abs_lt.1 hzero).2]
    rw [trunc_of_neg hx, trunc_of_neg hneg, Int.ceil_eq_iff]
    have hlow := h (⌈x⌉ - 1)
    have hhigh := h ⌈x⌉
    have hle := Int.le_ceil x
    have hlt := Int.ceil_lt_add_one x
    have habove : |x - (⌈x⌉ - 1 : Int)| = x - (⌈x⌉ - 1) := by
      push_cast
      exact abs_of_pos (by linarith)
    have hbelow : |x - ⌈x⌉| = -(x - ⌈x⌉) := abs_of_nonpos (by linarith)
    rw [habove, abs_lt] at hlow
    rw [hbelow, abs_lt] at hhigh
    exact ⟨by linarith [hlow.1], by linarith [hhigh.2]⟩
  · have hpos : 0 ≤ y := by
      rw [abs_of_nonneg hx] at hzero
      linarith [(abs_lt.1 hzero).1]
    rw [trunc_of_nonneg hx, trunc_of_nonneg hpos, Int.floor_eq_iff]
    have hlow := h ⌊x⌋
    have hhigh := h (⌊x⌋ + 1)
    have hle := Int.floor_le x
    have hlt := Int.lt_floor_add_one x
    have habove : |x - ⌊x⌋| = x - ⌊x⌋ := abs_of_nonneg (by linarith)
    have hbelow : |x - (⌊x⌋ + 1 : Int)| = -(x - (⌊x⌋ + 1)) := by
      push_cast
      exact abs_of_neg (by linarith)
    rw [habove, abs_lt] at hlow
    rw [hbelow, abs_lt] at hhigh
    exact ⟨by linarith [hlow.1], by linarith [hhigh.2]⟩

theorem le_abs_sub {v : Int} {d : Nat} (hd : 0 < d) (h : ¬ (d : Int) ∣ v) (n : Int) :
    1 / (d : ℚ) ≤ |(v : ℚ) / d - n| := by
  have hd' : (0 : ℚ) < d := by exact_mod_cast hd
  have hne : v - n * d ≠ 0 := fun heq => h ⟨n, by linarith⟩
  have hone : (1 : ℚ) ≤ |((v - n * d : Int) : ℚ)| := by
    rw [← Int.cast_abs]
    exact_mod_cast Int.one_le_abs hne
  have hquot : (v : ℚ) / d - n = ((v - n * d : Int) : ℚ) / d := by
    push_cast
    field_simp
  rw [hquot, abs_div, abs_of_pos hd']
  exact div_le_div_of_nonneg_right hone hd'.le

/-- **The integer part of a quotient survives** a small error, where an integer quotient has none. -/
theorem trunc_eq_tdiv {v : Int} {d : Nat} (hd : 0 < d) {y : ℚ}
    (hexact : (d : Int) ∣ v → y = (v : ℚ) / d) (hnear : |y - (v : ℚ) / d| < 1 / d) :
    trunc y = v.tdiv d := by
  rw [← trunc_div]
  by_cases h : (d : Int) ∣ v
  · rw [hexact h]
  · exact trunc_eq_of_near fun n => hnear.trans_le (le_abs_sub hd h n)

end Rounding
