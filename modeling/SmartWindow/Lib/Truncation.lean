/-
Cutting the fraction of a number, towards zero: what C's conversion to `int`
and `atoi` do. Cutting keeps the order, but not its strictness, and
`lt_trunc_iff_iff` says where a comparison with an integer changes.
-/
import Mathlib.Data.Rat.Floor

namespace Truncation

variable {K : Type*} [Ring K] [LinearOrder K] [FloorRing K] {a b : K} {n : Int}

/-- The integer part of a number. -/
def trunc (a : K) : Int := if 0 ≤ a then ⌊a⌋ else ⌈a⌉

theorem trunc_of_nonneg (h : 0 ≤ a) : trunc a = ⌊a⌋ := if_pos h

theorem trunc_of_neg (h : a < 0) : trunc a = ⌈a⌉ := if_neg (not_le.2 h)

theorem trunc_mono (h : a ≤ b) : trunc a ≤ trunc b := by
  rcases lt_or_ge a 0 with ha | ha
  · rcases lt_or_ge b 0 with hb | hb
    · rw [trunc_of_neg ha, trunc_of_neg hb]
      exact Int.ceil_mono h
    · rw [trunc_of_neg ha, trunc_of_nonneg hb]
      have hceil : ⌈a⌉ ≤ 0 := Int.ceil_le.2 (by simpa using ha.le)
      exact hceil.trans (Int.floor_nonneg.2 hb)
  · rw [trunc_of_nonneg ha, trunc_of_nonneg (ha.trans h)]
    exact Int.floor_mono h

theorem lt_of_trunc_lt (h : trunc a < trunc b) : a < b := by
  by_contra hle
  exact absurd (trunc_mono (not_lt.1 hle)) (not_le.2 h)

variable [IsStrictOrderedRing K]

@[simp] theorem trunc_intCast (n : Int) : trunc (n : K) = n := by
  rcases lt_or_ge (n : K) 0 with h | h
  · rw [trunc_of_neg h, Int.ceil_intCast]
  · rw [trunc_of_nonneg h, Int.floor_intCast]

theorem lt_of_trunc_lt_intCast (h : trunc a < n) : a < n := lt_of_trunc_lt (by rwa [trunc_intCast])

theorem lt_of_intCast_lt_trunc (h : n < trunc a) : (n : K) < a := lt_of_trunc_lt (by rwa [trunc_intCast])

/-- **Where a comparison with an integer survives the cut**: unless the number is less than one above
the integer, on the side from which it is cut down to it. -/
theorem lt_trunc_iff_iff :
    (n < trunc a ↔ (n : K) < a) ↔ ¬ (0 ≤ n ∧ (n : K) < a ∧ a < n + 1) := by
  refine ⟨fun h hgap => ?_, fun h => ⟨lt_of_intCast_lt_trunc, fun hlt => ?_⟩⟩
  · obtain ⟨hn, hlt, hgap⟩ := hgap
    have ha : 0 ≤ a := (Int.cast_nonneg hn).trans hlt.le
    have hcut := h.2 hlt
    rw [trunc_of_nonneg ha, Int.lt_floor_iff] at hcut
    exact absurd hgap (not_lt.2 hcut)
  · rcases lt_or_ge a 0 with ha | ha
    · rw [trunc_of_neg ha]
      exact Int.lt_ceil.2 hlt
    · rw [trunc_of_nonneg ha]
      by_cases hn : 0 ≤ n
      · exact Int.lt_floor_iff.2 (not_lt.1 fun hgap => h ⟨hn, hlt, hgap⟩)
      · exact lt_of_lt_of_le (not_le.1 hn) (Int.floor_nonneg.2 ha)

/-- Cutting a quotient is C's division. -/
theorem trunc_div (n : Int) (d : Nat) : trunc ((n : ℚ) / d) = n.tdiv d := by
  rcases lt_or_ge n 0 with hn | hn
  · obtain ⟨m, rfl⟩ : ∃ m : Nat, n = -m := ⟨n.natAbs, by omega⟩
    rcases Nat.eq_zero_or_pos d with rfl | hd
    · simp [trunc]
    · have hm : (0 : ℚ) < m := by exact_mod_cast (by omega : 0 < m)
      have hneg : ((-(m : Int) : Int) : ℚ) / d < 0 := by
        push_cast
        exact div_neg_of_neg_of_pos (by simpa using hm) (by exact_mod_cast hd)
      rw [trunc_of_neg hneg, Rat.ceil_intCast_div_natCast, neg_neg, Int.neg_tdiv,
        Int.tdiv_eq_ediv_of_nonneg (by omega)]
  · have hquot : (0 : ℚ) ≤ (n : ℚ) / d := div_nonneg (by exact_mod_cast hn) (by positivity)
    rw [trunc_of_nonneg hquot, Rat.floor_intCast_div_natCast, Int.tdiv_eq_ediv_of_nonneg hn]

end Truncation
