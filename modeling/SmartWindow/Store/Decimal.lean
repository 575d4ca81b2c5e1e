/-
Numbers in plain decimal notation, as the database prints a float column and
`sprintf("%f")` prints a quotient: a `Decimal` is the digits, with the sign,
and its `text` is what `atoi` and `atof` get to see.
-/
import Mathlib.Data.List.TakeWhile
import SmartWindow.Lib.Truncation
import SmartWindow.Store.WriteRead

namespace SmartWindow

open Truncation

structure Decimal where
  negative : Bool
  whole : Bytes
  fraction : Bytes
  whole_ne_nil : whole ≠ []
  whole_digits : ∀ c ∈ whole, isdigit c = true
  fraction_digits : ∀ c ∈ fraction, isdigit c = true

namespace Decimal

/-- What stands behind the whole digits: no point without a digit behind it. -/
def tail (d : Decimal) : Bytes := if d.fraction = [] then [] else 46 :: d.fraction

def text (d : Decimal) : Bytes := (if d.negative then [45] else []) ++ d.whole ++ d.tail

/-- The factor that the sign stands for. -/
def signum (d : Decimal) : Int := if d.negative then -1 else 1

/-- The number that the text spells. -/
def value (d : Decimal) : Rat :=
  mkRat (d.signum * natOf (d.whole ++ d.fraction)) (Nat.pow 10 d.fraction.length)

end Decimal

/-! ## Digits -/

theorem foldl_digits (n : Nat) (s : Bytes) :
    s.foldl (fun n c => 10 * n + (c.toNat - 48)) n = n * 10 ^ s.length + natOf s := by
  unfold natOf
  induction s using List.reverseRecOn with
  | nil => simp
  | append_singleton s c ih =>
    simp only [List.foldl_append, List.foldl_cons, List.foldl_nil, List.length_append,
      List.length_singleton, ih, pow_succ]
    ring

theorem natOf_append (s s' : Bytes) : natOf (s ++ s') = natOf s * 10 ^ s'.length + natOf s' := by
  rw [natOf, List.foldl_append]
  exact foldl_digits (natOf s) s'

theorem toNat_of_isdigit {c : UInt8} (h : isdigit c = true) : 48 ≤ c.toNat ∧ c.toNat ≤ 57 := by
  simpa [isdigit, UInt8.le_iff_toNat_le] using h

theorem natOf_lt {s : Bytes} (h : ∀ c ∈ s, isdigit c = true) : natOf s < 10 ^ s.length := by
  induction s using List.reverseRecOn with
  | nil => simp [natOf]
  | append_singleton s c ih =>
    have hs := ih fun c hc => h c (by simp [hc])
    have hc := toNat_of_isdigit (h c (by simp))
    have hone : natOf [c] = c.toNat - 48 := by simp [natOf]
    rw [natOf_append, hone, List.length_append, pow_add]
    simp only [List.length_singleton, pow_one]
    omega

theorem not_isspace_of_isdigit {c : UInt8} (h : isdigit c = true) : isspace c = false := by
  have hc := toNat_of_isdigit h
  simp only [isspace, Bool.or_eq_false_iff, beq_eq_false_iff_ne, Bool.and_eq_false_iff,
    decide_eq_false_iff_not, UInt8.le_iff_toNat_le, ne_eq, ← UInt8.toNat_inj]
  simp
  omega

def digits (n : Nat) : Bytes := str (toString n)

theorem digits_eq (n : Nat) :
    digits n = if n < 10 then [n.digitChar.toNat.toUInt8]
      else digits (n / 10) ++ [(n % 10).digitChar.toNat.toUInt8] := by
  simp only [digits, str, Nat.toString_eq_ofList_toDigits, String.toList_ofList]
  rw [Nat.toDigits_eq_if (by decide)]
  split <;> simp

theorem toNat_digitChar : ∀ n < 10, n.digitChar.toNat.toUInt8.toNat = 48 + n := by decide

theorem isdigit_digitChar : ∀ n < 10, isdigit n.digitChar.toNat.toUInt8 = true := by decide

theorem natOf_digits (n : Nat) : natOf (digits n) = n := by
  induction n using Nat.strong_induction_on with
  | _ n ih =>
    rw [digits_eq]
    split
    · next h => simp [natOf, toNat_digitChar n h]
    · next h =>
      rw [natOf_append, ih (n / 10) (by omega)]
      simp [natOf, toNat_digitChar (n % 10) (Nat.mod_lt n (by decide))]
      omega

theorem isdigit_of_mem_digits {n : Nat} : ∀ c ∈ digits n, isdigit c = true := by
  induction n using Nat.strong_induction_on with
  | _ n ih =>
    rw [digits_eq]
    intro c hc
    split at hc
    · next h =>
      rw [List.mem_singleton.1 hc]
      exact isdigit_digitChar n h
    · next h =>
      rcases List.mem_append.1 hc with hc | hc
      · exact ih (n / 10) (by omega) c hc
      · rw [List.mem_singleton.1 hc]
        exact isdigit_digitChar (n % 10) (Nat.mod_lt n (by decide))

theorem length_digits_le_iff {n k : Nat} (hk : 0 < k) : (digits n).length ≤ k ↔ n < 10 ^ k := by
  rw [digits, str, List.length_map, Nat.toString_eq_ofList_toDigits, String.toList_ofList]
  exact Nat.length_toDigits_le_iff (by decide) hk

theorem digits_ne_nil (n : Nat) : digits n ≠ [] := by
  rw [digits_eq]
  split <;> simp

/-- An integer is a decimal without a fraction. -/
def Decimal.ofInt (v : Int) : Decimal :=
  ⟨decide (v < 0), digits v.natAbs, [], digits_ne_nil _, isdigit_of_mem_digits, by simp⟩

/-! ## Reading a decimal -/

namespace Decimal

variable (d : Decimal)

theorem sign_text : sign d.text = (d.signum, d.whole ++ d.tail) := by
  obtain ⟨c, rest, hwhole⟩ := List.exists_cons_of_ne_nil d.whole_ne_nil
  have hc : isdigit c = true := d.whole_digits c (by simp [hwhole])
  have hspace := not_isspace_of_isdigit hc
  have hdigit := toNat_of_isdigit hc
  have hminus : c ≠ 45 := by rintro rfl; simp at hdigit
  have hplus : c ≠ 43 := by rintro rfl; simp at hdigit
  unfold sign text signum
  rw [hwhole]
  cases d.negative with
  | true => simp [isspace]
  | false => simp [hspace, hminus, hplus]

theorem takeWhile_whole : (d.whole ++ d.tail).takeWhile isdigit = d.whole := by
  rw [List.takeWhile_append_of_pos d.whole_digits, tail]
  split <;> simp [isdigit]

theorem dropWhile_whole : (d.whole ++ d.tail).dropWhile isdigit = d.tail := by
  rw [List.dropWhile_append_of_pos d.whole_digits, tail]
  split <;> simp [isdigit]

theorem atoi_text : atoi d.text = d.signum * natOf d.whole := by
  rw [atoi, sign_text, takeWhile_whole]

theorem atof_text : atof d.text = d.value := by
  have hfraction :
      (if d.tail.head? = some 46 then d.tail.tail.takeWhile isdigit else []) = d.fraction := by
    by_cases h : d.fraction = []
    · simp [tail, h]
    · simpa [tail, h] using List.takeWhile_eq_self_iff.2 d.fraction_digits
  simp only [atof, sign_text, takeWhile_whole, dropWhile_whole, hfraction, value]

/-- The digits in front of the point are the integer part of the number. -/
theorem trunc_value : trunc d.value = d.signum * natOf d.whole := by
  have hlt : natOf d.fraction < 10 ^ d.fraction.length := natOf_lt d.fraction_digits
  have hdiv : (natOf d.whole * 10 ^ d.fraction.length + natOf d.fraction) / 10 ^ d.fraction.length =
      natOf d.whole := by
    rw [Nat.add_comm, Nat.add_mul_div_right _ _ (by positivity), Nat.div_eq_of_lt hlt, Nat.zero_add]
  have hquot : d.value = ((d.signum * natOf (d.whole ++ d.fraction) : Int) : ℚ) /
      (10 ^ d.fraction.length : Nat) := Rat.mkRat_eq_div _ _
  rw [hquot, trunc_div, natOf_append]
  unfold signum
  split
  · rw [neg_one_mul, neg_one_mul, Int.neg_tdiv]
    exact congrArg Neg.neg (congrArg Int.ofNat hdiv)
  · rw [one_mul, one_mul]
    exact congrArg Int.ofNat hdiv

/-- **`atoi` is `atof` with the fraction cut**, on every plain decimal. -/
theorem atoi_text_eq_trunc : atoi d.text = trunc (atof d.text) := by
  rw [atoi_text, atof_text, trunc_value]

end Decimal

end SmartWindow
