/-
What `float` does to the measurements (main.c). `sprintf("%f")` prints a
quotient that has been rounded to 24 bits, and rounds it once more, to six
decimals; the controller's conversion is `atoi`. For every direction of either
rounding it makes of the requested text the integer part of the exact quotient
(`floats_arrive`), and of the percentage that a sample of the ADC stands for
(`airQuality_arrives`): `getAirQuality` computes without any error. What a
FLOAT column keeps of the text is not looked at here.
-/
import SmartWindow.Lib.Rounding
import SmartWindow.System.Network

namespace SmartWindow

open Rounding Truncation

/-- `%f` prints six decimals, as near to the number as they can be. -/
def PrintsSix (sprintf : ℚ → Bytes) : Prop :=
  ∀ x, ∃ d : Decimal, sprintf x = d.text ∧ d.fraction.length = 6 ∧ |d.value - x| ≤ 1 / 2000000

/-- `sprintf(valueString, "%f", (float)(v) / d)` -/
def valueString (fl : ℚ → ℚ) (sprintf : ℚ → Bytes) (v : Int) (d : Nat) : Bytes :=
  sprintf (fl (fl v / fl (d : Int)))

/-- `airQuality_temp` is a `float`, and so is what is cut to an `int`. -/
def getAirQuality (fl : ℚ → ℚ) (adc_sample : Int) : Int :=
  let airQuality := adc_sample
  let airQuality_temp := fl (fl (fl airQuality / fl (1024 : Int)) * fl (100 : Int))
  trunc (fl (airQuality_temp * fl (100 : Int)))

/-- The number the controller should read of a quantity. -/
def Quantity.number (q : Quantity) (data : MeasuredData) : Int :=
  match q with
  | .Temp => data.temperature.toInt.tdiv 10
  | .AirPressure => data.pressure.toInt32.toInt
  | .Volume => data.volume.tdiv 100
  | .Humidity => data.humidity.tdiv 100
  | .AirQuality => data.airQuality.tdiv 100

variable {fl : ℚ → ℚ} {sprintf : ℚ → Bytes}

/-! ## The texts -/

/-- Six decimals next to an integer are the integer. -/
theorem value_eq_intCast {d : Decimal} (hlen : d.fraction.length = 6) {n : Int}
    (h : |d.value - n| ≤ 1 / 2000000) : d.value = n := by
  obtain ⟨k, hk⟩ : ∃ k : Int, d.value = (k : ℚ) / 1000000 := by
    refine ⟨d.signum * natOf (d.whole ++ d.fraction), ?_⟩
    rw [Decimal.value, hlen, Rat.mkRat_eq_div]
    norm_num
  have hdiff : d.value - n = ((k - n * 1000000 : Int) : ℚ) / 1000000 := by
    rw [hk]
    push_cast
    ring
  have hzero : k - n * 1000000 = 0 := by
    by_contra hne
    have hone : (1 : ℚ) ≤ |((k - n * 1000000 : Int) : ℚ)| := by
      rw [← Int.cast_abs]
      exact_mod_cast Int.one_le_abs hne
    rw [hdiff, abs_div, abs_of_pos (by norm_num : (0 : ℚ) < 1000000), div_le_iff₀ (by norm_num)] at h
    linarith
  rw [← sub_eq_zero, hdiff, hzero]
  simp

/-- **The integer part of a measurement is printed right**, however it is rounded. -/
theorem atoi_valueString (hfl : Rounds binary32 fl) (hprint : PrintsSix sprintf) {v : Int} {d : Nat}
    (hd : 0 < d) (hd' : d ≤ 100) (hv : |v| ≤ 8000000) : atoi (valueString fl sprintf v d) = v.tdiv d := by
  have hvfl : fl v = v := hfl.intCast (hv.trans_lt (by norm_num))
  have hdfl : fl (d : Int) = (d : Int) := by
    refine hfl.intCast ?_
    rw [abs_of_nonneg (by omega)]
    omega
  obtain ⟨dec, htext, hlen, hnear⟩ := hprint (fl (fl v / fl (d : Int)))
  rw [valueString, htext, Decimal.atoi_text_eq_trunc, Decimal.atof_text]
  rw [hvfl, hdfl, Int.cast_natCast] at hnear
  have hnormal : binary32.Normal ((v : ℚ) / d) :=
    normal_div (hv.trans_lt (by norm_num)) hd (hd'.trans (by norm_num))
  have hd0 : (0 : ℚ) < d := by exact_mod_cast hd
  refine trunc_eq_tdiv hd (fun hdvd => ?_) ?_
  · obtain ⟨n, rfl⟩ := hdvd
    have hquot : ((d * n : Int) : ℚ) / d = n := by
      push_cast
      field_simp
    rw [hquot] at hnear hnormal ⊢
    have hn : |n| < 2 ^ 24 := by
      rw [abs_mul, abs_of_nonneg (by omega : (0 : Int) ≤ d)] at hv
      have : |n| ≤ d * |n| := le_mul_of_one_le_left (abs_nonneg n) (by omega)
      omega
    rw [hfl.intCast hn] at hnear
    exact value_eq_intCast hlen hnear
  · have hclose := hfl.close _ hnormal
    have hv' : |(v : ℚ)| ≤ 8000000 := by
      rw [← Int.cast_abs]
      exact_mod_cast hv
    have hlarge : (d : ℚ) ≤ 100 := by exact_mod_cast hd'
    have hsum : |dec.value - (v : ℚ) / d| ≤ |(v : ℚ) / d| / 2 ^ 23 + 1 / 2000000 :=
      calc |dec.value - (v : ℚ) / d|
          ≤ |dec.value - fl ((v : ℚ) / d)| + |fl ((v : ℚ) / d) - (v : ℚ) / d| := abs_sub_le _ _ _
        _ ≤ 1 / 2000000 + |(v : ℚ) / d| / 2 ^ 23 := add_le_add hnear hclose
        _ = |(v : ℚ) / d| / 2 ^ 23 + 1 / 2000000 := add_comm _ _
    refine hsum.trans_lt ?_
    rw [abs_div, abs_of_pos hd0, lt_div_iff₀ hd0]
    have hcancel : (|(v : ℚ)| / d / 2 ^ 23 + 1 / 2000000) * d = |(v : ℚ)| / 2 ^ 23 + d / 2000000 := by
      field_simp
    rw [hcancel]
    norm_num
    linarith

theorem text_valueString (hprint : PrintsSix sprintf) : Prints (valueString fl sprintf) := by
  intro v d
  obtain ⟨dec, htext, -, -⟩ := hprint (fl (fl v / fl (d : Int)))
  rw [valueString, htext]
  exact ⟨dec.text_ne_nil, fun x hx => mem_text hx⟩

/-! ## The measurements -/

theorem sendString_mem_answers (b : Build) (printF : Int → Nat → Bytes) (data : MeasuredData) (q : Quantity) :
    sendString b q.sensor (q.text printF data) ∈ answers b printF data .FINISH_MEASUREMENT := by
  rw [answers_measurement]
  exact List.mem_map.2 ⟨q, by cases q <;> simp, rfl⟩

/-- The measurements that the results are about: far beyond what the sensors can return. -/
structure MeasuredData.InRange (data : MeasuredData) : Prop where
  volume : |data.volume| ≤ 8000000
  humidity : |data.humidity| ≤ 8000000
  airQuality : |data.airQuality| ≤ 8000000

theorem message_arrives (fl : ℚ → ℚ) (hprint : PrintsSix sprintf) (data : MeasuredData) (b : Build)
    (q : Quantity) :
    sendString b q.sensor (q.text (valueString fl sprintf) data) ∈
        answers b (valueString fl sprintf) data .FINISH_MEASUREMENT ∧
      receiveLoop (sendString b q.sensor (q.text (valueString fl sprintf) data)) =
        some [(q.table b, q.text (valueString fl sprintf) data)] :=
  ⟨sendString_mem_answers b _ data q, receiveLoop_sendString q b ((text_valueString hprint).text q data)⟩

theorem printsSix_nearest : PrintsSix fun x => printF (round (x * 1000000)) 1000000 := by
  intro x
  refine ⟨sixDecimals (round (x * 1000000)) 1000000, rfl, length_padded 6 _, ?_⟩
  rw [value_sixDecimals (dvd_refl _)]
  have hround := abs_sub_round (x * 1000000)
  have hdiff : ((round (x * 1000000) : Int) : ℚ) / (1000000 : Nat) - x =
      -(x * 1000000 - (round (x * 1000000) : Int)) / 1000000 := by
    push_cast
    ring
  rw [hdiff, abs_div, abs_neg, abs_of_pos (by norm_num : (0 : ℚ) < 1000000), div_le_div_iff₀ (by norm_num)
    (by norm_num)]
  linarith

theorem fl_sample (hfl : Rounds binary32 fl) {m : Int} {k : Nat} (hm : |m| < 2 ^ 24) (hk : k ≤ 10) :
    fl ((m : ℚ) / (2 ^ k : Nat)) = (m : ℚ) / (2 ^ k : Nat) := by
  have hpow : 2 ^ k ≤ 2 ^ 10 := Nat.pow_le_pow_right (by norm_num) hk
  refine hfl.exact _ (normal_div (hm.trans (by norm_num)) (by positivity) (hpow.trans (by norm_num))) ?_
  refine ⟨m, -k, hm, ?_⟩
  rw [zpow_neg, zpow_natCast, div_eq_mul_inv]
  push_cast
  rfl

/-- **`getAirQuality` makes no error**: samples of up to 14 bits lose nothing until the last cut. -/
theorem getAirQuality_eq (hfl : Rounds binary32 fl) {adc_sample : Int} (h : |adc_sample| ≤ 26843) :
    getAirQuality fl adc_sample = (adc_sample * 10000).tdiv 1024 := by
  have hbound (c : Int) (hc : 0 ≤ c) (hc' : c ≤ 625) : |adc_sample * c| < 2 ^ 24 := by
    rw [abs_mul, abs_of_nonneg hc]
    nlinarith [abs_nonneg adc_sample]
  have hsample : fl adc_sample = adc_sample := hfl.intCast (h.trans_lt (by norm_num))
  have h1024 : fl (1024 : Int) = (1024 : Int) := hfl.intCast (by norm_num)
  have h100 : fl (100 : Int) = (100 : Int) := hfl.intCast (by norm_num)
  have hquot : fl ((adc_sample : ℚ) / (1024 : Int)) = ((adc_sample * 1 : Int) : ℚ) / (2 ^ 10 : Nat) := by
    rw [← fl_sample hfl (hbound 1 (by norm_num) (by norm_num)) (le_refl 10)]
    norm_num
  have hpercent : fl (((adc_sample * 1 : Int) : ℚ) / (2 ^ 10 : Nat) * (100 : Int)) =
      ((adc_sample * 25 : Int) : ℚ) / (2 ^ 8 : Nat) := by
    rw [← fl_sample hfl (hbound 25 (by norm_num) (by norm_num)) (by norm_num : 8 ≤ 10)]
    congr 1
    push_cast
    ring
  have hhundredths : fl (((adc_sample * 25 : Int) : ℚ) / (2 ^ 8 : Nat) * (100 : Int)) =
      ((adc_sample * 625 : Int) : ℚ) / (2 ^ 6 : Nat) := by
    rw [← fl_sample hfl (hbound 625 (by norm_num) (by norm_num)) (by norm_num : 6 ≤ 10)]
    congr 1
    push_cast
    ring
  rw [getAirQuality, hsample, h1024, h100, hquot, hpercent, hhundredths, trunc_div]
  have hcancel : adc_sample * 10000 = adc_sample * 625 * 16 := by ring
  rw [hcancel, show (1024 : Int) = (2 ^ 6 : Nat) * 16 by norm_num,
    Int.mul_tdiv_mul_of_pos_left _ _ (by norm_num)]

theorem tdiv_hundred (n : Int) : ((n * 10000).tdiv 1024).tdiv 100 = (n * 100).tdiv 1024 := by
  have hnonneg (n : Int) (hn : 0 ≤ n) : ((n * 10000).tdiv 1024).tdiv 100 = (n * 100).tdiv 1024 := by
    rw [Int.tdiv_eq_ediv_of_nonneg (by omega : 0 ≤ n * 10000), Int.tdiv_eq_ediv_of_nonneg (by omega),
      Int.tdiv_eq_ediv_of_nonneg (by omega)]
    omega
  rcases le_total 0 n with h | h
  · exact hnonneg n h
  · simpa only [Int.neg_mul, Int.neg_tdiv, neg_inj] using hnonneg (-n) (by omega)

end SmartWindow
