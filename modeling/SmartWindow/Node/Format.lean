/-
The texts of the measurements (main.c): `printF` is `sprintf("%f")` of an exact
quotient, all six decimals of it, and `printD` prints an integer. Both are
plain decimals, so `atoi` on the controller gives back the integer part, and
their lengths say which measurements fit into `valueString`.
-/
import SmartWindow.Node.Model
import SmartWindow.Store.Decimal

namespace SmartWindow

open Truncation

/-- The last `k` digits of a number, with leading zeros. -/
def padded : Nat → Nat → Bytes
  | 0, _ => []
  | k + 1, n => padded k (n / 10) ++ [(n % 10).digitChar.toNat.toUInt8]

@[simp] theorem length_padded (k n : Nat) : (padded k n).length = k := by
  induction k generalizing n with
  | zero => rfl
  | succ k ih => simp [padded, ih]

theorem isdigit_of_mem_padded {k n : Nat} : ∀ c ∈ padded k n, isdigit c = true := by
  induction k generalizing n with
  | zero => simp [padded]
  | succ k ih =>
    intro c hc
    rcases List.mem_append.1 hc with hc | hc
    · exact ih c hc
    · rw [List.mem_singleton.1 hc]
      exact isdigit_digitChar (n % 10) (Nat.mod_lt n (by decide))

theorem natOf_padded (k n : Nat) : natOf (padded k n) = n % 10 ^ k := by
  induction k generalizing n with
  | zero => simp [padded, natOf, Nat.mod_one]
  | succ k ih =>
    rw [padded, natOf_append, ih, pow_succ', Nat.mod_mul]
    simp [natOf, toNat_digitChar (n % 10) (Nat.mod_lt n (by decide))]
    omega

/-- The quotient `v / d` with six decimals. -/
def sixDecimals (v : Int) (d : Nat) : Decimal where
  negative := decide (v < 0)
  whole := digits (v.natAbs / d)
  fraction := padded 6 (v.natAbs % d * (1000000 / d))
  whole_ne_nil := digits_ne_nil _
  whole_digits := isdigit_of_mem_digits
  fraction_digits := isdigit_of_mem_padded

/-- The text of `sprintf("%f", (float)(v) / d)`, with the exact quotient. -/
def printF (v : Int) (d : Nat) : Bytes := (sixDecimals v d).text

/-! ## The numbers -/

theorem signum_natAbs (v : Int) : (if decide (v < 0) then -1 else 1 : Int) * v.natAbs = v := by
  split
  · next h =>
    have hneg : v < 0 := of_decide_eq_true h
    omega
  · next h =>
    have hpos : ¬ v < 0 := of_decide_eq_false (Bool.eq_false_iff.2 h)
    omega

theorem value_sixDecimals {d : Nat} (hd : d ∣ 1000000) (v : Int) :
    (sixDecimals v d).value = (v : ℚ) / d := by
  obtain ⟨e, he⟩ := hd
  have hpos : 0 < d ∧ 0 < e := by
    refine ⟨Nat.pos_of_ne_zero ?_, Nat.pos_of_ne_zero ?_⟩ <;> rintro rfl <;> simp at he
  have hquot : 1000000 / d = e := by rw [he, Nat.mul_div_cancel_left e hpos.1]
  have hrem : v.natAbs % d * e < 1000000 := by
    rw [he]
    exact Nat.mul_lt_mul_of_pos_right (Nat.mod_lt _ hpos.1) hpos.2
  have hnumber : natOf ((sixDecimals v d).whole ++ (sixDecimals v d).fraction) = v.natAbs * e := by
    have hsplit := Nat.div_add_mod v.natAbs d
    simp only [sixDecimals, natOf_append, natOf_digits, natOf_padded, length_padded, hquot]
    change v.natAbs / d * 1000000 + v.natAbs % d * e % 1000000 = v.natAbs * e
    rw [Nat.mod_eq_of_lt hrem]
    calc v.natAbs / d * 1000000 + v.natAbs % d * e
        = (d * (v.natAbs / d) + v.natAbs % d) * e := by rw [he]; ring
      _ = v.natAbs * e := by rw [hsplit]
  have hsign : (sixDecimals v d).signum * (v.natAbs * e : Nat) = v * e := by
    rw [Nat.cast_mul, ← mul_assoc]
    exact congrArg (· * (e : Int)) (signum_natAbs v)
  have hplaces : Nat.pow 10 (sixDecimals v d).fraction.length = d * e := by
    simp only [sixDecimals, length_padded]
    exact he
  rw [Decimal.value, hnumber, hsign, hplaces, Rat.mkRat_eq_div]
  push_cast
  have he0 : (e : ℚ) ≠ 0 := by exact_mod_cast hpos.2.ne'
  exact mul_div_mul_right _ _ he0

theorem atoi_printF {d : Nat} (hd : d ∣ 1000000) (v : Int) : atoi (printF v d) = v.tdiv d := by
  rw [printF, Decimal.atoi_text_eq_trunc, Decimal.atof_text, value_sixDecimals hd, trunc_div]

theorem printD_eq (v : Int) : printD v = (Decimal.ofInt v).text := by
  have htext : (Decimal.ofInt v).text = (if v < 0 then [45] else []) ++ digits v.natAbs := by
    simp [Decimal.text, Decimal.tail, Decimal.ofInt]
  rw [htext, printD, Int.toString_eq_repr, Int.repr_eq_if]
  by_cases h : 0 ≤ v
  · have habs : v.toNat = v.natAbs := by omega
    rw [if_pos h, if_neg (not_lt.2 h), habs]
    rfl
  · have habs : (-v).toNat = v.natAbs := by omega
    rw [if_neg h, if_pos (not_le.1 h), habs]
    simp [str, digits]

theorem atoi_printD (v : Int) : atoi (printD v) = v := by
  rw [printD_eq, Decimal.atoi_text]
  exact (congrArg (_ * ·) (congrArg Int.ofNat (natOf_digits _))).trans (signum_natAbs v)

/-- The pressure is printed as it is while it fits into an `int`. -/
theorem toInt_toInt32_of_lt {p : UInt32} (h : p.toNat < 2147483648) : p.toInt32.toInt = p.toNat := by
  change p.toBitVec.toInt = p.toBitVec.toNat
  exact BitVec.toInt_eq_toNat_of_lt (by simpa using by omega)

/-! ## The lengths -/

theorem Decimal.length_text (d : Decimal) :
    d.text.length = (if d.negative then 1 else 0) + d.whole.length + d.tail.length := by
  unfold text
  cases d.negative with
  | true =>
    simp
    omega
  | false => simp

theorem length_printF (v : Int) (d : Nat) :
    (printF v d).length = (if v < 0 then 1 else 0) + (digits (v.natAbs / d)).length + 7 := by
  have htail : (sixDecimals v d).tail.length = 7 := by
    have hne : (sixDecimals v d).fraction ≠ [] :=
      List.ne_nil_of_length_eq_add_one (length_padded 6 _)
    rw [Decimal.tail, if_neg hne, List.length_cons]
    exact congrArg (· + 1) (length_padded 6 _)
  rw [printF, Decimal.length_text, htail]
  simp [sixDecimals]

theorem length_printF_le {v : Int} {d k : Nat} (hk : 0 < k) (h : v.natAbs / d < 10 ^ k) :
    (printF v d).length ≤ k + 8 := by
  have hdigits := (length_digits_le_iff hk).2 h
  rw [length_printF]
  split <;> omega

theorem length_printD_le {v : Int} {k : Nat} (hk : 0 < k) (h : v.natAbs < 10 ^ k) :
    (printD v).length ≤ k + 1 := by
  have hdigits := (length_digits_le_iff hk).2 h
  rw [printD_eq, Decimal.length_text]
  by_cases hneg : v < 0 <;> simp [Decimal.ofInt, Decimal.tail, hneg] <;> omega

theorem printF_fits_iff (v : Int) {d : Nat} (hd : 0 < d) :
    (printF v d).length + 1 ≤ 10 ↔ -(10 * d : Int) < v ∧ v < 100 * d := by
  rw [length_printF]
  by_cases hneg : v < 0
  · have h := length_digits_le_iff (n := v.natAbs / d) (k := 1) (by decide)
    rw [Nat.div_lt_iff_lt_mul hd] at h
    rw [if_pos hneg]
    omega
  · have h := length_digits_le_iff (n := v.natAbs / d) (k := 2) (by decide)
    rw [Nat.div_lt_iff_lt_mul hd] at h
    rw [if_neg hneg]
    omega

/-! ## The buffers -/

/-- `valueString[10]` -/
def valueStringSize : Nat := 10

/-- What is formatted on FINISH_MEASUREMENT: the sensor and the text of its value. -/
def formatted (data : MeasuredData) : List (Bytes × Bytes) :=
  [(SENS_TEMP, printF data.temperature.toInt 10),
    (SENS_AIR_PRESSURE, printD data.pressure.toInt32.toInt),
    (SENS_VOLUME, printF data.volume 100),
    (SENS_HUMIDITY, printF data.humidity 100),
    (SENS_AIR_QUALITY, printF data.airQuality 100)]

theorem answers_eq (b : Build) (data : MeasuredData) :
    answers b printF data .FINISH_MEASUREMENT =
      (formatted data).map fun x => sendString b x.1 x.2 := rfl

/-- Every text fits into `valueString` and every message into `sendBuffer`, with the NUL. -/
structure FitsBuffers (b : Build) (data : MeasuredData) : Prop where
  valueString : ∀ x ∈ formatted data, x.2.length + 1 ≤ valueStringSize
  sendBuffer : ∀ m ∈ answers b printF data .FINISH_MEASUREMENT, m.length + 1 ≤ PP_BUF_SIZE

/-- What the sensors can measure, in tenths of a degree, Pa and hundredths. -/
structure InRange (data : MeasuredData) : Prop where
  humidity : 0 ≤ data.humidity ∧ data.humidity ≤ 10000
  airQuality : 0 ≤ data.airQuality ∧ data.airQuality ≤ 10000
  volume : 0 ≤ data.volume ∧ data.volume ≤ 13000
  pressure : data.pressure.toNat ≤ 200000

/-- Between minus ten and a hundred degrees, and below a hundred percent and decibel. -/
structure Short (data : MeasuredData) : Prop where
  temperature : -100 < data.temperature.toInt ∧ data.temperature.toInt < 1000
  humidity : data.humidity < 10000
  airQuality : data.airQuality < 10000
  volume : data.volume < 10000

theorem length_sendString_le (b : Build) (sensor value : Bytes) :
    (sendString b sensor value).length ≤ sensor.length + value.length + 9 := by
  cases b <;> simp [sendString, str] <;> omega

theorem length_formatted_le {data : MeasuredData} (h : InRange data) :
    ∀ x ∈ formatted data, x.1.length ≤ 11 ∧ x.2.length ≤ 12 := by
  have hlow := data.temperature.le_toInt
  have hhigh := data.temperature.toInt_lt
  obtain ⟨hhumidity, hairQuality, hvolume, hpressure⟩ := h
  have hint := toInt_toInt32_of_lt (p := data.pressure) (by omega)
  simp only [formatted, List.forall_mem_cons, List.not_mem_nil, false_imp_iff, implies_true, and_true]
  refine ⟨⟨by decide, length_printF_le (k := 4) (by decide) ?_⟩,
    ⟨by decide, (length_printD_le (k := 6) (by decide) ?_).trans (by decide)⟩,
    ⟨by decide, length_printF_le (k := 4) (by decide) ?_⟩,
    ⟨by decide, length_printF_le (k := 4) (by decide) ?_⟩,
    ⟨by decide, length_printF_le (k := 4) (by decide) ?_⟩⟩ <;> omega

/-- **Which measurements fit into `valueString`**: those between minus ten and a hundred units. The
messages fit into `sendBuffer` all the same. -/
theorem fitsBuffers_iff (b : Build) {data : MeasuredData} (h : InRange data) :
    FitsBuffers b data ↔ Short data := by
  have htexts : (∀ x ∈ formatted data, x.2.length + 1 ≤ valueStringSize) ↔ Short data := by
    obtain ⟨hhumidity, hairQuality, hvolume, hpressure⟩ := h
    have hint := toInt_toInt32_of_lt (p := data.pressure) (by omega)
    have hprint : (printD data.pressure.toInt32.toInt).length + 1 ≤ 10 :=
      (Nat.succ_le_succ (length_printD_le (k := 6) (by decide) (by omega))).trans (by decide)
    simp only [formatted, valueStringSize, List.forall_mem_cons, List.not_mem_nil, false_imp_iff,
      implies_true, and_true, hprint, true_and, printF_fits_iff _ (by decide : 0 < 10),
      printF_fits_iff _ (by decide : 0 < 100)]
    refine ⟨fun hfits => ⟨?_, ?_, ?_, ?_⟩, fun hshort => ?_⟩
    · exact ⟨by omega, by omega⟩
    · omega
    · omega
    · omega
    · obtain ⟨htemperature, hhumid, hair, hvol⟩ := hshort
      omega
  refine ⟨fun hfits => htexts.1 hfits.valueString, fun hshort => ⟨htexts.2 hshort, ?_⟩⟩
  rw [answers_eq]
  intro m hm
  obtain ⟨x, hx, rfl⟩ := List.mem_map.1 hm
  have hsend := length_sendString_le b x.1 x.2
  have hlen := length_formatted_le h x hx
  unfold PP_BUF_SIZE
  omega

/-- An everyday measurement, at the given temperature. -/
def sampleData (temperature : Int16) : MeasuredData := ⟨temperature, 101325, 4210, 5530, 20⟩

theorem inRange_sample (temperature : Int16) : InRange (sampleData temperature) :=
  ⟨by simp [sampleData], by simp [sampleData], by simp [sampleData], by simp [sampleData]⟩

theorem fitsBuffers_iff_warm : FitsBuffers .IN (sampleData 215) ↔ Short (sampleData 215) :=
  fitsBuffers_iff .IN (inRange_sample 215)

/-- Ten degrees below zero are -10.000000, ten bytes without the NUL. -/
theorem frost_overruns : ¬ ∀ data, InRange data → FitsBuffers .IN data := by
  intro h
  have htext := (h (sampleData (-100)) (inRange_sample _)).valueString
    (SENS_TEMP, printF (-100) 10) (by simp [formatted, sampleData])
  exact absurd htext (by decide)

end SmartWindow
