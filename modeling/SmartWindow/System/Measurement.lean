/-
A measurement from the node to the reader: what the node prints, the message
it puts the text into, the row `receiveLoop` requests for it, the insertion
and the number that `get_latest_value_int` returns. The database returns the
text of a value as it was inserted.
-/
import SmartWindow.Controller.InPlace
import SmartWindow.Node.Format

namespace SmartWindow

/-- The number that a measurement arrives as, in the order of `formatted`. -/
def arriving (data : MeasuredData) : List (Bytes × Bytes × Int) :=
  [(SENS_TEMP, printF data.temperature.toInt 10, data.temperature.toInt.tdiv 10),
    (SENS_AIR_PRESSURE, printD data.pressure.toInt32.toInt, data.pressure.toNat),
    (SENS_VOLUME, printF data.volume 100, data.volume.tdiv 100),
    (SENS_HUMIDITY, printF data.humidity 100, data.humidity.tdiv 100),
    (SENS_AIR_QUALITY, printF data.airQuality 100, data.airQuality.tdiv 100)]

/-- The message with this text makes the receiver request one row, in a table of the schema, and the
accepted insertion lets the reader obtain the number. -/
structure Arrives (b : Build) (sensor text : Bytes) (number : Int) : Prop where
  received : ∀ save, InPlace.receiveLoop ⟨InPlace.received (sendString b sensor text), save⟩ =
    some [(tableName sensor (InPlace.position b), text)]
  stored : ∃ d ∈ tables, str d.name = tableName sensor (InPlace.position b) ∧
    ∀ (t : Table Bytes) (now : Nat), t.Free now → ∃ t',
      write_in_db (fun _ value => some value) d t ⟨now, text⟩ = some (true, t') ∧
        get_latest_value_int t' = some number

/-- The five sensors, with a table for either position. -/
def Sensor (sensor : Bytes) : Prop :=
  (sensor ≠ [] ∧ ∀ x ∈ sensor, x ≠ 0 ∧ x ≠ SEP_SENSOR ∧ x ≠ SEP_VALUE) ∧ sensor.length ≤ 11 ∧
    ∀ b, ∃ d ∈ tables, str d.name = tableName sensor (InPlace.position b)

theorem sensor_mem {sensor : Bytes}
    (h : sensor ∈ [SENS_TEMP, SENS_AIR_PRESSURE, SENS_VOLUME, SENS_HUMIDITY, SENS_AIR_QUALITY]) :
    Sensor sensor := by
  simp only [List.mem_cons, List.not_mem_nil, or_false] at h
  rcases h with rfl | rfl | rfl | rfl | rfl <;>
    exact ⟨⟨by decide, InPlace.forall_bytes (by decide)⟩, by decide, fun b => by cases b <;> decide⟩

theorem mem_text {d : Decimal} {x : UInt8} (hx : x ∈ d.text) : x ≠ 0 ∧ x ≠ SEP_VALUE := by
  have hdigit : ∀ c, isdigit c = true → c ≠ 0 ∧ c ≠ SEP_VALUE := by
    intro c hc
    have hrange := toNat_of_isdigit hc
    refine ⟨?_, ?_⟩ <;> rintro rfl <;> simp [SEP_VALUE] at hrange
  simp only [Decimal.text, Decimal.tail, List.mem_append] at hx
  rcases hx with (hx | hx) | hx
  · split at hx
    · obtain rfl := List.mem_singleton.1 hx
      decide
    · simp at hx
  · exact hdigit x (d.whole_digits x hx)
  · split at hx
    · simp at hx
    · rcases List.mem_cons.1 hx with rfl | hx
      · decide
      · exact hdigit x (d.fraction_digits x hx)

theorem Decimal.text_ne_nil (d : Decimal) : d.text ≠ [] := by
  simp [text, d.whole_ne_nil]

theorem position_spec (b : Build) : InPlace.position b ≠ [] ∧
    ∀ x ∈ InPlace.position b, x ≠ 0 ∧ x ≠ SEP_SENSOR ∧ x ≠ SEP_VALUE := by
  cases b <;> exact ⟨by decide, InPlace.forall_bytes (by decide)⟩

theorem length_position_le (b : Build) : (InPlace.position b).length ≤ 3 := by
  cases b <;> decide

/-- **A decimal of a sensor arrives** with its integer part. -/
theorem arrives {sensor : Bytes} (hsensor : Sensor sensor) (b : Build) (d : Decimal)
    (hlen : d.text.length ≤ 20) : Arrives b sensor d.text (atoi d.text) := by
  obtain ⟨hname, hshort, htable⟩ := hsensor
  have hpos := position_spec b
  have hposlen := length_position_le b
  have hvalue : d.text ≠ [] ∧ ∀ x ∈ d.text, x ≠ 0 ∧ x ≠ SEP_VALUE :=
    ⟨d.text_ne_nil, fun x hx => mem_text hx⟩
  refine ⟨fun save => ?_, ?_⟩
  · have hmessage : (InPlace.putMessage sensor (InPlace.position b) d.text).length < InPlace.MAXBUF := by
      rw [InPlace.putMessage_eq (fun x hx => (hname.2 x hx).1) (fun x hx => (hpos.2 x hx).1)
        fun x hx => (hvalue.2 x hx).1]
      simp [CMD_PUT, str, InPlace.MAXBUF]
      omega
    have h := InPlace.put_round_trip save hname hpos hvalue hmessage
    rw [h.encoders b rfl]
    exact h.row
  · obtain ⟨table, hmem, htext⟩ := htable b
    refine ⟨table, hmem, htext, fun t now hfree => ?_⟩
    have hfits : Fits (str table.name) d.text := by
      rw [htext]
      simp [Fits, statement, str, tableName, BUF]
      omega
    obtain ⟨t', hwrite, hlatest⟩ :=
      write_in_db_spec (fun _ value => some value) (t := t) (c := ⟨now, d.text⟩) hfits
    have haccepted : Accepted (fun _ value => some value) table t ⟨now, d.text⟩ := ⟨rfl, hfree⟩
    rw [decide_eq_true haccepted] at hwrite
    rw [if_pos haccepted] at hlatest
    exact ⟨t', hwrite, by rw [get_latest_value_int, hlatest, Option.map_some]⟩

theorem arrives_printF {sensor : Bytes} (hsensor : Sensor sensor) (b : Build) {v : Int} {d : Nat}
    (hd : d ∣ 1000000) (hv : v.natAbs < 10 ^ 10) : Arrives b sensor (printF v d) (v.tdiv d) := by
  rw [← atoi_printF hd]
  exact arrives hsensor b (sixDecimals v d) ((length_printF_le (k := 10) (by decide)
    ((Nat.div_le_self _ _).trans_lt hv)).trans (by decide))

theorem arrives_printD {sensor : Bytes} (hsensor : Sensor sensor) (b : Build) {v : Int}
    (hv : v.natAbs < 10 ^ 10) : Arrives b sensor (printD v) v := by
  have hlen := length_printD_le (k := 10) (by decide) hv
  have h := arrives hsensor b (Decimal.ofInt v) (by rw [← printD_eq]; omega)
  rw [← printD_eq, atoi_printD] at h
  exact h

/-- What a node sends on FINISH_MEASUREMENT, and that all of it arrives. -/
structure MeasurementsArrive (b : Build) (data : MeasuredData) : Prop where
  sent : answers b printF data .FINISH_MEASUREMENT =
    (arriving data).map fun x => sendString b x.1 x.2.1
  arrive : ∀ x ∈ arriving data, Arrives b x.1 x.2.1 x.2.2

/-- **The measurements arrive with the right numbers**, for every temperature, every `int` of the
other sensors and every pressure that is one. -/
theorem measurements_arrive (b : Build) (temperature : Int16) (pressure : UInt32)
    (volume humidity airQuality : Int32) (hpressure : pressure.toNat < 2147483648) :
    MeasurementsArrive b
      ⟨temperature, pressure, volume.toInt, humidity.toInt, airQuality.toInt⟩ := by
  have hlow := temperature.le_toInt
  have hhigh := temperature.toInt_lt
  have hint : ∀ v : Int32, v.toInt.natAbs < 10 ^ 10 := by
    intro v
    have h₁ := v.le_toInt
    have h₂ := v.toInt_lt
    omega
  refine ⟨rfl, ?_⟩
  simp only [arriving, toInt_toInt32_of_lt hpressure, List.forall_mem_cons, List.not_mem_nil,
    false_imp_iff, implies_true, and_true]
  refine ⟨?_, ?_, ?_, ?_, ?_⟩
  · exact arrives_printF (sensor_mem (by simp)) b (by decide) (by omega)
  · exact arrives_printD (sensor_mem (by simp)) b (by omega)
  · exact arrives_printF (sensor_mem (by simp)) b (by decide) (hint volume)
  · exact arrives_printF (sensor_mem (by simp)) b (by decide) (hint humidity)
  · exact arrives_printF (sensor_mem (by simp)) b (by decide) (hint airQuality)

/-- Half a degree below zero, and a pressure of 1013.25 hPa. -/
theorem measurements_arrive_frost : MeasurementsArrive .OUT ⟨-5, 101325, 4210, 5530, 20⟩ :=
  measurements_arrive .OUT (-5) 101325 4210 5530 20 (by decide)

end SmartWindow
