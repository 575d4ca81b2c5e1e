/-
The alarms of `decisionLoop` on readings with their fractions. The loop once
read its sensors by `get_latest_value_double` and reads them by
`get_latest_value_int` now. `updateAlarmsExact` is the alarm section as it was,
on the numbers the tables hold, and `decidesLikeExact_iff` says in which runs
the alarms are the same. The limits, and with them the averages, are integers
on both sides.
-/
import SmartWindow.Controller.Latches
import SmartWindow.Store.Decimal

namespace SmartWindow

open Truncation

/-! ## What the tables hold -/

def Reads.map {B B' I I' : Type} (f : B → B') (g : I → I') (q : Reads B I) : Reads B' I' where
  autoMode_bo := f q.autoMode_bo
  manClose_bo := f q.manClose_bo
  manOpen_bo := f q.manOpen_bo
  win_open_bo := f q.win_open_bo
  airP_in := g q.airP_in
  airP_out := g q.airP_out
  airP_max := g q.airP_max
  airQ_in := g q.airQ_in
  airQ_out := g q.airQ_out
  airQ_max := g q.airQ_max
  humid_in := g q.humid_in
  humid_out := g q.humid_out
  humid_min := g q.humid_min
  humid_max := g q.humid_max
  temp_in := g q.temp_in
  temp_out := g q.temp_out
  temp_min := g q.temp_min
  temp_max := g q.temp_max
  vol_in := g q.vol_in
  vol_out := g q.vol_out
  vol_max := g q.vol_max
  priority := g q.priority

/-- The latest rows of the tables in one pass, as the database prints them. -/
abbrev Stored := Reads Bool Decimal

/-- What `get_latest_value_int` makes of them. -/
def Stored.delivered (q : Stored) : Readings := q.map id fun d => atoi d.text

/-- What `get_latest_value_double` makes of them. -/
def Stored.exact (q : Stored) : Reads Bool Rat := q.map id fun d => atof d.text

/-! ## The alarm section on exact readings -/

def airQualityAlarmExact (airQ_in : Rat) (airQ_max : Int) (airQ_alarm : Bool) : Bool :=
  let airQ_alarm := if (airQ_in + airQ_in) / 2 > airQ_max then true else airQ_alarm
  if (airQ_in + airQ_in) / 2 ≥ (airQ_max - 2 : Int) then false else airQ_alarm

def volumeAlarmExact (vol_out : Rat) (vol_max : Int) (vol_alarm : Bool) : Bool :=
  let vol_alarm := if vol_out > vol_max then true else vol_alarm
  if (vol_max - 2 : Int) ≥ vol_out then false else vol_alarm

/-- The alarm section of a pass with the limits of `r` and the sensor readings of `x`. -/
def updateAlarmsExact (r : Readings) (x : Reads Bool Rat) (a : Alarms) : Alarms where
  airQ_alarm := airQualityAlarmExact x.airQ_in r.airQ_max a.airQ_alarm
  temp_alarm := rangeAlarm x.temp_in x.temp_out (r.temp_min : Rat) r.temp_max
    (average r.temp_min r.temp_max) a.temp_alarm
  humid_alarm := rangeAlarm x.humid_in x.humid_out (r.humid_min : Rat) r.humid_max
    (average r.humid_min r.humid_max) a.humid_alarm
  vol_alarm := volumeAlarmExact x.vol_out r.vol_max a.vol_alarm
  wind_alarm := false

/-- The alarms after passes that read the tables exactly. -/
def alarmsExact (qs : List Stored) : Alarms :=
  qs.foldl (fun a q => updateAlarmsExact q.delivered q.exact a) .off

/-- After every pass of a run the alarms are those of the exact readings. -/
def DecidesLikeExact (qs : List Stored) : Prop :=
  ∀ pre, pre <+: qs → alarmsAfter (pre.map Stored.delivered) = alarmsExact pre

/-! ## Where one pass decides the same -/

section

variable {α : Type} [LinearOrder α] {inside outside min max average : α}

theorem rangeAlarm_off :
    rangeAlarm inside outside min max average false = rangeSet inside outside min max := by
  unfold rangeAlarm
  cases rangeSet inside outside min max <;> simp

theorem rangeReset_of_rangeSet (h : rangeSet inside outside min max = true) :
    rangeReset inside outside min max average = false := by
  simp only [rangeSet, Bool.or_eq_true, Bool.and_eq_true, decide_eq_true_eq] at h
  simp only [rangeReset, Bool.and_eq_false_iff, decide_eq_false_iff_not, not_le]
  rcases h with ⟨hlow, -⟩ | ⟨hhigh, -⟩
  · exact .inr (.inr hlow)
  · exact .inr (.inl hhigh)

theorem rangeAlarm_on :
    rangeAlarm inside outside min max average true = !rangeReset inside outside min max average := by
  unfold rangeAlarm
  by_cases h : rangeSet inside outside min max = true
  · simp [h, rangeReset_of_rangeSet h]
  · simp only [h, Bool.false_eq_true, if_false]
    cases rangeReset inside outside min max average <;> rfl

end

/-- The temperature (humidity) alarm decides alike on the readings and on their integer parts: when it
is off, the fractions are not needed to set it, and when it is on, they do not decide on clearing it. -/
def RangeAgrees (inside outside : Rat) (min max : Int) (alarm : Bool) : Prop :=
  if alarm then
    rangeReset (trunc inside) (trunc outside) min max (average min max) =
      rangeReset inside outside (min : Rat) max (average min max : Int)
  else
    rangeSet inside outside (min : Rat) max = true →
      rangeSet (trunc inside) (trunc outside) min max = true

/-- The volume alarm decides alike on a reading and on its integer part: when it is off, the reading
is not less than one above the limit, and when it is on, not less than one above the limit less two,
with a negative limit left out, as a negative reading is cut upwards. -/
def VolumeAgrees (vol_out : Rat) (vol_max : Int) (alarm : Bool) : Prop :=
  if alarm then
    ¬ (0 ≤ vol_max - 2 ∧ ((vol_max - 2 : Int) : Rat) < vol_out ∧
      vol_out < (vol_max - 2 : Int) + 1)
  else ¬ (0 ≤ vol_max ∧ (vol_max : Rat) < vol_out ∧ vol_out < vol_max + 1)

/-- The fractions of a pass decide nothing. -/
structure CutAgrees (a : Alarms) (q : Stored) : Prop where
  temp : RangeAgrees q.exact.temp_in q.exact.temp_out q.delivered.temp_min q.delivered.temp_max
    a.temp_alarm
  humid : RangeAgrees q.exact.humid_in q.exact.humid_out q.delivered.humid_min
    q.delivered.humid_max a.humid_alarm
  vol : VolumeAgrees q.exact.vol_out q.delivered.vol_max a.vol_alarm

variable {inside outside : Rat} {min max : Int} {alarm : Bool}

theorem rangeSet_of_trunc (h : rangeSet (trunc inside) (trunc outside) min max = true) :
    rangeSet inside outside (min : Rat) max = true := by
  simp only [rangeSet, Bool.or_eq_true, Bool.and_eq_true, decide_eq_true_eq] at h ⊢
  exact h.imp (.imp lt_of_trunc_lt_intCast lt_of_trunc_lt) (.imp lt_of_intCast_lt_trunc lt_of_trunc_lt)

theorem rangeAgrees_iff :
    rangeAlarm (trunc inside) (trunc outside) min max (average min max) alarm =
      rangeAlarm inside outside (min : Rat) max (average min max : Int) alarm ↔
      RangeAgrees inside outside min max alarm := by
  cases alarm with
  | true =>
    rw [rangeAlarm_on, rangeAlarm_on, Bool.not_inj_iff]
    simp [RangeAgrees]
  | false =>
    rw [rangeAlarm_off, rangeAlarm_off, Bool.eq_iff_iff]
    exact ⟨fun h => h.2, fun h => ⟨rangeSet_of_trunc, h⟩⟩

theorem volumeAlarmExact_eq_true_iff {vol_out : Rat} {vol_max : Int} {vol_alarm : Bool} :
    volumeAlarmExact vol_out vol_max vol_alarm = true ↔
      vol_out > vol_max ∨ (vol_alarm = true ∧ ¬ vol_out ≤ (vol_max - 2 : Int)) := by
  unfold volumeAlarmExact
  by_cases hset : vol_out > vol_max
  · have hreset : ¬ ((vol_max - 2 : Int) : Rat) ≥ vol_out := by
      push_cast
      linarith
    simp only [hset, hreset, if_true, if_false, true_or]
  · simp only [hset, if_false, false_or]
    split <;> simp_all

theorem volumeAgrees_iff {vol_out : Rat} {vol_max : Int} {vol_alarm : Bool} :
    volumeAlarm (trunc vol_out) vol_max vol_alarm = volumeAlarmExact vol_out vol_max vol_alarm ↔
      VolumeAgrees vol_out vol_max vol_alarm := by
  rw [Bool.eq_iff_iff, volumeAlarm_eq_true_iff, volumeAlarmExact_eq_true_iff]
  cases vol_alarm with
  | true =>
    have hband : ∀ x : Rat, vol_max < x → ((vol_max - 2 : Int) : Rat) < x := by
      intro x hx
      push_cast
      linarith
    simp only [VolumeAgrees, if_true, ← lt_trunc_iff_iff, true_and, not_le, gt_iff_lt]
    rw [or_iff_right_of_imp fun h => by omega, or_iff_right_of_imp (hband vol_out)]
  | false =>
    simp only [VolumeAgrees, Bool.false_eq_true, if_false, false_and, or_false, gt_iff_lt]
    exact lt_trunc_iff_iff

theorem airQualityAlarmExact_off (airQ_in : Rat) (airQ_max : Int) :
    airQualityAlarmExact airQ_in airQ_max false = false := by
  unfold airQualityAlarmExact
  by_cases hset : (airQ_in + airQ_in) / 2 > airQ_max
  · have hreset : (airQ_in + airQ_in) / 2 ≥ (airQ_max - 2 : Int) := by
      push_cast
      linarith
    simp only [hreset, if_true]
  · simp only [hset, if_false, ite_self]

/-! ## Whole runs -/

/-- One pass of both loops, side by side. -/
def bothUpdate (s : Alarms × Alarms) (q : Stored) : Alarms × Alarms :=
  (updateAlarms q.delivered s.1, updateAlarmsExact q.delivered q.exact s.2)

def bothAlarms (qs : List Stored) : Alarms × Alarms := qs.foldl bothUpdate (.off, .off)

theorem bothAlarms_eq (qs : List Stored) :
    bothAlarms qs = (alarmsAfter (qs.map Stored.delivered), alarmsExact qs) := by
  induction qs using List.reverseRecOn with
  | nil => rfl
  | append_singleton qs q ih =>
    rw [List.map_append, List.map_singleton, alarmsAfter_snoc]
    unfold bothAlarms alarmsExact at *
    simp only [List.foldl_append, List.foldl_cons, List.foldl_nil, ih, bothUpdate]

theorem updateAlarms_eq_exact_iff {a : Alarms} (hoff : a.airQ_alarm = false) (q : Stored) :
    updateAlarms q.delivered a = updateAlarmsExact q.delivered q.exact a ↔ CutAgrees a q := by
  have hairQ : airQualityAlarm q.delivered.airQ_in q.delivered.airQ_max a.airQ_alarm =
      airQualityAlarmExact q.exact.airQ_in q.delivered.airQ_max a.airQ_alarm := by
    rw [hoff, airQualityAlarm_off, airQualityAlarmExact_off]
  -- What is delivered are the integer parts of the exact readings.
  have hcut : ∀ d : Decimal, atoi d.text = trunc (atof d.text) := fun d => d.atoi_text_eq_trunc
  have hdelivered : q.delivered = { q.delivered with
      temp_in := trunc q.exact.temp_in, temp_out := trunc q.exact.temp_out
      humid_in := trunc q.exact.humid_in, humid_out := trunc q.exact.humid_out
      vol_out := trunc q.exact.vol_out } := by
    simp only [Stored.delivered, Stored.exact, Reads.map, hcut]
  rw [hdelivered]
  simp only [updateAlarms, updateAlarmsExact, Alarms.mk.injEq, hairQ, rangeAgrees_iff,
    volumeAgrees_iff, and_true, true_and]
  exact ⟨fun h => ⟨h.1, h.2.1, h.2.2⟩, fun h => ⟨h.temp, h.humid, h.vol⟩⟩

/-- **In which runs the integer readings decide like the exact ones**: where no pass needs a fraction to
decide. -/
theorem decidesLikeExact_iff (qs : List Stored) :
    DecidesLikeExact qs ↔
      ∀ pre q, pre ++ [q] <+: qs → CutAgrees (alarmsAfter (pre.map Stored.delivered)) q := by
  have h : (∀ pre, pre <+: qs → (bothAlarms pre).1 = (bothAlarms pre).2) ↔
      ∀ pre q, pre ++ [q] <+: qs → CutAgrees (bothAlarms pre).1 q :=
    @Trans.foldl_prefix_iff _ _ bothUpdate (.off, .off) (fun s => s.1.airQ_alarm = false)
      (fun s => s.1 = s.2) (fun s q => CutAgrees s.1 q) rfl rfl
      (fun s q hoff => by simp [bothUpdate, updateAlarms, hoff, airQualityAlarm_off])
      (fun s q hoff heq => by
        simp only [bothUpdate, ← heq]
        exact updateAlarms_eq_exact_iff hoff q) qs
  simp only [bothAlarms_eq] at h
  exact h

/-- Outside it is half a decibel louder than allowed: only the exact reading raises the alarm. -/
def halfOver : Stored :=
  { firstRows.map id Decimal.ofInt with
    vol_out := ⟨false, str "60", str "5", by decide, List.all_eq_true.1 (by decide),
      List.all_eq_true.1 (by decide)⟩ }

theorem cut_misses_alarm : ¬ DecidesLikeExact [halfOver] := by
  intro h
  have hcut : (alarmsAfter ([halfOver].map Stored.delivered)).vol_alarm = false := by decide
  have hnumber : halfOver.vol_out.signum *
      natOf (halfOver.vol_out.whole ++ halfOver.vol_out.fraction) = 605 := by decide
  have hplaces : halfOver.vol_out.fraction.length = 1 := by decide
  have hloud : (60 : Rat) < atof halfOver.vol_out.text := by
    rw [Decimal.atof_text, Decimal.value, hnumber, hplaces, Rat.mkRat_eq_div]
    norm_num
  have hmax : halfOver.delivered.vol_max = 60 := by decide
  have hexact : (alarmsExact [halfOver]).vol_alarm = true := by
    change volumeAlarmExact (atof halfOver.vol_out.text) halfOver.delivered.vol_max false = true
    rw [volumeAlarmExact_eq_true_iff, hmax]
    exact .inl hloud
  have hsame := h [halfOver] (List.prefix_refl _)
  rw [← hsame, hcut] at hexact
  exact absurd hexact (by decide)

end SmartWindow
