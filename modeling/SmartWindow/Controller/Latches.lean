/-
The alarm latches of `decisionLoop` over a whole run. The volume alarm, like
those of temperature and humidity (Airing.lean), is a latch in the sense of
`Latch.Held`: what the alarm says after a pass is determined by the pass that
last set or cleared it. The air-quality alarm is not: its second statement
compares the wrong way and undoes every alarm the first one raises.
-/
import SmartWindow.Lib.Latch
import SmartWindow.Controller.Loop

namespace SmartWindow

open Latch

/-- The alarms after passes with the given readings. -/
def alarmsAfter (rs : List Readings) : Alarms := (passes .start rs).alarms

theorem alarmsAfter_snoc (rs : List Readings) (r : Readings) :
    alarmsAfter (rs ++ [r]) = updateAlarms r (alarmsAfter rs) := by
  simp [alarmsAfter, passes]

/-- An alarm that one pass sets and clears as a latch is one over every run. -/
theorem alarm_held {set reset : Readings → Prop} (alarm : Alarms → Bool) (hoff : alarm .off = false)
    (hpass : ∀ r a, alarm (updateAlarms r a) = true ↔ set r ∨ (alarm a = true ∧ ¬ reset r))
    (rs : List Readings) : alarm (alarmsAfter rs) = true ↔ Held set reset rs :=
  foldl_eq_true_iff (fun s : LoopState => alarm s.alarms) hoff (fun s r => hpass r s.alarms) rs

/-! ## One pass -/

theorem tdiv_double (n : Int) : (n + n).tdiv 2 = n := by
  rw [← Int.two_mul, Int.mul_tdiv_cancel_left n (by decide)]

theorem volumeAlarm_eq_true_iff {vol_out vol_max : Int} {vol_alarm : Bool} :
    volumeAlarm vol_out vol_max vol_alarm = true ↔
      vol_out > vol_max ∨ (vol_alarm = true ∧ ¬ vol_out ≤ vol_max - 2) := by
  unfold volumeAlarm
  by_cases hset : vol_out > vol_max
  · have hreset : ¬ vol_max - 2 ≥ vol_out := by omega
    simp [hset, hreset]
  · simp [hset, and_comm]

/-- Air Quality Alarm: the first statement sets the alarm only above the limit, where the second
clears it. Nothing but a low reading leaves it alone. -/
theorem airQualityAlarm_eq_true_iff {airQ_in airQ_max : Int} {airQ_alarm : Bool} :
    airQualityAlarm airQ_in airQ_max airQ_alarm = true ↔
      airQ_alarm = true ∧ airQ_in < airQ_max - 2 := by
  unfold airQualityAlarm
  rw [tdiv_double]
  by_cases hset : airQ_in > airQ_max
  · have hreset : airQ_in ≥ airQ_max - 2 := by omega
    simp only [hreset, if_true, Bool.false_eq_true, false_iff, not_and]
    omega
  · simp only [hset, if_false]
    split
    · next hreset =>
      simp only [Bool.false_eq_true, false_iff, not_and]
      omega
    · next hreset =>
      have hlow : airQ_in < airQ_max - 2 := by omega
      simp only [hlow, and_true]

theorem airQualityAlarm_off (airQ_in airQ_max : Int) : airQualityAlarm airQ_in airQ_max false = false := by
  rw [← Bool.not_eq_true, airQualityAlarm_eq_true_iff]
  simp

/-- The temperature (humidity) alarm: where both conditions hold, the setting one wins. -/
theorem rangeAlarm_eq_true_iff {inside outside min max average : Int} {alarm : Bool} :
    rangeAlarm inside outside min max average alarm = true ↔
      rangeSet inside outside min max = true ∨
        (alarm = true ∧ ¬ rangeReset inside outside min max average = true) := by
  unfold rangeAlarm
  by_cases hset : rangeSet inside outside min max = true
  · simp [hset]
  · simp [hset, and_comm]

/-! ## Whole runs -/

/-- **The volume alarm is a threshold latch** with a dead band of two. -/
theorem vol_alarm_held (rs : List Readings) :
    (alarmsAfter rs).vol_alarm = true ↔
      Held (fun r : Readings => r.vol_out > r.vol_max) (fun r => r.vol_out ≤ r.vol_max - 2) rs :=
  alarm_held (·.vol_alarm) rfl (fun _ _ => volumeAlarm_eq_true_iff) rs

theorem airQ_alarm_eq_false (rs : List Readings) : (alarmsAfter rs).airQ_alarm = false := by
  induction rs using List.reverseRecOn with
  | nil => rfl
  | append_singleton rs r ih =>
    rw [alarmsAfter_snoc]
    simp only [updateAlarms, ih, airQualityAlarm_off]

/-! ## Both alarms as threshold latches -/

/-- The air-quality and the volume alarm after the last pass are the threshold latches of their
readings and limits. -/
def ThresholdLatches (rs : List Readings) : Prop :=
  ((alarmsAfter rs).airQ_alarm = true ↔
    Held (fun r : Readings => r.airQ_in > r.airQ_max) (fun r => r.airQ_in ≤ r.airQ_max - 2) rs) ∧
  ((alarmsAfter rs).vol_alarm = true ↔
    Held (fun r : Readings => r.vol_out > r.vol_max) (fun r => r.vol_out ≤ r.vol_max - 2) rs)

/-- **When the two alarms are threshold latches after every pass**: in the runs in which the air
quality never exceeds its limit, and in no others. -/
theorem thresholdLatches_iff (rs : List Readings) :
    (∀ pre, pre <+: rs → ThresholdLatches pre) ↔ ∀ r ∈ rs, r.airQ_in ≤ r.airQ_max := by
  refine ⟨fun h r hr => ?_, fun h pre hpre => ⟨?_, vol_alarm_held pre⟩⟩
  · by_contra hlt
    obtain ⟨xs, ys, rfl⟩ := List.mem_iff_append.1 hr
    have hpre : xs ++ [r] <+: xs ++ r :: ys := ⟨ys, by simp⟩
    -- The pass that exceeds the limit sets the latch, but not the alarm.
    have hon := (h _ hpre).1.2 (held_of_last (by omega))
    rw [airQ_alarm_eq_false] at hon
    exact absurd hon (by decide)
  · have hnot : ¬ Held (fun r : Readings => r.airQ_in > r.airQ_max)
        (fun r => r.airQ_in ≤ r.airQ_max - 2) pre :=
      not_held_of_forall fun r hr => by have := h r (hpre.subset hr); omega
    simp [airQ_alarm_eq_false, hnot]

/-- One pass with an air quality of 1 over a limit of 0: the alarm stays off. -/
theorem airQ_alarm_missed : ¬ ThresholdLatches [{ firstRows with airQ_in := 1 }] := by
  intro h
  have hon := h.1.2 ⟨[], _, [], rfl, by decide, by simp⟩
  exact absurd hon (by decide)

end SmartWindow
