/-
What the temperature and the humidity alarm say about airing. Both are one
rule on four readings (`RangeReads`), so each result is proved once, for an
alarm that is this rule on a part of what a pass reads (`RangeAlarm`).

The alarm is a latch with a band: opening helps when it is set, and it stays
until both readings are on one side of the average with the inside reading in
its limits, whatever the outside reading does in between.
-/
import SmartWindow.Controller.Latches

namespace SmartWindow

open Latch

/-- What the temperature (humidity) alarm sees of a pass. -/
structure RangeReads where
  inside : Int
  outside : Int
  min : Int
  max : Int
  deriving DecidableEq, Repr

def tempReads (r : Readings) : RangeReads := ⟨r.temp_in, r.temp_out, r.temp_min, r.temp_max⟩

def humidReads (r : Readings) : RangeReads := ⟨r.humid_in, r.humid_out, r.humid_min, r.humid_max⟩

namespace RangeReads

def Set (r : RangeReads) : Prop := rangeSet r.inside r.outside r.min r.max = true

def Reset (r : RangeReads) : Prop :=
  rangeReset r.inside r.outside r.min r.max (average r.min r.max) = true

/-- The outside reading lies on the helpful side of an inside reading out of its limits. -/
def Helps (r : RangeReads) : Prop :=
  (r.inside < r.min → r.inside < r.outside) ∧ (r.inside > r.max → r.inside > r.outside)

/-- Airing has done all it can: inside is what outside is, and within the limits. -/
def Aired (r : RangeReads) : Prop := r.inside = r.outside ∧ r.min ≤ r.inside ∧ r.inside ≤ r.max

instance (r : RangeReads) : Decidable r.Helps := inferInstanceAs (Decidable (_ ∧ _))

instance (r : RangeReads) : Decidable r.Aired := inferInstanceAs (Decidable (_ ∧ _))

variable {r : RangeReads}

theorem set_iff : r.Set ↔
    (r.inside < r.min ∧ r.inside < r.outside) ∨ (r.inside > r.max ∧ r.inside > r.outside) := by
  simp [Set, rangeSet]

theorem reset_iff : r.Reset ↔
    ((r.outside < average r.min r.max ∧ r.inside < average r.min r.max) ∨
      (r.outside > average r.min r.max ∧ r.inside > average r.min r.max)) ∧
      r.inside ≤ r.max ∧ r.inside ≥ r.min := by
  simp [Reset, rangeReset]

theorem Set.helps (h : r.Set) (hlim : r.min ≤ r.max) : r.Helps := by
  rcases set_iff.1 h with ⟨hlow, hwarm⟩ | ⟨hhigh, hcold⟩
  · exact ⟨fun _ => hwarm, fun hhigh => by omega⟩
  · exact ⟨fun hlow => by omega, fun _ => hcold⟩

/-- The alarm is not cleared while the outside reading is on the wrong side: the inside reading is
then out of its limits. -/
theorem not_reset (h : ¬ r.Helps) : ¬ r.Reset := by
  intro hreset
  obtain ⟨-, hmax, hmin⟩ := reset_iff.1 hreset
  exact h ⟨fun hlow => by omega, fun hhigh => by omega⟩

theorem Aired.not_set (h : r.Aired) : ¬ r.Set := by
  intro hset
  obtain ⟨-, hmin, hmax⟩ := h
  rcases set_iff.1 hset with ⟨hlow, -⟩ | ⟨hhigh, -⟩ <;> omega

theorem Aired.reset_iff (h : r.Aired) : r.Reset ↔ r.inside ≠ average r.min r.max := by
  obtain ⟨heq, hmin, hmax⟩ := h
  rw [RangeReads.reset_iff, ← heq, ← and_assoc]
  simp only [hmin, hmax, and_true, and_self]
  omega

end RangeReads

/-- The alarm is the range rule on these readings. -/
def RangeAlarm (view : Readings → RangeReads) (alarm : Alarms → Bool) : Prop :=
  alarm .off = false ∧ ∀ r a, alarm (updateAlarms r a) = true ↔
    (view r).Set ∨ (alarm a = true ∧ ¬ (view r).Reset)

theorem rangeAlarm_temp : RangeAlarm tempReads (·.temp_alarm) :=
  ⟨rfl, fun _ _ => rangeAlarm_eq_true_iff⟩

theorem rangeAlarm_humid : RangeAlarm humidReads (·.humid_alarm) :=
  ⟨rfl, fun _ _ => rangeAlarm_eq_true_iff⟩

section

variable (view : Readings → RangeReads) (alarm : Alarms → Bool)

/-- After each pass of a run with the alarm on, the outside reading is on the helpful side. -/
def StandsWhileHelpful (rs : List Readings) : Prop :=
  ∀ pre r, pre ++ [r] <+: rs → alarm (alarmsAfter (pre ++ [r])) = true → (view r).Helps

/-- What the alarm says of airing in a run. -/
structure RaisedWhileHelpful (rs : List Readings) : Prop where
  /-- A pass whose outside reading is on the wrong side leaves the alarm as it was. -/
  kept : ∀ pre r, pre ++ [r] <+: rs → ¬ (view r).Helps →
    alarm (alarmsAfter (pre ++ [r])) = alarm (alarmsAfter pre)
  /-- So it stands without helping exactly where it stood before such a pass. -/
  stands_iff : StandsWhileHelpful view alarm rs ↔
    ∀ pre r, pre ++ [r] <+: rs → ¬ (view r).Helps → alarm (alarmsAfter pre) = false

/-- The alarm is off after each pass that finds inside as outside and within the limits. -/
def EndsAired : Prop :=
  ∀ rs r, (view r).Aired → alarm (alarmsAfter (rs ++ [r])) = false

variable {view alarm}

namespace RangeAlarm

theorem snoc (h : RangeAlarm view alarm) (rs : List Readings) (r : Readings) :
    alarm (alarmsAfter (rs ++ [r])) = true ↔
      (view r).Set ∨ (alarm (alarmsAfter rs) = true ∧ ¬ (view r).Reset) := by
  rw [alarmsAfter_snoc]
  exact h.2 r (alarmsAfter rs)

/-- **The temperature and the humidity alarm are latches** on the conditions of their `if .. else if ..`. -/
theorem held (h : RangeAlarm view alarm) (rs : List Readings) :
    alarm (alarmsAfter rs) = true ↔ Held (fun r => (view r).Set) (fun r => (view r).Reset) rs :=
  alarm_held alarm h.1 h.2 rs

theorem kept (h : RangeAlarm view alarm) {pre : List Readings} {r : Readings}
    (hlim : (view r).min ≤ (view r).max) (hwrong : ¬ (view r).Helps) :
    alarm (alarmsAfter (pre ++ [r])) = alarm (alarmsAfter pre) := by
  have hset : ¬ (view r).Set := fun hset => hwrong (hset.helps hlim)
  rw [Bool.eq_iff_iff, h.snoc]
  simp [hset, RangeReads.not_reset hwrong]

/-- **An alarm is raised only while opening helps**, and stands without helping only where it was left
over from an earlier pass. -/
theorem raisedWhileHelpful (h : RangeAlarm view alarm) {rs : List Readings}
    (hlim : ∀ r ∈ rs, (view r).min ≤ (view r).max) : RaisedWhileHelpful view alarm rs := by
  have hkept : ∀ pre r, pre ++ [r] <+: rs → ¬ (view r).Helps →
      alarm (alarmsAfter (pre ++ [r])) = alarm (alarmsAfter pre) :=
    fun pre r hpre => h.kept (hlim r (hpre.subset (by simp)))
  refine ⟨hkept, fun hstands pre r hpre hwrong => ?_, fun hoff pre r hpre hon => ?_⟩
  · rw [← hkept pre r hpre hwrong, ← Bool.not_eq_true]
    exact fun hon => hwrong (hstands pre r hpre hon)
  · by_contra hwrong
    rw [hkept pre r hpre hwrong, hoff pre r hpre hwrong] at hon
    exact absurd hon (by decide)

/-- **When airing ends the alarm**: unless both readings are the average and the alarm stood before. -/
theorem aired_iff (h : RangeAlarm view alarm) (rs : List Readings) {r : Readings}
    (haired : (view r).Aired) :
    alarm (alarmsAfter (rs ++ [r])) = false ↔
      (view r).inside ≠ average (view r).min (view r).max ∨
        ¬ Held (fun r => (view r).Set) (fun r => (view r).Reset) rs := by
  rw [← Bool.not_eq_true, h.snoc, h.held, haired.reset_iff]
  have hset := haired.not_set
  tauto

end RangeAlarm

end

/-! ## Standing without helping -/

/-- In each pass both pairs of limits are in order. -/
def LimitsInOrder (rs : List Readings) : Prop :=
  ∀ r ∈ rs, r.temp_min ≤ r.temp_max ∧ r.humid_min ≤ r.humid_max

/-- **What the two alarms say of airing**, in every run. -/
theorem raised_while_helpful (rs : List Readings) (hlim : LimitsInOrder rs) :
    RaisedWhileHelpful tempReads (·.temp_alarm) rs ∧
      RaisedWhileHelpful humidReads (·.humid_alarm) rs :=
  ⟨rangeAlarm_temp.raisedWhileHelpful fun r hr => (hlim r hr).1,
    rangeAlarm_humid.raisedWhileHelpful fun r hr => (hlim r hr).2⟩

/-- Too cold and too dry inside, first with warmer and damper air outside, then with colder and
drier air. -/
def weatherTurns : List Readings :=
  [{ firstRows with temp_in := 10, temp_out := 15, humid_in := 20, humid_out := 50 },
    { firstRows with temp_in := 10, temp_out := 5, humid_in := 20, humid_out := 10 }]

theorem raised_while_helpful_weatherTurns :
    RaisedWhileHelpful tempReads (·.temp_alarm) weatherTurns ∧
      RaisedWhileHelpful humidReads (·.humid_alarm) weatherTurns :=
  raised_while_helpful weatherTurns (by unfold LimitsInOrder; decide)

/-- Both alarms outlive the help they were raised for. -/
theorem stands_without_helping :
    ¬ ∀ rs, LimitsInOrder rs → StandsWhileHelpful tempReads (·.temp_alarm) rs ∧
      StandsWhileHelpful humidReads (·.humid_alarm) rs := by
  intro h
  have hhelps := (h weatherTurns (by unfold LimitsInOrder; decide)).1
    [{ firstRows with temp_in := 10, temp_out := 15, humid_in := 20, humid_out := 50 }]
    { firstRows with temp_in := 10, temp_out := 5, humid_in := 20, humid_out := 10 }
    (List.prefix_refl _) (by decide)
  exact absurd hhelps (by decide)

/-! ## Ending with the airing -/

/-- **When airing ends the two alarms**, after every history. -/
theorem aired_alarms_off_iff (rs : List Readings) (r : Readings) :
    ((tempReads r).Aired → ((alarmsAfter (rs ++ [r])).temp_alarm = false ↔
      r.temp_in ≠ average r.temp_min r.temp_max ∨
        ¬ Held (fun r => (tempReads r).Set) (fun r => (tempReads r).Reset) rs)) ∧
    ((humidReads r).Aired → ((alarmsAfter (rs ++ [r])).humid_alarm = false ↔
      r.humid_in ≠ average r.humid_min r.humid_max ∨
        ¬ Held (fun r => (humidReads r).Set) (fun r => (humidReads r).Reset) rs)) :=
  ⟨fun haired => rangeAlarm_temp.aired_iff rs haired,
    fun haired => rangeAlarm_humid.aired_iff rs haired⟩

/-- Both readings at the average of their limits: the alarms of the pass before stand. -/
def atAverage : Readings :=
  { firstRows with temp_in := 23, temp_out := 23, humid_in := 47, humid_out := 47 }

theorem aired_alarms_off_iff_atAverage :
    ((alarmsAfter [atAverage]).temp_alarm = false ↔
      atAverage.temp_in ≠ average atAverage.temp_min atAverage.temp_max ∨
        ¬ Held (fun r => (tempReads r).Set) (fun r => (tempReads r).Reset) []) ∧
    ((alarmsAfter [atAverage]).humid_alarm = false ↔
      atAverage.humid_in ≠ average atAverage.humid_min atAverage.humid_max ∨
        ¬ Held (fun r => (humidReads r).Set) (fun r => (humidReads r).Reset) []) :=
  ⟨(aired_alarms_off_iff [] atAverage).1 (by decide),
    (aired_alarms_off_iff [] atAverage).2 (by decide)⟩

theorem average_keeps_alarm :
    ¬ (EndsAired tempReads (·.temp_alarm) ∧ EndsAired humidReads (·.humid_alarm)) := by
  intro h
  have hoff := h.1 [{ firstRows with temp_in := 10, temp_out := 15 }] atAverage (by decide)
  exact absurd hoff (by decide)

end SmartWindow
