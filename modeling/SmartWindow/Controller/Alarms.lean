/-
The first half of a pass of `decisionLoop` (main_controller.cpp): what it
reads from the database and the alarm latches it derives. C's `int` is `Int`
here (the loop is read with exact integers, no overflow), its division is
`Int.tdiv`, and `temp_average` and `humid_average`, stored as `double`, are
the integers they were computed as.
-/
import Mathlib.Order.Basic
import Mathlib.Data.Int.Basic

namespace SmartWindow

/-- What one pass reads, one field for each call of `get_latest_value_bool`
(`B`) and `get_latest_value_int` (`I`), in the order of the calls. -/
structure Reads (B I : Type) where
  autoMode_bo : B
  manClose_bo : B
  manOpen_bo : B
  win_open_bo : B
  airP_in : I
  airP_out : I
  airP_max : I
  airQ_in : I
  airQ_out : I
  airQ_max : I
  humid_in : I
  humid_out : I
  humid_min : I
  humid_max : I
  temp_in : I
  temp_out : I
  temp_min : I
  temp_max : I
  vol_in : I
  vol_out : I
  vol_max : I
  priority : I
  deriving DecidableEq, Repr

/-- The values a pass works with. -/
abbrev Readings := Reads Bool Int

/-- The alarm flags of `decisionLoop`, which live across passes. -/
structure Alarms where
  airQ_alarm : Bool
  temp_alarm : Bool
  humid_alarm : Bool
  vol_alarm : Bool
  wind_alarm : Bool
  deriving DecidableEq, Repr

/-- The alarms before the first pass. -/
def Alarms.off : Alarms := ⟨false, false, false, false, false⟩

/-- Air Quality Alarm: two statements, the second of which may undo the first. In exact integers, as all of
this section: a limit so low that `airQ_max - 2` overflows an `int` is outside the model. -/
def airQualityAlarm (airQ_in airQ_max : Int) (airQ_alarm : Bool) : Bool :=
  let airQ_alarm := if (airQ_in + airQ_in).tdiv 2 > airQ_max then true else airQ_alarm
  if (airQ_in + airQ_in).tdiv 2 ≥ airQ_max - 2 then false else airQ_alarm

/-- `temp_average` and `humid_average`. -/
def average (min max : Int) : Int := (max - min).tdiv 2 + min

section Range

variable {α : Type} [LT α] [LE α] [DecidableLT α] [DecidableLE α]

/-- The condition that sets the temperature (humidity) alarm: the inside
reading is out of its limits, and the outside reading lies on the helpful side. -/
def rangeSet (inside outside min max : α) : Bool :=
  (inside < min && inside < outside) || (inside > max && inside > outside)

/-- The condition that clears it: both readings are on one side of the
average, and the inside reading is comfortable. -/
def rangeReset (inside outside min max average : α) : Bool :=
  ((outside < average && inside < average) || (outside > average && inside > average)) &&
    (inside ≤ max && inside ≥ min)

/-- Temperature Alarm and Humidity Alarm, which are one rule: `if .. else if ..`. -/
def rangeAlarm (inside outside min max average : α) (alarm : Bool) : Bool :=
  if rangeSet inside outside min max then true
  else if rangeReset inside outside min max average then false
  else alarm

end Range

def volumeAlarm (vol_out vol_max : Int) (vol_alarm : Bool) : Bool :=
  let vol_alarm := if vol_out > vol_max then true else vol_alarm
  if vol_max - 2 ≥ vol_out then false else vol_alarm

/-- The alarm section of a pass. The wind alarm is not implemented: it is cleared every time. -/
def updateAlarms (r : Readings) (a : Alarms) : Alarms where
  airQ_alarm := airQualityAlarm r.airQ_in r.airQ_max a.airQ_alarm
  temp_alarm := rangeAlarm r.temp_in r.temp_out r.temp_min r.temp_max
    (average r.temp_min r.temp_max) a.temp_alarm
  humid_alarm := rangeAlarm r.humid_in r.humid_out r.humid_min r.humid_max
    (average r.humid_min r.humid_max) a.humid_alarm
  vol_alarm := volumeAlarm r.vol_out r.vol_max a.vol_alarm
  wind_alarm := false

/-! ## The status tables -/

/-- A table and the value inserted into it. -/
abbrev Write := String × String

def writeAirQState (state : String) : Write := ("AirQuality_AlarmState", state)
def writeHumdityState (state : String) : Write := ("Humidity_AlarmState", state)
def writeTemperatureState (state : String) : Write := ("Temp_AlarmState", state)
def writeVolumeState (state : String) : Write := ("Volume_AlarmState", state)

/-- The section "write current controll status in database". The humidity
branch has no `else`: it writes two rows under an alarm and none without. The
states are 0 (OK), 1 (warning) and 2 (alarm). -/
def publish (r : Readings) (a : Alarms) : List Write :=
  [if a.airQ_alarm then writeAirQState "2" else writeAirQState "0"] ++
  [if a.temp_alarm then writeTemperatureState "2"
    else if r.temp_min ≤ r.temp_in ∧ r.temp_in ≤ r.temp_max then writeTemperatureState "0"
    else writeTemperatureState "1"] ++
  (if a.humid_alarm then
    [writeHumdityState "2",
      if r.humid_min ≤ r.humid_in ∧ r.humid_in ≤ r.humid_max then writeHumdityState "0"
      else writeHumdityState "1"]
    else []) ++
  [if a.vol_alarm then writeVolumeState "2" else writeVolumeState "0"]

end SmartWindow
