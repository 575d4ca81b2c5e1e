/-
The alarm states that `decisionLoop` publishes and `Webserver.Main` shows,
over whole runs. A pass writes its rows in the order of the text, each in the
second the clock then shows; a table takes one row in a second
(`Database.insert`). Air quality goes into a table that does not exist, which
nobody can tell because its alarm never stands; humidity is written only
under an alarm, and then twice.
-/
import SmartWindow.Controller.Latches
import SmartWindow.Store.Schema

namespace SmartWindow

/-- What a pass meets: the readings, and the second of its `k`th row. -/
structure PassInput where
  readings : Readings
  clock : Nat → Nat

/-- The loop and the database between two passes. -/
structure Published where
  loop : LoopState
  db : Database

def publishAt (clock : Nat → Nat) (rows : List Write) (db : Database) : Database :=
  rows.zipIdx.foldl (fun db row => db.insert (clock row.2) row.1) db

def publishedPass (s : Published) (p : PassInput) : Published where
  loop := (decisionPass s.loop p.readings).state
  db := publishAt p.clock (decisionPass s.loop p.readings).published s.db

/-- The state after passes from the initial database, whose script ran in the second `now`. -/
def publishedRun (now : Nat) (ps : List PassInput) : Published :=
  ps.foldl publishedPass ⟨.start, .script now⟩

/-! ## What the tables should say -/

/-- The classification of a reading with a range: 2 (alarm), 0 (OK), 1 (warning). -/
def rangeState (alarm : Bool) (inside min max : Int) : String :=
  if alarm then "2" else if min ≤ inside ∧ inside ≤ max then "0" else "1"

/-- The classification of the others: 2 (alarm), 0 (OK). -/
def alarmState (alarm : Bool) : String := if alarm then "2" else "0"

/-- The four tables that `Main` reads say what the pass with these readings, which ended in `s`,
found. -/
structure Truthful (r : Readings) (s : Published) : Prop where
  airQ : s.db.latest "Air_Quality_AlarmState" = some (alarmState s.loop.alarms.airQ_alarm)
  temp : s.db.latest "Temp_AlarmState" =
    some (rangeState s.loop.alarms.temp_alarm r.temp_in r.temp_min r.temp_max)
  humid : s.db.latest "Humidity_AlarmState" =
    some (rangeState s.loop.alarms.humid_alarm r.humid_in r.humid_min r.humid_max)
  vol : s.db.latest "Volume_AlarmState" = some (alarmState s.loop.alarms.vol_alarm)

/-! ## When they do -/

def passAlarms (s : Published) (p : PassInput) : Alarms := updateAlarms p.readings s.loop.alarms

/-- The row of a single write is accepted, or the table already says what it would. -/
def Lands (db : Database) (name : String) (now : Nat) (state : String) : Prop :=
  db.Free name now ∨ db.latest name = some state

/-- The two rows under a humidity alarm: the second is rejected, and the first is accepted unless the
table already says alarm. -/
def HumidLands (db : Database) (clock : Nat → Nat) : Prop :=
  Lands db "Humidity_AlarmState" (clock 2) "2" ∧
    (clock 3 = clock 2 ∨ ¬ db.Free "Humidity_AlarmState" (clock 3))

/-- A pass that leaves the tables truthful, in terms of the state it starts in and of its inputs. -/
structure Tells (s : Published) (p : PassInput) : Prop where
  temp : Lands s.db "Temp_AlarmState" (p.clock 1)
    (rangeState (passAlarms s p).temp_alarm p.readings.temp_in p.readings.temp_min p.readings.temp_max)
  humid_on : (passAlarms s p).humid_alarm = true → HumidLands s.db p.clock
  humid_off : (passAlarms s p).humid_alarm = false → s.db.latest "Humidity_AlarmState" =
    some (rangeState false p.readings.humid_in p.readings.humid_min p.readings.humid_max)
  vol : Lands s.db "Volume_AlarmState" (p.clock (if (passAlarms s p).humid_alarm then 4 else 2))
    (alarmState (passAlarms s p).vol_alarm)

/-! ## One pass -/

/-- What no pass changes: three of the tables exist, the one for air quality does not, and so the
table `Main` reads keeps its first row, which is right because the alarm never stands. -/
structure Published.Ok (s : Published) : Prop where
  missing : s.db "AirQuality_AlarmState" = none
  airQ : s.db.latest "Air_Quality_AlarmState" = some "0"
  temp : (s.db "Temp_AlarmState").isSome = true
  humid : (s.db "Humidity_AlarmState").isSome = true
  vol : (s.db "Volume_AlarmState").isSome = true
  alarm : s.loop.alarms.airQ_alarm = false

theorem publish_eq (r : Readings) (a : Alarms) :
    publish r a =
      [writeAirQState (alarmState a.airQ_alarm),
        writeTemperatureState (rangeState a.temp_alarm r.temp_in r.temp_min r.temp_max)] ++
      (if a.humid_alarm then
        [writeHumdityState "2", writeHumdityState (rangeState false r.humid_in r.humid_min r.humid_max)]
        else []) ++
      [writeVolumeState (alarmState a.vol_alarm)] := by
  unfold publish rangeState alarmState
  split_ifs <;> simp_all

/-- The tables that the publishing section names. -/
def publishedTables : List String :=
  ["AirQuality_AlarmState", "Temp_AlarmState", "Humidity_AlarmState", "Volume_AlarmState"]

theorem mem_publish {r : Readings} {a : Alarms} {row : Write} (h : row ∈ publish r a) :
    row.1 ∈ publishedTables ∧ row.2 ∈ ["0", "1", "2"] := by
  have halarm (alarm : Bool) : alarmState alarm ∈ ["0", "1", "2"] := by
    cases alarm <;> decide
  have hrange (alarm : Bool) (inside min max : Int) : rangeState alarm inside min max ∈ ["0", "1", "2"] := by
    unfold rangeState
    split_ifs <;> decide
  rw [publish_eq] at h
  simp only [List.mem_append, List.mem_cons, List.mem_ite_nil_right, List.not_mem_nil, or_false] at h
  rcases h with ((rfl | rfl) | ⟨-, rfl | rfl⟩) | rfl
  · exact ⟨by simp [publishedTables, writeAirQState], halarm _⟩
  · exact ⟨by simp [publishedTables, writeTemperatureState], hrange _ _ _ _⟩
  · exact ⟨by simp [publishedTables, writeHumdityState], by simp [writeHumdityState]⟩
  · exact ⟨by simp [publishedTables, writeHumdityState], hrange false _ _ _⟩
  · exact ⟨by simp [publishedTables, writeVolumeState], halarm _⟩

/-- The database after a pass: the row for air quality is rejected, the others follow in order. -/
theorem publishAt_publish {db : Database} (h : db "AirQuality_AlarmState" = none) (clock : Nat → Nat)
    (r : Readings) (a : Alarms) :
    publishAt clock (publish r a) db =
      let temp := db.insert (clock 1)
        (writeTemperatureState (rangeState a.temp_alarm r.temp_in r.temp_min r.temp_max))
      if a.humid_alarm then
        ((temp.insert (clock 2) (writeHumdityState "2")).insert (clock 3)
          (writeHumdityState (rangeState false r.humid_in r.humid_min r.humid_max))).insert (clock 4)
          (writeVolumeState (alarmState a.vol_alarm))
      else temp.insert (clock 2) (writeVolumeState (alarmState a.vol_alarm)) := by
  rw [publish_eq]
  have hair : ∀ state, db.insert (clock 0) (writeAirQState state) = db := fun state =>
    Database.insert_of_none _ h
  cases a.humid_alarm <;> simp [publishAt, hair]

theorem lands_iff {db : Database} {name : String} (h : (db name).isSome = true) (now : Nat)
    (state : String) : (db.insert now (name, state)).latest name = some state ↔ Lands db name now state := by
  rw [Database.latest_insert h]
  unfold Lands
  split <;> simp_all

theorem lands_insert_of_ne (db : Database) (now now' : Nat) {write : String × String} {name : String}
    (h : name ≠ write.1) (state : String) :
    Lands (db.insert now write) name now' state ↔ Lands db name now' state := by
  simp only [Lands, db.free_insert_of_ne now now' h, db.latest_insert_of_ne now h]

/-- The two writes under a humidity alarm. The second says 0 or 1 and never 2. -/
theorem humidLands_iff {db : Database} (h : (db "Humidity_AlarmState").isSome = true)
    (clock : Nat → Nat) (inside min max : Int) :
    ((db.insert (clock 2) (writeHumdityState "2")).insert (clock 3)
      (writeHumdityState (rangeState false inside min max))).latest "Humidity_AlarmState" = some "2" ↔
    HumidLands db clock := by
  have hne : rangeState false inside min max ≠ "2" := by
    simp only [rangeState, Bool.false_eq_true, if_false]
    split <;> decide
  have hsome : (db.insert (clock 2) ("Humidity_AlarmState", "2") "Humidity_AlarmState").isSome = true := by
    rw [Database.isSome_insert, h]
  have hfree := Database.free_insert h (clock 2) (clock 3) "2"
  simp only [writeHumdityState, HumidLands]
  rw [← lands_iff h, Database.latest_insert hsome]
  by_cases htaken : clock 3 = clock 2 ∨ ¬ db.Free "Humidity_AlarmState" (clock 3)
  · rw [if_neg (by rw [hfree]; tauto)]
    simp [htaken]
  · rw [if_pos (by rw [hfree]; tauto)]
    simp [hne, htaken]

/-! The four tables after a pass from a state `s` that is `Ok`. -/

section Pass

variable {s : Published} (hs : s.Ok) (p : PassInput)

include hs

theorem airQ_alarm_pass : (passAlarms s p).airQ_alarm = false := by
  rw [← Bool.not_eq_true]
  intro h
  have hon := (airQualityAlarm_eq_true_iff.1 h).1
  rw [hs.alarm] at hon
  exact absurd hon (by decide)

theorem db_pass : (publishedPass s p).db =
    let temp := s.db.insert (p.clock 1) ("Temp_AlarmState", rangeState (passAlarms s p).temp_alarm
      p.readings.temp_in p.readings.temp_min p.readings.temp_max)
    if (passAlarms s p).humid_alarm then
      ((temp.insert (p.clock 2) ("Humidity_AlarmState", "2")).insert (p.clock 3)
        ("Humidity_AlarmState", rangeState false p.readings.humid_in p.readings.humid_min
          p.readings.humid_max)).insert (p.clock 4)
        ("Volume_AlarmState", alarmState (passAlarms s p).vol_alarm)
    else temp.insert (p.clock 2) ("Volume_AlarmState", alarmState (passAlarms s p).vol_alarm) :=
  publishAt_publish hs.missing p.clock p.readings (passAlarms s p)

theorem airQ_pass : (publishedPass s p).db.latest "Air_Quality_AlarmState" = some "0" := by
  rw [← hs.airQ, db_pass hs p]
  dsimp only
  split <;> simp [Database.latest_insert_of_ne]

theorem temp_pass (state : String)
    (h : state = rangeState (passAlarms s p).temp_alarm p.readings.temp_in p.readings.temp_min
      p.readings.temp_max) :
    (publishedPass s p).db.latest "Temp_AlarmState" = some state ↔
      Lands s.db "Temp_AlarmState" (p.clock 1) state := by
  rw [← lands_iff hs.temp, db_pass hs p, ← h]
  dsimp only
  split <;> simp [Database.latest_insert_of_ne]

theorem humid_pass_on (h : (passAlarms s p).humid_alarm = true) :
    (publishedPass s p).db.latest "Humidity_AlarmState" = some "2" ↔ HumidLands s.db p.clock := by
  have hne : "Humidity_AlarmState" ≠ "Temp_AlarmState" := by decide
  have hsome := hs.humid
  rw [db_pass hs p]
  dsimp only
  rw [if_pos h, Database.latest_insert_of_ne _ _ (by simp)]
  generalize hw : rangeState (passAlarms s p).temp_alarm p.readings.temp_in p.readings.temp_min
    p.readings.temp_max = state
  rw [← Database.isSome_insert s.db (p.clock 1) ("Temp_AlarmState", state)] at hsome
  have hiff := humidLands_iff hsome p.clock p.readings.humid_in p.readings.humid_min
    p.readings.humid_max
  rw [writeHumdityState, writeHumdityState] at hiff
  rw [hiff, HumidLands, HumidLands, lands_insert_of_ne _ _ _ hne, Database.free_insert_of_ne _ _ _ hne]

theorem humid_pass_off (h : (passAlarms s p).humid_alarm = false) :
    (publishedPass s p).db.latest "Humidity_AlarmState" = s.db.latest "Humidity_AlarmState" := by
  rw [db_pass hs p]
  simp [h, Database.latest_insert_of_ne]

theorem vol_pass (state : String) (h : state = alarmState (passAlarms s p).vol_alarm) :
    (publishedPass s p).db.latest "Volume_AlarmState" = some state ↔
      Lands s.db "Volume_AlarmState" (p.clock (if (passAlarms s p).humid_alarm then 4 else 2)) state := by
  have htemp : "Volume_AlarmState" ≠ "Temp_AlarmState" := by decide
  have hhumid : "Volume_AlarmState" ≠ "Humidity_AlarmState" := by decide
  rw [db_pass hs p, ← h]
  dsimp only
  split
  · rw [lands_iff (by simpa only [Database.isSome_insert] using hs.vol), lands_insert_of_ne _ _ _ hhumid,
      lands_insert_of_ne _ _ _ hhumid, lands_insert_of_ne _ _ _ htemp]
  · rw [lands_iff (by simpa only [Database.isSome_insert] using hs.vol), lands_insert_of_ne _ _ _ htemp]

end Pass

theorem isSome_publishAt (clock : Nat → Nat) (rows : List Write) (db : Database) (name : String) :
    (publishAt clock rows db name).isSome = (db name).isSome := by
  refine Trans.foldl_invariant (fun d : Database => (d name).isSome = (db name).isSome) rfl ?_ rows.zipIdx
  intro d row h
  rw [Database.isSome_insert, h]

theorem Published.Ok.pass {s : Published} (hs : s.Ok) (p : PassInput) : (publishedPass s p).Ok := by
  have hkept : ∀ name, ((publishedPass s p).db name).isSome = (s.db name).isSome := fun name =>
    isSome_publishAt _ _ _ _
  refine ⟨?_, airQ_pass hs p, ?_, ?_, ?_, airQ_alarm_pass hs p⟩
  · rw [← Option.not_isSome_iff_eq_none, hkept, hs.missing]
    simp
  · rw [hkept, hs.temp]
  · rw [hkept, hs.humid]
  · rw [hkept, hs.vol]

theorem publishedRun_snoc (now : Nat) (ps : List PassInput) (p : PassInput) :
    publishedRun now (ps ++ [p]) = publishedPass (publishedRun now ps) p := by
  simp [publishedRun]

theorem Published.Ok.run (now : Nat) (ps : List PassInput) : (publishedRun now ps).Ok :=
  Trans.foldl_invariant Published.Ok ⟨rfl, rfl, rfl, rfl, rfl, rfl⟩ (fun _ p h => h.pass p) ps

/-- **What a pass publishes is true exactly when it lands.** -/
theorem truthful_iff {s : Published} (hs : s.Ok) (p : PassInput) :
    Truthful p.readings (publishedPass s p) ↔ Tells s p := by
  refine ⟨fun h => ⟨?_, fun hon => ?_, fun hoff => ?_, ?_⟩, fun h => ⟨?_, ?_, ?_, ?_⟩⟩
  · exact (temp_pass hs p _ rfl).1 h.temp
  · refine (humid_pass_on hs p hon).1 (h.humid.trans ?_)
    have : (publishedPass s p).loop.alarms.humid_alarm = true := hon
    simp [rangeState, this]
  · rw [← humid_pass_off hs p hoff, h.humid]
    have : (publishedPass s p).loop.alarms.humid_alarm = false := hoff
    rw [this]
  · exact (vol_pass hs p _ rfl).1 h.vol
  · have : (publishedPass s p).loop.alarms.airQ_alarm = false := airQ_alarm_pass hs p
    rw [airQ_pass hs p, this]
    rfl
  · exact (temp_pass hs p _ rfl).2 h.temp
  · cases hh : (passAlarms s p).humid_alarm with
    | true =>
      have : (publishedPass s p).loop.alarms.humid_alarm = true := hh
      rw [(humid_pass_on hs p hh).2 (h.humid_on hh), this]
      rfl
    | false =>
      have : (publishedPass s p).loop.alarms.humid_alarm = false := hh
      rw [humid_pass_off hs p hh, h.humid_off hh, this]
  · exact (vol_pass hs p _ rfl).2 h.vol

/-! ## Whole runs -/

/-- After every pass of the run the four tables say what it found. -/
def PublishedTruth (now : Nat) (ps : List PassInput) : Prop :=
  ∀ pre p, pre ++ [p] <+: ps → Truthful p.readings (publishedRun now (pre ++ [p]))

/-- **When the published alarm states tell the truth**: in the runs every pass of which lands what it
writes, and in no others. -/
theorem publishedTruth_iff (now : Nat) (ps : List PassInput) :
    PublishedTruth now ps ↔ ∀ pre p, pre ++ [p] <+: ps → Tells (publishedRun now pre) p := by
  unfold PublishedTruth
  refine forall_congr' fun pre => forall_congr' fun p => forall_congr' fun _ => ?_
  rw [publishedRun_snoc, truthful_iff (.run now pre)]

/-- A humid room with more humid air outside: no alarm, and so no row that says warning. -/
theorem humidity_warning_missed :
    ¬ PublishedTruth 0 [⟨{ firstRows with humid_in := 70, humid_out := 80 }, fun k => 5 + k⟩] := by
  intro h
  have hhumid := (h [] _ (List.prefix_refl _)).humid
  exact absurd hhumid (by decide)

end SmartWindow
