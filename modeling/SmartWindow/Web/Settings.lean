/-
The settings page and what depends on it. `/submit` and `/reset` insert any
value that the columns take, and three places read the priority back: `Main`
and `LimitsText` (Webserver.py), whose if-chains have no else, and the
transitions out of `state0` (main_controller.cpp). `usable_iff` says after
which requests all three know what to do; a reset that gets through always
brings them back to it (`usable_after_reset`).
-/
import Mathlib.Data.List.DropRight
import SmartWindow.Controller.FailedReads
import SmartWindow.Lib.Trace
import SmartWindow.Node.Format
import SmartWindow.Store.Client
import SmartWindow.Web.Modes

namespace SmartWindow.Web

open Trace

/-! ## The requests -/

/-- The pages that change the settings. -/
inductive SettingsPage
  | submit (form : Form)
  | reset

def SettingsPage.endpoint : SettingsPage → Endpoint
  | .submit form => .submit form
  | .reset => .reset

/-- The text of what a column stores: a number or NULL. -/
def literal : Option Int → String
  | some v => toString v
  | none => "NULL"

/-- What the server makes of the INSERTs of a request: what the `k`th stores for the string that is
pasted into it, `none` if it rejects it. A number is stored as it is. -/
structure Answer where
  stores : Nat → String → Option (Option Int)
  number : ∀ k v cell, stores k (literal (some v)) = some cell → cell = some v

/-- A settings request and what the server makes of it. -/
structure Change where
  page : SettingsPage
  answer : Answer

def Change.request (c : Change) : Request :=
  ⟨c.page.endpoint, fun k _ value => (c.answer.stores k value).map fun cell => [literal cell]⟩

/-- What the INSERTs store, the `k`th next, up to the first that is rejected. -/
def stored (stores : Nat → String → Option (Option Int)) : Nat → List (String × String) →
    List (String × Option Int)
  | _, [] => []
  | k, w :: writes =>
    match stores k w.2 with
    | some cell => (w.1, cell) :: stored stores (k + 1) writes
    | none => []

/-- The tables and strings of a request. -/
def Change.writes (c : Change) : List (String × String) := inserts (handler false c.page.endpoint)

/-- What a request stores. -/
def Change.stored (c : Change) : List (String × Option Int) := Web.stored c.answer.stores 0 c.writes

/-- All of its INSERTs are taken. -/
def Change.accepted (c : Change) : Bool := c.stored.length == c.writes.length

/-! ## The pages -/

/-- A Wert as Python gets it: NULL is None. -/
def cell (value : String) : Option String := if value = "NULL" then none else some value

/-- The number in a Wert, if it is one. -/
def asInt (wert : Option String) : Option Int := wert.map fun value => atoi (str value)

/-- `(cursor.fetchone())[0]` after a `SELECT Wert` of the row with the greatest ID: it raises if the
table has no row. -/
def fetch (rows : List Row) (table : String) : Option (Option String) := (latest rows table).map cell

/-- Displaying priority in words: a chain without an else. -/
def priorityText (Prio : Option Int) : Option String :=
  if Prio = some 3 then some "Air Quality, Temperature and Humidity"
  else if Prio = some 2 then some "Air Quality"
  else if Prio = some 1 then some "Temperature"
  else if Prio = some 0 then some "Humidity"
  else none

/-- Displaying an alarm state in words with color: a chain without an else. -/
def alarmState (Alarm : Option Int) : Option (String × String) :=
  if Alarm = some 2 then some ("Alarm", "B22222")
  else if Alarm = some 1 then some ("Warning", "CD6839")
  else if Alarm = some 0 then some ("OK", "7CFC00")
  else none

/-- The option that is selected in the settings: a chain without an else. -/
def selectedOption (Prio : Option Int) : Option (String × String × String × String) :=
  if Prio = some 0 then some ("selected", " ", " ", " ")
  else if Prio = some 1 then some (" ", "selected", " ", " ")
  else if Prio = some 2 then some (" ", " ", "selected", " ")
  else if Prio = some 3 then some (" ", " ", " ", "selected")
  else none

structure Home where
  Modus : String
  StateWindow : String
  ManOpen : String
  ManClose : String
  Manu : String
  Auto : String
  OutTemp : Option String
  InTemp : Option String
  OutHum : Option String
  InHum : Option String
  InQual : Option String
  OutQual : Option String
  InPres : Option String
  OutPres : Option String
  InSound : Option String
  OutSound : Option String
  Priority : String
  AirQualityAlarmState : String
  AirColor : String
  TempAlarmState : String
  TempColor : String
  HumidityAlarmState : String
  HumidityColor : String
  NoiseAlarmState : String
  NoiseColor : String
  WindAlarmState : String
  WindColor : String

/-- `Main` after its commit, on the rows the connection sees: the variables, or none if a statement
raises or a variable is not defined. -/
def Main.template (rows : List Row) : Option Home := do
  let InPres ← fetch rows "AirPressure_IN"
  let OutPres ← fetch rows "AirPressure_OUT"
  let InQual ← fetch rows "AirQuality_IN"
  let OutQual ← fetch rows "AirQuality_OUT"
  let Win_Open ← fetch rows "Win_Open"
  let (StateWindow, ManOpen, ManClose) :=
    if Win_Open.any asBool then ("opened", "disabled", " ") else ("closed", " ", "disabled")
  let AutoModus ← fetch rows "AutoModus"
  let (Modus, Manu, Auto, ManOpen, ManClose) :=
    if AutoModus.any asBool then ("automatic", " ", "disabled", "disabled", "disabled")
    else ("manual", "disabled", " ", ManOpen, ManClose)
  let InHum ← fetch rows "Humidity_IN"
  let OutHum ← fetch rows "Humidity_OUT"
  let InTemp ← fetch rows "Temp_IN"
  let OutTemp ← fetch rows "Temp_OUT"
  let InSound ← fetch rows "Volume_IN"
  let OutSound ← fetch rows "Volume_OUT"
  let Prio ← fetch rows "Priority"
  let AirQualityAlarm ← fetch rows "Air_Quality_AlarmState"
  let TempAlarm ← fetch rows "Temp_AlarmState"
  let HumidityAlarm ← fetch rows "Humidity_AlarmState"
  let NoiseAlarm ← fetch rows "Volume_AlarmState"
  let WindAlarm ← fetch rows "Wind_AlarmState"
  let Priority ← priorityText (asInt Prio)
  let (AirQualityAlarmState, AirColor) ← alarmState (asInt AirQualityAlarm)
  let (TempAlarmState, TempColor) ← alarmState (asInt TempAlarm)
  let (HumidityAlarmState, HumidityColor) ← alarmState (asInt HumidityAlarm)
  let (NoiseAlarmState, NoiseColor) ← alarmState (asInt NoiseAlarm)
  let (WindAlarmState, WindColor) ← alarmState (asInt WindAlarm)
  some { Modus, StateWindow, ManOpen, ManClose, Manu, Auto, OutTemp, InTemp, OutHum, InHum, InQual,
         OutQual, InPres, OutPres, InSound, OutSound, Priority, AirQualityAlarmState, AirColor,
         TempAlarmState, TempColor, HumidityAlarmState, HumidityColor, NoiseAlarmState, NoiseColor,
         WindAlarmState, WindColor }

structure Settings where
  MinTemp : Option String
  MaxTemp : Option String
  MinHum : Option String
  MaxHum : Option String
  MaxQual : Option String
  MaxWind : Option String
  MaxSound : Option String
  prio0 : String
  prio1 : String
  prio2 : String
  prio3 : String

/-- `LimitsText`, likewise. -/
def LimitsText.template (rows : List Row) : Option Settings := do
  let MaxWind ← fetch rows "Wind_MAX"
  let MaxQual ← fetch rows "AirQuality_MAX"
  let MaxHum ← fetch rows "Humidity_MAX"
  let MinHum ← fetch rows "Humidity_MIN"
  let MaxTemp ← fetch rows "Temp_MAX"
  let MinTemp ← fetch rows "Temp_MIN"
  let MaxSound ← fetch rows "Volume_MAX"
  let Prio ← fetch rows "Priority"
  let (prio0, prio1, prio2, prio3) ← selectedOption (asInt Prio)
  some { MinTemp, MaxTemp, MinHum, MaxHum, MaxQual, MaxWind, MaxSound, prio0, prio1, prio2, prio3 }

/-! ## The controller -/

/-- What a pass reads from the committed rows: `atoi` of a NULL ends the controller. -/
def get_latest_value_int (s : State) (table : String) : Option Int :=
  (wert s.committed table (maxId s.committed table)).bind fun value => asInt (cell value)

def reads (s : State) : Reads (Option Bool) (Option Int) where
  autoMode_bo := get_latest_value_bool s s "AutoModus"
  manClose_bo := get_latest_value_bool s s "ManClose"
  manOpen_bo := get_latest_value_bool s s "ManOpen"
  win_open_bo := get_latest_value_bool s s "Win_Open"
  airP_in := get_latest_value_int s "AirPressure_IN"
  airP_out := get_latest_value_int s "AirPressure_OUT"
  airP_max := get_latest_value_int s "AirPressure_MAX"
  airQ_in := get_latest_value_int s "AirQuality_IN"
  airQ_out := get_latest_value_int s "AirQuality_OUT"
  airQ_max := get_latest_value_int s "AirQuality_MAX"
  humid_in := get_latest_value_int s "Humidity_IN"
  humid_out := get_latest_value_int s "Humidity_OUT"
  humid_min := get_latest_value_int s "Humidity_MIN"
  humid_max := get_latest_value_int s "Humidity_MAX"
  temp_in := get_latest_value_int s "Temp_IN"
  temp_out := get_latest_value_int s "Temp_OUT"
  temp_min := get_latest_value_int s "Temp_MIN"
  temp_max := get_latest_value_int s "Temp_MAX"
  vol_in := get_latest_value_int s "Volume_IN"
  vol_out := get_latest_value_int s "Volume_OUT"
  vol_max := get_latest_value_int s "Volume_MAX"
  priority := get_latest_value_int s "Priority"

theorem reads_start : reads (.start scriptRows) = Reads.calls firstRows := by decide

/-- Both pages define all their variables, and a pass from `state0` leaves it, whatever the alarms. The
web server sees what its connection has pending, the controller what is committed. -/
structure Usable (s : State) : Prop where
  main : (Main.template (s.committed ++ s.pending)).isSome = true
  limitsText : (LimitsText.template (s.committed ++ s.pending)).isSome = true
  leaves : ∃ r, reads s = Reads.calls r ∧
    ∀ a, (decisionPass (.at .state0 a) r).state.flags .state0 = false

/-! ## What the requests leave -/

/-- What is stored, if it is in the table. -/
def inTable (table : String) (w : String × Option Int) : Option (Option Int) :=
  if w.1 = table then some w.2 else none

def lastStored (cs : List Change) (table : String) : Option (Option Int) :=
  last (inTable table) (cs.flatMap Change.stored)

/-- The requests up to the last that got through: those whose rows are committed. -/
def throughLast (cs : List Change) : List Change := cs.rdropWhile fun c => !c.accepted

/-- The value selects one of the four families. -/
def Selects (priority : Option Int) : Prop := ∃ v, priority = some v ∧ 0 ≤ v ∧ v ≤ 3

/-- The limits the controller reads. -/
def limitTables : List String :=
  ["AirQuality_MAX", "Humidity_MIN", "Humidity_MAX", "Temp_MIN", "Temp_MAX", "Volume_MAX"]

/-- The priority given last and the one committed last are 0 to 3, where the script's 3 counts as the
first, and no limit that the controller reads was last committed as NULL. -/
structure Fine (cs : List Change) : Prop where
  shown : Selects ((lastStored cs "Priority").getD (some 3))
  read : Selects ((lastStored (throughLast cs) "Priority").getD (some 3))
  limits : ∀ table ∈ limitTables, lastStored (throughLast cs) table ≠ some none

/-- The rows for what a request stores. -/
def settingRows (n : Nat) (cells : List (String × Option Int)) : List Row :=
  cells.map fun w => ⟨some n, w.1, literal w.2⟩

theorem execute_stored (n : Nat) (answer : Answer) (k : Nat) (writes : List (String × String))
    (committed pending : List Row) :
    execute n (fun k _ value => (answer.stores k value).map fun cell => [literal cell]) k
        (writes.map (fun w => Op.insert w.1 w.2) ++ [.commit]) (committed, pending) =
      if (stored answer.stores k writes).length = writes.length then
        ((committed ++ (pending ++ settingRows n (stored answer.stores k writes)), []), false)
      else ((committed, pending ++ settingRows n (stored answer.stores k writes)), true) := by
  induction writes generalizing k pending with
  | nil => simp [execute, stored, settingRows]
  | cons w writes ih =>
    cases hk : answer.stores k w.2 with
    | none => simp [execute, stored, hk, settingRows]
    | some cell =>
      have hrow : rowsOf n w.1 [literal cell] = [⟨some n, w.1, literal cell⟩] := rfl
      simp only [List.map_cons, List.cons_append, execute, stored, hk, Option.map_some,
        List.length_cons, Nat.add_right_cancel_iff, settingRows, hrow]
      rw [ih, settingRows]
      simp

theorem serve_change (s : State) (c : Change) : serve s c.request =
    if c.accepted = true then
      ⟨s.committed ++ (s.pending ++ settingRows s.served c.stored), [], s.served + 1, s.raised⟩
    else ⟨s.committed, s.pending ++ settingRows s.served c.stored, s.served + 1,
      s.raised ++ [s.served]⟩ := by
  have hops : s.ops c.request.endpoint =
      some (c.writes.map (fun w => Op.insert w.1 w.2) ++ [.commit]) := by
    obtain ⟨page, answer⟩ := c
    cases page <;> rfl
  have hrun := execute_stored s.served c.answer 0 c.writes s.committed s.pending
  simp only [serve, hops]
  simp only [Change.request, hrun, Change.accepted, Change.stored, beq_iff_eq]
  split <;> rfl

theorem latest_settingRows (n : Nat) (cells : List (String × Option Int)) (table : String) :
    latest (settingRows n cells) table = (last (inTable table) cells).map literal := by
  induction cells using List.reverseRecOn with
  | nil => rfl
  | append_singleton cells w ih =>
    rw [settingRows, List.map_append, latest_append, last_append, Option.map_or]
    rw [settingRows] at ih
    rw [ih]
    congr 1
    by_cases hw : w.1 = table
    · simp [latest, last, inTable, hw]
    · simp [latest, last, inTable, hw]

theorem lastStored_snoc (cs : List Change) (c : Change) (table : String) :
    lastStored (cs ++ [c]) table = (last (inTable table) c.stored).or (lastStored cs table) := by
  rw [lastStored, List.flatMap_append, last_append, List.flatMap_singleton]
  rfl

theorem throughLast_accepted {c : Change} (h : c.accepted = true) (cs : List Change) :
    throughLast (cs ++ [c]) = cs ++ [c] := by
  rw [throughLast, List.rdropWhile_concat_neg]
  simp [h]

theorem throughLast_rejected {c : Change} (h : c.accepted = false) (cs : List Change) :
    throughLast (cs ++ [c]) = throughLast cs := by
  rw [throughLast, List.rdropWhile_concat_pos]
  · rfl
  · simp [h]

/-- The rows of the script. -/
def firstState : State := .start scriptRows

/-- The committed rows, and those with the pending ones, are from these requests over the script. -/
structure Remembers (cs : List Change) (s : State) : Prop where
  committed : ∀ table, latest s.committed table =
    ((lastStored (throughLast cs) table).map literal).or (latest firstState.committed table)
  all : ∀ table, latest (s.committed ++ s.pending) table =
    ((lastStored cs table).map literal).or (latest firstState.committed table)

theorem Remembers.serve {cs : List Change} {s : State} (h : Remembers cs s) (c : Change) :
    Remembers (cs ++ [c]) (serve s c.request) := by
  have hnew : ∀ table, latest (s.committed ++ (s.pending ++ settingRows s.served c.stored)) table =
      ((lastStored (cs ++ [c]) table).map literal).or (latest firstState.committed table) := by
    intro table
    rw [← List.append_assoc, latest_append, latest_settingRows, h.all, lastStored_snoc, Option.map_or,
      Option.or_assoc]
  rw [serve_change]
  cases hc : c.accepted with
  | true =>
    refine ⟨fun table => ?_, fun table => ?_⟩
    · rw [throughLast_accepted hc]
      exact hnew table
    · simpa using hnew table
  | false =>
    refine ⟨fun table => ?_, fun table => ?_⟩
    · rw [throughLast_rejected hc]
      exact h.committed table
    · exact hnew table

/-- **The tables after the requests.** -/
theorem remembers (cs : List Change) :
    Remembers cs (serveAll (.start scriptRows) (cs.map Change.request)) := by
  induction cs using List.reverseRecOn with
  | nil => exact ⟨fun _ => rfl, fun _ => rfl⟩
  | append_singleton cs c ih =>
    rw [List.map_append, serveAll, List.foldl_append]
    exact ih.serve c

/-! ## Reading it back -/

def settingTables : List String :=
  ["Temp_MIN", "Temp_MAX", "Humidity_MIN", "Humidity_MAX", "AirQuality_MAX", "Wind_MAX", "Volume_MAX",
    "Priority", "LimitChange"]

theorem tables_stored (stores : Nat → String → Option (Option Int)) (k : Nat)
    (writes : List (String × String)) : ∀ w ∈ stored stores k writes, w.1 ∈ writes.map Prod.fst := by
  induction writes generalizing k with
  | nil => simp [stored]
  | cons w writes ih =>
    intro x hx
    rw [stored] at hx
    split at hx
    · rcases List.mem_cons.1 hx with rfl | hx
      · simp
      · exact List.mem_cons_of_mem _ (ih _ x hx)
    · cases hx

theorem Change.tables (c : Change) : c.writes.map Prod.fst = settingTables := by
  obtain ⟨page, answer⟩ := c
  cases page <;> rfl

theorem lastStored_eq_none {table : String} (h : table ∉ settingTables) (cs : List Change) :
    lastStored cs table = none := by
  have hnone : (cs.flatMap Change.stored).filterMap (inTable table) = [] := by
    refine List.filterMap_eq_nil_iff.2 fun w hw => ?_
    obtain ⟨c, -, hc⟩ := List.mem_flatMap.1 hw
    have htable : w.1 ∈ settingTables := c.tables ▸ tables_stored _ _ _ w hc
    exact if_neg fun heq : w.1 = table => h (heq ▸ htable)
  rw [lastStored, last, hnone]
  rfl

theorem literal_ne_null (v : Int) : literal (some v) ≠ "NULL" := by
  intro h
  have hv : v = 0 := by
    rw [← atoi_printD v, show printD v = str (literal (some v)) from rfl, h]
    decide
  subst hv
  exact absurd h (by decide)

theorem asInt_cell_literal (value : Option Int) : asInt (cell (literal value)) = value := by
  cases value with
  | none => rfl
  | some v =>
    rw [cell, if_neg (literal_ne_null v)]
    exact congrArg some (atoi_printD v)

section

variable {cs : List Change} {s : State} (h : Remembers cs s)

include h

theorem Remembers.fetch_other {table : String} (ht : table ∉ settingTables) :
    fetch (s.committed ++ s.pending) table = fetch firstState.committed table := by
  rw [fetch, h.all, lastStored_eq_none ht]
  rfl

theorem Remembers.fetch_priority : ∃ prio, fetch (s.committed ++ s.pending) "Priority" = some prio ∧
    asInt prio = (lastStored cs "Priority").getD (some 3) := by
  rw [fetch, h.all]
  cases hl : lastStored cs "Priority" with
  | none => exact ⟨some "3", by decide, by decide⟩
  | some c => exact ⟨_, rfl, asInt_cell_literal c⟩

theorem Remembers.exists_fetch (table : String) (ht : (fetch firstState.committed table).isSome = true) :
    ∃ value, fetch (s.committed ++ s.pending) table = some value := by
  rw [fetch, h.all]
  cases hl : lastStored cs table with
  | none => exact Option.isSome_iff_exists.1 ht
  | some c => exact ⟨_, rfl⟩

end

theorem selects_iff (p : Option Int) :
    Selects p ↔ p = some 0 ∨ p = some 1 ∨ p = some 2 ∨ p = some 3 := by
  cases p with
  | none => simp [Selects]
  | some v =>
    simp only [Selects, Option.some.injEq, exists_eq_left']
    omega

theorem priorityText_isSome_iff (p : Option Int) : (priorityText p).isSome = true ↔ Selects p := by
  rw [selects_iff, priorityText]
  split_ifs <;> simp_all

theorem selectedOption_isSome_iff (p : Option Int) : (selectedOption p).isSome = true ↔ Selects p := by
  rw [selects_iff, selectedOption]
  split_ifs <;> simp_all

theorem main_iff {cs : List Change} {s : State} (h : Remembers cs s) :
    (Main.template (s.committed ++ s.pending)).isSome = true ↔
      Selects ((lastStored cs "Priority").getD (some 3)) := by
  obtain ⟨prio, hfetch, hprio⟩ := h.fetch_priority
  have hbind : ∀ f : Option String → Option Home, (some prio >>= f) = f prio := fun _ => rfl
  rw [← priorityText_isSome_iff, ← hprio, Main.template]
  simp (disch := decide) only [h.fetch_other, hfetch, hbind]
  cases priorityText (asInt prio) with
  | none => decide
  | some text => rfl

theorem limitsText_iff {cs : List Change} {s : State} (h : Remembers cs s) :
    (LimitsText.template (s.committed ++ s.pending)).isSome = true ↔
      Selects ((lastStored cs "Priority").getD (some 3)) := by
  obtain ⟨prio, hfetch, hprio⟩ := h.fetch_priority
  obtain ⟨_, hwind⟩ := h.exists_fetch "Wind_MAX" (by decide)
  obtain ⟨_, hqual⟩ := h.exists_fetch "AirQuality_MAX" (by decide)
  obtain ⟨_, hmaxHum⟩ := h.exists_fetch "Humidity_MAX" (by decide)
  obtain ⟨_, hminHum⟩ := h.exists_fetch "Humidity_MIN" (by decide)
  obtain ⟨_, hmaxTemp⟩ := h.exists_fetch "Temp_MAX" (by decide)
  obtain ⟨_, hminTemp⟩ := h.exists_fetch "Temp_MIN" (by decide)
  obtain ⟨_, hsound⟩ := h.exists_fetch "Volume_MAX" (by decide)
  rw [← selectedOption_isSome_iff, ← hprio, LimitsText.template, hwind, hqual, hmaxHum, hminHum,
    hmaxTemp, hminTemp, hsound, hfetch]
  cases hs : selectedOption (asInt prio) with
  | none => simp [hs]
  | some selected => simp [hs]

/-! ## The controller -/

/-- A pass leaves `state0` exactly under a priority that selects a family. -/
theorem leaves_state0_iff (a : Alarms) (r : Readings) :
    (decisionPass (.at .state0 a) r).state.flags .state0 = false ↔ Selects (some r.priority) := by
  have hstay : next (passInputs (.at .state0 a) r) .state0 = .state0 ↔
      Family.ofPriority r.priority = none := fromState0_eq_state0
  rw [flags_at, ← Bool.not_eq_true, OneHot.hot_apply, eq_comm, hstay, Family.ofPriority, selects_iff]
  split_ifs <;> simp_all

theorem get_latest_value_int_eq (s : State) (table : String) :
    get_latest_value_int s table = (fetch s.committed table).bind asInt := by
  rw [get_latest_value_int, wert_maxId (List.prefix_refl _), fetch, Option.bind_map]
  rfl

theorem settings_of_reads {s : State} {r : Readings} (hr : reads s = Reads.calls r) :
    get_latest_value_int s "Priority" = some r.priority ∧
      ∀ table ∈ limitTables, get_latest_value_int s table ≠ none := by
  have hsome (field : Reads (Option Bool) (Option Int) → Option Int) {v : Int}
      (hv : field (Reads.calls r) = some v) : field (reads s) ≠ none := by simp [hr, hv]
  refine ⟨congrArg Reads.priority hr, ?_⟩
  simp only [limitTables, List.forall_mem_cons]
  exact ⟨hsome Reads.airQ_max rfl, hsome Reads.humid_min rfl, hsome Reads.humid_max rfl,
    hsome Reads.temp_min rfl, hsome Reads.temp_max rfl, hsome Reads.vol_max rfl, by simp⟩

/-- `get_latest_value_int` is the reader of write_read.cpp with nothing failing, on the same values. -/
theorem get_latest_value_int_client {s : State} {table : String} {t : Client.Rows}
    (ht : t.rows.map (·.value) = (s.committed.filter (·.table == table)).map fun r => (cell r.value).map str)
    (others : List (Nat × Client.Cell)) (h : Client.Handle) :
    (Client.get_latest_value_int .none t others h).map (·.value) = get_latest_value_int s table := by
  have hlatest : t.latest = (fetch s.committed table).map fun wert => wert.map str := by
    rw [Table.latest_eq_getLast?, ← List.getLast?_map, ht, List.getLast?_map, fetch, latest,
      Option.map_map, Option.map_map]
    rfl
  rw [Client.get_latest_value_int, Client.get_latest_value_begins (by decide), hlatest,
    get_latest_value_int_eq]
  cases fetch s.committed table with
  | none => rfl
  | some wert => cases wert <;> rfl

section

variable {cs : List Change} {s : State} (h : Remembers cs s)

include h

theorem Remembers.committed_other {table : String} (ht : table ∉ settingTables) :
    latest s.committed table = latest firstState.committed table := by
  rw [h.committed, lastStored_eq_none ht]
  rfl

theorem Remembers.read_bool {table : String} (ht : table ∉ settingTables) :
    get_latest_value_bool s s table = get_latest_value_bool firstState firstState table := by
  rw [get_latest_value_bool_eq (List.prefix_refl _), get_latest_value_bool_eq (List.prefix_refl _),
    h.committed_other ht]

theorem Remembers.read_other {table : String} (ht : table ∉ settingTables) :
    get_latest_value_int s table = get_latest_value_int firstState table := by
  rw [get_latest_value_int_eq, get_latest_value_int_eq, fetch, fetch, h.committed_other ht]

theorem Remembers.read_setting {table : String} {first : Int}
    (hf : get_latest_value_int firstState table = some first) :
    get_latest_value_int s table = (lastStored (throughLast cs) table).getD (some first) := by
  rw [get_latest_value_int_eq] at hf ⊢
  rw [fetch, h.committed]
  cases hl : lastStored (throughLast cs) table with
  | none => exact hf
  | some c => exact asInt_cell_literal c

theorem Remembers.reads_eq : reads s = { Reads.calls firstRows with
    airQ_max := get_latest_value_int s "AirQuality_MAX"
    humid_min := get_latest_value_int s "Humidity_MIN"
    humid_max := get_latest_value_int s "Humidity_MAX"
    temp_min := get_latest_value_int s "Temp_MIN"
    temp_max := get_latest_value_int s "Temp_MAX"
    vol_max := get_latest_value_int s "Volume_MAX"
    priority := get_latest_value_int s "Priority" } := by
  rw [← reads_start]
  simp (disch := decide) only [reads, h.read_bool, h.read_other]
  rfl

/-- A limit is read unless it was last stored as NULL. -/
theorem Remembers.read_limit {table : String} (ht : table ∈ limitTables) :
    get_latest_value_int s table ≠ none ↔ lastStored (throughLast cs) table ≠ some none := by
  have hfirst : ∀ table ∈ limitTables, ∃ v, get_latest_value_int firstState table = some v := by
    simp only [limitTables, List.forall_mem_cons]
    exact ⟨⟨0, by decide⟩, ⟨30, by decide⟩, ⟨65, by decide⟩, ⟨20, by decide⟩, ⟨26, by decide⟩,
      ⟨60, by decide⟩, by simp⟩
  obtain ⟨v, hv⟩ := hfirst table ht
  rw [h.read_setting hv]
  cases lastStored (throughLast cs) table with
  | none => simp
  | some c => simp

theorem Remembers.leaves_iff :
    (∃ r, reads s = Reads.calls r ∧
        ∀ a, (decisionPass (.at .state0 a) r).state.flags .state0 = false) ↔
      Selects ((lastStored (throughLast cs) "Priority").getD (some 3)) ∧
        ∀ table ∈ limitTables, lastStored (throughLast cs) table ≠ some none := by
  have hpriority : get_latest_value_int s "Priority" =
      (lastStored (throughLast cs) "Priority").getD (some 3) := h.read_setting (by decide)
  constructor
  · intro hx
    obtain ⟨r, hr, hleaves⟩ := hx
    obtain ⟨hp, hlimits⟩ := settings_of_reads hr
    refine ⟨?_, fun table ht => (h.read_limit ht).1 (hlimits table ht)⟩
    rw [← hpriority, hp]
    exact (leaves_state0_iff .off r).1 (hleaves .off)
  · intro hx
    obtain ⟨⟨p, hp, hlow, hhigh⟩, hlimits⟩ := hx
    have hread (table : String) (ht : table ∈ limitTables) :
        ∃ v, get_latest_value_int s table = some v :=
      Option.ne_none_iff_exists'.1 ((h.read_limit ht).2 (hlimits table ht))
    obtain ⟨airQ_max, hairQ⟩ := hread "AirQuality_MAX" (by decide)
    obtain ⟨humid_min, hhumid⟩ := hread "Humidity_MIN" (by decide)
    obtain ⟨humid_max, hhumid'⟩ := hread "Humidity_MAX" (by decide)
    obtain ⟨temp_min, htemp⟩ := hread "Temp_MIN" (by decide)
    obtain ⟨temp_max, htemp'⟩ := hread "Temp_MAX" (by decide)
    obtain ⟨vol_max, hvol⟩ := hread "Volume_MAX" (by decide)
    refine ⟨{ firstRows with airQ_max, humid_min, humid_max, temp_min, temp_max, vol_max, priority := p },
      ?_, fun a => (leaves_state0_iff a _).2 ⟨p, rfl, hlow, hhigh⟩⟩
    rw [h.reads_eq, hairQ, hhumid, hhumid', htemp, htemp', hvol, hpriority, hp]
    rfl

end

theorem fine_of_usable {cs : List Change}
    (hu : Usable (serveAll (.start scriptRows) (cs.map Change.request))) : Fine cs := by
  have h := remembers cs
  obtain ⟨hread, hlimits⟩ := h.leaves_iff.1 hu.leaves
  exact ⟨(main_iff h).1 hu.main, hread, hlimits⟩

theorem usable_of_fine {cs : List Change} (hf : Fine cs) :
    Usable (serveAll (.start scriptRows) (cs.map Change.request)) := by
  have h := remembers cs
  exact ⟨(main_iff h).2 hf.shown, (limitsText_iff h).2 hf.shown, h.leaves_iff.2 ⟨hf.read, hf.limits⟩⟩

/-- **After which settings the system is usable.** -/
theorem usable_iff (cs : List Change) :
    Usable (serveAll (.start scriptRows) (cs.map Change.request)) ↔ Fine cs :=
  ⟨fine_of_usable, usable_of_fine⟩

/-- A server that takes numbers and NULL. -/
def numbersAndNull : Answer where
  stores _ value :=
    if value = "NULL" then some none
    else if literal (some (atoi (str value))) = value then some (some (atoi (str value)))
    else none
  number := by
    intro _ v cell h
    have hatoi : atoi (str (literal (some v))) = v := atoi_printD v
    rw [if_neg (literal_ne_null v), hatoi, if_pos rfl] at h
    exact (Option.some.inj h).symm

/-- One form with the priority 7, or with NULL for a limit. -/
theorem form_disables :
    ¬ Usable (serveAll (.start scriptRows)
      [Change.request ⟨.submit ⟨"20", "26", "30", "65", "1", "21", "60", "7"⟩, numbersAndNull⟩]) ∧
    ¬ Usable (serveAll (.start scriptRows)
      [Change.request ⟨.submit ⟨"20", "NULL", "30", "65", "1", "21", "60", "3"⟩, numbersAndNull⟩]) := by
  refine ⟨fun h => ?_, fun h => ?_⟩
  · have hseven := (fine_of_usable h : Fine [_]).shown
    rw [selects_iff] at hseven
    exact absurd hseven (by decide)
  · have hnull := (fine_of_usable h : Fine [_]).limits "Temp_MAX" (by decide)
    exact hnull (by decide)

/-! ## Resetting -/

theorem stored_numbers (answer : Answer) (k : Nat) (writes : List (String × Int))
    (h : (stored answer.stores k (writes.map fun w => (w.1, literal (some w.2)))).length =
      writes.length) :
    stored answer.stores k (writes.map fun w => (w.1, literal (some w.2))) =
      writes.map fun w => (w.1, some w.2) := by
  induction writes generalizing k with
  | nil => rfl
  | cons w writes ih =>
    rw [List.map_cons, stored] at h ⊢
    cases hk : answer.stores k (literal (some w.2)) with
    | none => simp [hk] at h
    | some cell =>
      obtain rfl := answer.number k w.2 cell hk
      simp only [hk, List.length_cons, Nat.add_right_cancel_iff] at h
      simp only [ih (k + 1) h, List.map_cons]

def resetValues : List (String × Int) :=
  [("Temp_MIN", 20), ("Temp_MAX", 26), ("Humidity_MIN", 30), ("Humidity_MAX", 65),
    ("AirQuality_MAX", 1), ("Wind_MAX", 21), ("Volume_MAX", 60), ("Priority", 3), ("LimitChange", 1)]

theorem stored_reset {answer : Answer} (h : Change.accepted ⟨.reset, answer⟩ = true) :
    Change.stored ⟨.reset, answer⟩ = resetValues.map fun w => (w.1, some w.2) := by
  have hwrites : Change.writes ⟨.reset, answer⟩ = resetValues.map fun w => (w.1, literal (some w.2)) := rfl
  rw [Change.accepted, Change.stored, hwrites, beq_iff_eq, List.length_map] at h
  rw [Change.stored, hwrites]
  exact stored_numbers answer 0 resetValues h

/-- **A reset that gets through makes the system usable again**, whatever was submitted before. -/
theorem usable_after_reset (cs : List Change) {answer : Answer}
    (h : Change.accepted ⟨.reset, answer⟩ = true) :
    Usable (serveAll (.start scriptRows)
      ((cs ++ [Change.mk .reset answer]).map Change.request)) := by
  have hpriority : last (inTable "Priority") (resetValues.map fun w => (w.1, some w.2)) =
      some (some 3) := by decide
  have hlimits : ∀ table ∈ limitTables,
      (last (inTable table) (resetValues.map fun w => (w.1, some w.2))).isSome = true ∧
        last (inTable table) (resetValues.map fun w => (w.1, some w.2)) ≠ some none := by decide
  have hlast (table : String) : lastStored (cs ++ [Change.mk .reset answer]) table =
      (last (inTable table) (resetValues.map fun w => (w.1, some w.2))).or (lastStored cs table) := by
    rw [lastStored_snoc, stored_reset h]
  have hselects : Selects ((lastStored (cs ++ [Change.mk .reset answer]) "Priority").getD (some 3)) := by
    rw [hlast, hpriority]
    exact ⟨3, rfl, by decide, by decide⟩
  refine usable_of_fine ⟨hselects, ?_, fun table ht => ?_⟩
  · rw [throughLast_accepted h]
    exact hselects
  · obtain ⟨hsome, hnull⟩ := hlimits table ht
    rw [throughLast_accepted h, hlast, Option.or_of_isSome hsome]
    exact hnull

end SmartWindow.Web
