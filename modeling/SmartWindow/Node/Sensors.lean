/-
From the sensor drivers to the messages (main.c). `getTemperature` and
`getPressure` ignore what the driver returns, `getHumidity` turns one failure
into -1 and ignores the other, and all of it ends up in `data` and is sent.
`run_fromRequest` says which measurement a message is from, in every run, and
`honest_iff` for which failures each message carries what a driver has read.
-/
import SmartWindow.Lib.Trace
import SmartWindow.Node.Contract
import SmartWindow.Node.Format

namespace SmartWindow

open Trace

/-! ## The drivers -/

/-- The driver calls of one measurement: what they write, `none` where they fail and write nothing. -/
structure DriverCalls where
  mpl3115a2_read_temp : Option Int16
  mpl3115a2_read_pressure : Option UInt32
  /-- whether it succeeds -/
  hdc1000_startmeasure : Bool
  hdc1000_read : Option (UInt16 × UInt16)

/-- What the variables happen to hold that only the drivers write. -/
structure Unset where
  pressure : UInt32
  rawtemp : UInt16
  rawhum : UInt16

/-- What one measurement depends on: the driver calls, and what `getVolume` and `getAirQuality` make of
the samples of the ADC. -/
structure Sensors where
  calls : DriverCalls
  unset : Unset
  volume : Int
  airQuality : Int

def getTemperature (s : Sensors) : Int16 :=
  let temp := 0
  s.calls.mpl3115a2_read_temp.getD temp

def getPressure (s : Sensors) : UInt32 := s.calls.mpl3115a2_read_pressure.getD s.unset.pressure

section

variable (hdc1000_convert : UInt16 → UInt16 → Int × Int)

def getHumidity (s : Sensors) : Int :=
  if !s.calls.hdc1000_startmeasure then -1
  else
    let (rawtemp, rawhum) := s.calls.hdc1000_read.getD (s.unset.rawtemp, s.unset.rawhum)
    let (_, hum) := hdc1000_convert rawtemp rawhum
    hum

def getMeasuredData (s : Sensors) : MeasuredData where
  temperature := getTemperature s
  pressure := getPressure s
  volume := s.volume
  humidity := getHumidity hdc1000_convert s
  airQuality := s.airQuality

end

structure DriverCalls.Succeed (c : DriverCalls) : Prop where
  temp : c.mpl3115a2_read_temp.isSome = true
  pressure : c.mpl3115a2_read_pressure.isSome = true
  start : c.hdc1000_startmeasure = true
  read : c.hdc1000_read.isSome = true

/-! ## Messages and traces -/

/-- A PUT message for temperature, pressure or humidity. -/
def Measures (b : Build) (m : Bytes) : Prop :=
  ∃ sensor ∈ [SENS_TEMP, SENS_AIR_PRESSURE, SENS_HUMIDITY], ∃ text, m = sendString b sensor text

def measured (tr : List NodeEvent) : List MeasuredData :=
  tr.filterMap fun
    | .measured m => some m
    | _ => none

/-- An event is a request for a measurement. -/
def NodeEvent.asks : NodeEvent → Bool
  | .request .START_MEASUREMENT => true
  | _ => false

def measureRequests (tr : List NodeEvent) : Nat := tr.countP NodeEvent.asks

variable {b : Build} {printF : Int → Nat → Bytes} {hdc1000_convert : UInt16 → UInt16 → Int × Int}

/-- The message is one of those for a measurement: the one for the last request. -/
def FromRequest (b : Build) (printF : Int → Nat → Bytes) (pre : List NodeEvent) (e : NodeEvent) : Prop :=
  ∀ m, e = .pp_send m → Measures b m → ∃ k data, measureRequests pre = k + 1 ∧
    (measured pre)[k]? = some data ∧ m ∈ answers b printF data .FINISH_MEASUREMENT

/-- The message carries, for its sensor, a value obtained from driver calls that succeeded. -/
structure Obtained (b : Build) (printF : Int → Nat → Bytes)
    (hdc1000_convert : UInt16 → UInt16 → Int × Int) (c : DriverCalls) (m : Bytes) : Prop where
  temperature : ∀ text, m = sendString b SENS_TEMP text →
    ∃ temp, c.mpl3115a2_read_temp = some temp ∧ text = printF temp.toInt 10
  pressure : ∀ text, m = sendString b SENS_AIR_PRESSURE text →
    ∃ pressure, c.mpl3115a2_read_pressure = some pressure ∧ text = printD pressure.toInt32.toInt
  humidity : ∀ text, m = sendString b SENS_HUMIDITY text → c.hdc1000_startmeasure = true ∧
    ∃ raw, c.hdc1000_read = some raw ∧ text = printF (hdc1000_convert raw.1 raw.2).2 100

/-- A message sent after the `k`th request carries what the driver calls for this request obtained. -/
def Reported (b : Build) (printF : Int → Nat → Bytes) (hdc1000_convert : UInt16 → UInt16 → Int × Int)
    (ss : List Sensors) (pre : List NodeEvent) (e : NodeEvent) : Prop :=
  ∀ m, e = .pp_send m → Measures b m → ∃ k s, measureRequests pre = k + 1 ∧ ss[k]? = some s ∧
    Obtained b printF hdc1000_convert s.calls m

/-- In every run in which the measurements come out like this, one after the other, each message for a
sensor of a driver is as it should be. -/
def Honest (b : Build) (printF : Int → Nat → Bytes) (hdc1000_convert : UInt16 → UInt16 → Int × Int)
    (ss : List Sensors) : Prop :=
  ∀ mainCommand data tr n, Trans.Run (NodeStep b printF) (.start mainCommand data) tr n →
    measured tr <+: ss.map (getMeasuredData hdc1000_convert) →
    AtEach (Reported b printF hdc1000_convert ss) tr

/-! ## The texts of the messages -/

theorem sendString_eq (b : Build) : ∃ position : Bytes, ∀ sensor text,
    sendString b sensor text = str "PUT_" ++ (sensor ++ SEP_SENSOR :: (position ++ text)) := by
  cases b with
  | IN => exact ⟨str "IN/", fun sensor text => by simp [sendString, str, SEP_SENSOR]⟩
  | OUT => exact ⟨str "OUT/", fun sensor text => by simp [sendString, str, SEP_SENSOR]⟩

/-- A message says which sensor it is from, and which value: the name has no underscore. -/
theorem sendString_inj {sensor sensor' text text' : Bytes} (hs : SEP_SENSOR ∉ sensor)
    (hs' : SEP_SENSOR ∉ sensor') :
    sendString b sensor text = sendString b sensor' text' ↔ sensor = sensor' ∧ text = text' := by
  have htake : ∀ name rest : Bytes, SEP_SENSOR ∉ name →
      (name ++ SEP_SENSOR :: rest).takeWhile (· ≠ SEP_SENSOR) = name := by
    intro name rest hname
    rw [List.takeWhile_append_of_pos]
    · simp
    · intro x hx
      simpa using fun heq : x = SEP_SENSOR => hname (heq ▸ hx)
  obtain ⟨position, heq⟩ := sendString_eq b
  constructor
  · intro h
    rw [heq, heq] at h
    have h' := List.append_cancel_left h
    have hname := congrArg (List.takeWhile (· ≠ SEP_SENSOR)) h'
    rw [htake _ _ hs, htake _ _ hs'] at hname
    subst hname
    simpa using h'
  · rintro ⟨rfl, rfl⟩
    rfl

theorem not_measures_window : ¬ Measures b SW_FINISH_OPEN_WINDOW ∧ ¬ Measures b SW_FINISH_CLOSE_WINDOW := by
  have hwin : ∀ rest : Bytes, SEP_SENSOR ∉ rest → ¬ Measures b (str "PUT_" ++ rest) := by
    intro rest hrest h
    obtain ⟨sensor, -, text, htext⟩ := h
    obtain ⟨position, heq⟩ := sendString_eq b
    rw [heq] at htext
    exact hrest (List.append_cancel_left htext ▸ by simp)
  exact ⟨hwin (str "Win/Open") (by decide), hwin (str "Win/Close") (by decide)⟩

theorem finish_of_measures {data : MeasuredData} {c : CommunicationCommand} {m : Bytes}
    (hm : m ∈ answers b printF data c) (h : Measures b m) : c = .FINISH_MEASUREMENT := by
  cases c with
  | FINISH_MEASUREMENT => rfl
  | FINISH_OPEN_WINDOW => exact absurd (List.mem_singleton.1 hm ▸ h) not_measures_window.1
  | FINISH_CLOSE_WINDOW => exact absurd (List.mem_singleton.1 hm ▸ h) not_measures_window.2
  | START_MEASUREMENT | START_OPEN_WINDOW | START_CLOSE_WINDOW => simp [answers] at hm

theorem text_of_mem_answers {data : MeasuredData} {text : Bytes} :
    (sendString b SENS_TEMP text ∈ answers b printF data .FINISH_MEASUREMENT →
      text = printF data.temperature.toInt 10) ∧
    (sendString b SENS_AIR_PRESSURE text ∈ answers b printF data .FINISH_MEASUREMENT →
      text = printD data.pressure.toInt32.toInt) ∧
    (sendString b SENS_HUMIDITY text ∈ answers b printF data .FINISH_MEASUREMENT →
      text = printF data.humidity 100) := by
  refine ⟨fun h => ?_, fun h => ?_, fun h => ?_⟩
  · simpa +decide (disch := decide) [answers, sendString_inj] using h
  · simpa +decide (disch := decide) [answers, sendString_inj] using h
  · simpa +decide (disch := decide) [answers, sendString_inj] using h

/-! ## Which measurement a message is from -/

theorem measured_append (tr es : List NodeEvent) : measured (tr ++ es) = measured tr ++ measured es :=
  List.filterMap_append

theorem measureRequests_append (tr es : List NodeEvent) :
    measureRequests (tr ++ es) = measureRequests tr + measureRequests es := List.countP_append

theorem measured_pp_send (ms : List Bytes) : measured (ms.map .pp_send) = [] := by
  rw [measured, List.filterMap_map]
  exact List.filterMap_eq_nil_iff.2 fun m _ => rfl

theorem measureRequests_pp_send (ms : List Bytes) : measureRequests (ms.map .pp_send) = 0 := by
  rw [measureRequests, List.countP_map]
  exact List.countP_eq_zero.2 fun m _ => by simp [NodeEvent.asks]

theorem atEach_pp_send {P : List NodeEvent → NodeEvent → Prop} {ms : List Bytes} :
    AtEach P (ms.map .pp_send) ↔
      ∀ before m after, ms = before ++ m :: after → P (before.map .pp_send) (.pp_send m) := by
  refine ⟨fun h before m after hms => h _ _ (after.map .pp_send) (by simp [hms]), ?_⟩
  intro h pre e post heq
  obtain ⟨before, rest, rfl, rfl, hrest⟩ := List.map_eq_append_iff.1 heq
  obtain ⟨m, after, rfl, rfl, rfl⟩ := List.map_eq_cons_iff.1 hrest
  exact h before m after rfl

/-- The requests for a measurement that `main` has to serve. -/
def Node.owes (n : Node) : Nat := if n.main = .switch ∧ n.mainCommand = .START_MEASUREMENT then 1 else 0

/-- A measurement is reported and not answered yet. -/
def Node.Owing (n : Node) : Prop :=
  n.main = .msg_send .FINISH_MEASUREMENT ∨ .FINISH_MEASUREMENT ∈ n.pp_msg_queue

/-- After a run: each request for a measurement but one that waits has been measured, an answer that is
due is the last measurement, and the messages are from the measurements for their requests. -/
structure MeasureOk (b : Build) (printF : Int → Nat → Bytes) (tr : List NodeEvent) (n : Node) : Prop where
  requests : measureRequests tr = (measured tr).length + n.owes
  latest : n.Owing → (measured tr).getLast? = some n.data
  sent : AtEach (FromRequest b printF) tr

/-- A step that measures nothing, sends nothing and leaves `data`. -/
theorem MeasureOk.keep {tr es : List NodeEvent} {n n' : Node} (h : MeasureOk b printF tr n)
    (hdata : n'.data = n.data) (hes : ∀ e ∈ es, (∀ m, e ≠ .measured m) ∧ ∀ m, e ≠ .pp_send m)
    (howes : measureRequests es + n.owes = n'.owes) (howing : n'.Owing → n.Owing) :
    MeasureOk b printF (tr ++ es) n' := by
  have hnone : measured es = [] := by
    refine List.filterMap_eq_nil_iff.2 fun e he => ?_
    have hm := (hes e he).1
    cases e with
    | measured m => exact absurd rfl (hm m)
    | recvfrom | request | servo_set | reply | pp_send => rfl
  refine ⟨?_, fun ho => ?_, (atEach_append tr es).2 ⟨h.sent, ?_⟩⟩
  · rw [measureRequests_append, measured_append, hnone, List.append_nil, h.requests]
    omega
  · rw [measured_append, hnone, List.append_nil, hdata]
    exact h.latest (howing ho)
  · exact atEach_of_forall fun e he _ m hm => absurd hm ((hes e he).2 m)

theorem turn_unmeasured {c : CommunicationCommand} (hc : c ≠ .START_MEASUREMENT) (b : Build) (w : Window)
    (data m : MeasuredData) :
    (∀ e ∈ (turn b w data m c).events, NodeEvent.IsWork e ∧ ∀ m', e ≠ .measured m') ∧
      (turn b w data m c).data = data ∧ (turn b w data m c).reply ≠ some .FINISH_MEASUREMENT ∧
      (turn b w data m c).communicationCommand ≠ .START_MEASUREMENT := by
  cases c with
  | START_MEASUREMENT => exact absurd rfl hc
  | START_OPEN_WINDOW =>
    cases b with
    | IN =>
      simp only [turn, turnOpen]
      split_ifs <;> simp [NodeEvent.IsWork]
    | OUT => simp [turn]
  | START_CLOSE_WINDOW =>
    cases b with
    | IN =>
      simp only [turn, turnClose]
      split_ifs <;> simp [NodeEvent.IsWork]
    | OUT => simp [turn]
  | FINISH_MEASUREMENT | FINISH_OPEN_WINDOW | FINISH_CLOSE_WINDOW => cases b <;> simp [turn]

theorem MeasureOk.turn {tr : List NodeEvent} {n n' : Node} {m : MeasuredData} (h : MeasureOk b printF tr n)
    (hmain : n.main = .switch)
    (hs : n' = { n with
      main := match (turn b n.window n.data m n.mainCommand).reply with
        | some c => .msg_send c
        | none => loopHead (turn b n.window n.data m n.mainCommand).window
      mainCommand := (turn b n.window n.data m n.mainCommand).communicationCommand
      window := (turn b n.window n.data m n.mainCommand).window
      data := (turn b n.window n.data m n.mainCommand).data }) :
    MeasureOk b printF (tr ++ (turn b n.window n.data m n.mainCommand).events) n' := by
  subst hs
  by_cases hc : n.mainCommand = .START_MEASUREMENT
  · -- The measurement for the request that waits.
    have hturn : SmartWindow.turn b n.window n.data m n.mainCommand = ⟨[.measured m], n.window, m,
        .FINISH_MEASUREMENT, some .FINISH_MEASUREMENT⟩ := by
      rw [hc]
      cases b <;> rfl
    rw [hturn]
    refine ⟨?_, fun _ => ?_, (atEach_append tr _).2 ⟨h.sent, (atEach_singleton _).2 ?_⟩⟩
    · rw [measureRequests_append, measured_append, h.requests]
      simp [Node.owes, hmain, hc, measured, measureRequests, NodeEvent.asks]
    · simp [measured]
    · intro m' hm'
      simp at hm'
  · obtain ⟨hevents, hdata, hreply, hcommand⟩ := turn_unmeasured hc b n.window n.data m
    refine h.keep hdata (fun e he => ⟨(hevents e he).2, fun m' hm' => ?_⟩) ?_ ?_
    · have hwork := (hevents e he).1
      rw [hm'] at hwork
      exact hwork
    · have hnone : measureRequests (SmartWindow.turn b n.window n.data m n.mainCommand).events = 0 := by
        refine List.countP_eq_zero.2 fun e he hasks => ?_
        have hwork := (hevents e he).1
        cases e with
        | request c => exact hwork
        | recvfrom | measured | servo_set | reply | pp_send => simp [NodeEvent.asks] at hasks
      simp [hnone, Node.owes, hc, hcommand]
    · intro ho
      refine .inr (ho.resolve_left fun hsend => ?_)
      dsimp only at hsend
      split at hsend
      · next c hr => exact hreply (hr.trans (congrArg some (MainPc.msg_send.inj hsend)))
      · unfold loopHead at hsend
        split at hsend <;> simp at hsend

theorem MeasureOk.step {tr es : List NodeEvent} {n n' : Node} {p : Dialog} (h : MeasureOk b printF tr n)
    (hp : n.At b p) (hs : NodeStep b printF n es n') : MeasureOk b printF (tr ++ es) n' := by
  cases hs with
  | noDatagram _ => exact h.keep rfl (by simp) (by simp [measureRequests]) id
  | recvfrom d _ => exact h.keep rfl (by simp) (by simp [measureRequests, NodeEvent.asks, Node.owes]) id
  | request _ hmain =>
    refine h.keep rfl (by simp) ?_ fun ho => .inr (ho.resolve_left (by simp))
    cases hc : n.communicationCommand <;> simp [measureRequests, NodeEvent.asks, Node.owes, hmain]
  | turn m hmain => exact h.turn hmain rfl
  | reply c hmain _ =>
    obtain ⟨c', rfl, rfl⟩ := replying_of_msg_send hp hmain
    have hrest := hp.2.2.2.2.2
    refine h.keep rfl (by simp) ?_ fun ho => ?_
    · simp [measureRequests, NodeEvent.asks, Node.owes, hmain, loopHead, hrest]
    · rcases ho with ho | ho
      · simp [loopHead, hrest] at ho
      · rcases List.mem_append.1 ho with ho | ho
        · exact .inr ho
        · exact .inl (List.mem_singleton.1 ho ▸ hmain)
  | answer c q _ hq =>
    obtain ⟨c', rfl, -, -⟩ := replied_of_queue hp hq
    have hmain : n.main = .msg_receive := hp.2.1
    refine ⟨?_, fun ho => ?_, (atEach_append tr _).2 ⟨h.sent, ?_⟩⟩
    · rw [measureRequests_append, measureRequests_pp_send, measured_append, measured_pp_send,
        h.requests]
      simp [Node.owes]
    · rw [measured_append, measured_pp_send, List.append_nil]
      refine h.latest (.inr ?_)
      rw [hq]
      exact List.mem_cons_of_mem _ (ho.resolve_left (by simp [hmain]))
    · refine atEach_pp_send.2 fun before m after hms m' hm' hmeas => ?_
      obtain rfl : m = m' := NodeEvent.pp_send.inj hm'
      have hm : m ∈ answers b printF n.data c := hms ▸ by simp
      obtain rfl := finish_of_measures hm hmeas
      have hlast := h.latest (.inr (by simp [hq]))
      rw [List.getLast?_eq_getElem?] at hlast
      have hlt := (List.getElem?_eq_some_iff.1 hlast).1
      refine ⟨(measured tr).length - 1, n.data, ?_, ?_, hm⟩
      · rw [measureRequests_append, measureRequests_pp_send, h.requests]
        simp only [Node.owes, hmain, reduceCtorEq, false_and, if_false]
        omega
      · rw [measured_append, measured_pp_send, List.append_nil]
        exact hlast

/-- **Each message is from the measurement for its request**, in every run. -/
theorem run_fromRequest {mainCommand : CommunicationCommand} {data : MeasuredData}
    {tr : List NodeEvent} {n : Node}
    (h : Trans.Run (NodeStep b printF) (.start mainCommand data) tr n) :
    AtEach (FromRequest b printF) tr := by
  have hmeasure : MeasureOk b printF tr n := by
    refine run_invariant (MeasureOk b printF) ⟨rfl, fun ho => ?_, atEach_nil⟩
      (fun tr n es n' p hmeasure hp _ hs => hmeasure.step hp hs) h
    rcases ho with ho | ho <;> simp [Node.start] at ho
  exact hmeasure.sent

/-! ## Runs that measure -/

/-- The trace of one request for a measurement that comes out as `m`. -/
def measuringTrace (b : Build) (printF : Int → Nat → Bytes) (m : MeasuredData) : List NodeEvent :=
  [.recvfrom getAll, .request .START_MEASUREMENT] ++ ([.measured m] ++ ([.reply .FINISH_MEASUREMENT] ++
    (answers b printF m .FINISH_MEASUREMENT).map .pp_send))

theorem received_measuringTrace (b : Build) (printF : Int → Nat → Bytes) (m : MeasuredData) :
    received (measuringTrace b printF m) = [getAll] := by
  simp [measuringTrace, received, List.filterMap_map]

theorem sentOut_measuringTrace (b : Build) (printF : Int → Nat → Bytes) (m : MeasuredData) :
    sentOut (measuringTrace b printF m) = answers b printF m .FINISH_MEASUREMENT := by
  simp [measuringTrace, sentOut, List.filterMap_map]

theorem measured_measuringTrace (b : Build) (printF : Int → Nat → Bytes) (m : MeasuredData) :
    measured (measuringTrace b printF m) = [m] := by
  simp only [measuringTrace, measured_append, measured_pp_send]
  rfl

theorem Node.At.measurement {n : Node} {v : CommunicationCommand} (h : n.At b (.idle v))
    (printF : Int → Nat → Bytes) (m : MeasuredData) : ∃ n',
      Trans.Run (NodeStep b printF) n (measuringTrace b printF m) n' ∧
        n'.At b (.idle .FINISH_MEASUREMENT) := by
  obtain ⟨n₁, h₁, hn₁, -⟩ := h.recvfrom printF getAll
  have hcommand : commandFor b getAll v = .START_MEASUREMENT := commandFor_known rfl
  rw [hcommand] at hn₁
  obtain ⟨n₂, h₂, hn₂, -⟩ := hn₁.request printF
  obtain ⟨n₃, h₃, hn₃, hdata₃⟩ := hn₂.measure printF m
  obtain ⟨n₄, h₄, hn₄, hdata₄⟩ := hn₃.reply printF
  obtain ⟨n₅, h₅, hn₅⟩ := hn₄.answer printF
  rw [hdata₄, hdata₃] at h₅
  exact ⟨n₅, ((((Trans.Run.one h₁).snoc h₂).snoc h₃).snoc h₄).snoc h₅, hn₅⟩

theorem exists_measuring_run (b : Build) (printF : Int → Nat → Bytes)
    (mainCommand : CommunicationCommand) (data : MeasuredData) (ms : List MeasuredData) :
    ∃ n v, Trans.Run (NodeStep b printF) (.start mainCommand data)
      (ms.flatMap (measuringTrace b printF)) n ∧ n.At b (.idle v) := by
  induction ms using List.reverseRecOn with
  | nil => exact ⟨_, _, .refl, Node.start_at _ _⟩
  | append_singleton ms m ih =>
    obtain ⟨n, v, hr, hn⟩ := ih
    obtain ⟨n', hr', hn'⟩ := hn.measurement printF m
    refine ⟨n', _, ?_, hn'⟩
    rw [List.flatMap_append, List.flatMap_singleton]
    exact hr.trans hr'

theorem measured_flatMap (b : Build) (printF : Int → Nat → Bytes) (ms : List MeasuredData) :
    measured (ms.flatMap (measuringTrace b printF)) = ms ∧
      measureRequests (ms.flatMap (measuringTrace b printF)) = ms.length := by
  induction ms with
  | nil => exact ⟨rfl, rfl⟩
  | cons m ms ih =>
    have hreq : measureRequests (measuringTrace b printF m) = 1 := by
      simp only [measuringTrace, measureRequests_append, measureRequests_pp_send]
      rfl
    rw [List.flatMap_cons, measured_append, measureRequests_append, ih.1, ih.2, measured_measuringTrace, hreq,
      List.length_cons, Nat.add_comm]
    exact ⟨rfl, rfl⟩

theorem exists_run_sends (ms : List MeasuredData) {d : MeasuredData} {m : Bytes}
    (hm : m ∈ answers b printF d .FINISH_MEASUREMENT) (mainCommand : CommunicationCommand)
    (data : MeasuredData) : ∃ pre post n,
      Trans.Run (NodeStep b printF) (.start mainCommand data) (pre ++ .pp_send m :: post) n ∧
        measured (pre ++ .pp_send m :: post) = ms ++ [d] ∧ measureRequests pre = ms.length + 1 := by
  obtain ⟨n, v, hr, hn⟩ := exists_measuring_run b printF mainCommand data ms
  obtain ⟨n', hr', -⟩ := hn.measurement printF d
  obtain ⟨first, last, hsplit⟩ := List.mem_iff_append.1 hm
  obtain ⟨hmeasured, hrequests⟩ := measured_flatMap b printF ms
  have htrace : ms.flatMap (measuringTrace b printF) ++ measuringTrace b printF d =
      (ms.flatMap (measuringTrace b printF) ++ ([.recvfrom getAll, .request .START_MEASUREMENT,
        .measured d, .reply .FINISH_MEASUREMENT] ++ first.map .pp_send)) ++
          .pp_send m :: last.map .pp_send := by
    simp [measuringTrace, hsplit]
  refine ⟨_, _, n', htrace ▸ hr.trans hr', ?_, ?_⟩
  · rw [← htrace, measured_append, hmeasured]
    simp only [measuringTrace, measured_append, measured_pp_send]
    rfl
  · rw [measureRequests_append, measureRequests_append, hrequests, measureRequests_pp_send]
    rfl

/-! ## Failures -/

/-- The answers to one request are as they should be exactly if no driver call has failed. -/
theorem obtained_iff (b : Build) (printF : Int → Nat → Bytes)
    (hdc1000_convert : UInt16 → UInt16 → Int × Int) (s : Sensors) :
    (∀ m ∈ answers b printF (getMeasuredData hdc1000_convert s) .FINISH_MEASUREMENT, Measures b m →
      Obtained b printF hdc1000_convert s.calls m) ↔ s.calls.Succeed := by
  refine ⟨fun h => ?_, fun h m hm _ => ⟨?_, ?_, ?_⟩⟩
  · -- The first, the second and the fourth of the answers.
    obtain ⟨temp, htemp, -⟩ :=
      (h _ (.head _) ⟨SENS_TEMP, by simp, _, rfl⟩).temperature _ rfl
    obtain ⟨pressure, hpressure, -⟩ :=
      (h _ (.tail _ (.head _)) ⟨SENS_AIR_PRESSURE, by simp, _, rfl⟩).pressure _ rfl
    obtain ⟨hstart, raw, hread, -⟩ :=
      (h _ (.tail _ (.tail _ (.tail _ (.head _)))) ⟨SENS_HUMIDITY, by simp, _, rfl⟩).humidity _ rfl
    exact ⟨by simp [htemp], by simp [hpressure], hstart, by simp [hread]⟩
  · rintro text rfl
    obtain ⟨temp, htemp⟩ := Option.isSome_iff_exists.1 h.temp
    refine ⟨temp, htemp, ?_⟩
    rw [text_of_mem_answers.1 hm]
    simp [getMeasuredData, getTemperature, htemp]
  · rintro text rfl
    obtain ⟨pressure, hpressure⟩ := Option.isSome_iff_exists.1 h.pressure
    refine ⟨pressure, hpressure, ?_⟩
    rw [text_of_mem_answers.2.1 hm]
    simp [getMeasuredData, getPressure, hpressure]
  · rintro text rfl
    obtain ⟨raw, hread⟩ := Option.isSome_iff_exists.1 h.read
    refine ⟨h.start, raw, hread, ?_⟩
    rw [text_of_mem_answers.2.2 hm]
    simp [getMeasuredData, getHumidity, h.start, hread]

theorem honest_of_succeed {ss : List Sensors} (h : ∀ s ∈ ss, s.calls.Succeed) :
    Honest b printF hdc1000_convert ss := by
  intro mainCommand data tr n hr hpre pre e post heq m he hmeas
  obtain ⟨k, d, hreq, hk, hm⟩ := run_fromRequest hr pre e post heq m he hmeas
  -- What is measured before the message is measured in the run, and comes from `ss`.
  have hpref : measured pre <+: ss.map (getMeasuredData hdc1000_convert) := by
    refine List.IsPrefix.trans ?_ hpre
    rw [heq, measured_append]
    exact List.prefix_append _ _
  obtain ⟨rest, hrest⟩ := hpref
  have hkth : (ss.map (getMeasuredData hdc1000_convert))[k]? = some d := by
    rw [← hrest, List.getElem?_append_left (List.getElem?_eq_some_iff.1 hk).1, hk]
  rw [List.getElem?_map] at hkth
  obtain ⟨s, hs, rfl⟩ := Option.map_eq_some_iff.1 hkth
  exact ⟨k, s, hreq, hs, (obtained_iff b printF hdc1000_convert s).2 (h s (List.mem_of_getElem? hs)) m hm hmeas⟩

theorem succeed_of_honest {ss : List Sensors} (h : Honest b printF hdc1000_convert ss) :
    ∀ s ∈ ss, s.calls.Succeed := by
  intro s hs
  obtain ⟨before, after, rfl⟩ := List.mem_iff_append.1 hs
  refine (obtained_iff b printF hdc1000_convert s).1 fun m hm hmeas => ?_
  obtain ⟨pre, post, n, hr, hmeasured, hrequests⟩ := exists_run_sends
    (before.map (getMeasuredData hdc1000_convert)) hm .START_MEASUREMENT ⟨0, 0, 0, 0, 0⟩
  have hpre : measured (pre ++ .pp_send m :: post) <+:
      (before ++ s :: after).map (getMeasuredData hdc1000_convert) := by
    rw [hmeasured]
    exact ⟨after.map (getMeasuredData hdc1000_convert), by simp⟩
  obtain ⟨k, s', hk, hs', hobtained⟩ := h _ _ _ _ hr hpre pre _ post rfl m rfl hmeas
  obtain rfl : before.length = k := by
    rw [List.length_map] at hrequests
    omega
  obtain rfl : s = s' := by simpa using hs'
  exact hobtained

/-- **No failure is reported as a measurement**, in any run, exactly when none of the driver calls
fails. -/
theorem honest_iff (b : Build) (printF : Int → Nat → Bytes)
    (hdc1000_convert : UInt16 → UInt16 → Int × Int) (ss : List Sensors) :
    Honest b printF hdc1000_convert ss ↔ ∀ s ∈ ss, s.calls.Succeed :=
  ⟨succeed_of_honest, honest_of_succeed⟩

/-- A measurement for which reading the temperature fails. -/
def failedRead : Sensors where
  calls := ⟨none, some 101325, true, some (25000, 30000)⟩
  unset := ⟨0, 0, 0⟩
  volume := 4210
  airQuality := 20

/-- The node sends 0 degrees for it, like a temperature that was read. -/
theorem failed_read_sent :
    (∃ tr n, Trans.Run (NodeStep .IN SmartWindow.printF)
        (.start .START_MEASUREMENT ⟨0, 0, 0, 0, 0⟩) tr n ∧
      measured tr = [getMeasuredData (fun _ _ => (2294, 4578)) failedRead] ∧
      .pp_send (str "PUT_Temp_IN/0.000000") ∈ tr) ∧
    ¬ Honest .IN SmartWindow.printF (fun _ _ => (2294, 4578)) [failedRead] := by
  have hzero : sendString .IN SENS_TEMP (SmartWindow.printF 0 10) = str "PUT_Temp_IN/0.000000" := by
    decide
  have hm : str "PUT_Temp_IN/0.000000" ∈ answers .IN SmartWindow.printF
      (getMeasuredData (fun _ _ => (2294, 4578)) failedRead) .FINISH_MEASUREMENT :=
    List.mem_cons.2 (.inl hzero.symm)
  obtain ⟨pre, post, n, hr, hmeasured, -⟩ := exists_run_sends [] hm .START_MEASUREMENT
    ⟨0, 0, 0, 0, 0⟩
  refine ⟨⟨_, n, hr, hmeasured, by simp⟩, fun h => ?_⟩
  have hread := (succeed_of_honest h failedRead (by simp)).temp
  cases hread

end SmartWindow
