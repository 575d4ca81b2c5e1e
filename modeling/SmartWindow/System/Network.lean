/-
Both nodes and the controller's receiver in one network: requests and window
commands go to both nodes at once, each copy may be lost, each node answers
over a channel that keeps the order of its messages and may lose any of them,
and `receiveLoop` inserts what arrives, where the server may reject a row.
Every message a node sends requests one row, for Win_Open or for a table of
that node (`Sent.row`).

How `sprintf("%f")` prints a value is a parameter, of which only `Prints` is
assumed.
-/
import SmartWindow.Node.Sensors
import SmartWindow.System.Measurement
import SmartWindow.System.View

namespace SmartWindow

/-! ## What a node sends -/

/-- The five quantities a node measures, in the order of its messages. -/
inductive Quantity
  | Temp
  | AirPressure
  | Volume
  | Humidity
  | AirQuality
  deriving DecidableEq

def Quantity.sensor : Quantity → Bytes
  | .Temp => SENS_TEMP
  | .AirPressure => SENS_AIR_PRESSURE
  | .Volume => SENS_VOLUME
  | .Humidity => SENS_HUMIDITY
  | .AirQuality => SENS_AIR_QUALITY

def Quantity.text (printF : Int → Nat → Bytes) (q : Quantity) (data : MeasuredData) : Bytes :=
  match q with
  | .Temp => printF data.temperature.toInt 10
  | .AirPressure => printD data.pressure.toInt32.toInt
  | .Volume => printF data.volume 100
  | .Humidity => printF data.humidity 100
  | .AirQuality => printF data.airQuality 100

def Quantity.table (q : Quantity) (b : Build) : Bytes := tableName q.sensor (InPlace.position b)

/-- What `%f` prints is some text without a NUL or a slash. -/
def Prints (printF : Int → Nat → Bytes) : Prop :=
  ∀ v d, printF v d ≠ [] ∧ ∀ x ∈ printF v d, x ≠ 0 ∧ x ≠ SEP_VALUE

/-- A message that a node may send. -/
def Sent (b : Build) (printF : Int → Nat → Bytes) (m : Bytes) : Prop :=
  ∃ data c, m ∈ answers b printF data c

/-! ## The network -/

/-- The nodes, the channels to and from each of them, oldest message first, and the tables. -/
structure Network where
  node : Build → Node
  commands : Build → List Datagram
  reports : Build → List Bytes
  db : TableDef → Table Bytes

/-- A message to both nodes. -/
def Network.multicast (s : Network) (d : Datagram) : Network :=
  { s with commands := fun b => s.commands b ++ [d] }

/-- What is kept of a step: the events of a node, and the messages that do not get into the database. -/
inductive NetworkEvent
  | node (b : Build) (e : NodeEvent)
  | lost (b : Build) (m : Bytes)

section

variable (store : TableDef → Bytes → Option Bytes)

/-- `write_in_db` for a row `receiveLoop` requests, in a second: whether it is accepted, and the tables
after it. A row for a table that does not exist is rejected. -/
def insertRow (now : Nat) (db : TableDef → Table Bytes) (row : Row) :
    Option (Bool × (TableDef → Table Bytes)) :=
  match tables.find? (fun d => str d.name == row.1) with
  | some d => (write_in_db store d (db d) ⟨now, row.2⟩).map fun r => (r.1, Function.update db d r.2)
  | none => if Fits row.1 row.2 then some (false, db) else none

def insertRows (now : Nat) (db : TableDef → Table Bytes) (rows : List Row) :
    Option (Bool × (TableDef → Table Bytes)) :=
  rows.foldlM (fun r row => (insertRow store now r.2 row).map fun r' => (r.1 && r'.1, r'.2)) (true, db)

inductive NetworkStep (printF : Int → Nat → Bytes) : Network → List NetworkEvent → Network → Prop
  /-- The controller sends to both nodes. -/
  | multicast (s : Network) (d : Datagram) :
    NetworkStep printF s [] { s with commands := fun b => s.commands b ++ [d] }
  | loseCommand (s : Network) (b : Build) (l₁ : List Datagram) (d : Datagram) (l₂ : List Datagram) :
    s.commands b = l₁ ++ d :: l₂ →
    NetworkStep printF s [] { s with commands := Function.update s.commands b (l₁ ++ l₂) }
  | receive (s : Network) (b : Build) (d : Datagram) (ds : List Datagram) (n : Node) :
    s.commands b = d :: ds → NodeStep b printF (s.node b) [.recvfrom d] n →
    NetworkStep printF s [.node b (.recvfrom d)]
      { s with commands := Function.update s.commands b ds, node := Function.update s.node b n }
  | node (s : Network) (b : Build) (es : List NodeEvent) (n : Node) :
    NodeStep b printF (s.node b) es n → received es = [] →
    NetworkStep printF s (es.map (.node b))
      { s with
        node := Function.update s.node b n
        reports := Function.update s.reports b (s.reports b ++ sentOut es) }
  | loseReport (s : Network) (b : Build) (l₁ : List Bytes) (m : Bytes) (l₂ : List Bytes) :
    s.reports b = l₁ ++ m :: l₂ →
    NetworkStep printF s [.lost b m] { s with reports := Function.update s.reports b (l₁ ++ l₂) }
  /-- `receiveLoop` receives a message in some second. -/
  | deliver (s : Network) (b : Build) (m : Bytes) (ms : List Bytes) (now : Nat) (rows : List Row)
      (accepted : Bool) (db : TableDef → Table Bytes) :
    s.reports b = m :: ms → receiveLoop m = some rows →
    insertRows store now s.db rows = some (accepted, db) →
    NetworkStep printF s (if accepted then [] else [.lost b m])
      { s with reports := Function.update s.reports b ms, db := db }

end

def eventsOf (b : Build) (tr : List NetworkEvent) : List NodeEvent :=
  tr.filterMap fun
    | .node b' e => if b' = b then some e else none
    | .lost _ _ => none

/-- The messages of one node that did not get into the database. -/
def lostOf (b : Build) (tr : List NetworkEvent) : List Bytes :=
  tr.filterMap fun
    | .node _ _ => none
    | .lost b' m => if b' = b then some m else none

/-- Both nodes have just started, and none of their messages is under way. -/
structure Network.Starts (s : Network) : Prop where
  node : ∀ b, ∃ mainCommand data, s.node b = .start mainCommand data
  reports : ∀ b, s.reports b = []

/-! ## The messages -/

variable {printF : Int → Nat → Bytes} {store : TableDef → Bytes → Option Bytes}

theorem Quantity.table_inj {q q' : Quantity} {b b' : Build} (h : q.table b = q'.table b') :
    q = q' ∧ b = b' := by
  cases q <;> cases q' <;> cases b <;> cases b' <;> first | exact ⟨rfl, rfl⟩ | exact absurd h (by decide)

theorem Quantity.table_ne_win_open (q : Quantity) (b : Build) : q.table b ≠ str "Win_Open" := by
  cases q <;> cases b <;> decide

theorem Quantity.sensor_mem (q : Quantity) : Sensor q.sensor :=
  SmartWindow.sensor_mem (by cases q <;> simp [Quantity.sensor])

theorem answers_measurement (b : Build) (printF : Int → Nat → Bytes) (data : MeasuredData) :
    answers b printF data .FINISH_MEASUREMENT =
      [Quantity.Temp, .AirPressure, .Volume, .Humidity, .AirQuality].map fun q =>
        sendString b q.sensor (q.text printF data) := rfl

theorem Prints.text (h : Prints printF) (q : Quantity) (data : MeasuredData) :
    q.text printF data ≠ [] ∧ ∀ x ∈ q.text printF data, x ≠ 0 ∧ x ≠ SEP_VALUE := by
  cases q with
  | Temp | Volume | Humidity | AirQuality => exact h _ _
  | AirPressure =>
    rw [Quantity.text, printD_eq]
    exact ⟨Decimal.text_ne_nil _, fun x hx => mem_text hx⟩

theorem receiveLoop_sendString (q : Quantity) (b : Build) {text : Bytes}
    (htext : text ≠ [] ∧ ∀ x ∈ text, x ≠ 0 ∧ x ≠ SEP_VALUE) :
    receiveLoop (sendString b q.sensor text) = some [(q.table b, text)] := by
  obtain ⟨hname, hparts⟩ :=
    InPlace.split_measurement InPlace.put_token q.sensor_mem.1 (position_spec b) htext
  have hmessage : sendString b q.sensor text =
      (CMD_PUT ++ SEP_SENSOR :: (q.sensor ++ SEP_SENSOR :: InPlace.position b)) ++ SEP_VALUE :: text := by
    cases b <;> simp [sendString, InPlace.position, CMD_PUT, SEP_SENSOR, SEP_VALUE, str]
  rw [hmessage, receiveLoop, hname]
  simp only [hparts]
  rfl

/-- Every message of a node requests one row, for Win_Open or a table of this node. -/
theorem Sent.row (hprint : Prints printF) {b : Build} {m : Bytes} (h : Sent b printF m) :
    ∃ row, receiveLoop m = some [row] ∧ (row.1 = str "Win_Open" ∨ ∃ q : Quantity, row.1 = q.table b) := by
  obtain ⟨data, c, hm⟩ := h
  cases c with
  | FINISH_MEASUREMENT =>
    rw [answers_measurement] at hm
    obtain ⟨q, -, rfl⟩ := List.mem_map.1 hm
    exact ⟨_, receiveLoop_sendString q b (hprint.text q data), .inr ⟨q, rfl⟩⟩
  | FINISH_OPEN_WINDOW =>
    obtain rfl := List.mem_singleton.1 hm
    exact ⟨(str "Win_Open", str "1"), by decide, .inl rfl⟩
  | FINISH_CLOSE_WINDOW =>
    obtain rfl := List.mem_singleton.1 hm
    exact ⟨(str "Win_Open", str "0"), by decide, .inl rfl⟩
  | START_MEASUREMENT | START_OPEN_WINDOW | START_CLOSE_WINDOW => simp [answers] at hm

theorem eq_of_table {b b' : Build} {row : Row}
    (h : row.1 = str "Win_Open" ∨ ∃ q : Quantity, row.1 = q.table b) {q' : Quantity}
    (heq : row.1 = q'.table b') : b' = b := by
  rcases h with hwin | ⟨q, hq⟩
  · exact absurd (heq.symm.trans hwin) (q'.table_ne_win_open b')
  · exact (Quantity.table_inj (heq.symm.trans hq)).2

/-! ## The events of a node -/

theorem eventsOf_append (b : Build) (tr es : List NetworkEvent) :
    eventsOf b (tr ++ es) = eventsOf b tr ++ eventsOf b es := List.filterMap_append

theorem lostOf_append (b : Build) (tr es : List NetworkEvent) :
    lostOf b (tr ++ es) = lostOf b tr ++ lostOf b es := List.filterMap_append

theorem eventsOf_node (b b' : Build) (es : List NodeEvent) :
    eventsOf b (es.map (.node b')) = if b' = b then es else [] := by
  rw [eventsOf, List.filterMap_map]
  split_ifs with hb
  · simp [hb]
  · simp [hb]

theorem eventsOf_node_self (b : Build) (es : List NodeEvent) : eventsOf b (es.map (.node b)) = es := by
  rw [eventsOf_node, if_pos rfl]

theorem lostOf_node (b b' : Build) (es : List NodeEvent) : lostOf b (es.map (.node b')) = [] := by
  rw [lostOf, List.filterMap_map]
  exact List.filterMap_eq_nil_iff.2 fun e _ => rfl

variable {s s' : Network} {tr es : List NetworkEvent} {b : Build}

/-! ## Every state of a run -/

/-- Where the nodes are, and what the channels carry. -/
structure Network.Ok (printF : Int → Nat → Bytes) (s : Network) : Prop where
  node : ∀ b, ∃ p, (s.node b).At b p ∧ (s.node b).window.Ok
  sent : ∀ b, ∀ m ∈ s.reports b, Sent b printF m

theorem sentOut_sent {n n' : Node} {es : List NodeEvent} {p : Dialog} (hp : n.At b p)
    (hw : n.window.Ok) (hs : NodeStep b printF n es n') : ∀ m ∈ sentOut es, Sent b printF m := by
  obtain ⟨p', hd, -, -⟩ := dialog_step hp hw hs
  generalize n.isOpen = o, n'.isOpen = o' at hd
  cases hd with
  | noDatagram | recvfrom | request | reply | ignored => simp [sentOut]
  | work c o es _ hes | done c o es _ hes =>
    rw [sentOut_work hes]
    simp
  | answer c o data =>
    rw [sentOut_pp_send]
    exact fun m hm => ⟨data, c.finish, hm⟩

theorem Network.Ok.start (h : s.Starts) : s.Ok printF where
  node b := by
    obtain ⟨mainCommand, data, hb⟩ := h.node b
    rw [hb]
    exact ⟨_, Node.start_at _ _, Window.start_ok⟩
  sent b := by
    rw [h.reports b]
    simp

theorem Network.Ok.update (h : s.Ok printF) {n : Node} {nes : List NodeEvent}
    (hs : NodeStep b printF (s.node b) nes n) (b' : Build) :
    ∃ p, (Function.update s.node b n b').At b' p ∧ (Function.update s.node b n b').window.Ok := by
  by_cases hb : b' = b
  · subst hb
    obtain ⟨p, hp, hw⟩ := h.node b'
    obtain ⟨p', -, hp', hw'⟩ := dialog_step hp hw hs
    rw [Function.update_self]
    exact ⟨p', hp', hw'⟩
  · rw [Function.update_of_ne hb]
    exact h.node b'

theorem Network.Ok.reports (h : s.Ok printF) {ms : List Bytes}
    (hms : ∀ m ∈ ms, m ∈ s.reports b ∨ Sent b printF m) (b' : Build) :
    ∀ m ∈ Function.update s.reports b ms b', Sent b' printF m := by
  by_cases hb : b' = b
  · subst hb
    rw [Function.update_self]
    exact fun m hm => (hms m hm).elim (h.sent b' m) id
  · rw [Function.update_of_ne hb]
    exact h.sent b'

theorem Network.Ok.step (h : s.Ok printF) (hs : NetworkStep store printF s es s') :
    s'.Ok printF := by
  cases hs with
  | multicast d => exact ⟨h.node, h.sent⟩
  | loseCommand b l₁ d l₂ _ => exact ⟨h.node, h.sent⟩
  | receive b d ds n _ hn => exact ⟨h.update hn, h.sent⟩
  | node b nes n hn _ =>
    obtain ⟨p, hp, hw⟩ := h.node b
    refine ⟨h.update hn, h.reports fun m hm => ?_⟩
    exact (List.mem_append.1 hm).imp id (sentOut_sent hp hw hn m)
  | loseReport b l₁ m l₂ hb =>
    refine ⟨h.node, h.reports fun m' hm' => .inl ?_⟩
    rw [hb]
    simp only [List.mem_append, List.mem_cons] at hm' ⊢
    tauto
  | deliver b m ms now rows accepted db hb _ _ =>
    refine ⟨h.node, h.reports fun m' hm' => .inl ?_⟩
    rw [hb]
    exact List.mem_cons_of_mem m hm'

/-! ## Runs of the network and of a node -/

/-- What every run of the network does to a node is a run of the node. -/
theorem run_eventsOf (h : Trans.Run (NetworkStep store printF) s tr s') (b : Build) :
    Trans.Run (NodeStep b printF) (s.node b) (eventsOf b tr) (s'.node b) := by
  refine h.invariant (fun tr s' => Trans.Run (NodeStep b printF) (s.node b) (eventsOf b tr) (s'.node b))
    .refl ?_
  intro tr s₁ es s₂ ih hs
  rw [eventsOf_append]
  cases hs with
  | multicast | loseCommand => simpa [eventsOf] using ih
  | loseReport => simpa [eventsOf] using ih
  | deliver b' m ms now rows accepted => cases accepted <;> simpa [eventsOf] using ih
  | receive b' d ds n _ hn =>
    by_cases hb : b' = b
    · subst hb
      simpa [eventsOf] using ih.snoc hn
    · simpa [eventsOf, hb, Function.update_of_ne (Ne.symm hb)] using ih
  | node b' nes n hn _ =>
    rw [eventsOf_node]
    by_cases hb : b' = b
    · subst hb
      simpa using ih.snoc hn
    · simpa [hb, Function.update_of_ne (Ne.symm hb)] using ih

/-- A step that is no message of the controller. -/
def OwnStep (store : TableDef → Bytes → Option Bytes) (printF : Int → Nat → Bytes) (s : Network)
    (es : List NetworkEvent) (s' : Network) : Prop :=
  NetworkStep store printF s es s' ∧ ∀ d, s' ≠ s.multicast d

theorem ne_multicast {s s' : Network} (b : Build) (h : (s'.commands b).length ≤ (s.commands b).length)
    (d : Datagram) : s' ≠ s.multicast d := by
  rintro rfl
  simp [Network.multicast] at h

theorem NodeStep.received_cases {b : Build} {n n' : Node} {es : List NodeEvent}
    (h : NodeStep b printF n es n') : received es = [] ∨ ∃ d, es = [.recvfrom d] := by
  cases h with
  | recvfrom d _ => exact .inr ⟨d, rfl⟩
  | noDatagram | request | reply => exact .inl rfl
  | turn m _ =>
    left
    by_cases hc : n.mainCommand = .START_MEASUREMENT
    · rw [hc]
      cases b <;> rfl
    · exact received_work fun e he => ((turn_unmeasured hc b _ _ m).1 e he).1
  | answer c rest _ _ =>
    left
    rw [received, List.filterMap_map]
    exact List.filterMap_eq_nil_iff.2 fun m _ => rfl

/-- Where what it receives is on its way, every run of a node is one of the network. -/
theorem exists_node_run (store : TableDef → Bytes → Option Bytes) {b : Build} {nes : List NodeEvent}
    {n : Node} (rest : List Datagram) (hcommands : s.commands b = received nes ++ rest)
    (h : Trans.Run (NodeStep b printF) (s.node b) nes n) :
    Trans.Run (OwnStep store printF) s (nes.map (.node b))
      { s with
        node := Function.update s.node b n
        commands := Function.update s.commands b rest
        reports := Function.update s.reports b (s.reports b ++ sentOut nes) } := by
  induction h generalizing rest with
  | refl =>
    have hrest : s.commands b = rest := hcommands
    simpa [← hrest, sentOut] using Trans.Run.refl
  | @snoc nes n es n' _ hs ih =>
    rw [received_append, List.append_assoc] at hcommands
    have hrun := ih _ hcommands
    rw [List.map_append]
    rcases hs.received_cases with hes | ⟨d, rfl⟩
    · rw [hes, List.nil_append] at hrun
      have hown := hrun.snoc ⟨.node _ b es n' (by simpa using hs) hes, ne_multicast b (le_refl _)⟩
      simpa [sentOut] using hown
    · have hown := hrun.snoc
        ⟨.receive _ b d rest n' (by simp [received]) (by simpa using hs), ne_multicast b (by simp [received])⟩
      simpa [sentOut] using hown

/-- Both nodes have just started, and all tables are empty. -/
def Network.start : Network :=
  ⟨fun _ => .start .START_MEASUREMENT ⟨0, 0, 0, 0, 0⟩, fun _ => [], fun _ => [], fun _ => .empty⟩

theorem Network.start_starts : Network.start.Starts := ⟨fun _ => ⟨_, _, rfl⟩, fun _ => rfl⟩

theorem prints_printD : Prints fun v _ => printD v := by
  intro v d
  simp only [printD_eq]
  exact ⟨Decimal.text_ne_nil _, fun x hx => mem_text hx⟩

end SmartWindow
