/-
The whole of it: both nodes and the network, `receiveLoop`, and the passes of
`decisionLoop` read by read, row by row and command by command, over the
tables that the nodes' messages fill and that others write to as well. A pass
is no longer one step, and what it reads may change while it reads. It decides
all the same as `decisionPass` does on what it has read, and the inside node
and the machine behave as `System` says, so they agree (`whole_refines`).

Left out are the controller's own messages, taken as ignored (`HostStep` says
when they are), and reads that fail.
-/
import SmartWindow.Controller.Published
import SmartWindow.Controller.Radio
import SmartWindow.System.Loopback
import SmartWindow.System.Telemetry

namespace SmartWindow

open OneHot

/-! ## A pass -/

def readTables : List String :=
  ["AutoModus", "ManClose", "ManOpen", "Win_Open", "AirPressure_IN", "AirPressure_OUT", "AirPressure_MAX",
    "AirQuality_IN", "AirQuality_OUT", "AirQuality_MAX", "Humidity_IN", "Humidity_OUT", "Humidity_MIN",
    "Humidity_MAX", "Temp_IN", "Temp_OUT", "Temp_MIN", "Temp_MAX", "Volume_IN", "Volume_OUT", "Volume_MAX",
    "Priority"]

/-- What the readers make of the texts of all these. -/
def readings : List Bytes → Option Readings
  | [autoMode_bo, manClose_bo, manOpen_bo, win_open_bo, airP_in, airP_out, airP_max, airQ_in, airQ_out,
      airQ_max, humid_in, humid_out, humid_min, humid_max, temp_in, temp_out, temp_min, temp_max, vol_in,
      vol_out, vol_max, priority] =>
    some
      { autoMode_bo := atof autoMode_bo != 0
        manClose_bo := atof manClose_bo != 0
        manOpen_bo := atof manOpen_bo != 0
        win_open_bo := atof win_open_bo != 0
        airP_in := atoi airP_in
        airP_out := atoi airP_out
        airP_max := atoi airP_max
        airQ_in := atoi airQ_in
        airQ_out := atoi airQ_out
        airQ_max := atoi airQ_max
        humid_in := atoi humid_in
        humid_out := atoi humid_out
        humid_min := atoi humid_min
        humid_max := atoi humid_max
        temp_in := atoi temp_in
        temp_out := atoi temp_out
        temp_min := atoi temp_min
        temp_max := atoi temp_max
        vol_in := atoi vol_in
        vol_out := atoi vol_out
        vol_max := atoi vol_max
        priority := atoi priority }
  | _ => none

/-- Where `decisionLoop` is in its pass. -/
inductive PassPc
  /-- what it has read so far -/
  | reads (werte : List Bytes)
  /-- what it has read, and the rows that are left to be written -/
  | writes (r : Readings) (rows : List Write)
  /-- the commands that are left to be sent -/
  | sends (commands : List WinCommand)

/-! ## The whole -/

structure Whole where
  network : Network
  loop : LoopState
  pass : PassPc

inductive WholeEvent
  | network (e : NetworkEvent)
  | read (d : TableDef) (wert : Bytes)
  | send (c : WinCommand)

/-- The tables that passes have read, and the texts they got. -/
def readsOf (tr : List WholeEvent) : List (String × Bytes) :=
  tr.filterMap fun
    | .read d wert => some (d.name, wert)
    | _ => none

def sentCommands (tr : List WholeEvent) : List WinCommand :=
  tr.filterMap fun
    | .send c => some c
    | _ => none

/-- What passes of one step each send. -/
def sentIn (s : LoopState) : List Readings → List WinCommand
  | [] => []
  | r :: rs => (decisionPass s r).sent ++ sentIn (decisionPass s r).state rs

/-- A table for what the nodes send. -/
def TableDef.Reported (d : TableDef) : Prop :=
  d.name = "Win_Open" ∨ ∃ (q : Quantity) (b : Build), str d.name = q.table b

section

variable (store : TableDef → Bytes → Option Bytes) (printF : Int → Nat → Bytes)

/-- One step of a node, of the network, of one of the controller's threads or of others. -/
inductive WholeStep : Whole → List WholeEvent → Whole → Prop
  /-- Anything but a message of the controller. -/
  | network (w : Whole) (es : List NetworkEvent) (n : Network) : NetworkStep store printF w.network es n →
    (∀ d, n ≠ w.network.multicast d) → WholeStep w (es.map .network) { w with network := n }
  /-- `main` asks for measurements. -/
  | getAll (w : Whole) : WholeStep w [] { w with network := w.network.multicast getAll }
  | read (w : Whole) (werte : List Bytes) (d : TableDef) (wert : Bytes) : w.pass = .reads werte →
    d ∈ tables → readTables[werte.length]? = some d.name → (w.network.db d).latest = some wert →
    WholeStep w [.read d wert] { w with pass := .reads (werte ++ [wert]) }
  | alarms (w : Whole) (werte : List Bytes) (r : Readings) : w.pass = .reads werte →
    readings werte = some r →
    WholeStep w []
      { w with
        loop := { w.loop with alarms := updateAlarms r w.loop.alarms }
        pass := .writes r (publish r (updateAlarms r w.loop.alarms)) }
  /-- A row of the publishing section, accepted or not. -/
  | write (w : Whole) (r : Readings) (row : Write) (rows : List Write) (now : Nat) (accepted : Bool)
      (db : TableDef → Table Bytes) : w.pass = .writes r (row :: rows) →
    insertRow store now w.network.db (str row.1, str row.2) = some (accepted, db) →
    WholeStep w [] { w with network := { w.network with db := db }, pass := .writes r rows }
  | transitions (w : Whole) (r : Readings) : w.pass = .writes r [] →
    WholeStep w []
      { w with
        loop := { w.loop with flags := runTransitions (inputs r w.loop.alarms) w.loop.flags }
        pass := .sends (assignments (runTransitions (inputs r w.loop.alarms) w.loop.flags)) }
  | send (w : Whole) (c : WinCommand) (cs : List WinCommand) : w.pass = .sends (c :: cs) →
    WholeStep w [.send c] { w with network := w.network.multicast (putWin c), pass := .sends cs }
  | again (w : Whole) : w.pass = .sends [] → WholeStep w [] { w with pass := .reads [] }
  /-- Others insert a row into a table of theirs, which may be rejected. -/
  | others (w : Whole) (d : TableDef) (now : Nat) (wert : Bytes) : ¬ d.Reported →
    WholeStep w []
      { w with
        network :=
          { w.network with db := Function.update w.network.db d ((w.network.db d).insert now wert).2 } }

end

/-- All programs start, and none of the nodes' messages is under way. -/
structure Whole.Starts (w : Whole) : Prop where
  network : w.network.Starts
  loop : w.loop = .start
  pass : w.pass = .reads []

/-- Nothing at all is under way, and Win_Open says closed. -/
structure Whole.Fresh (w : Whole) : Prop extends w.Starts where
  commands : ∀ b, w.network.commands b = []
  status : get_latest_value_bool (w.network.db winOpenDef) = some false

/-- What `System` is about, between two passes. -/
def Whole.system (w : Whole) : System where
  flags := w.loop.flags
  snapshot := none
  win_Open := (get_latest_value_bool (w.network.db winOpenDef)).getD false
  reports := w.network.reports .IN
  node := w.network.node .IN
  commands := w.network.commands .IN

/-- The column of Win_Open keeps what a report sets it to. -/
def KeepsStatus (store : TableDef → Bytes → Option Bytes) : Prop :=
  ∀ (c : WinCommand) (wert : Bytes), store winOpenDef c.wert = some wert → (atof wert != 0) = c.status

variable {store : TableDef → Bytes → Option Bytes} {printF : Int → Nat → Bytes}

/-! ## What the messages do to Win_Open -/

/-- A message is a measurement, or a report of the window by the inside node. -/
inductive Brings (printF : Int → Nat → Bytes) (b : Build) (m : Bytes) : Prop
  | measurement (q : Quantity) (text : Bytes) : receiveLoop m = some [(q.table b, text)] → Brings printF b m
  | report (c : WinCommand) : b = .IN → receiveLoop m = some [(str "Win_Open", c.wert)] →
    winOpen m = some c.status → Brings printF b m

/-- What a node sends on the reply to a request that it has a case for. -/
theorem brings_of_mem (hprint : Prints printF) {b : Build} {c : CommunicationCommand}
    (hc : answered b c = true) {data : MeasuredData} {m : Bytes}
    (hm : m ∈ answers b printF data c.finish) : Brings printF b m := by
  cases c with
  | START_MEASUREMENT =>
    rw [CommunicationCommand.finish, answers_measurement] at hm
    obtain ⟨q, -, rfl⟩ := List.mem_map.1 hm
    exact .measurement q _ (receiveLoop_sendString q b (hprint.text q data))
  | START_OPEN_WINDOW =>
    obtain rfl := List.mem_singleton.1 hm
    exact .report .Open (by simpa [answered] using hc) (by decide) (by decide)
  | START_CLOSE_WINDOW =>
    obtain rfl := List.mem_singleton.1 hm
    exact .report .Close (by simpa [answered] using hc) (by decide) (by decide)
  | FINISH_MEASUREMENT | FINISH_OPEN_WINDOW | FINISH_CLOSE_WINDOW => cases hc

theorem winOpen_eq_none {m : Bytes} {row : Row} (h : receiveLoop m = some [row])
    (hne : row.1 ≠ str "Win_Open") : winOpen m = none := by
  have hrow (value : Bytes) : row ≠ (str "Win_Open", value) := fun heq => hne (congrArg Prod.fst heq)
  simp [winOpen, h, hrow]

theorem sentOut_brings (hprint : Prints printF) {b : Build} {n n' : Node} {es : List NodeEvent}
    {p : Dialog} (hp : n.At b p) (hw : n.window.Ok) (hs : NodeStep b printF n es n') :
    ∀ m ∈ sentOut es, Brings printF b m := by
  obtain ⟨p', hd, -, -⟩ := dialog_step hp hw hs
  generalize n.isOpen = o, n'.isOpen = o' at hd
  cases hd with
  | noDatagram | recvfrom | request | reply | ignored => simp [sentOut]
  | work c o es _ hes | done c o es _ hes =>
    rw [sentOut_work hes]
    simp
  | answer c o data =>
    rw [sentOut_pp_send]
    exact fun m hm => brings_of_mem hprint (hp.replied_answered c rfl) hm

/-- Where the nodes are, and what they send. -/
structure Network.Reports (printF : Int → Nat → Bytes) (s : Network) : Prop where
  ok : s.Ok printF
  brings : ∀ b, ∀ m ∈ s.reports b, Brings printF b m

theorem Network.Reports.start {s : Network} (h : s.Starts) : s.Reports printF where
  ok := .start h
  brings b := by simp [h.reports b]

theorem Network.Reports.step (hprint : Prints printF) {s s' : Network} {es : List NetworkEvent}
    (h : s.Reports printF) (hs : NetworkStep store printF s es s') : s'.Reports printF := by
  refine ⟨h.ok.step hs, ?_⟩
  have hupdate {b : Build} {ms : List Bytes} (hms : ∀ m ∈ ms, m ∈ s.reports b ∨ Brings printF b m) :
      ∀ b', ∀ m ∈ Function.update s.reports b ms b', Brings printF b' m :=
    (Function.forall_update_iff s.reports fun b ms => ∀ m ∈ ms, Brings printF b m).2
      ⟨fun m hm => (hms m hm).elim (h.brings b m) id, fun b' _ => h.brings b'⟩
  cases hs with
  | multicast | loseCommand | receive => exact h.brings
  | node b nes n hn _ =>
    obtain ⟨p, hp, hw⟩ := h.ok.node b
    exact hupdate fun m hm => (List.mem_append.1 hm).imp id (sentOut_brings hprint hp hw hn m)
  | loseReport b l₁ m l₂ hr =>
    refine hupdate fun m' hm' => .inl ?_
    rw [hr]
    exact ((List.sublist_cons_self m l₂).append_left l₁).subset hm'
  | deliver b m ms now rows accepted db hr _ _ =>
    refine hupdate fun m' hm' => .inl ?_
    rw [hr]
    exact List.mem_cons_of_mem m hm'

theorem latest_insertRow {now : Nat} {db db' : TableDef → Table Bytes} {row : Row} {accepted : Bool}
    (h : insertRow store now db row = some (accepted, db')) {d : TableDef} (hd : d ∈ tables)
    (hrow : ¬ (accepted = true ∧ row.1 = str d.name)) : (db' d).latest = (db d).latest := by
  have hstored := insertRow_stored h hd
  rw [if_neg hrow] at hstored
  exact hstored.latest_nil

theorem status_insertRow (hkeeps : KeepsStatus store) {now : Nat} {db db' : TableDef → Table Bytes}
    {c : WinCommand} (h : insertRow store now db (str "Win_Open", c.wert) = some (true, db')) :
    get_latest_value_bool (db' winOpenDef) = some c.status := by
  have hstored := insertRow_stored h (d := winOpenDef) (by decide)
  rw [if_pos ⟨rfl, rfl⟩, ← List.nil_append [_]] at hstored
  obtain ⟨wert, hwert, hlatest⟩ := hstored.latest
  rw [get_latest_value_bool, hlatest, Option.map_some, hkeeps c wert hwert]

/-! ## The network as part of `System` -/

/-- The inside node, its channels and the status are those of the system. -/
structure Network.Matches (n : Network) (s : System) : Prop where
  node : s.node = n.node .IN
  commands : s.commands = n.commands .IN
  reports : s.reports = n.reports .IN
  status : get_latest_value_bool (n.db winOpenDef) = some s.win_Open

theorem deliver_matches (hkeeps : KeepsStatus store) {n : Network} {s : System} (hm : n.Matches s)
    {m : Bytes} {ms : List Bytes} (hr : n.reports .IN = m :: ms) {row : Row}
    (hstatus : winOpen m = none ∧ row.1 ≠ str "Win_Open" ∨
      ∃ c : WinCommand, winOpen m = some c.status ∧ row = (str "Win_Open", c.wert))
    {now : Nat} {accepted : Bool} {db : TableDef → Table Bytes}
    (hinsert : insertRow store now n.db row = some (accepted, db)) :
    ∃ s', SystemStep printF s s' ∧ s'.flags = s.flags ∧ s'.snapshot = s.snapshot ∧
      Network.Matches { n with reports := Function.update n.reports .IN ms, db := db } s' := by
  obtain ⟨hnode, hcommands, hreports, hread⟩ := hm
  have hr' : s.reports = [] ++ m :: ms := hreports.trans hr
  have kept (h : ¬ (accepted = true ∧ row.1 = str "Win_Open")) :
      get_latest_value_bool (db winOpenDef) = get_latest_value_bool (n.db winOpenDef) :=
    congrArg (Option.map (atof · != 0)) (latest_insertRow hinsert (d := winOpenDef) (by decide) h)
  rcases hstatus with ⟨hnone, hne⟩ | ⟨c, hwin, rfl⟩
  · refine ⟨_, .loseReport s [] m ms hr', rfl, rfl, hnode, hcommands, by simp, ?_⟩
    exact (kept fun h => hne h.2).trans hread
  · cases accepted with
    | false =>
      refine ⟨_, .loseReport s [] m ms hr', rfl, rfl, hnode, hcommands, by simp, ?_⟩
      exact (kept fun h => Bool.false_ne_true h.1).trans hread
    | true =>
      refine ⟨_, .deliver s m ms hr', rfl, rfl, hnode, hcommands, by simp, ?_⟩
      rw [hwin]
      exact status_insertRow hkeeps hinsert

/-- A step of the network is one of the system, or none. -/
theorem network_simulated (hkeeps : KeepsStatus store) {n n' : Network} {es : List NetworkEvent}
    (hn : n.Reports printF) (hs : NetworkStep store printF n es n') (hno : ∀ d, n' ≠ n.multicast d)
    {s : System} (hm : n.Matches s) :
    ∃ s', Relation.ReflGen (SystemStep printF) s s' ∧ s'.flags = s.flags ∧ s'.snapshot = s.snapshot ∧
      n'.Matches s' := by
  obtain ⟨hnode, hcommands, hreports, hstatus⟩ := id hm
  cases hs with
  | multicast d => exact absurd rfl (hno d)
  | loseCommand b l₁ d l₂ hc =>
    cases b with
    | IN =>
      exact ⟨_, .single (.loseCommand s l₁ d l₂ (hcommands.trans hc)), rfl, rfl, hnode, by simp, hreports,
        hstatus⟩
    | OUT => exact ⟨s, .refl, rfl, rfl, hnode, by simpa using hcommands, hreports, hstatus⟩
  | receive b d ds n₁ hc hn₁ =>
    cases b with
    | IN =>
      exact ⟨_, .single (.receive s d ds n₁ (hcommands.trans hc) (hnode ▸ hn₁)), rfl, rfl, by simp, by simp,
        hreports, hstatus⟩
    | OUT => exact ⟨s, .refl, rfl, rfl, by simpa using hnode, by simpa using hcommands, hreports, hstatus⟩
  | node b es n₁ hn₁ hr =>
    cases b with
    | IN =>
      exact ⟨_, .single (.node s es n₁ (hnode ▸ hn₁) hr), rfl, rfl, by simp, hcommands, by simp [hreports],
        hstatus⟩
    | OUT => exact ⟨s, .refl, rfl, rfl, by simpa using hnode, hcommands, by simpa using hreports, hstatus⟩
  | loseReport b l₁ m l₂ hr =>
    cases b with
    | IN =>
      exact ⟨_, .single (.loseReport s l₁ m l₂ (hreports.trans hr)), rfl, rfl, hnode, hcommands, by simp,
        hstatus⟩
    | OUT => exact ⟨s, .refl, rfl, rfl, hnode, hcommands, by simpa using hreports, hstatus⟩
  | deliver b m ms now rows accepted db hr hrows hinsert =>
    have hm' : ∀ row, receiveLoop m = some [row] → insertRow store now n.db row = some (accepted, db) := by
      intro row hrow
      obtain rfl := Option.some.inj (hrow.symm.trans hrows)
      rwa [insertRows_one] at hinsert
    cases hn.brings b m (by simp [hr]) with
    | measurement q text hrow =>
      have hne := q.table_ne_win_open b
      cases b with
      | IN =>
        obtain ⟨s', hs', h⟩ := deliver_matches hkeeps hm hr (.inl ⟨winOpen_eq_none hrow hne, hne⟩) (hm' _ hrow)
        exact ⟨s', .single hs', h⟩
      | OUT =>
        refine ⟨s, .refl, rfl, rfl, hnode, hcommands, by simpa using hreports, ?_⟩
        rw [get_latest_value_bool, latest_insertRow (hm' _ hrow) (by decide) fun h => hne h.2]
        exact hstatus
    | report c hb hrow hwin =>
      subst hb
      obtain ⟨s', hs', h⟩ := deliver_matches hkeeps hm hr (.inr ⟨c, hwin, rfl⟩) (hm' _ hrow)
      exact ⟨s', .single hs', h⟩

/-! ## The pass as part of `System` -/

/-- What the system has of a pass: the status as soon as it is read, and the transitions when the command
goes out, or at once where there is none. -/
def PassPc.Matches (flags : Flags) (s : System) : PassPc → Prop
  | .reads werte => s.flags = flags ∧ s.snapshot = (werte[3]?).map (atof · != 0)
  | .writes r _ => s.flags = flags ∧ s.snapshot = some r.win_open_bo
  | .sends [] => s.flags = flags ∧ s.snapshot = none
  | .sends (c :: cs) => ∃ i : Inputs, s.snapshot = some i.win_open_bo ∧ flags = runTransitions i s.flags ∧
      assignments flags = c :: cs

structure Whole.Matches (w : Whole) (s : System) : Prop where
  network : w.network.Matches s
  hot : ∃ q, s.flags = hot q
  pass : w.pass.Matches w.loop.flags s

theorem PassPc.Matches.congr {flags : Flags} {s s' : System} {pc : PassPc} (h : pc.Matches flags s)
    (hflags : s'.flags = s.flags) (hsnapshot : s'.snapshot = s.snapshot) : pc.Matches flags s' := by
  unfold PassPc.Matches at h ⊢
  rwa [hflags, hsnapshot]

theorem win_open_readings {werte : List Bytes} {r : Readings} (h : readings werte = some r) :
    (werte[3]?).map (atof · != 0) = some r.win_open_bo := by
  unfold readings at h
  split at h
  · obtain rfl := Option.some.inj h
    rfl
  · cases h

/-- The rows left are of the publishing section. -/
def PassPc.Ok (loop : LoopState) : PassPc → Prop
  | .writes r rows => ∀ row ∈ rows, row ∈ publish r loop.alarms
  | _ => True

structure Whole.Ok (printF : Int → Nat → Bytes) (w : Whole) : Prop where
  network : w.network.Reports printF
  pass : w.pass.Ok w.loop

/-- The rows of the publishing section go to tables of their own. -/
theorem publish_not_reported {r : Readings} {a : Alarms} {row : Write} (h : row ∈ publish r a)
    {d : TableDef} (hd : d.Reported) : str row.1 ≠ str d.name := by
  have hname := (mem_publish h).1
  generalize row.1 = name at hname
  simp only [publishedTables, List.mem_cons, List.not_mem_nil, or_false] at hname
  rcases hd with hwin | ⟨q, b, htable⟩
  · rw [hwin]
    rcases hname with rfl | rfl | rfl | rfl <;> decide
  · rw [htable]
    rcases hname with rfl | rfl | rfl | rfl <;> cases q <;> cases b <;> decide

theorem publish_fits {r : Readings} {a : Alarms} {row : Write} (h : row ∈ publish r a) :
    Fits (str row.1) (str row.2) := by
  have hfits : ∀ name ∈ publishedTables, ∀ value ∈ ["0", "1", "2"], Fits (str name) (str value) := by
    decide
  exact hfits _ (mem_publish h).1 _ (mem_publish h).2

/-! ## Every step -/

variable {w w' : Whole} {es : List WholeEvent}

/-- A row of the publishing section gets into no table for what the nodes send. -/
theorem Whole.Ok.write_stored (hok : w.Ok printF) {r : Readings} {row : Write} {rows : List Write}
    (hpc : w.pass = .writes r (row :: rows)) {now : Nat} {accepted : Bool} {db : TableDef → Table Bytes}
    (hinsert : insertRow store now w.network.db (str row.1, str row.2) = some (accepted, db)) {d : TableDef}
    (hd : d ∈ tables) (hreported : d.Reported) : Appended store d (w.network.db d) (db d) [] := by
  have hpass := hok.pass
  rw [hpc] at hpass
  have hne := publish_not_reported (hpass row (by simp)) hreported
  have hstored := insertRow_stored hinsert hd
  rwa [if_neg fun h => hne h.2] at hstored

theorem others_stored {db : TableDef → Table Bytes} {d d' : TableDef} (hreported : d.Reported)
    (hd' : ¬ d'.Reported) (t : Table Bytes) :
    Appended store d (db d) (Function.update db d' t d) [] := by
  have hne : d ≠ d' := by
    rintro rfl
    exact hd' hreported
  exact .nil (congrArg Table.rows (Function.update_of_ne hne _ _))

theorem Whole.Ok.start (h : w.Starts) : w.Ok printF := by
  refine ⟨.start h.network, ?_⟩
  rw [h.pass]
  trivial

theorem Whole.Ok.step (hprint : Prints printF) (h : w.Ok printF) (hs : WholeStep store printF w es w') :
    w'.Ok printF := by
  obtain ⟨hn, hpass⟩ := h
  -- the rows of the tables do not matter here
  have hdb (db : TableDef → Table Bytes) : Network.Reports printF { w.network with db := db } :=
    ⟨⟨hn.ok.node, hn.ok.sent⟩, hn.brings⟩
  cases hs with
  | network es n hs _ => exact ⟨hn.step hprint hs, hpass⟩
  | getAll => exact ⟨⟨⟨hn.ok.node, hn.ok.sent⟩, hn.brings⟩, hpass⟩
  | read | transitions | again => exact ⟨hn, trivial⟩
  | alarms werte r hpc _ => exact ⟨hn, fun row hrow => hrow⟩
  | write r row rows now accepted db hpc _ =>
    rw [hpc] at hpass
    exact ⟨hdb db, fun row' hrow' => hpass row' (List.mem_cons_of_mem row hrow')⟩
  | send c cs hpc => exact ⟨⟨⟨hn.ok.node, hn.ok.sent⟩, hn.brings⟩, trivial⟩
  | others d now wert _ => exact ⟨hdb _, hpass⟩

/-! ## What a run reads and sends -/

theorem readsOf_append (tr es : List WholeEvent) : readsOf (tr ++ es) = readsOf tr ++ readsOf es :=
  List.filterMap_append

theorem sentCommands_append (tr es : List WholeEvent) :
    sentCommands (tr ++ es) = sentCommands tr ++ sentCommands es :=
  List.filterMap_append

theorem sentIn_snoc (s : LoopState) (rs : List Readings) (r : Readings) :
    sentIn s (rs ++ [r]) = sentIn s rs ++ (decisionPass (passes s rs) r).sent := by
  induction rs generalizing s with
  | nil => simp [sentIn, passes]
  | cons r' rs ih => simp [sentIn, ih, passes]

theorem zip_snoc {names : List String} {werte : List Bytes} {name : String} {wert : Bytes}
    (h : names[werte.length]? = some name) :
    names.zip (werte ++ [wert]) = names.zip werte ++ [(name, wert)] := by
  induction names generalizing werte with
  | nil => simp at h
  | cons name' names ih =>
    cases werte with
    | nil =>
      obtain rfl : name' = name := by simpa using h
      simp
    | cons wert' werte => simp [ih (by simpa using h)]

/-- Where the run has come to with these passes behind it. -/
def PassPc.Decides (tr : List WholeEvent) (loop : LoopState) (done : List (List Bytes))
    (rs : List Readings) : PassPc → Prop
  | .reads werte => readsOf tr = (done ++ [werte]).flatMap readTables.zip ∧ loop = passes .start rs ∧
      sentCommands tr = sentIn .start rs
  | .writes r _ => ∃ werte, readings werte = some r ∧
      readsOf tr = (done ++ [werte]).flatMap readTables.zip ∧
      loop = { passes .start rs with alarms := updateAlarms r (passes .start rs).alarms } ∧
      sentCommands tr = sentIn .start rs
  | .sends cs => readsOf tr = done.flatMap readTables.zip ∧ loop = passes .start rs ∧
      sentCommands tr ++ cs = sentIn .start rs

/-- The passes so far are those of `decisionPass` on what they have read. -/
def Whole.Decides (tr : List WholeEvent) (w : Whole) : Prop :=
  ∃ done rs, done.map readings = rs.map some ∧ w.pass.Decides tr w.loop done rs

theorem Whole.Decides.start (h : w.Starts) : w.Decides [] := by
  refine ⟨[], [], rfl, ?_⟩
  rw [h.pass]
  exact ⟨by simp [readsOf], h.loop, rfl⟩

/-- **A pass decides as one step** on what it has read, whatever comes in between. -/
theorem Whole.Decides.step {tr : List WholeEvent} (h : w.Decides tr) (hs : WholeStep store printF w es w') :
    w'.Decides (tr ++ es) := by
  obtain ⟨done, rs, hdone, hpass⟩ := h
  -- the steps that are none of the loop
  have hother (hreads : readsOf es = []) (hsent : sentCommands es = []) :
      w.pass.Decides (tr ++ es) w.loop done rs := by
    unfold PassPc.Decides at hpass ⊢
    rwa [readsOf_append, sentCommands_append, hreads, hsent, List.append_nil, List.append_nil]
  cases hs with
  | network es n _ _ =>
    refine ⟨done, rs, hdone, hother ?_ ?_⟩
    · simp [readsOf, List.filterMap_map]
    · simp [sentCommands, List.filterMap_map]
  | getAll | others => exact ⟨done, rs, hdone, hother rfl rfl⟩
  | read werte d wert hpc _ hname _ =>
    rw [hpc] at hpass
    obtain ⟨hreads, hloop, hsent⟩ := hpass
    refine ⟨done, rs, hdone, ?_, hloop, ?_⟩
    · rw [readsOf_append, hreads]
      simp [zip_snoc hname, readsOf]
    · rw [sentCommands_append, hsent]
      simp [sentCommands]
  | alarms werte r hpc hr =>
    rw [hpc] at hpass
    obtain ⟨hreads, hloop, hsent⟩ := hpass
    rw [List.append_nil]
    exact ⟨done, rs, hdone, werte, hr, hreads, by rw [hloop], hsent⟩
  | write r row rows now accepted db hpc _ =>
    rw [hpc] at hpass
    rw [List.append_nil]
    exact ⟨done, rs, hdone, hpass⟩
  | transitions r hpc =>
    rw [hpc] at hpass
    obtain ⟨werte, hr, hreads, hloop, hsent⟩ := hpass
    rw [List.append_nil, hloop]
    have hstate : passes .start (rs ++ [r]) = (decisionPass (passes .start rs) r).state := by simp [passes]
    refine ⟨done ++ [werte], rs ++ [r], by simp [hdone, hr], hreads, ?_, ?_⟩
    · rw [hstate]
      rfl
    · rw [sentIn_snoc, hsent]
      rfl
  | send c cs hpc =>
    rw [hpc] at hpass
    obtain ⟨hreads, hloop, hsent⟩ := hpass
    refine ⟨done, rs, hdone, ?_, hloop, ?_⟩
    · rw [readsOf_append, hreads]
      simp [readsOf]
    · rw [← hsent, sentCommands_append]
      simp [sentCommands]
  | again hpc =>
    rw [hpc] at hpass
    obtain ⟨hreads, hloop, hsent⟩ := hpass
    rw [List.append_nil]
    exact ⟨done, rs, hdone, by simpa using hreads, hloop, by simpa using hsent⟩

/-! ## Every step of the system -/

theorem length_command_le (q : Flag) : (command q).length ≤ 1 := by
  cases q with
  | init | state0 => simp [command]
  | state f g => cases g <;> simp [command]

theorem readTable_win_open {d : TableDef} (hd : d ∈ tables) (h : readTables[3]? = some d.name) :
    d = winOpenDef := by
  revert d
  decide

theorem Network.Matches.multicast {n : Network} {s s' : System} (h : n.Matches s) (d : Datagram)
    (hnode : s'.node = s.node) (hcommands : s'.commands = s.commands ++ [d])
    (hreports : s'.reports = s.reports) (hstatus : s'.win_Open = s.win_Open) :
    (n.multicast d).Matches s' :=
  ⟨hnode.trans h.node, by rw [hcommands, h.commands]; rfl, hreports.trans h.reports, hstatus ▸ h.status⟩

theorem Network.Matches.write {n : Network} {s : System} (h : n.Matches s) {db : TableDef → Table Bytes}
    (hdb : (db winOpenDef).latest = (n.db winOpenDef).latest) : Network.Matches { n with db := db } s :=
  ⟨h.node, h.commands, h.reports, by rw [get_latest_value_bool, hdb]; exact h.status⟩

/-- **A step of the whole is one of the system, or none.** -/
theorem whole_simulated (hkeeps : KeepsStatus store) (hok : w.Ok printF)
    (hs : WholeStep store printF w es w') {s : System} (hm : w.Matches s) :
    ∃ s', Relation.ReflGen (SystemStep printF) s s' ∧ w'.Matches s' := by
  obtain ⟨hnet, ⟨q, hq⟩, hpass⟩ := hm
  cases hs with
  | network es n hs hno =>
    obtain ⟨s', hs', hflags, hsnapshot, hnet'⟩ := network_simulated hkeeps hok.network hs hno hnet
    exact ⟨s', hs', hnet', ⟨q, hflags.trans hq⟩, hpass.congr hflags hsnapshot⟩
  | getAll =>
    exact ⟨_, .single (.getAll s), hnet.multicast _ rfl rfl rfl rfl, ⟨q, hq⟩, hpass.congr rfl rfl⟩
  | read werte d wert hpc hd hname hlatest =>
    rw [hpc] at hpass
    obtain ⟨hflags, hsnapshot⟩ := hpass
    by_cases hlen : werte.length = 3
    · -- the read of Win_Open
      rw [hlen] at hname
      obtain rfl := readTable_win_open hd hname
      have hwin : (atof wert != 0) = s.win_Open := by
        have := hnet.status
        rw [get_latest_value_bool, hlatest] at this
        exact Option.some.inj this
      have hnone : s.snapshot = none := by simpa [hlen] using hsnapshot
      refine ⟨_, .single (.read s hnone), ⟨hnet.node, hnet.commands, hnet.reports, hnet.status⟩, ⟨q, hq⟩,
        hflags, ?_⟩
      simp [← hlen, hwin]
    · refine ⟨s, .refl, hnet, ⟨q, hq⟩, hflags, hsnapshot.trans ?_⟩
      rcases Nat.lt_or_gt_of_ne hlen with h | h
      · rw [List.getElem?_eq_none (by omega), List.getElem?_eq_none (by simp; omega)]
      · rw [List.getElem?_append_left h]
  | alarms werte r hpc hr =>
    rw [hpc] at hpass
    exact ⟨s, .refl, hnet, ⟨q, hq⟩, hpass.1, hpass.2.trans (win_open_readings hr)⟩
  | write r row rows now accepted db hpc hinsert =>
    rw [hpc] at hpass
    have hstored := hok.write_stored hpc hinsert (d := winOpenDef) (by decide) (.inl rfl)
    exact ⟨s, .refl, hnet.write hstored.latest_nil, ⟨q, hq⟩, hpass⟩
  | transitions r hpc =>
    rw [hpc] at hpass
    obtain ⟨hflags, hsnapshot⟩ := hpass
    have hfinish : SystemStep printF s _ := .finish s (inputs r w.loop.alarms) hsnapshot
    have hhot : runTransitions (inputs r w.loop.alarms) s.flags = hot (next (inputs r w.loop.alarms) q) := by
      rw [hq, runTransitions_hot]
    rw [← hflags]
    cases hcs : assignments (runTransitions (inputs r w.loop.alarms) s.flags) with
    | nil =>
      rw [hcs] at hfinish
      refine ⟨_, .single hfinish, ⟨hnet.node, ?_, hnet.reports, hnet.status⟩, ⟨_, hhot⟩, rfl, rfl⟩
      exact (List.append_nil _).trans hnet.commands
    | cons c cs => exact ⟨s, .refl, hnet, ⟨q, hq⟩, _, hsnapshot, rfl, hcs⟩
  | send c cs hpc =>
    rw [hpc] at hpass
    obtain ⟨i, hsnapshot, hflags, hsent⟩ := hpass
    have hfinish : SystemStep printF s _ := .finish s i hsnapshot
    rw [← hflags, hsent] at hfinish
    have hhot : w.loop.flags = hot (next i q) := by rw [hflags, hq, runTransitions_hot]
    obtain rfl : cs = [] := by
      have hlen := length_command_le (next i q)
      rw [← assignments_hot, ← hhot, hsent] at hlen
      simpa using hlen
    exact ⟨_, .single hfinish, hnet.multicast _ rfl rfl rfl rfl, ⟨_, hhot⟩, rfl, rfl⟩
  | again hpc =>
    rw [hpc] at hpass
    exact ⟨s, .refl, hnet, ⟨q, hq⟩, hpass.1, hpass.2⟩
  | others d now wert hd =>
    have hstored (t : Table Bytes) : Appended store winOpenDef (w.network.db winOpenDef)
        (Function.update w.network.db d t winOpenDef) [] := others_stored (.inl rfl) hd t
    exact ⟨s, .refl, hnet.write (hstored _).latest_nil, ⟨q, hq⟩, hpass⟩

/-! ## Every run -/

theorem Whole.Fresh.matches (printF : Int → Nat → Bytes) (h : w.Fresh) :
    w.system.Fresh printF ∧ w.Matches w.system := by
  obtain ⟨mainCommand, data, hnode⟩ := h.network.node .IN
  have hflags : w.loop.flags = Flags.start := by rw [h.loop]; rfl
  have hstatus : w.system.win_Open = false := by rw [Whole.system, h.status]; rfl
  have hstart : w.system.node = .start mainCommand data := hnode
  refine ⟨⟨hflags, rfl, h.network.reports .IN, h.commands .IN, ?_, ?_, ?_⟩, ⟨rfl, rfl, rfl, ?_⟩, ?_, ?_⟩
  · rw [hstart]
    exact ⟨mainCommand, data, [], .refl⟩
  · rw [hstart]
    rfl
  · rw [hstatus, hstart]
    rfl
  · rw [hstatus, h.status]
  · exact ⟨.init, hflags⟩
  · rw [h.pass]
    exact ⟨rfl, rfl⟩

/-- Between two passes the whole is the system. -/
theorem Whole.Matches.eq_system {s : System} (h : w.Matches s) (hpass : w.pass = .reads []) : s = w.system := by
  obtain ⟨⟨hnode, hcommands, hreports, hstatus⟩, -, hpc⟩ := h
  rw [hpass] at hpc
  obtain ⟨hflags, hsnapshot⟩ := hpc
  obtain ⟨flags, snapshot, win_Open, reports, node, commands⟩ := s
  simp only at hnode hcommands hreports hflags
  subst hnode hcommands hreports hflags hsnapshot
  simp [Whole.system, hstatus]

/-- In the states that `InAgreement` is about, the pass has nothing left to send. -/
theorem Whole.Matches.inAgreement {s : System} (h : w.Matches s) (hs : s.InAgreement) :
    w.system.InAgreement := by
  obtain ⟨⟨hnode, hcommands, hreports, -⟩, ⟨q, hq⟩, hpc⟩ := h
  have hnode' : s.node = w.system.node := hnode
  have hflight (c : WinCommand) : w.system.InFlight c → s.InFlight c := by
    intro hc
    unfold System.InFlight at hc ⊢
    rwa [hcommands, hnode, hreports]
  have hflags (g : Flag) (hg : command g = []) (hflag : w.loop.flags g = true) : s.flags g = true := by
    unfold PassPc.Matches at hpc
    split at hpc
    · rwa [hpc.1]
    · rwa [hpc.1]
    · rwa [hpc.1]
    · next c cs _ =>
      obtain ⟨i, -, hnext, hsent⟩ := hpc
      rw [hq, runTransitions_hot] at hnext
      rw [hnext, hot_apply] at hflag
      rw [hnext, assignments_hot, ← hflag, hg] at hsent
      cases hsent
  constructor
  · intro hclosed
    have hclosed' : s.flags .state0 = true ∨ ∃ f, s.flags (.state f .closed) = true :=
      hclosed.imp (hflags _ rfl) fun ⟨f, hf⟩ => ⟨f, hflags _ rfl hf⟩
    obtain ⟨hwindow, hno⟩ := hs.1 hclosed'
    exact ⟨hnode' ▸ hwindow, fun hc => hno (hflight _ hc)⟩
  · rintro ⟨f, hf⟩
    obtain ⟨hwindow, hno⟩ := hs.2 ⟨f, hflags _ rfl hf⟩
    exact ⟨hnode' ▸ hwindow, fun hc => hno (hflight _ hc)⟩

/-- **The whole refines its parts.** In every state of every run the machine and the inside window agree.
Between two passes, the run has read what passes of one step each decide on, table by table, the loop's
state is theirs and so are the commands sent; and what it shares with the inside node is as in a run of
`System`. -/
theorem whole_refines (hprint : Prints printF) (hkeeps : KeepsStatus store) {w₀ : Whole} (h₀ : w₀.Fresh)
    {tr : List WholeEvent} (h : Trans.Run (WholeStep store printF) w₀ tr w) :
    w.system.InAgreement ∧ (w.pass = .reads [] →
      (∃ (done : List (List Bytes)) (rs : List Readings), done.map readings = rs.map some ∧
        readsOf tr = done.flatMap readTables.zip ∧ w.loop = passes .start rs ∧
        sentCommands tr = sentIn .start rs) ∧
      ∃ s₀ : System, s₀.Fresh printF ∧ Relation.ReflTransGen (SystemStep printF) s₀ w.system) := by
  obtain ⟨hfresh, hmatches⟩ := h₀.matches printF
  have hrun : w.Ok printF ∧ w.Decides tr ∧
      ∃ s, Relation.ReflTransGen (SystemStep printF) w₀.system s ∧ w.Matches s := by
    refine h.invariant (fun tr w => w.Ok printF ∧ w.Decides tr ∧
      ∃ s, Relation.ReflTransGen (SystemStep printF) w₀.system s ∧ w.Matches s)
      ⟨.start h₀.toStarts, .start h₀.toStarts, _, .refl, hmatches⟩ ?_
    rintro tr w es w' ⟨hok, hdecides, s, hrun, hm⟩ hs
    obtain ⟨s', hs', hm'⟩ := whole_simulated hkeeps hok hs hm
    exact ⟨hok.step hprint hs, hdecides.step hs, s', hrun.trans hs'.to_reflTransGen, hm'⟩
  obtain ⟨-, ⟨done, rs, hdone, hdecides⟩, s, hrun, hm⟩ := hrun
  refine ⟨hm.inAgreement (hfresh.inAgreement hrun), fun hpass => ⟨?_, w₀.system, hfresh, ?_⟩⟩
  · rw [hpass] at hdecides
    obtain ⟨hreads, hloop, hsent⟩ := hdecides
    exact ⟨done, rs, hdone, by simpa using hreads, hloop, hsent⟩
  · rwa [← hm.eq_system hpass]

theorem run_network {es : List NetworkEvent} {n : Network}
    (h : Trans.Run (OwnStep store printF) w.network es n) :
    Trans.Run (WholeStep store printF) w (es.map .network) { w with network := n } :=
  h.map (fun n => { w with network := n }) WholeEvent.network fun _ es n hs =>
    WholeStep.network _ es n hs.1 hs.2

/-! ## An undisturbed pass -/

/-- The tables end with these texts. -/
def Hold (db : TableDef → Table Bytes) (names : List String) (werte : List Bytes) : Prop :=
  List.Forall₂ (fun name wert => ∃ d ∈ tables, d.name = name ∧ (db d).latest = some wert) names werte

theorem exists_insertRow (store : TableDef → Bytes → Option Bytes) {table value : Bytes}
    (h : Fits table value) (now : Nat) (db : TableDef → Table Bytes) :
    ∃ accepted db', insertRow store now db (table, value) = some (accepted, db') := by
  unfold insertRow
  split
  · next d hd =>
    have hname : str d.name = table := by simpa using List.find?_some hd
    obtain ⟨t, ht, -⟩ := write_in_db_spec store (t := db d) (c := ⟨now, value⟩) (hname ▸ h)
    exact ⟨_, _, by rw [ht]; rfl⟩
  · exact ⟨false, db, if_pos h⟩

section

variable (store printF)

theorem exists_reads {db : TableDef → Table Bytes} {werte rest : List Bytes} (before : List String)
    {after : List String} (hdb : w.network.db = db) (hpass : w.pass = .reads werte)
    (hlen : werte.length = before.length) (htables : before ++ after <+: readTables)
    (hrest : Hold db after rest) :
    ∃ tr, Trans.Run (WholeStep store printF) w tr { w with pass := .reads (werte ++ rest) } ∧
      ∀ e ∈ tr, ∃ d wert, e = .read d wert := by
  induction hrest generalizing w werte before with
  | nil =>
    rw [List.append_nil, ← hpass]
    exact ⟨[], .refl, by simp⟩
  | @cons name wert after rest hwert _ ih =>
    obtain ⟨d, hd, rfl, hlatest⟩ := hwert
    have hname : readTables[werte.length]? = some d.name := by
      obtain ⟨tail, htail⟩ := htables
      rw [← htail, hlen, List.append_assoc, List.getElem?_append_right (le_refl _)]
      simp
    have hstep : WholeStep store printF w _ _ := .read w werte d wert hpass hd hname (hdb ▸ hlatest)
    obtain ⟨tr, hrun, hreads⟩ := ih (w := { w with pass := .reads (werte ++ [wert]) }) (before ++ [d.name])
      hdb rfl (by simp [hlen]) (by simpa using htables)
    rw [List.append_assoc] at hrun
    refine ⟨_, (Trans.Run.one hstep).trans hrun, List.forall_mem_cons.2 ⟨⟨d, wert, rfl⟩, hreads⟩⟩

theorem exists_published {r : Readings} {rows : List Write} (hpass : w.pass = .writes r rows)
    (hfits : ∀ row ∈ rows, Fits (str row.1) (str row.2)) :
    ∃ db, Trans.Run (WholeStep store printF) w []
        { w with network := { w.network with db := db }, pass := .writes r [] } ∧
      ∀ d ∈ tables, (∀ row ∈ rows, str row.1 ≠ str d.name) → (db d).latest = (w.network.db d).latest := by
  induction rows generalizing w with
  | nil =>
    rw [← hpass]
    exact ⟨w.network.db, .refl, fun _ _ _ => rfl⟩
  | cons row rows ih =>
    obtain ⟨accepted, db, hinsert⟩ := exists_insertRow store (hfits row (by simp)) 0 w.network.db
    have hstep : WholeStep store printF w _ _ := .write w r row rows 0 accepted db hpass hinsert
    obtain ⟨db', hrun, hkept⟩ := ih
      (w := { w with network := { w.network with db := db }, pass := .writes r rows }) rfl
      fun row' hrow' => hfits row' (List.mem_cons_of_mem row hrow')
    refine ⟨db', (Trans.Run.one hstep).trans hrun, fun d hd hne => ?_⟩
    obtain ⟨hrow, hrows⟩ := List.forall_mem_cons.1 hne
    exact (hkept d hd hrows).trans (latest_insertRow hinsert hd fun h => hrow h.2)

theorem exists_sends {cs : List WinCommand} (hpass : w.pass = .sends cs) :
    Trans.Run (WholeStep store printF) w (cs.map .send)
      { w with
        network := { w.network with commands := fun b => w.network.commands b ++ cs.map putWin }
        pass := .reads [] } := by
  induction cs generalizing w with
  | nil =>
    have hstep : WholeStep store printF w _ _ := .again w hpass
    simpa using Trans.Run.one hstep
  | cons c cs ih =>
    have hstep : WholeStep store printF w _ _ := .send w c cs hpass
    have hrest := ih (w := { w with network := w.network.multicast (putWin c), pass := .sends cs }) rfl
    simpa [Network.multicast] using (Trans.Run.one hstep).trans hrest

/-- **A pass that nothing comes in between of is `decisionPass`.** -/
theorem exists_pass_run {werte : List Bytes} {r : Readings} (hpass : w.pass = .reads [])
    (hdb : Hold w.network.db readTables werte) (hr : readings werte = some r) :
    ∃ tr db, Trans.Run (WholeStep store printF) w (tr ++ (decisionPass w.loop r).sent.map .send)
        { network :=
            { w.network with
              db := db
              commands := fun b => w.network.commands b ++ (decisionPass w.loop r).sent.map putWin }
          loop := (decisionPass w.loop r).state
          pass := .reads [] } ∧
      (∀ e ∈ tr, ∃ d wert, e = .read d wert) ∧
      ∀ d ∈ tables, d.name ∉ publishedTables → (db d).latest = (w.network.db d).latest := by
  obtain ⟨tr, hreads, honly⟩ :=
    exists_reads store printF [] rfl hpass rfl (List.prefix_refl readTables) hdb
  have halarms := hreads.snoc (.alarms _ werte r rfl hr)
  obtain ⟨db, hpublished, hkept⟩ := exists_published store printF
    (w := { w with
      loop := { w.loop with alarms := updateAlarms r w.loop.alarms }
      pass := .writes r (publish r (updateAlarms r w.loop.alarms)) }) rfl fun row hrow => publish_fits hrow
  have hsends := exists_sends store printF
    (w := { w with
      network := { w.network with db := db }
      loop := (decisionPass w.loop r).state
      pass := .sends (decisionPass w.loop r).sent }) rfl
  have hrun := ((halarms.trans hpublished).snoc (.transitions _ r rfl)).trans hsends
  rw [List.append_nil, List.append_nil, List.append_nil] at hrun
  refine ⟨tr, db, hrun, honly, fun d hd hname => hkept d hd fun row hrow heq => hname ?_⟩
  -- the texts of the names of the tables are as different as the names
  have htext : ∀ name ∈ publishedTables, ∀ d ∈ tables, str name = str d.name → name = d.name := by decide
  have hmem := (mem_publish hrow).1
  rwa [htext row.1 hmem d hd heq] at hmem

end

/-- The programs start over tables that hold a zero each. -/
def Whole.start : Whole :=
  ⟨{ Network.start with db := fun _ => (Table.empty.insert 0 (str "0")).2 }, .start, .reads []⟩

theorem Whole.start_fresh : Whole.start.Fresh :=
  ⟨⟨⟨Network.start_starts.node, Network.start_starts.reports⟩, rfl, rfl⟩, fun _ => rfl, by decide⟩

theorem hold_one (text : String → Bytes) {names : List String}
    (h : ∀ name ∈ names, ∃ d ∈ tables, d.name = name) :
    Hold (fun d => (Table.empty.insert 0 (text d.name)).2) names (names.map text) := by
  refine List.forall₂_map_right_iff.2 (List.forall₂_same.2 fun name hname => ?_)
  obtain ⟨d, hd, rfl⟩ := h name hname
  exact ⟨d, hd, rfl, rfl⟩

theorem Whole.start_hold {names : List String} (h : ∀ name ∈ names, ∃ d ∈ tables, d.name = name) :
    Hold Whole.start.network.db names (names.map fun _ => str "0") :=
  hold_one (fun _ => str "0") h

/-- The first pass finds the window closed and priority 0. -/
theorem whole_refines_first : ∃ (tr : List WholeEvent) (w : Whole) (done : List (List Bytes))
    (rs : List Readings), Trans.Run (WholeStep (fun _ text => some text) fun v _ => printD v) .start tr w ∧
      w.loop.flags state11 = true ∧ (w.network.node .IN).Closed ∧ done.map readings = rs.map some ∧
      readsOf tr = done.flatMap readTables.zip ∧ w.loop = passes .start rs ∧
      sentCommands tr = sentIn .start rs := by
  obtain ⟨r, hr, hflag⟩ : ∃ r, readings (readTables.map fun _ => str "0") = some r ∧
      (decisionPass .start r).state.flags state11 = true := by
    refine ⟨_, rfl, ?_⟩
    rw [decisionPass_flags, show LoopState.start.flags = hot .init from rfl, runTransitions_hot, hot_apply]
    decide
  obtain ⟨tr, db, hrun, -⟩ := exists_pass_run (fun _ text => some text) (fun v _ => printD v) (w := .start)
    rfl (Whole.start_hold (by decide)) hr
  have hkeeps : KeepsStatus fun _ text => some text := by
    intro c wert hwert
    obtain rfl := Option.some.inj hwert
    cases c <;> decide
  obtain ⟨hagree, hrest⟩ := whole_refines prints_printD hkeeps Whole.start_fresh hrun
  obtain ⟨done, rs, hdecides⟩ := (hrest rfl).1
  exact ⟨_, _, done, rs, hrun, hflag, (hagree.1 (.inr ⟨.humidity, hflag⟩)).1, hdecides⟩

end SmartWindow
