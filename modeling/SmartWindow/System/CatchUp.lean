/-
When nothing is lost any more. From any state of a run in which both nodes
serve and know every command on its way to them, the deliveries of what is
under way end, in whatever order the network and the threads take, and every
table has then got exactly the measurements that were under way and those that
were still asked for, in their order (`catches_up`).
-/
import SmartWindow.System.Rounds
import SmartWindow.System.Telemetry

namespace SmartWindow

/-! ## Lossless steps -/

section

variable (store : TableDef → Bytes → Option Bytes) (printF : Int → Nat → Bytes)

/-- What a message brings fits into `buf`, and the columns take it. -/
def Taken (m : Bytes) : Prop :=
  ∀ row ∈ (receiveLoop m).getD [], Fits row.1 row.2 ∧
    ∀ d ∈ tables, str d.name = row.1 → (store d row.2).isSome = true

/-- The server takes the messages for a measurement. -/
def Printable (b : Build) (data : MeasuredData) : Prop :=
  ∀ m ∈ answers b printF data .FINISH_MEASUREMENT, Taken store m

/-- A step that only carries on what is under way, and loses nothing of it: the server takes what is
measured, and accepts each row. -/
inductive LosslessStep : Network → List NetworkEvent → Network → Prop
  | receive (s : Network) (b : Build) (d : Datagram) (ds : List Datagram) (n : Node) :
    s.commands b = d :: ds → NodeStep b printF (s.node b) [.recvfrom d] n →
    LosslessStep s [.node b (.recvfrom d)]
      { s with commands := Function.update s.commands b ds, node := Function.update s.node b n }
  | node (s : Network) (b : Build) (es : List NodeEvent) (n : Node) : (s.node b).comm ≠ .recvfrom →
    NodeStep b printF (s.node b) es n → received es = [] →
    (∀ data ∈ measured es, Printable store printF b data) →
    LosslessStep s (es.map (.node b))
      { s with
        node := Function.update s.node b n
        reports := Function.update s.reports b (s.reports b ++ sentOut es) }
  | deliver (s : Network) (b : Build) (m : Bytes) (ms : List Bytes) (now : Nat) (rows : List Row)
      (db : TableDef → Table Bytes) :
    s.reports b = m :: ms → receiveLoop m = some rows → insertRows store now s.db rows = some (true, db) →
    LosslessStep s [] { s with reports := Function.update s.reports b ms, db := db }

/-- The server takes the reports of the window, and what some measurement gives. -/
structure Server : Prop where
  opened : Taken store SW_FINISH_OPEN_WINDOW
  closed : Taken store SW_FINISH_CLOSE_WINDOW
  measures : ∀ b, ∃ data, Printable store printF b data

/-- Each node knows the commands on their way to it and has a case for what it is doing, and the server
takes all that is on its way to it. -/
structure Network.Clear (s : Network) : Prop where
  commands : ∀ b, ∀ d ∈ s.commands b, known b d ≠ none
  node : ∀ b, ¬ (s.node b).Doomed b
  reports : ∀ b, ∀ m ∈ s.reports b, Taken store m
  unsent : ∀ b, ∀ data ∈ (s.node b).unsent, Printable store printF b data

end

/-- Nothing is in flight, and both nodes wait for a datagram. -/
structure Network.Quiet (s : Network) : Prop where
  reports : ∀ b, s.reports b = []
  commands : ∀ b, s.commands b = []
  waits : ∀ b, (s.node b).comm = .recvfrom

/-- The measurement that a node is asked for and has not made. -/
def Node.toMeasure (n : Node) : Nat :=
  (if n.comm = .msg_send ∧ n.communicationCommand = .START_MEASUREMENT then 1 else 0) + n.owes

/-- How many measurements a node is still asked for. -/
def Network.toMeasure (b : Build) (s : Network) : Nat :=
  (s.commands b).countP (known b · = some .START_MEASUREMENT) + (s.node b).toMeasure

variable {printF : Int → Nat → Bytes} {store : TableDef → Bytes → Option Bytes}
  {s s' : Network} {es : List NetworkEvent} {b : Build}

theorem LosslessStep.step (h : LosslessStep store printF s es s') :
    NetworkStep store printF s es s' ∧ ∀ b, lostOf b es = [] := by
  cases h with
  | receive b d ds n hc hn => exact ⟨.receive s b d ds n hc hn, fun _ => rfl⟩
  | node b es n _ hn hr _ => exact ⟨.node s b es n hn hr, fun b' => lostOf_node b' b es⟩
  | deliver b m ms now rows db hr hrows hinsert =>
    exact ⟨.deliver s b m ms now rows true db hr hrows hinsert, fun _ => rfl⟩

/-! ## What is still asked for -/

/-- A step of a node measures what it is asked for, or leaves it asked for. -/
theorem toMeasure_step {n n' : Node} {es : List NodeEvent} {p : Dialog} (hp : n.At b p)
    (hs : NodeStep b printF n es n') (hr : received es = []) :
    (measured es).length + n'.toMeasure = n.toMeasure := by
  cases hs with
  | noDatagram => exact Nat.zero_add _
  | recvfrom => cases hr
  | request hc hm => simp [measured, Node.toMeasure, Node.owes, hc, hm]
  | turn m hm =>
    obtain ⟨c, rfl⟩ := serving_of_switch hp hm
    have hcomm : n.comm = .msg_receive := hp.1
    by_cases hc : n.mainCommand = .START_MEASUREMENT
    · have hturn : turn b n.window n.data m n.mainCommand =
          ⟨[.measured m], n.window, m, .FINISH_MEASUREMENT, some .FINISH_MEASUREMENT⟩ := by
        rw [hc]
        cases b <;> rfl
      rw [hturn]
      simp [measured, Node.toMeasure, Node.owes, hcomm, hm, hc]
    · have hcommand := (turn_unmeasured hc b n.window n.data m).2.2.2
      rw [measured_turn hc]
      simp [Node.toMeasure, Node.owes, hcomm, hc, hcommand]
  | reply c hm _ =>
    obtain ⟨c', rfl, rfl⟩ := replying_of_msg_send hp hm
    have hhead : loopHead n.window = .msg_receive := by simp [loopHead, hp.2.2.2.2.2]
    simp [measured, Node.toMeasure, Node.owes, hp.1, hm, hhead]
  | answer c q hc hq =>
    obtain ⟨c', rfl, -, -⟩ := replied_of_queue hp hq
    rw [measured_pp_send]
    simp [Node.toMeasure, Node.owes, hc, show n.main = .msg_receive from hp.2.1]

/-! ## What stays clear -/

/-- A node in a dialog that `main` has a case for. -/
def Node.Serving (b : Build) (n : Node) : Prop := ∃ p, n.At b p ∧ n.window.Ok ∧ p.Live b

theorem serving_of_not_doomed {n : Node} {p : Dialog} (hp : n.At b p) (hw : n.window.Ok)
    (h : ¬ n.Doomed b) : n.Serving b := by
  refine ⟨p, hp, hw, ?_⟩
  have hanswered (c : CommunicationCommand)
      (hc : n.At b (.requested c) ∨ n.At b (.serving c) ∨ n.At b (.stuck c)) : answered b c = true := by
    by_contra hno
    exact h ⟨c, by simpa using hno, hc⟩
  cases p with
  | idle | replying | replied => trivial
  | requested c => exact hanswered c (.inl hp)
  | serving c => exact hanswered c (.inr (.inl hp))
  | stuck c => exact absurd (hanswered c (.inr (.inr hp))) (by simp [hp.2.2.2.1])

/-- What keeps everything flowing. -/
structure Network.Flows (store : TableDef → Bytes → Option Bytes) (printF : Int → Nat → Bytes)
    (s : Network) : Prop where
  commands : ∀ b, ∀ d ∈ s.commands b, known b d ≠ none
  node : ∀ b, (s.node b).Serving b
  reports : ∀ b, ∀ m ∈ s.reports b, Sent b printF m ∧ Taken store m
  unsent : ∀ b, ∀ data ∈ (s.node b).unsent, Printable store printF b data

theorem Network.Clear.flows (h : s.Clear store printF) (hok : s.Ok printF) : s.Flows store printF where
  commands := h.commands
  node b := by
    obtain ⟨p, hp, hw⟩ := hok.node b
    exact serving_of_not_doomed hp hw (h.node b)
  reports b m hm := ⟨hok.sent b m hm, h.reports b m hm⟩
  unsent := h.unsent

theorem node_taken (hserver : Server store printF) {n n' : Node} {es : List NodeEvent} {p : Dialog}
    (hp : n.At b p) (hs : NodeStep b printF n es n')
    (hunsent : ∀ data ∈ n.unsent, Printable store printF b data)
    (hmeasured : ∀ data ∈ measured es, Printable store printF b data) :
    (∀ m ∈ sentOut es, Taken store m) ∧ ∀ data ∈ n'.unsent, Printable store printF b data := by
  cases hs with
  | noDatagram => exact ⟨by simp [sentOut], hunsent⟩
  | recvfrom => exact ⟨by simp [sentOut], hunsent⟩
  | request hc hm =>
    exact ⟨by simp [sentOut], fun data hd => hunsent data (by simpa [Node.unsent, hm] using hd)⟩
  | turn m hm =>
    obtain ⟨c, rfl⟩ := serving_of_switch hp hm
    by_cases hc : n.mainCommand = .START_MEASUREMENT
    · have hturn : turn b n.window n.data m n.mainCommand =
          ⟨[.measured m], n.window, m, .FINISH_MEASUREMENT, some .FINISH_MEASUREMENT⟩ := by
        rw [hc]
        cases b <;> rfl
      rw [hturn] at hmeasured ⊢
      refine ⟨by simp [sentOut], fun data hd => hmeasured data ?_⟩
      simpa [Node.unsent, measured] using hd
    · obtain ⟨hevents, -⟩ := turn_unmeasured hc b n.window n.data m
      refine ⟨?_, ?_⟩
      · rw [sentOut_work fun e he => (hevents e he).1]
        simp
      · refine fun data hd => absurd hd (List.eq_nil_iff_forall_not_mem.1 ?_ data)
        exact turn_unsent hp hc m _ rfl rfl
  | reply c hm _ =>
    obtain ⟨c', rfl, rfl⟩ := replying_of_msg_send hp hm
    have hhead : loopHead n.window = .msg_receive := by simp [loopHead, hp.2.2.2.2.2]
    refine ⟨by simp [sentOut], fun data hd => hunsent data ?_⟩
    simpa [Node.unsent, hm, hp.2.2.1, hhead, eq_comm] using hd
  | answer c q hc hq =>
    obtain ⟨c', rfl, rfl, rfl⟩ := replied_of_queue hp hq
    have hmain : n.main = .msg_receive := hp.2.1
    rw [sentOut_pp_send]
    refine ⟨fun m hm => ?_, by simp [Node.unsent, hmain]⟩
    cases c' with
    | START_MEASUREMENT =>
      exact hunsent n.data (by simp [Node.unsent, hq, CommunicationCommand.finish]) m hm
    | START_OPEN_WINDOW =>
      obtain rfl := List.mem_singleton.1 hm
      exact hserver.opened
    | START_CLOSE_WINDOW =>
      obtain rfl := List.mem_singleton.1 hm
      exact hserver.closed
    | FINISH_MEASUREMENT | FINISH_OPEN_WINDOW | FINISH_CLOSE_WINDOW => cases hp.2.2.2.1

theorem Network.Flows.receive (h : s.Flows store printF) {d : Datagram} {ds : List Datagram} {n : Node}
    (hc : s.commands b = d :: ds) (hn : NodeStep b printF (s.node b) [.recvfrom d] n) :
    n.Serving b ∧ (s.node b).rank = 0 ∧ n.rank = 1000 ∧ (s.node b).toMeasure = 0 ∧
      n.toMeasure = if known b d = some .START_MEASUREMENT then 1 else 0 := by
  obtain ⟨p, hp, hw, -⟩ := h.node b
  obtain ⟨p', hd, hp', hw'⟩ := dialog_step hp hw hn
  obtain ⟨v, rfl, rfl, -⟩ := hd.of_received rfl
  have hknown := h.commands b d (by simp [hc])
  obtain ⟨c, hcommand⟩ := Option.ne_none_iff_exists'.1 hknown
  refine ⟨⟨_, hp', hw', answered_of_known v hknown⟩, by simp [Node.rank, hp.1], by simp [Node.rank, hp'.1],
    by simp [Node.toMeasure, Node.owes, hp.1, hp.2.1], ?_⟩
  simp [Node.toMeasure, Node.owes, hp'.1, hp'.2.1, hp'.2.2.2.1, commandFor_known hcommand, hcommand]

theorem Network.Flows.step (hserver : Server store printF) (h : s.Flows store printF)
    (hs : LosslessStep store printF s es s') : s'.Flows store printF := by
  obtain ⟨hcommands, hnode, hreports, hunsent⟩ := h
  -- of two families of values only the one of the node that the step is about changes
  cases hs with
  | receive b d ds n hc hn =>
    obtain ⟨hserving, -⟩ := Network.Flows.receive ⟨hcommands, hnode, hreports, hunsent⟩ hc hn
    obtain ⟨p, hp, -, -⟩ := hnode b
    obtain ⟨-, hunsent'⟩ := node_taken hserver hp hn (hunsent b) (by simp [measured])
    refine ⟨?_, ?_, hreports, ?_⟩
    · refine (Function.forall_update_iff s.commands fun b ds => ∀ d ∈ ds, known b d ≠ none).2
        ⟨fun d' hd' => hcommands b d' ?_, fun b' _ => hcommands b'⟩
      rw [hc]
      exact List.mem_cons_of_mem d hd'
    · exact (Function.forall_update_iff s.node fun b n => n.Serving b).2 ⟨hserving, fun b' _ => hnode b'⟩
    · exact (Function.forall_update_iff s.node fun b n => ∀ data ∈ n.unsent, Printable store printF b data).2
        ⟨hunsent', fun b' _ => hunsent b'⟩
  | node b nes n hcomm hn hr hmeasured =>
    obtain ⟨p, hp, hw, hl⟩ := hnode b
    obtain ⟨p', hd, hp', hw'⟩ := dialog_step hp hw hn
    obtain ⟨htaken, hunsent'⟩ := node_taken hserver hp hn (hunsent b) hmeasured
    refine ⟨hcommands, ?_, ?_, ?_⟩
    · exact (Function.forall_update_iff s.node fun b n => n.Serving b).2
        ⟨⟨p', hp', hw', hd.live hl hr⟩, fun b' _ => hnode b'⟩
    · refine (Function.forall_update_iff s.reports fun b ms => ∀ m ∈ ms, Sent b printF m ∧ Taken store m).2
        ⟨fun m hm => ?_, fun b' _ => hreports b'⟩
      rcases List.mem_append.1 hm with hm | hm
      · exact hreports b m hm
      · exact ⟨sentOut_sent hp hw hn m hm, htaken m hm⟩
    · exact (Function.forall_update_iff s.node fun b n => ∀ data ∈ n.unsent, Printable store printF b data).2
        ⟨hunsent', fun b' _ => hunsent b'⟩
  | deliver b m ms now rows db hm hrows hinsert =>
    refine ⟨hcommands, hnode, ?_, hunsent⟩
    refine (Function.forall_update_iff s.reports fun b ms => ∀ m ∈ ms, Sent b printF m ∧ Taken store m).2
      ⟨fun m' hm' => hreports b m' ?_, fun b' _ => hreports b'⟩
    rw [hm]
    exact List.mem_cons_of_mem m hm'

/-- The measurements of a step and those it leaves asked for are those asked for before it. -/
theorem LosslessStep.toMeasure (h : s.Flows store printF) (hs : LosslessStep store printF s es s')
    (b : Build) : (measured (eventsOf b es)).length + s'.toMeasure b = s.toMeasure b := by
  cases hs with
  | receive b' d ds n hc hn =>
    obtain ⟨-, -, -, hbefore, hafter⟩ := h.receive hc hn
    by_cases hb : b' = b
    · subst hb
      simp [eventsOf, measured, Network.toMeasure, hc, hbefore, hafter, List.countP_cons]
    · simp [eventsOf, hb, measured, Network.toMeasure, Function.update_of_ne (Ne.symm hb)]
  | node b' es n _ hn hr _ =>
    by_cases hb : b' = b
    · subst hb
      obtain ⟨p, hp, -⟩ := h.node b'
      have hmeasures := toMeasure_step hp hn hr
      rw [eventsOf_node_self]
      simp only [Network.toMeasure, Function.update_self]
      omega
    · rw [eventsOf_node, if_neg hb]
      simp [measured, Network.toMeasure, Function.update_of_ne (Ne.symm hb)]
  | deliver => exact Nat.zero_add _

/-! ## Deliveries end -/

/-- The rank of one node with its channels, as in `System.rank`. -/
def Network.rankOf (s : Network) (b : Build) : Nat :=
  (s.reports b).length + 6 * (s.node b).rank + 7000 * (s.commands b).length

def Network.rank (s : Network) : Nat := s.rankOf .IN + s.rankOf .OUT

theorem rank_lt {b : Build} (hb : s'.rankOf b < s.rankOf b)
    (hother : ∀ b', b' ≠ b → s'.rankOf b' = s.rankOf b') : s'.rank < s.rank := by
  unfold Network.rank
  cases b with
  | IN =>
    have := hother .OUT (by simp)
    omega
  | OUT =>
    have := hother .IN (by simp)
    omega

theorem lossless_rank (h : s.Flows store printF) (hs : LosslessStep store printF s es s') :
    s'.rank < s.rank := by
  cases hs with
  | receive b d ds n hc hn =>
    obtain ⟨-, hbefore, hafter, -⟩ := h.receive hc hn
    refine rank_lt (b := b) ?_ fun b' hb => ?_
    · simp only [Network.rankOf, Function.update_self, hc, hbefore, hafter, List.length_cons]
      omega
    · simp [Network.rankOf, Function.update_of_ne hb]
  | node b es n hcomm hn _ _ =>
    obtain ⟨p, hp, hw, hl⟩ := h.node b
    obtain ⟨p', hd, -, -⟩ := dialog_step hp hw hn
    have hrank := rank_step hp hw hl hcomm hn
    have hsent := length_sentOut hd
    refine rank_lt (b := b) ?_ fun b' hb => ?_
    · simp only [Network.rankOf, Function.update_self, List.length_append]
      omega
    · simp [Network.rankOf, Function.update_of_ne hb]
  | deliver b m ms now rows db hm _ _ =>
    refine rank_lt (b := b) ?_ fun b' hb => ?_
    · simp [Network.rankOf, hm]
    · simp [Network.rankOf, Function.update_of_ne hb]

theorem node_progress (hserver : Server store printF) {n : Node} {p : Dialog} (hp : n.At b p)
    (hw : n.window.Ok) (hl : p.Live b) (hc : n.comm ≠ .recvfrom) :
    ∃ es n', NodeStep b printF n es n' ∧ received es = [] ∧
      ∀ data ∈ measured es, Printable store printF b data := by
  cases p with
  | idle v => exact absurd hp.1 hc
  | requested c => exact ⟨_, _, .request n hp.1 hp.2.1, rfl, by simp [measured]⟩
  | serving c =>
    obtain ⟨-, hm, -, rfl, hd⟩ := hp
    obtain ⟨m, hmeasures⟩ := hserver.measures b
    refine ⟨_, _, .turn n m hm, received_work (turn_serves hw (fun h => (hd h).2) n.data m hl).1, ?_⟩
    by_cases hc : n.mainCommand = .START_MEASUREMENT
    · rw [hc]
      cases b <;> simpa [turn, measured] using hmeasures
    · rw [measured_turn hc]
      simp
  | replying c =>
    exact ⟨_, _, .reply n c.finish hp.2.1 (by simp [hp.2.2.1, PP_MSG_QUEUE_SIZE]), rfl, by simp [measured]⟩
  | replied c =>
    refine ⟨_, _, .answer n c.finish [] hp.1 hp.2.2.1, received_pp_send _, ?_⟩
    rw [measured_pp_send]
    simp
  | stuck c => exact absurd hl id

theorem exists_table {row : Row} (h : row.1 = str "Win_Open" ∨ ∃ q : Quantity, row.1 = q.table b) :
    ∃ d ∈ tables, str d.name = row.1 := by
  rcases h with h | ⟨q, h⟩
  · rw [h]
    exact ⟨⟨"Win_Open", .bool, true, none⟩, by decide, rfl⟩
  · rw [h]
    cases q <;> cases b <;> decide

/-- As long as something is under way, there is a step. -/
theorem exists_lossless (hprint : Prints printF) (hserver : Server store printF)
    (h : s.Flows store printF) (hq : ¬ s.Quiet) : ∃ es s', LosslessStep store printF s es s' := by
  obtain ⟨b, hb⟩ : ∃ b, ¬ (s.reports b = [] ∧ s.commands b = [] ∧ (s.node b).comm = .recvfrom) := by
    rw [← not_forall]
    exact fun hall => hq ⟨fun b => (hall b).1, fun b => (hall b).2.1, fun b => (hall b).2.2⟩
  obtain ⟨p, hp, hw, hl⟩ := h.node b
  by_cases hwaits : (s.node b).comm = .recvfrom
  · rcases hr : s.reports b with _ | ⟨m, ms⟩
    · rcases hc : s.commands b with _ | ⟨d, ds⟩
      · exact absurd ⟨hr, hc, hwaits⟩ hb
      · obtain ⟨v, rfl⟩ := idle_of_recvfrom hp hwaits
        obtain ⟨n, hn, -, -⟩ := hp.recvfrom printF d
        exact ⟨_, _, .receive s b d ds n hc hn⟩
    · obtain ⟨hsent, htaken⟩ := h.reports b m (by simp [hr])
      obtain ⟨row, hrow, hkind⟩ := hsent.row hprint
      obtain ⟨d, hd, hname⟩ := exists_table hkind
      obtain ⟨hfits, hstore⟩ := htaken row (by simp [hrow])
      obtain ⟨now, db, hinsert⟩ := exists_insertRows hd hname hfits (hstore d hd hname) s.db
      exact ⟨_, _, .deliver s b m ms now [row] db hr hrow hinsert⟩
  · obtain ⟨es, n, hn, hr, hmeasured⟩ := node_progress hserver hp hw hl hwaits
    exact ⟨_, _, .node s b es n hwaits hn hr hmeasured⟩

/-! ## What they end with -/

theorem Appended.reads {d : TableDef} {before after : Table Bytes} {texts : List Bytes} {text : Bytes}
    (h : Appended store d before after (texts ++ [text])) :
    ∃ wert, store d text = some wert ∧ get_latest_value_int after = some (atoi wert) := by
  obtain ⟨wert, hwert, hlatest⟩ := h.latest
  refine ⟨wert, hwert, ?_⟩
  rw [get_latest_value_int, hlatest]
  rfl

/-- Each table has got what was under way to it, and what its node was still asked to measure; where that
is anything, the controller reads the newest. -/
def CaughtUp (store : TableDef → Bytes → Option Bytes) (printF : Int → Nat → Bytes) (s t : Network) : Prop :=
  ∀ b, ∃ data : List MeasuredData, data.length = s.toMeasure b ∧
    ∀ (q : Quantity), ∀ d ∈ tables, str d.name = q.table b →
      Appended store d (s.db d) (t.db d) (s.underway printF q b ++ data.map (q.text printF)) ∧
      ∀ newest ∈ data.getLast?, ∃ wert, store d (q.text printF newest) = some wert ∧
        get_latest_value_int (t.db d) = some (atoi wert)

theorem Network.Quiet.toMeasure {t : Network} (hq : t.Quiet) (h : t.Flows store printF) (b : Build) :
    t.toMeasure b = 0 ∧ (t.node b).unsent = [] := by
  obtain ⟨p, hp, -, -⟩ := h.node b
  obtain ⟨v, rfl⟩ := idle_of_recvfrom hp (hq.waits b)
  simp [Network.toMeasure, hq.commands b, Node.toMeasure, Node.owes, Node.unsent, hp.1, hp.2.1, hp.2.2.1]

/-- **The tables catch up.** Whatever has been lost and in whatever order things came until now: where both
nodes serve and know the commands on their way to them, then, if nothing is lost any more, every order of
steps ends with nothing under way and in each table the measurements that were under way to it and, in the
order in which they are made, those that the node was still asked for. -/
theorem catches_up (hprint : Prints printF) (hserver : Server store printF) {s₀ : Network} (h₀ : s₀.Starts)
    {tr : List NetworkEvent} (hrun : Trans.Run (NetworkStep store printF) s₀ tr s)
    (hclear : s.Clear store printF) :
    Trans.Inevitable (fun t t' => ∃ es, LosslessStep store printF t es t')
      (fun t => t.Quiet ∧ CaughtUp store printF s t) s := by
  have hok : s.Ok printF :=
    hrun.invariant (fun _ t => t.Ok printF) (.start h₀) fun _ _ _ _ hok hs => hok.step hs
  -- the steps so far are a run that loses nothing, and leaves asked for what it has not measured
  refine .of_rank (fun t => t.Flows store printF ∧ ∃ tr, Trans.Run (NetworkStep store printF) s tr t ∧
      ∀ b, lostOf b tr = [] ∧ (measured (eventsOf b tr)).length + t.toMeasure b = s.toMeasure b)
    Network.rank (fun t ht hne => ?_) (fun t t' ht _ hs => ?_)
    ⟨hclear.flows hok, [], .refl, fun b => ⟨rfl, Nat.zero_add _⟩⟩
  · obtain ⟨hflows, tr, hrun, htr⟩ := ht
    by_cases hq : t.Quiet
    · refine absurd ⟨hq, fun b => ?_⟩ hne
      obtain ⟨hlost, hmeasured⟩ := htr b
      obtain ⟨hnone, hunsent⟩ := hq.toMeasure hflows b
      refine ⟨measured (eventsOf b tr), by omega, fun q d hd htable => ?_⟩
      obtain ⟨-, stored, hstored, hbal⟩ := run_books hprint hd htable hok hrun
      have hall := hbal.complete
        (by simp [Ledger.Books.carry, Network.books, Network.underway, hq.reports b, hunsent])
        (by simp [Ledger.Books.carry, Network.books, hlost])
      have hgot : Appended store d (s.db d) (t.db d)
          (s.underway printF q b ++ (measured (eventsOf b tr)).map (q.text printF)) := by
        rw [show stored = _ from hall] at hstored
        exact hstored
      refine ⟨hgot, fun newest hnewest => ?_⟩
      obtain ⟨before, hdata⟩ := List.getLast?_eq_some_iff.1 hnewest
      rw [hdata, List.map_append, ← List.append_assoc] at hgot
      exact hgot.reads
    · obtain ⟨es, t', hs⟩ := exists_lossless hprint hserver hflows hq
      exact ⟨t', es, hs⟩
  · obtain ⟨hflows, tr, hrun, htr⟩ := ht
    obtain ⟨es, hs⟩ := hs
    obtain ⟨hstep, hlost⟩ := hs.step
    refine ⟨⟨hflows.step hserver hs, tr ++ es, hrun.snoc hstep, fun b => ?_⟩, lossless_rank hflows hs⟩
    have hmeasures := hs.toMeasure hflows b
    have hbefore := (htr b).2
    rw [lostOf_append, (htr b).1, hlost b, eventsOf_append, measured_append, List.length_append]
    exact ⟨rfl, by omega⟩

theorem taken_of_fits {m : Bytes} (h : ∀ row ∈ (receiveLoop m).getD [], Fits row.1 row.2) :
    Taken (fun _ text => some text) m := fun row hrow => ⟨h row hrow, fun _ _ _ => rfl⟩

/-- Both nodes, just asked for measurements. -/
theorem catches_up_first :
    Trans.Inevitable (fun t t' => ∃ es, LosslessStep (fun _ text => some text) (fun v _ => printD v) t es t')
      (fun t => t.Quiet ∧ CaughtUp (fun _ text => some text) (fun v _ => printD v)
        { Network.start with commands := fun _ => [getAll] } t)
      { Network.start with commands := fun _ => [getAll] } := by
  have hprintable (b : Build) :
      Printable (fun _ text => some text) (fun v _ => printD v) b ⟨0, 0, 0, 0, 0⟩ := by
    have hfits : ∀ m ∈ answers b (fun v _ => printD v) ⟨0, 0, 0, 0, 0⟩ .FINISH_MEASUREMENT,
        ∀ row ∈ (receiveLoop m).getD [], Fits row.1 row.2 := by cases b <;> decide
    exact fun m hm => taken_of_fits (hfits m hm)
  refine catches_up prints_printD
    ⟨taken_of_fits (by decide), taken_of_fits (by decide), fun b => ⟨_, hprintable b⟩⟩
    Network.start_starts (.snoc .refl (.multicast _ getAll)) ⟨?_, ?_, ?_, ?_⟩
  · intro b d hd
    obtain rfl := List.mem_singleton.1 hd
    cases b <;> decide
  · rintro b ⟨c, -, h | h | h⟩ <;> cases h.1
  · exact fun b m hm => by cases hm
  · exact fun b data hd => by cases hd

end SmartWindow
