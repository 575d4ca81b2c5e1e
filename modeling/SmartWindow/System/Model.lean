/-
The controller and the inside node as one system: the machine of
`decisionLoop`, the table Win_Open that `receiveLoop` fills, the node built
with `IN`, and between them two channels that keep the order of messages and
may lose any of them. A pass reads Win_Open at its beginning and uses the
value at its end, so deliveries may fall in between.
-/
import SmartWindow.Controller.LoopFacts
import SmartWindow.Controller.Receive
import SmartWindow.Node.Dialog

namespace SmartWindow

structure System where
  flags : Flags
  /-- `win_open_bo`, from the moment the pass under way has read it -/
  snapshot : Option Bool
  /-- the latest value in Win_Open -/
  win_Open : Bool
  /-- what the node has sent, oldest first -/
  reports : List Bytes
  node : Node
  /-- what the controller has sent and the node has not received, oldest first -/
  commands : List Datagram

/-- One step of a party or of the network. -/
inductive SystemStep (printF : Int → Nat → Bytes) : System → System → Prop
  /-- A pass reads Win_Open. -/
  | read (s : System) : s.snapshot = none →
    SystemStep printF s { s with snapshot := some s.win_Open }
  /-- The pass runs its transitions, whatever else it has read, and sends its commands. -/
  | finish (s : System) (i : Inputs) : s.snapshot = some i.win_open_bo →
    SystemStep printF s
      { s with
        snapshot := none
        flags := runTransitions i s.flags
        commands := s.commands ++ (assignments (runTransitions i s.flags)).map putWin }
  /-- The controller's main thread asks for measurements. -/
  | getAll (s : System) : SystemStep printF s { s with commands := s.commands ++ [getAll] }
  | loseCommand (s : System) (l₁ : List Datagram) (d : Datagram) (l₂ : List Datagram) :
    s.commands = l₁ ++ d :: l₂ → SystemStep printF s { s with commands := l₁ ++ l₂ }
  /-- A report is lost on its way, or its insert is rejected. -/
  | loseReport (s : System) (l₁ : List Bytes) (m : Bytes) (l₂ : List Bytes) :
    s.reports = l₁ ++ m :: l₂ → SystemStep printF s { s with reports := l₁ ++ l₂ }
  /-- `receiveLoop` receives a report. -/
  | deliver (s : System) (m : Bytes) (ms : List Bytes) : s.reports = m :: ms →
    SystemStep printF s { s with reports := ms, win_Open := (winOpen m).getD s.win_Open }
  /-- The node receives a command. -/
  | receive (s : System) (d : Datagram) (ds : List Datagram) (n : Node) : s.commands = d :: ds →
    NodeStep .IN printF s.node [.recvfrom d] n →
    SystemStep printF s { s with commands := ds, node := n }
  /-- The node goes on. -/
  | node (s : System) (es : List NodeEvent) (n : Node) : NodeStep .IN printF s.node es n →
    received es = [] → SystemStep printF s { s with node := n, reports := s.reports ++ sentOut es }

/-- A node in a state that some datagrams have brought it to. -/
def Node.Reachable (printF : Int → Nat → Bytes) (n : Node) : Prop :=
  ∃ mainCommand data tr, Trans.Run (NodeStep .IN printF) (.start mainCommand data) tr n

/-- The request a window command becomes in the node. -/
def WinCommand.request : WinCommand → CommunicationCommand
  | .Open => .START_OPEN_WINDOW
  | .Close => .START_CLOSE_WINDOW

/-- The node has received a command and has not finished it. -/
def Node.Handles (n : Node) (c : CommunicationCommand) : Prop :=
  (n.comm = .msg_send ∧ n.communicationCommand = c) ∨ (n.main = .switch ∧ n.mainCommand = c)

/-- The node has finished a command and not yet reported it. -/
def Node.Replies (n : Node) (c : CommunicationCommand) : Prop :=
  n.main = .msg_send c.finish ∨ c.finish ∈ n.pp_msg_queue

/-- A window command, or the report of its end, is under way somewhere. -/
def System.InFlight (s : System) (c : WinCommand) : Prop :=
  putWin c ∈ s.commands ∨ s.node.Handles c.request ∨ s.node.Replies c.request ∨ c.text ∈ s.reports

/-- The end of a pass of `decisionLoop` is a step of the system, whatever its readings and latches
are. -/
theorem finish_decisionPass (printF : Int → Nat → Bytes) {s : System} {loop : LoopState}
    {r : Readings} (hf : loop.flags = s.flags) (hr : s.snapshot = some r.win_open_bo) :
    SystemStep printF s
      { s with
        snapshot := none
        flags := (decisionPass loop r).state.flags
        commands := s.commands ++ (decisionPass loop r).sent.map putWin } := by
  rw [decisionPass_flags, decisionPass_sent, hf]
  exact .finish s (passInputs loop r) hr

theorem exists_pass (printF : Int → Nat → Bytes) {s : System} {q : Flag} {i : Inputs}
    (hq : s.flags = OneHot.hot q) (hn : s.snapshot = none) (hi : i.win_open_bo = s.win_Open) :
    ∃ s₁ s', SystemStep printF s s₁ ∧ s₁.flags = s.flags ∧ SystemStep printF s₁ s' ∧
      s'.flags = OneHot.hot (next i q) ∧ s'.node = s.node := by
  refine ⟨_, _, .read s hn, rfl, .finish _ i (congrArg some hi.symm), ?_, rfl⟩
  simp only [hq, runTransitions_hot]

/-! ## What the messages are for -/

/-- The window status a datagram asks the node for. -/
def asked (d : Datagram) : Option Bool := (known .IN d).bind CommunicationCommand.status

theorem asked_putWin (c : WinCommand) : asked (putWin c) = some c.status := by
  cases c <;> decide

theorem asked_getAll : asked getAll = none := by
  decide

theorem sendString_name (b : Build) {sensor : Bytes}
    (hs : sensor ∈ [SENS_TEMP, SENS_AIR_PRESSURE, SENS_VOLUME, SENS_HUMIDITY, SENS_AIR_QUALITY])
    (value : Bytes) : ∃ name pos, sendString b sensor value = name ++ SEP_VALUE :: value ∧
      name ≠ [] ∧ (name.all fun x => x != 0 && x != SEP_VALUE) = true ∧
      splitString name SEP_SENSOR = [CMD_PUT, sensor, pos] ∧
      tableName sensor pos ≠ str "Win_Open" := by
  simp only [List.mem_cons, List.not_mem_nil, or_false] at hs
  have hvalue : ∀ name : Bytes, name ++ str "/" ++ value = name ++ SEP_VALUE :: value := by
    intro name
    rw [List.append_assoc]
    rfl
  cases b with
  | IN =>
    refine ⟨str "PUT_" ++ sensor ++ str "_IN", str "IN", hvalue _, ?_⟩
    rcases hs with rfl | rfl | rfl | rfl | rfl <;> decide
  | OUT =>
    refine ⟨str "PUT_" ++ sensor ++ str "_OUT", str "OUT", hvalue _, ?_⟩
    rcases hs with rfl | rfl | rfl | rfl | rfl <;> decide

theorem winOpen_sendString (b : Build) {sensor : Bytes}
    (hs : sensor ∈ [SENS_TEMP, SENS_AIR_PRESSURE, SENS_VOLUME, SENS_HUMIDITY, SENS_AIR_QUALITY])
    (value : Bytes) : winOpen (sendString b sensor value) = none := by
  obtain ⟨name, pos, heq, hne, hname, hsplit, htable⟩ := sendString_name b hs value
  rw [heq]
  unfold winOpen receiveLoop
  rw [splitString_append hne (by decide) fun x hx => by simpa using List.all_eq_true.1 hname x hx]
  match splitString value SEP_VALUE with
  | [] | _ :: _ :: _ => rfl
  | [value'] => simp [hsplit, htable]

/-- What the node sends on the reply to a request sets the status the request asked for. -/
theorem answers_winOpen {b : Build} {c : CommunicationCommand} (hc : answered b c = true)
    (printF : Int → Nat → Bytes) (data : MeasuredData) :
    (answers b printF data c.finish).filterMap winOpen = c.status.toList := by
  cases c with
  | START_MEASUREMENT =>
    simp [answers, CommunicationCommand.finish, winOpen_sendString, CommunicationCommand.status]
  | START_OPEN_WINDOW => exact (by decide : [SW_FINISH_OPEN_WINDOW].filterMap winOpen = [true])
  | START_CLOSE_WINDOW => exact (by decide : [SW_FINISH_CLOSE_WINDOW].filterMap winOpen = [false])
  | FINISH_MEASUREMENT | FINISH_OPEN_WINDOW | FINISH_CLOSE_WINDOW => cases hc

end SmartWindow
