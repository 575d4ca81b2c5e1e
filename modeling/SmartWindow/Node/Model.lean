/-
The sensor node (main.c): `communication_thread` receives datagrams and hands
commands to `main` through messages, `main` carries them out and replies, and
`communication_thread` answers over the network. `NodeStep` is one step of
either thread, in any order the scheduler picks. `main` has no message queue,
so a `msg_send` to it waits until `main` is in `msg_receive`; the queue of
`communication_thread` takes PP_MSG_QUEUE_SIZE messages.

Two things are left open: what the sensors measure, and the text of
`sprintf("%f", (float)(v) / d)`, a parameter `printF v d` wherever it is used.
The buffers the answers are built in are taken as long enough.
-/
import SmartWindow.Messages

namespace SmartWindow

/-- Whether `IN` is defined. -/
inductive Build
  | IN
  | OUT
  deriving DecidableEq, Repr

/-- `enum eCommunicationCommand`; the last four exist only where `IN` is defined. -/
inductive CommunicationCommand
  | START_MEASUREMENT
  | FINISH_MEASUREMENT
  | START_OPEN_WINDOW
  | START_CLOSE_WINDOW
  | FINISH_OPEN_WINDOW
  | FINISH_CLOSE_WINDOW
  deriving DecidableEq, Repr

def PP_BUF_SIZE : Nat := 64
def PP_MSG_QUEUE_SIZE : Nat := 8

/-- A datagram `recvfrom` returns with `res > 0`, short enough to leave a NUL in the cleared buffer. -/
structure Datagram where
  bytes : Bytes
  ne_nil : bytes ≠ []
  short : bytes.length < PP_BUF_SIZE

/-- The controller's request for measurements. -/
def getAll : Datagram := ⟨GET_ALL, by decide, by decide⟩

/-- The controller's window commands. -/
def putWin (c : WinCommand) : Datagram :=
  ⟨c.text, by cases c <;> decide, by cases c <;> decide⟩

/-- The command that `communication_thread` finds in `pp_buffer`, if any. -/
def known (b : Build) (d : Datagram) : Option CommunicationCommand :=
  if cstr d.bytes = GET_ALL then some .START_MEASUREMENT
  else if b = .IN ∧ cstr d.bytes = SW_OPEN_WINDOW then some .START_OPEN_WINDOW
  else if b = .IN ∧ cstr d.bytes = SW_CLOSE_WINDOW then some .START_CLOSE_WINDOW
  else none

/-- The value sent to `main`: a datagram that is no command leaves the variable as it was. -/
def commandFor (b : Build) (d : Datagram) (communicationCommand : CommunicationCommand) :
    CommunicationCommand :=
  (known b d).getD communicationCommand

/-! ## The answers -/

structure MeasuredData where
  temperature : Int16
  pressure : UInt32
  volume : Int
  humidity : Int
  airQuality : Int

/-- The text of `sprintf("%d", v)`. -/
def printD (v : Int) : Bytes := str (toString v)

def sendString (b : Build) (sensor value : Bytes) : Bytes :=
  str "PUT_" ++ sensor ++ (match b with | .IN => str "_IN" | .OUT => str "_OUT") ++
    str "/" ++ value

/-- What `communication_thread` sends on a reply. -/
def answers (b : Build) (printF : Int → Nat → Bytes) (data : MeasuredData) :
    CommunicationCommand → List Bytes
  | .FINISH_MEASUREMENT =>
    [sendString b SENS_TEMP (printF data.temperature.toInt 10),
      sendString b SENS_AIR_PRESSURE (printD data.pressure.toInt32.toInt),
      sendString b SENS_VOLUME (printF data.volume 100),
      sendString b SENS_HUMIDITY (printF data.humidity 100),
      sendString b SENS_AIR_QUALITY (printF data.airQuality 100)]
  | .FINISH_OPEN_WINDOW => [SW_FINISH_OPEN_WINDOW]
  | .FINISH_CLOSE_WINDOW => [SW_FINISH_CLOSE_WINDOW]
  | _ => []

/-! ## The servo -/

def STEP_LOWER_BOUND : Nat := 1800
def STEP_UPPER_BOUND : Nat := 2500
def STEP : Int := 10

/-- An `int` compared with an unsigned constant. -/
def toUnsigned (n : Int) : Nat := (BitVec.ofInt 32 n).toNat

/-- What a call of `openWindow` or `closeWindow` does: the position passed to
`servo_set`, the new `*pos`, and what it returns. -/
structure Drive where
  set : Int
  pos : Int
  ended : Bool

def closeWindow (pos step : Int) : Drive :=
  ⟨pos, pos + step, decide (STEP_UPPER_BOUND ≤ toUnsigned (pos + step))⟩

def openWindow (pos step : Int) : Drive :=
  ⟨pos, pos - step, decide (toUnsigned (pos - step) ≤ STEP_LOWER_BOUND)⟩

/-! ## The switch of main -/

/-- `main`'s variables for the window. `b_openWindow` is true while the window is closed. -/
structure Window where
  pos : Int
  b_openWindow : Bool
  b_windowIsDriving : Bool

def Window.start : Window := ⟨(STEP_LOWER_BOUND + STEP_UPPER_BOUND) / 2, true, false⟩

inductive NodeEvent
  | recvfrom (d : Datagram)
  | request (c : CommunicationCommand)
  | measured (m : MeasuredData)
  | servo_set (pos : Int)
  | reply (c : CommunicationCommand)
  | pp_send (data : Bytes)

/-- What one run through the `switch` leaves behind. -/
structure Turn where
  events : List NodeEvent
  window : Window
  data : MeasuredData
  communicationCommand : CommunicationCommand
  reply : Option CommunicationCommand

/-- `case START_OPEN_WINDOW`. -/
def turnOpen (w : Window) (data : MeasuredData) : Turn :=
  if w.b_openWindow then
    let drive := openWindow w.pos STEP
    if drive.ended then
      ⟨[.servo_set drive.set], ⟨drive.pos, false, false⟩, data, .FINISH_OPEN_WINDOW,
        some .FINISH_OPEN_WINDOW⟩
    else ⟨[.servo_set drive.set], ⟨drive.pos, true, true⟩, data, .START_OPEN_WINDOW, none⟩
  else
    ⟨[], ⟨w.pos, false, false⟩, data, .FINISH_OPEN_WINDOW, some .FINISH_OPEN_WINDOW⟩

/-- `case START_CLOSE_WINDOW`. -/
def turnClose (w : Window) (data : MeasuredData) : Turn :=
  if !w.b_openWindow then
    let drive := closeWindow w.pos (STEP * 2)
    if drive.ended then
      ⟨[.servo_set drive.set], ⟨drive.pos, true, false⟩, data, .FINISH_CLOSE_WINDOW,
        some .FINISH_CLOSE_WINDOW⟩
    else ⟨[.servo_set drive.set], ⟨drive.pos, false, true⟩, data, .START_CLOSE_WINDOW, none⟩
  else
    ⟨[], ⟨w.pos, true, false⟩, data, .FINISH_CLOSE_WINDOW, some .FINISH_CLOSE_WINDOW⟩

/-- One run through the `switch`; `m` is what the sensors would give. A value
without a case does nothing, and has no reply. -/
def turn (b : Build) (w : Window) (data m : MeasuredData) (c : CommunicationCommand) : Turn :=
  match b, c with
  | _, .START_MEASUREMENT =>
    ⟨[.measured m], w, m, .FINISH_MEASUREMENT, some .FINISH_MEASUREMENT⟩
  | .IN, .START_OPEN_WINDOW => turnOpen w data
  | .IN, .START_CLOSE_WINDOW => turnClose w data
  | _, c => ⟨[], w, data, c, none⟩

/-! ## The two threads -/

/-- Where `communication_thread` is. -/
inductive CommPc
  | recvfrom
  | msg_send
  | msg_receive
  deriving DecidableEq, Repr

/-- Where `main` is. -/
inductive MainPc
  | msg_receive
  | switch
  | msg_send (c : CommunicationCommand)
  deriving DecidableEq, Repr

structure Node where
  comm : CommPc
  communicationCommand : CommunicationCommand
  pp_msg_queue : List CommunicationCommand
  main : MainPc
  /-- `main`'s own `communicationCommand` -/
  mainCommand : CommunicationCommand
  window : Window
  data : MeasuredData

/-- A node after `initAll`, with what `data` and `main`'s uninitialised variable happen to hold. -/
def Node.start (mainCommand : CommunicationCommand) (data : MeasuredData) : Node :=
  ⟨.recvfrom, .START_MEASUREMENT, [], .msg_receive, mainCommand, .start, data⟩

/-- The head of `main`'s loop: it takes a new message only while the window is at rest. -/
def loopHead (w : Window) : MainPc := if w.b_windowIsDriving then .switch else .msg_receive

/-- One step of either thread, with what it does. -/
inductive NodeStep (b : Build) (printF : Int → Nat → Bytes) : Node → List NodeEvent → Node → Prop
  /-- `recvfrom` returns an error or an empty datagram. -/
  | noDatagram (n : Node) : n.comm = .recvfrom → NodeStep b printF n [] n
  | recvfrom (n : Node) (d : Datagram) : n.comm = .recvfrom →
    NodeStep b printF n [.recvfrom d]
      { n with comm := .msg_send, communicationCommand := commandFor b d n.communicationCommand }
  /-- `msg_send(&msg, main_id)` meets `main`'s `msg_receive`. -/
  | request (n : Node) : n.comm = .msg_send → n.main = .msg_receive →
    NodeStep b printF n [.request n.communicationCommand]
      { n with comm := .msg_receive, main := .switch, mainCommand := n.communicationCommand }
  | turn (n : Node) (m : MeasuredData) : n.main = .switch →
    NodeStep b printF n (turn b n.window n.data m n.mainCommand).events
      { n with
        main := match (turn b n.window n.data m n.mainCommand).reply with
          | some c => .msg_send c
          | none => loopHead (turn b n.window n.data m n.mainCommand).window
        mainCommand := (turn b n.window n.data m n.mainCommand).communicationCommand
        window := (turn b n.window n.data m n.mainCommand).window
        data := (turn b n.window n.data m n.mainCommand).data }
  /-- `msg_send(&msg, communication_thread_id)` -/
  | reply (n : Node) (c : CommunicationCommand) : n.main = .msg_send c →
    n.pp_msg_queue.length < PP_MSG_QUEUE_SIZE →
    NodeStep b printF n [.reply c]
      { n with main := loopHead n.window, pp_msg_queue := n.pp_msg_queue ++ [c] }
  /-- `msg_receive` returns and the reply is sent out. -/
  | answer (n : Node) (c : CommunicationCommand) (q : List CommunicationCommand) :
    n.comm = .msg_receive → n.pp_msg_queue = c :: q →
    NodeStep b printF n ((answers b printF n.data c).map .pp_send)
      { n with comm := .recvfrom, communicationCommand := c, pp_msg_queue := q }

def received (tr : List NodeEvent) : List Datagram :=
  tr.filterMap fun | .recvfrom d => some d | _ => none

def sentOut (tr : List NodeEvent) : List Bytes :=
  tr.filterMap fun | .pp_send m => some m | _ => none

/-- A step without a new datagram. -/
def Internal (b : Build) (printF : Int → Nat → Bytes) (n n' : Node) : Prop :=
  ∃ es, NodeStep b printF n es n' ∧ received es = []

end SmartWindow
