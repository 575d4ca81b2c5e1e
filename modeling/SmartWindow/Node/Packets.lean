/-
The node of `Node.Model` with the network in the picture: an arriving packet
is a message in the queue of `communication_thread`, the one its `msg_receive`
reads as well. `recvfrom` takes packets from it and puts other messages back
at its end; `msg_receive` takes whatever is first, and an address for a value
where that is a packet. Packets are GET_All, PUT_Win/Open and PUT_Win/Close.

A reply carries the number of the request that `main` was serving, and a
message taken as a reply is seen with the number of the request it is taken
for. Neither is in the program; they are there to say what belongs together.
-/
import SmartWindow.Node.Contract

namespace SmartWindow.Packets

inductive Message
  | packet (d : Datagram)
  | reply (request : Nat) (c : CommunicationCommand)

/-- `msg.content.value`: the command, or none where it is an address. -/
def Message.value : Message → Option CommunicationCommand
  | .packet _ => none
  | .reply _ c => some c

structure Node where
  comm : CommPc
  communicationCommand : Option CommunicationCommand
  pp_msg_queue : List Message
  main : MainPc
  mainCommand : CommunicationCommand
  window : Window
  data : MeasuredData
  /-- the requests sent so far -/
  requests : Nat

def Node.start (mainCommand : CommunicationCommand) (data : MeasuredData) : Node :=
  ⟨.recvfrom, some .START_MEASUREMENT, [], .msg_receive, mainCommand, .start, data, 0⟩

inductive Event
  | arrive (d : Datagram)
  | took (request : Nat) (m : Message)
  | node (e : NodeEvent)

/-- A packet comes in; it is dropped where the queue is full. -/
def Node.enqueue (n : Node) (d : Datagram) : Node :=
  if n.pp_msg_queue.length < PP_MSG_QUEUE_SIZE then
    { n with pp_msg_queue := n.pp_msg_queue ++ [.packet d] }
  else n

/-- One step of the network or of either thread. -/
inductive NodeStep (printF : Int → Nat → Bytes) : Node → List Event → Node → Prop
  | arrive (n : Node) (d : Datagram) : known .IN d ≠ none →
    NodeStep printF n [.arrive d] (n.enqueue d)
  /-- `recvfrom` gives up. -/
  | noDatagram (n : Node) : n.comm = .recvfrom → NodeStep printF n [] n
  | requeue (n : Node) (k : Nat) (c : CommunicationCommand) (q : List Message) :
    n.comm = .recvfrom → n.pp_msg_queue = .reply k c :: q →
    NodeStep printF n [] { n with pp_msg_queue := q ++ [.reply k c] }
  | recvfrom (n : Node) (d : Datagram) (q : List Message) :
    n.comm = .recvfrom → n.pp_msg_queue = .packet d :: q →
    NodeStep printF n [.node (.recvfrom d)]
      { n with
        comm := .msg_send
        communicationCommand := (known .IN d).or n.communicationCommand
        pp_msg_queue := q }
  | request (n : Node) (c : CommunicationCommand) : n.comm = .msg_send → n.main = .msg_receive →
    n.communicationCommand = some c →
    NodeStep printF n [.node (.request c)]
      { n with comm := .msg_receive, main := .switch, mainCommand := c, requests := n.requests + 1 }
  | turn (n : Node) (m : MeasuredData) : n.main = .switch →
    NodeStep printF n ((turn .IN n.window n.data m n.mainCommand).events.map .node)
      { n with
        main := match (turn .IN n.window n.data m n.mainCommand).reply with
          | some c => .msg_send c
          | none => loopHead (turn .IN n.window n.data m n.mainCommand).window
        mainCommand := (turn .IN n.window n.data m n.mainCommand).communicationCommand
        window := (turn .IN n.window n.data m n.mainCommand).window
        data := (turn .IN n.window n.data m n.mainCommand).data }
  -- `main` takes the next request only after this, so what it serves is still the last one sent.
  | reply (n : Node) (c : CommunicationCommand) : n.main = .msg_send c →
    n.pp_msg_queue.length < PP_MSG_QUEUE_SIZE →
    NodeStep printF n [.node (.reply c)]
      { n with
        main := loopHead n.window
        pp_msg_queue := n.pp_msg_queue ++ [.reply n.requests c] }
  /-- `msg_receive` returns, and what the message asks for is sent out. -/
  | take (n : Node) (m : Message) (q : List Message) : n.comm = .msg_receive →
    n.pp_msg_queue = m :: q →
    NodeStep printF n
      (.took n.requests m ::
        (m.value.elim [] (answers .IN printF n.data)).map fun data => .node (.pp_send data))
      { n with comm := .recvfrom, communicationCommand := m.value, pp_msg_queue := q }

/-- What the two threads do in a trace. -/
def nodeEvents (tr : List Event) : List NodeEvent :=
  tr.filterMap fun | .node e => some e | _ => none

/-- A packet can come in here: no other packet waits, and no request does for its reply, unless the
reply is in the queue already. -/
def Node.Calm (n : Node) : Prop :=
  (∀ d, .packet d ∉ n.pp_msg_queue) ∧ (n.comm = .recvfrom ∨ n.pp_msg_queue ≠ [])

/-- A step in which packets come in only where they can. -/
def CalmStep (printF : Int → Nat → Bytes) (n : Node) (es : List Event) (n' : Node) : Prop :=
  NodeStep printF n es n' ∧ ∀ d, .arrive d ∈ es → n.Calm

/-! ## What a trace shows -/

/-- Every window command that goes out answers the datagram received last, with nothing sent before. -/
def Answers (tr : List NodeEvent) : Prop :=
  ∀ pre c post, tr = pre ++ .pp_send (WinCommand.text c) :: post →
    ∃ before d between, pre = before ++ .recvfrom d :: between ∧ cstr d.bytes = c.text ∧
      ∀ e ∈ between, (∀ d', e ≠ .recvfrom d') ∧ ∀ data, e ≠ .pp_send data

/-- What is taken as a reply is `main`'s reply to the last request, and window commands answer
datagrams that ask for them. -/
structure Belongs (tr : List Event) : Prop where
  replies : ∀ k m, .took k m ∈ tr → ∃ c, m = .reply k c
  answers : Answers (nodeEvents tr)

theorem nodeEvents_append (tr es : List Event) :
    nodeEvents (tr ++ es) = nodeEvents tr ++ nodeEvents es :=
  List.filterMap_append

@[simp] theorem nodeEvents_map (es : List NodeEvent) : nodeEvents (es.map .node) = es := by
  simp [nodeEvents]

/-! ## The node without its packets -/

/-- The node as `Node.Model` has it: it does not see the packets in the queue. -/
def Node.forget (n : Node) : SmartWindow.Node :=
  ⟨n.comm, n.communicationCommand.getD .START_MEASUREMENT, n.pp_msg_queue.filterMap Message.value,
    n.main, n.mainCommand, n.window, n.data⟩

/-- What can wait in the queue in a dialog. -/
def Node.Tidy (n : Node) : Dialog → Prop
  | .idle _ => n.pp_msg_queue = [] ∨ ∃ d, n.pp_msg_queue = [.packet d]
  | .requested _ | .serving _ | .replying _ => n.pp_msg_queue = []
  | .replied c => n.pp_msg_queue = [.reply n.requests c.finish] ∨
      ∃ d, n.pp_msg_queue = [.reply n.requests c.finish, .packet d]
  | .stuck _ => False

/-- A node in which nothing is mixed up. -/
structure Node.Fine (n : Node) (p : Dialog) : Prop where
  at_dialog : n.forget.At .IN p
  window : n.window.Ok
  live : p.Live .IN
  tidy : n.Tidy p

/-- What only known packets bring about: there is a command to send. -/
structure Node.Known (n : Node) : Prop where
  packets : ∀ d, .packet d ∈ n.pp_msg_queue → known .IN d ≠ none
  command : n.comm = .msg_send → n.communicationCommand ≠ none

end SmartWindow.Packets
