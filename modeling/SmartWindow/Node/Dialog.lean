/-
The dialog of the node's two threads, one datagram at a time: the abstract
machine that the program of `NodeStep` refines (`dialog_step`). A datagram
becomes a request, the request is served and replied to, and the reply is
answered; a request `main` has no case for leaves both threads waiting
(`Dialog.stuck`). Serving a request ends (`serve_ends`), because every turn
of `main` brings the servo closer to its end (`turn_spec`).
-/
import SmartWindow.Lib.Trans
import SmartWindow.Node.Model

namespace SmartWindow

/-! ## Commands -/

/-- The reply that matches a request. -/
def CommunicationCommand.finish : CommunicationCommand → CommunicationCommand
  | .START_MEASUREMENT => .FINISH_MEASUREMENT
  | .START_OPEN_WINDOW => .FINISH_OPEN_WINDOW
  | .START_CLOSE_WINDOW => .FINISH_CLOSE_WINDOW
  | c => c

/-- `main`'s switch has a case for the value. -/
def answered (b : Build) : CommunicationCommand → Bool
  | .START_MEASUREMENT => true
  | .START_OPEN_WINDOW | .START_CLOSE_WINDOW => b == .IN
  | _ => false

/-- The window status a request asks for, if it is about the window. -/
def CommunicationCommand.status : CommunicationCommand → Option Bool
  | .START_OPEN_WINDOW => some true
  | .START_CLOSE_WINDOW => some false
  | _ => none

theorem known_answered {b : Build} {d : Datagram} {c : CommunicationCommand}
    (h : known b d = some c) : answered b c = true := by
  unfold known at h
  split at h
  · cases h; rfl
  · split at h
    · next hb => cases h; simp [answered, hb.1]
    · split at h
      · next hb => cases h; simp [answered, hb.1]
      · cases h

theorem commandFor_known {b : Build} {d : Datagram} {c v : CommunicationCommand}
    (h : known b d = some c) : commandFor b d v = c := by
  simp [commandFor, h]

theorem commandFor_unknown {b : Build} {d : Datagram} {v : CommunicationCommand}
    (h : known b d = none) : commandFor b d v = v := by
  simp [commandFor, h]

theorem answered_of_known {b : Build} {d : Datagram} (v : CommunicationCommand)
    (h : known b d ≠ none) : answered b (commandFor b d v) = true := by
  obtain ⟨c, hc⟩ := Option.ne_none_iff_exists'.1 h
  rw [commandFor_known hc]
  exact known_answered hc

/-- Only an unknown datagram passes on a value `main` has no case for: the one left from before. -/
theorem unknown_of_ignored {b : Build} {d : Datagram} {v : CommunicationCommand}
    (h : answered b (commandFor b d v) = false) : known b d = none ∧ answered b v = false := by
  cases hd : known b d with
  | some c => rw [commandFor_known hd, known_answered hd] at h; cases h
  | none => rw [commandFor_unknown hd] at h; exact ⟨rfl, h⟩

theorem CommunicationCommand.status_finish (c : CommunicationCommand) : c.finish.status = none := by
  cases c <;> rfl

theorem answered_finish {b : Build} {c : CommunicationCommand} (h : answered b c = true) :
    answered b c.finish = false := by
  cases c <;> simp_all [answered, CommunicationCommand.finish]

theorem finish_inj {b : Build} {c c' : CommunicationCommand} (h : answered b c = true)
    (h' : answered b c' = true) (heq : c.finish = c'.finish) : c = c' := by
  cases c <;> cases c' <;> simp_all [answered, CommunicationCommand.finish]

/-! ## One turn of main -/

/-- What `main` does itself: a measurement or a servo movement. -/
def NodeEvent.IsWork : NodeEvent → Prop
  | .measured _ | .servo_set _ => True
  | _ => False

/-- Between two movements the position is on the grid of the steps, and not
past the end it is driven to. -/
def Window.Ok (w : Window) : Prop :=
  (w.b_openWindow = true → 1800 < w.pos ∧ w.pos ≤ 2500 ∧ (10 : Int) ∣ w.pos) ∧
  (w.b_openWindow = false → 1800 ≤ w.pos ∧ w.pos < 2500 ∧ (20 : Int) ∣ w.pos)

/-- How far the servo is from the other end. -/
def Window.distance (w : Window) : Nat :=
  if w.b_openWindow then (w.pos - 1800).toNat else (2500 - w.pos).toNat

theorem Window.start_ok : Window.start.Ok := by
  constructor <;> decide

theorem Window.distance_le {w : Window} (h : w.Ok) : w.distance ≤ 700 := by
  obtain ⟨ho, hc⟩ := h
  unfold Window.distance
  split
  · next hb => have := ho hb; omega
  · next hb => have := hc (by simpa using hb); omega

theorem toUnsigned_of_nonneg {n : Int} (h₀ : 0 ≤ n) (h₁ : n < 4294967296) :
    toUnsigned n = n.toNat := by
  rw [toUnsigned, BitVec.toNat_ofInt, Int.emod_eq_of_lt h₀ (by simpa using h₁)]

theorem openWindow_ended {w : Window} (h : w.Ok) (hb : w.b_openWindow = true) :
    (openWindow w.pos STEP).ended = decide (w.pos ≤ 1810) := by
  have hp := h.1 hb
  refine decide_eq_decide.2 ?_
  simp only [STEP, STEP_LOWER_BOUND]
  rw [toUnsigned_of_nonneg (by omega) (by omega)]
  omega

theorem closeWindow_ended {w : Window} (h : w.Ok) (hb : w.b_openWindow = false) :
    (closeWindow w.pos (STEP * 2)).ended = decide (2480 ≤ w.pos) := by
  have hp := h.2 hb
  refine decide_eq_decide.2 ?_
  simp only [STEP, STEP_UPPER_BOUND]
  rw [toUnsigned_of_nonneg (by omega) (by omega)]
  omega

/-- What a turn comes to: the window as the command asks and a reply, or the window closer to it
and none. -/
def Turn.Serves (t : Turn) (c : CommunicationCommand) (w : Window) : Prop :=
  (∀ e ∈ t.events, e.IsWork) ∧ t.window.Ok ∧
    ((t.reply = some c.finish ∧ t.window.b_windowIsDriving = false ∧
        (!t.window.b_openWindow) = c.status.getD (!w.b_openWindow)) ∨
      (t.reply = none ∧ t.communicationCommand = c ∧ t.window.b_windowIsDriving = true ∧
        c.status = some w.b_openWindow ∧ t.window.b_openWindow = w.b_openWindow ∧
        t.window.distance < w.distance))

theorem turnOpen_serves {w : Window} (hw : w.Ok) (data : MeasuredData) :
    (turnOpen w data).Serves .START_OPEN_WINDOW w := by
  unfold turnOpen
  split
  · next hb =>
    have hp := hw.1 hb
    dsimp only
    rw [openWindow_ended hw hb]
    simp only [openWindow, STEP]
    split
    · next he =>
      simp only [decide_eq_true_eq] at he
      refine ⟨by simp [NodeEvent.IsWork], ⟨by simp, fun _ => ?_⟩, .inl ⟨rfl, rfl, rfl⟩⟩
      dsimp only
      omega
    · next he =>
      simp only [decide_eq_true_eq] at he
      refine ⟨by simp [NodeEvent.IsWork], ⟨fun _ => ?_, by simp⟩,
        .inr ⟨rfl, rfl, rfl, by rw [hb]; rfl, hb.symm, ?_⟩⟩
      · dsimp only
        omega
      · simp only [Window.distance, hb, if_true]
        omega
  · next hb =>
    have hb : w.b_openWindow = false := by simpa using hb
    exact ⟨by simp, ⟨by simp, fun _ => hw.2 hb⟩, .inl ⟨rfl, rfl, rfl⟩⟩

theorem turnClose_serves {w : Window} (hw : w.Ok) (data : MeasuredData) :
    (turnClose w data).Serves .START_CLOSE_WINDOW w := by
  unfold turnClose
  split
  · next hb =>
    have hb : w.b_openWindow = false := by simpa using hb
    have hp := hw.2 hb
    dsimp only
    rw [closeWindow_ended hw hb]
    simp only [closeWindow, STEP]
    split
    · next he =>
      simp only [decide_eq_true_eq] at he
      refine ⟨by simp [NodeEvent.IsWork], ⟨fun _ => ?_, by simp⟩, .inl ⟨rfl, rfl, rfl⟩⟩
      dsimp only
      omega
    · next he =>
      simp only [decide_eq_true_eq] at he
      refine ⟨by simp [NodeEvent.IsWork], ⟨by simp, fun _ => ?_⟩,
        .inr ⟨rfl, rfl, rfl, by rw [hb]; rfl, hb.symm, ?_⟩⟩
      · dsimp only
        omega
      · simp only [Window.distance, hb, Bool.false_eq_true, if_false]
        omega
  · next hb =>
    have hb : w.b_openWindow = true := by simpa using hb
    exact ⟨by simp, ⟨fun _ => hw.1 hb, by simp⟩, .inl ⟨rfl, rfl, rfl⟩⟩

theorem turn_serves {b : Build} {w : Window} {c : CommunicationCommand} (hw : w.Ok)
    (hd : w.b_windowIsDriving = true → c.status = some w.b_openWindow) (data m : MeasuredData)
    (hc : answered b c = true) : (turn b w data m c).Serves c w := by
  cases c with
  | START_MEASUREMENT =>
    have hd : w.b_windowIsDriving = false := by
      cases h : w.b_windowIsDriving with
      | false => rfl
      | true => cases hd h
    have ht : turn b w data m .START_MEASUREMENT = ⟨[.measured m], w, m, .FINISH_MEASUREMENT,
      some .FINISH_MEASUREMENT⟩ := by cases b <;> rfl
    rw [ht]
    exact ⟨by simp [NodeEvent.IsWork], hw, .inl ⟨rfl, hd, rfl⟩⟩
  | START_OPEN_WINDOW =>
    obtain rfl : b = .IN := by simpa [answered] using hc
    exact turnOpen_serves hw data
  | START_CLOSE_WINDOW =>
    obtain rfl : b = .IN := by simpa [answered] using hc
    exact turnClose_serves hw data
  | FINISH_MEASUREMENT | FINISH_OPEN_WINDOW | FINISH_CLOSE_WINDOW => cases hc

theorem turn_ignored {b : Build} {c : CommunicationCommand} (w : Window) (data m : MeasuredData)
    (hc : answered b c = false) : turn b w data m c = ⟨[], w, data, c, none⟩ := by
  cases b <;> cases c <;> first | rfl | cases hc

/-! ## The dialog -/

/-- Where a datagram is. -/
inductive Dialog
  /-- `communication_thread` waits for a datagram; its variable still holds a value. -/
  | idle (communicationCommand : CommunicationCommand)
  | requested (c : CommunicationCommand)
  | serving (c : CommunicationCommand)
  | replying (c : CommunicationCommand)
  | replied (c : CommunicationCommand)
  /-- Both threads wait for a message. -/
  | stuck (c : CommunicationCommand)

/-- One step of the dialog; the booleans are the window status, true is open. -/
inductive DialogStep (b : Build) (printF : Int → Nat → Bytes) :
    Dialog → Bool → List NodeEvent → Dialog → Bool → Prop
  | noDatagram (v o) : DialogStep b printF (.idle v) o [] (.idle v) o
  | recvfrom (v o d) :
    DialogStep b printF (.idle v) o [.recvfrom d] (.requested (commandFor b d v)) o
  | request (c o) : DialogStep b printF (.requested c) o [.request c] (.serving c) o
  | work (c o es) : answered b c = true → (∀ e ∈ es, e.IsWork) →
    DialogStep b printF (.serving c) o es (.serving c) o
  | done (c o es) : answered b c = true → (∀ e ∈ es, e.IsWork) →
    DialogStep b printF (.serving c) o es (.replying c) (c.status.getD o)
  | ignored (c o) : answered b c = false → DialogStep b printF (.serving c) o [] (.stuck c) o
  | reply (c o) : DialogStep b printF (.replying c) o [.reply c.finish] (.replied c) o
  | answer (c o data) :
    DialogStep b printF (.replied c) o ((answers b printF data c.finish).map .pp_send)
      (.idle c.finish) o

/-- The window status of a node: true is open. -/
def Node.isOpen (n : Node) : Bool := !n.window.b_openWindow

/-- The window is closed and nothing moves it. -/
def Node.Closed (n : Node) : Prop :=
  n.window.b_openWindow = true ∧ n.window.b_windowIsDriving = false

theorem Node.Closed.isOpen {n : Node} (h : n.Closed) : n.isOpen = false := by
  simp [Node.isOpen, h.1]

/-- The window is open and nothing moves it. -/
def Node.Opened (n : Node) : Prop :=
  n.window.b_openWindow = false ∧ n.window.b_windowIsDriving = false

def Node.At (b : Build) (n : Node) : Dialog → Prop
  | .idle v => n.comm = .recvfrom ∧ n.main = .msg_receive ∧ n.pp_msg_queue = [] ∧
      n.communicationCommand = v ∧ v.status = none ∧ n.window.b_windowIsDriving = false
  | .requested c => n.comm = .msg_send ∧ n.main = .msg_receive ∧ n.pp_msg_queue = [] ∧
      n.communicationCommand = c ∧ n.window.b_windowIsDriving = false
  | .serving c => n.comm = .msg_receive ∧ n.main = .switch ∧ n.pp_msg_queue = [] ∧
      n.mainCommand = c ∧
      (n.window.b_windowIsDriving = true →
        answered b c = true ∧ c.status = some n.window.b_openWindow)
  | .replying c => n.comm = .msg_receive ∧ n.main = .msg_send c.finish ∧ n.pp_msg_queue = [] ∧
      answered b c = true ∧ c.status.getD n.isOpen = n.isOpen ∧ n.window.b_windowIsDriving = false
  | .replied c => n.comm = .msg_receive ∧ n.main = .msg_receive ∧ n.pp_msg_queue = [c.finish] ∧
      answered b c = true ∧ c.status.getD n.isOpen = n.isOpen ∧ n.window.b_windowIsDriving = false
  | .stuck c => n.comm = .msg_receive ∧ n.main = .msg_receive ∧ n.pp_msg_queue = [] ∧
      answered b c = false ∧ n.window.b_windowIsDriving = false

variable {b : Build} {printF : Int → Nat → Bytes}

theorem Node.start_at (mainCommand : CommunicationCommand) (data : MeasuredData) :
    (Node.start mainCommand data).At b (.idle .START_MEASUREMENT) :=
  ⟨rfl, rfl, rfl, rfl, rfl, rfl⟩

theorem Node.At.resting {n : Node} {c : CommunicationCommand} (h : n.At b (.serving c))
    (ha : answered b c = false) : n.window.b_windowIsDriving = false := by
  cases hd : n.window.b_windowIsDriving with
  | false => rfl
  | true => rw [(h.2.2.2.2 hd).1] at ha; cases ha

theorem Node.At.replied_answered {n : Node} {p : Dialog} (h : n.At b p) :
    ∀ c, p = .replied c → answered b c = true := by
  intro c hc
  subst hc
  exact h.2.2.2.1

/-! ## Where the threads are -/

theorem idle_of_recvfrom {n : Node} {p : Dialog} (h : n.At b p) (hc : n.comm = .recvfrom) :
    ∃ v, p = .idle v := by
  cases p with
  | idle v => exact ⟨v, rfl⟩
  | requested | serving | replying | replied | stuck => rw [h.1] at hc; cases hc

theorem requested_of_msg_send {n : Node} {p : Dialog} (h : n.At b p) (hc : n.comm = .msg_send) :
    ∃ c, p = .requested c := by
  cases p with
  | requested c => exact ⟨c, rfl⟩
  | idle | serving | replying | replied | stuck => rw [h.1] at hc; cases hc

theorem serving_of_switch {n : Node} {p : Dialog} (h : n.At b p) (hm : n.main = .switch) :
    ∃ c, p = .serving c := by
  cases p with
  | serving c => exact ⟨c, rfl⟩
  | idle | requested | replying | replied | stuck => rw [h.2.1] at hm; cases hm

theorem replying_of_msg_send {n : Node} {p : Dialog} {c : CommunicationCommand} (h : n.At b p)
    (hm : n.main = .msg_send c) : ∃ c', p = .replying c' ∧ c = c'.finish := by
  cases p with
  | replying c' => exact ⟨c', rfl, by rw [h.2.1] at hm; cases hm; rfl⟩
  | idle | requested | serving | replied | stuck => rw [h.2.1] at hm; cases hm

theorem replied_of_queue {n : Node} {p : Dialog} {c : CommunicationCommand}
    {q : List CommunicationCommand} (h : n.At b p) (hq : n.pp_msg_queue = c :: q) :
    ∃ c', p = .replied c' ∧ c = c'.finish ∧ q = [] := by
  cases p with
  | replied c' =>
    rw [h.2.2.1] at hq
    cases hq
    exact ⟨c', rfl, rfl, rfl⟩
  | idle | requested | serving | replying | stuck => rw [h.2.2.1] at hq; cases hq

/-- While the window is driven, `main` serves the command it is driven for. -/
theorem serving_of_driving {n : Node} {p : Dialog} (h : n.At b p)
    (hd : n.window.b_windowIsDriving = true) : ∃ c, p = .serving c ∧ answered b c = true ∧
      c.status = some n.window.b_openWindow := by
  cases p with
  | serving c => exact ⟨c, rfl, h.2.2.2.2 hd⟩
  | idle => simp [h.2.2.2.2.2] at hd
  | requested | stuck => simp [h.2.2.2.2] at hd
  | replying | replied => simp [h.2.2.2.2.2] at hd

/-! ## The steps -/

/-- **Every step of the program is a step of the dialog.** -/
theorem dialog_step {n n' : Node} {es : List NodeEvent} {p : Dialog} (h : n.At b p)
    (hw : n.window.Ok) (hs : NodeStep b printF n es n') :
    ∃ p', DialogStep b printF p n.isOpen es p' n'.isOpen ∧ n'.At b p' ∧ n'.window.Ok := by
  cases hs with
  | noDatagram hc =>
    obtain ⟨v, rfl⟩ := idle_of_recvfrom h hc
    exact ⟨_, .noDatagram v _, h, hw⟩
  | recvfrom d hc =>
    obtain ⟨v, rfl⟩ := idle_of_recvfrom h hc
    obtain ⟨-, hm, hq, rfl, -, hd⟩ := h
    exact ⟨_, .recvfrom _ _ d, ⟨rfl, hm, hq, rfl, hd⟩, hw⟩
  | request hc hm =>
    obtain ⟨c, rfl⟩ := requested_of_msg_send h hc
    obtain ⟨-, -, hq, rfl, hd⟩ := h
    exact ⟨_, .request _ _, ⟨rfl, rfl, hq, rfl, by simp [hd]⟩, hw⟩
  | turn m hm =>
    obtain ⟨c, rfl⟩ := serving_of_switch h hm
    obtain ⟨hc, -, hq, rfl, hd⟩ := id h
    cases ha : answered b n.mainCommand with
    | false =>
      have hd := h.resting ha
      rw [turn_ignored _ _ _ ha]
      exact ⟨_, .ignored _ _ ha, ⟨hc, by simp [loopHead, hd], hq, ha, hd⟩, hw⟩
    | true =>
      obtain ⟨he, hok, ⟨hr, hdr, ho⟩ | ⟨hr, hcc, hdr, hst, ho, -⟩⟩ :=
        turn_serves hw (fun h => (hd h).2) n.data m ha
      · refine ⟨.replying n.mainCommand, ?_, ⟨hc, by simp [hr], hq, ha, ?_, hdr⟩, hok⟩
        · simp only [Node.isOpen]
          rw [ho]
          exact .done _ _ _ ha he
        · simp only [Node.isOpen]
          rw [ho]
          cases n.mainCommand.status <;> rfl
      · refine ⟨.serving n.mainCommand, ?_, ⟨hc, by simp [hr, loopHead, hdr], hq, hcc, ?_⟩, hok⟩
        · simp only [Node.isOpen]
          rw [ho]
          exact .work _ _ _ ha he
        · intro _
          simp only
          rw [ho]
          exact ⟨ha, hst⟩
  | reply c hm hq =>
    obtain ⟨c', rfl, rfl⟩ := replying_of_msg_send h hm
    obtain ⟨hc, -, hq', ha, ho, hd⟩ := h
    exact ⟨_, .reply _ _, ⟨hc, by simp [loopHead, hd], by simp [hq'], ha, ho, hd⟩, hw⟩
  | answer c q hc hq =>
    obtain ⟨c', rfl, rfl, rfl⟩ := replied_of_queue h hq
    obtain ⟨-, hm, -, -, -, hd⟩ := h
    exact ⟨_, .answer c' _ n.data, ⟨rfl, hm, rfl, rfl, c'.status_finish, hd⟩, hw⟩

/-- What holds at the start and is kept by every step of a node in a dialog holds after every run. -/
theorem run_invariant {mainCommand : CommunicationCommand} {data : MeasuredData}
    (I : List NodeEvent → Node → Prop) (h₀ : I [] (.start mainCommand data))
    (hstep : ∀ tr n es n' p, I tr n → n.At b p → n.window.Ok → NodeStep b printF n es n' →
      I (tr ++ es) n') {tr : List NodeEvent} {n : Node}
    (h : Trans.Run (NodeStep b printF) (.start mainCommand data) tr n) : I tr n := by
  have hrun : (∃ p, n.At b p ∧ n.window.Ok) ∧ I tr n := by
    refine h.invariant (fun tr n => (∃ p, n.At b p ∧ n.window.Ok) ∧ I tr n)
      ⟨⟨_, Node.start_at _ _, Window.start_ok⟩, h₀⟩ ?_
    intro tr n es n' hx hs
    obtain ⟨⟨p, hp, hw⟩, hi⟩ := hx
    obtain ⟨p', -, hp', hw'⟩ := dialog_step hp hw hs
    exact ⟨⟨p', hp', hw'⟩, hstep tr n es n' p hi hp hw hs⟩
  exact hrun.2

theorem Node.At.recvfrom {n : Node} {v : CommunicationCommand} (h : n.At b (.idle v))
    (printF : Int → Nat → Bytes) (d : Datagram) : ∃ n', NodeStep b printF n [.recvfrom d] n' ∧
      n'.At b (.requested (commandFor b d v)) ∧ n'.window = n.window := by
  obtain ⟨hc, hm, hq, rfl, -, hd⟩ := h
  exact ⟨_, .recvfrom n d hc, ⟨rfl, hm, hq, rfl, hd⟩, rfl⟩

theorem Node.At.request {n : Node} {c : CommunicationCommand} (h : n.At b (.requested c))
    (printF : Int → Nat → Bytes) : ∃ n', NodeStep b printF n [.request c] n' ∧
      n'.At b (.serving c) ∧ n'.window = n.window := by
  obtain ⟨hc, hm, hq, rfl, hd⟩ := h
  exact ⟨_, .request n hc hm, ⟨rfl, rfl, hq, rfl, by simp [hd]⟩, rfl⟩

theorem Node.At.measure {n : Node} (h : n.At b (.serving .START_MEASUREMENT))
    (printF : Int → Nat → Bytes) (m : MeasuredData) : ∃ n', NodeStep b printF n [.measured m] n' ∧
      n'.At b (.replying .START_MEASUREMENT) ∧ n'.data = m := by
  obtain ⟨hc, hm, hq, hcommand, hd⟩ := h
  have hrest : n.window.b_windowIsDriving = false := by
    cases hdr : n.window.b_windowIsDriving with
    | false => rfl
    | true => cases (hd hdr).2
  have hs : NodeStep b printF n _ _ := .turn n m hm
  have hval : turn b n.window n.data m n.mainCommand = ⟨[.measured m], n.window, m,
      .FINISH_MEASUREMENT, some .FINISH_MEASUREMENT⟩ := by
    rw [hcommand]
    cases b <;> rfl
  rw [hval] at hs
  exact ⟨_, hs, ⟨hc, rfl, hq, rfl, rfl, hrest⟩, rfl⟩

theorem Node.At.reply {n : Node} {c : CommunicationCommand} (h : n.At b (.replying c))
    (printF : Int → Nat → Bytes) : ∃ n', NodeStep b printF n [.reply c.finish] n' ∧
      n'.At b (.replied c) ∧ n'.data = n.data := by
  obtain ⟨hc, hm, hq, ha, ho, hd⟩ := h
  exact ⟨_, .reply n _ hm (by simp [hq, PP_MSG_QUEUE_SIZE]),
    ⟨hc, by simp [loopHead, hd], by simp [hq], ha, ho, hd⟩, rfl⟩

theorem Node.At.answer {n : Node} {c : CommunicationCommand} (h : n.At b (.replied c))
    (printF : Int → Nat → Bytes) : ∃ n',
      NodeStep b printF n ((answers b printF n.data c.finish).map .pp_send) n' ∧
        n'.At b (.idle c.finish) := by
  obtain ⟨hc, hm, hq, -, -, hd⟩ := h
  exact ⟨_, .answer n _ _ hc hq, rfl, hm, rfl, rfl, c.status_finish, hd⟩

theorem Node.At.ignore {n : Node} {c : CommunicationCommand} (h : n.At b (.serving c))
    (printF : Int → Nat → Bytes) (ha : answered b c = false) :
    ∃ n', NodeStep b printF n [] n' ∧ n'.At b (.stuck c) := by
  have hd := h.resting ha
  obtain ⟨hc, hm, hq, rfl, -⟩ := h
  have hs : NodeStep b printF n _ _ := .turn n n.data hm
  rw [turn_ignored _ _ _ ha] at hs
  exact ⟨_, hs, hc, by simp [loopHead, hd], hq, ha, hd⟩

/-! ## Every served datagram is answered -/

theorem received_append (tr es : List NodeEvent) : received (tr ++ es) = received tr ++ received es :=
  List.filterMap_append

@[simp] theorem received_recvfrom (d : Datagram) (es : List NodeEvent) :
    received (.recvfrom d :: es) = d :: received es := rfl

@[simp] theorem received_request (c : CommunicationCommand) (es : List NodeEvent) :
    received (.request c :: es) = received es := rfl

@[simp] theorem received_reply (c : CommunicationCommand) (es : List NodeEvent) :
    received (.reply c :: es) = received es := rfl

@[simp] theorem received_nil : received [] = [] := rfl

@[simp] theorem received_pp_send (msgs : List Bytes) : received (msgs.map .pp_send) = [] := by
  induction msgs with
  | nil => rfl
  | cons m ms ih => exact ih

theorem received_work {es : List NodeEvent} (h : ∀ e ∈ es, e.IsWork) : received es = [] := by
  refine List.filterMap_eq_nil_iff.2 fun e he => ?_
  have := h e he
  cases e with
  | recvfrom d => exact absurd this id
  | request | measured | servo_set | reply | pp_send => rfl

theorem DialogStep.of_received {p p' : Dialog} {o o' : Bool} {es : List NodeEvent} {d : Datagram}
    (h : DialogStep b printF p o es p' o') (hr : received es = [d]) :
    ∃ v, p = .idle v ∧ p' = .requested (commandFor b d v) ∧ o' = o := by
  cases h with
  | recvfrom v o d' => cases hr; exact ⟨v, rfl, rfl, rfl⟩
  | noDatagram | request | ignored | reply => cases hr
  | work _ _ _ _ hes | done _ _ _ _ hes => rw [received_work hes] at hr; cases hr
  | answer => rw [received_pp_send] at hr; cases hr

/-- Every request under way is one that `main` has a case for. -/
def Dialog.Live (b : Build) : Dialog → Prop
  | .requested c | .serving c => answered b c = true
  | .stuck _ => False
  | _ => True

theorem DialogStep.live {p p' : Dialog} {o o' : Bool} {es : List NodeEvent}
    (h : DialogStep b printF p o es p' o') (hl : p.Live b) (hr : received es = []) :
    p'.Live b := by
  cases h with
  | recvfrom => cases hr
  | request | work => exact hl
  | ignored c o hc => exact absurd hl (by simp [Dialog.Live, hc])
  | noDatagram | done | reply | answer => trivial

/-- How far `communication_thread` is from its next `recvfrom`. -/
def Node.rank (n : Node) : Nat :=
  match n.comm, n.main with
  | .recvfrom, _ => 0
  | .msg_send, _ => 1000
  | .msg_receive, .switch => 3 + n.window.distance
  | .msg_receive, .msg_send _ => 2
  | .msg_receive, .msg_receive => 1

theorem rank_step {n n' : Node} {es : List NodeEvent} {p : Dialog} (h : n.At b p)
    (hw : n.window.Ok) (hl : p.Live b) (hc : n.comm ≠ .recvfrom)
    (hs : NodeStep b printF n es n') : n'.rank < n.rank := by
  cases hs with
  | noDatagram hc' => exact absurd hc' hc
  | recvfrom d hc' => exact absurd hc' hc
  | request hc' _ =>
    have := Window.distance_le hw
    simp only [Node.rank, hc']
    omega
  | turn m hm =>
    obtain ⟨c, rfl⟩ := serving_of_switch h hm
    obtain ⟨hc, -, -, rfl, hd⟩ := h
    obtain ⟨-, -, ⟨hr, -, -⟩ | ⟨hr, -, hdr, -, -, hlt⟩⟩ :=
      turn_serves hw (fun h => (hd h).2) n.data m hl
    · simp only [Node.rank, hc, hm, hr]
      omega
    · simp only [Node.rank, hc, hm, hr, loopHead, hdr, if_true]
      omega
  | reply c hm _ =>
    obtain ⟨c', rfl, rfl⟩ := replying_of_msg_send h hm
    simp [Node.rank, h.1, hm, loopHead, h.2.2.2.2.2]
  | answer c q hc' _ =>
    simp only [Node.rank, hc']
    cases n.main <;> simp

theorem progress {n : Node} {p : Dialog} (h : n.At b p) (hw : n.window.Ok) (hl : p.Live b)
    (hc : n.comm ≠ .recvfrom) : ∃ n', Internal b printF n n' := by
  cases p with
  | idle v => exact absurd h.1 hc
  | requested c => exact ⟨_, _, .request n h.1 h.2.1, rfl⟩
  | serving c =>
    obtain ⟨-, hm, -, rfl, hd⟩ := h
    exact ⟨_, _, .turn n n.data hm,
      received_work (turn_serves hw (fun h => (hd h).2) n.data n.data hl).1⟩
  | replying c => exact ⟨_, _, .reply n c.finish h.2.1 (by simp [h.2.2.1, PP_MSG_QUEUE_SIZE]), rfl⟩
  | replied c => exact ⟨_, _, .answer n c.finish [] h.1 h.2.2.1, received_pp_send _⟩
  | stuck c => exact absurd hl id

/-- **Serving ends.** Whatever the threads do, `communication_thread` gets back to `recvfrom`. -/
theorem serve_ends (printF : Int → Nat → Bytes) {n : Node} {p : Dialog} (h : n.At b p)
    (hw : n.window.Ok) (hl : p.Live b) :
    Trans.Inevitable (Internal b printF) (fun n => n.comm = .recvfrom) n := by
  refine .of_rank (fun n => ∃ p : Dialog, n.At b p ∧ n.window.Ok ∧ p.Live b) Node.rank
    ?_ ?_ ⟨p, h, hw, hl⟩
  · intro n hx hc
    obtain ⟨p, h, hw, hl⟩ := hx
    exact progress h hw hl hc
  · intro n n' hx₁ hc hx₂
    obtain ⟨p, h, hw, hl⟩ := hx₁
    obtain ⟨es, hs, hr⟩ := hx₂
    obtain ⟨p', hd, h', hw'⟩ := dialog_step h hw hs
    exact ⟨⟨p', h', hw', hd.live hl hr⟩, rank_step h hw hl hc hs⟩

end SmartWindow
