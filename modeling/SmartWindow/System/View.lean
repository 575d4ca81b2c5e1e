/-
The window status on its way through the system, as one pipe of values: what
the pass under way has read, the table Win_Open, the reports in flight, the
reply the node has yet to send, the window itself, the command the node
carries out, and the commands in flight. Every step but the end of a pass
only loses or doubles values in it (`step_cases`), whatever the schedule and
the losses are.
-/
import SmartWindow.Lib.Pipe
import SmartWindow.Node.Contract
import SmartWindow.System.Model

namespace SmartWindow

open OneHot Pipe

/-- The window `o` and the status asked of it. The window's own status is
left out where it is about to become `hide`. -/
def underway (hide : Option Bool) (o : Bool) : Option Bool → List Bool
  | none => [o]
  | some v => if hide = some v then [v] else [o, v]

theorem underway_some (hide : Option Bool) (o v : Bool) :
    underway hide o (some v) = if hide = some v then [v] else [o, v] := rfl

/-- The node's part of the pipe: the reply it has yet to send, the window, the command it carries
out. -/
def Dialog.values (hide : Option Bool) (o : Bool) : Dialog → List Bool
  | .idle _ | .stuck _ => [o]
  | .requested c | .serving c => underway hide o c.status
  | .replying c | .replied c => c.status.toList ++ [o]

/-- From the window down to the commands. -/
def System.below (hide : Option Bool) (s : System) (p : Dialog) : List Bool :=
  p.values hide s.node.isOpen ++ s.commands.filterMap asked

/-- From the table Win_Open down to the commands. -/
def System.stored (hide : Option Bool) (s : System) (p : Dialog) : List Bool :=
  s.win_Open :: s.reports.filterMap winOpen ++ s.below hide p

/-- The whole pipe. -/
def System.pipe (hide : Option Bool) (s : System) (p : Dialog) : List Bool :=
  s.snapshot.toList ++ s.stored hide p

variable {printF : Int → Nat → Bytes}

theorem sentOut_pp_send (msgs : List Bytes) : sentOut (msgs.map .pp_send) = msgs := by
  induction msgs with
  | nil => rfl
  | cons m ms ih => exact congrArg (m :: ·) ih

theorem sentOut_work {es : List NodeEvent} (h : ∀ e ∈ es, e.IsWork) : sentOut es = [] := by
  refine List.filterMap_eq_nil_iff.2 fun e he => ?_
  have := h e he
  cases e with
  | pp_send m => exact absurd this id
  | request | measured | servo_set | reply | recvfrom => rfl

theorem status_of_ignored {c : CommunicationCommand} (h : answered .IN c = false) :
    c.status = none := by
  cases c <;> first | rfl | cases h

/-- The window status a dialog has yet to report. -/
def Dialog.tells : Dialog → Option Bool
  | .requested c | .serving c | .replying c | .replied c => c.status
  | .idle _ | .stuck _ => none

/-- The node owes a report until it sends it. -/
theorem DialogStep.tells {p' : Dialog} {o o' : Bool} {es : List NodeEvent}
    (hs : DialogStep .IN printF p o es p' o') (hr : received es = [])
    (ha : ∀ c, p = .replied c → answered .IN c = true) :
    (sentOut es).filterMap winOpen ++ p'.tells.toList = p.tells.toList := by
  cases hs with
  | noDatagram | request | reply => rfl
  | recvfrom => cases hr
  | work c o es _ hes | done c o es _ hes =>
    rw [sentOut_work hes]
    rfl
  | ignored c o hc => exact (congrArg Option.toList (status_of_ignored hc)).symm
  | answer c o data =>
    rw [sentOut_pp_send, answers_winOpen (ha c rfl)]
    exact List.append_nil _

/-- What the node does on its own, it does to its part of the pipe; what it reports goes in front. -/
theorem values_flows (hide : Option Bool) {p p' : Dialog} {o o' : Bool} {es : List NodeEvent}
    (hs : DialogStep .IN printF p o es p' o') (hr : received es = [])
    (ha : ∀ c, p = .replied c → answered .IN c = true) :
    Flows (p.values hide o) ((sentOut es).filterMap winOpen ++ p'.values hide o') := by
  cases hs with
  | noDatagram | request | reply => exact .refl
  | recvfrom => cases hr
  | work c o es _ hes =>
    rw [sentOut_work hes]
    exact .refl
  | done c o es _ hes =>
    rw [sentOut_work hes]
    show Flows (underway hide o c.status) (c.status.toList ++ [c.status.getD o])
    cases c.status with
    | none => exact .refl
    | some v =>
      rw [underway_some]
      split
      · exact .single (.dup [] v [])
      · exact Flows.follow [] o v []
  | ignored c o hc =>
    show Flows (underway hide o c.status) [o]
    rw [status_of_ignored hc]
    exact .refl
  | answer c o data =>
    rw [sentOut_pp_send, answers_winOpen (ha c rfl)]
    exact .refl

theorem values_receive (hide : Option Bool) (o : Bool) {v : CommunicationCommand}
    (hv : v.status = none) (d : Datagram) :
    Flows ([o] ++ (asked d).toList) (underway hide o (commandFor .IN d v).status) := by
  have hst : (commandFor .IN d v).status = asked d := by
    unfold asked commandFor
    cases known .IN d with
    | none => exact hv
    | some c => rfl
  rw [hst]
  cases asked d with
  | none => exact .refl
  | some w =>
    rw [underway_some]
    split
    · exact Flows.tail_of_cons o [w]
    · exact .refl

theorem filterMap_cons_toList {α β : Type*} (f : α → Option β) (a : α) (l : List α) :
    (a :: l).filterMap f = (f a).toList ++ l.filterMap f := by
  rw [List.filterMap_cons]
  cases f a <;> rfl

theorem asked_sent (cs : List WinCommand) :
    (cs.map putWin).filterMap asked = cs.map WinCommand.status := by
  induction cs with
  | nil => rfl
  | cons c cs ih => simp [asked_putWin, ih]

theorem below_sent (hide : Option Bool) (s : System) (p : Dialog) (flags : Flags)
    (cs : List WinCommand) :
    System.below hide { s with
      snapshot := none, flags := flags, commands := s.commands ++ cs.map putWin } p =
      s.below hide p ++ cs.map WinCommand.status := by
  simp only [System.below, List.filterMap_append, asked_sent, List.append_assoc]

theorem pipe_sent (hide : Option Bool) (s : System) (p : Dialog) (flags : Flags)
    (cs : List WinCommand) :
    System.pipe hide { s with
      snapshot := none, flags := flags, commands := s.commands ++ cs.map putWin } p =
      s.stored hide p ++ cs.map WinCommand.status := by
  simp [System.pipe, System.stored, below_sent]

/-- **What a step does to the pipe.** It is the end of a pass, or it leaves
the machine alone and only loses and doubles values, also in the part from
the window down. -/
theorem step_cases (hide : Option Bool) {s s' : System} {p : Dialog}
    (hs : SystemStep printF s s') (hp : s.node.At .IN p) (hw : s.node.window.Ok) :
    (∃ i, s.snapshot = some i.win_open_bo ∧
      s' = { s with
        snapshot := none
        flags := runTransitions i s.flags
        commands := s.commands ++ (assignments (runTransitions i s.flags)).map putWin }) ∨
    (s'.flags = s.flags ∧ ∃ p', s'.node.At .IN p' ∧ s'.node.window.Ok ∧
      Flows (s.pipe hide p) (s'.pipe hide p') ∧ Flows (s.below hide p) (s'.below hide p')) := by
  cases hs with
  | finish i hi => exact .inl ⟨i, hi, rfl⟩
  | read hn =>
    refine .inr ⟨rfl, p, hp, hw, ?_, .refl⟩
    simp only [System.pipe, hn]
    exact .single (.dup [] s.win_Open _)
  | getAll =>
    have hc : (s.commands ++ [getAll]).filterMap asked = s.commands.filterMap asked := by
      simp [asked_getAll]
    refine .inr ⟨rfl, p, hp, hw, ?_, ?_⟩
    · simp only [System.pipe, System.stored, System.below, hc]
      exact .refl
    · simp only [System.below, hc]
      exact .refl
  | loseCommand l₁ d l₂ hc =>
    have hbelow : Flows (s.below hide p)
        (System.below hide { s with commands := l₁ ++ l₂ } p) := by
      have := (Flows.lose_message asked l₁ d l₂).append (p.values hide s.node.isOpen) []
      simpa only [System.below, hc, List.append_nil] using this
    refine .inr ⟨rfl, p, hp, hw, ?_, hbelow⟩
    simpa only [System.pipe, System.stored, List.append_nil, List.append_assoc] using
      hbelow.append (s.snapshot.toList ++ s.win_Open :: s.reports.filterMap winOpen) []
  | loseReport l₁ m l₂ hr =>
    refine .inr ⟨rfl, p, hp, hw, ?_, .refl⟩
    have := (Flows.lose_message winOpen l₁ m l₂).append (s.snapshot.toList ++ [s.win_Open])
      (s.below hide p)
    simpa [System.pipe, System.stored, hr, System.below] using this
  | deliver m ms hr =>
    refine .inr ⟨rfl, p, hp, hw, ?_, .refl⟩
    simp only [System.pipe, System.stored, hr, filterMap_cons_toList]
    cases winOpen m with
    | none => exact .refl
    | some v =>
      have := (Flows.tail_of_cons s.win_Open [v]).append s.snapshot.toList
        (ms.filterMap winOpen ++ s.below hide p)
      simpa [System.below] using this
  | receive d ds n hc hn =>
    obtain ⟨p', hd, hp', hw'⟩ := dialog_step hp hw hn
    have hbelow : Flows (s.below hide p)
        (System.below hide { s with commands := ds, node := n } p') := by
      simp only [System.below, hc, filterMap_cons_toList]
      obtain ⟨v, rfl, rfl, ho⟩ := hd.of_received rfl
      rw [ho]
      have := (values_receive hide s.node.isOpen hp.2.2.2.2.1 d).append [] (ds.filterMap asked)
      simpa [Dialog.values] using this
    refine .inr ⟨rfl, p', hp', hw', ?_, hbelow⟩
    simpa only [System.pipe, System.stored, List.append_nil, List.append_assoc] using
      hbelow.append (s.snapshot.toList ++ s.win_Open :: s.reports.filterMap winOpen) []
  | node es n hn hr =>
    obtain ⟨p', hd, hp', hw'⟩ := dialog_step hp hw hn
    have hv := values_flows hide hd hr hp.replied_answered
    refine .inr ⟨rfl, p', hp', hw', ?_, ?_⟩
    · have := hv.append (s.snapshot.toList ++ s.win_Open :: s.reports.filterMap winOpen)
        (s.commands.filterMap asked)
      simpa [System.pipe, System.stored, System.below] using this
    · have := Flows.append (hv.trans (Flows.drop _ _)) [] (s.commands.filterMap asked)
      simpa [System.below] using this

end SmartWindow
