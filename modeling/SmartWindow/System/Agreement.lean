/-
Agreement of the controller with the window. What each state of the machine
may expect of the pipe (`Flag.Expects`) is kept by every transition
statement on the value its pass has read, by the command the pass sends, and
by the losses and copies of the other steps; in the states that take the
window for closed, or open, it leaves no other value anywhere in the pipe
(`agreement`).
-/
import SmartWindow.System.View

namespace SmartWindow

open OneHot Pipe

/-! ## What a state expects -/

/-- What the pipe holds while the machine is in a state. Settled, every value
is the state's own; settling, what the state's command has reached stays. -/
def Flag.Expects (q : Flag) (l : List Bool) : Prop :=
  match q with
  | .state0 | .state _ .closed => Settled false l
  | .state _ .opening => Settling true l
  | .state _ .opened => Settled true l
  | .init | .state _ .closing => Settling false l

theorem Flag.Expects.flows {q : Flag} {l l' : List Bool} (h : q.Expects l) (hf : Flows l l') :
    q.Expects l' := by
  match q with
  | .state0 | .state _ .closed | .state _ .opened => exact Settled.flows h hf
  | .init | .state _ .opening | .state _ .closing => exact Settling.flows h hf

theorem expects_move {m : Move Flag Inputs} (hm : m ∈ transitions) {i : Inputs}
    (hg : m.guard i = true) {l : List Bool} (h : m.src.Expects (i.win_open_bo :: l)) :
    m.dst.Expects (i.win_open_bo :: l) := by
  rcases mem_transitions hm with rfl | ⟨f, hf⟩
  · have hw : i.win_open_bo = false := by simpa [transition0] using hg
    rw [hw] at h ⊢
    exact Settling.settled h
  · rw [block_eq] at hf
    simp only [List.mem_cons, List.not_mem_nil, or_false] at hf
    rcases hf with rfl | rfl | rfl | rfl | rfl | rfl | rfl
    · exact h
    · exact Settled.settling h true
    · have hw : i.win_open_bo = true := hg
      rw [hw] at h ⊢
      exact Settling.settled h
    · exact Settled.settling h false
    · have hw : i.win_open_bo = false := by simpa using hg
      rw [hw] at h ⊢
      exact Settling.settled h
    · exact Settled.settling h false
    · exact Settled.settling h false

theorem expects_next {q : Flag} {i : Inputs} {l : List Bool} (h : q.Expects (i.win_open_bo :: l)) :
    (next i q).Expects (i.win_open_bo :: l) := by
  rw [← nexts_transitions]
  exact nexts_invariant (fun q => q.Expects (i.win_open_bo :: l)) (fun m hm hg => expects_move hm hg) h

/-- The end of a pass: the value it has read leaves the pipe, its command enters. -/
theorem Flag.Expects.send {q : Flag} {w : Bool} {l : List Bool} (h : q.Expects (w :: l)) :
    q.Expects (l ++ (command q).map WinCommand.status) := by
  match q with
  | .state0 | .state _ .closed | .state _ .opened =>
    simp only [command, List.map_nil, List.append_nil]
    exact Settled.tail h
  | .init | .state _ .opening | .state _ .closing => exact Settling.snoc (Settling.tail h)

/-! ## The invariant -/

/-- The machine is in one state, and the pipe is as this state expects. -/
def System.Agrees (s : System) : Prop :=
  ∃ q p, s.flags = hot q ∧ s.node.At .IN p ∧ s.node.window.Ok ∧ q.Expects (s.pipe none p)

variable {printF : Int → Nat → Bytes}

theorem System.Agrees.step {s s' : System} (h : s.Agrees) (hs : SystemStep printF s s') :
    s'.Agrees := by
  obtain ⟨q, p, hq, hp, hw, he⟩ := h
  rcases step_cases none hs hp hw with ⟨i, hi, rfl⟩ | ⟨hf, p', hp', hw', hflow, -⟩
  · refine ⟨next i q, p, ?_, hp, hw, ?_⟩
    · simp only [hq, runTransitions_hot]
    · simp only [hq, runTransitions_hot, assignments_hot]
      rw [System.pipe, hi] at he
      rw [pipe_sent]
      exact (expects_next he).send
  · exact ⟨q, p', hf.trans hq, hp', hw', he.flows hflow⟩

/-! ## What a settled pipe says -/

theorem mem_pipe_window {s : System} {p : Dialog} (hp : s.node.At .IN p) :
    s.node.isOpen ∈ s.pipe none p := by
  have h : s.node.isOpen ∈ p.values none s.node.isOpen := by
    cases p with
    | idle | stuck | replying | replied => simp [Dialog.values]
    | requested c | serving c =>
      show _ ∈ underway none s.node.isOpen c.status
      cases c.status <;> simp [underway]
  simp [System.pipe, System.stored, System.below, h]

/-- A dialog about a request for the status `v`. -/
def Dialog.About (c : CommunicationCommand) : Dialog → Prop
  | .requested c' | .serving c' | .replying c' | .replied c' => c' = c
  | _ => False

theorem mem_pipe_about {s : System} {p : Dialog} {c : CommunicationCommand} {v : Bool}
    (hp : p.About c) (hc : c.status = some v) : v ∈ s.pipe none p := by
  have h : v ∈ p.values none s.node.isOpen := by
    cases p with
    | idle | stuck => exact absurd hp id
    | requested c' | serving c' =>
      cases hp
      show _ ∈ underway none s.node.isOpen c.status
      simp [hc, underway]
    | replying c' | replied c' => cases hp; simp [Dialog.values, hc]
  simp [System.pipe, System.stored, System.below, h]

theorem WinCommand.status_request (c : WinCommand) : c.request.status = some c.status := by
  cases c <;> rfl

theorem WinCommand.request_answered (c : WinCommand) : answered .IN c.request = true := by
  cases c <;> rfl

theorem of_handles {n : Node} {p : Dialog} {c : CommunicationCommand} (hp : n.At .IN p)
    (h : n.Handles c) : p = .requested c ∨ p = .serving c := by
  obtain ⟨hc, rfl⟩ | ⟨hm, rfl⟩ := h
  · obtain ⟨c, rfl⟩ := requested_of_msg_send hp hc
    exact .inl (by rw [hp.2.2.2.1])
  · obtain ⟨c, rfl⟩ := serving_of_switch hp hm
    exact .inr (by rw [hp.2.2.2.1])

theorem about_of_replies {n : Node} {p : Dialog} {c : CommunicationCommand} (hp : n.At .IN p)
    (hc : answered .IN c = true) (h : n.Replies c) : p.About c := by
  obtain hm | hq := h
  · obtain ⟨c', rfl, hfinish⟩ := replying_of_msg_send hp hm
    exact finish_inj hp.2.2.2.1 hc hfinish.symm
  · obtain ⟨c₁, q, hqueue⟩ := List.exists_cons_of_ne_nil (List.ne_nil_of_mem hq)
    obtain ⟨c', rfl, rfl, rfl⟩ := replied_of_queue hp hqueue
    rw [hqueue] at hq
    exact finish_inj hp.2.2.2.1 hc (List.mem_singleton.1 hq).symm

/-- A settled pipe: the window has the status, nothing moves it, and no command for the other
status, nor its report, is under way. -/
theorem settled_rest {s : System} {p : Dialog} {v : Bool} (hp : s.node.At .IN p)
    (h : Settled v (s.pipe none p)) :
    s.node.isOpen = v ∧ s.node.window.b_windowIsDriving = false ∧
      ∀ c : WinCommand, c.status ≠ v → ¬ s.InFlight c := by
  have ho := h _ (mem_pipe_window hp)
  refine ⟨ho, ?_, ?_⟩
  · cases hd : s.node.window.b_windowIsDriving with
    | false => rfl
    | true =>
      obtain ⟨c, rfl, -, hc⟩ := serving_of_driving hp hd
      have := h _ (mem_pipe_about (p := .serving c) rfl hc)
      simp only [Node.isOpen] at ho
      rw [this] at ho
      cases v <;> cases ho
  · intro c hc hin
    refine hc (h _ ?_)
    obtain hin | hin | hin | hin := hin
    · have : c.status ∈ s.commands.filterMap asked :=
        List.mem_filterMap.2 ⟨_, hin, asked_putWin c⟩
      simp [System.pipe, System.stored, System.below, this]
    · have : p.About c.request := by obtain rfl | rfl := of_handles hp hin <;> rfl
      exact mem_pipe_about this c.status_request
    · exact mem_pipe_about (about_of_replies hp c.request_answered hin) c.status_request
    · have : c.status ∈ s.reports.filterMap winOpen :=
        List.mem_filterMap.2 ⟨_, hin, winOpen_text c⟩
      simp [System.pipe, System.stored, this]

/-! ## Agreement -/

/-- The window is as the state of the machine takes it to be, and nothing under way says otherwise. -/
def System.InAgreement (s : System) : Prop :=
  ((s.flags .state0 = true ∨ ∃ f, s.flags (.state f .closed) = true) →
    s.node.Closed ∧ ¬ s.InFlight .Open) ∧
  ((∃ f, s.flags (.state f .opened) = true) → s.node.Opened ∧ ¬ s.InFlight .Close)

theorem System.Agrees.inAgreement {s : System} (h : s.Agrees) : s.InAgreement := by
  obtain ⟨q, p, hq, hp, -, he⟩ := h
  constructor
  · intro h
    have hset : Settled false (s.pipe none p) := by
      simp only [hq, hot_apply] at h
      obtain rfl | ⟨f, rfl⟩ := h <;> exact he
    obtain ⟨ho, hd, hin⟩ := settled_rest hp hset
    exact ⟨⟨by simpa [Node.isOpen] using ho, hd⟩, hin .Open (by decide)⟩
  · intro h
    have hset : Settled true (s.pipe none p) := by
      simp only [hq, hot_apply] at h
      obtain ⟨f, rfl⟩ := h
      exact he
    obtain ⟨ho, hd, hin⟩ := settled_rest hp hset
    exact ⟨⟨by simpa [Node.isOpen] using ho, hd⟩, hin .Close (by decide)⟩

/-- The controller has just started, nothing is in flight, the node waits
for a command, and Win_Open holds the window's status. -/
structure System.Fresh (printF : Int → Nat → Bytes) (s : System) : Prop where
  flags : s.flags = Flags.start
  snapshot : s.snapshot = none
  reports : s.reports = []
  commands : s.commands = []
  reachable : s.node.Reachable printF
  waits : s.node.comm = .recvfrom
  status : s.win_Open = s.node.isOpen

theorem Node.Reachable.at {n : Node} (h : n.Reachable printF) :
    ∃ p, n.At .IN p ∧ n.window.Ok := by
  obtain ⟨mainCommand, data, tr, hr⟩ := h
  obtain ⟨p, hp, hw, -⟩ := run_told hr
  exact ⟨p, hp, hw⟩

theorem System.Fresh.agrees {s : System} (h : s.Fresh printF) : s.Agrees := by
  obtain ⟨p, hp, hw⟩ := h.reachable.at
  obtain ⟨v, rfl⟩ := idle_of_recvfrom hp h.waits
  refine ⟨.init, .idle v, h.flags, hp, hw, ?_⟩
  show Settling false (s.pipe none (.idle v))
  simp [System.pipe, System.stored, System.below, Dialog.values, h.snapshot, h.reports, h.commands,
    h.status, Settling]

theorem System.Fresh.inAgreement {s₀ s : System} (h₀ : s₀.Fresh printF)
    (hs : Relation.ReflTransGen (SystemStep printF) s₀ s) : s.InAgreement :=
  (Trans.reach_invariant System.Agrees h₀.agrees (fun _ _ h hs => h.step hs) hs).inAgreement

/-- **Agreement.** From a fresh start, whatever the schedule, the losses and
the other inputs are: in `state0` and the closed states the node's window is
closed and no Open command or report is under way, and in the open states
the window is open and no Close command or report is. -/
theorem agreement {s₀ s : System} (h₀ : s₀.Fresh printF)
    (hs : Relation.ReflTransGen (SystemStep printF) s₀ s) :
    ((s.flags .state0 = true ∨ ∃ f, s.flags (.state f .closed) = true) →
      s.node.Closed ∧ ¬ s.InFlight .Open) ∧
    ((∃ f, s.flags (.state f .opened) = true) → s.node.Opened ∧ ¬ s.InFlight .Close) :=
  h₀.inAgreement hs

def System.start : System :=
  ⟨.start, none, false, [], .start .START_MEASUREMENT ⟨0, 0, 0, 0, 0⟩, []⟩

/-- The inputs of a quiet pass under priority 0. -/
def quiet : Inputs := ⟨true, false, false, false, 0, .off⟩

/-- After the first quiet pass the machine is in `state11`. -/
theorem agreement_first_pass :
    ∃ s, Relation.ReflTransGen (SystemStep fun v _ => printD v) .start s ∧
      s.flags state11 = true ∧ s.node.Closed ∧ ¬ s.InFlight .Open := by
  obtain ⟨s₁, s, hread, -, hfin, hflags, -⟩ := exists_pass (fun v _ => printD v)
    (s := .start) (q := .init) (i := quiet) rfl rfl rfl
  rw [show next quiet .init = state11 by decide] at hflags
  have hrun := (Relation.ReflTransGen.single hread).tail hfin
  have hfresh : System.start.Fresh fun v _ => printD v :=
    ⟨rfl, rfl, rfl, rfl, ⟨_, _, [], .refl⟩, rfl, rfl⟩
  have hflag : s.flags state11 = true := by rw [hflags]; exact hot_self _
  exact ⟨s, hrun, hflag, (agreement hfresh hrun).1 (.inr ⟨.humidity, hflag⟩)⟩

end SmartWindow
