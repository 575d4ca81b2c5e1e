/-
The controller restarts. In `init` it sends Close until it reads a closed
window in Win_Open; what an earlier run has left there, and in the reports
in flight, it takes for news. `startup_closed_iff` says when the window is
closed nevertheless when the machine leaves `init`.
-/
import SmartWindow.System.Agreement

namespace SmartWindow

open OneHot Pipe

variable {printF : Int → Nat → Bytes}

/-- The controller has just restarted, in any state of the rest: any status
in Win_Open, any reports of the node on their way, any state of the node, and
in flight to it nothing but Close commands and requests for measurements. -/
structure System.Restarted (printF : Int → Nat → Bytes) (s : System) : Prop where
  flags : s.flags = Flags.start
  snapshot : s.snapshot = none
  reports : ∀ m ∈ s.reports, ∃ data c, m ∈ answers .IN printF data c
  reachable : s.node.Reachable printF
  commands : ∀ d ∈ s.commands, d = getAll ∨ d = putWin .Close

/-- A step after which the machine is in `init`. -/
def InitStep (printF : Int → Nat → Bytes) (s s' : System) : Prop :=
  SystemStep printF s s' ∧ s'.flags .init = true

/-! ## The node -/

theorem request_of_status {c : CommunicationCommand} (h : c.status = some true) :
    c = .START_OPEN_WINDOW := by
  cases c <;> first | rfl | cases h

/-- A command to open counts as done, so what is underway settles on closed. -/
theorem underway_settling (o : Bool) (st : Option Bool) :
    Settling false (underway (some true) o st) := by
  rcases st with _ | v
  · exact List.pairwise_singleton _ _
  · cases v with
    | false => exact Settling.snoc (List.pairwise_singleton _ o)
    | true => exact List.pairwise_singleton _ _

theorem underway_settled_iff {o : Bool} {st : Option Bool} :
    Settled false (underway (some true) o st) ↔ o = false ∧ st ≠ some true := by
  rcases st with _ | v
  · simp [underway, Settled]
  · cases v <;> simp [underway, Settled]

theorem replied_eq {o : Bool} {st : Option Bool} (h : st.getD o = o) :
    st.toList ++ [o] = [o] ∨ st.toList ++ [o] = [o, o] := by
  rcases st with _ | v
  · exact .inl rfl
  · obtain rfl : v = o := h
    exact .inr rfl

/-- Unless the node is carrying out an Open command, its part of the pipe settles on closed; while
it is, the window counts as open. -/
theorem values_settling {n : Node} {p : Dialog} (hp : n.At .IN p) :
    Settling false (p.values (some true) n.isOpen) := by
  cases p with
  | idle | stuck => exact List.pairwise_singleton _ _
  | requested c | serving c => exact underway_settling _ _
  | replying c | replied c =>
    show Settling false (c.status.toList ++ [n.isOpen])
    obtain h | h := replied_eq hp.2.2.2.2.1 <;> rw [h] <;> simp [Settling]

theorem values_settled {n : Node} {p : Dialog} (hp : n.At .IN p) (ho : n.isOpen = false)
    (hh : ¬ n.Handles .START_OPEN_WINDOW) : Settled false (p.values (some true) n.isOpen) := by
  cases p with
  | idle | stuck => simp [Dialog.values, Settled, ho]
  | requested c =>
    refine underway_settled_iff.2 ⟨ho, fun hc => hh (.inl ⟨hp.1, ?_⟩)⟩
    rw [hp.2.2.2.1, request_of_status hc]
  | serving c =>
    refine underway_settled_iff.2 ⟨ho, fun hc => hh (.inr ⟨hp.2.1, ?_⟩)⟩
    rw [hp.2.2.2.1, request_of_status hc]
  | replying c | replied c =>
    show Settled false (c.status.toList ++ [n.isOpen])
    obtain h | h := replied_eq hp.2.2.2.2.1 <;> rw [h] <;> simp [Settled, ho]

theorem closed_of_below {s : System} {p : Dialog} (hp : s.node.At .IN p)
    (h : Settled false (s.below (some true) p)) : s.node.Closed := by
  have hv : Settled false (p.values (some true) s.node.isOpen) :=
    fun a ha => h a (List.mem_append_left _ ha)
  have hopen : s.node.isOpen = false → s.node.window.b_openWindow = true := by simp [Node.isOpen]
  cases p with
  | idle | replying | replied => exact ⟨hopen (hv _ (by simp [Dialog.values])), hp.2.2.2.2.2⟩
  | stuck => exact ⟨hopen (hv _ (by simp [Dialog.values])), hp.2.2.2.2⟩
  | requested c => exact ⟨hopen (underway_settled_iff.1 hv).1, hp.2.2.2.2⟩
  | serving c =>
    obtain ⟨ho, hc⟩ := underway_settled_iff.1 hv
    refine ⟨hopen ho, ?_⟩
    cases hd : s.node.window.b_windowIsDriving with
    | false => rfl
    | true => exact absurd ((hp.2.2.2.2 hd).2.trans (congrArg some (hopen ho))) hc

/-! ## Runs in `init` -/

/-- Either no part of the pipe has seen the window closed before it is closed for good, or the
window is closed and stays so. -/
def System.Starting (s : System) : Prop :=
  s.flags = hot .init ∧ ∃ p, s.node.At .IN p ∧ s.node.window.Ok ∧
    (Settling false (s.pipe (some true) p) ∨ Settled false (s.below (some true) p))

theorem System.Starting.step {s s' : System} (h : s.Starting) (hs : InitStep printF s s') :
    s'.Starting := by
  obtain ⟨hq, p, hp, hw, hpipe⟩ := h
  obtain ⟨hs, hinit⟩ := hs
  rcases step_cases (some true) hs hp hw with ⟨i, hi, rfl⟩ | ⟨hf, p', hp', hw', hflow, hbelow⟩
  · simp only [hq, runTransitions_hot, assignments_hot] at hinit ⊢
    have hnext : next i .init = .init := ((hot_apply _ _).1 hinit).symm
    rw [hnext]
    refine ⟨rfl, p, hp, hw, ?_⟩
    rw [pipe_sent, below_sent]
    refine hpipe.imp (fun h => ?_) (fun h => ?_)
    · rw [System.pipe, hi] at h
      exact (Settling.tail h).snoc
    · exact h.append (by simp [command, WinCommand.status, Settled])
  · exact ⟨hf.trans hq, p', hp', hw', hpipe.imp (Settling.flows · hflow) (Settled.flows · hbelow)⟩

/-- The pass that leaves `init` finds the window closed. -/
theorem System.Starting.leave {s s' : System} (h : s.Starting) (hs : SystemStep printF s s')
    (hinit : s'.flags .init = false) : s'.node.Closed := by
  obtain ⟨hq, p, hp, hw, hpipe⟩ := h
  rcases step_cases (some true) hs hp hw with ⟨i, hi, rfl⟩ | ⟨hf, -⟩
  · simp only [hq, runTransitions_hot] at hinit
    have hw : i.win_open_bo = false := by
      cases h : i.win_open_bo with
      | false => rfl
      | true => rw [show next i .init = .init by simp [next, h], hot_self] at hinit; cases hinit
    refine closed_of_below (s := s) hp (hpipe.elim (fun h => ?_) id)
    rw [System.pipe, hi, hw] at h
    exact fun a ha => Settling.settled h a (by simp [System.stored, ha])
  · rw [hf, hq, hot_self] at hinit
    cases hinit

theorem commands_settled {s : System} (h : s.Restarted printF) :
    Settled false (s.commands.filterMap asked) := by
  intro v hv
  obtain ⟨d, hd, hv⟩ := List.mem_filterMap.1 hv
  obtain rfl | rfl := h.commands d hd
  · rw [asked_getAll] at hv; cases hv
  · rw [asked_putWin] at hv; cases hv; rfl

theorem answer_of_winOpen {data : MeasuredData} {c : CommunicationCommand} {m : Bytes}
    (hm : m ∈ answers .IN printF data c) (hw : winOpen m = some false) :
    m = WinCommand.text .Close := by
  cases c with
  | FINISH_MEASUREMENT =>
    simp only [answers, List.mem_cons, List.not_mem_nil, or_false] at hm
    rcases hm with rfl | rfl | rfl | rfl | rfl <;>
      (rw [winOpen_sendString .IN (by simp)] at hw; cases hw)
  | FINISH_OPEN_WINDOW =>
    obtain rfl := List.mem_singleton.1 hm
    rw [show SW_FINISH_OPEN_WINDOW = WinCommand.text .Open from rfl, winOpen_text] at hw
    cases hw
  | FINISH_CLOSE_WINDOW => exact List.mem_singleton.1 hm
  | START_MEASUREMENT | START_OPEN_WINDOW | START_CLOSE_WINDOW => cases hm

theorem System.Restarted.starting {s : System} (h : s.Restarted printF)
    (hcond : (s.win_Open = true ∧ WinCommand.text .Close ∉ s.reports) ∨
      (s.node.isOpen = false ∧ ¬ s.node.Handles .START_OPEN_WINDOW)) : s.Starting := by
  obtain ⟨p, hp, hw⟩ := h.reachable.at
  refine ⟨h.flags, p, hp, hw, hcond.imp (fun ⟨ho, hr⟩ => ?_) (fun ⟨ho, hh⟩ => ?_)⟩
  · have hup : ∀ v ∈ s.win_Open :: s.reports.filterMap winOpen, v ≠ false := by
      simp only [ho, List.mem_cons, List.mem_filterMap]
      intro v hx
      rcases hx with rfl | ⟨m, hm, hv⟩
      · simp
      · intro hx
        subst hx
        obtain ⟨data, c, hmc⟩ := h.reports m hm
        exact hr (answer_of_winOpen hmc hv ▸ hm)
    rw [System.pipe, h.snapshot]
    exact Settling.append_left (u := s.win_Open :: s.reports.filterMap winOpen) hup
      ((values_settling hp).append_right (commands_settled h))
  · exact (values_settled hp ho hh).append (commands_settled h)

/-! ## Runs that trust an old report -/

/-- What is settled in the node stays so while it works on its own. -/
theorem node_settled {v : Bool} {hide : Option Bool} {n n' : Node} {p : Dialog} (hp : n.At .IN p)
    (hw : n.window.Ok) (hv : Settled v (p.values hide n.isOpen))
    (h : Relation.ReflTransGen (Internal .IN printF) n n') :
    ∃ p', n'.At .IN p' ∧ Settled v (p'.values hide n'.isOpen) := by
  have hinv := Trans.reach_invariant
    (fun n : Node => ∃ p, n.At .IN p ∧ n.window.Ok ∧ Settled v (p.values hide n.isOpen))
    ⟨p, hp, hw, hv⟩ (fun n n' hn hs => ?_) h
  · obtain ⟨p', hp', -, hv'⟩ := hinv
    exact ⟨p', hp', hv'⟩
  · obtain ⟨p, hp, hw, hv⟩ := hn
    obtain ⟨es, hs, hr⟩ := hs
    obtain ⟨p', hd, hp', hw'⟩ := dialog_step hp hw hs
    have hflow := values_flows hide hd hr hp.replied_answered
    exact ⟨p', hp', hw', hv.flows (hflow.trans (Flows.drop _ _))⟩

theorem open_finishes (printF : Int → Nat → Bytes) {n : Node} {p : Dialog} (hp : n.At .IN p)
    (hw : n.window.Ok) (hh : n.Handles .START_OPEN_WINDOW) :
    ∃ n', Relation.ReflTransGen (Internal .IN printF) n n' ∧ n'.comm = .recvfrom ∧
      n'.isOpen = true := by
  obtain ⟨hl, hv⟩ : p.Live .IN ∧ Settled true (p.values (some true) n.isOpen) := by
    obtain rfl | rfl := of_handles hp hh <;>
      exact ⟨rfl, by simp [Dialog.values, underway, Settled, CommunicationCommand.status]⟩
  obtain ⟨n', hreach, hc⟩ := (serve_ends printF hp hw hl).reach
  obtain ⟨p', hp', hv'⟩ := node_settled hp hw hv hreach
  obtain ⟨v, rfl⟩ := idle_of_recvfrom hp' hc
  exact ⟨n', hreach, hc, hv' _ (by simp [Dialog.values])⟩

theorem node_run {s : System} {n : Node} (hq : s.flags .init = true)
    (h : Relation.ReflTransGen (Internal .IN printF) s.node n) :
    ∃ s', Relation.ReflTransGen (InitStep printF) s s' ∧ s'.node = n ∧ s'.flags = s.flags ∧
      s'.snapshot = s.snapshot ∧ s'.win_Open = s.win_Open := by
  induction h with
  | refl => exact ⟨s, .refl, rfl, rfl, rfl, rfl⟩
  | tail _ hs ih =>
    obtain ⟨s', hrun, rfl, hf, hsn, ho⟩ := ih
    obtain ⟨es, hs, hr⟩ := hs
    exact ⟨_, hrun.tail ⟨.node s' es _ hs hr, by rw [hf]; exact hq⟩, rfl, hf, hsn, ho⟩

theorem deliver_run (printF : Int → Nat → Bytes) {s : System} {l₁ l₂ : List Bytes} {m : Bytes}
    (hq : s.flags .init = true)
    (h : s.reports = l₁ ++ m :: l₂) :
    ∃ s', Relation.ReflTransGen (InitStep printF) s s' ∧ s'.node = s.node ∧ s'.flags = s.flags ∧
      s'.snapshot = s.snapshot ∧ s'.win_Open = (winOpen m).getD s.win_Open := by
  induction l₁ generalizing s with
  | nil => exact ⟨_, .single ⟨.deliver s m l₂ h, hq⟩, rfl, rfl, rfl, rfl⟩
  | cons x l₁ ih =>
    obtain ⟨s', hrun, hn, hf, hsn, ho⟩ := ih (s := { s with reports := l₁ ++ m :: l₂ }) hq rfl
    exact ⟨s', .head ⟨.loseReport s [] x (l₁ ++ m :: l₂) h, hq⟩ hrun, hn, hf, hsn, ho⟩

/-- With a closed status in Win_Open, the next pass leaves `init` whatever the window is. -/
theorem leave_run (printF : Int → Nat → Bytes) {s : System} (hq : s.flags = hot .init)
    (hn : s.snapshot = none) (ho : s.win_Open = false) :
    ∃ s₁ s', InitStep printF s s₁ ∧ SystemStep printF s₁ s' ∧ s'.flags .init = false ∧
      s'.node = s.node := by
  obtain ⟨s₁, s', hread, hf, hfin, hflags, hnode⟩ :=
    exists_pass printF (i := quiet) hq hn (by rw [ho]; rfl)
  refine ⟨s₁, s', ⟨hread, by rw [hf, hq]; exact hot_self _⟩, hfin, ?_, hnode⟩
  rw [hflags, show next quiet .init = state11 by decide]
  decide

/-- On every run from a restart, the pass that leaves `init` finds the window closed. -/
def System.StartsClosed (printF : Int → Nat → Bytes) (s₀ : System) : Prop :=
  ∀ s s', Relation.ReflTransGen (InitStep printF) s₀ s → SystemStep printF s s' →
    s'.flags .init = false → s'.node.Closed

/-- **Startup.** Whatever happens after a restart, the window is closed when
the machine leaves `init`, if and only if Win_Open says open and no report of
a Close is on its way, or the window is closed and the node is not carrying
out an Open command. -/
theorem startup_closed_iff {s₀ : System} (h₀ : s₀.Restarted printF) :
    s₀.StartsClosed printF ↔
      (s₀.win_Open = true ∧ WinCommand.text .Close ∉ s₀.reports) ∨
        (s₀.node.isOpen = false ∧ ¬ s₀.node.Handles .START_OPEN_WINDOW) := by
  have hq : s₀.flags = hot .init := h₀.flags
  have hinit : s₀.flags .init = true := by rw [hq]; exact hot_self _
  constructor
  · intro hall
    by_contra hne
    simp only [not_or, not_and, not_not] at hne
    obtain ⟨hstale, hopen⟩ := hne
    -- The stale status is read, or an old report makes it so.
    obtain ⟨s₁, hrun₁, hn₁, hf₁, hsn₁, ho₁⟩ : ∃ s₁, Relation.ReflTransGen (InitStep printF) s₀ s₁ ∧
        s₁.node = s₀.node ∧ s₁.flags = s₀.flags ∧ s₁.snapshot = s₀.snapshot ∧
        s₁.win_Open = false := by
      cases hw : s₀.win_Open with
      | false => exact ⟨s₀, .refl, rfl, rfl, rfl, hw⟩
      | true =>
        obtain ⟨l₁, l₂, hr⟩ := List.append_of_mem (hstale hw)
        obtain ⟨s₁, hrun, hn, hf, hsn, ho⟩ := deliver_run printF hinit hr
        exact ⟨s₁, hrun, hn, hf, hsn, by rw [ho, winOpen_text]; rfl⟩
    -- The window is open, or the node opens it first.
    obtain ⟨s₂, hrun₂, hopen₂, hf₂, hsn₂, ho₂⟩ : ∃ s₂,
        Relation.ReflTransGen (InitStep printF) s₁ s₂ ∧ s₂.node.isOpen = true ∧
        s₂.flags = s₁.flags ∧ s₂.snapshot = s₁.snapshot ∧ s₂.win_Open = s₁.win_Open := by
      cases ho : s₁.node.isOpen with
      | true => exact ⟨s₁, .refl, ho, rfl, rfl, rfl⟩
      | false =>
        obtain ⟨p, hp, hw⟩ := h₀.reachable.at
        rw [← hn₁] at hp hw hopen
        obtain ⟨n, hreach, -, hn⟩ := open_finishes printF hp hw (hopen ho)
        obtain ⟨s₂, hrun, rfl, hf, hsn, ho⟩ := node_run (by rw [hf₁]; exact hinit) hreach
        exact ⟨s₂, hrun, hn, hf, hsn, ho⟩
    obtain ⟨s₃, s', hread, hfin, hleave, hnode⟩ := leave_run printF
      (hf₂.trans (hf₁.trans hq)) (hsn₂.trans (hsn₁.trans h₀.snapshot)) (ho₂.trans ho₁)
    have hclosed := (hall s₃ s' ((hrun₁.trans hrun₂).tail hread) hfin hleave).isOpen
    rw [hnode, hopen₂] at hclosed
    cases hclosed
  · intro hcond s s' hrun hs hleave
    exact (Trans.reach_invariant System.Starting (h₀.starting hcond) (fun _ _ h hs => h.step hs)
      hrun).leave hs hleave

/-- The two programs started together. -/
theorem startup_first : System.start.StartsClosed fun v _ => printD v :=
  (startup_closed_iff ⟨rfl, rfl, by simp [System.start], ⟨_, _, [], .refl⟩,
    by simp [System.start]⟩).2 (.inr ⟨rfl, by simp [Node.Handles, System.start, Node.start]⟩)

theorem exists_open_node (printF : Int → Nat → Bytes) :
    ∃ n : Node, n.Reachable printF ∧ n.comm = .recvfrom ∧ n.isOpen = true := by
  have hp := Node.start_at (b := .IN) .START_MEASUREMENT ⟨0, 0, 0, 0, 0⟩
  obtain ⟨n₁, hs, hp₁, hw₁⟩ := hp.recvfrom printF (putWin .Open)
  rw [show commandFor .IN (putWin .Open) .START_MEASUREMENT = .START_OPEN_WINDOW by decide] at hp₁
  obtain ⟨n, hreach, hc, ho⟩ := open_finishes printF hp₁ (hw₁ ▸ Window.start_ok)
    (.inl ⟨hp₁.1, hp₁.2.2.2.1⟩)
  obtain ⟨es, hes, -⟩ := run_of_internal hreach
  exact ⟨n, ⟨_, _, _, (Trans.Run.one hs).trans hes⟩, hc, ho⟩

/-- Win_Open says closed while the window is open, its report having been
lost: the first pass leaves `init` and the window stays open. -/
theorem startup_open_window : ∃ s₀ : System, s₀.Restarted (fun v _ => printD v) ∧
    s₀.win_Open = false ∧ s₀.reports = [] ∧ s₀.commands = [] ∧ s₀.node.isOpen = true ∧
    s₀.node.comm = .recvfrom ∧ ¬ s₀.StartsClosed fun v _ => printD v := by
  obtain ⟨n, hn, hc, ho⟩ := exists_open_node fun v _ => printD v
  refine ⟨⟨.start, none, false, [], n, []⟩, ⟨rfl, rfl, by simp, hn, by simp⟩, rfl, rfl, rfl, ho, hc, ?_⟩
  intro hall
  obtain ⟨s, s', hread, hfin, hleave, hnode⟩ := leave_run (fun v _ => printD v)
    (s := ⟨.start, none, false, [], n, []⟩) rfl rfl rfl
  have hclosed := (hall s s' (.single hread) hfin hleave).isOpen
  rw [hnode] at hclosed
  exact absurd (ho.symm.trans hclosed) (by simp)

end SmartWindow
