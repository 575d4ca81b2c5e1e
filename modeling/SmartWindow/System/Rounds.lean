/-
Rounds without losses. After a pass every command and report that is under
way is delivered before the next pass begins, in whatever order the network
and the node's threads take (`Delivery`). Deliveries end, and they end with
the table Win_Open, the window and the state of the machine saying the same,
whatever was lost before (`pass_tends`, `Tends.settles`). So the window of the
whole system obeys the controller (`Rounds.obeys`), as the results about runs
of passes suppose of their window.
-/
import SmartWindow.Controller.Manual
import SmartWindow.System.Agreement

namespace SmartWindow

open OneHot Pipe

/-! ## Deliveries -/

/-- A step that only carries on what is under way: a message arrives, or the node goes on. -/
inductive Delivery (printF : Int → Nat → Bytes) : System → System → Prop
  | deliver (s : System) (m : Bytes) (ms : List Bytes) : s.reports = m :: ms →
    Delivery printF s { s with reports := ms, win_Open := (winOpen m).getD s.win_Open }
  | receive (s : System) (d : Datagram) (ds : List Datagram) (n : Node) : s.commands = d :: ds →
    NodeStep .IN printF s.node [.recvfrom d] n →
    Delivery printF s { s with commands := ds, node := n }
  | node (s : System) (es : List NodeEvent) (n : Node) : s.node.comm ≠ .recvfrom →
    NodeStep .IN printF s.node es n → received es = [] →
    Delivery printF s { s with node := n, reports := s.reports ++ sentOut es }

/-- Nothing is in flight, and the node waits for a datagram. -/
structure System.Quiet (s : System) : Prop where
  reports : s.reports = []
  commands : s.commands = []
  waits : s.node.comm = .recvfrom

variable {printF : Int → Nat → Bytes}

theorem Delivery.step {s s' : System} (h : Delivery printF s s') : SystemStep printF s s' := by
  cases h with
  | deliver m ms hr => exact .deliver s m ms hr
  | receive d ds n hc hn => exact .receive s d ds n hc hn
  | node es n _ hn hr => exact .node s es n hn hr

theorem Delivery.steps {s s' : System} (h : Relation.ReflTransGen (Delivery printF) s s') :
    Relation.ReflTransGen (SystemStep printF) s s' :=
  Relation.ReflTransGen.mono (fun _ _ => Delivery.step) _ _ h

theorem Delivery.machine {s s' : System} (h : Delivery printF s s') :
    s'.flags = s.flags ∧ s'.snapshot = s.snapshot := by
  cases h <;> exact ⟨rfl, rfl⟩

/-! ## The node keeps serving -/

theorem Node.At.unique {b : Build} {n : Node} {p p' : Dialog} (h : n.At b p) (hl : p.Live b)
    (h' : n.At b p') : p = p' := by
  cases p with
  | idle v =>
    obtain ⟨v', rfl⟩ := idle_of_recvfrom h' h.1
    rw [← h.2.2.2.1, ← h'.2.2.2.1]
  | requested c =>
    obtain ⟨c', rfl⟩ := requested_of_msg_send h' h.1
    rw [← h.2.2.2.1, ← h'.2.2.2.1]
  | serving c =>
    obtain ⟨c', rfl⟩ := serving_of_switch h' h.2.1
    rw [← h.2.2.2.1, ← h'.2.2.2.1]
  | replying c =>
    obtain ⟨c', rfl, hc⟩ := replying_of_msg_send h' h.2.1
    rw [finish_inj h.2.2.2.1 h'.2.2.2.1 hc]
  | replied c =>
    obtain ⟨c', rfl, hc, -⟩ := replied_of_queue h' h.2.2.1
    rw [finish_inj h.2.2.2.1 h'.2.2.2.1 hc]
  | stuck c => exact absurd hl id

/-- Every command in flight is one the node knows, and so is what it is doing. -/
structure System.Live (s : System) : Prop where
  known : ∀ d ∈ s.commands, known .IN d ≠ none
  dialog : ∃ p, s.node.At .IN p ∧ s.node.window.Ok ∧ p.Live .IN

theorem System.Live.step {s s' : System} (h : s.Live) (hs : SystemStep printF s s') : s'.Live := by
  obtain ⟨hknown, p, hp, hw, hl⟩ := h
  cases hs with
  | read | deliver | loseReport => exact ⟨hknown, p, hp, hw, hl⟩
  | finish i _ =>
    refine ⟨fun d hd => ?_, p, hp, hw, hl⟩
    rcases List.mem_append.1 hd with hd | hd
    · exact hknown d hd
    · obtain ⟨c, -, rfl⟩ := List.mem_map.1 hd
      cases c <;> decide
  | getAll =>
    refine ⟨fun d hd => ?_, p, hp, hw, hl⟩
    rcases List.mem_append.1 hd with hd | hd
    · exact hknown d hd
    · obtain rfl := List.mem_singleton.1 hd
      decide
  | loseCommand l₁ d l₂ hc =>
    refine ⟨fun d' hd' => hknown d' ?_, p, hp, hw, hl⟩
    rw [hc]
    exact ((List.sublist_cons_self d l₂).append_left l₁).subset hd'
  | receive d ds n hc hn =>
    obtain ⟨p', hd, hp', hw'⟩ := dialog_step hp hw hn
    obtain ⟨v, rfl, rfl, -⟩ := hd.of_received rfl
    refine ⟨fun d' hd' => hknown d' (by rw [hc]; exact List.mem_cons_of_mem _ hd'), _, hp', hw', ?_⟩
    exact answered_of_known v (hknown d (by simp [hc]))
  | node es n hn hr =>
    obtain ⟨p', hd, hp', hw'⟩ := dialog_step hp hw hn
    exact ⟨hknown, p', hp', hw', hd.live hl hr⟩

theorem System.Fresh.live {s : System} (h : s.Fresh printF) : s.Live := by
  obtain ⟨p, hp, hw⟩ := h.reachable.at
  obtain ⟨v, rfl⟩ := idle_of_recvfrom hp h.waits
  exact ⟨by simp [h.commands], _, hp, hw, trivial⟩

/-! ## Deliveries end -/

/-- A message on its way is worth a step, a step of the node the reports it may send besides, and a
command all that the node does for it. -/
def System.rank (s : System) : Nat := s.reports.length + 6 * s.node.rank + 7000 * s.commands.length

theorem length_sentOut {b : Build} {p p' : Dialog} {o o' : Bool} {es : List NodeEvent}
    (h : DialogStep b printF p o es p' o') : (sentOut es).length ≤ 5 := by
  cases h with
  | work _ _ _ _ hes | done _ _ _ _ hes => rw [sentOut_work hes]; simp
  | noDatagram | recvfrom | request | ignored | reply => simp [sentOut]
  | answer c o data =>
    rw [sentOut_pp_send]
    cases c <;> simp [answers, CommunicationCommand.finish]

theorem delivery_rank {s s' : System} (hl : s.Live) (h : Delivery printF s s') : s'.rank < s.rank := by
  obtain ⟨-, p, hp, hw, hl⟩ := hl
  cases h with
  | deliver m ms hr => simp [System.rank, hr]
  | receive d ds n hc hn =>
    obtain ⟨p', hd, hp', -⟩ := dialog_step hp hw hn
    obtain ⟨v, -, rfl, -⟩ := hd.of_received rfl
    have hrank : n.rank = 1000 := by simp [Node.rank, hp'.1]
    simp only [System.rank, hc, hrank, List.length_cons]
    omega
  | node es n hne hn _ =>
    obtain ⟨p', hd, -, -⟩ := dialog_step hp hw hn
    have hrank := rank_step hp hw hl hne hn
    have hsent := length_sentOut hd
    simp only [System.rank, List.length_append]
    omega

/-- As long as something is under way, there is a delivery. -/
theorem exists_delivery {s : System} (hl : s.Live) (hq : ¬ s.Quiet) :
    ∃ s', Delivery printF s s' := by
  obtain ⟨-, p, hp, hw, hl⟩ := hl
  by_cases hwaits : s.node.comm = .recvfrom
  · obtain ⟨v, rfl⟩ := idle_of_recvfrom hp hwaits
    rcases hr : s.reports with _ | ⟨m, ms⟩
    · rcases hc : s.commands with _ | ⟨d, ds⟩
      · exact absurd ⟨hr, hc, hwaits⟩ hq
      · obtain ⟨n, hn, -, -⟩ := hp.recvfrom printF d
        exact ⟨_, .receive s d ds n hc hn⟩
    · exact ⟨_, .deliver s m ms hr⟩
  · obtain ⟨n, hstep⟩ : ∃ n, Internal .IN printF s.node n := progress hp hw hl hwaits
    obtain ⟨es, hn, hr⟩ := hstep
    exact ⟨_, .node s es n hwaits hn hr⟩

/-! ## What they end with -/

/-- The window status a dialog has yet to bring about. -/
def Dialog.asks : Dialog → Option Bool
  | .requested c | .serving c => c.status
  | .idle _ | .replying _ | .replied _ | .stuck _ => none

/-- What Win_Open says when everything under way has arrived. -/
def System.finalReport (s : System) (p : Dialog) : Bool :=
  (s.reports.filterMap winOpen ++ (p.tells.toList ++ s.commands.filterMap asked)).getLastD s.win_Open

/-- The window status when the node has done everything under way. -/
def System.finalWindow (s : System) (p : Dialog) : Bool :=
  (s.commands.filterMap asked).getLastD (p.asks.getD s.node.isOpen)

theorem getLastD_toList_append {α : Type*} (x : Option α) (l : List α) (a : α) :
    (x.toList ++ l).getLastD a = l.getLastD (x.getD a) := by
  cases x with
  | none => rfl
  | some b => exact List.getLastD_cons

theorem DialogStep.asks {p p' : Dialog} {o o' : Bool} {es : List NodeEvent}
    (h : DialogStep .IN printF p o es p' o') (hl : p.Live .IN) (hr : received es = []) :
    p'.asks.getD o' = p.asks.getD o := by
  cases h with
  | noDatagram | request | reply | work | done | answer => rfl
  | recvfrom => cases hr
  | ignored c o hc => exact absurd hl (by simp [Dialog.Live, hc])

theorem asks_tells_requested {d : Datagram} (hd : known .IN d ≠ none) (v : CommunicationCommand) :
    (Dialog.requested (commandFor .IN d v)).asks = asked d ∧
      (Dialog.requested (commandFor .IN d v)).tells = asked d := by
  obtain ⟨c, hc⟩ := Option.ne_none_iff_exists'.1 hd
  simp [Dialog.asks, Dialog.tells, commandFor_known hc, asked, hc]

/-- Everything known, and when it has arrived, Win_Open and the window have the status `v`. -/
def System.Tends (v : Bool) (s : System) : Prop :=
  s.Live ∧ ∃ p, s.node.At .IN p ∧ s.node.window.Ok ∧ p.Live .IN ∧ s.finalReport p = v ∧
    s.finalWindow p = v

/-- No delivery changes what it all comes to. -/
theorem System.Tends.delivery {v : Bool} {s s' : System} (h : s.Tends v) (hs : Delivery printF s s') :
    s'.Tends v := by
  obtain ⟨hlive, p, hp, hw, hl, hreport, hwindow⟩ := h
  refine ⟨hlive.step hs.step, ?_⟩
  cases hs with
  | deliver m ms hr =>
    refine ⟨p, hp, hw, hl, ?_, hwindow⟩
    rw [← hreport]
    simp only [System.finalReport, hr, filterMap_cons_toList, List.append_assoc, getLastD_toList_append]
  | receive d ds n hc hn =>
    obtain ⟨p', hd, hp', hw'⟩ := dialog_step hp hw hn
    obtain ⟨v, rfl, rfl, ho⟩ := hd.of_received rfl
    have hknown := hlive.known d (by simp [hc])
    obtain ⟨hasks, htells⟩ := asks_tells_requested hknown v
    refine ⟨_, hp', hw', answered_of_known v hknown, ?_, ?_⟩
    · rw [← hreport]
      simp only [System.finalReport, hc, filterMap_cons_toList, htells]
      rfl
    · rw [← hwindow]
      simp only [System.finalWindow, hc, filterMap_cons_toList, hasks, getLastD_toList_append, ho]
      rfl
  | node es n _ hn hr =>
    obtain ⟨p', hd, hp', hw'⟩ := dialog_step hp hw hn
    have hasks := hd.asks hl hr
    have htells := hd.tells hr hp.replied_answered
    refine ⟨p', hp', hw', hd.live hl hr, ?_, ?_⟩
    · rw [← hreport]
      simp only [System.finalReport, List.filterMap_append, ← htells, List.append_assoc]
    · rw [← hwindow]
      simp only [System.finalWindow, hasks]

theorem System.Tends.of_quiet {v : Bool} {s : System} (h : s.Tends v) (hq : s.Quiet) :
    s.win_Open = v ∧ s.node.isOpen = v := by
  obtain ⟨-, p, hp, -, -, hreport, hwindow⟩ := h
  obtain ⟨c, rfl⟩ := idle_of_recvfrom hp hq.waits
  simp only [System.finalReport, System.finalWindow, hq.reports, hq.commands, Dialog.asks, Dialog.tells]
    at hreport hwindow
  exact ⟨hreport, hwindow⟩

/-- **Deliveries end**, in whatever order they come, with what the system tended to. -/
theorem System.Tends.settles {v : Bool} {s : System} (h : s.Tends v) :
    Trans.Inevitable (Delivery printF)
      (fun t => t.Quiet ∧ t.flags = s.flags ∧ t.snapshot = s.snapshot ∧ t.win_Open = v ∧
        t.node.isOpen = v) s := by
  refine .of_rank (fun t => t.Tends v ∧ t.flags = s.flags ∧ t.snapshot = s.snapshot) System.rank
    (fun t ht hne => ?_) (fun t t' ht _ hs => ?_) ⟨h, rfl, rfl⟩
  · obtain ⟨htends, hflags, hsnapshot⟩ := ht
    by_cases hq : t.Quiet
    · exact absurd ⟨hq, hflags, hsnapshot, htends.of_quiet hq⟩ hne
    · exact exists_delivery htends.1 hq
  · obtain ⟨htends, hflags, hsnapshot⟩ := ht
    obtain ⟨hf, hn⟩ := hs.machine
    exact ⟨⟨htends.delivery hs, hf.trans hflags, hn.trans hsnapshot⟩, delivery_rank htends.1 hs⟩

/-! ## A pass -/

/-- A pass without anything in between. -/
def System.pass (s : System) (i : Inputs) : System :=
  { s with
    flags := runTransitions i s.flags
    commands := s.commands ++ (assignments (runTransitions i s.flags)).map putWin }

theorem pass_steps {s : System} (hn : s.snapshot = none) {i : Inputs} (hi : i.win_open_bo = s.win_Open) :
    Relation.ReflTransGen (SystemStep printF) s (s.pass i) := by
  have hfinish : SystemStep printF { s with snapshot := some s.win_Open } _ :=
    .finish _ i (by simp [hi])
  have hpass : s.pass i = { s with
      snapshot := none
      flags := runTransitions i s.flags
      commands := s.commands ++ (assignments (runTransitions i s.flags)).map putWin } := by
    rw [System.pass, ← hn]
  rw [hpass]
  exact .tail (.single (.read s hn)) hfinish

/-- The window status a state waits for. -/
def Flag.wants : Flag → Bool
  | .state _ .opening | .state _ .opened => true
  | .init | .state0 | .state _ .closed | .state _ .closing => false

/-- A state either commands what it wants, or finds it everywhere. -/
theorem command_or_settled {q : Flag} {l : List Bool} (h : q.Expects l) :
    (∃ c : WinCommand, command q = [c] ∧ c.status = q.wants) ∨ (command q = [] ∧ Settled q.wants l) := by
  match q with
  | .init | .state _ .closing => exact .inl ⟨.Close, rfl, rfl⟩
  | .state _ .opening => exact .inl ⟨.Open, rfl, rfl⟩
  | .state0 | .state _ .closed | .state _ .opened => exact .inr ⟨rfl, h⟩

theorem final_of_settled {s : System} {p : Dialog} {v : Bool} (hp : s.node.At .IN p)
    (h : Settled v (s.pipe none p)) : s.finalReport p = v ∧ s.finalWindow p = v := by
  have hcommands : ∀ a ∈ s.commands.filterMap asked, a = v := by
    intro a ha
    refine h a ?_
    simp only [System.pipe, System.stored, System.below, List.mem_append, List.mem_cons]
    exact .inr (.inr (.inr ha))
  have hreports : ∀ a ∈ s.win_Open :: s.reports.filterMap winOpen, a = v := by
    intro a ha
    refine h a ?_
    simp only [System.pipe, System.stored, List.mem_append]
    exact .inr (.inl ha)
  have habout : ∀ (c : CommunicationCommand) (a : Bool), p.About c → c.status = some a → a = v :=
    fun c a hc ha => h a (mem_pipe_about hc ha)
  have hasks : ∀ a, p.asks = some a → a = v := by
    intro a ha
    cases p with
    | requested c | serving c => exact habout c a rfl ha
    | idle | replying | replied | stuck => cases ha
  have htells : ∀ a, p.tells = some a → a = v := by
    intro a ha
    cases p with
    | requested c | serving c | replying c | replied c => exact habout c a rfl ha
    | idle | stuck => cases ha
  constructor
  · have hmem := List.getLastD_mem_cons (a := s.win_Open)
      (l := s.reports.filterMap winOpen ++ (p.tells.toList ++ s.commands.filterMap asked))
    rw [← List.cons_append, List.mem_append, List.mem_append, Option.mem_toList] at hmem
    rcases hmem with hmem | hmem | hmem
    · exact hreports _ hmem
    · exact htells _ hmem
    · exact hcommands _ hmem
  · have hmem := List.getLastD_mem_cons (a := p.asks.getD s.node.isOpen) (l := s.commands.filterMap asked)
    rcases List.mem_cons.1 hmem with hmem | hmem
    · rw [System.finalWindow, hmem]
      cases ha : p.asks with
      | none => exact h _ (mem_pipe_window hp)
      | some a => exact hasks a ha
    · exact hcommands _ hmem

theorem final_of_command {s : System} {p : Dialog} {i : Inputs} {c : WinCommand}
    (hc : assignments (runTransitions i s.flags) = [c]) :
    (s.pass i).finalReport p = c.status ∧ (s.pass i).finalWindow p = c.status := by
  have hcommands : (s.pass i).commands.filterMap asked = s.commands.filterMap asked ++ [c.status] := by
    rw [System.pass, List.filterMap_append, hc, asked_sent]
    rfl
  constructor
  · rw [System.finalReport, hcommands, ← List.append_assoc, ← List.append_assoc, List.getLastD_concat]
  · rw [System.finalWindow, hcommands, List.getLastD_concat]

/-- **What a pass tends to**: in a system that agrees, everything comes to what the state the pass ends in
wants, whatever was lost before. -/
theorem pass_tends {s : System} (ha : s.Agrees) (hl : s.Live) (hn : s.snapshot = none) {i : Inputs}
    (hi : i.win_open_bo = s.win_Open) :
    ∃ q, s.flags = hot q ∧ q.Fits s.win_Open ∧ (s.pass i).flags = hot (next i q) ∧
      (s.pass i).Tends (next i q).wants ∧
      carryOut i.win_open_bo (command (next i q)) = (next i q).wants := by
  obtain ⟨q, p, hq, hp, hw, he⟩ := ha
  obtain ⟨p', hp', -, hlive⟩ := hl.dialog
  obtain rfl := hp'.unique hlive hp
  have hflags : (s.pass i).flags = hot (next i q) := by rw [System.pass, hq, runTransitions_hot]
  have hsteps : Relation.ReflTransGen (SystemStep fun v _ => printD v) s (s.pass i) := pass_steps hn hi
  have hlive' : (s.pass i).Live :=
    Trans.reach_invariant System.Live hl (fun _ _ h hs => h.step hs) hsteps
  have hfits : q.Fits s.win_Open := by
    have hhead : s.win_Open ∈ s.pipe none p' := by simp [System.pipe, System.stored]
    cases q with
    | init => trivial
    | state0 => exact he _ hhead
    | state f g =>
      cases g with
      | opening | closing => trivial
      | closed | opened => exact he _ hhead
  -- What the state the pass ends in expects, before its command is sent.
  have hpipe : s.pipe none p' = i.win_open_bo :: (s.reports.filterMap winOpen ++ s.below none p') := by
    rw [hi, System.pipe, hn]
    rfl
  rw [hpipe] at he
  refine ⟨q, hq, hfits, hflags, ?_⟩
  rcases command_or_settled (expects_next he) with ⟨c, hc, hwants⟩ | ⟨hc, hsettled⟩
  · have hfinal := final_of_command (s := s) (p := p') (i := i) (c := c)
      (by rw [hq, runTransitions_hot, assignments_hot, hc])
    rw [← hwants]
    exact ⟨⟨hlive', p', hp, hw, hlive, hfinal⟩, by simp [hc, carryOut]⟩
  · have hsame : (s.pass i).pipe none p' = s.pipe none p' := by
      simp only [System.pass, hq, runTransitions_hot, assignments_hot, hc, List.map_nil, List.append_nil]
      rfl
    have hfinal := final_of_settled (s := s.pass i) hp (by rw [hsame, hpipe]; exact hsettled)
    refine ⟨⟨hlive', p', hp, hw, hlive, hfinal⟩, ?_⟩
    rw [hc]
    exact hsettled _ List.mem_cons_self

/-- **After a pass the system settles.** From a fresh start, whatever has been lost and is under way when a
pass begins: if nothing is lost from then on, then, in whatever order the messages and the node's threads
go, everything arrives, and Win_Open, the window and the state of the machine agree. -/
theorem pass_settles {s₀ s : System} (h₀ : s₀.Fresh printF)
    (hs : Relation.ReflTransGen (SystemStep printF) s₀ s) (hn : s.snapshot = none) {i : Inputs}
    (hi : i.win_open_bo = s.win_Open) :
    ∃ q, (s.pass i).flags = hot q ∧ Trans.Inevitable (Delivery printF)
      (fun t => t.Quiet ∧ t.flags = hot q ∧ t.win_Open = q.wants ∧ t.node.isOpen = q.wants) (s.pass i) := by
  have ha := Trans.reach_invariant System.Agrees h₀.agrees (fun _ _ h hs => h.step hs) hs
  have hl := Trans.reach_invariant System.Live h₀.live (fun _ _ h hs => h.step hs) hs
  obtain ⟨q, -, -, hflags, htends, -⟩ := pass_tends ha hl hn hi
  refine ⟨next i q, hflags, ?_⟩
  refine htends.settles.mono fun t ht => ?_
  obtain ⟨hquiet, hf, -, hwin, hopen⟩ := ht
  exact ⟨hquiet, hf.trans hflags, hwin, hopen⟩

theorem System.start_fresh : System.start.Fresh fun v _ => printD v :=
  ⟨rfl, rfl, rfl, rfl, ⟨_, _, [], .refl⟩, rfl, rfl⟩

/-- The first pass, with the window to be opened by hand. -/
theorem first_pass_settles : ∃ q, Trans.Inevitable (Delivery fun v _ => printD v)
    (fun t => t.Quiet ∧ t.flags = hot q ∧ t.win_Open = q.wants ∧ t.node.isOpen = q.wants)
    (System.start.pass { quiet with autoMode_bo := false, manOpen_bo := true }) := by
  obtain ⟨q, -, hsettles⟩ := pass_settles System.start_fresh .refl rfl
    (i := { quiet with autoMode_bo := false, manOpen_bo := true }) rfl
  exact ⟨q, hsettles⟩

/-! ## Rounds -/

/-- A pass with the given readings, and then everything is delivered. -/
structure Round (printF : Int → Nat → Bytes) (x : LoopState × System) (r : Readings)
    (y : LoopState × System) : Prop where
  reads : r.win_open_bo = x.2.win_Open
  loop : y.1 = (decisionPass x.1 r).state
  delivered : Relation.ReflTransGen (Delivery printF) (x.2.pass (passInputs x.1 r)) y.2
  quiet : y.2.Quiet

/-- A loop and a system that agrees with it, between two passes. -/
structure Ready (x : LoopState × System) : Prop where
  flags : x.1.flags = x.2.flags
  snapshot : x.2.snapshot = none
  agrees : x.2.Agrees
  live : x.2.Live

theorem System.Tends.deliveries {v : Bool} {s s' : System} (h : s.Tends v)
    (hs : Relation.ReflTransGen (Delivery printF) s s') :
    s'.Tends v ∧ s'.flags = s.flags ∧ s'.snapshot = s.snapshot := by
  refine Trans.reach_invariant (fun t => t.Tends v ∧ t.flags = s.flags ∧ t.snapshot = s.snapshot)
    ⟨h, rfl, rfl⟩ (fun t t' ht hs => ?_) hs
  obtain ⟨hf, hn⟩ := hs.machine
  exact ⟨ht.1.delivery hs, hf.trans ht.2.1, hn.trans ht.2.2⟩

/-- One round: the window is as the pass commanded, and everything is ready for the next. -/
theorem Round.obeys {x y : LoopState × System} {r : Readings} (h : Round printF x r y) (hx : Ready x) :
    Ready y ∧ y.2.win_Open = carryOut r.win_open_bo (decisionPass x.1 r).sent ∧
      y.2.node.isOpen = y.2.win_Open := by
  obtain ⟨q, hq, -, hflags, htends, hcarry⟩ :=
    pass_tends hx.agrees hx.live hx.snapshot (i := passInputs x.1 r) h.reads
  obtain ⟨htends', hf, hn⟩ := htends.deliveries h.delivered
  obtain ⟨hwin, hopen⟩ := htends'.of_quiet h.quiet
  have hpass : Relation.ReflTransGen (SystemStep printF) x.2 (x.2.pass (passInputs x.1 r)) :=
    pass_steps hx.snapshot h.reads
  have hsteps := hpass.trans (Delivery.steps h.delivered)
  refine ⟨⟨?_, hn.trans hx.snapshot, ?_, htends'.1⟩, ?_, hopen.trans hwin.symm⟩
  · rw [h.loop, decisionPass_flags, hx.flags, hf]
    rfl
  · exact Trans.reach_invariant System.Agrees hx.agrees (fun _ _ h hs => h.step hs) hsteps
  · rw [decisionPass_sent, hx.flags, hq, runTransitions_hot, assignments_hot, hwin]
    exact hcarry.symm

theorem exists_round (printF : Int → Nat → Bytes) {x : LoopState × System} (hx : Ready x) (r : Readings) :
    ∃ y, Round printF x { r with win_open_bo := x.2.win_Open } y := by
  obtain ⟨q, -, -, -, htends, -⟩ := pass_tends hx.agrees hx.live hx.snapshot
    (i := passInputs x.1 { r with win_open_bo := x.2.win_Open }) rfl
  obtain ⟨t, ht, hquiet, -⟩ : ∃ t, Relation.ReflTransGen (Delivery printF) _ t ∧ _ := htends.settles.reach
  exact ⟨(_, t), rfl, rfl, ht, hquiet⟩

/-- A run of rounds, from any state that a fresh system comes to between two passes, by whatever losses. -/
structure Rounds (printF : Int → Nat → Bytes) (rs : Nat → Readings) (x : Nat → LoopState × System) :
    Prop where
  fresh : ∃ s₀, System.Fresh printF s₀ ∧ Relation.ReflTransGen (SystemStep printF) s₀ (x 0).2
  snapshot : (x 0).2.snapshot = none
  flags : (x 0).1.flags = (x 0).2.flags
  round : ∀ n, Round printF (x n) (rs n) (x (n + 1))

theorem Ready.of_fresh {s₀ : System} {x : LoopState × System} (h₀ : s₀.Fresh printF)
    (hs : Relation.ReflTransGen (SystemStep printF) s₀ x.2) (hn : x.2.snapshot = none)
    (hf : x.1.flags = x.2.flags) : Ready x where
  flags := hf
  snapshot := hn
  agrees := Trans.reach_invariant System.Agrees h₀.agrees (fun _ _ h hs => h.step hs) hs
  live := Trans.reach_invariant System.Live h₀.live (fun _ _ h hs => h.step hs) hs

/-- For any readings there are rounds, with the window status that Win_Open then holds. -/
theorem exists_rounds {s₀ : System} {x₀ : LoopState × System} (h₀ : s₀.Fresh printF)
    (hs : Relation.ReflTransGen (SystemStep printF) s₀ x₀.2) (hn : x₀.2.snapshot = none)
    (hf : x₀.1.flags = x₀.2.flags) (f : Nat → Readings) :
    ∃ rs x, x 0 = x₀ ∧ Rounds printF rs x ∧ ∀ n, rs n = { f n with win_open_bo := (rs n).win_open_bo } := by
  have hstep (n : Nat) (x : {x : LoopState × System // Ready x}) : ∃ y : {x : LoopState × System // Ready x},
      Round printF x.1 { f n with win_open_bo := x.1.2.win_Open } y.1 := by
    obtain ⟨y, hy⟩ := exists_round printF x.2 (f n)
    exact ⟨⟨y, (hy.obeys x.2).1⟩, hy⟩
  choose g hg using hstep
  let x : Nat → {x : LoopState × System // Ready x} := fun n =>
    Nat.rec ⟨x₀, .of_fresh h₀ hs hn hf⟩ (fun n y => g n y) n
  exact ⟨fun n => { f n with win_open_bo := (x n).1.2.win_Open }, fun n => (x n).1, rfl,
    ⟨⟨s₀, h₀, hs⟩, hn, hf, fun n => hg n (x n)⟩, fun _ => rfl⟩

theorem Ready.fits {x : LoopState × System} (hx : Ready x) :
    ∃ q a, x.1 = .at q a ∧ q.Fits x.2.win_Open := by
  obtain ⟨q, hq, hfits, -⟩ := pass_tends hx.agrees hx.live hx.snapshot
    (i := passInputs x.1 { firstRows with win_open_bo := x.2.win_Open }) rfl
  refine ⟨q, x.1.alarms, ?_, hfits⟩
  rw [LoopState.at, ← hq, ← hx.flags]

theorem System.Quiet.resting {s : System} (h : s.Quiet) (ha : s.Agrees) :
    s.node.window.b_windowIsDriving = false := by
  obtain ⟨-, p, -, hp, -⟩ := ha
  obtain ⟨v, rfl⟩ := idle_of_recvfrom hp h.waits
  exact hp.2.2.2.2.2

section

variable {rs : Nat → Readings} {x : Nat → LoopState × System} (h : Rounds printF rs x)

include h

theorem Rounds.ready (n : Nat) : Ready (x n) := by
  induction n with
  | zero =>
    obtain ⟨s₀, h₀, hs⟩ := h.fresh
    exact .of_fresh h₀ hs h.snapshot h.flags
  | succ n ih => exact ((h.round n).obeys ih).1

theorem Rounds.loop_eq (n : Nat) : (x n).1 = runFrom (x 0).1 rs n := by
  induction n with
  | zero => rfl
  | succ n ih => rw [(h.round n).loop, ih, runFrom]

theorem Rounds.obeys : WindowObeys (x 0).1 rs := by
  intro n
  obtain ⟨-, hwin, -⟩ := (h.round n).obeys (h.ready n)
  rw [(h.round (n + 1)).reads, hwin, h.loop_eq n]

theorem Rounds.window (n : Nat) : (x (n + 1)).2.node.isOpen = (rs (n + 1)).win_open_bo ∧
    (x (n + 1)).2.node.window.b_windowIsDriving = false := by
  obtain ⟨-, -, hopen⟩ := (h.round n).obeys (h.ready n)
  exact ⟨by rw [hopen, (h.round (n + 1)).reads],
    (h.round n).quiet.resting (h.ready (n + 1)).agrees⟩

theorem Rounds.closed {n : Nat} (hn : 0 < n) (hwin : (rs n).win_open_bo = false) :
    (x n).2.node.Closed := by
  obtain ⟨n, rfl⟩ := Nat.exists_eq_succ_of_ne_zero hn.ne'
  obtain ⟨hopen, hrest⟩ := h.window n
  exact ⟨by simpa [Node.isOpen, hwin] using hopen, hrest⟩

theorem Rounds.opened {n : Nat} (hn : 0 < n) (hwin : (rs n).win_open_bo = true) :
    (x n).2.node.Opened := by
  obtain ⟨n, rfl⟩ := Nat.exists_eq_succ_of_ne_zero hn.ne'
  obtain ⟨hopen, hrest⟩ := h.window n
  exact ⟨by simpa [Node.isOpen, hwin] using hopen, hrest⟩

end

theorem exists_first_rounds (f : Nat → Readings) : ∃ rs x, Rounds (fun v _ => printD v) rs x ∧
    ∀ n, rs n = { f n with win_open_bo := (rs n).win_open_bo } := by
  obtain ⟨rs, x, -, hrounds, hrs⟩ :=
    exists_rounds System.start_fresh (Relation.ReflTransGen.refl (a := (LoopState.start, System.start).2))
      rfl rfl f
  exact ⟨rs, x, hrounds, hrs⟩

/-- **The rounds of the system are a run of passes with a window that obeys.** -/
theorem rounds_obey {rs : Nat → Readings} {x : Nat → LoopState × System} (h : Rounds printF rs x) :
    WindowObeys (x 0).1 rs ∧ (∀ n, (x n).1 = runFrom (x 0).1 rs n) ∧
      ∀ n, (x (n + 1)).2.node.isOpen = (rs (n + 1)).win_open_bo ∧
        (x (n + 1)).2.node.window.b_windowIsDriving = false :=
  ⟨h.obeys, h.loop_eq, h.window⟩

theorem rounds_obey_sultry : ∃ (rs : Nat → Readings) (x : Nat → LoopState × System),
    (∀ n, (rs n).humid_in = sultry.humid_in) ∧ WindowObeys (x 0).1 rs ∧
    (∀ n, (x n).1 = runFrom (x 0).1 rs n) ∧
    ∀ n, (x (n + 1)).2.node.isOpen = (rs (n + 1)).win_open_bo ∧
      (x (n + 1)).2.node.window.b_windowIsDriving = false := by
  obtain ⟨rs, x, hrounds, hrs⟩ := exists_first_rounds fun _ => sultry
  exact ⟨rs, x, fun n => by rw [hrs n], rounds_obey hrounds⟩

/-- **Who closes by hand has a closed window** after two rounds and from then on, whatever the priorities,
the readings and the limits are. -/
theorem close_by_hand {rs : Nat → Readings} {x : Nat → LoopState × System} (h : Rounds printF rs x)
    (hhand : ∀ n, ByHand .Close (rs n)) {n : Nat} (hn : 2 ≤ n) : (x n).2.node.Closed := by
  obtain ⟨q, a, hs, hfits⟩ := (h.ready 0).fits
  rw [← (h.round 0).reads] at hfits
  exact h.closed (by omega) (closed_by_hand hs hfits h.obeys hhand hn)

theorem close_by_hand_sultry : ∃ (rs : Nat → Readings) (x : Nat → LoopState × System),
    (∀ n, (rs n).humid_in = sultry.humid_in) ∧
    (∀ n, ByHand .Close (rs n)) ∧ (x 2).2.node.Closed := by
  obtain ⟨rs, x, hrounds, hrs⟩ := exists_first_rounds fun _ =>
    { sultry with autoMode_bo := false, manClose_bo := true }
  have hhand (n : Nat) : ByHand .Close (rs n) := by
    rw [hrs n]
    exact ⟨rfl, rfl, rfl⟩
  exact ⟨rs, x, fun n => by rw [hrs n], hhand, close_by_hand hrounds hhand le_rfl⟩

/-- **Who opens by hand under priority 3 has an open window** after eight rounds and from then on, whatever
the readings and the limits are. -/
theorem open_by_hand {rs : Nat → Readings} {x : Nat → LoopState × System} (h : Rounds printF rs x)
    (hhand : ∀ n, ByHand .Open (rs n)) (hp : ∀ n, (rs n).priority = Family.all.priority) {n : Nat}
    (hn : 8 ≤ n) : (x n).2.node.Opened := by
  obtain ⟨q, a, hs, hfits⟩ := (h.ready 0).fits
  rw [← (h.round 0).reads] at hfits
  exact h.opened (by omega) (opened_by_hand hs hfits h.obeys hhand hp hn)

theorem open_by_hand_first : ∃ (rs : Nat → Readings) (x : Nat → LoopState × System),
    (∀ n, ByHand .Open (rs n)) ∧ (x 8).2.node.Opened := by
  obtain ⟨rs, x, hrounds, hrs⟩ := exists_first_rounds fun _ =>
    { firstRows with autoMode_bo := false, manOpen_bo := true }
  have hhand (n : Nat) : ByHand .Open (rs n) := by
    rw [hrs n]
    exact ⟨rfl, rfl, rfl⟩
  exact ⟨rs, x, hhand, open_by_hand hrounds hhand (fun n => by rw [hrs n]; rfl) le_rfl⟩

/-- **Under the priorities 0 to 2 no window stays open**: whatever the mode, the commands given by hand, the
readings and the limits are, it is closed again and again. -/
theorem no_window_stays_open {rs : Nat → Readings} {x : Nat → LoopState × System}
    (h : Rounds printF rs x) {f : Family} (hf : f ≠ .all) (hp : ∀ n, (rs n).priority = f.priority)
    (n : Nat) : ∃ m, n ≤ m ∧ (x m).2.node.Closed := by
  obtain ⟨q, a, hs, hfits⟩ := (h.ready 0).fits
  rw [← (h.round 0).reads] at hfits
  obtain ⟨m, hm, hwin⟩ := closed_again hs hfits h.obeys hf hp (n + 1)
  exact ⟨m, by omega, h.closed (by omega) hwin⟩

/-- Not even one that is opened by hand. -/
theorem no_window_stays_open_by_hand : ∃ (rs : Nat → Readings) (x : Nat → LoopState × System),
    (∀ n, ByHand .Open (rs n)) ∧
    ∃ m, 100 ≤ m ∧ (x m).2.node.Closed := by
  obtain ⟨rs, x, hrounds, hrs⟩ := exists_first_rounds fun _ =>
    { sultry with autoMode_bo := false, manOpen_bo := true }
  have hhand (n : Nat) : ByHand .Open (rs n) := by
    rw [hrs n]
    exact ⟨rfl, rfl, rfl⟩
  exact ⟨rs, x, hhand, no_window_stays_open hrounds (f := .humidity) (by decide)
    (fun n => by rw [hrs n]; rfl) 100⟩

/-- **In the automatic mode no window is left open**: whatever the priorities, the readings and the limits
are, in exact integers, of two rounds one after the other one ends with the window closed. The settings page
warns of a window that is "locked open" where all alarms are selected. -/
theorem automatic_closes {rs : Nat → Readings} {x : Nat → LoopState × System} (h : Rounds printF rs x)
    (hq : (x 0).1.alarms.airQ_alarm = false) (hauto : ∀ n, (rs n).autoMode_bo = true) {n : Nat}
    (hn : 0 < n) : (x n).2.node.Closed ∨ (x (n + 1)).2.node.Closed := by
  obtain ⟨q, a, hs, hfits⟩ := (h.ready 0).fits
  rw [← (h.round 0).reads] at hfits
  cases hopen : (rs n).win_open_bo with
  | false => exact .inl (h.closed hn hopen)
  | true => exact .inr (h.closed (by omega) (closed_after_open hs hfits h.obeys hq hauto hopen))

/-- With all alarms selected. -/
theorem automatic_closes_all : ∃ (rs : Nat → Readings) (x : Nat → LoopState × System),
    (∀ n, (rs n).priority = Family.all.priority) ∧
    ((x 2).2.node.Closed ∨ (x 3).2.node.Closed) := by
  obtain ⟨rs, x, hx, hrounds, hrs⟩ := exists_rounds System.start_fresh
    (Relation.ReflTransGen.refl (a := (LoopState.start, System.start).2)) rfl rfl fun _ => firstRows
  have hauto (n : Nat) : (rs n).autoMode_bo = true := by
    rw [hrs n]
    rfl
  exact ⟨rs, x, fun n => by rw [hrs n]; rfl,
    automatic_closes hrounds (by rw [hx]; rfl) hauto (by decide : 0 < 2)⟩

end SmartWindow
