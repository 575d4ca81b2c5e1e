/-
When packets and replies do not get mixed up in the one queue they share. As
long as packets come in only where the node can take them (`Node.Calm`), it
is the node of `Node.Model` (`calm_run`), and every answer belongs to the
command being served. A packet that comes in anywhere else is taken for a
reply sooner or later (`belongs_iff`).
-/
import SmartWindow.Node.Packets

namespace SmartWindow.Packets

variable {printF : Int → Nat → Bytes}

/-! ## One step -/

theorem Node.start_fine (mainCommand : CommunicationCommand) (data : MeasuredData) :
    (Node.start mainCommand data).Fine (.idle .START_MEASUREMENT) :=
  ⟨Node.start_at mainCommand data, Window.start_ok, trivial, .inl rfl⟩

theorem Node.start_known (mainCommand : CommunicationCommand) (data : MeasuredData) :
    (Node.start mainCommand data).Known :=
  ⟨by simp [Node.start], nofun⟩

/-- A packet changes nothing but the queue, and there only what `forget` leaves out. -/
theorem Node.forget_enqueue (n : Node) (d : Datagram) : (n.enqueue d).forget = n.forget := by
  unfold enqueue
  split
  · simp [forget, Message.value]
  · rfl

theorem Node.Tidy.length_le {n : Node} {p : Dialog} (h : n.Tidy p) : n.pp_msg_queue.length ≤ 2 := by
  cases p with
  | idle v => rcases h with h | ⟨d, h⟩ <;> simp [h]
  | requested c | serving c | replying c => rw [show n.pp_msg_queue = [] from h]; simp
  | replied c => rcases h with h | ⟨d, h⟩ <;> simp [h]
  | stuck c => cases h

theorem Node.Tidy.enqueue {n : Node} {p : Dialog} (h : n.Tidy p) (d : Datagram) :
    n.enqueue d = { n with pp_msg_queue := n.pp_msg_queue ++ [.packet d] } := by
  have hlen := h.length_le
  exact if_pos (by simp only [PP_MSG_QUEUE_SIZE]; omega)

theorem Node.Fine.enqueue {n : Node} {p : Dialog} (h : n.Fine p) (d : Datagram) (hcalm : n.Calm) :
    (n.enqueue d).Fine p := by
  obtain ⟨hnone, hwhere⟩ := hcalm
  refine ⟨by rw [n.forget_enqueue d]; exact h.at_dialog, by rw [h.tidy.enqueue d]; exact h.window, h.live,
    ?_⟩
  rw [h.tidy.enqueue d]
  have htidy := h.tidy
  cases p with
  | idle v =>
    rcases htidy with hq | ⟨d', hq⟩
    · exact .inr ⟨d, by rw [hq]; rfl⟩
    · exact absurd (by simp [hq]) (hnone d')
  | requested c | serving c | replying c =>
    rcases hwhere with hc | hne
    · exact absurd (h.at_dialog.1.symm.trans hc) (by decide)
    · exact absurd htidy hne
  | replied c =>
    rcases htidy with hq | ⟨d', hq⟩
    · exact .inr ⟨d, by rw [hq]; rfl⟩
    · exact absurd (by simp [hq]) (hnone d')
  | stuck c => cases htidy

/-- Where a step of the program leads a fine node. -/
theorem Node.Fine.of_step {n n' : Node} {es : List NodeEvent} {p : Dialog} (h : n.Fine p)
    (hs : SmartWindow.NodeStep .IN printF n.forget es n'.forget) (hr : received es = [])
    (htidy : ∀ o es p' o', DialogStep .IN printF p o es p' o' → p'.Live .IN → n'.Tidy p') :
    ∃ p', n'.Fine p' := by
  obtain ⟨p', hd, hat, hw⟩ := dialog_step h.at_dialog h.window hs
  have hlive := hd.live h.live hr
  exact ⟨p', hat, hw, hlive, htidy _ _ _ _ hd hlive⟩

section

variable {n n' : Node} {p : Dialog}

theorem Node.Fine.recvfrom {d : Datagram} {q : List Message} (h : n.Fine p) (hk : known .IN d ≠ none)
    (hc : n.comm = .recvfrom) (hq : n.pp_msg_queue = .packet d :: q)
    (hn : n' = { n with
      comm := .msg_send
      communicationCommand := (known .IN d).or n.communicationCommand
      pp_msg_queue := q }) :
    (∃ p', n'.Fine p') ∧ SmartWindow.NodeStep .IN printF n.forget [.recvfrom d] n'.forget := by
  obtain ⟨c, hk⟩ := Option.ne_none_iff_exists'.1 hk
  obtain ⟨v, rfl⟩ := idle_of_recvfrom h.at_dialog hc
  obtain ⟨-, hm, -, -, -, hrest⟩ := h.at_dialog
  obtain rfl : q = [] := by
    rcases h.tidy with ht | ⟨d', ht⟩
    · simp [ht] at hq
    · rw [ht] at hq
      exact (List.cons.inj hq).2.symm
  have hforget : n'.forget = { n.forget with
      comm := .msg_send
      communicationCommand := commandFor .IN d n.forget.communicationCommand } := by
    simp [hn, forget, commandFor_known hk, hk, hq, Message.value]
  have hcommand : commandFor .IN d n.forget.communicationCommand = c := commandFor_known hk
  refine ⟨⟨.requested c, ?_, by rw [hn]; exact h.window, known_answered hk, by rw [hn]; rfl⟩,
    by rw [hforget]; exact .recvfrom n.forget d hc⟩
  rw [hforget]
  exact ⟨rfl, hm, by simp [forget, hq, Message.value], hcommand, hrest⟩

theorem Node.Fine.request {c : CommunicationCommand} (h : n.Fine p) (hc : n.comm = .msg_send)
    (hm : n.main = .msg_receive) (hcommand : n.communicationCommand = some c)
    (hn : n' = { n with
      comm := .msg_receive, main := .switch, mainCommand := c, requests := n.requests + 1 }) :
    (∃ p', n'.Fine p') ∧ SmartWindow.NodeStep .IN printF n.forget [.request c] n'.forget := by
  have hstep : SmartWindow.NodeStep .IN printF n.forget [.request c] n'.forget := by
    have : SmartWindow.NodeStep .IN printF n.forget _ _ := .request n.forget hc hm
    rw [hn]
    simpa [forget, hcommand] using this
  obtain ⟨c', rfl⟩ := requested_of_msg_send h.at_dialog hc
  refine ⟨h.of_step hstep rfl (fun o es p' o' hd _ => ?_), hstep⟩
  cases hd with
  | request => rw [hn]; exact h.tidy

theorem Node.Fine.turn {m : MeasuredData} (h : n.Fine p) (hm : n.main = .switch)
    (hn : n' = { n with
      main := match (SmartWindow.turn .IN n.window n.data m n.mainCommand).reply with
        | some c => .msg_send c
        | none => loopHead (SmartWindow.turn .IN n.window n.data m n.mainCommand).window
      mainCommand := (SmartWindow.turn .IN n.window n.data m n.mainCommand).communicationCommand
      window := (SmartWindow.turn .IN n.window n.data m n.mainCommand).window
      data := (SmartWindow.turn .IN n.window n.data m n.mainCommand).data }) :
    (∃ p', n'.Fine p') ∧ SmartWindow.NodeStep .IN printF n.forget
      (SmartWindow.turn .IN n.window n.data m n.mainCommand).events n'.forget := by
  have hstep : SmartWindow.NodeStep .IN printF n.forget
      (SmartWindow.turn .IN n.window n.data m n.mainCommand).events n'.forget := by
    rw [hn]
    exact .turn n.forget m hm
  obtain ⟨c, rfl⟩ := serving_of_switch h.at_dialog hm
  obtain ⟨-, -, -, rfl, hd⟩ := h.at_dialog
  have hwork := (turn_serves (b := .IN) h.window (fun hdr => (hd hdr).2) n.data m h.live).1
  refine ⟨h.of_step hstep (received_work hwork) (fun o es p' o' hd hlive => ?_), hstep⟩
  have htidy : n'.pp_msg_queue = [] := by rw [hn]; exact h.tidy
  cases hd with
  | work | done => exact htidy
  | ignored => cases hlive

theorem Node.Fine.reply {c : CommunicationCommand} (h : n.Fine p) (hm : n.main = .msg_send c)
    (hn : n' = { n with
      main := loopHead n.window, pp_msg_queue := n.pp_msg_queue ++ [.reply n.requests c] }) :
    (∃ p', n'.Fine p') ∧ SmartWindow.NodeStep .IN printF n.forget [.reply c] n'.forget := by
  obtain ⟨c', rfl, rfl⟩ := replying_of_msg_send h.at_dialog hm
  have hnil : n.pp_msg_queue = [] := h.tidy
  have hstep : SmartWindow.NodeStep .IN printF n.forget [.reply c'.finish] n'.forget := by
    have : SmartWindow.NodeStep .IN printF n.forget _ _ :=
      .reply n.forget c'.finish hm (by simp [forget, hnil, PP_MSG_QUEUE_SIZE])
    rw [hn]
    simpa [forget, Message.value] using this
  refine ⟨h.of_step hstep rfl (fun o es p' o' hd _ => ?_), hstep⟩
  cases hd with
  | reply =>
    left
    rw [hn, hnil]
    rfl

/-- What is taken as a reply is the reply to the last request, and it is answered as before. -/
theorem Node.Fine.take (printF : Int → Nat → Bytes) {m : Message} {q : List Message} (h : n.Fine p)
    (hc : n.comm = .msg_receive) (hq : n.pp_msg_queue = m :: q)
    (hn : n' = { n with comm := .recvfrom, communicationCommand := m.value, pp_msg_queue := q }) :
    (∃ p', n'.Fine p') ∧ ∃ c, m = .reply n.requests c ∧
      SmartWindow.NodeStep .IN printF n.forget ((answers .IN printF n.data c).map .pp_send) n'.forget := by
  cases p with
  | replied c =>
    obtain ⟨-, hm, hforget, -⟩ := h.at_dialog
    have hhead : m = .reply n.requests c.finish ∧ (q = [] ∨ ∃ d, q = [.packet d]) := by
      rcases h.tidy with ht | ⟨d, ht⟩
      · rw [ht] at hq
        cases hq
        exact ⟨rfl, .inl rfl⟩
      · rw [ht] at hq
        cases hq
        exact ⟨rfl, .inr ⟨d, rfl⟩⟩
    obtain ⟨rfl, hrest⟩ := hhead
    have hstep : SmartWindow.NodeStep .IN printF n.forget
        ((answers .IN printF n.data c.finish).map .pp_send) n'.forget := by
      have : SmartWindow.NodeStep .IN printF n.forget _ _ := .answer n.forget c.finish [] hc hforget
      have hnone : q.filterMap Message.value = [] := by
        rcases hrest with rfl | ⟨d, rfl⟩ <;> rfl
      rw [hn]
      simpa [forget, hnone, Message.value] using this
    refine ⟨h.of_step hstep (received_pp_send _) (fun o es p' o' hd _ => ?_), _, rfl, hstep⟩
    cases hd with
    | answer => rw [hn]; exact hrest
  | idle | requested => exact absurd (h.at_dialog.1.symm.trans hc) (by decide)
  | serving | replying | stuck =>
    have ht := h.tidy
    simp [Tidy, hq] at ht

end

/-- **One step of a fine node**: it leads to a fine node, the node without packets does it too, and what
it takes as a reply is one. -/
theorem Node.Fine.step {n n' : Node} {es : List Event} {p : Dialog} (h : n.Fine p) (hknown : n.Known)
    (hs : CalmStep printF n es n') :
    (∃ p', n'.Fine p') ∧
      Trans.Run (SmartWindow.NodeStep .IN printF) n.forget (nodeEvents es) n'.forget ∧
      ∀ k m, .took k m ∈ es → ∃ c, m = .reply k c := by
  obtain ⟨hs, hcalm⟩ := hs
  cases hs with
  | arrive d hd =>
    refine ⟨⟨p, h.enqueue d (hcalm d (by simp))⟩, ?_, by simp⟩
    rw [n.forget_enqueue d]
    exact .refl
  | noDatagram hc => exact ⟨⟨p, h⟩, .refl, by simp⟩
  | requeue k c q hc hq =>
    obtain ⟨v, rfl⟩ := idle_of_recvfrom h.at_dialog hc
    rcases h.tidy with ht | ⟨d, ht⟩ <;> simp [ht] at hq
  | recvfrom d q hc hq =>
    obtain ⟨hfine, hstep⟩ := h.recvfrom (hknown.packets d (by simp [hq])) hc hq rfl
    exact ⟨hfine, .one hstep, by simp⟩
  | request c hc hm hcommand =>
    obtain ⟨hfine, hstep⟩ := h.request hc hm hcommand rfl
    exact ⟨hfine, .one hstep, by simp⟩
  | turn m hm =>
    obtain ⟨hfine, hstep⟩ := h.turn hm rfl
    exact ⟨hfine, by rw [nodeEvents_map]; exact .one hstep, by simp⟩
  | reply c hm hlen =>
    obtain ⟨hfine, hstep⟩ := h.reply hm rfl
    exact ⟨hfine, .one hstep, by simp⟩
  | take m q hc hq =>
    obtain ⟨hfine, c, rfl, hstep⟩ := h.take printF hc hq rfl
    have hevents : nodeEvents (.took n.requests (.reply n.requests c) ::
        ((Message.reply n.requests c).value.elim [] (answers .IN printF n.data)).map
          fun data => .node (.pp_send data)) = (answers .IN printF n.data c).map .pp_send := by
      simp [nodeEvents, Message.value]
    exact ⟨hfine, by rw [hevents]; exact .one hstep, by simp⟩

theorem Node.Known.step {n n' : Node} {es : List Event} (h : n.Known) (hs : NodeStep printF n es n') :
    n'.Known := by
  cases hs with
  | arrive d hd =>
    unfold enqueue
    split
    · refine ⟨fun d' hd' => ?_, h.command⟩
      rcases List.mem_append.1 hd' with hd' | hd'
      · exact h.packets d' hd'
      · obtain rfl : d' = d := by simpa using hd'
        exact hd
    · exact h
  | noDatagram hc => exact h
  | requeue k c q hc hq =>
    refine ⟨fun d hd => h.packets d ?_, h.command⟩
    rcases List.mem_append.1 hd with hd | hd
    · simp [hq, hd]
    · simp at hd
  | recvfrom d q hc hq =>
    have hd := h.packets d (by simp [hq])
    refine ⟨fun d' hd' => h.packets d' (by simp [hq, hd']), fun _ => ?_⟩
    obtain ⟨c, hk⟩ := Option.ne_none_iff_exists'.1 hd
    simp [hk]
  | request c hc hm hcommand => exact ⟨h.packets, nofun⟩
  | turn m hm => exact ⟨h.packets, h.command⟩
  | reply c hm hlen =>
    refine ⟨fun d hd => h.packets d ?_, h.command⟩
    rcases List.mem_append.1 hd with hd | hd
    · exact hd
    · simp at hd
  | take m q hc hq => exact ⟨fun d hd => h.packets d (by simp [hq, hd]), nofun⟩

/-! ## Runs in which packets come in where they can -/

/-- **A calm run is a run of the node without packets**, and takes nothing but replies for replies. -/
theorem calm_run {mainCommand : CommunicationCommand} {data : MeasuredData} {tr : List Event} {n : Node}
    (h : Trans.Run (CalmStep printF) (.start mainCommand data) tr n) :
    n.Known ∧ (∃ p, n.Fine p) ∧
      Trans.Run (SmartWindow.NodeStep .IN printF) (.start mainCommand data) (nodeEvents tr) n.forget ∧
      ∀ k m, .took k m ∈ tr → ∃ c, m = .reply k c := by
  induction h with
  | refl =>
    exact ⟨Node.start_known mainCommand data, ⟨_, Node.start_fine mainCommand data⟩, .refl, by simp⟩
  | snoc _ hs ih =>
    obtain ⟨hknown, ⟨p, hfine⟩, hrun, htook⟩ := ih
    obtain ⟨hfine', hstep, htook'⟩ := hfine.step hknown hs
    refine ⟨hknown.step hs.1, hfine', by rw [nodeEvents_append]; exact hrun.trans hstep, fun k m hm => ?_⟩
    rcases List.mem_append.1 hm with hm | hm
    · exact htook k m hm
    · exact htook' k m hm

/-! ## What goes out -/

theorem Answers.append {tr es : List NodeEvent} (h : Answers tr)
    (hes : ∀ c : WinCommand, .pp_send c.text ∉ es) : Answers (tr ++ es) := by
  intro pre c post he
  rcases List.append_eq_append_iff.1 he with ⟨as, rfl, has⟩ | ⟨bs, rfl, hbs⟩
  · refine absurd ?_ (hes c)
    rw [has]
    simp
  · cases bs with
    | nil =>
      refine absurd ?_ (hes c)
      rw [List.nil_append] at hbs
      rw [← hbs]
      simp
    | cons b bs =>
      rw [List.cons_append, List.cons.injEq] at hbs
      obtain ⟨rfl, -⟩ := hbs
      exact h pre c bs rfl

theorem Answers.snoc {before between : List NodeEvent} {d : Datagram} {c : WinCommand}
    (h : Answers (before ++ .recvfrom d :: between)) (hd : cstr d.bytes = c.text)
    (hbetween : ∀ e ∈ between, (∀ d', e ≠ .recvfrom d') ∧ ∀ data, e ≠ .pp_send data) :
    Answers (before ++ .recvfrom d :: between ++ [.pp_send c.text]) := by
  intro pre c' post he
  rcases List.eq_nil_or_concat post with rfl | ⟨post, x, rfl⟩
  · obtain ⟨rfl, hc⟩ := List.append_inj' he rfl
    rw [List.cons.injEq, NodeEvent.pp_send.injEq] at hc
    obtain rfl : c = c' := WinCommand.text_inj hc.1
    exact ⟨before, d, between, rfl, hd, hbetween⟩
  · have he' : before ++ .recvfrom d :: between ++ [.pp_send c.text] =
        pre ++ .pp_send c'.text :: post ++ [x] := by simpa using he
    exact h pre c' post (List.append_inj' he' rfl).1

theorem sendString_ne_text (b : Build) (sensor value : Bytes) (x : UInt8) (hx : sensor.head? = some x)
    (hne : x ≠ 87) (c : WinCommand) : sendString b sensor value ≠ c.text := by
  intro h
  obtain ⟨rest, rfl⟩ : ∃ rest, sensor = x :: rest := List.head?_eq_some_iff.1 hx
  have hfifth := congrArg (fun text => text[4]?) h
  have hput : str "PUT_" = [80, 85, 84, 95] := by decide
  have hwin : c.text[4]? = some 87 := by cases c <;> decide
  simp only [hwin, sendString, hput] at hfifth
  simp at hfifth
  exact hne hfifth

theorem measured_quiet {data : MeasuredData} (c : WinCommand) :
    c.text ∉ answers .IN printF data .FINISH_MEASUREMENT := by
  intro h
  simp only [SmartWindow.answers, List.mem_cons, List.not_mem_nil, or_false] at h
  rcases h with h | h | h | h | h
  · exact sendString_ne_text .IN _ _ 84 (by decide) (by decide) c h.symm
  · exact sendString_ne_text .IN _ _ 65 (by decide) (by decide) c h.symm
  · exact sendString_ne_text .IN _ _ 86 (by decide) (by decide) c h.symm
  · exact sendString_ne_text .IN _ _ 72 (by decide) (by decide) c h.symm
  · exact sendString_ne_text .IN _ _ 65 (by decide) (by decide) c h.symm

/-- A window command is requested by its own datagram only, if not by the value left from before. -/
theorem text_of_commandFor {d : Datagram} {v : CommunicationCommand} {c : WinCommand}
    (hv : v.status = none) (h : (commandFor .IN d v).status = some c.status) : cstr d.bytes = c.text := by
  unfold commandFor known at h
  split at h
  · cases h
  · split at h
    · next hd => cases c <;> first | exact hd.2 | cases h
    · split at h
      · next hd => cases c <;> first | exact hd.2 | cases h
      · rw [Option.getD_none, hv] at h
        cases h

theorem answers_cases (printF : Int → Nat → Bytes) {c : CommunicationCommand}
    (ha : answered .IN c = true) (data : MeasuredData) :
    (∀ w : WinCommand, w.text ∉ answers .IN printF data c.finish) ∨
      ∃ w : WinCommand, c.status = some w.status ∧ answers .IN printF data c.finish = [w.text] := by
  cases c with
  | START_MEASUREMENT => exact .inl measured_quiet
  | START_OPEN_WINDOW => exact .inr ⟨.Open, rfl, rfl⟩
  | START_CLOSE_WINDOW => exact .inr ⟨.Close, rfl, rfl⟩
  | FINISH_MEASUREMENT | FINISH_OPEN_WINDOW | FINISH_CLOSE_WINDOW => cases ha

theorem work_silent {work : List NodeEvent} (c c' : CommunicationCommand)
    (hwork : ∀ e ∈ work, e.IsWork) :
    ∀ e ∈ .request c :: work ++ [.reply c'],
      (∀ d, e ≠ .recvfrom d) ∧ ∀ data, e ≠ .pp_send data := by
  intro e he
  simp only [List.cons_append, List.mem_cons, List.mem_append, List.not_mem_nil, or_false] at he
  rcases he with rfl | he | rfl
  · simp
  · have := hwork e he
    refine ⟨?_, ?_⟩ <;> rintro x rfl <;> exact this
  · simp

/-- The node of `Node.Model` answers window commands with window commands. -/
theorem answers_history {ds : List Datagram} {v : CommunicationCommand} {tr : List NodeEvent}
    (h : History .IN printF ds v tr) : v.status = none ∧ Answers tr := by
  induction h with
  | nil => exact ⟨rfl, fun pre c post he => by simp at he⟩
  | @snoc ds v tr d es _ ha hes ih =>
    obtain ⟨hv, htr⟩ := ih
    obtain ⟨work, data, hwork, rfl⟩ := hes
    have hsilent := work_silent (commandFor .IN d v) (commandFor .IN d v).finish hwork
    have hbefore : Answers (tr ++ .recvfrom d ::
        (.request (commandFor .IN d v) :: work ++ [.reply (commandFor .IN d v).finish])) := by
      refine htr.append fun c hc => ?_
      rcases List.mem_cons.1 hc with hc | hc
      · cases hc
      · exact (hsilent _ hc).2 _ rfl
    refine ⟨CommunicationCommand.status_finish _, ?_⟩
    rcases answers_cases printF ha data with hquiet | ⟨w, hw, hsend⟩
    · have hnone : ∀ c : WinCommand, NodeEvent.pp_send c.text ∉
          (answers .IN printF data (commandFor .IN d v).finish).map .pp_send := by
        intro c hc
        obtain ⟨text, htext, he⟩ := List.mem_map.1 hc
        cases he
        exact hquiet c htext
      simpa using hbefore.append hnone
    · have := hbefore.snoc (text_of_commandFor hv hw) hsilent
      rw [hsend]
      simpa using this

theorem answers_told {tr : List NodeEvent} {p : Dialog} (h : Told .IN printF tr p) : Answers tr := by
  have hasked : ∀ {tr c}, Asked .IN printF tr c → Answers tr := by
    intro tr c h
    obtain ⟨ds, v, tr₀, d, work, hh, -, hwork, rfl⟩ := h
    refine (answers_history hh).2.append fun c' hc' => ?_
    simp only [List.cons_append, List.nil_append, List.mem_cons] at hc'
    rcases hc' with hc' | hc' | hc'
    · cases hc'
    · cases hc'
    · exact hwork _ hc'
  cases p with
  | idle v =>
    obtain ⟨ds, hh⟩ := h
    exact (answers_history hh).2
  | requested c =>
    obtain ⟨ds, v, tr₀, d, hh, -, rfl⟩ := h
    exact (answers_history hh).2.append (by simp)
  | serving c | replying c | stuck c => exact hasked h
  | replied c =>
    obtain ⟨tr₀, hh, rfl⟩ := h
    exact (hasked hh).append (by simp)

/-- **In a calm run every answer belongs to the command being served.** -/
theorem belongs_of_calm {mainCommand : CommunicationCommand} {data : MeasuredData} {tr : List Event}
    {n : Node} (h : Trans.Run (CalmStep printF) (.start mainCommand data) tr n) : Belongs tr := by
  obtain ⟨-, -, hrun, htook⟩ := calm_run h
  obtain ⟨p, -, -, htold⟩ := run_told hrun
  exact ⟨htook, answers_told htold⟩

/-! ## A packet that comes in anywhere else -/

/-- A packet is bound to be taken as a reply: `communication_thread` waits for one with a packet in
front, or it soon will. -/
inductive Node.Doomed (n : Node) : Prop
  | asked (d : Datagram) (q : List Message) : n.comm = .msg_receive →
    n.pp_msg_queue = .packet d :: q → Node.Doomed n
  | sending (d : Datagram) (q : List Message) : n.comm = .msg_send → n.main = .msg_receive →
    n.pp_msg_queue = .packet d :: q → Node.Doomed n
  | waiting (d d' : Datagram) (q : List Message) : n.comm = .recvfrom → n.main = .msg_receive →
    n.pp_msg_queue = .packet d :: .packet d' :: q → Node.Doomed n
  | replied (m : Message) (d d' : Datagram) (q : List Message) : n.comm = .msg_receive →
    n.main = .msg_receive → n.pp_msg_queue = m :: .packet d :: .packet d' :: q → Node.Doomed n

/-- A packet was taken as a reply. -/
def Failed (tr : List Event) : Prop := ∃ k d, .took k (.packet d) ∈ tr

theorem Failed.not_belongs {tr : List Event} (h : Failed tr) : ¬ Belongs tr := by
  intro hb
  obtain ⟨k, d, hmem⟩ := h
  obtain ⟨c, hc⟩ := hb.replies k _ hmem
  cases hc

theorem Failed.append {tr : List Event} (h : Failed tr) (es : List Event) : Failed (tr ++ es) := by
  obtain ⟨k, d, hmem⟩ := h
  exact ⟨k, d, List.mem_append_left _ hmem⟩

theorem Node.Fine.doomed {n : Node} {p : Dialog} (h : n.Fine p) (hcalm : ¬ n.Calm) (d : Datagram) :
    (n.enqueue d).Doomed := by
  rw [h.tidy.enqueue d]
  have htidy := h.tidy
  cases p with
  | idle v =>
    rcases htidy with hq | ⟨d', hq⟩
    · exact absurd ⟨by simp [hq], .inl h.at_dialog.1⟩ hcalm
    · exact .waiting d' d [] h.at_dialog.1 h.at_dialog.2.1 (by simp [hq])
  | requested c =>
    exact .sending d [] h.at_dialog.1 h.at_dialog.2.1 (by simp [show n.pp_msg_queue = [] from htidy])
  | serving c | replying c =>
    exact .asked d [] h.at_dialog.1 (by simp [show n.pp_msg_queue = [] from htidy])
  | replied c =>
    rcases htidy with hq | ⟨d', hq⟩
    · exact absurd ⟨by simp [hq], .inr (by simp [hq])⟩ hcalm
    · exact .replied _ d' d [] h.at_dialog.1 h.at_dialog.2.1 (by rw [hq]; rfl)
  | stuck c => cases htidy

theorem Node.Doomed.enqueue {n : Node} (h : n.Doomed) (d₀ : Datagram) : (n.enqueue d₀).Doomed := by
  unfold Node.enqueue
  split
  · cases h with
    | asked d q hc hq => exact .asked d (q ++ [.packet d₀]) hc (by simp [hq])
    | sending d q hc hm hq => exact .sending d (q ++ [.packet d₀]) hc hm (by simp [hq])
    | waiting d d' q hc hm hq => exact .waiting d d' (q ++ [.packet d₀]) hc hm (by simp [hq])
    | replied m d d' q hc hm hq => exact .replied m d d' (q ++ [.packet d₀]) hc hm (by simp [hq])
  · exact h

theorem Node.Doomed.step {n n' : Node} {es : List Event} (h : n.Doomed) (hs : NodeStep printF n es n') :
    Failed es ∨ n'.Doomed := by
  cases hs with
  | arrive d hd => exact .inr (h.enqueue d)
  | noDatagram hc => exact .inr h
  | requeue k c q hc hq =>
    cases h with
    | asked d q' hc' _ | sending d q' hc' _ _ | replied m d d' q' hc' _ _ => rw [hc'] at hc; cases hc
    | waiting d d' q' _ _ hq' => rw [hq'] at hq; cases hq
  | recvfrom d q hc hq =>
    cases h with
    | asked d q' hc' _ | sending d q' hc' _ _ | replied m d d' q' hc' _ _ => rw [hc'] at hc; cases hc
    | waiting d₁ d₂ q' _ hm hq' =>
      rw [hq'] at hq
      cases hq
      exact .inr (.sending d₂ q' rfl hm rfl)
  | request c hc hm hcommand =>
    cases h with
    | asked d q' hc' _ | waiting d d' q' hc' _ _ | replied m d d' q' hc' _ _ => rw [hc'] at hc; cases hc
    | sending d q' _ _ hq => exact .inr (.asked d q' rfl hq)
  | turn m hm =>
    cases h with
    | asked d q' hc hq => exact .inr (.asked d q' hc hq)
    | sending d q' _ hm' _ | waiting d d' q' _ hm' _ | replied m d d' q' _ hm' _ =>
      rw [hm'] at hm
      cases hm
  | reply c hm hlen =>
    cases h with
    | asked d q' hc hq => exact .inr (.asked d (q' ++ [.reply n.requests c]) hc (by simp [hq]))
    | sending d q' _ hm' _ | waiting d d' q' _ hm' _ | replied m d d' q' _ hm' _ =>
      rw [hm'] at hm
      cases hm
  | take m q hc hq =>
    cases h with
    | asked d q' _ hq' =>
      rw [hq'] at hq
      cases hq
      exact .inl ⟨n.requests, d, by simp⟩
    | sending d q' hc' _ _ | waiting d d' q' hc' _ _ => rw [hc'] at hc; cases hc
    | replied m' d d' q' _ hm hq' =>
      rw [hq'] at hq
      cases hq
      exact .inr (.waiting d d' q' rfl hm rfl)

/-- The threads can take a packet as a reply, with no further one coming in. -/
def Fails (printF : Int → Nat → Bytes) (n : Node) : Prop :=
  ∃ tr n', Trans.Run (NodeStep printF) n tr n' ∧ (∀ d, .arrive d ∉ tr) ∧ Failed tr

theorem Fails.of_step {n n' : Node} {es : List Event} (hs : NodeStep printF n es n')
    (hquiet : ∀ d, .arrive d ∉ es) (h : Fails printF n') : Fails printF n := by
  obtain ⟨tr, n'', hrun, hno, k, d, hmem⟩ := h
  refine ⟨es ++ tr, n'', (Trans.Run.one hs).trans hrun, fun d hd => ?_, k, d,
    List.mem_append_right _ hmem⟩
  rcases List.mem_append.1 hd with hd | hd
  · exact hquiet d hd
  · exact hno d hd

theorem fails_asked {n : Node} {d : Datagram} {q : List Message} (hc : n.comm = .msg_receive)
    (hq : n.pp_msg_queue = .packet d :: q) : Fails printF n :=
  ⟨_, _, .one (.take n (.packet d) q hc hq), by simp [Message.value], n.requests, d, by simp⟩

theorem fails_sending {n : Node} {d : Datagram} {q : List Message} (hk : n.Known)
    (hc : n.comm = .msg_send) (hm : n.main = .msg_receive) (hq : n.pp_msg_queue = .packet d :: q) :
    Fails printF n := by
  obtain ⟨c, hcommand⟩ := Option.ne_none_iff_exists'.1 (hk.command hc)
  exact .of_step (.request n c hc hm hcommand) (by simp) (fails_asked rfl hq)

theorem fails_waiting {n : Node} {d d' : Datagram} {q : List Message} (hk : n.Known)
    (hc : n.comm = .recvfrom) (hm : n.main = .msg_receive)
    (hq : n.pp_msg_queue = .packet d :: .packet d' :: q) : Fails printF n := by
  have hs : NodeStep printF n _ _ := .recvfrom n d _ hc hq
  exact .of_step hs (by simp) (fails_sending (hk.step hs) rfl hm rfl)

/-- It takes the two threads of a doomed node four steps at most to fail. -/
theorem Node.Doomed.fails {n : Node} (h : n.Doomed) (hk : n.Known) (printF : Int → Nat → Bytes) :
    Fails printF n := by
  cases h with
  | asked d q hc hq => exact fails_asked hc hq
  | sending d q hc hm hq => exact fails_sending hk hc hm hq
  | waiting d d' q hc hm hq => exact fails_waiting hk hc hm hq
  | replied m d d' q hc hm hq =>
    have hs : NodeStep printF n _ _ := .take n m _ hc hq
    exact .of_step hs (by simp) (fails_waiting (hk.step hs) rfl hm rfl)

/-! ## Whole runs -/

/-- The first packet that comes in where it cannot decides the run. -/
theorem calm_or_doomed {mainCommand : CommunicationCommand} {data : MeasuredData} {tr : List Event}
    {n : Node} (h : Trans.Run (NodeStep printF) (.start mainCommand data) tr n) : n.Known ∧
      (Trans.Run (CalmStep printF) (.start mainCommand data) tr n ∨ Failed tr ∨ n.Doomed) := by
  induction h with
  | refl => exact ⟨Node.start_known mainCommand data, .inl .refl⟩
  | @snoc tr n es n' _ hs ih =>
    obtain ⟨hknown, hcase⟩ := ih
    refine ⟨hknown.step hs, ?_⟩
    rcases hcase with hrun | hfailed | hdoomed
    · by_cases hcalm : ∀ d, .arrive d ∈ es → n.Calm
      · exact .inl (.snoc hrun ⟨hs, hcalm⟩)
      · simp only [not_forall] at hcalm
        obtain ⟨d, hmem, hcalm⟩ := hcalm
        obtain ⟨-, ⟨p, hfine⟩, -, -⟩ := calm_run hrun
        cases hs with
        | arrive d' hd => exact .inr (.inr (hfine.doomed hcalm d'))
        | noDatagram | requeue | recvfrom | request | turn | reply | take => simp at hmem
    · exact .inr (.inl (hfailed.append es))
    · exact .inr ((hdoomed.step hs).imp (fun ⟨k, d, hmem⟩ => ⟨k, d, List.mem_append_right _ hmem⟩) id)

theorem calm_of_quiet {n n' : Node} {tr : List Event} (h : Trans.Run (NodeStep printF) n tr n')
    (hquiet : ∀ d, .arrive d ∉ tr) : Trans.Run (CalmStep printF) n tr n' := by
  induction h with
  | refl => exact .refl
  | snoc _ hs ih =>
    exact .snoc (ih fun d hd => hquiet d (List.mem_append_left _ hd))
      ⟨hs, fun d hd => absurd (List.mem_append_right _ hd) (hquiet d)⟩

theorem run_of_calm {n n' : Node} {tr : List Event} (h : Trans.Run (CalmStep printF) n tr n') :
    Trans.Run (NodeStep printF) n tr n' := by
  induction h with
  | refl => exact .refl
  | snoc _ hs ih => exact .snoc ih hs.1

/-- **When every answer belongs to the command being served**: in the runs whose packets all come in
where they can, and in no others; a run with any other packet can be continued, without a further
one, to where a packet is taken as a reply. -/
theorem belongs_iff (printF : Int → Nat → Bytes) (mainCommand : CommunicationCommand)
    (data : MeasuredData) (tr : List Event) (n : Node) :
    Trans.Run (CalmStep printF) (.start mainCommand data) tr n ↔
      Trans.Run (NodeStep printF) (.start mainCommand data) tr n ∧
        ∀ tr' n', Trans.Run (NodeStep printF) n tr' n' → (∀ d, .arrive d ∉ tr') →
          Belongs (tr ++ tr') := by
  refine ⟨fun h => ⟨run_of_calm h, fun tr' n' h' hquiet => ?_⟩, fun h => ?_⟩
  · exact belongs_of_calm (h.trans (calm_of_quiet h' hquiet))
  · obtain ⟨hrun, hbelongs⟩ := h
    obtain ⟨hknown, hcalm | hfailed | hdoomed⟩ := calm_or_doomed hrun
    · exact hcalm
    · have := hbelongs [] n .refl (by simp)
      rw [List.append_nil] at this
      exact absurd this hfailed.not_belongs
    · obtain ⟨tr', n', h', hquiet, k, d, hmem⟩ := hdoomed.fails hknown printF
      exact absurd (hbelongs tr' n' h' hquiet)
        (Failed.not_belongs ⟨k, d, List.mem_append_right _ hmem⟩)

/-- Close and GET_All come in together: GET_All is taken as the reply to the first, `main`'s reply as
the one to the next GET_All, and the window command goes out as its answer. -/
def staleTrace : List Event :=
  [.arrive (putWin .Close), .arrive getAll, .node (.recvfrom (putWin .Close)),
    .node (.request .START_CLOSE_WINDOW), .took 1 (.packet getAll),
    .node (.reply .FINISH_CLOSE_WINDOW), .arrive getAll, .node (.recvfrom getAll),
    .node (.request .START_MEASUREMENT), .took 2 (.reply 1 .FINISH_CLOSE_WINDOW),
    .node (.pp_send (WinCommand.text .Close))]

theorem stale_answer :
    (∃ n, Trans.Run (NodeStep fun v _ => printD v) (.start .START_MEASUREMENT ⟨0, 0, 0, 0, 0⟩)
      staleTrace n) ∧
      (¬ ∀ k m, .took k m ∈ staleTrace → ∃ c, m = .reply k c) ∧ ¬ Answers (nodeEvents staleTrace) := by
  have hrefl : Trans.Run (NodeStep fun v _ => printD v) (.start .START_MEASUREMENT ⟨0, 0, 0, 0, 0⟩) []
      (.start .START_MEASUREMENT ⟨0, 0, 0, 0, 0⟩) := .refl
  have hrun := (((((((((((hrefl.snoc
    (.arrive _ (putWin .Close) (by decide))).snoc
    (.arrive _ getAll (by decide))).snoc
    (.recvfrom _ (putWin .Close) [.packet getAll] rfl rfl)).snoc
    (.request _ .START_CLOSE_WINDOW rfl rfl rfl)).snoc
    (.take _ (.packet getAll) [] rfl rfl)).snoc
    (.turn _ ⟨0, 0, 0, 0, 0⟩ rfl)).snoc
    (.reply _ .FINISH_CLOSE_WINDOW rfl (by decide))).snoc
    (.arrive _ getAll (by decide))).snoc
    (.requeue _ 1 .FINISH_CLOSE_WINDOW [.packet getAll] rfl rfl)).snoc
    (.recvfrom _ getAll [.reply 1 .FINISH_CLOSE_WINDOW] rfl rfl)).snoc
    (.request _ .START_MEASUREMENT rfl rfl rfl)).snoc
    (.take _ (.reply 1 .FINISH_CLOSE_WINDOW) [] rfl rfl)
  refine ⟨⟨_, hrun⟩, fun h => ?_, fun h => ?_⟩
  · obtain ⟨c, hc⟩ := h 1 (.packet getAll) (by simp [staleTrace])
    cases hc
  · obtain ⟨before, d, between, hpre, hd, hbetween⟩ := h
      [.recvfrom (putWin .Close), .request .START_CLOSE_WINDOW, .reply .FINISH_CLOSE_WINDOW,
        .recvfrom getAll, .request .START_MEASUREMENT] .Close [] rfl
    have hnone : received between = [] := by
      refine List.filterMap_eq_nil_iff.2 fun e he => ?_
      cases e with
      | recvfrom d' => exact absurd rfl ((hbetween _ he).1 d')
      | request | measured | servo_set | reply | pp_send => rfl
    have hlast := congrArg (fun es => (received es).getLast?) hpre
    simp only [received_append, received_recvfrom, hnone, List.getLast?_append] at hlast
    obtain rfl : getAll = d := by simpa using hlast
    exact absurd hd (by decide)

end SmartWindow.Packets
