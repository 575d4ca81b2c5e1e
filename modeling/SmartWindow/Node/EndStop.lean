/-
Where the servo stands when `main` reports a window as finished (main.c).
`openWindow` and `closeWindow` set the servo first and step `*pos` afterwards,
so the position that ends a movement is never set: the last one set is one
step short of the end stop. `finished_positions` says what it is in every run,
and with it no finished window is at its end stop.
-/
import SmartWindow.Lib.Trace
import SmartWindow.Node.Contract

namespace SmartWindow

open Trace

def setPosition : NodeEvent → Option Int
  | .servo_set pos => some pos
  | _ => none

def lastSet (tr : List NodeEvent) : Option Int := last setPosition tr

/-- A reply that reports a finished window comes with the servo set to its end stop. -/
def AtEndStop (pre : List NodeEvent) (e : NodeEvent) : Prop :=
  (e = .reply .FINISH_OPEN_WINDOW → lastSet pre = some (STEP_LOWER_BOUND : Int)) ∧
    (e = .reply .FINISH_CLOSE_WINDOW → lastSet pre = some (STEP_UPPER_BOUND : Int))

/-- It comes with the servo one step short of it, or never set at all. -/
def StepShort (pre : List NodeEvent) (e : NodeEvent) : Prop :=
  (e = .reply .FINISH_OPEN_WINDOW → lastSet pre = some 1810) ∧
    (e = .reply .FINISH_CLOSE_WINDOW → lastSet pre = none ∨ lastSet pre = some 2480)

/-- The last position set, while nothing is driven. -/
def Window.Rests (w : Window) (last : Option Int) : Prop :=
  w.b_windowIsDriving = false →
    (w.b_openWindow = false → last = some 1810) ∧
      (w.b_openWindow = true → last = none ∨ last = some 2480)

/-! ## One step -/

theorem turnOpen_rests {w : Window} {last₀ : Option Int} (hw : w.Ok) (hr : w.Rests last₀)
    (hdrive : w.b_windowIsDriving = true → w.b_openWindow = true) (data : MeasuredData) :
    (turnOpen w data).window.Rests ((last setPosition (turnOpen w data).events).or last₀) := by
  unfold turnOpen
  split
  · next hb =>
    have hp := hw.1 hb
    dsimp only
    rw [openWindow_ended hw hb]
    split
    · next hend =>
      have hpos : w.pos = 1810 := by
        have hle := of_decide_eq_true hend
        omega
      intro _
      refine ⟨fun _ => ?_, fun h => by simp at h⟩
      simp [last, setPosition, openWindow, hpos]
    · intro h
      simp at h
  · next hb =>
    have hrest : w.b_windowIsDriving = false := by
      rw [← Bool.not_eq_true]
      exact fun hd => hb (hdrive hd)
    intro _
    exact ⟨fun _ => (hr hrest).1 (by simpa using hb), fun h => by simp at h⟩

theorem turnClose_rests {w : Window} {last₀ : Option Int} (hw : w.Ok) (hr : w.Rests last₀)
    (hdrive : w.b_windowIsDriving = true → w.b_openWindow = false) (data : MeasuredData) :
    (turnClose w data).window.Rests ((last setPosition (turnClose w data).events).or last₀) := by
  unfold turnClose
  split
  · next hb =>
    have hb' : w.b_openWindow = false := by simpa using hb
    have hp := hw.2 hb'
    dsimp only
    rw [closeWindow_ended hw hb']
    split
    · next hend =>
      have hpos : w.pos = 2480 := by
        have hle := of_decide_eq_true hend
        omega
      intro _
      refine ⟨fun h => by simp at h, fun _ => .inr ?_⟩
      simp [last, setPosition, closeWindow, hpos]
    · intro h
      simp at h
  · next hb =>
    have hb' : w.b_openWindow = true := by simpa using hb
    have hrest : w.b_windowIsDriving = false := by
      rw [← Bool.not_eq_true]
      exact fun hd => absurd (hdrive hd) (by simp [hb'])
    intro _
    exact ⟨fun h => by simp at h, fun _ => (hr hrest).2 hb'⟩

theorem turn_rests {w : Window} {last₀ : Option Int} {c : CommunicationCommand} (hw : w.Ok)
    (hr : w.Rests last₀)
    (hdrive : w.b_windowIsDriving = true → c.status = some w.b_openWindow) (data m : MeasuredData) :
    (turn .IN w data m c).window.Rests ((last setPosition (turn .IN w data m c).events).or last₀) := by
  cases c with
  | START_OPEN_WINDOW =>
    exact turnOpen_rests hw hr (fun hd => (Option.some.inj (hdrive hd)).symm) data
  | START_CLOSE_WINDOW =>
    exact turnClose_rests hw hr (fun hd => (Option.some.inj (hdrive hd)).symm) data
  | START_MEASUREMENT | FINISH_MEASUREMENT | FINISH_OPEN_WINDOW | FINISH_CLOSE_WINDOW => exact hr

theorem not_reply_of_mem_turn {w : Window} {c : CommunicationCommand} (hw : w.Ok)
    (hdrive : w.b_windowIsDriving = true → c.status = some w.b_openWindow) {data m : MeasuredData}
    {e : NodeEvent} (he : e ∈ (turn .IN w data m c).events) (c' : CommunicationCommand) :
    e ≠ .reply c' := by
  cases ha : answered .IN c with
  | false =>
    rw [turn_ignored w data m ha] at he
    simp at he
  | true =>
    have hwork := (turn_serves hw hdrive data m ha).1 e he
    rintro rfl
    exact hwork

variable {printF : Int → Nat → Bytes}

/-- After a run: where the servo rests, and where it stood at each report. -/
def ServoOk (tr : List NodeEvent) (n : Node) : Prop :=
  n.window.Rests (lastSet tr) ∧ AtEach StepShort tr

theorem atEach_stepShort_append {tr es : List NodeEvent} (h : AtEach StepShort tr)
    (hes : ∀ e ∈ es, ∀ c, e ≠ .reply c) : AtEach StepShort (tr ++ es) :=
  (atEach_append tr es).2 ⟨h, atEach_of_forall fun e he _ =>
    ⟨fun hc => absurd hc (hes e he _), fun hc => absurd hc (hes e he _)⟩⟩

/-- A step that does not touch the window, and reports nothing. -/
theorem ServoOk.keep {tr es : List NodeEvent} {n n' : Node} (h : ServoOk tr n)
    (hwindow : n'.window = n.window)
    (hes : ∀ e ∈ es, setPosition e = none ∧ ∀ c, e ≠ .reply c) : ServoOk (tr ++ es) n' := by
  refine ⟨?_, atEach_stepShort_append h.2 fun e he => (hes e he).2⟩
  rw [hwindow, lastSet, last_append_of_forall fun e he => (hes e he).1]
  exact h.1

theorem ServoOk.step {tr es : List NodeEvent} {n n' : Node} {p : Dialog} (h : ServoOk tr n)
    (hp : n.At .IN p) (hw : n.window.Ok) (hs : NodeStep .IN printF n es n') :
    ServoOk (tr ++ es) n' := by
  cases hs with
  | noDatagram => exact h.keep rfl (by simp)
  | recvfrom d _ => exact h.keep rfl (by simp [setPosition])
  | request _ _ => exact h.keep rfl (by simp [setPosition])
  | answer c q _ _ => exact h.keep rfl (by simp [setPosition])
  | turn m hmain =>
    obtain ⟨c, rfl⟩ := serving_of_switch hp hmain
    obtain ⟨-, -, -, hc, hserved⟩ := hp
    have hdrive : n.window.b_windowIsDriving = true →
        n.mainCommand.status = some n.window.b_openWindow := fun hd => hc ▸ (hserved hd).2
    refine ⟨?_, atEach_stepShort_append h.2 fun e he => not_reply_of_mem_turn hw hdrive he⟩
    rw [lastSet, last_append]
    exact turn_rests hw h.1 hdrive n.data m
  | reply c hmain hq =>
    obtain ⟨c', rfl, rfl⟩ := replying_of_msg_send hp hmain
    obtain ⟨-, -, -, ha, hstatus, hrest⟩ := hp
    have hset := h.1 hrest
    -- A reply changes neither the window nor the servo; the report is about the command served.
    refine ⟨?_, (atEach_append tr _).2 ⟨h.2, (atEach_singleton _).2 ⟨fun he => ?_, fun he => ?_⟩⟩⟩
    · rw [lastSet, last_append_of_forall (by simp [setPosition])]
      exact h.1
    · rw [List.append_nil]
      obtain rfl := @finish_inj .IN _ .START_OPEN_WINDOW ha rfl (NodeEvent.reply.inj he)
      exact hset.1 (by simpa [CommunicationCommand.status, Node.isOpen] using hstatus)
    · rw [List.append_nil]
      obtain rfl := @finish_inj .IN _ .START_CLOSE_WINDOW ha rfl (NodeEvent.reply.inj he)
      exact hset.2 (by simpa [CommunicationCommand.status, Node.isOpen] using hstatus)

/-! ## Whole runs -/

/-- **Where the servo stands at every report of a finished window**: at 1810 for an open one, and at 2480
or where it always was for a closed one. -/
theorem finished_positions {mainCommand : CommunicationCommand} {data : MeasuredData}
    {tr : List NodeEvent} {n : Node}
    (h : Trans.Run (NodeStep .IN printF) (.start mainCommand data) tr n) : AtEach StepShort tr := by
  have hservo : ServoOk tr n := by
    refine run_invariant ServoOk ⟨fun _ => ⟨fun hb => ?_, fun _ => .inl rfl⟩, atEach_nil⟩
      (fun tr n es n' p hservo hp hw hs => hservo.step hp hw hs) h
    simp [Node.start, Window.start] at hb
  exact hservo.2

/-- A run is right about its end stops only while it reports no window. -/
theorem atEndStop_iff {mainCommand : CommunicationCommand} {data : MeasuredData}
    {tr : List NodeEvent} {n : Node}
    (h : Trans.Run (NodeStep .IN printF) (.start mainCommand data) tr n) :
    AtEach AtEndStop tr ↔
      .reply .FINISH_OPEN_WINDOW ∉ tr ∧ .reply .FINISH_CLOSE_WINDOW ∉ tr := by
  have hshort := finished_positions h
  refine ⟨fun hstop => ⟨fun he => ?_, fun he => ?_⟩, fun hno => atEach_of_forall fun e he pre => ?_⟩
  · obtain ⟨pre, hend, hset⟩ := (hstop.and hshort).exists_of_mem he
    exact absurd ((hend.1 rfl).symm.trans (hset.1 rfl)) (by decide)
  · obtain ⟨pre, hend, hset⟩ := (hstop.and hshort).exists_of_mem he
    have hset' := hset.2 rfl
    rw [hend.2 rfl] at hset'
    exact absurd hset' (by decide)
  · exact ⟨fun hc => absurd (hc ▸ he) hno.1, fun hc => absurd (hc ▸ he) hno.2⟩

/-! ## Sequences of commands -/

/-- The datagram of a window command, or of the request for a measurement. -/
def order : Option WinCommand → Datagram
  | none => getAll
  | some c => putWin c

/-- What a window command asks `main` for. -/
def request : Option WinCommand → CommunicationCommand
  | none => .START_MEASUREMENT
  | some .Open => .START_OPEN_WINDOW
  | some .Close => .START_CLOSE_WINDOW

theorem known_order (c : Option WinCommand) : known .IN (order c) = some (request c) := by
  rcases c with _ | c
  · decide
  · cases c <;> decide

theorem Exchange.reply_mem_iff {b : Build} {d : Datagram} {c : CommunicationCommand}
    {es : List NodeEvent} (h : Exchange b printF d c es) (c' : CommunicationCommand) :
    .reply c' ∈ es ↔ c' = c.finish := by
  obtain ⟨work, data, hwork, rfl⟩ := h
  have hw : .reply c' ∉ work := fun hmem => hwork _ hmem
  simp [hw]

theorem Exchanges.reply_mem_iff {b : Build} {ds : List Datagram} {tr : List NodeEvent}
    (h : Exchanges b printF ds tr) (c' : CommunicationCommand) :
    .reply c' ∈ tr ↔ ∃ d ∈ ds, ∃ c, known b d = some c ∧ c' = c.finish := by
  induction h with
  | nil => simp
  | ignore _ hk ih => simp [ih, or_and_right, exists_or, hk]
  | exchange _ hk he ih => simp [ih, he.reply_mem_iff, or_and_right, exists_or, hk]

/-- In every run that handles some of the commands in order, each finished window is at its end stop. -/
def EndStops (printF : Int → Nat → Bytes) (cs : List (Option WinCommand)) : Prop :=
  ∀ mainCommand data tr n, Trans.Run (NodeStep .IN printF) (.start mainCommand data) tr n →
    received tr <+: cs.map order → AtEach AtEndStop tr

theorem known_of_mem_order {cs : List (Option WinCommand)} :
    ∀ d ∈ cs.map order, known .IN d ≠ none := by
  intro d hd
  obtain ⟨c, -, rfl⟩ := List.mem_map.1 hd
  simp [known_order]

/-- A window command is finished in some run, and its report comes one step short. -/
theorem not_endStops_of_mem {cs : List (Option WinCommand)} {w : WinCommand} (hw : some w ∈ cs) :
    ¬ EndStops printF cs := by
  intro h
  obtain ⟨tr, n, v, hr, hidle, hh⟩ := exists_run .IN printF .START_MEASUREMENT ⟨0, 0, 0, 0, 0⟩
    (cs.map order) fun d hd => known_of_mem_order d (List.mem_of_mem_tail hd)
  have hreply := (hh.exchanges known_of_mem_order).reply_mem_iff (request (some w)).finish
  have hmem := hreply.2 ⟨order (some w), List.mem_map_of_mem hw, _, known_order _, rfl⟩
  have hno := (atEndStop_iff hr).1 (h _ _ tr n hr (by rw [hh.received_eq]))
  cases w with
  | Open => exact hno.1 hmem
  | Close => exact hno.2 hmem

/-- **When finished windows are at their end stops**: when no window is ever commanded. -/
theorem end_stops_iff (printF : Int → Nat → Bytes) (cs : List (Option WinCommand)) :
    EndStops printF cs ↔ ∀ c ∈ cs, c = none := by
  refine ⟨fun h c hc => ?_, fun h mainCommand data tr n hr hpre => ?_⟩
  · by_contra hne
    obtain ⟨w, rfl⟩ := Option.ne_none_iff_exists'.1 hne
    exact not_endStops_of_mem hc h
  · obtain ⟨⟨es, hes, htr⟩, -⟩ := contract_of_known known_of_mem_order mainCommand data tr n hr hpre
    have hmeasure : ∀ c, .reply c ∈ tr → c = .FINISH_MEASUREMENT := by
      intro c hc
      obtain ⟨d, hd, q, hq, rfl⟩ := (hes.reply_mem_iff c).1 (htr.subset hc)
      obtain ⟨x, hx, rfl⟩ := List.mem_map.1 (hpre.subset hd)
      rw [h x hx, known_order] at hq
      exact Option.some.inj hq ▸ rfl
    refine (atEndStop_iff hr).2 ⟨fun hc => ?_, fun hc => ?_⟩
    · exact absurd (hmeasure _ hc) (by decide)
    · exact absurd (hmeasure _ hc) (by decide)

/-- The first Open is reported with the servo at 1810. -/
theorem open_short_of_end : ¬ EndStops (fun _ _ => []) [some .Open] :=
  not_endStops_of_mem (List.mem_singleton.2 rfl)

end SmartWindow
