/-
The two modes over whole runs of passes, with a window that carries out each
command before the next pass reads its status. What the priority, the readings
and the limits are does not matter to a command given by hand, but for one
thing: under the priorities 0 to 2 the machine closes a window it has opened
(Transitions 1.4, 2.4 and 3.4), by hand or not. In the automatic mode it does
so under every priority.
-/
import SmartWindow.Controller.Feedback

namespace SmartWindow

open OneHot

/-- The manual mode, with one command given and the other not. -/
structure ByHand (c : WinCommand) (r : Readings) : Prop where
  autoMode_bo : r.autoMode_bo = false
  manOpen_bo : r.manOpen_bo = c.status
  manClose_bo : r.manClose_bo = !c.status

/-- The window status is the one that the state has waited for. -/
def Flag.Fits (q : Flag) (w : Bool) : Prop :=
  match q with
  | .state0 | .state _ .closed => w = false
  | .state _ .opened => w = true
  | .init | .state _ .opening | .state _ .closing => True

/-! ## One pass -/

section

variable {i : Inputs} {f : Family}

theorem fits_leave {g : Stage} {w w' : Bool} (h : (Flag.state f g).Fits w) (hw' : w' = w)
    (hcommand : command (.state f g) = []) : (leave f g i).Fits (carryOut w' (command (leave f g i))) := by
  unfold leave
  split
  · rw [hcommand, hw']
    exact h
  · trivial

theorem fits_fromClosing :
    (fromClosing f i).Fits (carryOut i.win_open_bo (command (fromClosing f i))) := by
  unfold fromClosing
  split
  · trivial
  · next hw => exact fits_leave (w := false) rfl (by simpa using hw) rfl

theorem fits_fromOpened (h : i.win_open_bo = true) :
    (fromOpened f i).Fits (carryOut i.win_open_bo (command (fromOpened f i))) := by
  unfold fromOpened
  split
  · exact fits_fromClosing
  · exact fits_leave (w := true) rfl h rfl

theorem fits_fromOpening :
    (fromOpening f i).Fits (carryOut i.win_open_bo (command (fromOpening f i))) := by
  unfold fromOpening
  split
  · next hw => exact fits_fromOpened hw
  · trivial

theorem fits_fromClosed (h : i.win_open_bo = false) :
    (fromClosed f i).Fits (carryOut i.win_open_bo (command (fromClosed f i))) := by
  unfold fromClosed
  split
  · exact fits_fromOpening
  · exact fits_leave (w := false) rfl h rfl

theorem fits_fromState0 (h : i.win_open_bo = false) :
    (fromState0 i).Fits (carryOut i.win_open_bo (command (fromState0 i))) := by
  unfold fromState0
  split
  · exact fits_fromClosed h
  · exact h

theorem fits_next {q : Flag} (h : q.Fits i.win_open_bo) :
    (next i q).Fits (carryOut i.win_open_bo (command (next i q))) := by
  match q with
  | .init =>
    simp only [next]
    split
    · trivial
    · next hw => exact fits_fromState0 (by simpa using hw)
  | .state0 => exact fits_fromState0 h
  | .state f .closed => exact fits_fromClosed h
  | .state f .opening => exact fits_fromOpening
  | .state f .opened => exact fits_fromOpened h
  | .state f .closing => exact fits_fromClosing

end

section

variable {r : Readings} {s : LoopState} {f : Family}

theorem opens_byHand {c : WinCommand} (h : ByHand c r) : f.opens (passInputs s r) = c.status := by
  have ha : (passInputs s r).autoMode_bo = false := h.autoMode_bo
  have ho : (passInputs s r).manOpen_bo = c.status := h.manOpen_bo
  have hw : (passInputs s r).alarms.wind_alarm = false := rfl
  simp [Family.opens, openGuard, ha, ho, hw]

theorem closes_all_byHand {c : WinCommand} (h : ByHand c r) :
    Family.all.closes (passInputs s r) = !c.status := by
  have ha : (passInputs s r).autoMode_bo = false := h.autoMode_bo
  have hc : (passInputs s r).manClose_bo = !c.status := h.manClose_bo
  have hw : (passInputs s r).alarms.wind_alarm = false := rfl
  simp [Family.closes, closeGuard4, ha, hc, hw]

theorem closes_byHand_close (h : ByHand .Close r) : f.closes (passInputs s r) = true := by
  by_cases hf : f = .all
  · subst hf
    exact closes_all_byHand h
  · exact Family.closes_of_ne_all hf rfl

end

/-! ## Runs that obey -/

/-- A rank of the state and the window that every pass lowers, as long as the readings are as they
should be. -/
theorem obeying_run {s : LoopState} {q₀ : Flag} {a₀ : Alarms} {rs : Nat → Readings} (hs : s = .at q₀ a₀)
    (hfits : q₀.Fits (rs 0).win_open_bo) (hw : WindowObeys s rs) (rank : Flag → Bool → Nat)
    (hstep : ∀ n q a, q.Fits (rs n).win_open_bo →
      rank (next (passInputs (.at q a) (rs n)) q)
        (carryOut (rs n).win_open_bo (command (next (passInputs (.at q a) (rs n)) q))) ≤
          rank q (rs n).win_open_bo - 1) (n : Nat) :
    ∃ q a, runFrom s rs n = .at q a ∧ q.Fits (rs n).win_open_bo ∧
      rank q (rs n).win_open_bo ≤ rank q₀ (rs 0).win_open_bo - n := by
  induction n with
  | zero => exact ⟨q₀, a₀, hs, hfits, le_rfl⟩
  | succ n ih =>
    obtain ⟨q, a, h, hfit, hrank⟩ := ih
    refine ⟨_, _, by rw [runFrom, h]; exact decisionPass_at q a (rs n), ?_, ?_⟩
    · rw [hw n, h, sent_at]
      exact fits_next (i := passInputs (.at q a) (rs n)) hfit
    · rw [hw n, h, sent_at]
      have := hstep n q a hfit
      omega

/-! ## Closing by hand -/

/-- How many passes it takes at most until the window stays closed. -/
def closingRank : Flag → Bool → Nat
  | .state _ .opening, false => 2
  | _, w => if w then 1 else 0

theorem closingRank_le (q : Flag) (w : Bool) : closingRank q w ≤ 2 := by
  match q, w with
  | .state _ .opening, false => exact le_rfl
  | .init, w | .state0, w | .state _ .closed, w | .state _ .opened, w | .state _ .closing, w =>
    cases w <;> simp [closingRank]
  | .state _ .opening, true => simp [closingRank]

theorem closingRank_eq_zero {q : Flag} {w : Bool} (h : closingRank q w = 0) : w = false := by
  cases w with
  | false => rfl
  | true =>
    cases q with
    | init | state0 => cases h
    | state f g => cases g <;> cases h

theorem closingRank_leave_closed (f : Family) (i : Inputs) :
    closingRank (leave f .closed i) (carryOut false (command (leave f .closed i))) = 0 := by
  unfold leave
  split <;> rfl

theorem closingRank_fromClosing (f : Family) (i : Inputs) :
    closingRank (fromClosing f i) (carryOut i.win_open_bo (command (fromClosing f i))) = 0 := by
  unfold fromClosing
  cases i.win_open_bo with
  | true => rfl
  | false => exact closingRank_leave_closed f i

theorem closingRank_fromState0 {i : Inputs} (hopens : ∀ f : Family, f.opens i = false) :
    closingRank (fromState0 i) (carryOut false (command (fromState0 i))) = 0 := by
  unfold fromState0
  split
  · next f _ =>
    simp only [fromClosed, hopens f]
    exact closingRank_leave_closed f i
  · rfl

/-- Every pass brings a window that is to be closed by hand a pass nearer. -/
theorem closingRank_next {s : LoopState} {r : Readings} (h : ByHand .Close r) {q : Flag}
    (hfits : q.Fits r.win_open_bo) :
    closingRank (next (passInputs s r) q) (carryOut r.win_open_bo (command (next (passInputs s r) q))) ≤
      closingRank q r.win_open_bo - 1 := by
  have hopens (f : Family) : f.opens (passInputs s r) = false := opens_byHand h
  have hcloses (f : Family) : f.closes (passInputs s r) = true := closes_byHand_close h
  have hwin : (passInputs s r).win_open_bo = r.win_open_bo := rfl
  have hopened (f : Family) : fromOpened f (passInputs s r) = fromClosing f (passInputs s r) := by
    simp [fromOpened, hcloses]
  have hclosing (f : Family) := (closingRank_fromClosing f (passInputs s r)).le
  rw [hwin] at hclosing
  cases q with
  | init =>
    simp only [next, hwin]
    cases r.win_open_bo with
    | true => exact Nat.zero_le _
    | false => exact (closingRank_fromState0 hopens).le
  | state0 =>
    rw [show r.win_open_bo = false from hfits]
    exact (closingRank_fromState0 hopens).le
  | state f g =>
    cases g with
    | closed =>
      rw [show r.win_open_bo = false from hfits]
      simp only [next, fromClosed, hopens f]
      exact (closingRank_leave_closed f _).le
    | opening =>
      simp only [next, fromOpening, hwin, hopened]
      cases hw : r.win_open_bo with
      | true =>
        rw [hw] at hclosing
        exact (hclosing f).trans (Nat.zero_le _)
      | false => exact le_rfl
    | opened =>
      simp only [next, hopened]
      exact (hclosing f).trans (Nat.zero_le _)
    | closing => exact (hclosing f).trans (Nat.zero_le _)

/-- **Closing by hand works**, whatever the priorities and readings are: after two passes the window is
closed and stays closed. -/
theorem closed_by_hand {s : LoopState} {q : Flag} {a : Alarms} {rs : Nat → Readings} (hs : s = .at q a)
    (hfits : q.Fits (rs 0).win_open_bo) (hw : WindowObeys s rs) (hhand : ∀ n, ByHand .Close (rs n))
    {n : Nat} (hn : 2 ≤ n) : (rs n).win_open_bo = false := by
  obtain ⟨q', a', -, -, hrank⟩ := obeying_run hs hfits hw closingRank
    (fun n q a hfit => closingRank_next (hhand n) hfit) n
  have hle := closingRank_le q (rs 0).win_open_bo
  exact closingRank_eq_zero (q := q') (by omega)

/-! ## Opening by hand -/

/-- How many passes it takes at most until the last family has the window open. -/
def openingRank (q : Flag) (w : Bool) : Nat :=
  match q with
  | .state .all .closed => 2
  | .state .all .opening => if w then 1 else 2
  | .state .all .opened => 0
  | .state .all .closing => if w then 4 else 3
  | q => 4 + distance .all q w

theorem openingRank_le (q : Flag) (w : Bool) : openingRank q w ≤ 8 := by
  have := distance_le .all q w
  unfold openingRank
  split
  all_goals first | omega | (split <;> omega)

theorem openingRank_eq_zero {q : Flag} {w : Bool} (h : openingRank q w = 0) : q = .state .all .opened := by
  unfold openingRank at h
  split at h
  all_goals first | rfl | omega | (split at h <;> omega)

theorem openingRank_all_le (g : Stage) (w : Bool) : openingRank (.state .all g) w ≤ 4 := by
  cases g <;> cases w <;> simp [openingRank]

theorem openingRank_other {q : Flag} (h : ∀ g, q ≠ .state .all g) (w : Bool) :
    openingRank q w = 4 + distance .all q w := by
  unfold openingRank
  split
  all_goals first | rfl | exact absurd rfl (h _)

/-- Every pass under priority 3 brings a window that is to be opened by hand a pass nearer. -/
theorem openingRank_next {s : LoopState} {r : Readings} (h : ByHand .Open r)
    (hp : r.priority = Family.all.priority) {q : Flag} (hfits : q.Fits r.win_open_bo) :
    openingRank (next (passInputs s r) q) (carryOut r.win_open_bo (command (next (passInputs s r) q))) ≤
      openingRank q r.win_open_bo - 1 := by
  have hopens : Family.all.opens (passInputs s r) = true := opens_byHand h
  have hcloses : Family.all.closes (passInputs s r) = false := closes_all_byHand h
  have hwin : (passInputs s r).win_open_bo = r.win_open_bo := rfl
  have hleave (g : Stage) : leave .all g (passInputs s r) = .state .all g := leave_selected hp g
  by_cases hall : ∃ g, q = .state .all g
  · obtain ⟨g, rfl⟩ := hall
    cases hw : r.win_open_bo <;> rw [hw] at hfits hwin <;> cases g <;>
      simp_all [next, fromClosed, fromOpening, fromOpened, fromClosing, Flag.Fits, openingRank, command,
        carryOut, WinCommand.status]
  · rw [openingRank_other fun g hg => hall ⟨g, hg⟩]
    have hdistance := distance_next (i := passInputs s r) (f := .all) hp q
    rw [hwin] at hdistance
    -- Either the last family is reached, or the rest of the way to it is shorter.
    have hpos : 0 < distance .all q r.win_open_bo := by
      by_contra hzero
      exact hall (distance_eq_zero (w := r.win_open_bo) (by omega))
    by_cases hnext : ∃ g, next (passInputs s r) q = .state .all g
    · obtain ⟨g, hg⟩ := hnext
      rw [hg]
      have := openingRank_all_le g (carryOut r.win_open_bo (command (.state .all g)))
      omega
    · rw [openingRank_other fun g hg => hnext ⟨g, hg⟩]
      omega

/-- **Opening by hand works under priority 3**, whatever the readings are: after eight passes the window is
open and stays open. -/
theorem opened_by_hand {s : LoopState} {q : Flag} {a : Alarms} {rs : Nat → Readings} (hs : s = .at q a)
    (hfits : q.Fits (rs 0).win_open_bo) (hw : WindowObeys s rs) (hhand : ∀ n, ByHand .Open (rs n))
    (hp : ∀ n, (rs n).priority = Family.all.priority) {n : Nat} (hn : 8 ≤ n) :
    (rs n).win_open_bo = true := by
  obtain ⟨q', a', -, hfit, hrank⟩ := obeying_run hs hfits hw openingRank
    (fun n q a hfit => openingRank_next (hhand n) (hp n) hfit) n
  have hle := openingRank_le q (rs 0).win_open_bo
  obtain rfl : q' = .state .all .opened := openingRank_eq_zero (w := (rs n).win_open_bo) (by omega)
  exact hfit

/-! ## What does not stay open -/

theorem close_next {s : LoopState} {r : Readings} {q : Flag}
    (hcloses : ∀ f g, q = .state f g → f.closes (passInputs s r) = true) (hopen : r.win_open_bo = true)
    (hfits : q.Fits true) : carryOut true (command (next (passInputs s r) q)) = false := by
  have hwin : (passInputs s r).win_open_bo = true := hopen
  cases q with
  | init => simp [next, hwin, command, carryOut, WinCommand.status]
  | state0 => cases hfits
  | state f g =>
    have hclose := hcloses f g rfl
    cases g with
    | closed => cases hfits
    | opening | opened | closing =>
      simp [next, fromOpening, fromOpened, fromClosing, hclose, hwin, command, carryOut, WinCommand.status]

/-- **Under the priorities 0 to 2 nothing keeps the window open**, by hand or not: whatever the readings
are, it is closed again and again. -/
theorem closed_again {s : LoopState} {q : Flag} {a : Alarms} {rs : Nat → Readings} (hs : s = .at q a)
    (hfits : q.Fits (rs 0).win_open_bo) (hw : WindowObeys s rs) {f : Family} (hf : f ≠ .all)
    (hp : ∀ n, (rs n).priority = f.priority) (n : Nat) : ∃ m, n ≤ m ∧ (rs m).win_open_bo = false := by
  obtain ⟨q', a', hrun, hfit, hrank⟩ := obeying_run hs hfits hw (distance f)
    (fun n q a _ => distance_next (i := passInputs (.at q a) (rs n)) (hp n) q) (n + 4)
  have hle := distance_le f q (rs 0).win_open_bo
  obtain ⟨g, rfl⟩ := distance_eq_zero (f := f) (q := q') (w := (rs (n + 4)).win_open_bo) (by omega)
  cases hopen : (rs (n + 4)).win_open_bo with
  | false => exact ⟨n + 4, by omega, hopen⟩
  | true =>
    rw [hopen] at hfit
    refine ⟨n + 4 + 1, by omega, ?_⟩
    rw [hw (n + 4), hrun, sent_at, hopen]
    refine close_next (fun f' g' h => ?_) hopen hfit
    obtain ⟨rfl, -⟩ := Flag.state.inj h
    exact Family.closes_of_ne_all hf rfl

theorem runFrom_airQ {s : LoopState} (hs : s.alarms.airQ_alarm = false) (rs : Nat → Readings) (n : Nat) :
    (runFrom s rs n).alarms.airQ_alarm = false := by
  induction n with
  | zero => exact hs
  | succ n ih =>
    rw [runFrom, decisionPass_alarms]
    show airQualityAlarm (rs n).airQ_in (rs n).airQ_max (runFrom s rs n).alarms.airQ_alarm = false
    rw [ih, airQualityAlarm_off]

/-- In the automatic mode every family has to close: Transition 4.4 too, since the air quality alarm is
off. -/
theorem closes_automatic {s : LoopState} {r : Readings} (hs : s.alarms.airQ_alarm = false)
    (ha : r.autoMode_bo = true) (f : Family) : f.closes (passInputs s r) = true := by
  by_cases hf : f = .all
  · subst hf
    have hauto : (passInputs s r).autoMode_bo = true := ha
    have hw : (passInputs s r).alarms.wind_alarm = false := rfl
    have hq : (passInputs s r).alarms.airQ_alarm = false := by
      show airQualityAlarm r.airQ_in r.airQ_max s.alarms.airQ_alarm = false
      rw [hs, airQualityAlarm_off]
    simp [Family.closes, closeGuard4, hauto, hw, hq]
  · exact Family.closes_of_ne_all hf rfl

/-- **In the automatic mode no window is open in two passes one after the other**, whatever the priorities
and the readings are. -/
theorem closed_after_open {s : LoopState} {q : Flag} {a : Alarms} {rs : Nat → Readings} (hs : s = .at q a)
    (hfits : q.Fits (rs 0).win_open_bo) (hw : WindowObeys s rs) (hq : s.alarms.airQ_alarm = false)
    (hauto : ∀ n, (rs n).autoMode_bo = true) {n : Nat} (hopen : (rs n).win_open_bo = true) :
    (rs (n + 1)).win_open_bo = false := by
  obtain ⟨q', a', hrun, hfit, -⟩ := obeying_run hs hfits hw (fun _ _ => 0) (fun _ _ _ _ => le_rfl) n
  have hoff := runFrom_airQ hq rs n
  rw [hopen] at hfit
  rw [hw n, hrun, sent_at, hopen]
  rw [hrun] at hoff
  exact close_next (fun f _ _ => closes_automatic hoff (hauto n) f) hopen hfit

end SmartWindow
