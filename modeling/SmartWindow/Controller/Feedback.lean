/-
The loop with its window: runs in which the window status a pass reads is
what the last command asked for.

* `priority_takes_effect`: after a change of priority the machine is in the
  selected family within four passes, and stays there (`distance` counts the
  passes still to go).
* `settles_iff`: under constant readings the loop comes to rest unless the
  readings ask to open a window that the machine then closes at once: it
  goes round opening, closing and closed for ever.
-/
import SmartWindow.Lib.Trans
import SmartWindow.Controller.Commands
import SmartWindow.Controller.Latches

namespace SmartWindow

open OneHot Trans

/-- The status of a window that has carried out the commands in order. -/
def carryOut (win_open : Bool) (sent : List WinCommand) : Bool :=
  sent.foldl (fun _ c => c.status) win_open

/-! ## A change of priority -/

/-- The states of a run, pass by pass. -/
def runFrom (s : LoopState) (rs : Nat → Readings) : Nat → LoopState
  | 0 => s
  | n + 1 => (decisionPass (runFrom s rs n) (rs n)).state

/-- Each later pass reads the window status the last command asked for. -/
def WindowObeys (s : LoopState) (rs : Nat → Readings) : Prop :=
  ∀ n, (rs (n + 1)).win_open_bo =
    carryOut (rs n).win_open_bo (decisionPass (runFrom s rs n) (rs n)).sent

/-- How many passes the machine takes at most from `q` into the family `f`,
when the next pass reads the window status `w`. -/
def distance (f : Family) (q : Flag) (w : Bool) : Nat :=
  match q with
  | .init => if w then 2 else 1
  | .state0 => 1
  | .state f' g =>
    if f' = f then 0
    else match g with
      | .closed => if w then 3 else 4
      | .opening => if w then 3 else 4
      | .opened => 3
      | .closing => if w then 3 else 2

theorem distance_le (f : Family) (q : Flag) (w : Bool) : distance f q w ≤ 4 := by
  match q with
  | .init => simp only [distance]; split <;> omega
  | .state0 => simp [distance]
  | .state f' g =>
    simp only [distance]
    split
    · omega
    · cases g <;> cases w <;> simp

theorem distance_eq_zero {f : Family} {q : Flag} {w : Bool} (h : distance f q w = 0) :
    ∃ g, q = .state f g := by
  match q with
  | .init => cases w <;> simp [distance] at h
  | .state0 => simp [distance] at h
  | .state f' g =>
    by_cases hf : f' = f
    · exact ⟨g, by rw [hf]⟩
    · cases g <;> cases w <;> simp [distance, hf] at h

theorem leave_selected {f : Family} {i : Inputs} (hp : i.priority = f.priority) (g : Stage) :
    leave f g i = .state f g := by simp [leave, hp]

theorem leave_unselected {f : Family} {i : Inputs} (hp : i.priority ≠ f.priority) (g : Stage) :
    leave f g i = .init := by simp [leave, hp]

theorem next_selected {f : Family} {i : Inputs} (hp : i.priority = f.priority) (g : Stage) :
    ∃ g', next i (.state f g) = .state f g' := by
  have hclosing : ∃ g', fromClosing f i = .state f g' := by
    unfold fromClosing
    split
    · exact ⟨_, rfl⟩
    · exact ⟨_, leave_selected hp _⟩
  have hopened : ∃ g', fromOpened f i = .state f g' := by
    unfold fromOpened
    split
    · exact hclosing
    · exact ⟨_, leave_selected hp _⟩
  have hopening : ∃ g', fromOpening f i = .state f g' := by
    unfold fromOpening
    split
    · exact hopened
    · exact ⟨_, rfl⟩
  cases g with
  | closed =>
    simp only [next, fromClosed]
    split
    · exact hopening
    · exact ⟨_, leave_selected hp _⟩
  | opening => exact hopening
  | opened => exact hopened
  | closing => exact hclosing

theorem fromState0_selected {f : Family} {i : Inputs} (hp : i.priority = f.priority) :
    ∃ g, fromState0 i = .state f g := by
  obtain ⟨g, hg⟩ := next_selected hp .closed
  exact ⟨g, fromState0_eq_state.2 ⟨hp, hg⟩⟩

/-- A pass brings the machine a pass nearer. -/
theorem distance_next {f : Family} {i : Inputs} (hp : i.priority = f.priority) (q : Flag) :
    distance f (next i q) (carryOut i.win_open_bo (command (next i q))) ≤
      distance f q i.win_open_bo - 1 := by
  match q with
  | .init =>
    cases hw : i.win_open_bo with
    | true => simp [next, hw, distance, command, carryOut, WinCommand.status]
    | false =>
      obtain ⟨g, hg⟩ := fromState0_selected hp
      simp [next, hw, hg, distance]
  | .state0 =>
    obtain ⟨g, hg⟩ := fromState0_selected hp
    simp [next, hg, distance]
  | .state f' g =>
    by_cases hf : f' = f
    · subst hf
      obtain ⟨g', hg'⟩ := next_selected hp g
      simp [hg', distance]
    · have hp' : i.priority ≠ f'.priority := fun h => hf (Family.priority_inj (h.symm.trans hp))
      cases hw : i.win_open_bo <;> cases ho : f'.opens i <;> cases hc : f'.closes i <;> cases g <;>
        simp [next, fromClosed, fromOpening, fromOpened, fromClosing, leave_unselected hp', hw, ho, hc,
          distance, hf, command, carryOut, WinCommand.status]

/-- **A priority change takes effect**: from any reachable state, under the
constant priority of `f`, the machine is in a state of `f` after four passes
and after every later one. -/
theorem priority_takes_effect {s : LoopState} (hs : Reachable s) (f : Family) {rs : Nat → Readings}
    (hp : ∀ n, (rs n).priority = f.priority) (hw : WindowObeys s rs) {n : Nat} (hn : 4 ≤ n) :
    ∃ g, (runFrom s rs n).flags (.state f g) = true := by
  have key : ∀ n, ∃ q a, runFrom s rs n = .at q a ∧ distance f q (rs n).win_open_bo ≤ 4 - n := by
    intro n
    induction n with
    | zero =>
      obtain ⟨q, a, h, -, -⟩ := hs.at
      exact ⟨q, a, h, distance_le f q _⟩
    | succ n ih =>
      obtain ⟨q, a, h, hd⟩ := ih
      refine ⟨_, _, by rw [runFrom, h]; exact decisionPass_at q a (rs n), ?_⟩
      rw [hw n, h, sent_at]
      have hstep := distance_next (i := passInputs (.at q a) (rs n)) (hp n) q
      have hwin : (passInputs (.at q a) (rs n)).win_open_bo = (rs n).win_open_bo := rfl
      rw [hwin] at hstep
      omega
  obtain ⟨q, a, h, hd⟩ := key n
  obtain ⟨g, rfl⟩ := distance_eq_zero (Nat.eq_zero_of_le_zero (hd.trans (by omega)))
  exact ⟨g, by rw [h, LoopState.at_flags, hot_self]⟩

/-- Readings under which the priority goes to temperature while the window
is being opened for the humidity, with the status such a window reports. -/
def turnToTemperature (n : Nat) : Readings :=
  { sultry with
    priority := 1
    win_open_bo := match n with
      | 1 => true
      | _ => false }

/-- The opening is finished, the window closed again, and `init` passed. -/
def turningStates : Nat → Flag
  | 0 => state12
  | 1 => state12
  | 2 => state14
  | 3 => .init
  | _ => state21

theorem turnToTemperature_next (n : Nat) :
    next (passInputs (.at (turningStates n) ⟨false, false, true, false, false⟩)
      (turnToTemperature n)) (turningStates n) = turningStates (n + 1) := by
  match n with
  | 0 | 1 | 2 | 3 => decide
  | _ + 4 => rfl

theorem runFrom_turning (n : Nat) : runFrom sultryOpening turnToTemperature n =
    .at (turningStates n) ⟨false, false, true, false, false⟩ := by
  induction n with
  | zero => exact sultryOpening_eq
  | succ n ih =>
    rw [runFrom, ih, decisionPass_at, turnToTemperature_next]
    rfl

theorem turning_obeys : WindowObeys sultryOpening turnToTemperature := by
  intro n
  rw [runFrom_turning, sent_at, turnToTemperature_next]
  match n with
  | 0 | 1 | 2 => rfl
  | _ + 3 => rfl

/-- This change takes the four passes. -/
theorem turn_takes_effect :
    ∃ g, (runFrom sultryOpening turnToTemperature 4).flags (.state .temperature g) = true :=
  priority_takes_effect sultryOpening_reachable .temperature (fun _ => rfl) turning_obeys le_rfl

/-! ## Constant readings -/

/-- One pass under constant readings, and the window carrying out its commands. -/
def loopStep (r : Readings) (x : LoopState × Bool) : LoopState × Bool :=
  let p := decisionPass x.1 { r with win_open_bo := x.2 }
  (p.state, carryOut x.2 p.sent)

/-- The state-machine flags and the window status. -/
def observed (x : LoopState × Bool) : Flags × Bool := (x.1.flags, x.2)

/-- The temperature (humidity) readings set their alarm. -/
def tempSet (r : Readings) : Bool := rangeSet r.temp_in r.temp_out r.temp_min r.temp_max
def humidSet (r : Readings) : Bool := rangeSet r.humid_in r.humid_out r.humid_min r.humid_max

/-- The settings and readings ask to open a closed window: the manual
command, or an alarm the priority attends to and no noise. The air quality
alarm never stands under constant readings: the statement that sets it is
undone by the next. -/
def AsksToOpen (r : Readings) : Prop :=
  (r.autoMode_bo = false ∧ r.manOpen_bo = true) ∨
    (r.autoMode_bo = true ∧ r.vol_out ≤ r.vol_max ∧
      ((r.priority = 0 ∧ humidSet r = true) ∨ (r.priority = 1 ∧ tempSet r = true) ∨
        (r.priority = 3 ∧ (tempSet r = true ∨ humidSet r = true))))

def steadyAlarms (r : Readings) : Alarms :=
  ⟨false, tempSet r, humidSet r, decide (r.vol_out > r.vol_max), false⟩

theorem volumeAlarm_idem (vol_out vol_max : Int) :
    volumeAlarm vol_out vol_max false = decide (vol_out > vol_max) ∧
      volumeAlarm vol_out vol_max (decide (vol_out > vol_max)) = decide (vol_out > vol_max) := by
  by_cases h : vol_out > vol_max
  · have h2 : ¬ vol_max - 2 ≥ vol_out := by omega
    simp [volumeAlarm, h, h2]
  · simp [volumeAlarm, h]

theorem rangeAlarm_idem (inside outside min max average : Int) :
    rangeAlarm inside outside min max average false = rangeSet inside outside min max ∧
      rangeAlarm inside outside min max average (rangeSet inside outside min max) =
        rangeSet inside outside min max := by
  cases h : rangeSet inside outside min max <;> simp [rangeAlarm, h]

theorem updateAlarms_steady (r : Readings) (w : Bool) {a : Alarms}
    (ha : a = .off ∨ a = steadyAlarms r) :
    updateAlarms { r with win_open_bo := w } a = steadyAlarms r := by
  have hq := airQualityAlarm_off r.airQ_in r.airQ_max
  have hv := volumeAlarm_idem r.vol_out r.vol_max
  have ht := rangeAlarm_idem r.temp_in r.temp_out r.temp_min r.temp_max (average r.temp_min r.temp_max)
  have hh := rangeAlarm_idem r.humid_in r.humid_out r.humid_min r.humid_max
    (average r.humid_min r.humid_max)
  rcases ha with rfl | rfl
  · simp [updateAlarms, steadyAlarms, Alarms.off, tempSet, humidSet, hq, hv.1, ht.1, hh.1]
  · simp [updateAlarms, steadyAlarms, tempSet, humidSet, hq, hv.2, ht.2, hh.2]

/-- What the machine sees under constant readings, but for the window status. -/
def steadyInputs (r : Readings) (w : Bool) : Inputs :=
  inputs { r with win_open_bo := w } (steadyAlarms r)

theorem loopStep_at (r : Readings) (q : Flag) (w : Bool) {a : Alarms}
    (ha : a = .off ∨ a = steadyAlarms r) :
    loopStep r (.at q a, w) =
      (.at (next (steadyInputs r w) q) (steadyAlarms r),
        carryOut w (command (next (steadyInputs r w) q))) := by
  have hi : passInputs (.at q a) { r with win_open_bo := w } = steadyInputs r w := by
    simp only [passInputs, LoopState.at_alarms, updateAlarms_steady r w ha, steadyInputs]
  simp only [loopStep, decisionPass_at, sent_at, hi, updateAlarms_steady r w ha]

@[simp] theorem steadyInputs_win (r : Readings) (w : Bool) :
    (steadyInputs r w).win_open_bo = w := rfl

/-- The guards do not look at the window. -/
theorem steadyInputs_closes (r : Readings) (w w' : Bool) (f : Family) :
    f.closes (steadyInputs r w) = f.closes (steadyInputs r w') := by
  cases f <;> rfl

section Constant

variable {r : Readings} {f : Family}

/-- The loop in the state `q` under steady alarms, with its window. -/
def steadyAt (r : Readings) (q : Flag) (w : Bool) : LoopState × Bool := (.at q (steadyAlarms r), w)

theorem loopStep_start : loopStep r (.start, false) =
    steadyAt r (next (steadyInputs r false) .init)
      (carryOut false (command (next (steadyInputs r false) .init))) :=
  loopStep_at r .init false (.inl rfl)

theorem loopStep_steady (q : Flag) (w : Bool) : loopStep r (steadyAt r q w) =
    steadyAt r (next (steadyInputs r w) q) (carryOut w (command (next (steadyInputs r w) q))) :=
  loopStep_at r q w (.inr rfl)

theorem loopStep_first (hp : r.priority = f.priority) : loopStep r (.start, false) =
    if f.opens (steadyInputs r false) then steadyAt r (.state f .opening) true
    else steadyAt r (.state f .closed) false := by
  have hpi : (steadyInputs r false).priority = f.priority := hp
  have h0 : next (steadyInputs r false) .init = fromClosed f (steadyInputs r false) := by
    simp [next, fromState0, hpi, Family.ofPriority_priority]
  rw [loopStep_start, h0]
  cases ho : f.opens (steadyInputs r false) <;>
    simp [fromClosed, fromOpening, ho, leave_selected hpi, command, carryOut, WinCommand.status]

/-- The loop settles unless the machine opens the window and then closes it. -/
theorem settles_iff_guards (hp : r.priority = f.priority) :
    Settles (loopStep r) observed (.start, false) ↔
      ¬ (f.opens (steadyInputs r false) = true ∧ f.closes (steadyInputs r false) = true) := by
  have hpi : ∀ w, (steadyInputs r w).priority = f.priority := fun _ => hp
  have h1 := loopStep_first hp
  cases ho : f.opens (steadyInputs r false) with
  | false =>
    simp only [ho, Bool.false_eq_true, if_false] at h1
    simp only [Bool.false_eq_true, false_and, not_false_eq_true, iff_true]
    refine Settles.of_isFixedPt 1 ?_
    rw [Function.iterate_one, h1, Function.IsFixedPt, loopStep_steady]
    simp [next, fromClosed, ho, leave_selected (hpi false), command, carryOut]
  | true =>
    simp only [ho, if_true] at h1
    cases hc : f.closes (steadyInputs r false) with
    | false =>
      -- The open window of the last family, in manual mode.
      simp only [Bool.false_eq_true, and_false, not_false_eq_true, iff_true]
      have hc' : f.closes (steadyInputs r true) = false := steadyInputs_closes r true false f ▸ hc
      have h2 : loopStep r (loopStep r (.start, false)) = steadyAt r (.state f .opened) true := by
        rw [h1, loopStep_steady]
        simp [next, fromOpening, fromOpened, hc', leave_selected (hpi true), command, carryOut]
      refine Settles.of_isFixedPt 2 ?_
      rw [Function.iterate_succ_apply, Function.iterate_one, h2, Function.IsFixedPt, loopStep_steady]
      simp [next, fromOpened, hc', leave_selected (hpi true), command, carryOut]
    | true =>
      -- Opening, closing, closed and opening again.
      simp only [and_self, not_true_eq_false, iff_false]
      have hc' : f.closes (steadyInputs r true) = true := steadyInputs_closes r true false f ▸ hc
      have h2 : loopStep r (steadyAt r (.state f .opening) true) =
          steadyAt r (.state f .closing) false := by
        rw [loopStep_steady]
        simp [next, fromOpening, fromOpened, fromClosing, hc', command, carryOut, WinCommand.status]
      have h3 : loopStep r (steadyAt r (.state f .closing) false) =
          steadyAt r (.state f .closed) false := by
        rw [loopStep_steady]
        simp [next, fromClosing, leave_selected (hpi false), command, carryOut]
      have h4 : loopStep r (steadyAt r (.state f .closed) false) =
          steadyAt r (.state f .opening) true := by
        rw [loopStep_steady]
        simp [next, fromClosed, fromOpening, ho, command, carryOut, WinCommand.status]
      refine not_settles_of_cycle (n := 1) (p := 3) (k := 1) (by omega) ?_ ?_
      · simp only [Function.IsPeriodicPt, Function.IsFixedPt, Function.iterate_one, h1]
        rw [Function.iterate_succ_apply, Function.iterate_succ_apply, Function.iterate_one, h2, h3, h4]
      · simp only [Function.iterate_one, h1, h2]
        simp [observed, steadyAt]

theorem opens_and_closes_iff (hp : r.priority = f.priority)
    (hm : ¬ (r.manOpen_bo = true ∧ r.manClose_bo = true)) :
    (f.opens (steadyInputs r false) = true ∧ f.closes (steadyInputs r false) = true) ↔
      AsksToOpen r ∧ ¬ (r.priority = 3 ∧ r.autoMode_bo = false) := by
  have hauto : (steadyInputs r false).autoMode_bo = r.autoMode_bo := rfl
  have hopen : (steadyInputs r false).manOpen_bo = r.manOpen_bo := rfl
  have hclose : (steadyInputs r false).manClose_bo = r.manClose_bo := rfl
  have hal : (steadyInputs r false).alarms = steadyAlarms r := rfl
  have hvol : (r.vol_out ≤ r.vol_max) ↔ ¬ r.vol_max < r.vol_out := by omega
  simp only [AsksToOpen, hp]
  cases f <;> cases ha : r.autoMode_bo <;> cases ho : r.manOpen_bo <;> cases hc : r.manClose_bo <;>
    simp_all [Family.opens, Family.closes, Family.alarm, openGuard, closeGuard, closeGuard4,
      steadyAlarms, Family.priority, and_comm]

end Constant

/-- **Rest under constant readings.** The loop settles unless the settings
and readings ask to open, but for manual mode under priority 3, where an
open window stays open. -/
theorem settles_iff {r : Readings} (hp : 0 ≤ r.priority ∧ r.priority ≤ 3)
    (hm : ¬ (r.manOpen_bo = true ∧ r.manClose_bo = true)) :
    Settles (loopStep r) observed (.start, false) ↔
      ¬ AsksToOpen r ∨ (r.priority = 3 ∧ r.autoMode_bo = false) := by
  obtain ⟨f, hf⟩ : ∃ f : Family, r.priority = f.priority := by
    obtain h | h | h | h : r.priority = 0 ∨ r.priority = 1 ∨ r.priority = 2 ∨ r.priority = 3 := by
      omega
    · exact ⟨.humidity, h⟩
    · exact ⟨.temperature, h⟩
    · exact ⟨.airQuality, h⟩
    · exact ⟨.all, h⟩
  rw [settles_iff_guards hf, opens_and_closes_iff hf hm, not_and_or, not_not]

/-- The first rows of the database are comfortable. -/
theorem firstRows_settles : Settles (loopStep firstRows) observed (.start, false) :=
  (settles_iff (by decide) (by decide)).2 (.inl (by unfold AsksToOpen; decide))

/-- While it is too humid inside, and drier outside, the window is opened
and closed for ever. -/
theorem sultry_never_settles : (0 ≤ sultry.priority ∧ sultry.priority ≤ 3) ∧
    ¬ (sultry.manOpen_bo = true ∧ sultry.manClose_bo = true) ∧
    ¬ Settles (loopStep sultry) observed (.start, false) := by
  refine ⟨by decide, by decide, ?_⟩
  rw [settles_iff_guards (f := .humidity) rfl]
  decide

end SmartWindow
