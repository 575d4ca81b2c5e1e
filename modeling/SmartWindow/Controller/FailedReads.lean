/-
Passes with failing database reads. `decisionLoop` hands `&read_success` to
every call and never looks at it, so a failing read is a read of 0 (or
false). `failed_reads_iff` says when such a pass changes nothing: when the
zeros happen to leave every latch and the state machine at rest.
-/
import SmartWindow.Controller.Feedback

namespace SmartWindow

open OneHot

/-- The same values, read without a failure. -/
def Reads.calls (r : Readings) : Calls where
  autoMode_bo := some r.autoMode_bo
  manClose_bo := some r.manClose_bo
  manOpen_bo := some r.manOpen_bo
  win_open_bo := some r.win_open_bo
  airP_in := some r.airP_in
  airP_out := some r.airP_out
  airP_max := some r.airP_max
  airQ_in := some r.airQ_in
  airQ_out := some r.airQ_out
  airQ_max := some r.airQ_max
  humid_in := some r.humid_in
  humid_out := some r.humid_out
  humid_min := some r.humid_min
  humid_max := some r.humid_max
  temp_in := some r.temp_in
  temp_out := some r.temp_out
  temp_min := some r.temp_min
  temp_max := some r.temp_max
  vol_in := some r.vol_in
  vol_out := some r.vol_out
  vol_max := some r.vol_max
  priority := some r.priority

theorem ret_calls (r : Readings) : Calls.ret (Reads.calls r) = r := rfl

/-! ## Latches at rest -/

/-- The readings clear the temperature (humidity) alarm. -/
def tempReset (r : Readings) : Bool :=
  rangeReset r.temp_in r.temp_out r.temp_min r.temp_max (average r.temp_min r.temp_max)
def humidReset (r : Readings) : Bool :=
  rangeReset r.humid_in r.humid_out r.humid_min r.humid_max (average r.humid_min r.humid_max)

/-- No alarm rule has something to do: what would set a latch finds it on,
what would clear it finds it off. -/
structure LatchesRest (r : Readings) (a : Alarms) : Prop where
  airQ : a.airQ_alarm = true → r.airQ_in < r.airQ_max - 2
  temp_on : tempSet r = true → a.temp_alarm = true
  temp_off : tempSet r = false → tempReset r = true → a.temp_alarm = false
  humid_on : humidSet r = true → a.humid_alarm = true
  humid_off : humidSet r = false → humidReset r = true → a.humid_alarm = false
  vol_on : r.vol_max < r.vol_out → a.vol_alarm = true
  vol_off : r.vol_out ≤ r.vol_max - 2 → a.vol_alarm = false

theorem airQualityAlarm_eq_self {airQ_in airQ_max : Int} {b : Bool} :
    airQualityAlarm airQ_in airQ_max b = b ↔ (b = true → airQ_in < airQ_max - 2) := by
  cases b with
  | false => simp [airQualityAlarm_off]
  | true => simp [airQualityAlarm_eq_true_iff]

theorem rangeAlarm_eq_self {inside outside min max average : Int} {b : Bool} :
    rangeAlarm inside outside min max average b = b ↔
      (rangeSet inside outside min max = true → b = true) ∧
        (rangeSet inside outside min max = false →
          rangeReset inside outside min max average = true → b = false) := by
  rw [Bool.eq_iff_iff, rangeAlarm_eq_true_iff]
  cases hs : rangeSet inside outside min max <;> cases b <;> simp

theorem volumeAlarm_eq_self {vol_out vol_max : Int} {b : Bool} :
    volumeAlarm vol_out vol_max b = b ↔
      (vol_max < vol_out → b = true) ∧ (vol_out ≤ vol_max - 2 → b = false) := by
  rw [Bool.eq_iff_iff, volumeAlarm_eq_true_iff]
  cases b with
  | false => simp
  | true =>
    simp only [true_and, iff_true, implies_true, Bool.true_eq_false, imp_false]
    omega

/-- The alarm section keeps the latches exactly when it finds them at rest. -/
theorem updateAlarms_eq_self {r : Readings} {a : Alarms} (hw : a.wind_alarm = false) :
    updateAlarms r a = a ↔ LatchesRest r a := by
  obtain ⟨airQ, temp, humid, vol, wind⟩ := a
  simp only at hw
  subst hw
  simp only [updateAlarms, Alarms.mk.injEq, and_true, airQualityAlarm_eq_self, rangeAlarm_eq_self,
    volumeAlarm_eq_self]
  constructor
  · intro hx
    obtain ⟨hq, ⟨ht₁, ht₂⟩, ⟨hh₁, hh₂⟩, hv₁, hv₂⟩ := hx
    exact ⟨hq, ht₁, ht₂, hh₁, hh₂, hv₁, hv₂⟩
  · intro hx
    obtain ⟨hq, ht₁, ht₂, hh₁, hh₂, hv₁, hv₂⟩ := hx
    exact ⟨hq, ⟨ht₁, ht₂⟩, ⟨hh₁, hh₂⟩, hv₁, hv₂⟩

/-! ## The machine at rest -/

/-- No transition applies, and no command is sent: `state0` under a priority
that selects no family, or a closed (open) state under its own priority
whose opening (closing) guard is false. -/
def MachineRests (flags : Flags) (i : Inputs) : Prop :=
  (flags .state0 = true ∧ Family.ofPriority i.priority = none) ∨
    ∃ f : Family, i.priority = f.priority ∧
      ((flags (.state f .closed) = true ∧ f.opens i = false) ∨
        (flags (.state f .opened) = true ∧ f.closes i = false))

theorem leave_eq_self {f : Family} {g : Stage} {i : Inputs} :
    leave f g i = .state f g ↔ i.priority = f.priority := by
  unfold leave
  split <;> simp_all

theorem fromClosed_eq_closed {f : Family} {i : Inputs} :
    fromClosed f i = .state f .closed ∧ command (fromClosed f i) = [] ↔
      f.opens i = false ∧ i.priority = f.priority := by
  cases ho : f.opens i with
  | false =>
    simp only [fromClosed, ho, Bool.false_eq_true, if_false, true_and, leave_eq_self]
    exact ⟨fun h => h.1, fun h => ⟨h, by rw [leave_selected h]; rfl⟩⟩
  | true =>
    simp only [fromClosed, fromOpening, fromOpened, fromClosing, ho, if_true, Bool.true_eq_false,
      false_and, iff_false]
    cases hw : i.win_open_bo <;> cases hc : f.closes i <;> simp [leave_ne_state]

theorem fromOpened_eq_opened {f : Family} {i : Inputs} :
    fromOpened f i = .state f .opened ∧ command (fromOpened f i) = [] ↔
      f.closes i = false ∧ i.priority = f.priority := by
  cases hc : f.closes i with
  | false =>
    simp only [fromOpened, hc, Bool.false_eq_true, if_false, true_and, leave_eq_self]
    exact ⟨fun h => h.1, fun h => ⟨h, by rw [leave_selected h]; rfl⟩⟩
  | true =>
    simp only [fromOpened, fromClosing, hc, if_true, Bool.true_eq_false, false_and, iff_false]
    cases hw : i.win_open_bo <;> simp [leave_ne_state]

theorem fromState0_eq_state0 {i : Inputs} :
    fromState0 i = .state0 ↔ Family.ofPriority i.priority = none := by
  unfold fromState0
  cases hp : Family.ofPriority i.priority with
  | none => simp
  | some f =>
    simp only [reduceCtorEq, iff_false]
    intro h
    obtain hi | ⟨g, hg⟩ := within_fromClosed f i
    · rw [h] at hi; cases hi
    · rw [h] at hg; cases hg

theorem next_rests_iff {i : Inputs} {q : Flag} :
    (next i q = q ∧ command (next i q) = []) ↔ MachineRests (hot q) i := by
  simp only [MachineRests, hot_apply]
  match q with
  | .init =>
    simp only [reduceCtorEq, false_and, or_self, and_false, exists_false, iff_false]
    intro hx
    obtain ⟨h, hc⟩ := hx
    rw [h] at hc
    cases hc
  | .state0 =>
    simp only [true_and, reduceCtorEq, false_and, or_self, and_false, exists_false, or_false, next]
    constructor
    · exact fun h => fromState0_eq_state0.1 h.1
    · intro h
      have h0 := fromState0_eq_state0.2 h
      exact ⟨h0, by rw [h0]; rfl⟩
  | .state f .closed =>
    simp only [next, fromClosed_eq_closed, reduceCtorEq, false_and, false_or, or_false,
      Flag.state.injEq, and_true, and_false]
    constructor
    · intro hx
      obtain ⟨ho, hp⟩ := hx
      exact ⟨f, hp, rfl, ho⟩
    · intro hx
      obtain ⟨_, hp, rfl, ho⟩ := hx
      exact ⟨ho, hp⟩
  | .state f .opened =>
    simp only [next, fromOpened_eq_opened, reduceCtorEq, false_and, false_or,
      Flag.state.injEq, and_true, and_false]
    constructor
    · intro hx
      obtain ⟨ho, hp⟩ := hx
      exact ⟨f, hp, rfl, ho⟩
    · intro hx
      obtain ⟨_, hp, rfl, ho⟩ := hx
      exact ⟨ho, hp⟩
  | .state f .opening | .state f .closing =>
    simp only [reduceCtorEq, false_and, Flag.state.injEq, and_false, or_self, exists_false, iff_false]
    intro hx
    obtain ⟨h, hc⟩ := hx
    rw [h] at hc
    cases hc

/-! ## A pass with failing reads -/

/-- The pass leaves the latches and the flags as they are, and sends no command. -/
def ChangesNothing (s : LoopState) (q : Calls) : Prop :=
  (decisionPassCalls s q).state.alarms = s.alarms ∧
    (decisionPassCalls s q).state.flags = s.flags ∧ (decisionPassCalls s q).sent = []

/-- **Failing reads go unnoticed.** Whichever calls of a pass fail, it is the
pass whose calls all succeed with 0 for the failing ones. It changes nothing
exactly when these values find the latches, and with them the state machine,
at rest. -/
theorem failed_reads_iff {s : LoopState} (hs : Reachable s) (q : Calls) :
    decisionPassCalls s q = decisionPassCalls s (Reads.calls q.ret) ∧
    (ChangesNothing s q ↔
      LatchesRest q.ret s.alarms ∧ MachineRests s.flags (inputs q.ret s.alarms)) := by
  refine ⟨by rw [decisionPassCalls, decisionPassCalls, ret_calls], ?_⟩
  obtain ⟨p, a, rfl, -, hw⟩ := hs.at
  simp only [ChangesNothing, decisionPassCalls, decisionPass_alarms, flags_at, sent_at,
    LoopState.at_alarms, LoopState.at_flags, ← updateAlarms_eq_self hw, ← next_rests_iff]
  -- Alarms that stay are also those the machine sees.
  have hi (ha : updateAlarms q.ret a = a) : passInputs (.at p a) q.ret = inputs q.ret a := by
    rw [passInputs, LoopState.at_alarms, ha]
  constructor
  · intro hx
    obtain ⟨ha, hf, hc⟩ := hx
    rw [hi ha] at hf hc
    exact ⟨ha, hot_inj hf, hc⟩
  · intro hx
    obtain ⟨ha, hf, hc⟩ := hx
    rw [hi ha]
    exact ⟨ha, by rw [hf], hc⟩

/-- Resting in `state41` on the first rows of the database. -/
def resting : LoopState := (decisionPass .start firstRows).state

theorem resting_eq : resting = .at state41 .off := by
  rw [resting, LoopState.start_eq, decisionPass_at,
    show next (passInputs (.at .init .off) firstRows) .init = state41 by decide]
  rfl

theorem resting_reachable : Reachable resting := Reachable.start.pass firstRows

/-- The air pressure cannot be read: nothing depends on it. -/
theorem failed_pressure_unnoticed :
    ChangesNothing resting { Reads.calls firstRows with airP_in := none } := by
  refine (failed_reads_iff resting_reachable _).2.2 ⟨?_, .inr ⟨.all, rfl, .inl ⟨?_, ?_⟩⟩⟩
  · rw [resting_eq]
    constructor <;> decide
  · rw [resting_eq, LoopState.at_flags, hot_apply]
  · rw [resting_eq]
    decide

/-- The priority cannot be read: the machine leaves its family, and sends Close. -/
theorem failed_priority_closes : Reachable resting ∧
    false ∈ Calls.succeeded { Reads.calls firstRows with priority := none } ∧
    ¬ ChangesNothing resting { Reads.calls firstRows with priority := none } := by
  refine ⟨resting_reachable, by decide, fun h => ?_⟩
  have hsent := h.2.2
  rw [decisionPassCalls, resting_eq, sent_at] at hsent
  exact absurd hsent (by decide)

end SmartWindow
