/-
Which states the loop can be in. Between two passes the machine is in any
state but an opened one of the first three families, and the alarms for
temperature, humidity and noise stand in any combination; the other two never
stand (in exact integers: `airQualityAlarm` says what that leaves out). All of
these are reached, after two passes already (`reachable_iff`), and from each
the loop can come to every other (`reach_any`): no state is a trap.
-/
import SmartWindow.Controller.Feedback

namespace SmartWindow

open OneHot

/-- A state, and alarms, that a pass may end in. -/
structure Possible (q : Flag) (a : Alarms) : Prop where
  between : q.Between
  airQ : a.airQ_alarm = false
  wind : a.wind_alarm = false

/-- What a pass in the manual mode reads of the commands, the window and the priority. -/
structure Hand where
  manClose_bo : Bool
  manOpen_bo : Bool
  win_open_bo : Bool
  priority : Int

def Hand.inputs (h : Hand) (a : Alarms) : Inputs where
  autoMode_bo := false
  manClose_bo := h.manClose_bo
  manOpen_bo := h.manOpen_bo
  win_open_bo := h.win_open_bo
  priority := h.priority
  alarms := a

/-- Readings, with the limits of the script, that bring about the alarms. -/
def Hand.readings (h : Hand) (a : Alarms) : Readings :=
  { firstRows with
    autoMode_bo := false
    manClose_bo := h.manClose_bo
    manOpen_bo := h.manOpen_bo
    win_open_bo := h.win_open_bo
    temp_in := if a.temp_alarm then 0 else 20
    temp_out := if a.temp_alarm then 10 else 20
    humid_in := if a.humid_alarm then 0 else 40
    humid_out := if a.humid_alarm then 10 else 40
    vol_out := if a.vol_alarm then 100 else 20
    priority := h.priority }

theorem updateAlarms_hand (h : Hand) {a₀ a : Alarms} (h₀ : a₀.airQ_alarm = false)
    (ha : a.airQ_alarm = false) (hw : a.wind_alarm = false) : updateAlarms (h.readings a) a₀ = a := by
  obtain ⟨_, temp₀, humid₀, vol₀, _⟩ := a₀
  obtain ⟨_, temp, humid, vol, _⟩ := a
  simp only at h₀ ha hw
  subst h₀ ha hw
  cases temp₀ <;> cases humid₀ <;> cases vol₀ <;> cases temp <;> cases humid <;> cases vol <;> rfl

theorem pass_hand (h : Hand) (q : Flag) {a₀ a : Alarms} (h₀ : a₀.airQ_alarm = false)
    (ha : a.airQ_alarm = false) (hw : a.wind_alarm = false) :
    (decisionPass (.at q a₀) (h.readings a)).state = .at (next (h.inputs a) q) a := by
  rw [decisionPass_at, passInputs, LoopState.at_alarms, updateAlarms_hand h h₀ ha hw]
  rfl

/-! ## Routes -/

/-- The states that passes by hand lead through. -/
def follow (a : Alarms) (q : Flag) (hs : List Hand) : Flag := hs.foldl (fun q h => next (h.inputs a) q) q

/-- From the start to a state. -/
def fromInit : Flag → List Hand
  | .init => [⟨false, false, true, 0⟩]
  | .state0 => [⟨false, false, false, 4⟩]
  | .state f .closed => [⟨false, false, false, f.priority⟩]
  | .state f .opening => [⟨false, true, false, f.priority⟩]
  | .state f .opened => [⟨false, true, false, f.priority⟩, ⟨false, true, true, f.priority⟩]
  | .state f .closing => [⟨false, true, false, f.priority⟩, ⟨true, false, true, f.priority⟩]

/-- And back: a priority of another family leads there. -/
def toInit : Flag → List Hand
  | .init => [⟨false, false, true, 0⟩]
  | .state0 => [⟨false, false, false, 0⟩, ⟨false, false, false, 1⟩]
  | .state f .closed | .state f .closing => [⟨false, false, false, f.priority + 1⟩]
  | .state f .opening => [⟨true, false, true, f.priority⟩, ⟨false, false, false, f.priority + 1⟩]
  | .state f .opened => [⟨false, false, true, f.priority + 1⟩]

theorem follow_fromInit {q : Flag} {a : Alarms} (h : Possible q a) : follow a .init (fromInit q) = q := by
  obtain ⟨hq, -, hw⟩ := h
  obtain ⟨_, _, _, _, _⟩ := a
  simp only at hw
  subst hw
  match q with
  | .init | .state0 => rfl
  | .state f .closed | .state f .opening | .state f .closing => cases f <;> rfl
  | .state f .opened =>
    obtain rfl := hq f rfl
    rfl

theorem follow_toInit {q : Flag} {a : Alarms} (h : Possible q a) : follow a q (toInit q) = .init := by
  obtain ⟨hq, -, hw⟩ := h
  obtain ⟨_, _, _, _, _⟩ := a
  simp only at hw
  subst hw
  match q with
  | .init | .state0 => rfl
  | .state f .closed | .state f .opening | .state f .closing => cases f <;> rfl
  | .state f .opened =>
    obtain rfl := hq f rfl
    rfl

theorem routes_short (q : Flag) : (fromInit q).length ≤ 2 ∧ (toInit q).length ≤ 2 := by
  match q with
  | .init | .state0 => decide
  | .state f g => cases f <;> cases g <;> decide

theorem fromInit_ne_nil (q : Flag) : fromInit q ≠ [] := by
  match q with
  | .init | .state0 => decide
  | .state f g => cases f <;> cases g <;> decide

/-- Passes by hand lead where the routes do, and the alarms are up after the first. -/
theorem passes_hand {a₀ a : Alarms} (h₀ : a₀.airQ_alarm = false) (ha : a.airQ_alarm = false)
    (hw : a.wind_alarm = false) (q : Flag) {hs : List Hand} (hne : hs ≠ []) :
    passes (.at q a₀) (hs.map (·.readings a)) = .at (follow a q hs) a := by
  induction hs generalizing q a₀ with
  | nil => exact absurd rfl hne
  | cons h hs ih =>
    rw [List.map_cons, passes, List.foldl_cons, pass_hand h q h₀ ha hw]
    rcases hs with _ | ⟨h', hs⟩
    · rfl
    · exact ih ha (next (h.inputs a) q) (by simp)

/-! ## The states -/

theorem Reachable.possible {s : LoopState} (h : Reachable s) : ∃ q a, s = .at q a ∧ Possible q a := by
  refine h.invariant (fun s => ∃ q a, s = .at q a ∧ Possible q a)
    ⟨.init, .off, rfl, fun f hf => by simp at hf, rfl, rfl⟩ ?_
  rintro _ r ⟨q, a, rfl, hp⟩
  refine ⟨_, _, decisionPass_at q a r, between_next rfl q, ?_, rfl⟩
  show airQualityAlarm r.airQ_in r.airQ_max a.airQ_alarm = false
  rw [hp.airQ, airQualityAlarm_off]

/-- **From every state the loop can come to every other**, in four passes. -/
theorem reach_any {s s' : LoopState} (h : Reachable s) (h' : Reachable s') :
    ∃ rs, rs.length ≤ 4 ∧ passes s rs = s' := by
  obtain ⟨q, a, rfl, hp⟩ := h.possible
  obtain ⟨q', a', rfl, hp'⟩ := h'.possible
  have hback : Possible q a' := ⟨hp.between, hp'.airQ, hp'.wind⟩
  refine ⟨(toInit q ++ fromInit q').map (·.readings a'), ?_, ?_⟩
  · have := routes_short q
    have := routes_short q'
    rw [List.length_map, List.length_append]
    omega
  · rw [passes_hand hp.airQ hp'.airQ hp'.wind q (by simp [fromInit_ne_nil]), follow, List.foldl_append]
    exact congrArg (LoopState.at · a') ((congrArg (follow a' · (fromInit q')) (follow_toInit hback)).trans
      (follow_fromInit hp'))

/-- Back to the start after a pass. -/
theorem reach_start : ∃ rs, rs.length ≤ 4 ∧ passes (passes .start [firstRows]) rs = .start :=
  reach_any ⟨[firstRows], rfl⟩ .start

/-- **The states of the loop**: exactly the possible ones, and each comes up within two passes. -/
theorem reachable_iff (s : LoopState) :
    (Reachable s ↔ ∃ q a, s = .at q a ∧ Possible q a) ∧
      (Reachable s ↔ ∃ rs, rs.length ≤ 2 ∧ passes .start rs = s) := by
  have hshort (q : Flag) (a : Alarms) (hp : Possible q a) :
      ∃ rs, rs.length ≤ 2 ∧ passes .start rs = .at q a := by
    refine ⟨(fromInit q).map (·.readings a), by simpa using (routes_short q).1, ?_⟩
    rw [LoopState.start_eq, passes_hand rfl hp.airQ hp.wind _ (fromInit_ne_nil q), follow_fromInit hp]
  constructor
  · refine ⟨Reachable.possible, ?_⟩
    rintro ⟨q, a, rfl, hp⟩
    obtain ⟨rs, -, hrs⟩ := hshort q a hp
    exact ⟨rs, hrs⟩
  · constructor
    · intro h
      obtain ⟨q, a, rfl, hp⟩ := h.possible
      exact hshort q a hp
    · rintro ⟨rs, -, hrs⟩
      exact ⟨rs, hrs⟩

end SmartWindow
