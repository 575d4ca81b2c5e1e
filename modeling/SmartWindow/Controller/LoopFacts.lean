/-
What the passes of `decisionLoop` keep. A reachable state has one flag
raised (`Reachable.at`), and then a pass is one step of `next`
(`decisionPass_at`); from there each law of a pass is a case analysis of
the state the pass starts in. `one_flag` says that one flag is raised after
every statement of every pass.
-/
import SmartWindow.Controller.Loop
import SmartWindow.Controller.MachineFacts

namespace SmartWindow

open OneHot

/-- The loop in the state `q`. -/
def LoopState.at (q : Flag) (a : Alarms) : LoopState := ⟨hot q, a⟩

@[simp] theorem LoopState.at_flags (q : Flag) (a : Alarms) : (LoopState.at q a).flags = hot q := rfl

@[simp] theorem LoopState.at_alarms (q : Flag) (a : Alarms) : (LoopState.at q a).alarms = a := rfl

theorem LoopState.start_eq : LoopState.start = .at .init .off := rfl

theorem flags_at (q : Flag) (a : Alarms) (r : Readings) :
    (decisionPass (.at q a) r).state.flags = hot (next (passInputs (.at q a) r) q) := by
  rw [decisionPass_flags, LoopState.at_flags, runTransitions_hot]

theorem decisionPass_at (q : Flag) (a : Alarms) (r : Readings) :
    (decisionPass (.at q a) r).state =
      .at (next (passInputs (.at q a) r) q) (updateAlarms r a) := by
  have hf := flags_at q a r
  have ha := decisionPass_alarms (.at q a) r
  cases hs : (decisionPass (.at q a) r).state with
  | mk flags alarms =>
    rw [hs] at hf ha
    simp only at hf ha
    rw [hf, ha]
    rfl

theorem sent_at (q : Flag) (a : Alarms) (r : Readings) :
    (decisionPass (.at q a) r).sent = command (next (passInputs (.at q a) r) q) := by
  rw [decisionPass_sent, LoopState.at_flags, runTransitions_hot, assignments_hot]

/-- The states between two passes: an open window of the first three
families is being closed by the end of the pass. -/
def Flag.Between (q : Flag) : Prop := ∀ f, q = .state f .opened → f = .all

theorem between_leave {f : Family} {g : Stage} (hg : g ≠ .opened) (i : Inputs) :
    (leave f g i).Between := by
  intro f' h
  unfold leave at h
  split at h
  · simp only [Flag.state.injEq] at h; exact absurd h.2 hg
  · cases h

theorem between_fromClosing (f : Family) (i : Inputs) : (fromClosing f i).Between := by
  unfold fromClosing
  split
  · intro f' h; simp at h
  · exact between_leave (by simp) i

theorem between_fromOpened (f : Family) {i : Inputs} (hw : i.alarms.wind_alarm = false) :
    (fromOpened f i).Between := by
  unfold fromOpened
  split
  · exact between_fromClosing f i
  · next hc =>
    by_cases hf : f = .all
    · subst hf
      intro f' h
      unfold leave at h
      split at h
      · simp only [Flag.state.injEq, and_true] at h; exact h.symm
      · cases h
    · exact absurd (Family.closes_of_ne_all hf hw) hc

theorem between_fromClosed (f : Family) {i : Inputs} (hw : i.alarms.wind_alarm = false) :
    (fromClosed f i).Between := by
  unfold fromClosed fromOpening
  split
  · split
    · exact between_fromOpened f hw
    · intro f' h; simp at h
  · exact between_leave (by simp) i

theorem between_fromState0 {i : Inputs} (hw : i.alarms.wind_alarm = false) :
    (fromState0 i).Between := by
  unfold fromState0
  split
  · exact between_fromClosed _ hw
  · intro f h; simp at h

theorem between_next {i : Inputs} (hw : i.alarms.wind_alarm = false) (q : Flag) :
    (next i q).Between := by
  match q with
  | .init =>
    simp only [next]
    split
    · intro f h; simp at h
    · exact between_fromState0 hw
  | .state0 => exact between_fromState0 hw
  | .state f .closed => exact between_fromClosed f hw
  | .state f .opening =>
    simp only [next, fromOpening]
    split
    · exact between_fromOpened f hw
    · intro f' h; simp at h
  | .state f .opened => exact between_fromOpened f hw
  | .state f .closing => exact between_fromClosing f i

/-- A reachable state is the loop in one state, and has no wind alarm. -/
theorem Reachable.at {s : LoopState} (h : Reachable s) :
    ∃ q a, s = .at q a ∧ q.Between ∧ a.wind_alarm = false := by
  refine h.invariant (fun s => ∃ q a, s = .at q a ∧ q.Between ∧ a.wind_alarm = false)
    ⟨.init, .off, rfl, fun f hf => by simp at hf, rfl⟩ ?_
  intro _ r hx
  obtain ⟨q, a, rfl, -, -⟩ := hx
  exact ⟨_, _, decisionPass_at q a r, between_next rfl q, rfl⟩

/-! ## One flag -/

/-- **Exactly one state.** After any passes from the start, exactly one flag
is raised after every prefix of the transition statements of the next pass,
and at its end; so that pass does not send both commands. -/
theorem one_flag (rs : List Readings) (r : Readings) :
    (∀ k, Single (fires (transitions.take k) (passInputs (passes .start rs) r)
      (passes .start rs).flags)) ∧
    Single (decisionPass (passes .start rs) r).state.flags ∧
    ¬ (WinCommand.Open ∈ (decisionPass (passes .start rs) r).sent ∧
      WinCommand.Close ∈ (decisionPass (passes .start rs) r).sent) := by
  obtain ⟨q, a, hs, -, -⟩ := Reachable.at ⟨rs, rfl⟩
  rw [hs]
  refine ⟨fun k => ?_, ?_, ?_⟩
  · exact fires_single (fun m hm => transitions_src_ne m (List.mem_of_mem_take hm)) _ (single_hot q)
  · rw [flags_at]; exact single_hot _
  · rw [sent_at]
    generalize next (passInputs (.at q a) r) q = q'
    intro ⟨ho, hc⟩
    obtain ⟨f, rfl⟩ := mem_command_open.1 ho
    obtain h | ⟨g, h⟩ := mem_command_close.1 hc <;> simp at h

end SmartWindow
