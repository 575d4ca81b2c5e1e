/-
When a pass moves the window: what Close, Open and the entry into an opening
state need of the state before the pass and of its inputs.

* `close_founded_iff`: when Close comes without a reason (a missing `!` and
  an `||` for an `&&` in Transitions 1.4, 2.4, 3.4 and 4.4).
* `open_under_veto_iff`: an opening that has begun is carried on against a
  veto; none begins against one.
* `opens_selected_iff`: a closed state opens before it looks at the priority.
-/
import SmartWindow.Controller.LoopFacts

namespace SmartWindow

open OneHot

/-! ## Where a pass ends -/

theorem leave_ne_state {f f' : Family} {g g' : Stage} (hg : g ≠ g') (i : Inputs) :
    leave f g i ≠ .state f' g' := by
  unfold leave
  split
  · intro h; simp only [Flag.state.injEq] at h; exact hg h.2
  · simp

theorem fromClosing_eq_closing {f f' : Family} {i : Inputs} :
    fromClosing f i = .state f' .closing ↔ i.win_open_bo = true ∧ f = f' := by
  unfold fromClosing
  split
  · next hw => simp [hw]
  · next hw => simp [hw, leave_ne_state]

theorem fromClosing_ne_opening (f f' : Family) (i : Inputs) :
    fromClosing f i ≠ .state f' .opening := by
  unfold fromClosing
  split
  · simp
  · exact leave_ne_state (by simp) i

theorem fromOpened_eq_closing {f f' : Family} {i : Inputs} :
    fromOpened f i = .state f' .closing ↔
      f.closes i = true ∧ i.win_open_bo = true ∧ f = f' := by
  unfold fromOpened
  split
  · next hc => simp [hc, fromClosing_eq_closing]
  · next hc => simp [hc, leave_ne_state]

theorem fromOpened_ne_opening (f f' : Family) (i : Inputs) :
    fromOpened f i ≠ .state f' .opening := by
  unfold fromOpened
  split
  · exact fromClosing_ne_opening f f' i
  · exact leave_ne_state (by simp) i

theorem fromOpening_eq_opening {f f' : Family} {i : Inputs} :
    fromOpening f i = .state f' .opening ↔ i.win_open_bo = false ∧ f = f' := by
  unfold fromOpening
  split
  · next hw => simp [hw, fromOpened_ne_opening]
  · next hw => simp [hw]

theorem fromOpening_eq_closing {f f' : Family} {i : Inputs} :
    fromOpening f i = .state f' .closing ↔
      i.win_open_bo = true ∧ f.closes i = true ∧ f = f' := by
  unfold fromOpening
  split
  · next hw => simp [hw, fromOpened_eq_closing]
  · next hw => simp [hw]

theorem fromClosed_eq_opening {f f' : Family} {i : Inputs} :
    fromClosed f i = .state f' .opening ↔
      f.opens i = true ∧ i.win_open_bo = false ∧ f = f' := by
  unfold fromClosed
  split
  · next ho => simp [ho, fromOpening_eq_opening]
  · next ho => simp [ho, leave_ne_state]

theorem fromClosed_eq_closing {f f' : Family} {i : Inputs} :
    fromClosed f i = .state f' .closing ↔
      f.opens i = true ∧ i.win_open_bo = true ∧ f.closes i = true ∧ f = f' := by
  unfold fromClosed
  split
  · next ho => simp [ho, fromOpening_eq_closing]
  · next ho => simp [ho, leave_ne_state]

theorem fromState0_eq_state {f : Family} {g : Stage} {i : Inputs} :
    fromState0 i = .state f g ↔ i.priority = f.priority ∧ fromClosed f i = .state f g := by
  unfold fromState0
  cases hp : Family.ofPriority i.priority with
  | none =>
    simp only [reduceCtorEq, false_iff, not_and]
    intro h
    simp [h, Family.ofPriority_priority] at hp
  | some f' =>
    have hf' := Family.ofPriority_eq_some.1 hp
    constructor
    · intro h
      simp only at h
      have hf : f' = f := by
        obtain hi | ⟨g', hg⟩ := within_fromClosed f' i
        · rw [h] at hi; cases hi
        · rw [h] at hg; simp only [Flag.state.injEq] at hg; exact hg.1.symm
      subst hf
      exact ⟨hf', h⟩
    · intro hx
      obtain ⟨h, hc⟩ := hx
      rw [Family.priority_inj (hf'.symm.trans h)]
      exact hc

/-! ## The states a pass opens from -/

/-- The window the pass may open from `q` is that of `f`: `q` is its closed
state, or `state0` under its priority (or `init`, which is left for `state0`
when the window is closed). -/
def Flag.MayOpen (q : Flag) (f : Family) (i : Inputs) : Prop :=
  q = .state f .closed ∨
    ((q = .state0 ∨ (q = .init ∧ i.win_open_bo = false)) ∧ i.priority = f.priority)

/-- From `q`, a pass that reads an open window comes through the opened state of `f`. -/
def Flag.ReachesOpened (q : Flag) (f : Family) (i : Inputs) : Prop :=
  q = .state f .opened ∨ q = .state f .opening ∨ (q.MayOpen f i ∧ f.opens i = true)

@[simp] theorem mayOpen_state {f' : Family} {g : Stage} {f : Family} {i : Inputs} :
    (Flag.state f' g).MayOpen f i ↔ f' = f ∧ g = .closed := by
  simp [Flag.MayOpen]

@[simp] theorem reachesOpened_state {f' : Family} {g : Stage} {f : Family} {i : Inputs} :
    (Flag.state f' g).ReachesOpened f i ↔
      f' = f ∧ (g = .opened ∨ g = .opening ∨ (g = .closed ∧ f.opens i = true)) := by
  simp only [Flag.ReachesOpened, mayOpen_state, Flag.state.injEq]
  tauto

theorem next_eq_opening {i : Inputs} {q : Flag} {f : Family} :
    next i q = .state f .opening ↔
      i.win_open_bo = false ∧
        (q = .state f .opening ∨ (q.MayOpen f i ∧ f.opens i = true)) := by
  match q with
  | .init =>
    simp only [next]
    split
    · next hw => simp [hw]
    · next hw =>
      simp only [Bool.not_eq_true] at hw
      simp only [fromState0_eq_state, fromClosed_eq_opening, Flag.MayOpen, hw]
      simp [and_comm]
  | .state0 =>
    simp only [next, fromState0_eq_state, fromClosed_eq_opening, Flag.MayOpen]
    simp
    tauto
  | .state f' g =>
    by_cases hf : f' = f
    · subst hf
      cases g <;> simp [next, fromClosed_eq_opening, fromOpening_eq_opening, fromOpened_ne_opening,
        fromClosing_ne_opening, and_comm]
    · cases g <;> simp [next, fromClosed_eq_opening, fromOpening_eq_opening, fromOpened_ne_opening,
        fromClosing_ne_opening, hf]

theorem next_eq_closing {i : Inputs} {q : Flag} {f : Family} :
    next i q = .state f .closing ↔
      i.win_open_bo = true ∧
        (q = .state f .closing ∨ (q.ReachesOpened f i ∧ f.closes i = true)) := by
  match q with
  | .init =>
    simp only [next]
    split
    · next hw => simp [hw, Flag.ReachesOpened, Flag.MayOpen]
    · next hw => simp [hw, fromState0_eq_state, fromClosed_eq_closing]
  | .state0 =>
    simp only [next, fromState0_eq_state, fromClosed_eq_closing, Flag.ReachesOpened, Flag.MayOpen]
    simp
    tauto
  | .state f' g =>
    by_cases hf : f' = f
    · subst hf
      cases g <;> simp [next, fromClosed_eq_closing, fromOpening_eq_closing, fromOpened_eq_closing,
        fromClosing_eq_closing, and_comm, and_assoc]
    · cases g <;> simp [next, fromClosed_eq_closing, fromOpening_eq_closing, fromOpened_eq_closing,
        fromClosing_eq_closing, hf]

/-! ## Two states -/

/-- Too humid inside and drier outside, with the priority on humidity. -/
def sultry : Readings := { firstRows with humid_in := 70, humid_out := 40, priority := 0 }

/-- The first pass finds it too humid: the window is being opened. -/
def sultryOpening : LoopState := (decisionPass .start sultry).state

/-- The first pass finds the humidity comfortable: the window stays closed. -/
def humidClosed : LoopState := (decisionPass .start { firstRows with priority := 0 }).state

theorem sultryOpening_eq : sultryOpening = .at state12 ⟨false, false, true, false, false⟩ := by
  rw [sultryOpening, LoopState.start_eq, decisionPass_at,
    show next (passInputs (.at .init .off) sultry) .init = state12 by decide]
  rfl

theorem humidClosed_eq : humidClosed = .at state11 ⟨false, false, false, false, false⟩ := by
  rw [humidClosed, LoopState.start_eq, decisionPass_at,
    show next (passInputs (.at .init .off) { firstRows with priority := 0 }) .init = state11 by decide]
  rfl

theorem sultryOpening_reachable : Reachable sultryOpening := Reachable.start.pass _

theorem humidClosed_reachable : Reachable humidClosed := Reachable.start.pass _

/-! ## Close -/

/-- The reason to close the window of `f`: the manual command, noise
outside, or that no alarm of the family stands. -/
def Family.closeReason (f : Family) (i : Inputs) : Prop :=
  (i.autoMode_bo = false ∧ i.manClose_bo = true) ∨
    (i.autoMode_bo = true ∧ (i.alarms.vol_alarm = true ∨ f.alarm i.alarms = false))

/-- The pass sends Close only after a start or a change of priority, to go
on closing, or for a reason of its family. -/
def ClosesForReason (s : LoopState) (r : Readings) : Prop :=
  WinCommand.Close ∈ (decisionPass s r).sent →
    (decisionPass s r).state.flags .init = true ∨
    (∃ f, s.flags (.state f .closing) = true) ∨
    ∃ f, (decisionPass s r).state.flags (.state f .closing) = true ∧
      f.closeReason (passInputs s r)

/-- The pass reads an open window, comes through the opened state of a
family, and that family's closing guard holds without a reason. -/
def ClosesUnfounded (s : LoopState) (r : Readings) : Prop :=
  r.win_open_bo = true ∧ ∃ q f, s.flags q = true ∧ q.ReachesOpened f (passInputs s r) ∧
    f.closes (passInputs s r) = true ∧ ¬ f.closeReason (passInputs s r)

/-- **When Close has a reason**: unless the pass comes through an opened
state whose closing guard holds without one. -/
theorem close_founded_iff {s : LoopState} (hs : Reachable s) (r : Readings) :
    ClosesForReason s r ↔ ¬ ClosesUnfounded s r := by
  obtain ⟨q, a, rfl, -, -⟩ := hs.at
  simp only [ClosesForReason, ClosesUnfounded, flags_at, sent_at, mem_command_close, hot_apply,
    LoopState.at_flags]
  have hw : (passInputs (.at q a) r).win_open_bo = r.win_open_bo := rfl
  generalize passInputs (.at q a) r = i at hw ⊢
  constructor
  · intro h hx
    obtain ⟨hopen, _, f, rfl, hq, hc, hno⟩ := hx
    have hn : next i _ = .state f .closing := next_eq_closing.2 ⟨hw.trans hopen, .inr ⟨hq, hc⟩⟩
    obtain h | ⟨g, h⟩ | ⟨g, h, hr⟩ := h (.inr ⟨f, hn⟩)
    · rw [hn] at h; cases h
    · subst h; simp at hq
    · rw [hn] at h
      simp only [Flag.state.injEq, and_true] at h
      subst h
      exact hno hr
  · intro h hx
    rcases hx with hi | ⟨f, hf⟩
    · exact .inl hi.symm
    · obtain ⟨hopen, rfl | ⟨hq, hc⟩⟩ := next_eq_closing.1 hf
      · exact .inr (.inl ⟨f, rfl⟩)
      · refine .inr (.inr ⟨f, hf.symm, ?_⟩)
        by_contra hno
        exact h ⟨hw.symm.trans hopen, q, f, rfl, hq, hc, hno⟩

/-- The manual command is a reason. -/
theorem close_founded_manual : ClosesForReason sultryOpening
    { sultry with autoMode_bo := false, manClose_bo := true, win_open_bo := true } :=
  (close_founded_iff sultryOpening_reachable _).2 fun ⟨_, _, _, _, _, _, hno⟩ =>
    hno (.inl ⟨rfl, rfl⟩)

/-- The window that was opened because it is too humid inside reports open,
and is closed again at once, while the alarm still stands. -/
theorem close_without_reason : Reachable sultryOpening ∧
    ¬ ClosesForReason sultryOpening { sultry with win_open_bo := true } := by
  refine ⟨sultryOpening_reachable, fun h => ?_⟩
  rw [sultryOpening_eq] at h
  simp only [ClosesForReason, flags_at, sent_at, mem_command_close, hot_apply,
    LoopState.at_flags] at h
  have hn : next (passInputs (.at state12 ⟨false, false, true, false, false⟩)
      { sultry with win_open_bo := true }) state12 = state14 := by decide
  rw [hn] at h
  obtain h | ⟨f, h⟩ | ⟨f, h, hr⟩ := h (.inr ⟨.humidity, rfl⟩)
  · cases h
  · cases h
  · cases h
    rcases hr with ⟨hr, -⟩ | ⟨-, hr | hr⟩
    · exact absurd hr (by decide)
    · exact absurd hr (by decide)
    · exact absurd hr (by decide)

/-! ## Open -/

/-- Noise outside in automatic mode, or the manual command to close without the one to open. -/
def Veto (i : Inputs) : Prop :=
  (i.autoMode_bo = true ∧ i.alarms.vol_alarm = true) ∨
    (i.autoMode_bo = false ∧ i.manClose_bo = true ∧ i.manOpen_bo = false)

theorem Veto.opens {i : Inputs} (h : Veto i) (f : Family) : f.opens i = false := by
  rcases h with ⟨ha, hv⟩ | ⟨ha, -, hm⟩
  · simp [Family.opens, openGuard, ha, hv]
  · simp [Family.opens, openGuard, ha, hm]

/-- **Open against a veto**: only to go on with an opening that an earlier
pass began and the window has not reported yet. -/
theorem open_under_veto_iff {s : LoopState} (hs : Reachable s) {r : Readings}
    (hv : Veto (passInputs s r)) :
    WinCommand.Open ∈ (decisionPass s r).sent ↔
      (∃ f, s.flags (.state f .opening) = true) ∧ r.win_open_bo = false := by
  obtain ⟨q, a, rfl, -, -⟩ := hs.at
  have hw : (passInputs (.at q a) r).win_open_bo = r.win_open_bo := rfl
  have ho : ∀ f : Family, f.opens (passInputs (.at q a) r) = false := hv.opens
  simp only [sent_at, mem_command_open, Flag.isOpening, next_eq_opening, LoopState.at_flags,
    hot_apply, hw, ho, Bool.false_eq_true, and_false, or_false]
  constructor
  · intro hx
    obtain ⟨f, hr, rfl⟩ := hx
    exact ⟨⟨f, rfl⟩, hr⟩
  · intro hx
    obtain ⟨⟨f, rfl⟩, hr⟩ := hx
    exact ⟨f, hr, rfl⟩

/-- A closed window stays closed when it is loud outside. -/
theorem no_open_under_noise :
    WinCommand.Open ∉ (decisionPass humidClosed { sultry with vol_out := 90 }).sent := by
  intro h
  obtain ⟨⟨f, hf⟩, -⟩ := (open_under_veto_iff humidClosed_reachable
    (.inl ⟨rfl, by rw [humidClosed_eq]; decide⟩)).1 h
  rw [humidClosed_eq, LoopState.at_flags, hot_apply] at hf
  cases hf

/-- The window is being opened when it gets loud outside, and is sent Open again. -/
theorem open_against_noise : Reachable sultryOpening ∧
    Veto (passInputs sultryOpening { sultry with vol_out := 90 }) ∧
    WinCommand.Open ∈ (decisionPass sultryOpening { sultry with vol_out := 90 }).sent := by
  refine ⟨sultryOpening_reachable, ?_, ?_⟩
  · rw [sultryOpening_eq]; exact .inl ⟨rfl, by decide⟩
  · rw [sultryOpening_eq, sent_at]; decide

/-! ## The selected family -/

/-- An opening state the pass is in at some point, but was not in at its
start, is that of the family the priority selects. -/
def OpensSelected (s : LoopState) (r : Readings) : Prop :=
  (∀ f, s.flags (.state f .opening) = false) → ∀ k f,
    fires (transitions.take k) (passInputs s r) s.flags (.state f .opening) = true →
      r.priority = f.priority

/-- The closed state of a family whose opening guard holds, under the priority of another. -/
def OpensUnselected (s : LoopState) (r : Readings) : Prop :=
  ∃ f, s.flags (.state f .closed) = true ∧ f.opens (passInputs s r) = true ∧
    r.priority ≠ f.priority

/-- The statements before and after the block of `f` are those of the other blocks. -/
theorem transitions_split (f : Family) : ∃ pre post,
    transitions = transition0 :: (pre ++ (block f ++ post)) ∧
      ∀ m ∈ pre ++ post, ∃ f', f' ≠ f ∧ m ∈ block f' := by
  have hall : ∀ fs : List Family, f ∉ fs → ∀ m ∈ fs.flatMap block, ∃ f', f' ≠ f ∧ m ∈ block f' := by
    intro fs hfs m hm
    obtain ⟨f', hf', hm⟩ := List.mem_flatMap.1 hm
    exact ⟨f', fun h => hfs (h ▸ hf'), hm⟩
  cases f with
  | humidity =>
    exact ⟨[], block .temperature ++ block .airQuality ++ block .all, rfl,
      hall [.temperature, .airQuality, .all] (by simp)⟩
  | temperature =>
    exact ⟨block .humidity, block .airQuality ++ block .all, rfl,
      hall [.humidity, .airQuality, .all] (by simp)⟩
  | airQuality =>
    exact ⟨block .humidity ++ block .temperature, block .all, rfl,
      hall [.humidity, .temperature, .all] (by simp)⟩
  | all =>
    exact ⟨block .humidity ++ block .temperature ++ block .airQuality, [], rfl,
      hall [.humidity, .temperature, .airQuality] (by simp)⟩

theorem other_block {f f' : Family} (hf : f' ≠ f) {m : Move Flag Inputs} (hm : m ∈ block f') :
    (∀ g, m.src ≠ .state f g ∧ m.dst ≠ .state f g) ∧ m.dst ≠ .state0 ∧
      (m.src = .state0 → ∀ i, m.guard i = true → i.priority ≠ f.priority) := by
  rw [block_eq] at hm
  simp only [List.mem_cons, List.not_mem_nil, or_false] at hm
  rcases hm with rfl | rfl | rfl | rfl | rfl | rfl | rfl
  · refine ⟨by simp [hf], by simp, fun _ i hg hp => hf (Family.priority_inj ?_)⟩
    simp only [beq_iff_eq] at hg
    exact hg.symm.trans hp
  all_goals exact ⟨by simp [hf], by simp, fun h => by simp at h⟩

theorem opening_mem_visits_block {f : Family} {i : Inputs} {q : Flag} (hq : q ≠ .state f .opening) :
    .state f .opening ∈ visits (block f) i q ↔
      (q = .state f .closed ∨ (q = .state0 ∧ i.priority = f.priority)) ∧ f.opens i = true := by
  obtain ⟨m₁, m₂, ms, hb, h₁, h₂, hms⟩ : ∃ m₁ m₂ ms, block f = m₁ :: m₂ :: ms ∧
      m₁ = ⟨.state0, .state f .closed, fun i => i.priority == f.priority⟩ ∧
      m₂ = ⟨.state f .closed, .state f .opening, f.opens⟩ ∧
      ∀ m ∈ ms, m.dst ≠ .state f .opening := by
    refine ⟨_, _, _, block_eq f, rfl, rfl, fun m hm => ?_⟩
    simp only [List.mem_cons, List.not_mem_nil, or_false] at hm
    rcases hm with rfl | rfl | rfl | rfl | rfl <;> simp
  have ha₁ : m₁.next i q = .state f .closed ↔
      q = .state f .closed ∨ (q = .state0 ∧ i.priority = f.priority) := by
    subst h₁
    by_cases h0 : q = .state0 ∧ i.priority = f.priority <;> simp [Move.next, h0]
  have hne : m₁.next i q ≠ .state f .opening := by
    subst h₁
    by_cases h0 : q = .state0 ∧ i.priority = f.priority <;> simp [Move.next, h0, hq]
  have ha₂ : m₂.next i (m₁.next i q) = .state f .opening ↔
      m₁.next i q = .state f .closed ∧ f.opens i = true := by
    subst h₂
    generalize m₁.next i q = a at hne
    by_cases h0 : a = .state f .closed ∧ f.opens i = true <;> simp [Move.next, h0, hne]
  rw [hb, ← ha₁, ← ha₂]
  simp only [visits, List.mem_cons]
  constructor
  · intro hx
    rcases hx with h | h | h
    · exact absurd h.symm hne
    · exact h.symm
    · exact (eq_of_mem_visits hms h).symm
  · exact fun h => .inr (.inl h.symm)

theorem mayOpen_iff {f : Family} {i : Inputs} {q : Flag} :
    q.MayOpen f i ↔ transition0.next i q = .state f .closed ∨
      (transition0.next i q = .state0 ∧ i.priority = f.priority) := by
  by_cases h0 : q = .init ∧ i.win_open_bo = false
  · simp [Flag.MayOpen, Move.next, transition0, h0]
  · have hn : transition0.next i q = q := by simp_all [Move.next, transition0]
    rw [hn]
    simp [Flag.MayOpen, h0]

section Others

variable {f : Family} {ms : List (Move Flag Inputs)} (h : ∀ m ∈ ms, ∃ f', f' ≠ f ∧ m ∈ block f')
include h

theorem dst_of_others (g : Stage) : ∀ m ∈ ms, m.dst ≠ .state f g := by
  intro m hm
  obtain ⟨f', hf', hm'⟩ := h m hm
  exact ((other_block hf' hm').1 g).2

/-- The other blocks neither bring the token to `f` nor take it from there. -/
theorem nexts_others_closed_iff {i : Inputs} {p : Flag} :
    nexts ms i p = .state f .closed ↔ p = .state f .closed := by
  refine ⟨fun hx => (eq_of_nexts (dst_of_others h .closed) hx).symm, ?_⟩
  rintro rfl
  refine nexts_of_forall fun m hm hs => ?_
  obtain ⟨f', hf', hm'⟩ := h m hm
  exact absurd hs ((other_block hf' hm').1 _).1

theorem nexts_others_state0_iff {i : Inputs} {p : Flag} (hpri : i.priority = f.priority) :
    nexts ms i p = .state0 ↔ p = .state0 := by
  refine ⟨fun hx => (eq_of_nexts (fun m hm => ?_) hx).symm, ?_⟩
  · obtain ⟨f', hf', hm'⟩ := h m hm
    exact (other_block hf' hm').2.1
  · rintro rfl
    refine nexts_of_forall fun m hm hs => ?_
    obtain ⟨f', hf', hm'⟩ := h m hm
    by_contra hg
    exact (other_block hf' hm').2.2 hs i (by simpa using hg) hpri

end Others

/-- **When a pass goes through an opening state** it did not start in. -/
theorem opening_visited_iff {f : Family} {i : Inputs} {q : Flag} (hq : q ≠ .state f .opening) :
    .state f .opening ∈ visits transitions i q ↔ q.MayOpen f i ∧ f.opens i = true := by
  obtain ⟨pre, post, ht, hother⟩ := transitions_split f
  have hpre : ∀ m ∈ pre, ∃ f', f' ≠ f ∧ m ∈ block f' := fun m hm => hother m (by simp [hm])
  have hpost : ∀ m ∈ post, ∃ f', f' ≠ f ∧ m ∈ block f' := fun m hm => hother m (by simp [hm])
  rw [mayOpen_iff]
  generalize hp : transition0.next i q = p
  have hpo : p ≠ .state f .opening := by
    subst hp
    unfold Move.next
    split
    · simp [transition0]
    · exact hq
  have hno : nexts pre i p ≠ .state f .opening := fun h =>
    hpo (eq_of_nexts (dst_of_others hpre .opening) h).symm
  have hstate0 : (nexts pre i p = .state0 ∧ i.priority = f.priority) ↔
      (p = .state0 ∧ i.priority = f.priority) :=
    and_congr_left fun hpri => nexts_others_state0_iff hpre hpri
  rw [← nexts_others_closed_iff hpre, ← hstate0, ← opening_mem_visits_block hno, ht]
  simp only [visits, visits_append, List.mem_cons, List.mem_append, hp]
  constructor
  · intro hx
    rcases hx with h | h | h | h
    · exact absurd h.symm hpo
    · exact absurd (eq_of_mem_visits (dst_of_others hpre .opening) h).symm hpo
    · exact h
    · have hlast := eq_of_mem_visits (dst_of_others hpost .opening) h
      rw [hlast, block_eq]
      exact nexts_mem_visits i _
  · exact fun h => .inr (.inr (.inl h))

/-- **When the selected priority alone opens the window**: unless another
family's closed state finds its opening guard true. -/
theorem opens_selected_iff {s : LoopState} (hs : Reachable s) (r : Readings) :
    OpensSelected s r ↔ ¬ OpensUnselected s r := by
  obtain ⟨q, a, rfl, -, -⟩ := hs.at
  have hpri : (passInputs (.at q a) r).priority = r.priority := rfl
  simp only [OpensSelected, OpensUnselected, LoopState.at_flags]
  generalize passInputs (.at q a) r = i at hpri ⊢
  have hfire : ∀ k f, fires (transitions.take k) i (hot q) (.state f .opening) = true ↔
      nexts (transitions.take k) i q = .state f .opening := by
    intro k f
    rw [fires_hot fun m hm => transitions_src_ne m (List.mem_of_mem_take hm), hot_apply, eq_comm]
  simp only [hfire, hot_apply]
  constructor
  · intro h hx
    obtain ⟨f, rfl, ho, hne⟩ := hx
    have hv := (opening_visited_iff (q := .state f .closed) (by simp)).2 ⟨.inl rfl, ho⟩
    obtain ⟨k, -, hk⟩ := mem_visits.1 hv
    exact hne (h (fun f' => by simp [hot]) (k + 1) f hk)
  · intro h hstart k f hk
    have hq : q ≠ .state f .opening := by
      intro hq
      have := hstart f
      rw [hq, hot_self] at this
      cases this
    have hv : .state f .opening ∈ visits transitions i q := by
      cases k with
      | zero => simp only [List.take_zero, nexts_nil] at hk; exact absurd hk hq
      | succ k =>
        by_cases hlt : k < transitions.length
        · exact mem_visits.2 ⟨k, hlt, hk⟩
        · rw [List.take_of_length_le (by omega)] at hk
          exact hk ▸ nexts_mem_visits i q
    obtain ⟨hm, ho⟩ := (opening_visited_iff hq).1 hv
    rcases hm with rfl | ⟨-, hp⟩
    · by_contra hne
      exact h ⟨f, rfl, ho, hne⟩
    · exact hpri.symm.trans hp

/-- Under its own priority a closed state may open. -/
theorem opens_selected_humidity : OpensSelected humidClosed sultry := by
  refine (opens_selected_iff humidClosed_reachable sultry).2 fun ⟨f, hf, _, hne⟩ => hne ?_
  rw [humidClosed_eq, LoopState.at_flags, hot_apply] at hf
  cases hf
  rfl

/-- The priority goes from humidity to temperature in the pass that finds it
too humid inside: the window is opened for the humidity. -/
theorem opens_for_humidity_under_temperature : Reachable humidClosed ∧
    ¬ OpensSelected humidClosed { sultry with priority := 1 } := by
  refine ⟨humidClosed_reachable, fun h => ?_⟩
  rw [humidClosed_eq] at h
  have hk : fires (transitions.take 3) (passInputs (.at state11 ⟨false, false, false, false, false⟩)
      { sultry with priority := 1 }) (hot state11) state12 = true := by
    rw [fires_hot fun m hm => transitions_src_ne m (List.mem_of_mem_take hm), hot_apply]
    decide
  exact absurd (h (fun f => by simp [hot]) 3 .humidity hk) (by decide)

end SmartWindow
