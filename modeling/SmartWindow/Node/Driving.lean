/-
Driving the window to its end (main.c). `openWindow` and `closeWindow` are
called once in each turn of `main` until they return true. They compare an
`int` with an unsigned bound, so a position below zero counts as a huge one;
`opening_ends` and `closing_ends` say with which call either drive ends and
where, and `driving_ends` that in every run of the node the position stays
between the bounds and every drive ends.
-/
import SmartWindow.Lib.Stride
import SmartWindow.Node.Contract

namespace SmartWindow

open Stride

/-- The calls one after the other, each from the position that the one before leaves; the first is number
zero. -/
def calls (drive : Int → Int → Drive) (step pos : Int) : Nat → Drive
  | 0 => drive pos step
  | n + 1 => drive (calls drive step pos n).pos step

/-- The call with this number, counted from one, is the first to return true, and leaves such a position. -/
def EndsAt (drive : Int → Int → Drive) (step pos number : Int) (Left : Int → Prop) : Prop :=
  ∃ n : Nat, (n : Int) + 1 = number ∧ (calls drive step pos n).ended = true ∧
    (∀ k < n, (calls drive step pos k).ended = false) ∧ Left (calls drive step pos n).pos

/-! ## The calls -/

variable {step pos : Int}

theorem calls_openWindow (step pos : Int) (n : Nat) :
    (calls openWindow step pos n).pos = pos - (n + 1) * step ∧
      (calls openWindow step pos n).ended =
        decide (toUnsigned (calls openWindow step pos n).pos ≤ STEP_LOWER_BOUND) := by
  induction n with
  | zero => exact ⟨by simp [calls, openWindow], rfl⟩
  | succ n ih =>
    refine ⟨?_, rfl⟩
    simp only [calls, openWindow] at ih ⊢
    rw [ih.1]
    push_cast
    ring

theorem calls_closeWindow (step pos : Int) (n : Nat) :
    (calls closeWindow step pos n).pos = pos + (n + 1) * step ∧
      (calls closeWindow step pos n).ended =
        decide (STEP_UPPER_BOUND ≤ toUnsigned (calls closeWindow step pos n).pos) := by
  induction n with
  | zero => exact ⟨by simp [calls, closeWindow], rfl⟩
  | succ n ih =>
    refine ⟨?_, rfl⟩
    simp only [calls, closeWindow] at ih ⊢
    rw [ih.1]
    push_cast
    ring

/-- A drive that returns true where the calls so far have covered the distance. -/
theorem endsAt_of_covers {drive : Int → Int → Drive} {d : Int} {Left : Int → Prop} (hs : 0 < step)
    (hd : 0 < d)
    (hended : ∀ n : Nat, (n + 1) * step < d + step →
      ((calls drive step pos n).ended = true ↔ d ≤ (n + 1) * step))
    (hleft : ∀ n : Nat, d ≤ (n + 1) * step → (n + 1) * step < d + step →
      Left (calls drive step pos n).pos) :
    EndsAt drive step pos ⌈(d : ℚ) / step⌉ Left := by
  have hpos := ceil_div_pos hs hd
  have hcovers := le_ceil_div_mul hs d
  have hover := ceil_div_mul_lt hs d
  obtain ⟨n, hn⟩ : ∃ n : Nat, (n : Int) + 1 = ⌈(d : ℚ) / step⌉ :=
    ⟨(⌈(d : ℚ) / step⌉ - 1).toNat, by omega⟩
  rw [← hn] at hcovers hover
  refine ⟨n, hn, (hended n hover).2 hcovers, fun k hk => ?_, hleft n hcovers hover⟩
  have hshort : ¬ d ≤ ((k : Int) + 1) * step := by
    rw [← ceil_div_le_iff hs, ← hn]
    omega
  rw [← Bool.not_eq_true, hended k (by omega)]
  exact hshort

/-- **Opening ends** with the call that covers the distance, less than a step below the bound. -/
theorem opening_ends (hs : 1 ≤ step) (hs' : step ≤ 1800) (hp : 1800 < pos) (hp' : pos ≤ 100000) :
    EndsAt openWindow step pos ⌈((pos - 1800 : Int) : ℚ) / step⌉
      fun left => 1800 - step < left ∧ left ≤ 1800 := by
  refine endsAt_of_covers (by omega) (by omega) (fun n hover => ?_) (fun n hcovers hover => ?_)
  · obtain ⟨hpos, hended⟩ := calls_openWindow step pos n
    have hmoved : 0 ≤ ((n : Int) + 1) * step := by positivity
    -- The position is not below zero yet, where the comparison would never hold again.
    rw [hended, hpos, toUnsigned_of_nonneg (by omega) (by omega), decide_eq_true_iff, STEP_LOWER_BOUND]
    omega
  · rw [(calls_openWindow step pos n).1]
    omega

/-- **Closing ends** with the call that covers the distance, less than a step above the bound. -/
theorem closing_ends (hs : 1 ≤ step) (hs' : step ≤ 1800) (hp : 0 ≤ pos) (hp' : pos < 2500) :
    EndsAt closeWindow step pos ⌈((2500 - pos : Int) : ℚ) / step⌉
      fun left => 2500 ≤ left ∧ left < 2500 + step := by
  refine endsAt_of_covers (by omega) (by omega) (fun n hover => ?_) (fun n hcovers hover => ?_)
  · obtain ⟨hpos, hended⟩ := calls_closeWindow step pos n
    have hmoved : 0 ≤ ((n : Int) + 1) * step := by positivity
    rw [hended, hpos, toUnsigned_of_nonneg (by omega) (by omega), decide_eq_true_iff, STEP_UPPER_BOUND]
    omega
  · rw [(calls_closeWindow step pos n).1]
    omega

/-! ## Runs of the node -/

variable {printF : Int → Nat → Bytes}

theorem Window.Ok.within {w : Window} (h : w.Ok) :
    (STEP_LOWER_BOUND : Int) ≤ w.pos ∧ w.pos ≤ (STEP_UPPER_BOUND : Int) := by
  have hopen := h.1
  have hclose := h.2
  unfold STEP_LOWER_BOUND STEP_UPPER_BOUND
  cases hb : w.b_openWindow with
  | true =>
    have hpos := hopen hb
    omega
  | false =>
    have hpos := hclose hb
    omega

/-- A step of either thread, whatever it does. -/
def AnyStep (b : Build) (printF : Int → Nat → Bytes) (n n' : Node) : Prop := ∃ es, NodeStep b printF n es n'

/-- What is left of a drive. -/
def Node.toDrive (n : Node) : Nat := if n.window.b_windowIsDriving then n.window.distance + 1 else 0

/-- A step during a drive is a turn of `main`, which ends the drive or shortens what is left. -/
theorem toDrive_step {n n' : Node} {es : List NodeEvent} {p : Dialog} (h : n.At .IN p)
    (hw : n.window.Ok) (hd : n.window.b_windowIsDriving = true) (hs : NodeStep .IN printF n es n') :
    n'.toDrive < n.toDrive := by
  obtain ⟨c, rfl, ha, hstatus⟩ := serving_of_driving h hd
  obtain ⟨hcomm, hmain, hq, rfl, -⟩ := h
  cases hs with
  | noDatagram hc | recvfrom d hc | request hc _ => simp [hcomm] at hc
  | reply c hm _ => simp [hmain] at hm
  | answer c q _ hq' => simp [hq] at hq'
  | turn m _ =>
    obtain ⟨-, -, ⟨-, hended, -⟩ | ⟨-, -, hdriven, -, -, hlt⟩⟩ :=
      turn_serves hw (fun _ => hstatus) n.data m ha
    · simp [Node.toDrive, hd, hended]
    · simpa [Node.toDrive, hd, hdriven] using hlt

theorem drive_ends (printF : Int → Nat → Bytes) {n : Node} {p : Dialog} (h : n.At .IN p)
    (hw : n.window.Ok) :
    Trans.Inevitable (AnyStep .IN printF) (fun n => n.window.b_windowIsDriving = false) n := by
  refine .of_rank (fun n => ∃ p, n.At .IN p ∧ n.window.Ok) Node.toDrive ?_ ?_ ⟨p, h, hw⟩
  · intro n hx hd
    obtain ⟨p, h, -⟩ := hx
    obtain ⟨c, rfl, -⟩ := serving_of_driving h (by simpa using hd)
    exact ⟨_, _, .turn n n.data h.2.1⟩
  · intro n n' hx hd hs
    obtain ⟨p, h, hw⟩ := hx
    obtain ⟨es, hs⟩ := hs
    obtain ⟨p', -, h', hw'⟩ := dialog_step h hw hs
    exact ⟨⟨p', h', hw'⟩, toDrive_step h hw (by simpa using hd) hs⟩

/-- Driving the window always ends: where and with which call, and in every run of the node. -/
structure DrivingEnds (printF : Int → Nat → Bytes) : Prop where
  opening : ∀ step pos : Int, 1 ≤ step → step ≤ 1800 → 1800 < pos → pos ≤ 100000 →
    EndsAt openWindow step pos ⌈((pos - 1800 : Int) : ℚ) / step⌉
      fun left => 1800 - step < left ∧ left ≤ 1800
  closing : ∀ step pos : Int, 1 ≤ step → step ≤ 1800 → 0 ≤ pos → pos < 2500 →
    EndsAt closeWindow step pos ⌈((2500 - pos : Int) : ℚ) / step⌉
      fun left => 2500 ≤ left ∧ left < 2500 + step
  runs : ∀ mainCommand data tr n, Trans.Run (NodeStep .IN printF) (.start mainCommand data) tr n →
    ((STEP_LOWER_BOUND : Int) ≤ n.window.pos ∧ n.window.pos ≤ (STEP_UPPER_BOUND : Int)) ∧
      Trans.Inevitable (AnyStep .IN printF) (fun n => n.window.b_windowIsDriving = false) n

/-- **Driving the window always ends.** -/
theorem driving_ends (printF : Int → Nat → Bytes) : DrivingEnds printF := by
  refine ⟨fun step pos => opening_ends, fun step pos => closing_ends, fun mainCommand data tr n h => ?_⟩
  obtain ⟨p, hp, hw, -⟩ := run_told h
  exact ⟨hw.within, drive_ends printF hp hw⟩

end SmartWindow
