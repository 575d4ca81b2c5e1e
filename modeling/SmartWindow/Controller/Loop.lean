/-
The loop of `decisionLoop` (main_controller.cpp): one pass, from what it
reads to what it writes and sends, and the states that passes reach.
-/
import SmartWindow.Lib.Trans
import SmartWindow.Controller.Machine

namespace SmartWindow

open OneHot

/-- The first rows of database_tables.sql, as the readers return them. -/
def firstRows : Readings where
  autoMode_bo := true
  manClose_bo := false
  manOpen_bo := false
  win_open_bo := false
  airP_in := 1010
  airP_out := 1016
  airP_max := 1020
  airQ_in := 0
  airQ_out := 0
  airQ_max := 0
  humid_in := 40
  humid_out := 70
  humid_min := 30
  humid_max := 65
  temp_in := 22
  temp_out := 4
  temp_min := 20
  temp_max := 26
  vol_in := 20
  vol_out := 20
  vol_max := 60
  priority := 3

/-- What lives across passes: the state machine and the alarm latches. -/
structure LoopState where
  flags : Flags
  alarms : Alarms

def LoopState.start : LoopState := ⟨.start, .off⟩

/-- What a pass leaves behind: the state, the rows inserted into the status
tables and the commands sent, in order. -/
structure Pass where
  state : LoopState
  published : List Write
  sent : List WinCommand

/-- What the transition statements see of a pass. -/
def inputs (r : Readings) (a : Alarms) : Inputs where
  autoMode_bo := r.autoMode_bo
  manClose_bo := r.manClose_bo
  manOpen_bo := r.manOpen_bo
  win_open_bo := r.win_open_bo
  priority := r.priority
  alarms := a

/-- The inputs of a pass from `s`: the readings, with the alarms it derives from them. -/
def passInputs (s : LoopState) (r : Readings) : Inputs := inputs r (updateAlarms r s.alarms)

def decisionPass (s : LoopState) (r : Readings) : Pass where
  state :=
    { flags := runTransitions (passInputs s r) s.flags
      alarms := updateAlarms r s.alarms }
  published := publish r (updateAlarms r s.alarms)
  sent := assignments (runTransitions (passInputs s r) s.flags)

def passes (s : LoopState) (rs : List Readings) : LoopState :=
  rs.foldl (fun s r => (decisionPass s r).state) s

/-- A state the loop can be in between two passes. -/
def Reachable (s : LoopState) : Prop := ∃ rs, passes .start rs = s

@[simp] theorem decisionPass_flags (s : LoopState) (r : Readings) :
    (decisionPass s r).state.flags = runTransitions (passInputs s r) s.flags := by rfl

@[simp] theorem decisionPass_alarms (s : LoopState) (r : Readings) :
    (decisionPass s r).state.alarms = updateAlarms r s.alarms := rfl

@[simp] theorem decisionPass_sent (s : LoopState) (r : Readings) :
    (decisionPass s r).sent = assignments (runTransitions (passInputs s r) s.flags) := by rfl

theorem Reachable.start : Reachable .start := ⟨[], rfl⟩

theorem Reachable.pass {s : LoopState} (h : Reachable s) (r : Readings) :
    Reachable (decisionPass s r).state := by
  obtain ⟨rs, rfl⟩ := h
  exact ⟨rs ++ [r], by simp [passes]⟩

/-- What holds before the first pass and is kept by every pass holds between any two. -/
theorem Reachable.invariant {s : LoopState} (h : Reachable s) (I : LoopState → Prop)
    (h₀ : I .start) (hstep : ∀ s r, I s → I (decisionPass s r).state) : I s := by
  obtain ⟨rs, rfl⟩ := h
  exact Trans.foldl_invariant I h₀ hstep rs

/-! ## Failing reads -/

/-- The calls of a pass: `none` is a call that reports `*succeeded = false`. -/
abbrev Calls := Reads (Option Bool) (Option Int)

/-- What the calls return: a failing one returns 0. -/
def Calls.ret (q : Calls) : Readings where
  autoMode_bo := q.autoMode_bo.getD false
  manClose_bo := q.manClose_bo.getD false
  manOpen_bo := q.manOpen_bo.getD false
  win_open_bo := q.win_open_bo.getD false
  airP_in := q.airP_in.getD 0
  airP_out := q.airP_out.getD 0
  airP_max := q.airP_max.getD 0
  airQ_in := q.airQ_in.getD 0
  airQ_out := q.airQ_out.getD 0
  airQ_max := q.airQ_max.getD 0
  humid_in := q.humid_in.getD 0
  humid_out := q.humid_out.getD 0
  humid_min := q.humid_min.getD 0
  humid_max := q.humid_max.getD 0
  temp_in := q.temp_in.getD 0
  temp_out := q.temp_out.getD 0
  temp_min := q.temp_min.getD 0
  temp_max := q.temp_max.getD 0
  vol_in := q.vol_in.getD 0
  vol_out := q.vol_out.getD 0
  vol_max := q.vol_max.getD 0
  priority := q.priority.getD 0

/-- What the calls leave in `read_success`, one after the other. -/
def Calls.succeeded (q : Calls) : List Bool :=
  [q.autoMode_bo.isSome, q.manClose_bo.isSome, q.manOpen_bo.isSome, q.win_open_bo.isSome,
    q.airP_in.isSome, q.airP_out.isSome, q.airP_max.isSome,
    q.airQ_in.isSome, q.airQ_out.isSome, q.airQ_max.isSome,
    q.humid_in.isSome, q.humid_out.isSome, q.humid_min.isSome, q.humid_max.isSome,
    q.temp_in.isSome, q.temp_out.isSome, q.temp_min.isSome, q.temp_max.isSome,
    q.vol_in.isSome, q.vol_out.isSome, q.vol_max.isSome, q.priority.isSome]

/-- One pass with calls that may fail: `read_success` is written by each call and read by none of
the statements. -/
def decisionPassCalls (s : LoopState) (q : Calls) : Pass := decisionPass s q.ret

end SmartWindow
