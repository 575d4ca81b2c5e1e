/-
Humidity, temperature and air quality are controlled by one machine. The
three blocks of transitions are copies of each other, and the block for all
three alarms joins them evenly: exchanging the three priorities together with
their alarms exchanges the states of the blocks and changes no command, in
every run (`machineRun_rename`).
-/
import Mathlib.Logic.Equiv.Defs
import SmartWindow.Controller.MachineFacts

namespace SmartWindow

open OneHot

/-! ## The renaming -/

/-- The block of states that priority 0, 1 or 2 selects. -/
def familyOf : Fin 3 → Family
  | 0 => .humidity
  | 1 => .temperature
  | 2 => .airQuality

/-- The alarm of priority 0, 1 or 2. -/
def alarmOf (a : Alarms) : Fin 3 → Bool
  | 0 => a.humid_alarm
  | 1 => a.temp_alarm
  | 2 => a.airQ_alarm

/-- Priorities other than 0, 1 and 2 stay what they are. -/
def renamePriority (p : Equiv.Perm (Fin 3)) (priority : Int) : Int :=
  if priority = 0 then (p 0).val
  else if priority = 1 then (p 1).val
  else if priority = 2 then (p 2).val
  else priority

/-- The three alarms, each under its new priority. -/
def renameAlarms (p : Equiv.Perm (Fin 3)) (a : Alarms) : Alarms :=
  { a with
    humid_alarm := alarmOf a (p.symm 0)
    temp_alarm := alarmOf a (p.symm 1)
    airQ_alarm := alarmOf a (p.symm 2) }

def renameInputs (p : Equiv.Perm (Fin 3)) (i : Inputs) : Inputs :=
  { i with
    priority := renamePriority p i.priority
    alarms := renameAlarms p i.alarms }

def renameFamily (p : Equiv.Perm (Fin 3)) : Family → Family
  | .humidity => familyOf (p 0)
  | .temperature => familyOf (p 1)
  | .airQuality => familyOf (p 2)
  | .all => .all

def renameFlag (p : Equiv.Perm (Fin 3)) : Flag → Flag
  | .init => .init
  | .state0 => .state0
  | .state f g => .state (renameFamily p f) g

/-- The 18 booleans, each under its new name. -/
def renameFlags (p : Equiv.Perm (Fin 3)) (flags : Flags) : Flags :=
  fun q => flags (renameFlag p.symm q)

/-- The transition and assignment sections pass by pass: the flags after each pass and what it
sends. -/
def machineRun (flags : Flags) : List Inputs → List (Flags × List WinCommand)
  | [] => []
  | i :: is =>
    (runTransitions i flags, assignments (runTransitions i flags)) ::
      machineRun (runTransitions i flags) is

/-! ## Families -/

theorem eq_familyOf_or_all (f : Family) : (∃ k, f = familyOf k) ∨ f = .all := by
  cases f with
  | humidity => exact .inl ⟨0, rfl⟩
  | temperature => exact .inl ⟨1, rfl⟩
  | airQuality => exact .inl ⟨2, rfl⟩
  | all => exact .inr rfl

theorem familyOf_priority : ∀ k, (familyOf k).priority = k.val := by decide

theorem familyOf_alarm (a : Alarms) : ∀ k, (familyOf k).alarm a = alarmOf a k
  | 0 => rfl
  | 1 => rfl
  | 2 => rfl

variable (p : Equiv.Perm (Fin 3))

theorem renameFamily_familyOf : ∀ k, renameFamily p (familyOf k) = familyOf (p k)
  | 0 => rfl
  | 1 => rfl
  | 2 => rfl

theorem renameFamily_symm (f : Family) : renameFamily p.symm (renameFamily p f) = f := by
  rcases eq_familyOf_or_all f with ⟨k, rfl⟩ | rfl
  · rw [renameFamily_familyOf, renameFamily_familyOf, Equiv.symm_apply_apply]
  · rfl

/-! ## Priorities -/

theorem renamePriority_val : ∀ k : Fin 3, renamePriority p k.val = (p k).val
  | 0 => rfl
  | 1 => rfl
  | 2 => rfl

theorem renamePriority_of_ne {z : Int} (h : ∀ k : Fin 3, z ≠ k.val) : renamePriority p z = z := by
  have h0 : z ≠ 0 := h 0
  have h1 : z ≠ 1 := h 1
  have h2 : z ≠ 2 := h 2
  simp [renamePriority, h0, h1, h2]

theorem renamePriority_eq_iff {z : Int} {f : Family} :
    renamePriority p z = (renameFamily p f).priority ↔ z = f.priority := by
  by_cases hz : ∃ k : Fin 3, z = k.val
  · obtain ⟨j, rfl⟩ := hz
    rw [renamePriority_val]
    rcases eq_familyOf_or_all f with ⟨k, rfl⟩ | rfl
    · rw [renameFamily_familyOf, familyOf_priority, familyOf_priority]
      simp only [Int.natCast_inj, Fin.val_inj, p.injective.eq_iff]
    · simp only [renameFamily, Family.priority]
      omega
  · have hne : ∀ k : Fin 3, z ≠ k.val := fun k hk => hz ⟨k, hk⟩
    rw [renamePriority_of_ne p hne]
    rcases eq_familyOf_or_all f with ⟨k, rfl⟩ | rfl
    · rw [renameFamily_familyOf, familyOf_priority, familyOf_priority]
      exact ⟨fun h => absurd h (hne _), fun h => absurd h (hne _)⟩
    · rfl

theorem ofPriority_renamePriority (z : Int) :
    Family.ofPriority (renamePriority p z) = (Family.ofPriority z).map (renameFamily p) := by
  cases hz : Family.ofPriority z with
  | some f =>
    rw [Option.map_some, Family.ofPriority_eq_some, renamePriority_eq_iff,
      ← Family.ofPriority_eq_some, hz]
  | none =>
    -- A family that the renamed priority selects is a renamed one.
    rw [Option.map_none, Option.eq_none_iff_forall_ne_some]
    intro g hg
    rw [Family.ofPriority_eq_some, ← renameFamily_symm p.symm g, Equiv.symm_symm,
      renamePriority_eq_iff, ← Family.ofPriority_eq_some, hz] at hg
    exact absurd hg (by simp)

/-! ## Alarms and guards -/

theorem alarmOf_renameAlarms (a : Alarms) (k : Fin 3) :
    alarmOf (renameAlarms p a) (p k) = alarmOf a k := by
  have h : ∀ j, alarmOf (renameAlarms p a) j = alarmOf a (p.symm j)
    | 0 => rfl
    | 1 => rfl
    | 2 => rfl
  rw [h, Equiv.symm_apply_apply]

theorem all_alarm_iff {a : Alarms} : Family.all.alarm a = true ↔ ∃ k, alarmOf a k = true := by
  simp [Family.alarm, Fin.exists_fin_succ, alarmOf, or_comm, or_left_comm]

theorem all_off_iff {a : Alarms} :
    (!a.airQ_alarm || !a.temp_alarm || !a.humid_alarm) = true ↔ ∃ k, alarmOf a k = false := by
  simp [Fin.exists_fin_succ, alarmOf, or_comm, or_left_comm]

theorem exists_alarmOf_rename {a : Alarms} {b : Bool} :
    (∃ k, alarmOf (renameAlarms p a) k = b) ↔ ∃ k, alarmOf a k = b := by
  rw [← p.exists_congr_right]
  simp only [alarmOf_renameAlarms]

theorem alarm_rename (f : Family) (a : Alarms) :
    (renameFamily p f).alarm (renameAlarms p a) = f.alarm a := by
  rcases eq_familyOf_or_all f with ⟨k, rfl⟩ | rfl
  · rw [renameFamily_familyOf, familyOf_alarm, familyOf_alarm, alarmOf_renameAlarms]
  · rw [Bool.eq_iff_iff, renameFamily, all_alarm_iff, all_alarm_iff, exists_alarmOf_rename]

theorem opens_rename (f : Family) (i : Inputs) :
    (renameFamily p f).opens (renameInputs p i) = f.opens i := by
  simp only [Family.opens, openGuard, renameInputs, alarm_rename]
  rfl

theorem closes_familyOf (k : Fin 3) (i : Inputs) :
    (familyOf k).closes i = closeGuard (alarmOf i.alarms k) i := by
  rw [← familyOf_alarm]
  unfold familyOf
  split <;> rfl

theorem closeGuard4_rename (i : Inputs) : closeGuard4 (renameInputs p i) = closeGuard4 i := by
  have h : (!(renameAlarms p i.alarms).airQ_alarm || !(renameAlarms p i.alarms).temp_alarm ||
      !(renameAlarms p i.alarms).humid_alarm) =
      (!i.alarms.airQ_alarm || !i.alarms.temp_alarm || !i.alarms.humid_alarm) := by
    rw [Bool.eq_iff_iff, all_off_iff, all_off_iff, exists_alarmOf_rename]
  unfold closeGuard4
  simp only [renameInputs]
  rw [h]
  rfl

theorem closes_rename (f : Family) (i : Inputs) :
    (renameFamily p f).closes (renameInputs p i) = f.closes i := by
  rcases eq_familyOf_or_all f with ⟨k, rfl⟩ | rfl
  · rw [renameFamily_familyOf, closes_familyOf, closes_familyOf]
    simp only [closeGuard, renameInputs, alarmOf_renameAlarms]
    rfl
  · exact closeGuard4_rename p i

/-! ## One pass -/

theorem leave_rename (f : Family) (g : Stage) (i : Inputs) :
    leave (renameFamily p f) g (renameInputs p i) = renameFlag p (leave f g i) := by
  have h : (renameInputs p i).priority = (renameFamily p f).priority ↔ i.priority = f.priority :=
    renamePriority_eq_iff p
  unfold leave
  simp only [h]
  split <;> rfl

theorem win_open_bo_rename (i : Inputs) : (renameInputs p i).win_open_bo = i.win_open_bo := rfl

theorem fromClosing_rename (f : Family) (i : Inputs) :
    fromClosing (renameFamily p f) (renameInputs p i) = renameFlag p (fromClosing f i) := by
  unfold fromClosing
  rw [win_open_bo_rename, leave_rename]
  split <;> rfl

theorem fromOpened_rename (f : Family) (i : Inputs) :
    fromOpened (renameFamily p f) (renameInputs p i) = renameFlag p (fromOpened f i) := by
  unfold fromOpened
  rw [closes_rename, fromClosing_rename, leave_rename]
  split <;> rfl

theorem fromOpening_rename (f : Family) (i : Inputs) :
    fromOpening (renameFamily p f) (renameInputs p i) = renameFlag p (fromOpening f i) := by
  unfold fromOpening
  rw [win_open_bo_rename, fromOpened_rename]
  split <;> rfl

theorem fromClosed_rename (f : Family) (i : Inputs) :
    fromClosed (renameFamily p f) (renameInputs p i) = renameFlag p (fromClosed f i) := by
  unfold fromClosed
  rw [opens_rename, fromOpening_rename, leave_rename]
  split <;> rfl

theorem fromState0_rename (i : Inputs) :
    fromState0 (renameInputs p i) = renameFlag p (fromState0 i) := by
  have h : Family.ofPriority (renameInputs p i).priority =
      (Family.ofPriority i.priority).map (renameFamily p) := ofPriority_renamePriority p i.priority
  unfold fromState0
  rw [h]
  cases Family.ofPriority i.priority with
  | some f => exact fromClosed_rename p f i
  | none => rfl

/-- **A pass of the renamed machine is the renamed pass.** -/
theorem next_rename (i : Inputs) (q : Flag) :
    next (renameInputs p i) (renameFlag p q) = renameFlag p (next i q) := by
  cases q with
  | init =>
    have h : next (renameInputs p i) .init =
        if i.win_open_bo then .init else fromState0 (renameInputs p i) := rfl
    rw [renameFlag, h, fromState0_rename, next]
    split <;> rfl
  | state0 => exact fromState0_rename p i
  | state f g =>
    cases g with
    | closed => exact fromClosed_rename p f i
    | opening => exact fromOpening_rename p f i
    | opened => exact fromOpened_rename p f i
    | closing => exact fromClosing_rename p f i

theorem command_rename (q : Flag) : command (renameFlag p q) = command q := by
  cases q with
  | init => rfl
  | state0 => rfl
  | state f g => cases g <;> rfl

/-! ## Whole runs -/

theorem renameFlag_symm (q : Flag) : renameFlag p.symm (renameFlag p q) = q := by
  cases q with
  | init => rfl
  | state0 => rfl
  | state f g => simp [renameFlag, renameFamily_symm]

theorem renameFlags_hot (q : Flag) : renameFlags p (hot q) = hot (renameFlag p q) := by
  funext q'
  have h : renameFlag p.symm q' = q ↔ q' = renameFlag p q := by
    refine ⟨fun h => ?_, fun h => h ▸ renameFlag_symm p q⟩
    rw [← h]
    exact (renameFlag_symm p.symm q').symm
  simp [renameFlags, hot, h]

theorem machineRun_hot_rename (is : List Inputs) (q : Flag) :
    machineRun (hot (renameFlag p q)) (is.map (renameInputs p)) =
      (machineRun (hot q) is).map fun s => (renameFlags p s.1, s.2) := by
  induction is generalizing q with
  | nil => rfl
  | cons i is ih =>
    simp only [List.map_cons, machineRun, runTransitions_hot, assignments_hot, next_rename,
      command_rename, renameFlags_hot, ih]

/-- **Humidity, temperature and air-quality control are the same machine**: in every run from the
start, exchanging the priorities and their alarms exchanges the states and keeps the commands. -/
theorem machineRun_rename (is : List Inputs) :
    machineRun .start (is.map (renameInputs p)) =
      (machineRun .start is).map fun s => (renameFlags p s.1, s.2) :=
  machineRun_hot_rename p is .init

end SmartWindow
