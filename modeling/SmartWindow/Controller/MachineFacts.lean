/-
What the transition section does, state by state. The 29 statements of a
pass can chain through several states; `next` is the whole chain as one
function of the state the pass starts in, and `runTransitions_hot` says that
the statements compute it on the flags. Every fact about the state machine
is proved from these two.
-/
import SmartWindow.Controller.Machine

namespace SmartWindow

open OneHot

/-! ## Families -/

def Family.priority : Family → Int
  | .humidity => 0
  | .temperature => 1
  | .airQuality => 2
  | .all => 3

/-- The family a priority selects. -/
def Family.ofPriority (p : Int) : Option Family :=
  if p = 0 then some .humidity else if p = 1 then some .temperature
  else if p = 2 then some .airQuality else if p = 3 then some .all else none

def Family.alarm (f : Family) (a : Alarms) : Bool :=
  match f with
  | .humidity => a.humid_alarm
  | .temperature => a.temp_alarm
  | .airQuality => a.airQ_alarm
  | .all => a.airQ_alarm || a.temp_alarm || a.humid_alarm

/-- The guard that opens a closed window of the family. -/
def Family.opens (f : Family) (i : Inputs) : Bool := openGuard (f.alarm i.alarms) i

/-- The guard that closes an open window of the family. -/
def Family.closes (f : Family) (i : Inputs) : Bool :=
  match f with
  | .all => closeGuard4 i
  | f => closeGuard (f.alarm i.alarms) i

theorem Family.priority_inj {f g : Family} (h : f.priority = g.priority) : f = g := by
  cases f <;> cases g <;> simp_all [Family.priority]

theorem Family.ofPriority_eq_some {p : Int} {f : Family} :
    Family.ofPriority p = some f ↔ p = f.priority := by
  unfold Family.ofPriority
  cases f <;> simp only [Family.priority] <;> split_ifs <;> simp_all

theorem Family.ofPriority_priority (f : Family) : Family.ofPriority f.priority = some f :=
  Family.ofPriority_eq_some.2 rfl

/-- The seven statements of a block are the same for every family but for its two guards. -/
theorem block_eq (f : Family) : block f =
    [⟨.state0, .state f .closed, fun i => i.priority == f.priority⟩,
      ⟨.state f .closed, .state f .opening, f.opens⟩,
      ⟨.state f .opening, .state f .opened, fun i => i.win_open_bo⟩,
      ⟨.state f .opened, .state f .closing, f.closes⟩,
      ⟨.state f .closing, .state f .closed, fun i => !i.win_open_bo⟩,
      ⟨.state f .opened, .init, fun i => i.priority != f.priority⟩,
      ⟨.state f .closed, .init, fun i => i.priority != f.priority⟩] := by
  cases f <;> rfl

/-- Without a wind alarm, Transitions 1.4, 2.4 and 3.4 close whatever the inputs are. -/
theorem Family.closes_of_ne_all {f : Family} (hf : f ≠ .all) {i : Inputs}
    (hw : i.alarms.wind_alarm = false) : f.closes i = true := by
  cases f <;> simp_all [Family.closes, closeGuard]

/-! ## A pass as one step -/

/-- The end of a block: a priority that is not the family's leads back to `init`. -/
def leave (f : Family) (g : Stage) (i : Inputs) : Flag :=
  if i.priority = f.priority then .state f g else .init

def fromClosing (f : Family) (i : Inputs) : Flag :=
  if i.win_open_bo then .state f .closing else leave f .closed i

def fromOpened (f : Family) (i : Inputs) : Flag :=
  if f.closes i then fromClosing f i else leave f .opened i

def fromOpening (f : Family) (i : Inputs) : Flag :=
  if i.win_open_bo then fromOpened f i else .state f .opening

def fromClosed (f : Family) (i : Inputs) : Flag :=
  if f.opens i then fromOpening f i else leave f .closed i

def fromState0 (i : Inputs) : Flag :=
  match Family.ofPriority i.priority with
  | some f => fromClosed f i
  | none => .state0

def next (i : Inputs) : Flag → Flag
  | .init => if i.win_open_bo then .init else fromState0 i
  | .state0 => fromState0 i
  | .state f .closed => fromClosed f i
  | .state f .opening => fromOpening f i
  | .state f .opened => fromOpened f i
  | .state f .closing => fromClosing f i

/-- `init`, or a state of the family. -/
def Within (f : Family) (q : Flag) : Prop := q = .init ∨ ∃ g, q = .state f g

theorem within_leave (f : Family) (g : Stage) (i : Inputs) : Within f (leave f g i) := by
  unfold leave
  split
  · exact .inr ⟨g, rfl⟩
  · exact .inl rfl

theorem within_fromClosing (f : Family) (i : Inputs) : Within f (fromClosing f i) := by
  unfold fromClosing
  split
  · exact .inr ⟨_, rfl⟩
  · exact within_leave f .closed i

theorem within_fromOpened (f : Family) (i : Inputs) : Within f (fromOpened f i) := by
  unfold fromOpened
  split
  · exact within_fromClosing f i
  · exact within_leave f .opened i

theorem within_fromOpening (f : Family) (i : Inputs) : Within f (fromOpening f i) := by
  unfold fromOpening
  split
  · exact within_fromOpened f i
  · exact .inr ⟨_, rfl⟩

theorem within_fromClosed (f : Family) (i : Inputs) : Within f (fromClosed f i) := by
  unfold fromClosed
  split
  · exact within_fromOpening f i
  · exact within_leave f .closed i

theorem within_next_state (f : Family) (g : Stage) (i : Inputs) : Within f (next i (.state f g)) := by
  cases g with
  | closed => exact within_fromClosed f i
  | opening => exact within_fromOpening f i
  | opened => exact within_fromOpened f i
  | closing => exact within_fromClosing f i

/-! ## The blocks -/

theorem nexts_block_within {f g : Family} (hfg : f ≠ g) {q : Flag} (hq : Within f q) (i : Inputs) :
    nexts (block g) i q = q := by
  refine nexts_of_forall fun m hm hs => ?_
  rw [block_eq] at hm
  simp only [List.mem_cons, List.not_mem_nil, or_false] at hm
  rcases hq with rfl | ⟨s, rfl⟩
  · rcases hm with rfl | rfl | rfl | rfl | rfl | rfl | rfl <;> simp at hs
  · rcases hm with rfl | rfl | rfl | rfl | rfl | rfl | rfl <;> simp [hfg.symm] at hs

theorem nexts_block_state0_ne {g : Family} {i : Inputs} (h : i.priority ≠ g.priority) :
    nexts (block g) i .state0 = .state0 := by
  refine nexts_of_forall fun m hm hs => ?_
  rw [block_eq] at hm
  simp only [List.mem_cons, List.not_mem_nil, or_false] at hm
  rcases hm with rfl | rfl | rfl | rfl | rfl | rfl | rfl <;> simp_all

theorem nexts_block_state (f : Family) (g : Stage) (i : Inputs) :
    nexts (block f) i (.state f g) = next i (.state f g) := by
  rw [block_eq]
  cases ho : f.opens i <;> cases hw : i.win_open_bo <;> cases hc : f.closes i <;>
    by_cases hp : i.priority = f.priority <;> cases g <;>
    simp [Move.next, next, fromClosed, fromOpening, fromOpened, fromClosing, leave, ho, hw, hc, hp]

theorem nexts_block_state0 {f : Family} {i : Inputs} (h : i.priority = f.priority) :
    nexts (block f) i .state0 = fromClosed f i := by
  have hin : nexts (block f) i .state0 = nexts (block f) i (.state f .closed) := by
    rw [block_eq]; simp [Move.next, h]
  rw [hin, nexts_block_state]
  rfl

/-! ## The whole section -/

/-- The four blocks, for a token that only the block of `f` may move. -/
theorem nexts_blocks {f : Family} {i : Inputs} {q : Flag} (hpre : ∀ g, g ≠ f → nexts (block g) i q = q)
    (hw : Within f (nexts (block f) i q)) :
    nexts (block .humidity ++ block .temperature ++ block .airQuality ++ block .all) i q =
      nexts (block f) i q := by
  have hpost : ∀ g, g ≠ f → nexts (block g) i (nexts (block f) i q) = nexts (block f) i q :=
    fun g hg => nexts_block_within hg.symm hw i
  simp only [nexts_append]
  cases f <;> simp [hpre, hpost]

theorem nexts_blocks_state0 (i : Inputs) :
    nexts (block .humidity ++ block .temperature ++ block .airQuality ++ block .all) i .state0 =
      fromState0 i := by
  unfold fromState0
  cases hp : Family.ofPriority i.priority with
  | some f =>
    have hf := Family.ofPriority_eq_some.1 hp
    rw [nexts_blocks (f := f), nexts_block_state0 hf]
    · intro g hg
      exact nexts_block_state0_ne fun h => hg (Family.priority_inj (h.symm.trans hf))
    · rw [nexts_block_state0 hf]; exact within_fromClosed f i
  | none =>
    have hne : ∀ g : Family, nexts (block g) i .state0 = .state0 := fun g =>
      nexts_block_state0_ne fun h => by simp [h, Family.ofPriority_priority] at hp
    simp only [nexts_append, hne]

theorem nexts_transitions (i : Inputs) (q : Flag) : nexts transitions i q = next i q := by
  rw [transitions, nexts_cons]
  cases q with
  | init =>
    cases hw : i.win_open_bo with
    | false =>
      have h0 : transition0.next i .init = .state0 := by simp [Move.next, transition0, hw]
      rw [h0, nexts_blocks_state0]
      simp [next, hw]
    | true =>
      have h0 : transition0.next i .init = .init := by simp [Move.next, transition0, hw]
      have hin : ∀ g : Family, nexts (block g) i .init = .init := fun g => by
        obtain ⟨f, hf⟩ : ∃ f : Family, f ≠ g :=
          ⟨if g = .all then .humidity else .all, by cases g <;> simp⟩
        exact nexts_block_within hf (.inl rfl) i
      rw [h0]
      simp only [nexts_append, hin]
      simp [next, hw]
  | state0 =>
    have h0 : transition0.next i .state0 = .state0 := by simp [Move.next, transition0]
    rw [h0, nexts_blocks_state0]
    rfl
  | state f g =>
    have h0 : transition0.next i (.state f g) = .state f g := by simp [Move.next, transition0]
    rw [h0, nexts_blocks (f := f), nexts_block_state]
    · intro g' hg'
      exact nexts_block_within hg'.symm (.inr ⟨g, rfl⟩) i
    · rw [nexts_block_state]; exact within_next_state f g i

theorem mem_transitions {m : Move Flag Inputs} (hm : m ∈ transitions) :
    m = transition0 ∨ ∃ f, m ∈ block f := by
  simp only [transitions, List.mem_cons, List.mem_append] at hm
  rcases hm with rfl | ((hm | hm) | hm) | hm
  · exact .inl rfl
  all_goals exact .inr ⟨_, hm⟩

theorem transitions_src_ne : ∀ m ∈ transitions, m.src ≠ m.dst := by
  intro m hm
  rcases mem_transitions hm with rfl | ⟨f, hf⟩
  · simp [transition0]
  · rw [block_eq] at hf
    simp only [List.mem_cons, List.not_mem_nil, or_false] at hf
    rcases hf with rfl | rfl | rfl | rfl | rfl | rfl | rfl <;> simp

/-- **The transition section refines `next`.** -/
theorem runTransitions_hot (i : Inputs) (q : Flag) : runTransitions i (hot q) = hot (next i q) := by
  rw [runTransitions, fires_hot transitions_src_ne, nexts_transitions]

/-! ## The commands -/

/-- The states in which the pass ends by sending Open. -/
def Flag.isOpening (q : Flag) : Prop := ∃ f, q = .state f .opening

/-- The states in which the pass ends by sending Close. -/
def Flag.isClosing (q : Flag) : Prop := q = .init ∨ ∃ f, q = .state f .closing

/-- The command sent at the end of a pass in a state. -/
def command : Flag → List WinCommand
  | .init => [.Close]
  | .state0 => []
  | .state _ .closed => []
  | .state _ .opening => [.Open]
  | .state _ .opened => []
  | .state _ .closing => [.Close]

theorem assignments_hot (q : Flag) : assignments (hot q) = command q := by
  cases q with
  | init => rfl
  | state0 => rfl
  | state f g => cases f <;> cases g <;> rfl

theorem mem_command_open {q : Flag} : WinCommand.Open ∈ command q ↔ q.isOpening := by
  cases q with
  | init => simp [command, Flag.isOpening]
  | state0 => simp [command, Flag.isOpening]
  | state f g => cases g <;> simp [command, Flag.isOpening]

theorem mem_command_close {q : Flag} : WinCommand.Close ∈ command q ↔ q.isClosing := by
  cases q with
  | init => simp [command, Flag.isClosing]
  | state0 => simp [command, Flag.isClosing]
  | state f g => cases g <;> simp [command, Flag.isClosing]

end SmartWindow
