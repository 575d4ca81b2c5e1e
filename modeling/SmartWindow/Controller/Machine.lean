/-
The second half of a pass of `decisionLoop` (main_controller.cpp): the state
machine and the window commands. The source keeps the machine as 18 booleans
and runs 29 transition statements on them in a fixed order, each of the form
`if (src && guard && !dst) { src = false; dst = true; }` (`OneHot.Move`);
`transitions` lists them as they stand, with the source's numbers.
-/
import SmartWindow.Lib.OneHot
import SmartWindow.Messages
import SmartWindow.Controller.Alarms

namespace SmartWindow

open OneHot

/-- The four blocks of states, by the alarm they attend to: `state1x` to `state4x`. -/
inductive Family
  | humidity
  | temperature
  | airQuality
  | all
  deriving DecidableEq, Repr

/-- The second digit of a state: `statex1` to `statex4`. -/
inductive Stage
  | closed
  | opening
  | opened
  | closing
  deriving DecidableEq, Repr

/-- The 18 flags. -/
inductive Flag
  | init
  | state0
  | state (f : Family) (g : Stage)
  deriving DecidableEq, Repr

abbrev state11 : Flag := .state .humidity .closed
abbrev state12 : Flag := .state .humidity .opening
abbrev state13 : Flag := .state .humidity .opened
abbrev state14 : Flag := .state .humidity .closing
abbrev state21 : Flag := .state .temperature .closed
abbrev state22 : Flag := .state .temperature .opening
abbrev state23 : Flag := .state .temperature .opened
abbrev state24 : Flag := .state .temperature .closing
abbrev state31 : Flag := .state .airQuality .closed
abbrev state32 : Flag := .state .airQuality .opening
abbrev state33 : Flag := .state .airQuality .opened
abbrev state34 : Flag := .state .airQuality .closing
abbrev state41 : Flag := .state .all .closed
abbrev state42 : Flag := .state .all .opening
abbrev state43 : Flag := .state .all .opened
abbrev state44 : Flag := .state .all .closing

/-- The values of the 18 booleans. -/
abbrev Flags := Flag → Bool

/-- The flags before the first pass: `init` alone. -/
def Flags.start : Flags := hot .init

/-- What the transition statements read besides the flags. -/
structure Inputs where
  autoMode_bo : Bool
  manClose_bo : Bool
  manOpen_bo : Bool
  win_open_bo : Bool
  priority : Int
  alarms : Alarms
  deriving DecidableEq, Repr

/-! ## The guards -/

/-- The guard of Transitions 1.2, 2.2, 3.2 and 4.2, which differ in the alarm. -/
def openGuard (alarm : Bool) (i : Inputs) : Bool :=
  !i.alarms.wind_alarm &&
    ((!i.autoMode_bo && i.manOpen_bo) || (i.autoMode_bo && alarm && !i.alarms.vol_alarm))

/-- The guard of Transitions 1.4, 2.4 and 3.4. -/
def closeGuard (alarm : Bool) (i : Inputs) : Bool :=
  !i.alarms.wind_alarm || (!i.autoMode_bo && i.manClose_bo) ||
    (i.autoMode_bo && (i.alarms.vol_alarm || !alarm))

/-- The guard of Transition 4.4: the wind alarm stands under an `&&` here, the
volume alarm is missing, and the alarms are joined with `||`. -/
def closeGuard4 (i : Inputs) : Bool :=
  !i.alarms.wind_alarm && ((!i.autoMode_bo && i.manClose_bo) ||
    (i.autoMode_bo && (!i.alarms.airQ_alarm || !i.alarms.temp_alarm || !i.alarms.humid_alarm)))

/-! ## The transition statements -/

/-- At the beginning the Window will always be closed. -/
def transition0 : Move Flag Inputs := ⟨.init, .state0, fun i => !i.win_open_bo⟩

def transition1_1 : Move Flag Inputs := ⟨.state0, state11, fun i => i.priority == 0⟩
def transition1_2 : Move Flag Inputs := ⟨state11, state12, fun i => openGuard i.alarms.humid_alarm i⟩
def transition1_3 : Move Flag Inputs := ⟨state12, state13, fun i => i.win_open_bo⟩
def transition1_4 : Move Flag Inputs := ⟨state13, state14, fun i => closeGuard i.alarms.humid_alarm i⟩
def transition1_5 : Move Flag Inputs := ⟨state14, state11, fun i => !i.win_open_bo⟩
def transition1_6 : Move Flag Inputs := ⟨state13, .init, fun i => i.priority != 0⟩
def transition1_7 : Move Flag Inputs := ⟨state11, .init, fun i => i.priority != 0⟩

def transition2_1 : Move Flag Inputs := ⟨.state0, state21, fun i => i.priority == 1⟩
def transition2_2 : Move Flag Inputs := ⟨state21, state22, fun i => openGuard i.alarms.temp_alarm i⟩
def transition2_3 : Move Flag Inputs := ⟨state22, state23, fun i => i.win_open_bo⟩
def transition2_4 : Move Flag Inputs := ⟨state23, state24, fun i => closeGuard i.alarms.temp_alarm i⟩
def transition2_5 : Move Flag Inputs := ⟨state24, state21, fun i => !i.win_open_bo⟩
def transition2_6 : Move Flag Inputs := ⟨state23, .init, fun i => i.priority != 1⟩
def transition2_7 : Move Flag Inputs := ⟨state21, .init, fun i => i.priority != 1⟩

def transition3_1 : Move Flag Inputs := ⟨.state0, state31, fun i => i.priority == 2⟩
def transition3_2 : Move Flag Inputs := ⟨state31, state32, fun i => openGuard i.alarms.airQ_alarm i⟩
def transition3_3 : Move Flag Inputs := ⟨state32, state33, fun i => i.win_open_bo⟩
def transition3_4 : Move Flag Inputs := ⟨state33, state34, fun i => closeGuard i.alarms.airQ_alarm i⟩
def transition3_5 : Move Flag Inputs := ⟨state34, state31, fun i => !i.win_open_bo⟩
def transition3_6 : Move Flag Inputs := ⟨state33, .init, fun i => i.priority != 2⟩
def transition3_7 : Move Flag Inputs := ⟨state31, .init, fun i => i.priority != 2⟩

def transition4_1 : Move Flag Inputs := ⟨.state0, state41, fun i => i.priority == 3⟩
def transition4_2 : Move Flag Inputs := ⟨state41, state42, fun i =>
  openGuard (i.alarms.airQ_alarm || i.alarms.temp_alarm || i.alarms.humid_alarm) i⟩
def transition4_3 : Move Flag Inputs := ⟨state42, state43, fun i => i.win_open_bo⟩
def transition4_4 : Move Flag Inputs := ⟨state43, state44, closeGuard4⟩
def transition4_5 : Move Flag Inputs := ⟨state44, state41, fun i => !i.win_open_bo⟩
def transition4_6 : Move Flag Inputs := ⟨state43, .init, fun i => i.priority != 3⟩
def transition4_7 : Move Flag Inputs := ⟨state41, .init, fun i => i.priority != 3⟩

/-- The seven statements of one block of states. -/
def block : Family → List (Move Flag Inputs)
  | .humidity => [transition1_1, transition1_2, transition1_3, transition1_4, transition1_5,
      transition1_6, transition1_7]
  | .temperature => [transition2_1, transition2_2, transition2_3, transition2_4, transition2_5,
      transition2_6, transition2_7]
  | .airQuality => [transition3_1, transition3_2, transition3_3, transition3_4, transition3_5,
      transition3_6, transition3_7]
  | .all => [transition4_1, transition4_2, transition4_3, transition4_4, transition4_5,
      transition4_6, transition4_7]

/-- Every transition statement of a pass, in the order of the text. -/
def transitions : List (Move Flag Inputs) :=
  transition0 :: (block .humidity ++ block .temperature ++ block .airQuality ++ block .all)

def runTransitions (i : Inputs) (flags : Flags) : Flags := fires transitions i flags

/-- The section "Assignments": the commands sent, in order. -/
def assignments (flags : Flags) : List WinCommand :=
  (if flags state12 || flags state22 || flags state32 || flags state42 then [.Open] else []) ++
  (if flags .init || flags state14 || flags state24 || flags state34 || flags state44 then [.Close]
    else [])

end SmartWindow
