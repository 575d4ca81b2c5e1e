/-
The texts both programs exchange: the macros of `SmartWindowMacros.h`
(controller) and the defines of `main.c` (node), as byte strings. The two
sides write them down independently; `put_win` says that they mean the same
bytes by the window commands.
-/
import Mathlib.Data.List.Basic

namespace SmartWindow

/-- A C string or a datagram, without the terminating NUL. -/
abbrev Bytes := List UInt8

/-- The bytes of a string literal. -/
def str (s : String) : Bytes := s.toList.map fun c => c.toNat.toUInt8

/-- What `strcmp`, `strlen` and `strcpy` see of a buffer: the bytes before its first NUL. -/
def cstr (buffer : Bytes) : Bytes := buffer.takeWhile (· ≠ 0)

/-! ## SmartWindowMacros.h -/

def CMD_PUT : Bytes := str "PUT"
def SEP_SENSOR : UInt8 := 95 -- '_'
def SEP_VALUE : UInt8 := 47 -- '/'
def ACT_WINDOW : Bytes := str "Win"
def OPEN : Bytes := str "Open"
def CLOSE : Bytes := str "Close"

/-- The two window commands of `decisionLoop`'s assignment section. -/
inductive WinCommand
  | Open
  | Close
  deriving DecidableEq, Repr

/-- The text `decisionLoop` passes to `sw_send`. -/
def WinCommand.text : WinCommand → Bytes
  | .Open => str "PUT_Win/Open"
  | .Close => str "PUT_Win/Close"

theorem WinCommand.text_inj {c c' : WinCommand} (h : c.text = c'.text) : c = c' := by
  cases c <;> cases c' <;> first | rfl | exact absurd h (by decide)

/-- The window status a command asks for: true is open. -/
def WinCommand.status : WinCommand → Bool
  | .Open => true
  | .Close => false

/-! ## main.c -/

def SW_OPEN_WINDOW : Bytes := str "PUT_Win/Open"
def SW_CLOSE_WINDOW : Bytes := str "PUT_Win/Close"
def SW_FINISH_OPEN_WINDOW : Bytes := SW_OPEN_WINDOW
def SW_FINISH_CLOSE_WINDOW : Bytes := SW_CLOSE_WINDOW
def GET_ALL : Bytes := str "GET_All"

def SENS_TEMP : Bytes := str "Temp"
def SENS_AIR_PRESSURE : Bytes := str "AirPressure"
def SENS_AIR_QUALITY : Bytes := str "AirQuality"
def SENS_VOLUME : Bytes := str "Volume"
def SENS_HUMIDITY : Bytes := str "Humidity"

/-- The macros `PUT_WIN_OPEN` and `PUT_WIN_CLOSE`, the loop's literals and the node's commands
are the same texts. -/
theorem put_win :
    CMD_PUT ++ SEP_SENSOR :: ACT_WINDOW ++ SEP_VALUE :: OPEN = WinCommand.text .Open ∧
    CMD_PUT ++ SEP_SENSOR :: ACT_WINDOW ++ SEP_VALUE :: CLOSE = WinCommand.text .Close ∧
    WinCommand.text .Open = SW_OPEN_WINDOW ∧ WinCommand.text .Close = SW_CLOSE_WINDOW := by
  decide

end SmartWindow
