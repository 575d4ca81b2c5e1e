/-
`receiveLoop` (main_controller.cpp): one datagram from another host, from the
cleared buffer to the rows it asks `write_in_db` to insert. A measurement
PUT_<sensor>_<position>/<value> goes into the table <sensor>_<position>, a
window report into Win_Open.
-/
import SmartWindow.Messages

namespace SmartWindow

/-- `strtok` until it returns null: the non-empty pieces between delimiters. -/
def splitString (string : Bytes) (delimiter : UInt8) : List Bytes :=
  ((cstr string).splitOnP (· == delimiter)).filter (· != [])

def tableName (sensor suffix : Bytes) : Bytes := sensor ++ SEP_SENSOR :: suffix

/-- A table and the value to insert into it. -/
abbrev Row := Bytes × Bytes

/-- The rows requested for one datagram; `none` where `strcmp` is called on the null entry after
the last token. -/
def receiveLoop (buffer : Bytes) : Option (List Row) :=
  match splitString buffer SEP_VALUE with
  | [name, value] =>
    match splitString name SEP_SENSOR with
    | [_, sensor, pos] => some [(tableName sensor pos, value)]
    | [] => none
    | cmd :: _ =>
      if cmd = CMD_PUT then
        if value = OPEN then some [(str "Win_Open", str "1")]
        else if value = CLOSE then some [(str "Win_Open", str "0")]
        else some []
      else some []
  | _ => some []

/-- The status a datagram sets: the value of its row for Win_Open, as `get_latest_value_bool` reads
the two texts of a window report. -/
def winOpen (buffer : Bytes) : Option Bool :=
  ((receiveLoop buffer).getD []).findSome? fun row =>
    if row = (str "Win_Open", str "1") then some true
    else if row = (str "Win_Open", str "0") then some false
    else none

theorem winOpen_text (c : WinCommand) : winOpen c.text = some c.status := by
  cases c <;> decide

/-! ## Tokens -/

theorem cstr_append {name : Bytes} (hname : ∀ x ∈ name, x ≠ 0) (rest : Bytes) :
    cstr (name ++ rest) = name ++ cstr rest :=
  List.takeWhile_append_of_pos (by simpa using hname)

theorem splitString_append {name : Bytes} {delimiter : UInt8} (hne : name ≠ [])
    (hd : delimiter ≠ 0) (hname : ∀ x ∈ name, x ≠ 0 ∧ x ≠ delimiter) (rest : Bytes) :
    splitString (name ++ delimiter :: rest) delimiter = name :: splitString rest delimiter := by
  have hcstr : cstr (name ++ delimiter :: rest) = name ++ delimiter :: cstr rest := by
    rw [cstr_append fun x hx => (hname x hx).1]
    simp [cstr, hd]
  unfold splitString
  rw [hcstr, List.splitOnP_append_cons_of_forall_mem (fun x hx => by simpa using (hname x hx).2) _
    (by simp)]
  simp [hne]

end SmartWindow
