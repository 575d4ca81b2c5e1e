/-
`write_in_db` and the three readers (write_read.cpp) on one table of the
schema, with a working connection. The server's part is a parameter `store`:
the text it returns for a value once the column of the table has taken it,
`none` where the column does not take it.

`Zeitstempel` is unique and one second fine, so a table takes at most one row
in a second: `last_write` says what each call of a sequence does.
-/
import Mathlib.Data.List.Induction
import Mathlib.Data.Rat.Defs
import SmartWindow.Messages
import SmartWindow.Store.Schema

namespace SmartWindow

/-! ## Numbers in texts -/

def isspace (c : UInt8) : Bool := c == 32 || (9 ≤ c && c ≤ 13)

def isdigit (c : UInt8) : Bool := 48 ≤ c && c ≤ 57

/-- The number that a text of digits spells. -/
def natOf (digits : Bytes) : Nat := digits.foldl (fun n c => 10 * n + (c.toNat - 48)) 0

/-- The sign of a number's text, and the text behind it. -/
def sign (s : Bytes) : Int × Bytes :=
  let s := s.dropWhile isspace
  if s.head? = some 45 then (-1, s.tail)
  else if s.head? = some 43 then (1, s.tail)
  else (1, s)

/-- `atoi`: the digits up to the first byte that is none. -/
def atoi (s : Bytes) : Int := (sign s).1 * natOf ((sign s).2.takeWhile isdigit)

/-- `atof` on plain decimal notation: all the digits, by a power of ten for those behind the point. -/
def atof (s : Bytes) : Rat :=
  let whole := (sign s).2.takeWhile isdigit
  let rest := (sign s).2.dropWhile isdigit
  let fraction := if rest.head? = some 46 then rest.tail.takeWhile isdigit else []
  mkRat ((sign s).1 * natOf (whole ++ fraction)) (Nat.pow 10 fraction.length)

/-! ## The readers -/

/-- What the three readers make of the text of a Wert. -/
structure Reading where
  double : Rat
  bool : Bool
  int : Int
  deriving DecidableEq

def Reading.of (wert : Bytes) : Reading := ⟨atof wert, atof wert != 0, atoi wert⟩

def get_latest_value_double (t : Table Bytes) : Option Rat := t.latest.map atof

def get_latest_value_bool (t : Table Bytes) : Option Bool := t.latest.map (atof · != 0)

def get_latest_value_int (t : Table Bytes) : Option Int := t.latest.map atoi

/-- The three readers obtain this value. -/
def Reads3 (t : Table Bytes) (value : Option Reading) : Prop :=
  get_latest_value_double t = value.map (·.double) ∧ get_latest_value_bool t = value.map (·.bool) ∧
    get_latest_value_int t = value.map (·.int)

theorem reads3_latest (t : Table Bytes) : Reads3 t (t.latest.map Reading.of) := by
  refine ⟨?_, ?_, ?_⟩ <;> rw [Option.map_map] <;> rfl

/-! ## The writer -/

def BUF : Nat := 255

/-- The statement that `write_in_db` assembles in `buf`. -/
def statement (table value : Bytes) : Bytes :=
  str "INSERT INTO " ++ table ++ str " (" ++ str "Zeitstempel" ++ str ", " ++ str "Wert" ++
    str ") VALUES (" ++ str "NOW()" ++ str ", " ++ value ++ str ");"

/-- The statement and its NUL fit into `buf`. -/
def Fits (table value : Bytes) : Prop := (statement table value).length < BUF

instance (table value : Bytes) : Decidable (Fits table value) :=
  inferInstanceAs (Decidable (_ < _))

/-- One call, in a second. -/
structure Call where
  now : Nat
  value : Bytes

variable (store : TableDef → Bytes → Option Bytes) (d : TableDef)

/-- The column takes the value, and the table has no row of this second. -/
def Accepted (t : Table Bytes) (c : Call) : Prop :=
  (store d c.value).isSome = true ∧ t.Free c.now

instance (t : Table Bytes) (c : Call) : Decidable (Accepted store d t c) :=
  inferInstanceAs (Decidable (_ ∧ _))

/-- What the call returns, and the table after it; `none` where `buf` is overrun. -/
def write_in_db (t : Table Bytes) (c : Call) : Option (Bool × Table Bytes) :=
  if Fits (str d.name) c.value then
    some (match store d c.value with
      | none => (false, t)
      | some wert => t.insert c.now wert)
  else none

def writes (t : Table Bytes) (calls : List Call) : Option (Table Bytes) :=
  calls.foldlM (fun t c => (write_in_db store d t c).map (·.2)) t

variable {store d}

variable (store) in
/-- One call: accepted or rejected, and what the table's latest value is then. -/
theorem write_in_db_spec {t : Table Bytes} {c : Call} (h : Fits (str d.name) c.value) :
    ∃ t', write_in_db store d t c = some (decide (Accepted store d t c), t') ∧
      t'.latest = if Accepted store d t c then store d c.value else t.latest := by
  unfold write_in_db Accepted
  rw [if_pos h]
  rcases Option.eq_none_or_eq_some (store d c.value) with hs | ⟨wert, hs⟩
  · exact ⟨t, by simp [hs]⟩
  · exact ⟨(t.insert c.now wert).2, by simp [hs, ← t.insert_accepted c.now wert],
      by simp [hs, t.latest_insert]⟩

theorem writes_snoc (t : Table Bytes) (pre : List Call) (c : Call) :
    writes store d t (pre ++ [c]) =
      (writes store d t pre).bind fun t => (write_in_db store d t c).map (·.2) := by
  simp [writes, List.foldlM_append]

variable (store) in
theorem exists_writes {t : Table Bytes} {calls : List Call}
    (h : ∀ c ∈ calls, Fits (str d.name) c.value) : ∃ t', writes store d t calls = some t' := by
  induction calls using List.reverseRecOn with
  | nil => exact ⟨t, rfl⟩
  | append_singleton calls c ih =>
    obtain ⟨t₁, ht₁⟩ := ih fun c hc => h c (by simp [hc])
    obtain ⟨t₂, ht₂, -⟩ := write_in_db_spec store (t := t₁) (h c (by simp))
    exact ⟨t₂, by simp [writes_snoc, ht₁, ht₂]⟩

/-- After each call the three readers obtain the value just written. -/
def LastWriteWins (store : TableDef → Bytes → Option Bytes) (d : TableDef) (t₀ : Table Bytes)
    (calls : List Call) : Prop :=
  ∀ pre c, pre ++ [c] <+: calls → ∃ t, writes store d t₀ (pre ++ [c]) = some t ∧
    Reads3 t ((store d c.value).map Reading.of)

/-- What each call of a sequence does: one in a second that has no row yet, of a value that the
column takes, returns true, and the readers obtain the value; any other returns false, and they
obtain what they obtained before. -/
def WritesOrRejects (store : TableDef → Bytes → Option Bytes) (d : TableDef) (t₀ : Table Bytes)
    (calls : List Call) : Prop :=
  ∀ pre c, pre ++ [c] <+: calls → ∃ t t', writes store d t₀ pre = some t ∧
    write_in_db store d t c = some (decide (Accepted store d t c), t') ∧
    Reads3 t (t.latest.map Reading.of) ∧
    Reads3 t' (if Accepted store d t c then (store d c.value).map Reading.of
      else t.latest.map Reading.of)

/-- Win_Open, and its first row. -/
def winOpenDef : TableDef := ⟨"Win_Open", .bool, true, none⟩

def winOpenTable : Table Bytes := (Table.empty.insert 0 (str "0")).2

/-- The window reports open and closed in the same second. -/
def twoReports : List Call := [⟨5, str "1"⟩, ⟨5, str "0"⟩]

end SmartWindow
