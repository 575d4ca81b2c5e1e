/-
The readers of write_read.cpp call by call: the handle of the client library,
the two queries and every point at which a call can fail. Between the queries
others may insert rows. The three readers are one procedure that differs in
which results of `check_error` it looks at.

A `char *` of the procedure may hold no string when it is used: it was never
set, or it was set to the null a NULL cell is delivered as. Such a use, and
fetching from the null that a failed query leaves, is `none` here.
-/
import SmartWindow.Store.Decimal

namespace SmartWindow.Client

/-! ## The client library -/

/-- Which steps fail: connecting, selecting the database, the first and the second query. -/
structure Failures where
  connect : Bool
  select : Bool
  first : Bool
  second : Bool
  deriving DecidableEq, Repr

/-- The handle, and the sessions opened and not closed so far. `errno` is set by the last call and says
that it failed. -/
structure Handle where
  connected : Bool
  errno : Bool
  sessions : Nat
  deriving DecidableEq, Repr

/-- A cell of a result, `none` for NULL. -/
abbrev Cell := Option Bytes

/-- A table whose column Wert may hold NULL. -/
abbrev Rows := Table Cell

/-- `connect`: `mysql_init` and `mysql_real_connect`. -/
def connect (f : Failures) (h : Handle) : Handle :=
  ⟨!f.connect, f.connect, if f.connect then h.sessions else h.sessions + 1⟩

def close_session (h : Handle) : Handle := ⟨false, h.errno, h.sessions - 1⟩

def check_error (h : Handle) : Bool := h.errno

/-- `mysql_select_db`: whether it succeeds, which takes a connection. -/
def mysql_select_db (f : Failures) (h : Handle) : Bool × Handle :=
  (h.connected && !f.select, { h with errno := !(h.connected && !f.select) })

/-- `mysql_real_query` and `mysql_store_result`: the rows of the result, null where the query fails. -/
def query (fails : Bool) (result : List (List Cell)) (h : Handle) :
    Option (List (List Cell)) × Handle :=
  (if h.connected && !fails then some result else none,
    { h with errno := !(h.connected && !fails) })

/-- `SELECT MAX(id) AS id FROM table`: one row with one cell, NULL for an empty table. -/
def selectMaxId (t : Rows) : List (List Cell) := [[t.maxId.map digits]]

/-- `SELECT Wert FROM table WHERE ID=id` -/
def selectWert (t : Rows) (id : Bytes) : List (List Cell) :=
  (t.rows.filter fun r => r.id == natOf id).map fun r => [r.value]

/-- A local `char *`. -/
inductive Pointer
  | unset
  | null
  | to (s : Bytes)

/-- What a NULL cell and a text are delivered as. -/
def Pointer.ofCell : Cell → Pointer
  | none => .null
  | some s => .to s

/-- A use of the string. -/
def Pointer.string : Pointer → Option Bytes
  | .to s => some s
  | _ => none

/-- The loops of `mysql_fetch_row` over every cell of every row: the last cell stays. -/
def fetch : Option (List (List Cell)) → Option Pointer
  | none => none
  | some rows => some (rows.flatten.foldl (fun _ cell => .ofCell cell) .unset)

/-! ## The readers -/

/-- What a reader returns, and leaves in `*succeeded` and the handle. -/
structure Return (α : Type) where
  value : α
  succeeded : Bool
  handle : Handle
  deriving DecidableEq, Repr

section

variable {α : Type} (checkConnect checkSecond : Bool) (convert : Bytes → α) (zero : α)

/-- The procedure. `others` are the rows that others insert between the two queries. -/
def get_latest_value (f : Failures) (t : Rows) (others : List (Nat × Cell)) (h : Handle) :
    Option (Return α) :=
  let h := connect f h
  if checkConnect && check_error h then some ⟨zero, false, h⟩
  else
    let (selected, h) := mysql_select_db f h
    if !selected then some ⟨zero, false, h⟩
    else
      let (result, h) := query f.first (selectMaxId t) h
      if check_error h then some ⟨zero, false, h⟩
      else do
        let max_id ← fetch result
        let id ← max_id.string
        let (result, h) := query f.second (selectWert (t.insertAll others) id) h
        if checkSecond && check_error h then some ⟨zero, false, h⟩
        else do
          let value_max_id ← fetch result
          let h := close_session h
          let wert ← value_max_id.string
          some ⟨convert wert, true, h⟩

end

/-- The one that looks at the error of `connect`. After the second query it calls `check_error`, but
looks at the error of the first. -/
def get_latest_value_double :
    Failures → Rows → List (Nat × Cell) → Handle → Option (Return Rat) :=
  get_latest_value true false atof 0

/-- It calls `check_error` after `connect` for nothing. -/
def get_latest_value_bool : Failures → Rows → List (Nat × Cell) → Handle → Option (Return Bool) :=
  get_latest_value false true (atof · != 0) false

/-- The same, with `atoi`. -/
def get_latest_value_int : Failures → Rows → List (Nat × Cell) → Handle → Option (Return Int) :=
  get_latest_value false true atoi 0

/-! ## What the procedure comes to -/

/-- All steps up to the first query succeed. -/
def Failures.Begins (f : Failures) : Prop := f.connect = false ∧ f.select = false ∧ f.first = false

instance (f : Failures) : Decidable f.Begins := inferInstanceAs (Decidable (_ ∧ _))

variable {α : Type} {checkConnect checkSecond : Bool} {convert : Bytes → α} {zero : α}

/-- A failure up to the first query is reported, whether or not the one of `connect` is looked at:
without a connection there is no database to select. A session that was opened stays open. -/
theorem get_latest_value_fails {f : Failures} (hf : ¬ f.Begins) (t : Rows)
    (others : List (Nat × Cell)) (h : Handle) :
    ∃ h', get_latest_value checkConnect checkSecond convert zero f t others h =
        some ⟨zero, false, h'⟩ ∧
      h'.sessions = if f.connect then h.sessions else h.sessions + 1 := by
  obtain ⟨c, s, q₁, q₂⟩ := f
  cases c <;> cases s <;> cases q₁ <;> cases checkConnect <;>
    simp_all [Failures.Begins, get_latest_value, connect, check_error, mysql_select_db, query]

theorem fetch_selectWert {t : Rows} {m : Nat} (hm : t.maxId = some m) (others : List (Nat × Cell)) :
    ∃ wert, t.latest = some wert ∧
      fetch (some (selectWert (t.insertAll others) (digits m))) = some (.ofCell wert) := by
  obtain ⟨r, hr, hlatest⟩ := Table.filter_maxId hm others
  exact ⟨r.value, hlatest, by simp [fetch, selectWert, natOf_digits, hr]⟩

theorem string_ofCell (cell : Cell) : (Pointer.ofCell cell).string = cell := by
  cases cell <;> rfl

theorem get_latest_value_second {f : Failures} (hf : f.Begins) (t : Rows)
    (others : List (Nat × Cell)) (h : Handle) :
    get_latest_value checkConnect checkSecond convert zero f t others h =
      t.maxId.bind fun m =>
        let q := query f.second (selectWert (t.insertAll others) (digits m)) ⟨true, false, h.sessions + 1⟩
        if checkSecond && check_error q.2 then some ⟨zero, false, q.2⟩
        else (fetch q.1).bind fun p =>
          p.string.bind fun wert => some ⟨convert wert, true, close_session q.2⟩ := by
  obtain ⟨hc, hs, hq⟩ := hf
  have hmax : fetch (some (selectMaxId t)) = some (.ofCell (t.maxId.map digits)) := rfl
  simp [get_latest_value, connect, check_error, mysql_select_db, query, hc, hs, hq, hmax,
    string_ofCell, Option.bind_map]

/-- After the first query: an empty table leaves a null to be used, a failing second query is reported
or leaves a null to be fetched from, and a NULL in the row found is a null to be converted. -/
theorem get_latest_value_begins {f : Failures} (hf : f.Begins) (t : Rows)
    (others : List (Nat × Cell)) (h : Handle) :
    get_latest_value checkConnect checkSecond convert zero f t others h =
      t.latest.bind fun wert =>
        if f.second then
          if checkSecond then some ⟨zero, false, ⟨true, true, h.sessions + 1⟩⟩ else none
        else wert.map fun s => ⟨convert s, true, ⟨false, false, h.sessions⟩⟩ := by
  rw [get_latest_value_second hf]
  cases hm : t.maxId with
  | none => simp [Table.latest, hm]
  | some m =>
    obtain ⟨wert, hlatest, hfetch⟩ := fetch_selectWert hm others
    have hnull : fetch none = none := rfl
    rw [hlatest, Option.bind_some, Option.bind_some]
    cases h₂ : f.second with
    | true => cases checkSecond <;> simp [query, check_error, hnull]
    | false => cases wert <;> simp [query, check_error, hfetch, string_ofCell, close_session]

/-! ## The flag -/

/-- What the flag promises: the reader returns, the flag is true exactly if all steps succeeded and the
table had a row at the first query, and the value is then that of the row with the greatest ID, else 0. -/
def Trusted (convert : Bytes → α) (zero : α) (f : Failures) (t : Rows) (result : Option (Return α)) :
    Prop :=
  ∃ r, result = some r ∧
    (r.succeeded = true ↔ (f.Begins ∧ f.second = false) ∧ t.latest.isSome = true) ∧
    (r.succeeded = true → ∃ wert, t.latest = some (some wert) ∧ r.value = convert wert) ∧
    (r.succeeded = false → r.value = zero)

theorem trusted_get_latest_value_iff (f : Failures) (t : Rows) (others : List (Nat × Cell))
    (h : Handle) :
    Trusted convert zero f t
        (get_latest_value checkConnect checkSecond convert zero f t others h) ↔
      (f.Begins → ∃ wert, t.latest = some wert ∧
        if f.second then checkSecond = true else wert.isSome = true) := by
  by_cases hf : f.Begins
  · rw [get_latest_value_begins hf]
    rcases hlatest : t.latest with _ | cell
    · simp [Trusted, hf]
    · cases h₂ : f.second <;> cases checkSecond <;> cases cell <;> simp [Trusted, h₂, hf, hlatest]
  · obtain ⟨h', hr, -⟩ := @get_latest_value_fails α checkConnect checkSecond convert zero f hf t others h
    rw [hr]
    simp [Trusted, hf]

/-- **When the flags of the three readers can be trusted**: where the steps up to the first query
succeed, the table must have a row and, if the second query succeeds, a Wert in it; for the reader of a
double the second query must succeed. -/
theorem readers_trusted_iff (f : Failures) (t : Rows) (others : List (Nat × Cell)) (h : Handle) :
    (Trusted atof 0 f t (get_latest_value_double f t others h) ↔
      (f.Begins → f.second = false ∧ ∃ wert, t.latest = some (some wert))) ∧
    (Trusted (atof · != 0) false f t (get_latest_value_bool f t others h) ↔
      (f.Begins → ∃ cell, t.latest = some cell ∧ (f.second = false → cell.isSome = true))) ∧
    (Trusted atoi 0 f t (get_latest_value_int f t others h) ↔
      (f.Begins → ∃ cell, t.latest = some cell ∧ (f.second = false → cell.isSome = true))) := by
  have hdouble : (∃ cell, t.latest = some cell ∧
      if f.second then false = true else cell.isSome = true) ↔
      f.second = false ∧ ∃ wert, t.latest = some (some wert) := by
    cases f.second <;> simp [Option.isSome_iff_exists]
  have hchecked : (∃ cell, t.latest = some cell ∧
      if f.second then true = true else cell.isSome = true) ↔
      ∃ cell, t.latest = some cell ∧ (f.second = false → cell.isSome = true) := by
    cases f.second <;> simp
  refine ⟨?_, ?_, ?_⟩
  · exact (trusted_get_latest_value_iff f t others h).trans (imp_congr_right fun _ => hdouble)
  · exact (trusted_get_latest_value_iff f t others h).trans (imp_congr_right fun _ => hchecked)
  · exact (trusted_get_latest_value_iff f t others h).trans (imp_congr_right fun _ => hchecked)

def Failures.none : Failures := ⟨false, false, false, false⟩

/-- On a table without NULLs and with nothing failing these are the readers that only look at the
table, whatever others insert. -/
theorem get_latest_value_works (t : Table Bytes) (others : List (Nat × Cell)) (h : Handle) :
    get_latest_value checkConnect checkSecond convert zero .none (t.map some) others h =
      (t.latest.map convert).map fun value => ⟨value, true, ⟨false, false, h.sessions⟩⟩ := by
  rw [get_latest_value_begins (by decide), Table.latest_map]
  cases t.latest <;> rfl

def Handle.start : Handle := ⟨false, false, 0⟩

theorem not_trusted_none {f : Failures} {t : Rows} : ¬ Trusted convert zero f t none := by
  intro h
  obtain ⟨r, hr, -⟩ := h
  simp at hr

/-- One row, and a second query that fails. -/
def oneRow : Rows := (Table.empty.insert 0 (some (str "22"))).2

/-- A table without rows leaves a null in `max_id` in all three, and the reader of a double fetches from
the null that a failing second query leaves. -/
theorem null_used :
    ¬ Trusted atof 0 .none .empty (get_latest_value_double .none .empty [] .start) ∧
    ¬ Trusted (atof · != 0) false .none .empty (get_latest_value_bool .none .empty [] .start) ∧
    ¬ Trusted atoi 0 .none .empty (get_latest_value_int .none .empty [] .start) ∧
    ¬ Trusted atof 0 ⟨false, false, false, true⟩ oneRow
      (get_latest_value_double ⟨false, false, false, true⟩ oneRow [] .start) :=
  ⟨not_trusted_none, not_trusted_none, not_trusted_none, not_trusted_none⟩

end SmartWindow.Client
