/-
The handlers of Webserver.py on the database. All of them share one
connection with autocommit off: an accepted INSERT is pending until the next
`connection.commit()`, whichever handler calls it; a rejected one raises and
ends the handler, and leaves what is pending where it is. Nothing rolls back.

What the server makes of a statement is part of a request (`takes`): it
rejects one with a form string that is no value, or with a second row in a
second. Rows carry the number of the request that inserted them.
-/
import Mathlib.Data.List.Basic
import SmartWindow.Store.WriteRead

namespace SmartWindow.Web

/-- The strings of the settings form. -/
structure Form where
  MinTemp : String
  MaxTemp : String
  MinHum : String
  MaxHum : String
  MaxCO2 : String
  MaxWind : String
  MaxNoise : String
  Priority : String

inductive Endpoint
  | main
  | auto
  | manu
  | «open»
  | close
  | submit (form : Form)
  | reset

/-- What a handler asks of the connection. -/
inductive Op
  | insert (table value : String)
  | commit

/-- `Main`: "resetting the database connection", and queries. -/
def Main : List Op := [.commit]

/-- The nine INSERTs of `submit` and `reset`. -/
def limits (MinTemp MaxTemp MinHum MaxHum MaxQual MaxWind MaxSound Prio : String) : List Op :=
  [.insert "Temp_MIN" MinTemp,
    .insert "Temp_MAX" MaxTemp,
    .insert "Humidity_MIN" MinHum,
    .insert "Humidity_MAX" MaxHum,
    .insert "AirQuality_MAX" MaxQual,
    .insert "Wind_MAX" MaxWind,
    .insert "Volume_MAX" MaxSound,
    .insert "Priority" Prio,
    .insert "LimitChange" "1"]

/-- A handler, given the mode that `open` and `close` query. `submit` and `reset` end in `LimitsText`,
which only queries. -/
def handler (Modus : Bool) : Endpoint → List Op
  | .main => Main
  | .auto =>
    [.insert "AutoModus" "1", .insert "ManOpen" "0", .insert "ManClose" "0", .commit] ++ Main
  | .manu => [.insert "AutoModus" "0", .commit] ++ Main
  | .open =>
    (if !Modus then [.insert "ManOpen" "1", .insert "ManClose" "0", .commit] else []) ++ Main
  | .close =>
    (if !Modus then [.insert "ManOpen" "0", .insert "ManClose" "1", .commit] else []) ++ Main
  | .submit f =>
    limits f.MinTemp f.MaxTemp f.MinHum f.MaxHum f.MaxCO2 f.MaxWind f.MaxNoise f.Priority ++ [.commit]
  | .reset => limits "20" "26" "30" "65" "1" "21" "60" "3" ++ [.commit]

/-- A row, and the request that inserted it; `none` for the rows of the script. -/
structure Row where
  request : Option Nat
  table : String
  value : String
  deriving DecidableEq

/-- The committed rows and the pending ones in the order of their insertion, the number of requests
served, and which of them raised before their own commit. -/
structure State where
  committed : List Row
  pending : List Row
  served : Nat
  raised : List Nat

/-- The server before the first request, over the rows of the script. -/
def State.start (rows : List (String × String)) : State :=
  ⟨rows.map fun r => ⟨none, r.1, r.2⟩, [], 0, []⟩

/-- A request: the page, and what the server makes of the `k`th of its INSERTs, given the table and the
string that is pasted into it: `none` if it is rejected, else the values of the rows it inserts. -/
structure Request where
  endpoint : Endpoint
  takes : Nat → String → String → Option (List String)

/-- The literals of a bool column: TRUE, and every number but 0. -/
def asBool (value : String) : Bool := value == "TRUE" || atof (str value) != 0

@[simp] theorem asBool_zero : asBool "0" = false := by decide

@[simp] theorem asBool_one : asBool "1" = true := by decide

/-- The latest value of a table of which the rows are in order. -/
def latest (rows : List Row) (table : String) : Option String :=
  ((rows.filter (·.table == table)).getLast?).map (·.value)

/-- The mode as the connection sees it, its own pending rows included. -/
def State.modus (s : State) : Option Bool := (latest (s.committed ++ s.pending) "AutoModus").map asBool

/-- The statements of a request. `open` and `close` raise at once if there is no mode to fetch. -/
def State.ops (s : State) : Endpoint → Option (List Op)
  | .open => s.modus.map (handler · .open)
  | .close => s.modus.map (handler · .close)
  | e => some (handler false e)

def rowsOf (n : Nat) (table : String) (values : List String) : List Row := values.map (⟨some n, table, ·⟩)

/-- A handler's statements one after the other, the `k`th INSERT next: the connection's rows, committed
and pending, and whether a statement raised. -/
def execute (n : Nat) (takes : Nat → String → String → Option (List String)) : Nat → List Op →
    List Row × List Row → (List Row × List Row) × Bool
  | _, [], db => (db, false)
  | k, .insert table value :: ops, db =>
    match takes k table value with
    | some values => execute n takes (k + 1) ops (db.1, db.2 ++ rowsOf n table values)
    | none => (db, true)
  | k, .commit :: ops, db => execute n takes k ops (db.1 ++ db.2, [])

def serve (s : State) (r : Request) : State :=
  match s.ops r.endpoint with
  | none => { s with served := s.served + 1, raised := s.raised ++ [s.served] }
  | some ops =>
    let (db, raised) := execute s.served r.takes 0 ops (s.committed, s.pending)
    { committed := db.1
      pending := db.2
      served := s.served + 1
      raised := if raised then s.raised ++ [s.served] else s.raised }

def serveAll (s : State) (rs : List Request) : State := rs.foldl serve s

/-! ## What a request does -/

def inserts (ops : List Op) : List (String × String) :=
  ops.filterMap fun
    | .insert table value => some (table, value)
    | .commit => none

/-- The rows of a request's INSERTs, the `k`th next, as far as they are taken. -/
def rowsFrom (n : Nat) (takes : Nat → String → String → Option (List String)) : Nat →
    List (String × String) → List Row
  | _, [] => []
  | k, w :: writes => rowsOf n w.1 ((takes k w.1 w.2).getD []) ++ rowsFrom n takes (k + 1) writes

theorem mem_rowsFrom {n : Nat} {takes : Nat → String → String → Option (List String)} {k : Nat}
    {writes : List (String × String)} {row : Row} (h : row ∈ rowsFrom n takes k writes) :
    row.request = some n := by
  induction writes generalizing k with
  | nil => cases h
  | cons w writes ih =>
    rcases List.mem_append.1 h with h | h
    · obtain ⟨v, -, rfl⟩ := List.mem_map.1 h
      rfl
    · exact ih h

/-- A request one of whose INSERTs is rejected, or that finds no mode. -/
def Rejected (s : State) (r : Request) : Prop :=
  ∀ ops, s.ops r.endpoint = some ops →
    ∃ j w, (inserts ops)[j]? = some w ∧ r.takes j w.1 w.2 = none

/-- Every handler first inserts and then commits, once or twice. -/
theorem handler_shape (Modus : Bool) (e : Endpoint) : ∃ m, handler Modus e =
    (inserts (handler Modus e)).map (fun w => .insert w.1 w.2) ++ List.replicate (m + 1) .commit := by
  cases e with
  | main => exact ⟨0, rfl⟩
  | auto => exact ⟨1, rfl⟩
  | manu => exact ⟨1, rfl⟩
  | «open» =>
    cases Modus with
    | false => exact ⟨1, rfl⟩
    | true => exact ⟨0, rfl⟩
  | close =>
    cases Modus with
    | false => exact ⟨1, rfl⟩
    | true => exact ⟨0, rfl⟩
  | submit f => exact ⟨0, rfl⟩
  | reset => exact ⟨0, rfl⟩

theorem ops_shape {s : State} {e : Endpoint} {ops : List Op} (h : s.ops e = some ops) :
    ∃ m, ops = (inserts ops).map (fun w => .insert w.1 w.2) ++ List.replicate (m + 1) .commit := by
  have hhandler : ∃ Modus, ops = handler Modus e := by
    cases e with
    | «open» =>
      obtain ⟨Modus, -, hM⟩ := Option.map_eq_some_iff.1 h
      exact ⟨Modus, hM.symm⟩
    | close =>
      obtain ⟨Modus, -, hM⟩ := Option.map_eq_some_iff.1 h
      exact ⟨Modus, hM.symm⟩
    | _ => exact ⟨false, (Option.some.inj h).symm⟩
  obtain ⟨Modus, rfl⟩ := hhandler
  exact handler_shape Modus e

section

variable (n : Nat) (takes : Nat → String → String → Option (List String)) (k m : Nat)
  (writes : List (String × String)) (committed pending : List Row)

theorem execute_commits :
    execute n takes k (List.replicate m .commit) (committed, []) = ((committed, []), false) := by
  induction m with
  | zero => rfl
  | succ m ih =>
    rw [List.replicate_succ, execute, List.append_nil]
    exact ih

/-- A handler whose statements are accepted commits everything pending, and then its rows. -/
theorem execute_accepted (h : ∀ j w, writes[j]? = some w → takes (k + j) w.1 w.2 ≠ none) :
    execute n takes k (writes.map (fun w => Op.insert w.1 w.2) ++ List.replicate (m + 1) .commit)
      (committed, pending) = ((committed ++ (pending ++ rowsFrom n takes k writes), []), false) := by
  induction writes generalizing k pending with
  | nil =>
    rw [List.map_nil, List.nil_append, List.replicate_succ, execute, execute_commits, rowsFrom,
      List.append_nil]
  | cons w writes ih =>
    obtain ⟨values, hk⟩ := Option.ne_none_iff_exists'.1 (h 0 w rfl)
    have hrest : ∀ j w, writes[j]? = some w → takes (k + 1 + j) w.1 w.2 ≠ none := by
      intro j w hw
      have := h (j + 1) w hw
      rwa [show k + (j + 1) = k + 1 + j by omega] at this
    rw [Nat.add_zero] at hk
    simp only [List.map_cons, List.cons_append, execute, hk]
    rw [ih (k + 1) _ hrest]
    simp [rowsFrom, hk]

/-- A handler one of whose statements is rejected commits nothing and leaves the rows before it pending. -/
theorem execute_rejected (h : ∃ j w, writes[j]? = some w ∧ takes (k + j) w.1 w.2 = none) :
    ∃ done : List Row, (∀ row ∈ done, row.request = some n) ∧
      execute n takes k (writes.map (fun w => Op.insert w.1 w.2) ++ List.replicate (m + 1) .commit)
        (committed, pending) = ((committed, pending ++ done), true) := by
  induction writes generalizing k pending with
  | nil =>
    obtain ⟨j, w, hw, -⟩ := h
    simp at hw
  | cons w writes ih =>
    simp only [List.map_cons, List.cons_append, execute]
    cases hk : takes k w.1 w.2 with
    | none => exact ⟨[], by simp, by simp⟩
    | some values =>
      obtain ⟨j, v, hv, hrej⟩ := h
      have hj : j ≠ 0 := by
        rintro rfl
        cases hv
        rw [Nat.add_zero, hk] at hrej
        cases hrej
      obtain ⟨i, rfl⟩ := Nat.exists_eq_succ_of_ne_zero hj
      rw [show k + i.succ = k + 1 + i by omega] at hrej
      obtain ⟨done, hdone, hrun⟩ := ih (k + 1) (pending ++ rowsOf n w.1 values) ⟨i, v, hv, hrej⟩
      refine ⟨rowsOf n w.1 values ++ done, ?_, hrun.trans (by rw [List.append_assoc])⟩
      intro row hrow
      rcases List.mem_append.1 hrow with hrow | hrow
      · obtain ⟨v, -, rfl⟩ := List.mem_map.1 hrow
        rfl
      · exact hdone row hrow

end

/-- **A request that gets through** commits everything pending and then its own rows. -/
theorem serve_accepted {s : State} {r : Request} (h : ¬ Rejected s r) :
    ∃ ops, s.ops r.endpoint = some ops ∧ serve s r =
      ⟨s.committed ++ (s.pending ++ rowsFrom s.served r.takes 0 (inserts ops)), [], s.served + 1,
        s.raised⟩ := by
  simp only [Rejected, not_forall] at h
  obtain ⟨ops, hops, hall⟩ := h
  obtain ⟨m, hm⟩ := ops_shape hops
  have hacc : ∀ j w, (inserts ops)[j]? = some w → r.takes (0 + j) w.1 w.2 ≠ none := by
    intro j w hw hrej
    rw [Nat.zero_add] at hrej
    exact hall ⟨j, w, hw, hrej⟩
  have hrun := execute_accepted s.served r.takes 0 m (inserts ops) s.committed s.pending hacc
  rw [← hm] at hrun
  exact ⟨ops, hops, by simp [serve, hops, hrun]⟩

/-- **A request that raises** commits nothing: what it inserted before is pending, and stays so. -/
theorem serve_rejected {s : State} {r : Request} (h : Rejected s r) :
    ∃ done : List Row, (∀ row ∈ done, row.request = some s.served) ∧ serve s r =
      ⟨s.committed, s.pending ++ done, s.served + 1, s.raised ++ [s.served]⟩ := by
  cases hops : s.ops r.endpoint with
  | none => exact ⟨[], by simp, by simp [serve, hops]⟩
  | some ops =>
    obtain ⟨j, w, hw, hrej⟩ := h ops hops
    obtain ⟨m, hm⟩ := ops_shape hops
    obtain ⟨done, hdone, hrun⟩ := execute_rejected s.served r.takes 0 m (inserts ops) s.committed
      s.pending ⟨j, w, hw, by rwa [Nat.zero_add]⟩
    rw [← hm] at hrun
    exact ⟨done, hdone, by simp [serve, hops, hrun]⟩

end SmartWindow.Web
