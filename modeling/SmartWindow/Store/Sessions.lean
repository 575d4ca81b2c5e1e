/-
The sessions that calls of `write_in_db` and the readers leave open
(write_read.cpp). A call that connects and then fails returns from where it
fails, and only the two paths that reach `close_session` close the session.
`sessions_runAll` counts what is open after a sequence of calls, and
`balanced_iff` says in which sequences no call leaves one open.
-/
import SmartWindow.Store.Client

namespace SmartWindow.Client

/-! ## The writer -/

/-- `write_in_db` with a query that may fail, or that the server rejects: what it returns, the table and
the handle. It looks at the error of the query, and closes the session in any case. -/
def write_in_db (store : TableDef → Bytes → Option Cell) (d : TableDef) (f : Failures) (t : Rows)
    (now : Nat) (value : Bytes) (h : Handle) : Option (Bool × Rows × Handle) :=
  let h := connect f h
  let (selected, h) := mysql_select_db f h
  if !selected then some (false, t, h)
  else if Fits (str d.name) value then
    let (inserted, t) :=
      if h.connected && !f.first then
        match store d value with
        | none => (false, t)
        | some wert => t.insert now wert
      else (false, t)
    let h := { h with errno := !inserted }
    let error := check_error h
    let h := close_session h
    some (!error, t, h)
  else none

/-- With nothing failing and no NULLs it is the writer that only looks at the table. -/
theorem write_in_db_works (store : TableDef → Bytes → Option Bytes) (d : TableDef) (t : Table Bytes)
    (c : Call) (h : Handle) :
    write_in_db (fun d value => (store d value).map some) d .none (t.map some) c.now c.value h =
      (SmartWindow.write_in_db store d t c).map fun r =>
        (r.1, r.2.map some, ⟨false, !r.1, h.sessions⟩) := by
  unfold write_in_db SmartWindow.write_in_db
  by_cases hfits : Fits (str d.name) c.value
  · cases hs : store d c.value with
    | none => simp [connect, mysql_select_db, check_error, close_session, Failures.none, hfits, hs]
    | some wert =>
      simp [connect, mysql_select_db, check_error, close_session, Failures.none, hfits, hs,
        Table.insert_map]
  · simp [connect, mysql_select_db, Failures.none, hfits]

/-! ## Sequences of calls -/

/-- The four procedures on a table of the schema. -/
inductive DbCall
  | get_latest_value_double (d : TableDef)
  | get_latest_value_bool (d : TableDef)
  | get_latest_value_int (d : TableDef)
  | write_in_db (d : TableDef) (now : Nat) (value : Bytes)

/-- Rows that others insert, with the names of their tables. -/
abbrev Inserts := List (String × Nat × Cell)

/-- A call, the failures in it, and the rows that others insert before it and between its queries. -/
structure Access where
  call : DbCall
  failures : Failures
  before : Inserts
  between : Inserts

/-- The tables by name, and the handle of the calls. -/
structure Db where
  tables : String → Rows
  handle : Handle

/-- Those of the rows that go into the table. -/
def Inserts.into (rows : Inserts) (name : String) : List (Nat × Cell) :=
  (rows.filter (·.1 == name)).map (·.2)

def insertAll (tables : String → Rows) (rows : Inserts) (name : String) : Rows :=
  (tables name).insertAll (rows.into name)

variable (store : TableDef → Bytes → Option Cell)

/-- One call; `none` where it uses a null or overruns a buffer. -/
def Access.run (a : Access) (s : Db) : Option Db :=
  let tables := insertAll s.tables a.before
  match a.call with
  | .get_latest_value_double d =>
    (get_latest_value_double a.failures (tables d.name) (a.between.into d.name) s.handle).map
      fun r => ⟨insertAll tables a.between, r.handle⟩
  | .get_latest_value_bool d =>
    (get_latest_value_bool a.failures (tables d.name) (a.between.into d.name) s.handle).map
      fun r => ⟨insertAll tables a.between, r.handle⟩
  | .get_latest_value_int d =>
    (get_latest_value_int a.failures (tables d.name) (a.between.into d.name) s.handle).map
      fun r => ⟨insertAll tables a.between, r.handle⟩
  | .write_in_db d now value =>
    (write_in_db store d a.failures (tables d.name) now value s.handle).map
      fun r => ⟨Function.update tables d.name r.2.1, r.2.2⟩

/-- The calls one after the other, each on the handle as the one before left it. -/
def runAll (s : Db) (calls : List Access) : Option Db := calls.foldlM (fun s a => a.run store s) s

/-- At the return of each call as many sessions are open as when it was entered. -/
def Balanced (s : Db) (calls : List Access) : Prop :=
  ∀ pre a, pre ++ [a] <+: calls → ∀ s₁ s₂, runAll store s pre = some s₁ → a.run store s₁ = some s₂ →
    s₂.handle.sessions = s₁.handle.sessions

/-- The failures for which a call that returns has not closed the session it opened: a step after
connecting fails, the query of `write_in_db` apart. -/
def Access.forgets (a : Access) : Bool :=
  !a.failures.connect &&
    match a.call with
    | .write_in_db _ _ _ => a.failures.select
    | _ => a.failures.select || a.failures.first || a.failures.second

/-- The calls that leave a session open: with a connection, they cannot select the database, or are readers
whose first query fails, or those of a bool or an int on a table with a row whose second query fails. -/
def Access.Leaks (a : Access) (s : Db) : Prop :=
  a.failures.connect = false ∧
    (a.failures.select = true ∨
      match a.call with
      | .write_in_db _ _ _ => False
      | .get_latest_value_double _ => a.failures.first = true
      | .get_latest_value_bool d | .get_latest_value_int d => a.failures.first = true ∨
          (a.failures.second = true ∧ (insertAll s.tables a.before d.name).rows ≠ []))

/-! ## One call -/

section

variable {α : Type} {checkConnect checkSecond : Bool} {convert : Bytes → α} {zero : α} {f : Failures}
  {t : Rows} {others : List (Nat × Cell)} {h : Handle}

theorem sessions_get_latest_value {r : Return α}
    (hr : get_latest_value checkConnect checkSecond convert zero f t others h = some r) :
    r.handle.sessions =
      h.sessions + (!f.connect && (f.select || f.first || f.second)).toNat := by
  by_cases hf : f.Begins
  · rw [get_latest_value_begins hf] at hr
    obtain ⟨wert, -, hr⟩ := Option.bind_eq_some_iff.1 hr
    obtain ⟨hc, hs, hq⟩ := hf
    cases h₂ : f.second with
    | true =>
      cases checkSecond with
      | true =>
        obtain rfl : _ = r := by simpa [h₂] using hr
        simp [hc]
      | false => simp [h₂] at hr
    | false =>
      obtain ⟨s, -, rfl⟩ : ∃ s, wert = some s ∧ _ = r := by simpa [h₂] using hr
      simp [hs, hq]
  · obtain ⟨h', hr', hsessions⟩ :=
      @get_latest_value_fails α checkConnect checkSecond convert zero f hf t others h
    obtain rfl := Option.some.inj (hr'.symm.trans hr)
    rw [hsessions]
    cases hc : f.connect <;> simp_all [Failures.Begins]
    cases hs : f.select <;> simp_all

theorem get_latest_value_returns (hf : (f.select || f.first || f.second) = true)
    (hc : f.connect = false) :
    (∃ r, get_latest_value checkConnect checkSecond convert zero f t others h = some r) ↔
      f.select = true ∨ f.first = true ∨ (checkSecond = true ∧ t.rows ≠ []) := by
  by_cases hb : f.Begins
  · obtain ⟨-, hs, hq⟩ := hb
    have h₂ : f.second = true := by simpa [hs, hq] using hf
    rw [get_latest_value_begins ⟨hc, hs, hq⟩, t.latest_eq_getLast?]
    rcases List.eq_nil_or_concat' t.rows with ht | ⟨rows, row, ht⟩
    · simp [ht, hs, hq]
    · cases checkSecond <;> simp [ht, hs, hq, h₂]
  · obtain ⟨h', hr, -⟩ :=
      @get_latest_value_fails α checkConnect checkSecond convert zero f hb t others h
    refine ⟨fun _ => ?_, fun _ => ⟨_, hr⟩⟩
    by_contra hnone
    simp only [not_or, Bool.not_eq_true] at hnone
    exact hb ⟨hc, hnone.1, hnone.2.1⟩

/-- A reader that returns has left a session open exactly if, once connected, it could not select the
database, or its first query failed, or its second one did and it looks at that. -/
theorem get_latest_value_leaks :
    ((!f.connect && (f.select || f.first || f.second)) = true ∧
      ∃ r, get_latest_value checkConnect checkSecond convert zero f t others h = some r) ↔
    f.connect = false ∧ (f.select = true ∨ f.first = true ∨
      (f.second = true ∧ checkSecond = true ∧ t.rows ≠ [])) := by
  rw [Bool.and_eq_true, Bool.not_eq_true', and_assoc]
  refine and_congr_right fun hc => ?_
  by_cases hf : (f.select || f.first || f.second) = true
  · rw [get_latest_value_returns hf hc]
    cases hs : f.select <;> cases hq : f.first <;> simp_all
  · simp only [Bool.or_eq_true, not_or, Bool.not_eq_true] at hf
    simp [hf.1.1, hf.1.2, hf.2]

theorem sessions_write_in_db {d : TableDef} {now : Nat} {value : Bytes} {r : Bool × Rows × Handle}
    (hr : write_in_db store d f t now value h = some r) :
    r.2.2.sessions = h.sessions + (!f.connect && f.select).toNat := by
  obtain ⟨c, s, q₁, q₂⟩ := f
  cases c with
  | true =>
    obtain rfl : _ = r := by simpa [write_in_db, connect, mysql_select_db] using hr
    simp
  | false =>
    cases s with
    | true =>
      obtain rfl : _ = r := by simpa [write_in_db, connect, mysql_select_db] using hr
      simp
    | false =>
      obtain ⟨-, rfl⟩ : Fits (str d.name) value ∧ _ = r := by
        simpa [write_in_db, connect, mysql_select_db] using hr
      simp [close_session]

theorem write_in_db_unselected (hc : f.connect = false) (hs : f.select = true) (d : TableDef)
    (now : Nat) (value : Bytes) : ∃ r, write_in_db store d f t now value h = some r :=
  ⟨_, by simp [write_in_db, connect, mysql_select_db, hc, hs]; rfl⟩

end

/-- **What a call that returns leaves open.** -/
theorem sessions_run {a : Access} {s s' : Db} (h : a.run store s = some s') :
    s'.handle.sessions = s.handle.sessions + a.forgets.toNat := by
  obtain ⟨call, f, before, between⟩ := a
  cases call with
  | get_latest_value_double d | get_latest_value_bool d | get_latest_value_int d =>
    obtain ⟨r, hr, rfl⟩ := Option.map_eq_some_iff.1 h
    exact sessions_get_latest_value hr
  | write_in_db d now value =>
    obtain ⟨r, hr, rfl⟩ := Option.map_eq_some_iff.1 h
    exact sessions_write_in_db store hr

theorem exists_map_eq_some {α β : Type} {o : Option α} (f : α → β) :
    (∃ b, o.map f = some b) ↔ ∃ a, o = some a := by
  cases o <;> simp

theorem leaks_iff {a : Access} {s : Db} :
    a.Leaks s ↔ a.forgets = true ∧ ∃ s', a.run store s = some s' := by
  obtain ⟨call, f, before, between⟩ := a
  cases call with
  | get_latest_value_double d | get_latest_value_bool d | get_latest_value_int d =>
    refine Iff.trans ?_ (and_congr_right fun _ => (exists_map_eq_some _).symm)
    exact (get_latest_value_leaks.trans (by simp [Access.Leaks])).symm
  | write_in_db d now value =>
    refine Iff.trans ?_ (and_congr_right fun _ => (exists_map_eq_some _).symm)
    simp only [Access.Leaks, Access.forgets, or_false, Bool.and_eq_true, Bool.not_eq_true']
    exact ⟨fun h => ⟨h, write_in_db_unselected store h.1 h.2 d now value⟩, fun h => h.1⟩

/-! ## Whole sequences -/

theorem runAll_snoc (s : Db) (pre : List Access) (a : Access) :
    runAll store s (pre ++ [a]) = (runAll store s pre).bind (a.run store) := by
  simp [runAll, List.foldlM_append]

/-- **The sessions that are open after a sequence of calls**: those from before, and one for each call
that forgot its own. -/
theorem sessions_runAll {s s' : Db} {calls : List Access} (h : runAll store s calls = some s') :
    s'.handle.sessions = s.handle.sessions + calls.countP Access.forgets := by
  induction calls using List.reverseRecOn generalizing s' with
  | nil =>
    obtain rfl := Option.some.inj h
    rfl
  | append_singleton calls a ih =>
    rw [runAll_snoc] at h
    obtain ⟨s₁, h₁, h₂⟩ := Option.bind_eq_some_iff.1 h
    rw [sessions_run store h₂, ih h₁, List.countP_append, List.countP_singleton]
    cases a.forgets <;> rfl

/-- No call of the sequence leaks. -/
def NoneLeaks (s : Db) (calls : List Access) : Prop :=
  ∀ pre a, pre ++ [a] <+: calls → ∀ s₁, runAll store s pre = some s₁ → ¬ a.Leaks s₁

/-- **When no session is leaked**: in the sequences none of whose calls, once connected, fails at one of
the steps from which it returns at once. -/
theorem balanced_iff (s : Db) (calls : List Access) :
    Balanced store s calls ↔ NoneLeaks store s calls := by
  refine ⟨fun h pre a hpre s₁ h₁ hleaks => ?_, fun h pre a hpre s₁ s₂ h₁ h₂ => ?_⟩
  · obtain ⟨hforgets, s₂, h₂⟩ := (leaks_iff store).1 hleaks
    have hsame := h pre a hpre s₁ s₂ h₁ h₂
    rw [sessions_run store h₂, hforgets] at hsame
    simp at hsame
  · have hkept : a.forgets = false := by
      rw [← Bool.not_eq_true]
      exact fun hforgets => h pre a hpre s₁ h₁ ((leaks_iff store).2 ⟨hforgets, s₂, h₂⟩)
    rw [sessions_run store h₂, hkept]
    rfl

/-- One call of `write_in_db` that cannot select the database. -/
def unselected : Access :=
  ⟨.write_in_db winOpenDef 5 (str "1"), ⟨false, true, false, false⟩, [], []⟩

theorem session_leaked :
    ¬ Balanced (fun _ value => some (some value)) ⟨fun _ => .empty, .start⟩ [unselected] := by
  intro h
  have hsame := h [] unselected (List.prefix_refl _) _ _ rfl rfl
  exact absurd hsame (by decide)

end SmartWindow.Client
