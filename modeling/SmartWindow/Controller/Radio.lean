/-
What a datagram can do to the database (main_controller.cpp, write_read.cpp).
`receiveLoop` pastes tokens of the datagram into a statement: any first token
will do for a measurement, any two names spell its table, and a window report
is whatever else begins with PUT and ends in Open or Close.

The server is a parameter `sql`: what it takes the text of a statement for.
Assumed of it is what is documented (`Documented`): it understands the two
statements of a window report, and inserts into no table but the one that the
text names. What else it accepts is left open, so what the code does is right
where it is right with every such server.
-/
import SmartWindow.Controller.Receive
import SmartWindow.Store.Naming

namespace SmartWindow

/-! ## What a datagram requests -/

/-- A datagram of two parts, the first of three tokens: command, sensor, position, and the value. -/
def measurement (d : Bytes) : Option (Bytes × Bytes × Bytes × Bytes) :=
  match splitString d SEP_VALUE with
  | [name, value] =>
    match splitString name SEP_SENSOR with
    | [cmd, sensor, pos] => some (cmd, sensor, pos, value)
    | _ => none
  | _ => none

/-- The window command `receiveLoop` takes a datagram for: two parts, of which the first has not
three tokens and begins with PUT, and the second is Open or Close. -/
def report (d : Bytes) : Option WinCommand :=
  match splitString d SEP_VALUE with
  | [name, value] =>
    if (splitString name SEP_SENSOR).length ≠ 3 ∧ (splitString name SEP_SENSOR).head? = some CMD_PUT then
      if value = OPEN then some .Open else if value = CLOSE then some .Close else none
    else none
  | _ => none

/-- The first token of a datagram's first part. -/
def commandToken (d : Bytes) : Option Bytes :=
  (splitString d SEP_VALUE).head?.bind fun name => (splitString name SEP_SENSOR).head?

/-- The value written for a window report. -/
def WinCommand.wert : WinCommand → Bytes
  | .Open => str "1"
  | .Close => str "0"

def WIN_OPEN : Bytes := str "Win_Open"

/-- A measurement requests one row, in the table its tokens spell. -/
theorem receiveLoop_measurement {d cmd sensor pos value : Bytes}
    (h : measurement d = some (cmd, sensor, pos, value)) :
    receiveLoop d = some [(tableName sensor pos, value)] ∧ commandToken d = some cmd ∧
      report d = none := by
  unfold measurement at h
  split at h
  · rename_i name val hsplit
    split at h
    · rename_i c s p hname
      obtain ⟨rfl, rfl, rfl, rfl⟩ : c = cmd ∧ s = sensor ∧ p = pos ∧ val = value := by simpa using h
      simp [receiveLoop, commandToken, report, hsplit, hname]
    · simp at h
  · simp at h

theorem receiveLoop_tokens {d name value cmd : Bytes} {rest : List Bytes}
    (hsplit : splitString d SEP_VALUE = [name, value])
    (hname : splitString name SEP_SENSOR = cmd :: rest) (hrest : rest.length ≠ 2) :
    receiveLoop d = some ((report d).toList.map fun c => (WIN_OPEN, c.wert)) ∧
      ((report d).isSome = true → cmd = CMD_PUT) := by
  have hlen : ¬ (cmd :: rest).length = 3 := by simpa using hrest
  have hclose : CLOSE ≠ OPEN := by decide
  unfold receiveLoop report
  rw [hsplit]
  simp only [hname, hlen, ne_eq, not_false_eq_true, true_and, List.head?_cons, Option.some.injEq]
  split
  · rename_i h
    rw [h] at hlen
    exact absurd rfl hlen
  · rename_i h
    simp at h
  · rename_i h
    obtain ⟨rfl, -⟩ := List.cons.inj h
    split_ifs <;> simp_all [WIN_OPEN, WinCommand.wert]

/-- A datagram that is no measurement requests a row only as a window report, which begins with PUT. -/
theorem receiveLoop_other {d : Bytes} (h : measurement d = none) :
    (receiveLoop d).getD [] = ((report d).toList.map fun c => (WIN_OPEN, c.wert)) ∧
      ((report d).isSome = true → commandToken d = some CMD_PUT ∧ (receiveLoop d).isSome = true) := by
  rcases hsplit : splitString d SEP_VALUE with _ | ⟨name, _ | ⟨value, _ | ⟨third, parts⟩⟩⟩
  · simp [receiveLoop, report, hsplit]
  · simp [receiveLoop, report, hsplit]
  · rcases hname : splitString name SEP_SENSOR with _ | ⟨cmd, rest⟩
    · simp [receiveLoop, report, hsplit, hname]
    · have hrest : rest.length ≠ 2 := by
        intro hlen
        obtain ⟨sensor, pos, rfl⟩ := List.length_eq_two.1 hlen
        simp [measurement, hsplit, hname] at h
      obtain ⟨hrows, hcmd⟩ := receiveLoop_tokens hsplit hname hrest
      rw [hrows]
      refine ⟨rfl, fun hreport => ⟨?_, rfl⟩⟩
      simp [commandToken, hsplit, hname, hcmd hreport]
  · simp [receiveLoop, report, hsplit]

/-! ## The server -/

/-- What the server takes a statement for: an insertion into a table, the Werte of the rows it asks
for, and what executing it in a second makes of the table. -/
structure Insertion (C : Type) where
  table : String
  werte : List Bytes
  effect : Nat → C → C

/-- What the server takes a text for; `none` is a text that it refuses, or that is about no table here. -/
abbrev Sql (C : Type) := Bytes → Option (Insertion C)

/-- The server understands the statements of a window report. -/
def TakesReports {C : Type} (sql : Sql C) : Prop :=
  ∀ c : WinCommand, ∃ effect,
    sql (statement WIN_OPEN c.wert) = some ⟨"Win_Open", [c.wert], effect⟩

/-- What the documentation of the server says: it understands the statements of a window report, and if it
does not refuse the statement of a measurement, that is an insertion into the table that the text names,
one of those that exist. -/
structure Documented {C : Type} (sql : Sql C) : Prop where
  reports : TakesReports sql
  target : ∀ d cmd sensor pos value i, measurement d = some (cmd, sensor, pos, value) →
    sql (statement (tableName sensor pos) value) = some i →
    target (statement (tableName sensor pos) value) = some (str i.table) ∧ ∃ t ∈ tables, t.name = i.table

/-- A server that refuses no INSERT into a table that exists. -/
def anyServer {C : Type} (change : C → C) : Sql C := fun text =>
  (tables.find? fun t => target text == some (str t.name)).map fun t =>
    ⟨t.name, [if text = statement WIN_OPEN (str "1") then str "1" else str "0"], fun _ => change⟩

theorem anyServer_of_target {C : Type} (change : C → C) {text : Bytes} {t : TableDef} (ht : t ∈ tables)
    (h : target text = some (str t.name)) : anyServer change text =
      some ⟨t.name, [if text = statement WIN_OPEN (str "1") then str "1" else str "0"], fun _ => change⟩ := by
  have hfind : ∀ t ∈ tables,
      (tables.find? fun t' => some (str t.name) == some (str t'.name)) = some t := by decide
  rw [anyServer, h, hfind t ht, Option.map_some]

theorem documented_anyServer {C : Type} (change : C → C) : Documented (anyServer change) where
  reports c := by
    have htarget : target (statement WIN_OPEN c.wert) = some WIN_OPEN := by cases c <;> decide
    refine ⟨fun _ => change, (anyServer_of_target change
      (by decide : (⟨"Win_Open", .bool, true, none⟩ : TableDef) ∈ tables) htarget).trans ?_⟩
    cases c <;> rfl
  target d cmd sensor pos value i _ hi := by
    obtain ⟨t, ht, rfl⟩ := Option.map_eq_some_iff.1 hi
    exact ⟨by simpa using List.find?_some ht, t, List.mem_of_find?_eq_some ht, rfl⟩

/-! ## The window status -/

variable {C : Type} (sql : Sql C)

/-- The Werte of the rows that a request asks the server to append to Win_Open; `none` where `buf` is
overrun. -/
def winOpenWerte (row : Row) : Option (List Bytes) :=
  if Fits row.1 row.2 then
    some (((sql (statement row.1 row.2)).filter (·.table == "Win_Open")).elim [] (·.werte))
  else none

/-- The Werte that a datagram appends to Win_Open. Where `strcmp` gets a null pointer there is no
request. -/
def winOpenRows (d : Bytes) : Option (List Bytes) :=
  (((receiveLoop d).getD []).mapM (winOpenWerte sql)).map List.flatten

/-- The window status is set by the datagram if and only if it is a window report, and then to what
that says. -/
def SetsReport (d : Bytes) : Prop :=
  ∃ werte, winOpenRows sql d = some werte ∧
    (werte ≠ [] ↔ ∃ c : WinCommand, d = c.text) ∧ ∀ c : WinCommand, d = c.text → werte = [c.wert]

/-- The datagram is neither a measurement whose statement names Win_Open, or does not fit into `buf`, nor
anything but a window report that the code takes for one. -/
structure NoFalseReport (d : Bytes) : Prop where
  measurement : ∀ cmd sensor pos value, measurement d = some (cmd, sensor, pos, value) →
    Fits (tableName sensor pos) value ∧ target (statement (tableName sensor pos) value) ≠ some WIN_OPEN
  report : ∀ c, report d = some c → d = c.text

theorem report_text (c : WinCommand) : report c.text = some c := by
  cases c <;> decide

theorem fits_report (c : WinCommand) : Fits WIN_OPEN c.wert := by
  cases c <;> decide

variable {sql}

theorem winOpenWerte_report (hsql : TakesReports sql) (c : WinCommand) :
    winOpenWerte sql (WIN_OPEN, c.wert) = some [c.wert] := by
  obtain ⟨effect, he⟩ := hsql c
  rw [winOpenWerte, if_pos (fits_report c), he]
  simp [Option.filter]

theorem eq_of_report {d : Bytes} {c c' : WinCommand} (h : report d = some c) (hd : d = c'.text) :
    c = c' := by
  rw [hd, report_text] at h
  exact (Option.some.inj h).symm

theorem ne_text_of_report {d : Bytes} (h : report d = none) (c : WinCommand) : d ≠ c.text := by
  intro hd
  rw [hd, report_text] at h
  cases h

theorem winOpenRows_measurement {d cmd sensor pos value : Bytes}
    (h : measurement d = some (cmd, sensor, pos, value)) :
    winOpenRows sql d = winOpenWerte sql (tableName sensor pos, value) := by
  rw [winOpenRows, (receiveLoop_measurement h).1]
  cases hw : winOpenWerte sql (tableName sensor pos, value) <;> simp [hw]

theorem winOpenRows_other (hsql : TakesReports sql) {d : Bytes} (h : measurement d = none) :
    winOpenRows sql d = some ((report d).toList.map (·.wert)) := by
  rw [winOpenRows, (receiveLoop_other h).1]
  cases report d with
  | none => rfl
  | some c => simp [winOpenWerte_report hsql c]

theorem setsReport_iff_nil {d : Bytes} (h : ∀ c : WinCommand, d ≠ c.text) :
    SetsReport sql d ↔ winOpenRows sql d = some [] := by
  refine ⟨fun hs => ?_, fun hs => ⟨[], hs, by simp [h], fun c hd => absurd hd (h c)⟩⟩
  obtain ⟨werte, hw, hiff, -⟩ := hs
  have hnil : werte = [] := by
    by_contra hne
    obtain ⟨c, hd⟩ := hiff.1 hne
    exact h c hd
  rw [hw, hnil]

theorem setsReport_iff_text {d : Bytes} {c : WinCommand} (hr : report d = some c)
    (hrows : winOpenRows sql d = some [c.wert]) : SetsReport sql d ↔ d = c.text := by
  refine ⟨fun hs => ?_, fun hd => ⟨[c.wert], hrows, by simpa using ⟨c, hd⟩, fun c' hd' => ?_⟩⟩
  · obtain ⟨werte, hw, hiff, -⟩ := hs
    obtain rfl : [c.wert] = werte := Option.some.inj (hrows.symm.trans hw)
    obtain ⟨c', hd⟩ := hiff.1 (by simp)
    rw [eq_of_report hr hd, hd]
  · rw [eq_of_report hr hd']

theorem winOpenWerte_of_target (hsql : Documented sql) {d cmd sensor pos value : Bytes}
    (hm : measurement d = some (cmd, sensor, pos, value)) (hfits : Fits (tableName sensor pos) value)
    (hname : target (statement (tableName sensor pos) value) ≠ some WIN_OPEN) :
    winOpenWerte sql (tableName sensor pos, value) = some [] := by
  rw [winOpenWerte, if_pos hfits]
  cases hi : sql (statement (tableName sensor pos) value) with
  | none => rfl
  | some i =>
    have hne : ¬ i.table = "Win_Open" := by
      intro h
      have htarget := (hsql.target d cmd sensor pos value i hm hi).1
      rw [h] at htarget
      exact hname htarget
    simp [Option.filter, hne]

theorem winOpenWerte_anyServer (change : C → C) {row : Row} {werte : List Bytes}
    (h : winOpenWerte (anyServer change) row = some werte) : Fits row.1 row.2 ∧
      (target (statement row.1 row.2) = some WIN_OPEN → werte ≠ []) := by
  rw [winOpenWerte] at h
  split_ifs at h with hfits
  refine ⟨hfits, fun htarget => ?_⟩
  rw [anyServer_of_target change (by decide : (⟨"Win_Open", .bool, true, none⟩ : TableDef) ∈ tables) htarget]
    at h
  rw [← Option.some.inj h]
  simp [Option.filter]

/-- A server for a few plain statements: each appends its row. -/
def plainServer (known : List (String × Bytes)) : Sql (List Bytes) := fun text =>
  (known.find? fun row => statement (str row.1) row.2 == text).map fun row =>
    ⟨row.1, [row.2], fun _ werte => werte ++ [row.2]⟩

/-- The statements of the window reports, and one for a limit. -/
def sampleServer : Sql (List Bytes) :=
  plainServer [("Win_Open", str "1"), ("Win_Open", str "0"), ("Temp_MIN", str "5")]

theorem documented_sample : Documented sampleServer where
  reports c := by
    cases c with
    | Open => exact ⟨_, rfl⟩
    | Close => exact ⟨_, rfl⟩
  target d cmd sensor pos value i _ hi := by
    have hknown : ∀ row ∈ [("Win_Open", str "1"), ("Win_Open", str "0"), ("Temp_MIN", str "5")],
        target (statement (str row.1) row.2) = some (str row.1) ∧ ∃ t ∈ tables, t.name = row.1 := by decide
    obtain ⟨row, hrow, rfl⟩ := Option.map_eq_some_iff.1 hi
    have htext : statement (str row.1) row.2 = statement (tableName sensor pos) value := by
      simpa using List.find?_some hrow
    rw [← htext]
    exact hknown row (List.mem_of_find?_eq_some hrow)

/-- The tables that are no business of the radio: limits, modes, the priority and the alarm states. -/
def settings : List String :=
  ["Temp_MIN", "Temp_MAX", "Humidity_MIN", "Humidity_MAX", "AirQuality_MAX", "AirPressure_MAX",
    "Volume_MAX", "Wind_MAX", "AutoModus", "ManOpen", "ManClose", "Priority",
    "Air_Quality_AlarmState", "Humidity_AlarmState", "Temp_AlarmState", "Volume_AlarmState",
    "Wind_AlarmState"]

/-- The database, and whether `receiveLoop` still runs. -/
structure Radio (C : Type) where
  db : String → C
  alive : Bool

variable (sql)

/-- `write_in_db` on the database: an insertion changes the table it is into and no other. -/
def writeRow (now : Nat) (db : String → C) (row : Row) : Option (String → C) :=
  if Fits row.1 row.2 then
    some ((sql (statement row.1 row.2)).elim db fun i =>
      Function.update db i.table (i.effect now (db i.table)))
  else none

/-- One datagram, in a second; `none` where `buf` is overrun. A null pointer passed to `strcmp` ends
the program. -/
def handle (s : Radio C) (e : Nat × Bytes) : Option (Radio C) :=
  if s.alive && (receiveLoop e.2).isSome then
    (((receiveLoop e.2).getD []).foldlM (writeRow sql e.1) s.db).map fun db => { s with db := db }
  else some { s with alive := false }

def handleAll (s : Radio C) (es : List (Nat × Bytes)) : Option (Radio C) := es.foldlM (handle sql) s

/-- The sequence leaves the settings as they were, at every moment, and a datagram whose command is
not PUT leaves everything as it was. -/
structure KeepsSettings (s₀ : Radio C) (es : List (Nat × Bytes)) : Prop where
  settings : ∀ pre, pre <+: es → ∃ s, handleAll sql s₀ pre = some s ∧
    ∀ name ∈ settings, s.db name = s₀.db name
  put : ∀ pre e, pre ++ [e] <+: es → commandToken e.2 ≠ some CMD_PUT →
    ∀ s s', handleAll sql s₀ pre = some s → handleAll sql s₀ (pre ++ [e]) = some s' → s'.db = s.db

/-- The datagram is no measurement whose statement overruns `buf`, names a table of settings, or names any
table under another command than PUT. -/
def Harmless (d : Bytes) : Prop :=
  ∀ cmd sensor pos value, measurement d = some (cmd, sensor, pos, value) →
    Fits (tableName sensor pos) value ∧
    ∀ t ∈ tables, target (statement (tableName sensor pos) value) = some (str t.name) →
      cmd = CMD_PUT ∧ t.name ∉ settings

/-- `receiveLoop` still runs after the datagrams: it did before, and none of them made it pass a null
pointer to `strcmp`. -/
def Radio.Hears (s₀ : Radio C) (es : List (Nat × Bytes)) : Prop :=
  s₀.alive = true ∧ ∀ e ∈ es, (receiveLoop e.2).isSome = true

variable {sql}

theorem handleAll_snoc (s₀ : Radio C) (pre : List (Nat × Bytes)) (e : Nat × Bytes) :
    handleAll sql s₀ (pre ++ [e]) = (handleAll sql s₀ pre).bind fun s => handle sql s e := by
  simp [handleAll, List.foldlM_append]

theorem handle_measurement {s : Radio C} {e : Nat × Bytes} {cmd sensor pos value : Bytes}
    (halive : s.alive = true) (hm : measurement e.2 = some (cmd, sensor, pos, value)) :
    handle sql s e = (writeRow sql e.1 s.db (tableName sensor pos, value)).map fun db =>
      { s with db := db } := by
  have hrows := (receiveLoop_measurement hm).1
  simp [handle, halive, hrows]

/-- A datagram that is no measurement touches at most Win_Open, and only under PUT. -/
theorem handle_other (hsql : TakesReports sql) {s : Radio C} {e : Nat × Bytes}
    (hm : measurement e.2 = none) :
    ∃ s', handle sql s e = some s' ∧ (∀ name, name ≠ "Win_Open" → s'.db name = s.db name) ∧
      (commandToken e.2 ≠ some CMD_PUT → s'.db = s.db) := by
  obtain ⟨hrows, hput⟩ := receiveLoop_other hm
  unfold handle
  by_cases hrun : (s.alive && (receiveLoop e.2).isSome) = true
  · rw [if_pos hrun, hrows]
    cases hr : report e.2 with
    | none => exact ⟨_, rfl, fun _ _ => rfl, fun _ => rfl⟩
    | some c =>
      obtain ⟨effect, he⟩ := hsql c
      refine ⟨{ s with db := Function.update s.db "Win_Open" (effect e.1 (s.db "Win_Open")) }, ?_,
        fun name hne => Function.update_of_ne hne _ _, fun hcmd => ?_⟩
      · simp [writeRow, fits_report, he]
      · rw [hr] at hput
        exact absurd (hput rfl).1 hcmd
  · rw [if_neg hrun]
    exact ⟨_, rfl, fun _ _ => rfl, fun _ => rfl⟩

theorem win_open_not_mem_settings : "Win_Open" ∉ settings := by decide

/-- A harmless datagram keeps the settings, and everything under another command than PUT. -/
theorem handle_of_harmless (hsql : Documented sql) {s : Radio C} {e : Nat × Bytes}
    (h : s.alive = true → Harmless e.2) :
    ∃ s', handle sql s e = some s' ∧ (∀ name ∈ settings, s'.db name = s.db name) ∧
      (commandToken e.2 ≠ some CMD_PUT → s'.db = s.db) := by
  rcases hm : measurement e.2 with _ | ⟨cmd, sensor, pos, value⟩
  · obtain ⟨s', hs', hother, hput⟩ := handle_other hsql.reports (s := s) hm
    exact ⟨s', hs', fun name hname => hother name fun he => win_open_not_mem_settings (he ▸ hname), hput⟩
  · cases halive : s.alive with
    | false => exact ⟨s, by simp [handle, halive]; rw [← halive], fun _ _ => rfl, fun _ => rfl⟩
    | true =>
      obtain ⟨hfits, hnames⟩ := h halive cmd sensor pos value hm
      have hcmd := (receiveLoop_measurement hm).2.1
      rw [handle_measurement halive hm, writeRow, if_pos hfits]
      cases hi : sql (statement (tableName sensor pos) value) with
      | none => exact ⟨s, rfl, fun _ _ => rfl, fun _ => rfl⟩
      | some i =>
        obtain ⟨htarget, t, ht, hname⟩ := hsql.target e.2 cmd sensor pos value i hm hi
        rw [← hname] at htarget
        obtain ⟨hput, hnot⟩ := hnames t ht htarget
        refine ⟨{ s with db := Function.update s.db i.table (i.effect e.1 (s.db i.table)) }, rfl,
          fun name hmem => Function.update_of_ne (fun he => hnot ?_) _ _, fun hne => ?_⟩
        · rwa [hname, ← he]
        · exact absurd (hcmd.trans (congrArg some hput)) hne

/-- A datagram that keeps them is harmless, where the server refuses nothing and a row is a change. -/
theorem harmless_of_handle {change : C → C} (hchange : ∀ c, change c ≠ c) {s s' : Radio C}
    {e : Nat × Bytes} (halive : s.alive = true) (h : handle (anyServer change) s e = some s')
    (hsettings : ∀ name ∈ settings, s'.db name = s.db name)
    (hput : commandToken e.2 ≠ some CMD_PUT → s'.db = s.db) : Harmless e.2 := by
  intro cmd sensor pos value hm
  rw [handle_measurement halive hm, writeRow] at h
  have hcmd := (receiveLoop_measurement hm).2.1
  split at h
  · next hfits =>
    refine ⟨hfits, fun t ht htarget => ?_⟩
    rw [anyServer_of_target change ht htarget] at h
    have hat : s'.db t.name = change (s.db t.name) := by
      rw [← Option.some.inj h]
      simp
    refine ⟨?_, fun hmem => hchange _ (hat.symm.trans (hsettings t.name hmem))⟩
    by_contra hne
    have hkept := hput (by rw [hcmd]; simpa using hne)
    exact hchange _ (hat.symm.trans (congrFun hkept t.name))
  · cases h

theorem alive_handleAll {s₀ : Radio C} {es : List (Nat × Bytes)} {s : Radio C}
    (h : handleAll sql s₀ es = some s) : s.alive = true ↔ s₀.Hears es := by
  induction es using List.reverseRecOn generalizing s with
  | nil =>
    obtain rfl := Option.some.inj h
    simp [Radio.Hears]
  | append_singleton es e ih =>
    rw [handleAll_snoc] at h
    obtain ⟨s₁, hs₁, hstep⟩ := Option.bind_eq_some_iff.1 h
    have hhears : s₀.Hears (es ++ [e]) ↔ s₁.alive = true ∧ (receiveLoop e.2).isSome = true := by
      simp only [ih hs₁, Radio.Hears, List.forall_mem_append, List.forall_mem_singleton, and_assoc]
    rw [hhears]
    unfold handle at hstep
    split_ifs at hstep with hrun
    · obtain ⟨db, -, rfl⟩ := Option.map_eq_some_iff.1 hstep
      rw [Bool.and_eq_true] at hrun
      exact iff_of_true hrun.1 hrun
    · obtain rfl := Option.some.inj hstep
      rw [Bool.and_eq_true] at hrun
      exact iff_of_false Bool.false_ne_true hrun

end SmartWindow
