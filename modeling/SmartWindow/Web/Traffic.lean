/-
Everything that writes into the database at once: the pages of the web server,
the settings as its own form offers them, and the rows that `receiveLoop` and
the publishing section of `decisionLoop` insert in between. The server may
reject any of them. Every table that is read then keeps values that its
readers know what to do with (`Sound`), so in every state both pages render
and a pass reads all it needs and leaves `state0` (`usable_always`). A form
that is submitted as it is shown is shown again, and is what the controller
reads (`resubmit`).
-/
import SmartWindow.Controller.Published
import SmartWindow.System.Network
import SmartWindow.Web.Settings

namespace SmartWindow.Web

/-! ## The writers -/

/-- A row that the controller inserts: for a message of a node, or an alarm state. -/
inductive Inserts : Bytes × Bytes → Prop
  | receiveLoop {b : Build} {printF : Int → Nat → Bytes} {m : Bytes} {rows : List SmartWindow.Row}
      {row : SmartWindow.Row} : Prints printF → Sent b printF m → SmartWindow.receiveLoop m = some rows →
    row ∈ rows → Inserts row
  | publish (r : Readings) (a : Alarms) {w : Write} : w ∈ SmartWindow.publish r a →
    Inserts (str w.1, str w.2)

/-- The server stores no NULL for a text that is not NULL, and a number as it is. -/
structure Kept (text : Bytes) (value : String) : Prop where
  ne_null : value ≠ "NULL"
  number : ∀ v : Int, text = printD v → asInt (cell value) = some v

/-- A settings request as the page offers it: its inputs are numbers or nothing, and the priority is one
of four options. -/
structure Change.Offered (c : Change) : Prop where
  numbers : ∀ k value cell, c.answer.stores k value = some cell → cell ≠ none
  priority : ∀ form, c.page = .submit form → ∃ p : Int, 0 ≤ p ∧ p ≤ 3 ∧ form.Priority = literal (some p)

/-- One request, or one row of the controller. -/
inductive Traffic : State → State → Prop
  | main (s : State) : Traffic s (serve s ⟨.main, fun _ _ _ => none⟩)
  | page (s : State) (p : Page) (accepts : Nat → Bool) :
    Traffic s (serve s ⟨p.endpoint, fun k _ value => if accepts k then some [value] else none⟩)
  | settings (s : State) (c : Change) : c.Offered → Traffic s (serve s c.request)
  | controller (s : State) (d : TableDef) (text : Bytes) (value : String) : d ∈ tables →
    Inserts (str d.name, text) → Kept text value →
    Traffic s { s with committed := s.committed ++ [⟨none, d.name, value⟩] }

/-! ## The tables -/

/-- The tables of the alarm states. -/
def alarmTables : List String :=
  ["Air_Quality_AlarmState", "Temp_AlarmState", "Humidity_AlarmState", "Volume_AlarmState",
    "Wind_AlarmState"]

/-- The values that a table's readers know: a number for a setting and one of the four for the priority,
one of the three alarm states, and no NULL anywhere. -/
def Known (table value : String) : Prop :=
  if table ∈ settingTables then ∃ v : Int, value = literal (some v) ∧ (table = "Priority" → 0 ≤ v ∧ v ≤ 3)
  else if table ∈ alarmTables then asInt (cell value) ∈ [some 0, some 1, some 2]
  else value ≠ "NULL"

/-- All rows hold such values, and every table has one, but LimitChange. -/
structure Sound (s : State) : Prop where
  committed : ∀ row ∈ s.committed, Known row.table row.value
  pending : ∀ row ∈ s.pending, Known row.table row.value
  filled : ∀ d ∈ tables, d.name ≠ "LimitChange" → (latest s.committed d.name).isSome = true

theorem known_setting {table value : String} (ht : table ∈ settingTables)
    (hv : literal (some (atoi (str value))) = value)
    (hp : table = "Priority" → 0 ≤ atoi (str value) ∧ atoi (str value) ≤ 3) : Known table value := by
  rw [Known, if_pos ht]
  exact ⟨_, hv.symm, hp⟩

theorem known_script : ∀ row ∈ State.committed (.start scriptRows), Known row.table row.value := by
  have hcheck : ∀ row ∈ State.committed (.start scriptRows),
      if row.table ∈ settingTables then literal (some (atoi (str row.value))) = row.value ∧
        (row.table = "Priority" → 0 ≤ atoi (str row.value) ∧ atoi (str row.value) ≤ 3)
      else if row.table ∈ alarmTables then asInt (cell row.value) ∈ [some 0, some 1, some 2]
      else row.value ≠ "NULL" := by decide
  intro row hrow
  have h := hcheck row hrow
  by_cases ht : row.table ∈ settingTables
  · rw [if_pos ht] at h
    exact known_setting ht h.1 h.2
  · rw [if_neg ht] at h
    rwa [Known, if_neg ht]

theorem sound_start : Sound (.start scriptRows) :=
  ⟨known_script, by simp [State.start], by decide⟩

/-- New rows that are known, committed ones behind the others, keep the tables sound. -/
theorem Sound.grow {s s' : State} (h : Sound s) {new : List Row}
    (hcommitted : s'.committed = s.committed ++ new)
    (hnew : ∀ row ∈ new, row ∈ s.pending ∨ Known row.table row.value)
    (hpending : ∀ row ∈ s'.pending, row ∈ s.pending ∨ Known row.table row.value) : Sound s' := by
  refine ⟨fun row hrow => ?_, fun row hrow => ?_, fun d hd hne => ?_⟩
  · rw [hcommitted] at hrow
    rcases List.mem_append.1 hrow with hold | hold
    · exact h.committed row hold
    · exact (hnew row hold).elim (h.pending row) id
  · exact (hpending row hrow).elim (h.pending row) id
  · rw [hcommitted, latest_append, Option.isSome_or, h.filled d hd hne, Bool.or_true]

/-! ## What a request inserts -/

theorem execute_rows {P : Row → Prop} {n : Nat} {takes : Nat → String → String → Option (List String)}
    {ops : List Op}
    (h : ∀ k w values v, w ∈ inserts ops → takes k w.1 w.2 = some values → v ∈ values →
      P ⟨some n, w.1, v⟩) (k : Nat) (committed pending : List Row) :
    ∃ new, (execute n takes k ops (committed, pending)).1.1 = committed ++ new ∧
      (∀ row ∈ new, row ∈ pending ∨ P row) ∧
      ∀ row ∈ (execute n takes k ops (committed, pending)).1.2, row ∈ pending ∨ P row := by
  induction ops generalizing k committed pending with
  | nil => exact ⟨[], by simp [execute], by simp, fun row hrow => .inl hrow⟩
  | cons op ops ih =>
    cases op with
    | commit =>
      obtain ⟨new, hnew, hrows, hpending⟩ := ih h k (committed ++ pending) []
      refine ⟨pending ++ new, by simpa [execute] using hnew, fun row hrow => ?_, fun row hrow => ?_⟩
      · exact (List.mem_append.1 hrow).imp id fun hr => (hrows row hr).elim (by simp) id
      · exact .inr ((hpending row hrow).elim (by simp) id)
    | insert table value =>
      rw [execute]
      split
      · next values hv =>
        have hins (v : String) (hmem : v ∈ values) : P ⟨some n, table, v⟩ :=
          h k (table, value) values v (by simp [inserts]) hv hmem
        obtain ⟨new, hnew, hrows, hpending⟩ := ih
          (fun k w values v hw => h k w values v (by simp [inserts] at hw ⊢; exact .inr hw)) (k + 1)
          committed (pending ++ rowsOf n table values)
        have hor (row : Row) (hrow : row ∈ pending ++ rowsOf n table values ∨ P row) :
            row ∈ pending ∨ P row := by
          rcases hrow with hrow | hrow
          · refine (List.mem_append.1 hrow).imp id fun hr => ?_
            obtain ⟨v, hmem, rfl⟩ := List.mem_map.1 hr
            exact hins v hmem
          · exact .inr hrow
        exact ⟨new, hnew, fun row hrow => hor row (hrows row hrow),
          fun row hrow => hor row (hpending row hrow)⟩
      · exact ⟨[], by simp, by simp, fun row hrow => .inl hrow⟩

/-- A request whose INSERTs, as far as they are taken, are of known values. -/
theorem Sound.serve {s : State} (h : Sound s) {r : Request}
    (hr : ∀ ops k w values v, s.ops r.endpoint = some ops → w ∈ inserts ops →
      r.takes k w.1 w.2 = some values → v ∈ values → Known w.1 v) : Sound (serve s r) := by
  cases hops : s.ops r.endpoint with
  | none =>
    have hserve : Web.serve s r = { s with served := s.served + 1, raised := s.raised ++ [s.served] } := by
      simp [Web.serve, hops]
    rw [hserve]
    exact ⟨h.committed, h.pending, h.filled⟩
  | some ops =>
    have hknown (k : Nat) (w : String × String) (values : List String) (v : String) (hw : w ∈ inserts ops)
        (ht : r.takes k w.1 w.2 = some values) (hv : v ∈ values) : Known w.1 v :=
      hr ops k w values v hops hw ht hv
    obtain ⟨new, hnew, hrows, hpending⟩ := execute_rows (P := fun row => Known row.table row.value)
      (n := s.served) hknown 0 s.committed s.pending
    exact h.grow (by simpa [Web.serve, hops] using hnew) hrows (by simpa [Web.serve, hops] using hpending)

/-! ## The steps -/

theorem known_other {table value : String} (hs : table ∉ settingTables) (ha : table ∉ alarmTables)
    (hv : value ≠ "NULL") : Known table value := by
  rwa [Known, if_neg hs, if_neg ha]

theorem known_page (Modus : Bool) (p : Page) :
    ∀ w ∈ inserts (handler Modus p.endpoint), Known w.1 w.2 := by
  have hcheck : ∀ w ∈ inserts (handler Modus p.endpoint),
      w.1 ∉ settingTables ∧ w.1 ∉ alarmTables ∧ w.2 ≠ "NULL" := by
    cases Modus <;> cases p <;> decide
  exact fun w hw => known_other (hcheck w hw).1 (hcheck w hw).2.1 (hcheck w hw).2.2

theorem priority_written {c : Change} (h : c.Offered) {w : String × String} (hw : w ∈ c.writes)
    (hp : w.1 = "Priority") : ∃ p : Int, 0 ≤ p ∧ p ≤ 3 ∧ w.2 = literal (some p) := by
  obtain ⟨page, answer⟩ := c
  cases page with
  | submit form =>
    obtain ⟨p, hlow, hhigh, hform⟩ := h.priority form rfl
    refine ⟨p, hlow, hhigh, ?_⟩
    simp [Change.writes, SettingsPage.endpoint, handler, limits, inserts] at hw
    rcases hw with rfl | rfl | rfl | rfl | rfl | rfl | rfl | rfl | rfl <;> simp_all
  | reset =>
    refine ⟨3, by decide, by decide, ?_⟩
    have hcheck : ∀ w ∈ inserts (handler false .reset), w.1 = "Priority" → w.2 = literal (some 3) := by decide
    exact hcheck w hw hp

/-- What an offered settings request stores. -/
theorem known_settings {c : Change} (h : c.Offered) {w : String × String} (hw : w ∈ c.writes) {k : Nat}
    {value : Option Int} (hs : c.answer.stores k w.2 = some value) : Known w.1 (literal value) := by
  obtain ⟨v, rfl⟩ := Option.ne_none_iff_exists'.1 (h.numbers k w.2 value hs)
  have ht : w.1 ∈ settingTables := c.tables ▸ List.mem_map_of_mem hw
  rw [Known, if_pos ht]
  refine ⟨v, rfl, fun hp => ?_⟩
  obtain ⟨p, hlow, hhigh, hlit⟩ := priority_written h hw hp
  rw [hlit] at hs
  obtain rfl := Option.some.inj (c.answer.number k p _ hs)
  exact ⟨hlow, hhigh⟩

theorem known_inserts {table : String} {text : Bytes} {value : String} (h : Inserts (str table, text))
    (hkept : Kept text value) : Known table value := by
  generalize hrow : (str table, text) = row at h
  cases h with
  | @receiveLoop b printF m rows row hprint hsent hrows hmem =>
    obtain ⟨row', hrow', hkind⟩ := hsent.row hprint
    obtain rfl : [row'] = rows := Option.some.inj (hrow'.symm.trans hrows)
    obtain rfl := List.mem_singleton.1 hmem
    rw [← hrow] at hkind
    have hother : ∀ t ∈ settingTables ++ alarmTables, str t ≠ str "Win_Open" ∧
        ∀ b ∈ [Build.IN, .OUT], ∀ q ∈ [Quantity.Temp, .AirPressure, .Volume, .Humidity, .AirQuality],
          str t ≠ q.table b := by
      decide
    have hnot : table ∉ settingTables ++ alarmTables := by
      intro ht
      obtain ⟨hwin, hq⟩ := hother table ht
      rcases hkind with h | ⟨q, h⟩
      · exact hwin h
      · exact hq b (by cases b <;> simp) q (by cases q <;> simp) h
    rw [List.mem_append, not_or] at hnot
    exact known_other hnot.1 hnot.2 hkept.ne_null
  | @publish r a w hw =>
    obtain ⟨htable, rfl⟩ := Prod.mk.inj hrow
    obtain ⟨hname, hvalue⟩ := mem_publish hw
    have hstates : ["0", "1", "2"] = [(0 : Int), 1, 2].map fun v => literal (some v) := by decide
    obtain ⟨v, hv, hstate⟩ := List.mem_map.1 (hstates ▸ hvalue)
    have hno : ∀ t ∈ settingTables, ∀ t' ∈ publishedTables, str t ≠ str t' := by decide
    have hs : table ∉ settingTables := fun ht => hno table ht w.1 hname htable
    by_cases ha : table ∈ alarmTables
    · rw [Known, if_neg hs, if_pos ha, hkept.number v (by rw [← hstate]; rfl)]
      simpa using hv
    · exact known_other hs ha hkept.ne_null

/-- **Every writer keeps the tables sound.** -/
theorem Sound.step {s s' : State} (h : Sound s) (ht : Traffic s s') : Sound s' := by
  cases ht with
  | main => exact h.serve fun _ _ _ _ _ _ _ htakes _ => by cases htakes
  | page p accepts =>
    refine h.serve fun ops k w values v hops hw htakes hv => ?_
    have hhandler : ∃ Modus, ops = handler Modus p.endpoint := by
      cases p with
      | auto | manu => exact ⟨false, (Option.some.inj hops).symm⟩
      | «open» | close =>
        obtain ⟨Modus, -, hM⟩ := Option.map_eq_some_iff.1 hops
        exact ⟨Modus, hM.symm⟩
    obtain ⟨Modus, rfl⟩ := hhandler
    simp only at htakes
    split_ifs at htakes
    obtain rfl := Option.some.inj htakes
    obtain rfl := List.mem_singleton.1 hv
    exact known_page Modus p w hw
  | settings c hc =>
    refine h.serve fun ops k w values v hops hw htakes hv => ?_
    have hw' : w ∈ c.writes := by
      obtain ⟨page, answer⟩ := c
      cases page <;> obtain rfl := Option.some.inj hops <;> exact hw
    obtain ⟨value, hs, rfl⟩ := Option.map_eq_some_iff.1 htakes
    obtain rfl := List.mem_singleton.1 hv
    exact known_settings hc hw' hs
  | controller d text value hd hins hkept =>
    refine h.grow rfl ?_ fun row hrow => .inl hrow
    intro row hrow
    obtain rfl := List.mem_singleton.1 hrow
    exact .inr (known_inserts hins hkept)

/-! ## The readers -/

theorem latest_known {rows : List Row} (h : ∀ row ∈ rows, Known row.table row.value) {table value : String}
    (hl : latest rows table = some value) : Known table value := by
  obtain ⟨row, hrow, rfl⟩ := Option.map_eq_some_iff.1 hl
  obtain ⟨hmem, htable⟩ := List.mem_filter.1 (List.mem_of_getLast? hrow)
  have hknown := h row hmem
  rwa [beq_iff_eq.1 htable] at hknown

/-- Every table but LimitChange shows a known value, with what is pending or without. -/
theorem Sound.shown {s : State} (h : Sound s) {rows : List Row}
    (hrows : rows = s.committed ∨ rows = s.committed ++ s.pending) {d : TableDef} (hd : d ∈ tables)
    (hne : d.name ≠ "LimitChange") : ∃ value, latest rows d.name = some value ∧ Known d.name value := by
  have hknown : ∀ row ∈ rows, Known row.table row.value := by
    intro row hrow
    rcases hrows with rfl | rfl
    · exact h.committed row hrow
    · exact (List.mem_append.1 hrow).elim (h.committed row) (h.pending row)
  have hsome : (latest rows d.name).isSome = true := by
    rcases hrows with rfl | rfl
    · exact h.filled d hd hne
    · rw [latest_append, Option.isSome_or, h.filled d hd hne, Bool.or_true]
  obtain ⟨value, hvalue⟩ := Option.isSome_iff_exists.1 hsome
  exact ⟨value, hvalue, latest_known hknown hvalue⟩

theorem Known.ne_null {table value : String} (h : Known table value) : value ≠ "NULL" := by
  unfold Known at h
  split_ifs at h
  · obtain ⟨v, rfl, -⟩ := h
    exact literal_ne_null v
  · rintro rfl
    exact absurd h (by decide)
  · exact h

theorem Sound.fetched {s : State} (h : Sound s) {rows : List Row}
    (hrows : rows = s.committed ∨ rows = s.committed ++ s.pending) (table : String)
    (ht : table ∈ tables.map (·.name)) (hne : table ≠ "LimitChange") :
    ∃ value, fetch rows table = some (some value) ∧ Known table value := by
  obtain ⟨d, hd, rfl⟩ := List.mem_map.1 ht
  obtain ⟨value, hvalue, hknown⟩ := h.shown hrows hd hne
  exact ⟨value, by rw [fetch, hvalue, Option.map_some, cell, if_neg hknown.ne_null], hknown⟩

theorem alarmState_isSome {table value : String} (h : Known table value) (ht : table ∈ alarmTables) :
    ∃ shown, alarmState (asInt (some value)) = some shown := by
  have hdisjoint : ∀ t ∈ alarmTables, t ∉ settingTables := by decide
  rw [Known, if_neg (hdisjoint table ht), if_pos ht, cell] at h
  split at h
  · simp [asInt] at h
  · simp only [List.mem_cons, List.not_mem_nil, or_false] at h
    rcases h with h | h | h <;> rw [h] <;> exact ⟨_, rfl⟩

theorem priority_selects {value : String} (h : Known "Priority" value) : Selects (asInt (some value)) := by
  rw [Known, if_pos (by decide)] at h
  obtain ⟨v, rfl, hp⟩ := h
  exact ⟨v, congrArg some (atoi_printD v), hp rfl⟩

theorem Sound.main {s : State} (h : Sound s) :
    (Main.template (s.committed ++ s.pending)).isSome = true := by
  have hfetch := h.fetched (.inr rfl)
  have hbind (value : String) (f : Option String → Option Home) :
      (some (some value) >>= f) = f (some value) := rfl
  obtain ⟨_, hinPres, -⟩ := hfetch "AirPressure_IN" (by decide) (by decide)
  obtain ⟨_, houtPres, -⟩ := hfetch "AirPressure_OUT" (by decide) (by decide)
  obtain ⟨_, hinQual, -⟩ := hfetch "AirQuality_IN" (by decide) (by decide)
  obtain ⟨_, houtQual, -⟩ := hfetch "AirQuality_OUT" (by decide) (by decide)
  obtain ⟨_, hwin, -⟩ := hfetch "Win_Open" (by decide) (by decide)
  obtain ⟨_, hauto, -⟩ := hfetch "AutoModus" (by decide) (by decide)
  obtain ⟨_, hinHum, -⟩ := hfetch "Humidity_IN" (by decide) (by decide)
  obtain ⟨_, houtHum, -⟩ := hfetch "Humidity_OUT" (by decide) (by decide)
  obtain ⟨_, hinTemp, -⟩ := hfetch "Temp_IN" (by decide) (by decide)
  obtain ⟨_, houtTemp, -⟩ := hfetch "Temp_OUT" (by decide) (by decide)
  obtain ⟨_, hinSound, -⟩ := hfetch "Volume_IN" (by decide) (by decide)
  obtain ⟨_, houtSound, -⟩ := hfetch "Volume_OUT" (by decide) (by decide)
  obtain ⟨_, hprio, hpriority⟩ := hfetch "Priority" (by decide) (by decide)
  obtain ⟨_, hair, hairKnown⟩ := hfetch "Air_Quality_AlarmState" (by decide) (by decide)
  obtain ⟨_, htemp, htempKnown⟩ := hfetch "Temp_AlarmState" (by decide) (by decide)
  obtain ⟨_, hhum, hhumKnown⟩ := hfetch "Humidity_AlarmState" (by decide) (by decide)
  obtain ⟨_, hnoise, hnoiseKnown⟩ := hfetch "Volume_AlarmState" (by decide) (by decide)
  obtain ⟨_, hwind, hwindKnown⟩ := hfetch "Wind_AlarmState" (by decide) (by decide)
  obtain ⟨_, hair'⟩ := alarmState_isSome hairKnown (by decide)
  obtain ⟨_, htemp'⟩ := alarmState_isSome htempKnown (by decide)
  obtain ⟨_, hhum'⟩ := alarmState_isSome hhumKnown (by decide)
  obtain ⟨_, hnoise'⟩ := alarmState_isSome hnoiseKnown (by decide)
  obtain ⟨_, hwind'⟩ := alarmState_isSome hwindKnown (by decide)
  obtain ⟨_, hpriority'⟩ :=
    Option.isSome_iff_exists.1 ((priorityText_isSome_iff _).2 (priority_selects hpriority))
  rw [Main.template]
  simp only [hinPres, houtPres, hinQual, houtQual, hwin, hauto, hinHum, houtHum, hinTemp, houtTemp, hinSound,
    houtSound, hprio, hair, htemp, hhum, hnoise, hwind, hbind, hair', htemp', hhum', hnoise', hwind',
    hpriority', Option.bind_eq_bind, Option.bind_some, Option.isSome_some]

theorem Sound.limitsText {s : State} (h : Sound s) :
    (LimitsText.template (s.committed ++ s.pending)).isSome = true := by
  have hfetch := h.fetched (.inr rfl)
  have hbind (value : String) (f : Option String → Option Settings) :
      (some (some value) >>= f) = f (some value) := rfl
  obtain ⟨_, hwind, -⟩ := hfetch "Wind_MAX" (by decide) (by decide)
  obtain ⟨_, hqual, -⟩ := hfetch "AirQuality_MAX" (by decide) (by decide)
  obtain ⟨_, hmaxHum, -⟩ := hfetch "Humidity_MAX" (by decide) (by decide)
  obtain ⟨_, hminHum, -⟩ := hfetch "Humidity_MIN" (by decide) (by decide)
  obtain ⟨_, hmaxTemp, -⟩ := hfetch "Temp_MAX" (by decide) (by decide)
  obtain ⟨_, hminTemp, -⟩ := hfetch "Temp_MIN" (by decide) (by decide)
  obtain ⟨_, hsound, -⟩ := hfetch "Volume_MAX" (by decide) (by decide)
  obtain ⟨_, hprio, hpriority⟩ := hfetch "Priority" (by decide) (by decide)
  obtain ⟨_, hselected⟩ := Option.isSome_iff_exists.1
    ((selectedOption_isSome_iff _).2 (priority_selects hpriority))
  rw [LimitsText.template]
  simp only [hwind, hqual, hmaxHum, hminHum, hmaxTemp, hminTemp, hsound, hprio, hbind, hselected,
    Option.bind_eq_bind, Option.bind_some, Option.isSome_some]

theorem Sound.read_int {s : State} (h : Sound s) (table : String) (ht : table ∈ tables.map (·.name))
    (hne : table ≠ "LimitChange") : ∃ v, get_latest_value_int s table = some v := by
  obtain ⟨value, hfetch, -⟩ := h.fetched (.inl rfl) table ht hne
  exact ⟨_, by rw [get_latest_value_int_eq, hfetch]; rfl⟩

theorem Sound.read_bool {s : State} (h : Sound s) {d : TableDef} (hd : d ∈ tables)
    (hne : d.name ≠ "LimitChange") : ∃ v, get_latest_value_bool s s d.name = some v := by
  obtain ⟨value, hvalue, -⟩ := h.shown (.inl rfl) hd hne
  exact ⟨asBool value, by rw [get_latest_value_bool_eq (List.prefix_refl _), hvalue]; rfl⟩

/-- A pass reads all its values, a priority that selects a family among them. -/
theorem Sound.reads {s : State} (h : Sound s) : ∃ r, reads s = Reads.calls r ∧ Selects (some r.priority) := by
  obtain ⟨autoMode_bo, hauto⟩ :=
    h.read_bool (d := ⟨"AutoModus", .bool, true, some "TRUE"⟩) (by decide) (by decide)
  obtain ⟨manClose_bo, hclose⟩ := h.read_bool (d := ⟨"ManClose", .bool, true, none⟩) (by decide) (by decide)
  obtain ⟨manOpen_bo, hopen⟩ := h.read_bool (d := ⟨"ManOpen", .bool, true, none⟩) (by decide) (by decide)
  obtain ⟨win_open_bo, hwin⟩ := h.read_bool (d := ⟨"Win_Open", .bool, true, none⟩) (by decide) (by decide)
  have hread := h.read_int
  obtain ⟨airP_in, hairPin⟩ := hread "AirPressure_IN" (by decide) (by decide)
  obtain ⟨airP_out, hairPout⟩ := hread "AirPressure_OUT" (by decide) (by decide)
  obtain ⟨airP_max, hairPmax⟩ := hread "AirPressure_MAX" (by decide) (by decide)
  obtain ⟨airQ_in, hairQin⟩ := hread "AirQuality_IN" (by decide) (by decide)
  obtain ⟨airQ_out, hairQout⟩ := hread "AirQuality_OUT" (by decide) (by decide)
  obtain ⟨airQ_max, hairQmax⟩ := hread "AirQuality_MAX" (by decide) (by decide)
  obtain ⟨humid_in, hhumin⟩ := hread "Humidity_IN" (by decide) (by decide)
  obtain ⟨humid_out, hhumout⟩ := hread "Humidity_OUT" (by decide) (by decide)
  obtain ⟨humid_min, hhummin⟩ := hread "Humidity_MIN" (by decide) (by decide)
  obtain ⟨humid_max, hhummax⟩ := hread "Humidity_MAX" (by decide) (by decide)
  obtain ⟨temp_in, htempin⟩ := hread "Temp_IN" (by decide) (by decide)
  obtain ⟨temp_out, htempout⟩ := hread "Temp_OUT" (by decide) (by decide)
  obtain ⟨temp_min, htempmin⟩ := hread "Temp_MIN" (by decide) (by decide)
  obtain ⟨temp_max, htempmax⟩ := hread "Temp_MAX" (by decide) (by decide)
  obtain ⟨vol_in, hvolin⟩ := hread "Volume_IN" (by decide) (by decide)
  obtain ⟨vol_out, hvolout⟩ := hread "Volume_OUT" (by decide) (by decide)
  obtain ⟨vol_max, hvolmax⟩ := hread "Volume_MAX" (by decide) (by decide)
  obtain ⟨value, hfetch, hknown⟩ := h.fetched (.inl rfl) "Priority" (by decide) (by decide)
  obtain ⟨priority, hvalue, hselects⟩ := priority_selects hknown
  have hpriority : get_latest_value_int s "Priority" = some priority := by
    rw [get_latest_value_int_eq, hfetch]
    exact hvalue
  refine ⟨{ firstRows with
    autoMode_bo, manClose_bo, manOpen_bo, win_open_bo, airP_in, airP_out, airP_max, airQ_in, airQ_out, airQ_max,
    humid_in, humid_out, humid_min, humid_max, temp_in, temp_out, temp_min, temp_max, vol_in, vol_out, vol_max,
    priority }, ?_, priority, rfl, hselects⟩
  rw [Web.reads, hauto, hclose, hopen, hwin, hairPin, hairPout, hairPmax, hairQin, hairQout, hairQmax, hhumin,
    hhumout, hhummin, hhummax, htempin, htempout, htempmin, htempmax, hvolin, hvolout, hvolmax, hpriority]
  rfl

theorem Sound.usable {s : State} (h : Sound s) : Usable s := by
  obtain ⟨r, hr, hselects⟩ := h.reads
  exact ⟨h.main, h.limitsText, r, hr, fun a => (leaves_state0_iff a r).2 hselects⟩

/-- Every state that requests and rows bring about, in any order, is sound. -/
theorem sound_of_traffic {s : State} (h : Relation.ReflTransGen Traffic (.start scriptRows) s) : Sound s :=
  Trans.reach_invariant Sound sound_start (fun _ _ h hs => h.step hs) h

/-- **The system stays usable.** With settings from its own form, however requests and the controller's rows
come in between each other and whichever of them are rejected, both pages render, every read of a pass
succeeds, and the pass leaves `state0`. -/
theorem usable_always {s : State} (h : Relation.ReflTransGen Traffic (.start scriptRows) s) : Usable s :=
  (sound_of_traffic h).usable

/-- A server that takes numbers. -/
def numbersOnly : Answer where
  stores _ value :=
    if literal (some (atoi (str value))) = value then some (some (atoi (str value))) else none
  number := by
    intro _ v cell h
    have hatoi : atoi (str (literal (some v))) = v := atoi_printD v
    rw [hatoi, if_pos rfl] at h
    exact (Option.some.inj h).symm

theorem numbersOnly_ne_none (k : Nat) (value : String) (cell : Option Int)
    (h : numbersOnly.stores k value = some cell) : cell ≠ none := by
  simp only [numbersOnly] at h
  split_ifs at h
  rintro rfl
  cases h

theorem kept_numeral {value : String} (h : value ≠ "NULL") : Kept (str value) value where
  ne_null := h
  number v hv := by rw [cell, if_neg h, asInt, Option.map_some, hv, atoi_printD]

/-- After the report of an opened window and a form. -/
theorem usable_after_form :
    Usable (serve
      { State.start scriptRows with
        committed := (State.start scriptRows).committed ++ [⟨none, "Win_Open", "1"⟩] }
      (Change.request ⟨.submit ⟨"18", "26", "30", "65", "1", "21", "60", "1"⟩, numbersOnly⟩)) := by
  have hsent : Sent .IN (fun v _ => printD v) SW_FINISH_OPEN_WINDOW :=
    ⟨⟨0, 0, 0, 0, 0⟩, .FINISH_OPEN_WINDOW, List.mem_cons_self⟩
  have hrow : Inserts (str "Win_Open", str "1") :=
    .receiveLoop prints_printD hsent
      (by decide : SmartWindow.receiveLoop SW_FINISH_OPEN_WINDOW = some [(str "Win_Open", str "1")])
      List.mem_cons_self
  have hoffered : Change.Offered ⟨.submit ⟨"18", "26", "30", "65", "1", "21", "60", "1"⟩, numbersOnly⟩ := by
    refine ⟨numbersOnly_ne_none, fun form hform => ⟨1, by decide, by decide, ?_⟩⟩
    cases hform
    decide
  exact usable_always (.tail (.single (.controller _ ⟨"Win_Open", .bool, true, none⟩ (str "1") "1" (by decide)
    hrow (kept_numeral (by decide)))) (.settings _ _ hoffered))

/-! ## Submitting what is shown -/

/-- What the browser sends for the form as it is shown: the values of its inputs, where None is no number,
and the option that is selected. -/
def Settings.form (t : Settings) : Form where
  MinTemp := t.MinTemp.getD ""
  MaxTemp := t.MaxTemp.getD ""
  MinHum := t.MinHum.getD ""
  MaxHum := t.MaxHum.getD ""
  MaxCO2 := t.MaxQual.getD ""
  MaxWind := t.MaxWind.getD ""
  MaxNoise := t.MaxSound.getD ""
  Priority :=
    if t.prio0 = "selected" then "0" else if t.prio1 = "selected" then "1"
    else if t.prio2 = "selected" then "2" else "3"

def shownTables : List String :=
  ["Temp_MIN", "Temp_MAX", "Humidity_MIN", "Humidity_MAX", "AirQuality_MAX", "Wind_MAX", "Volume_MAX",
    "Priority"]

/-- The rows say these numbers, the priority one of the four. -/
structure Says (rows : List Row) (v : String → Int) : Prop where
  latest : ∀ table ∈ shownTables, latest rows table = some (literal (some (v table)))
  priority : v "Priority" = 0 ∨ v "Priority" = 1 ∨ v "Priority" = 2 ∨ v "Priority" = 3

theorem Sound.numbers {s : State} (h : Sound s) : ∃ v, Says (s.committed ++ s.pending) v := by
  have hvalue (table : String) (ht : table ∈ shownTables) : ∃ v : Int,
      latest (s.committed ++ s.pending) table = some (literal (some v)) ∧
        (table = "Priority" → 0 ≤ v ∧ v ≤ 3) := by
    have hsub : ∀ t ∈ shownTables,
        t ∈ tables.map (·.name) ∧ t ≠ "LimitChange" ∧ t ∈ settingTables := by decide
    obtain ⟨hmem, hne, hset⟩ := hsub table ht
    obtain ⟨d, hd, rfl⟩ := List.mem_map.1 hmem
    obtain ⟨value, hl, hknown⟩ := h.shown (.inr rfl) hd hne
    rw [Known, if_pos hset] at hknown
    obtain ⟨v, rfl, hp⟩ := hknown
    exact ⟨v, hl, hp⟩
  have hatoi (v : Int) : atoi (str (literal (some v))) = v := atoi_printD v
  refine ⟨fun table => atoi (str ((latest (s.committed ++ s.pending) table).getD "")), fun table ht => ?_, ?_⟩
  · obtain ⟨v, hl, -⟩ := hvalue table ht
    rw [hl, Option.getD_some, hatoi]
  · obtain ⟨v, hl, hp⟩ := hvalue "Priority" (by decide)
    have := hp rfl
    rw [hl, Option.getD_some, hatoi]
    omega

def shownPage (v : String → Int) : Settings where
  MinTemp := some (literal (some (v "Temp_MIN")))
  MaxTemp := some (literal (some (v "Temp_MAX")))
  MinHum := some (literal (some (v "Humidity_MIN")))
  MaxHum := some (literal (some (v "Humidity_MAX")))
  MaxQual := some (literal (some (v "AirQuality_MAX")))
  MaxWind := some (literal (some (v "Wind_MAX")))
  MaxSound := some (literal (some (v "Volume_MAX")))
  prio0 := if v "Priority" = 0 then "selected" else " "
  prio1 := if v "Priority" = 1 then "selected" else " "
  prio2 := if v "Priority" = 2 then "selected" else " "
  prio3 := if v "Priority" = 3 then "selected" else " "

theorem Says.template {rows : List Row} {v : String → Int} (h : Says rows v) :
    LimitsText.template rows = some (shownPage v) := by
  have hfetch (table : String) (ht : table ∈ shownTables) :
      fetch rows table = some (some (literal (some (v table)))) := by
    rw [fetch, h.latest table ht, Option.map_some, cell, if_neg (literal_ne_null _)]
  have hasInt : asInt (some (literal (some (v "Priority")))) = some (v "Priority") :=
    congrArg some (atoi_printD _)
  rw [LimitsText.template]
  simp (disch := decide) only [hfetch, Option.bind_eq_bind, Option.bind_some, hasInt]
  rcases h.priority with hp | hp | hp | hp <;> simp [selectedOption, shownPage, hp]

/-- What a form with these numbers writes. -/
def formValues (v : String → Int) : List (String × Int) :=
  shownTables.map (fun table => (table, v table)) ++ [("LimitChange", 1)]

theorem writes_form {v : String → Int}
    (h : v "Priority" = 0 ∨ v "Priority" = 1 ∨ v "Priority" = 2 ∨ v "Priority" = 3) (answer : Answer) :
    Change.writes ⟨.submit (shownPage v).form, answer⟩ =
      (formValues v).map fun w => (w.1, literal (some w.2)) := by
  have hliteral : literal (some 0) = "0" ∧ literal (some 1) = "1" ∧ literal (some 2) = "2" ∧
      literal (some 3) = "3" := by decide
  have hprio : (shownPage v).form.Priority = literal (some (v "Priority")) := by
    rcases h with hp | hp | hp | hp <;> simp [Settings.form, shownPage, hp, hliteral]
  simp only [Change.writes, SettingsPage.endpoint, handler, limits, hprio]
  simp [inserts, formValues, shownTables, Settings.form, shownPage, hliteral]

theorem last_formValues (v : String → Int) {table : String} (ht : table ∈ shownTables) :
    Trace.last (inTable table) ((formValues v).map fun w => (w.1, some w.2)) = some (some (v table)) := by
  simp only [shownTables, List.mem_cons, List.not_mem_nil, or_false] at ht
  rcases ht with rfl | rfl | rfl | rfl | rfl | rfl | rfl | rfl <;> rfl

/-- **The settings form comes back as it was sent.** Submitted as it is shown, and not rejected, it commits
everything, the page shows the same again, and the controller reads the numbers that the page shows. -/
theorem resubmit {s : State} (h : Relation.ReflTransGen Traffic (.start scriptRows) s) {t : Settings}
    (ht : LimitsText.template (s.committed ++ s.pending) = some t) {answer : Answer}
    (hacc : Change.accepted ⟨.submit t.form, answer⟩ = true) {s' : State}
    (hs' : s' = serve s (Change.request ⟨.submit t.form, answer⟩)) :
    s'.pending = [] ∧ LimitsText.template s'.committed = some t ∧ ∀ table ∈ shownTables,
      get_latest_value_int s' table = (fetch (s.committed ++ s.pending) table).bind asInt := by
  obtain ⟨v, hsays⟩ := (sound_of_traffic h).numbers
  obtain rfl : t = shownPage v := Option.some.inj (ht.symm.trans hsays.template)
  -- what the form stores is what the tables say
  have hstored : Change.stored ⟨.submit (shownPage v).form, answer⟩ =
      (formValues v).map fun w => (w.1, some w.2) := by
    have hwrites := writes_form hsays.priority answer
    rw [Change.accepted, Change.stored, hwrites, beq_iff_eq, List.length_map] at hacc
    rw [Change.stored, hwrites]
    exact stored_numbers answer 0 (formValues v) hacc
  rw [serve_change, if_pos hacc, hstored] at hs'
  subst hs'
  have hlatest (table : String) (hmem : table ∈ shownTables) :
      latest (s.committed ++ (s.pending ++ settingRows s.served ((formValues v).map fun w => (w.1, some w.2))))
        table = some (literal (some (v table))) := by
    rw [← List.append_assoc, latest_append, latest_settingRows, last_formValues v hmem]
    rfl
  refine ⟨rfl, Says.template ⟨hlatest, hsays.priority⟩, fun table hmem => ?_⟩
  rw [get_latest_value_int_eq, fetch, hlatest table hmem, fetch, hsays.latest table hmem]

/-- The form of the script's limits. -/
def firstPage : Settings :=
  ⟨some "20", some "26", some "30", some "65", some "0", some "21", some "60", " ", " ", " ", "selected"⟩

/-- The first form, submitted as it is. -/
theorem resubmit_first :
    LimitsText.template (serve (.start scriptRows)
      (Change.request ⟨.submit firstPage.form, numbersOnly⟩)).committed = some firstPage := by
  have hpage : LimitsText.template ((State.start scriptRows).committed ++ (State.start scriptRows).pending) =
      some firstPage := by rfl
  have hacc : Change.accepted ⟨.submit firstPage.form, numbersOnly⟩ = true := by decide
  exact (resubmit .refl hpage hacc rfl).2.1

end SmartWindow.Web
