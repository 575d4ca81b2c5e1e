/-
What a datagram can write (main_controller.cpp, write_read.cpp). The rows that
`receiveLoop` requests are those of the messages that `putCommand` writes for
well-formed fields, as far as the receive buffer holds them, and each has these
fields only (`requested_iff`). So a row can name the tables whose names are two
tokens: the measurements, the limits and the window status, and not those of
the modes and the priority (`writable_iff`). The text of a field goes into the
statement as it is, though: a field with a comment sign in it makes the
statement an INSERT into any table (`writes_anywhere`).
-/
import SmartWindow.Controller.Memory

namespace SmartWindow

open InPlace (MAXBUF)

/-! ## Fields -/

/-- What a field of a datagram may be: one token, also at the other separator. -/
def Field (s : Bytes) : Prop := s ≠ [] ∧ ∀ x ∈ s, x ≠ 0 ∧ x ≠ SEP_SENSOR ∧ x ≠ SEP_VALUE

/-- The fields of a measurement, well formed. -/
structure Fields where
  sensor : Bytes
  pos : Bytes
  value : Bytes
  sensor_field : Field sensor
  pos_field : Field pos
  value_token : Token SEP_VALUE value

def Fields.row (f : Fields) : Row := (tableName f.sensor f.pos, f.value)

/-- A message for the fields, under a command token. -/
def Fields.message (cmd : Bytes) (f : Fields) : Bytes :=
  (cmd ++ SEP_SENSOR :: tableName f.sensor f.pos) ++ SEP_VALUE :: f.value

/-- The length of the shortest: a byte for the command, and the separators. -/
def Fields.size (f : Fields) : Nat := f.sensor.length + f.pos.length + f.value.length + 4

theorem Fields.receiveLoop_message {cmd : Bytes} (hcmd : Field cmd) (f : Fields) :
    receiveLoop (f.message cmd) = some [f.row] := by
  obtain ⟨hfirst, hsecond⟩ := InPlace.split_measurement hcmd f.sensor_field f.pos_field f.value_token
  rw [Fields.message, tableName, receiveLoop, hfirst]
  simp only [hsecond]
  rfl

theorem Fields.putMessage_eq (f : Fields) :
    InPlace.putMessage f.sensor f.pos f.value = f.message CMD_PUT :=
  InPlace.putMessage_eq (fun x hx => (f.sensor_field.2 x hx).1) (fun x hx => (f.pos_field.2 x hx).1)
    fun x hx => (f.value_token.2 x hx).1

theorem Fields.receiveLoop_putMessage (f : Fields) :
    receiveLoop (InPlace.putMessage f.sensor f.pos f.value) = some [f.row] := by
  rw [f.putMessage_eq, f.receiveLoop_message InPlace.put_token]

theorem Fields.length_message (cmd : Bytes) (f : Fields) :
    (f.message cmd).length + 1 = cmd.length + f.size := by
  simp only [Fields.message, Fields.size, tableName, List.length_append, List.length_cons]
  omega

theorem Fields.split_table (f : Fields) :
    splitString (tableName f.sensor f.pos) SEP_SENSOR = [f.sensor, f.pos] := by
  have hsensor : ∀ x ∈ f.sensor, x ≠ 0 ∧ x ≠ SEP_SENSOR := fun x hx =>
    ⟨(f.sensor_field.2 x hx).1, (f.sensor_field.2 x hx).2.1⟩
  have hpos : ∀ x ∈ f.pos, x ≠ 0 ∧ x ≠ SEP_SENSOR := fun x hx =>
    ⟨(f.pos_field.2 x hx).1, (f.pos_field.2 x hx).2.1⟩
  rw [tableName, splitString_append f.sensor_field.1 (by decide) hsensor,
    InPlace.splitString_token f.pos_field.1 hpos]

theorem Fields.row_injective : Function.Injective Fields.row := by
  intro f f' h
  obtain ⟨htable, hvalue⟩ := Prod.mk.inj h
  have htokens := f.split_table
  rw [htable, f'.split_table] at htokens
  obtain ⟨hsensor, hrest⟩ := List.cons.inj htokens
  obtain ⟨hpos, -⟩ := List.cons.inj hrest
  obtain ⟨sensor, pos, value, _, _, _⟩ := f
  obtain ⟨sensor', pos', value', _, _, _⟩ := f'
  simp only at hsensor hpos hvalue
  subst hsensor hpos hvalue
  rfl

/-! ## The rows -/

/-- The pieces of a split are tokens, made of the bytes of the string. -/
theorem token_of_mem_splitString {d : UInt8} (hd : d ≠ 0) (s : Bytes) :
    ∀ t ∈ splitString s d, Token d t ∧ ∀ x ∈ t, x ∈ s := by
  have hpieces : ∀ t ∈ splitString (cstr s) d, Token d t ∧ ∀ x ∈ t, x ∈ cstr s := by
    refine splitString_induction (motive := fun s ts => ∀ t ∈ ts, Token d t ∧ ∀ x ∈ t, x ∈ s) hd ?_ ?_ ?_
      fun x hx => InPlace.ne_of_mem_cstr hx
    · simp
    · intro k t ht t' ht'
      obtain rfl := List.mem_singleton.1 ht'
      exact ⟨ht, fun x hx => by simp [hx]⟩
    · intro k t s ht ih t' ht'
      rcases List.mem_cons.1 ht' with rfl | ht'
      · exact ⟨ht, fun x hx => by simp [hx]⟩
      · exact ⟨(ih t' ht').1, fun x hx => by simp [(ih t' ht').2 x hx]⟩
  intro t ht
  rw [← InPlace.splitString_cstr] at ht
  exact ⟨(hpieces t ht).1, fun x hx => (List.takeWhile_prefix _).subset ((hpieces t ht).2 x hx)⟩

theorem length_splitString {d : UInt8} (hd : d ≠ 0) (s : Bytes) :
    (splitString s d).flatten.length + (splitString s d).length ≤ s.length + 1 := by
  have hpieces : (splitString (cstr s) d).flatten.length + (splitString (cstr s) d).length ≤
      (cstr s).length + 1 := by
    refine splitString_induction
      (motive := fun s ts => ts.flatten.length + ts.length ≤ s.length + 1) hd ?_ ?_ ?_
      fun x hx => InPlace.ne_of_mem_cstr hx
    · simp
    · intro k t ht
      simp
    · intro k t s ht ih
      simp only [List.flatten_cons, List.length_cons, List.length_append]
      omega
  rw [InPlace.splitString_cstr] at hpieces
  have hle : (cstr s).length ≤ s.length := (List.takeWhile_prefix _).length_le
  omega

theorem measurement_fields {m cmd sensor pos value : Bytes}
    (h : measurement m = some (cmd, sensor, pos, value)) :
    Field sensor ∧ Field pos ∧ Token SEP_VALUE value := by
  unfold measurement at h
  split at h
  · rename_i name value' hparts
    split at h
    · rename_i cmd' sensor' pos' hname
      obtain ⟨rfl, rfl, rfl, rfl⟩ : cmd' = cmd ∧ sensor' = sensor ∧ pos' = pos ∧ value' = value := by
        simpa using h
      have hpart (t : Bytes) (ht : t ∈ [name, value']) :=
        token_of_mem_splitString (by decide) m t (hparts ▸ ht)
      have hfield (t : Bytes) (ht : t ∈ [cmd', sensor', pos']) : Field t := by
        obtain ⟨⟨hne, htoken⟩, hmem⟩ := token_of_mem_splitString (by decide) name t (hname ▸ ht)
        refine ⟨hne, fun x hx => ⟨(htoken x hx).1, (htoken x hx).2, ?_⟩⟩
        -- no slash: it is a byte of the name
        exact ((hpart name (by simp)).1.2 x (hmem x hx)).2
      exact ⟨hfield sensor' (by simp), hfield pos' (by simp), (hpart value' (by simp)).1⟩
    · cases h
  · cases h

/-- The fields fit into the message, with a command of a byte at least and the separators. -/
theorem measurement_length {m cmd sensor pos value : Bytes}
    (h : measurement m = some (cmd, sensor, pos, value)) :
    sensor.length + pos.length + value.length + 4 ≤ m.length := by
  unfold measurement at h
  split at h
  · rename_i name value' hparts
    split at h
    · rename_i cmd' sensor' pos' hname
      obtain ⟨rfl, rfl, rfl, rfl⟩ : cmd' = cmd ∧ sensor' = sensor ∧ pos' = pos ∧ value' = value := by
        simpa using h
      have hcmd : 0 < cmd'.length := List.length_pos_iff.2
        (token_of_mem_splitString (by decide : SEP_SENSOR ≠ 0) name cmd' (by simp [hname])).1.1
      have hm := length_splitString (by decide : SEP_VALUE ≠ 0) m
      have hn := length_splitString (by decide : SEP_SENSOR ≠ 0) name
      simp only [hparts, hname, List.flatten_cons, List.flatten_nil, List.append_nil, List.length_append,
        List.length_cons, List.length_nil] at hm hn
      omega
    · cases h
  · cases h

/-- The fields of a window report's row: those of a measurement of the same name. -/
def reportFields (c : WinCommand) : Fields where
  sensor := str "Win"
  pos := str "Open"
  value := c.wert
  sensor_field := ⟨by decide, InPlace.forall_bytes (by decide)⟩
  pos_field := ⟨by decide, InPlace.forall_bytes (by decide)⟩
  value_token := by cases c <;> exact ⟨by decide, InPlace.forall_bytes (by decide)⟩

/-- Whatever the datagram, `receiveLoop` requests no row or that of some fields. Those of a measurement
fit into it. -/
theorem exists_fields {m : Bytes} {rows : List Row} (h : receiveLoop m = some rows) :
    rows = [] ∨ ∃ f : Fields, rows = [f.row] ∧ f.size ≤ max m.length 12 := by
  rcases hm : measurement m with _ | ⟨cmd, sensor, pos, value⟩
  · have hreport := (receiveLoop_other hm).1
    rw [h, Option.getD_some] at hreport
    rcases hc : report m with _ | c
    · exact .inl (by simp [hreport, hc])
    · refine .inr ⟨reportFields c, by rw [hreport, hc]; rfl, Nat.le_trans ?_ (Nat.le_max_right _ _)⟩
      cases c <;> decide
  · obtain ⟨hsensor, hpos, hvalue⟩ := measurement_fields hm
    refine .inr ⟨⟨sensor, pos, value, hsensor, hpos, hvalue⟩, ?_,
      Nat.le_trans (measurement_length hm) (Nat.le_max_left _ _)⟩
    rw [(receiveLoop_measurement hm).1] at h
    exact (Option.some.inj h).symm

theorem fields_of_mem {m : Bytes} {rows : List Row} {row : Row} (h : receiveLoop m = some rows)
    (hrow : row ∈ rows) : rows = [row] ∧ ∃ f : Fields, f.row = row ∧ f.size ≤ max m.length 12 := by
  rcases exists_fields h with rfl | ⟨f, rfl, hsize⟩
  · cases hrow
  · obtain rfl := List.mem_singleton.1 hrow
    exact ⟨rfl, f, rfl, hsize⟩

/-- Some datagram that the receive buffer holds makes `receiveLoop` request the row. -/
def Requestable (row : Row) : Prop :=
  ∃ m rows, m.length < MAXBUF ∧ receiveLoop m = some rows ∧ row ∈ rows

theorem requestable_iff {row : Row} : Requestable row ↔ ∃ f : Fields, f.row = row ∧ f.size < MAXBUF := by
  constructor
  · rintro ⟨m, rows, hlen, h, hrow⟩
    obtain ⟨-, f, hf, hsize⟩ := fields_of_mem h hrow
    exact ⟨f, hf, Nat.lt_of_le_of_lt hsize (Nat.max_lt.2 ⟨hlen, by decide⟩)⟩
  · rintro ⟨f, rfl, hsize⟩
    have hcmd : Field [80] := ⟨by decide, InPlace.forall_bytes (by decide)⟩
    have hlen : (f.message [80]).length + 1 = 1 + f.size := f.length_message [80]
    exact ⟨f.message [80], [f.row], by omega, f.receiveLoop_message hcmd, List.mem_singleton_self _⟩

/-- **What a datagram can request**: at most one row, and exactly the rows of well-formed fields that leave
room in the receive buffer for a command and the separators. The row determines them, and the message that
`putCommand` writes for them requests it, where the buffer holds that message as well. -/
theorem requested_iff (row : Row) :
    (∀ m rows, m.length < MAXBUF → receiveLoop m = some rows → row ∈ rows → rows = [row]) ∧
      (Requestable row ↔ ∃! f : Fields, f.row = row ∧ f.size < MAXBUF) ∧
      ∀ f : Fields, f.row = row → (InPlace.putMessage f.sensor f.pos f.value).length < MAXBUF →
        receiveLoop (InPlace.putMessage f.sensor f.pos f.value) = some [row] := by
  refine ⟨fun m rows _ h hrow => (fields_of_mem h hrow).1, ?_, fun f hf _ => hf ▸ f.receiveLoop_putMessage⟩
  rw [requestable_iff]
  constructor
  · rintro ⟨f, hf, hsize⟩
    exact ⟨f, ⟨hf, hsize⟩, fun f' hf' => Fields.row_injective (hf'.1.trans hf.symm)⟩
  · rintro ⟨f, hf, -⟩
    exact ⟨f, hf⟩

/-! ## The tables -/

/-- The tables whose names are not two tokens. -/
def unreachableTables : List String :=
  ["AutoModus", "ManOpen", "ManClose", "LimitChange", "Priority", "Air_Quality_AlarmState"]

/-- The part of a table's name before the first underscore, and what is behind it. -/
def nameParts (name : Bytes) : Bytes × Bytes :=
  (name.takeWhile (· != SEP_SENSOR), (name.dropWhile (· != SEP_SENSOR)).tail)

/-- Each byte is one that a field may have. -/
def fieldBytes (s : Bytes) : Bool :=
  s ≠ [] && s.all fun x => x ≠ 0 && x ≠ SEP_SENSOR && x ≠ SEP_VALUE

theorem field_of_bytes {s : Bytes} (h : fieldBytes s = true) : Field s := by
  simpa [fieldBytes, Field, and_assoc] using h

/-- **Which tables a datagram can name**: all of the schema but those of the modes, the commands given by
hand, the priority and one alarm state; the limits and the window status are among them. -/
theorem writable_iff {d : TableDef} (hd : d ∈ tables) (value : Bytes) :
    Requestable (str d.name, value) ↔ d.name ∉ unreachableTables ∧ Token SEP_VALUE value ∧
      (str d.name).length + value.length + 3 < MAXBUF := by
  have hsize (f : Fields) (hname : tableName f.sensor f.pos = str d.name) :
      f.size = (str d.name).length + f.value.length + 3 := by
    rw [← hname, tableName, Fields.size, List.length_append, List.length_cons]
    omega
  rw [requestable_iff]
  constructor
  · rintro ⟨f, hf, hlen⟩
    obtain ⟨hname, rfl⟩ := Prod.mk.inj hf
    have htokens : (splitString (str d.name) SEP_SENSOR).length = 2 := by
      rw [← hname, f.split_table]
      rfl
    have hcheck : ∀ d ∈ tables, (splitString (str d.name) SEP_SENSOR).length = 2 →
        d.name ∉ unreachableTables := by decide
    exact ⟨hcheck d hd htokens, f.value_token, hsize f hname ▸ hlen⟩
  · rintro ⟨hname, hvalue, hlen⟩
    have hcheck : ∀ d ∈ tables, d.name ∉ unreachableTables →
        fieldBytes (nameParts (str d.name)).1 = true ∧ fieldBytes (nameParts (str d.name)).2 = true ∧
          tableName (nameParts (str d.name)).1 (nameParts (str d.name)).2 = str d.name := by decide
    obtain ⟨hsensor, hpos, htable⟩ := hcheck d hd hname
    let f : Fields := ⟨_, _, value, field_of_bytes hsensor, field_of_bytes hpos, hvalue⟩
    refine ⟨f, Prod.ext htable rfl, ?_⟩
    rw [hsize f htable]
    exact hlen

/-- A limit can be set by radio. -/
theorem writable_limit : Requestable (str "Temp_MAX", str "99") :=
  (writable_iff (d := ⟨"Temp_MAX", .int, false, some "26"⟩) (by decide) (str "99")).2
    ⟨by decide, ⟨by decide, InPlace.forall_bytes (by decide)⟩, by decide⟩

/-! ## The statements -/

def COMMENT : UInt8 := 35 -- '#'

/-- An INSERT of a value, with no underscore in it. -/
def insertion (table value : Bytes) : Bytes :=
  str "INSERT INTO " ++ (table ++ (str "(Zeitstempel,Wert)VALUES(NOW()," ++ (value ++ str ")")))

/-- A text that can stand in a field, before a comment. -/
def Plain (s : Bytes) : Prop := ∀ x ∈ s, x ≠ 0 ∧ x ≠ SEP_SENSOR ∧ x ≠ SEP_VALUE ∧ x ≠ COMMENT

/-- **A datagram can make any INSERT of the statement.** For every table and value there is a datagram that
fits into the buffer and whose row makes `write_in_db` assemble, in the room there is, a statement that is
this INSERT up to where a comment begins. -/
theorem writes_anywhere {table value : Bytes} (htable : Plain table) (hvalue : Plain value)
    (hlen : table.length + value.length ≤ 150) :
    ∃ m row, m.length < MAXBUF ∧ receiveLoop m = some [row] ∧ Fits row.1 row.2 ∧
      (statement row.1 row.2).takeWhile (· != COMMENT) = insertion table value := by
  have hmiddle : Plain (str "(Zeitstempel,Wert)VALUES(NOW(),") := InPlace.forall_bytes (by decide)
  have hend : Plain (str ")") := InPlace.forall_bytes (by decide)
  have hplain : Plain (table ++ (str "(Zeitstempel,Wert)VALUES(NOW()," ++ (value ++ str ")"))) :=
    List.forall_mem_append.2 ⟨htable, List.forall_mem_append.2
      ⟨hmiddle, List.forall_mem_append.2 ⟨hvalue, hend⟩⟩⟩
  have hinsertion : ∀ x ∈ insertion table value, x ≠ COMMENT :=
    List.forall_mem_append.2 ⟨InPlace.forall_bytes (by decide), fun x hx => (hplain x hx).2.2.2⟩
  -- the sensor is the rest of the INSERT, and ends in the comment sign
  have hsensor :
      Field (table ++ (str "(Zeitstempel,Wert)VALUES(NOW()," ++ (value ++ str ")")) ++ [COMMENT]) := by
    refine ⟨by simp, List.forall_mem_append.2 ⟨fun x hx => ?_, fun x hx => ?_⟩⟩
    · exact ⟨(hplain x hx).1, (hplain x hx).2.1, (hplain x hx).2.2.1⟩
    · obtain rfl := List.mem_singleton.1 hx
      decide
  let f : Fields := ⟨_, str "x", str "x", hsensor, ⟨by decide, InPlace.forall_bytes (by decide)⟩,
    ⟨by decide, InPlace.forall_bytes (by decide)⟩⟩
  have hlength : f.sensor.length = table.length + value.length + 33 := by
    simp only [f, List.length_append]
    simp [str]
    omega
  refine ⟨f.message CMD_PUT, f.row, ?_, f.receiveLoop_message InPlace.put_token, ?_, ?_⟩
  · have hmessage : (f.message CMD_PUT).length + 1 = 3 + f.size := f.length_message CMD_PUT
    have hsize : f.size = f.sensor.length + 1 + 1 + 4 := rfl
    simp only [MAXBUF]
    omega
  · refine (fits_measurement_iff f.sensor f.pos f.value).2 ?_
    rw [hlength]
    simp [f, str]
    omega
  · obtain ⟨rest, hrest⟩ : ∃ rest, statement f.row.1 f.row.2 = str "INSERT INTO " ++ (f.row.1 ++ rest) :=
      ⟨_, by simp only [statement, List.append_assoc]; rfl⟩
    have hcomment : statement f.row.1 f.row.2 =
        insertion table value ++ COMMENT :: (SEP_SENSOR :: (str "x" ++ rest)) := by
      rw [hrest]
      simp only [f, Fields.row, tableName, insertion, List.append_assoc, List.cons_append, List.nil_append]
    rw [hcomment, List.takeWhile_append_of_pos fun x hx => by simpa using hinsertion x hx]
    simp

/-- The automatic mode switched off by radio. -/
theorem writes_mode : ∃ m row, m.length < MAXBUF ∧ receiveLoop m = some [row] ∧ Fits row.1 row.2 ∧
    (statement row.1 row.2).takeWhile (· != COMMENT) = insertion (str "AutoModus") (str "0") :=
  writes_anywhere (InPlace.forall_bytes (by decide)) (InPlace.forall_bytes (by decide)) (by decide)

end SmartWindow
