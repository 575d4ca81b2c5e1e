/-
The database that database_tables.sql creates. Every table has the columns
ID (AUTO_INCREMENT), Zeitstempel (`timestamp unique not null`, one second
fine) and Wert, so it is a `Table` whose stamps are seconds; the tables
differ in the type of Wert and in its default. A value is kept as the literal
it was inserted as.
-/
import SmartWindow.Lib.Table

namespace SmartWindow

/-- The type of the column Wert. -/
inductive Column
  | bool
  | int
  | float
  deriving DecidableEq, Repr

structure TableDef where
  name : String
  wert : Column
  notNull : Bool
  default : Option String
  deriving DecidableEq, Repr

/-- The `Create table` statements. -/
def tables : List TableDef :=
  [⟨"AutoModus", .bool, true, some "TRUE"⟩,
    ⟨"ManOpen", .bool, true, none⟩,
    ⟨"ManClose", .bool, true, none⟩,
    ⟨"LimitChange", .bool, true, none⟩,
    ⟨"Priority", .int, false, some "3"⟩,
    ⟨"Win_Open", .bool, true, none⟩,
    ⟨"Temp_OUT", .float, true, none⟩,
    ⟨"Temp_IN", .float, true, none⟩,
    ⟨"Humidity_OUT", .float, true, none⟩,
    ⟨"Humidity_IN", .float, true, none⟩,
    ⟨"AirQuality_OUT", .float, true, none⟩,
    ⟨"AirQuality_IN", .float, true, none⟩,
    ⟨"AirPressure_OUT", .int, true, none⟩,
    ⟨"AirPressure_IN", .int, true, none⟩,
    ⟨"Volume_OUT", .float, true, none⟩,
    ⟨"Volume_IN", .float, true, none⟩,
    ⟨"Wind_OUT", .float, false, none⟩,
    ⟨"Temp_MIN", .int, false, some "20"⟩,
    ⟨"Temp_MAX", .int, false, some "26"⟩,
    ⟨"Humidity_MIN", .int, false, some "30"⟩,
    ⟨"Humidity_MAX", .int, false, some "65"⟩,
    ⟨"AirQuality_MAX", .int, false, some "0"⟩,
    ⟨"AirPressure_MAX", .int, false, some "1020"⟩,
    ⟨"Volume_MAX", .int, false, some "60"⟩,
    ⟨"Wind_MAX", .int, false, some "21"⟩,
    ⟨"Air_Quality_AlarmState", .int, false, some "0"⟩,
    ⟨"Humidity_AlarmState", .int, false, some "0"⟩,
    ⟨"Temp_AlarmState", .int, false, some "0"⟩,
    ⟨"Volume_AlarmState", .int, false, some "0"⟩,
    ⟨"Wind_AlarmState", .int, false, some "0"⟩]

/-- The `Insert Into` statements, `none` where the value is left to the default. LimitChange gets
no row. -/
def anfangswerte : List (String × Option String) :=
  [("AirPressure_IN", some "1010"),
    ("AirPressure_MAX", none),
    ("AirPressure_OUT", some "1016"),
    ("AirQuality_IN", some "0.01"),
    ("AirQuality_MAX", none),
    ("AirQuality_OUT", some "0.01"),
    ("AutoModus", none),
    ("Humidity_IN", some "40"),
    ("Humidity_MAX", none),
    ("Humidity_MIN", none),
    ("Humidity_OUT", some "70"),
    ("ManClose", some "FALSE"),
    ("ManOpen", some "FALSE"),
    ("Win_Open", some "FALSE"),
    ("Wind_OUT", some "0"),
    ("Wind_MAX", none),
    ("Temp_IN", some "22"),
    ("Temp_MAX", none),
    ("Temp_MIN", none),
    ("Temp_OUT", some "4"),
    ("Volume_IN", some "20"),
    ("Volume_MAX", none),
    ("Volume_OUT", some "20"),
    ("Air_Quality_AlarmState", none),
    ("Humidity_AlarmState", none),
    ("Temp_AlarmState", none),
    ("Volume_AlarmState", none),
    ("Wind_AlarmState", some "1"),
    ("Priority", none)]

/-- The tables by name; `none` is a table that does not exist. -/
abbrev Database := String → Option (Table String)

/-- An `INSERT` of a literal in the second `now`. One into a table that does not exist, or that has
a row of this second, is rejected. -/
def Database.insert (db : Database) (now : Nat) (write : String × String) : Database :=
  Function.update db write.1 ((db write.1).map fun t => (t.insert now write.2).2)

/-- The literal `Main` and the readers get: that of the row with the greatest ID. -/
def Database.latest (db : Database) (name : String) : Option String := (db name).bind Table.latest

/-- No row of the table is of the second `now`. -/
def Database.Free (db : Database) (name : String) (now : Nat) : Prop :=
  ∀ t ∈ db name, t.Free now

instance (db : Database) (name : String) (now : Nat) : Decidable (db.Free name now) :=
  inferInstanceAs (Decidable (∀ t ∈ db name, t.Free now))

/-- What a row gets for an `Insert Into`. -/
def TableDef.literal (d : TableDef) (wert : Option String) : String :=
  (wert <|> d.default).getD "NULL"

/-- The database after the script, run in the second `now`. -/
def Database.script (now : Nat) : Database := fun name =>
  (tables.find? (·.name == name)).map fun d =>
    (anfangswerte.filter (·.1 == name)).foldl (fun t row => (t.insert now (d.literal row.2)).2)
      Table.empty

/-! ## Reading what was written -/

theorem Database.latest_insert {db : Database} {name : String} (h : (db name).isSome = true) (now : Nat)
    (value : String) : (db.insert now (name, value)).latest name =
      if db.Free name now then some value else db.latest name := by
  obtain ⟨t, ht⟩ := Option.isSome_iff_exists.1 h
  have hfree : db.Free name now ↔ t.Free now := by simp [Free, ht]
  simp only [Database.insert, latest, Function.update_self, ht, Option.map_some, Option.bind_some,
    hfree, t.latest_insert]

theorem Database.free_insert {db : Database} {name : String} (h : (db name).isSome = true)
    (now now' : Nat) (value : String) :
    (db.insert now (name, value)).Free name now' ↔ db.Free name now' ∧ now' ≠ now := by
  obtain ⟨t, ht⟩ := Option.isSome_iff_exists.1 h
  simp [Free, Database.insert, ht, t.free_insert]

theorem Database.isSome_insert (db : Database) (now : Nat) (write : String × String) (name : String) :
    (db.insert now write name).isSome = (db name).isSome := by
  by_cases h : name = write.1
  · subst h
    simp [Database.insert]
  · simp [Database.insert, h]

theorem Database.insert_of_ne (db : Database) (now : Nat) {write : String × String} {name : String}
    (h : name ≠ write.1) : db.insert now write name = db name :=
  Function.update_of_ne h _ _

theorem Database.latest_insert_of_ne (db : Database) (now : Nat) {write : String × String}
    {name : String} (h : name ≠ write.1) : (db.insert now write).latest name = db.latest name := by
  simp [latest, db.insert_of_ne now h]

theorem Database.free_insert_of_ne (db : Database) (now now' : Nat) {write : String × String}
    {name : String} (h : name ≠ write.1) : (db.insert now write).Free name now' ↔ db.Free name now' := by
  simp [Free, db.insert_of_ne now h]

theorem Database.insert_of_none {db : Database} (now : Nat) {write : String × String}
    (h : db write.1 = none) : db.insert now write = db := by
  unfold Database.insert
  rw [h, Option.map_none, ← h, Function.update_eq_self]

example : (Database.script 0).latest "Wind_AlarmState" = some "1" := by decide

end SmartWindow
