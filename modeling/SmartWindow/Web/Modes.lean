/-
The three mode values of one pass of `decisionLoop`, read while the web
handlers write. At every moment the tables AutoModus, ManClose and ManOpen
agree with each other (`Modes.Consistent`), but a pass reads them one after
the other, each in a session of its own, and takes what each says by then.
`contradictory_iff` says which requests between the reads make the three
values contradict each other.
-/
import SmartWindow.Lib.Latch
import SmartWindow.Lib.Trans
import SmartWindow.Messages
import SmartWindow.Store.Schema
import SmartWindow.Web.Model

namespace SmartWindow.Web

open Latch

/-! ## The tables -/

/-- The pages that change the mode or command the window. -/
inductive Page
  | auto
  | manu
  | «open»
  | close
  deriving DecidableEq

def Page.endpoint : Page → Endpoint
  | .auto => .auto
  | .manu => .manu
  | .open => .open
  | .close => .close

/-- A request none of whose inserts fails. -/
def Page.request (p : Page) : Request := ⟨p.endpoint, fun _ _ value => some [value]⟩

/-- The rows that database_tables.sql inserts. -/
def scriptRows : List (String × String) :=
  anfangswerte.filterMap fun row =>
    (tables.find? (·.name == row.1)).map fun d => (row.1, d.literal row.2)

def visit (s : State) (ps : List Page) : State := serveAll s (ps.map Page.request)

/-! ## The reads -/

/-- `SELECT MAX(id)`: the IDs of a table count its rows from 1. -/
def maxId (rows : List Row) (table : String) : Nat := (rows.filter (·.table == table)).length

/-- `SELECT Wert … WHERE ID=` -/
def wert (rows : List Row) (table : String) (id : Nat) : Option String :=
  if id = 0 then none else ((rows.filter (·.table == table))[id - 1]?).map (·.value)

/-- The value a session gets that asks for the greatest ID in `s` and for its row in `s'`. -/
def get_latest_value_bool (s s' : State) (table : String) : Option Bool :=
  (wert s'.committed table (maxId s.committed table)).map asBool

/-- The mode reads of a pass, in their order. -/
structure Modes where
  autoMode_bo : Bool
  manClose_bo : Bool
  manOpen_bo : Bool
  deriving DecidableEq

/-- What the mode reads of a pass obtain: the requests `q₀` come before the first read, `q₁` and `q₂`
after the first and the second, and `w₀`, `w₁`, `w₂` between the two queries of each. -/
def modeReads (q₀ w₀ q₁ w₁ q₂ w₂ : List Page) : Option Modes :=
  let s₀ := visit (.start scriptRows) q₀
  let s₁ := visit (visit s₀ w₀) q₁
  let s₂ := visit (visit s₁ w₁) q₂
  do
    let autoMode_bo ← get_latest_value_bool s₀ (visit s₀ w₀) "AutoModus"
    let manClose_bo ← get_latest_value_bool s₁ (visit s₁ w₁) "ManClose"
    let manOpen_bo ← get_latest_value_bool s₂ (visit s₂ w₂) "ManOpen"
    some ⟨autoMode_bo, manClose_bo, manOpen_bo⟩

/-- Both commands at once, or a command beside the automatic mode. -/
def Modes.Contradictory (m : Modes) : Prop :=
  (m.manOpen_bo = true ∧ m.manClose_bo = true) ∨
    (m.autoMode_bo = true ∧ (m.manOpen_bo = true ∨ m.manClose_bo = true))

/-! ## What the pages do -/

def Modes.given (m : Modes) : WinCommand → Bool
  | .Open => m.manOpen_bo
  | .Close => m.manClose_bo

def pageOf : WinCommand → Page
  | .Open => .open
  | .Close => .close

def opposite : WinCommand → WinCommand
  | .Open => .Close
  | .Close => .Open

/-- The three tables after a page: its commands count in the manual mode only. -/
def Modes.after (m : Modes) : Page → Modes
  | .auto => ⟨true, false, false⟩
  | .manu => { m with autoMode_bo := false }
  | .open => if m.autoMode_bo then m else { m with manOpen_bo := true, manClose_bo := false }
  | .close => if m.autoMode_bo then m else { m with manOpen_bo := false, manClose_bo := true }

/-- The modes of the script. -/
def Modes.start : Modes := ⟨true, false, false⟩

/-- The tables at one moment: no command beside the automatic mode, and not both. -/
def Modes.Consistent (m : Modes) : Prop :=
  ∀ c, m.given c = true → m.autoMode_bo = false ∧ m.given (opposite c) = false

theorem Modes.start_consistent : Modes.start.Consistent := by
  intro c hc
  cases c <;> cases hc

theorem Modes.Consistent.after {m : Modes} (h : m.Consistent) (p : Page) : (m.after p).Consistent := by
  intro c
  have ho := h .Open
  have hc := h .Close
  obtain ⟨a, mc, mo⟩ := m
  simp only [given, opposite] at ho hc
  cases c <;> cases p <;> cases a <;> simp_all [Modes.after, given, opposite]

theorem Modes.Consistent.foldl {m : Modes} (h : m.Consistent) (ps : List Page) :
    (ps.foldl Modes.after m).Consistent :=
  Trans.foldl_invariant Modes.Consistent h (fun _ p h => h.after p) ps

theorem Modes.Consistent.not_contradictory {m : Modes} (h : m.Consistent) : ¬ m.Contradictory := by
  intro hm
  rcases hm with ⟨ho, hc⟩ | ⟨ha, ho | hc⟩
  · have := (h .Open ho).2
    rw [show m.given (opposite .Open) = true from hc] at this
    cases this
  · rw [(h .Open ho).1] at ha
    cases ha
  · rw [(h .Close hc).1] at ha
    cases ha

/-- In the automatic mode the tables are as the script left them. -/
theorem Modes.Consistent.eq_start {m : Modes} (h : m.Consistent) (ha : m.autoMode_bo = true) :
    m = .start := by
  have hgiven : ∀ c, m.given c = false := by
    intro c
    by_contra hc
    rw [(h c (by simpa using hc)).1] at ha
    cases ha
  obtain ⟨a, mc, mo⟩ := m
  obtain rfl : mo = false := hgiven .Open
  obtain rfl : mc = false := hgiven .Close
  obtain rfl : a = true := ha
  rfl

/-! ## The pages and the tables -/

theorem latest_append (rows new : List Row) (table : String) :
    latest (rows ++ new) table = (latest new table).or (latest rows table) := by
  rw [latest, latest, latest, List.filter_append, List.getLast?_append]
  cases (new.filter (·.table == table)).getLast? <;> rfl

/-- The row of the greatest ID, in a table that has only grown since, is the latest row of then. -/
theorem wert_maxId {rows rows' : List Row} (h : rows <+: rows') (table : String) :
    wert rows' table (maxId rows table) = latest rows table := by
  obtain ⟨new, hnew⟩ := h
  rw [wert, maxId, ← hnew, List.filter_append, latest]
  generalize hrows : rows.filter (·.table == table) = found
  cases found using List.reverseRecOn with
  | nil => rfl
  | append_singleton found row => simp

theorem get_latest_value_bool_eq {s s' : State} (h : s.committed <+: s'.committed) (table : String) :
    get_latest_value_bool s s' table = (latest s.committed table).map asBool := by
  rw [get_latest_value_bool, wert_maxId h]

/-- Nothing is pending, and the three tables say this. -/
structure Shows (s : State) (m : Modes) : Prop where
  pending : s.pending = []
  auto : (latest s.committed "AutoModus").map asBool = some m.autoMode_bo
  close : (latest s.committed "ManClose").map asBool = some m.manClose_bo
  «open» : (latest s.committed "ManOpen").map asBool = some m.manOpen_bo

theorem shows_start : Shows (.start scriptRows) .start := by
  refine ⟨rfl, ?_, ?_, ?_⟩ <;> decide

/-- What a page inserts, in the given mode. -/
def pageRows (n : Nat) (autoMode_bo : Bool) (p : Page) : List Row :=
  rowsFrom n (fun _ _ value => some [value]) 0 (inserts (handler autoMode_bo p.endpoint))

theorem latest_pageRows (n : Nat) (m : Modes) (p : Page) :
    ((latest (pageRows n m.autoMode_bo p) "AutoModus").map asBool).or (some m.autoMode_bo) =
        some (m.after p).autoMode_bo ∧
      ((latest (pageRows n m.autoMode_bo p) "ManClose").map asBool).or (some m.manClose_bo) =
        some (m.after p).manClose_bo ∧
      ((latest (pageRows n m.autoMode_bo p) "ManOpen").map asBool).or (some m.manOpen_bo) =
        some (m.after p).manOpen_bo := by
  obtain ⟨a, mc, mo⟩ := m
  cases p <;> cases a <;>
    simp [pageRows, latest, rowsFrom, rowsOf, inserts, handler, Page.endpoint, Modes.after, Main]

theorem Shows.serve_eq {s : State} {m : Modes} (h : Shows s m) (p : Page) : serve s p.request =
    ⟨s.committed ++ pageRows s.served m.autoMode_bo p, [], s.served + 1, s.raised⟩ := by
  have hmodus : s.modus = some m.autoMode_bo := by
    rw [State.modus, h.pending, List.append_nil, h.auto]
  have hops : s.ops p.endpoint = some (handler m.autoMode_bo p.endpoint) := by
    cases p with
    | auto => rfl
    | manu => rfl
    | «open» => simp [Page.endpoint, State.ops, hmodus]
    | close => simp [Page.endpoint, State.ops, hmodus]
  have hacc : ¬ Rejected s p.request := by
    intro hr
    obtain ⟨j, w, -, hw⟩ := hr _ hops
    cases hw
  obtain ⟨ops, hops', hs⟩ := serve_accepted hacc
  obtain rfl : handler m.autoMode_bo p.endpoint = ops := Option.some.inj (hops.symm.trans hops')
  rw [hs, h.pending, List.nil_append]
  rfl

/-- The pages keep the tables as `Modes.after` says. -/
theorem Shows.request {s : State} {m : Modes} (h : Shows s m) (p : Page) :
    Shows (serve s p.request) (m.after p) := by
  rw [h.serve_eq p]
  obtain ⟨ha, hc, ho⟩ := latest_pageRows s.served m p
  refine ⟨rfl, ?_, ?_, ?_⟩
  · rw [latest_append, Option.map_or, h.auto, ha]
  · rw [latest_append, Option.map_or, h.close, hc]
  · rw [latest_append, Option.map_or, h.open, ho]

theorem Shows.visit {s : State} {m : Modes} (h : Shows s m) (ps : List Page) :
    Shows (visit s ps) (ps.foldl Modes.after m) ∧ s.committed <+: (Web.visit s ps).committed := by
  induction ps generalizing s m with
  | nil => exact ⟨h, List.prefix_refl _⟩
  | cons p ps ih =>
    obtain ⟨hshows, hrows⟩ := ih (h.request p)
    refine ⟨hshows, List.IsPrefix.trans ?_ hrows⟩
    rw [h.serve_eq p]
    exact List.prefix_append _ _

/-- **At one moment the tables never contradict each other.** -/
theorem tables_agree (ps : List Page) :
    ∃ m, Shows (visit (.start scriptRows) ps) m ∧ ¬ m.Contradictory :=
  ⟨_, (shows_start.visit ps).1, (Modes.start_consistent.foldl ps).not_contradictory⟩

/-! ## What stands -/

/-- The manual mode, after the pages and from the given mode: the last page that changes the mode is
`/manu`. -/
def Manual (autoMode_bo : Bool) (ps : List Page) : Prop :=
  Held (· = .manu) (· = .auto) ps ∨ (autoMode_bo = false ∧ .auto ∉ ps)

/-- A command stands after the pages: one of them gave it in the manual mode, and none after it went
back to the automatic mode or gave the opposite command. -/
def Stands (c : WinCommand) (autoMode_bo : Bool) (ps : List Page) : Prop :=
  HeldAfter (fun pre p => p = pageOf c ∧ Manual autoMode_bo pre)
    (fun p => p = .auto ∨ p = pageOf (opposite c)) ps

theorem not_stands_nil (c : WinCommand) (autoMode_bo : Bool) : ¬ Stands c autoMode_bo [] :=
  not_heldAfter_nil

theorem manual_iff (m : Modes) (ps : List Page) :
    (ps.foldl Modes.after m).autoMode_bo = false ↔ Manual m.autoMode_bo ps := by
  unfold Manual
  induction ps using List.reverseRecOn with
  | nil => simp [not_held_of_forall]
  | append_singleton ps p ih =>
    rw [List.foldl_append, List.foldl_cons, List.foldl_nil, held_snoc]
    generalize ps.foldl Modes.after m = m' at ih ⊢
    cases p with
    | auto => simp [Modes.after]
    | manu => simp [Modes.after]
    | «open» => cases ha : m'.autoMode_bo <;> simp_all [Modes.after]
    | close => cases ha : m'.autoMode_bo <;> simp_all [Modes.after]

theorem Modes.Consistent.given_after {m : Modes} (h : m.Consistent) (c : WinCommand) (p : Page) :
    (m.after p).given c = true ↔ (p = pageOf c ∧ m.autoMode_bo = false) ∨
      (m.given c = true ∧ ¬ (p = .auto ∨ p = pageOf (opposite c))) := by
  have hc := h c
  obtain ⟨a, mc, mo⟩ := m
  cases p <;> cases c <;> cases a <;> simp_all [Modes.after, given, pageOf, opposite]

/-- From tables without the command, it is given exactly when it stands. -/
theorem Modes.Consistent.stands_iff {m : Modes} (h : m.Consistent) {c : WinCommand}
    (hc : m.given c = false) (ps : List Page) :
    (ps.foldl Modes.after m).given c = true ↔ Stands c m.autoMode_bo ps := by
  refine foldl_heldAfter_iff (fun m : Modes => m.given c) hc (fun pre p => ?_) ps
  rw [(h.foldl pre).given_after c p, manual_iff]

/-! ## A pass -/

/-- The requests before the first read and between the reads that tear a pass: `Close` stands at its
read and `Open` is given after it and stands at its own; or the mode is automatic at its read, and a
command is given after that and stands at its read. -/
def Torn (q₀ q₁ q₂ : List Page) : Prop :=
  (Stands .Close true (q₀ ++ q₁) ∧ Stands .Open false q₂) ∨
    (¬ Manual true q₀ ∧ (Stands .Open true (q₁ ++ q₂) ∨ Stands .Close true q₁))

theorem not_torn_nil (q₀ : List Page) : ¬ Torn q₀ [] [] := by
  intro h
  rcases h with ⟨-, h⟩ | ⟨-, h | h⟩
  · exact not_stands_nil _ _ h
  · exact not_stands_nil _ _ h
  · exact not_stands_nil _ _ h

theorem modeReads_eq (q₀ w₀ q₁ w₁ q₂ w₂ : List Page) : modeReads q₀ w₀ q₁ w₁ q₂ w₂ =
    some ⟨(q₀.foldl Modes.after .start).autoMode_bo,
      ((q₀ ++ (w₀ ++ q₁)).foldl Modes.after .start).manClose_bo,
      ((q₀ ++ (w₀ ++ q₁) ++ (w₁ ++ q₂)).foldl Modes.after .start).manOpen_bo⟩ := by
  obtain ⟨h₀, -⟩ := shows_start.visit q₀
  obtain ⟨h₀', hw₀⟩ := h₀.visit w₀
  obtain ⟨h₁, -⟩ := h₀'.visit q₁
  obtain ⟨h₁', hw₁⟩ := h₁.visit w₁
  obtain ⟨h₂, -⟩ := h₁'.visit q₂
  obtain ⟨-, hw₂⟩ := h₂.visit w₂
  simp only [modeReads, get_latest_value_bool_eq hw₀, get_latest_value_bool_eq hw₁,
    get_latest_value_bool_eq hw₂, h₀.auto, h₁.close, h₂.open, List.foldl_append, Option.bind_eq_bind,
    Option.bind_some]

/-- After a close command the tables are in the manual mode without an open command. -/
theorem open_after_close {m : Modes} (h : m.Consistent) (hc : m.manClose_bo = true) (ps : List Page) :
    (ps.foldl Modes.after m).manOpen_bo = true ↔ Stands .Open false ps := by
  obtain ⟨ha, ho⟩ := h .Close hc
  rw [← ha]
  exact h.stands_iff (c := .Open) ho ps

theorem given_after_auto {m : Modes} (h : m.Consistent) (ha : m.autoMode_bo = true) (c : WinCommand)
    (ps : List Page) : (ps.foldl Modes.after m).given c = true ↔ Stands c true ps := by
  rw [h.eq_start ha]
  exact Modes.start_consistent.stands_iff (by cases c <;> rfl) ps

/-- **When a pass sees contradictory commands**: when requests between its reads tear it. -/
theorem contradictory_iff (q₀ w₀ q₁ w₁ q₂ w₂ : List Page) :
    ∃ m, modeReads q₀ w₀ q₁ w₁ q₂ w₂ = some m ∧
      (m.Contradictory ↔ Torn q₀ (w₀ ++ q₁) (w₁ ++ q₂)) := by
  refine ⟨_, modeReads_eq q₀ w₀ q₁ w₁ q₂ w₂, ?_⟩
  generalize w₀ ++ q₁ = r₁
  generalize w₁ ++ q₂ = r₂
  have h₀ : (q₀.foldl Modes.after .start).Consistent := Modes.start_consistent.foldl q₀
  have h₁ : ((q₀ ++ r₁).foldl Modes.after .start).Consistent := Modes.start_consistent.foldl (q₀ ++ r₁)
  have hmanual : (q₀.foldl Modes.after .start).autoMode_bo = false ↔ Manual true q₀ :=
    manual_iff .start q₀
  have hclose : ((q₀ ++ r₁).foldl Modes.after .start).manClose_bo = true ↔ Stands .Close true (q₀ ++ r₁) :=
    given_after_auto Modes.start_consistent rfl .Close (q₀ ++ r₁)
  -- Both commands: the open command is given after the close command was read.
  have hboth (hc : ((q₀ ++ r₁).foldl Modes.after .start).manClose_bo = true) :
      ((q₀ ++ r₁ ++ r₂).foldl Modes.after .start).manOpen_bo = true ↔ Stands .Open false r₂ := by
    rw [List.foldl_append]
    exact open_after_close h₁ hc r₂
  -- A command beside the automatic mode: it is given after the mode was read.
  have hopen (ha : (q₀.foldl Modes.after .start).autoMode_bo = true) :
      ((q₀ ++ r₁ ++ r₂).foldl Modes.after .start).manOpen_bo = true ↔ Stands .Open true (r₁ ++ r₂) := by
    rw [List.append_assoc, List.foldl_append]
    exact given_after_auto h₀ ha .Open (r₁ ++ r₂)
  have hclose' (ha : (q₀.foldl Modes.after .start).autoMode_bo = true) :
      ((q₀ ++ r₁).foldl Modes.after .start).manClose_bo = true ↔ Stands .Close true r₁ := by
    rw [List.foldl_append]
    exact given_after_auto h₀ ha .Close r₁
  unfold Modes.Contradictory Torn
  rw [← hmanual, ← hclose, Bool.not_eq_false]
  refine or_congr ?_ (and_congr_right fun ha => or_congr (hopen ha) (hclose' ha))
  rw [and_comm]
  exact and_congr_right hboth

/-- The mode is automatic when it is read; before the last read the user changes to the manual mode
and opens. -/
theorem torn_pass :
    ∃ m, modeReads [] [] [] [] [.manu, .open] [] = some m ∧ m.Contradictory :=
  ⟨⟨true, false, true⟩, by decide, .inr ⟨rfl, .inl rfl⟩⟩

end SmartWindow.Web
