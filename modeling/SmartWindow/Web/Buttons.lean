/-
From the buttons of the home page to the window. The pages write the tables of
the modes, and every pass reads them in three sessions, with more pages coming
in between. A command that stands when a pass begins, and that no page of the
pass revokes, is the one that its three reads obtain (`byHand_of_reads`). So
the last button obeyed is what the window of the whole system does
(`button_moves_window`).
-/
import SmartWindow.System.Rounds
import SmartWindow.Web.Modes

namespace SmartWindow.Web

/-- The pages that come before the first mode read of a pass, between its three reads and between the two
queries of each. -/
structure PassPages where
  q₀ : List Page
  w₀ : List Page
  q₁ : List Page
  w₁ : List Page
  q₂ : List Page
  w₂ : List Page

def PassPages.reads (p : PassPages) : Option Modes := modeReads p.q₀ p.w₀ p.q₁ p.w₁ p.q₂ p.w₂

/-- The mode values among the readings. -/
def modesOf (r : Readings) : Modes := ⟨r.autoMode_bo, r.manClose_bo, r.manOpen_bo⟩

/-- A page that takes a command back: it goes to the automatic mode or gives the opposite command. -/
def Revokes (c : WinCommand) (p : Page) : Prop := p = .auto ∨ p = pageOf (opposite c)

instance (c : WinCommand) (p : Page) : Decidable (Revokes c p) := inferInstanceAs (Decidable (_ ∨ _))

/-- The command stands when the pass begins, and no page takes it back until it has read it. -/
structure PassPages.Keeps (p : PassPages) (c : WinCommand) : Prop where
  stands : Stands c true p.q₀
  kept : ∀ page ∈ p.w₀ ++ p.q₁ ++ (p.w₁ ++ p.q₂), ¬ Revokes c page

theorem Modes.Consistent.eq_of_given {m : Modes} (h : m.Consistent) {c : WinCommand}
    (hc : m.given c = true) : m = ⟨false, !c.status, c.status⟩ := by
  obtain ⟨ha, ho⟩ := h c hc
  obtain ⟨a, mc, mo⟩ := m
  cases c <;> simp_all [given, opposite, WinCommand.status]

theorem Modes.Consistent.given_foldl {m : Modes} (h : m.Consistent) {c : WinCommand}
    (hc : m.given c = true) {ps : List Page} (hps : ∀ p ∈ ps, ¬ Revokes c p) :
    (ps.foldl Modes.after m).given c = true := by
  induction ps generalizing m with
  | nil => exact hc
  | cons p ps ih =>
    refine ih (h.after p) ?_ fun p' hp' => hps p' (List.mem_cons_of_mem p hp')
    exact (h.given_after c p).2 (.inr ⟨hc, hps p List.mem_cons_self⟩)

theorem byHand_of_reads {c : WinCommand} {p : PassPages} (hkeeps : p.Keeps c) {r : Readings}
    (hreads : p.reads = some (modesOf r)) : ByHand c r := by
  have hstart : Modes.start.given c = false := by cases c <;> rfl
  have hgiven : (p.q₀.foldl Modes.after .start).given c = true :=
    (Modes.start_consistent.stands_iff hstart p.q₀).2 hkeeps.stands
  -- at each of the three moments the tables say the command and nothing else
  have hmodes (ps : List Page) (hps : ∀ p ∈ ps, ¬ Revokes c p) :
      (p.q₀ ++ ps).foldl Modes.after .start = ⟨false, !c.status, c.status⟩ := by
    rw [List.foldl_append]
    have hconsistent := Modes.start_consistent.foldl p.q₀
    exact (hconsistent.foldl ps).eq_of_given (hconsistent.given_foldl hgiven hps)
  have h₀ := hmodes [] (by simp)
  have h₁ := hmodes (p.w₀ ++ p.q₁) fun page hpage => hkeeps.kept page (List.mem_append_left _ hpage)
  have h₂ := hmodes (p.w₀ ++ p.q₁ ++ (p.w₁ ++ p.q₂)) hkeeps.kept
  rw [List.append_nil] at h₀
  rw [PassPages.reads, modeReads_eq, List.append_assoc p.q₀, h₀, h₁, h₂, Option.some_inj] at hreads
  obtain ⟨ha, hc, ho⟩ := Modes.mk.inj hreads
  exact ⟨ha.symm, ho.symm, hc.symm⟩

variable {printF : Int → Nat → Bytes}

/-- **A button of the home page moves the window.** In rounds whose passes read the tables of the modes while
pages come in: if a command given by a button in the manual mode stands at the beginning of every pass and
is not taken back during one, then after eight rounds the window is as it says and rests. To open, all
alarms have to be selected. -/
theorem button_moves_window {rs : Nat → Readings} {x : Nat → LoopState × System} (h : Rounds printF rs x)
    (pages : Nat → PassPages) (hreads : ∀ n, (pages n).reads = some (modesOf (rs n))) {c : WinCommand}
    (hkeeps : ∀ n, (pages n).Keeps c)
    (hp : c = .Open → ∀ n, (rs n).priority = Family.all.priority) {n : Nat} (hn : 8 ≤ n) :
    (x n).2.node.isOpen = c.status ∧ (x n).2.node.window.b_windowIsDriving = false := by
  have hhand (n : Nat) : ByHand c (rs n) := byHand_of_reads (hkeeps n) (hreads n)
  obtain ⟨q, a, hs, hfits⟩ := (h.ready 0).fits
  rw [← (h.round 0).reads] at hfits
  have hwin : (rs n).win_open_bo = c.status := by
    cases c with
    | Open => exact opened_by_hand hs hfits h.obeys hhand (hp rfl) hn
    | Close => exact closed_by_hand hs hfits h.obeys hhand (by omega)
  obtain ⟨k, rfl⟩ : ∃ k, n = k + 1 := ⟨n - 1, by omega⟩
  obtain ⟨hopen, hrest⟩ := h.window k
  exact ⟨hopen.trans hwin, hrest⟩

/-- The user changes to the manual mode and opens, and presses the button again during each pass. -/
theorem button_opens : ∃ (rs : Nat → Readings) (x : Nat → LoopState × System),
    (∀ n, modeReads [.manu, .open] [] [.open] [] [] [.manu] = some (modesOf (rs n))) ∧
    (x 8).2.node.isOpen = true ∧ (x 8).2.node.window.b_windowIsDriving = false := by
  obtain ⟨rs, x, hrounds, hrs⟩ := exists_first_rounds fun _ =>
    { firstRows with autoMode_bo := false, manOpen_bo := true }
  have hreads (n : Nat) : modeReads [.manu, .open] [] [.open] [] [] [.manu] = some (modesOf (rs n)) := by
    have hmodes : modesOf (rs n) = ⟨false, false, true⟩ := by
      rw [hrs n]
      rfl
    rw [hmodes]
    decide
  refine ⟨rs, x, hreads, button_moves_window (c := .Open) hrounds
    (fun _ => ⟨[.manu, .open], [], [.open], [], [], [.manu]⟩) hreads (fun _ => ⟨?_, ?_⟩)
    (fun _ n => by rw [hrs n]; rfl) le_rfl⟩
  · exact (Modes.start_consistent.stands_iff (c := .Open) rfl [.manu, .open]).1 rfl
  · decide

end SmartWindow.Web
