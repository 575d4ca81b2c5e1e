/-
What the handlers' shared transaction makes of a request that fails half way.
The rows of one request are always together, all pending or all committed
(`Apart`); but nothing rolls back, so the rows of a request that raised wait
for the next commit, whoever calls it (`runAtomic_iff`). `Main` begins with a
commit, and so the next visit of the front page is enough.
-/
import SmartWindow.Lib.Trans
import SmartWindow.Web.Model

namespace SmartWindow.Web

/-- Where the rows of a request can be: a committed one is of the script or of a request served, a
pending one of a request that raised, and no request has both. -/
structure State.Apart (s : State) : Prop where
  committed_lt : ∀ row ∈ s.committed, ∀ i, row.request = some i → i < s.served
  pending_raised : ∀ row ∈ s.pending, ∃ i ∈ s.raised, row.request = some i
  raised_lt : ∀ i ∈ s.raised, i < s.served
  apart : ∀ i, (∀ row ∈ s.committed, row.request ≠ some i) ∨ ∀ row ∈ s.pending, row.request ≠ some i

/-- The rows of every request are committed all or not at all, and not at all if it raised. -/
structure State.Atomic (s : State) : Prop where
  all_or_none : ∀ i, (∀ row ∈ s.committed, row.request ≠ some i) ∨
    ∀ row ∈ s.pending, row.request ≠ some i
  raised : ∀ i ∈ s.raised, ∀ row ∈ s.committed, row.request ≠ some i

/-- A request harms no other: with rows pending of one that raised, it does not get to a commit. -/
def Harmless (s : State) (r : Request) : Prop := s.pending ≠ [] → Rejected s r

variable {s : State}

theorem State.start_apart (rows : List (String × String)) : (State.start rows).Apart := by
  refine ⟨fun row hrow i hi => ?_, by simp [State.start], by simp [State.start],
    fun i => .inr (by simp [State.start])⟩
  obtain ⟨r, -, rfl⟩ := List.mem_map.1 hrow
  cases hi

theorem State.start_atomic (rows : List (String × String)) : (State.start rows).Atomic := by
  refine ⟨fun i => .inr ?_, ?_⟩ <;> simp [State.start]

theorem State.Apart.serve (h : s.Apart) (r : Request) : (serve s r).Apart := by
  by_cases hr : Rejected s r
  · obtain ⟨done, hdone, hs⟩ := serve_rejected hr
    rw [hs]
    refine ⟨fun row hrow i hi => Nat.lt_succ_of_lt (h.committed_lt row hrow i hi), fun row hrow => ?_,
      fun i hi => ?_, fun i => ?_⟩
    · rcases List.mem_append.1 hrow with hrow | hrow
      · obtain ⟨i, hi, he⟩ := h.pending_raised row hrow
        exact ⟨i, List.mem_append_left _ hi, he⟩
      · exact ⟨s.served, by simp, hdone row hrow⟩
    · rcases List.mem_append.1 hi with hi | hi
      · exact Nat.lt_succ_of_lt (h.raised_lt i hi)
      · rw [List.mem_singleton.1 hi]
        exact Nat.lt_succ_self _
    · -- The new rows are of a request that has none committed yet.
      by_cases hi : i = s.served
      · left
        intro row hrow he
        exact absurd (h.committed_lt row hrow i he) (by omega)
      · refine (h.apart i).imp id fun hp row hrow => ?_
        rcases List.mem_append.1 hrow with hrow | hrow
        · exact hp row hrow
        · rw [hdone row hrow]
          intro he
          exact hi (Option.some.inj he).symm
  · obtain ⟨ops, -, hs⟩ := serve_accepted hr
    rw [hs]
    refine ⟨fun row hrow i hi => ?_, by simp, fun i hi => Nat.lt_succ_of_lt (h.raised_lt i hi),
      fun i => .inr (by simp)⟩
    rcases List.mem_append.1 hrow with hrow | hrow
    · exact Nat.lt_succ_of_lt (h.committed_lt row hrow i hi)
    · rcases List.mem_append.1 hrow with hrow | hrow
      · obtain ⟨j, hj, he⟩ := h.pending_raised row hrow
        obtain rfl : j = i := Option.some.inj (he.symm.trans hi)
        exact Nat.lt_succ_of_lt (h.raised_lt j hj)
      · obtain rfl : s.served = i := Option.some.inj ((mem_rowsFrom hrow).symm.trans hi)
        exact Nat.lt_succ_self _

/-- One request after an atomic past: only a commit on top of pending rows breaks it. -/
theorem State.Atomic.serve_iff (h : s.Apart) (ha : s.Atomic) (r : Request) :
    (Web.serve s r).Atomic ↔ Harmless s r := by
  have happart := h.serve r
  by_cases hr : Rejected s r
  · obtain ⟨done, hdone, hs⟩ := serve_rejected hr
    refine ⟨fun _ _ => hr, fun _ => ⟨happart.apart, ?_⟩⟩
    rw [hs]
    intro i hi row hrow he
    rcases List.mem_append.1 hi with hi | hi
    · exact ha.raised i hi row hrow he
    · have hlt := h.committed_lt row hrow i he
      rw [List.mem_singleton.1 hi] at hlt
      exact absurd hlt (Nat.lt_irrefl _)
  · obtain ⟨ops, -, hs⟩ := serve_accepted hr
    refine ⟨fun hatomic hne => ?_, fun hharmless => ⟨happart.apart, ?_⟩⟩
    · obtain ⟨row, rest, hpending⟩ := List.exists_cons_of_ne_nil hne
      have hrow : row ∈ s.pending := by simp [hpending]
      obtain ⟨i, hi, he⟩ := h.pending_raised row hrow
      have hraised := hatomic.raised
      rw [hs] at hraised
      exact absurd he (hraised i hi row (List.mem_append_right _ (List.mem_append_left _ hrow)))
    · have hnil : s.pending = [] := by
        by_contra hne
        exact hr (hharmless hne)
      rw [hs, hnil, List.nil_append]
      intro i hi row hrow he
      rcases List.mem_append.1 hrow with hrow | hrow
      · exact ha.raised i hi row hrow he
      · obtain rfl : s.served = i := Option.some.inj ((mem_rowsFrom hrow).symm.trans he)
        exact absurd (h.raised_lt s.served hi) (Nat.lt_irrefl _)

/-! ## Whole runs -/

/-- After every request of the run. -/
def RunAtomic (rows : List (String × String)) (rs : List Request) : Prop :=
  ∀ pre, pre <+: rs → (serveAll (.start rows) pre).Atomic

/-- **When web requests are atomic**: in the runs where, with rows pending of a request that raised,
every request raises too, and in no others. -/
theorem runAtomic_iff (rows : List (String × String)) (rs : List Request) :
    RunAtomic rows rs ↔ ∀ pre r, pre ++ [r] <+: rs → Harmless (serveAll (.start rows) pre) r :=
  Trans.foldl_prefix_iff (State.start_apart rows) (State.start_atomic rows) (fun _ r h => h.serve r)
    (fun _ r h ha => ha.serve_iff h r) rs

/-- The rows of a request stay together in every run. -/
theorem rows_together (rows : List (String × String)) (rs : List Request) (i : Nat) :
    (∀ row ∈ (serveAll (.start rows) rs).committed, row.request ≠ some i) ∨
      ∀ row ∈ (serveAll (.start rows) rs).pending, row.request ≠ some i :=
  (Trans.foldl_invariant State.Apart (State.start_apart rows) (fun _ r h => h.serve r) rs).apart i

/-- A form with no number in its second field, and then the front page: half a form is committed. -/
theorem half_form_committed :
    ¬ RunAtomic []
      [⟨.submit ⟨"20", "abc", "30", "65", "1", "21", "60", "3"⟩,
          fun _ _ v => if v = "abc" then none else some [v]⟩,
        ⟨.main, fun _ _ v => some [v]⟩] := by
  intro h
  have hraised := (h _ (List.prefix_refl _)).raised 0 (by decide)
  exact hraised ⟨some 0, "Temp_MIN", "20"⟩ (by decide) rfl

end SmartWindow.Web
