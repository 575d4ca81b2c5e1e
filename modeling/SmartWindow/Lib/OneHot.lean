/-
One-hot flag machines: a state machine kept as one boolean per state, and
advanced by a sequence of statements `if (src && guard && !dst) { src =
false; dst = true; }` tried one after the other. Nothing in such a program
says that one flag is raised at a time. `fires_hot` says it: from flags
with one flag raised, the sequence computes what a single token moving
from state to state computes (`nexts`), so the flags stay one-hot after
every statement.
-/
import Mathlib.Logic.Function.Basic
import Mathlib.Data.List.Basic

namespace OneHot

variable {α ι : Type*} [DecidableEq α]

/-- The flags with `a` alone raised. -/
def hot (a : α) : α → Bool := fun b => decide (b = a)

/-- Exactly one flag is raised. -/
def Single (f : α → Bool) : Prop := ∃! a, f a = true

@[simp] theorem hot_apply (a b : α) : hot a b = true ↔ b = a := by simp [hot]

@[simp] theorem hot_self (a : α) : hot a a = true := by simp

theorem hot_inj {a b : α} (h : hot a = hot b) : a = b := by
  have hb : hot b a = true := h ▸ hot_self a
  exact (hot_apply b a).1 hb

theorem single_hot (a : α) : Single (hot a) := ⟨a, by simp, fun b hb => by simpa using hb⟩

theorem single_iff {f : α → Bool} : Single f ↔ ∃ a, f = hot a := by
  constructor
  · intro hx
    obtain ⟨a, ha, huniq⟩ := hx
    refine ⟨a, funext fun b => ?_⟩
    by_cases hb : b = a
    · subst hb; rw [ha, hot_self]
    · have hf : f b ≠ true := fun h => hb (huniq b h)
      simp only [Bool.not_eq_true] at hf
      simp [hf, hot, hb]
  · intro hx
    obtain ⟨a, rfl⟩ := hx
    exact single_hot a

/-! ## Statements -/

/-- The statement `if (src && guard && !dst) { src = false; dst = true; }`. -/
structure Move (α ι : Type*) where
  src : α
  dst : α
  guard : ι → Bool

/-- The statement, run on the flags. -/
def Move.fire (m : Move α ι) (i : ι) (f : α → Bool) : α → Bool :=
  if f m.src && m.guard i && !f m.dst then
    Function.update (Function.update f m.src false) m.dst true
  else f

/-- What the statement does to a token. -/
def Move.next (m : Move α ι) (i : ι) (a : α) : α :=
  if a = m.src ∧ m.guard i = true then m.dst else a

theorem Move.fire_hot {m : Move α ι} (hm : m.src ≠ m.dst) (i : ι) (a : α) :
    m.fire i (hot a) = hot (m.next i a) := by
  by_cases ha : a = m.src
  · subst ha
    have hd : hot m.src m.dst = false := by simp [hot, hm.symm]
    cases hg : m.guard i with
    | false => simp [fire, next, hg]
    | true =>
      simp only [fire, next, hg, hot_self, hd, Bool.and_true, Bool.not_false, if_true, and_self]
      funext b
      by_cases hb : b = m.dst
      · simp [hb]
      · by_cases hs : b = m.src
        · simp [hs, hot, hm]
        · simp [hot, hb, hs]
  · have hs : hot a m.src = false := by simp [hot, Ne.symm ha]
    simp [fire, next, hs, ha]

def fires (ms : List (Move α ι)) (i : ι) (f : α → Bool) : α → Bool :=
  ms.foldl (fun f m => m.fire i f) f

def nexts (ms : List (Move α ι)) (i : ι) (a : α) : α :=
  ms.foldl (fun a m => m.next i a) a

@[simp] theorem nexts_nil (i : ι) (a : α) : nexts [] i a = a := rfl

@[simp] theorem nexts_cons (m : Move α ι) (ms : List (Move α ι)) (i : ι) (a : α) :
    nexts (m :: ms) i a = nexts ms i (m.next i a) := rfl

theorem nexts_append (ms ns : List (Move α ι)) (i : ι) (a : α) :
    nexts (ms ++ ns) i a = nexts ns i (nexts ms i a) := by
  simp [nexts, List.foldl_append]

/-- **One flag is one token.** No statement of the sequence may lead from a
state to itself. -/
theorem fires_hot {ms : List (Move α ι)} (hms : ∀ m ∈ ms, m.src ≠ m.dst) (i : ι) (a : α) :
    fires ms i (hot a) = hot (nexts ms i a) := by
  induction ms generalizing a with
  | nil => rfl
  | cons m ms ih =>
    simp only [List.mem_cons, forall_eq_or_imp] at hms
    simp only [fires, List.foldl_cons, m.fire_hot hms.1, nexts_cons]
    exact ih hms.2 _

theorem fires_single {ms : List (Move α ι)} (hms : ∀ m ∈ ms, m.src ≠ m.dst) (i : ι)
    {f : α → Bool} (hf : Single f) : Single (fires ms i f) := by
  obtain ⟨a, rfl⟩ := single_iff.1 hf
  rw [fires_hot hms]
  exact single_hot _

/-! ## Tokens on their way -/

theorem nexts_of_forall {ms : List (Move α ι)} {i : ι} {a : α}
    (h : ∀ m ∈ ms, m.src = a → m.guard i = false) : nexts ms i a = a := by
  induction ms with
  | nil => rfl
  | cons m ms ih =>
    have hm : m.next i a = a := by
      unfold Move.next
      split
      · next hc => simp [h m (by simp) hc.1.symm] at hc
      · rfl
    rw [nexts_cons, hm]
    exact ih fun m' hm' => h m' (by simp [hm'])

/-- What every statement whose guard holds carries from its source to its target, the sequence
keeps. -/
theorem nexts_invariant {ms : List (Move α ι)} {i : ι} (P : α → Prop)
    (hms : ∀ m ∈ ms, m.guard i = true → P m.src → P m.dst) {a : α} (ha : P a) :
    P (nexts ms i a) := by
  induction ms generalizing a with
  | nil => exact ha
  | cons m ms ih =>
    have hm : P (m.next i a) := by
      unfold Move.next
      split
      · next h => exact hms m (by simp) h.2 (h.1 ▸ ha)
      · exact ha
    exact ih (fun m' hm' => hms m' (by simp [hm'])) hm

/-- The states a token is in after each statement. -/
def visits : List (Move α ι) → ι → α → List α
  | [], _, _ => []
  | m :: ms, i, a => m.next i a :: visits ms i (m.next i a)

theorem visits_append (ms ns : List (Move α ι)) (i : ι) (a : α) :
    visits (ms ++ ns) i a = visits ms i a ++ visits ns i (nexts ms i a) := by
  induction ms generalizing a with
  | nil => rfl
  | cons m ms ih => simp [visits, ih]

theorem mem_visits {ms : List (Move α ι)} {i : ι} {a b : α} :
    b ∈ visits ms i a ↔ ∃ k, k < ms.length ∧ nexts (ms.take (k + 1)) i a = b := by
  induction ms generalizing a with
  | nil => simp [visits]
  | cons m ms ih =>
    simp only [visits, List.mem_cons, ih, List.length_cons, List.take_succ_cons, nexts_cons]
    constructor
    · intro hx
      rcases hx with rfl | ⟨k, hk, hb⟩
      · exact ⟨0, by omega, by simp⟩
      · exact ⟨k + 1, by omega, hb⟩
    · intro hx
      obtain ⟨_ | k, hk, hb⟩ := hx
      · left; simpa using hb.symm
      · exact .inr ⟨k, by omega, hb⟩

theorem entered_of_mem_visits {ms : List (Move α ι)} {i : ι} {a b : α} (hb : b ∈ visits ms i a)
    (hne : b ≠ a) : ∃ m ∈ ms, m.dst = b ∧ m.guard i = true := by
  induction ms generalizing a with
  | nil => simp [visits] at hb
  | cons m ms ih =>
    simp only [visits, List.mem_cons] at hb
    by_cases hm : b = m.next i a
    · refine ⟨m, by simp, ?_⟩
      unfold Move.next at hm
      split at hm
      · next hc => exact ⟨hm.symm, hc.2⟩
      · exact absurd hm hne
    · obtain ⟨m', hm', hd⟩ := ih (hb.resolve_left hm) hm
      exact ⟨m', by simp [hm'], hd⟩

/-- A state no statement leads into is visited only by a token that starts in it. -/
theorem eq_of_mem_visits {ms : List (Move α ι)} {i : ι} {a b : α} (hms : ∀ m ∈ ms, m.dst ≠ b)
    (hb : b ∈ visits ms i a) : b = a := by
  by_contra hne
  obtain ⟨m, hm, hd, -⟩ := entered_of_mem_visits hb hne
  exact hms m hm hd

theorem nexts_mem_visits {m : Move α ι} {ms : List (Move α ι)} (i : ι) (a : α) :
    nexts (m :: ms) i a ∈ visits (m :: ms) i a := by
  induction ms generalizing m a with
  | nil => simp [visits]
  | cons m' ms ih => exact List.mem_cons_of_mem _ (ih (m.next i a))

theorem eq_of_nexts {ms : List (Move α ι)} {i : ι} {a b : α} (hms : ∀ m ∈ ms, m.dst ≠ b)
    (hb : nexts ms i a = b) : b = a := by
  cases ms with
  | nil => exact hb.symm
  | cons m ms => exact eq_of_mem_visits hms (hb ▸ nexts_mem_visits i a)

end OneHot
