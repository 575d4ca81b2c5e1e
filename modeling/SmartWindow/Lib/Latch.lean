/-
Latches: a bit of a state that some inputs set, some clear and the others
leave alone. `Held` says what the bit is in terms of the whole history, and
`foldl_eq_true_iff` that running over the history computes it. Where what
came before decides whether an input sets the bit, it is `HeldAfter` and
`foldl_heldAfter_iff`.
-/
import Mathlib.Data.List.Induction

namespace Latch

variable {α : Type*} {set reset : α → Prop}

/-- Some input has set the latch, and no later one cleared it. -/
def Held (set reset : α → Prop) (xs : List α) : Prop :=
  ∃ pre x post, xs = pre ++ x :: post ∧ set x ∧ ∀ y ∈ post, ¬ reset y

/-- The same where an input sets the latch only after certain histories. -/
def HeldAfter (setAfter : List α → α → Prop) (reset : α → Prop) (xs : List α) : Prop :=
  ∃ pre x post, xs = pre ++ x :: post ∧ setAfter pre x ∧ ∀ y ∈ post, ¬ reset y

section

variable {setAfter : List α → α → Prop}

theorem not_heldAfter_nil : ¬ HeldAfter setAfter reset [] := by
  intro h
  obtain ⟨pre, x, post, he, -, -⟩ := h
  simp at he

/-- The last input decides, unless it leaves the latch alone. -/
theorem heldAfter_snoc (xs : List α) (x : α) :
    HeldAfter setAfter reset (xs ++ [x]) ↔
      setAfter xs x ∨ (HeldAfter setAfter reset xs ∧ ¬ reset x) := by
  refine ⟨fun h => ?_, fun h => ?_⟩
  · obtain ⟨pre, y, post, he, hy, hpost⟩ := h
    rcases List.eq_nil_or_concat post with rfl | ⟨post, z, rfl⟩
    · have he' : xs ++ [x] = pre ++ [y] := he
      obtain ⟨rfl, rfl⟩ := List.append_inj' he' rfl |>.imp id List.singleton_inj.1
      exact .inl hy
    · have he' : xs ++ [x] = (pre ++ y :: post) ++ [z] := by simpa using he
      obtain ⟨rfl, rfl⟩ := List.append_inj' he' rfl |>.imp id List.singleton_inj.1
      exact .inr ⟨⟨pre, y, post, rfl, hy, fun w hw => hpost w (by simp [hw])⟩,
        hpost x (by simp)⟩
  · rcases h with hx | ⟨⟨pre, y, post, rfl, hy, hpost⟩, hx⟩
    · exact ⟨xs, x, [], rfl, hx, by simp⟩
    · refine ⟨pre, y, post ++ [x], by simp, hy, fun z hz => ?_⟩
      simp only [List.mem_append, List.mem_singleton] at hz
      rcases hz with hz | rfl
      · exact hpost z hz
      · exact hx

end

/-- `Held` is the case in which the history does not matter. -/
theorem held_iff (xs : List α) : Held set reset xs ↔ HeldAfter (fun _ => set) reset xs := Iff.rfl

theorem held_snoc (xs : List α) (x : α) :
    Held set reset (xs ++ [x]) ↔ set x ∨ (Held set reset xs ∧ ¬ reset x) := by
  rw [held_iff, held_iff]
  exact heldAfter_snoc xs x

theorem not_held_of_forall {xs : List α} (h : ∀ x ∈ xs, ¬ set x) : ¬ Held set reset xs := by
  intro hh
  obtain ⟨pre, x, post, rfl, hx, -⟩ := hh
  exact h x (by simp) hx

theorem held_of_last {xs : List α} {x : α} (hx : set x) : Held set reset (xs ++ [x]) :=
  (held_snoc xs x).2 (.inl hx)

variable {σ : Type*} {step : σ → α → σ} {s₀ : σ}

/-- A bit of a state that is off at first, and on after an input if and only if the input sets it after
what came before, or it was on and the input does not clear it. -/
theorem foldl_heldAfter_iff {setAfter : List α → α → Prop} (bit : σ → Bool) (h₀ : bit s₀ = false)
    (hstep : ∀ pre x, bit (step (pre.foldl step s₀) x) = true ↔
      setAfter pre x ∨ (bit (pre.foldl step s₀) = true ∧ ¬ reset x)) (xs : List α) :
    bit (xs.foldl step s₀) = true ↔ HeldAfter setAfter reset xs := by
  induction xs using List.reverseRecOn with
  | nil => simpa [h₀] using not_heldAfter_nil
  | append_singleton xs x ih =>
    rw [List.foldl_append, List.foldl_cons, List.foldl_nil, hstep, ih, heldAfter_snoc]

/-- **A latch computes `Held`**: a bit of a state that is off at first, and on after an input if and
only if the input sets it, or it was on and the input does not clear it. -/
theorem foldl_eq_true_iff (bit : σ → Bool) (h₀ : bit s₀ = false)
    (hstep : ∀ s x, bit (step s x) = true ↔ set x ∨ (bit s = true ∧ ¬ reset x)) (xs : List α) :
    bit (xs.foldl step s₀) = true ↔ Held set reset xs := by
  rw [held_iff]
  exact foldl_heldAfter_iff bit h₀ (fun pre => hstep (pre.foldl step s₀)) xs

end Latch
