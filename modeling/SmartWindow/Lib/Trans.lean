/-
Runs of transition systems: what holds in every state a run reaches
(`Run.invariant`, `reach_invariant`), what every run is bound to reach
(`Inevitable`), when the iterates of a function settle (`Settles`), and what
holds all along a fold (`foldl_prefix_iff`).
-/
import Mathlib.Logic.Relation
import Mathlib.Data.List.Induction
import Mathlib.Dynamics.PeriodicPts.Lemmas

namespace Trans

variable {σ ε β : Type*}

/-! ## Labelled runs -/

/-- A run from `s₀`, with the labels of its steps in order. A step carries a
list of labels: what it does at once. -/
inductive Run (step : σ → List ε → σ → Prop) (s₀ : σ) : List ε → σ → Prop
  | refl : Run step s₀ [] s₀
  | snoc {tr s es s'} : Run step s₀ tr s → step s es s' → Run step s₀ (tr ++ es) s'

theorem Run.one {step : σ → List ε → σ → Prop} {s es s'} (h : step s es s') : Run step s es s' := by
  simpa using Run.snoc .refl h

theorem Run.trans {step : σ → List ε → σ → Prop} {s₀ s₁ s₂ tr₁ tr₂} (h₁ : Run step s₀ tr₁ s₁)
    (h₂ : Run step s₁ tr₂ s₂) : Run step s₀ (tr₁ ++ tr₂) s₂ := by
  induction h₂ with
  | refl => simpa using h₁
  | snoc _ hs ih => rw [← List.append_assoc]; exact .snoc ih hs

theorem Run.mono {step step' : σ → List ε → σ → Prop} {s₀ : σ}
    (hstep : ∀ s es s', step s es s' → step' s es s') {tr s} (h : Run step s₀ tr s) :
    Run step' s₀ tr s := by
  induction h with
  | refl => exact .refl
  | snoc _ hs ih => exact .snoc ih (hstep _ _ _ hs)

theorem Run.map {τ φ : Type*} {step : σ → List ε → σ → Prop} {step' : τ → List φ → τ → Prop} {s₀ : σ}
    (f : σ → τ) (g : ε → φ) (hstep : ∀ s es s', step s es s' → step' (f s) (es.map g) (f s')) {tr s}
    (h : Run step s₀ tr s) : Run step' (f s₀) (tr.map g) (f s) := by
  induction h with
  | refl => exact .refl
  | snoc _ hs ih =>
    rw [List.map_append]
    exact .snoc ih (hstep _ _ _ hs)

/-- What holds at the start and is kept by every step holds after every run. -/
theorem Run.invariant {step : σ → List ε → σ → Prop} {s₀ : σ} (I : List ε → σ → Prop)
    (h₀ : I [] s₀) (hstep : ∀ tr s es s', I tr s → step s es s' → I (tr ++ es) s') {tr s}
    (h : Run step s₀ tr s) : I tr s := by
  induction h with
  | refl => exact h₀
  | snoc _ hs ih => exact hstep _ _ _ _ ih hs

theorem reach_invariant {step : σ → σ → Prop} {s₀ : σ} (I : σ → Prop) (h₀ : I s₀)
    (hstep : ∀ s s', I s → step s s' → I s') {s} (h : Relation.ReflTransGen step s₀ s) : I s := by
  induction h with
  | refl => exact h₀
  | tail _ hs ih => exact hstep _ _ ih hs

/-! ## What every run reaches -/

/-- Every run of steps from a state reaches `P`, and is not stuck before. -/
inductive Inevitable (step : σ → σ → Prop) (P : σ → Prop) : σ → Prop
  | now {s} : P s → Inevitable step P s
  | later {s} : (∃ s', step s s') → (∀ s', step s s' → Inevitable step P s') →
      Inevitable step P s

variable {step : σ → σ → Prop} {P : σ → Prop}

theorem Inevitable.reach {s} (h : Inevitable step P s) :
    ∃ s', Relation.ReflTransGen step s s' ∧ P s' := by
  induction h with
  | now hp => exact ⟨_, .refl, hp⟩
  | later hex _ ih =>
    obtain ⟨s', hs'⟩ := hex
    obtain ⟨t, ht, hp⟩ := ih s' hs'
    exact ⟨t, .head hs' ht, hp⟩

theorem Inevitable.mono {Q : σ → Prop} {s} (h : Inevitable step P s) (hPQ : ∀ s, P s → Q s) :
    Inevitable step Q s := by
  induction h with
  | now hp => exact .now (hPQ _ hp)
  | later hex _ ih => exact .later hex ih

/-- A rank that every step away from `P` lowers, under an invariant that
keeps a step possible there. -/
theorem Inevitable.of_rank (I : σ → Prop) (rank : σ → Nat)
    (hex : ∀ s, I s → ¬ P s → ∃ s', step s s')
    (hdec : ∀ s s', I s → ¬ P s → step s s' → I s' ∧ rank s' < rank s) {s} (hs : I s) :
    Inevitable step P s := by
  induction hr : rank s using Nat.strong_induction_on generalizing s with
  | _ r ih =>
    by_cases hp : P s
    · exact .now hp
    · refine .later (hex s hs hp) fun s' hs' => ?_
      obtain ⟨hI, hlt⟩ := hdec s s' hs hp hs'
      exact ih (rank s') (by omega) hI rfl

/-! ## Iterates that settle -/

/-- From some point on, what is observed of the iterates never changes. -/
def Settles (f : σ → σ) (obs : σ → β) (s : σ) : Prop :=
  ∃ n, ∀ m, n ≤ m → obs (f^[m] s) = obs (f^[n] s)

theorem Settles.of_isFixedPt {f : σ → σ} {obs : σ → β} {s : σ} (n : Nat)
    (h : Function.IsFixedPt f (f^[n] s)) : Settles f obs s := by
  refine ⟨n, fun m hm => ?_⟩
  obtain ⟨k, rfl⟩ : ∃ k, m = k + n := ⟨m - n, by omega⟩
  rw [Function.iterate_add_apply, (h.iterate k).eq]

/-- A cycle the iterates enter, on which the observation changes. -/
theorem not_settles_of_cycle {f : σ → σ} {obs : σ → β} {s : σ} {n p k : Nat} (hp : 0 < p)
    (hper : Function.IsPeriodicPt f p (f^[n] s)) (hk : obs (f^[k] (f^[n] s)) ≠ obs (f^[n] s)) :
    ¬ Settles f obs s := by
  intro hx
  obtain ⟨N, hN⟩ := hx
  -- Far enough along the cycle, both observations equal the one at `N`.
  have hcyc : f^[p * N] (f^[n] s) = f^[n] s := hper.mul_const N
  have hle : N ≤ p * N := Nat.le_mul_of_pos_left N hp
  have h₁ : obs (f^[n] s) = obs (f^[N] s) := by
    rw [← hN (p * N + n) (by omega), Function.iterate_add_apply, hcyc]
  have h₂ : obs (f^[k] (f^[n] s)) = obs (f^[N] s) := by
    rw [← hN (k + (p * N + n)) (by omega), Function.iterate_add_apply f k,
      Function.iterate_add_apply f (p * N), hcyc]
  exact hk (h₂.trans h₁.symm)

/-! ## Folds -/

variable {α : Type*} {f : σ → α → σ} {s : σ}

theorem foldl_invariant (I : σ → Prop) (h₀ : I s) (hstep : ∀ s a, I s → I (f s a)) (xs : List α) :
    I (xs.foldl f s) := by
  induction xs generalizing s with
  | nil => exact h₀
  | cons a xs ih => exact ih (hstep s a h₀)

/-- If, under an invariant, a step keeps `Good` exactly when it is `Fine`, then `Good` holds all along a
fold exactly when every step of it is. -/
theorem foldl_prefix_iff {I Good : σ → Prop} {Fine : σ → α → Prop} (h₀ : I s) (hgood : Good s)
    (hstep : ∀ s a, I s → I (f s a))
    (hiff : ∀ s a, I s → Good s → (Good (f s a) ↔ Fine s a)) (xs : List α) :
    (∀ pre, pre <+: xs → Good (pre.foldl f s)) ↔
      ∀ pre a, pre ++ [a] <+: xs → Fine (pre.foldl f s) a := by
  refine ⟨fun h pre a hpre => ?_, fun h pre hpre => ?_⟩
  · have hbefore := h pre ((List.prefix_append pre [a]).trans hpre)
    have hafter := h (pre ++ [a]) hpre
    rw [List.foldl_append] at hafter
    exact (hiff _ a (foldl_invariant I h₀ hstep pre) hbefore).1 hafter
  · induction pre using List.reverseRecOn with
    | nil => exact hgood
    | append_singleton pre a ih =>
      have hbefore := ih ((List.prefix_append pre [a]).trans hpre)
      rw [List.foldl_append]
      exact (hiff _ a (foldl_invariant I h₀ hstep pre) hbefore).2 (h pre a hpre)

end Trans
