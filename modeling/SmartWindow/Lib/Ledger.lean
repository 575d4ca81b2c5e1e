/-
The books of a pipeline from a source to a store: what the source has
produced, what has been stored, what is under way between the two, in order,
and how much was lost. Entries are stored from the front of what is under way
and can be lost anywhere in it (`Post`). What is stored and under way is then
always part of what was produced, in its order, and what is missing was lost
(`Balanced`). What has been stored keeps its place in what was produced
(`Positions`), so the last of it never is an older entry than before.
-/
import Mathlib.Data.List.Basic
import Mathlib.Data.List.MinMax
import Mathlib.Logic.Relation

namespace Ledger

variable {α : Type*}

structure Books (α : Type*) where
  produced : List α
  stored : List α
  underway : List α
  lost : Nat

/-- One posting, of any number of entries. -/
inductive Post : Books α → Books α → Prop
  | produce (b : Books α) (as : List α) :
    Post b { b with produced := b.produced ++ as, underway := b.underway ++ as }
  | store (b : Books α) (as rest : List α) : b.underway = as ++ rest →
    Post b { b with stored := b.stored ++ as, underway := rest }
  | lose (b : Books α) (l₁ as l₂ : List α) : b.underway = l₁ ++ (as ++ l₂) →
    Post b { b with underway := l₁ ++ l₂, lost := b.lost + as.length }

/-- Nothing invented, doubled or out of order, and nothing missing but what was lost. -/
structure Balanced (b : Books α) : Prop where
  sublist : (b.stored ++ b.underway).Sublist b.produced
  length : b.stored.length + b.underway.length + b.lost = b.produced.length

/-- **A posting keeps the books balanced.** -/
theorem Balanced.post {b b' : Books α} (h : Balanced b) (hp : Post b b') : Balanced b' := by
  obtain ⟨hsub, hlen⟩ := h
  cases hp with
  | produce as =>
    refine ⟨?_, ?_⟩
    · simpa only [List.append_assoc] using hsub.append_right as
    · simp only [List.length_append]
      omega
  | store as rest hb =>
    refine ⟨?_, ?_⟩
    · simpa only [hb, List.append_assoc] using hsub
    · simp only [hb, List.length_append] at hlen ⊢
      omega
  | lose l₁ as l₂ hb =>
    refine ⟨?_, ?_⟩
    · refine List.Sublist.trans ?_ hsub
      rw [hb]
      exact ((List.sublist_append_right as l₂).append_left l₁).append_left b.stored
    · simp only [hb, List.length_append] at hlen ⊢
      omega

/-- The books with entries that were under way from before. -/
def Books.carry (c : List α) (b : Books α) : Books α := { b with produced := c ++ b.produced }

theorem Post.carry {b b' : Books α} (c : List α) (h : Post b b') : Post (b.carry c) (b'.carry c) := by
  cases h with
  | produce as =>
    simpa only [Books.carry, List.append_assoc] using Post.produce (b.carry c) as
  | store as rest hb => exact .store (b.carry c) as rest hb
  | lose l₁ as l₂ hb => exact .lose (b.carry c) l₁ as l₂ hb

theorem Balanced.carried (c : List α) : Balanced ((⟨[], [], c, 0⟩ : Books α).carry c) :=
  ⟨by simp [Books.carry], by simp [Books.carry]⟩

/-- What is stored is part of what was produced, in its order. -/
theorem Balanced.stored_sublist {b : Books α} (h : Balanced b) : b.stored.Sublist b.produced :=
  (List.sublist_append_left b.stored b.underway).trans h.sublist

/-- **Where nothing was lost and nothing is under way, everything is stored.** -/
theorem Balanced.complete {b : Books α} (h : Balanced b) (hunderway : b.underway = [])
    (hlost : b.lost = 0) : b.stored = b.produced := by
  refine h.stored_sublist.eq_of_length ?_
  have := h.length
  simp only [hunderway, hlost, List.length_nil] at this
  omega

/-! ## Positions -/

/-- Where in what was produced the stored entries and those under way are, in order. -/
structure Positions (b : Books α) (stored underway : List ℕ) : Prop where
  increasing : (stored ++ underway).Pairwise (· < ·)
  stored : stored.map (b.produced[·]?) = b.stored.map some
  underway : underway.map (b.produced[·]?) = b.underway.map some

variable {b b' : Books α} {is js : List ℕ}

theorem Positions.lt_length (h : Positions b is js) : ∀ i ∈ is ++ js, i < b.produced.length := by
  have hsome {ks : List ℕ} {as : List α} (hks : ks.map (b.produced[·]?) = as.map some) :
      ∀ i ∈ ks, i < b.produced.length := by
    intro i hi
    obtain ⟨a, -, ha⟩ := List.mem_map.1 (hks ▸ List.mem_map_of_mem hi)
    exact (List.getElem?_eq_some_iff.1 ha.symm).1
  intro i hi
  exact (List.mem_append.1 hi).elim (hsome h.stored i) (hsome h.underway i)

/-- **A posting leaves the positions of what is stored**, and stores behind them. -/
theorem Positions.post (h : Positions b is js) (hp : Post b b') :
    ∃ new js', Positions b' (is ++ new) js' := by
  obtain ⟨hincreasing, hstored, hunderway⟩ := h
  cases hp with
  | produce as =>
    have hlt := Positions.lt_length ⟨hincreasing, hstored, hunderway⟩
    have hold {ks : List ℕ} (hks : ∀ i ∈ ks, i < b.produced.length) :
        ks.map ((b.produced ++ as)[·]?) = ks.map (b.produced[·]?) :=
      List.map_congr_left fun i hi => List.getElem?_append_left (hks i hi)
    have hnew : (List.range' b.produced.length as.length).map ((b.produced ++ as)[·]?) = as.map some := by
      refine List.ext_getElem (by simp) fun k _ hk => ?_
      have hk' : k < as.length := by simpa using hk
      simp [hk']
    refine ⟨[], js ++ List.range' b.produced.length as.length, ?_, ?_, ?_⟩
    · rw [List.append_nil, ← List.append_assoc, List.pairwise_append]
      refine ⟨hincreasing, List.pairwise_lt_range', fun i hi k hk => ?_⟩
      exact (hlt i hi).trans_le (List.mem_range'_1.1 hk).1
    · rw [List.append_nil, hold fun i hi => hlt i (List.mem_append_left js hi), hstored]
    · rw [List.map_append, hold fun i hi => hlt i (List.mem_append_right is hi), hunderway, hnew,
        List.map_append]
  | store as rest hb =>
    rw [hb, List.map_append] at hunderway
    obtain ⟨js₁, js₂, rfl, h₁, h₂⟩ := List.map_eq_append_iff.1 hunderway
    exact ⟨js₁, js₂, by rwa [List.append_assoc], by rw [List.map_append, List.map_append, hstored, h₁], h₂⟩
  | lose l₁ as l₂ hb =>
    rw [hb, List.map_append, List.map_append] at hunderway
    obtain ⟨js₁, js₂, rfl, h₁, h₂⟩ := List.map_eq_append_iff.1 hunderway
    obtain ⟨lost, js₃, rfl, -, h₃⟩ := List.map_eq_append_iff.1 h₂
    refine ⟨[], js₁ ++ js₃, ?_, ?_, ?_⟩
    · rw [List.append_nil]
      exact hincreasing.sublist (((List.sublist_append_right lost js₃).append_left js₁).append_left is)
    · rw [List.append_nil, hstored]
    · rw [List.map_append, h₁, h₃, List.map_append]

theorem Positions.last (h : Positions b is js) {as : List α} {a : α} (hb : b.stored = as ++ [a]) :
    ∃ i, is.maximum = WithBot.some i ∧ b.produced[i]? = some a := by
  obtain ⟨hincreasing, hstored, -⟩ := h
  rw [hb, List.map_append, List.map_singleton] at hstored
  obtain ⟨is, last, rfl, -, hlast⟩ := List.map_eq_append_iff.1 hstored
  obtain ⟨i, rfl, hi⟩ := List.map_eq_singleton_iff.1 hlast
  have hlt (k : ℕ) (hk : k ∈ is) : k < i :=
    (List.pairwise_append.1 (List.pairwise_append.1 hincreasing).1).2.2 k hk i (by simp)
  refine ⟨i, ?_, hi⟩
  rw [List.maximum_concat, max_eq_right]
  exact List.maximum_le_of_forall_le fun k hk => WithBot.coe_le_coe.2 (hlt k hk).le

end Ledger
