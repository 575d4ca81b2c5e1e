/-
A pipe of values: what the places of a system hold of one quantity, listed
from the place that learns of a change last to the place where changes
enter. First-in-first-out channels that may lose any message, a place that
copies the value before it, and a place that drops an old value all act on
such a list in two ways only: an entry vanishes, or an entry is doubled
(`Flow`). A pipe in which `d` stays once it appears (`Settling d`) keeps
that shape under both, and under a further `d` entering at the end.
-/
import Mathlib.Logic.Relation
import Mathlib.Data.List.Basic

namespace Pipe

variable {α : Type*}

/-- One entry vanishes, or one entry is doubled in place. -/
inductive Flow : List α → List α → Prop
  | lose (l₁ : List α) (a : α) (l₂ : List α) : Flow (l₁ ++ a :: l₂) (l₁ ++ l₂)
  | dup (l₁ : List α) (a : α) (l₂ : List α) : Flow (l₁ ++ a :: l₂) (l₁ ++ a :: a :: l₂)

/-- Any number of them. -/
abbrev Flows : List α → List α → Prop := Relation.ReflTransGen Flow

theorem Flow.mem {l l' : List α} (h : Flow l l') {b : α} (hb : b ∈ l') : b ∈ l := by
  cases h with
  | lose l₁ a l₂ =>
    simp only [List.mem_append, List.mem_cons] at hb ⊢
    rcases hb with hb | hb
    · exact .inl hb
    · exact .inr (.inr hb)
  | dup l₁ a l₂ => simpa using hb

theorem Flows.mem {l l' : List α} (h : Flows l l') {b : α} (hb : b ∈ l') : b ∈ l := by
  induction h with
  | refl => exact hb
  | tail _ hs ih => exact ih (hs.mem hb)

theorem Flow.append {l l' : List α} (h : Flow l l') (u v : List α) :
    Flow (u ++ l ++ v) (u ++ l' ++ v) := by
  cases h with
  | lose l₁ a l₂ => simpa using Flow.lose (u ++ l₁) a (l₂ ++ v)
  | dup l₁ a l₂ => simpa using Flow.dup (u ++ l₁) a (l₂ ++ v)

theorem Flows.append {l l' : List α} (h : Flows l l') (u v : List α) :
    Flows (u ++ l ++ v) (u ++ l' ++ v) :=
  h.lift (fun l => u ++ l ++ v) fun _ _ hs => hs.append u v

theorem Flows.drop (u l : List α) : Flows (u ++ l) l := by
  induction u with
  | nil => exact .refl
  | cons a u ih => exact .head (.lose [] a (u ++ l)) ih

theorem Flows.lose_message {β : Type*} (f : β → Option α) (l₁ : List β) (m : β) (l₂ : List β) :
    Flows ((l₁ ++ m :: l₂).filterMap f) ((l₁ ++ l₂).filterMap f) := by
  rw [List.filterMap_append, List.filterMap_append, List.filterMap_cons]
  cases f m with
  | none => exact .refl
  | some a => exact .single (.lose _ a _)

theorem Flows.tail_of_cons (a : α) (l : List α) : Flows (a :: l) l := .single (.lose [] a l)

theorem Flows.follow (l₁ : List α) (a b : α) (l₂ : List α) :
    Flows (l₁ ++ a :: b :: l₂) (l₁ ++ b :: b :: l₂) :=
  .tail (.single (.lose l₁ a (b :: l₂))) (.dup l₁ b l₂)

/-! ## Pipes that settle -/

/-- Once `d` appears, every later entry is `d`. -/
def Settling (d : α) (l : List α) : Prop := l.Pairwise fun a b => a = d → b = d

/-- Every entry is `d`. -/
def Settled (d : α) (l : List α) : Prop := ∀ a ∈ l, a = d

theorem Settling.flow {d : α} {l l' : List α} (hl : Settling d l) (h : Flow l l') : Settling d l' := by
  cases h with
  | lose l₁ a l₂ => exact hl.sublist (List.Sublist.append_left (List.sublist_cons_self a l₂) l₁)
  | dup l₁ a l₂ =>
    simp only [Settling, List.pairwise_append, List.pairwise_cons, List.mem_cons,
      forall_eq_or_imp] at hl ⊢
    obtain ⟨h₁, ⟨ha, h₂⟩, hx⟩ := hl
    exact ⟨h₁, ⟨⟨fun h => h, ha⟩, ha, h₂⟩, fun x hm => ⟨(hx x hm).1, (hx x hm).1, (hx x hm).2⟩⟩

theorem Settling.flows {d : α} {l l' : List α} (hl : Settling d l) (h : Flows l l') :
    Settling d l' := by
  induction h with
  | refl => exact hl
  | tail _ hs ih => exact ih.flow hs

theorem Settled.flows {d : α} {l l' : List α} (hl : Settled d l) (h : Flows l l') : Settled d l' :=
  fun a ha => hl a (h.mem ha)

theorem Settling.snoc {d : α} {l : List α} (hl : Settling d l) : Settling d (l ++ [d]) := by
  simp only [Settling, List.pairwise_append, List.pairwise_cons, List.mem_singleton]
  exact ⟨hl, ⟨by simp, .nil⟩, fun _ _ b hb _ => hb⟩

theorem Settling.append_left {d : α} {u l : List α} (hu : ∀ a ∈ u, a ≠ d) (hl : Settling d l) :
    Settling d (u ++ l) :=
  List.pairwise_append.2 ⟨List.pairwise_of_forall_mem_list fun a ha _ _ h => absurd h (hu a ha), hl,
    fun a ha _ _ h => absurd h (hu a ha)⟩

theorem Settling.append_right {d : α} {l v : List α} (hl : Settling d l) (hv : Settled d v) :
    Settling d (l ++ v) :=
  List.pairwise_append.2 ⟨hl, List.pairwise_of_forall_mem_list fun _ _ b hb _ => hv b hb,
    fun _ _ b hb _ => hv b hb⟩

theorem Settled.append {d : α} {l v : List α} (hl : Settled d l) (hv : Settled d v) :
    Settled d (l ++ v) := by
  intro a ha
  simp only [List.mem_append] at ha
  rcases ha with ha | ha
  · exact hl a ha
  · exact hv a ha

theorem Settled.settling {d : α} {l : List α} (hl : Settled d l) (e : α) : Settling e l :=
  List.pairwise_of_forall_mem_list fun a ha b hb hae => (hl b hb).trans ((hl a ha).symm.trans hae)

/-- When the place that learns last has seen `d`, so has every place. -/
theorem Settling.settled {d : α} {l : List α} (hl : Settling d (d :: l)) : Settled d (d :: l) := by
  intro a ha
  simp only [List.mem_cons] at ha
  rcases ha with rfl | ha
  · rfl
  · exact List.rel_of_pairwise_cons hl ha rfl

theorem Settled.tail {d a : α} {l : List α} (hl : Settled d (a :: l)) : Settled d l :=
  fun b hb => hl b (List.mem_cons_of_mem a hb)

theorem Settling.tail {d a : α} {l : List α} (hl : Settling d (a :: l)) : Settling d l :=
  List.Pairwise.of_cons hl

end Pipe
