/-
Traces: lists of events in the order they happen. `AtEach` says of each event
something that may depend on the events before it, and `last` is what the
events last said of some quantity.
-/
import Mathlib.Data.List.Basic

namespace Trace

variable {ε α : Type*} {P : List ε → ε → Prop}

/-- Each event is as it should be after the events before it. -/
def AtEach (P : List ε → ε → Prop) (tr : List ε) : Prop :=
  ∀ pre e post, tr = pre ++ e :: post → P pre e

theorem atEach_nil : AtEach P [] := by
  intro pre e post h
  simp at h

theorem atEach_append (tr es : List ε) :
    AtEach P (tr ++ es) ↔ AtEach P tr ∧ AtEach (fun pre => P (tr ++ pre)) es := by
  refine ⟨fun h => ⟨fun pre e post he => ?_, fun pre e post he => ?_⟩, fun h pre e post he => ?_⟩
  · exact h pre e (post ++ es) (by simp [he])
  · exact h (tr ++ pre) e post (by simp [he])
  · rcases List.append_eq_append_iff.1 he with ⟨mid, rfl, hes⟩ | ⟨mid, htr, hes⟩
    · exact h.2 mid e post hes
    · rcases mid with _ | ⟨x, mid⟩
      · have hpre : tr = pre := by simpa using htr
        have hes' : es = [] ++ e :: post := by simpa using hes.symm
        simpa [hpre] using h.2 [] e post hes'
      · obtain ⟨rfl, -⟩ : e = x ∧ post = mid ++ es := by simpa using hes
        exact h.1 pre e mid htr

theorem atEach_singleton (e : ε) : AtEach P [e] ↔ P [] e := by
  refine ⟨fun h => h [] e [] rfl, fun h pre x post he => ?_⟩
  rcases pre with _ | ⟨y, pre⟩
  · obtain ⟨rfl, -⟩ : e = x ∧ post = [] := by simpa using he
    exact h
  · simp at he

theorem AtEach.exists_of_mem {tr : List ε} {e : ε} (h : AtEach P tr) (he : e ∈ tr) :
    ∃ pre, P pre e := by
  obtain ⟨pre, post, rfl⟩ := List.mem_iff_append.1 he
  exact ⟨pre, h pre e post rfl⟩

theorem AtEach.and {Q : List ε → ε → Prop} {tr : List ε} (hp : AtEach P tr) (hq : AtEach Q tr) :
    AtEach (fun pre e => P pre e ∧ Q pre e) tr :=
  fun pre e post h => ⟨hp pre e post h, hq pre e post h⟩

theorem atEach_of_forall {tr : List ε} (h : ∀ e ∈ tr, ∀ pre, P pre e) : AtEach P tr := by
  rintro pre e post rfl
  exact h e (by simp) pre

/-- The last value among those that some of the events carry. -/
def last (value : ε → Option α) (tr : List ε) : Option α := (tr.filterMap value).getLast?

variable {value : ε → Option α}

theorem last_append (tr es : List ε) : last value (tr ++ es) = (last value es).or (last value tr) := by
  rw [last, last, last, List.filterMap_append, List.getLast?_append]

theorem last_append_of_forall {es : List ε} (h : ∀ e ∈ es, value e = none) (tr : List ε) :
    last value (tr ++ es) = last value tr := by
  rw [last_append, last, List.filterMap_eq_nil_iff.2 h]
  rfl

end Trace
