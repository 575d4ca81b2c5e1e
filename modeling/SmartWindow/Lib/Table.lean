/-
Append-only tables whose rows carry an ID the table gives out, larger than
every ID before, and a stamp that no two rows share. An insertion under a
stamp that is taken is rejected. The latest value is that of the row with the
greatest ID; `latest_eq_getLast?` says that it is the one inserted last.
-/
import Mathlib.Data.List.Basic

structure Table.Row (V : Type*) where
  id : Nat
  stamp : Nat
  value : V

/-- The rows in the order of their insertion. A table that two rows of which share an ID or a stamp
cannot be built. -/
structure Table (V : Type*) where
  rows : List (Table.Row V)
  nextId : Nat
  ids : rows.Pairwise fun r s => r.id < s.id
  lt_nextId : ∀ r ∈ rows, r.id < nextId
  stamps : rows.Pairwise fun r s => r.stamp ≠ s.stamp

namespace Table

variable {V : Type*}

def empty : Table V := ⟨[], 1, .nil, by simp, .nil⟩

/-- No row carries the stamp. -/
def Free (t : Table V) (stamp : Nat) : Prop := ∀ r ∈ t.rows, r.stamp ≠ stamp

instance (t : Table V) (stamp : Nat) : Decidable (t.Free stamp) :=
  inferInstanceAs (Decidable (∀ r ∈ t.rows, r.stamp ≠ stamp))

def append (t : Table V) (stamp : Nat) (value : V) (h : t.Free stamp) : Table V where
  rows := t.rows ++ [⟨t.nextId, stamp, value⟩]
  nextId := t.nextId + 1
  ids := List.pairwise_append.2 ⟨t.ids, by simp, fun r hr s hs => by
    obtain rfl := List.mem_singleton.1 hs
    exact t.lt_nextId r hr⟩
  lt_nextId := by
    intro r hr
    rcases List.mem_append.1 hr with hr | hr
    · exact Nat.lt_succ_of_lt (t.lt_nextId r hr)
    · obtain rfl := List.mem_singleton.1 hr
      exact Nat.lt_succ_self _
  stamps := List.pairwise_append.2 ⟨t.stamps, by simp, fun r hr s hs => by
    obtain rfl := List.mem_singleton.1 hs
    exact h r hr⟩

/-- An insertion, and whether it is accepted. A rejected one uses up an ID. -/
def insert (t : Table V) (stamp : Nat) (value : V) : Bool × Table V :=
  if h : t.Free stamp then (true, t.append stamp value h)
  else (false, { t with
    nextId := t.nextId + 1
    lt_nextId := fun r hr => Nat.lt_succ_of_lt (t.lt_nextId r hr) })

/-- `SELECT MAX(id)`. -/
def maxId (t : Table V) : Option Nat := (t.rows.map (·.id)).max?

/-- The value of the row with the greatest ID. -/
def latest (t : Table V) : Option V :=
  t.maxId.bind fun m => (t.rows.find? fun r => r.id == m).map (·.value)

/-! ## The latest row -/

theorem lt_last {t : Table V} {rows : List (Row V)} {r : Row V} (h : t.rows = rows ++ [r]) :
    ∀ s ∈ rows, s.id < r.id := by
  have hids := t.ids
  rw [h, List.pairwise_append] at hids
  exact fun s hs => hids.2.2 s hs r (by simp)

theorem maxId_eq (t : Table V) : t.maxId = t.rows.getLast?.map (·.id) := by
  unfold maxId
  rcases List.eq_nil_or_concat' t.rows with h | ⟨rows, r, h⟩
  · rw [h]
    rfl
  · have hlt := lt_last h
    rw [h, List.getLast?_concat, Option.map_some, List.max?_eq_some_iff]
    refine ⟨by simp, fun b hb => ?_⟩
    rw [List.map_append, List.mem_append] at hb
    rcases hb with hb | hb
    · obtain ⟨s, hs, rfl⟩ := List.mem_map.1 hb
      exact Nat.le_of_lt (hlt s hs)
    · obtain rfl : b = r.id := by simpa using hb
      exact Nat.le_refl _

/-- **The latest value is the one inserted last.** -/
theorem latest_eq_getLast? (t : Table V) : t.latest = t.rows.getLast?.map (·.value) := by
  unfold latest
  rw [maxId_eq]
  rcases List.eq_nil_or_concat' t.rows with h | ⟨rows, r, h⟩
  · rw [h]
    rfl
  · have hnone : rows.find? (fun s => s.id == r.id) = none := by
      rw [List.find?_eq_none]
      intro s hs
      have := lt_last h s hs
      simp only [beq_iff_eq]
      omega
    simp [h, List.find?_append, hnone]

theorem exists_free (t : Table V) : ∃ stamp, t.Free stamp := by
  obtain ⟨bound, hbound⟩ : ∃ bound, ∀ r ∈ t.rows, r.stamp < bound := by
    induction t.rows with
    | nil => exact ⟨0, by simp⟩
    | cons r rows ih =>
      obtain ⟨bound, hbound⟩ := ih
      refine ⟨max bound (r.stamp + 1), fun s hs => ?_⟩
      rcases List.mem_cons.1 hs with rfl | hs
      · omega
      · have := hbound s hs
        omega
  exact ⟨bound, fun r hr => Nat.ne_of_lt (hbound r hr)⟩

theorem insert_free {t : Table V} {stamp : Nat} (h : t.Free stamp) (value : V) :
    t.insert stamp value = (true, t.append stamp value h) := dif_pos h

theorem latest_append (t : Table V) (stamp : Nat) (value : V) (h : t.Free stamp) :
    (t.append stamp value h).latest = some value := by
  rw [latest_eq_getLast?]
  simp [append]

theorem insert_accepted (t : Table V) (stamp : Nat) (value : V) :
    (t.insert stamp value).1 = decide (t.Free stamp) := by
  unfold insert
  split <;> simp_all

/-- An insertion sets the latest value, or is rejected and changes none. -/
theorem latest_insert (t : Table V) (stamp : Nat) (value : V) :
    (t.insert stamp value).2.latest = if t.Free stamp then some value else t.latest := by
  by_cases h : t.Free stamp
  · rw [insert_free h, if_pos h, latest_append]
  · rw [if_neg h, latest_eq_getLast?, latest_eq_getLast?, insert, dif_neg h]

theorem free_insert (t : Table V) (stamp : Nat) (value : V) (stamp' : Nat) :
    (t.insert stamp value).2.Free stamp' ↔ t.Free stamp' ∧ stamp' ≠ stamp := by
  by_cases h : t.Free stamp
  · rw [insert_free h]
    simp only [Free, append, List.mem_append, List.mem_singleton]
    refine ⟨fun hf => ⟨fun r hr => hf r (.inl hr), (hf _ (.inr rfl)).symm⟩, fun hf r hr => ?_⟩
    rcases hr with hr | rfl
    · exact hf.1 r hr
    · exact hf.2.symm
  · rw [insert, dif_neg h]
    refine ⟨fun hf => ⟨hf, fun he => h (he ▸ hf)⟩, fun hf => hf.1⟩

/-! ## Other values -/

variable {W : Type*}

def map (f : V → W) (t : Table V) : Table W where
  rows := t.rows.map fun r => ⟨r.id, r.stamp, f r.value⟩
  nextId := t.nextId
  ids := List.pairwise_map.2 t.ids
  lt_nextId := fun r hr => by
    obtain ⟨s, hs, rfl⟩ := List.mem_map.1 hr
    exact t.lt_nextId s hs
  stamps := List.pairwise_map.2 t.stamps

theorem latest_map (f : V → W) (t : Table V) : (t.map f).latest = t.latest.map f := by
  rw [latest_eq_getLast?, latest_eq_getLast?, map, List.getLast?_map, Option.map_map, Option.map_map]
  rfl

theorem free_map (f : V → W) (t : Table V) (stamp : Nat) : (t.map f).Free stamp ↔ t.Free stamp := by
  simp [Free, map]

theorem insert_map (f : V → W) (t : Table V) (stamp : Nat) (value : V) :
    (t.map f).insert stamp (f value) = ((t.insert stamp value).1, (t.insert stamp value).2.map f) := by
  by_cases h : t.Free stamp
  · rw [insert_free h, insert_free ((free_map f t stamp).2 h)]
    simp [map, append]
  · rw [insert, insert, dif_neg h, dif_neg (mt (free_map f t stamp).1 h)]
    rfl

/-! ## Insertions by others -/

def insertAll (t : Table V) (rows : List (Nat × V)) : Table V :=
  rows.foldl (fun t row => (t.insert row.1 row.2).2) t

theorem rows_insert (t : Table V) (stamp : Nat) (value : V) :
    t.nextId ≤ (t.insert stamp value).2.nextId ∧
      ∃ new, (t.insert stamp value).2.rows = t.rows ++ new ∧ ∀ r ∈ new, t.nextId ≤ r.id := by
  by_cases h : t.Free stamp
  · rw [insert_free h]
    exact ⟨Nat.le_succ _, _, rfl, by simp⟩
  · rw [insert, dif_neg h]
    exact ⟨Nat.le_succ _, [], by simp, by simp⟩

theorem rows_insertAll (t : Table V) (rows : List (Nat × V)) :
    ∃ new, (t.insertAll rows).rows = t.rows ++ new ∧ ∀ r ∈ new, t.nextId ≤ r.id := by
  induction rows generalizing t with
  | nil => exact ⟨[], by simp [insertAll], by simp⟩
  | cons row rows ih =>
    obtain ⟨hle, new₁, hrows₁, hnew₁⟩ := t.rows_insert row.1 row.2
    obtain ⟨new₂, hrows₂, hnew₂⟩ := ih (t.insert row.1 row.2).2
    have hall : t.insertAll (row :: rows) = (t.insert row.1 row.2).2.insertAll rows := rfl
    refine ⟨new₁ ++ new₂, by rw [hall, hrows₂, hrows₁, List.append_assoc], fun r hr => ?_⟩
    rcases List.mem_append.1 hr with hr | hr
    · exact hnew₁ r hr
    · exact Nat.le_trans hle (hnew₂ r hr)

theorem filter_id_eq_nil {rows : List (Row V)} {i : Nat} (h : ∀ s ∈ rows, s.id ≠ i) :
    (rows.filter fun s => s.id == i) = [] :=
  List.filter_eq_nil_iff.2 fun s hs => by simpa using h s hs

/-- The row with the greatest ID is found by its ID, also after insertions. -/
theorem filter_maxId {t : Table V} {m : Nat} (h : t.maxId = some m) (rows : List (Nat × V)) :
    ∃ r, ((t.insertAll rows).rows.filter fun r => r.id == m) = [r] ∧ t.latest = some r.value := by
  obtain ⟨new, hrows, hnew⟩ := t.rows_insertAll rows
  rw [latest_eq_getLast?, hrows]
  rw [maxId_eq] at h
  rcases List.eq_nil_or_concat' t.rows with ht | ⟨init, r, ht⟩
  · simp [ht] at h
  · obtain rfl : r.id = m := by simpa [ht] using h
    have hinit : (init.filter fun s => s.id == r.id) = [] :=
      filter_id_eq_nil fun s hs => Nat.ne_of_lt (lt_last ht s hs)
    have hbehind : (new.filter fun s => s.id == r.id) = [] := by
      have hr : r.id < t.nextId := t.lt_nextId r (by simp [ht])
      exact filter_id_eq_nil fun s hs => Nat.ne_of_gt (Nat.lt_of_lt_of_le hr (hnew s hs))
    exact ⟨r, by simp [ht, List.filter_append, hinit, hbehind], by simp [ht]⟩

end Table
