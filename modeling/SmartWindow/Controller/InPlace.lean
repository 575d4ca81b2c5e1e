/-
The parser of `receiveLoop` on the memory it runs on (main_controller.cpp).
`strtok` ends each token by writing a NUL over the delimiter after it and
keeps its place in a hidden variable; `splitString` returns pointers into the
buffer, and the second split runs inside the first token of the first. A
pointer is an offset into the buffer here, and what it points to is read when
the code reads it, after all the writes.

`receiveLoop_eq` says that all this computes what `SmartWindow.receiveLoop`
says on byte strings, for every buffer that holds a NUL.
-/
import Mathlib.Data.List.TakeWhile
import SmartWindow.Controller.Receive
import SmartWindow.Node.Model

namespace SmartWindow.InPlace

/-! ## Strings in memory -/

def MAXBUF : Nat := 2048

/-- A string literal: its bytes and the terminating NUL. -/
def literal (s : String) : Bytes := str s ++ [0]

def strlen (s : Bytes) : Nat := (cstr s).length

/-- The new block `concat` fills with two `memcpy`s, the second with its NUL. -/
def concat (s1 s2 : Bytes) : Bytes := s1.take (strlen s1) ++ s2.take (strlen s2 + 1)

def tableName (sensor suffix : Bytes) : Bytes := concat (concat sensor (literal "_")) suffix

def putCommand (sensor position value : Bytes) : Bytes :=
  let cmdSep := concat (literal "PUT") (literal "_")
  let table := tableName sensor position
  let preValue := concat cmdSep table
  let sepval := concat (literal "/") value
  concat preValue sepval

/-- The cleared buffer with a datagram in it. -/
def received (datagram : Bytes) : Bytes := datagram ++ List.replicate (MAXBUF - datagram.length) 0

/-! ## strtok -/

/-- The buffer, and where the next `strtok(NULL, ..)` goes on: null after the last token. -/
structure Strtok where
  mem : Bytes
  save : Option Nat

/-- The string a pointer points to. -/
def Strtok.text (st : Strtok) (p : Nat) : Bytes := cstr (st.mem.drop p)

/-- `strtok` as the C standard describes it: over the delimiters to the start of the token, on to its
end, and a NUL over the delimiter there. Returns the token, if there is one. -/
def strtok (delimiter : UInt8) (st : Strtok) (string : Option Nat) : Option Nat × Strtok :=
  match string <|> st.save with
  | none => (none, st)
  | some p =>
    let start := p + ((st.mem.drop p).takeWhile (· == delimiter)).length
    let token := (st.mem.drop start).takeWhile fun x => x != delimiter && x != 0
    let stop := start + token.length
    if token = [] then (none, { st with save := none })
    else if st.mem[stop]? = some delimiter then (some start, ⟨st.mem.set stop 0, some (stop + 1)⟩)
    else (some start, { st with save := none })

/-- How much of the buffer a call of `strtok` can still see. -/
def remaining (st : Strtok) (string : Option Nat) : Nat :=
  match string <|> st.save with
  | none => 0
  | some p => st.mem.length - p + 1

theorem remaining_strtok {delimiter : UInt8} {st st' : Strtok} {string : Option Nat} {token : Nat}
    (h : strtok delimiter st string = (some token, st')) :
    remaining st' none < remaining st string := by
  unfold strtok at h
  unfold remaining
  cases hp : string <|> st.save with
  | none => rw [hp] at h; simp at h
  | some p =>
    rw [hp] at h
    simp only at h ⊢
    split at h
    · simp at h
    · split at h
      · rename_i hstop
        obtain ⟨-, rfl⟩ := Prod.mk.inj h
        have hlt := (List.getElem?_eq_some_iff.1 hstop).1
        simp only [Option.orElse_eq_orElse, Option.orElse_eq_or, Option.none_or, List.length_set]
        omega
      · obtain ⟨-, rfl⟩ := Prod.mk.inj h
        simp

/-- The loop of `splitString`: the pointers to the tokens. -/
def splitFrom (delimiter : UInt8) (st : Strtok) (string : Option Nat) : List Nat × Strtok :=
  match _h : strtok delimiter st string with
  | (none, st) => ([], st)
  | (some token, st) =>
    let rest := splitFrom delimiter st none
    (token :: rest.1, rest.2)
  termination_by remaining st string
  decreasing_by exact remaining_strtok ‹_›

def splitString (st : Strtok) (string : Nat) (delimiter : UInt8) : List Nat × Strtok :=
  splitFrom delimiter st (some string)

/-- The rows requested for the datagram in the buffer; `none` where `strcmp` is called on the null
entry after the last token. -/
def receiveLoop (st : Strtok) : Option (List Row) :=
  let (sensornameAndValue, st) := splitString st 0 SEP_VALUE
  match sensornameAndValue with
  | [name, value] =>
    let (cmdSensorPos, st) := splitString st name SEP_SENSOR
    match cmdSensorPos with
    | [_, sensor, pos] =>
      some [(cstr (tableName (st.mem.drop sensor) (st.mem.drop pos)), st.text value)]
    | [] => none
    | cmd :: _ =>
      if st.text cmd = CMD_PUT then
        if st.text value = OPEN then some [(str "Win_Open", str "1")]
        else if st.text value = CLOSE then some [(str "Win_Open", str "0")]
        else some []
      else some []
  | _ => some []

/-! ## Strings -/

/-- What holds of the bytes of a fixed string, by a test of each. -/
theorem forall_bytes {s : Bytes} {P : UInt8 → Prop} [DecidablePred P]
    (h : (s.all fun x => decide (P x)) = true) : ∀ x ∈ s, P x :=
  fun x hx => of_decide_eq_true (List.all_eq_true.1 h x hx)

theorem cstr_of_forall {s : Bytes} (hs : ∀ x ∈ s, x ≠ 0) : cstr s = s := by
  have h := cstr_append hs []
  simpa [cstr] using h

theorem cstr_append_nul {s : Bytes} (hs : ∀ x ∈ s, x ≠ 0) (rest : Bytes) : cstr (s ++ 0 :: rest) = s := by
  rw [cstr_append hs]
  simp [cstr]

theorem ne_of_mem_cstr {s : Bytes} {x : UInt8} (hx : x ∈ cstr s) : x ≠ 0 := by
  simpa using List.mem_takeWhile_imp hx

theorem exists_eq_cstr_append {mem : Bytes} (h : 0 ∈ mem) : ∃ rest, mem = cstr mem ++ 0 :: rest := by
  obtain ⟨s, rest, hmem, hs⟩ := List.eq_append_cons_of_mem h
  have hcstr : cstr mem = s := by
    rw [hmem]
    exact cstr_append_nul (fun x hx h0 => hs (h0 ▸ hx)) rest
  exact ⟨rest, by rw [hcstr]; exact hmem⟩

theorem concat_append_nul {s1 s2 : Bytes} (h1 : ∀ x ∈ s1, x ≠ 0) (h2 : ∀ x ∈ s2, x ≠ 0)
    (rest1 rest2 : Bytes) :
    concat (s1 ++ 0 :: rest1) (s2 ++ 0 :: rest2) = s1 ++ s2 ++ [0] := by
  have htake : (s2 ++ 0 :: rest2).take (s2.length + 1) = s2 ++ [0] := by
    rw [List.take_append, List.take_of_length_le (by omega)]
    simp
  rw [concat, strlen, strlen, cstr_append_nul h1, cstr_append_nul h2, htake, List.take_append]
  simp

/-! ## Tokens -/

section Split

variable {d : UInt8}

theorem splitString_nil : SmartWindow.splitString [] d = [] := by
  simp [SmartWindow.splitString, cstr]

theorem splitString_cons_delimiter (hd : d ≠ 0) (s : Bytes) :
    SmartWindow.splitString (d :: s) d = SmartWindow.splitString s d := by
  unfold SmartWindow.splitString
  have hcstr : cstr (d :: s) = d :: cstr s := by simp [cstr, hd]
  rw [hcstr, List.splitOnP_cons_eq_if_modifyHead]
  simp

theorem splitString_token {token : Bytes} (hne : token ≠ []) (htoken : ∀ x ∈ token, x ≠ 0 ∧ x ≠ d) :
    SmartWindow.splitString token d = [token] := by
  unfold SmartWindow.splitString
  rw [cstr_of_forall fun x hx => (htoken x hx).1,
    List.splitOnP_eq_singleton fun x hx => by simpa using (htoken x hx).2]
  simp [hne]

/-! ### One call of strtok -/

/-- What a call does depends on the place it begins at, not on where that place is kept. -/
theorem strtok_save (mem : Bytes) (p : Nat) (save : Option Nat) :
    strtok d ⟨mem, some p⟩ none = strtok d ⟨mem, save⟩ (some p) := rfl

theorem strtok_null (mem : Bytes) : strtok d ⟨mem, none⟩ none = (none, ⟨mem, none⟩) := rfl

theorem drop_length_append (a rest : Bytes) : (a ++ rest).drop a.length = rest :=
  List.drop_left

theorem strtok_delimiter (a rest : Bytes) (save : Option Nat) :
    strtok d ⟨a ++ d :: rest, save⟩ (some a.length) =
      strtok d ⟨(a ++ [d]) ++ rest, save⟩ (some (a ++ [d]).length) := by
  have hstart : a.length + ((d :: rest).takeWhile (· == d)).length =
      (a ++ [d]).length + (rest.takeWhile (· == d)).length := by
    rw [List.takeWhile_cons_of_pos (by simp)]
    simp only [List.length_cons, List.length_append, List.length_nil]
    omega
  have hmem : a ++ d :: rest = (a ++ [d]) ++ rest := by simp
  have h1 := drop_length_append a (d :: rest)
  have h2 := drop_length_append (a ++ [d]) rest
  simp only [strtok, Option.orElse_eq_orElse, Option.orElse_eq_or, Option.some_or, h1, h2, hstart]
  rw [hmem]

theorem strtok_nul (hd : d ≠ 0) (a b : Bytes) (save : Option Nat) :
    strtok d ⟨a ++ 0 :: b, save⟩ (some a.length) = (none, ⟨a ++ 0 :: b, none⟩) := by
  simp [strtok, hd.symm]

theorem strtok_token {token : Bytes} (hne : token ≠ []) (htoken : ∀ x ∈ token, x ≠ 0 ∧ x ≠ d)
    (a : Bytes) {x : UInt8} (hx : x = d ∨ x = 0) (rest : Bytes) (save : Option Nat) :
    strtok d ⟨a ++ (token ++ x :: rest), save⟩ (some a.length) =
      if x = d then
        (some a.length,
          ⟨a ++ (token ++ 0 :: rest), some (a.length + token.length + 1)⟩)
      else (some a.length, ⟨a ++ (token ++ x :: rest), none⟩) := by
  have hstart : (token ++ x :: rest).takeWhile (· == d) = [] := by
    obtain ⟨y, ys, rfl⟩ := List.exists_cons_of_ne_nil hne
    have hy : y ≠ d := (htoken y (by simp)).2
    simp [hy]
  have hstop : (token ++ x :: rest).takeWhile (fun x => x != d && x != 0) = token := by
    rw [List.takeWhile_append_of_pos fun y hy => by simpa using (htoken y hy).symm]
    rcases hx with rfl | rfl <;> simp
  have hget : (a ++ (token ++ x :: rest))[a.length + token.length]? = some x := by
    rw [← List.append_assoc, List.getElem?_append_right (by simp)]
    simp
  have hset : (a ++ (token ++ x :: rest)).set (a.length + token.length) 0 =
      a ++ (token ++ 0 :: rest) := by
    rw [← List.append_assoc, List.set_append_right _ _ (by simp)]
    simp
  simp only [strtok, Option.orElse_eq_orElse, Option.orElse_eq_or, Option.some_or,
    drop_length_append, hstart, List.length_nil, Nat.add_zero, hstop, hne, if_false, hget, hset,
    Option.some.injEq]

/-! ### The whole split -/

theorem splitFrom_none {st st' : Strtok} {string : Option Nat}
    (h : strtok d st string = (none, st')) : splitFrom d st string = ([], st') := by
  rw [splitFrom]
  split <;> simp_all

theorem splitFrom_some {st st' : Strtok} {string : Option Nat} {token : Nat}
    (h : strtok d st string = (some token, st')) :
    splitFrom d st string = (token :: (splitFrom d st' none).1, (splitFrom d st' none).2) := by
  rw [splitFrom]
  split <;> simp_all

theorem splitFrom_congr {st st' : Strtok} {string string' : Option Nat}
    (h : strtok d st string = strtok d st' string') : splitFrom d st string = splitFrom d st' string' := by
  cases hr : strtok d st' string' with
  | mk token st'' =>
    rw [hr] at h
    cases token with
    | none => rw [splitFrom_none h, splitFrom_none hr]
    | some token => rw [splitFrom_some h, splitFrom_some hr]

theorem exists_token {x : UInt8} {s : Bytes} (hxd : x ≠ d) (hs : ∀ y ∈ x :: s, y ≠ 0) :
    ∃ token rest, x :: s = token ++ rest ∧ (∀ y ∈ token, y ≠ 0 ∧ y ≠ d) ∧ token ≠ [] ∧
      (rest = [] ∨ ∃ s₂, rest = d :: s₂) := by
  refine ⟨(x :: s).takeWhile (· ≠ d), (x :: s).dropWhile (· ≠ d),
    (List.takeWhile_append_dropWhile ..).symm, fun y hy => ⟨?_, ?_⟩, by simp [hxd], ?_⟩
  · exact hs y ((List.takeWhile_subset _) hy)
  · simpa using List.mem_takeWhile_imp hy
  · cases hr : (x :: s).dropWhile (· ≠ d) with
    | nil => exact .inl rfl
    | cons z zs =>
      have hz := List.head?_dropWhile_not (· ≠ d) (x :: s)
      rw [hr] at hz
      obtain rfl : z = d := by simpa using hz
      exact .inr ⟨zs, rfl⟩

/-- What splitting a string `s`, at the offset `a.length` of the memory, leaves behind: pointers into
the string, to its tokens and in their order, and no change outside it. -/
structure Splits (d : UInt8) (a s b : Bytes) (pointers : List Nat) (mem : Bytes) : Prop where
  frame : ∃ s', s'.length = s.length ∧ mem = a ++ (s' ++ 0 :: b)
  tokens : pointers.map (fun q => cstr (mem.drop q)) = SmartWindow.splitString s d
  inside : ∀ q ∈ pointers,
    a.length ≤ q ∧ q + (cstr (mem.drop q)).length ≤ a.length + s.length
  apart : pointers.Pairwise fun q r => q + (cstr (mem.drop q)).length < r

theorem Splits.nil (a b : Bytes) : Splits d a [] b [] (a ++ 0 :: b) :=
  ⟨⟨[], rfl, rfl⟩, by simp [splitString_nil], by simp, .nil⟩

theorem Splits.delimiter (hd : d ≠ 0) {a s b : Bytes} {pointers : List Nat} {mem : Bytes}
    (h : Splits d (a ++ [d]) s b pointers mem) : Splits d a (d :: s) b pointers mem := by
  obtain ⟨s', hlen, hmem⟩ := h.frame
  refine ⟨⟨d :: s', by simp [hlen], by simp [hmem]⟩, ?_, fun q hq => ?_, h.apart⟩
  · rw [h.tokens, splitString_cons_delimiter hd]
  · have := h.inside q hq
    simp only [List.length_append, List.length_cons, List.length_nil] at this ⊢
    omega

theorem Splits.last_token {token : Bytes} (hne : token ≠ []) (htoken : ∀ x ∈ token, x ≠ 0 ∧ x ≠ d)
    (a b : Bytes) : Splits d a token b [a.length] (a ++ (token ++ 0 :: b)) := by
  have hfirst := cstr_append_nul (fun y hy => (htoken y hy).1) b
  refine ⟨⟨token, rfl, rfl⟩, ?_, fun q hq => ?_, by simp⟩
  · simp [hfirst, splitString_token hne htoken]
  · obtain rfl := List.mem_singleton.1 hq
    simp [hfirst]

/-- A token, and the split from behind its delimiter, which is a NUL now. -/
theorem Splits.token (hd : d ≠ 0) {token : Bytes} (hne : token ≠ [])
    (htoken : ∀ x ∈ token, x ≠ 0 ∧ x ≠ d) {a s b : Bytes} {pointers : List Nat} {mem : Bytes}
    (h : Splits d (a ++ (token ++ [0])) s b pointers mem) :
    Splits d a (token ++ d :: s) b (a.length :: pointers) mem := by
  obtain ⟨s', hlen, hmem⟩ := h.frame
  have hfirst : cstr (mem.drop a.length) = token := by
    rw [hmem, List.append_assoc, List.append_assoc, drop_length_append]
    simpa using cstr_append_nul (fun y hy => (htoken y hy).1) (s' ++ 0 :: b)
  refine ⟨⟨token ++ 0 :: s', by simp [hlen], by simp [hmem]⟩, ?_, fun q hq => ?_, ?_⟩
  · rw [List.map_cons, hfirst, h.tokens, splitString_append hne hd htoken]
  · rcases List.mem_cons.1 hq with rfl | hq
    · rw [hfirst]
      simp
    · have := h.inside q hq
      simp only [List.length_append, List.length_cons, List.length_nil] at this ⊢
      omega
  · refine List.pairwise_cons.2 ⟨fun q hq => ?_, h.apart⟩
    have := (h.inside q hq).1
    rw [hfirst]
    simp only [List.length_append, List.length_cons, List.length_nil] at this
    omega

/-- **`splitString` in place finds the tokens**, wherever the string lies in memory. -/
theorem splitFrom_spec (hd : d ≠ 0) {s : Bytes} (hs : ∀ x ∈ s, x ≠ 0) (a b : Bytes)
    (save : Option Nat) :
    ∃ pointers mem, splitFrom d ⟨a ++ (s ++ 0 :: b), save⟩ (some a.length) = (pointers, ⟨mem, none⟩) ∧
      Splits d a s b pointers mem := by
  induction hn : s.length using Nat.strong_induction_on generalizing s a save with
  | _ n ih =>
    subst hn
    cases s with
    | nil => exact ⟨[], _, splitFrom_none (strtok_nul hd a b save), .nil a b⟩
    | cons x s =>
      by_cases hxd : x = d
      · -- A delimiter in front: the call begins one byte further on.
        subst hxd
        obtain ⟨pointers, mem, hsplit, hspec⟩ :=
          ih s.length (by simp) (fun y hy => hs y (by simp [hy])) (a ++ [x]) save rfl
        refine ⟨pointers, mem, ?_, hspec.delimiter hd⟩
        rw [← hsplit]
        exact splitFrom_congr (strtok_delimiter a (s ++ 0 :: b) save)
      · -- A token, up to the next delimiter or to the end of the string.
        obtain ⟨token, rest, hsplit, htoken, hne, hrest⟩ := exists_token hxd hs
        rw [hsplit] at hs ⊢
        rcases hrest with rfl | ⟨s₂, rfl⟩
        · have hstep := strtok_token hne htoken a (.inr rfl) b save
          rw [if_neg hd.symm] at hstep
          rw [List.append_nil]
          exact ⟨[a.length], _, by rw [splitFrom_some hstep, splitFrom_none (strtok_null _)],
            .last_token hne htoken a b⟩
        · have hstep := strtok_token hne htoken a (.inl rfl) (s₂ ++ 0 :: b) save
          rw [if_pos rfl] at hstep
          have hshort : s₂.length < (x :: s).length := by
            rw [hsplit]
            simp only [List.length_append, List.length_cons]
            omega
          obtain ⟨pointers, mem, hrec, hspec⟩ := ih s₂.length hshort
            (fun y hy => hs y (by simp [hy])) (a ++ (token ++ [0])) none rfl
          have hnext : splitFrom d ⟨a ++ (token ++ 0 :: (s₂ ++ 0 :: b)),
              some (a.length + token.length + 1)⟩ none = (pointers, ⟨mem, none⟩) := by
            rw [← hrec]
            refine splitFrom_congr ?_
            rw [strtok_save _ _ none]
            simp [Nat.add_assoc]
          refine ⟨a.length :: pointers, mem, ?_, hspec.token hd hne htoken⟩
          have hshape : (token ++ d :: s₂) ++ 0 :: b = token ++ d :: (s₂ ++ 0 :: b) := by simp
          rw [hshape, splitFrom_some hstep, hnext]

theorem Splits.drop {a s b : Bytes} {pointers : List Nat} {mem : Bytes} (h : Splits d a s b pointers mem)
    {r : Nat} (hr : a.length + s.length < r) : mem.drop r = (a ++ (s ++ 0 :: b)).drop r := by
  obtain ⟨s', hlen, rfl⟩ := h.frame
  obtain ⟨k, rfl⟩ := Nat.exists_eq_add_of_lt hr
  have hshift : ∀ t : Bytes, t.length = s.length →
      (a ++ (t ++ 0 :: b)).drop (a.length + s.length + k + 1) = b.drop k := by
    intro t ht
    rw [List.drop_append, List.drop_append, List.drop_of_length_le (by omega),
      List.drop_of_length_le (by omega), ht]
    have hk : a.length + s.length + k + 1 - a.length - s.length = k + 1 := by omega
    simp [hk]
  rw [hshift s' hlen, hshift s rfl]

theorem Splits.nul_mem {a s b : Bytes} {pointers : List Nat} {mem : Bytes}
    (h : Splits d a s b pointers mem) {q : Nat} (hq : q ∈ pointers) : 0 ∈ mem.drop q := by
  obtain ⟨s', hlen, rfl⟩ := h.frame
  have hle := (h.inside q hq).2
  rw [← List.append_assoc, List.drop_append_of_le_length (by simp only [List.length_append]; omega)]
  simp

theorem splitString_cstr (string : Bytes) :
    SmartWindow.splitString (cstr string) d = SmartWindow.splitString string d := by
  unfold SmartWindow.splitString
  rw [cstr_of_forall fun x hx => ne_of_mem_cstr hx]

theorem splitString_spec (hd : d ≠ 0) (st : Strtok) {p : Nat} (h : 0 ∈ st.mem.drop p) :
    ∃ b pointers mem, splitString st p d = (pointers, ⟨mem, none⟩) ∧
      st.mem = st.mem.take p ++ (st.text p ++ 0 :: b) ∧
      Splits d (st.mem.take p) (st.text p) b pointers mem := by
  have hp : p ≤ st.mem.length := by
    by_contra hlt
    rw [List.drop_of_length_le (by omega)] at h
    simp at h
  obtain ⟨b, hb⟩ := exists_eq_cstr_append h
  have hmem : st.mem = st.mem.take p ++ (st.text p ++ 0 :: b) := by
    conv_lhs => rw [← List.take_append_drop p st.mem, hb]
    rfl
  obtain ⟨pointers, mem, hsplit, hspec⟩ :=
    splitFrom_spec hd (s := st.text p) (fun x hx => ne_of_mem_cstr hx) (st.mem.take p) b st.save
  refine ⟨b, pointers, mem, ?_, hmem, hspec⟩
  rw [← hsplit, ← hmem, List.length_take, Nat.min_eq_left hp]
  rfl

end Split

/-! ## The receiver -/

theorem cstr_tableName {sensor suffix : Bytes} (h1 : 0 ∈ sensor) (h2 : 0 ∈ suffix) :
    cstr (tableName sensor suffix) = SmartWindow.tableName (cstr sensor) (cstr suffix) := by
  obtain ⟨r1, hr1⟩ := exists_eq_cstr_append h1
  obtain ⟨r2, hr2⟩ := exists_eq_cstr_append h2
  have hsep : ∀ x ∈ str "_", x ≠ 0 := forall_bytes (by decide)
  have hfirst : concat sensor (literal "_") = (cstr sensor ++ str "_") ++ 0 :: [] := by
    conv_lhs => rw [hr1]
    exact concat_append_nul (fun x hx => ne_of_mem_cstr hx) hsep r1 []
  have hne : ∀ x ∈ cstr sensor ++ str "_", x ≠ 0 := by
    intro x hx
    rcases List.mem_append.1 hx with hx | hx
    · exact ne_of_mem_cstr hx
    · exact hsep x hx
  rw [tableName, hfirst]
  conv_lhs => rw [hr2]
  rw [concat_append_nul hne fun x hx => ne_of_mem_cstr hx, cstr_append_nul]
  · simp [SmartWindow.tableName, SEP_SENSOR, str]
  · intro x hx
    rcases List.mem_append.1 hx with hx | hx
    · exact hne x hx
    · exact ne_of_mem_cstr hx

theorem firstSplit {mem : Bytes} (h : 0 ∈ mem) (save : Option Nat) :
    ∃ pointers mem', splitString ⟨mem, save⟩ 0 SEP_VALUE = (pointers, ⟨mem', none⟩) ∧
      pointers.map (fun q => cstr (mem'.drop q)) = SmartWindow.splitString mem SEP_VALUE ∧
      (∀ q ∈ pointers, 0 ∈ mem'.drop q) ∧
      pointers.Pairwise fun q r => q + (cstr (mem'.drop q)).length < r := by
  obtain ⟨b, pointers, mem', hsplit, -, hspec⟩ :=
    splitString_spec (d := SEP_VALUE) (by decide) ⟨mem, save⟩ (p := 0) h
  exact ⟨pointers, mem', hsplit, hspec.tokens.trans (splitString_cstr mem), fun q => hspec.nul_mem,
    hspec.apart⟩

/-- The second split, inside the first token of the first: what lies behind that token stays as it
was. -/
theorem secondSplit {mem : Bytes} {name : Nat} (h : 0 ∈ mem.drop name) :
    ∃ pointers mem', splitString ⟨mem, none⟩ name SEP_SENSOR = (pointers, ⟨mem', none⟩) ∧
      pointers.map (fun q => cstr (mem'.drop q)) =
        SmartWindow.splitString (cstr (mem.drop name)) SEP_SENSOR ∧
      (∀ q ∈ pointers, 0 ∈ mem'.drop q) ∧
      ∀ r, name + (cstr (mem.drop name)).length < r → mem'.drop r = mem.drop r := by
  obtain ⟨b, pointers, mem', hsplit, hmem, hspec⟩ :=
    splitString_spec (d := SEP_SENSOR) (by decide) ⟨mem, none⟩ h
  refine ⟨pointers, mem', hsplit, hspec.tokens, fun q => hspec.nul_mem, fun r hr => ?_⟩
  have hle : (mem.take name).length ≤ name := List.length_take_le ..
  have hdrop := hspec.drop (r := r) (by
    simp only [Strtok.text]
    omega)
  rw [hdrop, ← hmem]

/-- **The parser in place computes `SmartWindow.receiveLoop`**, whatever an earlier datagram left in
`strtok`'s variable. -/
theorem receiveLoop_eq {mem : Bytes} (h : 0 ∈ mem) (save : Option Nat) :
    receiveLoop ⟨mem, save⟩ = SmartWindow.receiveLoop mem := by
  obtain ⟨pointers, mem₁, hsplit₁, htokens₁, hnul₁, hapart⟩ := firstSplit h save
  unfold receiveLoop SmartWindow.receiveLoop
  rw [hsplit₁, ← htokens₁]
  rcases pointers with _ | ⟨name, _ | ⟨value, _ | ⟨third, rest⟩⟩⟩
  · rfl
  · rfl
  · obtain ⟨cmdSensorPos, mem₂, hsplit₂, htokens₂, hnul₂, hframe⟩ :=
      secondSplit (hnul₁ name (by simp))
    have hvalue : mem₂.drop value = mem₁.drop value := hframe value (by simpa using hapart)
    simp only [List.map_cons, List.map_nil]
    rw [hsplit₂, ← htokens₂]
    rcases cmdSensorPos with _ | ⟨cmd, _ | ⟨sensor, _ | ⟨pos, _ | ⟨fourth, rest⟩⟩⟩⟩
    · rfl
    · simp only [List.map_cons, List.map_nil, Strtok.text, hvalue]
    · simp only [List.map_cons, List.map_nil, Strtok.text, hvalue]
    · simp only [List.map_cons, List.map_nil, Strtok.text, hvalue]
      rw [cstr_tableName (hnul₂ sensor (by simp)) (hnul₂ pos (by simp))]
    · simp only [List.map_cons, Strtok.text, hvalue]
  · rfl

/-! ## The round trip -/

/-- The position a node is built for. -/
def position : Build → Bytes
  | .IN => str "IN"
  | .OUT => str "OUT"

/-- The text `putCommand` returns for three strings. -/
def putMessage (sensor pos value : Bytes) : Bytes :=
  cstr (putCommand (sensor ++ [0]) (pos ++ [0]) (value ++ [0]))

theorem concat_nul {s1 s2 : Bytes} (h1 : ∀ x ∈ s1, x ≠ 0) (h2 : ∀ x ∈ s2, x ≠ 0) :
    concat (s1 ++ [0]) (s2 ++ [0]) = (s1 ++ s2) ++ [0] :=
  concat_append_nul h1 h2 [] []

theorem putMessage_eq {sensor pos value : Bytes} (hsensor : ∀ x ∈ sensor, x ≠ 0)
    (hpos : ∀ x ∈ pos, x ≠ 0) (hvalue : ∀ x ∈ value, x ≠ 0) :
    putMessage sensor pos value =
      (CMD_PUT ++ SEP_SENSOR :: (sensor ++ SEP_SENSOR :: pos)) ++ SEP_VALUE :: value := by
  have hput : ∀ x ∈ str "PUT", x ≠ 0 := forall_bytes (by decide)
  have hsep : ∀ x ∈ str "_", x ≠ 0 := forall_bytes (by decide)
  have hslash : ∀ x ∈ str "/", x ≠ 0 := forall_bytes (by decide)
  have hcmdSep := List.forall_mem_append.2 ⟨hput, hsep⟩
  have hsensor_ := List.forall_mem_append.2 ⟨hsensor, hsep⟩
  have htable := List.forall_mem_append.2 ⟨hsensor_, hpos⟩
  have hpre := List.forall_mem_append.2 ⟨hcmdSep, htable⟩
  have hsepval := List.forall_mem_append.2 ⟨hslash, hvalue⟩
  unfold putMessage putCommand InPlace.tableName literal
  dsimp only
  rw [concat_nul hput hsep, concat_nul hsensor hsep, concat_nul hsensor_ hpos,
    concat_nul hcmdSep htable, concat_nul hslash hvalue, concat_nul hpre hsepval,
    cstr_append_nul (List.forall_mem_append.2 ⟨hpre, hsepval⟩)]
  simp [CMD_PUT, SEP_SENSOR, SEP_VALUE, str]

/-- What the two programs agree on for a measurement: the node's `sendString` and the controller's
`putCommand` write the same bytes, and the receiver finds the three fields and the value in them,
the value also after the second split, and requests one row. -/
structure RoundTrips (sensor pos value : Bytes) (save : Option Nat) : Prop where
  encoders : ∀ b, pos = position b → sendString b sensor value = putMessage sensor pos value
  tokens : ∃ name val cmd sens po first second,
    splitString ⟨received (putMessage sensor pos value), save⟩ 0 SEP_VALUE = ([name, val], first) ∧
    splitString first name SEP_SENSOR = ([cmd, sens, po], second) ∧
    second.text cmd = CMD_PUT ∧ second.text sens = sensor ∧ second.text po = pos ∧
    first.text val = value ∧ second.text val = value
  row : receiveLoop ⟨received (putMessage sensor pos value), save⟩ =
    some [(SmartWindow.tableName sensor pos, value)]

theorem nul_mem_received {datagram : Bytes} (h : datagram.length < MAXBUF) : 0 ∈ received datagram := by
  refine List.mem_append_right _ (List.mem_replicate.2 ⟨?_, rfl⟩)
  omega

theorem cstr_received {datagram : Bytes} (h : datagram.length < MAXBUF)
    (hnul : ∀ x ∈ datagram, x ≠ 0) : cstr (received datagram) = datagram := by
  obtain ⟨k, hk⟩ := Nat.exists_eq_add_of_lt h
  have hzeros : MAXBUF - datagram.length = k + 1 := by omega
  rw [received, hzeros, List.replicate_succ, cstr_append_nul hnul]

theorem put_token : CMD_PUT ≠ [] ∧ ∀ x ∈ CMD_PUT, x ≠ 0 ∧ x ≠ SEP_SENSOR ∧ x ≠ SEP_VALUE :=
  ⟨by decide, forall_bytes (by decide)⟩

theorem split_measurement {cmd sensor pos value : Bytes}
    (hcmd : cmd ≠ [] ∧ ∀ x ∈ cmd, x ≠ 0 ∧ x ≠ SEP_SENSOR ∧ x ≠ SEP_VALUE)
    (hsensor : sensor ≠ [] ∧ ∀ x ∈ sensor, x ≠ 0 ∧ x ≠ SEP_SENSOR ∧ x ≠ SEP_VALUE)
    (hpos : pos ≠ [] ∧ ∀ x ∈ pos, x ≠ 0 ∧ x ≠ SEP_SENSOR ∧ x ≠ SEP_VALUE)
    (hvalue : value ≠ [] ∧ ∀ x ∈ value, x ≠ 0 ∧ x ≠ SEP_VALUE) :
    SmartWindow.splitString
        ((cmd ++ SEP_SENSOR :: (sensor ++ SEP_SENSOR :: pos)) ++ SEP_VALUE :: value) SEP_VALUE =
      [cmd ++ SEP_SENSOR :: (sensor ++ SEP_SENSOR :: pos), value] ∧
    SmartWindow.splitString (cmd ++ SEP_SENSOR :: (sensor ++ SEP_SENSOR :: pos)) SEP_SENSOR =
      [cmd, sensor, pos] := by
  have hname : ∀ x ∈ cmd ++ SEP_SENSOR :: (sensor ++ SEP_SENSOR :: pos), x ≠ 0 ∧ x ≠ SEP_VALUE := by
    intro x hx
    simp only [List.mem_append, List.mem_cons] at hx
    rcases hx with hx | rfl | hx | rfl | hx
    · exact ⟨(hcmd.2 x hx).1, (hcmd.2 x hx).2.2⟩
    · decide
    · exact ⟨(hsensor.2 x hx).1, (hsensor.2 x hx).2.2⟩
    · decide
    · exact ⟨(hpos.2 x hx).1, (hpos.2 x hx).2.2⟩
  refine ⟨?_, ?_⟩
  · rw [splitString_append (by simp) (by decide) hname, splitString_token hvalue.1 hvalue.2]
  · rw [splitString_append hcmd.1 (by decide) fun x hx => ⟨(hcmd.2 x hx).1, (hcmd.2 x hx).2.1⟩,
      splitString_append hsensor.1 (by decide) fun x hx => ⟨(hsensor.2 x hx).1, (hsensor.2 x hx).2.1⟩,
      splitString_token hpos.1 fun x hx => ⟨(hpos.2 x hx).1, (hpos.2 x hx).2.1⟩]

/-- **PUT messages round-trip through the parser in place**, for all fields and lengths. -/
theorem put_round_trip {sensor pos value : Bytes} (save : Option Nat)
    (hsensor : sensor ≠ [] ∧ ∀ x ∈ sensor, x ≠ 0 ∧ x ≠ SEP_SENSOR ∧ x ≠ SEP_VALUE)
    (hpos : pos ≠ [] ∧ ∀ x ∈ pos, x ≠ 0 ∧ x ≠ SEP_SENSOR ∧ x ≠ SEP_VALUE)
    (hvalue : value ≠ [] ∧ ∀ x ∈ value, x ≠ 0 ∧ x ≠ SEP_VALUE)
    (hlen : (putMessage sensor pos value).length < MAXBUF) : RoundTrips sensor pos value save := by
  have hmessage := putMessage_eq (fun x hx => (hsensor.2 x hx).1) (fun x hx => (hpos.2 x hx).1)
    fun x hx => (hvalue.2 x hx).1
  have hnul : ∀ x ∈ putMessage sensor pos value, x ≠ 0 := fun x hx => ne_of_mem_cstr hx
  obtain ⟨hfirst, hsecond⟩ := split_measurement put_token hsensor hpos hvalue
  have hsplit : SmartWindow.splitString (received (putMessage sensor pos value)) SEP_VALUE =
      [CMD_PUT ++ SEP_SENSOR :: (sensor ++ SEP_SENSOR :: pos), value] := by
    rw [← splitString_cstr, cstr_received hlen hnul, hmessage, hfirst]
  refine ⟨fun b hb => ?_, ?_, ?_⟩
  · rw [hmessage, hb]
    cases b <;> simp [sendString, position, CMD_PUT, SEP_SENSOR, SEP_VALUE, str]
  · obtain ⟨pointers, mem₁, hrun₁, htokens₁, hnul₁, hapart⟩ :=
      firstSplit (nul_mem_received hlen) save
    rw [hsplit] at htokens₁
    obtain ⟨name, rest, rfl, hname, hrest⟩ := List.map_eq_cons_iff.1 htokens₁
    obtain ⟨val, rest, rfl, hval, hrest⟩ := List.map_eq_cons_iff.1 hrest
    obtain rfl := List.map_eq_nil_iff.1 hrest
    obtain ⟨cmdSensorPos, mem₂, hrun₂, htokens₂, -, hframe⟩ := secondSplit (hnul₁ name (by simp))
    rw [hname, hsecond] at htokens₂
    obtain ⟨cmd, rest, rfl, hcmd, hrest⟩ := List.map_eq_cons_iff.1 htokens₂
    obtain ⟨sens, rest, rfl, hsens, hrest⟩ := List.map_eq_cons_iff.1 hrest
    obtain ⟨po, rest, rfl, hpo, hrest⟩ := List.map_eq_cons_iff.1 hrest
    obtain rfl := List.map_eq_nil_iff.1 hrest
    have hkept : mem₂.drop val = mem₁.drop val := hframe val (by simpa using hapart)
    refine ⟨name, val, cmd, sens, po, _, _, hrun₁, hrun₂, hcmd, hsens, hpo, hval, ?_⟩
    rw [Strtok.text, hkept, hval]
  · rw [receiveLoop_eq (nul_mem_received hlen), SmartWindow.receiveLoop, hsplit]
    simp only [hsecond]

/-- A temperature of the inside node. -/
theorem put_round_trip_temp : RoundTrips (str "Temp") (str "IN") (str "22.5") none :=
  put_round_trip none ⟨by decide, forall_bytes (by decide)⟩ ⟨by decide, forall_bytes (by decide)⟩
    ⟨by decide, forall_bytes (by decide)⟩ (by decide)

end SmartWindow.InPlace
