/-
What a datagram makes `receiveLoop` do to memory (main_controller.cpp,
write_read.cpp). `splitString` ends its array of tokens in a null entry, and
the branch of the window report reads the first token of a name that may have
none; `write_in_db` pastes the tokens into a buffer of BUF bytes whatever
their lengths. Both are settled here for every datagram that leaves a NUL in
the receive buffer.
-/
import SmartWindow.Controller.InPlace
import SmartWindow.Controller.Radio

namespace SmartWindow

open InPlace (MAXBUF)

/-! ## What a string that splits looks like -/

section Split

variable {d : UInt8}

theorem splitString_replicate_append (hd : d ≠ 0) (k : Nat) (s : Bytes) :
    splitString (List.replicate k d ++ s) d = splitString s d := by
  induction k with
  | zero => rfl
  | succ k ih => rw [List.replicate_succ, List.cons_append, InPlace.splitString_cons_delimiter hd, ih]

theorem splitString_replicate (hd : d ≠ 0) (k : Nat) : splitString (List.replicate k d) d = [] := by
  have h := splitString_replicate_append hd k []
  rwa [List.append_nil, InPlace.splitString_nil] at h

/-- A piece between delimiters. -/
def Token (d : UInt8) (t : Bytes) : Prop := t ≠ [] ∧ ∀ x ∈ t, x ≠ 0 ∧ x ≠ d

theorem splitString_token_append (hd : d ≠ 0) {t rest : Bytes} (ht : Token d t)
    (hrest : rest = [] ∨ ∃ s, rest = d :: s) :
    splitString (t ++ rest) d = t :: splitString rest d := by
  rcases hrest with rfl | ⟨s, rfl⟩
  · rw [List.append_nil, InPlace.splitString_nil, InPlace.splitString_token ht.1 ht.2]
  · rw [splitString_append ht.1 hd ht.2, InPlace.splitString_cons_delimiter hd]

/-- A string is delimiters only, or begins with a token behind some. -/
theorem splitString_cases (hd : d ≠ 0) {s : Bytes} (hs : ∀ x ∈ s, x ≠ 0) :
    (∃ k, s = List.replicate k d) ∨
    ∃ k t rest, s = List.replicate k d ++ (t ++ rest) ∧ Token d t ∧
      (rest = [] ∨ ∃ s₂, rest = d :: s₂) := by
  induction s with
  | nil => exact .inl ⟨0, rfl⟩
  | cons x s ih =>
    by_cases hx : x = d
    · subst hx
      rcases ih fun y hy => hs y (by simp [hy]) with ⟨k, hk⟩ | ⟨k, t, rest, hk, ht, hrest⟩
      · exact .inl ⟨k + 1, by rw [List.replicate_succ, ← hk]⟩
      · exact .inr ⟨k + 1, t, rest, by rw [List.replicate_succ, List.cons_append, ← hk], ht, hrest⟩
    · obtain ⟨t, rest, heq, ht, hne, hrest⟩ := InPlace.exists_token hx hs
      exact .inr ⟨0, t, rest, heq, ⟨hne, ht⟩, hrest⟩

/-- What holds of a split, token by token. -/
theorem splitString_induction {motive : Bytes → List Bytes → Prop} (hd : d ≠ 0)
    (delimiters : ∀ k, motive (List.replicate k d) [])
    (last : ∀ k t, Token d t → motive (List.replicate k d ++ t) [t])
    (token : ∀ k t s, Token d t → motive s (splitString s d) →
      motive (List.replicate k d ++ (t ++ d :: s)) (t :: splitString s d))
    {s : Bytes} (hs : ∀ x ∈ s, x ≠ 0) : motive s (splitString s d) := by
  induction hlen : s.length using Nat.strong_induction_on generalizing s with
  | _ n ih =>
    rcases splitString_cases hd hs with ⟨k, rfl⟩ | ⟨k, t, rest, rfl, ht, rfl | ⟨s, rfl⟩⟩
    · rw [splitString_replicate hd]
      exact delimiters k
    · rw [splitString_replicate_append hd, List.append_nil, InPlace.splitString_token ht.1 ht.2]
      exact last k t ht
    · rw [splitString_replicate_append hd, splitString_token_append hd ht (.inr ⟨s, rfl⟩),
        InPlace.splitString_cons_delimiter hd]
      -- what is left of the string is shorter by a delimiter
      simp only [List.length_append, List.length_cons] at hlen
      exact token k t s ht (ih s.length (by omega) (fun x hx => hs x (by simp [hx])) rfl)

theorem splitString_eq_nil_iff (hd : d ≠ 0) {s : Bytes} (hs : ∀ x ∈ s, x ≠ 0) :
    splitString s d = [] ↔ ∃ k, s = List.replicate k d := by
  refine ⟨fun h => ?_, ?_⟩
  · rcases splitString_cases hd hs with hk | ⟨k, t, rest, rfl, ht, hrest⟩
    · exact hk
    · rw [splitString_replicate_append hd, splitString_token_append hd ht hrest] at h
      simp at h
  · rintro ⟨k, rfl⟩
    exact splitString_replicate hd k

theorem eq_of_splitString_eq_cons (hd : d ≠ 0) {s t : Bytes} {ts : List Bytes}
    (hs : ∀ x ∈ s, x ≠ 0) (h : splitString s d = t :: ts) :
    ∃ k rest, s = List.replicate k d ++ (t ++ rest) ∧ Token d t ∧
      (rest = [] ∨ ∃ s₂, rest = d :: s₂) ∧ splitString rest d = ts := by
  rcases splitString_cases hd hs with ⟨k, rfl⟩ | ⟨k, t', rest, rfl, ht, hrest⟩
  · rw [splitString_replicate hd] at h
    simp at h
  · rw [splitString_replicate_append hd, splitString_token_append hd ht hrest] at h
    obtain ⟨rfl, rfl⟩ := List.cons.inj h
    exact ⟨k, rest, rfl, ht, hrest, rfl⟩

theorem splitString_eq_pair_iff (hd : d ≠ 0) {s : Bytes} (hs : ∀ x ∈ s, x ≠ 0) (t t' : Bytes) :
    splitString s d = [t, t'] ↔ Token d t ∧ Token d t' ∧ ∃ a b c,
      s = List.replicate a d ++ (t ++ (List.replicate (b + 1) d ++ (t' ++ List.replicate c d))) := by
  refine ⟨fun h => ?_, ?_⟩
  · obtain ⟨a, rest, rfl, ht, hrest, htail⟩ := eq_of_splitString_eq_cons hd hs h
    rcases hrest with rfl | ⟨s₂, rfl⟩
    · rw [InPlace.splitString_nil] at htail
      simp at htail
    · rw [InPlace.splitString_cons_delimiter hd] at htail
      obtain ⟨b, rest, rfl, ht', -, hnil⟩ :=
        eq_of_splitString_eq_cons hd (fun x hx => hs x (by simp [hx])) htail
      obtain ⟨c, rfl⟩ := (splitString_eq_nil_iff hd fun x hx => hs x (by simp [hx])).1 hnil
      exact ⟨ht, ht', a, b, c, by simp [List.replicate_succ]⟩
  · rintro ⟨ht, ht', a, b, c, rfl⟩
    have hdelims : ∀ k, List.replicate k d = [] ∨ ∃ s, List.replicate k d = d :: s := by
      intro k
      cases k with
      | zero => exact .inl rfl
      | succ k => exact .inr ⟨_, List.replicate_succ⟩
    rw [splitString_replicate_append hd, splitString_token_append hd ht
        (.inr ⟨_, by rw [List.replicate_succ, List.cons_append]⟩), splitString_replicate_append hd,
      splitString_token_append hd ht' (hdelims c), splitString_replicate hd]

end Split

/-! ## The entries of the token arrays -/

/-- Entry `i` of the array `splitString` returns: a token, or the null behind the last one. -/
def entry (tokens : List Bytes) (i : Nat) : Option Bytes := tokens[i]?

/-- The entries `receiveLoop` passes on: to the second split, to `tableName` and `write_in_db`, or to
the comparisons of the window report. -/
def usedEntries (buffer : Bytes) : List (Option Bytes) :=
  let sensornameAndValue := splitString buffer SEP_VALUE
  if sensornameAndValue.length = 2 then
    let cmdSensorPos := splitString ((entry sensornameAndValue 0).getD []) SEP_SENSOR
    entry sensornameAndValue 0 ::
      if cmdSensorPos.length = 3 then
        [entry cmdSensorPos 0, entry cmdSensorPos 1, entry cmdSensorPos 2, entry sensornameAndValue 1]
      else [entry cmdSensorPos 0, entry sensornameAndValue 1]
  else []

/-- The processing of a datagram uses tokens only, and so comes to its end. -/
structure OnlyTokens (d : Bytes) : Prop where
  entries : ∀ e ∈ usedEntries (InPlace.received d), e.isSome = true
  completes : ∀ save, InPlace.receiveLoop ⟨InPlace.received d, save⟩ ≠ none

/-- A name of underscores only, and a value. -/
def BareName (d : Bytes) : Prop :=
  ∃ a j b c value, Token SEP_VALUE value ∧
    cstr d = List.replicate a SEP_VALUE ++ (List.replicate (j + 1) SEP_SENSOR ++
      (List.replicate (b + 1) SEP_VALUE ++ (value ++ List.replicate c SEP_VALUE)))

theorem cstr_append_replicate (d : Bytes) (k : Nat) : cstr (d ++ List.replicate k 0) = cstr d := by
  unfold cstr
  induction d with
  | nil => cases k <;> simp [List.replicate_succ]
  | cons x d ih =>
    rw [List.cons_append, List.takeWhile_cons, List.takeWhile_cons, ih]

/-- The first of two parts has no token. -/
def NoCommand (buffer : Bytes) : Prop :=
  ∃ name value, splitString buffer SEP_VALUE = [name, value] ∧ splitString name SEP_SENSOR = []

theorem usedEntries_iff (buffer : Bytes) :
    (∀ e ∈ usedEntries buffer, e.isSome = true) ↔ ¬ NoCommand buffer := by
  unfold usedEntries NoCommand
  rcases hsplit : splitString buffer SEP_VALUE with _ | ⟨name, _ | ⟨value, _ | ⟨third, parts⟩⟩⟩
  · simp
  · simp
  · rcases hname : splitString name SEP_SENSOR with _ | ⟨cmd, _ | ⟨sensor, _ | ⟨pos, _ | ⟨x, rest⟩⟩⟩⟩ <;>
      simp [entry, hname]
  · simp

theorem receiveLoop_eq_none_iff (buffer : Bytes) : receiveLoop buffer = none ↔ NoCommand buffer := by
  unfold receiveLoop NoCommand
  rcases hsplit : splitString buffer SEP_VALUE with _ | ⟨name, _ | ⟨value, _ | ⟨third, parts⟩⟩⟩
  · simp
  · simp
  · rcases hname : splitString name SEP_SENSOR with _ | ⟨cmd, rest⟩
    · simp [hname]
    · have hsome : ¬ ∃ name' value', [name, value] = [name', value'] ∧
          splitString name' SEP_SENSOR = [] := by simp [hname]
      simp only [hname, hsome, iff_false]
      split
      · simp
      · rename_i hnil
        simp at hnil
      · split_ifs <;> simp
  · simp

/-- The first part has no token: it is underscores only. -/
theorem noCommand_iff (d : Bytes) : NoCommand (InPlace.received d) ↔ BareName d := by
  have hcstr : ∀ x ∈ cstr d, x ≠ 0 := fun x hx => InPlace.ne_of_mem_cstr hx
  unfold NoCommand BareName
  rw [← InPlace.splitString_cstr, InPlace.received, cstr_append_replicate]
  refine ⟨fun h => ?_, fun h => ?_⟩
  · obtain ⟨name, value, hsplit, hname⟩ := h
    obtain ⟨htoken, hvalue, a, b, c, heq⟩ :=
      (splitString_eq_pair_iff (by decide) hcstr name value).1 hsplit
    obtain ⟨k, rfl⟩ := (splitString_eq_nil_iff (by decide) fun x hx => (htoken.2 x hx).1).1 hname
    cases k with
    | zero => exact absurd rfl htoken.1
    | succ j => exact ⟨a, j, b, c, value, hvalue, heq⟩
  · obtain ⟨a, j, b, c, value, hvalue, heq⟩ := h
    have htoken : Token SEP_VALUE (List.replicate (j + 1) SEP_SENSOR) := by
      refine ⟨by simp, fun x hx => ?_⟩
      rw [List.eq_of_mem_replicate hx]
      decide
    exact ⟨_, value, (splitString_eq_pair_iff (by decide) hcstr _ value).2
      ⟨htoken, hvalue, a, b, c, heq⟩, splitString_replicate (by decide) (j + 1)⟩

/-- **Which datagrams crash the receiver**: those of two parts whose first is underscores only. -/
theorem only_tokens_iff {d : Bytes} (h : d.length < MAXBUF) : OnlyTokens d ↔ ¬ BareName d := by
  rw [← noCommand_iff]
  refine ⟨fun hd => (usedEntries_iff _).1 hd.entries, fun hd => ⟨(usedEntries_iff _).2 hd, ?_⟩⟩
  intro save
  rw [InPlace.receiveLoop_eq (InPlace.nul_mem_received h)]
  exact fun hnone => hd ((receiveLoop_eq_none_iff _).1 hnone)

theorem bareName_sample : BareName (str "_/x") :=
  ⟨0, 0, 0, 0, str "x", ⟨by decide, InPlace.forall_bytes (by decide)⟩, by decide⟩

theorem null_entry_used : ¬ OnlyTokens (str "_/x") := by
  intro h
  exact (usedEntries_iff _).1 h.entries ((noCommand_iff _).2 bareName_sample)

/-- An empty name has no first part at all. -/
theorem only_tokens_iff_slash : OnlyTokens (str "/x") ↔ ¬ BareName (str "/x") :=
  only_tokens_iff (by decide)

/-! ## The buffer of the statement -/

/-- Every statement that a datagram makes `write_in_db` assemble fits into `buf`. -/
def StatementsFit (d : Bytes) : Prop :=
  ∀ save rows, InPlace.receiveLoop ⟨InPlace.received d, save⟩ = some rows →
    ∀ row ∈ rows, Fits row.1 row.2

/-- The fields of a measurement leave room for the fixed parts of the statement. -/
def ShortFields (d : Bytes) : Prop :=
  ∀ cmd sensor pos value, measurement d = some (cmd, sensor, pos, value) →
    sensor.length + pos.length + value.length ≤ 203

theorem fits_measurement_iff (sensor pos value : Bytes) :
    Fits (tableName sensor pos) value ↔ sensor.length + pos.length + value.length ≤ 203 := by
  simp only [Fits, statement, tableName, List.length_append, List.length_cons, str, List.length_map,
    BUF]
  simp
  omega

theorem splitString_received (d : Bytes) (delimiter : UInt8) :
    splitString (InPlace.received d) delimiter = splitString d delimiter := by
  rw [← InPlace.splitString_cstr, InPlace.received, cstr_append_replicate, InPlace.splitString_cstr]

theorem receiveLoop_received {d : Bytes} (h : d.length < MAXBUF) (save : Option Nat) :
    InPlace.receiveLoop ⟨InPlace.received d, save⟩ = receiveLoop d := by
  rw [InPlace.receiveLoop_eq (InPlace.nul_mem_received h), receiveLoop, splitString_received, receiveLoop]

theorem statementsFit_measurement {d cmd sensor pos value : Bytes} (h : d.length < MAXBUF)
    (hm : measurement d = some (cmd, sensor, pos, value)) :
    StatementsFit d ↔ Fits (tableName sensor pos) value := by
  unfold StatementsFit
  simp only [receiveLoop_received h, (receiveLoop_measurement hm).1]
  refine ⟨fun hfits => hfits none _ rfl (tableName sensor pos, value) (by simp),
    fun hfits save rows hrows row hrow => ?_⟩
  obtain rfl := Option.some.inj hrows
  obtain rfl := List.mem_singleton.1 hrow
  exact hfits

/-- **Which datagrams overrun the statement buffer**: measurements whose fields are more than 203
bytes together. -/
theorem statements_fit_iff {d : Bytes} (h : d.length < MAXBUF) : StatementsFit d ↔ ShortFields d := by
  rcases hm : measurement d with _ | ⟨cmd, sensor, pos, value⟩
  · refine ⟨fun _ cmd sensor pos value hd => by simp [hm] at hd, fun _ save rows hrows row hrow => ?_⟩
    -- What is no measurement requests the two rows of a window report at most.
    have hreports := (receiveLoop_other hm).1
    rw [receiveLoop_received h] at hrows
    rw [hrows, Option.getD_some] at hreports
    rw [hreports] at hrow
    obtain ⟨c, -, rfl⟩ := List.mem_map.1 hrow
    exact fits_report c
  · rw [statementsFit_measurement h hm, fits_measurement_iff]
    refine ⟨fun hlen cmd' sensor' pos' value' hd => ?_, fun hshort => hshort cmd sensor pos value hm⟩
    rw [hm] at hd
    simp only [Option.some.injEq, Prod.mk.injEq] at hd
    obtain ⟨-, rfl, rfl, rfl⟩ := hd
    exact hlen

theorem statements_fit_iff_temp :
    StatementsFit (str "PUT_Temp_IN/22.5") ↔ ShortFields (str "PUT_Temp_IN/22.5") :=
  statements_fit_iff (by decide)

/-- A measurement with a value of 202 bytes, in 210 bytes. -/
def longValue : Bytes := str "PUT_a_b/" ++ List.replicate 202 120

theorem measurement_longValue :
    measurement longValue = some (CMD_PUT, str "a", str "b", List.replicate 202 120) := by
  have hvalue : List.replicate 202 (120 : UInt8) ≠ [] ∧
      ∀ x ∈ List.replicate 202 (120 : UInt8), x ≠ 0 ∧ x ≠ SEP_VALUE := by
    refine ⟨by simp, fun x hx => ?_⟩
    rw [List.eq_of_mem_replicate hx]
    decide
  obtain ⟨hsplit, hname⟩ :=
    @InPlace.split_measurement _ (str "a") (str "b") (List.replicate 202 120) InPlace.put_token
      ⟨by decide, InPlace.forall_bytes (by decide)⟩ ⟨by decide, InPlace.forall_bytes (by decide)⟩ hvalue
  have heq : longValue = (CMD_PUT ++ SEP_SENSOR :: (str "a" ++ SEP_SENSOR :: str "b")) ++
      SEP_VALUE :: List.replicate 202 120 := by
    simp [longValue, CMD_PUT, SEP_SENSOR, SEP_VALUE, str]
  simp only [measurement, heq, hsplit, hname]

theorem statement_overrun : ¬ ∀ d : Bytes, d.length < MAXBUF → StatementsFit d := by
  intro h
  have hlen : longValue.length < MAXBUF := by
    rw [longValue, List.length_append, List.length_replicate]
    decide
  have hlong := (fits_measurement_iff _ _ _).1
    ((statementsFit_measurement hlen measurement_longValue).1 (h longValue hlen))
  rw [List.length_replicate] at hlong
  exact absurd hlong (by decide)

end SmartWindow
