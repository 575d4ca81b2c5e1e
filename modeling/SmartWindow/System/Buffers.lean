/-
The receive buffers of both programs over any sequence of datagrams.
`receiveLoop` (main_controller.cpp) clears its buffer in front of each
`recvfrom` and parses in place; `communication_thread` (main.c) clears in front
of its loop and at the end of each iteration, whatever `recvfrom` returned,
and parses a copy. Either way `recvfrom` finds the buffer cleared, and either
one asks it for as many bytes as the buffer has.
-/
import SmartWindow.Controller.InPlace

namespace SmartWindow

open InPlace (MAXBUF)

/-! ## Buffers of a fixed size -/

structure Buffer (size : Nat) where
  bytes : Bytes
  length_eq : bytes.length = size

/-- What `recvfrom` can store of a datagram without NULs in a buffer of this size. -/
structure Payload (size : Nat) where
  bytes : Bytes
  ne_nil : bytes ≠ []
  no_nul : ∀ x ∈ bytes, x ≠ 0
  le_size : bytes.length ≤ size

/-- What a call of `recvfrom` comes to. -/
inductive Recv (size : Nat)
  | error
  | empty
  | data (d : Payload size)

variable {size : Nat}

/-- `memset(buffer, 0, size)` -/
def Buffer.cleared : Buffer size := ⟨List.replicate size 0, List.length_replicate⟩

/-- A datagram in the front of the buffer. -/
def recvfrom (buffer : Buffer size) (d : Payload size) : Buffer size where
  bytes := d.bytes ++ buffer.bytes.drop d.bytes.length
  length_eq := by
    rw [List.length_append, List.length_drop, buffer.length_eq]
    exact Nat.add_sub_cancel' d.le_size

/-- `strcpy`; `none` where it leaves the source or the destination. -/
def strcpy (dest src : Buffer size) : Option (Buffer size) :=
  if h : (cstr src.bytes).length < size then
    some
      { bytes := cstr src.bytes ++ 0 :: dest.bytes.drop ((cstr src.bytes).length + 1)
        length_eq := by
          rw [List.length_append, List.length_cons, List.length_drop, dest.length_eq]
          omega }
  else none

/-- The string in the buffer ends inside it and is the datagram. -/
structure Interprets (buffer : Buffer size) (d : Payload size) : Prop where
  inside : 0 ∈ buffer.bytes
  string : cstr buffer.bytes = d.bytes

/-! ## The two loops -/

/-- The buffers that `receiveLoop` parses, with their datagrams. An error ends the loop; `process` is
what the processing leaves of the buffer. -/
def parsed (process : Buffer MAXBUF → Buffer MAXBUF) :
    Buffer MAXBUF → List (Recv MAXBUF) → List (Payload MAXBUF × Buffer MAXBUF)
  | _, [] => []
  | _, .error :: _ => []
  | _, .empty :: rs => parsed process .cleared rs
  | _, .data d :: rs =>
    (d, recvfrom .cleared d) :: parsed process (process (recvfrom .cleared d)) rs

/-- The datagrams that `receiveLoop` comes to. -/
def handled : List (Recv size) → List (Payload size)
  | [] => []
  | .error :: _ => []
  | .empty :: rs => handled rs
  | .data d :: rs => d :: handled rs

/-- What `communication_thread` has in `pp_buffer` and, by `strcpy`, in `command`, with the datagram. -/
def copied : Buffer PP_BUF_SIZE → Buffer PP_BUF_SIZE → List (Recv PP_BUF_SIZE) →
    List (Payload PP_BUF_SIZE × Buffer PP_BUF_SIZE × Option (Buffer PP_BUF_SIZE))
  | _, _, [] => []
  | _, _, .error :: rs => copied .cleared .cleared rs
  | _, _, .empty :: rs => copied .cleared .cleared rs
  | pp_buffer, command, .data d :: rs =>
    (d, recvfrom pp_buffer d, strcpy command (recvfrom pp_buffer d)) ::
      copied .cleared .cleared rs

/-- Each datagram is parsed as it came. -/
def ParsesExactly (process : Buffer MAXBUF → Buffer MAXBUF) (buffer : Buffer MAXBUF)
    (rs : List (Recv MAXBUF)) : Prop :=
  ∀ x ∈ parsed process buffer rs, Interprets x.2 x.1

/-- Each datagram is copied as it came, from a `command` that holds anything at first. -/
def CopiesExactly (command : Buffer PP_BUF_SIZE) (rs : List (Recv PP_BUF_SIZE)) : Prop :=
  ∀ x ∈ copied .cleared command rs,
    Interprets x.2.1 x.1 ∧ ∃ copy, x.2.2 = some copy ∧ Interprets copy x.1

/-! ## One datagram -/

theorem bytes_recvfrom_cleared (d : Payload size) :
    (recvfrom .cleared d).bytes = d.bytes ++ List.replicate (size - d.bytes.length) 0 := by
  simp [recvfrom, Buffer.cleared]

theorem bytes_recvfrom_eq_received (d : Payload MAXBUF) :
    (recvfrom .cleared d).bytes = InPlace.received d.bytes := bytes_recvfrom_cleared d

/-- Into a cleared buffer: unless the datagram fills it, a NUL is left behind it. -/
theorem interprets_recvfrom_iff (d : Payload size) :
    Interprets (recvfrom .cleared d) d ↔ d.bytes.length < size := by
  have hbytes := bytes_recvfrom_cleared d
  refine ⟨fun h => ?_, fun h => ?_⟩
  · by_contra hfull
    have hnul := h.inside
    rw [hbytes, Nat.sub_eq_zero_of_le (not_lt.1 hfull), List.replicate_zero, List.append_nil] at hnul
    exact d.no_nul 0 hnul rfl
  · obtain ⟨k, hk⟩ := Nat.exists_eq_add_of_lt h
    have hrest : size - d.bytes.length = k + 1 := by omega
    rw [hrest, List.replicate_succ] at hbytes
    exact ⟨by simp [hbytes], by rw [hbytes, InPlace.cstr_append_nul d.no_nul]⟩

theorem interprets_strcpy {buffer : Buffer size} {d : Payload size} (h : Interprets buffer d)
    (hlen : d.bytes.length < size) (command : Buffer size) :
    ∃ copy, strcpy command buffer = some copy ∧ Interprets copy d := by
  have hfits : (cstr buffer.bytes).length < size := by rwa [h.string]
  exact ⟨_, dif_pos hfits, ⟨by simp,
    (InPlace.cstr_append_nul (fun x hx => InPlace.ne_of_mem_cstr hx) _).trans h.string⟩⟩

/-! ## Every sequence -/

theorem parsesExactly_iff (process : Buffer MAXBUF → Buffer MAXBUF) (buffer : Buffer MAXBUF)
    (rs : List (Recv MAXBUF)) :
    ParsesExactly process buffer rs ↔ ∀ d ∈ handled rs, d.bytes.length < MAXBUF := by
  unfold ParsesExactly
  induction rs generalizing buffer with
  | nil => simp [parsed, handled]
  | cons r rs ih =>
    cases r with
    | error => simp [parsed, handled]
    | empty => exact ih .cleared
    | data d => rw [parsed, handled, List.forall_mem_cons, List.forall_mem_cons, ih,
        interprets_recvfrom_iff]

theorem copiesExactly_iff (command : Buffer PP_BUF_SIZE) (rs : List (Recv PP_BUF_SIZE)) :
    CopiesExactly command rs ↔ ∀ d, .data d ∈ rs → d.bytes.length < PP_BUF_SIZE := by
  unfold CopiesExactly
  induction rs generalizing command with
  | nil => simp [copied]
  | cons r rs ih =>
    cases r with
    | error => simpa [copied] using ih .cleared
    | empty => simpa [copied] using ih .cleared
    | data d =>
      have hhead : (Interprets (recvfrom .cleared d) d ∧
          ∃ copy, strcpy command (recvfrom .cleared d) = some copy ∧ Interprets copy d) ↔
          d.bytes.length < PP_BUF_SIZE := by
        rw [interprets_recvfrom_iff]
        exact ⟨fun h => h.1, fun h =>
          ⟨h, interprets_strcpy ((interprets_recvfrom_iff d).2 h) h command⟩⟩
      rw [copied, List.forall_mem_cons, ih .cleared]
      simp only [hhead, List.mem_cons, Recv.data.injEq, forall_eq_or_imp]

/-- **When each receiver interprets exactly the current datagram**: while none fills the buffer. -/
theorem interprets_iff (process : Buffer MAXBUF → Buffer MAXBUF) (buffer : Buffer MAXBUF)
    (rs : List (Recv MAXBUF)) (command : Buffer PP_BUF_SIZE) (rs' : List (Recv PP_BUF_SIZE)) :
    (ParsesExactly process buffer rs ↔ ∀ d ∈ handled rs, d.bytes.length < MAXBUF) ∧
      (CopiesExactly command rs' ↔ ∀ d, .data d ∈ rs' → d.bytes.length < PP_BUF_SIZE) :=
  ⟨parsesExactly_iff process buffer rs, copiesExactly_iff command rs'⟩

/-- A datagram as long as the buffer. -/
def fullPayload (size : Nat) (h : 0 < size) : Payload size where
  bytes := List.replicate size 120
  ne_nil := by
    rw [ne_eq, List.replicate_eq_nil_iff]
    omega
  no_nul := fun x hx => by
    rw [List.eq_of_mem_replicate hx]
    decide
  le_size := List.length_replicate.le

/-- A datagram of full length leaves no NUL in either buffer. -/
theorem full_datagram_unterminated :
    ¬ ParsesExactly id .cleared [.data (fullPayload MAXBUF (by decide))] ∧
      ¬ CopiesExactly .cleared [.data (fullPayload PP_BUF_SIZE (by decide))] := by
  refine ⟨fun h => ?_, fun h => ?_⟩
  · have hlen := (parsesExactly_iff _ _ _).1 h _ (by simp [handled]; rfl)
    simp [fullPayload] at hlen
  · have hlen := (copiesExactly_iff _ _).1 h _ (by simp; rfl)
    simp [fullPayload] at hlen

end SmartWindow
