/-
Which table an INSERT is into, by its text. The server decides, and it is not
part of the repository; but the rules by which it finds the name behind
INSERT INTO are documented, and they are these: blanks and comments do not
count, a name stands in backquotes or is made of letters, digits, `_` and `$`,
and the database's own name may stand before it, with a dot. For a table text
of plain bytes the name is that text (`target_statement`).

A statement that `write_in_db` assembles for a datagram has no slash in it, so
a comment is one to the end of a line.
-/
import SmartWindow.Store.WriteRead

namespace SmartWindow

/-- A byte of a name that needs no quotes. -/
def isname (c : UInt8) : Bool :=
  isdigit c || (65 ≤ c && c ≤ 90) || (97 ≤ c && c ≤ 122) || c == 36 || c == 95 || 128 ≤ c

/-- Two dashes begin a comment where a blank or a control character follows. -/
def dashes (s : Bytes) : Bool := s.head? == some 45 && (s.tail.head?.all fun c => c ≤ 32 || c == 127)

/-- What is left of a text behind its blanks and comments; within a comment it begins behind the end of
the line. -/
def skipBlanks (comment : Bool) : Bytes → Bytes
  | [] => []
  | c :: s =>
    if comment then skipBlanks (c != 10) s
    else if isspace c then skipBlanks false s
    else if c == 35 || (c == 45 && dashes s) then skipBlanks true s
    else c :: s

/-- A name in backquotes, from behind the first of them, and what follows it. Two of them in a row stand
for one. -/
def quotedName : Bytes → Option (Bytes × Bytes)
  | [] => none
  | c :: s =>
    if c != 96 then (quotedName s).map fun r => (c :: r.1, r.2)
    else
      match s with
      | [] => some ([], [])
      | c' :: s' => if c' == 96 then (quotedName s').map fun r => (96 :: r.1, r.2) else some ([], c' :: s')

/-- The name that a text begins with, and what follows it. -/
def readName (s : Bytes) : Option (Bytes × Bytes) :=
  if s.head? = some 96 then quotedName s.tail
  else if s.takeWhile isname = [] then none
  else some (s.takeWhile isname, s.dropWhile isname)

/-- The table that a text begins with; `none` where it is not one of this database. -/
def tableReference (s : Bytes) : Option Bytes :=
  let s := skipBlanks false s
  if s.head? = some 46 then (readName (skipBlanks false s.tail)).map (·.1)
  else
    (readName s).bind fun r =>
      let rest := skipBlanks false r.2
      if rest.head? ≠ some 46 then some r.1
      else if r.1 = str "SmartWindow" then (readName (skipBlanks false rest.tail)).map (·.1)
      else none

/-- The table that an INSERT names. -/
def target (text : Bytes) : Option Bytes := tableReference (text.drop (str "INSERT INTO ").length)

theorem isname_spec {c : UInt8} (h : isname c = true) :
    isspace c = false ∧ c ≠ 35 ∧ c ≠ 45 ∧ c ≠ 46 ∧ c ≠ 96 := by
  have hne (x : UInt8) (hx : isname x = false) : c ≠ x := by
    rintro rfl
    rw [hx] at h
    cases h
  refine ⟨?_, hne 35 (by decide), hne 45 (by decide), hne 46 (by decide), hne 96 (by decide)⟩
  simp only [isname, isdigit, isspace, Bool.or_eq_true, Bool.and_eq_true, decide_eq_true_eq, beq_iff_eq,
    ← Bool.not_eq_true, UInt8.le_iff_toNat_le, ← UInt8.toNat_inj] at h ⊢
  simp only [UInt8.reduceToNat] at h ⊢
  omega

/-- A text of plain bytes names itself. -/
theorem target_statement {table : Bytes} (hne : table ≠ []) (h : ∀ c ∈ table, isname c = true)
    (value : Bytes) : target (statement table value) = some table := by
  obtain ⟨rest, hrest⟩ : ∃ rest, statement table value = str "INSERT INTO " ++ (table ++ 32 :: 40 :: rest) :=
    ⟨_, by simp only [statement, List.append_assoc]; rfl⟩
  obtain ⟨c, s, rfl⟩ := List.exists_cons_of_ne_nil hne
  obtain ⟨hspace, hhash, hdash, hdot, hquote⟩ := isname_spec (h c (by simp))
  have hskip : skipBlanks false (c :: s ++ 32 :: 40 :: rest) = c :: s ++ 32 :: 40 :: rest := by
    simp [skipBlanks, hspace, hhash, hdash]
  have htake : (c :: s ++ 32 :: 40 :: rest).takeWhile isname = c :: s := by
    rw [List.takeWhile_append_of_pos h, List.takeWhile_cons_of_neg (by decide), List.append_nil]
  have hdrop : (c :: s ++ 32 :: 40 :: rest).dropWhile isname = 32 :: 40 :: rest := by
    rw [List.dropWhile_append_of_pos h, List.dropWhile_cons_of_neg (by decide)]
  have hread : readName (c :: s ++ 32 :: 40 :: rest) = some (c :: s, 32 :: 40 :: rest) := by
    rw [readName, htake, hdrop]
    simp [hquote]
  have hnext : (skipBlanks false (32 :: 40 :: rest)).head? ≠ some 46 := by
    simp [skipBlanks, isspace]
  rw [target, hrest, List.drop_left, tableReference, hskip, hread]
  simp [hdot, hnext]

example : target (statement (str "SmartWindow . `Win_Open`") (str "7")) = some (str "Win_Open") := by
  decide +kernel

example : target (statement (str "#_\nManOpen") (str "1")) = some (str "ManOpen") := by decide +kernel

end SmartWindow
