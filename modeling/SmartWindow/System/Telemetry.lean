/-
The measurements of both nodes on their way into the database, under any
schedule. For each node and quantity the books balance in every state of every
run (`run_books`): what its table holds is part of what the node has measured,
in order, and what is missing is under way or was lost (`telemetry`). A node
that is told something it has no case for measures nothing any more
(`silent_after_unknown`); to the outside node, every window command is that.
-/
import SmartWindow.Lib.Ledger
import SmartWindow.System.Network

namespace SmartWindow

open Ledger

/-! ## The books -/

/-- The texts that a message brings for a table. -/
def textsFor (table m : Bytes) : List Bytes :=
  ((receiveLoop m).getD []).filterMap fun row => if row.1 = table then some row.2 else none

/-- The measurement that a node has made and not sent yet. -/
def Node.unsent (n : Node) : List MeasuredData :=
  if n.main = .msg_send .FINISH_MEASUREMENT ∨ .FINISH_MEASUREMENT ∈ n.pp_msg_queue then [n.data] else []

/-- The texts of a quantity of a node in messages or yet to be sent. -/
def Network.underway (printF : Int → Nat → Bytes) (q : Quantity) (b : Build) (s : Network) : List Bytes :=
  (s.reports b).flatMap (textsFor (q.table b)) ++ (s.node b).unsent.map (q.text printF)

/-- The books of a quantity of a node: the texts of its measurements, those stored, those under way, and
the number of those that got lost. -/
def Network.books (printF : Int → Nat → Bytes) (q : Quantity) (b : Build) (s : Network)
    (tr : List NetworkEvent) (stored : List Bytes) : Books Bytes where
  produced := (measured (eventsOf b tr)).map (q.text printF)
  stored := stored
  underway := s.underway printF q b
  lost := ((lostOf b tr).flatMap (textsFor (q.table b))).length

variable {printF : Int → Nat → Bytes} {store : TableDef → Bytes → Option Bytes}
  {s s' : Network} {tr es : List NetworkEvent} {b : Build}

/-! ## The texts in the messages -/

theorem textsFor_eq {table m : Bytes} {row : Row} (h : receiveLoop m = some [row]) :
    textsFor table m = if row.1 = table then [row.2] else [] := by
  rw [textsFor, h, Option.getD_some, List.filterMap_cons]
  split_ifs <;> rfl

theorem textsFor_answers (hprint : Prints printF) (q : Quantity) (b : Build) (data : MeasuredData) :
    (answers b printF data .FINISH_MEASUREMENT).flatMap (textsFor (q.table b)) = [q.text printF data] := by
  have htexts (q' : Quantity) : textsFor (q.table b) (sendString b q'.sensor (q'.text printF data)) =
      if q' = q then [q.text printF data] else [] := by
    rw [textsFor_eq (receiveLoop_sendString q' b (hprint.text q' data))]
    by_cases hq : q' = q
    · subst hq
      simp
    · rw [if_neg hq, if_neg fun h => hq (Quantity.table_inj h).1]
  rw [answers_measurement]
  simp only [List.map_cons, List.map_nil, List.flatMap_cons, List.flatMap_nil, htexts]
  cases q <;> rfl

theorem textsFor_window (q : Quantity) (b : Build) :
    textsFor (q.table b) SW_FINISH_OPEN_WINDOW = [] ∧ textsFor (q.table b) SW_FINISH_CLOSE_WINDOW = [] := by
  cases q <;> cases b <;> decide

/-! ## What a node owes -/

theorem measured_turn {c : CommunicationCommand} (hc : c ≠ .START_MEASUREMENT) {b : Build} {w : Window}
    {data m : MeasuredData} : measured (turn b w data m c).events = [] := by
  refine List.filterMap_eq_nil_iff.2 fun e he => ?_
  have hne := ((turn_unmeasured hc b w data m).1 e he).2
  cases e with
  | measured m' => exact absurd rfl (hne m')
  | recvfrom | request | servo_set | reply | pp_send => rfl

theorem turn_unsent {b : Build} {n : Node} {c : CommunicationCommand} (hp : n.At b (.serving c))
    (hc : n.mainCommand ≠ .START_MEASUREMENT) (m : MeasuredData) (n' : Node)
    (hmain : n'.main = match (turn b n.window n.data m n.mainCommand).reply with
      | some c => .msg_send c
      | none => loopHead (turn b n.window n.data m n.mainCommand).window)
    (hqueue : n'.pp_msg_queue = n.pp_msg_queue) : n'.unsent = [] := by
  refine if_neg fun h => ?_
  rcases h with h | h
  · rw [hmain] at h
    split at h
    · next c hr =>
      exact (turn_unmeasured hc b n.window n.data m).2.2.1 (hr.trans (congrArg some (MainPc.msg_send.inj h)))
    · unfold loopHead at h
      split at h <;> cases h
  · rw [hqueue, hp.2.2.1] at h
    cases h

/-- **What a node measures it sends**, or owes. -/
theorem sends_measured (hprint : Prints printF) {b : Build} {n n' : Node} {es : List NodeEvent}
    {p : Dialog} (hp : n.At b p) (hs : NodeStep b printF n es n') (q : Quantity) :
    (sentOut es).flatMap (textsFor (q.table b)) ++ n'.unsent.map (q.text printF) =
      n.unsent.map (q.text printF) ++ (measured es).map (q.text printF) := by
  cases hs with
  | noDatagram | recvfrom => simp [sentOut, measured, Node.unsent]
  | request _ hmain => simp [sentOut, measured, Node.unsent, hmain]
  | turn m hmain =>
    obtain ⟨c, rfl⟩ := serving_of_switch hp hmain
    have hunsent : n.unsent = [] := by simp [Node.unsent, hmain, hp.2.2.1]
    by_cases hc : n.mainCommand = .START_MEASUREMENT
    · have hturn : turn b n.window n.data m n.mainCommand =
          ⟨[.measured m], n.window, m, .FINISH_MEASUREMENT, some .FINISH_MEASUREMENT⟩ := by
        rw [hc]
        cases b <;> rfl
      rw [hturn, hunsent]
      simp [sentOut, measured, Node.unsent]
    · obtain ⟨hevents, -⟩ := turn_unmeasured hc b n.window n.data m
      rw [hunsent, measured_turn hc, sentOut_work fun e he => (hevents e he).1]
      exact List.map_eq_nil_iff.2 (turn_unsent hp hc m _ rfl rfl)
  | reply c hmain _ =>
    obtain ⟨c', rfl, rfl⟩ := replying_of_msg_send hp hmain
    have hhead : loopHead n.window = .msg_receive := by simp [loopHead, hp.2.2.2.2.2]
    simp [sentOut, measured, Node.unsent, hmain, hp.2.2.1, hhead, eq_comm]
  | answer c rest hcomm hq =>
    obtain ⟨c', rfl, rfl, rfl⟩ := replied_of_queue hp hq
    rw [sentOut_pp_send, measured_pp_send]
    have hmain : n.main = .msg_receive := hp.2.1
    cases c' with
    | START_MEASUREMENT =>
      rw [show CommunicationCommand.finish .START_MEASUREMENT = .FINISH_MEASUREMENT from rfl,
        textsFor_answers hprint]
      simp [Node.unsent, hq, hmain, CommunicationCommand.finish]
    | START_OPEN_WINDOW =>
      simp [answers, CommunicationCommand.finish, (textsFor_window q b).1, Node.unsent, hq, hmain]
    | START_CLOSE_WINDOW =>
      simp [answers, CommunicationCommand.finish, (textsFor_window q b).2, Node.unsent, hq, hmain]
    | FINISH_MEASUREMENT | FINISH_OPEN_WINDOW | FINISH_CLOSE_WINDOW => cases hp.2.2.2.1

/-! ## The tables -/

/-- The rows that a table has got are what the column keeps of these texts. -/
def Appended (store : TableDef → Bytes → Option Bytes) (d : TableDef) (before after : Table Bytes)
    (texts : List Bytes) : Prop :=
  ∃ new, after.rows = before.rows ++ new ∧ new.map (some ·.value) = texts.map (store d)

theorem Appended.nil {d : TableDef} {before after : Table Bytes} (h : after.rows = before.rows) :
    Appended store d before after [] := ⟨[], by simpa using h, rfl⟩

theorem Appended.append {d : TableDef} {t₀ t₁ t₂ : Table Bytes} {texts new : List Bytes}
    (h : Appended store d t₀ t₁ texts) (h' : Appended store d t₁ t₂ new) :
    Appended store d t₀ t₂ (texts ++ new) := by
  obtain ⟨rows, hrows, hvalues⟩ := h
  obtain ⟨rows', hrows', hvalues'⟩ := h'
  refine ⟨rows ++ rows', by rw [hrows', hrows, List.append_assoc], ?_⟩
  rw [List.map_append, List.map_append, hvalues, hvalues']

theorem Appended.length_eq {d : TableDef} {before after : Table Bytes} {texts texts' : List Bytes}
    (h : Appended store d before after texts) (h' : Appended store d before after texts') :
    texts.length = texts'.length := by
  obtain ⟨new, hrows, hvalues⟩ := h
  obtain ⟨new', hrows', hvalues'⟩ := h'
  obtain rfl : new = new' := List.append_cancel_left (hrows.symm.trans hrows')
  rw [← List.length_map (store d), ← hvalues, hvalues', List.length_map]

theorem Appended.latest {d : TableDef} {before after : Table Bytes} {texts : List Bytes} {text : Bytes}
    (h : Appended store d before after (texts ++ [text])) :
    ∃ wert, store d text = some wert ∧ after.latest = some wert := by
  obtain ⟨new, hrows, hvalues⟩ := h
  rw [List.map_append, List.map_singleton] at hvalues
  obtain ⟨rows, last, rfl, -, hlast⟩ := List.map_eq_append_iff.1 hvalues
  obtain ⟨row, rfl, hrow⟩ := List.map_eq_singleton_iff.1 hlast
  refine ⟨row.value, hrow.symm, ?_⟩
  rw [Table.latest_eq_getLast?, hrows, ← List.append_assoc, List.getLast?_concat]
  rfl

theorem Appended.latest_one {d : TableDef} {before after : Table Bytes} {text : Bytes}
    (h : Appended store d before after [text]) :
    ∃ wert, store d text = some wert ∧ after.latest = some wert :=
  Appended.latest (show Appended store d before after ([] ++ [text]) from h)

theorem Appended.latest_nil {d : TableDef} {before after : Table Bytes}
    (h : Appended store d before after []) : after.latest = before.latest := by
  obtain ⟨new, hrows, hvalues⟩ := h
  obtain rfl := List.map_eq_nil_iff.1 hvalues
  rw [Table.latest_eq_getLast?, Table.latest_eq_getLast?, hrows, List.append_nil]

theorem find_table {d : TableDef} (hd : d ∈ tables) {name : Bytes} (hname : str d.name = name) :
    tables.find? (fun d' => str d'.name == name) = some d := by
  subst hname
  revert d
  decide

theorem write_in_db_stored {d : TableDef} {t t' : Table Bytes} {c : Call} {accepted : Bool}
    (h : write_in_db store d t c = some (accepted, t')) :
    Appended store d t t' (if accepted then [c.value] else []) := by
  unfold write_in_db at h
  split_ifs at h with hfits
  rcases hs : store d c.value with _ | wert <;> rw [hs, Option.some_inj, Prod.mk.injEq] at h
  · obtain ⟨rfl, rfl⟩ := h
    exact .nil rfl
  · by_cases hfree : t.Free c.now
    · rw [Table.insert_free hfree] at h
      obtain ⟨rfl, rfl⟩ := h
      exact ⟨[⟨t.nextId, c.now, wert⟩], rfl, by simp [hs]⟩
    · rw [Table.insert, dif_neg hfree] at h
      obtain ⟨rfl, rfl⟩ := h
      exact .nil rfl

/-- What a row does to a table: it goes to the table it names. -/
theorem insertRow_stored {now : Nat} {db db' : TableDef → Table Bytes} {row : Row} {accepted : Bool}
    (h : insertRow store now db row = some (accepted, db')) {d : TableDef} (hd : d ∈ tables) :
    Appended store d (db d) (db' d) (if accepted ∧ row.1 = str d.name then [row.2] else []) := by
  unfold insertRow at h
  by_cases hname : str d.name = row.1
  · rw [find_table hd hname] at h
    obtain ⟨⟨accepted', t'⟩, hwrite, heq⟩ := Option.map_eq_some_iff.1 h
    obtain ⟨rfl, rfl⟩ := Prod.mk.inj heq
    simpa [hname] using write_in_db_stored hwrite
  · rw [if_neg fun h => hname h.2.symm]
    refine .nil ?_
    split at h
    · next d' hfind =>
      obtain ⟨⟨accepted', t'⟩, -, heq⟩ := Option.map_eq_some_iff.1 h
      obtain ⟨rfl, rfl⟩ := Prod.mk.inj heq
      have hne : d ≠ d' := by
        rintro rfl
        exact hname (by simpa using List.find?_some hfind)
      simp [hne]
    · split_ifs at h
      obtain ⟨-, rfl⟩ := Prod.mk.inj (Option.some.inj h)
      rfl

theorem insertRows_one {now : Nat} {db : TableDef → Table Bytes} {row : Row} :
    insertRows store now db [row] = insertRow store now db row := by
  simp [insertRows]

theorem exists_insertRows {row : Row} {d : TableDef} (hd : d ∈ tables) (hname : str d.name = row.1)
    (hfits : Fits row.1 row.2) (hstore : (store d row.2).isSome = true) (db : TableDef → Table Bytes) :
    ∃ now db', insertRows store now db [row] = some (true, db') := by
  obtain ⟨now, hfree⟩ := (db d).exists_free
  obtain ⟨wert, hwert⟩ := Option.isSome_iff_exists.1 hstore
  have hwrite : write_in_db store d (db d) ⟨now, row.2⟩ = some (true, (db d).append now wert hfree) := by
    rw [write_in_db, if_pos (hname ▸ hfits), hwert]
    exact congrArg some (Table.insert_free hfree wert)
  refine ⟨now, Function.update db d ((db d).append now wert hfree), ?_⟩
  have hrow : insertRow store now db row =
      some (true, Function.update db d ((db d).append now wert hfree)) := by
    rw [insertRow, find_table hd hname]
    simp [hwrite]
  simp [insertRows, hrow]

/-! ## What a step posts -/

theorem books_append (q : Quantity) (stored : List Bytes) :
    s.books printF q b (tr ++ es) stored =
      ⟨(measured (eventsOf b tr)).map (q.text printF) ++ (measured (eventsOf b es)).map (q.text printF),
        stored,
        (s.reports b).flatMap (textsFor (q.table b)) ++ (s.node b).unsent.map (q.text printF),
        ((lostOf b tr).flatMap (textsFor (q.table b))).length +
          ((lostOf b es).flatMap (textsFor (q.table b))).length⟩ := by
  rw [Network.books, Network.underway, eventsOf_append, lostOf_append, measured_append, List.map_append,
    List.flatMap_append, List.length_append]

theorem books_other (hevents : eventsOf b es = []) (hlost : lostOf b es = [])
    (hreports : s'.reports b = s.reports b) (hnode : s'.node b = s.node b) (q : Quantity)
    (stored : List Bytes) :
    s'.books printF q b (tr ++ es) stored = s.books printF q b tr stored := by
  rw [books_append, hevents, hlost, hreports, hnode]
  simp [Network.books, Network.underway, measured]

theorem books_node (hprint : Prints printF) {p : Dialog} (hp : (s.node b).At b p)
    {nes : List NodeEvent} (hs : NodeStep b printF (s.node b) nes (s'.node b))
    (hevents : eventsOf b es = nes) (hlost : lostOf b es = [])
    (hreports : s'.reports b = s.reports b ++ sentOut nes) (q : Quantity) (stored : List Bytes) :
    Post (s.books printF q b tr stored) (s'.books printF q b (tr ++ es) stored) := by
  have hsends := sends_measured hprint hp hs q
  rw [books_append, hevents, hlost, hreports, List.flatMap_append, List.append_assoc, hsends,
    ← List.append_assoc]
  exact .produce (s.books printF q b tr stored) _

theorem books_lose {m : Bytes} {l₁ l₂ : List Bytes} (hb : s.reports b = l₁ ++ m :: l₂)
    (hevents : eventsOf b es = []) (hlost : lostOf b es = [m]) (hreports : s'.reports b = l₁ ++ l₂)
    (hnode : s'.node b = s.node b) (q : Quantity) (stored : List Bytes) :
    Post (s.books printF q b tr stored) (s'.books printF q b (tr ++ es) stored) := by
  rw [books_append, hevents, hlost, hreports, hnode]
  simp only [measured, List.filterMap_nil, List.map_nil, List.append_nil, List.flatMap_cons,
    List.flatMap_nil, List.flatMap_append, List.append_assoc]
  refine .lose (s.books printF q b tr stored) _ (textsFor (q.table b) m) _ ?_
  simp [Network.books, Network.underway, hb]

theorem books_store {m : Bytes} {ms : List Bytes} (hb : s.reports b = m :: ms)
    (hevents : eventsOf b es = []) (hlost : lostOf b es = []) (hreports : s'.reports b = ms)
    (hnode : s'.node b = s.node b) (q : Quantity) (stored : List Bytes) :
    Post (s.books printF q b tr stored)
      (s'.books printF q b (tr ++ es) (stored ++ textsFor (q.table b) m)) := by
  rw [books_append, hevents, hlost, hreports, hnode]
  simp only [measured, List.filterMap_nil, List.map_nil, List.append_nil, List.flatMap_nil,
    List.length_nil, Nat.add_zero]
  refine .store (s.books printF q b tr stored) _ _ ?_
  simp [Network.books, Network.underway, hb]

/-- **Every step posts to the books** of a quantity, and what it stores goes into the table. -/
theorem NetworkStep.books (hprint : Prints printF) (hok : s.Ok printF)
    (hs : NetworkStep store printF s es s') {d : TableDef} (hd : d ∈ tables) {q : Quantity}
    {b : Build} (htable : str d.name = q.table b) (stored : List Bytes) :
    ∃ new, Appended store d (s.db d) (s'.db d) new ∧
      Relation.ReflGen Post (s.books printF q b tr stored)
        (s'.books printF q b (tr ++ es) (stored ++ new)) := by
  -- a step that leaves the books of this node alone
  have hother (hevents : eventsOf b es = []) (hlost : lostOf b es = [])
      (hreports : s'.reports b = s.reports b) (hnode : s'.node b = s.node b)
      (hdb : Appended store d (s.db d) (s'.db d) []) :
      ∃ new, Appended store d (s.db d) (s'.db d) new ∧
        Relation.ReflGen Post (s.books printF q b tr stored)
          (s'.books printF q b (tr ++ es) (stored ++ new)) := by
    refine ⟨[], hdb, ?_⟩
    rw [List.append_nil, books_other hevents hlost hreports hnode]
  cases hs with
  | multicast d => exact hother rfl rfl rfl rfl (.nil rfl)
  | loseCommand b' l₁ d l₂ _ => exact hother rfl rfl rfl rfl (.nil rfl)
  | receive b' dg ds n hc hn =>
    by_cases hb : b' = b
    · subst hb
      obtain ⟨p, hp, -⟩ := hok.node b'
      refine ⟨[], .nil rfl, .single ?_⟩
      rw [List.append_nil]
      exact books_node hprint hp (by simpa using hn) (by simp [eventsOf]) rfl (by simp [sentOut]) q stored
    · exact hother (by simp [eventsOf, hb]) rfl rfl (Function.update_of_ne (Ne.symm hb) _ _) (.nil rfl)
  | node b' nes n hn _ =>
    by_cases hb : b' = b
    · subst hb
      obtain ⟨p, hp, -⟩ := hok.node b'
      refine ⟨[], .nil rfl, .single ?_⟩
      rw [List.append_nil]
      exact books_node hprint hp (by simpa using hn) (eventsOf_node_self ..)
        (lostOf_node _ _ _) (by simp) q stored
    · exact hother (by rw [eventsOf_node, if_neg hb]) (lostOf_node _ _ _)
        (Function.update_of_ne (Ne.symm hb) _ _) (Function.update_of_ne (Ne.symm hb) _ _) (.nil rfl)
  | loseReport b' l₁ m l₂ hr =>
    by_cases hb : b' = b
    · subst hb
      refine ⟨[], .nil rfl, .single ?_⟩
      rw [List.append_nil]
      refine books_lose hr ?_ ?_ ?_ ?_ q stored <;> simp [eventsOf, lostOf]
    · exact hother rfl (by simp [lostOf, hb]) (Function.update_of_ne (Ne.symm hb) _ _) rfl (.nil rfl)
  | deliver b' m ms now rows accepted db hr hrows hinsert =>
    obtain ⟨row, hrow, hown⟩ := (hok.sent b' m (by simp [hr])).row hprint
    obtain rfl : [row] = rows := Option.some.inj (hrow.symm.trans hrows)
    rw [insertRows_one] at hinsert
    have hstored := insertRow_stored hinsert hd
    rw [htable] at hstored
    by_cases hb : b' = b
    · subst hb
      have htexts : textsFor (q.table b') m = _ := textsFor_eq hrow
      cases accepted with
      | true =>
        rw [if_pos rfl]
        refine ⟨textsFor (q.table b') m, ?_, .single ?_⟩
        · rw [htexts]
          simpa using hstored
        · refine books_store hr ?_ ?_ ?_ ?_ q stored <;> simp [eventsOf, lostOf]
      | false =>
        refine ⟨[], by simpa using hstored, .single ?_⟩
        rw [List.append_nil]
        have hr' : s.reports b' = [] ++ m :: ms := hr
        refine books_lose hr' ?_ ?_ ?_ ?_ q stored <;> simp [eventsOf, lostOf]
    · have hne : row.1 ≠ q.table b := fun h => hb (eq_of_table hown h).symm
      rw [if_neg fun h => hne h.2] at hstored
      refine hother ?_ ?_ (Function.update_of_ne (Ne.symm hb) _ _) rfl hstored
      · cases accepted <;> simp [eventsOf]
      · cases accepted <;> simp [lostOf, hb]

/-- **The books of a run** from any such state: they balance, with what was under way carried over. -/
theorem run_books (hprint : Prints printF) {d : TableDef} (hd : d ∈ tables) {q : Quantity} {b : Build}
    (htable : str d.name = q.table b) (hok : s.Ok printF)
    (h : Trans.Run (NetworkStep store printF) s tr s') :
    s'.Ok printF ∧ ∃ stored, Appended store d (s.db d) (s'.db d) stored ∧
      Balanced ((s'.books printF q b tr stored).carry (s.underway printF q b)) := by
  refine h.invariant (fun tr s' => s'.Ok printF ∧ ∃ stored, Appended store d (s.db d) (s'.db d) stored ∧
    Balanced ((s'.books printF q b tr stored).carry (s.underway printF q b)))
    ⟨hok, [], .nil rfl, .carried _⟩ ?_
  rintro tr s₁ es s₂ ⟨hok₁, stored, hstored, hbal⟩ hs
  obtain ⟨new, hnew, hpost⟩ := hs.books hprint hok₁ hd htable stored
  refine ⟨hok₁.step hs, stored ++ new, hstored.append hnew, ?_⟩
  rcases (Relation.reflGen_iff _ _ _).1 hpost with heq | hpost
  · rw [heq]
    exact hbal
  · exact hbal.post (hpost.carry _)

/-! ## Every run -/

/-- **No measurement is invented, doubled, reordered or lost without a cause.** In every state of every
run, the rows that a table has got are, in order, part of what its node has measured; the rest is under
way, or was lost or rejected; and where nothing was and nothing is, the table holds every measurement. -/
theorem telemetry (hprint : Prints printF) {d : TableDef} (hd : d ∈ tables) {q : Quantity} {b : Build}
    (htable : str d.name = q.table b) (h₀ : s.Starts)
    (h : Trans.Run (NetworkStep store printF) s tr s') :
    ∃ stored, Appended store d (s.db d) (s'.db d) stored ∧
      stored.Sublist ((measured (eventsOf b tr)).map (q.text printF)) ∧
      stored.length + (s'.underway printF q b).length +
        ((lostOf b tr).flatMap (textsFor (q.table b))).length = (measured (eventsOf b tr)).length ∧
      (s'.reports b = [] → (s'.node b).unsent = [] → lostOf b tr = [] →
        stored = (measured (eventsOf b tr)).map (q.text printF)) := by
  have hnone : s.underway printF q b = [] := by
    obtain ⟨mainCommand, data, hb⟩ := h₀.node b
    simp [Network.underway, h₀.reports, hb, Node.unsent, Node.start]
  obtain ⟨-, stored, hstored, hbal⟩ := run_books hprint hd htable (.start h₀) h
  rw [hnone] at hbal
  refine ⟨stored, hstored, hbal.stored_sublist, by simpa [Books.carry, Network.books] using hbal.length, ?_⟩
  intro hreports hunsent hlost
  exact hbal.complete (by simp [Books.carry, Network.books, Network.underway, hreports, hunsent])
    (by simp [Books.carry, Network.books, hlost])

/-! ### A measurement that gets there -/

/-- Asked for it, a node that has just started makes any measurement and sends it. -/
theorem exists_measured_run (store : TableDef → Bytes → Option Bytes) (printF : Int → Nat → Bytes)
    {mainCommand : CommunicationCommand} {before : MeasuredData} (hnode : s.node b = .start mainCommand before)
    {rest : List Datagram} (hcommands : s.commands b = getAll :: rest) (data : MeasuredData) :
    ∃ s', Trans.Run (OwnStep store printF) s ((measuringTrace b printF data).map (.node b)) s' ∧
      (s'.node b).At b (.idle .FINISH_MEASUREMENT) ∧ s'.commands b = rest ∧ s'.db = s.db ∧
      s'.reports b = s.reports b ++ answers b printF data .FINISH_MEASUREMENT := by
  obtain ⟨n, hrun, hn⟩ := (Node.start_at (b := b) mainCommand before).measurement printF data
  have hown := exists_node_run store rest (by rw [hcommands, received_measuringTrace]; rfl) (hnode ▸ hrun)
  exact ⟨_, hown, by simpa using hn, by simp, rfl, by simp [sentOut_measuringTrace]⟩

theorem exists_deliver (store : TableDef → Bytes → Option Bytes) (printF : Int → Nat → Bytes) {m : Bytes}
    {ms : List Bytes} (hreports : s.reports b = m :: ms) {row : Row} (hrow : receiveLoop m = some [row])
    {d : TableDef} (hd : d ∈ tables) (hname : str d.name = row.1) (hfits : Fits row.1 row.2)
    (hstore : (store d row.2).isSome = true) :
    ∃ db, OwnStep store printF s [] { s with reports := Function.update s.reports b ms, db := db } ∧
      ∀ d' ∈ tables, Appended store d' (s.db d') (db d') (if row.1 = str d'.name then [row.2] else []) := by
  obtain ⟨now, db, hinsert⟩ := exists_insertRows hd hname hfits hstore s.db
  refine ⟨db, ⟨.deliver s b m ms now [row] true db hreports hrow hinsert, ne_multicast b (le_refl _)⟩,
    fun d' hd' => ?_⟩
  rw [insertRows_one] at hinsert
  have hstored := insertRow_stored hinsert hd'
  simp only [true_and] at hstored
  exact hstored

theorem exists_stored_run (store : TableDef → Bytes → Option Bytes) (hprint : Prints printF)
    {mainCommand : CommunicationCommand} {before : MeasuredData} (hnode : s.node b = .start mainCommand before)
    {rest : List Datagram} (hcommands : s.commands b = getAll :: rest) (hreports : s.reports b = [])
    (data : MeasuredData) {d : TableDef} (hd : d ∈ tables) (hname : str d.name = Quantity.Temp.table b)
    (hfits : Fits (Quantity.Temp.table b) (Quantity.Temp.text printF data))
    (hstore : (store d (Quantity.Temp.text printF data)).isSome = true) :
    ∃ s', Trans.Run (OwnStep store printF) s ((measuringTrace b printF data).map (.node b)) s' ∧
      Appended store d (s.db d) (s'.db d) [Quantity.Temp.text printF data] ∧
      ∀ d' ∈ tables, str d'.name ≠ str d.name → (s'.db d').latest = (s.db d').latest := by
  obtain ⟨s₁, hmeasured, -, -, hdb₁, hreports₁⟩ := exists_measured_run store printF hnode hcommands data
  rw [hreports] at hreports₁
  obtain ⟨db, hdeliver, hdb⟩ := exists_deliver store printF hreports₁
    (receiveLoop_sendString .Temp b (hprint.text .Temp data)) hd hname hfits hstore
  have hrun := hmeasured.snoc hdeliver
  rw [List.append_nil] at hrun
  rw [hdb₁] at hdb
  refine ⟨_, hrun, ?_, fun d' hd' hne => ?_⟩
  · have hstored := hdb d hd
    rwa [if_pos hname.symm] at hstored
  · have hother := hdb d' hd'
    rw [if_neg fun h => hne (h.symm.trans hname.symm)] at hother
    exact hother.latest_nil

/-- A measurement of 21.5 degrees. -/
def warm : MeasuredData := ⟨215, 0, 0, 0, 0⟩

/-- The inside temperature, asked for, measured and stored. -/
theorem telemetry_first : ∃ (s : Network) (tr : List NetworkEvent) (stored : List Bytes),
    received (eventsOf .IN tr) = [getAll] ∧ measured (eventsOf .IN tr) = [warm] ∧
    Appended (fun _ text => some text) ⟨"Temp_IN", .float, true, none⟩ .empty
      (s.db ⟨"Temp_IN", .float, true, none⟩) stored ∧ stored ≠ [] ∧
    stored.Sublist ((measured (eventsOf .IN tr)).map (Quantity.Temp.text fun v _ => printD v)) := by
  obtain ⟨s, hrun, hgot, -⟩ := exists_stored_run (s := Network.start.multicast getAll) (b := .IN)
    (fun _ text => some text) prints_printD rfl rfl rfl warm (d := ⟨"Temp_IN", .float, true, none⟩) (by decide)
    (by decide) (by decide) rfl
  have hnet : Trans.Run (NetworkStep (fun _ text => some text) fun v _ => printD v) Network.start _ s :=
    (Trans.Run.one (.multicast _ getAll)).trans (hrun.mono fun _ _ _ hs => hs.1)
  have hevents := eventsOf_node_self .IN (measuringTrace .IN (fun v _ => printD v) warm)
  obtain ⟨stored, hstored, hsub, -⟩ := telemetry prints_printD (d := ⟨"Temp_IN", .float, true, none⟩)
    (q := .Temp) (b := .IN) (by decide) (by decide) Network.start_starts hnet
  refine ⟨s, _, stored, ?_, ?_, hstored, ?_, hsub⟩
  · exact (congrArg received hevents).trans (received_measuringTrace ..)
  · exact (congrArg measured hevents).trans (measured_measuringTrace ..)
  · rintro rfl
    cases hgot.length_eq hstored

/-! ## A node that is told something it has no case for -/

/-- `main` has no case for what the node is asked to do. -/
def Node.Doomed (b : Build) (n : Node) : Prop :=
  ∃ c, answered b c = false ∧ (n.At b (.requested c) ∨ n.At b (.serving c) ∨ n.At b (.stuck c))

/-- Such a node neither receives, measures nor sends. -/
theorem Node.Doomed.step {n n' : Node} {es : List NodeEvent} (h : n.Doomed b) (hw : n.window.Ok)
    (hs : NodeStep b printF n es n') :
    n'.Doomed b ∧ n'.window.Ok ∧ received es = [] ∧ measured es = [] := by
  obtain ⟨c, hc, hp⟩ := h
  rcases hp with hp | hp | hp
  · obtain ⟨p', hd, hp', hw'⟩ := dialog_step hp hw hs
    generalize n.isOpen = o, n'.isOpen = o' at hd
    cases hd with
    | request => exact ⟨⟨c, hc, .inr (.inl hp')⟩, hw', rfl, rfl⟩
  · obtain ⟨p', hd, hp', hw'⟩ := dialog_step hp hw hs
    generalize n.isOpen = o, n'.isOpen = o' at hd
    cases hd with
    | work _ _ _ ha => exact absurd ha (by simp [hc])
    | done _ _ _ ha => exact absurd ha (by simp [hc])
    | ignored => exact ⟨⟨c, hc, .inr (.inr hp')⟩, hw', rfl, rfl⟩
  · obtain ⟨p', hd, -, -⟩ := dialog_step hp hw hs
    generalize n.isOpen = o, n'.isOpen = o' at hd
    cases hd

theorem Node.Doomed.run {n n' : Node} {es : List NodeEvent} (h : n.Doomed b) (hw : n.window.Ok)
    (hrun : Trans.Run (NodeStep b printF) n es n') : received es = [] ∧ measured es = [] := by
  have hI : (n'.Doomed b ∧ n'.window.Ok) ∧ received es = [] ∧ measured es = [] := by
    refine hrun.invariant (fun es n' => (n'.Doomed b ∧ n'.window.Ok) ∧ received es = [] ∧
      measured es = []) ⟨⟨h, hw⟩, rfl, rfl⟩ ?_
    rintro tr n₁ es n₂ ⟨⟨h₁, hw₁⟩, hr, hm⟩ hs
    obtain ⟨h₂, hw₂, hr', hm'⟩ := h₁.step hw₁ hs
    exact ⟨⟨h₂, hw₂⟩, by rw [received_append, hr, hr']; rfl, by rw [measured_append, hm, hm']; rfl⟩
  exact hI.2

theorem doomed_of_unknown {mainCommand : CommunicationCommand} {data : MeasuredData}
    {tr : List NodeEvent} {n : Node} (h : Trans.Run (NodeStep b printF) (.start mainCommand data) tr n)
    {ds : List Datagram} {d : Datagram} (hds : ds ≠ []) (hd : known b d = none)
    (hr : received tr = ds ++ [d]) : n.Doomed b ∧ n.window.Ok := by
  obtain ⟨p, hp, hw, ht⟩ := run_told h
  refine ⟨?_, hw⟩
  -- what the variable held before the datagram, it holds after it
  have hunknown {ds' : List Datagram} {v : CommunicationCommand} {tr₀ : List NodeEvent} {d' : Datagram}
      (hh : History b printF ds' v tr₀) (hr' : received tr = ds' ++ [d']) :
      answered b (commandFor b d' v) = false := by
    obtain ⟨rfl, hd'⟩ := List.append_inj' (hr.symm.trans hr') rfl
    obtain rfl := List.singleton_inj.1 hd'
    rw [commandFor, hd]
    exact hh.ignored hds
  cases p with
  | idle v =>
    obtain ⟨ds', hh⟩ := ht
    cases hh with
    | nil => simp [received] at hr
    | snoc hh ha he =>
      have hno := hunknown hh (by rw [received_append, hh.received_eq, he.received_eq])
      exact absurd ha (by simp [hno])
  | requested c =>
    obtain ⟨ds', v, tr₀, d', hh, rfl, rfl⟩ := ht
    exact ⟨_, hunknown hh (by rw [received_append, hh.received_eq]; rfl), .inl hp⟩
  | serving c =>
    obtain ⟨ds', v, tr₀, d', hh, rfl, hr'⟩ := Asked.received_eq ht
    exact ⟨_, hunknown hh hr', .inr (.inl hp)⟩
  | stuck c =>
    obtain ⟨ds', v, tr₀, d', hh, rfl, hr'⟩ := Asked.received_eq ht
    exact ⟨_, hunknown hh hr', .inr (.inr hp)⟩
  | replying c =>
    obtain ⟨ds', v, tr₀, d', hh, rfl, hr'⟩ := Asked.received_eq ht
    exact absurd hp.2.2.2.1 (by rw [hunknown hh hr']; simp)
  | replied c =>
    obtain ⟨tr₁, hasked, rfl⟩ := ht
    obtain ⟨ds', v, tr₀, d', hh, rfl, hr'⟩ := hasked.received_eq
    refine absurd (hp.replied_answered _ rfl) ?_
    rw [hunknown hh (by rw [received_append, hr']; simp [received])]
    simp

theorem Node.Doomed.unsent_nil {n : Node} (h : n.Doomed b) : n.unsent = [] := by
  obtain ⟨c, -, hp | hp | hp⟩ := h <;> simp [Node.unsent, hp.2.1, hp.2.2.1]

/-- **A datagram it has no case for silences a node for good**, when it is not the first one it receives,
and a window command is one for the node built without `IN`: the controller sends it to both. From then
on the node receives and measures nothing, and its tables only get what was already on its way. -/
theorem silent_after_unknown (hprint : Prints printF) {d : TableDef} (hd : d ∈ tables) {q : Quantity}
    {b : Build} (htable : str d.name = q.table b) (h₀ : s.Starts)
    (h : Trans.Run (NetworkStep store printF) s tr s') {ds : List Datagram} {dg : Datagram}
    (hds : ds ≠ []) (hunknown : known b dg = none) (hr : received (eventsOf b tr) = ds ++ [dg])
    {s'' : Network} {tr' : List NetworkEvent} (h' : Trans.Run (NetworkStep store printF) s' tr' s'') :
    received (eventsOf b tr') = [] ∧ measured (eventsOf b tr') = [] ∧
      ∃ stored, Appended store d (s'.db d) (s''.db d) stored ∧
        stored.Sublist ((s'.reports b).flatMap (textsFor (q.table b))) := by
  obtain ⟨mainCommand, data, hb⟩ := h₀.node b
  obtain ⟨hdoomed, hw⟩ := doomed_of_unknown (hb ▸ run_eventsOf h b) hds hunknown hr
  obtain ⟨hreceived, hmeasured⟩ := hdoomed.run hw (run_eventsOf h' b)
  have hok := (run_books hprint hd htable (.start h₀) h).1
  obtain ⟨-, stored, hstored, hbal⟩ := run_books hprint hd htable hok h'
  refine ⟨hreceived, hmeasured, stored, hstored, ?_⟩
  have hsub := hbal.stored_sublist
  simpa [Books.carry, Network.books, hmeasured, Network.underway, hdoomed.unsent_nil] using hsub

/-- The outside node, asked for measurements and then told to close the window: its table still gets what
was in flight. -/
theorem silent_after_close : ∃ (s s' : Network) (tr tr' : List NetworkEvent) (stored : List Bytes),
    received (eventsOf .OUT tr) = [getAll, putWin .Close] ∧
    received (eventsOf .OUT tr') = [] ∧ measured (eventsOf .OUT tr') = [] ∧
    Appended (fun _ text => some text) ⟨"Temp_OUT", .float, true, none⟩
      (s.db ⟨"Temp_OUT", .float, true, none⟩) (s'.db ⟨"Temp_OUT", .float, true, none⟩) stored ∧
    stored ≠ [] ∧ stored.Sublist ((s.reports .OUT).flatMap (textsFor (Quantity.Temp.table .OUT))) := by
  let asked := (Network.start.multicast getAll).multicast (putWin .Close)
  have hasked : Trans.Run (NetworkStep (fun _ text => some text) fun v _ => printD v) .start [] asked :=
    (Trans.Run.one (NetworkStep.multicast _ getAll)).snoc (.multicast _ (putWin .Close))
  obtain ⟨s₁, hmeasured, hn, hcommands, -, hreports⟩ := exists_measured_run (s := asked) (b := .OUT)
    (fun _ text => some text) (fun v _ => printD v) rfl rfl warm
  obtain ⟨n, hrecv, -, -⟩ := hn.recvfrom (fun v _ => printD v) (putWin .Close)
  -- the network with the datagram received, and the first of the five messages delivered
  have hrun := (hasked.trans (hmeasured.mono fun _ _ _ hs => hs.1)).snoc
    (.receive s₁ .OUT (putWin .Close) [] n hcommands hrecv)
  obtain ⟨db, hdeliver, hdb⟩ := exists_deliver (fun _ text => some text) (fun v _ => printD v)
    (s := { s₁ with
      commands := Function.update s₁.commands .OUT []
      node := Function.update s₁.node .OUT n }) hreports
    (receiveLoop_sendString .Temp .OUT (prints_printD.text .Temp warm))
    (d := ⟨"Temp_OUT", .float, true, none⟩) (by decide) (by decide) (by decide) rfl
  have hgot := hdb ⟨"Temp_OUT", .float, true, none⟩ (by decide)
  rw [if_pos (by decide)] at hgot
  have hr : received (eventsOf .OUT ([] ++ (measuringTrace .OUT (fun v _ => printD v) warm).map (.node .OUT) ++
      [.node .OUT (.recvfrom (putWin .Close))])) = [getAll] ++ [putWin .Close] := by
    rw [List.nil_append, eventsOf_append, received_append, eventsOf_node_self, received_measuringTrace]
    rfl
  obtain ⟨hnone, hstill, stored, hstored, hsub⟩ := silent_after_unknown prints_printD
    (d := ⟨"Temp_OUT", .float, true, none⟩) (q := .Temp) (b := .OUT) (by decide) (by decide)
    Network.start_starts hrun (by simp) (by decide) hr (.one hdeliver.1)
  refine ⟨_, _, _, _, stored, hr, hnone, hstill, hstored, ?_, hsub⟩
  rintro rfl
  cases hgot.length_eq hstored

end SmartWindow
