/-
Where the values come from that passes read, over whole runs. If every step
posts to the books of a table, and only what is stored there goes into the
table, then each read gets what the column kept of an entry produced by then,
or, while none of them has got into the table, what it ended with at first;
and none of these entries is older than one that has been read before
(`Accounts.reads`). The tables of the measurements have such books, whatever
is lost, rejected and interleaved (`reads_in_order`).
-/
import SmartWindow.Lib.Trace
import SmartWindow.System.Whole

namespace SmartWindow

open Ledger Trace

/-! ## Reads of a table -/

section

variable (store : TableDef → Bytes → Option Bytes) (d : TableDef) (before : Table Bytes)

/-- A text that is read is from the entry at a position, or from before all of them. -/
inductive ReadFrom (produced : List Bytes) (wert : Bytes) : WithBot ℕ → Prop
  | before : before.latest = some wert → ReadFrom produced wert ⊥
  | entry (i : ℕ) (text : Bytes) : produced[i]? = some text → store d text = some wert →
    ReadFrom produced wert (WithBot.some i)

/-- Each read gets an entry produced before it, at the position given. -/
def ReadsFrom (produced : List WholeEvent → List Bytes) (newest : ℕ → WithBot ℕ) (tr : List WholeEvent) :
    Prop :=
  AtEach (fun pre e => ∀ wert, e = .read d wert →
    ReadFrom store d before (produced pre) wert (newest pre.length)) tr

/-- Books of a table in every state of the runs from `w₀`. -/
structure Accounts (printF : Int → Nat → Bytes) (w₀ : Whole) (produced : List WholeEvent → List Bytes)
    (ledger : List WholeEvent → Whole → Books Bytes → Prop) : Prop where
  start : ledger [] w₀ ⟨[], [], [], 0⟩
  produced : ∀ tr w bk, ledger tr w bk → bk.produced = produced tr
  step : ∀ tr w bk es w', ledger tr w bk → WholeStep store printF w es w' →
    ∃ bk' new, ledger (tr ++ es) w' bk' ∧ Relation.ReflGen Post bk bk' ∧ bk'.stored = bk.stored ++ new ∧
      Appended store d (w.network.db d) (w'.network.db d) new

/-- What the table has got, where it is from, and where each read so far was from. -/
structure ReadOk (produced : List WholeEvent → List Bytes) (tr : List WholeEvent) (w : Whole)
    (bk : Books Bytes) (is js : List ℕ) (newest : ℕ → WithBot ℕ) : Prop where
  balanced : Balanced bk
  appended : Appended store d before (w.network.db d) bk.stored
  positions : Positions bk is js
  monotone : Monotone newest
  le_newest : ∀ k, newest k ≤ is.maximum
  reads : ReadsFrom store d before produced newest tr

end

variable {store : TableDef → Bytes → Option Bytes} {printF : Int → Nat → Bytes} {d : TableDef}
  {w₀ w w' : Whole} {tr es : List WholeEvent} {produced : List WholeEvent → List Bytes}
  {ledger : List WholeEvent → Whole → Books Bytes → Prop} {before : Table Bytes} {bk : Books Bytes}
  {is js : List ℕ} {newest : ℕ → WithBot ℕ}

theorem WholeStep.reads (hs : WholeStep store printF w es w') :
    (∀ d wert, .read d wert ∉ es) ∨
      ∃ d wert, es = [.read d wert] ∧ (w.network.db d).latest = some wert := by
  cases hs with
  | read werte d wert _ _ _ hlatest => exact .inr ⟨d, wert, rfl, hlatest⟩
  | network | getAll | alarms | write | transitions | send | again | others => exact .inl (by simp)

/-- What is read is what was stored last. -/
theorem readFrom_latest {after : Table Bytes} {wert : Bytes}
    (hstored : Appended store d before after bk.stored) (hpos : Positions bk is js)
    (hlatest : after.latest = some wert) : ReadFrom store d before bk.produced wert is.maximum := by
  rcases List.eq_nil_or_concat' bk.stored with hnil | ⟨texts, text, hlast⟩
  · have his : is = [] := by
      have hmap := hpos.stored
      rw [hnil] at hmap
      simpa using hmap
    rw [hnil] at hstored
    rw [his]
    exact .before (hstored.latest_nil ▸ hlatest)
  · obtain ⟨i, hi, htext⟩ := hpos.last hlast
    rw [hlast] at hstored
    obtain ⟨wert', hwert, hlatest'⟩ := hstored.latest
    obtain rfl : wert' = wert := Option.some.inj (hlatest'.symm.trans hlatest)
    rw [hi]
    exact .entry i text htext hwert

theorem ReadOk.step (haccounts : Accounts store d printF w₀ produced ledger)
    (h : ReadOk store d before produced tr w bk is js newest) (hbk : ledger tr w bk)
    (hs : WholeStep store printF w es w') : ∃ bk' is' js' newest', ledger (tr ++ es) w' bk' ∧
      ReadOk store d before produced (tr ++ es) w' bk' is' js' newest' := by
  obtain ⟨hbal, happended, hpos, hmono, hle, hreads⟩ := h
  obtain ⟨bk', new, hbk', hpost, hstored, hnew⟩ := haccounts.step tr w bk es w' hbk hs
  obtain ⟨hbal', is', js', hpos'⟩ : Balanced bk' ∧ ∃ is' js', Positions bk' (is ++ is') js' := by
    rcases (Relation.reflGen_iff _ _ _).1 hpost with rfl | hpost
    · exact ⟨hbal, [], js, by rwa [List.append_nil]⟩
    · exact ⟨hbal.post hpost, hpos.post hpost⟩
  -- a read in this step gets the newest of what was stored before it
  refine ⟨bk', is ++ is', js', fun k => if k < tr.length then newest k else is.maximum, hbk', hbal',
    hstored ▸ happended.append hnew, hpos', ?_, ?_, ?_⟩
  · intro k k' hk
    dsimp only
    split_ifs
    · exact hmono hk
    · exact hle k
    · omega
    · exact le_refl _
  · intro k
    have hmax : is.maximum ≤ (is ++ is').maximum := List.maximum_mono (List.subset_append_left is is')
    split_ifs
    · exact (hle k).trans hmax
    · exact hmax
  · refine (atEach_append tr es).2 ⟨fun pre e post htr wert he => ?_, ?_⟩
    · have hlt : pre.length < tr.length := by
        rw [htr]
        simp
      simpa only [if_pos hlt] using hreads pre e post htr wert he
    · rcases hs.reads with hes | ⟨d', wert', rfl, hlatest⟩
      · exact atEach_of_forall fun e he pre wert hwert => absurd (hwert ▸ he) (hes d wert)
      · refine (atEach_singleton _).2 fun wert he => ?_
        obtain ⟨rfl, rfl⟩ := WholeEvent.read.inj he
        have hread := readFrom_latest happended hpos hlatest
        rw [haccounts.produced tr w bk hbk] at hread
        simpa only [List.append_nil, lt_irrefl, if_false] using hread

/-- **A table with books**: what it gets is part of what is produced, in order, and no read gets an older
entry than one before. -/
theorem Accounts.reads (haccounts : Accounts store d printF w₀ produced ledger)
    (h : Trans.Run (WholeStep store printF) w₀ tr w) :
    (∃ stored, Appended store d (w₀.network.db d) (w.network.db d) stored ∧
      stored.Sublist (produced tr)) ∧
    ∃ newest, Monotone newest ∧ ReadsFrom store d (w₀.network.db d) produced newest tr := by
  have hrun : ∃ bk is js newest, ledger tr w bk ∧
      ReadOk store d (w₀.network.db d) produced tr w bk is js newest := by
    refine h.invariant (fun tr w => ∃ bk is js newest, ledger tr w bk ∧
      ReadOk store d (w₀.network.db d) produced tr w bk is js newest)
      ⟨_, [], [], fun _ => ⊥, haccounts.start, ⟨by simp, by simp⟩, .nil rfl, ⟨.nil, rfl, rfl⟩,
        monotone_const, fun _ => bot_le, atEach_nil⟩ ?_
    rintro tr w es w' ⟨bk, is, js, newest, hbk, hread⟩ hs
    exact hread.step haccounts hbk hs
  obtain ⟨bk, is, js, newest, hbk, hread⟩ := hrun
  rw [← haccounts.produced tr w bk hbk]
  exact ⟨⟨bk.stored, hread.appended, hread.balanced.stored_sublist⟩, newest, hread.monotone, hread.reads⟩

/-! ## Measurements -/

variable {q : Quantity} {b : Build}

def networkOf (tr : List WholeEvent) : List NetworkEvent :=
  tr.filterMap fun
    | .network e => some e
    | _ => none

def measuredTexts (printF : Int → Nat → Bytes) (q : Quantity) (b : Build) (tr : List WholeEvent) :
    List Bytes :=
  (measured (eventsOf b (networkOf tr))).map (q.text printF)

theorem networkOf_append (tr es : List WholeEvent) :
    networkOf (tr ++ es) = networkOf tr ++ networkOf es := List.filterMap_append

theorem networkOf_network (es : List NetworkEvent) : networkOf (es.map .network) = es := by
  simp [networkOf, List.filterMap_map]

/-- Every step posts to the books of a quantity, and only what it stores goes into the table. -/
theorem WholeStep.books (tr : List WholeEvent) (hprint : Prints printF) (hok : w.Ok printF)
    (hs : WholeStep store printF w es w') (hd : d ∈ tables) (htable : str d.name = q.table b)
    (stored : List Bytes) :
    ∃ new, Appended store d (w.network.db d) (w'.network.db d) new ∧
      Relation.ReflGen Post (w.network.books printF q b (networkOf tr) stored)
        (w'.network.books printF q b (networkOf (tr ++ es)) (stored ++ new)) := by
  -- a step of the controller or of others
  have hother (hevents : networkOf es = []) (hreports : w'.network.reports = w.network.reports)
      (hnode : w'.network.node = w.network.node)
      (hdb : Appended store d (w.network.db d) (w'.network.db d) []) :
      ∃ new, Appended store d (w.network.db d) (w'.network.db d) new ∧
        Relation.ReflGen Post (w.network.books printF q b (networkOf tr) stored)
          (w'.network.books printF q b (networkOf (tr ++ es)) (stored ++ new)) := by
    refine ⟨[], hdb, ?_⟩
    rw [networkOf_append, hevents, List.append_nil, List.append_nil, Network.books, Network.books,
      Network.underway, Network.underway, hreports, hnode]
  cases hs with
  | network es n hn _ =>
    rw [networkOf_append, networkOf_network]
    exact hn.books hprint hok.network.ok hd htable stored
  | getAll | read | alarms | transitions | send | again => exact hother rfl rfl rfl (.nil rfl)
  | write r row rows now accepted db hpc hinsert =>
    exact hother rfl rfl rfl (hok.write_stored hpc hinsert hd (.inr ⟨q, b, htable⟩))
  | others d' now wert hd' => exact hother rfl rfl rfl (others_stored (.inr ⟨q, b, htable⟩) hd' _)

theorem accounts_measured (hprint : Prints printF) (hd : d ∈ tables) (htable : str d.name = q.table b)
    (h₀ : w₀.Starts) : Accounts store d printF w₀ (measuredTexts printF q b) fun tr w bk =>
      w.Ok printF ∧ ∃ stored, bk = w.network.books printF q b (networkOf tr) stored where
  start := by
    obtain ⟨mainCommand, data, hb⟩ := h₀.network.node b
    refine ⟨.start h₀, [], ?_⟩
    simp [Network.books, Network.underway, h₀.network.reports, hb, Node.unsent, Node.start, networkOf,
      eventsOf, lostOf, measured]
  produced := by
    rintro tr w bk ⟨-, stored, rfl⟩
    rfl
  step := by
    rintro tr w bk es w' ⟨hok, stored, rfl⟩ hs
    obtain ⟨new, hnew, hpost⟩ := hs.books tr hprint hok hd htable stored
    exact ⟨_, new, ⟨hok.step hprint hs, stored ++ new, rfl⟩, hpost, rfl, hnew⟩

/-- **No read goes back.** In every run, each read of a quantity's table gets what the column kept of a
measurement that the node had made before, or what the table ended with at first; and the positions of
these measurements, among all that the node makes, never fall. -/
theorem reads_in_order (hprint : Prints printF) (hd : d ∈ tables) (htable : str d.name = q.table b)
    (h₀ : w₀.Starts) (h : Trans.Run (WholeStep store printF) w₀ tr w) :
    ∃ newest, Monotone newest ∧
      ReadsFrom store d (w₀.network.db d) (measuredTexts printF q b) newest tr :=
  ((accounts_measured hprint hd htable h₀).reads h).2

/-- The inside node is asked for a measurement, makes it and sends it, the table gets it, and the first pass
reads it. -/
theorem reads_in_order_first : ∃ (tr : List WholeEvent) (newest : ℕ → WithBot ℕ),
    measuredTexts (fun v _ => printD v) .Temp .IN tr = [str "215"] ∧
      .read ⟨"Temp_IN", .float, true, none⟩ (str "215") ∈ tr ∧ Monotone newest ∧
      ReadsFrom (fun _ text => some text) ⟨"Temp_IN", .float, true, none⟩
        (Whole.start.network.db ⟨"Temp_IN", .float, true, none⟩)
        (measuredTexts (fun v _ => printD v) .Temp .IN) newest tr := by
  obtain ⟨n, hmeasured, hgot, hothers⟩ := exists_stored_run (s := Whole.start.network.multicast getAll)
    (b := .IN) (fun _ text => some text) prints_printD rfl rfl rfl warm
    (d := ⟨"Temp_IN", .float, true, none⟩) (by decide) (by decide) (by decide) rfl
  -- the tables that the pass reads before it are as they were
  have hhold : Hold n.db (readTables.take 14) ((readTables.take 14).map fun _ => str "0") := by
    refine List.forall₂_map_right_iff.2 (List.forall₂_same.2 fun name hname => ?_)
    obtain ⟨d, hd, rfl, hne⟩ := (by decide : ∀ name ∈ readTables.take 14, ∃ d ∈ tables, d.name = name ∧
      str d.name ≠ str "Temp_IN") name hname
    have hzero : (Table.empty.insert 0 (str "0")).2.latest = some (str "0") := by decide
    exact ⟨d, hd, rfl, (hothers d hd hne).trans hzero⟩
  obtain ⟨wert, hwert, hlatest⟩ := hgot.latest_one
  obtain rfl : str "215" = wert := Option.some.inj hwert
  have hstored := (Trans.Run.one (WholeStep.getAll .start)).trans (run_network (w :=
    { Whole.start with network := Whole.start.network.multicast getAll }) hmeasured)
  obtain ⟨tr, hreads, hnone⟩ := exists_reads (fun _ text => some text) (fun v _ => printD v)
    (w := { Whole.start with network := n }) [] rfl rfl rfl (List.take_prefix 14 readTables) hhold
  have hrun := (hstored.trans hreads).snoc
    (.read _ _ ⟨"Temp_IN", .float, true, none⟩ (str "215") rfl (by decide) (by decide) hlatest)
  obtain ⟨newest, hmono, hread⟩ := reads_in_order prints_printD
    (d := ⟨"Temp_IN", .float, true, none⟩) (q := .Temp) (b := .IN) (by decide) (by decide)
    Whole.start_fresh.toStarts hrun
  refine ⟨_, newest, ?_, by simp, hmono, hread⟩
  have hnetwork : networkOf tr = [] := by
    refine List.filterMap_eq_nil_iff.2 fun e he => ?_
    obtain ⟨d, wert, rfl⟩ := hnone e he
    rfl
  have hevents := eventsOf_node_self .IN (measuringTrace .IN (fun v _ => printD v) warm)
  rw [measuredTexts, networkOf_append, networkOf_append, networkOf_append, networkOf_network, hnetwork]
  exact congrArg (List.map _) ((congrArg measured ((List.append_nil _).trans hevents)).trans
    (measured_measuringTrace ..))

end SmartWindow
