/-
The window commands on their way back. What `decisionLoop` sends, the inside
node is asked for, carries out and reports, and `receiveLoop` puts into
Win_Open, unless it gets lost. A command is under way in one place at a time,
and behind the ones sent before it (`Network.statuses`). So these are books of
Win_Open: it gets part of what was sent, in order, and a pass never reads the
status of an older command than the passes before it (`statuses_in_order`).
-/
import SmartWindow.System.ReadOrder

namespace SmartWindow

open Ledger OneHot

/-! ## What is under way -/

/-- What `receiveLoop` puts into Win_Open for a status. -/
def statusText (status : Bool) : Bytes := if status then str "1" else str "0"

/-- The texts that Win_Open gets for the commands sent if nothing is lost. -/
def sentTexts (tr : List WholeEvent) : List Bytes := (sentCommands tr).map WinCommand.wert

/-- The texts under way to Win_Open, oldest first: of what is reported, what the node is asked for, and
what has been sent to it. -/
def Network.statuses (n : Network) (p : Dialog) : List Bytes :=
  ((n.reports .IN).filterMap winOpen ++ p.tells.toList ++ (n.commands .IN).filterMap asked).map statusText

variable {store : TableDef → Bytes → Option Bytes} {printF : Int → Nat → Bytes} {n n' : Network}
  {w w₀ w' : Whole} {tr : List WholeEvent} {p : Dialog}

theorem statusText_status (c : WinCommand) : statusText c.status = c.wert := by
  cases c <;> rfl

theorem status_commandFor {v : CommunicationCommand} (hv : v.status = none) (d : Datagram) :
    (commandFor .IN d v).status = asked d := by
  unfold asked commandFor
  cases known .IN d with
  | none => exact hv
  | some c => rfl

/-! ## What a step posts -/

/-- The books with these under way. -/
def Network.statusBooks (n : Network) (p : Dialog) (produced stored : List Bytes) (lost : Nat) : Books Bytes :=
  ⟨produced, stored, n.statuses p, lost⟩

/-- A step that produces these has posted to the books, and what it has stored is in the table. -/
def Posts (store : TableDef → Bytes → Option Bytes) (n : Network) (p : Dialog) (new : List Bytes)
    (n' : Network) : Prop :=
  ∀ produced stored lost, ∃ p' got lost', (n'.node .IN).At .IN p' ∧
    Appended store winOpenDef (n.db winOpenDef) (n'.db winOpenDef) got ∧
    Relation.ReflGen Post (n.statusBooks p produced stored lost)
      (n'.statusBooks p' (produced ++ new) (stored ++ got) lost')

theorem Posts.none {p' : Dialog} (hp : (n'.node .IN).At .IN p')
    (hdb : Appended store winOpenDef (n.db winOpenDef) (n'.db winOpenDef) [])
    (h : n'.statuses p' = n.statuses p) : Posts store n p [] n' := by
  intro produced stored lost
  refine ⟨p', [], lost, hp, hdb, ?_⟩
  rw [List.append_nil, List.append_nil, Network.statusBooks, Network.statusBooks, h]

theorem Posts.lose (l₁ as l₂ : List Bytes) (hp : (n'.node .IN).At .IN p)
    (hdb : Appended store winOpenDef (n.db winOpenDef) (n'.db winOpenDef) [])
    (h : n.statuses p = l₁ ++ (as ++ l₂)) (h' : n'.statuses p = l₁ ++ l₂) : Posts store n p [] n' := by
  intro produced stored lost
  refine ⟨p, [], lost + as.length, hp, hdb, .single ?_⟩
  rw [List.append_nil, List.append_nil, Network.statusBooks, Network.statusBooks, h']
  exact .lose ⟨produced, stored, n.statuses p, lost⟩ l₁ as l₂ h

theorem Posts.other (hp : (n.node .IN).At .IN p) (hnode : n'.node .IN = n.node .IN)
    (hcommands : n'.commands .IN = n.commands .IN) (hreports : n'.reports .IN = n.reports .IN)
    (hdb : Appended store winOpenDef (n.db winOpenDef) (n'.db winOpenDef) []) : Posts store n p [] n' :=
  .none (hnode ▸ hp) hdb (by rw [Network.statuses, Network.statuses, hcommands, hreports])

theorem posts_deliver (hp : (n.node .IN).At .IN p) {b : Build} {m : Bytes} (hm : Brings printF b m)
    {ms : List Bytes} (hr : n.reports b = m :: ms) {now : Nat} {rows : List Row} {accepted : Bool}
    {db : TableDef → Table Bytes} (hrows : receiveLoop m = some rows)
    (hinsert : insertRows store now n.db rows = some (accepted, db)) :
    Posts store n p [] { n with reports := Function.update n.reports b ms, db := db } := by
  have hstored {row : Row} (hrow : receiveLoop m = some [row]) :
      Appended store winOpenDef (n.db winOpenDef) (db winOpenDef)
        (if accepted ∧ row.1 = str "Win_Open" then [row.2] else []) := by
    obtain rfl := Option.some.inj (hrow.symm.trans hrows)
    rw [insertRows_one] at hinsert
    exact insertRow_stored hinsert (d := winOpenDef) (by decide)
  cases hm with
  | measurement q text hrow =>
    have hne := q.table_ne_win_open b
    have hdb := hstored hrow
    rw [if_neg fun h => hne h.2] at hdb
    cases b with
    | IN =>
      refine .none hp hdb ?_
      simp [Network.statuses, hr, winOpen_eq_none hrow hne]
    | OUT => exact .other hp rfl rfl (by simp) hdb
  | report c hb hrow hwin =>
    subst hb
    have hdb := hstored hrow
    have hfirst : n.statuses p =
        [c.wert] ++ Network.statuses { n with reports := Function.update n.reports .IN ms, db := db } p := by
      simp [Network.statuses, hr, hwin, statusText_status]
    cases accepted with
    | false =>
      exact .lose [] [c.wert] _ hp (by simpa using hdb) hfirst rfl
    | true =>
      intro produced stored lost
      refine ⟨p, [c.wert], lost, hp, by simpa using hdb, .single ?_⟩
      rw [List.append_nil]
      exact .store (n.statusBooks p produced stored lost) _ _ hfirst

/-- A step of the network moves what is under way on, or loses some of it. -/
theorem NetworkStep.posts {es : List NetworkEvent} (hn : n.Reports printF)
    (hs : NetworkStep store printF n es n') (hno : ∀ d, n' ≠ n.multicast d)
    (hp : (n.node .IN).At .IN p) (hw : (n.node .IN).window.Ok) : Posts store n p [] n' := by
  cases hs with
  | multicast d => exact absurd rfl (hno d)
  | loseCommand b l₁ d l₂ hc =>
    cases b with
    | IN =>
      refine .lose
        (((n.reports .IN).filterMap winOpen ++ p.tells.toList ++ l₁.filterMap asked).map statusText)
        ((asked d).toList.map statusText) ((l₂.filterMap asked).map statusText) hp (.nil rfl) ?_ ?_
      · simp [Network.statuses, hc, filterMap_cons_toList]
      · simp [Network.statuses]
    | OUT => exact .other hp rfl (by simp) rfl (.nil rfl)
  | receive b d ds n₁ hc hn₁ =>
    cases b with
    | IN =>
      obtain ⟨p', hd, hp', -⟩ := dialog_step hp hw hn₁
      obtain ⟨v, rfl, rfl, -⟩ := hd.of_received rfl
      refine .none (by simpa using hp') (.nil rfl) ?_
      simp [Network.statuses, hc, filterMap_cons_toList, Dialog.tells, status_commandFor hp.2.2.2.2.1]
    | OUT => exact .other hp (by simp) (by simp) rfl (.nil rfl)
  | node b es n₁ hn₁ hr =>
    cases b with
    | IN =>
      obtain ⟨p', hd, hp', -⟩ := dialog_step hp hw hn₁
      refine .none (by simpa using hp') (.nil rfl) ?_
      simp [Network.statuses, ← hd.tells hr hp.replied_answered]
    | OUT => exact .other hp (by simp) rfl (by simp) (.nil rfl)
  | loseReport b l₁ m l₂ hr =>
    cases b with
    | IN =>
      refine .lose ((l₁.filterMap winOpen).map statusText) ((winOpen m).toList.map statusText)
        ((l₂.filterMap winOpen ++ p.tells.toList ++ (n.commands .IN).filterMap asked).map statusText)
        hp (.nil rfl) ?_ ?_
      · simp [Network.statuses, hr, filterMap_cons_toList]
      · simp [Network.statuses]
    | OUT => exact .other hp rfl rfl (by simp) (.nil rfl)
  | deliver b m ms now rows accepted db hr hrows hinsert =>
    exact posts_deliver hp (hn.brings b m (by simp [hr])) hr hrows hinsert

/-- Sending a command produces its status; no other step of the controller or of others does. -/
theorem WholeStep.posts {es : List WholeEvent} (hok : w.Ok printF) (hs : WholeStep store printF w es w')
    (hp : (w.network.node .IN).At .IN p) : Posts store w.network p (sentTexts es) w'.network := by
  cases hs with
  | network es n hs hno =>
    have hnone : sentTexts (es.map .network) = [] := by simp [sentTexts, sentCommands, List.filterMap_map]
    obtain ⟨-, -, hw⟩ := hok.network.ok.node .IN
    rw [hnone]
    exact hs.posts hok.network hno hp hw
  | getAll =>
    refine .none hp (.nil rfl) ?_
    simp [Network.statuses, Network.multicast, asked_getAll]
  | read | alarms | transitions | again => exact .other hp rfl rfl rfl (.nil rfl)
  | write r row rows now accepted db hpc hinsert =>
    exact .other hp rfl rfl rfl (hok.write_stored hpc hinsert (by decide) (.inl rfl))
  | send c cs hpc =>
    intro produced stored lost
    have hlast : (w.network.multicast (putWin c)).statuses p = w.network.statuses p ++ [c.wert] := by
      simp [Network.statuses, Network.multicast, asked_putWin, statusText_status]
    refine ⟨p, [], lost, hp, .nil rfl, .single ?_⟩
    rw [List.append_nil, Network.statusBooks, Network.statusBooks, hlast]
    exact .produce ⟨produced, stored, w.network.statuses p, lost⟩ [c.wert]
  | others d now wert hd => exact .other hp rfl rfl rfl (others_stored (.inl rfl) hd _)

/-! ## Every run -/

theorem accounts_statuses (hprint : Prints printF) (h₀ : w₀.Starts)
    (hcommands : w₀.network.commands .IN = []) :
    Accounts store winOpenDef printF w₀ sentTexts fun tr w bk => w.Ok printF ∧ ∃ p stored lost,
      (w.network.node .IN).At .IN p ∧ bk = w.network.statusBooks p (sentTexts tr) stored lost where
  start := by
    obtain ⟨mainCommand, data, hnode⟩ := h₀.network.node .IN
    refine ⟨.start h₀, .idle .START_MEASUREMENT, [], 0, hnode ▸ Node.start_at mainCommand data, ?_⟩
    simp [Network.statusBooks, Network.statuses, h₀.network.reports, hcommands, Dialog.tells, sentTexts,
      sentCommands]
  produced := by
    rintro tr w bk ⟨-, p, stored, lost, -, rfl⟩
    rfl
  step := by
    rintro tr w bk es w' ⟨hok, p, stored, lost, hp, rfl⟩ hs
    obtain ⟨p', got, lost', hp', hgot, hpost⟩ := hs.posts hok hp (sentTexts tr) stored lost
    have hsent : sentTexts (tr ++ es) = sentTexts tr ++ sentTexts es := by
      simp [sentTexts, sentCommands, List.filterMap_append]
    exact ⟨_, got, ⟨hok.step hprint hs, p', stored ++ got, lost', hp', hsent ▸ rfl⟩, hpost, rfl, hgot⟩

/-- **Win_Open follows the commands.** In every run, whatever is lost, rejected and interleaved, the rows
that Win_Open gets are, in order, part of what `decisionLoop` has sent; each read of it gets what the
column kept of a command sent before, or what it ended with at first, and never of an older command than
a read before. -/
theorem statuses_in_order (hprint : Prints printF) (h₀ : w₀.Starts)
    (hcommands : w₀.network.commands .IN = []) (h : Trans.Run (WholeStep store printF) w₀ tr w) :
    (∃ stored, Appended store winOpenDef (w₀.network.db winOpenDef) (w.network.db winOpenDef) stored ∧
      stored.Sublist (sentTexts tr)) ∧
    ∃ newest, Monotone newest ∧
      ReadsFrom store winOpenDef (w₀.network.db winOpenDef) sentTexts newest tr :=
  (accounts_statuses hprint h₀ hcommands).reads h

/-! ### A command that gets there and back -/

/-- Tables that ask to open the window by hand. -/
def openingText (name : String) : Bytes :=
  if name = "ManOpen" then str "1" else if name = "Priority" then str "3" else str "0"

/-- The programs start over them. -/
def Whole.opening : Whole :=
  ⟨{ Network.start with db := fun d => (Table.empty.insert 0 (openingText d.name)).2 }, .start, .reads []⟩

theorem Exchange.sentOut_eq {b : Build} {d : Datagram} {c : CommunicationCommand} {es : List NodeEvent}
    (h : Exchange b printF d c es) : ∃ data, sentOut es = answers b printF data c.finish := by
  obtain ⟨work, data, hwork, rfl⟩ := h
  refine ⟨data, ?_⟩
  have hnone : sentOut work = [] := sentOut_work hwork
  have hanswers := sentOut_pp_send (answers b printF data c.finish)
  simp only [sentOut, List.filterMap_append] at hnone hanswers ⊢
  simp [hnone, hanswers]

theorem exists_reported_run (store : TableDef → Bytes → Option Bytes) (printF : Int → Nat → Bytes)
    {mainCommand : CommunicationCommand} {data : MeasuredData} (hnode : n.node .IN = .start mainCommand data)
    (hcommands : n.commands .IN = [putWin .Open]) :
    ∃ es n', Trans.Run (OwnStep store printF) n es n' ∧ n'.db = n.db ∧
      n'.reports .IN = n.reports .IN ++ [SW_FINISH_OPEN_WINDOW] := by
  obtain ⟨nes, node, v, hrun, -, hh⟩ := exists_run .IN printF mainCommand data [putWin .Open] (by simp)
  have hown := exists_node_run store [] (by rw [hcommands, hh.received_eq]; rfl) (hnode ▸ hrun)
  obtain ⟨data', hsent⟩ := hh.one.sentOut_eq
  have hopen : sentOut nes = [SW_FINISH_OPEN_WINDOW] := hsent
  exact ⟨_, _, hown, rfl, by simp [hopen]⟩

/-- The first pass sends Open; the inside node carries it out and reports it, Win_Open gets the report, and
the next pass reads it. -/
theorem statuses_in_order_first : ∃ (tr : List WholeEvent) (newest : ℕ → WithBot ℕ),
    sentCommands tr = [.Open] ∧ .read winOpenDef (str "1") ∈ tr ∧ Monotone newest ∧
      ReadsFrom (fun _ text => some text) winOpenDef (Whole.opening.network.db winOpenDef) sentTexts newest
        tr := by
  obtain ⟨r, hr, hsent⟩ : ∃ r, readings (readTables.map openingText) = some r ∧
      (decisionPass .start r).sent = [.Open] := by
    refine ⟨_, rfl, ?_⟩
    rw [decisionPass_sent, show LoopState.start.flags = hot .init from rfl, runTransitions_hot, assignments_hot]
    decide
  obtain ⟨tr₁, db₁, hpass, honly₁, hkept₁⟩ := exists_pass_run (fun _ text => some text) (fun v _ => printD v)
    (w := .opening) rfl (hold_one openingText (by decide)) hr
  rw [show (decisionPass Whole.opening.loop r).sent = [.Open] from hsent] at hpass
  obtain ⟨es, n, hreported, hdb, hreports⟩ := exists_reported_run (fun _ text => some text)
    (fun v _ => printD v) (n := { Whole.opening.network with
      db := db₁
      commands := fun b => Whole.opening.network.commands b ++ [WinCommand.Open].map putWin }) rfl rfl
  obtain ⟨db₂, hdeliver, hdb₂⟩ := exists_deliver (fun _ text => some text) (fun v _ => printD v) hreports
    (by decide : receiveLoop SW_FINISH_OPEN_WINDOW = some [(str "Win_Open", str "1")]) (d := winOpenDef)
    (by decide) (by decide) (by decide) rfl
  rw [hdb] at hdb₂
  obtain ⟨w, hback, hdbw, hpassw⟩ : ∃ w, Trans.Run (WholeStep (fun _ text => some text) fun v _ => printD v)
      .opening _ w ∧ w.network.db = db₂ ∧ w.pass = .reads [] :=
    ⟨_, hpass.trans (run_network (hreported.snoc hdeliver)), rfl, rfl⟩
  -- the next pass, as far as Win_Open
  have hhold : Hold db₂ (readTables.take 3) ((readTables.take 3).map openingText) := by
    refine List.forall₂_map_right_iff.2 (List.forall₂_same.2 fun name hname => ?_)
    obtain ⟨d, hd, rfl, hother, hne⟩ := (by decide : ∀ name ∈ readTables.take 3, ∃ d ∈ tables,
      d.name = name ∧ name ∉ publishedTables ∧ str "Win_Open" ≠ str d.name) name hname
    have hkept := hdb₂ d hd
    rw [if_neg hne] at hkept
    exact ⟨d, hd, rfl, hkept.latest_nil.trans (hkept₁ d hd hother)⟩
  obtain ⟨tr₂, hreads, honly₂⟩ := exists_reads (fun _ text => some text) (fun v _ => printD v) [] hdbw
    hpassw rfl (List.take_prefix 3 readTables) hhold
  have hgot := hdb₂ winOpenDef (by decide)
  rw [if_pos (by decide)] at hgot
  obtain ⟨wert, hwert, hlatest⟩ := hgot.latest_one
  obtain rfl : str "1" = wert := Option.some.inj hwert
  have hrun := (hback.trans hreads).snoc
    (.read _ _ winOpenDef (str "1") rfl (by decide) (by decide) (hdbw ▸ hlatest))
  have hstart : Whole.opening.Starts := ⟨⟨fun b => ⟨_, _, rfl⟩, fun b => rfl⟩, rfl, rfl⟩
  obtain ⟨-, newest, hmono, hread⟩ := statuses_in_order prints_printD hstart rfl hrun
  refine ⟨_, newest, ?_, by simp, hmono, hread⟩
  have hnone {tr : List WholeEvent} (h : ∀ e ∈ tr, ∃ d wert, e = .read d wert) : sentCommands tr = [] := by
    refine List.filterMap_eq_nil_iff.2 fun e he => ?_
    obtain ⟨d, wert, rfl⟩ := h e he
    rfl
  simp only [sentCommands_append, hnone honly₁, hnone honly₂]
  simp [sentCommands, List.filterMap_map]

end SmartWindow
