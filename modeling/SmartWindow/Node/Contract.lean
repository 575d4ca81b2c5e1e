/-
What a sequence of datagrams does to a node. `Told` says which trace leads to
which dialog; from it, the contract of the receiving side (an unknown
datagram does nothing, a known one is requested, served, replied to and
answered once) holds of exactly the sequences of known commands
(`node_contract_iff`), and the threads can block each other forever exactly
when an unknown datagram follows another one (`deadlock_iff`).
-/
import SmartWindow.Node.Dialog

namespace SmartWindow

variable {b : Build} {printF : Int → Nat → Bytes}

/-! ## Exchanges -/

/-- The trace of one datagram with the request `c`: one request, the work, the matching reply, the
answers. -/
def Exchange (b : Build) (printF : Int → Nat → Bytes) (d : Datagram) (c : CommunicationCommand)
    (es : List NodeEvent) : Prop :=
  ∃ work data, (∀ e ∈ work, NodeEvent.IsWork e) ∧
    es = [.recvfrom d, .request c] ++ work ++ [.reply c.finish] ++
      (answers b printF data c.finish).map .pp_send

theorem Exchange.received_eq {d : Datagram} {c : CommunicationCommand} {es : List NodeEvent}
    (h : Exchange b printF d c es) : received es = [d] := by
  obtain ⟨work, data, hw, rfl⟩ := h
  simp [received_append, received_work hw]

/-- The trace of datagrams each of which `main` answers, with the value they leave in
`communicationCommand`. -/
inductive History (b : Build) (printF : Int → Nat → Bytes) :
    List Datagram → CommunicationCommand → List NodeEvent → Prop
  | nil : History b printF [] .START_MEASUREMENT []
  | snoc {ds v tr d es} : History b printF ds v tr → answered b (commandFor b d v) = true →
      Exchange b printF d (commandFor b d v) es →
      History b printF (ds ++ [d]) (commandFor b d v).finish (tr ++ es)

theorem History.received_eq {ds : List Datagram} {v : CommunicationCommand} {tr : List NodeEvent}
    (h : History b printF ds v tr) : received tr = ds := by
  induction h with
  | nil => rfl
  | snoc _ _ he ih => rw [received_append, ih, he.received_eq]

theorem History.first {ds : List Datagram} {v : CommunicationCommand} {tr : List NodeEvent}
    (h : History b printF ds v tr) (hds : ds = []) : v = .START_MEASUREMENT := by
  cases h with
  | nil => rfl
  | snoc => simp at hds

theorem History.one {d : Datagram} {v : CommunicationCommand} {tr : List NodeEvent}
    (h : History b printF [d] v tr) : Exchange b printF d (commandFor b d .START_MEASUREMENT) tr := by
  have hnone {ds : List Datagram} {v : CommunicationCommand} {tr : List NodeEvent}
      (h : History b printF ds v tr) (hds : ds = []) : tr = [] := by
    cases h with
    | nil => rfl
    | snoc => simp at hds
  generalize hds : [d] = ds at h
  cases h with
  | nil => cases hds
  | @snoc ds u tr d' es hh _ he =>
    rcases ds with _ | ⟨d₀, ds⟩
    · obtain rfl := List.singleton_inj.1 hds
      obtain rfl := hh.first rfl
      rwa [hnone hh rfl, List.nil_append]
    · simp at hds

/-- After a first datagram the variable holds a reply, which `main` has no case for. -/
theorem History.ignored {ds : List Datagram} {v : CommunicationCommand} {tr : List NodeEvent}
    (h : History b printF ds v tr) (hne : ds ≠ []) : answered b v = false := by
  cases h with
  | nil => exact absurd rfl hne
  | snoc _ ha _ => exact answered_finish ha

/-! ## The trace that leads to a dialog -/

/-- Earlier datagrams were answered, and the last one is requested and worked on. -/
def Asked (b : Build) (printF : Int → Nat → Bytes) (tr : List NodeEvent)
    (c : CommunicationCommand) : Prop :=
  ∃ ds v tr₀ d work, History b printF ds v tr₀ ∧ c = commandFor b d v ∧
    (∀ e ∈ work, NodeEvent.IsWork e) ∧ tr = tr₀ ++ ([.recvfrom d, .request c] ++ work)

/-- What has happened when the dialog stands at a place. -/
def Told (b : Build) (printF : Int → Nat → Bytes) (tr : List NodeEvent) : Dialog → Prop
  | .idle v => ∃ ds, History b printF ds v tr
  | .requested c => ∃ ds v tr₀ d, History b printF ds v tr₀ ∧ c = commandFor b d v ∧
      tr = tr₀ ++ [.recvfrom d]
  | .serving c | .replying c | .stuck c => Asked b printF tr c
  | .replied c => ∃ tr₀, Asked b printF tr₀ c ∧ tr = tr₀ ++ [.reply c.finish]

theorem Asked.work {tr es : List NodeEvent} {c : CommunicationCommand} (h : Asked b printF tr c)
    (hes : ∀ e ∈ es, NodeEvent.IsWork e) : Asked b printF (tr ++ es) c := by
  obtain ⟨ds, v, tr₀, d, work, hh, hc, hw, rfl⟩ := h
  refine ⟨ds, v, tr₀, d, work ++ es, hh, hc, ?_, by simp⟩
  simp only [List.mem_append]
  intro e hx
  rcases hx with he | he
  · exact hw e he
  · exact hes e he

theorem Told.step {p p' : Dialog} {o o' : Bool} {tr es : List NodeEvent} (h : Told b printF tr p)
    (hs : DialogStep b printF p o es p' o') (ha : ∀ c, p = .replied c → answered b c = true) :
    Told b printF (tr ++ es) p' := by
  cases hs with
  | noDatagram => simpa using h
  | recvfrom v o d =>
    obtain ⟨ds, hh⟩ := h
    exact ⟨ds, v, tr, d, hh, rfl, rfl⟩
  | request =>
    obtain ⟨ds, v, tr₀, d, hh, hc, rfl⟩ := h
    exact ⟨ds, v, tr₀, d, [], hh, hc, by simp, by simp⟩
  | work c o es _ hes => exact Asked.work h hes
  | done c o es _ hes => exact Asked.work h hes
  | ignored c => exact Asked.work h (by simp)
  | reply => exact ⟨tr, h, rfl⟩
  | answer c o data =>
    obtain ⟨_, ⟨ds, v, tr₀, d, work, hh, rfl, hw, rfl⟩, rfl⟩ := h
    rw [List.append_assoc, List.append_assoc]
    exact ⟨_, hh.snoc (ha _ rfl) ⟨work, data, hw, by simp⟩⟩

/-- **Where a run can stand.** After any run the node is in some dialog, with the trace that leads
to it. -/
theorem run_told {mainCommand : CommunicationCommand} {data : MeasuredData} {tr : List NodeEvent}
    {n : Node} (h : Trans.Run (NodeStep b printF) (.start mainCommand data) tr n) :
    ∃ p, n.At b p ∧ n.window.Ok ∧ Told b printF tr p := by
  refine h.invariant (fun tr n => ∃ p, n.At b p ∧ n.window.Ok ∧ Told b printF tr p)
    ⟨.idle .START_MEASUREMENT, Node.start_at _ _, Window.start_ok, [], .nil⟩ ?_
  intro tr n es n' hx hs
  obtain ⟨p, hp, hw, ht⟩ := hx
  obtain ⟨p', hd, hp', hw'⟩ := dialog_step hp hw hs
  exact ⟨p', hp', hw', ht.step hd hp.replied_answered⟩

theorem Asked.received_eq {tr : List NodeEvent} {c : CommunicationCommand} (h : Asked b printF tr c) :
    ∃ ds v tr₀ d, History b printF ds v tr₀ ∧ c = commandFor b d v ∧
      received tr = ds ++ [d] := by
  obtain ⟨ds, v, tr₀, d, work, hh, hc, hw, rfl⟩ := h
  exact ⟨ds, v, tr₀, d, hh, hc, by simp [received_append, received_work hw, hh.received_eq]⟩

/-- Both threads wait for a message and none is in flight. -/
def Node.Deadlock (n : Node) : Prop :=
  n.comm = .msg_receive ∧ n.main = .msg_receive ∧ n.pp_msg_queue = []

theorem stuck_of_deadlock {n : Node} {p : Dialog} (h : n.At b p) (hd : n.Deadlock) :
    ∃ c, p = .stuck c ∧ answered b c = false := by
  obtain ⟨hc, hm, hq⟩ := hd
  cases p with
  | stuck c => exact ⟨c, rfl, h.2.2.2.1⟩
  | idle | requested => rw [h.1] at hc; cases hc
  | serving | replying => rw [h.2.1] at hm; cases hm
  | replied => rw [h.2.2.1] at hq; cases hq

/-! ## Runs for given datagrams -/

theorem run_of_internal {n n' : Node} (h : Relation.ReflTransGen (Internal b printF) n n') :
    ∃ es, Trans.Run (NodeStep b printF) n es n' ∧ received es = [] := by
  induction h with
  | refl => exact ⟨[], .refl, rfl⟩
  | tail _ hs ih =>
    obtain ⟨es, hr, he⟩ := ih
    obtain ⟨es', hs, he'⟩ := hs
    exact ⟨es ++ es', hr.snoc hs, by rw [received_append, he, he']; rfl⟩

/-- Datagrams whose requests all have a case can all be received and answered: the first may be
unknown, since the variable starts as START_MEASUREMENT. -/
theorem exists_run (b : Build) (printF : Int → Nat → Bytes) (mainCommand : CommunicationCommand)
    (data : MeasuredData) (ds : List Datagram) (hk : ∀ d ∈ ds.tail, known b d ≠ none) :
    ∃ tr n v, Trans.Run (NodeStep b printF) (.start mainCommand data) tr n ∧
      n.At b (.idle v) ∧ History b printF ds v tr := by
  induction ds using List.reverseRecOn with
  | nil => exact ⟨[], _, _, .refl, Node.start_at _ _, .nil⟩
  | append_singleton ds d ih =>
    obtain ⟨tr, n, v, hr, hn, hh⟩ :=
      ih fun d' hd' => hk d' (by cases ds <;> simp_all)
    have ha : answered b (commandFor b d v) = true := by
      by_contra hne
      obtain ⟨hd, hv⟩ := unknown_of_ignored (by simpa using hne)
      cases ds with
      | nil => rw [hh.first rfl] at hv; cases hv
      | cons x ds => exact hk d (by simp) hd
    obtain ⟨p, hp, hw, -⟩ := run_told hr
    obtain ⟨n₁, hrecv, hn₁, hw₁⟩ := hn.recvfrom printF d
    obtain ⟨n', hreach, hc⟩ := (serve_ends printF hn₁ (hw₁ ▸ hw) ha).reach
    obtain ⟨es, hes, he⟩ := run_of_internal hreach
    have hrun := (hr.snoc hrecv).trans hes
    obtain ⟨p', hp', -, ht⟩ := run_told hrun
    obtain ⟨v', rfl⟩ := idle_of_recvfrom hp' hc
    obtain ⟨ds', hh'⟩ := ht
    have hds : ds' = ds ++ [d] := by
      rw [← hh'.received_eq]
      simp [received_append, hh.received_eq, he]
    exact ⟨_, n', v', hrun, hp', hds ▸ hh'⟩

/-! ## The contract -/

/-- What the datagrams should do: an unknown one nothing, a known one one exchange. -/
inductive Exchanges (b : Build) (printF : Int → Nat → Bytes) :
    List Datagram → List NodeEvent → Prop
  | nil : Exchanges b printF [] []
  | ignore {ds tr d} : Exchanges b printF ds tr → known b d = none →
      Exchanges b printF (ds ++ [d]) (tr ++ [.recvfrom d])
  | exchange {ds tr d c es} : Exchanges b printF ds tr → known b d = some c →
      Exchange b printF d c es → Exchanges b printF (ds ++ [d]) (tr ++ es)

/-- The contract of a node for a sequence of datagrams: in every run that
receives some of them in order, the trace is the beginning of what the
datagrams should do and all of it when the node waits for the next one, the
node always comes back to wait for the next one, and it is never deadlocked. -/
def NodeContract (b : Build) (printF : Int → Nat → Bytes) (ds : List Datagram) : Prop :=
  ∀ mainCommand data tr n, Trans.Run (NodeStep b printF) (.start mainCommand data) tr n →
    received tr <+: ds →
    (∃ es, Exchanges b printF (received tr) es ∧ tr <+: es) ∧
    (n.comm = .recvfrom → Exchanges b printF (received tr) tr) ∧
    Trans.Inevitable (Internal b printF) (fun n => n.comm = .recvfrom) n ∧
    ¬ n.Deadlock

theorem History.exchanges {ds : List Datagram} {v : CommunicationCommand} {tr : List NodeEvent}
    (h : History b printF ds v tr) (hk : ∀ d ∈ ds, known b d ≠ none) :
    Exchanges b printF ds tr := by
  induction h with
  | nil => exact .nil
  | @snoc ds v tr d es _ _ he ih =>
    have ih := ih fun d' hd' => hk d' (List.mem_append_left _ hd')
    obtain ⟨c, hc⟩ := Option.ne_none_iff_exists'.1 (hk d (by simp))
    rw [commandFor_known hc] at he
    exact .exchange ih hc he

theorem Asked.completes {tr : List NodeEvent} {c : CommunicationCommand}
    (h : Asked b printF tr c) (hk : ∀ d ∈ received tr, known b d ≠ none) (data : MeasuredData) :
    Exchanges b printF (received tr)
      (tr ++ ([.reply c.finish] ++ (answers b printF data c.finish).map .pp_send)) := by
  obtain ⟨ds, v, tr₀, d, work, hh, rfl, hw, rfl⟩ := h
  have hrec : received (tr₀ ++ ([.recvfrom d, .request (commandFor b d v)] ++ work)) = ds ++ [d] := by
    simp [received_append, received_work hw, hh.received_eq]
  rw [hrec] at hk ⊢
  obtain ⟨c, hc⟩ := Option.ne_none_iff_exists'.1 (hk d (by simp))
  rw [commandFor_known hc, List.append_assoc]
  exact .exchange (hh.exchanges fun d' hd' => hk d' (List.mem_append_left _ hd')) hc
    ⟨work, data, hw, by simp⟩

theorem Told.completes {tr : List NodeEvent} {p : Dialog} (h : Told b printF tr p)
    (hk : ∀ d ∈ received tr, known b d ≠ none) (data : MeasuredData) :
    ∃ es, Exchanges b printF (received tr) es ∧ tr <+: es := by
  cases p with
  | idle v =>
    obtain ⟨ds, hh⟩ := h
    rw [hh.received_eq] at hk ⊢
    exact ⟨tr, hh.exchanges hk, List.prefix_refl tr⟩
  | requested c =>
    obtain ⟨ds, v, tr₀, d, hh, hc, rfl⟩ := h
    have hasked : Asked b printF (tr₀ ++ [.recvfrom d] ++ [.request c]) c :=
      ⟨ds, v, tr₀, d, [], hh, hc, by simp, by simp⟩
    have hrec : received (tr₀ ++ [.recvfrom d] ++ [.request c]) =
        received (tr₀ ++ [.recvfrom d]) := by simp [received_append]
    refine ⟨_, hrec ▸ hasked.completes (hrec ▸ hk) data, ?_⟩
    rw [List.append_assoc (tr₀ ++ _)]
    exact List.prefix_append _ _
  | serving c | replying c | stuck c => exact ⟨_, Asked.completes h hk data, List.prefix_append _ _⟩
  | replied c =>
    obtain ⟨tr₀, ha, rfl⟩ := h
    have hrec : received (tr₀ ++ [.reply c.finish]) = received tr₀ := by simp [received_append]
    rw [hrec] at hk ⊢
    refine ⟨_, ha.completes hk data, ?_⟩
    rw [← List.append_assoc]
    exact List.prefix_append _ _

theorem Told.live {n : Node} {tr : List NodeEvent} {p : Dialog} (h : Told b printF tr p)
    (hp : n.At b p) (hk : ∀ d ∈ received tr, known b d ≠ none) : p.Live b := by
  cases p with
  | idle | replying | replied => trivial
  | requested c =>
    obtain ⟨ds, v, tr₀, d, hh, rfl, rfl⟩ := h
    exact answered_of_known v (hk d (by simp [received_append]))
  | serving c =>
    obtain ⟨ds, v, tr₀, d, hh, rfl, hrec⟩ := Asked.received_eq h
    exact answered_of_known v (hk d (by simp [hrec]))
  | stuck c =>
    obtain ⟨ds, v, tr₀, d, hh, rfl, hrec⟩ := Asked.received_eq h
    exact absurd (unknown_of_ignored hp.2.2.2.1).1 (hk d (by simp [hrec]))

theorem contract_of_known {ds : List Datagram} (hk : ∀ d ∈ ds, known b d ≠ none) :
    NodeContract b printF ds := by
  intro mainCommand data tr n hr hpre
  have hk : ∀ d ∈ received tr, known b d ≠ none := fun d hd => hk d (hpre.subset hd)
  obtain ⟨p, hp, hw, ht⟩ := run_told hr
  have hl := ht.live hp hk
  refine ⟨ht.completes hk data, fun hc => ?_, serve_ends printF hp hw hl, fun hd => ?_⟩
  · obtain ⟨v, rfl⟩ := idle_of_recvfrom hp hc
    obtain ⟨ds', hh⟩ := ht
    rw [hh.received_eq] at hk ⊢
    exact hh.exchanges hk
  · obtain ⟨c, rfl, -⟩ := stuck_of_deadlock hp hd
    exact hl

theorem Exchanges.received_eq {ds : List Datagram} {tr : List NodeEvent}
    (h : Exchanges b printF ds tr) : received tr = ds := by
  induction h with
  | nil => rfl
  | ignore _ _ ih => simp [received_append, ih]
  | exchange _ _ he ih => rw [received_append, ih, he.received_eq]

/-- An unknown datagram should do nothing, not even be requested. -/
theorem Exchanges.not_requested {ds : List Datagram} {d : Datagram} {tr es : List NodeEvent}
    {c : CommunicationCommand} (h : Exchanges b printF (ds ++ [d]) es) (hd : known b d = none)
    (hr : received tr = ds ++ [d]) : ¬ tr ++ [.request c] <+: es := by
  intro hx
  obtain ⟨t, rfl⟩ := hx
  have ht : received t = [] := by
    have := h.received_eq
    rw [received_append, received_append, hr] at this
    simpa using this
  generalize hes : tr ++ [NodeEvent.request c] ++ t = es at h
  generalize hds : ds ++ [d] = ds' at h
  cases h with
  | nil => simp at hds
  | @ignore ds₁ es₁ d₁ _ _ =>
    obtain rfl | ⟨t', e, rfl⟩ := t.eq_nil_or_concat
    · rw [List.append_nil] at hes
      cases (List.append_inj' hes rfl).2
    · rw [List.concat_eq_append, ← List.append_assoc] at hes
      cases (List.append_inj' hes rfl).2
      simp [received_append] at ht
  | @exchange ds₁ es₁ d₁ c₁ es' _ hc _ =>
    cases (List.append_inj' hds rfl).2
    rw [hd] at hc
    cases hc

theorem first_unknown {ds : List Datagram} (h : ∃ d ∈ ds, known b d = none) :
    ∃ pre d post, ds = pre ++ d :: post ∧ known b d = none ∧ ∀ x ∈ pre, known b x ≠ none := by
  induction ds with
  | nil => simp at h
  | cons d ds ih =>
    cases hd : known b d with
    | none => exact ⟨[], d, ds, rfl, hd, by simp⟩
    | some c =>
      obtain ⟨pre, d', post, rfl, hd', hpre⟩ := ih (by simpa [hd] using h)
      exact ⟨d :: pre, d', post, rfl, hd', by simpa [hd] using hpre⟩

/-- **The node contract.** A node meets its contract for exactly the sequences of datagrams that
are all commands it knows. -/
theorem node_contract_iff (b : Build) (printF : Int → Nat → Bytes) (ds : List Datagram) :
    NodeContract b printF ds ↔ ∀ d ∈ ds, known b d ≠ none := by
  refine ⟨fun hc => ?_, contract_of_known⟩
  by_contra hne
  push Not at hne
  obtain ⟨pre, d, post, rfl, hd, hpre⟩ := first_unknown hne
  let data : MeasuredData := ⟨0, 0, 0, 0, 0⟩
  obtain ⟨tr, n, v, hr, hn, hh⟩ := exists_run b printF .START_MEASUREMENT data pre
    fun x hx => hpre x (List.mem_of_mem_tail hx)
  obtain ⟨n₁, h₁, hn₁, -⟩ := hn.recvfrom printF d
  obtain ⟨n₂, h₂, -, -⟩ := hn₁.request printF
  have hrec : received (tr ++ [.recvfrom d]) = pre ++ [d] := by
    simp [received_append, hh.received_eq]
  have hrec' : received (tr ++ [.recvfrom d] ++ [.request (commandFor b d v)]) = pre ++ [d] := by
    rw [received_append, hrec]; simp
  obtain ⟨⟨es, hes, hpref⟩, -⟩ := hc _ _ _ _ ((hr.snoc h₁).snoc h₂) (hrec' ▸ by simp)
  exact (hrec' ▸ hes).not_requested hd hrec hpref

/-- A node can come to a deadlock exactly when an unknown datagram follows another one. -/
theorem deadlock_iff (b : Build) (printF : Int → Nat → Bytes)
    (mainCommand : CommunicationCommand) (data : MeasuredData) (ds : List Datagram) :
    (∃ tr n, Trans.Run (NodeStep b printF) (.start mainCommand data) tr n ∧
      received tr <+: ds ∧ n.Deadlock) ↔ ∃ d ∈ ds.tail, known b d = none := by
  constructor
  · intro hx
    obtain ⟨tr, n, hr, hpre, hd⟩ := hx
    obtain ⟨p, hp, -, ht⟩ := run_told hr
    obtain ⟨c, rfl, ha⟩ := stuck_of_deadlock hp hd
    obtain ⟨ds₀, v, tr₀, d, hh, rfl, hrec⟩ := Asked.received_eq ht
    obtain ⟨post, rfl⟩ := hrec ▸ hpre
    obtain ⟨hk, hv⟩ := unknown_of_ignored ha
    refine ⟨d, ?_, hk⟩
    cases ds₀ with
    | cons x ds₀ => simp
    | nil =>
      -- The first datagram finds START_MEASUREMENT in the variable.
      rw [hh.first rfl] at hv
      cases hv
  · intro hne
    cases ds with
    | nil => simp at hne
    | cons x ds =>
      obtain ⟨pre, d, post, rfl, hd, hpre⟩ := first_unknown hne
      obtain ⟨tr, n, v, hr, hn, hh⟩ :=
        exists_run b printF mainCommand data (x :: pre) hpre
      have ha : answered b (commandFor b d v) = false := by
        rw [commandFor_unknown hd]
        exact hh.ignored (by simp)
      obtain ⟨n₁, h₁, hn₁, -⟩ := hn.recvfrom printF d
      obtain ⟨n₂, h₂, hn₂, -⟩ := hn₁.request printF
      obtain ⟨n₃, h₃, hn₃⟩ := hn₂.ignore printF ha
      refine ⟨_, n₃, ((hr.snoc h₁).snoc h₂).snoc h₃, ?_, hn₃.1, hn₃.2.1, hn₃.2.2.1⟩
      simp [received_append, hh.received_eq]

/-- A node built without `IN` that has measured once and then receives the multicast window command
asks `main` for a FINISH_MEASUREMENT, and both threads wait forever. -/
theorem window_command_blocks_out :
    (∃ tr n, Trans.Run (NodeStep .OUT fun v _ => printD v)
        (.start .START_MEASUREMENT ⟨0, 0, 0, 0, 0⟩) tr n ∧
      received tr <+: [getAll, putWin .Open] ∧ n.Deadlock) ∧
    ¬ NodeContract .OUT (fun v _ => printD v) [getAll, putWin .Open] := by
  have hk : known .OUT (putWin .Open) = none := by decide
  obtain ⟨tr, n, hr, hpre, hd⟩ := (deadlock_iff .OUT (fun v _ => printD v) .START_MEASUREMENT
    ⟨0, 0, 0, 0, 0⟩ [getAll, putWin .Open]).2 ⟨_, by simp, hk⟩
  exact ⟨⟨tr, n, hr, hpre, hd⟩, fun hc => (hc _ _ _ _ hr hpre).2.2.2 hd⟩

end SmartWindow
