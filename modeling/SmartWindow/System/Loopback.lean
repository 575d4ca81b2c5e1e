/-
The controller hears itself. `sw_send` sends to all nodes of the link, and
the controller's own host is one of them: `receiveLoop` receives what
`decisionLoop` and `main` have sent, and takes it for a report unless the
text of its source is `srv_addr_str`, which `get_Lowpan0Ipv6Address` has
found out before the loop. If it is, the system behaves as if there were no
own messages; if it is not, a command to open counts as its own report. So
controller and window agree exactly when the first address of lowpan0 is the
one the controller sends from (`agreement_iff_own_address`).
-/
import SmartWindow.System.Agreement

namespace SmartWindow

open OneHot

/-! ## The controller's own address -/

/-- `ifa_addr`: an IPv6 address, or one of another family. -/
inductive SockAddr
  | inet6 (sin6_addr : Bytes)
  | other

/-- An entry of the list that `getifaddrs` returns; an interface may have no address. -/
structure Ifaddrs where
  ifa_name : Bytes
  ifa_addr : Option SockAddr

/-- The address of the first entry that fits, `.error` where there is none; `none` where an entry
without an address is looked into. -/
def get_link_local_addr (if_name : Bytes) (if_name_length : Nat) :
    List Ifaddrs → Option (Except Int Bytes)
  | [] => some (.error (-2))
  | ifa :: ifaddr =>
    match ifa.ifa_addr with
    | none => none
    | some .other => get_link_local_addr if_name if_name_length ifaddr
    | some (.inet6 sin6_addr) =>
      -- `strncmp` on C strings
      if ifa.ifa_name.take if_name_length ≠ if_name.take if_name_length then
        get_link_local_addr if_name if_name_length ifaddr
      else some (.ok sin6_addr)

/-- What `get_Lowpan0Ipv6Address` returns, and `ipv6_strBuf` after it. -/
def get_Lowpan0Ipv6Address (inet_ntop : Bytes → Bytes) (ifaddr : List Ifaddrs) (ipv6_strBuf : Bytes) :
    Option (Int × Bytes) :=
  (get_link_local_addr (str "lowpan0") 7 ifaddr).map fun
    | .error _ => (1, ipv6_strBuf)
    | .ok sin6_addr => (0, inet_ntop sin6_addr)

/-! ## The system with its own messages -/

/-- The system, and what the controller has sent and has not heard yet, oldest first. -/
structure Host where
  system : System
  echoes : List Datagram

/-- What a step of the system has sent to the nodes. -/
def sentBy (s s' : System) : List Datagram := s'.commands.drop s.commands.length

/-- A step of the system, or of what the controller hears of itself. -/
inductive HostStep (printF : Int → Nat → Bytes) (srv_addr_str src_addr_str : Bytes) : Host → Host → Prop
  | system (h : Host) (s : System) : SystemStep printF h.system s →
    HostStep printF srv_addr_str src_addr_str h ⟨s, h.echoes ++ sentBy h.system s⟩
  | loseEcho (h : Host) (l₁ : List Datagram) (d : Datagram) (l₂ : List Datagram) :
    h.echoes = l₁ ++ d :: l₂ →
    HostStep printF srv_addr_str src_addr_str h { h with echoes := l₁ ++ l₂ }
  /-- `receiveLoop` receives an own message. -/
  | echo (h : Host) (d : Datagram) (ds : List Datagram) : h.echoes = d :: ds →
    HostStep printF srv_addr_str src_addr_str h
      { system :=
          if srv_addr_str ≠ src_addr_str then
            { h.system with win_Open := (winOpen d.bytes).getD h.system.win_Open }
          else h.system
        echoes := ds }

/-- Both programs start, with nothing in flight. -/
structure Host.Fresh (printF : Int → Nat → Bytes) (h : Host) : Prop where
  system : h.system.Fresh printF
  echoes : h.echoes = []

/-- Every run from a fresh start is in agreement all along. -/
def AlwaysAgrees (printF : Int → Nat → Bytes) (srv_addr_str src_addr_str : Bytes) : Prop :=
  ∀ h₀ h : Host, h₀.Fresh printF →
    Relation.ReflTransGen (HostStep printF srv_addr_str src_addr_str) h₀ h → h.system.InAgreement

variable {printF : Int → Nat → Bytes}

/-- Where the own messages are ignored, a step is one of the system, or changes nothing there. -/
theorem HostStep.ignored {src : Bytes} {h h' : Host} (hs : HostStep printF src src h h') :
    h'.system = h.system ∨ SystemStep printF h.system h'.system := by
  cases hs with
  | system s hs => exact .inr hs
  | loseEcho => exact .inl rfl
  | echo => exact .inl (if_neg fun h => h rfl)

/-- **Ignored own messages change nothing.** -/
theorem alwaysAgrees_of_ignored (printF : Int → Nat → Bytes) (src : Bytes) :
    AlwaysAgrees printF src src := by
  intro h₀ h hfresh hrun
  refine System.Agrees.inAgreement ?_
  refine Trans.reach_invariant (fun h : Host => h.system.Agrees) hfresh.system.agrees ?_ hrun
  intro h h' ha hs
  rcases hs.ignored with heq | hstep
  · rw [heq]
    exact ha
  · exact ha.step hstep

/-- The inputs of a pass that is told to open the window by hand. -/
def byHand (win_open_bo : Bool) : Inputs :=
  { quiet with autoMode_bo := false, manOpen_bo := true, priority := 3, win_open_bo := win_open_bo }

def System.sentOpen : System :=
  { System.start with
    flags := hot (.state .all .opening)
    commands := [putWin .Open] }

/-- **Own messages that are taken for reports**: told to open the window, the controller takes it for
open before the node has received the command. -/
theorem not_alwaysAgrees (printF : Int → Nat → Bytes) {srv src : Bytes} (hne : srv ≠ src) :
    ¬ AlwaysAgrees printF srv src := by
  intro hagrees
  have hopening : runTransitions (byHand false) System.start.flags = hot (.state .all .opening) := by
    rw [show System.start.flags = hot .init from rfl, runTransitions_hot]
    exact congrArg hot (by decide)
  have hopened : runTransitions (byHand true) (hot (.state .all .opening)) =
      hot (.state .all .opened) := by
    rw [runTransitions_hot]
    exact congrArg hot (by decide)
  -- the first pass sends Open
  have h₁ : Relation.ReflTransGen (HostStep printF srv src) ⟨.start, []⟩ ⟨.sentOpen, [putWin .Open]⟩ := by
    refine .tail (.single (.system _ _ (.read _ rfl))) ?_
    have hfinish : SystemStep printF { System.start with snapshot := some false } _ :=
      .finish _ (byHand false) rfl
    rw [hopening, assignments_hot] at hfinish
    exact .system _ _ hfinish
  -- the controller hears it
  have h₂ : HostStep printF srv src ⟨.sentOpen, [putWin .Open]⟩
      ⟨{ System.sentOpen with win_Open := true }, []⟩ := by
    have hecho : HostStep printF srv src ⟨.sentOpen, [putWin .Open]⟩ _ := .echo _ _ [] rfl
    rw [if_pos hne] at hecho
    exact hecho
  -- the second pass believes it
  have h₃ : Relation.ReflTransGen (HostStep printF srv src)
      ⟨{ System.sentOpen with win_Open := true }, []⟩
      ⟨{ System.sentOpen with win_Open := true, flags := hot (.state .all .opened) }, []⟩ := by
    refine .tail (.single (.system _ _ (.read _ rfl))) ?_
    have hfinish : SystemStep printF
        { System.sentOpen with win_Open := true, snapshot := some true } _ :=
      .finish _ (byHand true) rfl
    rw [show System.sentOpen.flags = hot (.state .all .opening) from rfl, hopened,
      assignments_hot] at hfinish
    exact .system _ _ hfinish
  have hfresh : (⟨.start, []⟩ : Host).Fresh printF :=
    ⟨⟨rfl, rfl, rfl, rfl, ⟨_, _, [], .refl⟩, rfl, rfl⟩, rfl⟩
  have hnode := ((hagrees _ _ hfresh ((h₁.tail h₂).trans h₃)).2 ⟨.all, hot_self (Flag.state .all .opened)⟩).1
  exact absurd hnode.1 (by decide)

/-- **The controller and the window agree exactly when the address found is its own.** For an
`inet_ntop` that tells addresses apart: the first IPv6 address listed for lowpan0 has to be the one that
the controller sends from. -/
theorem agreement_iff_own_address {inet_ntop : Bytes → Bytes} (hntop : Function.Injective inet_ntop)
    {ifaddr : List Ifaddrs} {found : Bytes}
    (hfound : get_link_local_addr (str "lowpan0") 7 ifaddr = some (.ok found)) (ipv6_strBuf own : Bytes) :
    (∀ status srv_addr_str, get_Lowpan0Ipv6Address inet_ntop ifaddr ipv6_strBuf = some (status, srv_addr_str) →
      AlwaysAgrees printF srv_addr_str (inet_ntop own)) ↔ found = own := by
  rw [get_Lowpan0Ipv6Address, hfound]
  constructor
  · intro h
    by_contra hne
    exact not_alwaysAgrees printF (fun heq => hne (hntop heq)) (h 0 (inet_ntop found) rfl)
  · rintro rfl status srv hsrv
    obtain ⟨-, rfl⟩ := Prod.mk.inj (Option.some.inj hsrv)
    exact alwaysAgrees_of_ignored printF _

/-- lowpan0 behind another interface, and a controller that sends from its address. -/
theorem agreement_lowpan0 :
    AlwaysAgrees (fun v _ => printD v) (str "fe80::1") (str "fe80::1") := by
  have hfound : get_link_local_addr (str "lowpan0") 7 [⟨str "eth0", some (.inet6 (str "fe80::2"))⟩,
      ⟨str "lowpan0", some (.inet6 (str "fe80::1"))⟩] = some (.ok (str "fe80::1")) := by decide
  exact (agreement_iff_own_address (fun _ _ h => h) hfound [] (str "fe80::1")).2 rfl 0 _ rfl

end SmartWindow
