import Rustuya.TransitionSystem
import Mathlib.Data.List.Basic

/-!
# The sockets of the passive listener

The clones of a scanner share the sockets they have opened, a flag that the listener has been
started and a token that cancels it. Starting the listener spawns one receiver for each
socket just opened and one task that takes their packets. Sockets opened later find the flag
set, and a listener that has been stopped has used up the token.
-/
namespace PassiveListener

open TransitionSystem

structure UdpSocket where
  number : Nat
  bindAddr : String
  port : UInt16
  deriving DecidableEq, Repr

structure Receiver where
  socket : UdpSocket
  channel : Nat
  deriving DecidableEq, Repr

structure ListenerState where
  sockets : List (UInt16 × UdpSocket)
  listenerStarted : Bool
  /-- The token of all receivers and cache-updating tasks. -/
  cancelled : Bool
  receivers : List Receiver
  /-- The channels from which a cache-updating task receives. -/
  listeners : List Nat
  /-- How many sockets have been opened. -/
  opened : Nat
  deriving DecidableEq, Repr

structure Handle where
  bindAddr : String
  ports : List UInt16
  deriving DecidableEq, Repr

section Listener

def ListenerState.addSocket (s : ListenerState) (bindAddr : String) (port : UInt16) :
    ListenerState :=
  { s with
    sockets := (port, ⟨s.opened, bindAddr, port⟩) :: s.sockets.filter fun entry => entry.1 ≠ port
    opened := s.opened + 1 }

/-- The sockets for the ports are opened in order, with the outcomes given. -/
def openSockets (bindAddr : String) :
    ListenerState → List UInt16 → List Bool → ListenerState × List UdpSocket
  | s, port :: ports, true :: outcomes =>
    let (s', newSockets) := openSockets bindAddr (s.addSocket bindAddr port) ports outcomes
    (s', ⟨s.opened, bindAddr, port⟩ :: newSockets)
  | s, _ :: ports, false :: outcomes => openSockets bindAddr s ports outcomes
  | s, _, _ => (s, [])

def portsToAdd (s : ListenerState) (h : Handle) : List UInt16 :=
  h.ports.filter fun port => port ∉ s.sockets.map Prod.fst

def spawnReceiverTasks (s : ListenerState) (newSockets : List UdpSocket) : ListenerState :=
  let channel := s.listeners.length
  { s with
    listenerStarted := true
    receivers := s.receivers ++ newSockets.map fun socket => ⟨socket, channel⟩
    listeners := s.listeners ++ [channel] }

def ensurePassiveListener (s : ListenerState) (h : Handle) (outcomes : List Bool) :
    ListenerState :=
  let ports := portsToAdd s h
  if ports.isEmpty && s.listenerStarted then s
  else
    let (s', newSockets) := openSockets h.bindAddr s ports outcomes
    if newSockets.isEmpty then s'
    -- The flag is taken with a swap: only the first caller spawns tasks.
    else if s'.listenerStarted then s'
    else spawnReceiverTasks s' newSockets

def stopPassiveListener (s : ListenerState) : ListenerState :=
  { s with cancelled := true, listenerStarted := false, sockets := [] }

/-- A packet for the socket is received, and reaches the cache. -/
def Listened (s : ListenerState) (socket : UdpSocket) : Prop :=
  s.cancelled = false ∧ ∃ r ∈ s.receivers, r.socket = socket ∧ r.channel ∈ s.listeners

def AllListened (s : ListenerState) : Prop := ∀ entry ∈ s.sockets, Listened s entry.2

end Listener

section Operations

structure Site where
  shared : ListenerState
  handles : List Handle
  deriving DecidableEq, Repr

inductive Operation where
  | clone (i : Nat)
  | setPorts (i : Nat) (ports : List UInt16) (outcomes : List Bool)
  | withPorts (i : Nat) (ports : List UInt16) (outcomes : List Bool)
  | setBindAddress (i : Nat) (addr : String) (outcomes : List Bool)
  | withBindAddr (i : Nat) (addr : String) (outcomes : List Bool)
  | stopPassiveListener (i : Nat)
  | performDiscoveryLoop (i : Nat) (outcomes : List Bool)
  deriving DecidableEq, Repr

/-- The call of `ensure_passive_listener` that an operation makes on a handle. A scan makes
one only if none of its ports has a socket. -/
def call (s : ListenerState) (h : Handle) : Operation → Option (Handle × List Bool)
  | .setPorts _ ports outcomes | .withPorts _ ports outcomes => some ({ h with ports }, outcomes)
  | .setBindAddress _ addr outcomes | .withBindAddr _ addr outcomes =>
    some ({ h with bindAddr := addr }, outcomes)
  | .performDiscoveryLoop _ outcomes =>
    if h.ports.any fun port => port ∈ s.sockets.map Prod.fst then none else some (h, outcomes)
  | .clone _ | .stopPassiveListener _ => none

def Operation.index : Operation → Nat
  | .clone i | .setPorts i _ _ | .withPorts i _ _ | .setBindAddress i _ _ | .withBindAddr i _ _ => i
  | .stopPassiveListener i | .performDiscoveryLoop i _ => i

def sharedAfter (s : ListenerState) (h : Handle) (op : Operation) : ListenerState :=
  match op with
  | .stopPassiveListener _ => stopPassiveListener s
  | _ =>
    match call s h op with
    | some (h', outcomes) => ensurePassiveListener s h' outcomes
    | none => s

def handlesAfter (handles : List Handle) (h : Handle) : Operation → List Handle
  | .clone _ => handles ++ [h]
  | .setPorts i ports _ => handles.set i { h with ports }
  | .withPorts _ ports _ => handles ++ [{ h with ports }]
  | .setBindAddress i addr _ => handles.set i { h with bindAddr := addr }
  | .withBindAddr _ addr _ => handles ++ [{ h with bindAddr := addr }]
  | .stopPassiveListener _ | .performDiscoveryLoop _ _ => handles

def next (site : Site) (op : Operation) : Option Site :=
  site.handles[op.index]?.map fun h =>
    ⟨sharedAfter site.shared h op, handlesAfter site.handles h op⟩

def blank : ListenerState := ⟨[], false, false, [], [], 0⟩

def construct (h : Handle) (outcomes : List Bool) : Site :=
  ⟨ensurePassiveListener blank h outcomes, [h]⟩

end Operations

section Opening

/-- What opening sockets does: they are new, one of them at least stays in the map, and
nothing else comes into it. -/
structure Opens (s s' : ListenerState) (newSockets : List UdpSocket) : Prop where
  receivers : s'.receivers = s.receivers
  listeners : s'.listeners = s.listeners
  cancelled : s'.cancelled = s.cancelled
  listenerStarted : s'.listenerStarted = s.listenerStarted
  opened : s.opened ≤ s'.opened
  sockets : ∀ entry ∈ s'.sockets, entry ∈ s.sockets ∨ entry.2 ∈ newSockets
  fresh : ∀ socket ∈ newSockets, s.opened ≤ socket.number ∧ socket.number < s'.opened
  unchanged : newSockets = [] → s' = s
  present : newSockets ≠ [] → ∃ entry ∈ s'.sockets, entry.2 ∈ newSockets

theorem opens_nil (s : ListenerState) : Opens s s [] :=
  ⟨rfl, rfl, rfl, rfl, Nat.le_refl _, fun _ => .inl, nofun, fun _ => rfl, fun h => absurd rfl h⟩

theorem opens_cons {s s' : ListenerState} {newSockets : List UdpSocket} {bindAddr : String}
    {port : UInt16} (h : Opens (s.addSocket bindAddr port) s' newSockets) :
    Opens s s' (⟨s.opened, bindAddr, port⟩ :: newSockets) := by
  have hopened : s.opened + 1 ≤ s'.opened := h.opened
  refine ⟨h.receivers, h.listeners, h.cancelled, h.listenerStarted, by omega, ?_, ?_, nofun, ?_⟩
  · intro entry hentry
    rcases h.sockets entry hentry with hold | hnew
    · rcases List.mem_cons.mp hold with rfl | hold
      · exact .inr List.mem_cons_self
      · exact .inl (List.mem_filter.mp hold).1
    · exact .inr (List.mem_cons_of_mem _ hnew)
  · intro socket hsocket
    rcases List.mem_cons.mp hsocket with rfl | hsocket
    · exact ⟨Nat.le_refl _, hopened⟩
    · have hfresh : s.opened + 1 ≤ socket.number ∧ socket.number < s'.opened :=
        h.fresh socket hsocket
      omega
  · intro _
    by_cases hnone : newSockets = []
    · rw [h.unchanged hnone]
      exact ⟨_, List.mem_cons_self, List.mem_cons_self⟩
    · obtain ⟨entry, hentry, hnew⟩ := h.present hnone
      exact ⟨entry, hentry, List.mem_cons_of_mem _ hnew⟩

theorem openSockets_opens (bindAddr : String) (s : ListenerState) (ports : List UInt16)
    (outcomes : List Bool) :
    Opens s (openSockets bindAddr s ports outcomes).1
      (openSockets bindAddr s ports outcomes).2 := by
  induction ports generalizing s outcomes with
  | nil => exact opens_nil s
  | cons port ports ih =>
    cases outcomes with
    | nil => exact opens_nil s
    | cons outcome outcomes =>
      cases outcome with
      | true => exact opens_cons (ih (s.addSocket bindAddr port) outcomes)
      | false => exact ih s outcomes

def newSockets (s : ListenerState) (h : Handle) (outcomes : List Bool) : List UdpSocket :=
  (openSockets h.bindAddr s (portsToAdd s h) outcomes).2

variable {s : ListenerState} {h : Handle} {outcomes : List Bool}

theorem ensure_unopened (hnone : newSockets s h outcomes = []) :
    ensurePassiveListener s h outcomes = s := by
  have hopens := openSockets_opens h.bindAddr s (portsToAdd s h) outcomes
  have hempty : (openSockets h.bindAddr s (portsToAdd s h) outcomes).2.isEmpty = true :=
    List.isEmpty_iff.mpr hnone
  simp only [ensurePassiveListener, if_pos hempty]
  split
  · rfl
  · exact hopens.unchanged hnone

theorem ensure_opened (hsome : newSockets s h outcomes ≠ []) :
    ∃ s', Opens s s' (newSockets s h outcomes) ∧
      ensurePassiveListener s h outcomes
        = if s.listenerStarted then s' else spawnReceiverTasks s' (newSockets s h outcomes) := by
  have hopens := openSockets_opens h.bindAddr s (portsToAdd s h) outcomes
  refine ⟨_, hopens, ?_⟩
  have hports : (portsToAdd s h).isEmpty = false := by
    by_contra hempty
    rw [Bool.not_eq_false, List.isEmpty_iff] at hempty
    rw [newSockets, hempty] at hsome
    exact hsome rfl
  have hfull : (newSockets s h outcomes).isEmpty = false := by
    rw [List.isEmpty_eq_false_iff]
    exact hsome
  unfold ensurePassiveListener
  dsimp only
  rw [hports, Bool.false_and, if_neg Bool.false_ne_true,
    show (openSockets h.bindAddr s (portsToAdd s h) outcomes).2.isEmpty = false from hfull,
    if_neg Bool.false_ne_true, hopens.listenerStarted]
  rfl

end Opening

section Listening

variable {s s' : ListenerState} {h : Handle} {outcomes : List Bool} {newly : List UdpSocket}

def Numbered (s : ListenerState) : Prop := ∀ r ∈ s.receivers, r.socket.number < s.opened

theorem numbered_opens (hopens : Opens s s' newly) (hs : Numbered s) : Numbered s' := by
  intro r hr
  rw [hopens.receivers] at hr
  exact Nat.lt_of_lt_of_le (hs r hr) hopens.opened

theorem numbered_spawn (hopens : Opens s s' newly) (hs : Numbered s) :
    Numbered (spawnReceiverTasks s' newly) := by
  intro r hr
  rcases List.mem_append.mp hr with hold | hnew
  · exact numbered_opens hopens hs r hold
  · obtain ⟨socket, hsocket, rfl⟩ := List.mem_map.mp hnew
    exact (hopens.fresh socket hsocket).2

theorem numbered_ensure (hs : Numbered s) : Numbered (ensurePassiveListener s h outcomes) := by
  by_cases hnone : newSockets s h outcomes = []
  · rw [ensure_unopened hnone]
    exact hs
  · obtain ⟨s', hopens, heq⟩ := ensure_opened hnone
    rw [heq]
    split
    · exact numbered_opens hopens hs
    · exact numbered_spawn hopens hs

theorem opens_unlistened (hopens : Opens s s' newly) (hs : Numbered s) (hsome : newly ≠ []) :
    ¬ AllListened s' := by
  intro hall
  obtain ⟨entry, hentry, hnew⟩ := hopens.present hsome
  obtain ⟨-, r, hr, hsocket, -⟩ := hall entry hentry
  rw [hopens.receivers] at hr
  have hold := hs r hr
  have hfresh := (hopens.fresh entry.2 hnew).1
  rw [hsocket] at hold
  omega

theorem spawn_listened (hopens : Opens s s' newly) (hall : AllListened s)
    (hlive : s.cancelled = false) : AllListened (spawnReceiverTasks s' newly) := by
  intro entry hentry
  refine ⟨hopens.cancelled.trans hlive, ?_⟩
  rcases hopens.sockets entry hentry with hold | hnew
  · obtain ⟨-, r, hr, hsocket, hchannel⟩ := hall entry hold
    rw [← hopens.receivers] at hr
    rw [← hopens.listeners] at hchannel
    exact ⟨r, List.mem_append_left _ hr, hsocket, List.mem_append_left _ hchannel⟩
  · refine ⟨⟨entry.2, s'.listeners.length⟩, ?_, rfl, ?_⟩
    · exact List.mem_append_right _ (List.mem_map_of_mem hnew)
    · exact List.mem_append_right _ List.mem_cons_self

theorem spawn_unlistened (hopens : Opens s s' newly) (hsome : newly ≠ [])
    (hused : s.cancelled = true) : ¬ AllListened (spawnReceiverTasks s' newly) := by
  intro hall
  obtain ⟨entry, hentry, -⟩ := hopens.present hsome
  obtain ⟨hlive, -⟩ := hall entry hentry
  have hcancelled : s'.cancelled = true := hopens.cancelled.trans hused
  rw [show s'.cancelled = false from hlive] at hcancelled
  cases hcancelled

theorem ensure_listened_iff (hs : Numbered s) (hall : AllListened s) :
    AllListened (ensurePassiveListener s h outcomes) ↔
      (newSockets s h outcomes ≠ [] → s.listenerStarted = false ∧ s.cancelled = false) := by
  by_cases hnone : newSockets s h outcomes = []
  · rw [ensure_unopened hnone]
    exact ⟨fun _ hsome => absurd hnone hsome, fun _ => hall⟩
  · obtain ⟨s', hopens, heq⟩ := ensure_opened hnone
    rw [heq]
    cases hstarted : s.listenerStarted with
    | true =>
      rw [if_pos rfl]
      exact ⟨fun hkept => absurd hkept (opens_unlistened hopens hs hnone),
        fun hfirst => absurd (hfirst hnone).1 nofun⟩
    | false =>
      rw [if_neg Bool.false_ne_true]
      cases hcancelled : s.cancelled with
      | true =>
        exact ⟨fun hkept => absurd hkept (spawn_unlistened hopens hnone hcancelled),
          fun hfirst => absurd (hfirst hnone).2 nofun⟩
      | false => exact ⟨fun _ _ => ⟨rfl, rfl⟩, fun _ => spawn_listened hopens hall hcancelled⟩

end Listening

section Runs

variable {site site' : Site} {op : Operation} {ops : List Operation}

/-- A call that opens a socket starts the listener for the first time. -/
def Attended (site : Site) (op : Operation) : Prop :=
  ∀ h h' outcomes, site.handles[op.index]? = some h →
    call site.shared h op = some (h', outcomes) → newSockets site.shared h' outcomes ≠ [] →
    site.shared.listenerStarted = false ∧ site.shared.cancelled = false

theorem attended_of_none {h : Handle} (hh : site.handles[op.index]? = some h)
    (hcall : call site.shared h op = none) : Attended site op := by
  intro g g' outcomes hg hsome
  rw [hh] at hg
  cases hg
  rw [hcall] at hsome
  cases hsome

theorem stop_listened (s : ListenerState) : AllListened (stopPassiveListener s) := nofun

theorem sharedAfter_cases (s : ListenerState) (h : Handle) (op : Operation) :
    (call s h op = none ∧ sharedAfter s h op = stopPassiveListener s) ∨
    (∃ h' outcomes, call s h op = some (h', outcomes) ∧
      sharedAfter s h op = ensurePassiveListener s h' outcomes) ∨
    (call s h op = none ∧ sharedAfter s h op = s) := by
  cases op with
  | stopPassiveListener i => exact .inl ⟨rfl, rfl⟩
  | clone i => exact .inr (.inr ⟨rfl, rfl⟩)
  | performDiscoveryLoop i outcomes =>
    by_cases hfound : h.ports.any (fun port => port ∈ s.sockets.map Prod.fst) = true
    · refine .inr (.inr ⟨if_pos hfound, ?_⟩)
      simp only [sharedAfter, call, if_pos hfound]
    · refine .inr (.inl ⟨h, outcomes, if_neg hfound, ?_⟩)
      simp only [sharedAfter, call, if_neg hfound]
  | _ => exact .inr (.inl ⟨_, _, rfl, rfl⟩)

theorem step_numbered (hnext : next site op = some site') (hs : Numbered site.shared) :
    Numbered site'.shared := by
  obtain ⟨h, -, rfl⟩ := Option.map_eq_some_iff.mp hnext
  rcases sharedAfter_cases site.shared h op with
    ⟨-, hstop⟩ | ⟨h', outcomes, -, hensure⟩ | ⟨-, hsame⟩
  · rw [hstop]
    exact hs
  · rw [hensure]
    exact numbered_ensure hs
  · rw [hsame]
    exact hs

theorem step_listened_iff (hnext : next site op = some site') (hs : Numbered site.shared)
    (hall : AllListened site.shared) : AllListened site'.shared ↔ Attended site op := by
  obtain ⟨h, hh, rfl⟩ := Option.map_eq_some_iff.mp hnext
  rcases sharedAfter_cases site.shared h op with
    ⟨hcall, hstop⟩ | ⟨h', outcomes, hcall, hensure⟩ | ⟨hcall, hsame⟩
  · rw [hstop]
    exact ⟨fun _ => attended_of_none hh hcall, fun _ => stop_listened _⟩
  · rw [hensure, ensure_listened_iff hs hall]
    constructor
    · intro hfirst g g' outcomes' hg hcall'
      rw [hh] at hg
      cases hg
      rw [hcall] at hcall'
      cases hcall'
      exact hfirst
    · exact fun hattended => hattended h h' outcomes hh hcall
  · rw [hsame]
    exact ⟨fun _ => attended_of_none hh hcall, fun _ => hall⟩

/-- In every run whose operations meet the condition, every socket is listened to; and the
condition is exact for the next operation. -/
theorem sockets_listened_iff (h : Handle) (outcomes : List Bool)
    (hrun : Execution next Attended (construct h outcomes) ops site) :
    AllListened site.shared ∧
      ∀ op site', next site op = some site' → (AllListened site'.shared ↔ Attended site op) := by
  have hblank : Numbered blank ∧ AllListened blank := ⟨nofun, nofun⟩
  have hstart :
      Numbered (construct h outcomes).shared ∧ AllListened (construct h outcomes).shared :=
    ⟨numbered_ensure hblank.1,
      (ensure_listened_iff hblank.1 hblank.2).mpr fun _ => ⟨rfl, rfl⟩⟩
  obtain ⟨hs, hall⟩ : Numbered site.shared ∧ AllListened site.shared :=
    hrun.invariant (P := fun site => Numbered site.shared ∧ AllListened site.shared)
      (fun _ _ _ hattended hnext hp =>
        ⟨step_numbered hnext hp.1, (step_listened_iff hnext hp.1 hp.2).mpr hattended⟩) hstart
  exact ⟨hall, fun op site' hnext => step_listened_iff hnext hs hall⟩

end Runs

section Sample

def defaultHandle : Handle := ⟨"0.0.0.0", [6666, 6667, 7000]⟩

instance (s : ListenerState) (socket : UdpSocket) : Decidable (Listened s socket) :=
  inferInstanceAs (Decidable (_ ∧ _))

instance (s : ListenerState) : Decidable (AllListened s) :=
  inferInstanceAs (Decidable (∀ entry ∈ s.sockets, _))

theorem late_sockets_listened :
    ∃ site site', next (construct defaultHandle [false, false, false])
        (.performDiscoveryLoop 0 [true, true, true]) = some site ∧
      next site (.stopPassiveListener 0) = some site' ∧
      site.shared.sockets.length = 3 ∧ AllListened site.shared ∧ AllListened site'.shared := by
  obtain ⟨site, hscan, hobserved⟩ : ∃ site, next (construct defaultHandle [false, false, false])
        (.performDiscoveryLoop 0 [true, true, true]) = some site ∧
      ((next site (.stopPassiveListener 0)).isSome, site.shared.sockets.length) = (true, 3) :=
    Option.map_eq_some_iff.mp (by decide +kernel)
  obtain ⟨site', hstop⟩ := Option.isSome_iff_exists.mp (congrArg Prod.fst hobserved)
  obtain ⟨hall, hnext⟩ := sockets_listened_iff defaultHandle [false, false, false]
    (.cons (fun _ _ _ _ _ _ => ⟨by decide, by decide⟩) hscan (.nil site))
  refine ⟨site, site', hscan, hstop, congrArg Prod.snd hobserved, hall, ?_⟩
  exact (hnext _ site' hstop).mpr nofun

/-- A port is added while the listener is running, and the listener is started again after it
has been stopped. -/
theorem sockets_without_receiver :
    (∃ site, next (construct defaultHandle [true, true, true]) (.setPorts 0 [6668] [true])
        = some site ∧ ¬ AllListened site.shared) ∧
    ∃ site, run next (construct defaultHandle [true, true, true])
        [.stopPassiveListener 0, .setPorts 0 [6666, 6667, 7000] [true, true, true]] = some site ∧
      ¬ AllListened site.shared := by
  constructor
  · obtain ⟨site, hnext, hmissed⟩ : ∃ site, next (construct defaultHandle [true, true, true])
        (.setPorts 0 [6668] [true]) = some site ∧ decide (AllListened site.shared) = false :=
      Option.map_eq_some_iff.mp (by decide +kernel)
    exact ⟨site, hnext, of_decide_eq_false hmissed⟩
  · obtain ⟨site, hrun, hmissed⟩ : ∃ site, run next (construct defaultHandle [true, true, true])
        [.stopPassiveListener 0, .setPorts 0 [6666, 6667, 7000] [true, true, true]] = some site ∧
        decide (AllListened site.shared) = false :=
      Option.map_eq_some_iff.mp (by decide +kernel)
    exact ⟨site, hrun, of_decide_eq_false hmissed⟩

end Sample

end PassiveListener
