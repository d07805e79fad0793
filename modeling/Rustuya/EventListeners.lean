import Rustuya.BroadcastChannel
import Rustuya.RequestRefinement

/-!
# Listeners of a device

A device broadcasts its messages. `Device::listener` is a stream that passes on those with a
payload; `sync::Device::listener` is a task that forwards them into a bounded channel. The
stream ends with the first error of the broadcast channel, and the task also when the bounded
channel does not take a message.
-/
namespace EventListeners

open CheckedExecution TransitionSystem BroadcastChannel Crypto Message Json DeviceState
open ConnectionTask RequestLifecycle RequestRefinement

def chanBroadcastCapacity : Nat := 128
def chanSyncCapacity : Nat := 128

def hasPayload (msg : TuyaMessage) : Bool := !msg.payload.isEmpty

structure ListenerStream where
  position : Nat
  ended : Bool
  yielded : List TuyaMessage
  deriving DecidableEq

structure SyncListener where
  position : Nat
  ended : Bool
  buffer : List TuyaMessage
  /-- The receiving end has been dropped. -/
  abandoned : Bool
  received : List TuyaMessage
  deriving DecidableEq

section Steps

def ListenerStream.poll (l : ListenerStream) (c : Channel TuyaMessage) : Option ListenerStream :=
  if l.ended then none
  else
    (c.recv l.position).map fun
      | (.message msg, position) =>
        { l with position, yielded := l.yielded ++ if hasPayload msg then [msg] else [] }
      | (.lagged _, position) | (.closed, position) => { l with position, ended := true }

/-- `try_send` fails if the channel is full or its receiver has been dropped. -/
def SyncListener.accepts (l : SyncListener) : Bool :=
  decide (l.buffer.length < chanSyncCapacity) && !l.abandoned

def SyncListener.forward (l : SyncListener) (c : Channel TuyaMessage) : Option SyncListener :=
  if l.ended then none
  else
    (c.recv l.position).map fun
      | (.message msg, position) =>
        if hasPayload msg && !l.accepts then { l with position, ended := true }
        else { l with position, buffer := l.buffer ++ if hasPayload msg then [msg] else [] }
      | (.lagged _, position) | (.closed, position) => { l with position, ended := true }

def SyncListener.take (l : SyncListener) : Option SyncListener :=
  match l.buffer with
  | msg :: buffer => some { l with buffer, received := l.received ++ [msg] }
  | [] => none

end Steps

/-- A device with one listener of each kind, which have subscribed at the same time. -/
structure Station where
  channel : Channel TuyaMessage
  start : Nat
  stream : ListenerStream
  sync : SyncListener
  deriving DecidableEq

inductive StationEvent where
  | send (msgs : List TuyaMessage)
  /-- The last clone of the device is dropped. -/
  | closeSender
  | poll
  | forward
  | take
  | abandon

def stationNext (s : Station) : StationEvent → Option Station
  | .send msgs => some { s with channel := s.channel.send msgs }
  | .closeSender => some { s with channel := { s.channel with alive := false } }
  | .poll => (s.stream.poll s.channel).map fun stream => { s with stream }
  | .forward => (s.sync.forward s.channel).map fun sync => { s with sync }
  | .take => s.sync.take.map fun sync => { s with sync }
  | .abandon => some { s with sync := { s.sync with abandoned := true } }

def subscribe (sent : List TuyaMessage) : Station :=
  ⟨⟨chanBroadcastCapacity, sent, true⟩, sent.length, ⟨sent.length, false, []⟩,
    ⟨sent.length, false, [], false, []⟩⟩

section Readers

def ListenerStream.reader (l : ListenerStream) : Reader TuyaMessage :=
  ⟨l.position, l.ended, l.yielded⟩

/-- The task as a reader of the channel: what it has passed on is received or still in the
bounded channel. -/
def SyncListener.reader (l : SyncListener) : Reader TuyaMessage :=
  ⟨l.position, l.ended, l.received ++ l.buffer⟩

theorem poll_reader (l : ListenerStream) (c : Channel TuyaMessage) :
    (l.poll c).map ListenerStream.reader = l.reader.receive hasPayload true c := by
  obtain ⟨position, ended, yielded⟩ := l
  cases ended with
  | true => rfl
  | false =>
    cases hrecv : c.recv position with
    | none => simp [ListenerStream.poll, ListenerStream.reader, Reader.receive, hrecv]
    | some got =>
      obtain ⟨msg | missed | _, position'⟩ := got <;>
        simp [ListenerStream.poll, ListenerStream.reader, Reader.receive, hrecv]

theorem forward_reader (l : SyncListener) (c : Channel TuyaMessage) :
    (l.forward c).map SyncListener.reader = l.reader.receive hasPayload l.accepts c := by
  obtain ⟨position, ended, buffer, abandoned, received⟩ := l
  cases ended with
  | true => rfl
  | false =>
    cases hrecv : c.recv position with
    | none => simp [SyncListener.forward, SyncListener.reader, Reader.receive, hrecv]
    | some got =>
      obtain ⟨msg | missed | _, position'⟩ := got <;>
        simp [SyncListener.forward, SyncListener.reader, Reader.receive, hrecv]
      split <;> rfl

theorem take_reader {l l' : SyncListener} (h : l.take = some l') : l'.reader = l.reader := by
  rw [SyncListener.take] at h
  split at h <;> cases h
  next msg buffer hbuffer => simp [SyncListener.reader, hbuffer]

variable {c : Channel TuyaMessage}

theorem poll_next {l : ListenerStream} (hopen : l.ended = false) (hkept : c.oldest ≤ l.position)
    (hlt : l.position < c.sent.length) :
    ∃ l', l.poll c = some l' ∧ l'.position = l.position + 1 := by
  obtain ⟨r, hreceive, hposition⟩ : ∃ r, l.reader.receive hasPayload true c = some r ∧
      r.position = l.position + 1 := receive_next hopen hkept hlt
  rw [← poll_reader] at hreceive
  obtain ⟨l', hpoll, rfl⟩ := Option.map_eq_some_iff.mp hreceive
  exact ⟨l', hpoll, hposition⟩

theorem forward_next {l : SyncListener} (hopen : l.ended = false) (hkept : c.oldest ≤ l.position)
    (hlt : l.position < c.sent.length) :
    ∃ l', l.forward c = some l' ∧ l'.position = l.position + 1 := by
  obtain ⟨r, hreceive, hposition⟩ : ∃ r, l.reader.receive hasPayload l.accepts c = some r ∧
      r.position = l.position + 1 := receive_next hopen hkept hlt
  rw [← forward_reader] at hreceive
  obtain ⟨l', hforward, rfl⟩ := Option.map_eq_some_iff.mp hreceive
  exact ⟨l', hforward, hposition⟩

theorem forward_abandoned {l l' : SyncListener} (h : l.forward c = some l') :
    l'.abandoned = l.abandoned := by
  rw [SyncListener.forward] at h
  split at h
  · cases h
  · obtain ⟨⟨msg | missed | _, position⟩, -, rfl⟩ := Option.map_eq_some_iff.mp h
    · dsimp only
      split <;> rfl
    · rfl
    · rfl

end Readers

def StreamDelivers (s : Station) : Prop :=
  s.stream.reader.Faithful hasPayload s.start s.channel

def SyncDelivers (s : Station) : Prop :=
  s.sync.reader.Faithful hasPayload s.start s.channel

/-- The stream is polled while its next message is retained. -/
def StreamKeepsUp (s : Station) : StationEvent → Prop
  | .poll => s.channel.oldest ≤ s.stream.position
  | _ => True

/-- The task takes its next message while that is retained, and the bounded channel has room
for it. -/
def SyncKeepsUp (s : Station) : StationEvent → Prop
  | .forward =>
    s.channel.oldest ≤ s.sync.position ∧
      ∀ msg, s.channel.sent[s.sync.position]? = some msg → hasPayload msg = true →
        s.sync.accepts = true
  | _ => True

section Steps

variable {s s' : Station} {e : StationEvent}

theorem step_stream_iff (halive : s.channel.alive = true) (h : stationNext s e = some s')
    (hs : StreamDelivers s) : StreamDelivers s' ↔ StreamKeepsUp s e := by
  cases e with
  | send msgs =>
    cases h
    exact iff_of_true (hs.send msgs) trivial
  | closeSender =>
    cases h
    exact iff_of_true ⟨hs.started, hs.within, hs.unended, hs.passed⟩ trivial
  | poll =>
    obtain ⟨stream, hpoll, rfl⟩ := Option.map_eq_some_iff.mp h
    have hreceive : s.stream.reader.receive hasPayload true s.channel = some stream.reader := by
      rw [← poll_reader, hpoll, Option.map_some]
    refine (receive_faithful_iff hreceive halive hs).trans ?_
    exact ⟨fun hup => hup.1, fun hkept => ⟨hkept, fun _ _ _ => rfl⟩⟩
  | forward =>
    obtain ⟨sync, -, rfl⟩ := Option.map_eq_some_iff.mp h
    exact iff_of_true hs trivial
  | take =>
    obtain ⟨sync, -, rfl⟩ := Option.map_eq_some_iff.mp h
    exact iff_of_true hs trivial
  | abandon =>
    cases h
    exact iff_of_true hs trivial

theorem step_sync_iff (halive : s.channel.alive = true) (h : stationNext s e = some s')
    (hs : SyncDelivers s) : SyncDelivers s' ↔ SyncKeepsUp s e := by
  cases e with
  | send msgs =>
    cases h
    exact iff_of_true (hs.send msgs) trivial
  | closeSender =>
    cases h
    exact iff_of_true ⟨hs.started, hs.within, hs.unended, hs.passed⟩ trivial
  | poll =>
    obtain ⟨stream, -, rfl⟩ := Option.map_eq_some_iff.mp h
    exact iff_of_true hs trivial
  | forward =>
    obtain ⟨sync, hforward, rfl⟩ := Option.map_eq_some_iff.mp h
    have hreceive : s.sync.reader.receive hasPayload s.sync.accepts s.channel
        = some sync.reader := by
      rw [← forward_reader, hforward, Option.map_some]
    exact receive_faithful_iff hreceive halive hs
  | take =>
    obtain ⟨sync, htake, rfl⟩ := Option.map_eq_some_iff.mp h
    refine iff_of_true ?_ trivial
    rw [SyncDelivers, take_reader htake]
    exact hs
  | abandon =>
    cases h
    exact iff_of_true hs trivial

end Steps

section Runs

variable {s s' : Station} {es : List StationEvent}

def Allowed (keepsUp : Station → StationEvent → Prop) (s : Station) (e : StationEvent) : Prop :=
  s.channel.alive = true ∧ keepsUp s e

theorem run_stream (hrun : Execution stationNext (Allowed StreamKeepsUp) s es s')
    (hs : StreamDelivers s) : StreamDelivers s' :=
  hrun.invariant (P := StreamDelivers) (fun _ _ _ hallowed hnext hs =>
    (step_stream_iff hallowed.1 hnext hs).mpr hallowed.2) hs

theorem run_sync (hrun : Execution stationNext (Allowed SyncKeepsUp) s es s')
    (hs : SyncDelivers s) : SyncDelivers s' :=
  hrun.invariant (P := SyncDelivers) (fun _ _ _ hallowed hnext hs =>
    (step_sync_iff hallowed.1 hnext hs).mpr hallowed.2) hs

theorem subscribe_faithful (sent : List TuyaMessage) :
    StreamDelivers (subscribe sent) ∧ SyncDelivers (subscribe sent) := by
  have hnothing : [] = window hasPayload sent sent.length sent.length :=
    (window_start hasPayload).symm
  constructor
  · exact ⟨Nat.le_refl _, Nat.le_refl _, rfl, hnothing⟩
  · exact ⟨Nat.le_refl _, Nat.le_refl _, rfl, hnothing⟩

theorem stream_drains (n : Nat) (halive : s.channel.alive = true) (hs : StreamDelivers s)
    (hkept : s.channel.oldest ≤ s.stream.position)
    (hn : s.channel.sent.length = s.stream.position + n) :
    ∃ es s', Execution stationNext (Allowed StreamKeepsUp) s es s' ∧
      s'.stream.yielded = (s.channel.sent.drop s.start).filter hasPayload := by
  induction n generalizing s with
  | zero => exact ⟨[], s, .nil s, hs.complete hn.symm⟩
  | succ n ih =>
    obtain ⟨stream, hpoll, hposition⟩ := poll_next hs.unended hkept (by omega)
    have hnext : stationNext s .poll = some { s with stream } :=
      Option.map_eq_some_iff.mpr ⟨stream, hpoll, rfl⟩
    have hrest := (step_stream_iff halive hnext hs).mpr hkept
    obtain ⟨es, s', hpolls, hyielded⟩ := ih (s := { s with stream }) halive hrest
      (by dsimp only; omega) (by dsimp only; omega)
    exact ⟨.poll :: es, s', .cons ⟨halive, hkept⟩ hnext hpolls, hyielded⟩

def Station.emptied (s : Station) : Station :=
  { s with sync := { s.sync with buffer := [], received := s.sync.received ++ s.sync.buffer } }

theorem buffer_drains (halive : s.channel.alive = true) :
    ∃ es, Execution stationNext (Allowed SyncKeepsUp) s es s.emptied := by
  obtain ⟨channel, start, stream, ⟨position, ended, buffer, abandoned, received⟩⟩ := s
  induction buffer generalizing received with
  | nil =>
    refine ⟨[], ?_⟩
    rw [Station.emptied, List.append_nil]
    exact .nil _
  | cons msg buffer ih =>
    obtain ⟨es, hrest⟩ := ih (received ++ [msg]) halive
    refine ⟨.take :: es, .cons ⟨halive, trivial⟩ rfl ?_⟩
    rw [Station.emptied, List.append_assoc] at hrest
    exact hrest

theorem sync_drains (n : Nat) (halive : s.channel.alive = true) (hs : SyncDelivers s)
    (hkept : s.channel.oldest ≤ s.sync.position) (hreader : s.sync.abandoned = false)
    (hn : s.channel.sent.length = s.sync.position + n) :
    ∃ es s', Execution stationNext (Allowed SyncKeepsUp) s es s' ∧
      s'.sync.received = (s.channel.sent.drop s.start).filter hasPayload := by
  induction n generalizing s with
  | zero =>
    obtain ⟨es, hempties⟩ := buffer_drains halive
    exact ⟨es, s.emptied, hempties, hs.complete hn.symm⟩
  | succ n ih =>
    obtain ⟨es, hempties⟩ := buffer_drains halive
    have hemptied : SyncDelivers s.emptied := run_sync hempties hs
    -- The bounded channel is empty now, so that it takes the next message.
    have hroom : s.emptied.sync.accepts = true := by
      simp [SyncListener.accepts, Station.emptied, chanSyncCapacity, hreader]
    have hallowed : Allowed SyncKeepsUp s.emptied .forward :=
      ⟨halive, hkept, fun _ _ _ => hroom⟩
    obtain ⟨sync, hforward, hposition⟩ : ∃ sync, s.emptied.sync.forward s.channel = some sync ∧
        sync.position = s.sync.position + 1 :=
      forward_next hemptied.unended hkept (by dsimp only [Station.emptied]; omega)
    have hstill : sync.abandoned = false := (forward_abandoned hforward).trans hreader
    have hnext : stationNext s.emptied .forward = some { s.emptied with sync } :=
      Option.map_eq_some_iff.mpr ⟨sync, hforward, rfl⟩
    have hrest : SyncDelivers { s.emptied with sync } :=
      (step_sync_iff hallowed.1 hnext hemptied).mpr hallowed.2
    obtain ⟨fs, s', hforwards, hreceived⟩ := ih (s := { s.emptied with sync }) halive hrest
      (by dsimp only [Station.emptied]; omega) hstill (by dsimp only [Station.emptied]; omega)
    exact ⟨es ++ .forward :: fs, s', hempties.append (.cons hallowed hnext hforwards), hreceived⟩

/-- Each listener is there after every run in which it keeps up and the sender is alive, and has
passed on every message with a payload that it has come to, whatever the other one does. The
condition is exact for the next step. From there, a listener that has not fallen behind too
far can be brought to the end of what has been sent. -/
theorem listeners_survive_iff (sent : List TuyaMessage) :
    (∀ es s, Execution stationNext (Allowed StreamKeepsUp) (subscribe sent) es s →
      s.channel.alive = true →
      StreamDelivers s ∧
      (∀ e s', stationNext s e = some s' → (StreamDelivers s' ↔ StreamKeepsUp s e)) ∧
      (s.channel.oldest ≤ s.stream.position →
        ∃ fs s', Execution stationNext (Allowed StreamKeepsUp) s fs s' ∧
          s'.stream.yielded = (s.channel.sent.drop s.start).filter hasPayload)) ∧
    (∀ es s, Execution stationNext (Allowed SyncKeepsUp) (subscribe sent) es s →
      s.channel.alive = true →
      SyncDelivers s ∧
      (∀ e s', stationNext s e = some s' → (SyncDelivers s' ↔ SyncKeepsUp s e)) ∧
      (s.channel.oldest ≤ s.sync.position → s.sync.abandoned = false →
        ∃ fs s', Execution stationNext (Allowed SyncKeepsUp) s fs s' ∧
          s'.sync.received = (s.channel.sent.drop s.start).filter hasPayload)) := by
  obtain ⟨hstream, hsync⟩ := subscribe_faithful sent
  constructor
  · intro es s hrun halive
    have hs := run_stream hrun hstream
    refine ⟨hs, fun e s' hnext => step_stream_iff halive hnext hs, ?_⟩
    intro hkept
    obtain ⟨n, hn⟩ := Nat.exists_eq_add_of_le hs.within
    exact stream_drains n halive hs hkept hn
  · intro es s hrun halive
    have hs := run_sync hrun hsync
    refine ⟨hs, fun e s' hnext => step_sync_iff halive hnext hs, ?_⟩
    intro hkept hreader
    obtain ⟨n, hn⟩ := Nat.exists_eq_add_of_le hs.within
    exact sync_drains n halive hs hkept hreader hn

end Runs

section Device

variable {C : Crates} {S : Codec} {build : Build} {device : Device} {w w' : World} {e : Event}

/-- The steps of the connection task, its reader and the user only send messages. -/
theorem next_sends (h : next C S build device w e = some w') :
    w'.broadcast = w.broadcast ++ newMessages w w' :=
  step_broadcast (next_step h)

theorem run_sends {allowed : World → Event → Prop} {es : List Event}
    (h : Execution (next C S build device) allowed w es w') {s : Station}
    (halive : s.channel.alive = true) (hsent : s.channel.sent = w.broadcast) :
    ∃ fs s',
      Execution stationNext (Allowed fun s e => StreamKeepsUp s e ∧ SyncKeepsUp s e) s fs s' ∧
      s'.channel.sent = w'.broadcast ∧
      s'.stream = s.stream ∧ s'.sync = s.sync := by
  induction h generalizing s with
  | nil w => exact ⟨[], s, .nil s, hsent, rfl, rfl⟩
  | @cons w v w' e es _ hnext _ ih =>
    obtain ⟨fs, s', hrest, hlast, hstream, hsync⟩ :=
      ih (s := { s with channel := s.channel.send (newMessages w v) }) halive
        (by rw [Channel.send, hsent, next_sends hnext])
    exact ⟨.send (newMessages w v) :: fs, s', .cons ⟨halive, trivial, trivial⟩ rfl hrest, hlast,
      hstream, hsync⟩

end Device

section Sample

def status : TuyaMessage := { TuyaMessage.default with cmd := 8, payload := [0x7b, 0x7d] }

def keepsUp (s : Station) : StationEvent → Bool
  | .poll => decide (s.channel.oldest ≤ s.stream.position)
  | .forward => decide (s.channel.oldest ≤ s.sync.position) && s.sync.accepts
  | _ => true

theorem keepsUp_allowed {s : Station} {e : StationEvent}
    (h : (s.channel.alive && keepsUp s e) = true) :
    Allowed StreamKeepsUp s e ∧ Allowed SyncKeepsUp s e := by
  obtain ⟨halive, hup⟩ := Bool.and_eq_true_iff.mp h
  cases e with
  | poll =>
    rw [keepsUp, decide_eq_true_eq] at hup
    exact ⟨⟨halive, hup⟩, halive, trivial⟩
  | forward =>
    obtain ⟨hkept, hroom⟩ := Bool.and_eq_true_iff.mp hup
    exact ⟨⟨halive, trivial⟩, halive, of_decide_eq_true hkept, fun _ _ _ => hroom⟩
  | _ => exact ⟨⟨halive, trivial⟩, halive, trivial⟩

def sampleSteps : List StationEvent :=
  [.send [status, TuyaMessage.default], .poll, .poll, .forward, .take, .forward]

theorem both_listeners_served :
    ∃ s, run (guarded (fun s e => s.channel.alive && keepsUp s e) stationNext) (subscribe [])
        sampleSteps = some s ∧
      s.channel.alive = true ∧ s.sync.received = [status] ∧ StreamDelivers s ∧ SyncDelivers s := by
  obtain ⟨s, hrun, hobserved⟩ : ∃ s, run (guarded (fun s e => s.channel.alive && keepsUp s e)
        stationNext) (subscribe []) sampleSteps = some s ∧
      (s.channel.alive, s.sync.received) = (true, [status]) :=
    Option.map_eq_some_iff.mp (by decide +kernel)
  have halive : s.channel.alive = true := congrArg Prod.fst hobserved
  obtain ⟨hstream, hsync⟩ := listeners_survive_iff []
  refine ⟨s, hrun, halive, congrArg Prod.snd hobserved, ?_, ?_⟩
  · exact (hstream _ s (execution_of_guarded_run (fun _ _ h => (keepsUp_allowed h).1) hrun)
      halive).1
  · exact (hsync _ s (execution_of_guarded_run (fun _ _ h => (keepsUp_allowed h).2) hrun)
      halive).1

/-- The stream is polled after 129 messages, and ends. The task forwards 129 messages of which
none is taken, and ends. -/
theorem slow_consumers_lose_listeners :
    (∃ s, run stationNext (subscribe []) [.send (List.replicate 129 status), .poll] = some s ∧
      s.channel.alive = true ∧ s.stream.ended = true ∧ s.stream.yielded = []) ∧
    ∃ s, run stationNext (subscribe [])
        (.send (List.replicate 128 status) :: List.replicate 128 .forward ++
          [.send [status], .forward]) = some s ∧
      s.channel.alive = true ∧ s.sync.ended = true ∧ s.sync.buffer.length = 128 := by
  constructor
  · obtain ⟨s, hrun, hobserved⟩ : ∃ s, run stationNext (subscribe [])
          [.send (List.replicate 129 status), .poll] = some s ∧
        (s.channel.alive, s.stream.ended, s.stream.yielded) = (true, true, []) :=
      Option.map_eq_some_iff.mp (by decide +kernel)
    rw [Prod.mk.injEq, Prod.mk.injEq] at hobserved
    exact ⟨s, hrun, hobserved⟩
  · obtain ⟨s, hrun, hobserved⟩ : ∃ s, run stationNext (subscribe [])
          (.send (List.replicate 128 status) :: List.replicate 128 .forward ++
            [.send [status], .forward]) = some s ∧
        (s.channel.alive, s.sync.ended, s.sync.buffer.length) = (true, true, 128) :=
      Option.map_eq_some_iff.mp (by decide +kernel)
    rw [Prod.mk.injEq, Prod.mk.injEq] at hobserved
    exact ⟨s, hrun, hobserved⟩

end Sample

end EventListeners
