import Rustuya.TaskBranches

/-!
# The transcript of a run

A frame is drafted when its message is built and packed two steps later, and the settings may
change in between. The transcript lists what has gone into frames, and for whom: the two
messages of a negotiation, the payload generated for the request in hand, or that of a
heartbeat.
-/
namespace Transcript

open CheckedExecution StatefulExecution ByteCodec Error Crypto Message Protocol Json
open SessionKey CommandPayload DeviceState StreamReader ConnectionLifecycle ConnectionTask
open TransitionSystem RequestRefinement TaskBranches

/-- A message that has been put into a frame. Connections are numbered from 1. -/
structure Post where
  conn : Nat
  purpose : Purpose
  msg : TuyaMessage

section Posts

variable (C : Crates) (build : Build) (device : Device)

def posted (w : World) : Event → List Post
  | .task (.packed iv) =>
    match w.pc with
    | .sending p (.encrypt msg protocol) =>
      match frameOf C build device w.shared protocol msg iv with
      | .ok _ => [⟨w.conns.length, p, msg⟩]
      | .err _ | .panic => []
    | _ => []
  | _ => []

theorem posted_cases (w : World) (e : Event) :
    posted C build device w e = [] ∨
      ∃ iv p msg protocol, e = .task (.packed iv) ∧ w.pc = .sending p (.encrypt msg protocol) ∧
        posted C build device w e = [⟨w.conns.length, p, msg⟩] := by
  unfold posted
  split
  next iv =>
    split
    next p msg protocol hpc =>
      split
      · exact .inr ⟨iv, p, msg, protocol, rfl, hpc, rfl⟩
      · exact .inl rfl
      · exact .inl rfl
    · exact .inl rfl
  · exact .inl rfl

end Posts

section Drafts

/-- What is known of a run: the protocols that are spoken, and the nonces with which the device
answers a negotiation. -/
structure Facts where
  protocol : TuyaProtocol → Prop
  nonce : Bytes → Prop

variable (C : Crates) (S : Codec) (device : Device) (F : Facts)

/-- The key derived from the client's nonce and the device's, and the proof for the device. -/
def Derived (nonce : U8Array 16) (sessionKey finishHmac : Bytes) : Prop :=
  ∃ remote, F.nonce remote ∧
    finalizeSessionKey C nonce.val remote device.localKey = .ok (sessionKey, finishHmac)

def Generated (command : CommandType) (data : Option Value) (cid : Option String) (cmd : UInt32)
    (payload : Bytes) : Prop :=
  ∃ t protocol, F.protocol protocol ∧
    cmd = (generatePayload device.id command data cid t protocol).1 ∧
    payload = S.toVec (generatePayload device.id command data cid t protocol).2

def Draft : Purpose → UInt32 → Bytes → Prop
  | .negStart _ _ nonce, cmd, payload =>
    cmd = CommandType.sessKeyNegStart.code ∧ payload = nonce.val
  | .negFinish _ _ nonce sessionKey, cmd, payload =>
    cmd = CommandType.sessKeyNegFinish.code ∧ Derived C device F nonce sessionKey payload
  | .session (.request req _), cmd, payload =>
    Generated S device F req.command req.data req.cid cmd payload
  | .session .heartbeat, cmd, payload => Generated S device F .heartBeat none none cmd payload

structure Drafted (p : Purpose) (msg : TuyaMessage) : Prop where
  draft : Draft C S device F p msg.cmd msg.payload
  retcode : msg.retcode = none
  iv : msg.iv = none

def Planned : Purpose → Prop
  | .negStart _ protocol _ => F.protocol protocol
  | .negFinish _ protocol nonce sessionKey =>
    F.protocol protocol ∧ ∃ finishHmac, Derived C device F nonce sessionKey finishHmac
  | .session _ => True

def Asked : Sender → CommandType → Option Value → Option String → Prop
  | .request req _, command, data, cid => command = req.command ∧ data = req.data ∧ cid = req.cid
  | .heartbeat, command, data, cid => command = .heartBeat ∧ data = none ∧ cid = none

def Prepared (p : Purpose) : Sending → Prop
  | .build cmd payload => Draft C S device F p cmd payload
  | .pack msg => Drafted C S device F p msg
  | .encrypt msg protocol => Drafted C S device F p msg ∧ F.protocol protocol
  | .write => True

def Drafting : Pc → Prop
  | .connecting _ (.awaitResponse protocol _) => F.protocol protocol
  | .connecting _ (.store protocol nonce sessionKey) =>
    F.protocol protocol ∧ ∃ finishHmac, Derived C device F nonce sessionKey finishHmac
  | .generate sender command data cid => Asked sender command data cid
  | .sending p s => Planned C device F p ∧ Prepared C S device F p s
  | _ => True

end Drafts

section Steps

/-- The nonce in a response that the client accepts. -/
def remoteNonce (C : Crates) (S : Codec) (build : Build) (device : Device) (w : World) :
    Event → Option Bytes
  | .task (.response firstByte stream) =>
    match w.pc with
    | .connecting _ (.awaitResponse _ nonce) =>
      match ((readAndParseFromStream C S build device firstByte).run ⟨w.shared, stream, []⟩).1 with
      | .ok (some resp) =>
        match verifySessionKeyResponse C nonce.val resp.payload device.localKey with
        | .ok remote => some remote
        | .err _ | .panic => none
      | _ => none
    | _ => none
  | _ => none

variable {C : Crates} {S : Codec} {build : Build} {device : Device} {F : Facts} {w w' : World}
  {t : TaskEvent} {e : Event}

theorem drafting_conclude (req : Request) (initial : Bool) (answer : Answer) :
    Drafting C S device F (w.conclude req initial answer).pc := by
  cases initial <;> trivial

theorem drafting_afterDisconnect (err : Option TuyaError) :
    Drafting C S device F (afterDisconnect err) := by
  cases err <;> trivial

theorem branch_drafting (h : Branch C S build device w t w')
    (hprotocol : ∀ devType, F.protocol (getProtocol w.shared.version devType))
    (hnonce : ∀ remote, remoteNonce C S build device w (.task t) = some remote → F.nonce remote)
    (hw : Drafting C S device F w.pc) : Drafting C S device F w'.pc := by
  cases h
  case disconnectSilent => exact drafting_afterDisconnect _
  case disconnectTold => exact drafting_afterDisconnect _
  case requestDone => exact drafting_conclude _ _ _
  case requestUnsent => exact drafting_conclude _ _ _
  case lags => exact drafting_conclude _ _ _
  case replies => exact drafting_conclude _ _ _
  case replyTimesOut => exact drafting_conclude _ _ _
  case backoffRejects hpc _ =>
    change Drafting C S device F w.pc
    exact hw
  case passes => exact hw
  case serveConnectNow => exact hw
  case writes => exact hw
  case drawsNonce => exact ⟨hprotocol _, rfl, rfl⟩
  case startWritten hpc _ _ =>
    rw [hpc] at hw
    exact hw.1
  case finishWritten hpc _ _ =>
    rw [hpc] at hw
    exact hw.1
  case responds nonce _ _ _ _ sessionKey finishHmac hpc hread _ haccept =>
    rw [hpc] at hw
    obtain ⟨remote, hverify, hfinal⟩ := Outcome.bind_eq_ok haccept
    have hremote : F.nonce remote := by
      apply hnonce
      simp only [remoteNonce, hpc, hread, hverify]
    have hderived : Derived C device F nonce sessionKey finishHmac := ⟨remote, hremote, hfinal⟩
    exact ⟨⟨hw, finishHmac, hderived⟩, rfl, hderived⟩
  case begins => exact ⟨rfl, rfl, rfl⟩
  case heartbeatDue => exact ⟨rfl, rfl, rfl⟩
  case generates sender command data cid t hpc =>
    rw [hpc] at hw
    refine ⟨trivial, ?_⟩
    cases sender with
    | request req initial =>
      obtain ⟨rfl, rfl, rfl⟩ := hw
      exact ⟨t, _, hprotocol _, rfl, rfl⟩
    | heartbeat =>
      obtain ⟨rfl, rfl, rfl⟩ := hw
      exact ⟨t, _, hprotocol _, rfl, rfl⟩
  case builds hpc _ =>
    rw [hpc] at hw
    exact ⟨hw.1, hw.2, rfl, rfl⟩
  case readsSettings hpc =>
    rw [hpc] at hw
    exact ⟨hw.1, hw.2, hprotocol _⟩
  case packs hpc _ _ =>
    rw [hpc] at hw
    exact ⟨hw.1, trivial⟩
  all_goals trivial

theorem next_drafting (h : next C S build device w e = some w')
    (hprotocol : ∀ devType, F.protocol (getProtocol w.shared.version devType))
    (hnonce : ∀ remote, remoteNonce C S build device w e = some remote → F.nonce remote)
    (hw : Drafting C S device F w.pc) : Drafting C S device F w'.pc := by
  cases next_move h with
  | task hbranch => exact branch_drafting hbranch hprotocol hnonce hw
  | drop => trivial
  | reader hreader => cases hreader <;> exact hw
  | user hcall => cases hcall <;> exact hw

end Steps

end Transcript
