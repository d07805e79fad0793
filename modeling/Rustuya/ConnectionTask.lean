import Rustuya.ConnectionLifecycle
import Rustuya.KnownAnswers
import Rustuya.SessionKey
import Rustuya.StreamReader
import Rustuya.TransitionSystem

/-!
# The connection task

The background task of a device, the reader it spawns and the callers, as one transition
system. A step of the task is one section under the state lock or one local computation;
at an `await` the environment chooses what happens, and the label of the step says what.
One read of a message from the socket is one step. Time is left to the environment: it
may let a sleep end or a timeout expire whenever the code is waiting for it.
-/
namespace ConnectionTask

open CheckedExecution StatefulExecution ByteCodec Error Crypto Message Protocol Json
open SessionKey CommandPayload DeviceState StreamReader ConnectionLifecycle

def chanBroadcastCapacity : Nat := 128
def chanMpscCapacity : Nat := 64
def addrAuto : String := "Auto"

/-- Commands that are not answered by an empty acknowledgement. -/
def mandatoryDataCmds : List UInt32 := [CommandType.lanExtStream.code]

/-- A request; `id` names the channel its answer is sent through. -/
structure Request where
  id : Nat
  command : CommandType
  data : Option Value
  cid : Option String

abbrev Answer := Except TuyaError (Option TuyaMessage)

inductive Command where
  | request (req : Request)
  | disconnect
  | connectNow

/-- Why a connection is being made: in the retry loop, or for one waiting request. -/
inductive Attempt where
  | scheduled
  | onDemand (req : Request)

/-- What is sent on an established connection. An initial request runs before the reader
is started. -/
inductive Sender where
  | request (req : Request) (initial : Bool)
  | heartbeat

inductive Purpose where
  | negStart (a : Attempt) (protocol : TuyaProtocol) (nonce : U8Array 16)
  | negFinish (a : Attempt) (protocol : TuyaProtocol) (nonce : U8Array 16) (sessionKey : Bytes)
  | session (sender : Sender)

/-- The steps of sending a frame, from `build_message` to `write_all`. -/
inductive Sending where
  | build (cmd : UInt32) (payload : Bytes)
  | pack (msg : TuyaMessage)
  | encrypt (msg : TuyaMessage) (protocol : TuyaProtocol)
  | write

/-- The steps of `connect_and_handshake` that do not send. -/
inductive Handshake where
  | resolve
  | discover (configAddr : String)
  | dial (addr : String)
  | dialed
  | negotiate
  | awaitResponse (protocol : TuyaProtocol) (nonce : U8Array 16)
  | store (protocol : TuyaProtocol) (nonce : U8Array 16) (sessionKey : Bytes)

inductive Pc where
  | jitter
  | loopHead
  | tryHead
  | readBackoff
  | waitForBackoff
  | connecting (a : Attempt) (h : Handshake)
  | markConnected (a : Attempt)
  | announceConnected (a : Attempt)
  | connectFailed (a : Attempt) (e : TuyaError)
  | announceFailed (a : Attempt) (e : TuyaError)
  | checkPersist (e : TuyaError)
  | scheduleRetry (e : TuyaError)
  | onDemand
  | beginRequest (req : Request) (initial : Bool)
  | generate (sender : Sender) (command : CommandType) (data : Option Value) (cid : Option String)
  | sending (p : Purpose) (s : Sending)
  | readEffective (req : Request) (initial : Bool)
  | awaitReply (req : Request) (initial : Bool) (effectiveCmd : UInt32)
  | spawnReader
  | maintain
  | channelClosed
  | tickPersist
  | tickDue
  | handleDisconnect (err : Option TuyaError)
  | announceDisconnect (err : Option TuyaError)
  | countFailure (e : TuyaError)
  | checkStopped
  | exiting
  | exited
  | crashed

inductive ReaderStatus where
  | absent
  | running (packetsReceived : Int32)
  | finished
  deriving DecidableEq, Repr

inductive Call where
  | cancel
  | markClosed
  | sendDisconnect
  deriving DecidableEq, Repr

structure World where
  shared : State
  nowait : Bool
  cancelled : Bool
  queue : List Command
  queueClosed : Bool
  pc : Pc
  seqno : UInt32
  /-- The connections made so far, the latest first. -/
  conns : List Connection
  reader : ReaderStatus
  /-- The channel from the reader to the task. -/
  readerError : Option TuyaError
  /-- Readers that were aborted and have not yet noticed. -/
  lingering : Nat
  broadcast : List TuyaMessage
  /-- What the request being answered has received since it subscribed. -/
  subscription : Option (List TuyaMessage)
  replies : List (Nat × Answer)
  /-- How often the scanner was told to forget the device. -/
  invalidations : Nat
  calls : List Call

section Updates

def World.goto (w : World) (pc : Pc) : World := { w with pc }

def World.lock (w : World) (f : State → State) : World := { w with shared := f w.shared }

def World.publish (w : World) (msgs : List TuyaMessage) : World :=
  { w with broadcast := w.broadcast ++ msgs, subscription := w.subscription.map (· ++ msgs) }

def World.answer (w : World) (req : Request) (answer : Answer) : World :=
  { w with replies := w.replies ++ [(req.id, answer)] }

def World.respond (w : World) (cmd : Command) (answer : Answer) : World :=
  match cmd with
  | .request req => w.answer req answer
  | .disconnect | .connectNow => w

def World.drainRx (w : World) (e : TuyaError) (close : Bool) : World :=
  let w := { w with queueClosed := w.queueClosed || close }
  { w.queue.foldl (fun w cmd => w.respond cmd (.error e)) w with queue := [] }

/-- The task is gone, and with it the receiving end of the queue. -/
def World.finish (w : World) (pc : Pc) : World :=
  { w with pc, queue := [], queueClosed := true }

/-- `maintain_connection` returns: the reader is told to stop. -/
def World.leave (w : World) (err : Option TuyaError) : World :=
  match w.reader with
  | .running _ =>
    { w with reader := .absent, lingering := w.lingering + 1, pc := .handleDisconnect err }
  | .absent | .finished => { w with reader := .absent, pc := .handleDisconnect err }

def World.current (w : World) : Option Frame := w.conns.head?.bind (·.frames.head?)

def World.push (w : World) (f : Frame) : World :=
  match w.conns with
  | c :: rest => { w with conns := { c with frames := f :: c.frames } :: rest }
  | [] => w

def World.progress (w : World) (n : Nat) : Option World :=
  match w.conns with
  | ⟨f :: fs, key⟩ :: rest =>
    if f.written + n ≤ f.bytes.length then
      some { w with conns := ⟨{ f with written := f.written + n } :: fs, key⟩ :: rest }
    else none
  | _ => none

def World.stopped (w : World) : Bool := decide (w.shared.state = .stopped)
def World.connected (w : World) : Bool := decide (w.shared.state = .connected)

end Updates

inductive IoFailure where
  | timeout
  | failed (text : String)
  deriving DecidableEq, Repr

def IoFailure.error : IoFailure → TuyaError
  | .timeout => .timeout
  | .failed text => .io text

def noResponseError : StreamEnd → TuyaError
  | .eof => .keyOrVersionError
  | .silent => .timeout
  | .failed text => .io text

structure Discovery where
  ip : String
  version : Option Version

/-- What the task does next. `go` is a step in which the environment has no say. -/
inductive TaskEvent where
  | go
  | cancelled
  | elapsed
  | slept
  | rediscovered
  | recv
  | discovered (result : Option Discovery)
  | dialed
  | refused
  | dialFailed (failure : IoFailure)
  | drawn (nonce : U8Array 16)
  | clock (t : UInt64)
  | packed (iv : U8Array 12)
  | wrote (n : Nat)
  | writeDone
  | writeFailed (failure : IoFailure)
  | response (firstByte : UInt8) (stream : Stream)
  | noResponse (ending : StreamEnd)
  | reply
  | replyTimeout
  | tick
  | due (heartbeat : Bool)
  | readerFailed

inductive ReaderEvent where
  | packet (firstByte : UInt8) (stream : Stream)
  | ended (ending : StreamEnd)
  | cancelled
  | late (firstByte : UInt8) (stream : Stream)
  | gone

inductive UserEvent where
  | submit (req : Request)
  | connectNow
  | stop
  | close
  | advance (i : Nat)
  | setPersist (persist : Bool)
  | setDevType (devType : DeviceType)
  | setVersion (version : Version)
  | setAddress (address : String)
  | setNowait (nowait : Bool)

/-- `drop` is the cancellation of the task from outside, at any `await`. -/
inductive Event where
  | task (e : TaskEvent)
  | drop
  | reader (e : ReaderEvent)
  | user (e : UserEvent)

section Steps

variable (C : Crates) (S : Codec) (build : Build) (device : Device)

def World.broadcastError (w : World) (code : Nat) (payload : Option Value) : World :=
  w.publish [errorHelper S w.shared code payload]

def onGo (w : World) : TaskEvent → Option World
  | .go => some w
  | _ => none

section RunConnectionTask

def jitter (w : World) : TaskEvent → Option World
  | .slept => some (w.goto .loopHead)
  | .cancelled => if w.cancelled then some (w.finish .exited) else none
  | _ => none

def loopHead (w : World) : World :=
  if w.stopped then w.goto .exiting else { w with seqno := 1, pc := .tryHead }

def handleDisconnect (w : World) (err : Option TuyaError) : World :=
  (w.lock fun s => { s with state := dropped s.state, sessionKey := none }).goto
    (.announceDisconnect err)

def announceDisconnect (w : World) (err : Option TuyaError) : World :=
  let code := match err with
    | some e => e.code
    | none => errOffline
  let w := if w.stopped then w else w.broadcastError S code none
  match err with
  | some e => w.goto (.countFailure e)
  | none => w.goto .exiting

def countFailure (w : World) (e : TuyaError) : World :=
  match (addU32 build w.shared.failureCount 1 : Result UInt32) with
  | .ok failureCount =>
    let w := w.lock fun s => { s with failureCount, successCount := 0 }
    (w.drainRx e false).goto .checkStopped
  | .err _ | .panic => w.finish .crashed

def checkStopped (w : World) : World :=
  if w.stopped then w.goto .exiting else w.goto .loopHead

def exiting (w : World) : World := { w.finish .exited with cancelled := true }

end RunConnectionTask

section TryConnectWithBackoff

def tryHead (w : World) : World :=
  if w.stopped then (w.drainRx .offline true).goto .exiting
  else { w with seqno := 1, pc := .readBackoff }

def readBackoff (w : World) : World :=
  if 0 < w.shared.failureCount then w.goto .waitForBackoff
  else w.goto (.connecting .scheduled .resolve)

def waitForBackoff (w : World) : TaskEvent → Option World
  | .slept | .rediscovered => some (w.goto (.connecting .scheduled .resolve))
  | .cancelled => if w.cancelled then some ((w.drainRx .offline true).goto .exiting) else none
  | .recv =>
    match w.queue with
    | .connectNow :: queue => some { w with queue, pc := .connecting .scheduled .resolve }
    | cmd :: queue =>
      some ((World.respond { w with queue } cmd (.error .offline)).broadcastError S errOffline none)
    | [] => if w.queueClosed then some (w.goto .exiting) else none
  | _ => none

def markConnected (w : World) (a : Attempt) : World :=
  (w.lock fun s => { s with state := .connected }).goto (.announceConnected a)

def announceConnected (w : World) (a : Attempt) : World :=
  let w := w.broadcastError S errSuccess none
  match a with
  | .scheduled => w.goto .spawnReader
  | .onDemand req => w.goto (.beginRequest req true)

def handleConnectionError (w : World) (a : Attempt) (e : TuyaError) : World :=
  (w.lock fun s => { s with state := dropped s.state }).goto (.announceFailed a e)

def announceFailed (w : World) (a : Attempt) (e : TuyaError) : World :=
  let w := w.broadcastError S e.code (some (.string e.display))
  match a with
  | .scheduled => (w.drainRx e false).goto (.checkPersist e)
  | .onDemand req => ((w.answer req (.error e)).broadcastError S errOffline none).goto .onDemand

def checkPersist (w : World) (e : TuyaError) : World :=
  if w.shared.persist then w.goto (.scheduleRetry e) else w.goto .onDemand

/-- The errors after which a device found by discovery is looked for again. -/
def rediscovers (s : State) (e : TuyaError) : Bool :=
  decide (s.configAddress = addrAuto) && decide (e = .keyOrVersionError ∨ e = .offline)

def scheduleRetry (w : World) (e : TuyaError) : World :=
  match (addU32 build w.shared.failureCount 1 : Result UInt32) with
  | .ok failureCount =>
    { w.lock fun s => { s with
        failureCount, successCount := 0
        forceDiscovery := s.forceDiscovery || rediscovers s e } with
      invalidations := w.invalidations + (if rediscovers w.shared e then 1 else 0)
      pc := .tryHead }
  | .err _ | .panic => w.finish .crashed

def onDemand (w : World) : TaskEvent → Option World
  | .recv =>
    match w.queue with
    | .connectNow :: queue => some { w with queue, pc := .tryHead }
    | .request req :: queue => some { w with queue, pc := .connecting (.onDemand req) .resolve }
    | .disconnect :: queue => some { w with queue, pc := .exiting }
    | [] => if w.queueClosed then some (w.goto .exiting) else none
  | _ => none

end TryConnectWithBackoff

section ConnectAndHandshake

def ipExplicit (configAddr : String) : Bool :=
  decide (configAddr ≠ addrAuto ∧ configAddr ≠ "0.0.0.0" ∧ configAddr ≠ "")

def resolveAddress (w : World) (a : Attempt) : World :=
  let s := w.shared
  if ipExplicit s.configAddress && decide (s.version ≠ .auto) && !s.forceDiscovery then
    w.goto (.connecting a (.dial s.configAddress))
  else w.goto (.connecting a (.discover s.configAddress))

/-- A discovered version only replaces an unknown one. -/
def detectedVersion (current : Version) (result : Option Version) : Version :=
  if current = .auto then result.getD current else current

def discover (w : World) (a : Attempt) (configAddr : String) : TaskEvent → Option World
  | .discovered (some result) =>
    let targetIp := if ipExplicit configAddr then configAddr else result.ip
    some ((w.lock fun s => { s with
      version := detectedVersion s.version result.version
      realIp := targetIp, forceDiscovery := false }).goto (.connecting a (.dial targetIp)))
  | .discovered none =>
    if ipExplicit configAddr then
      some ((w.lock fun s => { s with realIp := configAddr, forceDiscovery := false }).goto
        (.connecting a (.dial configAddr)))
    else some (w.goto (.connectFailed a .offline))
  | .elapsed => some (w.goto (.connectFailed a .offline))
  | _ => none

def dial (w : World) (a : Attempt) : TaskEvent → Option World
  | .dialed => some { w with conns := .fresh :: w.conns, pc := .connecting a .dialed }
  | .refused => some (w.goto (.connectFailed a .connectionFailed))
  | .dialFailed failure => some (w.goto (.connectFailed a failure.error))
  | .elapsed => some (w.goto (.connectFailed a .offline))
  | _ => none

def dialed (w : World) (a : Attempt) : World :=
  if w.shared.protocol.requiresSessionKey then w.goto (.connecting a .negotiate)
  else w.goto (.markConnected a)

def negotiate (w : World) (a : Attempt) : TaskEvent → Option World
  | .drawn nonce =>
    some (w.goto (.sending (.negStart a w.shared.protocol nonce)
      (.build CommandType.sessKeyNegStart.code nonce.val)))
  | _ => none

/-- What follows the message read as the response, in the state `w` after reading it. -/
def respondTo (w : World) (a : Attempt) (protocol : TuyaProtocol) (nonce : U8Array 16) :
    Result (Option TuyaMessage) → World
  | .ok (some resp) =>
    if resp.cmd ≠ CommandType.sessKeyNegResp.code then
      w.goto (.connectFailed a .keyOrVersionError)
    else
      match acceptResponse C nonce.val resp.payload device.localKey with
      | .ok (sessionKey, finishHmac) =>
        w.goto (.sending (.negFinish a protocol nonce sessionKey)
          (.build CommandType.sessKeyNegFinish.code finishHmac))
      | .err e => w.goto (.connectFailed a e)
      | .panic => w.finish .crashed
  | .ok none => w.goto (.connectFailed a .handshakeFailed)
  | .err e => w.goto (.connectFailed a e)
  | .panic => w.finish .crashed

def awaitResponse (w : World) (a : Attempt) (protocol : TuyaProtocol) (nonce : U8Array 16) :
    TaskEvent → Option World
  | .response firstByte stream =>
    let (resp, r) := (readAndParseFromStream C S build device firstByte).run ⟨w.shared, stream, []⟩
    some (respondTo C device { w with shared := r.device } a protocol nonce resp)
  | .noResponse ending => some (w.goto (.connectFailed a (noResponseError ending)))
  | .elapsed => some (w.goto (.connectFailed a .offline))
  | _ => none

def World.negotiated (w : World) (key : Bytes) : World :=
  let w := w.lock fun s => { s with sessionKey := some key }
  match w.conns with
  | c :: rest => { w with conns := { c with negotiated := some key } :: rest }
  | [] => w

def store (w : World) (a : Attempt) (protocol : TuyaProtocol) (nonce : U8Array 16)
    (sessionKey : Bytes) : World :=
  match storedKey C protocol sessionKey nonce.val device.localKey with
  | .ok encryptedKey => (w.negotiated encryptedKey).goto (.markConnected a)
  | .err e => w.goto (.connectFailed a e)
  | .panic => w.finish .crashed

def connectAndHandshake (w : World) (a : Attempt) : Handshake → TaskEvent → Option World
  | .resolve => onGo (resolveAddress w a)
  | .discover configAddr => discover w a configAddr
  | .dial _ => dial w a
  | .dialed => onGo (dialed w a)
  | .negotiate => negotiate w a
  | .awaitResponse protocol nonce => awaitResponse C S build device w a protocol nonce
  | .store protocol nonce sessionKey => onGo (store C device w a protocol nonce sessionKey)

end ConnectAndHandshake

section Send

def Purpose.attempt : Purpose → Option Attempt
  | .negStart a _ _ | .negFinish a _ _ _ => some a
  | .session _ => none

def World.conclude (w : World) (req : Request) (initial : Bool) (answer : Answer) : World :=
  { w.answer req answer with
    subscription := none, pc := if initial then .spawnReader else .maintain }

def sent (w : World) : Purpose → World
  | .negStart a protocol nonce => w.goto (.connecting a (.awaitResponse protocol nonce))
  | .negFinish a protocol nonce sessionKey =>
    w.goto (.connecting a (.store protocol nonce sessionKey))
  | .session (.request req initial) =>
    if w.subscription.isSome then w.goto (.readEffective req initial)
    else w.conclude req initial (.ok none)
  | .session .heartbeat => w.goto .maintain

/-- The frame could not be packed or written. A request is then answered and the
connection kept; the other senders give the connection up. -/
def sendFailed (w : World) (e : TuyaError) : Purpose → World
  | .negStart a _ _ | .negFinish a _ _ _ => w.goto (.connectFailed a e)
  | .session (.request req initial) => w.conclude req initial (.error e)
  | .session .heartbeat => w.leave (some e)

def buildMessage (w : World) (p : Purpose) (cmd : UInt32) (payload : Bytes) : World :=
  match (addU32 build w.seqno 1 : Result UInt32) with
  | .ok seqno =>
    { w with
      seqno
      pc := .sending p (.pack { TuyaMessage.default with
        seqno := w.seqno, cmd, payload, msgPrefix := w.shared.protocol.getPrefix }) }
  | .err _ | .panic => w.finish .crashed

/-- The end of `pack_msg`, after the settings and the cipher have been read. -/
def packWith (iv : U8Array 12) (protocol : TuyaProtocol) (cipher : TuyaCipher)
    (msg : TuyaMessage) : Result Bytes := do
  let payload ← protocol.packPayload C msg.payload msg.cmd cipher
  packMessage C build iv { msg with payload, msgPrefix := protocol.getPrefix }
    (protocol.getHmacKey cipher.key.val)

def packMsg (w : World) (p : Purpose) (msg : TuyaMessage) (protocol : TuyaProtocol)
    (iv : U8Array 12) : World :=
  let (cipher, shared) := (getCipher device).run w.shared
  let w := { w with shared }
  match cipher with
  | .ok cipher =>
    match packWith C build iv protocol cipher msg with
    | .ok bytes =>
      (w.push ⟨p.attempt.isSome, msg.cmd, msg.seqno, cipher.key.val, bytes, 0⟩).goto
        (.sending p .write)
    | .err e => sendFailed w e p
    | .panic => w.finish .crashed
  | .err e => sendFailed w e p
  | .panic => w.finish .crashed

def writeAll (w : World) (p : Purpose) : TaskEvent → Option World
  | .wrote n => w.progress n
  | .writeDone =>
    match w.current with
    | some f => if f.written = f.bytes.length then some (sent w p) else none
    | none => none
  | .writeFailed failure =>
    match w.current with
    | some f => if f.written < f.bytes.length then some (sendFailed w failure.error p) else none
    | none => none
  | .elapsed =>
    match p.attempt with
    | some a => some (w.goto (.connectFailed a .offline))
    | none => none
  | _ => none

def sendRawToStream (w : World) (p : Purpose) : Sending → TaskEvent → Option World
  | .build cmd payload => onGo (buildMessage build w p cmd payload)
  | .pack msg => onGo (w.goto (.sending p (.encrypt msg w.shared.protocol)))
  | .encrypt msg protocol => fun
    | .packed iv => some (packMsg C build device w p msg protocol iv)
    | _ => none
  | .write => writeAll w p

end Send

section MaintainConnection

def maintain (w : World) : TaskEvent → Option World
  | .cancelled => if w.cancelled then some (w.leave none) else none
  | .recv =>
    match w.queue with
    | .request req :: queue => some { w with queue, pc := .beginRequest req false }
    | .disconnect :: queue => some (World.leave { w with queue } (some .offline))
    | .connectNow :: queue => some { w with queue }
    | [] => if w.queueClosed then some (w.goto .channelClosed) else none
  | .tick => some (w.goto .tickPersist)
  | .readerFailed =>
    match w.readerError with
    | some e => some (World.leave { w with readerError := none } (some e))
    | none => none
  | _ => none

def channelClosed (w : World) : World :=
  (w.lock fun s => { s with state := .stopped }).leave none

def spawnReader (w : World) : World :=
  { w with reader := .running 0, readerError := none, pc := .maintain }

def tickPersist (w : World) : World :=
  if w.shared.persist then w.goto .tickDue else w.goto .maintain

def tickDue (w : World) : TaskEvent → Option World
  | .due true => some (w.goto (.generate .heartbeat .heartBeat none none))
  | .due false => some (w.goto .maintain)
  | _ => none

def unansweredCmds : List UInt32 := [3, 4, 5, 9]

def beginRequest (w : World) (req : Request) (initial : Bool) : World :=
  { w with
    subscription := if !w.nowait && !unansweredCmds.contains req.command.code then some [] else none
    pc := .generate (.request req initial) req.command req.data req.cid }

def generate (w : World) (sender : Sender) (command : CommandType) (data : Option Value)
    (cid : Option String) : TaskEvent → Option World
  | .clock t =>
    let devType := if w.shared.devType = .auto then .default else w.shared.devType
    let (cmdId, payload) :=
      generatePayload device.id command data cid t (getProtocol w.shared.version devType)
    some (w.goto (.sending (.session sender) (.build cmdId (S.toVec payload))))
  | _ => none

def readEffective (w : World) (req : Request) (initial : Bool) : World :=
  w.goto (.awaitReply req initial (w.shared.protocol.getEffectiveCommand req.command))

def field (v : Value) (key : String) : Option Value :=
  match v with
  | .object obj => Map.get obj key
  | _ => none

def asStr : Value → Option String
  | .string s => some s
  | _ => none

def answers (effectiveCmd : UInt32) (cid : Option String) (msg : TuyaMessage) : Bool :=
  if msg.cmd = 0 then true
  else if ¬ (msg.cmd = effectiveCmd ∨ msg.cmd = CommandType.status.code) then false
  else
    let needsData := mandatoryDataCmds.contains msg.cmd
    if msg.payload.isEmpty then !needsData
    else
      match S.fromSlice msg.payload, cid with
      | none, _ => true
      | some val, some target => decide ((field val "cid").bind asStr = some target)
      | some val, none => (field val "cid").isNone

def awaitReply (w : World) (req : Request) (initial : Bool) (effectiveCmd : UInt32) :
    TaskEvent → Option World
  | .reply =>
    match w.subscription with
    | some (msg :: rest) =>
      -- A receiver that has fallen behind by more than the capacity gets an error.
      if chanBroadcastCapacity < (msg :: rest).length then
        some (w.conclude req initial (.error .offline))
      else if answers S effectiveCmd req.cid msg then
        some (w.conclude req initial (.ok (some msg)))
      else some { w with subscription := some rest }
    | some [] | none => none
  | .replyTimeout => some (w.conclude req initial (.error .timeout))
  | _ => none

end MaintainConnection

def taskNext (w : World) (e : TaskEvent) : Option World :=
  match w.pc with
  | .jitter => jitter w e
  | .loopHead => onGo (loopHead w) e
  | .tryHead => onGo (tryHead w) e
  | .readBackoff => onGo (readBackoff w) e
  | .waitForBackoff => waitForBackoff S w e
  | .connecting a h => connectAndHandshake C S build device w a h e
  | .markConnected a => onGo (markConnected w a) e
  | .announceConnected a => onGo (announceConnected S w a) e
  | .connectFailed a err => onGo (handleConnectionError w a err) e
  | .announceFailed a err => onGo (announceFailed S w a err) e
  | .checkPersist err => onGo (checkPersist w err) e
  | .scheduleRetry err => onGo (scheduleRetry build w err) e
  | .onDemand => onDemand w e
  | .beginRequest req initial => onGo (beginRequest w req initial) e
  | .generate sender command data cid => generate S device w sender command data cid e
  | .sending p s => sendRawToStream C build device w p s e
  | .readEffective req initial => onGo (readEffective w req initial) e
  | .awaitReply req initial effectiveCmd => awaitReply S w req initial effectiveCmd e
  | .spawnReader => onGo (spawnReader w) e
  | .maintain => maintain w e
  | .channelClosed => onGo (channelClosed w) e
  | .tickPersist => onGo (tickPersist w) e
  | .tickDue => tickDue w e
  | .handleDisconnect err => onGo (handleDisconnect w err) e
  | .announceDisconnect err => onGo (announceDisconnect S w err) e
  | .countFailure err => onGo (countFailure build w err) e
  | .checkStopped => onGo (checkStopped w) e
  | .exiting => onGo (exiting w) e
  | .exited | .crashed => none

def Pc.suspended : Pc → Bool
  | .jitter | .waitForBackoff | .onDemand | .maintain => true
  | .connecting _ (.discover _) | .connecting _ (.dial _) => true
  | .connecting _ (.awaitResponse _ _) => true
  | .sending _ .write | .awaitReply _ _ _ => true
  | _ => false

def dropTask (w : World) : Option World :=
  if w.cancelled && w.pc.suspended then some (w.goto .exiting) else none

section Reader

def World.absorb (w : World) (r : Reader) : World :=
  World.publish { w with shared := r.device } r.broadcast

def readPacket (w : World) (packetsReceived : Int32) (firstByte : UInt8) (stream : Stream) :
    World :=
  let (result, r) := (processSocketData C S build device firstByte).run ⟨w.shared, stream, []⟩
  let w := w.absorb r
  match result with
  | .ok () =>
    match (addI32 build packetsReceived 1 : Result Int32) with
    | .ok n => { w with reader := .running n }
    | .err _ | .panic => { w with reader := .finished }
  | .err e => { w with reader := .finished, readerError := some e }
  | .panic => { w with reader := .finished }

def readerNext (w : World) : ReaderEvent → Option World
  | .packet firstByte stream =>
    match w.reader with
    | .running n => some (readPacket C S build device w n firstByte stream)
    | .absent | .finished => none
  | .ended ending =>
    match w.reader with
    | .running n => some { w with reader := .finished, readerError := some (ending.closing n) }
    | .absent | .finished => none
  | .cancelled =>
    match w.reader with
    | .running _ => if w.cancelled then some { w with reader := .finished } else none
    | .absent | .finished => none
  | .late firstByte stream =>
    if 0 < w.lingering then
      let r := ((processSocketData C S build device firstByte).run ⟨w.shared, stream, []⟩).2
      some { w.absorb r with lingering := w.lingering - 1 }
    else none
  | .gone => if 0 < w.lingering then some { w with lingering := w.lingering - 1 } else none

end Reader

section Callers

/-- `send` waits for room in the queue and fails once the receiver is closed. -/
def World.enqueue (w : World) (cmd : Command) : Option World :=
  if w.queueClosed then some w
  else if w.queue.length < chanMpscCapacity then some { w with queue := w.queue ++ [cmd] }
  else none

def advanceCall (w : World) (i : Nat) : Option World :=
  match w.calls[i]? with
  | some .cancel => some { w with cancelled := true, calls := w.calls.set i .markClosed }
  | some .markClosed =>
    some { w.lock fun s => { s with state := dropped s.state } with
      calls := w.calls.set i .sendDisconnect }
  | some .sendDisconnect => World.enqueue { w with calls := w.calls.eraseIdx i } .disconnect
  | none => none

def userNext (w : World) : UserEvent → Option World
  | .submit req => w.enqueue (.request req)
  | .connectNow => w.enqueue .connectNow
  | .stop =>
    some { w.lock fun s => { s with state := .stopped } with calls := w.calls ++ [.cancel] }
  | .close => some { w with calls := w.calls ++ [.markClosed] }
  | .advance i => advanceCall w i
  | .setPersist persist => some (w.lock fun s => { s with persist })
  | .setDevType devType => some (w.lock fun s => { s with devType })
  | .setVersion version => some (w.lock fun s => { s with version })
  | .setAddress address =>
    some (w.lock fun s => { s with configAddress := address, forceDiscovery := true })
  | .setNowait nowait => some { w with nowait }

end Callers

def next (w : World) : Event → Option World
  | .task e => taskNext C S build device w e
  | .drop => dropTask w
  | .reader e => readerNext C S build device w e
  | .user e => userNext w e

section Inversion

variable {C S build device} {w w' : World}

theorem push_eq (w : World) (f : Frame) :
    w.push f = { w with conns := onLatest (framed f) w.conns } := by
  unfold World.push
  split
  next hconns =>
    rw [hconns]
    rfl
  next hconns =>
    rw [hconns, onLatest, ← hconns]

theorem negotiated_eq (w : World) (key : Bytes) :
    w.negotiated key = { w.lock fun s => { s with sessionKey := some key } with
      conns := onLatest (agreed key) w.conns } := by
  unfold World.negotiated
  dsimp only
  split
  next hconns =>
    rw [show w.conns = _ from hconns]
    rfl
  next hconns =>
    rw [show w.conns = _ from hconns, onLatest, ← show w.conns = _ from hconns]
    rfl

theorem progress_eq_some {n : Nat} (h : w.progress n = some w') :
    w' = { w with conns := onLatest (wrote n) w.conns } := by
  unfold World.progress at h
  split at h
  next hconns =>
    split at h <;> cases h
    rw [hconns]
    rfl
  · cases h

theorem leave_eq (w : World) (err : Option TuyaError) : ∃ lingering,
    w.leave err = { w with reader := .absent, lingering, pc := .handleDisconnect err } := by
  unfold World.leave
  split <;> exact ⟨_, rfl⟩

theorem dropTask_eq_some (h : dropTask w = some w') :
    w.cancelled = true ∧ w.pc.suspended = true ∧ w' = w.goto .exiting := by
  unfold dropTask at h
  split at h
  next hdropped =>
    cases h
    obtain ⟨hcancelled, hsuspended⟩ := Bool.and_eq_true_iff.mp hdropped
    exact ⟨hcancelled, hsuspended, rfl⟩
  · cases h

variable (C S build device) in
def packetRead (w : World) (firstByte : UInt8) (stream : Stream) : Reader :=
  ((processSocketData C S build device firstByte).run ⟨w.shared, stream, []⟩).2

variable (C S build device) in
/-- What a step of a reader can do: handle a packet, or end. -/
inductive ReaderStep (w : World) : ReaderEvent → World → Prop where
  | packet (firstByte : UInt8) (stream : Stream) (reader : ReaderStatus)
      (readerError : Option TuyaError) :
      ReaderStep w (.packet firstByte stream)
        { w.absorb (packetRead C S build device w firstByte stream) with reader, readerError }
  | late (firstByte : UInt8) (stream : Stream) :
      ReaderStep w (.late firstByte stream)
        { w.absorb (packetRead C S build device w firstByte stream) with
          lingering := w.lingering - 1 }
  | ended (ending : StreamEnd) (readerError : TuyaError) :
      ReaderStep w (.ended ending) { w with reader := .finished, readerError := some readerError }
  | cancelled (h : w.cancelled = true) : ReaderStep w .cancelled { w with reader := .finished }
  | gone : ReaderStep w .gone { w with lingering := w.lingering - 1 }

theorem readPacket_step (n : Int32) (firstByte : UInt8) (stream : Stream) :
    ReaderStep C S build device w (.packet firstByte stream)
      (readPacket C S build device w n firstByte stream) := by
  unfold readPacket
  dsimp only
  split
  · split <;> exact .packet firstByte stream _ _
  · exact .packet firstByte stream _ _
  · exact .packet firstByte stream _ _

theorem readerNext_inv {e : ReaderEvent} (h : readerNext C S build device w e = some w') :
    ReaderStep C S build device w e w' := by
  unfold readerNext at h
  cases e with
  | packet firstByte stream =>
    dsimp only at h
    split at h <;> cases h
    exact readPacket_step _ firstByte stream
  | late firstByte stream =>
    dsimp only at h
    split at h <;> cases h
    exact .late firstByte stream
  | ended ending =>
    dsimp only at h
    split at h <;> cases h
    exact .ended ending _
  | cancelled =>
    dsimp only at h
    split at h
    · split at h <;> cases h
      exact .cancelled ‹_›
    · cases h
    · cases h
  | gone =>
    dsimp only at h
    split at h <;> cases h
    exact .gone

theorem enqueue_eq_some {cmd : Command} (h : w.enqueue cmd = some w') :
    w.queueClosed = true ∧ w' = w ∨
      w.queueClosed = false ∧ w.queue.length < chanMpscCapacity ∧
        w' = { w with queue := w.queue ++ [cmd] } := by
  unfold World.enqueue at h
  split at h
  next hclosed =>
    cases h
    exact .inl ⟨hclosed, rfl⟩
  next hopen =>
    split at h
    next hroom =>
      cases h
      exact .inr ⟨Bool.eq_false_iff.mpr hopen, hroom, rfl⟩
    · cases h

/-- What a step of a caller leaves alone: where the task is, and what it and the readers have
broadcast. -/
structure Aside (w w' : World) : Prop where
  pc : w'.pc = w.pc
  broadcast : w'.broadcast = w.broadcast
  subscription : w'.subscription = w.subscription

theorem enqueue_aside {cmd : Command} (h : w.enqueue cmd = some w') : Aside w w' := by
  rcases enqueue_eq_some h with ⟨-, rfl⟩ | ⟨-, -, rfl⟩
  · exact ⟨rfl, rfl, rfl⟩
  · exact ⟨rfl, rfl, rfl⟩

theorem advanceCall_aside {i : Nat} (h : advanceCall w i = some w') : Aside w w' := by
  unfold advanceCall at h
  split at h
  · cases h
    exact ⟨rfl, rfl, rfl⟩
  · cases h
    exact ⟨rfl, rfl, rfl⟩
  · obtain ⟨hpc, hbroadcast, hsubscription⟩ := enqueue_aside h
    exact ⟨hpc, hbroadcast, hsubscription⟩
  · cases h

theorem userNext_aside {u : UserEvent} (h : userNext w u = some w') : Aside w w' := by
  cases u with
  | submit req => exact enqueue_aside h
  | connectNow => exact enqueue_aside h
  | advance i => exact advanceCall_aside h
  | _ =>
    cases h
    exact ⟨rfl, rfl, rfl⟩

end Inversion

end Steps

section Start

structure DeviceBuilder where
  id : String
  address : String
  localKey : Bytes
  version : Version
  devType : DeviceType
  persist : Bool
  nowait : Bool

def DeviceBuilder.device (b : DeviceBuilder) : Device := ⟨b.id, b.localKey⟩

def DeviceBuilder.state (b : DeviceBuilder) : State :=
  let auto := decide (b.address = "" ∨ b.address = addrAuto)
  { configAddress := if auto then addrAuto else b.address
    realIp := if auto then "" else b.address
    version := b.version
    devType := b.devType
    state := .disconnected
    persist := b.persist
    sessionKey := none
    failureCount := 0
    successCount := 0
    forceDiscovery := false
    cipher := match TuyaCipher.new b.localKey with
      | .ok cipher => some cipher
      | .err _ | .panic => none }

/-- `with_builder`: the device as it is when its task has been spawned. -/
def DeviceBuilder.run (b : DeviceBuilder) : World where
  shared := b.state
  nowait := b.nowait
  cancelled := false
  queue := []
  queueClosed := false
  pc := .jitter
  seqno := 1
  conns := []
  reader := .absent
  readerError := none
  lingering := 0
  broadcast := []
  subscription := none
  replies := []
  invalidations := 0
  calls := []

def sampleBuilder (version : Version) : DeviceBuilder where
  id := "bf0123"
  address := "192.168.0.10"
  localKey := KnownAnswers.sampleKey.val
  version := version
  devType := .default
  persist := true
  nowait := false

def sampleNext (version : Version) : World → Event → Option World :=
  next KnownAnswers.crates (KnownAnswers.json []) .release (sampleBuilder version).device

end Start

end ConnectionTask
