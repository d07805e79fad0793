import Rustuya.RequestRefinement

/-!
# The branches of the task

The transition function of the connection task as a relation: one rule for every branch of
the code, with the condition under which it is taken and the state after it. Facts about
single steps are proved from these rules, and not from the functions again.
-/
namespace TaskBranches

open CheckedExecution StatefulExecution ByteCodec Error Crypto Message Protocol Json
open SessionKey CommandPayload DeviceState StreamReader ConnectionLifecycle ConnectionTask
open RequestLifecycle (refusals)
open RequestRefinement (drainRx_eq respond_eq frameOf)

section Results

def disconnectCode : Option TuyaError → Nat
  | some e => e.code
  | none => errOffline

def afterDisconnect : Option TuyaError → Pc
  | some e => .countFailure e
  | none => .exiting

def dialError : TaskEvent → Option TuyaError
  | .refused => some .connectionFailed
  | .dialFailed failure => some failure.error
  | .elapsed => some .offline
  | _ => none

def responseError : TaskEvent → Option TuyaError
  | .noResponse ending => some (noResponseError ending)
  | .elapsed => some .offline
  | _ => none

/-- The readers that have been told to stop, once the reader of the connection is one too. -/
def orphans (w : World) : Nat :=
  match w.reader with
  | .running _ => w.lingering + 1
  | .absent | .finished => w.lingering

theorem leave_orphans (w : World) (err : Option TuyaError) :
    w.leave err
      = { w with reader := .absent, lingering := orphans w, pc := .handleDisconnect err } := by
  unfold World.leave orphans
  cases w.reader <;> rfl

def setting : UserEvent → Option (State → State)
  | .setPersist persist => some fun s => { s with persist }
  | .setDevType devType => some fun s => { s with devType }
  | .setVersion version => some fun s => { s with version }
  | .setAddress address => some fun s => { s with configAddress := address, forceDiscovery := true }
  | _ => none

/-- What reading messages and packing frames leaves as it is. -/
structure SameSession (s s' : State) : Prop where
  version : s'.version = s.version
  sessionKey : s'.sessionKey = s.sessionKey
  state : s'.state = s.state

theorem sameSession_of_untouched {s s' : State} (h : untouched s' = untouched s) :
    SameSession s s' := by
  have hversion : (untouched s').version = (untouched s).version := congrArg State.version h
  have hkey : (untouched s').sessionKey = (untouched s).sessionKey := congrArg State.sessionKey h
  have hstate : (untouched s').state = (untouched s).state := congrArg State.state h
  exact ⟨hversion, hkey, hstate⟩

theorem cached_sameSession (s : State) (cipher : Result TuyaCipher) :
    SameSession s (s.cached cipher) := by
  cases cipher <;> exact ⟨rfl, rfl, rfl⟩

end Results

section Rules

variable (C : Crates) (S : Codec) (build : Build) (device : Device)

/-- The frame for `p` cannot be packed, or its write ends early: the event, the error and the
shared state after it. -/
inductive SendFailure (w : World) (p : Purpose) : TaskEvent → TuyaError → State → Prop where
  | packing (msg : TuyaMessage) (protocol : TuyaProtocol) (iv : U8Array 12) (err : TuyaError)
      (hpc : w.pc = .sending p (.encrypt msg protocol))
      (hframe : frameOf C build device w.shared protocol msg iv = .err err) :
      SendFailure w p (.packed iv) err
        (w.shared.cached (TuyaCipher.new (w.shared.activeKey device)))
  | writing (f : Frame) (failure : IoFailure) (hpc : w.pc = .sending p .write)
      (hcurrent : w.current = some f) (hpart : f.written < f.bytes.length) :
      SendFailure w p (.writeFailed failure) failure.error w.shared

/-- What was read in the negotiation is not a response that is accepted. -/
inductive ResponseFailure (nonce : U8Array 16) :
    Result (Option TuyaMessage) → TuyaError → Prop where
  | other (resp : TuyaMessage) (hcmd : resp.cmd ≠ CommandType.sessKeyNegResp.code) :
      ResponseFailure nonce (.ok (some resp)) .keyOrVersionError
  | denied (resp : TuyaMessage) (err : TuyaError)
      (hcmd : resp.cmd = CommandType.sessKeyNegResp.code)
      (haccept : acceptResponse C nonce.val resp.payload device.localKey = .err err) :
      ResponseFailure nonce (.ok (some resp)) err
  | missing : ResponseFailure nonce (.ok none) .handshakeFailed
  | unread (err : TuyaError) : ResponseFailure nonce (.err err) err

inductive ResponsePanics (nonce : U8Array 16) : Result (Option TuyaMessage) → Prop where
  | accepting (resp : TuyaMessage) (hcmd : resp.cmd = CommandType.sessKeyNegResp.code)
      (haccept : acceptResponse C nonce.val resp.payload device.localKey = .panic) :
      ResponsePanics nonce (.ok (some resp))
  | reading : ResponsePanics nonce .panic

/-- The branches of the task from the state `w`. -/
inductive Branch (w : World) : TaskEvent → World → Prop where
  -- `run_connection_task`
  | jittered (hpc : w.pc = .jitter) : Branch w .slept (w.goto .loopHead)
  | jitterCancelled (hpc : w.pc = .jitter) (hcancelled : w.cancelled = true) :
      Branch w .cancelled (w.finish .exited)
  | loopStopped (hpc : w.pc = .loopHead) (hstopped : w.stopped = true) :
      Branch w .go (w.goto .exiting)
  | loopConnects (hpc : w.pc = .loopHead) (hrunning : w.stopped = false) :
      Branch w .go { w with seqno := 1, pc := .tryHead }
  | disconnects (err : Option TuyaError) (hpc : w.pc = .handleDisconnect err) :
      Branch w .go ((w.lock fun s => { s with state := dropped s.state, sessionKey := none }).goto
        (.announceDisconnect err))
  | disconnectSilent (err : Option TuyaError) (hpc : w.pc = .announceDisconnect err)
      (hstopped : w.stopped = true) : Branch w .go (w.goto (afterDisconnect err))
  | disconnectTold (err : Option TuyaError) (hpc : w.pc = .announceDisconnect err)
      (hrunning : w.stopped = false) :
      Branch w .go ((w.broadcastError S (disconnectCode err) none).goto (afterDisconnect err))
  | failureCounted (e : TuyaError) (hpc : w.pc = .countFailure e)
      (hfits : build.overflowChecks = true → w.shared.failureCount.toNat + 1 < 2 ^ 32) :
      Branch w .go { w.lock fun s => { s with
          failureCount := w.shared.failureCount + 1, successCount := 0 } with
        replies := w.replies ++ refusals e w.queue, queue := [], pc := .checkStopped }
  | failureOverflows (e : TuyaError)
      (hoverflow : build.overflowChecks = true ∧ 2 ^ 32 ≤ w.shared.failureCount.toNat + 1)
      (hpc : w.pc = .countFailure e) : Branch w .go (w.finish .crashed)
  | foundStopped (hpc : w.pc = .checkStopped) (hstopped : w.stopped = true) :
      Branch w .go (w.goto .exiting)
  | reconnects (hpc : w.pc = .checkStopped) (hrunning : w.stopped = false) :
      Branch w .go (w.goto .loopHead)
  | exits (hpc : w.pc = .exiting) : Branch w .go { w.finish .exited with cancelled := true }
  -- `try_connect_with_backoff`
  | tryStopped (hpc : w.pc = .tryHead) (hstopped : w.stopped = true) :
      Branch w .go { w with
        replies := w.replies ++ refusals .offline w.queue, queue := [], queueClosed := true
        pc := .exiting }
  | tryStarts (hpc : w.pc = .tryHead) (hrunning : w.stopped = false) :
      Branch w .go { w with seqno := 1, pc := .readBackoff }
  | backsOff (hpc : w.pc = .readBackoff) (hfailed : 0 < w.shared.failureCount) :
      Branch w .go (w.goto .waitForBackoff)
  | connectsAtOnce (hpc : w.pc = .readBackoff) (hunfailed : ¬ 0 < w.shared.failureCount) :
      Branch w .go (w.goto (.connecting .scheduled .resolve))
  | backoffSlept (hpc : w.pc = .waitForBackoff) :
      Branch w .slept (w.goto (.connecting .scheduled .resolve))
  | backoffRediscovered (hpc : w.pc = .waitForBackoff) :
      Branch w .rediscovered (w.goto (.connecting .scheduled .resolve))
  | backoffCancelled (hpc : w.pc = .waitForBackoff) (hcancelled : w.cancelled = true) :
      Branch w .cancelled { w with
        replies := w.replies ++ refusals .offline w.queue, queue := [], queueClosed := true
        pc := .exiting }
  | backoffConnectNow (rest : List Command) (hpc : w.pc = .waitForBackoff)
      (hqueue : w.queue = .connectNow :: rest) :
      Branch w .recv { w with queue := rest, pc := .connecting .scheduled .resolve }
  | backoffRejects (cmd : Command) (rest : List Command) (hcmd : cmd ≠ .connectNow)
      (hpc : w.pc = .waitForBackoff) (hqueue : w.queue = cmd :: rest) :
      Branch w .recv (World.broadcastError S { w with
        queue := rest, replies := w.replies ++ refusals .offline [cmd] } errOffline none)
  | backoffClosed (hpc : w.pc = .waitForBackoff) (hqueue : w.queue = [])
      (hclosed : w.queueClosed = true) : Branch w .recv (w.goto .exiting)
  | marksConnected (a : Attempt) (hpc : w.pc = .markConnected a) :
      Branch w .go ((w.lock fun s => { s with state := .connected }).goto (.announceConnected a))
  | announcesScheduled (hpc : w.pc = .announceConnected .scheduled) :
      Branch w .go ((w.broadcastError S errSuccess none).goto .spawnReader)
  | announcesOnDemand (req : Request) (hpc : w.pc = .announceConnected (.onDemand req)) :
      Branch w .go ((w.broadcastError S errSuccess none).goto (.beginRequest req true))
  | attemptDropped (a : Attempt) (e : TuyaError) (hpc : w.pc = .connectFailed a e) :
      Branch w .go
        ((w.lock fun s => { s with state := dropped s.state }).goto (.announceFailed a e))
  | failsScheduled (e : TuyaError) (hpc : w.pc = .announceFailed .scheduled e) :
      Branch w .go { w.broadcastError S e.code (some (.string e.display)) with
        replies := w.replies ++ refusals e w.queue, queue := [], pc := .checkPersist e }
  | failsOnDemand (req : Request) (e : TuyaError)
      (hpc : w.pc = .announceFailed (.onDemand req) e) :
      Branch w .go ((((w.broadcastError S e.code (some (.string e.display))).answer req
        (.error e)).broadcastError S errOffline none).goto .onDemand)
  | persists (e : TuyaError) (hpc : w.pc = .checkPersist e) (hpersist : w.shared.persist = true) :
      Branch w .go (w.goto (.scheduleRetry e))
  | desists (e : TuyaError) (hpc : w.pc = .checkPersist e) (hpersist : w.shared.persist = false) :
      Branch w .go (w.goto .onDemand)
  | retryScheduled (e : TuyaError) (hpc : w.pc = .scheduleRetry e)
      (hfits : build.overflowChecks = true → w.shared.failureCount.toNat + 1 < 2 ^ 32) :
      Branch w .go { w.lock fun s => { s with
          failureCount := w.shared.failureCount + 1, successCount := 0
          forceDiscovery := s.forceDiscovery || rediscovers s e } with
        invalidations := w.invalidations + (if rediscovers w.shared e then 1 else 0)
        pc := .tryHead }
  | retryOverflows (e : TuyaError)
      (hoverflow : build.overflowChecks = true ∧ 2 ^ 32 ≤ w.shared.failureCount.toNat + 1)
      (hpc : w.pc = .scheduleRetry e) : Branch w .go (w.finish .crashed)
  | demandConnectNow (rest : List Command) (hpc : w.pc = .onDemand)
      (hqueue : w.queue = .connectNow :: rest) :
      Branch w .recv { w with queue := rest, pc := .tryHead }
  | demandRequest (req : Request) (rest : List Command) (hpc : w.pc = .onDemand)
      (hqueue : w.queue = .request req :: rest) :
      Branch w .recv { w with queue := rest, pc := .connecting (.onDemand req) .resolve }
  | demandDisconnect (rest : List Command) (hpc : w.pc = .onDemand)
      (hqueue : w.queue = .disconnect :: rest) :
      Branch w .recv { w with queue := rest, pc := .exiting }
  | demandClosed (hpc : w.pc = .onDemand) (hqueue : w.queue = [])
      (hclosed : w.queueClosed = true) : Branch w .recv (w.goto .exiting)
  -- `connect_and_handshake`
  | addressKnown (a : Attempt) (hpc : w.pc = .connecting a .resolve)
      (hexplicit : ipExplicit w.shared.configAddress = true) (hversion : w.shared.version ≠ .auto)
      (hforce : w.shared.forceDiscovery = false) :
      Branch w .go (w.goto (.connecting a (.dial w.shared.configAddress)))
  | addressUnknown (a : Attempt) (hpc : w.pc = .connecting a .resolve)
      (hunknown : ¬ (ipExplicit w.shared.configAddress = true ∧ w.shared.version ≠ .auto ∧
        w.shared.forceDiscovery = false)) :
      Branch w .go (w.goto (.connecting a (.discover w.shared.configAddress)))
  | discovers (a : Attempt) (addr : String) (result : Discovery)
      (hpc : w.pc = .connecting a (.discover addr)) :
      Branch w (.discovered (some result)) ((w.lock fun s => { s with
        version := detectedVersion s.version result.version
        realIp := if ipExplicit addr then addr else result.ip, forceDiscovery := false }).goto
          (.connecting a (.dial (if ipExplicit addr then addr else result.ip))))
  | undiscovered (a : Attempt) (addr : String) (hpc : w.pc = .connecting a (.discover addr))
      (hexplicit : ipExplicit addr = true) :
      Branch w (.discovered none)
        ((w.lock fun s => { s with realIp := addr, forceDiscovery := false }).goto
          (.connecting a (.dial addr)))
  | notFound (a : Attempt) (addr : String) (hpc : w.pc = .connecting a (.discover addr))
      (hexplicit : ipExplicit addr = false) :
      Branch w (.discovered none) (w.goto (.connectFailed a .offline))
  | discoveryElapsed (a : Attempt) (addr : String)
      (hpc : w.pc = .connecting a (.discover addr)) :
      Branch w .elapsed (w.goto (.connectFailed a .offline))
  | dials (a : Attempt) (addr : String) (hpc : w.pc = .connecting a (.dial addr)) :
      Branch w .dialed { w with conns := .fresh :: w.conns, pc := .connecting a .dialed }
  | dialFails (a : Attempt) (addr : String) (t : TaskEvent) (err : TuyaError)
      (hpc : w.pc = .connecting a (.dial addr)) (herr : dialError t = some err) :
      Branch w t (w.goto (.connectFailed a err))
  | negotiates (a : Attempt) (hpc : w.pc = .connecting a .dialed)
      (hkey : w.shared.protocol.requiresSessionKey = true) :
      Branch w .go (w.goto (.connecting a .negotiate))
  | proceeds (a : Attempt) (hpc : w.pc = .connecting a .dialed)
      (hkey : w.shared.protocol.requiresSessionKey = false) :
      Branch w .go (w.goto (.markConnected a))
  | drawsNonce (a : Attempt) (nonce : U8Array 16) (hpc : w.pc = .connecting a .negotiate) :
      Branch w (.drawn nonce) (w.goto (.sending (.negStart a w.shared.protocol nonce)
        (.build CommandType.sessKeyNegStart.code nonce.val)))
  | responds (a : Attempt) (protocol : TuyaProtocol) (nonce : U8Array 16) (firstByte : UInt8)
      (stream : Stream) (resp : TuyaMessage) (r : Reader) (sessionKey finishHmac : Bytes)
      (hpc : w.pc = .connecting a (.awaitResponse protocol nonce))
      (hread : (readAndParseFromStream C S build device firstByte).run ⟨w.shared, stream, []⟩
        = (.ok (some resp), r))
      (hcmd : resp.cmd = CommandType.sessKeyNegResp.code)
      (haccept : acceptResponse C nonce.val resp.payload device.localKey
        = .ok (sessionKey, finishHmac)) :
      Branch w (.response firstByte stream) (World.goto { w with shared := r.device }
        (.sending (.negFinish a protocol nonce sessionKey)
          (.build CommandType.sessKeyNegFinish.code finishHmac)))
  | responseRefused (a : Attempt) (protocol : TuyaProtocol) (nonce : U8Array 16)
      (firstByte : UInt8) (stream : Stream) (err : TuyaError)
      (hfail : ResponseFailure C device nonce
        ((readAndParseFromStream C S build device firstByte).run ⟨w.shared, stream, []⟩).1 err)
      (hpc : w.pc = .connecting a (.awaitResponse protocol nonce)) :
      Branch w (.response firstByte stream) (World.goto { w with
        shared := ((readAndParseFromStream C S build device firstByte).run
          ⟨w.shared, stream, []⟩).2.device } (.connectFailed a err))
  | responseCrashes (a : Attempt) (protocol : TuyaProtocol) (nonce : U8Array 16)
      (firstByte : UInt8) (stream : Stream)
      (hpanic : ResponsePanics C device nonce
        ((readAndParseFromStream C S build device firstByte).run ⟨w.shared, stream, []⟩).1)
      (hpc : w.pc = .connecting a (.awaitResponse protocol nonce)) :
      Branch w (.response firstByte stream) (World.finish { w with
        shared := ((readAndParseFromStream C S build device firstByte).run
          ⟨w.shared, stream, []⟩).2.device } .crashed)
  | unanswered (a : Attempt) (protocol : TuyaProtocol) (nonce : U8Array 16) (t : TaskEvent)
      (err : TuyaError) (hpc : w.pc = .connecting a (.awaitResponse protocol nonce))
      (herr : responseError t = some err) : Branch w t (w.goto (.connectFailed a err))
  | stores (a : Attempt) (protocol : TuyaProtocol) (nonce : U8Array 16) (sessionKey key : Bytes)
      (hpc : w.pc = .connecting a (.store protocol nonce sessionKey))
      (hkey : storedKey C protocol sessionKey nonce.val device.localKey = .ok key) :
      Branch w .go { w.lock fun s => { s with sessionKey := some key } with
        conns := onLatest (agreed key) w.conns, pc := .markConnected a }
  | storeFails (a : Attempt) (protocol : TuyaProtocol) (nonce : U8Array 16) (sessionKey : Bytes)
      (err : TuyaError)
      (hkey : storedKey C protocol sessionKey nonce.val device.localKey = .err err)
      (hpc : w.pc = .connecting a (.store protocol nonce sessionKey)) :
      Branch w .go (w.goto (.connectFailed a err))
  | storeCrashes (a : Attempt) (protocol : TuyaProtocol) (nonce : U8Array 16) (sessionKey : Bytes)
      (hkey : storedKey C protocol sessionKey nonce.val device.localKey = .panic)
      (hpc : w.pc = .connecting a (.store protocol nonce sessionKey)) :
      Branch w .go (w.finish .crashed)
  -- `build_message` and `send_raw_to_stream`
  | builds (p : Purpose) (cmd : UInt32) (payload : Bytes)
      (hpc : w.pc = .sending p (.build cmd payload))
      (hfits : build.overflowChecks = true → w.seqno.toNat + 1 < 2 ^ 32) :
      Branch w .go { w with
        seqno := w.seqno + 1
        pc := .sending p (.pack { TuyaMessage.default with
          seqno := w.seqno, cmd, payload, msgPrefix := w.shared.protocol.getPrefix }) }
  | buildOverflows (p : Purpose) (cmd : UInt32) (payload : Bytes)
      (hoverflow : build.overflowChecks = true ∧ 2 ^ 32 ≤ w.seqno.toNat + 1)
      (hpc : w.pc = .sending p (.build cmd payload)) : Branch w .go (w.finish .crashed)
  | readsSettings (p : Purpose) (msg : TuyaMessage) (hpc : w.pc = .sending p (.pack msg)) :
      Branch w .go (w.goto (.sending p (.encrypt msg w.shared.protocol)))
  | packs (p : Purpose) (msg : TuyaMessage) (protocol : TuyaProtocol) (iv : U8Array 12)
      (cipher : TuyaCipher) (bytes : Bytes) (hpc : w.pc = .sending p (.encrypt msg protocol))
      (hcipher : TuyaCipher.new (w.shared.activeKey device) = .ok cipher)
      (hbytes : packWith C build iv protocol cipher msg = .ok bytes) :
      Branch w (.packed iv) { w with
        shared := { w.shared with cipher := some cipher }
        conns := onLatest (framed
          ⟨p.attempt.isSome, msg.cmd, msg.seqno, cipher.key.val, bytes, 0⟩) w.conns
        pc := .sending p .write }
  | packCrashes (p : Purpose) (msg : TuyaMessage) (protocol : TuyaProtocol) (iv : U8Array 12)
      (hpc : w.pc = .sending p (.encrypt msg protocol))
      (hframe : frameOf C build device w.shared protocol msg iv = .panic) :
      Branch w (.packed iv) (World.finish { w with
        shared := w.shared.cached (TuyaCipher.new (w.shared.activeKey device)) } .crashed)
  | writes (p : Purpose) (f : Frame) (n : Nat) (hpc : w.pc = .sending p .write)
      (hcurrent : w.current = some f) (hfits : f.written + n ≤ f.bytes.length) :
      Branch w (.wrote n) { w with conns := onLatest (wrote n) w.conns }
  | startWritten (a : Attempt) (protocol : TuyaProtocol) (nonce : U8Array 16) (f : Frame)
      (hpc : w.pc = .sending (.negStart a protocol nonce) .write)
      (hcurrent : w.current = some f) (hwhole : f.written = f.bytes.length) :
      Branch w .writeDone (w.goto (.connecting a (.awaitResponse protocol nonce)))
  | finishWritten (a : Attempt) (protocol : TuyaProtocol) (nonce : U8Array 16)
      (sessionKey : Bytes) (f : Frame)
      (hpc : w.pc = .sending (.negFinish a protocol nonce sessionKey) .write)
      (hcurrent : w.current = some f) (hwhole : f.written = f.bytes.length) :
      Branch w .writeDone (w.goto (.connecting a (.store protocol nonce sessionKey)))
  | requestWritten (req : Request) (initial : Bool) (f : Frame)
      (hpc : w.pc = .sending (.session (.request req initial)) .write)
      (hcurrent : w.current = some f) (hwhole : f.written = f.bytes.length)
      (hsubscribed : w.subscription.isSome = true) :
      Branch w .writeDone (w.goto (.readEffective req initial))
  | requestDone (req : Request) (initial : Bool) (f : Frame)
      (hpc : w.pc = .sending (.session (.request req initial)) .write)
      (hcurrent : w.current = some f) (hwhole : f.written = f.bytes.length)
      (hsubscribed : w.subscription = none) :
      Branch w .writeDone (w.conclude req initial (.ok none))
  | heartbeatWritten (f : Frame) (hpc : w.pc = .sending (.session .heartbeat) .write)
      (hcurrent : w.current = some f) (hwhole : f.written = f.bytes.length) :
      Branch w .writeDone (w.goto .maintain)
  | writeElapsed (p : Purpose) (a : Attempt) (hpc : w.pc = .sending p .write)
      (hp : p.attempt = some a) : Branch w .elapsed (w.goto (.connectFailed a .offline))
  | negotiationUnsent (p : Purpose) (a : Attempt) (t : TaskEvent) (err : TuyaError) (s : State)
      (hp : p.attempt = some a) (hfail : SendFailure C build device w p t err s) :
      Branch w t (World.goto { w with shared := s } (.connectFailed a err))
  | requestUnsent (req : Request) (initial : Bool) (t : TaskEvent) (err : TuyaError) (s : State)
      (hfail : SendFailure C build device w (.session (.request req initial)) t err s) :
      Branch w t (World.conclude { w with shared := s } req initial (.error err))
  | heartbeatUnsent (t : TaskEvent) (err : TuyaError) (s : State)
      (hfail : SendFailure C build device w (.session .heartbeat) t err s) :
      Branch w t { w with
        shared := s, reader := .absent, lingering := orphans w
        pc := .handleDisconnect (some err) }
  -- `process_command` and `process_heartbeat`
  | begins (req : Request) (initial : Bool) (hpc : w.pc = .beginRequest req initial) :
      Branch w .go { w with
        subscription :=
          if !w.nowait && !unansweredCmds.contains req.command.code then some [] else none
        pc := .generate (.request req initial) req.command req.data req.cid }
  | generates (sender : Sender) (command : CommandType) (data : Option Value)
      (cid : Option String) (t : UInt64) (hpc : w.pc = .generate sender command data cid) :
      Branch w (.clock t) (w.goto (.sending (.session sender)
        (.build
          (generatePayload device.id command data cid t (getProtocol w.shared.version
            (if w.shared.devType = .auto then .default else w.shared.devType))).1
          (S.toVec (generatePayload device.id command data cid t (getProtocol w.shared.version
            (if w.shared.devType = .auto then .default else w.shared.devType))).2))))
  | readsEffective (req : Request) (initial : Bool) (hpc : w.pc = .readEffective req initial) :
      Branch w .go
        (w.goto (.awaitReply req initial (w.shared.protocol.getEffectiveCommand req.command)))
  | lags (req : Request) (initial : Bool) (effectiveCmd : UInt32) (msg : TuyaMessage)
      (rest : List TuyaMessage) (hpc : w.pc = .awaitReply req initial effectiveCmd)
      (hnext : w.subscription = some (msg :: rest))
      (hlag : chanBroadcastCapacity < (msg :: rest).length) :
      Branch w .reply (w.conclude req initial (.error .offline))
  | replies (req : Request) (initial : Bool) (effectiveCmd : UInt32) (msg : TuyaMessage)
      (rest : List TuyaMessage) (hkept : (msg :: rest).length ≤ chanBroadcastCapacity)
      (hpc : w.pc = .awaitReply req initial effectiveCmd)
      (hnext : w.subscription = some (msg :: rest))
      (hanswers : answers S effectiveCmd req.cid msg = true) :
      Branch w .reply (w.conclude req initial (.ok (some msg)))
  | passes (req : Request) (initial : Bool) (effectiveCmd : UInt32) (msg : TuyaMessage)
      (rest : List TuyaMessage) (hkept : (msg :: rest).length ≤ chanBroadcastCapacity)
      (hpc : w.pc = .awaitReply req initial effectiveCmd)
      (hnext : w.subscription = some (msg :: rest))
      (hother : answers S effectiveCmd req.cid msg = false) :
      Branch w .reply { w with subscription := some rest }
  | replyTimesOut (req : Request) (initial : Bool) (effectiveCmd : UInt32)
      (hpc : w.pc = .awaitReply req initial effectiveCmd) :
      Branch w .replyTimeout (w.conclude req initial (.error .timeout))
  -- `maintain_connection`
  | spawns (hpc : w.pc = .spawnReader) :
      Branch w .go { w with reader := .running 0, readerError := none, pc := .maintain }
  | serveCancelled (hpc : w.pc = .maintain) (hcancelled : w.cancelled = true) :
      Branch w .cancelled { w with
        reader := .absent, lingering := orphans w, pc := .handleDisconnect none }
  | serveRequest (req : Request) (rest : List Command) (hpc : w.pc = .maintain)
      (hqueue : w.queue = .request req :: rest) :
      Branch w .recv { w with queue := rest, pc := .beginRequest req false }
  | serveDisconnect (rest : List Command) (hpc : w.pc = .maintain)
      (hqueue : w.queue = .disconnect :: rest) :
      Branch w .recv { w with
        queue := rest, reader := .absent, lingering := orphans w
        pc := .handleDisconnect (some .offline) }
  | serveConnectNow (rest : List Command) (hpc : w.pc = .maintain)
      (hqueue : w.queue = .connectNow :: rest) : Branch w .recv { w with queue := rest }
  | serveClosed (hpc : w.pc = .maintain) (hqueue : w.queue = [])
      (hclosed : w.queueClosed = true) : Branch w .recv (w.goto .channelClosed)
  | readerFails (e : TuyaError) (hpc : w.pc = .maintain) (herr : w.readerError = some e) :
      Branch w .readerFailed { w with
        readerError := none, reader := .absent, lingering := orphans w
        pc := .handleDisconnect (some e) }
  | shuts (hpc : w.pc = .channelClosed) :
      Branch w .go { w.lock fun s => { s with state := .stopped } with
        reader := .absent, lingering := orphans w, pc := .handleDisconnect none }
  | ticks (hpc : w.pc = .maintain) : Branch w .tick (w.goto .tickPersist)
  | tickChecked (hpc : w.pc = .tickPersist) (hpersist : w.shared.persist = true) :
      Branch w .go (w.goto .tickDue)
  | tickIgnored (hpc : w.pc = .tickPersist) (hpersist : w.shared.persist = false) :
      Branch w .go (w.goto .maintain)
  | heartbeatDue (hpc : w.pc = .tickDue) :
      Branch w (.due true) (w.goto (.generate .heartbeat .heartBeat none none))
  | heartbeatEarly (hpc : w.pc = .tickDue) : Branch w (.due false) (w.goto .maintain)

section Failures

variable {C S build device} {w : World} {p : Purpose} {t : TaskEvent} {err : TuyaError} {s : State}

theorem SendFailure.sending (h : SendFailure C build device w p t err s) :
    ∃ step, w.pc = .sending p step := by
  cases h with
  | packing msg protocol iv err hpc => exact ⟨_, hpc⟩
  | writing f failure hpc => exact ⟨_, hpc⟩

/-- What does not depend on the cached cipher is kept. -/
theorem SendFailure.keeps {π : Type} {f : State → π}
    (hcached : ∀ s cipher, f (s.cached cipher) = f s)
    (h : SendFailure C build device w p t err s) : f s = f w.shared := by
  cases h with
  | packing => exact hcached _ _
  | writing => rfl

theorem SendFailure.sameSession (h : SendFailure C build device w p t err s) :
    SameSession w.shared s := by
  cases h with
  | packing => exact cached_sameSession _ _
  | writing => exact ⟨rfl, rfl, rfl⟩

theorem read_sameSession {firstByte : UInt8} {stream : Stream}
    {out : Result (Option TuyaMessage)} {r : Reader}
    (hread : (readAndParseFromStream C S build device firstByte).run ⟨w.shared, stream, []⟩
      = (out, r)) : SameSession w.shared r.device := by
  have hkeeps : untouched _ = untouched w.shared :=
    readAndParseFromStream_keeps C S build device firstByte ⟨w.shared, stream, []⟩
  rw [hread] at hkeeps
  exact sameSession_of_untouched hkeeps

theorem packet_sameSession (w : World) (firstByte : UInt8) (stream : Stream) :
    SameSession w.shared (packetRead C S build device w firstByte stream).device :=
  sameSession_of_untouched
    (processSocketData_keeps C S build device firstByte ⟨w.shared, stream, []⟩)

end Failures

inductive Call (w : World) : UserEvent → World → Prop where
  | submits (req : Request) (hopen : w.queueClosed = false)
      (hroom : w.queue.length < chanMpscCapacity) :
      Call w (.submit req) { w with queue := w.queue ++ [.request req] }
  | turnedAway (req : Request) (hclosed : w.queueClosed = true) : Call w (.submit req) w
  | asksNow (hopen : w.queueClosed = false) (hroom : w.queue.length < chanMpscCapacity) :
      Call w .connectNow { w with queue := w.queue ++ [.connectNow] }
  | asksInVain (hclosed : w.queueClosed = true) : Call w .connectNow w
  | stops : Call w .stop
      { w.lock fun s => { s with state := .stopped } with calls := w.calls ++ [.cancel] }
  | closes : Call w .close { w with calls := w.calls ++ [.markClosed] }
  | cancels (i : Nat) (hcall : w.calls[i]? = some .cancel) :
      Call w (.advance i) { w with cancelled := true, calls := w.calls.set i .markClosed }
  | marksClosed (i : Nat) (hcall : w.calls[i]? = some .markClosed) :
      Call w (.advance i) { w.lock fun s => { s with state := dropped s.state } with
        calls := w.calls.set i .sendDisconnect }
  | disconnects (i : Nat) (hcall : w.calls[i]? = some .sendDisconnect)
      (hopen : w.queueClosed = false) (hroom : w.queue.length < chanMpscCapacity) :
      Call w (.advance i)
        { w with calls := w.calls.eraseIdx i, queue := w.queue ++ [.disconnect] }
  | disconnectsInVain (i : Nat) (hcall : w.calls[i]? = some .sendDisconnect)
      (hclosed : w.queueClosed = true) :
      Call w (.advance i) { w with calls := w.calls.eraseIdx i }
  | sets (u : UserEvent) (f : State → State) (hf : setting u = some f) : Call w u (w.lock f)
  | setsNowait (nowait : Bool) : Call w (.setNowait nowait) { w with nowait }

inductive Move (w : World) : Event → World → Prop where
  | task {t : TaskEvent} {w' : World} (h : Branch C S build device w t w') : Move w (.task t) w'
  | drop (hcancelled : w.cancelled = true) (hsuspended : w.pc.suspended = true) :
      Move w .drop (w.goto .exiting)
  | reader {e : ReaderEvent} {w' : World} (h : ReaderStep C S build device w e w') :
      Move w (.reader e) w'
  | user {u : UserEvent} {w' : World} (h : Call w u w') : Move w (.user u) w'

end Rules

section Task

variable {C : Crates} {S : Codec} {build : Build} {device : Device} {w w' : World}
  {t : TaskEvent} {a : Attempt}

theorem onGo_branch {v : World} (h : onGo v t = some w') (hv : Branch C S build device w .go v) :
    Branch C S build device w t w' := by
  cases t with
  | go =>
    cases h
    exact hv
  | _ => cases h

theorem not_stopped (h : ¬ w.stopped = true) : w.stopped = false := Bool.eq_false_iff.mpr h

/-- The queue is refused, and the receiver closed if asked to. -/
theorem goto_drainRx (e : TuyaError) (close : Bool) (pc : Pc) :
    (w.drainRx e close).goto pc = { w with
      replies := w.replies ++ refusals e w.queue, queue := []
      queueClosed := w.queueClosed || close, pc } := by
  rw [drainRx_eq]
  rfl

theorem countFailure_branch {e : TuyaError} (hpc : w.pc = .countFailure e) :
    Branch C S build device w .go (countFailure build w e) := by
  unfold countFailure
  split
  next failureCount hadd =>
    obtain ⟨rfl, hfits⟩ := addU32_eq_ok hadd
    dsimp only
    rw [goto_drainRx, Bool.or_false]
    exact .failureCounted e hpc hfits
  next herr => exact absurd herr addU32_ne_err
  next hpanic => exact .failureOverflows e (addU32_eq_panic hpanic) hpc

theorem announceDisconnect_branch {err : Option TuyaError}
    (hpc : w.pc = .announceDisconnect err) :
    Branch C S build device w .go (announceDisconnect S w err) := by
  by_cases hstopped : w.stopped = true
  · have hsilent : Branch C S build device w .go (w.goto (afterDisconnect err)) :=
      .disconnectSilent err hpc hstopped
    cases err <;> (rw [announceDisconnect, if_pos hstopped]; exact hsilent)
  · have htold : Branch C S build device w .go
        ((w.broadcastError S (disconnectCode err) none).goto (afterDisconnect err)) :=
      .disconnectTold err hpc (not_stopped hstopped)
    cases err <;> (rw [announceDisconnect, if_neg hstopped]; exact htold)

theorem tryHead_branch (hpc : w.pc = .tryHead) : Branch C S build device w .go (tryHead w) := by
  by_cases hstopped : w.stopped = true
  · rw [tryHead, if_pos hstopped, goto_drainRx, Bool.or_true]
    exact .tryStopped hpc hstopped
  · rw [tryHead, if_neg hstopped]
    exact .tryStarts hpc (not_stopped hstopped)

theorem waitForBackoff_branch (hpc : w.pc = .waitForBackoff)
    (h : waitForBackoff S w t = some w') : Branch C S build device w t w' := by
  cases t with
  | slept =>
    cases h
    exact .backoffSlept hpc
  | rediscovered =>
    cases h
    exact .backoffRediscovered hpc
  | cancelled =>
    rw [waitForBackoff] at h
    split at h
    next hcancelled =>
      cases h
      rw [goto_drainRx, Bool.or_true]
      exact .backoffCancelled hpc hcancelled
    · cases h
  | recv =>
    rw [waitForBackoff] at h
    split at h
    next rest hqueue =>
      cases h
      exact .backoffConnectNow rest hpc hqueue
    next cmd rest hother hqueue =>
      cases h
      rw [respond_eq]
      exact .backoffRejects cmd rest hother hpc hqueue
    next hqueue =>
      split at h
      next hclosed =>
        cases h
        exact .backoffClosed hpc hqueue hclosed
      · cases h
  | _ => cases h

theorem announceFailed_branch {e : TuyaError} (hpc : w.pc = .announceFailed a e) :
    Branch C S build device w .go (announceFailed S w a e) := by
  cases a with
  | scheduled =>
    rw [announceFailed, goto_drainRx, Bool.or_false]
    exact .failsScheduled e hpc
  | onDemand req => exact .failsOnDemand req e hpc

theorem scheduleRetry_branch {e : TuyaError} (hpc : w.pc = .scheduleRetry e) :
    Branch C S build device w .go (scheduleRetry build w e) := by
  unfold scheduleRetry
  split
  next failureCount hadd =>
    obtain ⟨rfl, hfits⟩ := addU32_eq_ok hadd
    exact .retryScheduled e hpc hfits
  next herr => exact absurd herr addU32_ne_err
  next hpanic => exact .retryOverflows e (addU32_eq_panic hpanic) hpc

theorem onDemand_branch (hpc : w.pc = .onDemand) (h : onDemand w t = some w') :
    Branch C S build device w t w' := by
  cases t with
  | recv =>
    rw [onDemand] at h
    split at h
    next rest hqueue =>
      cases h
      exact .demandConnectNow rest hpc hqueue
    next req rest hqueue =>
      cases h
      exact .demandRequest req rest hpc hqueue
    next rest hqueue =>
      cases h
      exact .demandDisconnect rest hpc hqueue
    next hqueue =>
      split at h
      next hclosed =>
        cases h
        exact .demandClosed hpc hqueue hclosed
      · cases h
  | _ => cases h

section ConnectAndHandshake

theorem resolveAddress_branch (hpc : w.pc = .connecting a .resolve) :
    Branch C S build device w .go (resolveAddress w a) := by
  unfold resolveAddress
  dsimp only
  split
  next hknown =>
    simp only [Bool.and_eq_true, decide_eq_true_eq, Bool.not_eq_true'] at hknown
    exact .addressKnown a hpc hknown.1.1 hknown.1.2 hknown.2
  next hunknown =>
    refine .addressUnknown a hpc ?_
    rintro ⟨hexplicit, hversion, hforce⟩
    simp [hexplicit, hversion, hforce] at hunknown

theorem discover_branch {addr : String} (hpc : w.pc = .connecting a (.discover addr))
    (h : discover w a addr t = some w') : Branch C S build device w t w' := by
  cases t with
  | discovered result =>
    cases result with
    | some result =>
      cases h
      exact .discovers a addr result hpc
    | none =>
      rw [discover] at h
      split at h
      next hexplicit =>
        cases h
        exact .undiscovered a addr hpc hexplicit
      next hexplicit =>
        cases h
        exact .notFound a addr hpc (Bool.eq_false_iff.mpr hexplicit)
  | elapsed =>
    cases h
    exact .discoveryElapsed a addr hpc
  | _ => cases h

theorem dial_branch {addr : String} (hpc : w.pc = .connecting a (.dial addr))
    (h : dial w a t = some w') : Branch C S build device w t w' := by
  cases t with
  | dialed =>
    cases h
    exact .dials a addr hpc
  | refused | dialFailed | elapsed =>
    cases h
    exact .dialFails a addr _ _ hpc rfl
  | _ => cases h

theorem dialed_branch (hpc : w.pc = .connecting a .dialed) :
    Branch C S build device w .go (dialed w a) := by
  unfold dialed
  split
  next hkey => exact .negotiates a hpc hkey
  next hkey => exact .proceeds a hpc (Bool.eq_false_iff.mpr hkey)

theorem respondTo_branch {protocol : TuyaProtocol} {nonce : U8Array 16} {firstByte : UInt8}
    {stream : Stream} {resp : Result (Option TuyaMessage)} {r : Reader}
    (hpc : w.pc = .connecting a (.awaitResponse protocol nonce))
    (hread : (readAndParseFromStream C S build device firstByte).run ⟨w.shared, stream, []⟩
      = (resp, r)) :
    Branch C S build device w (.response firstByte stream)
      (respondTo C device { w with shared := r.device } a protocol nonce resp) := by
  have hrefused : ∀ err, ResponseFailure C device nonce resp err →
      Branch C S build device w (.response firstByte stream)
        (World.goto { w with shared := r.device } (.connectFailed a err)) := by
    intro err hfail
    have hfails := @Branch.responseRefused C S build device w a protocol nonce firstByte stream err
    rw [hread] at hfails
    exact hfails hfail hpc
  have hcrashes : ResponsePanics C device nonce resp →
      Branch C S build device w (.response firstByte stream)
        (World.finish { w with shared := r.device } .crashed) := by
    intro hpanic
    have hpanics := @Branch.responseCrashes C S build device w a protocol nonce firstByte stream
    rw [hread] at hpanics
    exact hpanics hpanic hpc
  unfold respondTo
  split
  next msg =>
    split
    next hcmd => exact hrefused _ (.other msg hcmd)
    next hcmd =>
      replace hcmd := not_not.mp hcmd
      split
      next sessionKey finishHmac haccept =>
        exact .responds a protocol nonce firstByte stream msg r sessionKey finishHmac hpc hread
          hcmd haccept
      next err haccept => exact hrefused err (.denied msg err hcmd haccept)
      next haccept => exact hcrashes (.accepting msg hcmd haccept)
  · exact hrefused _ .missing
  next err => exact hrefused err (.unread err)
  · exact hcrashes .reading

theorem awaitResponse_branch {protocol : TuyaProtocol} {nonce : U8Array 16}
    (hpc : w.pc = .connecting a (.awaitResponse protocol nonce))
    (h : awaitResponse C S build device w a protocol nonce t = some w') :
    Branch C S build device w t w' := by
  cases t with
  | response firstByte stream =>
    cases h
    exact respondTo_branch hpc rfl
  | noResponse | elapsed =>
    cases h
    exact .unanswered a protocol nonce _ _ hpc rfl
  | _ => cases h

theorem store_branch {protocol : TuyaProtocol} {nonce : U8Array 16} {sessionKey : Bytes}
    (hpc : w.pc = .connecting a (.store protocol nonce sessionKey)) :
    Branch C S build device w .go (store C device w a protocol nonce sessionKey) := by
  unfold store
  split
  next key hkey =>
    rw [negotiated_eq]
    exact .stores a protocol nonce sessionKey key hpc hkey
  next err hkey => exact .storeFails a protocol nonce sessionKey err hkey hpc
  next hkey => exact .storeCrashes a protocol nonce sessionKey hkey hpc

theorem connectAndHandshake_branch {h : Handshake} (hpc : w.pc = .connecting a h)
    (hnext : connectAndHandshake C S build device w a h t = some w') :
    Branch C S build device w t w' := by
  cases h with
  | resolve => exact onGo_branch hnext (resolveAddress_branch hpc)
  | discover addr => exact discover_branch hpc hnext
  | dial addr => exact dial_branch hpc hnext
  | dialed => exact onGo_branch hnext (dialed_branch hpc)
  | negotiate =>
    cases t with
    | drawn nonce =>
      cases hnext
      exact .drawsNonce a nonce hpc
    | _ => cases hnext
  | awaitResponse protocol nonce => exact awaitResponse_branch hpc hnext
  | store protocol nonce sessionKey => exact onGo_branch hnext (store_branch hpc)

end ConnectAndHandshake

section Send

variable {p : Purpose}

theorem sendFailed_branch {err : TuyaError} {s : State}
    (hfail : SendFailure C build device w p t err s) :
    Branch C S build device w t (sendFailed { w with shared := s } err p) := by
  cases p with
  | negStart a _ _ => exact .negotiationUnsent _ a t err s rfl hfail
  | negFinish a _ _ _ => exact .negotiationUnsent _ a t err s rfl hfail
  | session sender =>
    cases sender with
    | request req initial => exact .requestUnsent req initial t err s hfail
    | heartbeat =>
      rw [sendFailed, leave_orphans]
      exact .heartbeatUnsent t err s hfail

theorem sent_branch {f : Frame} (hpc : w.pc = .sending p .write) (hcurrent : w.current = some f)
    (hwhole : f.written = f.bytes.length) : Branch C S build device w .writeDone (sent w p) := by
  cases p with
  | negStart a protocol nonce => exact .startWritten a protocol nonce f hpc hcurrent hwhole
  | negFinish a protocol nonce sessionKey =>
    exact .finishWritten a protocol nonce sessionKey f hpc hcurrent hwhole
  | session sender =>
    cases sender with
    | heartbeat => exact .heartbeatWritten f hpc hcurrent hwhole
    | request req initial =>
      by_cases hsubscribed : w.subscription.isSome = true
      · rw [sent, if_pos hsubscribed]
        exact .requestWritten req initial f hpc hcurrent hwhole hsubscribed
      · rw [sent, if_neg hsubscribed]
        exact .requestDone req initial f hpc hcurrent hwhole
          (Option.not_isSome_iff_eq_none.mp hsubscribed)

theorem buildMessage_branch {cmd : UInt32} {payload : Bytes}
    (hpc : w.pc = .sending p (.build cmd payload)) :
    Branch C S build device w .go (buildMessage build w p cmd payload) := by
  unfold buildMessage
  split
  next seqno hadd =>
    obtain ⟨rfl, hfits⟩ := addU32_eq_ok hadd
    exact .builds p cmd payload hpc hfits
  next herr => exact absurd herr addU32_ne_err
  next hpanic => exact .buildOverflows p cmd payload (addU32_eq_panic hpanic) hpc

theorem packMsg_branch {msg : TuyaMessage} {protocol : TuyaProtocol} {iv : U8Array 12}
    (hpc : w.pc = .sending p (.encrypt msg protocol)) :
    Branch C S build device w (.packed iv) (packMsg C build device w p msg protocol iv) := by
  have hcrashes : frameOf C build device w.shared protocol msg iv = .panic →
      Branch C S build device w (.packed iv) (World.finish { w with
        shared := w.shared.cached (TuyaCipher.new (w.shared.activeKey device)) } .crashed) :=
    .packCrashes p msg protocol iv hpc
  have hfails : ∀ err, frameOf C build device w.shared protocol msg iv = .err err →
      Branch C S build device w (.packed iv) (sendFailed { w with
        shared := w.shared.cached (TuyaCipher.new (w.shared.activeKey device)) } err p) :=
    fun err hframe => sendFailed_branch (.packing msg protocol iv err hpc hframe)
  rw [frameOf, run_getCipher] at hcrashes hfails
  rw [packMsg, run_getCipher]
  dsimp only at hcrashes hfails ⊢
  cases hcipher : TuyaCipher.new (w.shared.activeKey device) with
  | panic =>
    rw [hcipher] at hcrashes
    exact hcrashes rfl
  | err err =>
    rw [hcipher] at hfails
    exact hfails err rfl
  | ok cipher =>
    rw [hcipher] at hfails hcrashes
    rw [Outcome.ok_bind] at hfails hcrashes
    dsimp only
    split
    next bytes hbytes =>
      rw [push_eq]
      exact .packs p msg protocol iv cipher bytes hpc hcipher hbytes
    next err herr => exact hfails err herr
    next hpanic => exact hcrashes hpanic

theorem progress_fits {n : Nat} (h : w.progress n = some w') :
    ∃ f, w.current = some f ∧ f.written + n ≤ f.bytes.length := by
  unfold World.progress at h
  split at h
  next f fs key rest hconns =>
    split at h
    next hfits => exact ⟨f, by rw [World.current, hconns]; rfl, hfits⟩
    · cases h
  · cases h

theorem writeAll_branch (hpc : w.pc = .sending p .write) (h : writeAll w p t = some w') :
    Branch C S build device w t w' := by
  cases t with
  | wrote n =>
    rw [writeAll] at h
    obtain ⟨f, hcurrent, hfits⟩ := progress_fits h
    rw [progress_eq_some h]
    exact .writes p f n hpc hcurrent hfits
  | writeDone =>
    rw [writeAll] at h
    split at h
    next f hcurrent =>
      split at h
      next hwhole =>
        cases h
        exact sent_branch hpc hcurrent hwhole
      · cases h
    · cases h
  | writeFailed failure =>
    rw [writeAll] at h
    split at h
    next f hcurrent =>
      split at h
      next hpart =>
        cases h
        exact sendFailed_branch (.writing f failure hpc hcurrent hpart)
      · cases h
    · cases h
  | elapsed =>
    rw [writeAll] at h
    split at h
    next a hp =>
      cases h
      exact .writeElapsed p a hpc hp
    · cases h
  | _ => cases h

theorem sendRawToStream_branch {s : Sending} (hpc : w.pc = .sending p s)
    (h : sendRawToStream C build device w p s t = some w') : Branch C S build device w t w' := by
  cases s with
  | build cmd payload => exact onGo_branch h (buildMessage_branch hpc)
  | pack msg => exact onGo_branch h (.readsSettings p msg hpc)
  | encrypt msg protocol =>
    cases t with
    | packed iv =>
      cases h
      exact packMsg_branch hpc
    | _ => cases h
  | write => exact writeAll_branch hpc h

end Send

section MaintainConnection

theorem awaitReply_branch {req : Request} {initial : Bool} {effectiveCmd : UInt32}
    (hpc : w.pc = .awaitReply req initial effectiveCmd)
    (h : awaitReply S w req initial effectiveCmd t = some w') : Branch C S build device w t w' := by
  cases t with
  | reply =>
    rw [awaitReply] at h
    split at h
    next msg rest hnext =>
      split at h
      next hlag =>
        cases h
        exact .lags req initial effectiveCmd msg rest hpc hnext hlag
      next hlag =>
        have hkept := Nat.le_of_not_lt hlag
        split at h
        next hanswers =>
          cases h
          exact .replies req initial effectiveCmd msg rest hkept hpc hnext hanswers
        next hother =>
          cases h
          exact .passes req initial effectiveCmd msg rest hkept hpc hnext
            (Bool.eq_false_iff.mpr hother)
    · cases h
    · cases h
  | replyTimeout =>
    cases h
    exact .replyTimesOut req initial effectiveCmd hpc
  | _ => cases h

theorem maintain_branch (hpc : w.pc = .maintain) (h : maintain w t = some w') :
    Branch C S build device w t w' := by
  cases t with
  | cancelled =>
    rw [maintain] at h
    split at h
    next hcancelled =>
      cases h
      rw [leave_orphans]
      exact .serveCancelled hpc hcancelled
    · cases h
  | recv =>
    rw [maintain] at h
    split at h
    next req rest hqueue =>
      cases h
      exact .serveRequest req rest hpc hqueue
    next rest hqueue =>
      cases h
      rw [leave_orphans]
      exact .serveDisconnect rest hpc hqueue
    next rest hqueue =>
      cases h
      exact .serveConnectNow rest hpc hqueue
    next hqueue =>
      split at h
      next hclosed =>
        cases h
        exact .serveClosed hpc hqueue hclosed
      · cases h
  | tick =>
    cases h
    exact .ticks hpc
  | readerFailed =>
    rw [maintain] at h
    split at h
    next e herr =>
      cases h
      rw [leave_orphans]
      exact .readerFails e hpc herr
    · cases h
  | _ => cases h

end MaintainConnection

/-- The rules cover every step of the task. -/
theorem taskNext_branch (h : taskNext C S build device w t = some w') :
    Branch C S build device w t w' := by
  unfold taskNext at h
  cases hpc : w.pc <;> rw [hpc] at h <;> dsimp only at h
  case jitter =>
    unfold jitter at h
    split at h
    · cases h
      exact .jittered hpc
    · split at h <;> cases h
      exact .jitterCancelled hpc ‹_›
    · cases h
  case waitForBackoff => exact waitForBackoff_branch hpc h
  case connecting => exact connectAndHandshake_branch hpc h
  case onDemand => exact onDemand_branch hpc h
  case sending => exact sendRawToStream_branch hpc h
  case awaitReply => exact awaitReply_branch hpc h
  case maintain => exact maintain_branch hpc h
  case generate =>
    unfold generate at h
    split at h <;> cases h
    exact .generates _ _ _ _ _ hpc
  case tickDue =>
    unfold tickDue at h
    split at h <;> cases h
    · exact .heartbeatDue hpc
    · exact .heartbeatEarly hpc
  case exited => cases h
  case crashed => cases h
  -- At the other places the environment has no choice.
  all_goals refine onGo_branch h ?_
  case loopHead =>
    unfold loopHead
    split
    · exact .loopStopped hpc ‹_›
    · exact .loopConnects hpc (not_stopped ‹_›)
  case tryHead => exact tryHead_branch hpc
  case readBackoff =>
    unfold readBackoff
    split
    · exact .backsOff hpc ‹_›
    · exact .connectsAtOnce hpc ‹_›
  case markConnected a => exact .marksConnected a hpc
  case announceConnected a =>
    cases a with
    | scheduled => exact .announcesScheduled hpc
    | onDemand req => exact .announcesOnDemand req hpc
  case connectFailed a e => exact .attemptDropped a e hpc
  case announceFailed => exact announceFailed_branch hpc
  case checkPersist e =>
    unfold checkPersist
    split
    · exact .persists e hpc ‹_›
    · exact .desists e hpc (Bool.eq_false_iff.mpr ‹_›)
  case scheduleRetry => exact scheduleRetry_branch hpc
  case beginRequest req initial => exact .begins req initial hpc
  case readEffective req initial => exact .readsEffective req initial hpc
  case spawnReader => exact .spawns hpc
  case channelClosed =>
    rw [channelClosed, leave_orphans]
    exact .shuts hpc
  case tickPersist =>
    unfold tickPersist
    split
    · exact .tickChecked hpc ‹_›
    · exact .tickIgnored hpc (Bool.eq_false_iff.mpr ‹_›)
  case handleDisconnect err => exact .disconnects err hpc
  case announceDisconnect => exact announceDisconnect_branch hpc
  case countFailure => exact countFailure_branch hpc
  case checkStopped =>
    unfold checkStopped
    split
    · exact .foundStopped hpc ‹_›
    · exact .reconnects hpc (not_stopped ‹_›)
  case exiting => exact .exits hpc

end Task

section System

variable {C : Crates} {S : Codec} {build : Build} {device : Device} {w w' : World}

theorem advanceCall_call {i : Nat} (h : advanceCall w i = some w') : Call w (.advance i) w' := by
  unfold advanceCall at h
  split at h
  next hcall =>
    cases h
    exact .cancels i hcall
  next hcall =>
    cases h
    exact .marksClosed i hcall
  next hcall =>
    rcases enqueue_eq_some h with ⟨hclosed, rfl⟩ | ⟨hopen, hroom, rfl⟩
    · exact .disconnectsInVain i hcall hclosed
    · exact .disconnects i hcall hopen hroom
  · cases h

theorem userNext_call {u : UserEvent} (h : userNext w u = some w') : Call w u w' := by
  cases u with
  | submit req =>
    rcases enqueue_eq_some h with ⟨hclosed, rfl⟩ | ⟨hopen, hroom, rfl⟩
    · exact .turnedAway req hclosed
    · exact .submits req hopen hroom
  | connectNow =>
    rcases enqueue_eq_some h with ⟨hclosed, rfl⟩ | ⟨hopen, hroom, rfl⟩
    · exact .asksInVain hclosed
    · exact .asksNow hopen hroom
  | stop =>
    cases h
    exact .stops
  | close =>
    cases h
    exact .closes
  | advance i => exact advanceCall_call h
  | setNowait nowait =>
    cases h
    exact .setsNowait nowait
  | setPersist | setDevType | setVersion | setAddress =>
    cases h
    exact .sets _ _ rfl

/-- The rules cover every step of the system. -/
theorem next_move {e : Event} (h : next C S build device w e = some w') :
    Move C S build device w e w' := by
  cases e with
  | task t => exact .task (taskNext_branch h)
  | drop =>
    obtain ⟨hcancelled, hsuspended, rfl⟩ := dropTask_eq_some h
    exact .drop hcancelled hsuspended
  | reader e => exact .reader (readerNext_inv h)
  | user u => exact .user (userNext_call h)

end System

end TaskBranches
