import Rustuya.ConnectionTask

/-!
# The task refines the life of a connection

Every step of the connection task, the reader or a caller is a step of the link that the
whole state stands for. What is proved about links then holds for the task.
-/
namespace TaskRefinement

open CheckedExecution StatefulExecution ByteCodec Error Crypto Message Protocol Json
open SessionKey DeviceState StreamReader ConnectionLifecycle ConnectionTask TransitionSystem

section Abstraction

def handshakeStage : Handshake → Stage
  | .resolve | .discover _ | .dial _ => .idle
  | .dialed | .negotiate | .awaitResponse _ _ | .store _ _ _ => .handshake

def purposeStage : Purpose → Stage
  | .negStart _ _ _ | .negFinish _ _ _ _ => .handshake
  | .session _ => .session

def stageOf : Pc → Stage
  | .jitter | .loopHead | .tryHead | .readBackoff | .waitForBackoff | .onDemand => .idle
  | .connectFailed _ _ | .announceFailed _ _ | .checkPersist _ | .scheduleRetry _ => .idle
  | .announceDisconnect _ | .countFailure _ | .checkStopped => .idle
  | .connecting _ h => handshakeStage h
  | .sending p _ => purposeStage p
  | .markConnected _ | .announceConnected _ | .spawnReader | .maintain | .channelClosed => .session
  | .beginRequest _ _ | .generate _ _ _ _ | .readEffective _ _ | .awaitReply _ _ _ => .session
  | .tickPersist | .tickDue => .session
  | .handleDisconnect _ => .leaving
  | .exiting | .exited | .crashed => .over

def writingAt : Pc → Bool
  | .sending _ .write => true
  | _ => false

def linkAt (w : World) (pc : Pc) : Link where
  version := w.shared.version
  state := w.shared.state
  sessionKey := w.shared.sessionKey
  conns := w.conns
  stage := stageOf pc
  writing := writingAt pc

def link (w : World) : Link := linkAt w w.pc

/-- The bytes are one frame under the key, as `pack_msg` makes it. -/
def Packed (C : Crates) (build : Build) (key bytes : Bytes) : Prop :=
  ∃ iv protocol, ∃ cipher : TuyaCipher, ∃ msg,
    cipher.key.val = key ∧ packWith C build iv protocol cipher msg = .ok bytes

def Stores (C : Crates) (localKey : Bytes) (Agreed : Bytes → Prop) : Prop :=
  ∀ protocol sessionKey, ∀ nonce : U8Array 16, ∀ key, sessionKey.length = 16 →
    storedKey C protocol sessionKey nonce.val localKey = .ok key → Agreed key

def terms (C : Crates) (build : Build) (device : Device) (Agreed : Bytes → Prop) : Terms where
  localKey := device.localKey
  Packed := Packed C build
  Agreed := Agreed

/-- A request whose write ends inside its frame leaves it torn. -/
def writeKind : Purpose → TaskEvent → Option Frame → Kind
  | .session (.request _ _), .writeFailed _, some f => if f.written = 0 then .plain else .torn
  | _, _, _ => .plain

def taskKind (w : World) (e : TaskEvent) : Kind :=
  match w.pc with
  | .markConnected _ => .marked
  | .sending p .write => writeKind p e w.current
  | _ => .plain

def kind (w : World) : Event → Kind
  | .task e => taskKind w e
  | .user (.setVersion _) => .reconfigured
  | .drop | .reader _ | .user _ => .plain

theorem kind_cases (w : World) (e : Event) :
    kind w e = .plain ∨
    (kind w e = .marked ∧ ∃ a task, w.pc = .markConnected a ∧ e = .task task) ∨
    (kind w e = .torn ∧ ∃ req initial failure f,
      w.pc = .sending (.session (.request req initial)) .write ∧
      e = .task (.writeFailed failure) ∧ w.current = some f ∧ f.written ≠ 0) ∨
    (kind w e = .reconfigured ∧ ∃ version, e = .user (.setVersion version)) := by
  cases e with
  | drop => exact .inl rfl
  | reader e => exact .inl rfl
  | user e =>
    cases e with
    | setVersion version => exact .inr (.inr (.inr ⟨rfl, version, rfl⟩))
    | _ => exact .inl rfl
  | task e =>
    rw [kind]
    unfold taskKind
    split
    next a hpc => exact .inr (.inl ⟨rfl, a, e, hpc, rfl⟩)
    next p hpc =>
      unfold writeKind
      split
      next req initial failure f hf =>
        by_cases hzero : f.written = 0
        · exact .inl (if_pos hzero)
        · exact .inr (.inr (.inl ⟨if_neg hzero, req, initial, failure, f, hpc, rfl, hf, hzero⟩))
      · exact .inl rfl
    · exact .inl rfl

def cmdAt : Sending → Option UInt32
  | .build cmd _ => some cmd
  | .pack msg | .encrypt msg _ => some msg.cmd
  | .write => none

/-- The negotiation sends its own commands, and the key it has computed and not yet stored
has the right length. -/
def Ready : Pc → Prop
  | .sending (.negStart _ _ _) s => ∀ cmd, cmdAt s = some cmd → cmd = 3
  | .sending (.negFinish _ _ _ key) s => key.length = 16 ∧ ∀ cmd, cmdAt s = some cmd → cmd = 5
  | .connecting _ (.store _ _ key) => key.length = 16
  | _ => True

end Abstraction

section Updates

variable (w : World) (pc : Pc)

theorem linkAt_respond (cmd : Command) (answer : Answer) :
    linkAt (w.respond cmd answer) pc = linkAt w pc := by
  cases cmd <;> rfl

theorem linkAt_drainRx (e : TuyaError) (close : Bool) :
    linkAt (w.drainRx e close) pc = linkAt w pc := by
  have hfold : ∀ (cmds : List Command) (w : World),
      linkAt (cmds.foldl (fun w cmd => w.respond cmd (.error e)) w) pc = linkAt w pc := by
    intro cmds
    induction cmds with
    | nil => exact fun _ => rfl
    | cons cmd cmds ih => exact fun w => (ih _).trans (linkAt_respond w pc cmd _)
  exact hfold w.queue { w with queueClosed := w.queueClosed || close }

theorem linkAt_leave (err : Option TuyaError) :
    link (w.leave err) = linkAt w (.handleDisconnect err) := by
  obtain ⟨lingering, hleave⟩ := leave_eq w err
  rw [hleave]
  rfl

theorem ready_leave (err : Option TuyaError) : Ready (w.leave err).pc := by
  obtain ⟨lingering, hleave⟩ := leave_eq w err
  rw [hleave]
  trivial

theorem linkAt_untouched {s : State} (h : untouched s = untouched w.shared) :
    linkAt { w with shared := s } pc = linkAt w pc := by
  have hversion : (untouched s).version = (untouched w.shared).version := by rw [h]
  have hstate : (untouched s).state = (untouched w.shared).state := by rw [h]
  have hkey : (untouched s).sessionKey = (untouched w.shared).sessionKey := by rw [h]
  simp only [untouched] at hversion hstate hkey
  simp only [linkAt, hversion, hstate, hkey]

end Updates

section Task

variable {C : Crates} {S : Codec} {build : Build} {device : Device} {A : Bytes → Prop}
  {T : Terms} {w w' : World}
  {e : TaskEvent} {a : Attempt}

structure Refines (T : Terms) (w : World) (pc : Pc) (kind : Kind) (w' : World) : Prop where
  step : LinkStep T (linkAt w pc) kind (link w')
  ready : Ready w'.pc

theorem refines_stay {pc : Pc} (h : link w' = linkAt w pc) (hready : Ready w'.pc) :
    Refines T w pc .plain w' := by
  refine ⟨?_, hready⟩
  rw [h]
  exact .stay _

theorem refines_quit {pc : Pc} (h : link w' = linkAt w .exiting) (hready : Ready w'.pc) :
    Refines T w pc .plain w' := by
  refine ⟨?_, hready⟩
  rw [h]
  exact .quit _

theorem refines_same {pc : Pc} (hpc : w'.pc = pc) (hlink : linkAt w' pc = linkAt w pc)
    (hready : Ready pc) : Refines T w pc .plain w' := by
  refine refines_stay ?_ (hpc ▸ hready)
  rw [link, hpc]
  exact hlink

/-- Only the link of the state before a step matters. -/
theorem Refines.of_link {v : World} {pc : Pc} {kind : Kind} (h : Refines T v pc kind w')
    (hv : linkAt v pc = linkAt w pc) : Refines T w pc kind w' := ⟨hv ▸ h.step, h.ready⟩

theorem onGo_eq_some {v : World} (h : onGo v e = some w') : w' = v := by
  cases e with
  | go => exact (Option.some.inj h).symm
  | _ => cases h

theorem leave_refines {pc : Pc} (hstage : stageOf pc = .session) (err : Option TuyaError) :
    Refines T w pc .plain (w.leave err) := by
  refine ⟨?_, ready_leave w err⟩
  rw [linkAt_leave]
  exact .leave (linkAt w pc) hstage

theorem conclude_refines {pc : Pc} (hstage : stageOf pc = .session)
    (hwriting : writingAt pc = false) (req : Request) (initial : Bool) (answer : Answer) :
    Refines T w pc .plain (w.conclude req initial answer) := by
  have hlink : link (w.conclude req initial answer) = linkAt w pc := by
    rw [linkAt, hstage, hwriting]
    cases initial <;> rfl
  exact refines_stay hlink (by cases initial <;> trivial)

section RunConnectionTask

theorem jitter_refines (h : jitter w e = some w') : Refines T w .jitter .plain w' := by
  unfold jitter at h
  split at h
  · cases h
    exact ⟨.stay _, trivial⟩
  · split at h
    · cases h
      exact ⟨.quit _, trivial⟩
    · cases h
  · cases h

theorem loopHead_refines : Refines T w .loopHead .plain (loopHead w) := by
  unfold loopHead
  split
  · exact ⟨.quit _, trivial⟩
  · exact ⟨.stay _, trivial⟩

theorem handleDisconnect_refines (err : Option TuyaError) :
    Refines T w (.handleDisconnect err) .plain (handleDisconnect w err) :=
  ⟨.clear _ rfl, trivial⟩

theorem announceDisconnect_refines (err : Option TuyaError) :
    Refines T w (.announceDisconnect err) .plain (announceDisconnect S w err) := by
  unfold announceDisconnect
  cases err with
  | some e =>
    dsimp only
    split <;> exact ⟨.stay _, trivial⟩
  | none =>
    dsimp only
    split <;> exact ⟨.quit _, trivial⟩

theorem countFailure_refines (err : TuyaError) :
    Refines T w (.countFailure err) .plain (countFailure build w err) := by
  unfold countFailure
  split
  · exact refines_stay (linkAt_drainRx _ .checkStopped _ _) trivial
  · exact ⟨.quit _, trivial⟩
  · exact ⟨.quit _, trivial⟩

theorem checkStopped_refines : Refines T w .checkStopped .plain (checkStopped w) := by
  unfold checkStopped
  split
  · exact ⟨.quit _, trivial⟩
  · exact ⟨.stay _, trivial⟩

theorem exiting_refines : Refines T w .exiting .plain (exiting w) :=
  ⟨.quit _, trivial⟩

end RunConnectionTask

section TryConnectWithBackoff

theorem tryHead_refines : Refines T w .tryHead .plain (tryHead w) := by
  unfold tryHead
  split
  · exact refines_quit (linkAt_drainRx w .exiting .offline true) trivial
  · exact ⟨.stay _, trivial⟩

theorem readBackoff_refines : Refines T w .readBackoff .plain (readBackoff w) := by
  unfold readBackoff
  split <;> exact ⟨.stay _, trivial⟩

theorem waitForBackoff_refines (hpc : w.pc = .waitForBackoff)
    (h : waitForBackoff S w e = some w') :
    Refines T w .waitForBackoff .plain w' := by
  unfold waitForBackoff at h
  split at h
  · cases h
    exact ⟨.stay _, trivial⟩
  · cases h
    exact ⟨.stay _, trivial⟩
  · split at h
    · cases h
      exact refines_quit (linkAt_drainRx w .exiting .offline true) trivial
    · cases h
  · split at h
    · cases h
      exact ⟨.stay _, trivial⟩
    next cmd queue _ _ =>
      cases h
      -- A rejected command leaves the task where it is.
      have hsame : ∀ v : World, (v.respond cmd (.error .offline)).pc = v.pc := by
        intro v
        cases cmd <;> rfl
      exact refines_same ((hsame _).trans hpc)
        (linkAt_respond { w with queue } .waitForBackoff cmd _) trivial
    · split at h
      · cases h
        exact ⟨.quit _, trivial⟩
      · cases h
  · cases h

theorem markConnected_refines : Refines T w (.markConnected a) .marked
    (markConnected w a) := ⟨.mark _ rfl, trivial⟩

theorem announceConnected_refines : Refines T w (.announceConnected a) .plain
    (announceConnected S w a) := by
  cases a <;> exact ⟨.stay _, trivial⟩

theorem handleConnectionError_refines (err : TuyaError) :
    Refines T w (.connectFailed a err) .plain (handleConnectionError w a err) :=
  ⟨.disconnect _, trivial⟩

theorem announceFailed_refines (err : TuyaError) :
    Refines T w (.announceFailed a err) .plain (announceFailed S w a err) := by
  cases a with
  | scheduled =>
    have hlink := linkAt_drainRx (w.broadcastError S err.code (some (.string err.display)))
      (.checkPersist err) err false
    exact refines_stay hlink trivial
  | onDemand req => exact ⟨.stay _, trivial⟩

theorem checkPersist_refines (err : TuyaError) :
    Refines T w (.checkPersist err) .plain (checkPersist w err) := by
  unfold checkPersist
  split <;> exact ⟨.stay _, trivial⟩

theorem scheduleRetry_refines (err : TuyaError) :
    Refines T w (.scheduleRetry err) .plain (scheduleRetry build w err) := by
  unfold scheduleRetry
  split
  · exact ⟨.stay _, trivial⟩
  · exact ⟨.quit _, trivial⟩
  · exact ⟨.quit _, trivial⟩

theorem onDemand_refines (h : onDemand w e = some w') :
    Refines T w .onDemand .plain w' := by
  unfold onDemand at h
  split at h
  · split at h
    · cases h
      exact ⟨.stay _, trivial⟩
    · cases h
      exact ⟨.stay _, trivial⟩
    · cases h
      exact ⟨.quit _, trivial⟩
    · split at h
      · cases h
        exact ⟨.quit _, trivial⟩
      · cases h
  · cases h

end TryConnectWithBackoff

section ConnectAndHandshake

theorem resolveAddress_refines : Refines T w (.connecting a .resolve) .plain
    (resolveAddress w a) := by
  unfold resolveAddress
  dsimp only
  split <;> exact ⟨.stay _, trivial⟩

theorem discover_refines {configAddr : String} (h : discover w a configAddr e = some w') :
    Refines T w (.connecting a (.discover configAddr)) .plain w' := by
  unfold discover at h
  split at h
  next result =>
    cases h
    by_cases hauto : w.shared.version = .auto
    · exact ⟨.detect (linkAt w (.connecting a (.discover configAddr))) _ hauto, trivial⟩
    · have hsame : detectedVersion w.shared.version result.version = w.shared.version :=
        if_neg hauto
      refine refines_stay ?_ trivial
      simp only [link, linkAt, World.goto, World.lock, hsame]
      rfl
  · split at h
    · cases h
      exact ⟨.stay _, trivial⟩
    · cases h
      exact ⟨.stay _, trivial⟩
  · cases h
    exact ⟨.stay _, trivial⟩
  · cases h

theorem dial_refines {addr : String} (h : dial w a e = some w') :
    Refines T w (.connecting a (.dial addr)) .plain w' := by
  unfold dial at h
  split at h
  · cases h
    exact ⟨.connect _ rfl, trivial⟩
  · cases h
    exact ⟨.stay _, trivial⟩
  · cases h
    exact ⟨.stay _, trivial⟩
  · cases h
    exact ⟨.stay _, trivial⟩
  · cases h

theorem requiresSessionKey_iff (s : State) :
    s.protocol.requiresSessionKey = true ↔ Negotiates s.version := by
  unfold State.protocol Negotiates
  cases s.version <;> cases s.devType <;> decide

theorem dialed_refines : Refines T w (.connecting a .dialed) .plain (dialed w a) := by
  unfold dialed
  split
  · exact ⟨.stay _, trivial⟩
  next h => exact ⟨.proceed _ rfl fun hv => h ((requiresSessionKey_iff _).mpr hv), trivial⟩

theorem negotiate_refines (h : negotiate w a e = some w') :
    Refines T w (.connecting a .negotiate) .plain w' := by
  unfold negotiate at h
  split at h
  · cases h
    exact ⟨.stay _, fun cmd hcmd => (Option.some.inj hcmd).symm⟩
  · cases h

theorem respondTo_refines {protocol : TuyaProtocol} {nonce : U8Array 16}
    (resp : Result (Option TuyaMessage)) :
    Refines T w (.connecting a (.awaitResponse protocol nonce)) .plain
      (respondTo C device w a protocol nonce resp) := by
  unfold respondTo
  split
  · split
    · exact ⟨.abandon _ rfl, trivial⟩
    · split
      next haccept =>
        refine ⟨.stay _, (acceptResponse_length haccept).trans nonce.property, fun cmd hcmd => ?_⟩
        exact (Option.some.inj hcmd).symm
      · exact ⟨.abandon _ rfl, trivial⟩
      · exact ⟨.quit _, trivial⟩
  · exact ⟨.abandon _ rfl, trivial⟩
  · exact ⟨.abandon _ rfl, trivial⟩
  · exact ⟨.quit _, trivial⟩

theorem awaitResponse_refines {protocol : TuyaProtocol} {nonce : U8Array 16}
    (h : awaitResponse C S build device w a protocol nonce e = some w') :
    Refines T w (.connecting a (.awaitResponse protocol nonce)) .plain w' := by
  unfold awaitResponse at h
  split at h
  next firstByte stream =>
    have hkeeps := readAndParseFromStream_keeps C S build device firstByte ⟨w.shared, stream, []⟩
    rcases hrun : (readAndParseFromStream C S build device firstByte).run ⟨w.shared, stream, []⟩
      with ⟨resp, r⟩
    rw [hrun] at h hkeeps
    cases h
    exact (respondTo_refines resp).of_link (linkAt_untouched w _ hkeeps)
  · cases h
    exact ⟨.abandon _ rfl, trivial⟩
  · cases h
    exact ⟨.abandon _ rfl, trivial⟩
  · cases h

theorem store_refines (hstores : Stores C device.localKey A) {protocol : TuyaProtocol}
    {nonce : U8Array 16} {sessionKey : Bytes} (hlen : sessionKey.length = 16)
    (hconns : w.conns ≠ []) :
    Refines (terms C build device A) w (.connecting a (.store protocol nonce sessionKey)) .plain
      (store C device w a protocol nonce sessionKey) := by
  unfold store
  split
  next key hkey =>
    obtain ⟨c, rest, hc⟩ := List.exists_cons_of_ne_nil hconns
    refine ⟨?_, trivial⟩
    simp only [World.negotiated, World.lock, hc]
    exact .agree (linkAt w (.connecting a (.store protocol nonce sessionKey))) c rest key rfl rfl
      hc (hstores protocol sessionKey nonce key hlen hkey)
  · exact ⟨.abandon _ rfl, trivial⟩
  · exact ⟨.quit _, trivial⟩

end ConnectAndHandshake

section Send

variable {p : Purpose}

theorem current_eq {c : Connection} {rest : List Connection} {f g : Frame} {fs : List Frame}
    (h : w.current = some f) (hconns : w.conns = c :: rest) (hframes : c.frames = g :: fs) :
    g = f := by
  rw [World.current, hconns] at h
  simpa [hframes] using h

theorem sendFailed_refines {s : Sending} (hs : writingAt (.sending p s) = false)
    (err : TuyaError) :
    Refines T w (.sending p s) .plain (sendFailed w err p) := by
  cases p with
  | negStart | negFinish => exact ⟨.abandon _ rfl, trivial⟩
  | session sender =>
    cases sender with
    | heartbeat =>
      exact leave_refines rfl _
    | request req initial =>
      exact conclude_refines rfl hs req initial _

theorem buildMessage_refines {cmd : UInt32} {payload : Bytes}
    (hready : Ready (.sending p (.build cmd payload))) :
    Refines T w (.sending p (.build cmd payload)) .plain
      (buildMessage build w p cmd payload) := by
  unfold buildMessage
  split
  · refine ⟨.stay _, ?_⟩
    cases p <;> exact hready
  · exact ⟨.quit _, trivial⟩
  · exact ⟨.quit _, trivial⟩

theorem new_eq_ok {key : Bytes} {cipher : TuyaCipher} (h : TuyaCipher.new key = .ok cipher) :
    cipher.key.val = key := by
  unfold TuyaCipher.new at h
  split at h
  · cases h
    rfl
  · cases h

/-- A frame is packed under the key of the moment, on the latest connection. -/
theorem packMsg_refines {msg : TuyaMessage} {protocol : TuyaProtocol}
    (hready : Ready (.sending p (.encrypt msg protocol))) (hconns : w.conns ≠ [])
    (iv : U8Array 12) :
    Refines (terms C build device A) w (.sending p (.encrypt msg protocol)) .plain
      (packMsg C build device w p msg protocol iv) := by
  have hkeeps := getCipher_keeps device w.shared
  unfold packMsg
  rw [run_getCipher] at hkeeps ⊢
  dsimp only at hkeeps ⊢
  set v : World := { w with shared := w.shared.cached (TuyaCipher.new (w.shared.activeKey device)) }
    with hv
  have hlink : linkAt v (.sending p (.encrypt msg protocol))
      = linkAt w (.sending p (.encrypt msg protocol)) := linkAt_untouched w _ hkeeps
  have hfail : ∀ err, Refines (terms C build device A) w (.sending p (.encrypt msg protocol)) .plain
      (sendFailed v err p) := fun err => (sendFailed_refines rfl err).of_link hlink
  split
  next cipher hcipher =>
    split
    next bytes hbytes =>
      obtain ⟨c, rest, hc⟩ := List.exists_cons_of_ne_nil hconns
      have hvc : v.conns = c :: rest := hc
      refine ⟨?_, ?_⟩
      · rw [← hlink]
        simp only [World.push, hvc]
        refine .frame (linkAt v (.sending p (.encrypt msg protocol))) c rest
          ⟨p.attempt.isSome, msg.cmd, msg.seqno, cipher.key.val, bytes, 0⟩ ?_ rfl hvc ?_
          ⟨iv, protocol, cipher, msg, rfl, hbytes⟩ rfl
        · cases p with
          | negStart => exact .inl ⟨rfl, rfl, .inl (hready _ rfl)⟩
          | negFinish => exact .inl ⟨rfl, rfl, .inr (hready.2 _ rfl)⟩
          | session sender => exact .inr ⟨rfl, rfl⟩
        · rw [hlink]
          exact new_eq_ok hcipher
      · cases p with
        | negStart => exact nofun
        | negFinish => exact ⟨hready.1, nofun⟩
        | session sender => trivial
    · exact hfail _
    · exact refines_quit (linkAt_untouched w .exiting hkeeps) trivial
  · exact hfail _
  · exact refines_quit (linkAt_untouched w .exiting hkeeps) trivial

theorem sent_refines {f : Frame} (hf : w.current = some f) (hfull : f.written = f.bytes.length)
    (hready : Ready (.sending p .write)) :
    Refines T w (.sending p .write) .plain (sent w p) := by
  have hlast : ∀ c rest g fs, (linkAt w (.sending p .write)).conns = c :: rest →
      c.frames = g :: fs → g.Whole := by
    intro c rest g fs hconns hframes
    rw [current_eq hf hconns hframes]
    exact .inr hfull
  cases p with
  | negStart => exact ⟨.written _ hlast, trivial⟩
  | negFinish => exact ⟨.written _ hlast, hready.1⟩
  | session sender =>
    cases sender with
    | heartbeat => exact ⟨.written _ hlast, trivial⟩
    | request req initial =>
      rw [sent]
      split
      · exact ⟨.written _ hlast, trivial⟩
      · cases initial <;> exact ⟨.written _ hlast, trivial⟩

/-- The write ends early: the connection of a request is kept, the others are given up. -/
theorem writeFailed_refines {f : Frame} (hf : w.current = some f) (failure : IoFailure) :
    Refines T w (.sending p .write) (writeKind p (.writeFailed failure) w.current)
      (sendFailed w failure.error p) := by
  cases p with
  | negStart | negFinish => exact ⟨.abandon _ rfl, trivial⟩
  | session sender =>
    cases sender with
    | heartbeat => exact leave_refines rfl _
    | request req initial =>
      rw [hf, writeKind]
      by_cases hzero : f.written = 0
      · have hlast : ∀ c rest g fs, w.conns = c :: rest → c.frames = g :: fs → g.Whole := by
          intro c rest g fs hconns hframes
          rw [current_eq hf hconns hframes]
          exact .inl hzero
        rw [if_pos hzero]
        cases initial <;> exact ⟨.written _ hlast, trivial⟩
      · rw [if_neg hzero]
        cases initial <;> exact ⟨.tear _, trivial⟩

theorem progress_refines (hpc : w.pc = .sending p .write) (hready : Ready (.sending p .write))
    {n : Nat} (h : w.progress n = some w') :
    Refines T w (.sending p .write) .plain w' := by
  unfold World.progress at h
  split at h
  next f fs key rest hconns =>
    split at h
    next hfits =>
      cases h
      refine ⟨?_, hpc ▸ hready⟩
      rw [link]
      dsimp only
      rw [hpc]
      exact .write _ ⟨f :: fs, key⟩ rest f fs n rfl hconns rfl hfits
    · cases h
  · cases h

theorem writeKind_plain {current : Option Frame} (h : ∀ failure, e ≠ .writeFailed failure) :
    writeKind p e current = .plain := by
  unfold writeKind
  split
  · exact absurd rfl (h _)
  · rfl

theorem writeAll_refines (hpc : w.pc = .sending p .write) (hready : Ready (.sending p .write))
    (h : writeAll w p e = some w') :
    Refines T w (.sending p .write) (writeKind p e w.current) w' := by
  unfold writeAll at h
  split at h
  · rw [writeKind_plain (e := .wrote _) nofun]
    exact progress_refines hpc hready h
  · rw [writeKind_plain (e := .writeDone) nofun]
    split at h
    next f hf =>
      split at h
      next hfull =>
        cases h
        exact sent_refines hf hfull hready
      · cases h
    · cases h
  next failure =>
    split at h
    next f hf =>
      split at h
      · cases h
        exact writeFailed_refines hf failure
      · cases h
    · cases h
  · rw [writeKind_plain (e := .elapsed) nofun]
    cases p with
    | negStart | negFinish =>
      cases h
      exact ⟨.abandon _ rfl, trivial⟩
    | session sender => cases h
  · cases h

theorem sendRawToStream_refines {s : Sending} (hpc : w.pc = .sending p s)
    (hready : Ready (.sending p s)) (hconns : w.conns ≠ [])
    (h : sendRawToStream C build device w p s e = some w') :
    Refines (terms C build device A) w (.sending p s) (taskKind w e) w' := by
  rw [taskKind, hpc]
  cases s with
  | build cmd payload =>
    obtain rfl := onGo_eq_some h
    exact buildMessage_refines hready
  | pack msg =>
    obtain rfl := onGo_eq_some h
    refine ⟨.stay _, ?_⟩
    cases p <;> exact hready
  | encrypt msg protocol =>
    cases e with
    | packed iv =>
      cases h
      exact packMsg_refines hready hconns iv
    | _ => cases h
  | write => exact writeAll_refines hpc hready h

end Send

section MaintainConnection

theorem maintain_refines (hpc : w.pc = .maintain) (h : maintain w e = some w') :
    Refines T w .maintain .plain w' := by
  unfold maintain at h
  split at h
  · split at h
    · cases h
      exact leave_refines rfl _
    · cases h
  · split at h
    · cases h
      exact ⟨.stay _, trivial⟩
    · cases h
      exact (leave_refines rfl _).of_link rfl
    · cases h
      exact refines_same hpc rfl trivial
    · split at h
      · cases h
        exact ⟨.stay _, trivial⟩
      · cases h
  · cases h
    exact ⟨.stay _, trivial⟩
  · split at h
    · cases h
      exact (leave_refines rfl _).of_link rfl
    · cases h
  · cases h

theorem channelClosed_refines :
    Refines T w .channelClosed .plain (channelClosed w) := by
  refine ⟨?_, ready_leave _ none⟩
  rw [channelClosed, linkAt_leave]
  exact .shutdown (linkAt w .channelClosed) rfl

theorem tickPersist_refines : Refines T w .tickPersist .plain (tickPersist w) := by
  unfold tickPersist
  split <;> exact ⟨.stay _, trivial⟩

theorem tickDue_refines (h : tickDue w e = some w') :
    Refines T w .tickDue .plain w' := by
  unfold tickDue at h
  split at h
  · cases h
    exact ⟨.stay _, trivial⟩
  · cases h
    exact ⟨.stay _, trivial⟩
  · cases h

theorem generate_refines {sender : Sender} {command : CommandType} {data : Option Value}
    {cid : Option String} (h : generate S device w sender command data cid e = some w') :
    Refines T w (.generate sender command data cid) .plain w' := by
  unfold generate at h
  split at h
  · cases h
    exact ⟨.stay _, trivial⟩
  · cases h

theorem awaitReply_refines {req : Request} {initial : Bool} {effectiveCmd : UInt32}
    (hpc : w.pc = .awaitReply req initial effectiveCmd)
    (h : awaitReply S w req initial effectiveCmd e = some w') :
    Refines T w (.awaitReply req initial effectiveCmd) .plain w' := by
  unfold awaitReply at h
  split at h
  · split at h
    · split at h
      · cases h
        exact conclude_refines rfl rfl _ _ _
      · split at h
        · cases h
          exact conclude_refines rfl rfl _ _ _
        · cases h
          exact refines_same hpc rfl trivial
    · cases h
    · cases h
  · cases h
    exact conclude_refines rfl rfl _ _ _
  · cases h

end MaintainConnection

structure Placed (w : World) : Prop where
  ready : Ready w.pc
  connected : Connected (link w)

theorem connectAndHandshake_refines (hstores : Stores C device.localKey A) {h : Handshake}
    (hw : Placed w) (hpc : w.pc = .connecting a h)
    (hnext : connectAndHandshake C S build device w a h e = some w') :
    Refines (terms C build device A) w (.connecting a h) .plain w' := by
  cases h with
  | resolve =>
    obtain rfl := onGo_eq_some hnext
    exact resolveAddress_refines
  | discover configAddr => exact discover_refines hnext
  | dial addr => exact dial_refines hnext
  | dialed =>
    obtain rfl := onGo_eq_some hnext
    exact dialed_refines
  | negotiate => exact negotiate_refines hnext
  | awaitResponse protocol nonce => exact awaitResponse_refines hnext
  | store protocol nonce sessionKey =>
    obtain rfl := onGo_eq_some hnext
    have hready := hw.ready
    have hconns := hw.connected
    rw [Connected, link, hpc] at hconns
    rw [hpc] at hready
    exact store_refines hstores hready (hconns trivial)

theorem taskNext_refines (hstores : Stores C device.localKey A) (hw : Placed w)
    (h : taskNext C S build device w e = some w') :
    Refines (terms C build device A) w w.pc (taskKind w e) w' := by
  have hready := hw.ready
  have hconns : (stageOf w.pc).Live → w.conns ≠ [] := hw.connected
  unfold taskNext at h
  cases hpc : w.pc <;> rw [hpc] at h hready hconns <;> dsimp only at h
  case sending p s =>
    have hlive : (stageOf (.sending p s)).Live := by cases p <;> trivial
    exact sendRawToStream_refines hpc hready (hconns hlive) h
  all_goals rw [taskKind, hpc]
  case jitter => exact jitter_refines h
  case waitForBackoff => exact waitForBackoff_refines hpc h
  case connecting => exact connectAndHandshake_refines hstores hw hpc h
  case onDemand => exact onDemand_refines h
  case generate => exact generate_refines h
  case awaitReply => exact awaitReply_refines hpc h
  case maintain => exact maintain_refines hpc h
  case tickDue => exact tickDue_refines h
  case exited => cases h
  case crashed => cases h
  all_goals obtain rfl := onGo_eq_some h
  case loopHead => exact loopHead_refines
  case tryHead => exact tryHead_refines
  case readBackoff => exact readBackoff_refines
  case markConnected => exact markConnected_refines
  case announceConnected => exact announceConnected_refines
  case connectFailed => exact handleConnectionError_refines _
  case announceFailed => exact announceFailed_refines _
  case checkPersist => exact checkPersist_refines _
  case scheduleRetry => exact scheduleRetry_refines _
  case beginRequest => exact ⟨.stay _, trivial⟩
  case readEffective => exact ⟨.stay _, trivial⟩
  case spawnReader => exact ⟨.stay _, trivial⟩
  case channelClosed => exact channelClosed_refines
  case tickPersist => exact tickPersist_refines
  case handleDisconnect => exact handleDisconnect_refines _
  case announceDisconnect => exact announceDisconnect_refines _
  case countFailure => exact countFailure_refines _
  case checkStopped => exact checkStopped_refines
  case exiting => exact exiting_refines

end Task

section System

variable {C : Crates} {S : Codec} {build : Build} {device : Device} {A : Bytes → Prop}
  {T : Terms} {w w' : World}

theorem dropTask_refines (h : dropTask w = some w') : Refines T w w.pc .plain w' := by
  obtain ⟨-, -, rfl⟩ := dropTask_eq_some h
  exact ⟨.quit _, trivial⟩

theorem absorb_same {r : Reader} (pc : Pc) (h : untouched r.device = untouched w.shared) :
    linkAt (w.absorb r) pc = linkAt w pc := linkAt_untouched w pc h

theorem readerNext_refines {e : ReaderEvent} (hready : Ready w.pc)
    (h : readerNext C S build device w e = some w') : Refines T w w.pc .plain w' := by
  cases readerNext_inv h with
  | packet firstByte stream reader readerError =>
    have hkeeps := processSocketData_keeps C S build device firstByte ⟨w.shared, stream, []⟩
    exact refines_same rfl (absorb_same w.pc hkeeps) hready
  | late firstByte stream =>
    have hkeeps := processSocketData_keeps C S build device firstByte ⟨w.shared, stream, []⟩
    exact refines_same rfl (absorb_same w.pc hkeeps) hready
  | ended ending readerError => exact ⟨.stay _, hready⟩
  | cancelled hcancelled => exact ⟨.stay _, hready⟩
  | gone => exact ⟨.stay _, hready⟩

theorem enqueue_refines {cmd : Command} (hready : Ready w.pc)
    (h : w.enqueue cmd = some w') : Refines T w w.pc .plain w' := by
  rcases enqueue_eq_some h with ⟨-, rfl⟩ | ⟨-, -, rfl⟩
  · exact ⟨.stay _, hready⟩
  · exact ⟨.stay _, hready⟩

theorem advanceCall_refines {i : Nat} (hready : Ready w.pc)
    (h : advanceCall w i = some w') : Refines T w w.pc .plain w' := by
  unfold advanceCall at h
  split at h
  · cases h
    exact ⟨.stay _, hready⟩
  · cases h
    exact ⟨.disconnect _, hready⟩
  · exact (enqueue_refines (w := { w with calls := w.calls.eraseIdx i }) hready h).of_link rfl
  · cases h

theorem userNext_refines {e : UserEvent} (hready : Ready w.pc) (h : userNext w e = some w') :
    Refines T w w.pc (kind w (.user e)) w' := by
  cases e with
  | submit req => exact enqueue_refines hready h
  | connectNow => exact enqueue_refines hready h
  | advance i => exact advanceCall_refines hready h
  | stop =>
    cases h
    exact ⟨.stop _, hready⟩
  | setVersion version =>
    cases h
    exact ⟨.configure _ version, hready⟩
  | _ =>
    cases h
    exact ⟨.stay _, hready⟩

/-- Every step of the system is a step of its link. -/
theorem next_refines {e : Event} (hstores : Stores C device.localKey A) (hw : Placed w)
    (h : next C S build device w e = some w') :
    Refines (terms C build device A) w w.pc (kind w e) w' := by
  cases e with
  | task e => exact taskNext_refines hstores hw h
  | drop => exact dropTask_refines h
  | reader e => exact readerNext_refines hw.ready h
  | user e => exact userNext_refines hw.ready h

theorem next_placed {e : Event} (hw : Placed w) (h : next C S build device w e = some w') :
    Placed w' := by
  have hstep : Refines (terms C build device fun _ => True) w w.pc (kind w e) w' :=
    next_refines (fun _ _ _ _ _ _ => trivial) hw h
  exact ⟨hstep.ready, step_preserves_connected hstep.step hw.connected⟩

end System

section Runs

variable {C : Crates} {S : Codec} {build : Build} {device : Device} {A : Bytes → Prop}
  {w w' : World} {es : List Event}

theorem placed_run (b : DeviceBuilder) : Placed b.run := ⟨trivial, nofun⟩

/-- What the steps of some kinds preserve of a link, the runs made of such steps preserve. -/
theorem run_preserves {P : Link → Prop} {Good : Kind → Prop} {allowed : World → Event → Prop}
    (hstores : Stores C device.localKey A)
    (hgood : ∀ w e w', next C S build device w e = some w' → allowed w e → P (link w) →
      Good (kind w e))
    (hP : ∀ l k l', LinkStep (terms C build device A) l k l' → Good k → P l → P l')
    (h : Execution (next C S build device) allowed w es w') (hw : Placed w) (hl : P (link w)) :
    Placed w' ∧ P (link w') := by
  refine h.invariant (P := fun w => Placed w ∧ P (link w)) ?_ ⟨hw, hl⟩
  rintro s e t hallowed hnext ⟨hs, hl⟩
  have hstep := (next_refines hstores hs hnext).step
  exact ⟨next_placed hs hnext, hP _ _ _ hstep (hgood s e t hnext hallowed hl) hl⟩

end Runs

end TaskRefinement
