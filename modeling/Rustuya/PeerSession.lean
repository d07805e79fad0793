import Rustuya.Peer
import Rustuya.Transcript
import Rustuya.SessionLifecycle
import Rustuya.WireIntegrity

/-!
# Client and device

The connection task and the device it talks to, side by side: on every connection the device
gets as far as the task believes, under the key the task uses, and what it reads from the
bytes is what the task wrote.
-/
namespace PeerSession

open CheckedExecution StatefulExecution ByteCodec Error Crypto Message Protocol Json
open SessionKey DeviceState StreamReader ConnectionTask TransitionSystem
open ConnectionLifecycle hiding Stage
open TaskRefinement (stageOf)
open TaskBranches Peer Transcript

section Reading

variable (C : Crates) (p : Party)

def Sized (f : Frame) : Prop := frameLength f.bytes = some f.bytes.length

/-- What the device has read of a connection, the latest frame first. Frames that have not been
written in full have not been read. -/
inductive Heard : List Frame → List Letter → Stage → Prop where
  | start : Heard [] [] p.start
  | unread {f : Frame} {fs : List Frame} {l : Letter} {ls : List Letter} {stage : Stage}
      (hsized : Sized f) (hpart : f.written < f.bytes.length) (h : Heard fs ls stage) :
      Heard (f :: fs) (l :: ls) stage
  | read {f : Frame} {fs : List Frame} {l : Letter} {ls : List Letter} {before after : Stage}
      (hsized : Sized f) (hwhole : f.written = f.bytes.length) (h : Heard fs ls before)
      (hreceive : p.receive C before f.bytes = some (after, l)) : Heard (f :: fs) (l :: ls) after

def SameKey (c : Connection) (stage : Stage) : Prop :=
  ∀ key, c.negotiated = some key → ∃ k : Key, k.val = key ∧ stage = .established k

def Settled (c : Connection) (letters : List Letter) : Prop :=
  ∃ stage, Heard C p c.frames letters stage ∧ SameKey c stage

/-- The device has derived the key that the client is about to store. -/
def Derives (protocol : TuyaProtocol) (nonce : U8Array 16) (sessionKey : Bytes) (stage : Stage) :
    Prop :=
  ∃ key : Key, stage = .established key ∧
    storedKey C protocol sessionKey nonce.val p.localKey.val = .ok key.val

variable (active : Bytes)

def Shares (stage : Stage) : Prop := ∃ key : Key, stage = .established key ∧ active = key.val

/-- How far the device has got when the task is at a place where it does not write. -/
def StageAt : Pc → Stage → Prop
  | .connecting _ .dialed, stage => stage = p.start
  | .connecting _ .negotiate, stage => stage = .awaitStart
  | .connecting _ (.awaitResponse _ nonce), stage => stage = .awaitFinish nonce.val
  | .connecting _ (.store protocol nonce sessionKey), stage =>
    Derives C p protocol nonce sessionKey stage
  | .sending (.negStart _ _ _) _, stage => stage = .awaitStart
  | .sending (.negFinish _ _ nonce _) _, stage => stage = .awaitFinish nonce.val
  | pc, stage => stageOf pc = .session → Shares active stage

/-- How far the device gets with the frame that is being written. -/
def StageAfter : Purpose → Stage → Stage → Prop
  | .negStart _ _ nonce, before, after => before = .awaitStart ∧ after = .awaitFinish nonce.val
  | .negFinish _ protocol nonce sessionKey, before, after =>
    before = .awaitFinish nonce.val ∧ Derives C p protocol nonce sessionKey after
  | .session _, before, after => before = after ∧ Shares active after

/-- The frame that is being written, and what the device will make of it. -/
def Underway (q : Purpose) (c : Connection) (letters : List Letter) : Prop :=
  ∃ f fs l ls before after, c.frames = f :: fs ∧ letters = l :: ls ∧ Sized f ∧
    f.written ≤ f.bytes.length ∧ Heard C p fs ls before ∧
    p.receive C before f.bytes = some (after, l) ∧ SameKey c before ∧
    StageAfter C p active q before after

/-- Client and device agree on the connection the task is using. -/
def Attended (c : Connection) (letters : List Letter) : Pc → Prop
  | .sending q .write => Underway C p active q c letters
  | pc => ∃ stage, Heard C p c.frames letters stage ∧ SameKey c stage ∧ StageAt C p active pc stage

end Reading

section Reached

variable {C : Crates} {p : Party} {active : Bytes} {c : Connection} {letters : List Letter}
  {q : Purpose} {before after stage : Stage}

theorem sameKey_after (h : SameKey c before) (hafter : StageAfter C p active q before after) :
    SameKey c after := by
  cases q with
  | negStart | negFinish =>
    -- No key has been stored before the end of the negotiation.
    intro key hkey
    obtain ⟨k, -, hstage⟩ := h key hkey
    rw [hafter.1] at hstage
    cases hstage
  | session sender =>
    rw [← hafter.1]
    exact h

theorem underway_read (h : Underway C p active q c letters) {f : Frame}
    (hf : c.frames.head? = some f) (hwhole : f.written = f.bytes.length) :
    ∃ before after, Heard C p c.frames letters after ∧ SameKey c after ∧
      StageAfter C p active q before after := by
  obtain ⟨g, fs, l, ls, before, after, hframes, hletters, hsized, -, hheard, hreceive, hkey,
    hafter⟩ := h
  rw [hframes] at hf
  cases hf
  rw [hframes, hletters]
  exact ⟨before, after, .read hsized hwhole hheard hreceive, sameKey_after hkey hafter, hafter⟩

theorem underway_unread (h : Underway C p active q c letters) {f : Frame}
    (hf : c.frames.head? = some f) (hpart : f.written < f.bytes.length) :
    ∃ before after, Heard C p c.frames letters before ∧ SameKey c before ∧
      StageAfter C p active q before after := by
  obtain ⟨g, fs, l, ls, before, after, hframes, hletters, hsized, -, hheard, -, hkey, hafter⟩ := h
  rw [hframes] at hf
  cases hf
  rw [hframes, hletters]
  exact ⟨before, after, .unread hsized hpart hheard, hkey, hafter⟩

theorem stageAt_session {pc : Pc} (h : StageAt C p active pc stage)
    (hsession : stageOf pc = .session) : Shares active stage := by
  unfold StageAt at h
  split at h
  next => cases hsession
  next => cases hsession
  next => cases hsession
  next => cases hsession
  next => cases hsession
  next => cases hsession
  next => exact h hsession

theorem stageAfter_session {s : Sending} (h : StageAfter C p active q before after)
    (hsession : stageOf (.sending q s) = .session) : before = after ∧ Shares active after := by
  cases q with
  | negStart | negFinish => cases hsession
  | session sender => exact h

theorem attended_reached {pc : Pc} (h : Attended C p active c letters pc) :
    ∃ stage, Heard C p c.frames letters stage ∧ SameKey c stage ∧
      (stageOf pc = .session → Shares active stage) := by
  unfold Attended at h
  split at h
  next q =>
    have hunderway := h
    obtain ⟨f, fs, l, ls, before, after, hframes, -, -, hle, -⟩ := hunderway
    have hf : c.frames.head? = some f := by rw [hframes]; rfl
    by_cases hwhole : f.written = f.bytes.length
    · obtain ⟨_, after, hheard, hkey, hafter⟩ := underway_read h hf hwhole
      exact ⟨after, hheard, hkey, fun hsession => (stageAfter_session hafter hsession).2⟩
    · obtain ⟨before, _, hheard, hkey, hafter⟩ :=
        underway_unread h hf (Nat.lt_of_le_of_ne hle hwhole)
      refine ⟨before, hheard, hkey, fun hsession => ?_⟩
      obtain ⟨rfl, hshares⟩ := stageAfter_session hafter hsession
      exact hshares
  · obtain ⟨stage, hheard, hkey, hstage⟩ := h
    exact ⟨stage, hheard, hkey, stageAt_session hstage⟩

theorem attended_settled {pc : Pc} (h : Attended C p active c letters pc) :
    Settled C p c letters := by
  obtain ⟨stage, hheard, hkey, -⟩ := attended_reached h
  exact ⟨stage, hheard, hkey⟩

end Reached

section Setting

/-- What both sides know: the version, which is not left to detection, the local key and the
nonce with which the device answers on each connection. -/
structure Setting where
  version : Version
  explicit : version ≠ .auto
  localKey : Key
  nonces : Nat → U8Array 16

variable (σ : Setting)

def Setting.protocol : TuyaProtocol := getProtocol σ.version .default

def Setting.party (n : Nat) : Party := ⟨σ.protocol, σ.localKey, σ.nonces n⟩

def Setting.facts (n : Nat) : Facts where
  protocol protocol := ∃ devType, protocol = getProtocol σ.version devType
  nonce remote := remote = (σ.nonces n).val

variable {C : Crates} {S : Codec} {build : Build} {device : Device} {σ} {n : Nat} {q : Purpose}
  {msg : TuyaMessage} {protocol : TuyaProtocol} {iv : U8Array 12} {cipher : TuyaCipher}
  {bytes : Bytes} {stage : Stage}

/-- The wrapper for the other device type changes nothing in a frame. -/
theorem openFrame_getProtocol (version : Version) (devType : DeviceType) (key : Key)
    (frame : Bytes) :
    openFrame C (getProtocol version devType) key frame
      = openFrame C (getProtocol version .default) key frame := by
  cases devType <;> rfl

theorem storedKey_getProtocol (version : Version) (devType : DeviceType)
    (sessionKey nonce localKey : Bytes) :
    storedKey C (getProtocol version devType) sessionKey nonce localKey
      = storedKey C (getProtocol version .default) sessionKey nonce localKey := by
  cases devType <;> rfl

theorem requiresSessionKey_getProtocol (version : Version) (devType : DeviceType) :
    (getProtocol version devType).requiresSessionKey
      = (getProtocol version .default).requiresSessionKey := by
  cases devType <;> rfl

theorem openFrame_posted (hB : C.BlockLaw) (hG : C.GcmLaw) (h64 : C.Base64Law)
    (hdrafted : Drafted C S device (σ.facts n) q msg) (hspoken : (σ.facts n).protocol protocol)
    (hfits : Fits msg.payload) (hbytes : packWith C build iv protocol cipher msg = .ok bytes) :
    openFrame C σ.protocol cipher.key bytes = some (letterOf msg) ∧
      frameLength bytes = some bytes.length := by
  obtain ⟨devType, rfl⟩ := hspoken
  have hopen := openFrame_packWith hB hG h64 ⟨hdrafted.retcode, hdrafted.iv⟩ hfits hbytes
  rw [openFrame_getProtocol] at hopen
  exact hopen

/-- The nonces in the other order give the device the key that the client will store. -/
theorem peerKey_derived (hG : C.GcmLaw) {nonce remote : U8Array 16} {sessionKey finishHmac : Bytes}
    (hfinal : finalizeSessionKey C nonce.val remote.val σ.localKey.val
      = .ok (sessionKey, finishHmac)) (devType : DeviceType) :
    finishHmac = (C.hmacSha256 σ.localKey.val remote.val).val ∧
      ∃ key : Key, peerKey C σ.protocol σ.localKey.val nonce.val remote.val = .ok key.val ∧
        storedKey C (getProtocol σ.version devType) sessionKey nonce.val σ.localKey.val
          = .ok key.val := by
  obtain ⟨shared, hlen, hours, htheirs⟩ :=
    finalizeSessionKey_swap (C := C) nonce remote σ.localKey.val
  rw [hours] at hfinal
  cases hfinal
  obtain ⟨key, hkey, hkeyLen⟩ := storedKey_ok hG σ.protocol hlen nonce σ.localKey
  refine ⟨rfl, ⟨key, hkeyLen⟩, ?_, ?_⟩
  · rw [peerKey, htheirs]
    exact hkey
  · rw [storedKey_getProtocol]
    exact hkey

theorem receive_posted (hB : C.BlockLaw) (hG : C.GcmLaw) (h64 : C.Base64Law)
    (hlocal : device.localKey = σ.localKey.val)
    (hplanned : Planned C device (σ.facts n) q) (hdrafted : Drafted C S device (σ.facts n) q msg)
    (hspoken : (σ.facts n).protocol protocol) (hfits : Fits msg.payload)
    (hbytes : packWith C build iv protocol cipher msg = .ok bytes)
    (hkey : q.attempt.isSome = true → cipher.key = σ.localKey)
    (hstage : StageAt C (σ.party n) cipher.key.val (.sending q (.encrypt msg protocol)) stage) :
    ∃ after, (σ.party n).receive C stage bytes = some (after, letterOf msg) ∧
      StageAfter C (σ.party n) cipher.key.val q stage after := by
  obtain ⟨hopen, -⟩ := openFrame_posted hB hG h64 hdrafted hspoken hfits hbytes
  have hdraft := hdrafted.draft
  cases q with
  | negStart a protocol nonce =>
    obtain rfl : stage = .awaitStart := hstage
    obtain ⟨hcmd, hpayload⟩ := hdraft
    rw [hkey rfl] at hopen
    refine ⟨.awaitFinish nonce.val, ?_, rfl, rfl⟩
    have hlen : msg.payload.length = 16 := by rw [hpayload]; exact nonce.property
    rw [Party.receive]
    change (openFrame C σ.protocol σ.localKey bytes).bind _ = _
    rw [hopen, Option.bind_some, if_pos ⟨hcmd, hlen⟩]
    exact congrArg (fun x => some (Stage.awaitFinish x, letterOf msg)) hpayload
  | negFinish a protocol nonce sessionKey =>
    obtain rfl : stage = .awaitFinish nonce.val := hstage
    obtain ⟨hcmd, remote, rfl, hfinal⟩ := hdraft
    obtain ⟨⟨devType, rfl⟩, -⟩ := hplanned
    rw [hlocal] at hfinal
    obtain ⟨hproof, key, hpeer, hstored⟩ := peerKey_derived hG hfinal devType
    rw [hkey rfl] at hopen
    exact ⟨.established key, Party.receive_finish C _ hopen hcmd hproof hpeer, rfl, key, rfl,
      hstored⟩
  | session sender =>
    obtain ⟨key, rfl, hactive⟩ := hstage rfl
    obtain rfl : cipher.key = key := Subtype.ext hactive
    refine ⟨.established cipher.key, ?_, rfl, cipher.key, rfl, rfl⟩
    rw [Party.receive]
    change (openFrame C σ.protocol cipher.key bytes).map _ = _
    rw [hopen]
    rfl

end Setting

section Ledger

def lettersOn (n : Nat) (ledger : List Post) : List Letter :=
  ((ledger.filter fun post => post.conn = n).map fun post => letterOf post.msg).reverse

theorem lettersOn_posted (n : Nat) (ledger : List Post) (q : Purpose) (msg : TuyaMessage) :
    lettersOn n (ledger ++ [⟨n, q, msg⟩]) = letterOf msg :: lettersOn n ledger := by
  simp [lettersOn]

theorem lettersOn_other {n : Nat} {posts : List Post} (h : ∀ post ∈ posts, post.conn ≠ n)
    (ledger : List Post) : lettersOn n (ledger ++ posts) = lettersOn n ledger := by
  have hnone : posts.filter (fun post => post.conn = n) = [] :=
    List.filter_eq_nil_iff.mpr fun post hpost hconn => h post hpost (of_decide_eq_true hconn)
  rw [lettersOn, List.filter_append, hnone, List.append_nil]
  rfl

theorem lettersOn_new {n : Nat} {ledger : List Post} (h : ∀ post ∈ ledger, post.conn ≤ n) :
    lettersOn (n + 1) ledger = [] := by
  have hnone : ledger.filter (fun post => post.conn = n + 1) = [] := by
    refine List.filter_eq_nil_iff.mpr fun post hpost hconn => ?_
    have hle := h post hpost
    have heq : post.conn = n + 1 := of_decide_eq_true hconn
    omega
  rw [lettersOn, hnone]
  rfl

variable (C : Crates) (σ : Setting)

def AllSettled (ledger : List Post) : List Connection → Prop
  | [] => True
  | c :: rest =>
    Settled C (σ.party (rest.length + 1)) c (lettersOn (rest.length + 1) ledger) ∧
      AllSettled ledger rest

variable {C σ}

theorem allSettled_posted {ledger posts : List Post} {conns : List Connection}
    (h : AllSettled C σ ledger conns) (hlater : ∀ post ∈ posts, conns.length < post.conn) :
    AllSettled C σ (ledger ++ posts) conns := by
  induction conns with
  | nil => trivial
  | cons c rest ih =>
    simp only [List.length_cons] at hlater
    refine ⟨?_, ih h.2 fun post hpost => Nat.lt_of_succ_lt (hlater post hpost)⟩
    rw [lettersOn_other fun post hpost => Nat.ne_of_gt (hlater post hpost)]
    exact h.1

end Ledger

section Invariant

variable (C : Crates) (S : Codec) (device : Device) (σ : Setting)

def unkeyed (pc : Pc) : Bool :=
  match stageOf pc with
  | .idle | .handshake => true
  | .session | .leaving | .over => false

/-- At these places the task is not using its latest connection. -/
def away (pc : Pc) : Bool :=
  match stageOf pc with
  | .idle | .leaving | .over => true
  | .handshake | .session => false

variable {C} in
theorem stageAt_away {pc : Pc} (h : away pc = true) (p : Party) (active : Bytes) (stage : Stage) :
    StageAt C p active pc stage := by
  unfold StageAt
  split
  next => cases h
  next => cases h
  next => cases h
  next => cases h
  next => cases h
  next => cases h
  next =>
    intro hsession
    rw [away, hsession] at h
    cases h

/-- Client and device get on. -/
structure Together (ledger : List Post) (w : World) : Prop where
  version : w.shared.version = σ.version
  noKey : unkeyed w.pc = true → w.shared.sessionKey = none
  drafting : Drafting C S device (σ.facts w.conns.length) w.pc
  placed : TaskRefinement.Placed w
  latest : ∀ c rest, w.conns = c :: rest → Attended C (σ.party (rest.length + 1))
    (w.shared.activeKey device) c (lettersOn (rest.length + 1) ledger) w.pc
  earlier : AllSettled C σ ledger w.conns.tail
  numbered : ∀ post ∈ ledger, post.conn ≤ w.conns.length
  drafted : ∀ post ∈ ledger, Drafted C S device (σ.facts post.conn) post.purpose post.msg

variable {C S device σ} {build : Build} {w w' : World} {t : TaskEvent} {ledger : List Post}

theorem attended_away {p : Party} {active : Bytes} {c : Connection} {letters : List Letter}
    {pc : Pc} (h : Settled C p c letters) (haway : away pc = true) :
    Attended C p active c letters pc := by
  obtain ⟨stage, hheard, hkey⟩ := h
  unfold Attended
  split
  next q => rcases q with _ | _ | _ <;> cases haway
  · exact ⟨stage, hheard, hkey, stageAt_away haway p active stage⟩

theorem length_onLatest (f : Connection → Connection) (conns : List Connection) :
    (onLatest f conns).length = conns.length := by
  cases conns <;> rfl

theorem tail_onLatest (f : Connection → Connection) (conns : List Connection) :
    (onLatest f conns).tail = conns.tail := by
  cases conns <;> rfl

theorem Together.settled (hw : Together C S device σ ledger w) : AllSettled C σ ledger w.conns := by
  cases hconns : w.conns with
  | nil => trivial
  | cons c rest =>
    have hearlier := hw.earlier
    rw [hconns] at hearlier
    exact ⟨attended_settled (hw.latest c rest hconns), hearlier⟩

theorem Together.updates (hw : Together C S device σ ledger w) {f : Connection → Connection}
    {posts : List Post} (hposts : ∀ post ∈ posts, post.conn = w.conns.length ∧ w.conns ≠ [] ∧
      Drafted C S device (σ.facts post.conn) post.purpose post.msg)
    (hversion : w'.shared.version = w.shared.version)
    (hnoKey : unkeyed w'.pc = true → w'.shared.sessionKey = none)
    (hconns : w'.conns = onLatest f w.conns)
    (hdrafting : Drafting C S device (σ.facts w.conns.length) w'.pc)
    (hplaced : TaskRefinement.Placed w')
    (hlatest : ∀ c, w.conns.head? = some c →
      Attended C (σ.party w.conns.length) (w.shared.activeKey device) c
        (lettersOn w.conns.length ledger) w.pc →
      Attended C (σ.party w.conns.length) (w'.shared.activeKey device) (f c)
        (lettersOn w.conns.length (ledger ++ posts)) w'.pc) :
    Together C S device σ (ledger ++ posts) w' where
  version := hversion.trans hw.version
  noKey := hnoKey
  drafting := by
    rw [hconns, length_onLatest]
    exact hdrafting
  placed := hplaced
  latest c' rest' hc' := by
    rw [hconns] at hc'
    cases hc : w.conns with
    | nil =>
      rw [hc] at hc'
      cases hc'
    | cons c rest =>
      rw [hc] at hc'
      cases hc'
      have hattended := hw.latest c rest' hc
      rw [hc] at hlatest
      exact hlatest c rfl hattended
  earlier := by
    rw [hconns, tail_onLatest]
    refine allSettled_posted hw.earlier fun post hpost => ?_
    obtain ⟨hconn, hne, -⟩ := hposts post hpost
    rw [hconn, List.length_tail]
    have hpos := List.length_pos_iff.mpr hne
    omega
  numbered post hpost := by
    rw [hconns, length_onLatest]
    rcases List.mem_append.mp hpost with hold | hnew
    · exact hw.numbered post hold
    · exact Nat.le_of_eq (hposts post hnew).1
  drafted post hpost :=
    (List.mem_append.mp hpost).elim (hw.drafted post) fun hnew => (hposts post hnew).2.2

theorem Together.quiet (hw : Together C S device σ ledger w)
    (hversion : w'.shared.version = w.shared.version)
    (hkey : w'.shared.sessionKey = w.shared.sessionKey) (hconns : w'.conns = w.conns)
    (hdrafting : Drafting C S device (σ.facts w.conns.length) w'.pc)
    (hplaced : TaskRefinement.Placed w')
    (hunkeyed : unkeyed w'.pc = true → unkeyed w.pc = true)
    (hattended : ∀ n c letters, w.current = c.frames.head? →
      Attended C (σ.party n) (w.shared.activeKey device) c letters w.pc →
      Attended C (σ.party n) (w.shared.activeKey device) c letters w'.pc) :
    Together C S device σ ledger w' := by
  have hactive : w'.shared.activeKey device = w.shared.activeKey device := by
    rw [State.activeKey, hkey, State.activeKey]
  have hsame : onLatest id w.conns = w.conns := by cases w.conns <;> rfl
  rw [← List.append_nil ledger]
  refine hw.updates (f := id) (fun _ h => by cases h) hversion
    (fun h => hkey.trans (hw.noKey (hunkeyed h))) (hconns.trans hsame.symm) hdrafting hplaced ?_
  intro c hc h
  have hcurrent : w.current = c.frames.head? := by rw [World.current, hc]; rfl
  rw [hactive, List.append_nil]
  exact hattended _ c _ hcurrent h

theorem Together.leaves (hw : Together C S device σ ledger w)
    (hversion : w'.shared.version = w.shared.version)
    (hnoKey : unkeyed w'.pc = true → w'.shared.sessionKey = none) (hconns : w'.conns = w.conns)
    (hdrafting : Drafting C S device (σ.facts w.conns.length) w'.pc)
    (hplaced : TaskRefinement.Placed w') (haway : away w'.pc = true) :
    Together C S device σ ledger w' where
  version := hversion.trans hw.version
  noKey := hnoKey
  drafting := by rw [hconns]; exact hdrafting
  placed := hplaced
  latest c rest hc :=
    attended_away (attended_settled (hw.latest c rest (hconns.symm.trans hc))) haway
  earlier := by rw [hconns]; exact hw.earlier
  numbered := by rw [hconns]; exact hw.numbered
  drafted := hw.drafted

theorem unkeyed_attempt {q : Purpose} {a : Attempt} (hq : q.attempt = some a) (s : Sending) :
    unkeyed (.sending q s) = true := by
  cases q <;> cases hq <;> rfl

theorem requires_eq (hw : Together C S device σ ledger w) :
    w.shared.protocol.requiresSessionKey = σ.protocol.requiresSessionKey := by
  rw [State.protocol, hw.version, requiresSessionKey_getProtocol]
  rfl

theorem activeKey_unkeyed (hlocal : device.localKey = σ.localKey.val)
    (hw : Together C S device σ ledger w) (hpc : unkeyed w.pc = true) :
    w.shared.activeKey device = σ.localKey.val := by
  rw [State.activeKey, hw.noKey hpc]
  exact hlocal

theorem Together.written (hw : Together C S device σ ledger w) {q : Purpose} {f : Frame} {pc : Pc}
    (hpc : w.pc = .sending q .write) (hcurrent : w.current = some f)
    (hwhole : f.written = f.bytes.length)
    (hdrafting : Drafting C S device (σ.facts w.conns.length) pc)
    (hplaced : TaskRefinement.Placed (w.goto pc))
    (hunkeyed : unkeyed pc = true → unkeyed w.pc = true)
    (hwrite : ∀ q, pc ≠ .sending q .write)
    (hstage : ∀ n before after,
      StageAfter C (σ.party n) (w.shared.activeKey device) q before after →
      StageAt C (σ.party n) (w.shared.activeKey device) pc after) :
    Together C S device σ ledger (w.goto pc) := by
  refine hw.quiet rfl rfl rfl hdrafting hplaced hunkeyed ?_
  rw [hpc]
  intro n c letters hc hunderway
  obtain ⟨before, after, hheard, hsame, hafter⟩ :=
    underway_read hunderway (hc.symm.trans hcurrent) hwhole
  change Attended C _ _ c letters pc
  unfold Attended
  split
  next q => exact absurd rfl (hwrite q)
  · exact ⟨after, hheard, hsame, hstage n before after hafter⟩

theorem Together.concludes (hw : Together C S device σ ledger w) {s : State}
    (hversion : s.version = w.shared.version) (hkey : s.sessionKey = w.shared.sessionKey)
    {req : Request} {initial : Bool} {answer : Answer}
    (hplaced : TaskRefinement.Placed (World.conclude { w with shared := s } req initial answer))
    (hattended : ∀ n c letters, w.current = c.frames.head? →
      Attended C (σ.party n) (w.shared.activeKey device) c letters w.pc →
      ∃ stage, Heard C (σ.party n) c.frames letters stage ∧ SameKey c stage ∧
        Shares (w.shared.activeKey device) stage) :
    Together C S device σ ledger (World.conclude { w with shared := s } req initial answer) := by
  refine hw.quiet hversion hkey rfl (drafting_conclude req initial answer) hplaced ?_ ?_
  · intro h
    cases initial <;> cases h
  · intro n c letters hcurrent h
    obtain ⟨stage, hheard, hsame, hshares⟩ := hattended n c letters hcurrent h
    cases initial <;> exact ⟨stage, hheard, hsame, fun _ => hshares⟩

theorem Together.answers (hw : Together C S device σ ledger w) {req : Request} {initial : Bool}
    {effectiveCmd : UInt32} (hpc : w.pc = .awaitReply req initial effectiveCmd) {answer : Answer}
    (hplaced : TaskRefinement.Placed (w.conclude req initial answer)) :
    Together C S device σ ledger (w.conclude req initial answer) := by
  refine hw.concludes rfl rfl hplaced ?_
  rw [hpc]
  rintro n c letters - ⟨stage, hheard, hsame, hstage⟩
  exact ⟨stage, hheard, hsame, hstage rfl⟩

theorem frameOf_ok {protocol : TuyaProtocol} {msg : TuyaMessage} {iv : U8Array 12}
    {cipher : TuyaCipher} {bytes : Bytes}
    (hcipher : TuyaCipher.new (w.shared.activeKey device) = .ok cipher)
    (hbytes : packWith C build iv protocol cipher msg = .ok bytes) :
    RequestRefinement.frameOf C build device w.shared protocol msg iv = .ok bytes := by
  rw [RequestRefinement.frameOf, run_getCipher]
  dsimp only
  rw [hcipher]
  exact hbytes

theorem Together.dials (hw : Together C S device σ ledger w) {a : Attempt} {addr : String}
    (hpc : w.pc = .connecting a (.dial addr))
    (hplaced : TaskRefinement.Placed { w with
      conns := .fresh :: w.conns, pc := .connecting a .dialed }) :
    Together C S device σ ledger { w with
      conns := .fresh :: w.conns, pc := .connecting a .dialed } where
  version := hw.version
  noKey _ := hw.noKey (by rw [hpc]; rfl)
  drafting := trivial
  placed := hplaced
  latest c rest hc := by
    cases hc
    rw [lettersOn_new hw.numbered]
    exact ⟨_, .start, fun _ hkey => absurd hkey (Option.some_ne_none _).symm, rfl⟩
  earlier := hw.settled
  numbered post hpost := Nat.le_succ_of_le (hw.numbered post hpost)
  drafted := hw.drafted

theorem Together.stores (hw : Together C S device σ ledger w)
    (hlocal : device.localKey = σ.localKey.val) {a : Attempt} {protocol : TuyaProtocol}
    {nonce : U8Array 16} {sessionKey key : Bytes}
    (hpc : w.pc = .connecting a (.store protocol nonce sessionKey))
    (hkey : storedKey C protocol sessionKey nonce.val device.localKey = .ok key)
    (hplaced : TaskRefinement.Placed { w.lock fun s => { s with sessionKey := some key } with
      conns := onLatest (agreed key) w.conns, pc := .markConnected a }) :
    Together C S device σ ledger { w.lock fun s => { s with sessionKey := some key } with
      conns := onLatest (agreed key) w.conns, pc := .markConnected a } := by
  rw [← List.append_nil ledger]
  refine hw.updates (fun _ h => by cases h) rfl (fun h => absurd h Bool.false_ne_true) rfl trivial
    hplaced ?_
  intro c _ hattended
  rw [hpc] at hattended
  obtain ⟨stage, hheard, -, k, rfl, hstored⟩ := hattended
  rw [hlocal] at hkey
  obtain rfl : key = k.val := Outcome.ok.inj (hkey.symm.trans hstored)
  rw [List.append_nil]
  refine ⟨_, hheard, ?_, fun _ => ⟨k, rfl, rfl⟩⟩
  intro key' hkey'
  cases hkey'
  exact ⟨k, rfl, rfl⟩

theorem underway_wrote {p : Party} {active : Bytes} {q : Purpose} {c : Connection}
    {letters : List Letter} (h : Underway C p active q c letters) {f : Frame}
    (hf : c.frames.head? = some f) {n : Nat} (hfits : f.written + n ≤ f.bytes.length) :
    Underway C p active q (wrote n c) letters := by
  obtain ⟨g, fs, l, ls, before, after, hframes, hletters, hsized, -, hheard, hreceive, hsame,
    hafter⟩ := h
  rw [hframes] at hf
  cases hf
  have hwrote : wrote n c = { c with frames := { f with written := f.written + n } :: fs } := by
    rw [wrote, hframes]
  rw [hwrote]
  exact ⟨_, fs, l, ls, before, after, rfl, hletters, hsized, hfits, hheard, hreceive, hsame, hafter⟩

theorem Together.writes (hw : Together C S device σ ledger w) {q : Purpose} {f : Frame} {n : Nat}
    (hpc : w.pc = .sending q .write) (hcurrent : w.current = some f)
    (hfits : f.written + n ≤ f.bytes.length)
    (hplaced : TaskRefinement.Placed { w with conns := onLatest (wrote n) w.conns }) :
    Together C S device σ ledger { w with conns := onLatest (wrote n) w.conns } := by
  rw [← List.append_nil ledger]
  refine hw.updates (fun _ h => by cases h) rfl hw.noKey rfl hw.drafting hplaced ?_
  intro c hc hattended
  have hf : c.frames.head? = some f := by
    rw [← hcurrent, World.current, hc]
    rfl
  change Attended C _ _ _ _ w.pc
  rw [hpc] at hattended ⊢
  rw [List.append_nil]
  exact underway_wrote hattended hf hfits

theorem Together.packs (hB : C.BlockLaw) (hG : C.GcmLaw) (h64 : C.Base64Law)
    (hlocal : device.localKey = σ.localKey.val) (hw : Together C S device σ ledger w)
    {q : Purpose} {msg : TuyaMessage} {protocol : TuyaProtocol} {iv : U8Array 12}
    {cipher : TuyaCipher} {bytes : Bytes} (hpc : w.pc = .sending q (.encrypt msg protocol))
    (hcipher : TuyaCipher.new (w.shared.activeKey device) = .ok cipher)
    (hbytes : packWith C build iv protocol cipher msg = .ok bytes) (hfits : Fits msg.payload)
    (hplaced : TaskRefinement.Placed { w with
      shared := { w.shared with cipher := some cipher }
      conns := onLatest (framed
        ⟨q.attempt.isSome, msg.cmd, msg.seqno, cipher.key.val, bytes, 0⟩) w.conns
      pc := .sending q .write }) :
    Together C S device σ (ledger ++ [⟨w.conns.length, q, msg⟩]) { w with
      shared := { w.shared with cipher := some cipher }
      conns := onLatest (framed
        ⟨q.attempt.isSome, msg.cmd, msg.seqno, cipher.key.val, bytes, 0⟩) w.conns
      pc := .sending q .write } := by
  have hactive := TaskRefinement.new_eq_ok hcipher
  have hdrafting := hw.drafting
  rw [hpc] at hdrafting
  obtain ⟨hplanned, hdrafted, hspoken⟩ := hdrafting
  have hlive : w.conns ≠ [] := by
    refine hw.placed.connected ?_
    change (stageOf w.pc).Live
    rw [hpc]
    cases q <;> trivial
  refine hw.updates ?_ rfl ?_ rfl ⟨hplanned, trivial⟩ hplaced ?_
  · intro post hpost
    cases List.mem_singleton.mp hpost
    exact ⟨rfl, hlive, hdrafted⟩
  · intro h
    refine hw.noKey ?_
    rw [hpc]
    cases q <;> exact h
  · intro c _ hattended
    rw [hpc] at hattended
    obtain ⟨stage, hheard, hsame, hstage⟩ := hattended
    have hkey : q.attempt.isSome = true → cipher.key = σ.localKey := by
      intro hattempt
      obtain ⟨a, ha⟩ := Option.isSome_iff_exists.mp hattempt
      have hunkeyed : unkeyed w.pc = true := by
        rw [hpc]
        exact unkeyed_attempt ha _
      exact Subtype.ext (hactive.trans (activeKey_unkeyed hlocal hw hunkeyed))
    rw [← hactive] at hstage
    obtain ⟨after, hreceive, hafter⟩ := receive_posted hB hG h64 hlocal hplanned hdrafted hspoken
      hfits hbytes hkey hstage
    obtain ⟨-, hsized⟩ := openFrame_posted hB hG h64 hdrafted hspoken hfits hbytes
    rw [lettersOn_posted]
    rw [hactive] at hafter
    exact ⟨_, _, _, _, stage, after, rfl, rfl, hsized, Nat.zero_le _, hheard, hreceive, hsame,
      hafter⟩

theorem branch_quiet (h : Branch C S build device w t w')
    (hlocal : device.localKey = σ.localKey.val) (hw : Together C S device σ ledger w)
    (hdrafting : Drafting C S device (σ.facts w.conns.length) w'.pc)
    (hplaced : TaskRefinement.Placed w') (hposted : posted C build device w (.task t) = []) :
    Together C S device σ ledger w' := by
  cases h
  case negotiates hpc hkey =>
    rw [requires_eq hw] at hkey
    refine hw.quiet rfl rfl rfl hdrafting hplaced (fun _ => by rw [hpc]; rfl) ?_
    rw [hpc]
    rintro n c letters - ⟨stage, hheard, hsame, hstage⟩
    refine ⟨stage, hheard, hsame, hstage.trans ?_⟩
    exact if_pos hkey
  case proceeds hpc hkey =>
    rw [requires_eq hw] at hkey
    have hactive := activeKey_unkeyed hlocal hw (by rw [hpc]; rfl)
    refine hw.quiet rfl rfl rfl hdrafting hplaced (fun h => absurd h Bool.false_ne_true) ?_
    rw [hpc, hactive]
    rintro n c letters - ⟨stage, hheard, hsame, hstage⟩
    refine ⟨stage, hheard, hsame, fun _ => ⟨σ.localKey, hstage.trans ?_, rfl⟩⟩
    refine if_neg ?_
    rw [show (σ.party n).protocol = σ.protocol from rfl, hkey]
    exact Bool.false_ne_true
  case drawsNonce hpc =>
    refine hw.quiet rfl rfl rfl hdrafting hplaced (fun _ => by rw [hpc]; rfl) ?_
    rw [hpc]
    rintro n c letters - ⟨stage, hheard, hsame, hstage⟩
    exact ⟨stage, hheard, hsame, hstage⟩
  case responds hpc hread _ _ =>
    obtain ⟨hversion, hkey, -⟩ := read_sameSession hread
    refine hw.quiet hversion hkey rfl hdrafting hplaced (fun _ => by rw [hpc]; rfl) ?_
    rw [hpc]
    rintro n c letters - ⟨stage, hheard, hsame, hstage⟩
    exact ⟨stage, hheard, hsame, hstage⟩
  case builds q cmd payload hpc _ =>
    refine hw.quiet rfl rfl rfl hdrafting hplaced (fun h => by rw [hpc]; cases q <;> exact h) ?_
    rw [hpc]
    rintro n c letters - ⟨stage, hheard, hsame, hstage⟩
    refine ⟨stage, hheard, hsame, ?_⟩
    cases q <;> exact hstage
  case readsSettings q msg hpc =>
    refine hw.quiet rfl rfl rfl hdrafting hplaced (fun h => by rw [hpc]; cases q <;> exact h) ?_
    rw [hpc]
    rintro n c letters - ⟨stage, hheard, hsame, hstage⟩
    refine ⟨stage, hheard, hsame, ?_⟩
    cases q <;> exact hstage
  case packs hpc hcipher hbytes =>
    -- A frame that has been made is in the transcript.
    simp only [posted, hpc, frameOf_ok hcipher hbytes] at hposted
    cases hposted
  case dials hpc => exact hw.dials hpc hplaced
  case stores hpc hkey => exact hw.stores hlocal hpc hkey hplaced
  case writes hpc hcurrent hfits => exact hw.writes hpc hcurrent hfits hplaced
  case startWritten hpc hcurrent hwhole =>
    exact hw.written hpc hcurrent hwhole hdrafting hplaced (fun _ => by rw [hpc]; rfl)
      (fun _ h => by cases h) fun _ _ _ h => h.2
  case finishWritten hpc hcurrent hwhole =>
    exact hw.written hpc hcurrent hwhole hdrafting hplaced (fun _ => by rw [hpc]; rfl)
      (fun _ h => by cases h) fun _ _ _ h => h.2
  case requestWritten hpc hcurrent hwhole _ =>
    exact hw.written hpc hcurrent hwhole hdrafting hplaced
      (fun h => absurd h Bool.false_ne_true) (fun _ h => by cases h) fun _ _ _ h _ => h.2
  case heartbeatWritten hpc hcurrent hwhole =>
    exact hw.written hpc hcurrent hwhole hdrafting hplaced
      (fun h => absurd h Bool.false_ne_true) (fun _ h => by cases h) fun _ _ _ h _ => h.2
  case requestDone f hpc hcurrent hwhole _ =>
    refine hw.concludes rfl rfl hplaced ?_
    rw [hpc]
    intro n c letters hc hunderway
    obtain ⟨before, after, hheard, hsame, -, hafter⟩ :=
      underway_read hunderway (hc.symm.trans hcurrent) hwhole
    exact ⟨after, hheard, hsame, hafter⟩
  case requestUnsent hfail =>
    obtain ⟨hversion, hkey, -⟩ := hfail.sameSession
    refine hw.concludes hversion hkey hplaced ?_
    cases hfail with
    | packing _ _ _ _ hpc =>
      rw [hpc]
      rintro n c letters - ⟨stage, hheard, hsame, hstage⟩
      exact ⟨stage, hheard, hsame, hstage rfl⟩
    | writing f failure hpc hcurrent hpart =>
      rw [hpc]
      intro n c letters hc hunderway
      obtain ⟨before, after, hheard, hsame, rfl, hafter⟩ :=
        underway_unread hunderway (hc.symm.trans hcurrent) hpart
      exact ⟨_, hheard, hsame, hafter⟩
  case lags hpc _ _ => exact hw.answers hpc hplaced
  case replies hpc _ _ => exact hw.answers hpc hplaced
  case replyTimesOut hpc => exact hw.answers hpc hplaced
  case responseRefused hpc =>
    obtain ⟨hversion, hkey, -⟩ := read_sameSession (w := w) rfl
    refine hw.leaves hversion (fun _ => hkey.trans (hw.noKey ?_)) rfl hdrafting hplaced rfl
    rw [hpc]
    rfl
  case responseCrashes hpc =>
    obtain ⟨hversion, -, -⟩ := read_sameSession (w := w) rfl
    exact hw.leaves hversion (fun h => absurd h Bool.false_ne_true) rfl hdrafting hplaced rfl
  case discovers hpc =>
    refine hw.leaves ?_ (fun _ => hw.noKey ?_) rfl hdrafting hplaced rfl
    · refine if_neg ?_
      rw [hw.version]
      exact σ.explicit
    · rw [hpc]
      rfl
  case disconnectSilent err hpc _ =>
    refine hw.leaves rfl (fun _ => hw.noKey ?_) rfl hdrafting hplaced ?_
    · rw [hpc]
      rfl
    · cases err <;> rfl
  case disconnectTold err hpc _ =>
    refine hw.leaves rfl (fun _ => hw.noKey ?_) rfl hdrafting hplaced ?_
    · rw [hpc]
      rfl
    · cases err <;> rfl
  case disconnects => exact hw.leaves rfl (fun _ => rfl) rfl hdrafting hplaced rfl
  case negotiationUnsent q a _ _ hp hfail =>
    obtain ⟨hversion, hkey, -⟩ := hfail.sameSession
    refine hw.leaves hversion (fun _ => hkey.trans (hw.noKey ?_)) rfl hdrafting hplaced rfl
    cases hfail with
    | packing _ _ _ _ hpc => rw [hpc]; exact unkeyed_attempt hp _
    | writing f failure hpc => rw [hpc]; exact unkeyed_attempt hp _
  case heartbeatUnsent hfail =>
    obtain ⟨hversion, -, -⟩ := hfail.sameSession
    exact hw.leaves hversion (fun h => absurd h Bool.false_ne_true) rfl hdrafting hplaced rfl
  case packCrashes =>
    obtain ⟨hversion, -, -⟩ :=
      cached_sameSession w.shared (TuyaCipher.new (w.shared.activeKey device))
    exact hw.leaves hversion (fun h => absurd h Bool.false_ne_true) rfl hdrafting hplaced rfl
  case writeElapsed hpc hp =>
    refine hw.leaves rfl (fun _ => hw.noKey ?_) rfl hdrafting hplaced rfl
    rw [hpc]
    exact unkeyed_attempt hp _
  case backoffRejects hpc _ =>
    refine hw.leaves rfl (fun h => hw.noKey h) rfl hdrafting hplaced ?_
    change away w.pc = true
    rw [hpc]
    rfl
  case passes => exact hw.quiet rfl rfl rfl hdrafting hplaced id fun _ _ _ _ h => h
  case serveConnectNow => exact hw.quiet rfl rfl rfl hdrafting hplaced id fun _ _ _ _ h => h
  -- What is left goes on with a connection under the same key, or has none in use.
  all_goals first
    | exact hw.leaves rfl (fun h => absurd h Bool.false_ne_true) rfl hdrafting hplaced rfl
    | (refine hw.leaves rfl (fun _ => hw.noKey ?_) rfl hdrafting hplaced rfl
       rw [‹w.pc = _›]
       rfl)
    | (refine hw.quiet rfl rfl rfl hdrafting hplaced (fun h => absurd h Bool.false_ne_true) ?_
       rw [‹w.pc = _›]
       rintro n c letters - ⟨stage, hheard, hsame, hstage⟩
       exact ⟨stage, hheard, hsame, fun _ => hstage rfl⟩)

theorem branch_together (hB : C.BlockLaw) (hG : C.GcmLaw) (h64 : C.Base64Law)
    (hlocal : device.localKey = σ.localKey.val) (h : Branch C S build device w t w')
    (hw : Together C S device σ ledger w)
    (hdrafting : Drafting C S device (σ.facts w.conns.length) w'.pc)
    (hplaced : TaskRefinement.Placed w')
    (hfits : ∀ q msg protocol, w.pc = .sending q (.encrypt msg protocol) → Fits msg.payload) :
    Together C S device σ (ledger ++ posted C build device w (.task t)) w' := by
  rcases posted_cases C build device w (.task t) with
    hnone | ⟨iv, q, msg, protocol, ht, hpc, hsome⟩
  · rw [hnone, List.append_nil]
    exact branch_quiet h hlocal hw hdrafting hplaced hnone
  · cases ht
    obtain ⟨bytes, hframe⟩ : ∃ bytes,
        RequestRefinement.frameOf C build device w.shared protocol msg iv = .ok bytes := by
      simp only [posted, hpc] at hsome
      split at hsome
      next bytes hframe => exact ⟨bytes, hframe⟩
      · cases hsome
      · cases hsome
    rw [hsome]
    -- No other branch is taken when a frame has been made.
    cases h with
    | packs q' msg' protocol' _ cipher bytes' hat hcipher hbytes =>
      rw [hpc] at hat
      cases hat
      exact hw.packs hB hG h64 hlocal hpc hcipher hbytes (hfits q msg protocol hpc) hplaced
    | packCrashes _ _ _ _ hat hpanic =>
      rw [hpc] at hat
      cases hat
      rw [hframe] at hpanic
      cases hpanic
    | negotiationUnsent _ _ _ _ _ _ hfail | requestUnsent _ _ _ _ _ hfail
    | heartbeatUnsent _ _ _ hfail =>
      cases hfail with
      | packing _ _ _ _ hat herr =>
        rw [hpc] at hat
        cases hat
        rw [hframe] at herr
        cases herr
    | dialFails _ _ _ _ hat =>
      rw [hpc] at hat
      cases hat
    | unanswered _ _ _ _ _ hat =>
      rw [hpc] at hat
      cases hat

end Invariant

section Runs

/-- The message that is being packed is not too long for a frame. -/
def fitsAt : Pc → Bool
  | .sending _ (.encrypt msg _) => decide (Fits msg.payload)
  | _ => true

/-- The user leaves the version alone, no write of a request ends inside its frame, no message
is too long for a frame, and the device answers a negotiation with its own nonce. -/
def undisturbed (C : Crates) (S : Codec) (build : Build) (device : Device) (σ : Setting) (w : World)
    (e : Event) : Bool :=
  !SessionLifecycle.setsVersion e && !WireIntegrity.cutsRequest w e && fitsAt w.pc &&
    (remoteNonce C S build device w e).all fun remote =>
      decide (remote = (σ.nonces w.conns.length).val)

structure Undisturbed (C : Crates) (S : Codec) (build : Build) (device : Device) (σ : Setting)
    (w : World) (e : Event) : Prop where
  version : SessionLifecycle.setsVersion e = false
  whole : WireIntegrity.cutsRequest w e = false
  fits : fitsAt w.pc = true
  nonce : ∀ remote, remoteNonce C S build device w e = some remote →
    remote = (σ.nonces w.conns.length).val

variable {C : Crates} {S : Codec} {build : Build} {device : Device} {σ : Setting} {w w' : World}
  {e : Event} {es : List Event} {ledger : List Post}

theorem undisturbed_iff :
    undisturbed C S build device σ w e = true ↔ Undisturbed C S build device σ w e := by
  simp only [undisturbed, Bool.and_eq_true, Bool.not_eq_true', Option.all_eq_true,
    decide_eq_true_eq]
  exact ⟨fun ⟨⟨⟨hv, hw⟩, hf⟩, hn⟩ => ⟨hv, hw, hf, hn⟩, fun ⟨hv, hw, hf, hn⟩ => ⟨⟨⟨hv, hw⟩, hf⟩, hn⟩⟩

theorem Together.shares (hw : Together C S device σ ledger w)
    (hversion : w'.shared.version = w.shared.version)
    (hkey : w'.shared.sessionKey = w.shared.sessionKey) (hconns : w'.conns = w.conns)
    (hpc : w'.pc = w.pc) (hplaced : TaskRefinement.Placed w') :
    Together C S device σ ledger w' := by
  refine hw.quiet hversion hkey hconns ?_ hplaced ?_ ?_
  · rw [hpc]
    exact hw.drafting
  · rw [hpc]
    exact id
  · rw [hpc]
    exact fun _ _ _ _ h => h

theorem reader_together {r : ReaderEvent} (h : ReaderStep C S build device w r w')
    (hw : Together C S device σ ledger w) (hplaced : TaskRefinement.Placed w') :
    Together C S device σ ledger w' := by
  cases h with
  | packet firstByte stream | late firstByte stream =>
    obtain ⟨hversion, hkey, -⟩ := packet_sameSession (C := C) (S := S) w firstByte stream
    exact hw.shares hversion hkey rfl rfl hplaced
  | ended | cancelled | gone => exact hw.shares rfl rfl rfl rfl hplaced

theorem user_together {u : UserEvent} (h : Call w u w')
    (hversion : SessionLifecycle.setsVersion (.user u) = false)
    (hw : Together C S device σ ledger w) (hplaced : TaskRefinement.Placed w') :
    Together C S device σ ledger w' := by
  cases h with
  | sets _ f hf =>
    cases u with
    | setVersion => cases hversion
    | setPersist | setDevType | setAddress =>
      cases hf
      exact hw.shares rfl rfl rfl rfl hplaced
    | _ => cases hf
  | _ => exact hw.shares rfl rfl rfl rfl hplaced

theorem next_together (hB : C.BlockLaw) (hG : C.GcmLaw) (h64 : C.Base64Law)
    (hlocal : device.localKey = σ.localKey.val) (h : next C S build device w e = some w')
    (hallowed : Undisturbed C S build device σ w e) (hw : Together C S device σ ledger w) :
    Together C S device σ (ledger ++ posted C build device w e) w' := by
  have hplaced := TaskRefinement.next_placed hw.placed h
  have hdrafting := next_drafting (F := σ.facts w.conns.length) h
    (fun devType => ⟨devType, by rw [hw.version]⟩) hallowed.nonce hw.drafting
  cases next_move h with
  | task hbranch =>
    refine branch_together hB hG h64 hlocal hbranch hw hdrafting hplaced ?_
    intro q msg protocol hpc
    have hfits := hallowed.fits
    rw [hpc] at hfits
    exact of_decide_eq_true hfits
  | drop =>
    rw [posted, List.append_nil]
    · exact hw.leaves rfl (fun h => absurd h Bool.false_ne_true) rfl hdrafting hplaced rfl
    · exact fun _ h => by cases h
  | reader hreader =>
    rw [posted, List.append_nil]
    · exact reader_together hreader hw hplaced
    · exact fun _ h => by cases h
  | user hcall =>
    rw [posted, List.append_nil]
    · exact user_together hcall hallowed.version hw hplaced
    · exact fun _ h => by cases h

theorem together_run (b : DeviceBuilder) (hversion : b.version = σ.version) :
    Together C S device σ [] b.run where
  version := hversion
  noKey _ := rfl
  drafting := trivial
  placed := TaskRefinement.placed_run b
  latest _ _ hc := by cases hc
  earlier := trivial
  numbered _ h := by cases h
  drafted _ h := by cases h

theorem run_together (hB : C.BlockLaw) (hG : C.GcmLaw) (h64 : C.Base64Law) (b : DeviceBuilder)
    (hversion : b.version = σ.version) (hlocal : b.localKey = σ.localKey.val)
    (h : Execution (next C S build b.device) (Undisturbed C S build b.device σ) b.run es w) :
    Together C S b.device σ (harvest (posted C build b.device) (next C S build b.device) b.run es)
      w := by
  have hrun := h.records (P := Together C S b.device σ)
    (fun ledger v e v' hallowed hnext hv =>
      next_together hB hG h64 hlocal hnext hallowed hv) (together_run b hversion)
  rw [List.nil_append] at hrun
  exact hrun

end Runs

section Bytes

def finished : List Frame → List Bytes
  | [] => []
  | f :: fs => finished fs ++ if f.written = f.bytes.length then [f.bytes] else []

def received : List Frame → List Letter → List Letter
  | f :: fs, l :: ls => received fs ls ++ if f.written = f.bytes.length then [l] else []
  | _, _ => []

variable {C : Crates} {p : Party} {frames : List Frame} {letters : List Letter} {stage : Stage}

theorem heard_length (h : Heard C p frames letters stage) : frames.length = letters.length := by
  induction h with
  | start => rfl
  | unread _ _ _ ih | read _ _ _ _ ih => rw [List.length_cons, List.length_cons, ih]

theorem heard_sized (h : Heard C p frames letters stage) : ∀ f ∈ frames, Sized f := by
  induction h with
  | start => exact fun f hf => by cases hf
  | unread hsized _ _ ih | read hsized _ _ _ ih =>
    intro f hf
    rcases List.mem_cons.mp hf with rfl | hmem
    · exact hsized
    · exact ih f hmem

theorem heard_written (h : Heard C p frames letters stage) :
    ∀ f ∈ frames, f.written ≤ f.bytes.length := by
  induction h with
  | start => exact fun f hf => by cases hf
  | unread _ hpart _ ih =>
    intro f hf
    rcases List.mem_cons.mp hf with rfl | hmem
    · exact Nat.le_of_lt hpart
    · exact ih f hmem
  | read _ hwhole _ _ ih =>
    intro f hf
    rcases List.mem_cons.mp hf with rfl | hmem
    · exact Nat.le_of_eq hwhole
    · exact ih f hmem

theorem heard_listen (h : Heard C p frames letters stage) :
    p.listen C p.start (finished frames) = some (stage, received frames letters) := by
  induction h with
  | start => rfl
  | unread _ hpart _ ih =>
    rw [finished, received, if_neg (Nat.ne_of_lt hpart), if_neg (Nat.ne_of_lt hpart),
      List.append_nil, List.append_nil]
    exact ih
  | read _ hwhole _ hreceive ih =>
    rw [finished, received, if_pos hwhole, if_pos hwhole]
    exact listen_append ih (listen_singleton hreceive)

theorem finished_sized (h : ∀ f ∈ frames, Sized f) :
    ∀ bytes ∈ finished frames, frameLength bytes = some bytes.length := by
  induction frames with
  | nil => exact fun bytes hmem => by cases hmem
  | cons f fs ih =>
    intro bytes hmem
    rcases List.mem_append.mp hmem with hearlier | hlast
    · exact ih (fun g hg => h g (List.mem_cons_of_mem _ hg)) bytes hearlier
    · split at hlast
      · cases List.mem_singleton.mp hlast
        exact h f (List.mem_cons_self ..)
      · cases hlast

theorem sent_finished (hsized : ∀ f ∈ frames, Sized f) (h : ∀ f ∈ frames, f.Whole) :
    frames.reverse.flatMap Frame.sent = (finished frames).flatten := by
  induction frames with
  | nil => rfl
  | cons f fs ih =>
    have hpos := length_pos_of_sized (hsized f (List.mem_cons_self ..))
    rw [List.reverse_cons, List.flatMap_append, finished, List.flatten_append,
      ih (fun g hg => hsized g (List.mem_cons_of_mem _ hg))
        fun g hg => h g (List.mem_cons_of_mem _ hg)]
    refine congrArg _ ?_
    rw [List.flatMap_singleton, Frame.sent]
    rcases h f (List.mem_cons_self ..) with hzero | hwhole
    · rw [if_neg (by omega), hzero]
      rfl
    · rw [if_pos hwhole, hwhole, List.take_length, List.flatten_singleton]

theorem bytes_finished {c : Connection} (hsized : ∀ f ∈ c.frames, Sized f)
    (hwritten : ∀ f ∈ c.frames, f.written ≤ f.bytes.length)
    (hearlier : ∀ f ∈ c.frames.tail, f.Whole) :
    ∃ tail, c.bytes = (finished c.frames).flatten ++ tail ∧ Unfinished tail := by
  rw [Connection.bytes]
  cases hframes : c.frames with
  | nil => exact ⟨[], rfl, unfinished_nil⟩
  | cons f fs =>
    rw [hframes] at hsized hwritten hearlier
    have hf := hsized f (List.mem_cons_self ..)
    rw [List.reverse_cons, List.flatMap_append, List.flatMap_singleton, finished,
      List.flatten_append,
      sent_finished (fun g hg => hsized g (List.mem_cons_of_mem _ hg)) hearlier, Frame.sent]
    by_cases hwhole : f.written = f.bytes.length
    · refine ⟨[], ?_, unfinished_nil⟩
      rw [if_pos hwhole, hwhole, List.take_length, List.flatten_singleton, List.append_nil]
    · refine ⟨f.bytes.take f.written, ?_, unfinished_take hf ?_⟩
      · rw [if_neg hwhole, List.flatten_nil, List.append_nil]
      · exact Nat.lt_of_le_of_ne (hwritten f (List.mem_cons_self ..)) hwhole

theorem heard_hears {c : Connection} (h : Heard C p c.frames letters stage)
    (hearlier : ∀ f ∈ c.frames.tail, f.Whole) :
    p.hears C c.bytes = (stage, received c.frames letters) := by
  obtain ⟨tail, hbytes, htail⟩ := bytes_finished (heard_sized h) (heard_written h) hearlier
  have hsized := finished_sized (heard_sized h)
  rw [Party.hears, hbytes]
  refine hear_flatten hsized htail (heard_listen h) ?_
  rw [List.length_append]
  exact Nat.lt_succ_of_le (Nat.le_trans (length_le_flatten hsized) (Nat.le_add_right ..))

theorem allSettled_get {σ : Setting} {ledger : List Post} {conns : List Connection} {n : Nat}
    {c : Connection} (h : AllSettled C σ ledger conns) (hc : conns.reverse[n]? = some c) :
    Settled C (σ.party (n + 1)) c (lettersOn (n + 1) ledger) := by
  induction conns with
  | nil => cases hc
  | cons d rest ih =>
    rw [List.reverse_cons] at hc
    by_cases hn : n < rest.length
    · rw [List.getElem?_append_left (by rw [List.length_reverse]; exact hn)] at hc
      exact ih h.2 hc
    · have hlt := (List.getElem?_eq_some_iff.mp hc).1
      rw [List.length_append, List.length_reverse, List.length_singleton] at hlt
      obtain rfl : n = rest.length := by omega
      rw [List.getElem?_append_right (by rw [List.length_reverse]), List.length_reverse,
        Nat.sub_self] at hc
      cases hc
      exact h.1

end Bytes

section Main

variable {w : World} {es : List Event}

/-- The device at the other end reads a connection: every frame that has been written in full,
with what the client had put into it, and it has the key that the client has stored. -/
structure ReadBy (C : Crates) (p : Party) (c : Connection) (letters : List Letter) : Prop where
  all : c.frames.length = letters.length
  reads : (p.hears C c.bytes).2 = received c.frames letters
  key : SameKey c (p.hears C c.bytes).1

/-- In every run with a version set by the user, left alone, on which the device answers with its
own nonces, no request is cut off inside its frame and no message is too long for one: a device
with the same local key that only sees the bytes of a connection reads just the messages that
were written there in full, in their order; it has derived the key that the client has stored
for that connection, and while the connection is in use it has the key that the client is
using. Every message is the one that its purpose asks for. -/
theorem device_reads_what_was_written (C : Crates) (S : Codec) (build : Build) (hB : C.BlockLaw)
    (hG : C.GcmLaw) (h64 : C.Base64Law) (b : DeviceBuilder) (σ : Setting)
    (hversion : b.version = σ.version) (hlocal : b.localKey = σ.localKey.val)
    (h : Execution (next C S build b.device) (Undisturbed C S build b.device σ) b.run es w) :
    let ledger := harvest (posted C build b.device) (next C S build b.device) b.run es
    (∀ n c, w.conns.reverse[n]? = some c →
      ReadBy C (σ.party (n + 1)) c (lettersOn (n + 1) ledger)) ∧
    (stageOf w.pc = .session → ∀ c rest, w.conns = c :: rest →
      Shares (w.shared.activeKey b.device) ((σ.party w.conns.length).hears C c.bytes).1) ∧
    (∀ post ∈ ledger, Drafted C S b.device (σ.facts post.conn) post.purpose post.msg) := by
  have hw := run_together hB hG h64 b hversion hlocal h
  have hframed := WireIntegrity.run_framed b (h.mono fun _ _ hallowed => hallowed.whole)
  intro ledger
  refine ⟨fun n c hc => ?_, fun hsession c rest hconns => ?_, hw.drafted⟩
  · have hmem : c ∈ w.conns := List.mem_reverse.mp (List.mem_of_getElem? hc)
    obtain ⟨stage, hheard, hkey⟩ := allSettled_get hw.settled hc
    have hhears := heard_hears hheard (hframed.earlier c hmem)
    refine ⟨heard_length hheard, ?_, ?_⟩
    · rw [hhears]
    · rw [hhears]
      exact hkey
  · have hmem : c ∈ w.conns := by rw [hconns]; exact List.mem_cons_self ..
    obtain ⟨stage, hheard, -, hshares⟩ := attended_reached (hw.latest c rest hconns)
    rw [hconns, List.length_cons, heard_hears hheard (hframed.earlier c hmem)]
    exact hshares hsession

def sampleSetting : Setting where
  version := .v34
  explicit h := by cases h
  localKey := KnownAnswers.sampleKey
  nonces _ := KnownAnswers.remoteNonce

def sampleSteps : List Event :=
  SessionLifecycle.negotiationSteps ++ SessionLifecycle.requestSteps .heartBeat 100 ++
    WireIntegrity.heartbeatSteps 2 10

def sampleLedger : List Post :=
  harvest (posted KnownAnswers.crates .release (sampleBuilder .v34).device) (sampleNext .v34)
    (sampleBuilder .v34).run sampleSteps

theorem device_reads_first_request :
    ∃ w,
      run (guarded (undisturbed KnownAnswers.crates (KnownAnswers.json []) .release
        (sampleBuilder .v34).device sampleSetting) (sampleNext .v34)) (sampleBuilder .v34).run
        sampleSteps = some w ∧
      WireIntegrity.progressOf w = [[(10, 100), (100, 100), (100, 100), (84, 84)]] ∧
      ∀ c, w.conns.reverse[0]? = some c →
        ((sampleSetting.party 1).hears KnownAnswers.crates c.bytes).2.map Letter.cmd
          = [3, 5, 9] := by
  obtain ⟨w, hrun, hseen⟩ := Option.map_eq_some_iff.mp (show
    (run (guarded (undisturbed KnownAnswers.crates (KnownAnswers.json []) .release
      (sampleBuilder .v34).device sampleSetting) (sampleNext .v34)) (sampleBuilder .v34).run
      sampleSteps).map (fun w => (WireIntegrity.progressOf w, w.conns.reverse[0]?.map fun c =>
        (received c.frames (lettersOn 1 sampleLedger)).map Letter.cmd))
      = some ([[(10, 100), (100, 100), (100, 100), (84, 84)]], some [3, 5, 9]) by decide +kernel)
  refine ⟨w, hrun, congrArg Prod.fst hseen, fun c hc => ?_⟩
  have hreads := (device_reads_what_was_written KnownAnswers.crates (KnownAnswers.json []) .release
    KnownAnswers.blockLaw KnownAnswers.gcmLaw KnownAnswers.base64Law (sampleBuilder .v34)
    sampleSetting rfl rfl
    (execution_of_guarded_run (fun _ _ h => undisturbed_iff.mp h) hrun)).1 0 c hc
  have hcmds : w.conns.reverse[0]?.map (fun c =>
      (received c.frames (lettersOn 1 sampleLedger)).map Letter.cmd) = some [3, 5, 9] :=
    congrArg Prod.snd hseen
  rw [hc] at hcmds
  rw [hreads.reads]
  exact Option.some.inj hcmds

end Main

end PeerSession
