import Rustuya.RequestLifecycle
import Rustuya.TaskRefinement
import Mathlib.Control.Monad.Basic

/-!
# The task refines the life of its requests

Every step of the connection task, the reader or a caller is a step of the desk that the
whole state stands for.
-/
namespace RequestRefinement

open CheckedExecution StatefulExecution ByteCodec Error Crypto Message Protocol Json
open SessionKey DeviceState StreamReader ConnectionLifecycle ConnectionTask TransitionSystem
open RequestLifecycle
open TaskRefinement (onGo_eq_some)

section Abstraction

def attemptPhase : Attempt → Phase
  | .scheduled => .idle
  | .onDemand req => .carrying req

def senderPhase : Sender → Phase
  | .request req _ => .dispatching req
  | .heartbeat => .idle

def purposePhase : Purpose → Phase
  | .negStart a _ _ | .negFinish a _ _ _ => attemptPhase a
  | .session sender => senderPhase sender

def phaseOf : Pc → Phase
  | .jitter | .loopHead | .tryHead | .readBackoff | .waitForBackoff | .onDemand => .idle
  | .connecting a _ | .markConnected a | .announceConnected a => attemptPhase a
  | .connectFailed a _ | .announceFailed a _ => attemptPhase a
  | .checkPersist _ | .scheduleRetry _ | .spawnReader | .maintain => .idle
  | .tickPersist | .tickDue | .checkStopped | .exiting => .idle
  | .beginRequest req _ => .serving req
  | .generate sender _ _ _ => senderPhase sender
  | .sending p _ => purposePhase p
  | .readEffective req _ => .pending req
  | .awaitReply req _ effectiveCmd => .awaiting req effectiveCmd
  | .channelClosed => .shutting
  | .handleDisconnect err | .announceDisconnect err => .closing err
  | .countFailure e => .counting e
  | .exited | .crashed => .over

/-- Where the task is in the phases that belong to one place of its code. -/
def PhaseAt (pc : Pc) : Phase → Prop
  | .over => pc = .exited ∨ pc = .crashed
  | .counting err => pc = .countFailure err
  | _ => True

theorem phaseOf_at (pc : Pc) : PhaseAt pc (phaseOf pc) := by
  cases pc with
  | exited => exact .inl rfl
  | crashed => exact .inr rfl
  | countFailure err => rfl
  | connecting a _ | markConnected a | announceConnected a | connectFailed a _
  | announceFailed a _ => cases a <;> trivial
  | generate sender _ _ _ => cases sender <;> trivial
  | sending p _ => rcases p with ⟨⟨⟩ | ⟨⟩⟩ | ⟨⟨⟩ | ⟨⟩⟩ | ⟨⟨⟩ | ⟨⟩⟩ <;> trivial
  | _ => trivial

theorem phaseOf_over {pc : Pc} (h : phaseOf pc = .over) : pc = .exited ∨ pc = .crashed := by
  have hpc := phaseOf_at pc
  rw [h] at hpc
  exact hpc

theorem phaseOf_counting {pc : Pc} {err : TuyaError} (h : phaseOf pc = .counting err) :
    pc = .countFailure err := by
  have hpc := phaseOf_at pc
  rw [h] at hpc
  exact hpc

def deskAt (w : World) (pc : Pc) : Desk where
  queue := w.queue
  closed := w.queueClosed
  phase := phaseOf pc
  nowait := w.nowait
  cancelled := w.cancelled
  stopped := w.stopped
  subscription := w.subscription
  broadcast := w.broadcast
  replies := w.replies

def desk (w : World) : Desk := deskAt w w.pc

def newMessages (w w' : World) : List TuyaMessage := w'.broadcast.drop w.broadcast.length

def newReplies (w w' : World) : List (Nat × Answer) := w'.replies.drop w.replies.length

instance : DecidableEq Answer := inferInstanceAs (DecidableEq (Except _ _))

end Abstraction

section Deeds

variable (C : Crates) (S : Codec) (build : Build) (device : Device)

def incoming (w : World) : Event → List TuyaMessage
  | .reader (.packet firstByte stream) | .reader (.late firstByte stream) =>
    ((processSocketData C S build device firstByte).run ⟨w.shared, stream, []⟩).2.broadcast
  | _ => []

def frameOf (s : State) (protocol : TuyaProtocol) (msg : TuyaMessage) (iv : U8Array 12) :
    Result Bytes := do
  let cipher ← ((getCipher device).run s).1
  packWith C build iv protocol cipher msg

/-- The frame of a request cannot be made, or its write ends with an error or a timeout. -/
def sendFails (w : World) : Event → Bool
  | .task (.packed iv) =>
    match w.pc with
    | .sending (.session (.request _ _)) (.encrypt msg protocol) =>
      match frameOf C build device w.shared protocol msg iv with
      | .err _ => true
      | .ok _ | .panic => false
    | _ => false
  | .task (.writeFailed _) =>
    match w.pc with
    | .sending (.session (.request _ _)) .write => true
    | _ => false
  | _ => false

/-- A command that is sent to the task is accepted unless its queue has been closed. -/
def sentDeed (w : World) (cmd : Command) : Deed := if w.queueClosed then .plain else .accepted cmd

def userDeed (w : World) : UserEvent → Deed
  | .submit req => sentDeed w (.request req)
  | .connectNow => sentDeed w .connectNow
  | .stop => .halted
  | .advance i =>
    match w.calls[i]? with
    | some .cancel => .halted
    | some .sendDisconnect => sentDeed w .disconnect
    | some .markClosed | none => .plain
  | _ => .plain

def deed (w : World) (e : Event) : Deed :=
  match e with
  | .task _ => if sendFails C build device w e then .sendFailed else .plain
  | .drop => .plain
  | .reader (.packet _ _) | .reader (.late _ _) => .heard (incoming C S build device w e)
  | .reader _ => .plain
  | .user u => userDeed w u

theorem userDeed_cases (w : World) (u : UserEvent) :
    userDeed w u = .plain ∨ userDeed w u = .halted ∨ ∃ cmd, userDeed w u = .accepted cmd := by
  have hsent : ∀ cmd, sentDeed w cmd = .plain ∨ sentDeed w cmd = .halted ∨
      ∃ cmd', sentDeed w cmd = .accepted cmd' := by
    intro cmd
    unfold sentDeed
    split
    · exact .inl rfl
    · exact .inr (.inr ⟨cmd, rfl⟩)
  cases u with
  | submit req => exact hsent (.request req)
  | connectNow => exact hsent .connectNow
  | stop => exact .inr (.inl rfl)
  | advance i =>
    rw [userDeed]
    split
    · exact .inr (.inl rfl)
    · exact hsent .disconnect
    · exact .inl rfl
    · exact .inl rfl
  | _ => exact .inl rfl

theorem deed_heard {C : Crates} {S : Codec} {build : Build} {device : Device} {w : World}
    {e : Event} {msgs : List TuyaMessage} (h : deed C S build device w e = .heard msgs) :
    ∃ firstByte stream, e = .reader (.packet firstByte stream) ∨
      e = .reader (.late firstByte stream) := by
  cases e with
  | task e =>
    rw [deed] at h
    split at h <;> cases h
  | drop => cases h
  | reader e =>
    cases e with
    | packet firstByte stream => exact ⟨firstByte, stream, .inl rfl⟩
    | late firstByte stream => exact ⟨firstByte, stream, .inr rfl⟩
    | _ => cases h
  | user u =>
    rw [deed] at h
    rcases userDeed_cases w u with hu | hu | ⟨cmd, hu⟩ <;> rw [hu] at h <;> cases h

end Deeds

section Updates

variable (w : World) (pc : Pc)

theorem respond_eq (cmd : Command) (e : TuyaError) :
    w.respond cmd (.error e) = { w with replies := w.replies ++ refusals e [cmd] } := by
  cases cmd with
  | request req => rfl
  | disconnect => exact congrArg (fun r => { w with replies := r }) (List.append_nil _).symm
  | connectNow => exact congrArg (fun r => { w with replies := r }) (List.append_nil _).symm

theorem refusals_cons (e : TuyaError) (cmd : Command) (queue : List Command) :
    refusals e (cmd :: queue) = refusals e [cmd] ++ refusals e queue := by
  cases cmd <;> rfl

theorem drainRx_eq (e : TuyaError) (close : Bool) :
    w.drainRx e close = { w with
      replies := w.replies ++ refusals e w.queue, queue := []
      queueClosed := w.queueClosed || close } := by
  have hfold : ∀ (cmds : List Command) (w : World),
      cmds.foldl (fun w cmd => w.respond cmd (.error e)) w
        = { w with replies := w.replies ++ refusals e cmds } := by
    intro cmds
    induction cmds with
    | nil =>
      intro w
      exact congrArg (fun r => { w with replies := r }) (List.append_nil _).symm
    | cons cmd cmds ih =>
      intro w
      rw [List.foldl_cons, ih, respond_eq, refusals_cons e cmd cmds, List.append_assoc]
  rw [World.drainRx, hfold]

theorem stopped_dropped (s : State) :
    decide (dropped s.state = .stopped) = decide (s.state = .stopped) := by
  unfold dropped
  cases s.state <;> rfl

theorem deskAt_dropped (f : State → State) (h : ∀ s, (f s).state = dropped s.state) :
    deskAt (w.lock f) pc = deskAt w pc := by
  have hstopped : (w.lock f).stopped = w.stopped := by
    rw [World.stopped, World.lock, h, stopped_dropped]
    rfl
  rw [deskAt, hstopped]
  rfl

theorem deskAt_state {s : State} (h : s.state = w.shared.state) :
    deskAt { w with shared := s } pc = deskAt w pc := by
  simp only [deskAt, World.stopped, h]

theorem desk_leave (err : Option TuyaError) :
    desk (w.leave err) = deskAt w (.handleDisconnect err) := by
  obtain ⟨lingering, hleave⟩ := leave_eq w err
  rw [hleave]
  rfl

theorem desk_conclude {p : Pc} (req : Request) (initial : Bool) (answer : Answer) :
    desk (w.conclude req initial answer) = (deskAt w p).conclude req answer := by
  cases initial <;> rfl

theorem deskAt_push (f : Frame) : deskAt (w.push f) pc = deskAt w pc := by
  rw [push_eq]
  rfl

theorem state_of_untouched {s t : State} (h : untouched s = untouched t) : s.state = t.state := by
  have hstate : (untouched s).state = (untouched t).state := by rw [h]
  exact hstate

end Updates

section Task

variable {C : Crates} {S : Codec} {build : Build} {device : Device} {w w' : World}
  {e : TaskEvent} {a : Attempt}

theorem step_stay {d : Desk} (h : desk w' = d) : DeskStep S d .plain (desk w') := by
  rw [h]
  exact .stay d

theorem step_finish (pc : Pc) (hpc : phaseOf pc = .over) (p : Pc) :
    DeskStep S (deskAt w p) .plain (desk (w.finish pc)) := by
  have hdesk : desk (w.finish pc) = { deskAt w p with
      queue := [], closed := true, cancelled := w.cancelled, phase := .over } := by
    rw [desk, World.finish, deskAt, hpc]
    rfl
  rw [hdesk]
  exact .finish _ _ id

theorem errorHelper_cmd (s : State) (code : Nat) (payload : Option Value) :
    ∀ m ∈ [errorHelper S s code payload], m.cmd = 0 := by
  intro m hm
  rw [List.mem_singleton.mp hm]
  rfl

theorem code_ne_success (e : TuyaError) : e.code ≠ errSuccess := by
  cases e <;> exact Nat.succ_ne_zero _

section RunConnectionTask

theorem jitter_step (h : jitter w e = some w') :
    DeskStep S (deskAt w .jitter) .plain (desk w') := by
  cases e with
  | slept =>
    cases h
    exact .stay _
  | cancelled =>
    rw [jitter] at h
    split at h
    · cases h
      exact step_finish .exited rfl _
    · cases h
  | _ => cases h

theorem loopHead_step : DeskStep S (deskAt w .loopHead) .plain (desk (loopHead w)) := by
  by_cases hstopped : w.stopped = true
  · rw [loopHead, if_pos hstopped]
    exact .stay _
  · rw [loopHead, if_neg hstopped]
    exact .stay _

theorem handleDisconnect_step (err : Option TuyaError) :
    DeskStep S (deskAt w (.handleDisconnect err)) .plain (desk (handleDisconnect w err)) := by
  apply step_stay
  exact deskAt_dropped w (.announceDisconnect err)
    (fun s => { s with state := dropped s.state, sessionKey := none }) (fun _ => rfl)

theorem announceDisconnect_step (err : Option TuyaError) :
    DeskStep S (deskAt w (.announceDisconnect err)) .plain
      (desk (announceDisconnect S w err)) := by
  cases err with
  | some e =>
    rw [announceDisconnect]
    by_cases hstopped : w.stopped = true
    · -- A stopped device goes without a message.
      have hstep := DeskStep.lose (S := S) (deskAt w (.announceDisconnect (some e))) e [] rfl
        nofun (.inl hstopped)
      rw [publish_nil] at hstep
      rw [if_pos hstopped]
      exact hstep
    · rw [if_neg hstopped]
      exact .lose _ e _ rfl (errorHelper_cmd w.shared e.code none) (.inr ⟨w.shared, rfl⟩)
  | none =>
    rw [announceDisconnect]
    by_cases hstopped : w.stopped = true
    · have hstep := DeskStep.closeDown (S := S) (deskAt w (.announceDisconnect none)) [] rfl nofun
      rw [publish_nil] at hstep
      rw [if_pos hstopped]
      exact hstep
    · rw [if_neg hstopped]
      exact .closeDown _ _ rfl (errorHelper_cmd w.shared errOffline none)

theorem countFailure_step (err : TuyaError) :
    DeskStep S (deskAt w (.countFailure err)) .plain (desk (countFailure build w err)) := by
  unfold countFailure
  split
  · dsimp only
    rw [drainRx_eq]
    exact .count (deskAt w (.countFailure err)) err rfl
  · exact step_finish .crashed rfl _
  · exact step_finish .crashed rfl _

theorem checkStopped_step :
    DeskStep S (deskAt w .checkStopped) .plain (desk (checkStopped w)) := by
  by_cases hstopped : w.stopped = true
  · rw [checkStopped, if_pos hstopped]
    exact .stay _
  · rw [checkStopped, if_neg hstopped]
    exact .stay _

theorem exiting_step : DeskStep S (deskAt w .exiting) .plain (desk (exiting w)) :=
  .finish (deskAt w .exiting) true fun _ => rfl

end RunConnectionTask

section TryConnectWithBackoff

theorem refuse_step {pc : Pc} (hpc : phaseOf pc = .idle)
    (hdone : w.stopped = true ∨ w.cancelled = true) :
    DeskStep S (deskAt w pc) .plain (desk ((w.drainRx .offline true).goto .exiting)) := by
  have hdesk : desk ((w.drainRx .offline true).goto .exiting)
      = (deskAt w pc).drain .offline true := by
    rw [drainRx_eq, Desk.drain, deskAt, hpc]
    rfl
  rw [hdesk]
  exact .refuse _ hpc hdone

theorem tryHead_step : DeskStep S (deskAt w .tryHead) .plain (desk (tryHead w)) := by
  by_cases hstopped : w.stopped = true
  · rw [tryHead, if_pos hstopped]
    exact refuse_step rfl (.inl hstopped)
  · rw [tryHead, if_neg hstopped]
    exact .stay _

theorem readBackoff_step : DeskStep S (deskAt w .readBackoff) .plain (desk (readBackoff w)) := by
  unfold readBackoff
  split <;> exact .stay _

theorem waitForBackoff_step (hpc : w.pc = .waitForBackoff)
    (h : waitForBackoff S w e = some w') :
    DeskStep S (deskAt w .waitForBackoff) .plain (desk w') := by
  cases e with
  | slept =>
    cases h
    exact .stay _
  | rediscovered =>
    cases h
    exact .stay _
  | cancelled =>
    rw [waitForBackoff] at h
    split at h
    next hcancelled =>
      cases h
      exact refuse_step rfl (.inr hcancelled)
    · cases h
  | recv =>
    rw [waitForBackoff] at h
    split at h
    next queue hqueue =>
      cases h
      exact .skip (deskAt w .waitForBackoff) .connectNow queue hqueue rfl
    next cmd queue _ hqueue =>
      cases h
      have hreport : Report S (errorHelper S w.shared errOffline none) :=
        ⟨_, _, _, by decide, rfl⟩
      have hstep := DeskStep.reject (deskAt w .waitForBackoff) cmd queue _ hqueue hreport
      rw [respond_eq, desk]
      dsimp only [World.broadcastError, World.publish]
      rw [hpc]
      exact hstep
    · split at h
      · cases h
        exact .stay _
      · cases h
  | _ => cases h

theorem markConnected_step :
    DeskStep S (deskAt w (.markConnected a)) .plain (desk (markConnected w a)) :=
  .resume (deskAt w (.markConnected a))

theorem announceConnected_step :
    DeskStep S (deskAt w (.announceConnected a)) .plain (desk (announceConnected S w a)) := by
  cases a with
  | scheduled => exact .announce _ _ (errorHelper_cmd w.shared errSuccess none)
  | onDemand req => exact .connected _ req (errorHelper S w.shared errSuccess none) rfl rfl

theorem handleConnectionError_step (err : TuyaError) :
    DeskStep S (deskAt w (.connectFailed a err)) .plain (desk (handleConnectionError w a err)) := by
  apply step_stay
  exact deskAt_dropped w (.announceFailed a err) (fun s => { s with state := dropped s.state })
    (fun _ => rfl)

theorem announceFailed_step (err : TuyaError) :
    DeskStep S (deskAt w (.announceFailed a err)) .plain (desk (announceFailed S w a err)) := by
  have hreport : Report S (errorHelper S w.shared err.code (some (.string err.display))) :=
    ⟨_, _, _, code_ne_success err, rfl⟩
  cases a with
  | scheduled =>
    have hstep := DeskStep.giveUp (deskAt w (.announceFailed .scheduled err)) err _ rfl hreport
    rw [announceFailed, drainRx_eq]
    exact hstep
  | onDemand req =>
    have hlast : Report S (errorHelper S w.shared errOffline none) := ⟨_, _, _, by decide, rfl⟩
    exact .failCarried _ req err _ _ rfl hreport hlast

theorem checkPersist_step (err : TuyaError) :
    DeskStep S (deskAt w (.checkPersist err)) .plain (desk (checkPersist w err)) := by
  unfold checkPersist
  split <;> exact .stay _

theorem scheduleRetry_step (err : TuyaError) :
    DeskStep S (deskAt w (.scheduleRetry err)) .plain (desk (scheduleRetry build w err)) := by
  unfold scheduleRetry
  split
  · exact .stay _
  · exact step_finish .crashed rfl _
  · exact step_finish .crashed rfl _

theorem onDemand_step (h : onDemand w e = some w') :
    DeskStep S (deskAt w .onDemand) .plain (desk w') := by
  cases e with
  | recv =>
    rw [onDemand] at h
    split at h
    next queue hqueue =>
      cases h
      exact .skip (deskAt w .onDemand) .connectNow queue hqueue rfl
    next req queue hqueue =>
      cases h
      exact .take (deskAt w .onDemand) req queue (.carrying req) rfl hqueue (.inl rfl)
    next queue hqueue =>
      cases h
      exact .skip (deskAt w .onDemand) .disconnect queue hqueue rfl
    · split at h
      · cases h
        exact .stay _
      · cases h
  | _ => cases h

end TryConnectWithBackoff

section ConnectAndHandshake

variable {pc : Pc}

theorem resolveAddress_step (hpc : phaseOf pc = attemptPhase a) :
    DeskStep S (deskAt w pc) .plain (desk (resolveAddress w a)) := by
  apply step_stay
  rw [deskAt, hpc, resolveAddress]
  split <;> rfl

theorem discover_step {configAddr : String} (hpc : phaseOf pc = attemptPhase a)
    (h : discover w a configAddr e = some w') : DeskStep S (deskAt w pc) .plain (desk w') := by
  apply step_stay
  rw [deskAt, hpc]
  cases e with
  | discovered result =>
    cases result with
    | some result =>
      cases h
      rfl
    | none =>
      rw [discover] at h
      split at h
      · cases h
        rfl
      · cases h
        rfl
  | elapsed =>
    cases h
    rfl
  | _ => cases h

theorem dial_step (hpc : phaseOf pc = attemptPhase a) (h : dial w a e = some w') :
    DeskStep S (deskAt w pc) .plain (desk w') := by
  apply step_stay
  rw [deskAt, hpc]
  cases e with
  | dialed | refused | dialFailed | elapsed =>
    cases h
    rfl
  | _ => cases h

theorem dialed_step (hpc : phaseOf pc = attemptPhase a) :
    DeskStep S (deskAt w pc) .plain (desk (dialed w a)) := by
  apply step_stay
  rw [deskAt, hpc, dialed]
  split <;> rfl

theorem negotiate_step (hpc : phaseOf pc = attemptPhase a) (h : negotiate w a e = some w') :
    DeskStep S (deskAt w pc) .plain (desk w') := by
  apply step_stay
  rw [deskAt, hpc]
  cases e with
  | drawn nonce =>
    cases h
    rfl
  | _ => cases h

theorem respondTo_step {protocol : TuyaProtocol} {nonce : U8Array 16}
    (hpc : phaseOf pc = attemptPhase a) (resp : Result (Option TuyaMessage)) :
    DeskStep S (deskAt w pc) .plain (desk (respondTo C device w a protocol nonce resp)) := by
  have hstay : ∀ p, phaseOf p = attemptPhase a →
      DeskStep S (deskAt w pc) .plain (desk (w.goto p)) := by
    intro p hp
    apply step_stay
    rw [deskAt, hpc, ← hp]
    rfl
  unfold respondTo
  split
  · split
    · exact hstay _ rfl
    · split
      · exact hstay _ rfl
      · exact hstay _ rfl
      · exact step_finish .crashed rfl _
  · exact hstay _ rfl
  · exact hstay _ rfl
  · exact step_finish .crashed rfl _

theorem awaitResponse_step {protocol : TuyaProtocol} {nonce : U8Array 16}
    (hpc : phaseOf pc = attemptPhase a)
    (h : awaitResponse C S build device w a protocol nonce e = some w') :
    DeskStep S (deskAt w pc) .plain (desk w') := by
  cases e with
  | response firstByte stream =>
    have hkeeps := readAndParseFromStream_keeps C S build device firstByte ⟨w.shared, stream, []⟩
    cases h
    have hdesk := deskAt_state w pc (state_of_untouched hkeeps)
    rw [← hdesk]
    exact respondTo_step hpc _
  | noResponse | elapsed =>
    cases h
    apply step_stay
    rw [deskAt, hpc]
    rfl
  | _ => cases h

theorem store_step {protocol : TuyaProtocol} {nonce : U8Array 16} {sessionKey : Bytes}
    (hpc : phaseOf pc = attemptPhase a) :
    DeskStep S (deskAt w pc) .plain (desk (store C device w a protocol nonce sessionKey)) := by
  unfold store
  split
  next key _ =>
    apply step_stay
    rw [deskAt, hpc]
    rw [negotiated_eq]
    rfl
  · apply step_stay
    rw [deskAt, hpc]
    rfl
  · exact step_finish .crashed rfl _

theorem connectAndHandshake_step {h : Handshake}
    (hnext : connectAndHandshake C S build device w a h e = some w') :
    DeskStep S (deskAt w (.connecting a h)) .plain (desk w') := by
  cases h with
  | resolve =>
    obtain rfl := onGo_eq_some hnext
    exact resolveAddress_step rfl
  | discover configAddr => exact discover_step rfl hnext
  | dial addr => exact dial_step rfl hnext
  | dialed =>
    obtain rfl := onGo_eq_some hnext
    exact dialed_step rfl
  | negotiate => exact negotiate_step rfl hnext
  | awaitResponse protocol nonce => exact awaitResponse_step rfl hnext
  | store protocol nonce sessionKey =>
    obtain rfl := onGo_eq_some hnext
    exact store_step rfl

end ConnectAndHandshake

section Send

variable {p : Purpose} {pc : Pc}

/-- The deed of a failing send: only a request keeps the connection. -/
def failDeed : Purpose → Deed
  | .session (.request _ _) => .sendFailed
  | .negStart _ _ _ | .negFinish _ _ _ _ | .session .heartbeat => .plain

theorem sendFailed_step (hpc : phaseOf pc = purposePhase p) (err : TuyaError) :
    DeskStep S (deskAt w pc) (failDeed p) (desk (sendFailed w err p)) := by
  cases p with
  | negStart | negFinish =>
    apply step_stay
    rw [deskAt, hpc]
    rfl
  | session sender =>
    cases sender with
    | heartbeat =>
      have hleave := DeskStep.leave (S := S) (deskAt w pc) (some err) hpc
      rw [sendFailed, desk_leave]
      exact hleave
    | request req initial =>
      rw [sendFailed, desk_conclude w (p := pc)]
      exact .sendFailed _ req err hpc

theorem sent_step (hpc : phaseOf pc = purposePhase p) :
    DeskStep S (deskAt w pc) .plain (desk (sent w p)) := by
  cases p with
  | negStart | negFinish =>
    apply step_stay
    rw [deskAt, hpc]
    rfl
  | session sender =>
    cases sender with
    | heartbeat =>
      apply step_stay
      rw [deskAt, hpc]
      rfl
    | request req initial =>
      by_cases hsome : w.subscription.isSome = true
      · rw [sent, if_pos hsome]
        exact .dispatched (deskAt w pc) req hpc hsome
      · rw [sent, if_neg hsome, desk_conclude w (p := pc)]
        exact .sent _ req hpc (Option.not_isSome_iff_eq_none.mp hsome)

theorem buildMessage_step (hpc : phaseOf pc = purposePhase p) (cmd : UInt32) (payload : Bytes) :
    DeskStep S (deskAt w pc) .plain (desk (buildMessage build w p cmd payload)) := by
  unfold buildMessage
  split
  · apply step_stay
    rw [deskAt, hpc]
    rfl
  · exact step_finish .crashed rfl _
  · exact step_finish .crashed rfl _

theorem packMsg_step {msg : TuyaMessage} {protocol : TuyaProtocol} (iv : U8Array 12)
    (hpc : phaseOf pc = purposePhase p) :
    DeskStep S (deskAt w pc)
      (match frameOf C build device w.shared protocol msg iv with
        | .err _ => failDeed p
        | .ok _ | .panic => .plain)
      (desk (packMsg C build device w p msg protocol iv)) := by
  have hkeeps := state_of_untouched (getCipher_keeps device w.shared)
  have hdesk := deskAt_state w pc hkeeps
  rw [packMsg, frameOf, ← hdesk]
  rcases (getCipher device).run w.shared with ⟨cipher, shared⟩
  dsimp only
  cases cipher with
  | ok cipher =>
    dsimp only
    rw [Outcome.ok_bind]
    cases packWith C build iv protocol cipher msg with
    | ok bytes =>
      apply step_stay
      have hphase : phaseOf pc = phaseOf (.sending p .write) := hpc
      rw [deskAt, hphase]
      exact deskAt_push { w with shared } (.sending p .write) _
    | err err => exact sendFailed_step hpc err
    | panic => exact step_finish .crashed rfl _
  | err err => exact sendFailed_step hpc err
  | panic => exact step_finish .crashed rfl _

theorem progress_step {n : Nat} (hpc : w.pc = .sending p .write) (h : w.progress n = some w') :
    DeskStep S (deskAt w (.sending p .write)) .plain (desk w') := by
  apply step_stay
  rw [progress_eq_some h, desk]
  dsimp only
  rw [hpc]
  rfl

theorem deed_task_plain {e : TaskEvent} (h : sendFails C build device w (.task e) = false) :
    deed C S build device w (.task e) = .plain := by
  rw [deed, h]
  rfl

/-- A write that ends early is the only one that fails. -/
theorem deed_writeFailed (hpc : w.pc = .sending p .write) (failure : IoFailure) :
    deed C S build device w (.task (.writeFailed failure)) = failDeed p := by
  rw [deed, sendFails, hpc]
  rcases p with ⟨⟩ | ⟨⟩ | ⟨⟨⟩ | ⟨⟩⟩ <;> rfl

theorem deed_packed {msg : TuyaMessage} {protocol : TuyaProtocol} (iv : U8Array 12)
    (hpc : w.pc = .sending p (.encrypt msg protocol)) :
    deed C S build device w (.task (.packed iv))
      = match frameOf C build device w.shared protocol msg iv with
        | .err _ => failDeed p
        | .ok _ | .panic => .plain := by
  rw [deed, sendFails, hpc]
  cases hframe : frameOf C build device w.shared protocol msg iv <;>
    rcases p with ⟨⟩ | ⟨⟩ | ⟨⟨⟩ | ⟨⟩⟩ <;> simp [hframe, failDeed]

theorem writeAll_step (hpc : w.pc = .sending p .write) (h : writeAll w p e = some w') :
    DeskStep S (deskAt w (.sending p .write)) (deed C S build device w (.task e)) (desk w') := by
  cases e with
  | wrote n => exact progress_step hpc h
  | writeDone =>
    rw [writeAll] at h
    split at h
    · split at h
      · cases h
        exact sent_step rfl
      · cases h
    · cases h
  | writeFailed failure =>
    rw [writeAll] at h
    rw [deed_writeFailed hpc]
    split at h
    · split at h
      · cases h
        exact sendFailed_step rfl _
      · cases h
    · cases h
  | elapsed =>
    cases p with
    | negStart | negFinish =>
      cases h
      exact .stay _
    | session sender => cases h
  | _ => cases h

theorem sendRawToStream_step {s : Sending} (hpc : w.pc = .sending p s)
    (h : sendRawToStream C build device w p s e = some w') :
    DeskStep S (deskAt w (.sending p s)) (deed C S build device w (.task e)) (desk w') := by
  cases s with
  | build cmd payload =>
    cases e with
    | go =>
      cases h
      exact buildMessage_step rfl cmd payload
    | _ => cases h
  | pack msg =>
    cases e with
    | go =>
      cases h
      exact .stay _
    | _ => cases h
  | encrypt msg protocol =>
    cases e with
    | packed iv =>
      cases h
      rw [deed_packed iv hpc]
      exact packMsg_step iv rfl
    | _ => cases h
  | write => exact writeAll_step hpc h

end Send

section MaintainConnection

theorem leave_step {p : Pc} (hpc : phaseOf p = .idle) (err : Option TuyaError) :
    DeskStep S (deskAt w p) .plain (desk (w.leave err)) := by
  have hstep := DeskStep.leave (S := S) (deskAt w p) err hpc
  rw [desk_leave]
  exact hstep

theorem maintain_step (hpc : w.pc = .maintain) (h : maintain w e = some w') :
    DeskStep S (deskAt w .maintain) .plain (desk w') := by
  cases e with
  | cancelled =>
    rw [maintain] at h
    split at h
    · cases h
      exact leave_step rfl none
    · cases h
  | recv =>
    rw [maintain] at h
    split at h
    next req queue hqueue =>
      cases h
      exact .take (deskAt w .maintain) req queue (.serving req) rfl hqueue (.inr rfl)
    next queue hqueue =>
      cases h
      have hstep := DeskStep.disconnect (S := S) (deskAt w .maintain) queue rfl hqueue
      rw [desk_leave]
      exact hstep
    next queue hqueue =>
      cases h
      have hstep := DeskStep.skip (S := S) (deskAt w .maintain) .connectNow queue hqueue rfl
      rw [desk]
      dsimp only
      rw [hpc]
      exact hstep
    · split at h
      next hclosed =>
        cases h
        exact .runDry (deskAt w .maintain) rfl hclosed
      · cases h
  | tick =>
    cases h
    exact .stay _
  | readerFailed =>
    rw [maintain] at h
    split at h
    next err _ =>
      cases h
      exact leave_step (w := { w with readerError := none }) (p := .maintain) rfl (some err)
    · cases h
  | _ => cases h

theorem channelClosed_step :
    DeskStep S (deskAt w .channelClosed) .plain (desk (channelClosed w)) := by
  rw [channelClosed, desk_leave]
  exact .shut (deskAt w .channelClosed) rfl

theorem tickPersist_step : DeskStep S (deskAt w .tickPersist) .plain (desk (tickPersist w)) := by
  unfold tickPersist
  split <;> exact .stay _

theorem tickDue_step (h : tickDue w e = some w') :
    DeskStep S (deskAt w .tickDue) .plain (desk w') := by
  cases e with
  | due heartbeat =>
    cases heartbeat with
    | true =>
      cases h
      exact .stay _
    | false =>
      cases h
      exact .stay _
  | _ => cases h

theorem generate_step {sender : Sender} {command : CommandType} {data : Option Value}
    {cid : Option String} (h : generate S device w sender command data cid e = some w') :
    DeskStep S (deskAt w (.generate sender command data cid)) .plain (desk w') := by
  cases e with
  | clock t =>
    cases h
    exact .stay _
  | _ => cases h

theorem awaitReply_step {req : Request} {initial : Bool} {effectiveCmd : UInt32}
    (hpc : w.pc = .awaitReply req initial effectiveCmd)
    (h : awaitReply S w req initial effectiveCmd e = some w') :
    DeskStep S (deskAt w (.awaitReply req initial effectiveCmd)) .plain (desk w') := by
  cases e with
  | reply =>
    rw [awaitReply] at h
    split at h
    next msg rest hnext =>
      split at h
      · cases h
        rw [desk_conclude w (p := .awaitReply req initial effectiveCmd)]
        exact .unanswered _ req effectiveCmd _ rfl
      · split at h
        next hanswers =>
          cases h
          rw [desk_conclude w (p := .awaitReply req initial effectiveCmd)]
          exact .reply _ req effectiveCmd msg rest rfl hnext hanswers
        · cases h
          have hstep := DeskStep.pass (S := S) (deskAt w (.awaitReply req initial effectiveCmd))
            req effectiveCmd msg rest rfl hnext
          rw [desk]
          dsimp only
          rw [hpc]
          exact hstep
    · cases h
    · cases h
  | replyTimeout =>
    cases h
    rw [desk_conclude w (p := .awaitReply req initial effectiveCmd)]
    exact .unanswered _ req effectiveCmd _ rfl
  | _ => cases h

end MaintainConnection

def purposeAt : Pc → Option Purpose
  | .sending p _ => some p
  | _ => none

theorem deed_elsewhere (hpc : purposeAt w.pc = none) :
    deed C S build device w (.task e) = .plain := by
  apply deed_task_plain
  unfold sendFails
  split
  · split
    next h => rw [h] at hpc; cases hpc
    · rfl
  · split
    next h => rw [h] at hpc; cases hpc
    · rfl
  · rfl

theorem taskNext_step (h : taskNext C S build device w e = some w') :
    DeskStep S (desk w) (deed C S build device w (.task e)) (desk w') := by
  unfold taskNext at h
  rw [desk]
  cases hpc : w.pc <;> rw [hpc] at h <;> dsimp only at h
  case sending p s => exact sendRawToStream_step hpc h
  all_goals rw [deed_elsewhere (by rw [hpc]; rfl)]
  case jitter => exact jitter_step h
  case waitForBackoff => exact waitForBackoff_step hpc h
  case connecting => exact connectAndHandshake_step h
  case onDemand => exact onDemand_step h
  case generate => exact generate_step h
  case awaitReply => exact awaitReply_step hpc h
  case maintain => exact maintain_step hpc h
  case tickDue => exact tickDue_step h
  case exited => cases h
  case crashed => cases h
  all_goals obtain rfl := onGo_eq_some h
  case loopHead => exact loopHead_step
  case tryHead => exact tryHead_step
  case readBackoff => exact readBackoff_step
  case markConnected => exact markConnected_step
  case announceConnected => exact announceConnected_step
  case connectFailed => exact handleConnectionError_step _
  case announceFailed => exact announceFailed_step _
  case checkPersist => exact checkPersist_step _
  case scheduleRetry => exact scheduleRetry_step _
  case beginRequest req initial => exact .subscribe (deskAt w (.beginRequest req initial)) req rfl
  case readEffective req initial =>
    exact .await (deskAt w (.readEffective req initial)) req _ rfl w.shared.protocol rfl
  case spawnReader => exact .stay _
  case channelClosed => exact channelClosed_step
  case tickPersist => exact tickPersist_step
  case handleDisconnect => exact handleDisconnect_step _
  case announceDisconnect => exact announceDisconnect_step _
  case countFailure => exact countFailure_step _
  case checkStopped => exact checkStopped_step
  case exiting => exact exiting_step

end Task

section System

variable {C : Crates} {S : Codec} {build : Build} {device : Device} {w w' : World}

theorem dropTask_step (h : dropTask w = some w') : DeskStep S (desk w) .plain (desk w') := by
  obtain ⟨hcancelled, hsuspended, rfl⟩ := dropTask_eq_some h
  refine .abandon (desk w) hcancelled ?_
  intro hover
  rcases phaseOf_over hover with hpc | hpc <;> rw [hpc] at hsuspended <;> cases hsuspended

theorem desk_absorb {r : Reader} (h : untouched r.device = untouched w.shared) :
    desk (w.absorb r) = (desk w).publish r.broadcast := by
  have hdesk := deskAt_state w w.pc (state_of_untouched h)
  rw [desk, desk, ← hdesk]
  rfl

theorem readerNext_step {e : ReaderEvent} (h : readerNext C S build device w e = some w') :
    DeskStep S (desk w) (deed C S build device w (.reader e)) (desk w') := by
  cases readerNext_inv h with
  | packet firstByte stream reader readerError =>
    have hkeeps := processSocketData_keeps C S build device firstByte ⟨w.shared, stream, []⟩
    have hstep := DeskStep.hear (S := S) (desk w)
      (incoming C S build device w (.reader (.packet firstByte stream)))
    rw [incoming, ← desk_absorb hkeeps] at hstep
    exact hstep
  | late firstByte stream =>
    have hkeeps := processSocketData_keeps C S build device firstByte ⟨w.shared, stream, []⟩
    have hstep := DeskStep.hear (S := S) (desk w)
      (incoming C S build device w (.reader (.late firstByte stream)))
    rw [incoming, ← desk_absorb hkeeps] at hstep
    exact hstep
  | ended ending readerError => exact .stay _
  | cancelled hcancelled => exact .stay _
  | gone => exact .stay _

theorem enqueue_step {cmd : Command} (h : w.enqueue cmd = some w') :
    DeskStep S (desk w) (sentDeed w cmd) (desk w') := by
  rcases enqueue_eq_some h with ⟨hclosed, rfl⟩ | ⟨hopen, -, rfl⟩
  · rw [sentDeed, if_pos hclosed]
    exact .stay _
  · rw [sentDeed, if_neg (Bool.eq_false_iff.mp hopen)]
    exact .accept (desk w) cmd hopen

theorem advanceCall_step {i : Nat} (h : advanceCall w i = some w') :
    DeskStep S (desk w) (userDeed w (.advance i)) (desk w') := by
  unfold advanceCall at h
  rw [userDeed]
  cases hcall : w.calls[i]? with
  | none =>
    rw [hcall] at h
    cases h
  | some call =>
    rw [hcall] at h
    cases call with
    | cancel =>
      cases h
      exact .cancel (desk w)
    | markClosed =>
      cases h
      apply step_stay
      exact deskAt_dropped w w.pc (fun s => { s with state := dropped s.state }) (fun _ => rfl)
    | sendDisconnect =>
      exact enqueue_step (w := { w with calls := w.calls.eraseIdx i }) h

theorem userNext_step {e : UserEvent} (h : userNext w e = some w') :
    DeskStep S (desk w) (userDeed w e) (desk w') := by
  cases e with
  | submit req => exact enqueue_step h
  | connectNow => exact enqueue_step h
  | stop =>
    cases h
    exact .halt (desk w)
  | advance i => exact advanceCall_step h
  | setNowait nowait =>
    cases h
    exact .configure (desk w) nowait
  | _ =>
    cases h
    exact .stay _

/-- Every step of the system is a step of its desk. -/
theorem next_step {e : Event} (h : next C S build device w e = some w') :
    DeskStep S (desk w) (deed C S build device w e) (desk w') := by
  cases e with
  | task e => exact taskNext_step h
  | drop => exact dropTask_step h
  | reader e => exact readerNext_step h
  | user e => exact userNext_step h

end System

end RequestRefinement
