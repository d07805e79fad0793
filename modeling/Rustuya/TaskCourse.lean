import Rustuya.TaskBranches

/-!
# The course of the task

What the counters of the task depend on: the sequence number, the connections with their
frames, the counts of failures and successes, the reader, and of the place in the code only
the station it belongs to. A step of the task, of a reader or of a caller is one of a few
changes of this chart.
-/
namespace TaskCourse

open CheckedExecution StatefulExecution ByteCodec Error Crypto Message Protocol Json
open SessionKey DeviceState StreamReader ConnectionLifecycle ConnectionTask
open RequestRefinement (sendFails frameOf)
open TaskBranches (Branch SendFailure Call Move next_move)

section Chart

/-- What is being done about the next frame: nothing, or its message has been built, or the
frame is being written. -/
inductive Doing where
  | nothing
  | holding (seqno : UInt32)
  | writing

/-- Where the task is. Without a connection, the sequence number has just been reset or not;
with one, the loop that serves the connection has been entered or not. -/
inductive Station where
  | idle (reset : Bool)
  | linked (serving : Bool) (doing : Doing)
  | leaving
  | over

def Station.Unserved : Station → Prop
  | .idle _ => True
  | .linked serving _ => serving = false
  | .leaving | .over => False

def attemptResets : Attempt → Bool
  | .scheduled => true
  | .onDemand _ => false

def senderServes : Sender → Bool
  | .request _ initial => !initial
  | .heartbeat => true

def purposeServes : Purpose → Bool
  | .negStart _ _ _ | .negFinish _ _ _ _ => false
  | .session sender => senderServes sender

def doing : Sending → Doing
  | .build _ _ => .nothing
  | .pack msg | .encrypt msg _ => .holding msg.seqno
  | .write => .writing

def handshakeStation (a : Attempt) : Handshake → Station
  | .resolve | .discover _ | .dial _ => .idle (attemptResets a)
  | .dialed | .negotiate | .awaitResponse _ _ | .store _ _ _ => .linked false .nothing

def station : Pc → Station
  | .readBackoff | .waitForBackoff => .idle true
  | .jitter | .loopHead | .tryHead | .onDemand | .checkStopped => .idle false
  | .connectFailed _ _ | .announceFailed _ _ | .checkPersist _ | .scheduleRetry _ => .idle false
  | .connecting a h => handshakeStation a h
  | .markConnected _ | .announceConnected _ | .spawnReader => .linked false .nothing
  | .beginRequest _ initial | .readEffective _ initial => .linked (!initial) .nothing
  | .awaitReply _ initial _ => .linked (!initial) .nothing
  | .generate sender _ _ _ => .linked (senderServes sender) .nothing
  | .sending p s => .linked (purposeServes p) (doing s)
  | .maintain | .channelClosed | .tickPersist | .tickDue => .linked true .nothing
  | .handleDisconnect _ | .announceDisconnect _ | .countFailure _ => .leaving
  | .exiting | .exited | .crashed => .over

structure Chart where
  seqno : UInt32
  conns : List Connection
  failureCount : UInt32
  successCount : UInt32
  reader : ReaderStatus
  station : Station

def chart (w : World) : Chart where
  seqno := w.seqno
  conns := w.conns
  failureCount := w.shared.failureCount
  successCount := w.shared.successCount
  reader := w.reader
  station := station w.pc

def Chart.counts (ch : Chart) (s : State) : Chart :=
  { ch with failureCount := s.failureCount, successCount := s.successCount }

end Chart

section Course

variable (C : Crates) (S : Codec) (build : Build) (device : Device)

/-- What a step can do to the chart. -/
inductive Course (w : World) (e : Event) (w' : World) : Prop where
  | stays (h : chart w' = chart w)
  | rests (hfrom : (station w.pc).Unserved)
      (h : chart w' = { chart w with station := .idle false })
  | ends (h : chart w' = { chart w with station := .over })
  | resets (before after : Bool) (hfrom : station w.pc = .idle before)
      (h : chart w' = { chart w with seqno := 1, station := .idle after })
  | opens (a : Attempt) (addr : String) (hpc : w.pc = .connecting a (.dial addr))
      (he : e = .task .dialed)
      (h : chart w' = { chart w with
        conns := .fresh :: w.conns, station := .linked false .nothing })
  | agrees (key : Bytes) (h : chart w' = { chart w with conns := onLatest (agreed key) w.conns })
  | builds (p : Purpose) (cmd : UInt32) (payload : Bytes)
      (hpc : w.pc = .sending p (.build cmd payload))
      (hfits : build.overflowChecks = true → w.seqno.toNat + 1 < 2 ^ 32)
      (h : chart w' = { chart w with
        seqno := w.seqno + 1, station := .linked (purposeServes p) (.holding w.seqno) })
  | frames (serving : Bool) (f : Frame)
      (hfrom : station w.pc = .linked serving (.holding f.seqno))
      (iv : U8Array 12) (protocol : TuyaProtocol) (cipher : TuyaCipher) (msg : TuyaMessage)
      (hseqno : msg.seqno = f.seqno)
      (hbytes : packWith C build iv protocol cipher msg = .ok f.bytes) (hwritten : f.written = 0)
      (h : chart w' = { chart w with
        conns := onLatest (framed f) w.conns, station := .linked serving .writing })
  | writes (n : Nat) (serving : Bool) (hfrom : station w.pc = .linked serving .writing)
      (h : chart w' = { chart w with conns := onLatest (wrote n) w.conns })
  | finishes (serving : Bool) (f : Frame) (hfrom : station w.pc = .linked serving .writing)
      (hcurrent : w.current = some f) (hwhole : f.written = f.bytes.length)
      (h : chart w' = { chart w with station := .linked serving .nothing })
  | fails (serving : Bool) (doing : Doing) (hfrom : station w.pc = .linked serving doing)
      (hfails : sendFails C build device w e = true)
      (h : chart w' = { chart w with station := .linked serving .nothing })
  | leaves (doing : Doing) (hfrom : station w.pc = .linked true doing)
      (h : chart w' = { chart w with reader := .absent, station := .leaving })
  | serves (hfrom : station w.pc = .linked false .nothing)
      (h : chart w' = { chart w with reader := .running 0, station := .linked true .nothing })
  | counts (t : TaskEvent) (err : TuyaError) (he : e = .task t)
      (hpc : w.pc = .scheduleRetry err ∨ w.pc = .countFailure err)
      (h : chart w' = { chart w with
        failureCount := w.shared.failureCount + 1, successCount := 0, station := .idle false })
  | reads (firstByte : UInt8) (stream : Stream) (status : ReaderStatus)
      (he : e = .reader (.packet firstByte stream)) (hreader : w.reader ≠ .absent)
      (h : chart w' = { (chart w).counts
        (packetRead C S build device w firstByte stream).device with reader := status })
  | hears (firstByte : UInt8) (stream : Stream) (he : e = .reader (.late firstByte stream))
      (h : chart w' = (chart w).counts (packetRead C S build device w firstByte stream).device)
  | readerEnds (hreader : w.reader ≠ .absent)
      (h : chart w' = { chart w with reader := .finished })

variable {C S build device} {w w' : World}

theorem Course.still {e : Event} (hstation : station w'.pc = station w.pc)
    (h : chart w' = { chart w with station := station w'.pc }) :
    Course C S build device w e w' := by
  apply Course.stays
  rw [h, hstation]
  rfl

section Task

variable {e : TaskEvent} {p : Purpose}

theorem chart_conclude (w : World) (req : Request) (initial : Bool) (answer : Answer) :
    chart (w.conclude req initial answer)
      = { chart w with station := .linked (!initial) .nothing } := by
  cases initial <;> rfl

theorem steady_counts {s t : State} (h : steady t = steady s) :
    t.failureCount = s.failureCount ∧ t.successCount = s.successCount :=
  ⟨(congrArg State.failureCount h :), (congrArg State.successCount h :)⟩

theorem chart_read {firstByte : UInt8} {stream : Stream} {out : Result (Option TuyaMessage)}
    {r : Reader} (hread : (readAndParseFromStream C S build device firstByte).run
      ⟨w.shared, stream, []⟩ = (out, r)) : chart { w with shared := r.device } = chart w := by
  have hsteady : steady _ = steady w.shared :=
    readAndParseFromStream_steady C S build device firstByte ⟨w.shared, stream, []⟩
  rw [hread] at hsteady
  obtain ⟨hfailures, hsuccesses⟩ := steady_counts hsteady
  rw [chart, hfailures, hsuccesses]
  rfl

theorem chart_cached (w : World) (cipher : Result TuyaCipher) :
    chart { w with shared := w.shared.cached cipher } = chart w := by
  cases cipher <;> rfl

theorem chart_unsent {err : TuyaError} {s : State}
    (h : SendFailure C build device w p e err s) : chart { w with shared := s } = chart w := by
  cases h with
  | packing => exact chart_cached w _
  | writing => rfl

theorem station_unsent {err : TuyaError} {s : State}
    (h : SendFailure C build device w p e err s) :
    ∃ doing, station w.pc = .linked (purposeServes p) doing := by
  obtain ⟨step, hpc⟩ := h.sending
  exact ⟨doing step, by rw [hpc]; rfl⟩

theorem sendFails_unsent {req : Request} {initial : Bool} {err : TuyaError} {s : State}
    (h : SendFailure C build device w (.session (.request req initial)) e err s) :
    sendFails C build device w (.task e) = true := by
  cases h with
  | packing msg protocol iv err hpc hframe =>
    rw [sendFails, hpc]
    dsimp only
    rw [hframe]
  | writing f failure hpc => rw [sendFails, hpc]

theorem purposeServes_attempt {a : Attempt} (h : p.attempt = some a) :
    purposeServes p = false := by
  cases p with
  | session sender => cases h
  | _ => rfl

theorem Course.gives_up {v : World} {a : Attempt} {err : TuyaError}
    (hfrom : (station w.pc).Unserved) (hv : chart v = chart w) :
    Course C S build device w (.task e) (v.goto (.connectFailed a err)) := by
  refine .rests hfrom ?_
  rw [← hv]
  rfl

theorem Course.concludes {v : World} {req : Request} {initial : Bool} {answer : Answer}
    (hfrom : station w.pc = .linked (!initial) .nothing) (hv : chart v = chart w) :
    Course C S build device w (.task e) (v.conclude req initial answer) := by
  apply Course.stays
  rw [chart_conclude, hv, ← hfrom]
  rfl

theorem branch_course (h : Branch C S build device w e w') :
    Course C S build device w (.task e) w' := by
  cases h
  -- the sequence number and the counts of failures
  case loopConnects hpc _ => exact .resets false false (by rw [hpc]; rfl) rfl
  case tryStarts hpc _ => exact .resets false true (by rw [hpc]; rfl) rfl
  case builds p cmd payload hpc hfits => exact .builds p cmd payload hpc hfits rfl
  case failureCounted err hpc _ => exact .counts _ err rfl (.inr hpc) rfl
  case retryScheduled err hpc _ => exact .counts _ err rfl (.inl hpc) rfl
  -- the connection, its key and its frames
  case dials a addr hpc => exact .opens a addr hpc rfl rfl
  case stores key hpc _ =>
    refine .agrees key ?_
    rw [chart, chart, hpc]
    rfl
  case packs p msg protocol iv cipher bytes hpc hcipher hbytes =>
    exact .frames (purposeServes p)
      ⟨p.attempt.isSome, msg.cmd, msg.seqno, cipher.key.val, bytes, 0⟩ (by rw [hpc]; rfl) iv
      protocol cipher msg rfl hbytes rfl rfl
  case writes p f n hpc _ _ => exact .writes n (purposeServes p) (by rw [hpc]; rfl) rfl
  case startWritten f hpc hcurrent hwhole | finishWritten f hpc hcurrent hwhole =>
    exact .finishes false f (by rw [hpc]; rfl) hcurrent hwhole rfl
  case requestWritten initial f hpc hcurrent hwhole _ =>
    exact .finishes (!initial) f (by rw [hpc]; rfl) hcurrent hwhole rfl
  case requestDone initial f hpc hcurrent hwhole _ =>
    exact .finishes (!initial) f (by rw [hpc]; rfl) hcurrent hwhole (chart_conclude w _ _ _)
  case heartbeatWritten f hpc hcurrent hwhole =>
    exact .finishes true f (by rw [hpc]; rfl) hcurrent hwhole rfl
  -- attempts that fail, and frames that are not sent
  case notFound hpc _ | discoveryElapsed hpc | dialFails hpc _ =>
    exact .gives_up (by rw [hpc]; trivial) rfl
  case unanswered hpc _ | storeFails hpc => exact .gives_up (by rw [hpc]; rfl) rfl
  case responseRefused hpc => exact .gives_up (by rw [hpc]; rfl) (chart_read rfl)
  case writeElapsed p a hpc hp => exact .gives_up (by rw [hpc]; exact purposeServes_attempt hp) rfl
  case negotiationUnsent p a err s hp hfail =>
    obtain ⟨doing, hfrom⟩ := station_unsent hfail
    refine .gives_up ?_ (chart_unsent hfail)
    rw [hfrom]
    exact purposeServes_attempt hp
  case requestUnsent req initial err s hfail =>
    obtain ⟨doing, hfrom⟩ := station_unsent hfail
    refine .fails (!initial) doing hfrom (sendFails_unsent hfail) ?_
    rw [chart_conclude, chart_unsent hfail]
  case heartbeatUnsent err s hfail =>
    obtain ⟨doing, hfrom⟩ := station_unsent hfail
    refine .leaves doing hfrom ?_
    rw [← chart_unsent hfail]
    rfl
  -- the loop that serves the connection
  case spawns hpc => exact .serves (by rw [hpc]; rfl) rfl
  case lags hpc _ _ | replies hpc _ _ | replyTimesOut hpc =>
    exact .concludes (by rw [hpc]; rfl) rfl
  case serveCancelled hpc _ | serveDisconnect hpc _ | readerFails hpc _ | shuts hpc =>
    exact .leaves .nothing (by rw [hpc]; rfl) rfl
  -- the end of the task
  case responseCrashes =>
    apply Course.ends
    rw [← chart_read (w := w) rfl]
    rfl
  case packCrashes =>
    apply Course.ends
    rw [← chart_cached w]
    rfl
  case disconnectSilent err hpc _ | disconnectTold err hpc _ =>
    cases err with
    | some err => exact .still (by rw [hpc]; rfl) rfl
    | none => exact .ends rfl
  case jitterCancelled | loopStopped | failureOverflows | foundStopped | exits | tryStopped
  | backoffCancelled | backoffClosed | retryOverflows | demandDisconnect | demandClosed
  | storeCrashes | buildOverflows => exact .ends rfl
  case backoffRejects | passes | serveConnectNow => exact .stays rfl
  case responds hpc hread _ _ =>
    refine .still (by rw [hpc]; rfl) ?_
    rw [← chart_read hread]
    rfl
  all_goals
    rename w.pc = _ => hpc
    exact .still (by rw [hpc]; rfl) rfl

end Task

section System

/-- Only a reader that has been aborted acts without being the reader of the connection. -/
theorem reader_present {e : ReaderEvent} (h : readerNext C S build device w e = some w')
    (hlate : ∀ firstByte stream, e ≠ .late firstByte stream) (hgone : e ≠ .gone) :
    w.reader ≠ .absent := by
  intro habsent
  unfold readerNext at h
  rw [habsent] at h
  cases e with
  | late firstByte stream => exact hlate firstByte stream rfl
  | gone => exact hgone rfl
  | _ => cases h

theorem readerNext_course {e : ReaderEvent} (h : readerNext C S build device w e = some w') :
    Course C S build device w (.reader e) w' := by
  have hpresent := reader_present h
  cases readerNext_inv h with
  | packet firstByte stream status readerError =>
    exact .reads firstByte stream status rfl (hpresent nofun nofun) rfl
  | late firstByte stream => exact .hears firstByte stream rfl rfl
  | ended ending readerError => exact .readerEnds (hpresent nofun nofun) rfl
  | cancelled hcancelled => exact .readerEnds (hpresent nofun nofun) rfl
  | gone => exact .stays rfl

/-- Every step of the system is one of the changes of the chart. -/
theorem next_course {e : Event} (h : next C S build device w e = some w') :
    Course C S build device w e w' := by
  cases next_move h with
  | task hbranch => exact branch_course hbranch
  | drop => exact .ends rfl
  | reader => exact readerNext_course h
  | @user u _ hcall =>
    cases hcall with
    | sets _ f hf =>
      refine .stays ?_
      cases u <;> cases hf <;> rfl
    | _ => exact .stays rfl

end System

end Course

end TaskCourse
