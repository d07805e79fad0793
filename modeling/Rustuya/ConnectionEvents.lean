import Rustuya.TaskBranches

/-!
# What listeners are told about the connection

The task broadcasts when a connection is up, when it has gone, when an attempt has failed and
when it turns a command away. A listener that goes by these announcements is never told that a
connection is up twice in a row, or that one has gone that was not up, and it knows the state
of the connection at every moment at which the task is not about to tell it.
-/
namespace ConnectionEvents

open CheckedExecution StatefulExecution ByteCodec Error Crypto Message Protocol Json
open DeviceState StreamReader ConnectionLifecycle ConnectionTask TransitionSystem TaskBranches

inductive Announcement where
  | connected
  | disconnected (err : Option TuyaError)
  | failed (e : TuyaError)
  | refused
  deriving DecidableEq

def Announcement.message (S : Codec) (s : State) : Announcement → TuyaMessage
  | .connected => errorHelper S s errSuccess none
  | .disconnected err => errorHelper S s (disconnectCode err) none
  | .failed e => errorHelper S s e.code (some (.string e.display))
  | .refused => errorHelper S s errOffline none

def announced (w : World) : Event → List Announcement
  | .task t =>
    match w.pc with
    | .announceConnected _ => [.connected]
    | .announceDisconnect err => if w.stopped then [] else [.disconnected err]
    | .announceFailed .scheduled e => [.failed e]
    | .announceFailed (.onDemand _) e => [.failed e, .refused]
    | .waitForBackoff =>
      match t, w.queue with
      | .recv, .connectNow :: _ => []
      | .recv, _ :: _ => [.refused]
      | _, _ => []
    | _ => []
  | _ => []

section Listener

/-- How a listener takes an announcement; `none` if it makes no sense to it. -/
def hear (online : Bool) : Announcement → Option Bool
  | .connected => if online then none else some true
  | .disconnected _ => if online then some false else none
  | .failed _ | .refused => if online then none else some false

def follow (online : Bool) (told : List Announcement) : Option Bool := told.foldlM hear online

theorem follow_append {online online' : Bool} {told : List Announcement}
    (h : follow online told = some online') (more : List Announcement) :
    follow online (told ++ more) = follow online' more := by
  rw [follow, List.foldlM_append]
  change (follow online told).bind _ = _
  rw [h]
  rfl

end Listener

section Places

/-- What a listener should believe, by where the task is. -/
inductive Place where
  | offline
  | online
  /-- After a connection that may have ended without announcement. -/
  | settling
  | over
  deriving DecidableEq

def placeOf : Pc → Place
  | .beginRequest _ _ | .generate _ _ _ _ | .sending (.session _) _ | .readEffective _ _ => .online
  | .awaitReply _ _ _ | .spawnReader | .maintain | .channelClosed | .tickPersist => .online
  | .tickDue | .handleDisconnect _ | .announceDisconnect _ => .online
  | .countFailure _ | .checkStopped => .settling
  | .exiting | .exited | .crashed => .over
  | _ => .offline

/-- The listener knows. A connection that ends silently is the last one. -/
def Knows (online : Bool) (w : World) : Prop :=
  match placeOf w.pc with
  | .offline => online = false
  | .online => online = true
  | .settling => online = false ∨ w.stopped = true
  | .over => True

/-- At these places the device may say that it is connected. -/
def mayConnect : Pc → Bool
  | .announceConnected _ => true
  | .announceDisconnect _ => false
  | pc => decide (placeOf pc = .online ∨ placeOf pc = .over)

end Places

section Steps

variable {C : Crates} {S : Codec} {build : Build} {device : Device} {w w' : World} {t : TaskEvent}
  {e : Event} {online : Bool}

theorem branch_announces (h : Branch C S build device w t w') :
    w'.broadcast
      = w.broadcast ++ (announced w (.task t)).map (Announcement.message S w.shared) := by
  cases h
  case disconnectSilent hpc hstopped =>
    simp only [announced, hpc, if_pos hstopped]
    exact (List.append_nil _).symm
  case disconnectTold hpc hrunning =>
    simp only [announced, hpc, hrunning]
    rfl
  case backoffConnectNow hpc hqueue =>
    simp only [announced, hpc, hqueue]
    exact (List.append_nil _).symm
  case backoffRejects cmd rest hcmd hpc hqueue =>
    cases cmd with
    | connectNow => exact absurd rfl hcmd
    | request req | disconnect =>
      simp only [announced, hpc, hqueue]
      rfl
  case backoffClosed hpc hqueue _ =>
    simp only [announced, hpc, hqueue]
    exact (List.append_nil _).symm
  case failsOnDemand hpc =>
    simp only [announced, hpc]
    exact List.append_assoc ..
  case requestUnsent hfail | heartbeatUnsent hfail | negotiationUnsent hfail =>
    obtain ⟨step, hpc⟩ := hfail.sending
    simp only [announced, hpc]
    exact (List.append_nil _).symm
  all_goals
    simp only [announced, *]
    first
      | rfl
      | exact (List.append_nil _).symm

def Follows (online : Bool) (told : List Announcement) (w' : World) : Prop :=
  ∃ online', follow online told = some online' ∧ Knows online' w'

theorem follows_silent (hnone : announced w e = []) (h : Knows online w') :
    Follows online (announced w e) w' := by
  rw [hnone]
  exact ⟨online, rfl, h⟩

theorem placeOf_sending (p : Purpose) (s s' : Sending) :
    placeOf (.sending p s) = placeOf (.sending p s') := by
  cases p <;> rfl

theorem placeOf_attempt {p : Purpose} {a : Attempt} (hp : p.attempt = some a) (s : Sending) :
    placeOf (.sending p s) = .offline := by
  cases p <;> cases hp <;> rfl

theorem Knows.congr (h : Knows online w) (hplace : placeOf w'.pc = placeOf w.pc)
    (hstopped : w.stopped = true → w'.stopped = true) : Knows online w' := by
  unfold Knows at h ⊢
  rw [hplace]
  cases hw : placeOf w.pc <;> rw [hw] at h
  case settling => exact h.imp_right hstopped
  all_goals exact h

theorem knows_offline (hplace : placeOf w.pc = .offline) : Knows online w ↔ online = false := by
  rw [Knows, hplace]

theorem knows_online (hplace : placeOf w.pc = .online) : Knows online w ↔ online = true := by
  rw [Knows, hplace]

theorem placeOf_conclude (req : Request) (initial : Bool) (answer : Answer) :
    placeOf (w.conclude req initial answer).pc = .online := by
  cases initial <;> rfl

theorem follows_conclude {req : Request} {initial : Bool} {answer : Answer}
    (hnone : announced w e = []) (h : online = true) :
    Follows online (announced w e) (w'.conclude req initial answer) :=
  follows_silent hnone ((knows_online (placeOf_conclude req initial answer)).mpr h)

theorem branch_follows (h : Branch C S build device w t w') (hw : Knows online w) :
    Follows online (announced w (.task t)) w' := by
  cases h
  case disconnectSilent err hpc hstopped =>
    refine follows_silent (by simp only [announced, hpc, if_pos hstopped]) ?_
    cases err with
    | none => trivial
    | some e => exact .inr hstopped
  case disconnectTold err hpc hrunning =>
    rw [knows_online (by rw [hpc]; rfl)] at hw
    simp only [announced, hpc, hrunning]
    refine ⟨false, by rw [hw]; rfl, ?_⟩
    cases err with
    | none => trivial
    | some e => exact .inl rfl
  case failureCounted hpc _ =>
    exact follows_silent (by simp only [announced, hpc]) (hw.congr (by rw [hpc]; rfl) id)
  case reconnects hpc hrunning =>
    simp only [Knows, hpc, placeOf, hrunning, Bool.false_eq_true, or_false] at hw
    exact follows_silent (by simp only [announced, hpc]) hw
  case backoffConnectNow hpc hqueue =>
    rw [knows_offline (by rw [hpc]; rfl)] at hw
    exact follows_silent (by simp only [announced, hpc, hqueue]) hw
  case backoffRejects cmd rest hcmd hpc hqueue =>
    have hstays : Knows false (World.broadcastError S { w with
        queue := rest
        replies := w.replies ++ RequestLifecycle.refusals .offline [cmd] } errOffline none) := by
      rw [knows_offline]
      change placeOf w.pc = .offline
      rw [hpc]
      rfl
    rw [knows_offline (by rw [hpc]; rfl)] at hw
    cases cmd with
    | connectNow => exact absurd rfl hcmd
    | request req | disconnect =>
      refine ⟨false, ?_, hstays⟩
      simp only [announced, hpc, hqueue, hw]
      rfl
  case backoffClosed hpc hqueue _ =>
    exact follows_silent (by simp only [announced, hpc, hqueue]) trivial
  case requestUnsent hfail =>
    obtain ⟨step, hpc⟩ := hfail.sending
    rw [knows_online (by rw [hpc]; rfl)] at hw
    exact follows_conclude (by simp only [announced, hpc]) hw
  case heartbeatUnsent hfail =>
    obtain ⟨step, hpc⟩ := hfail.sending
    rw [knows_online (by rw [hpc]; rfl)] at hw
    exact follows_silent (by simp only [announced, hpc]) hw
  case negotiationUnsent hp hfail =>
    obtain ⟨step, hpc⟩ := hfail.sending
    rw [knows_offline (by rw [hpc]; exact placeOf_attempt hp step)] at hw
    exact follows_silent (by simp only [announced, hpc]) hw
  case writeElapsed hpc hp =>
    rw [knows_offline (by rw [hpc]; exact placeOf_attempt hp _)] at hw
    exact follows_silent (by simp only [announced, hpc]) hw
  case builds hpc _ | readsSettings hpc | packs hpc _ _ =>
    refine follows_silent (by simp only [announced, hpc]) (hw.congr ?_ id)
    rw [hpc]
    exact placeOf_sending _ _ _
  case writes hpc _ _ =>
    exact follows_silent (by simp only [announced, hpc]) (hw.congr rfl id)
  case requestDone hpc _ _ _ | lags hpc _ _ | replies hpc _ _ | replyTimesOut hpc =>
    rw [knows_online (by rw [hpc]; rfl)] at hw
    exact follows_conclude (by simp only [announced, hpc]) hw
  case passes hpc _ _ => exact follows_silent (by simp only [announced, hpc]) (hw.congr rfl id)
  case serveConnectNow hpc _ =>
    exact follows_silent (by simp only [announced, hpc]) (hw.congr rfl id)
  case announcesScheduled hpc | announcesOnDemand hpc =>
    rw [knows_offline (by rw [hpc]; rfl)] at hw
    exact ⟨true, by simp only [announced, hpc, hw]; rfl, rfl⟩
  case failsScheduled hpc | failsOnDemand hpc =>
    rw [knows_offline (by rw [hpc]; rfl)] at hw
    exact ⟨false, by simp only [announced, hpc, hw]; rfl, rfl⟩
  -- What is left is silent, and stays on its side or ends.
  all_goals
    simp only [Knows, placeOf, *] at hw
    first
      | exact follows_silent (by simp only [announced, *]) trivial
      | exact follows_silent (by simp only [announced, *]) hw

theorem call_stopped {u : UserEvent} (h : TaskBranches.Call w u w') (hstopped : w.stopped = true) :
    w'.stopped = true := by
  cases h with
  | stops => rfl
  | marksClosed =>
    rw [World.stopped, decide_eq_true_eq] at hstopped ⊢
    change dropped w.shared.state = .stopped
    rw [hstopped]
    rfl
  | sets _ f hf =>
    cases u <;> cases hf <;> exact hstopped
  | _ => exact hstopped

theorem reader_state {r : ReaderEvent} (h : ReaderStep C S build device w r w') :
    w'.pc = w.pc ∧ w'.shared.state = w.shared.state := by
  cases h with
  | packet firstByte stream | late firstByte stream =>
    exact ⟨rfl, (packet_sameSession w firstByte stream).state⟩
  | ended | cancelled | gone => exact ⟨rfl, rfl⟩

theorem next_follows (h : next C S build device w e = some w') (hw : Knows online w) :
    Follows online (announced w e) w' := by
  cases next_move h with
  | task hbranch => exact branch_follows hbranch hw
  | drop => exact follows_silent rfl trivial
  | reader hreader =>
    obtain ⟨hpc, hstate⟩ := reader_state hreader
    refine follows_silent rfl (hw.congr (by rw [hpc]) ?_)
    rw [World.stopped, World.stopped, hstate]
    exact id
  | user hcall =>
    have hpc : w'.pc = w.pc := by cases hcall <;> rfl
    exact follows_silent rfl (hw.congr (by rw [hpc]) (call_stopped hcall))

/-- The device only says that it is connected between the two announcements. -/
def Honest (w : World) : Prop := w.connected = true → mayConnect w.pc = true

theorem Honest.congr (h : Honest w) (hstate : w'.shared.state = w.shared.state)
    (hpc : mayConnect w.pc = true → mayConnect w'.pc = true) : Honest w' := by
  intro hconnected
  rw [World.connected, hstate] at hconnected
  exact hpc (h hconnected)

theorem honest_dropped (hstate : w'.shared.state = dropped w.shared.state) : Honest w' := by
  intro hconnected
  rw [World.connected, hstate, decide_eq_true_eq] at hconnected
  exact absurd hconnected (dropped_ne_connected _)

theorem mayConnect_cases {pc : Pc} (h : mayConnect pc = true) :
    (∃ a, pc = .announceConnected a) ∨ placeOf pc = .online ∨ placeOf pc = .over := by
  unfold mayConnect at h
  split at h
  next a => exact .inl ⟨a, rfl⟩
  next => cases h
  next => exact .inr (of_decide_eq_true h)

theorem mayConnect_sending (p : Purpose) (s s' : Sending) :
    mayConnect (.sending p s) = mayConnect (.sending p s') := by
  cases p <;> rfl

theorem mayConnect_attempt {p : Purpose} {a : Attempt} (hp : p.attempt = some a) (s : Sending) :
    mayConnect (.sending p s) = false := by
  cases p <;> cases hp <;> rfl

theorem mayConnect_conclude (req : Request) (initial : Bool) (answer : Answer) :
    mayConnect (w.conclude req initial answer).pc = true := by
  cases initial <;> rfl

theorem branch_honest (h : Branch C S build device w t w') (hw : Honest w) : Honest w' := by
  cases h
  case disconnects => exact honest_dropped rfl
  case attemptDropped => exact honest_dropped rfl
  case responds hpc hread _ _ =>
    refine hw.congr (read_sameSession hread).state ?_
    rw [hpc]
    exact id
  case responseRefused hpc =>
    refine hw.congr (read_sameSession (w := w) rfl).state ?_
    rw [hpc]
    exact id
  case negotiationUnsent hp hfail =>
    obtain ⟨step, hpc⟩ := hfail.sending
    refine hw.congr hfail.sameSession.state ?_
    rw [hpc, mayConnect_attempt hp]
    exact id
  case builds hpc _ =>
    refine hw.congr rfl ?_
    rw [hpc, mayConnect_sending]
    exact id
  case readsSettings hpc =>
    refine hw.congr rfl ?_
    rw [hpc, mayConnect_sending]
    exact id
  case packs hpc _ _ =>
    refine hw.congr rfl ?_
    rw [hpc, mayConnect_sending]
    exact id
  case writeElapsed hpc hp =>
    refine hw.congr rfl ?_
    rw [hpc, mayConnect_attempt hp]
    exact id
  case writes | passes | serveConnectNow => exact hw.congr rfl id
  case requestDone | requestUnsent | lags | replies | replyTimesOut =>
    exact fun _ => mayConnect_conclude _ _ _
  -- What is left ends where the device may be connected, or begins where it is not.
  all_goals first
    | exact fun _ => rfl
    | exact hw.congr rfl (by rw [‹w.pc = _›]; exact fun h => absurd h Bool.false_ne_true)

theorem call_honest {u : UserEvent} (h : TaskBranches.Call w u w') (hw : Honest w) : Honest w' := by
  cases h with
  | stops => exact fun hconnected => by cases hconnected
  | marksClosed => exact honest_dropped rfl
  | sets _ f hf => cases u <;> cases hf <;> exact hw.congr rfl id
  | _ => exact hw.congr rfl id

theorem next_honest (h : next C S build device w e = some w') (hw : Honest w) : Honest w' := by
  cases next_move h with
  | task hbranch => exact branch_honest hbranch hw
  | drop => exact fun _ => rfl
  | reader hreader =>
    obtain ⟨hpc, hstate⟩ := reader_state hreader
    exact hw.congr hstate (by rw [hpc]; exact id)
  | user hcall => exact call_honest hcall hw

end Steps

section Runs

variable {w : World} {es : List Event}

/-- In every run the announcements of the task make sense to a listener that starts with no
connection: a connection comes up only when none is up, goes only when one is up, and attempts
fail and commands are turned away only while none is up. The listener is right whenever the
task is waiting, for a connection or on one; and when the device says that it is connected, the
listener has been told or is about to be, or the task is ending. -/
theorem announcements_alternate (C : Crates) (S : Codec) (build : Build) (b : DeviceBuilder)
    (hrun : Execution (next C S build b.device) (fun _ _ => True) b.run es w) :
    (∃ online, follow false (harvest announced (next C S build b.device) b.run es) = some online ∧
      (placeOf w.pc = .online → online = true) ∧ (placeOf w.pc = .offline → online = false) ∧
      (w.connected = true →
        online = true ∨ (∃ a, w.pc = .announceConnected a) ∨ placeOf w.pc = .over)) ∧
    ∀ t w', next C S build b.device w (.task t) = some w' →
      w'.broadcast
        = w.broadcast ++ (announced w (.task t)).map (Announcement.message S w.shared) := by
  have hstart : ∃ online, follow false [] = some online ∧ Knows online b.run := ⟨false, rfl, rfl⟩
  obtain ⟨online, hfollow, hknows⟩ := hrun.records (f := announced)
    (P := fun told w => ∃ online, follow false told = some online ∧ Knows online w)
    (fun told v e v' _ hnext ⟨online, hfollow, hknows⟩ => by
      obtain ⟨online', hmore, hknows'⟩ := next_follows hnext hknows
      exact ⟨online', (follow_append hfollow _).trans hmore, hknows'⟩)
    hstart
  have hhonest : Honest w := hrun.invariant (P := Honest)
    (fun _ _ _ _ hnext hw => next_honest hnext hw) fun hconnected => by cases hconnected
  refine ⟨⟨online, hfollow, fun hplace => (knows_online hplace).mp hknows,
    fun hplace => (knows_offline hplace).mp hknows, fun hconnected => ?_⟩, fun t w' hnext => ?_⟩
  · rcases mayConnect_cases (hhonest hconnected) with hannounce | honline | hover
    · exact .inr (.inl hannounce)
    · exact .inl ((knows_online honline).mp hknows)
    · exact .inr (.inr hover)
  · cases next_move hnext with
    | task hbranch => exact branch_announces hbranch

def lostSteps : List Event :=
  [.task .slept, .task .go, .task .go, .task .go, .task .go, .task .dialed, .task .go, .task .go,
    .task .go, .task .go, .reader (.ended .eof), .task .readerFailed, .task .go, .task .go,
    .task .go, .task .go, .task .go, .task .go, .task .go, .task .slept, .task .go,
    .task .refused, .task .go, .task .go]

theorem lost_connection_announced :
    ∃ w, run (sampleNext .v33) (sampleBuilder .v33).run lostSteps = some w ∧
      harvest announced (sampleNext .v33) (sampleBuilder .v33).run lostSteps
        = [.connected, .disconnected (some .keyOrVersionError), .failed .connectionFailed] ∧
      ∃ online, follow false (harvest announced (sampleNext .v33) (sampleBuilder .v33).run
        lostSteps) = some online ∧ (placeOf w.pc = .offline → online = false) := by
  obtain ⟨w, hrun, htold⟩ := Option.map_eq_some_iff.mp (show
    (run (sampleNext .v33) (sampleBuilder .v33).run lostSteps).map (fun _ =>
      harvest announced (sampleNext .v33) (sampleBuilder .v33).run lostSteps)
      = some [.connected, .disconnected (some .keyOrVersionError), .failed .connectionFailed] by
    decide +kernel)
  obtain ⟨⟨online, hfollow, -, hoffline, -⟩, -⟩ := announcements_alternate KnownAnswers.crates
    (KnownAnswers.json []) .release (sampleBuilder .v33)
    (execution_of_run (fun _ _ => trivial) hrun)
  exact ⟨w, hrun, htold, online, hfollow, hoffline⟩

end Runs

end ConnectionEvents
