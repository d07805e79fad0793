import Rustuya.RequestAccounting
import Rustuya.TaskBranches
import Rustuya.TaskRefinement

/-!
# The task goes on

Whatever the task waits for, it does not wait for the device for ever: every `await` but the
one for a next command has a timer. Between two of them it takes a bounded number of steps, and
once it has been cancelled it ends at the next one.
-/
namespace TaskProgress

open CheckedExecution ByteCodec Error Crypto Message Protocol Json DeviceState
open ConnectionLifecycle ConnectionTask TransitionSystem TaskBranches
open RequestLifecycle (queuedIds step_cancelled)
open RequestRefinement (desk next_step)
open RequestAccounting
open TaskRefinement (Placed stageOf next_placed placed_run)

section Distance

/-- How many steps it takes at most from here to the next `await` or the end. -/
def distance : Pc → Nat
  | .exiting | .readEffective _ _ | .spawnReader | .connecting _ .resolve => 1
  | .readBackoff => 2
  | .tryHead => 3
  | .loopHead | .scheduleRetry _ => 4
  | .checkStopped | .checkPersist _ => 5
  | .countFailure _ | .announceFailed _ _ => 6
  | .announceDisconnect _ | .connectFailed _ _ => 7
  | .handleDisconnect _ => 8
  | .channelClosed | .sending _ (.encrypt _ _) => 9
  | .sending _ (.pack _) => 10
  | .sending _ (.build _ _) => 11
  | .generate _ _ _ _ | .connecting _ .negotiate => 12
  | .beginRequest _ _ | .tickDue => 13
  | .announceConnected _ | .tickPersist => 14
  | .markConnected _ => 15
  | .connecting _ (.store _ _ _) | .connecting _ .dialed => 16
  | _ => 0

theorem distance_le (pc : Pc) : distance pc ≤ 16 := by
  unfold distance
  split <;> decide

variable {C : Crates} {S : Codec} {build : Build} {device : Device} {w w' : World} {t : TaskEvent}
  {e : Event}

theorem distance_conclude (req : Request) (initial : Bool) (answer : Answer) :
    distance (w.conclude req initial answer).pc ≤ 1 := by
  cases initial <;> exact Nat.le_of_ble_eq_true rfl

theorem distance_unsent {p : Purpose} {err : TuyaError} {s : State}
    (h : SendFailure C build device w p t err s) (hbusy : w.pc.suspended = false) :
    distance w.pc = 9 := by
  cases h with
  | packing msg protocol iv err hpc =>
    rw [hpc]
    rfl
  | writing f failure hpc =>
    rw [hpc] at hbusy
    cases hbusy

theorem branch_nearer (h : Branch C S build device w t w') (hbusy : w.pc.suspended = false) :
    distance w'.pc < distance w.pc := by
  cases h
  case disconnectSilent err hpc _ | disconnectTold err hpc _ =>
    rw [hpc]
    cases err <;> exact Nat.le_of_ble_eq_true rfl
  case negotiationUnsent hfail | heartbeatUnsent hfail =>
    rw [distance_unsent hfail hbusy]
    exact Nat.le_of_ble_eq_true rfl
  case requestUnsent hfail =>
    rw [distance_unsent hfail hbusy]
    exact Nat.lt_of_le_of_lt (distance_conclude _ _ _) (by decide)
  all_goals first
    | (rw [‹w.pc = _›]; exact Nat.le_of_ble_eq_true rfl)
    | (rw [‹w.pc = _›] at hbusy; cases hbusy)

end Distance

section Enabled

variable {C : Crates} {S : Codec} {build : Build} {device : Device} {w w' : World} {t : TaskEvent}
  {e : Event}

/-- What happens by itself: the task goes on, draws a number, reads the clock, or one of its
timers fires. -/
def unaided : TaskEvent → Bool
  | .go | .slept | .elapsed | .drawn _ | .clock _ | .packed _ | .writeDone => true
  | .writeFailed .timeout | .noResponse .silent | .replyTimeout | .tick | .due _ => true
  | _ => false

def Writable (w : World) : Prop :=
  ∀ p, w.pc = .sending p .write → ∃ f, w.current = some f ∧ f.written ≤ f.bytes.length

def GoesOn (C : Crates) (S : Codec) (build : Build) (device : Device) (w : World) : Prop :=
  ∃ t w', unaided t = true ∧ taskNext C S build device w t = some w'

def zeros (n : Nat) : U8Array n := ⟨List.replicate n 0, List.length_replicate ..⟩

def endsWrite : TaskEvent → Bool
  | .writeDone | .writeFailed .timeout => true
  | _ => false

theorem unaided_of_endsWrite (h : endsWrite t = true) : unaided t = true := by
  unfold endsWrite at h
  split at h
  · rfl
  · rfl
  · cases h

theorem write_ends {p : Purpose} (hw : Writable w) (hpc : w.pc = .sending p .write) :
    ∃ t w', endsWrite t = true ∧ taskNext C S build device w t = some w' := by
  obtain ⟨f, hcurrent, hle⟩ := hw p hpc
  by_cases hwhole : f.written = f.bytes.length
  · refine ⟨.writeDone, sent w p, rfl, ?_⟩
    rw [taskNext, hpc]
    dsimp only [sendRawToStream, writeAll]
    rw [hcurrent]
    exact if_pos hwhole
  · refine ⟨.writeFailed .timeout, sendFailed w .timeout p, rfl, ?_⟩
    rw [taskNext, hpc]
    dsimp only [sendRawToStream, writeAll]
    rw [hcurrent]
    exact if_pos (Nat.lt_of_le_of_ne hle hwhole)

theorem goesOn (hw : Writable w) (hover : ¬ Exited w) (hdemand : w.pc ≠ .onDemand) :
    GoesOn C S build device w := by
  unfold GoesOn taskNext
  cases hpc : w.pc
  case jitter => exact ⟨.slept, _, rfl, rfl⟩
  case waitForBackoff => exact ⟨.slept, _, rfl, rfl⟩
  case onDemand => exact absurd hpc hdemand
  case connecting a h =>
    cases h with
    | resolve | dialed | store => exact ⟨.go, _, rfl, rfl⟩
    | discover | dial | awaitResponse => exact ⟨.elapsed, _, rfl, rfl⟩
    | negotiate => exact ⟨.drawn (zeros 16), _, rfl, rfl⟩
  case generate => exact ⟨.clock 0, _, rfl, rfl⟩
  case sending p s =>
    cases s with
    | build | pack => exact ⟨.go, _, rfl, rfl⟩
    | encrypt => exact ⟨.packed (zeros 12), _, rfl, rfl⟩
    | write =>
      have hwrite : ∃ t w', endsWrite t = true ∧ taskNext C S build device w t = some w' :=
        write_ends hw hpc
      obtain ⟨t, w', ht, hnext⟩ := hwrite
      rw [taskNext, hpc] at hnext
      exact ⟨t, w', unaided_of_endsWrite ht, hnext⟩
  case awaitReply => exact ⟨.replyTimeout, _, rfl, rfl⟩
  case maintain => exact ⟨.tick, _, rfl, rfl⟩
  case tickDue => exact ⟨.due false, _, rfl, rfl⟩
  case exited => exact absurd (.inl hpc) hover
  case crashed => exact absurd (.inr hpc) hover
  all_goals exact ⟨.go, _, rfl, rfl⟩

end Enabled

section Runs

variable {C : Crates} {S : Codec} {build : Build} {device : Device} {w w' v : World}
  {t : TaskEvent} {e : Event} {es fs : List Event}

theorem conclude_ne_write (req : Request) (initial : Bool) (answer : Answer) (q : Purpose) :
    (w.conclude req initial answer).pc ≠ .sending q .write := by
  cases initial <;> exact Pc.noConfusion

theorem afterDisconnect_ne_write (err : Option TuyaError) (q : Purpose) :
    afterDisconnect err ≠ .sending q .write := by
  cases err <;> exact Pc.noConfusion

theorem current_wrote {f : Frame} (h : w.current = some f) (n : Nat) :
    World.current { w with conns := onLatest (wrote n) w.conns }
      = some { f with written := f.written + n } := by
  unfold World.current at h ⊢
  obtain ⟨c, hc, hf⟩ := Option.bind_eq_some_iff.mp h
  obtain ⟨rest, hconns⟩ := List.head?_eq_some_iff.mp hc
  obtain ⟨fs, hframes⟩ := List.head?_eq_some_iff.mp hf
  simp only [hconns, onLatest, wrote, hframes, List.head?_cons, Option.bind_some]

theorem branch_writable (h : Branch C S build device w t w') (hplaced : Placed w)
    (hw : Writable w) : Writable w' := by
  intro q hq
  cases h
  case packs p _ _ _ _ _ hpc _ _ =>
    have hlive : w.conns ≠ [] := by
      refine hplaced.connected ?_
      change (stageOf w.pc).Live
      rw [hpc]
      cases p <;> trivial
    obtain ⟨c, rest, hconns⟩ := List.exists_cons_of_ne_nil hlive
    simp only [World.current, hconns, onLatest, framed, List.head?_cons, Option.bind_some]
    exact ⟨_, rfl, Nat.zero_le _⟩
  case writes hcurrent hfits => exact ⟨_, current_wrote hcurrent _, hfits⟩
  case requestDone | requestUnsent | lags | replies | replyTimesOut =>
    exact absurd hq (conclude_ne_write _ _ _ q)
  case disconnectSilent | disconnectTold => exact absurd hq (afterDisconnect_ne_write _ q)
  case backoffRejects | passes | serveConnectNow => exact hw q hq
  all_goals cases hq

theorem next_writable (h : next C S build device w e = some w') (hplaced : Placed w)
    (hw : Writable w) : Writable w' := by
  cases next_move h with
  | task hbranch => exact branch_writable hbranch hplaced hw
  | drop => exact fun q hq => by cases hq
  | reader hreader => cases hreader <;> exact hw
  | user hcall => cases hcall <;> exact hw

theorem run_writable (b : DeviceBuilder)
    (h : Execution (next C S build b.device) (fun _ _ => True) b.run es w) : Writable w := by
  have hboth : Placed w ∧ Writable w := h.invariant (P := fun w => Placed w ∧ Writable w)
    (fun _ _ _ _ hnext hw => ⟨next_placed hw.1 hnext, next_writable hnext hw.1 hw.2⟩)
    ⟨placed_run b, fun q hq => by cases hq⟩
  exact hboth.2

end Runs

section Silence

def pending (w : World) : Bool := !(held w).isEmpty || !w.queue.isEmpty

def takes : TaskEvent → Bool
  | .recv => true
  | _ => false

def expires : TaskEvent → Bool
  | .elapsed => true
  | _ => false

/-- What the task does when nothing comes from the device and nobody calls: it takes a command
that is waiting, and where it waits for the device its timers fire. -/
def silent (w : World) (t : TaskEvent) : Bool :=
  match w.pc with
  | .waitForBackoff | .onDemand | .maintain => takes t
  | .sending (.session _) .write => endsWrite t
  | .sending (.negStart _ _ _) .write | .sending (.negFinish _ _ _ _) .write => expires t
  | _ => unaided t

variable {C : Crates} {S : Codec} {build : Build} {device : Device} {w w' v : World}
  {t : TaskEvent} {e : Event} {es fs : List Event}

theorem taskNext_unexited (h : taskNext C S build device w t = some w') : ¬ Exited w := by
  rintro (hpc | hpc) <;> (rw [taskNext, hpc] at h; cases h)

def Closed (w : World) : Prop := Exited w → w.queue = [] ∧ w.queueClosed = true

theorem conclude_unexited (req : Request) (initial : Bool) (answer : Answer) :
    ¬ Exited (w.conclude req initial answer) := by
  cases initial <;> (rintro (hpc | hpc) <;> cases hpc)

theorem afterDisconnect_unexited (err : Option TuyaError) :
    ¬ Exited (w.goto (afterDisconnect err)) := by
  cases err <;> (rintro (hpc | hpc) <;> cases hpc)

theorem branch_closed (h : Branch C S build device w t w') : Closed w' := by
  intro hexited
  cases h
  case requestDone | requestUnsent | lags | replies | replyTimesOut =>
    exact absurd hexited (conclude_unexited _ _ _)
  case disconnectSilent | disconnectTold => exact absurd hexited (afterDisconnect_unexited _)
  case backoffRejects hpc _ | writes hpc _ _ | passes hpc _ _ | serveConnectNow hpc _ =>
    rcases hexited with hend | hend <;> cases hpc.symm.trans hend
  all_goals first
    | exact ⟨rfl, rfl⟩
    | (rcases hexited with hend | hend <;> cases hend)

theorem call_closed {u : UserEvent} (h : TaskBranches.Call w u w') (hw : Closed w) : Closed w' := by
  intro hexited
  have hpc : w'.pc = w.pc := by cases h <;> rfl
  obtain ⟨hqueue, hclosed⟩ := hw (by rw [Exited, ← hpc]; exact hexited)
  cases h
  case submits hopen _ | asksNow hopen _ | disconnects hopen _ =>
    rw [hclosed] at hopen
    cases hopen
  all_goals exact ⟨hqueue, hclosed⟩

theorem next_closed (h : next C S build device w e = some w') (hw : Closed w) : Closed w' := by
  cases next_move h with
  | task hbranch => exact branch_closed hbranch
  | drop =>
    rintro (hend | hend) <;> cases hend
  | reader hreader => cases hreader <;> exact hw
  | user hcall => exact call_closed hcall hw

theorem run_closed (b : DeviceBuilder)
    (h : Execution (next C S build b.device) (fun _ _ => True) b.run es w) : Closed w := by
  refine h.invariant (P := Closed) (fun _ _ _ _ hnext hw => next_closed hnext hw) ?_
  rintro (hend | hend) <;> cases hend

theorem unpending_of_exited (hw : Closed w) (h : Exited w) : pending w = false := by
  have hheld : held w = [] := by
    rcases h with hpc | hpc <;> (rw [held, hpc]; rfl)
  rw [pending, hheld, (hw h).1]
  rfl

end Silence

section Cancellation

variable {C : Crates} {S : Codec} {build : Build} {device : Device} {w w' : World} {e : Event}

def own : Event → Bool
  | .task _ | .drop => true
  | .reader _ | .user _ => false

def Unawaited (w : World) (e : Event) : Prop := own e = true → w.pc.suspended = false

/-- At an `await`, the task only takes notice of its cancellation. -/
def heeds (w : World) : Event → Bool
  | .task _ => !w.pc.suspended
  | _ => true

def remaining : Pc → Nat
  | .exited | .crashed => 0
  | .exiting => 1
  | pc => distance pc + 2

theorem remaining_le (pc : Pc) : remaining pc ≤ distance pc + 2 := by
  unfold remaining
  split <;> omega

theorem exited_of_remaining (h : remaining w.pc = 0) : Exited w := by
  unfold remaining at h
  split at h
  next hpc => exact .inl hpc
  next hpc => exact .inr hpc
  next => cases h
  next => cases h

theorem remaining_suspended {pc : Pc} (h : pc.suspended = true) : remaining pc = 2 := by
  cases pc
  case connecting a s => cases s <;> first | rfl | cases h
  case sending p s => cases s <;> first | rfl | cases h
  all_goals first | rfl | cases h

theorem next_remaining (hheeds : heeds w e = true) (h : next C S build device w e = some w') :
    remaining w'.pc + (if own e then 1 else 0) ≤ remaining w.pc := by
  cases next_move h with
  | @task t _ hbranch =>
    rw [heeds, Bool.not_eq_true'] at hheeds
    have hnearer := branch_nearer hbranch hheeds
    have hle := remaining_le w'.pc
    change remaining w'.pc + 1 ≤ remaining w.pc
    by_cases hpc : w.pc = .exiting
    · -- The last step of all.
      have hlast : next C S build device w (.task t) = some w' := h
      rw [next, taskNext, hpc] at hlast
      cases t with
      | go =>
        cases hlast
        rw [hpc]
        exact Nat.le_refl _
      | _ => cases hlast
    · have hover := taskNext_unexited h
      have heq : remaining w.pc = distance w.pc + 2 := by
        unfold remaining
        split
        next hend => exact absurd (.inl hend) hover
        next hend => exact absurd (.inr hend) hover
        next hend => exact absurd hend hpc
        · rfl
      omega
  | drop hcancelled hsuspended =>
    rw [remaining_suspended hsuspended]
    exact Nat.le_refl _
  | reader hreader => cases hreader <;> exact Nat.le_refl _
  | user hcall => cases hcall <;> exact Nat.le_refl _

end Cancellation

section Results

variable {w v : World} {es fs : List Event}

/-- In every reachable state the task can go on by itself, with its timers and without the device
or a caller, unless it has ended or waits for the command that is to reconnect a device that
does not persist. And it does not go on for long: whatever the others do meanwhile, it takes at
most 16 steps from one `await` to the next. -/
theorem task_never_stuck (C : Crates) (S : Codec) (build : Build) (b : DeviceBuilder)
    (hrun : Execution (next C S build b.device) (fun _ _ => True) b.run es w) :
    (¬ Exited w → w.pc ≠ .onDemand →
      ∃ t w', unaided t = true ∧ next C S build b.device w (.task t) = some w') ∧
    (∀ fs v, Execution (next C S build b.device) Unawaited w fs v →
      (fs.filter own).length ≤ 16) := by
  constructor
  · exact fun hover hdemand => goesOn (run_writable b hrun) hover hdemand
  · intro fs v hbusy
    have hbound := hbusy.bounded (P := own) (f := fun w => distance w.pc) ?_
    · have hle := distance_le w.pc
      omega
    · intro w e w' hallowed hnext
      cases next_move hnext with
      | task hbranch => exact branch_nearer hbranch (hallowed rfl)
      | drop hcancelled hsuspended =>
        rw [hallowed rfl] at hsuspended
        cases hsuspended
      | reader hreader => cases hreader <;> exact Nat.le_refl _
      | user hcall => cases hcall <;> exact Nat.le_refl _

/-- Once the task has been cancelled, wherever it is, it ends within 18 of its own steps if it
takes notice at its next `await`, whatever the receive task and the callers do meanwhile; and
until then it can take the next one. When it has ended, its queue is empty and closed, so no
caller is left waiting in it. -/
theorem cancelled_task_ends (C : Crates) (S : Codec) (build : Build) (b : DeviceBuilder)
    (hrun : Execution (next C S build b.device) (fun _ _ => True) b.run es w)
    (hcancelled : w.cancelled = true)
    (hrest : Execution (next C S build b.device) (fun w e => heeds w e = true) w fs v) :
    (fs.filter own).length ≤ 18 ∧
    ((Exited v ∧ v.queue = [] ∧ v.queueClosed = true) ∨
      ∃ e v', own e = true ∧ heeds v e = true ∧ next C S build b.device v e = some v') := by
  have hwhole := hrun.append (hrest.mono fun _ _ _ => trivial)
  constructor
  · have hbound := hrest.bounded (P := own) (f := fun w => remaining w.pc)
      fun _ _ _ hheeds hnext => next_remaining hheeds hnext
    have hle := remaining_le w.pc
    have hmax := distance_le w.pc
    omega
  · have hstill : v.cancelled = true := hrest.invariant (P := fun v => v.cancelled = true)
      (fun _ _ _ _ hnext hv => step_cancelled (next_step hnext) hv) hcancelled
    by_cases hover : Exited v
    · exact .inl ⟨hover, run_closed b hwhole hover⟩
    · refine .inr ?_
      by_cases hsuspended : v.pc.suspended = true
      · refine ⟨.drop, v.goto .exiting, rfl, rfl, ?_⟩
        rw [next, dropTask, hstill, hsuspended]
        rfl
      · have hbusy := Bool.eq_false_iff.mpr hsuspended
        have hdemand : v.pc ≠ .onDemand := by
          intro hpc
          rw [hpc] at hsuspended
          exact hsuspended rfl
        have hgoes : GoesOn C S build b.device v := goesOn (run_writable b hwhole) hover hdemand
        obtain ⟨t, v', -, hnext⟩ := hgoes
        refine ⟨.task t, v', rfl, ?_, hnext⟩
        rw [heeds, hbusy]
        rfl

theorem connected_task_goes_on :
    ∃ w, run (sampleNext .v33) (sampleBuilder .v33).run WireIntegrity.connectSteps = some w ∧
      ∃ t w', unaided t = true ∧ sampleNext .v33 w (.task t) = some w' := by
  obtain ⟨w, hrun, hstage⟩ : ∃ w, run (sampleNext .v33) (sampleBuilder .v33).run
      WireIntegrity.connectSteps = some w ∧ stageOf w.pc = .session :=
    Option.map_eq_some_iff.mp (by decide +kernel)
  refine ⟨w, hrun, (task_never_stuck KnownAnswers.crates (KnownAnswers.json []) .release
    (sampleBuilder .v33) (execution_of_run (fun _ _ => trivial) hrun)).1 ?_ ?_⟩
  · rintro (hpc | hpc) <;> (rw [hpc] at hstage; cases hstage)
  · intro hpc
    rw [hpc] at hstage
    cases hstage

theorem stopped_task_ends :
    ∃ w v, run (sampleNext .v33) (sampleBuilder .v33).run
        (WireIntegrity.connectSteps ++ [.user .stop, .user (.advance 0)]) = some w ∧
      w.cancelled = true ∧ run (guarded heeds (sampleNext .v33)) w [.drop, .task .go] = some v ∧
      Exited v ∧ v.queue = [] ∧ v.queueClosed = true := by
  obtain ⟨w, hrun, hobserved⟩ : ∃ w, run (sampleNext .v33) (sampleBuilder .v33).run
        (WireIntegrity.connectSteps ++ [.user .stop, .user (.advance 0)]) = some w ∧
      (w.cancelled, (run (guarded heeds (sampleNext .v33)) w [.drop, .task .go]).map
        fun v => remaining v.pc) = (true, some 0) :=
    Option.map_eq_some_iff.mp (by decide +kernel)
  have hcancelled : w.cancelled = true := congrArg Prod.fst hobserved
  obtain ⟨v, hrest, hremaining⟩ := Option.map_eq_some_iff.mp (congrArg Prod.snd hobserved)
  have hover : Exited v := exited_of_remaining hremaining
  refine ⟨w, v, hrun, hcancelled, hrest, hover, ?_⟩
  obtain ⟨-, ⟨-, hclosed⟩ | ⟨e, v', hown, -, hnext⟩⟩ := cancelled_task_ends KnownAnswers.crates
    (KnownAnswers.json []) .release (sampleBuilder .v33)
    (execution_of_run (fun _ _ => trivial) hrun) hcancelled
    (execution_of_guarded_run (fun _ _ h => h) hrest)
  · exact hclosed
  · -- There is no further step.
    cases next_move hnext with
    | task => exact absurd hover (taskNext_unexited hnext)
    | drop _ hsuspended =>
      rcases hover with hpc | hpc <;> (rw [hpc] at hsuspended; cases hsuspended)
    | reader | user => cases hown

end Results

end TaskProgress
