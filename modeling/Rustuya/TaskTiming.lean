import Rustuya.RequestAccounting
import Rustuya.TaskBranches
import Rustuya.TaskRefinement
import Rustuya.WireIntegrity

/-!
# The clocks of the connection task

The task with the clock it reads, in milliseconds: `last_sent`, the interval of the heartbeats,
and the deadlines of `timeout`. Time passes where the task is suspended, and only there. A timer
that has expired is served within `lag`, which stands for the delays of the scheduler.

How long the task can spend on one thing does not depend on the bytes it sends. The results come
from a view of it that has only what it is doing and its clocks.
-/
namespace TaskTiming

open CheckedExecution Error Crypto Protocol Json DeviceState ConnectionLifecycle ConnectionTask
open TransitionSystem TaskBranches
open RequestAccounting (held)
open TaskRefinement (stageOf)

section Clock

def sleepHeartbeatDefault : Nat := 7000
def sleepHeartbeatCheck : Nat := 5000

/-- When the tick after the one for `due` comes, if that is served at `now`. An `Interval` that is
late by more than 5 ms skips the ticks it has missed. -/
def tickAfter (due now : Nat) : Nat :=
  if due + 5 < now then now + sleepHeartbeatCheck - (now - due) % sleepHeartbeatCheck
  else due + sleepHeartbeatCheck

theorem tickAfter_le {due now : Nat} (h : due ≤ now) :
    tickAfter due now ≤ now + sleepHeartbeatCheck := by
  unfold tickAfter
  split <;> omega

structure Clocks where
  now : Nat
  timeout : Nat
  lastSent : Nat
  nextTick : Nat
  awaitBy : Nat
  attemptBy : Nat
  -- Not in the code: the end of the last write, be it complete or not, when the connection came
  -- up, and when the last command was taken from the queue.
  lastTried : Nat
  connectedAt : Nat
  takenAt : Nat
  deriving DecidableEq, Repr

def startsAttempt : Pc → Bool
  | .connecting _ .resolve => true
  | _ => false

def startsAwait : Pc → Bool
  | .sending _ (.encrypt _ _) | .readEffective _ _ => true
  | _ => false

def takesCommand : TaskEvent → Bool
  | .recv => true
  | _ => false

def completesWrite : TaskEvent → Bool
  | .writeDone => true
  | _ => false

def endsWrite : TaskEvent → Bool
  | .writeDone | .writeFailed _ => true
  | _ => false

def connects : Pc → Bool
  | .markConnected _ => true
  | _ => false

/-- The interval is created after the jitter, and its first tick is due at once. -/
def tickFollows (c : Clocks) : Pc → TaskEvent → Nat
  | .jitter, .slept => c.now
  | _, .tick => tickAfter c.nextTick c.now
  | _, _ => c.nextTick

def Clocks.after (c : Clocks) (pc : Pc) (t : TaskEvent) (pc' : Pc) : Clocks :=
  { c with
    lastSent := if completesWrite t then c.now else c.lastSent
    nextTick := tickFollows c pc t
    awaitBy := if startsAwait pc then c.now + c.timeout else c.awaitBy
    attemptBy := if startsAttempt pc then c.now + c.timeout * 2 else c.attemptBy
    lastTried := if endsWrite t then c.now else c.lastTried
    connectedAt := if connects pc' then c.now else c.connectedAt
    takenAt := if takesCommand t then c.now else c.takenAt }

def Clocks.ready (c : Clocks) : TaskEvent → Bool
  | .tick => decide (c.nextTick ≤ c.now)
  | .due heartbeat => heartbeat == decide (sleepHeartbeatDefault ≤ c.now - c.lastSent)
  | .replyTimeout | .writeFailed .timeout => decide (c.awaitBy ≤ c.now)
  | .elapsed => decide (c.attemptBy ≤ c.now)
  | _ => true

def Clocks.waits (lag : Nat) (c : Clocks) (ms : Nat) : Pc → Bool
  | .jitter | .waitForBackoff | .onDemand => true
  | .connecting _ (.discover _) | .connecting _ (.dial _) | .connecting _ (.awaitResponse _ _) =>
    decide (c.now + ms ≤ c.attemptBy + lag)
  | .sending p .write =>
    decide (c.now + ms ≤ (if p.attempt.isSome then min c.awaitBy c.attemptBy else c.awaitBy) + lag)
  | .awaitReply _ _ _ => decide (c.now + ms ≤ c.awaitBy + lag)
  | .maintain => decide (c.now + ms ≤ c.nextTick + lag)
  | _ => false

structure Timed where
  world : World
  clocks : Clocks

inductive TimedEvent where
  | act (e : Event)
  | wait (ms : Nat)
  | setTimeout (ms : Nat)

def timedNext (C : Crates) (S : Codec) (build : Build) (device : Device) (lag : Nat) (s : Timed) :
    TimedEvent → Option Timed
  | .act (.task t) =>
    if s.clocks.ready t then
      (next C S build device s.world (.task t)).map fun w =>
        ⟨w, s.clocks.after s.world.pc t w.pc⟩
    else none
  | .act e => (next C S build device s.world e).map fun w => { s with world := w }
  | .wait ms =>
    if s.clocks.waits lag ms s.world.pc then
      some { s with clocks := { s.clocks with now := s.clocks.now + ms } }
    else none
  | .setTimeout ms => some { s with clocks := { s.clocks with timeout := ms } }

def Timed.start (b : DeviceBuilder) (timeout : Nat) : Timed :=
  ⟨b.run, ⟨0, timeout, 0, 0, 0, 0, 0, 0, 0⟩⟩

end Clock

section Activities

/-- What the task is doing, as far as its clocks tell it apart. -/
inductive Activity where
  | away
  | opening (onDemand : Bool)
  | attempt (onDemand : Bool)
  | up (onDemand : Bool)
  | idle
  | asking (initial : Bool)
  | writing (initial : Bool)
  | written (initial : Bool)
  | awaiting (initial : Bool)
  | ticking
  | beating
  | pulsing

def carries : Attempt → Bool
  | .scheduled => false
  | .onDemand _ => true

def sendingActivity : Purpose → Sending → Activity
  | .negStart a _ _, _ | .negFinish a _ _ _, _ => .attempt (carries a)
  | .session (.request _ initial), .write => .writing initial
  | .session (.request _ initial), _ => .asking initial
  | .session .heartbeat, .write => .pulsing
  | .session .heartbeat, _ => .beating

def activity : Pc → Activity
  | .connecting a .resolve => .opening (carries a)
  | .connecting a _ | .connectFailed a _ | .announceFailed a _ => .attempt (carries a)
  | .markConnected a | .announceConnected a => .up (carries a)
  | .beginRequest _ initial | .generate (.request _ initial) _ _ _ => .asking initial
  | .generate .heartbeat _ _ _ => .beating
  | .sending p s => sendingActivity p s
  | .readEffective _ initial => .written initial
  | .awaitReply _ initial _ => .awaiting initial
  | .spawnReader | .maintain | .channelClosed => .idle
  | .tickPersist | .tickDue => .ticking
  | _ => .away

inductive Shift (persist : Bool) (c : Clocks) : Activity → Activity → Clocks → Prop where
  | stays (x : Activity) : Shift persist c x x c
  | leaves (x : Activity) (c' : Clocks) : Shift persist c x .away c'
  | schedules (c' : Clocks) : Shift persist c .away (.opening false) c'
  | fetches : Shift persist c .away (.opening true) { c with takenAt := c.now }
  | opens (onDemand : Bool) : Shift persist c (.opening onDemand) (.attempt onDemand)
      { c with attemptBy := c.now + c.timeout * 2 }
  | tries (onDemand : Bool) (c' : Clocks) (hnow : c'.now = c.now)
      (hattempt : c'.attemptBy = c.attemptBy) (htaken : c'.takenAt = c.takenAt) :
      Shift persist c (.attempt onDemand) (.attempt onDemand) c'
  | connects (onDemand : Bool) : Shift persist c (.attempt onDemand) (.up onDemand)
      { c with connectedAt := c.now }
  | serves : Shift persist c (.up false) .idle c
  | begins : Shift persist c (.up true) (.asking true) c
  | takes : Shift persist c .idle (.asking false) { c with takenAt := c.now }
  | ignores : Shift persist c .idle .idle { c with takenAt := c.now }
  | packs (initial : Bool) : Shift persist c (.asking initial) (.writing initial)
      { c with awaitBy := c.now + c.timeout }
  | refuses (initial : Bool) : Shift persist c (.asking initial) .idle
      { c with awaitBy := c.now + c.timeout }
  | writes (initial : Bool) : Shift persist c (.writing initial) (.written initial)
      { c with lastSent := c.now, lastTried := c.now }
  | finishes (initial : Bool) : Shift persist c (.writing initial) .idle
      { c with lastSent := c.now, lastTried := c.now }
  | breaks (initial : Bool) : Shift persist c (.writing initial) .idle
      { c with lastTried := c.now }
  | listens (initial : Bool) : Shift persist c (.written initial) (.awaiting initial)
      { c with awaitBy := c.now + c.timeout }
  | concludes (initial : Bool) : Shift persist c (.awaiting initial) .idle c
  | ticks : Shift persist c .idle .ticking { c with nextTick := tickAfter c.nextTick c.now }
  | desists (hpersist : persist = false) : Shift persist c .ticking .idle c
  | tooEarly (hrecent : c.now - c.lastSent < sleepHeartbeatDefault) :
      Shift persist c .ticking .idle c
  | beats : Shift persist c .ticking .beating c
  | packsBeat : Shift persist c .beating .pulsing { c with awaitBy := c.now + c.timeout }
  | pulses : Shift persist c .pulsing .idle { c with lastSent := c.now, lastTried := c.now }

variable {C : Crates} {S : Codec} {build : Build} {device : Device} {w w' : World} {t : TaskEvent}
  {c : Clocks} {a : Attempt}

theorem startsAttempt_attempt {pc : Pc} {onDemand : Bool} (h : activity pc = .attempt onDemand) :
    startsAttempt pc = false := by
  unfold startsAttempt
  split
  · cases h
  · rfl

theorem attempt_shift {persist onDemand : Bool} {pc pc' : Pc}
    (hpc : activity pc = .attempt onDemand) (hpc' : activity pc' = .attempt onDemand)
    (hrecv : takesCommand t = false) :
    Shift persist c (activity pc) (activity pc') (c.after pc t pc') := by
  rw [hpc, hpc']
  refine .tries onDemand _ rfl ?_ ?_
  · simp [Clocks.after, startsAttempt_attempt hpc]
  · simp [Clocks.after, hrecv]

theorem sending_attempt {p : Purpose} {step : Sending} (h : p.attempt = some a) :
    activity (.sending p step) = .attempt (carries a) := by
  cases p <;> cases h <;> rfl

theorem heartbeat_early (h : c.ready (.due false) = true) :
    c.now - c.lastSent < sleepHeartbeatDefault := by
  simpa [Clocks.ready] using h

theorem branch_shift (h : Branch C S build device w t w') (hready : c.ready t = true) :
    Shift w.shared.persist c (activity w.pc) (activity w'.pc) (c.after w.pc t w'.pc) := by
  cases h
  case negotiationUnsent p a err s hp hfail =>
    obtain ⟨step, hpc⟩ := hfail.sending
    rw [hpc]
    refine attempt_shift (sending_attempt hp) rfl ?_
    cases hfail <;> rfl
  case requestUnsent req initial err s hfail =>
    cases hfail with
    | packing msg protocol iv err hpc =>
      rw [hpc]
      cases initial <;> exact .refuses _
    | writing f failure hpc =>
      rw [hpc]
      cases initial <;> exact .breaks _
  case heartbeatUnsent => exact .leaves _ _
  all_goals (rename w.pc = _ => hpc; rw [hpc])
  case disconnectSilent err _ | disconnectTold err _ =>
    cases err <;> exact .leaves _ _
  case dialFails addr err herr | unanswered err herr =>
    refine attempt_shift rfl rfl ?_
    cases t <;> first | rfl | cases herr
  case builds p _ _ _ | readsSettings p _ =>
    rcases p with _ | _ | (_ | _) <;> exact .stays _
  case packs p _ _ _ _ _ _ _ =>
    rcases p with _ | _ | (_ | _)
    · exact .tries _ _ rfl rfl rfl
    · exact .tries _ _ rfl rfl rfl
    · exact .packs _
    · exact .packsBeat
  case writeElapsed p a hp => exact attempt_shift (sending_attempt hp) rfl rfl
  case generates sender _ _ _ _ =>
    cases sender <;> exact .stays _
  case requestDone initial _ _ _ _ =>
    cases initial <;> exact .finishes _
  case lags initial _ _ _ _ _ | replies initial _ _ _ _ _ _ | replyTimesOut initial _ =>
    cases initial <;> exact .concludes _
  case tickIgnored hpersist => exact .desists hpersist
  case heartbeatEarly => exact .tooEarly (heartbeat_early hready)
  all_goals first
    | exact .stays _
    | exact .leaves _ _
    | exact .schedules _
    | exact .fetches
    | exact .opens _
    | exact .tries _ _ rfl rfl rfl
    | exact .connects _
    | exact .serves
    | exact .begins
    | exact .takes
    | exact .ignores
    | exact .writes _
    | exact .listens _
    | exact .ticks
    | exact .beats
    | exact .pulses

/-- Whether the clock can reach `time` before a timer of this activity is served. -/
def InTime (lag : Nat) (c : Clocks) (time : Nat) : Activity → Prop
  | .away => True
  | .attempt _ => time ≤ c.attemptBy + lag
  | .writing _ | .awaiting _ | .pulsing => time ≤ c.awaitBy + lag
  | .idle => time ≤ c.nextTick + lag
  | _ => False

theorem write_inTime {lag ms : Nat} {p : Purpose}
    (h : c.waits lag ms (.sending p .write) = true) :
    InTime lag c (c.now + ms) (sendingActivity p .write) := by
  have htime := of_decide_eq_true h
  rcases p with ⟨a, protocol, nonce⟩ | ⟨a, protocol, nonce, sessionKey⟩ | (⟨req, initial⟩ | _)
  · have hfirst : c.now + ms ≤ min c.awaitBy c.attemptBy + lag := htime
    change c.now + ms ≤ c.attemptBy + lag
    omega
  · have hfirst : c.now + ms ≤ min c.awaitBy c.attemptBy + lag := htime
    change c.now + ms ≤ c.attemptBy + lag
    omega
  · exact htime
  · exact htime

theorem waits_inTime {lag ms : Nat} {pc : Pc} (h : c.waits lag ms pc = true) :
    InTime lag c (c.now + ms) (activity pc) := by
  unfold Clocks.waits at h
  split at h
  case h_7 p => exact write_inTime h
  case h_10 => cases h
  all_goals first
    | (rw [decide_eq_true_eq] at h; exact h)
    | trivial

end Activities

section Bounds

variable {limit lag : Nat} {c c' : Clocks} {x y : Activity} {persist : Bool}

structure Sane (limit : Nat) (c : Clocks) : Prop where
  timeout : c.timeout ≤ limit
  tick : c.nextTick ≤ c.now + sleepHeartbeatCheck
  sent : c.lastSent ≤ c.lastTried
  tried : c.lastTried ≤ c.now
  connected : c.connectedAt ≤ c.now

theorem after_sane {pc pc' : Pc} {t : TaskEvent} (h : Sane limit c) (hready : c.ready t = true) :
    Sane limit (c.after pc t pc') where
  timeout := h.timeout
  tick := by
    have hsteady := h.tick
    change tickFollows c pc t ≤ c.now + sleepHeartbeatCheck
    unfold tickFollows
    split
    · exact Nat.le_add_right _ _
    · exact tickAfter_le (of_decide_eq_true hready)
    · exact hsteady
  sent := by
    have hsent := h.sent
    have htried := h.tried
    change (if completesWrite t then c.now else c.lastSent)
      ≤ (if endsWrite t then c.now else c.lastTried)
    cases t with
    | writeDone => exact Nat.le_refl _
    | writeFailed => exact Nat.le_trans hsent htried
    | _ => exact hsent
  tried := by
    have htried := h.tried
    change (if endsWrite t then c.now else c.lastTried) ≤ c.now
    split <;> omega
  connected := by
    have hconnected := h.connected
    change (if connects pc' then c.now else c.connectedAt) ≤ c.now
    split <;> omega

/-- From when on the time without a write counts: the end of the last one, or the beginning of
the connection. -/
def Clocks.anchor (c : Clocks) : Nat := max c.lastTried c.connectedAt

/-- How far a tick can be away that finds no heartbeat due. -/
def beatGap : Nat := sleepHeartbeatDefault + sleepHeartbeatCheck

def idleGap (limit lag : Nat) : Nat := max beatGap limit + lag

/-- How long the connection has had no write, by what the task is doing. -/
def Lively (limit lag : Nat) (c : Clocks) : Activity → Prop
  | .away | .opening _ | .attempt _ => True
  | .up _ => c.now = c.connectedAt
  | .idle | .asking _ => c.now ≤ c.anchor + idleGap limit lag ∧ c.nextTick ≤ c.anchor + beatGap
  | .writing _ => c.awaitBy ≤ c.anchor + idleGap limit lag + limit ∧
      c.now ≤ c.anchor + idleGap limit lag + limit + lag ∧ c.nextTick ≤ c.anchor + beatGap
  | .written _ => c.now = c.lastTried
  | .awaiting _ => c.awaitBy ≤ c.anchor + limit ∧ c.now ≤ c.anchor + limit + lag ∧
      c.nextTick ≤ c.anchor + beatGap
  | .ticking | .beating => c.now ≤ c.anchor + idleGap limit lag
  | .pulsing => c.awaitBy ≤ c.anchor + idleGap limit lag + limit ∧
      c.now ≤ c.anchor + idleGap limit lag + limit + lag

theorem shift_lively (h : Shift true c x y c') (hsane : Sane limit c)
    (hlively : Lively limit lag c x) : Lively limit lag c' y := by
  obtain ⟨htimeout, htick, hsent, htried, hconnected⟩ := hsane
  cases h
  case stays => exact hlively
  case desists hpersist => cases hpersist
  all_goals
    simp only [Lively, Clocks.anchor, idleGap, beatGap, sleepHeartbeatDefault,
      sleepHeartbeatCheck] at *
  all_goals omega

theorem wait_lively {ms : Nat} (h : InTime lag c (c.now + ms) x)
    (hlively : Lively limit lag c x) :
    Lively limit lag { c with now := c.now + ms } x := by
  cases x
  case away | attempt => trivial
  case opening | up | asking | written | ticking | beating => exact False.elim h
  all_goals
    simp only [InTime, Lively, Clocks.anchor, idleGap, beatGap, sleepHeartbeatDefault,
      sleepHeartbeatCheck] at *
    omega

/-- How long the attempt to connect that a request asked for has taken. -/
def attemptTime (limit lag : Nat) : Bool → Nat
  | true => limit * 2 + lag
  | false => 0

/-- How long a request has been in hand, by what the task is doing. -/
def Prompt (limit lag : Nat) (c : Clocks) : Activity → Prop
  | .opening true => c.now = c.takenAt
  | .attempt true => c.attemptBy ≤ c.takenAt + limit * 2 ∧ c.now ≤ c.takenAt + limit * 2 + lag
  | .up true => c.now ≤ c.takenAt + limit * 2 + lag
  | .asking initial => c.now ≤ c.takenAt + attemptTime limit lag initial
  | .writing initial => c.awaitBy ≤ c.takenAt + attemptTime limit lag initial + limit ∧
      c.now ≤ c.takenAt + attemptTime limit lag initial + limit + lag
  | .written initial => c.now ≤ c.takenAt + attemptTime limit lag initial + limit + lag
  | .awaiting initial => c.awaitBy ≤ c.takenAt + attemptTime limit lag initial + limit * 2 + lag ∧
      c.now ≤ c.takenAt + attemptTime limit lag initial + limit * 2 + lag * 2
  | _ => True

theorem shift_prompt (h : Shift persist c x y c') (htimeout : c.timeout ≤ limit)
    (hprompt : Prompt limit lag c x) : Prompt limit lag c' y := by
  cases h
  case stays => exact hprompt
  case opens onDemand | connects onDemand | tries onDemand _ _ _ =>
    cases onDemand
    · trivial
    · simp only [Prompt] at *
      omega
  all_goals
    simp only [Prompt, attemptTime] at *
  all_goals omega

theorem wait_prompt {ms : Nat} (h : InTime lag c (c.now + ms) x)
    (hprompt : Prompt limit lag c x) :
    Prompt limit lag { c with now := c.now + ms } x := by
  cases x
  case opening | up | asking | written | ticking | beating => exact False.elim h
  case attempt onDemand =>
    cases onDemand
    · trivial
    · simp only [InTime, Prompt] at *
      omega
  case writing | awaiting =>
    simp only [InTime, Prompt] at *
    omega
  all_goals trivial

end Bounds

section Results

variable {C : Crates} {S : Codec} {build : Build} {device : Device} {limit lag timeout : Nat}
  {s s' : Timed} {e : TimedEvent} {es : List TimedEvent}

/-- Nobody sets a timeout longer than `limit`. -/
def within (limit : Nat) : TimedEvent → Bool
  | .setTimeout ms => decide (ms ≤ limit)
  | _ => true

def tears : TimedEvent → Bool
  | .act (.task (.writeFailed _)) => true
  | _ => false

inductive TimedMove (limit lag : Nat) (s : Timed) : TimedEvent → Timed → Prop where
  | shifts (t : TaskEvent) (w : World) (hready : s.clocks.ready t = true)
      (hshift : Shift s.world.shared.persist s.clocks (activity s.world.pc) (activity w.pc)
        (s.clocks.after s.world.pc t w.pc)) :
      TimedMove limit lag s (.act (.task t)) ⟨w, s.clocks.after s.world.pc t w.pc⟩
  | acts (e : Event) (w : World)
      (hactivity : activity w.pc = activity s.world.pc ∨ activity w.pc = .away) :
      TimedMove limit lag s (.act e) ⟨w, s.clocks⟩
  | waits (ms : Nat) (htime : InTime lag s.clocks (s.clocks.now + ms) (activity s.world.pc)) :
      TimedMove limit lag s (.wait ms) ⟨s.world, { s.clocks with now := s.clocks.now + ms }⟩
  | sets (ms : Nat) (hlimit : ms ≤ limit) :
      TimedMove limit lag s (.setTimeout ms) ⟨s.world, { s.clocks with timeout := ms }⟩

theorem act_move {ev : Event} {w : World} (h : next C S build device s.world ev = some w)
    (hother : ∀ t, ev ≠ .task t) : TimedMove limit lag s (.act ev) ⟨w, s.clocks⟩ := by
  refine .acts ev w ?_
  cases next_move h with
  | task _ => exact absurd rfl (hother _)
  | drop => exact .inr rfl
  | reader hreader =>
    have hpc : w.pc = s.world.pc := by cases hreader <;> rfl
    rw [hpc]
    exact .inl rfl
  | user hcall =>
    have hpc : w.pc = s.world.pc := by cases hcall <;> rfl
    rw [hpc]
    exact .inl rfl

theorem timedNext_move (hwithin : within limit e = true)
    (h : timedNext C S build device lag s e = some s') : TimedMove limit lag s e s' := by
  cases e with
  | act ev =>
    cases ev with
    | task t =>
      rw [timedNext] at h
      split at h
      next hready =>
        obtain ⟨w, hnext, rfl⟩ := Option.map_eq_some_iff.mp h
        exact .shifts t w hready (branch_shift (taskNext_branch hnext) hready)
      · cases h
    | drop =>
      obtain ⟨w, hnext, rfl⟩ := Option.map_eq_some_iff.mp h
      exact act_move hnext fun _ h => by cases h
    | reader _ =>
      obtain ⟨w, hnext, rfl⟩ := Option.map_eq_some_iff.mp h
      exact act_move hnext fun _ h => by cases h
    | user _ =>
      obtain ⟨w, hnext, rfl⟩ := Option.map_eq_some_iff.mp h
      exact act_move hnext fun _ h => by cases h
  | wait ms =>
    rw [timedNext] at h
    split at h
    next hwaits =>
      cases h
      exact .waits ms (waits_inTime hwaits)
    · cases h
  | setTimeout ms =>
    cases h
    exact .sets ms (of_decide_eq_true hwithin)

theorem move_sane (h : TimedMove limit lag s e s') (hsane : Sane limit s.clocks) :
    Sane limit s'.clocks := by
  cases h with
  | shifts t w hready _ => exact after_sane hsane hready
  | acts => exact hsane
  | waits ms _ =>
    obtain ⟨htimeout, htick, hsent, htried, hconnected⟩ := hsane
    exact ⟨htimeout, by dsimp only; omega, hsent, by dsimp only; omega, by dsimp only; omega⟩
  | sets ms hlimit =>
    obtain ⟨-, htick, hsent, htried, hconnected⟩ := hsane
    exact ⟨hlimit, htick, hsent, htried, hconnected⟩

theorem move_lively (h : TimedMove limit lag s e s') (hpersist : s.world.shared.persist = true)
    (hsane : Sane limit s.clocks) (hlively : Lively limit lag s.clocks (activity s.world.pc)) :
    Lively limit lag s'.clocks (activity s'.world.pc) := by
  cases h with
  | shifts t w _ hshift =>
    rw [hpersist] at hshift
    exact shift_lively hshift hsane hlively
  | acts ev w hactivity =>
    rcases hactivity with heq | haway
    · rw [heq]
      exact hlively
    · rw [haway]
      trivial
  | waits ms htime => exact wait_lively htime hlively
  | sets ms _ => exact hlively

theorem move_prompt (h : TimedMove limit lag s e s') (hsane : Sane limit s.clocks)
    (hprompt : Prompt limit lag s.clocks (activity s.world.pc)) :
    Prompt limit lag s'.clocks (activity s'.world.pc) := by
  cases h with
  | shifts t w _ hshift => exact shift_prompt hshift hsane.timeout hprompt
  | acts ev w hactivity =>
    rcases hactivity with heq | haway
    · rw [heq]
      exact hprompt
    · rw [haway]
      trivial
  | waits ms htime => exact wait_prompt htime hprompt
  | sets ms _ => exact hprompt

theorem start_sane (b : DeviceBuilder) (h : timeout ≤ limit) :
    Sane limit (Timed.start b timeout).clocks :=
  ⟨h, Nat.zero_le _, Nat.le_refl _, Nat.le_refl _, Nat.le_refl _⟩

theorem move_untorn (h : TimedMove limit lag s e s') (huntorn : tears e = false)
    (hsame : s.clocks.lastTried = s.clocks.lastSent) :
    s'.clocks.lastTried = s'.clocks.lastSent := by
  cases h with
  | shifts t w _ _ =>
    change (if endsWrite t then s.clocks.now else s.clocks.lastTried)
      = (if completesWrite t then s.clocks.now else s.clocks.lastSent)
    cases t
    case writeFailed => cases huntorn
    all_goals first
      | exact hsame
      | rfl
  | acts => exact hsame
  | waits => exact hsame
  | sets => exact hsame

theorem run_untorn (b : DeviceBuilder)
    (hrun : Execution (timedNext C S build device lag) (fun _ e => within limit e = true)
      (Timed.start b timeout) es s) (huntorn : ∀ e ∈ es, tears e = false) :
    s.clocks.lastTried = s.clocks.lastSent := by
  refine hrun.history (P := fun es s => (∀ e ∈ es, tears e = false) →
    s.clocks.lastTried = s.clocks.lastSent) (fun _ => rfl) ?_ huntorn
  intro es s e s' _ hwithin hnext ih huntorn
  refine move_untorn (timedNext_move hwithin hnext) (huntorn e ?_) (ih fun x hx => huntorn x ?_)
  · exact List.mem_append_right _ (List.mem_singleton_self e)
  · exact List.mem_append_left _ hx

def Activity.connected : Activity → Bool
  | .away | .opening _ | .attempt _ => false
  | _ => true

theorem connected_of_session {pc : Pc} (h : stageOf pc = .session) :
    (activity pc).connected = true := by
  cases pc with
  | connecting a step => cases step <;> cases h
  | sending p step =>
    rcases p with _ | _ | (_ | _)
    · cases h
    · cases h
    · cases step <;> rfl
    · cases step <;> rfl
  | generate sender => cases sender <;> rfl
  | _ => first | rfl | cases h

theorem lively_connected {c : Clocks} {x : Activity} (h : Lively limit lag c x)
    (hconnected : x.connected = true) : c.now ≤ c.anchor + idleGap limit lag + limit + lag := by
  cases x with
  | away | opening | attempt => cases hconnected
  | _ =>
    simp only [Lively, Clocks.anchor, idleGap, beatGap] at *
    omega

def Activity.writes : Activity → Bool
  | .writing _ | .pulsing => true
  | _ => false

theorem lively_unwritten {c : Clocks} {x : Activity} (h : Lively limit lag c x)
    (hconnected : x.connected = true) (hwrites : x.writes = false) :
    c.now ≤ c.anchor + idleGap limit lag := by
  cases x with
  | away | opening | attempt => cases hconnected
  | writing | pulsing => cases hwrites
  | _ =>
    simp only [Lively, Clocks.anchor, idleGap, beatGap] at *
    omega

/-- As long as a device is to be kept connected, its connection is never silent for long. From
the end of a write, or from the beginning of the connection, it takes no longer than 12 seconds
or one timeout until the next one begins, whatever the task waits for meanwhile, and a further
timeout until that has ended. If no write has failed, every write has sent a whole frame. -/
theorem session_never_silent (C : Crates) (S : Codec) (build : Build) (b : DeviceBuilder)
    (htimeout : timeout ≤ limit)
    (hrun : Execution (timedNext C S build b.device lag)
      (fun s e => s.world.shared.persist = true ∧ within limit e = true)
      (Timed.start b timeout) es s)
    (hsession : stageOf s.world.pc = .session) :
    s.clocks.now ≤ s.clocks.anchor + idleGap limit lag + limit + lag ∧
    ((activity s.world.pc).writes = false →
      s.clocks.now ≤ s.clocks.anchor + idleGap limit lag) ∧
    ((∀ e ∈ es, tears e = false) →
      s.clocks.anchor = max s.clocks.lastSent s.clocks.connectedAt) := by
  obtain ⟨hsane, hlively⟩ := hrun.invariant
    (P := fun s => Sane limit s.clocks ∧ Lively limit lag s.clocks (activity s.world.pc))
    (fun s e s' hallowed hnext hs =>
      have hmove := timedNext_move hallowed.2 hnext
      ⟨move_sane hmove hs.1, move_lively hmove hallowed.1 hs.1 hs.2⟩)
    ⟨start_sane b htimeout, by trivial⟩
  have hconnected := connected_of_session hsession
  refine ⟨lively_connected hlively hconnected, lively_unwritten hlively hconnected, ?_⟩
  intro huntorn
  rw [Clocks.anchor, run_untorn b (hrun.mono fun _ _ h => h.2) huntorn]

def sampleTimed (lag : Nat) : Timed → TimedEvent → Option Timed :=
  timedNext KnownAnswers.crates (KnownAnswers.json []) .release (sampleBuilder .v33).device lag

def connectInTime : List TimedEvent :=
  .wait 3000 :: WireIntegrity.connectSteps.map .act

/-- The first tick finds no heartbeat due. The second one comes late, finds one due, and 72 bytes
are written. -/
def heartbeatInTime : List TimedEvent :=
  [.act (.task .tick), .act (.task .go), .act (.task (.due false)), .wait 5004,
    .act (.task .tick), .act (.task .go), .act (.task (.due true)),
    .act (.task (.clock 1700000000)), .act (.task .go), .act (.task .go),
    .act (.task (.packed KnownAnswers.sampleIv)), .act (.task (.wrote 72)),
    .act (.task .writeDone), .wait 4990]

theorem first_heartbeat_in_time :
    ∃ s, run (guarded (fun s e => s.world.shared.persist && within 10000 e) (sampleTimed 10))
        (.start (sampleBuilder .v33) 10000) (connectInTime ++ heartbeatInTime) = some s ∧
      (s.clocks.now, s.clocks.lastSent) = (12994, 8004) ∧
      s.clocks.now ≤ s.clocks.anchor + idleGap 10000 10 := by
  obtain ⟨s, hrun, hobserved⟩ : ∃ s,
      run (guarded (fun s e => s.world.shared.persist && within 10000 e) (sampleTimed 10))
        (.start (sampleBuilder .v33) 10000) (connectInTime ++ heartbeatInTime) = some s ∧
      ((s.clocks.now, s.clocks.lastSent), decide (stageOf s.world.pc = .session),
        (activity s.world.pc).writes) = ((12994, 8004), true, false) :=
    Option.map_eq_some_iff.mp (by decide +kernel)
  simp only [Prod.mk.injEq, decide_eq_true_eq] at hobserved
  obtain ⟨⟨hnow, hsent⟩, hsession, hwrites⟩ := hobserved
  refine ⟨s, hrun, by rw [hnow, hsent], ?_⟩
  exact (session_never_silent KnownAnswers.crates (KnownAnswers.json []) .release
    (sampleBuilder .v33) (Nat.le_refl 10000)
    (execution_of_guarded_run (fun _ _ h => (Bool.and_eq_true _ _).mp h) hrun) hsession).2.1
    hwrites

def Activity.carrying : Activity → Bool
  | .opening onDemand | .attempt onDemand | .up onDemand => onDemand
  | .asking _ | .writing _ | .written _ | .awaiting _ => true
  | _ => false

theorem carrying_of_held {w : World} {id : Nat} (h : id ∈ held w) :
    (activity w.pc).carrying = true := by
  have hheld : id ∈ RequestLifecycle.heldIds (RequestRefinement.phaseOf w.pc) := h
  cases hpc : w.pc with
  | connecting a step =>
    rw [hpc] at hheld
    cases a with
    | scheduled => cases hheld
    | onDemand req => cases step <;> rfl
  | markConnected a | announceConnected a | connectFailed a | announceFailed a =>
    rw [hpc] at hheld
    cases a with
    | scheduled => cases hheld
    | onDemand req => rfl
  | generate sender =>
    rw [hpc] at hheld
    cases sender with
    | request req initial => rfl
    | heartbeat => cases hheld
  | sending p step =>
    rw [hpc] at hheld
    rcases p with ⟨_ | _, _⟩ | ⟨_ | _, _⟩ | (_ | _)
    · cases hheld
    · rfl
    · cases hheld
    · rfl
    · cases step <;> rfl
    · cases hheld
  | _ =>
    rw [hpc] at hheld
    first | rfl | cases hheld

theorem prompt_carrying {c : Clocks} {x : Activity} (h : Prompt limit lag c x)
    (hcarrying : x.carrying = true) : c.now ≤ c.takenAt + limit * 4 + lag * 3 := by
  cases x with
  | opening onDemand | attempt onDemand | up onDemand =>
    cases hcarrying
    simp only [Prompt] at h
    omega
  | asking initial | writing initial | written initial | awaiting initial =>
    cases initial <;> (simp only [Prompt, attemptTime] at h; omega)
  | _ => cases hcarrying

/-- The task has no request in hand for longer than four timeouts: two to connect to the device
if the request asks for that, one to write it, and one to wait for the reply. -/
theorem request_held_in_time (C : Crates) (S : Codec) (build : Build) (b : DeviceBuilder)
    (htimeout : timeout ≤ limit)
    (hrun : Execution (timedNext C S build b.device lag) (fun _ e => within limit e = true)
      (Timed.start b timeout) es s) {id : Nat} (hheld : id ∈ held s.world) :
    s.clocks.now ≤ s.clocks.takenAt + limit * 4 + lag * 3 := by
  obtain ⟨-, hprompt⟩ := hrun.invariant
    (P := fun s => Sane limit s.clocks ∧ Prompt limit lag s.clocks (activity s.world.pc))
    (fun s e s' hwithin hnext hs =>
      have hmove := timedNext_move hwithin hnext
      ⟨move_sane hmove hs.1, move_prompt hmove hs.1 hs.2⟩)
    ⟨start_sane b htimeout, by trivial⟩
  exact prompt_carrying hprompt (carrying_of_held hheld)

def unansweredInTime : List TimedEvent :=
  [.act (.user (.submit ⟨1, .dpQuery, none, none⟩)), .act (.task .recv), .act (.task .go),
    .act (.task (.clock 1700000000)), .act (.task .go), .act (.task .go),
    .act (.task (.packed KnownAnswers.sampleIv)), .wait 500, .act (.task (.wrote 104)),
    .act (.task .writeDone), .act (.task .go), .wait 10000]

theorem unanswered_request_in_time :
    ∃ s, run (guarded (fun _ e => within 10000 e) (sampleTimed 10))
        (.start (sampleBuilder .v33) 10000) (connectInTime ++ unansweredInTime) = some s ∧
      (s.clocks.takenAt, s.clocks.now) = (3000, 13500) ∧ held s.world = [1] ∧
      s.clocks.now ≤ s.clocks.takenAt + 10000 * 4 + 10 * 3 := by
  obtain ⟨s, hrun, hobserved⟩ : ∃ s, run (guarded (fun _ e => within 10000 e) (sampleTimed 10))
        (.start (sampleBuilder .v33) 10000) (connectInTime ++ unansweredInTime) = some s ∧
      ((s.clocks.takenAt, s.clocks.now), held s.world) = ((3000, 13500), [1]) :=
    Option.map_eq_some_iff.mp (by decide +kernel)
  rw [Prod.mk.injEq] at hobserved
  have hheld : 1 ∈ held s.world := by
    rw [hobserved.2]
    exact List.mem_singleton_self 1
  exact ⟨s, hrun, hobserved.1, hobserved.2, request_held_in_time KnownAnswers.crates
    (KnownAnswers.json []) .release (sampleBuilder .v33) (Nat.le_refl 10000)
    (execution_of_guarded_run (fun _ _ h => h) hrun) hheld⟩

end Results

end TaskTiming
