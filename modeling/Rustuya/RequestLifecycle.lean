import Rustuya.ConnectionTask

/-!
# The life of a request

What happens to requests, apart from how connections are made: a desk takes commands from a
queue, has at most one request in hand, waits for its answer among the messages that are
broadcast, and answers it. Requests that cannot be served are answered with an error, one by
one or all that are queued.
-/
namespace RequestLifecycle

open Error Message Json DeviceState ConnectionTask

inductive Phase where
  | idle
  /-- A connection is being made for the request. -/
  | carrying (req : Request)
  | serving (req : Request)
  /-- The request is being sent; whoever expects an answer has subscribed to the messages. -/
  | dispatching (req : Request)
  /-- The request has been sent, and its answer is expected. -/
  | pending (req : Request)
  | awaiting (req : Request) (effectiveCmd : UInt32)
  /-- The queue has been closed and emptied. -/
  | shutting
  /-- The connection has been lost or given up, and nobody has been told yet. -/
  | closing (err : Option TuyaError)
  | counting (err : TuyaError)
  | over

def Phase.held : Phase → Option Request
  | .carrying req | .serving req | .dispatching req | .pending req | .awaiting req _ => some req
  | .idle | .shutting | .closing _ | .counting _ | .over => none

structure Desk where
  queue : List Command
  closed : Bool
  phase : Phase
  nowait : Bool
  cancelled : Bool
  stopped : Bool
  subscription : Option (List TuyaMessage)
  broadcast : List TuyaMessage
  replies : List (Nat × Answer)

/-- What sets some steps of a desk apart. -/
inductive Deed where
  | plain
  /-- A caller stops the device. -/
  | halted
  | accepted (cmd : Command)
  /-- The reader passes on what it has read. -/
  | heard (msgs : List TuyaMessage)
  | sendFailed

section Updates

def asRequest : Command → Option Request
  | .request req => some req
  | .disconnect | .connectNow => none

def refusals (e : TuyaError) (queue : List Command) : List (Nat × Answer) :=
  (queue.filterMap asRequest).map fun req => (req.id, .error e)

def Desk.publish (d : Desk) (msgs : List TuyaMessage) : Desk :=
  { d with broadcast := d.broadcast ++ msgs, subscription := d.subscription.map (· ++ msgs) }

def Desk.drain (d : Desk) (e : TuyaError) (close : Bool) : Desk :=
  { d with replies := d.replies ++ refusals e d.queue, queue := [], closed := d.closed || close }

def Desk.conclude (d : Desk) (req : Request) (answer : Answer) : Desk :=
  { d with replies := d.replies ++ [(req.id, answer)], subscription := none, phase := .idle }

theorem publish_nil (d : Desk) : d.publish [] = d := by
  simp [Desk.publish]

end Updates

/-- A message that tells the listeners of a failure. -/
def Report (S : Codec) (msg : TuyaMessage) : Prop :=
  ∃ s code payload, code ≠ errSuccess ∧ msg = errorHelper S s code payload

theorem Report.cmd {S : Codec} {msg : TuyaMessage} (h : Report S msg) : msg.cmd = 0 := by
  obtain ⟨s, code, payload, -, rfl⟩ := h
  rfl

inductive DeskStep (S : Codec) : Desk → Deed → Desk → Prop where
  | stay (d : Desk) : DeskStep S d .plain d
  | resume (d : Desk) : DeskStep S d .plain { d with stopped := false }
  | configure (d : Desk) (nowait : Bool) : DeskStep S d .plain { d with nowait }
  | halt (d : Desk) : DeskStep S d .halted { d with stopped := true }
  | cancel (d : Desk) : DeskStep S d .halted { d with cancelled := true }
  | runDry (d : Desk) (hphase : d.phase = .idle) (hclosed : d.closed = true) :
      DeskStep S d .plain { d with phase := .shutting }
  | shut (d : Desk) (hphase : d.phase = .shutting) :
      DeskStep S d .plain { d with stopped := true, phase := .closing none }
  | announce (d : Desk) (msgs : List TuyaMessage) (hmsgs : ∀ m ∈ msgs, m.cmd = 0) :
      DeskStep S d .plain (d.publish msgs)
  | hear (d : Desk) (msgs : List TuyaMessage) : DeskStep S d (.heard msgs) (d.publish msgs)
  | accept (d : Desk) (cmd : Command) (hopen : d.closed = false) :
      DeskStep S d (.accepted cmd) { d with queue := d.queue ++ [cmd] }
  | take (d : Desk) (req : Request) (rest : List Command) (phase : Phase)
      (hphase : d.phase = .idle) (hqueue : d.queue = .request req :: rest)
      (hheld : phase = .carrying req ∨ phase = .serving req) :
      DeskStep S d .plain { d with queue := rest, phase }
  | skip (d : Desk) (cmd : Command) (rest : List Command) (hqueue : d.queue = cmd :: rest)
      (hcmd : asRequest cmd = none) : DeskStep S d .plain { d with queue := rest }
  | disconnect (d : Desk) (rest : List Command) (hphase : d.phase = .idle)
      (hqueue : d.queue = .disconnect :: rest) :
      DeskStep S d .plain { d with queue := rest, phase := .closing (some .offline) }
  | reject (d : Desk) (cmd : Command) (rest : List Command) (msg : TuyaMessage)
      (hqueue : d.queue = cmd :: rest) (hmsg : Report S msg) :
      DeskStep S d .plain
        (Desk.publish { d with queue := rest, replies := d.replies ++ refusals .offline [cmd] }
          [msg])
  | giveUp (d : Desk) (e : TuyaError) (msg : TuyaMessage) (hphase : d.phase = .idle)
      (hmsg : Report S msg) : DeskStep S d .plain ((d.publish [msg]).drain e false)
  | failCarried (d : Desk) (req : Request) (e : TuyaError) (msg last : TuyaMessage)
      (hphase : d.phase = .carrying req) (hmsg : Report S msg) (hlast : Report S last) :
      DeskStep S d .plain
        (Desk.publish { d.publish [msg] with
          replies := d.replies ++ [(req.id, .error e)], phase := .idle } [last])
  | connected (d : Desk) (req : Request) (msg : TuyaMessage) (hphase : d.phase = .carrying req)
      (hmsg : msg.cmd = 0) : DeskStep S d .plain { d.publish [msg] with phase := .serving req }
  | leave (d : Desk) (err : Option TuyaError) (hphase : d.phase = .idle) :
      DeskStep S d .plain { d with phase := .closing err }
  | lose (d : Desk) (e : TuyaError) (msgs : List TuyaMessage)
      (hphase : d.phase = .closing (some e)) (hmsgs : ∀ m ∈ msgs, m.cmd = 0)
      (htold : d.stopped = true ∨ ∃ s, msgs = [errorHelper S s e.code none]) :
      DeskStep S d .plain { d.publish msgs with phase := .counting e }
  | closeDown (d : Desk) (msgs : List TuyaMessage) (hphase : d.phase = .closing none)
      (hmsgs : ∀ m ∈ msgs, m.cmd = 0) : DeskStep S d .plain { d.publish msgs with phase := .idle }
  | count (d : Desk) (e : TuyaError) (hphase : d.phase = .counting e) :
      DeskStep S d .plain { d.drain e false with phase := .idle }
  | refuse (d : Desk) (hphase : d.phase = .idle)
      (hdone : d.stopped = true ∨ d.cancelled = true) : DeskStep S d .plain (d.drain .offline true)
  | subscribe (d : Desk) (req : Request) (hphase : d.phase = .serving req) :
      DeskStep S d .plain
        { d with
          subscription :=
            if !d.nowait && !unansweredCmds.contains req.command.code then some [] else none
          phase := .dispatching req }
  | dispatched (d : Desk) (req : Request) (hphase : d.phase = .dispatching req)
      (hsome : d.subscription.isSome = true) : DeskStep S d .plain { d with phase := .pending req }
  | await (d : Desk) (req : Request) (effectiveCmd : UInt32) (hphase : d.phase = .pending req)
      (protocol : Protocol.TuyaProtocol)
      (hcmd : effectiveCmd = protocol.getEffectiveCommand req.command) :
      DeskStep S d .plain { d with phase := .awaiting req effectiveCmd }
  | pass (d : Desk) (req : Request) (effectiveCmd : UInt32) (msg : TuyaMessage)
      (rest : List TuyaMessage) (hphase : d.phase = .awaiting req effectiveCmd)
      (hnext : d.subscription = some (msg :: rest)) :
      DeskStep S d .plain { d with subscription := some rest }
  | reply (d : Desk) (req : Request) (effectiveCmd : UInt32) (msg : TuyaMessage)
      (rest : List TuyaMessage) (hphase : d.phase = .awaiting req effectiveCmd)
      (hnext : d.subscription = some (msg :: rest))
      (hanswers : answers S effectiveCmd req.cid msg = true) :
      DeskStep S d .plain (d.conclude req (.ok (some msg)))
  | unanswered (d : Desk) (req : Request) (effectiveCmd : UInt32) (e : TuyaError)
      (hphase : d.phase = .awaiting req effectiveCmd) :
      DeskStep S d .plain (d.conclude req (.error e))
  | sent (d : Desk) (req : Request) (hphase : d.phase = .dispatching req)
      (hnone : d.subscription = none) : DeskStep S d .plain (d.conclude req (.ok none))
  | sendFailed (d : Desk) (req : Request) (e : TuyaError) (hphase : d.phase = .dispatching req) :
      DeskStep S d .sendFailed (d.conclude req (.error e))
  | finish (d : Desk) (cancelled : Bool) (hmono : d.cancelled = true → cancelled = true) :
      DeskStep S d .plain { d with queue := [], closed := true, cancelled, phase := .over }
  | abandon (d : Desk) (hcancelled : d.cancelled = true) (hphase : d.phase ≠ .over) :
      DeskStep S d .plain { d with phase := .idle }

section Accounting

variable {S : Codec} {d d' : Desk} {deed : Deed}

def queuedIds (queue : List Command) : List Nat := (queue.filterMap asRequest).map Request.id

def heldIds (phase : Phase) : List Nat := phase.held.toList.map Request.id

def answeredIds (replies : List (Nat × Answer)) : List Nat := replies.map Prod.fst

def Desk.ids (d : Desk) : List Nat :=
  queuedIds d.queue ++ heldIds d.phase ++ answeredIds d.replies

def Deed.ids : Deed → List Nat
  | .accepted cmd => queuedIds [cmd]
  | .plain | .halted | .heard _ | .sendFailed => []

@[simp] theorem queuedIds_nil : queuedIds [] = [] := rfl

@[simp] theorem queuedIds_append (q r : List Command) :
    queuedIds (q ++ r) = queuedIds q ++ queuedIds r := by
  simp [queuedIds]

@[simp] theorem queuedIds_cons_request (req : Request) (queue : List Command) :
    queuedIds (.request req :: queue) = req.id :: queuedIds queue := rfl

theorem queuedIds_cons (cmd : Command) (queue : List Command) :
    queuedIds (cmd :: queue) = queuedIds [cmd] ++ queuedIds queue := queuedIds_append [cmd] queue

theorem queuedIds_cons_other {cmd : Command} (h : asRequest cmd = none) (queue : List Command) :
    queuedIds (cmd :: queue) = queuedIds queue := by
  simp [queuedIds, h]

@[simp] theorem heldIds_idle : heldIds .idle = [] := rfl
@[simp] theorem heldIds_counting (e : TuyaError) : heldIds (.counting e) = [] := rfl
@[simp] theorem heldIds_closing (err : Option TuyaError) : heldIds (.closing err) = [] := rfl

theorem heldIds_of_held {phase : Phase} {req : Request} (h : phase.held = some req) :
    heldIds phase = [req.id] := by
  rw [heldIds, h]
  rfl

@[simp] theorem answeredIds_append (r t : List (Nat × Answer)) :
    answeredIds (r ++ t) = answeredIds r ++ answeredIds t := by
  simp [answeredIds]

@[simp] theorem answeredIds_singleton (id : Nat) (answer : Answer) :
    answeredIds [(id, answer)] = [id] := rfl

/-- A queue that is refused is a queue that is answered. -/
@[simp] theorem answeredIds_refusals (e : TuyaError) (queue : List Command) :
    answeredIds (refusals e queue) = queuedIds queue := by
  simp [answeredIds, refusals, queuedIds]

theorem step_over (h : DeskStep S d deed d') (hover : d.phase = .over) : d'.phase = .over := by
  cases h with
  | stay | resume | configure | halt | cancel | announce | hear | accept | skip | reject =>
    exact hover
  | finish => rfl
  | abandon hcancelled hphase => exact absurd hover hphase
  | _ =>
    -- The other steps start from a phase in which the task is at work.
    simp_all

theorem ids_publish (d : Desk) (msgs : List TuyaMessage) : (d.publish msgs).ids = d.ids := rfl

theorem ids_drain (d : Desk) (e : TuyaError) (close : Bool) : (d.drain e close).ids.Perm d.ids := by
  rw [List.perm_iff_count]
  intro id
  simp [Desk.ids, Desk.drain, List.count_append]
  omega

theorem ids_conclude {req : Request} (hheld : d.phase.held = some req) (answer : Answer) :
    (d.conclude req answer).ids.Perm d.ids := by
  rw [List.perm_iff_count]
  intro id
  simp [Desk.ids, Desk.conclude, heldIds_of_held hheld, List.count_append, List.count_cons]

/-- As long as the task is neither cancelled nor over, what was accepted is queued, in hand
or answered. -/
theorem step_conserves_ids (h : DeskStep S d deed d') (hcancelled : d.cancelled = false)
    (hlive : d'.phase ≠ .over) : d'.ids.Perm (d.ids ++ deed.ids) := by
  cases h with
  | accept cmd hopen =>
    rw [List.perm_iff_count]
    intro id
    simp [Desk.ids, Deed.ids, List.count_append]
    omega
  | take req rest phase hphase hqueue hheld =>
    have hreq : heldIds phase = [req.id] := by
      rcases hheld with rfl | rfl <;> rfl
    rw [List.perm_iff_count]
    intro id
    simp [Desk.ids, Deed.ids, hphase, hqueue, hreq, List.count_append, List.count_cons]
    omega
  | skip cmd rest hqueue hcmd => simp [Desk.ids, Deed.ids, hqueue, queuedIds_cons_other hcmd]
  | disconnect rest hphase hqueue =>
    have hids : queuedIds (.disconnect :: rest) = queuedIds rest := queuedIds_cons_other rfl rest
    simp [Desk.ids, Deed.ids, hphase, hqueue, hids]
  | reject cmd rest msg hqueue hmsg =>
    rw [List.perm_iff_count]
    intro id
    simp [Desk.ids, Deed.ids, Desk.publish, hqueue, queuedIds_cons cmd rest, List.count_append]
    omega
  | giveUp e msg hphase hmsg =>
    simpa [Deed.ids, ids_publish] using ids_drain (d.publish [msg]) e false
  | failCarried req e msg last hphase hmsg hlast =>
    have hheld : d.phase.held = some req := by rw [hphase]; rfl
    rw [Deed.ids, List.append_nil]
    exact ids_conclude hheld (.error e)
  | count e hphase =>
    have hids := ids_drain d e false
    simpa [Deed.ids, Desk.ids, Desk.drain, hphase] using hids
  | refuse hphase hdone => simpa [Deed.ids] using ids_drain d .offline true
  | reply req effectiveCmd msg rest hphase hnext hanswers =>
    have hheld : d.phase.held = some req := by rw [hphase]; rfl
    simpa [Deed.ids] using ids_conclude hheld (.ok (some msg))
  | unanswered req effectiveCmd e hphase =>
    have hheld : d.phase.held = some req := by rw [hphase]; rfl
    simpa [Deed.ids] using ids_conclude hheld (.error e)
  | sent req hphase hnone =>
    have hheld : d.phase.held = some req := by rw [hphase]; rfl
    simpa [Deed.ids] using ids_conclude hheld (.ok none)
  | sendFailed req e hphase =>
    have hheld : d.phase.held = some req := by rw [hphase]; rfl
    simpa [Deed.ids] using ids_conclude hheld (.error e)
  | finish => exact absurd rfl hlive
  | abandon hc hphase =>
    rw [hcancelled] at hc
    cases hc
  | _ =>
    -- The other steps keep the queue, the request in hand and the replies.
    simp_all [Desk.ids, Deed.ids, Desk.publish, heldIds, Phase.held]

end Accounting

section Reports

variable {S : Codec} {d d' : Desk} {deed : Deed}

def news (d d' : Desk) : List TuyaMessage := d'.broadcast.drop d.broadcast.length

def outcomes (d d' : Desk) : List (Nat × Answer) := d'.replies.drop d.replies.length

def Phase.quiet : Phase → Bool
  | .pending _ | .awaiting _ _ | .shutting => false
  | .idle | .carrying _ | .serving _ | .dispatching _ | .closing _ | .counting _ | .over => true

/-- The queue is open and nobody waits for an answer. -/
structure Calm (d : Desk) : Prop where
  unclosed : d.closed = false
  unsubscribed : d.subscription = none
  quiet : d.phase.quiet = true

theorem Calm.publish (h : Calm d) (msgs : List TuyaMessage) : Calm (d.publish msgs) := by
  refine ⟨h.unclosed, ?_, h.quiet⟩
  rw [Desk.publish, h.unsubscribed]
  rfl

theorem Calm.drain (h : Calm d) (e : TuyaError) : Calm (d.drain e false) := by
  refine ⟨?_, h.unsubscribed, h.quiet⟩
  rw [Desk.drain, h.unclosed]
  rfl

theorem Calm.move (h : Calm d) {phase : Phase} (hquiet : phase.quiet = true) :
    Calm { d with phase } := ⟨h.unclosed, h.unsubscribed, hquiet⟩

theorem Calm.withQueue (h : Calm d) (queue : List Command) (replies : List (Nat × Answer)) :
    Calm { d with queue, replies } := ⟨h.unclosed, h.unsubscribed, h.quiet⟩

theorem Calm.conclude (h : Calm d) (req : Request) (answer : Answer) :
    Calm (d.conclude req answer) := ⟨h.unclosed, rfl, rfl⟩

/-- With `nowait`, and as long as nobody stops the task, it never waits for an answer. -/
theorem step_preserves_calm (h : DeskStep S d deed d') (hnowait : d.nowait = true)
    (hcancelled : d.cancelled = false) (hstopped : d.stopped = false)
    (hd : d.phase = .over ∨ Calm d) : d'.phase = .over ∨ Calm d' := by
  rcases hd with hover | hcalm
  · exact .inl (step_over h hover)
  have hloud : ∀ {phase}, d.phase = phase → phase.quiet ≠ false := by
    intro phase hphase hfalse
    rw [← hphase, hcalm.quiet] at hfalse
    cases hfalse
  cases h with
  | stay => exact .inr hcalm
  | resume | configure | halt | cancel =>
    exact .inr ⟨hcalm.unclosed, hcalm.unsubscribed, hcalm.quiet⟩
  | runDry hphase hclosed =>
    rw [hcalm.unclosed] at hclosed
    cases hclosed
  | shut hphase => exact absurd rfl (hloud hphase)
  | announce msgs hmsgs => exact .inr (hcalm.publish msgs)
  | hear msgs => exact .inr (hcalm.publish msgs)
  | accept cmd hopen => exact .inr (hcalm.withQueue _ _)
  | take req rest phase hphase hqueue hheld =>
    have hquiet : phase.quiet = true := by
      rcases hheld with rfl | rfl <;> rfl
    exact .inr ((hcalm.withQueue rest d.replies).move hquiet)
  | skip cmd rest hqueue hcmd => exact .inr (hcalm.withQueue rest _)
  | disconnect rest hphase hqueue => exact .inr ((hcalm.withQueue rest d.replies).move rfl)
  | reject cmd rest msg hqueue hmsg => exact .inr ((hcalm.withQueue rest _).publish [msg])
  | giveUp e msg hphase hmsg => exact .inr ((hcalm.publish [msg]).drain e)
  | failCarried req e msg last hphase hmsg hlast =>
    have htold := hcalm.publish [msg]
    refine .inr (Calm.publish ?_ [last])
    exact ⟨htold.unclosed, htold.unsubscribed, rfl⟩
  | connected req msg hphase hmsg => exact .inr ((hcalm.publish [msg]).move rfl)
  | leave err hphase => exact .inr (hcalm.move rfl)
  | lose e msgs hphase hmsgs htold => exact .inr ((hcalm.publish msgs).move rfl)
  | closeDown msgs hphase hmsgs => exact .inr ((hcalm.publish msgs).move rfl)
  | count e hphase => exact .inr ((hcalm.drain e).move rfl)
  | refuse hphase hdone =>
    rw [hstopped, hcancelled] at hdone
    rcases hdone with hfalse | hfalse <;> cases hfalse
  | subscribe req hphase =>
    refine .inr ⟨hcalm.unclosed, ?_, rfl⟩
    simp [hnowait]
  | dispatched req hphase hsome =>
    rw [hcalm.unsubscribed] at hsome
    cases hsome
  | await req effectiveCmd hphase => exact absurd rfl (hloud hphase)
  | pass req effectiveCmd msg rest hphase hnext => exact absurd rfl (hloud hphase)
  | reply req effectiveCmd msg rest hphase hnext hanswers => exact .inr (hcalm.conclude req _)
  | unanswered req effectiveCmd e hphase => exact .inr (hcalm.conclude req _)
  | sent req hphase hnone => exact .inr (hcalm.conclude req _)
  | sendFailed req e hphase => exact .inr (hcalm.conclude req _)
  | finish => exact .inl rfl
  | abandon hdropped hphase =>
    rw [hcancelled] at hdropped
    cases hdropped

theorem outcomes_append {replies : List (Nat × Answer)} (h : d'.replies = d.replies ++ replies) :
    outcomes d d' = replies := by
  rw [outcomes, h, List.drop_left]

theorem news_append {msgs : List TuyaMessage} (h : d'.broadcast = d.broadcast ++ msgs) :
    news d d' = msgs := by
  rw [news, h, List.drop_left]

theorem step_cancelled (h : DeskStep S d deed d') (hcancelled : d.cancelled = true) :
    d'.cancelled = true := by
  cases h with
  | cancel => rfl
  | finish cancelled hmono => exact hmono hcancelled
  | _ => exact hcancelled

theorem step_broadcast (h : DeskStep S d deed d') : d'.broadcast = d.broadcast ++ news d d' := by
  have hprefix : d.broadcast <+: d'.broadcast := by
    cases h with
    | announce msgs | hear msgs => exact List.prefix_append _ _
    | reject | giveUp | connected | lose | closeDown => exact List.prefix_append _ _
    | failCarried =>
      exact (List.prefix_append _ _).trans (List.prefix_append _ _)
    | _ => exact List.prefix_refl _
  obtain ⟨msgs, hmsgs⟩ := hprefix
  rw [news_append hmsgs.symm, hmsgs]

theorem step_heard {msgs : List TuyaMessage} (h : DeskStep S d (.heard msgs) d') :
    news d d' = msgs := by
  cases h with
  | hear => exact news_append rfl

theorem step_announces (h : DeskStep S d deed d') (hdeed : ∀ msgs, deed ≠ .heard msgs) :
    ∀ m ∈ news d d', m.cmd = 0 := by
  intro m hm
  cases h with
  | announce msgs hmsgs =>
    rw [news_append rfl] at hm
    exact hmsgs m hm
  | hear msgs => exact absurd rfl (hdeed msgs)
  | reject cmd rest msg hqueue hmsg =>
    rw [news_append rfl] at hm
    rw [List.mem_singleton.mp hm]
    exact hmsg.cmd
  | giveUp e msg hphase hmsg =>
    rw [news_append rfl] at hm
    rw [List.mem_singleton.mp hm]
    exact hmsg.cmd
  | failCarried req e msg last hphase hmsg hlast =>
    rw [news_append (List.append_assoc _ [msg] [last])] at hm
    rcases List.mem_append.mp hm with hm | hm
    · rw [List.mem_singleton.mp hm]
      exact hmsg.cmd
    · rw [List.mem_singleton.mp hm]
      exact hlast.cmd
  | connected req msg hphase hmsg =>
    rw [news_append rfl] at hm
    rw [List.mem_singleton.mp hm]
    exact hmsg
  | lose e msgs hphase hmsgs htold =>
    rw [news_append rfl] at hm
    exact hmsgs m hm
  | closeDown msgs hphase hmsgs =>
    rw [news_append rfl] at hm
    exact hmsgs m hm
  | _ => simp [news, Desk.drain, Desk.conclude] at hm

theorem mem_refusals {e err : TuyaError} {queue : List Command} {id : Nat}
    (h : (id, Except.error err) ∈ refusals e queue) : err = e := by
  obtain ⟨req, -, heq⟩ := List.mem_map.mp h
  exact (Except.error.inj (congrArg Prod.snd heq)).symm

/-- A calm task that can send what it is given answers with an error only when it broadcasts
a report in the same step, or counts the loss of a connection. -/
theorem step_reports (h : DeskStep S d deed d') (hdeed : deed ≠ .sendFailed)
    (hcancelled : d.cancelled = false) (hstopped : d.stopped = false)
    (hquiet : d.phase.quiet = true) {id : Nat} {err : TuyaError}
    (hanswer : (id, .error err) ∈ outcomes d d') :
    (∃ m ∈ news d d', Report S m) ∨ d.phase = .counting err := by
  cases h with
  | reject cmd rest msg hqueue hmsg =>
    refine .inl ⟨msg, ?_, hmsg⟩
    rw [news_append rfl]
    exact List.mem_singleton_self msg
  | giveUp e msg hphase hmsg =>
    refine .inl ⟨msg, ?_, hmsg⟩
    rw [news_append rfl]
    exact List.mem_singleton_self msg
  | failCarried req e msg last hphase hmsg hlast =>
    refine .inl ⟨msg, ?_, hmsg⟩
    rw [news_append (List.append_assoc _ [msg] [last])]
    exact List.mem_cons_self
  | count e hphase =>
    rw [outcomes_append rfl] at hanswer
    rw [mem_refusals hanswer]
    exact .inr hphase
  | refuse hphase hdone =>
    rw [hstopped, hcancelled] at hdone
    rcases hdone with hfalse | hfalse <;> cases hfalse
  | reply req effectiveCmd msg rest hphase hnext hanswers =>
    rw [hphase] at hquiet
    cases hquiet
  | unanswered req effectiveCmd e hphase =>
    rw [hphase] at hquiet
    cases hquiet
  | sent req hphase hnone =>
    rw [outcomes_append rfl] at hanswer
    cases List.mem_singleton.mp hanswer
  | sendFailed => exact absurd rfl hdeed
  | _ =>
    -- The other steps answer nothing.
    simp [outcomes, Desk.publish] at hanswer

/-- The loss of a connection is announced in the step after which it is counted. -/
theorem step_counting (h : DeskStep S d deed d') (hstopped : d.stopped = false) {err : TuyaError}
    (hbefore : d.phase ≠ .counting err) (hafter : d'.phase = .counting err) :
    d.phase = .closing (some err) ∧ ∃ s, news d d' = [errorHelper S s err.code none] := by
  cases h with
  | stay | resume | configure | halt | cancel | announce | hear | accept | skip | reject |
    giveUp | refuse | pass => exact absurd hafter hbefore
  | take req rest phase hphase hqueue hheld =>
    rcases hheld with rfl | rfl <;> cases hafter
  | lose e msgs hphase hmsgs htold =>
    cases hafter
    refine ⟨hphase, ?_⟩
    rcases htold with hfalse | ⟨s, hmsgs⟩
    · rw [hstopped] at hfalse
      cases hfalse
    · refine ⟨s, ?_⟩
      rw [news_append rfl, hmsgs]
  | _ => cases hafter

/-- A request that cannot be sent is answered, and nobody else is told. -/
theorem step_sendFailed (h : DeskStep S d .sendFailed d') :
    ∃ req e, d.phase = .dispatching req ∧ outcomes d d' = [(req.id, .error e)] ∧
      news d d' = [] := by
  cases h with
  | sendFailed req e hphase =>
    refine ⟨req, e, hphase, outcomes_append rfl, ?_⟩
    exact news_append (List.append_nil _).symm

theorem step_answered (h : DeskStep S d deed d') {id : Nat} {msg : TuyaMessage}
    (hanswer : (id, .ok (some msg)) ∈ outcomes d d') :
    ∃ req effectiveCmd rest, id = req.id ∧ d.phase = .awaiting req effectiveCmd ∧
      d.subscription = some (msg :: rest) ∧ answers S effectiveCmd req.cid msg = true := by
  have hrefused : ∀ {e : TuyaError} {queue : List Command},
      (id, Except.ok (some msg)) ∉ refusals e queue := by
    intro e queue hmem
    obtain ⟨req, -, heq⟩ := List.mem_map.mp hmem
    cases congrArg Prod.snd heq
  cases h with
  | reply req effectiveCmd msg' rest hphase hnext hanswers =>
    rw [outcomes_append rfl] at hanswer
    cases List.mem_singleton.mp hanswer
    exact ⟨req, effectiveCmd, rest, rfl, hphase, hnext, hanswers⟩
  | reject | giveUp | count | refuse =>
    rw [outcomes_append rfl] at hanswer
    exact absurd hanswer hrefused
  | failCarried | unanswered | sent | sendFailed =>
    rw [outcomes_append rfl] at hanswer
    cases List.mem_singleton.mp hanswer
  | _ => simp [outcomes, Desk.publish] at hanswer

end Reports

end RequestLifecycle
