import Rustuya.ChannelContents
import Rustuya.ReplyMatching

/-!
# Which message is taken for the response

A request in hand looks at the messages in the order in which they were broadcast since it
subscribed, and returns the first one it expects. What it expects is decided by the command,
by whether there is a payload, and by the sub-device id at the root of the payload.
-/
namespace ResponseMatching

open CheckedExecution ByteCodec Error Crypto Message Protocol Json DeviceState ConnectionTask
open TransitionSystem RequestLifecycle RequestRefinement CommandPayload ChannelContents
open ReplyMatching (waiting)

def ForCid : Option String → Value → Prop
  | some cid, val => (field val "cid").bind asStr = some cid
  | none, val => field val "cid" = none

/-- The messages a request waits for. -/
def Expected (S : Codec) (effectiveCmd : UInt32) (cid : Option String) (msg : TuyaMessage) :
    Prop :=
  msg.cmd = 0 ∨
    (msg.cmd = effectiveCmd ∨ msg.cmd = CommandType.status.code) ∧
      ((msg.payload = [] ∧ msg.cmd ∉ mandatoryDataCmds) ∨
        (msg.payload ≠ [] ∧ ∃ val, S.fromSlice msg.payload = some val ∧ ForCid cid val))

/-- The message reaches the end of the loop body, where it is returned unconditionally. -/
def FallsThrough (S : Codec) (effectiveCmd : UInt32) (msg : TuyaMessage) : Prop :=
  msg.cmd ≠ 0 ∧ (msg.cmd = effectiveCmd ∨ msg.cmd = CommandType.status.code) ∧
    msg.payload ≠ [] ∧ S.fromSlice msg.payload = none

section Matching

variable {S : Codec} {effectiveCmd : UInt32} {cid : Option String} {msg : TuyaMessage}

theorem answers_of_error (h : msg.cmd = 0) : answers S effectiveCmd cid msg = true := by
  unfold answers
  exact if_pos h

theorem answers_of_other (h₀ : msg.cmd ≠ 0)
    (h : ¬ (msg.cmd = effectiveCmd ∨ msg.cmd = CommandType.status.code)) :
    answers S effectiveCmd cid msg = false := by
  unfold answers
  rw [if_neg h₀, if_pos h]

theorem answers_of_empty (h₀ : msg.cmd ≠ 0)
    (h : msg.cmd = effectiveCmd ∨ msg.cmd = CommandType.status.code) (hempty : msg.payload = []) :
    answers S effectiveCmd cid msg = decide (msg.cmd ∉ mandatoryDataCmds) := by
  unfold answers
  rw [if_neg h₀, if_neg (not_not_intro h)]
  simp [hempty]

theorem answers_of_json (h₀ : msg.cmd ≠ 0)
    (h : msg.cmd = effectiveCmd ∨ msg.cmd = CommandType.status.code) (hsome : msg.payload ≠ [])
    {val : Value} (hjson : S.fromSlice msg.payload = some val) :
    answers S effectiveCmd cid msg = true ↔ ForCid cid val := by
  unfold answers
  rw [if_neg h₀, if_neg (not_not_intro h)]
  dsimp only
  rw [if_neg (by rw [List.isEmpty_iff]; exact hsome), hjson]
  cases cid with
  | some target => exact decide_eq_true_iff
  | none => exact Option.isNone_iff_eq_none

/-- On what is broadcast, the code takes just the expected messages. -/
theorem answers_iff_expected (h : msg.cmd = 0 ∨ Readable S msg) :
    answers S effectiveCmd cid msg = true ↔ Expected S effectiveCmd cid msg := by
  by_cases h₀ : msg.cmd = 0
  · exact iff_of_true (answers_of_error h₀) (.inl h₀)
  have hreadable := h.resolve_left h₀
  by_cases hcmd : msg.cmd = effectiveCmd ∨ msg.cmd = CommandType.status.code
  swap
  · rw [answers_of_other h₀ hcmd]
    refine iff_of_false Bool.false_ne_true ?_
    rintro (hzero | ⟨hmatch, -⟩)
    · exact h₀ hzero
    · exact hcmd hmatch
  by_cases hempty : msg.payload = []
  · rw [answers_of_empty h₀ hcmd hempty, decide_eq_true_iff]
    constructor
    · intro hack
      exact .inr ⟨hcmd, .inl ⟨hempty, hack⟩⟩
    · rintro (hzero | ⟨-, ⟨-, hack⟩ | ⟨hsome, -⟩⟩)
      · exact absurd hzero h₀
      · exact hack
      · exact absurd hempty hsome
  · obtain ⟨val, hval⟩ := Option.isSome_iff_exists.mp (hreadable.resolve_left hempty)
    rw [answers_of_json h₀ hcmd hempty hval]
    constructor
    · intro hfor
      exact .inr ⟨hcmd, .inr ⟨hempty, val, hval, hfor⟩⟩
    · rintro (hzero | ⟨-, ⟨hnone, -⟩ | ⟨-, val', hval', hfor⟩⟩)
      · exact absurd hzero h₀
      · exact absurd hnone hempty
      · obtain rfl : val = val' := Option.some.inj (hval.symm.trans hval')
        exact hfor

end Matching

section Order

variable {S : Codec} {d d' : Desk} {deed : Deed} {since : Nat}

def begins : Phase → Phase → Bool
  | .serving _, .dispatching _ => true
  | _, _ => false

def sinceAfter (d d' : Desk) (since : Nat) : Nat :=
  if begins d.phase d'.phase then d'.broadcast.length else since

theorem sinceAfter_same (h : d'.phase = d.phase) : sinceAfter d d' since = since := by
  have hself : begins d.phase d.phase = false := by cases d.phase <;> rfl
  rw [sinceAfter, h, hself]
  rfl

/-- Of what was broadcast since the request in hand subscribed, it has passed over some
messages that do not answer it, and has the others before it. -/
def Ordered (S : Codec) (d : Desk) (since : Nat) : Prop :=
  ∀ req ms, waiting d.phase = some req → d.subscription = some ms →
    ∃ earlier skipped, d.broadcast = earlier ++ (skipped ++ ms) ∧ earlier.length = since ∧
      ∀ m ∈ skipped, ∃ effectiveCmd, d.phase = .awaiting req effectiveCmd ∧
        answers S effectiveCmd req.cid m = false

theorem ordered_of_settled (h : waiting d.phase = none) : Ordered S d since := by
  intro req ms hwaiting
  rw [h] at hwaiting
  cases hwaiting

theorem Ordered.listen (hd : Ordered S d since) (msgs : List TuyaMessage)
    (hphase : d'.phase = d.phase) (hsubscription : d'.subscription = d.subscription.map (· ++ msgs))
    (hbroadcast : d'.broadcast = d.broadcast ++ msgs) : Ordered S d' (sinceAfter d d' since) := by
  rw [sinceAfter_same hphase]
  intro req ms hwaiting hms
  rw [hphase] at hwaiting
  rw [hsubscription] at hms
  obtain ⟨ms, hbefore, rfl⟩ := Option.map_eq_some_iff.mp hms
  obtain ⟨earlier, skipped, hsplit, hsince, hskipped⟩ := hd req ms hwaiting hbefore
  refine ⟨earlier, skipped, ?_, hsince, ?_⟩
  · rw [hbroadcast, hsplit, List.append_assoc, List.append_assoc]
  · rw [hphase]
    exact hskipped

theorem Ordered.keep (hd : Ordered S d since) (hphase : d'.phase = d.phase)
    (hsubscription : d'.subscription = d.subscription) (hbroadcast : d'.broadcast = d.broadcast) :
    Ordered S d' (sinceAfter d d' since) := by
  apply hd.listen [] hphase
  · simp [hsubscription]
  · simp [hbroadcast]

/-- A request that goes on has not passed over any message before it waits. -/
theorem Ordered.advance (hd : Ordered S d since) {phase : Phase}
    (hsame : waiting phase = waiting d.phase)
    (hbefore : ∀ req effectiveCmd, d.phase ≠ .awaiting req effectiveCmd) :
    Ordered S { d with phase } since := by
  intro req ms hwaiting hms
  obtain ⟨earlier, skipped, hsplit, hsince, hskipped⟩ := hd req ms (hsame ▸ hwaiting) hms
  refine ⟨earlier, skipped, hsplit, hsince, ?_⟩
  intro m hm
  obtain ⟨effectiveCmd, hphase, -⟩ := hskipped m hm
  exact absurd hphase (hbefore req effectiveCmd)

theorem step_preserves_ordered (h : DeskStep S d deed d')
    (hpass : ∀ req effectiveCmd msg rest, d.phase = .awaiting req effectiveCmd →
      d.subscription = some (msg :: rest) → d'.subscription = some rest →
      answers S effectiveCmd req.cid msg = false)
    (hd : Ordered S d since) :
    Ordered S d' (sinceAfter d d' since) := by
  cases h with
  | stay | resume | configure | halt | cancel | accept | skip | refuse =>
    exact hd.keep rfl rfl rfl
  | announce msgs | hear msgs => exact hd.listen msgs rfl rfl rfl
  | reject cmd rest msg => exact hd.listen [msg] rfl rfl rfl
  | take req rest phase hphase hqueue hheld =>
    apply ordered_of_settled
    rcases hheld with rfl | rfl <;> rfl
  | giveUp e msg hphase hmsg => exact ordered_of_settled (congrArg waiting hphase)
  | subscribe req hphase =>
    rw [sinceAfter, hphase]
    intro req' ms hwaiting hms
    have hempty : ms = [] := by
      dsimp only at hms
      split at hms <;> cases hms
      rfl
    refine ⟨d.broadcast, [], ?_, rfl, List.forall_mem_nil _⟩
    rw [hempty, List.append_nil, List.append_nil]
  | dispatched req hphase hsome =>
    rw [sinceAfter, hphase]
    refine hd.advance (congrArg waiting hphase).symm ?_
    rw [hphase]
    exact fun _ _ => Phase.noConfusion
  | await req effectiveCmd hphase protocol hcmd =>
    rw [sinceAfter, hphase]
    refine hd.advance (congrArg waiting hphase).symm ?_
    rw [hphase]
    exact fun _ _ => Phase.noConfusion
  | pass req effectiveCmd msg rest hphase hnext =>
    have hsame : sinceAfter d { d with subscription := some rest } since = since :=
      sinceAfter_same rfl
    rw [hsame]
    intro req' ms hwaiting hms
    cases hms
    obtain ⟨earlier, skipped, hsplit, hsince, hskipped⟩ := hd req' (msg :: rest) hwaiting hnext
    obtain rfl : req = req' := by
      rw [show waiting d.phase = some req from congrArg waiting hphase] at hwaiting
      exact Option.some.inj hwaiting
    refine ⟨earlier, skipped ++ [msg], ?_, hsince, ?_⟩
    · rw [List.append_assoc, List.singleton_append]
      exact hsplit
    · intro m hm
      rcases List.mem_append.mp hm with hm | hm
      · exact hskipped m hm
      · rw [List.mem_singleton.mp hm]
        exact ⟨effectiveCmd, hphase, hpass req effectiveCmd msg rest hphase hnext rfl⟩
  | _ => exact ordered_of_settled rfl

end Order

section Passing

variable {C : Crates} {S : Codec} {build : Build} {device : Device} {w w' : World} {e : Event}
  {req : Request} {effectiveCmd : UInt32} {msg : TuyaMessage} {rest : List TuyaMessage}

theorem phaseOf_awaiting {pc : Pc} (h : phaseOf pc = .awaiting req effectiveCmd) :
    ∃ initial, pc = .awaitReply req initial effectiveCmd := by
  cases pc with
  | awaitReply req' initial effectiveCmd' =>
    cases h
    exact ⟨initial, rfl⟩
  | connecting a _ | markConnected a | announceConnected a | connectFailed a _
  | announceFailed a _ => cases a <;> cases h
  | generate sender _ _ _ => cases sender <;> cases h
  | sending p _ => rcases p with ⟨⟨⟩ | ⟨⟩⟩ | ⟨⟨⟩ | ⟨⟩⟩ | ⟨⟨⟩ | ⟨⟩⟩ <;> cases h
  | _ => cases h

theorem step_heard_subscription {d d' : Desk} {msgs : List TuyaMessage}
    (h : DeskStep S d (.heard msgs) d') : d'.subscription = d.subscription.map (· ++ msgs) := by
  cases h
  rfl

theorem subscription_grows (h : next C S build device w e = some w') (he : ∀ t, e ≠ .task t) :
    ∃ msgs, w'.subscription = w.subscription.map (· ++ msgs) := by
  have hkept : w'.subscription = w.subscription →
      ∃ msgs, w'.subscription = w.subscription.map (· ++ msgs) :=
    fun hsame => ⟨[], by simp [hsame]⟩
  cases e with
  | task t => exact absurd rfl (he t)
  | drop =>
    obtain ⟨-, -, rfl⟩ := dropTask_eq_some h
    exact hkept rfl
  | reader r =>
    have hreader : readerNext C S build device w r = some w' := h
    cases r with
    | packet firstByte stream | late firstByte stream =>
      exact ⟨_, step_heard_subscription (next_step h)⟩
    | ended | cancelled | gone =>
      cases readerNext_inv hreader
      exact hkept rfl
  | user u => exact hkept (userNext_aside h).subscription

theorem next_pass (h : next C S build device w e = some w')
    (hphase : phaseOf w.pc = .awaiting req effectiveCmd)
    (hunread : w.subscription = some (msg :: rest)) (hpassed : w'.subscription = some rest) :
    answers S effectiveCmd req.cid msg = false := by
  obtain ⟨initial, hpc⟩ := phaseOf_awaiting hphase
  by_cases he : ∀ t, e ≠ .task t
  · obtain ⟨msgs, hgrown⟩ := subscription_grows h he
    rw [hunread, hpassed] at hgrown
    have hlength := congrArg List.length (Option.some.inj hgrown)
    simp only [List.length_append, List.length_cons] at hlength
    omega
  · obtain ⟨t, rfl⟩ : ∃ t, e = .task t := by
      simpa using he
    rw [next, taskNext, hpc] at h
    dsimp only at h
    unfold awaitReply at h
    split at h
    · rw [hunread] at h
      dsimp only at h
      split at h
      · cases h
        cases hpassed
      · split at h
        next => 
          cases h
          cases hpassed
        next hanswers => exact Bool.not_eq_true _ ▸ hanswers
    · cases h
      cases hpassed
    · cases h

end Passing

section Runs

variable (C : Crates) (S : Codec) (build : Build) (device : Device)

structure Listening where
  world : World
  since : Nat

def listeningNext (x : Listening) (e : Event) : Option Listening :=
  (next C S build device x.world e).map fun w => ⟨w, sinceAfter (desk x.world) (desk w) x.since⟩

def Listening.start (b : DeviceBuilder) : Listening := ⟨b.run, 0⟩

end Runs

section Isolation

variable {C : Crates} {S : Codec} {build : Build} {device : Device} {x x' : Listening} {e : Event}
  {es : List Event}

theorem listening_preserves_ordered (h : listeningNext C S build device x e = some x')
    (hx : Ordered S (desk x.world) x.since) : Ordered S (desk x'.world) x'.since := by
  obtain ⟨w, hnext, rfl⟩ := Option.map_eq_some_iff.mp h
  refine step_preserves_ordered (next_step hnext) ?_ hx
  intro req effectiveCmd msg rest hphase hunread hpassed
  exact next_pass hnext hphase hunread hpassed

def Channelled (S : Codec) (w : World) : Prop :=
  ∀ m ∈ w.broadcast, Readable S m ∨ Announcement S m

theorem next_preserves_channelled {w w' : World} (h : next C S build device w e = some w')
    (hw : Channelled S w) : Channelled S w' := by
  intro m hm
  have hbroadcast : w'.broadcast = w.broadcast ++ newMessages w w' := step_broadcast (next_step h)
  rw [hbroadcast] at hm
  rcases List.mem_append.mp hm with hm | hm
  · exact hw m hm
  · rcases next_publishes h m hm with hread | hannounced
    · exact incoming_readable hread
    · exact .inr hannounced

def Effective (d : Desk) : Prop :=
  ∀ req effectiveCmd, d.phase = .awaiting req effectiveCmd →
    ∃ protocol : Protocol.TuyaProtocol, effectiveCmd = protocol.getEffectiveCommand req.command

theorem step_preserves_effective {d d' : Desk} {deed : Deed} (h : DeskStep S d deed d')
    (hd : Effective d) : Effective d' := by
  cases h with
  | await req effectiveCmd hphase protocol hcmd =>
    intro req' effectiveCmd' heq
    cases heq
    exact ⟨protocol, hcmd⟩
  | take req rest phase hphase hqueue hheld =>
    rintro req' effectiveCmd rfl
    rcases hheld with heq | heq <;> cases heq
  | stay | resume | configure | halt | cancel | announce | hear | accept | skip | reject | giveUp
  | refuse | pass => exact hd
  | _ =>
    intro req effectiveCmd heq
    cases heq

theorem run_ordered (b : DeviceBuilder)
    (hrun : Execution (listeningNext C S build b.device) (fun _ _ => True) (.start b) es x) :
    Ordered S (desk x.world) x.since ∧ Channelled S x.world ∧
      Effective (desk x.world) := by
  refine hrun.invariant (P := fun x => Ordered S (desk x.world) x.since ∧ Channelled S x.world ∧
    Effective (desk x.world)) ?_ ?_
  · intro y e y' _ h ⟨hordered, hchannelled, heffective⟩
    refine ⟨listening_preserves_ordered h hordered, ?_⟩
    obtain ⟨w, hnext, rfl⟩ := Option.map_eq_some_iff.mp h
    exact ⟨next_preserves_channelled hnext hchannelled,
      step_preserves_effective (next_step hnext) heffective⟩
  · exact ⟨ordered_of_settled rfl, List.forall_mem_nil _, fun _ _ h => by cases h⟩

theorem readable_of_channelled {w : World} (h : Channelled S w) {m : TuyaMessage}
    (hm : m ∈ w.broadcast) : m.cmd = 0 ∨ Readable S m := by
  rcases h m hm with hreadable | hannounced
  · exact .inr hreadable
  · exact .inl hannounced.cmd

/-- In every run, the message returned to a caller is the first expected one among those that
were broadcast since the request subscribed. A response that is not an error and has a payload
is about the sub-device of the request, or about none. No message reaches the unconditional
return, since every payload on the channel is empty or JSON. -/
theorem response_is_first_expected (C : Crates) (S : Codec) (build : Build) (b : DeviceBuilder)
    (hrun : Execution (listeningNext C S build b.device) (fun _ _ => True) (.start b) es x) :
    (∀ e x' id msg, listeningNext C S build b.device x e = some x' →
      (id, .ok (some msg)) ∈ newReplies x.world x'.world →
      ∃ req initial effectiveCmd,
        x.world.pc = .awaitReply req initial effectiveCmd ∧ id = req.id ∧
        (∃ protocol : TuyaProtocol, effectiveCmd = protocol.getEffectiveCommand req.command) ∧
        (∃ skipped rest, x.world.broadcast.drop x.since = skipped ++ msg :: rest ∧
          Expected S effectiveCmd req.cid msg ∧
          ∀ m ∈ skipped, ¬ Expected S effectiveCmd req.cid m) ∧
        (msg.cmd ≠ 0 → msg.payload ≠ [] →
          ∃ val, S.fromSlice msg.payload = some val ∧ ForCid req.cid val)) ∧
    (∀ req initial effectiveCmd msg rest, x.world.pc = .awaitReply req initial effectiveCmd →
      x.world.subscription = some (msg :: rest) → ¬ FallsThrough S effectiveCmd msg) ∧
    (S.Accepts → ∀ m ∈ x.world.broadcast, Readable S m) := by
  obtain ⟨hordered, hchannelled, heffective⟩ := run_ordered b hrun
  refine ⟨?_, ?_, ?_⟩
  · intro e x' id msg h hreply
    obtain ⟨w, hnext, rfl⟩ := Option.map_eq_some_iff.mp h
    obtain ⟨req, effectiveCmd, rest, rfl, hphase, hunread, hanswers⟩ :=
      step_answered (next_step hnext) hreply
    obtain ⟨initial, hpc⟩ := phaseOf_awaiting hphase
    obtain ⟨earlier, skipped, hsplit, hsince, hskipped⟩ :=
      hordered req (msg :: rest) (congrArg waiting hphase) hunread
    have hreadable : ∀ m ∈ skipped ++ msg :: rest, m.cmd = 0 ∨ Readable S m := by
      intro m hm
      apply readable_of_channelled hchannelled
      change m ∈ (desk x.world).broadcast
      rw [hsplit]
      exact List.mem_append_right _ hm
    have hexpected : Expected S effectiveCmd req.cid msg :=
      (answers_iff_expected (hreadable msg (by simp))).mp hanswers
    refine ⟨req, initial, effectiveCmd, hpc, rfl, heffective req effectiveCmd hphase,
      ⟨skipped, rest, ?_, hexpected, ?_⟩, ?_⟩
    · change (desk x.world).broadcast.drop x.since = _
      rw [hsplit, ← hsince, List.drop_left]
    · intro m hm hm'
      obtain ⟨effectiveCmd', hphase', hno⟩ := hskipped m hm
      rw [hphase] at hphase'
      cases hphase'
      rw [(answers_iff_expected (hreadable m (List.mem_append_left _ hm))).mpr hm'] at hno
      cases hno
    · intro hcmd hpayload
      rcases hexpected with hzero | ⟨-, ⟨hnone, -⟩ | ⟨-, hval⟩⟩
      · exact absurd hzero hcmd
      · exact absurd hnone hpayload
      · exact hval
  · rintro req initial effectiveCmd msg rest hpc hunread ⟨hcmd, -, hpayload, hnone⟩
    have hphase : (desk x.world).phase = .awaiting req effectiveCmd := congrArg phaseOf hpc
    obtain ⟨earlier, skipped, hsplit, -, -⟩ :=
      hordered req (msg :: rest) (congrArg waiting hphase) hunread
    have hmem : msg ∈ x.world.broadcast := by
      change msg ∈ (desk x.world).broadcast
      rw [hsplit]
      simp
    rcases readable_of_channelled hchannelled hmem with hzero | hempty | hjson
    · exact hcmd hzero
    · exact hpayload hempty
    · rw [hnone] at hjson
      cases hjson
  · intro hS m hm
    rcases hchannelled m hm with hreadable | hannounced
    · exact hreadable
    · exact hannounced.readable hS

def crossingSteps : List Event :=
  WireIntegrity.connectSteps ++ ReplyMatching.switchSteps 1 ++
    [.reader (.packet 0 ⟨FrameSafety.heartbeatAck.tail, .silent⟩),
      .reader (.packet 0 ⟨ReplyMatching.controlAck.tail, .silent⟩), .task .reply]

def sampleListening : Listening → Event → Option Listening :=
  listeningNext KnownAnswers.crates (KnownAnswers.json []) .release (sampleBuilder .v33).device

theorem heartbeat_passed_over :
    ∃ x x' heartbeat ack, run sampleListening (.start (sampleBuilder .v33)) crossingSteps = some x ∧
      x.world.broadcast.drop x.since = [heartbeat, ack] ∧
      sampleListening x (.task .reply) = some x' ∧
      newReplies x.world x'.world = [(1, .ok (some ack))] ∧
      ∃ req initial effectiveCmd, x.world.pc = .awaitReply req initial effectiveCmd ∧
        ∃ skipped rest, x.world.broadcast.drop x.since = skipped ++ ack :: rest ∧
          Expected (KnownAnswers.json []) effectiveCmd req.cid ack ∧
          ∀ m ∈ skipped, ¬ Expected (KnownAnswers.json []) effectiveCmd req.cid m := by
  obtain ⟨x, hrun, hobserved⟩ : ∃ x,
      run sampleListening (.start (sampleBuilder .v33)) crossingSteps = some x ∧
      (x.world.broadcast.drop x.since, (sampleListening x (.task .reply)).map fun x' =>
        newReplies x.world x'.world)
      = ([⟨1, 9, some 0, [], prefix55aa, none⟩, ⟨1, 7, some 0, [], prefix55aa, none⟩],
          some [(1, .ok (some ⟨1, 7, some 0, [], prefix55aa, none⟩))]) :=
    Option.map_eq_some_iff.mp (by decide +kernel)
  simp only [Prod.mk.injEq] at hobserved
  obtain ⟨hheard, hreply⟩ := hobserved
  obtain ⟨x', hstep, hnew⟩ := Option.map_eq_some_iff.mp hreply
  refine ⟨x, x', _, _, hrun, hheard, hstep, hnew, ?_⟩
  obtain ⟨hfirst, -, -⟩ := response_is_first_expected KnownAnswers.crates (KnownAnswers.json [])
    .release (sampleBuilder .v33) (execution_of_run (fun _ _ => trivial) hrun)
  obtain ⟨req, initial, effectiveCmd, hpc, -, -, hexpected, -⟩ := hfirst _ x' 1 _ hstep (by
    rw [hnew]
    exact List.mem_singleton_self _)
  exact ⟨req, initial, effectiveCmd, hpc, hexpected⟩

end Isolation

section MandatoryData

variable {C : Crates} {S : Codec} {build : Build} {device : Device} {w w' : World} {e : Event}
  {es : List Event} {d d' : Desk} {deed : Deed} {req : Request} {m : TuyaMessage}

/-- An empty message that completes a request whatever its command. -/
def Blank (msg : TuyaMessage) : Prop :=
  msg.payload = [] ∧ (msg.cmd = 0 ∨ msg.cmd = CommandType.status.code)

/-- No empty message of this kind is read while a request for data waits. -/
def BringsData (C : Crates) (S : Codec) (build : Build) (device : Device) (w : World)
    (e : Event) : Prop :=
  ∀ req, waiting (phaseOf w.pc) = some req → req.command.code ∈ mandatoryDataCmds →
    w.subscription.isSome = true → ∀ m ∈ incoming C S build device w e, ¬ Blank m

theorem step_unread (h : DeskStep S d deed d') (hwaiting : waiting d'.phase = some req)
    {ms : List TuyaMessage} (hms : d'.subscription = some ms) (hm : m ∈ ms) :
    waiting d.phase = some req ∧ ∃ before, d.subscription = some before ∧
      (m ∈ before ∨ m ∈ news d d') := by
  have hlisten : ∀ msgs, d'.subscription = d.subscription.map (· ++ msgs) →
      d'.broadcast = d.broadcast ++ msgs → waiting d'.phase = waiting d.phase →
      waiting d.phase = some req ∧ ∃ before, d.subscription = some before ∧
        (m ∈ before ∨ m ∈ news d d') := by
    intro msgs hsubscription hbroadcast hphase
    rw [hsubscription] at hms
    obtain ⟨before, hbefore, rfl⟩ := Option.map_eq_some_iff.mp hms
    refine ⟨hphase ▸ hwaiting, before, hbefore, ?_⟩
    rw [news_append hbroadcast]
    exact List.mem_append.mp hm
  cases h with
  | stay | resume | configure | halt | cancel | accept | skip | refuse =>
    exact ⟨hwaiting, ms, hms, .inl hm⟩
  | announce msgs | hear msgs => exact hlisten msgs rfl rfl rfl
  | reject cmd rest msg => exact hlisten [msg] rfl rfl rfl
  | take req' rest phase hphase hqueue hheld =>
    rcases hheld with rfl | rfl <;> cases hwaiting
  | giveUp e msg hphase hmsg => exact hlisten [msg] rfl rfl rfl
  | subscribe req' hphase =>
    dsimp only at hms
    split at hms <;> cases hms
    cases hm
  | dispatched req' hphase hsome =>
    exact ⟨(congrArg waiting hphase).trans hwaiting, ms, hms, .inl hm⟩
  | await req' effectiveCmd hphase protocol hcmd =>
    exact ⟨(congrArg waiting hphase).trans hwaiting, ms, hms, .inl hm⟩
  | pass req' effectiveCmd msg rest hphase hnext =>
    cases hms
    exact ⟨hwaiting, _, hnext, .inl (List.mem_cons_of_mem msg hm)⟩
  | _ => cases hwaiting

/-- A request for data has no empty message before it that would complete it. -/
def DataAwaited (w : World) : Prop :=
  ∀ req ms, waiting (phaseOf w.pc) = some req → req.command.code ∈ mandatoryDataCmds →
    w.subscription = some ms → ∀ m ∈ ms, ¬ Blank m

theorem next_preserves_dataAwaited (hS : S.Writes) (h : next C S build device w e = some w')
    (hdata : BringsData C S build device w e) (hw : DataAwaited w) : DataAwaited w' := by
  intro req ms hwaiting hcommand hms m hm
  obtain ⟨hbefore, before, hsubscription, hold | hnew⟩ := step_unread (next_step h) hwaiting hms hm
  · exact hw req before hbefore hcommand hsubscription m hold
  · rcases next_publishes h m hnew with hread | hannounced
    · exact hdata req hbefore hcommand (Option.isSome_of_mem hsubscription) m hread
    · rintro ⟨hempty, -⟩
      obtain ⟨v, -, hpayload⟩ := hannounced.payload
      exact hS v (hpayload.symm.trans hempty)

theorem effective_mandatory (protocol : TuyaProtocol) {command : CommandType}
    (h : command.code ∈ mandatoryDataCmds) :
    protocol.getEffectiveCommand command = command.code := by
  obtain rfl : command = .lanExtStream := by
    revert h
    cases command <;> decide
  cases protocol <;> rfl

/-- In every run in which no empty message with command 0 or `Status` is read while a request
for data waits, such a request is never completed by a message without payload. -/
theorem mandatory_data_returned (C : Crates) {S : Codec} (hS : S.Writes) (build : Build)
    (b : DeviceBuilder)
    (hrun : Execution (next C S build b.device) (BringsData C S build b.device) b.run es w)
    (h : next C S build b.device w e = some w') {initial : Bool} {effectiveCmd : UInt32}
    (hpc : w.pc = .awaitReply req initial effectiveCmd)
    (hcommand : req.command.code ∈ mandatoryDataCmds) {id : Nat} {msg : TuyaMessage}
    (hreply : (id, .ok (some msg)) ∈ newReplies w w') : msg.payload ≠ [] := by
  obtain ⟨hawaited, heffective⟩ : DataAwaited w ∧ Effective (desk w) := by
    refine hrun.invariant (P := fun w => DataAwaited w ∧ Effective (desk w)) ?_ ?_
    · intro v e v' hdata hnext ⟨hawaited, heffective⟩
      exact ⟨next_preserves_dataAwaited hS hnext hdata hawaited,
        step_preserves_effective (next_step hnext) heffective⟩
    · refine ⟨?_, fun _ _ h => by cases h⟩
      intro req ms hwaiting
      cases hwaiting
  obtain ⟨req', effectiveCmd', rest, -, hphase, hunread, hanswers⟩ :=
    step_answered (next_step h) hreply
  obtain ⟨rfl, rfl⟩ : req = req' ∧ effectiveCmd = effectiveCmd' := by
    change phaseOf w.pc = _ at hphase
    rw [hpc] at hphase
    cases hphase
    exact ⟨rfl, rfl⟩
  have hblank : ¬ Blank msg :=
    hawaited req (msg :: rest) (congrArg waiting hphase) hcommand hunread msg List.mem_cons_self
  obtain ⟨protocol, rfl⟩ := heffective req effectiveCmd hphase
  rw [effective_mandatory protocol hcommand] at hanswers
  intro hempty
  have hzero : msg.cmd ≠ 0 := fun hcmd => hblank ⟨hempty, .inl hcmd⟩
  have hstatus : msg.cmd ≠ CommandType.status.code := fun hcmd => hblank ⟨hempty, .inr hcmd⟩
  by_cases hcmd : msg.cmd = req.command.code
  · rw [answers_of_empty hzero (.inl hcmd) hempty, decide_eq_true_iff, hcmd] at hanswers
    exact hanswers hcommand
  · rw [answers_of_other hzero (not_or_intro hcmd hstatus)] at hanswers
    cases hanswers

section Sample

def querySteps : List Event :=
  WireIntegrity.connectSteps ++
    [.user (.submit ⟨1, .lanExtStream, some (.object [("reqType", .string "query")]), none⟩),
      .task .recv, .task .go, .task (.clock 1700000000), .task .go, .task .go,
      .task (.packed KnownAnswers.sampleIv), .task (.wrote 56), .task .writeDone, .task .go]

def queryResponse : Bytes :=
  [0x00, 0x00, 0x55, 0xaa, 0x00, 0x00, 0x00, 0x01, 0x00, 0x00, 0x00, 0x40,
    0x00, 0x00, 0x00, 0x13, 0x00, 0x00, 0x00, 0x00, 0x7b, 0x22, 0x74, 0x22, 0x3a, 0x31, 0x7d,
    0x4c, 0xc7, 0x56, 0xe3, 0x00, 0x00, 0xaa, 0x55]

def emptyStatus : Bytes :=
  [0x00, 0x00, 0x55, 0xaa, 0x00, 0x00, 0x00, 0x01, 0x00, 0x00, 0x00, 0x08,
    0x00, 0x00, 0x00, 0x0c, 0x00, 0x00, 0x00, 0x00, 0x7a, 0xbc, 0x66, 0xc5,
    0x00, 0x00, 0xaa, 0x55]

def bringsPayloads (w : World) (e : Event) : Bool :=
  (incoming KnownAnswers.crates (KnownAnswers.json []) .release (sampleBuilder .v33).device w
    e).all fun m => !m.payload.isEmpty

theorem bringsPayloads_bringsData (h : bringsPayloads w e = true) :
    BringsData KnownAnswers.crates (KnownAnswers.json []) .release (sampleBuilder .v33).device
      w e := by
  rintro req - - - m hm ⟨hempty, -⟩
  have hsome := List.all_eq_true.mp h m hm
  rw [hempty] at hsome
  cases hsome

def awaitedAt : Pc → Option (CommandType × UInt32)
  | .awaitReply req _ effectiveCmd => some (req.command, effectiveCmd)
  | _ => none

theorem awaitReply_of_awaitedAt {pc : Pc} {command : CommandType} {effectiveCmd : UInt32}
    (h : awaitedAt pc = some (command, effectiveCmd)) :
    ∃ req initial, pc = .awaitReply req initial effectiveCmd ∧ req.command = command := by
  unfold awaitedAt at h
  split at h
  · cases h
    exact ⟨_, _, rfl, rfl⟩
  · cases h

theorem query_answered_with_data :
    ∃ w w' msg, run (guarded bringsPayloads (sampleNext .v33)) (sampleBuilder .v33).run
        (querySteps ++ [.reader (.packet 0 ⟨queryResponse.tail, .silent⟩)]) = some w ∧
      awaitedAt w.pc = some (.lanExtStream, 64) ∧
      sampleNext .v33 w (.task .reply) = some w' ∧
      newReplies w w' = [(1, .ok (some msg))] ∧ msg.payload ≠ [] := by
  obtain ⟨w, hrun, hobserved⟩ : ∃ w,
      run (guarded bringsPayloads (sampleNext .v33)) (sampleBuilder .v33).run
        (querySteps ++ [.reader (.packet 0 ⟨queryResponse.tail, .silent⟩)]) = some w ∧
      (awaitedAt w.pc, (sampleNext .v33 w (.task .reply)).map (newReplies w))
        = (some (.lanExtStream, 64),
          some [(1, .ok (some ⟨1, 64, some 0, KnownAnswers.samplePayload, prefix55aa, none⟩))]) :=
    Option.map_eq_some_iff.mp (by decide +kernel)
  simp only [Prod.mk.injEq] at hobserved
  obtain ⟨hawaited, hreply⟩ := hobserved
  obtain ⟨w', hstep, hnew⟩ := Option.map_eq_some_iff.mp hreply
  obtain ⟨req, initial, hpc, hcommand⟩ := awaitReply_of_awaitedAt hawaited
  have hmem : _ ∈ newReplies w w' := hnew ▸ List.mem_singleton_self _
  refine ⟨w, w', _, hrun, hawaited, hstep, hnew, ?_⟩
  refine mandatory_data_returned KnownAnswers.crates (KnownAnswers.json_writes []) .release
    (sampleBuilder .v33) (execution_of_guarded_run (fun _ _ => bringsPayloads_bringsData) hrun)
    hstep hpc ?_ hmem
  rw [hcommand]
  decide

/-- A request for data is completed by an empty status message. -/
theorem query_completed_by_empty_status :
    ∃ w w' msg, run (sampleNext .v33) (sampleBuilder .v33).run
        (querySteps ++ [.reader (.packet 0 ⟨emptyStatus.tail, .silent⟩)]) = some w ∧
      awaitedAt w.pc = some (.lanExtStream, 64) ∧
      CommandType.lanExtStream.code ∈ mandatoryDataCmds ∧
      sampleNext .v33 w (.task .reply) = some w' ∧
      newReplies w w' = [(1, .ok (some msg))] ∧ msg.cmd = 8 ∧ msg.payload = [] := by
  obtain ⟨w, hrun, hobserved⟩ : ∃ w,
      run (sampleNext .v33) (sampleBuilder .v33).run
        (querySteps ++ [.reader (.packet 0 ⟨emptyStatus.tail, .silent⟩)]) = some w ∧
      (awaitedAt w.pc, (sampleNext .v33 w (.task .reply)).map (newReplies w))
        = (some (.lanExtStream, 64),
          some [(1, .ok (some ⟨1, 8, some 0, [], prefix55aa, none⟩))]) :=
    Option.map_eq_some_iff.mp (by decide +kernel)
  simp only [Prod.mk.injEq] at hobserved
  obtain ⟨hawaited, hreply⟩ := hobserved
  obtain ⟨w', hstep, hnew⟩ := Option.map_eq_some_iff.mp hreply
  exact ⟨w, w', _, hrun, hawaited, by decide, hstep, hnew, rfl, rfl⟩

end Sample

end MandatoryData

section SubDevices

variable {S : Codec} {cid : String} {msg : TuyaMessage}

def CompletesJust (S : Codec) (cid : String) (msg : TuyaMessage) : Prop :=
  ∀ (w : World) (req : Request) (initial : Bool) (effectiveCmd : UInt32)
    (rest : List TuyaMessage), w.subscription = some (msg :: rest) →
    rest.length < chanBroadcastCapacity →
    awaitReply S w req initial effectiveCmd .reply = some
      (if req.cid = some cid then w.conclude req initial (.ok (some msg))
        else { w with subscription := some rest })

theorem awaitReply_reply {w : World} {rest : List TuyaMessage}
    (hunread : w.subscription = some (msg :: rest)) (hroom : rest.length < chanBroadcastCapacity)
    (req : Request) (initial : Bool) (effectiveCmd : UInt32) :
    awaitReply S w req initial effectiveCmd .reply = some
      (if answers S effectiveCmd req.cid msg then w.conclude req initial (.ok (some msg))
        else { w with subscription := some rest }) := by
  unfold awaitReply
  dsimp only
  rw [hunread]
  dsimp only
  rw [if_neg (by rw [List.length_cons]; omega)]
  split <;> rfl

theorem completesJust_iff : CompletesJust S cid msg ↔
    ∀ effectiveCmd other, answers S effectiveCmd other msg = true ↔ other = some cid := by
  constructor
  · intro h effectiveCmd other
    -- What the loop does with the message shows in the number of replies.
    let w : World := { (sampleBuilder .v33).run with subscription := some [msg] }
    let req : Request := ⟨0, .control, none, other⟩
    have hstep := (awaitReply_reply (S := S) (w := w) rfl (by decide) req true effectiveCmd).symm
      |>.trans (h w req true effectiveCmd [] rfl (by decide))
    have hcount := congrArg (fun v => v.replies.length) (Option.some.inj hstep)
    by_cases hanswers : answers S effectiveCmd other msg = true <;>
      by_cases hcid : other = some cid
    · exact iff_of_true hanswers hcid
    · rw [if_pos hanswers, if_neg hcid] at hcount
      cases hcount
    · rw [if_neg hanswers, if_pos hcid] at hcount
      cases hcount
    · exact iff_of_false hanswers hcid
  · intro h w req initial effectiveCmd rest hunread hroom
    rw [awaitReply_reply hunread hroom]
    simp only [h]

/-- Where the payload of `Control` has the sub-device id: at the root, but for versions 3.4 and
3.5 without the wrapper. -/
theorem control_cid (deviceId : String) (cid : String) (dps : Value) (t : UInt64)
    (protocol : TuyaProtocol) :
    field (generatePayload deviceId .control (some dps) (some cid) t protocol).2 "cid"
      = if protocol = .v34 ∨ protocol = .v35 then none else some (.string cid) := by
  cases protocol with
  | v34 | v35 =>
    simp [generatePayload, generatePayloadV34, generatePayloadV35, generateNested, nestedControl,
      field]
  | v31 | v32 | v33 | dev22 base =>
    simp [generatePayload, generatePayloadV31, generatePayloadV32, generatePayloadV33,
      generatePayloadDev22, generateRoot, basePayload, createBasePayload, field]

/-- A status message with the payload that a version builds for a sub-device is matched to the
requests for this sub-device, and to no others, just in case the version is below 3.4 or the
device type wraps it. -/
theorem status_matched_iff (S : Codec) (protocol : TuyaProtocol) (deviceId cid : String)
    (dps : Value) (t : UInt64) {msg : TuyaMessage} (hcmd : msg.cmd = CommandType.status.code)
    (hpayload : msg.payload ≠ []) (hjson : S.fromSlice msg.payload
      = some (generatePayload deviceId .control (some dps) (some cid) t protocol).2) :
    CompletesJust S cid msg ↔ protocol ≠ .v34 ∧ protocol ≠ .v35 := by
  have hzero : msg.cmd ≠ 0 := by
    rw [hcmd]
    decide
  have hfield := control_cid deviceId cid dps t protocol
  rw [completesJust_iff, ← not_or]
  by_cases hnested : protocol = .v34 ∨ protocol = .v35
  · rw [if_pos hnested] at hfield
    refine iff_of_false ?_ (not_not_intro hnested)
    intro h
    -- Without an id at the root the message is taken for one of the device itself.
    have hparent := (h 0 none).mp ((answers_of_json hzero (.inr hcmd) hpayload hjson).mpr hfield)
    cases hparent
  · rw [if_neg hnested] at hfield
    refine iff_of_true ?_ hnested
    intro effectiveCmd other
    rw [answers_of_json hzero (.inr hcmd) hpayload hjson]
    cases other with
    | none => simp [ForCid, hfield]
    | some other => simp [ForCid, hfield, asStr, eq_comm]

section Sample

def subDevicePayload (protocol : TuyaProtocol) : Value :=
  (generatePayload "bf0123" .control (some (.object [("1", .bool true)])) (some "sub1") 1700000000
    protocol).2

def subDeviceCodec (protocol : TuyaProtocol) : Codec :=
  KnownAnswers.json [subDevicePayload protocol]

def subDeviceStatus (protocol : TuyaProtocol) : TuyaMessage :=
  { TuyaMessage.default with
    cmd := CommandType.status.code
    payload := (subDeviceCodec protocol).toVec (subDevicePayload protocol) }

theorem subDeviceStatus_parsed (protocol : TuyaProtocol) :
    (subDeviceCodec protocol).fromSlice (subDeviceStatus protocol).payload
      = some (subDevicePayload protocol) := by
  simp [subDeviceCodec, subDeviceStatus, KnownAnswers.json]

theorem subDeviceStatus_payload (protocol : TuyaProtocol) :
    (subDeviceStatus protocol).payload ≠ [] :=
  KnownAnswers.json_writes [subDevicePayload protocol] _

theorem status_matched_v33 : CompletesJust (subDeviceCodec .v33) "sub1" (subDeviceStatus .v33) :=
  (status_matched_iff (subDeviceCodec .v33) .v33 "bf0123" "sub1" _ 1700000000 rfl
    (subDeviceStatus_payload .v33) (subDeviceStatus_parsed .v33)).mpr ⟨by decide, by decide⟩

/-- With version 3.4 the message is passed over by a request for the sub-device, and completes
one for the device itself. -/
theorem status_mismatched_v34 :
    (∀ effectiveCmd, answers (subDeviceCodec .v34) effectiveCmd (some "sub1")
        (subDeviceStatus .v34) = false) ∧
      (∀ effectiveCmd, answers (subDeviceCodec .v34) effectiveCmd none
        (subDeviceStatus .v34) = true) ∧
      ¬ CompletesJust (subDeviceCodec .v34) "sub1" (subDeviceStatus .v34) := by
  have hfield : field (subDevicePayload .v34) "cid" = none := control_cid _ _ _ _ .v34
  have hanswers : ∀ effectiveCmd cid, answers (subDeviceCodec .v34) effectiveCmd cid
      (subDeviceStatus .v34) = true ↔ ForCid cid (subDevicePayload .v34) := by
    intro effectiveCmd cid
    exact answers_of_json (by decide) (.inr rfl) (subDeviceStatus_payload .v34)
      (subDeviceStatus_parsed .v34)
  have hparent : ∀ effectiveCmd, answers (subDeviceCodec .v34) effectiveCmd none
      (subDeviceStatus .v34) = true := fun effectiveCmd => (hanswers effectiveCmd none).mpr hfield
  refine ⟨?_, hparent, ?_⟩
  · intro effectiveCmd
    rw [← Bool.not_eq_true, hanswers, ForCid, hfield]
    decide
  · intro h
    cases (completesJust_iff.mp h 0 none).mp (hparent 0)

end Sample

end SubDevices

end ResponseMatching
