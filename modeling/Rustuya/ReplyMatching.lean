import Rustuya.RequestRefinement
import Rustuya.WireIntegrity

/-!
# Answers and the requests they are for

The device answers a frame with its sequence number, but the task takes the first message
with the expected command for the answer. A message that the device sent as the answer to
another request can therefore be returned, if it arrives while a request is waiting that
would take it.
-/
namespace ReplyMatching

open CheckedExecution ByteCodec Error Crypto Message Protocol Json DeviceState ConnectionTask
open TransitionSystem RequestLifecycle RequestRefinement

section Origins

variable {S : Codec} {d d' : Desk} {deed : Deed}

def waiting : Phase → Option Request
  | .dispatching req | .pending req | .awaiting req _ => some req
  | .idle | .carrying _ | .serving _ | .shutting | .closing _ | .counting _ | .over => none

/-- The command of the answer can be `effectiveCmd`: the one that the request has read, or that
of any protocol as long as it has read none. -/
def Expects (phase : Phase) (req : Request) (effectiveCmd : UInt32) : Prop :=
  match phase with
  | .awaiting _ cmd => effectiveCmd = cmd
  | _ => ∃ protocol : TuyaProtocol, effectiveCmd = protocol.getEffectiveCommand req.command

def Acceptable (S : Codec) (phase : Phase) (req : Request) (msg : TuyaMessage) : Prop :=
  msg.cmd ≠ 0 ∧ ∃ effectiveCmd, Expects phase req effectiveCmd ∧
    answers S effectiveCmd req.cid msg = true

abbrev Heard := TuyaMessage × Option Nat

/-- What was broadcast, with its origin: of the messages that the waiting request has yet to
look at, those it would take are its own. -/
structure Traced (S : Codec) (d : Desk) (heard : List Heard) : Prop where
  messages : heard.map Prod.fst = d.broadcast
  own : ∀ req ms, waiting d.phase = some req → d.subscription = some ms →
    ∃ hs, hs <:+ heard ∧ hs.map Prod.fst = ms ∧
      ∀ m k, (m, some k) ∈ hs → Acceptable S d.phase req m → k = req.id

variable {heard : List Heard} {origin : Option Nat}

theorem traced_of_settled (hnone : waiting d.phase = none)
    (hmessages : heard.map Prod.fst = d.broadcast) : Traced S d heard := by
  refine ⟨hmessages, ?_⟩
  intro req ms hwaiting
  rw [hnone] at hwaiting
  cases hwaiting

theorem Traced.listen (hd : Traced S d heard) {msgs : List TuyaMessage}
    (hphase : d'.phase = d.phase) (hheard : d'.subscription = d.subscription.map (· ++ msgs))
    (hmessages : (heard ++ msgs.map (·, origin)).map Prod.fst = d'.broadcast)
    (hclear : ∀ req k, origin = some k → waiting d.phase = some req →
      d.subscription.isSome = true → ∀ m ∈ msgs, Acceptable S d.phase req m → k = req.id) :
    Traced S d' (heard ++ msgs.map (·, origin)) := by
  refine ⟨hmessages, ?_⟩
  intro req ms hwaiting hms
  rw [hphase] at hwaiting ⊢
  rw [hheard] at hms
  obtain ⟨ms, hbefore, rfl⟩ := Option.map_eq_some_iff.mp hms
  obtain ⟨hs, ⟨earlier, hsuffix⟩, hmap, hown⟩ := hd.own req ms hwaiting hbefore
  refine ⟨hs ++ msgs.map (·, origin), ⟨earlier, ?_⟩, ?_, ?_⟩
  · rw [← List.append_assoc, hsuffix]
  · simp [hmap, Function.comp_def]
  · intro m k hm hacceptable
    rcases List.mem_append.mp hm with hm | hm
    · exact hown m k hm hacceptable
    · obtain ⟨m', hm', heq⟩ := List.mem_map.mp hm
      cases heq
      exact hclear req k rfl hwaiting (Option.isSome_of_mem hbefore) m hm' hacceptable

theorem Traced.proceed (hd : Traced S d heard) {req : Request}
    (hmessages : heard.map Prod.fst = d'.broadcast) (hheard : d'.subscription = d.subscription)
    (hbefore : waiting d.phase = some req) (hafter : waiting d'.phase = some req)
    (hexpected : ∀ cmd, Expects d'.phase req cmd → Expects d.phase req cmd) :
    Traced S d' heard := by
  refine ⟨hmessages, ?_⟩
  intro req' ms hwaiting hms
  rw [hafter] at hwaiting
  cases hwaiting
  rw [hheard] at hms
  obtain ⟨hs, hsuffix, hmap, hown⟩ := hd.own req ms hbefore hms
  refine ⟨hs, hsuffix, hmap, ?_⟩
  rintro m k hm ⟨hcmd, cmd, hcan, hanswers⟩
  exact hown m k hm ⟨hcmd, cmd, hexpected cmd hcan, hanswers⟩

theorem step_preserves_traced (h : DeskStep S d deed d') (hd : Traced S d heard)
    (hclear : ∀ req k, origin = some k → waiting d.phase = some req →
      d.subscription.isSome = true → ∀ m ∈ news d d', Acceptable S d.phase req m → k = req.id) :
    Traced S d' (heard ++ (news d d').map (·, origin)) := by
  have hmessages : (heard ++ (news d d').map (·, origin)).map Prod.fst = d'.broadcast := by
    rw [step_broadcast h, List.map_append, hd.messages, List.map_map]
    exact congrArg _ (List.map_id _)
  cases h with
  | stay | resume | configure | halt | cancel | announce | hear | accept | skip | reject | refuse =>
    refine hd.listen rfl ?_ hmessages hclear
    simp [news, Desk.publish, Desk.drain]
  | take req rest phase hphase hqueue hheld =>
    refine traced_of_settled ?_ hmessages
    rcases hheld with rfl | rfl <;> rfl
  | giveUp e msg hphase hmsg => exact traced_of_settled (congrArg waiting hphase) hmessages
  | subscribe req hphase =>
    refine ⟨hmessages, ?_⟩
    intro req' ms hwaiting hms
    have hempty : ms = [] := by
      dsimp only at hms
      split at hms <;> cases hms
      rfl
    exact ⟨[], List.nil_suffix, hempty.symm, fun _ _ hm => absurd hm List.not_mem_nil⟩
  | dispatched req hphase hsome =>
    simp only [news, List.drop_length, List.map_nil, List.append_nil] at hmessages ⊢
    refine hd.proceed hmessages rfl (congrArg waiting hphase) rfl ?_
    intro cmd hcan
    rw [hphase]
    exact hcan
  | await req effectiveCmd hphase protocol hcmd =>
    simp only [news, List.drop_length, List.map_nil, List.append_nil] at hmessages ⊢
    refine hd.proceed hmessages rfl (congrArg waiting hphase) rfl ?_
    rintro cmd rfl
    rw [hphase]
    exact ⟨protocol, hcmd⟩
  | pass req effectiveCmd msg rest hphase hnext =>
    simp only [news, List.drop_length, List.map_nil, List.append_nil] at hmessages ⊢
    refine ⟨hmessages, ?_⟩
    intro req' ms hwaiting hms
    cases hms
    obtain ⟨hs, hsuffix, hmap, hown⟩ := hd.own req' (msg :: rest) hwaiting hnext
    obtain ⟨h, hs, rfl, -, hrest⟩ := List.map_eq_cons_iff.mp hmap
    refine ⟨hs, (List.suffix_cons h hs).trans hsuffix, hrest, ?_⟩
    intro m k hm
    exact hown m k (List.mem_cons_of_mem h hm)
  | _ => exact traced_of_settled rfl hmessages

end Origins

section Exchanges

variable (C : Crates) (S : Codec) (build : Build) (device : Device)

/-- The state of the system, what was broadcast with its origin, and the command and the
sequence number of every frame that was packed for a request. -/
structure Exchange where
  world : World
  heard : List Heard
  asked : List (Nat × UInt32 × UInt32)

def originOf (answered : Option Nat) : Event → Option Nat
  | .reader (.packet _ _) | .reader (.late _ _) => answered
  | _ => none

def asks (w : World) : Event → List (Nat × UInt32 × UInt32)
  | .task (.packed _) =>
    match w.pc with
    | .sending (.session (.request req _)) (.encrypt msg _) => [(req.id, msg.cmd, msg.seqno)]
    | _ => []
  | _ => []

/-- A step of the system; the label also says which request a packet answers. -/
def exchangeNext (x : Exchange) (l : Event × Option Nat) : Option Exchange :=
  (next C S build device x.world l.1).map fun w =>
    { world := w
      heard := x.heard ++ (newMessages x.world w).map (·, originOf l.2 l.1)
      asked := x.asked ++ asks x.world l.1 }

def Exchange.start (b : DeviceBuilder) : Exchange := ⟨b.run, [], []⟩

def Exchange.unread (x : Exchange) : List Heard :=
  match x.world.subscription with
  | some ms => x.heard.drop (x.heard.length - ms.length)
  | none => []

/-- An answer to one request does not arrive while another one waits that would take it. -/
def Undisturbed (x : Exchange) (l : Event × Option Nat) : Prop :=
  ∀ k req, l.2 = some k → waiting (phaseOf x.world.pc) = some req →
    x.world.subscription.isSome = true → k ≠ req.id →
    ∀ m ∈ incoming C S build device x.world l.1, ¬ Acceptable S (phaseOf x.world.pc) req m

end Exchanges

section Runs

variable {C : Crates} {S : Codec} {build : Build} {device : Device} {x x' : Exchange}
  {l : Event × Option Nat} {ls : List (Event × Option Nat)}

theorem newMessages_of_origin {w w' : World} {e : Event} {tag : Option Nat} {k : Nat}
    (h : next C S build device w e = some w') (horigin : originOf tag e = some k) :
    tag = some k ∧ newMessages w w' = incoming C S build device w e := by
  have hstep := next_step h
  unfold originOf at horigin
  split at horigin
  · exact ⟨horigin, step_heard hstep⟩
  · exact ⟨horigin, step_heard hstep⟩
  · cases horigin

theorem exchange_preserves_traced (h : exchangeNext C S build device x l = some x')
    (hclear : Undisturbed C S build device x l) (hx : Traced S (desk x.world) x.heard) :
    Traced S (desk x'.world) x'.heard := by
  obtain ⟨w, hnext, rfl⟩ := Option.map_eq_some_iff.mp h
  refine step_preserves_traced (next_step hnext) hx ?_
  intro req k horigin hwaiting hsome m hm hacceptable
  obtain ⟨htag, hnews⟩ := newMessages_of_origin hnext horigin
  by_contra hother
  refine hclear k req htag hwaiting hsome hother m ?_ hacceptable
  rw [← hnews]
  exact hm

/-- In every run in which no answer to one request arrives while another one is waiting that
would take it, a message returned to the caller of a request, unless it is an error, is not
the answer to another request. -/
theorem replies_from_own_request (C : Crates) (S : Codec) (build : Build) (b : DeviceBuilder)
    (hrun : Execution (exchangeNext C S build b.device) (Undisturbed C S build b.device)
      (.start b) ls x)
    (h : exchangeNext C S build b.device x l = some x') {id : Nat} {msg : TuyaMessage}
    (hreply : (id, .ok (some msg)) ∈ newReplies x.world x'.world) (hcmd : msg.cmd ≠ 0) :
    x.heard.map Prod.fst = x.world.broadcast ∧
    ∃ origin rest, x.unread = (msg, origin) :: rest ∧ ∀ k, origin = some k → k = id := by
  have htraced : Traced S (desk x.world) x.heard := by
    refine hrun.invariant (P := fun x => Traced S (desk x.world) x.heard) ?_
      (traced_of_settled rfl rfl)
    intro y l y' hclear hnext hy
    exact exchange_preserves_traced hnext hclear hy
  refine ⟨htraced.messages, ?_⟩
  obtain ⟨w, hnext, rfl⟩ := Option.map_eq_some_iff.mp h
  obtain ⟨req, effectiveCmd, rest, rfl, hphase, hunread, hanswers⟩ :=
    step_answered (next_step hnext) hreply
  obtain ⟨hs, hsuffix, hmap, hown⟩ :=
    htraced.own req (msg :: rest) (congrArg waiting hphase) hunread
  obtain ⟨⟨m, origin⟩, later, rfl, hm, hlater⟩ := List.map_eq_cons_iff.mp hmap
  obtain rfl : msg = m := hm.symm
  refine ⟨origin, later, ?_, ?_⟩
  · have hlength : ((msg, origin) :: later).length = (msg :: rest).length := by
      rw [← hlater, List.length_cons, List.length_cons, List.length_map]
    change x.world.subscription = some (msg :: rest) at hunread
    rw [Exchange.unread, hunread]
    dsimp only
    rw [← hlength]
    exact (List.suffix_iff_eq_drop.mp hsuffix).symm
  · rintro k rfl
    refine hown msg k List.mem_cons_self ⟨hcmd, effectiveCmd, ?_, hanswers⟩
    rw [hphase]
    exact rfl

end Runs

section Sample

def switchSteps (id : Nat) : List Event :=
  [.user (.submit ⟨id, .control, some (.object [("1", .bool true)]), none⟩), .task .recv,
    .task .go, .task (.clock 1700000000), .task .go, .task .go,
    .task (.packed KnownAnswers.sampleIv), .task (.wrote 119), .task .writeDone, .task .go]

def controlAck : Bytes :=
  [0x00, 0x00, 0x55, 0xaa, 0x00, 0x00, 0x00, 0x01, 0x00, 0x00, 0x00, 0x07,
    0x00, 0x00, 0x00, 0x0c, 0x00, 0x00, 0x00, 0x00, 0xa5, 0x05, 0xa9, 0x14,
    0x00, 0x00, 0xaa, 0x55]

def acknowledge (id : Nat) : Event × Option Nat :=
  (.reader (.packet 0 ⟨controlAck.tail, .silent⟩), some id)

def unanswering (es : List Event) : List (Event × Option Nat) := es.map (·, none)

def sampleExchange : Exchange → Event × Option Nat → Option Exchange :=
  exchangeNext KnownAnswers.crates (KnownAnswers.json []) .release (sampleBuilder .v33).device

/-- The device answers a request once, with the command and the sequence number of its frame. -/
def echoes (x : Exchange) (l : Event × Option Nat) : Bool :=
  match l.2 with
  | none => true
  | some k =>
    x.heard.all (fun h => h.2 ≠ some k) &&
      (incoming KnownAnswers.crates (KnownAnswers.json []) .release (sampleBuilder .v33).device
        x.world l.1).all fun m => x.asked.contains (k, m.cmd, m.seqno)

def inTime (x : Exchange) (l : Event × Option Nat) : Bool :=
  match l.2, waiting (phaseOf x.world.pc) with
  | some k, some req => k == req.id
  | _, _ => true

theorem inTime_undisturbed {C : Crates} {S : Codec} {build : Build} {device : Device}
    {x : Exchange} {l : Event × Option Nat} (h : inTime x l = true) :
    Undisturbed C S build device x l := by
  intro k req htag hwaiting hsome hother
  rw [inTime, htag, hwaiting] at h
  exact absurd (beq_iff_eq.mp h) hother

theorem acknowledged_in_time :
    ∃ x x' msg, run (guarded inTime sampleExchange) (.start (sampleBuilder .v33))
        (unanswering (WireIntegrity.connectSteps ++ switchSteps 1) ++ [acknowledge 1]) = some x ∧
      sampleExchange x (.task .reply, none) = some x' ∧
      newReplies x.world x'.world = [(1, .ok (some msg))] ∧ msg.cmd = 7 ∧
      ∃ origin rest, x.unread = (msg, origin) :: rest ∧ ∀ k, origin = some k → k = 1 := by
  obtain ⟨x, hrun, hobserved⟩ : ∃ x,
      run (guarded inTime sampleExchange) (.start (sampleBuilder .v33))
        (unanswering (WireIntegrity.connectSteps ++ switchSteps 1) ++ [acknowledge 1]) = some x ∧
      (sampleExchange x (.task .reply, none)).map (fun x' => newReplies x.world x'.world)
        = some [(1, .ok (some ⟨1, 7, some 0, [], prefix55aa, none⟩))] :=
    Option.map_eq_some_iff.mp (by decide +kernel)
  obtain ⟨x', hstep, hnew⟩ := Option.map_eq_some_iff.mp hobserved
  refine ⟨x, x', _, hrun, hstep, hnew, rfl, ?_⟩
  refine (replies_from_own_request KnownAnswers.crates (KnownAnswers.json []) .release
    (sampleBuilder .v33) (execution_of_guarded_run (fun _ _ => inTime_undisturbed) hrun) hstep
    ?_ ?_).2
  · rw [hnew]
    exact List.mem_singleton_self _
  · decide

/-- A request times out and the next one is sent. The late acknowledgement of the first is
then returned to the caller of the second. -/
theorem late_acknowledgement_crosses :
    ∃ x x' msg, run (guarded (fun x l => !x.world.nowait && echoes x l) sampleExchange)
        (.start (sampleBuilder .v33))
        (unanswering (WireIntegrity.connectSteps ++ switchSteps 1 ++ [.task .replyTimeout] ++
          switchSteps 2) ++ [acknowledge 1]) = some x ∧
      x.world.replies = [(1, .error .timeout)] ∧
      sampleExchange x (.task .reply, none) = some x' ∧
      newReplies x.world x'.world = [(2, .ok (some msg))] ∧ msg.cmd = 7 ∧ msg.seqno = 1 ∧
      x.asked = [(1, 7, 1), (2, 7, 2)] ∧ x.unread = [(msg, some 1)] := by
  obtain ⟨x, hrun, hobserved⟩ : ∃ x,
      run (guarded (fun x l => !x.world.nowait && echoes x l) sampleExchange)
        (.start (sampleBuilder .v33))
        (unanswering (WireIntegrity.connectSteps ++ switchSteps 1 ++ [.task .replyTimeout] ++
          switchSteps 2) ++ [acknowledge 1]) = some x ∧
      (decide (x.world.replies = [(1, .error .timeout)] ∧ x.asked = [(1, 7, 1), (2, 7, 2)] ∧
          x.unread = [(⟨1, 7, some 0, [], prefix55aa, none⟩, some 1)]),
        (sampleExchange x (.task .reply, none)).map fun x' => newReplies x.world x'.world)
      = (true, some [(2, .ok (some ⟨1, 7, some 0, [], prefix55aa, none⟩))]) :=
    Option.map_eq_some_iff.mp (by decide +kernel)
  rw [Prod.mk.injEq, decide_eq_true_iff] at hobserved
  obtain ⟨⟨htimeout, hasked, hunread⟩, hreply⟩ := hobserved
  obtain ⟨x', hstep, hnew⟩ := Option.map_eq_some_iff.mp hreply
  exact ⟨x, x', _, hrun, htimeout, hstep, hnew, rfl, rfl, hasked, hunread⟩

end Sample

end ReplyMatching
