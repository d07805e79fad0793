import Rustuya.SessionLifecycle
import Rustuya.TaskCourse

/-!
# Sequence numbers on a connection

The task numbers the frames of a connection with one counter, from 1 on. The counter is set
back at the head of each retry loop. The loop that connects on demand does not set it back: a
handshake that fails after its first frame leaves the counter where it is, and the next
connection starts there.
-/
namespace SequenceNumbers

open CheckedExecution ByteCodec Error Crypto Message Protocol Json DeviceState StreamReader
open ConnectionLifecycle ConnectionTask TransitionSystem TaskCourse
open RequestRefinement (sendFails)

section Frames

def seqnoIn (bytes : Bytes) : UInt32 :=
  readU32 (bytes.drop (if readU32 bytes = prefix6699 then 6 else 4))

def begun (f : Frame) : Bool := decide (0 < f.written)

def sentSeqnos (c : Connection) : List UInt32 :=
  ((c.frames.filter begun).reverse).map fun f => seqnoIn f.bytes

variable {C : Crates} {build : Build} {msg : TuyaMessage} {bytes : Bytes}

theorem seqnoIn_55aa (seqno : UInt32) (rest : Bytes) :
    seqnoIn (writeU32 prefix55aa ++ (writeU32 seqno ++ rest)) = seqno := by
  have hother : prefix55aa ≠ prefix6699 := by decide
  rw [seqnoIn, readU32_writeU32, if_neg hother, List.drop_left' (length_writeU32 _),
    readU32_writeU32]

theorem seqnoIn_6699 (seqno : UInt32) (rest : Bytes) :
    seqnoIn (writeU32 prefix6699 ++ (writeU16 0 ++ (writeU32 seqno ++ rest))) = seqno := by
  have hlen : (writeU32 prefix6699 ++ writeU16 0).length = 6 := rfl
  rw [seqnoIn, readU32_writeU32, if_pos rfl, ← List.append_assoc, List.drop_left' hlen,
    readU32_writeU32]

theorem pack55aa_seqno {hmacKey : Option Bytes} (hframe : msg.msgPrefix = prefix55aa)
    (h : pack55aa C build msg hmacKey = .ok bytes) : seqnoIn bytes = msg.seqno ∧ bytes ≠ [] := by
  obtain ⟨payloadLen, -, h⟩ := Outcome.bind_eq_ok h
  cases h
  rw [hframe]
  simp only [List.append_assoc]
  exact ⟨seqnoIn_55aa _ _, List.append_ne_nil_of_left_ne_nil (List.cons_ne_nil _ _) _⟩

theorem pack6699_seqno {iv : U8Array 12} {hmacKey : Option Bytes}
    (h : pack6699 C iv msg hmacKey = .ok bytes) : seqnoIn bytes = msg.seqno ∧ bytes ≠ [] := by
  obtain ⟨key, -, h⟩ := Outcome.bind_eq_ok h
  obtain ⟨cipher, -, h⟩ := Outcome.bind_eq_ok h
  obtain ⟨aad, -, h⟩ := Outcome.bind_eq_ok h
  obtain ⟨encrypted, -, h⟩ := Outcome.bind_eq_ok h
  cases h
  simp only [header6699, List.append_assoc]
  exact ⟨seqnoIn_6699 _ _, List.append_ne_nil_of_left_ne_nil (List.cons_ne_nil _ _) _⟩

theorem packMessage_seqno {iv : U8Array 12} {hmacKey : Option Bytes}
    (h : packMessage C build iv msg hmacKey = .ok bytes)
    (hkind : msg.msgPrefix = prefix55aa ∨ msg.msgPrefix = prefix6699) :
    seqnoIn bytes = msg.seqno ∧ bytes ≠ [] := by
  unfold packMessage at h
  by_cases hframe : msg.msgPrefix = prefix55aa
  · rw [if_pos hframe] at h
    exact pack55aa_seqno hframe h
  · rw [if_neg hframe, if_pos (hkind.resolve_left hframe)] at h
    exact pack6699_seqno h

theorem getPrefix_cases (protocol : TuyaProtocol) :
    protocol.getPrefix = prefix55aa ∨ protocol.getPrefix = prefix6699 := by
  induction protocol with
  | dev22 base ih => exact ih
  | v35 => exact .inr rfl
  | _ => exact .inl rfl

theorem packWith_seqno {iv : U8Array 12} {protocol : TuyaProtocol} {cipher : TuyaCipher}
    (h : packWith C build iv protocol cipher msg = .ok bytes) :
    seqnoIn bytes = msg.seqno ∧ bytes ≠ [] := by
  obtain ⟨payload, -, h⟩ := Outcome.bind_eq_ok h
  obtain ⟨hseqno, hbytes⟩ := packMessage_seqno h (getPrefix_cases protocol)
  exact ⟨hseqno, hbytes⟩

end Frames

section Condition

variable (C : Crates) (build : Build) (device : Device)

/-- A connection is opened on demand with a counter that is in use already. -/
def dialsStale (w : World) : Event → Bool
  | .task .dialed =>
    match w.pc with
    | .connecting (.onDemand _) (.dial _) => decide (w.seqno ≠ 1)
    | _ => false
  | _ => false

/-- The frame of a request cannot be sent, and nothing has been sent on the connection yet. -/
def skipsFirst (w : World) (e : Event) : Bool :=
  sendFails C build device w e && !(w.conns.head?.any fun c => c.frames.any begun)

def wraps (w : World) : Bool :=
  match w.pc with
  | .sending _ (.build _ _) => !build.overflowChecks && decide (2 ^ 32 ≤ w.seqno.toNat + 1)
  | _ => false

/-- Every connection is opened with a fresh counter, the first frame of each is sent, and no
connection has so many that the counter wraps around. -/
def Regular (w : World) (e : Event) : Prop :=
  dialsStale w e = false ∧ skipsFirst C build device w e = false ∧ wraps build w = false

instance (w : World) (e : Event) : Decidable (Regular C build device w e) :=
  inferInstanceAs (Decidable (_ ∧ _ ∧ _))

end Condition

section Invariant

/-- The frames of a connection, the latest first, have decreasing numbers, and the first of
which something was sent has number 1. -/
structure Ordered (c : Connection) : Prop where
  decreasing : c.frames.Pairwise fun f g => g.seqno < f.seqno
  first : ∀ f, (c.frames.filter begun).getLast? = some f → f.seqno = 1
  carried : ∀ f ∈ c.frames, seqnoIn f.bytes = f.seqno ∧ f.bytes ≠ []

/-- All frames that are already there have lower numbers than this one. -/
def limit (seqno : UInt32) : Doing → UInt32
  | .holding n => n
  | .nothing | .writing => seqno

def atHand (seqno : UInt32) (c : Connection) : Doing → Option UInt32
  | .nothing => some seqno
  | .holding n => some n
  | .writing => c.frames.head?.map (·.seqno)

/-- How the counter stands to the connection in use. -/
structure InStep (seqno : UInt32) (doing : Doing) (c : Connection) : Prop where
  above : ∀ f ∈ c.frames, f.seqno < limit seqno doing
  held : ∀ n, doing = .holding n → n < seqno
  opening : (∀ f ∈ c.frames, begun f = false) → ∀ n, atHand seqno c doing = some n → n = 1

structure Numbered (ch : Chart) : Prop where
  ordered : ∀ c ∈ ch.conns, Ordered c
  reset : ch.station = .idle true → ch.seqno = 1
  latest : ∀ serving doing, ch.station = .linked serving doing →
    ∀ c rest, ch.conns = c :: rest → InStep ch.seqno doing c

variable {c : Connection} {ch : Chart} {seqno : UInt32} {doing : Doing}

theorem ordered_fresh : Ordered .fresh := ⟨.nil, nofun, nofun⟩

theorem Ordered.framed (h : Ordered c) {f : Frame} (habove : ∀ g ∈ c.frames, g.seqno < f.seqno)
    (hwritten : f.written = 0) (hcarried : seqnoIn f.bytes = f.seqno ∧ f.bytes ≠ []) :
    Ordered (framed f c) where
  decreasing := List.pairwise_cons.mpr ⟨habove, h.decreasing⟩
  first := by
    have hnot : begun f = false := by rw [begun, hwritten]; rfl
    rw [ConnectionLifecycle.framed, List.filter_cons_of_neg (by simp [hnot])]
    exact h.first
  carried := by
    intro g hg
    rcases List.mem_cons.mp hg with rfl | hg
    · exact hcarried
    · exact h.carried g hg

/-- Only if no frame below it counts can the topmost one be the last that counts. -/
theorem getLast_filter_cons {α : Type} {p : α → Bool} {xs : List α} (x : α)
    (h : xs.filter p ≠ []) : ((x :: xs).filter p).getLast? = (xs.filter p).getLast? := by
  obtain ⟨last, hlast⟩ := List.getLast?_isSome.mpr h |> Option.isSome_iff_exists.mp
  by_cases hx : p x = true
  · rw [List.filter_cons_of_pos hx, List.getLast?_cons, hlast, Option.getD_some]
  · rw [List.filter_cons_of_neg hx]

theorem Ordered.wrote (h : Ordered c) (hstep : InStep seqno .writing c) (n : Nat) :
    Ordered (wrote n c) := by
  obtain ⟨frames, key⟩ := c
  cases frames with
  | nil => exact h
  | cons f fs =>
    refine ⟨?_, ?_, ?_⟩
    · exact List.pairwise_cons.mpr (List.pairwise_cons.mp h.decreasing)
    · intro g hg
      by_cases hbelow : fs.filter begun = []
      · have hnone : ∀ g ∈ fs, begun g = false := by simpa using hbelow
        have hnumber : f.seqno = 1 := by
          by_cases hf : begun f = true
          · apply h.first f
            rw [List.filter_cons_of_pos hf, hbelow]
            rfl
          · refine hstep.opening (fun g hg => ?_) f.seqno rfl
            rcases List.mem_cons.mp hg with rfl | hg
            · exact Bool.eq_false_iff.mpr hf
            · exact hnone g hg
        have hmem := (List.mem_filter.mp (List.mem_of_getLast? hg))
        rcases List.mem_cons.mp hmem.1 with rfl | hlower
        · exact hnumber
        · rw [hnone g hlower] at hmem
          cases hmem.2
      · apply h.first g
        rw [getLast_filter_cons f hbelow, ← hg]
        exact (getLast_filter_cons _ hbelow).symm
    · intro g hg
      rcases List.mem_cons.mp hg with rfl | hg
      · exact h.carried f List.mem_cons_self
      · exact h.carried g (List.mem_cons_of_mem f hg)

theorem inStep_fresh : InStep 1 .nothing .fresh :=
  ⟨nofun, nofun, fun _ _ h => (Option.some.inj h).symm⟩

theorem InStep.built (h : InStep seqno .nothing c) (hfits : seqno.toNat + 1 < 2 ^ 32) :
    InStep (seqno + 1) (.holding seqno) c where
  above := h.above
  held := by
    intro n hn
    cases hn
    rw [UInt32.lt_iff_toNat_lt, UInt32.toNat_add]
    change seqno.toNat < (seqno.toNat + 1) % 2 ^ 32
    omega
  opening := h.opening

theorem InStep.framed {f : Frame} (h : InStep seqno (.holding f.seqno) c) :
    InStep seqno .writing (framed f c) where
  above := by
    intro g hg
    have hheld : f.seqno < seqno := h.held f.seqno rfl
    rcases List.mem_cons.mp hg with rfl | hg
    · exact hheld
    · exact UInt32.lt_trans (h.above g hg) hheld
  held := nofun
  opening := by
    intro hnone n hn
    apply h.opening (fun g hg => hnone g (List.mem_cons_of_mem f hg)) n
    exact hn

theorem InStep.wrote (h : InStep seqno .writing c) (n : Nat) :
    InStep seqno .writing (wrote n c) := by
  obtain ⟨frames, key⟩ := c
  cases frames with
  | nil => exact h
  | cons f fs =>
    refine ⟨?_, nofun, ?_⟩
    · intro g hg
      rcases List.mem_cons.mp hg with rfl | hg
      · exact h.above f List.mem_cons_self
      · exact h.above g (List.mem_cons_of_mem f hg)
    · intro hnone m hm
      apply h.opening _ m hm
      intro g hg
      rcases List.mem_cons.mp hg with rfl | hg
      · have hlater := hnone _ List.mem_cons_self
        simp [begun] at hlater ⊢
        omega
      · exact hnone g (List.mem_cons_of_mem _ hg)

/-- Once something has been sent, the counter only has to be above all frames. -/
theorem InStep.settled (h : InStep seqno doing c) (hsent : ∃ f ∈ c.frames, begun f = true) :
    InStep seqno .nothing c where
  above := by
    intro f hf
    cases doing with
    | holding n => exact UInt32.lt_trans (h.above f hf) (h.held n rfl)
    | _ => exact h.above f hf
  held := nofun
  opening := by
    intro hnone
    obtain ⟨f, hf, hbegun⟩ := hsent
    rw [hnone f hf] at hbegun
    cases hbegun

theorem mem_onLatest {f : Connection → Connection} {cs : List Connection}
    (h : c ∈ onLatest f cs) : (∃ d rest, cs = d :: rest ∧ c = f d) ∨ c ∈ cs := by
  cases cs with
  | nil => cases h
  | cons d rest =>
    rcases List.mem_cons.mp h with rfl | h
    · exact .inl ⟨d, rest, rfl, rfl⟩
    · exact .inr (List.mem_cons_of_mem d h)

def away : Station → Bool
  | .idle true | .linked _ _ => false
  | .idle false | .leaving | .over => true

theorem numbered_away (hordered : ∀ c ∈ ch.conns, Ordered c) (haway : away ch.station = true) :
    Numbered ch := by
  refine ⟨hordered, ?_, ?_⟩
  · intro hstation
    rw [hstation] at haway
    cases haway
  · intro serving doing hstation
    rw [hstation] at haway
    cases haway

theorem numbered_linked {serving : Bool} (hordered : ∀ c ∈ ch.conns, Ordered c)
    (hstation : ch.station = .linked serving doing)
    (hlatest : ∀ c rest, ch.conns = c :: rest → InStep ch.seqno doing c) : Numbered ch := by
  refine ⟨hordered, ?_, ?_⟩
  · intro hidle
    rw [hstation] at hidle
    cases hidle
  · intro serving' doing' hlinked
    rw [hstation] at hlinked
    cases hlinked
    exact hlatest

theorem ordered_onLatest (h : ∀ c ∈ ch.conns, Ordered c) {f : Connection → Connection}
    (hlatest : ∀ c rest, ch.conns = c :: rest → Ordered c → Ordered (f c)) :
    ∀ c ∈ onLatest f ch.conns, Ordered c := by
  intro c hc
  rcases mem_onLatest hc with ⟨d, rest, hconns, rfl⟩ | hc
  · exact hlatest d rest hconns (h d (hconns ▸ List.mem_cons_self))
  · exact h c hc

theorem latest_onLatest {f : Connection → Connection} {P : Connection → Prop}
    {cs : List Connection} (h : ∀ c rest, cs = c :: rest → P (f c)) :
    ∀ c rest, onLatest f cs = c :: rest → P c := by
  intro c rest hc
  cases cs with
  | nil => cases hc
  | cons d ds =>
    cases hc
    exact h d _ rfl

end Invariant

section Runs

variable {C : Crates} {S : Codec} {build : Build} {device : Device} {w w' : World} {e : Event}
  {es : List Event}

theorem opens_at_one {a : Attempt} {addr : String} (hw : Numbered (chart w))
    (hpc : w.pc = .connecting a (.dial addr)) (hstale : dialsStale w (.task .dialed) = false) :
    w.seqno = 1 := by
  cases a with
  | scheduled =>
    apply hw.reset
    rw [chart, hpc]
    rfl
  | onDemand req =>
    rw [dialsStale, hpc] at hstale
    exact not_not.mp (of_decide_eq_false hstale)

theorem builds_fitting {p : Purpose} {cmd : UInt32} {payload : Bytes}
    (hpc : w.pc = .sending p (.build cmd payload)) (hwraps : wraps build w = false)
    (hfits : build.overflowChecks = true → w.seqno.toNat + 1 < 2 ^ 32) :
    w.seqno.toNat + 1 < 2 ^ 32 := by
  cases hchecks : build.overflowChecks with
  | true => exact hfits hchecks
  | false =>
    rw [wraps, hpc, hchecks] at hwraps
    exact Nat.lt_of_not_le (of_decide_eq_false hwraps)

theorem begun_of_fails (hfails : sendFails C build device w e = true)
    (hskips : skipsFirst C build device w e = false) {c : Connection} {rest : List Connection}
    (hconns : w.conns = c :: rest) : ∃ f ∈ c.frames, begun f = true := by
  rw [skipsFirst, hfails, hconns] at hskips
  simpa using hskips

theorem begun_of_whole {f : Frame} {c : Connection} {rest : List Connection}
    (hordered : Ordered c) (hconns : w.conns = c :: rest) (hcurrent : w.current = some f)
    (hwhole : f.written = f.bytes.length) : ∃ f ∈ c.frames, begun f = true := by
  rw [World.current, hconns] at hcurrent
  have hmem : f ∈ c.frames := List.mem_of_head? hcurrent
  refine ⟨f, hmem, decide_eq_true ?_⟩
  rw [hwhole]
  exact List.length_pos_of_ne_nil (hordered.carried f hmem).2

theorem step_numbered (hregular : Regular C build device w e)
    (hnext : next C S build device w e = some w') (hw : Numbered (chart w)) :
    Numbered (chart w') := by
  obtain ⟨hstale, hskips, hwraps⟩ := hregular
  cases next_course hnext with
  | stays h =>
    rw [h]
    exact hw
  | rests hfrom h =>
    rw [h]
    exact numbered_away hw.ordered rfl
  | ends h =>
    rw [h]
    exact numbered_away hw.ordered rfl
  | counts t err he hpc h =>
    rw [h]
    exact numbered_away hw.ordered rfl
  | leaves doing hfrom h =>
    rw [h]
    exact numbered_away hw.ordered rfl
  | resets before after hfrom h =>
    rw [h]
    exact ⟨hw.ordered, fun _ => rfl, fun _ _ hlinked => by cases hlinked⟩
  | opens a addr hpc he h =>
    subst he
    have hone : w.seqno = 1 := opens_at_one hw hpc hstale
    rw [h]
    refine numbered_linked ?_ rfl ?_
    · intro c hc
      rcases List.mem_cons.mp hc with rfl | hc
      · exact ordered_fresh
      · exact hw.ordered c hc
    · intro c rest hconns
      cases hconns
      change InStep w.seqno .nothing .fresh
      rw [hone]
      exact inStep_fresh
  | agrees key h =>
    rw [h]
    refine ⟨ordered_onLatest hw.ordered ?_, hw.reset, ?_⟩
    · exact fun c rest _ hc => ⟨hc.decreasing, hc.first, hc.carried⟩
    · intro serving doing hstation
      apply latest_onLatest
      intro c rest hconns
      have hstep := hw.latest serving doing hstation c rest hconns
      exact ⟨hstep.above, hstep.held, hstep.opening⟩
  | builds p cmd payload hpc hfits h =>
    have hfrom : (chart w).station = .linked (purposeServes p) .nothing := by
      rw [chart, hpc]
      rfl
    rw [h]
    refine numbered_linked hw.ordered rfl ?_
    intro c rest hconns
    exact (hw.latest _ _ hfrom c rest hconns).built (builds_fitting hpc hwraps hfits)
  | frames serving f hfrom iv protocol cipher msg hseqno hbytes hwritten h =>
    have hcarried := packWith_seqno hbytes
    rw [hseqno] at hcarried
    rw [h]
    refine numbered_linked (ordered_onLatest hw.ordered ?_) rfl (latest_onLatest ?_)
    · intro c rest hconns hc
      exact hc.framed (hw.latest _ _ hfrom c rest hconns).above hwritten hcarried
    · intro c rest hconns
      exact (hw.latest _ _ hfrom c rest hconns).framed
  | writes n serving hfrom h =>
    rw [h]
    refine numbered_linked (ordered_onLatest hw.ordered ?_) hfrom (latest_onLatest ?_)
    · intro c rest hconns hc
      exact hc.wrote (hw.latest _ _ hfrom c rest hconns) n
    · intro c rest hconns
      exact (hw.latest _ _ hfrom c rest hconns).wrote n
  | finishes serving f hfrom hcurrent hwhole h =>
    rw [h]
    refine numbered_linked hw.ordered rfl ?_
    intro c rest hconns
    have hordered := hw.ordered c (hconns ▸ List.mem_cons_self)
    exact (hw.latest _ _ hfrom c rest hconns).settled
      (begun_of_whole hordered hconns hcurrent hwhole)
  | fails serving doing hfrom hfails h =>
    rw [h]
    refine numbered_linked hw.ordered rfl ?_
    intro c rest hconns
    exact (hw.latest _ _ hfrom c rest hconns).settled (begun_of_fails hfails hskips hconns)
  | serves hfrom h =>
    rw [h]
    exact numbered_linked hw.ordered rfl (hw.latest _ _ hfrom)
  | reads firstByte stream status he hreader h =>
    rw [h]
    exact ⟨hw.ordered, hw.reset, hw.latest⟩
  | hears firstByte stream he h =>
    rw [h]
    exact ⟨hw.ordered, hw.reset, hw.latest⟩
  | readerEnds hreader h =>
    rw [h]
    exact ⟨hw.ordered, hw.reset, hw.latest⟩

theorem numbered_run (b : DeviceBuilder) : Numbered (chart b.run) :=
  numbered_away (fun _ hc => by cases hc) rfl

theorem Ordered.sentSeqnos_eq {c : Connection} (h : Ordered c) :
    sentSeqnos c = ((c.frames.filter begun).reverse).map (·.seqno) := by
  apply List.map_congr_left
  intro f hf
  have hmem := (List.mem_filter.mp (List.mem_reverse.mp hf)).1
  exact (h.carried f hmem).1

/-- In every run in which each connection is opened with a fresh counter and the first frame
of each is sent, the frames sent on a connection carry increasing sequence numbers, from 1
on. -/
theorem seqnos_increase_from_one (C : Crates) (S : Codec) (build : Build) (b : DeviceBuilder)
    (h : Execution (next C S build b.device) (Regular C build b.device) b.run es w) :
    ∀ c ∈ w.conns, (sentSeqnos c).Pairwise (· < ·) ∧
      ∀ n, (sentSeqnos c).head? = some n → n = 1 := by
  have hnumbered : Numbered (chart w) :=
    h.invariant (P := fun w => Numbered (chart w))
      (fun _ _ _ hregular hnext hw => step_numbered hregular hnext hw) (numbered_run b)
  intro c hc
  have hordered := hnumbered.ordered c hc
  rw [hordered.sentSeqnos_eq]
  constructor
  · rw [List.pairwise_map, List.pairwise_reverse]
    exact hordered.decreasing.filter begun
  · intro n hn
    rw [List.head?_map, List.head?_reverse] at hn
    obtain ⟨f, hf, rfl⟩ := Option.map_eq_some_iff.mp hn
    exact hordered.first f hf

end Runs

section Sample

open SessionLifecycle (responseFrame frameSteps)

def negStartSteps : List Event :=
  [.task .go, .task .dialed, .task .go, .task (.drawn KnownAnswers.localNonce)] ++ frameSteps 84

def failedHandshakeSteps : List Event :=
  [.task .slept, .task .go, .task .go, .task .go] ++ negStartSteps ++
    [.task (.noResponse .silent), .task .go, .task .go, .task .go]

def retrySteps : List Event :=
  [.task .go, .task .go, .task .go, .task .slept] ++ negStartSteps ++
    [.task (.response (responseFrame.headD 0) ⟨responseFrame.tail, .silent⟩)] ++ frameSteps 100

def onDemandSteps : List Event :=
  [.user (.submit ⟨1, .heartBeat, none, none⟩), .task .recv] ++ negStartSteps

theorem retry_starts_at_one :
    ∃ w, run (guarded (fun w e => decide (Regular KnownAnswers.crates .release
        (sampleBuilder .v34).device w e)) (sampleNext .v34)) (sampleBuilder .v34).run
        (failedHandshakeSteps ++ retrySteps) = some w ∧
      w.conns.map sentSeqnos = [[1, 2], [1]] ∧
      ∀ c ∈ w.conns, (sentSeqnos c).Pairwise (· < ·) ∧
        ∀ n, (sentSeqnos c).head? = some n → n = 1 := by
  obtain ⟨w, hrun, hseqnos⟩ : ∃ w, run (guarded (fun w e => decide (Regular KnownAnswers.crates
      .release (sampleBuilder .v34).device w e)) (sampleNext .v34)) (sampleBuilder .v34).run
      (failedHandshakeSteps ++ retrySteps) = some w ∧ w.conns.map sentSeqnos = [[1, 2], [1]] :=
    Option.map_eq_some_iff.mp (by decide +kernel)
  refine ⟨w, hrun, hseqnos, ?_⟩
  exact seqnos_increase_from_one KnownAnswers.crates (KnownAnswers.json []) .release
    (sampleBuilder .v34)
    (execution_of_guarded_run (fun _ _ hregular => of_decide_eq_true hregular) hrun)

/-- Without `persist`, a handshake fails after its first frame. The connection that is then
opened on demand numbers its first frame 2. -/
theorem on_demand_starts_at_two :
    ∃ w, run (sampleNext .v34) { sampleBuilder .v34 with persist := false }.run
        (failedHandshakeSteps ++ onDemandSteps) = some w ∧
      w.conns.map sentSeqnos = [[2], [1]] := by
  apply Option.map_eq_some_iff.mp
  decide +kernel

end Sample

end SequenceNumbers
