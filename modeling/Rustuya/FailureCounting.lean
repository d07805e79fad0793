import Rustuya.FrameAuthenticity
import Rustuya.TaskCourse

/-!
# What resets the count of failures

Three messages from the device set the count of failures back, and with it the wait before
the next attempt. The reader also counts the messages that it makes itself of frames that it
could not parse or verify, and a reader that was aborted may still handle a frame after the
failure. Only as long as neither happens, a reset means that three frames have been received
since the last failure.
-/
namespace FailureCounting

open CheckedExecution StatefulExecution ByteCodec Error Crypto Message Protocol Json DeviceState
open StreamReader ConnectionTask TransitionSystem DeviceDetection TaskCourse
open FrameAuthenticity

section Frames

variable (C : Crates) (S : Codec) (build : Build) (device : Device)

/-- What follows `firstByte` on the stream is a frame with a valid checksum or a valid tag of
the key in use. -/
def intact (s : State) (firstByte : UInt8) (stream : Stream) : Bool :=
  (frameIn build s firstByte stream).any fun (packet, header) =>
    verifies C (s.activeKey device) packet header || checksummed C packet header

def isOk {α : Type} : Result α → Bool
  | .ok _ => true
  | .err _ | .panic => false

def decoded (s : State) (firstByte : UInt8) (stream : Stream) : Bool :=
  (frameIn build s firstByte stream).any fun (packet, header) =>
    isOk ((decodePacket C build device packet header).run s).1

/-- A message is made of something that could not be decoded. -/
def misread (s : State) (firstByte : UInt8) (stream : Stream) : Bool :=
  (messageIn C S build device s firstByte stream).isSome &&
    !decoded C build device s firstByte stream

def garbled (w : World) : Event → Bool
  | .reader (.packet firstByte stream) | .reader (.late firstByte stream) =>
    misread C S build device w.shared firstByte stream
  | _ => false

def overflows (w : World) : Bool :=
  match w.pc with
  | .scheduleRetry _ | .countFailure _ => decide (2 ^ 32 ≤ w.shared.failureCount.toNat + 1)
  | _ => false

/-- An aborted reader has got as far as handling a frame. -/
def belated : Event → Bool
  | .reader (.late _ _) => true
  | _ => false

/-- Messages are made of decoded frames only, by the reader of the connection in use, and the
count of failures does not overflow. -/
def Sound (w : World) (e : Event) : Prop :=
  garbled C S build device w e = false ∧ belated e = false ∧ overflows w = false

instance (w : World) (e : Event) : Decidable (Sound C S build device w e) :=
  inferInstanceAs (Decidable (_ ∧ _ ∧ _))

variable {C build device}

theorem getHmacKey_eq_some {protocol : TuyaProtocol} {cipherKey key : Bytes}
    (h : protocol.getHmacKey cipherKey = some key) : key = cipherKey := by
  induction protocol with
  | dev22 base ih => exact ih h
  | v34 | v35 => exact (Option.some.inj h).symm
  | _ => cases h

theorem unpacked_intact {s t : State} {packet : Bytes} {header : TuyaHeader} {d : TuyaMessage}
    (h : (unpackAndCheckDev22 C build device packet header).run s = (.ok d, t)) :
    verifies C (s.activeKey device) packet header = true ∨ checksummed C packet header = true := by
  rw [run_unpackVerdict, checked] at h
  cases hcipher : TuyaCipher.new (s.activeKey device) with
  | err e =>
    rw [hcipher] at h
    cases h
  | panic =>
    rw [hcipher] at h
    cases h
  | ok cipher =>
    rw [hcipher] at h
    have hresult : (unpackVerdict C build packet header s.version s.devType cipher).result
      = .ok d := congrArg Prod.fst h
    rw [← TaskRefinement.new_eq_ok hcipher]
    unfold unpackVerdict at hresult
    dsimp only at hresult
    split at hresult
    next hunpack =>
      cases hkey : (getProtocol s.version s.devType).getHmacKey cipher.key.val with
      | none =>
        rw [hkey] at hunpack
        exact .inr (unpackMessage_checksummed hunpack)
      | some key =>
        obtain rfl := getHmacKey_eq_some hkey
        rw [hkey] at hunpack
        exact .inl (unpackMessage_verifies hunpack)
    · split at hresult
      · split at hresult
        next hunpack => exact .inr (unpackMessage_checksummed hunpack)
        · cases hresult
        · cases hresult
      · cases hresult
    · cases hresult

theorem decoded_intact {s : State} {firstByte : UInt8} {stream : Stream}
    (h : decoded C build device s firstByte stream = true) :
    intact C build device s firstByte stream = true := by
  unfold decoded at h
  unfold intact
  cases hframe : frameIn build s firstByte stream with
  | none =>
    rw [hframe] at h
    cases h
  | some frame =>
    obtain ⟨packet, header⟩ := frame
    rw [hframe] at h
    change isOk ((decodePacket C build device packet header).run s).1 = true at h
    unfold decodePacket at h
    rcases hunpack : (unpackAndCheckDev22 C build device packet header).run s with ⟨out, t⟩
    cases out with
    | ok d => exact Bool.or_eq_true_iff.mpr (unpacked_intact hunpack)
    | err e =>
      rw [Program.run_bind_err hunpack] at h
      cases h
    | panic =>
      rw [Program.run_bind_panic hunpack] at h
      cases h

end Frames

section Tally

variable (C : Crates) (S : Codec) (build : Build) (device : Device)

def received (s : State) (firstByte : UInt8) (stream : Stream) : Bool :=
  intact C build device s firstByte stream && decoded C build device s firstByte stream

def gain (s : State) (firstByte : UInt8) (stream : Stream) : Nat :=
  if received C build device s firstByte stream then 1 else 0

/-- The places where a connection attempt has failed or a connection is lost. -/
def failing : Pc → Bool
  | .scheduleRetry _ | .countFailure _ | .connectFailed _ _ | .handleDisconnect _ => true
  | _ => false

/-- The frames that have been received since the last failure, whether `failure_count` counts it
or not. -/
def sinceFailure (n : Nat) (w : World) : Event → Nat
  | .task _ => if failing w.pc then 0 else n
  | .reader (.packet firstByte stream) | .reader (.late firstByte stream) =>
    n + gain C build device w.shared firstByte stream
  | .drop | .reader _ | .user _ => n

def tallied (s : World × Nat) (e : Event) : Option (World × Nat) :=
  (next C S build device s.1 e).map fun w => (w, sinceFailure C build device s.2 s.1 e)

end Tally

section Counts

def SameCounts (s t : State) : Prop :=
  t.failureCount = s.failureCount ∧ t.successCount = s.successCount

variable {C : Crates} {S : Codec} {build : Build} {device : Device} {s t : State}

theorem SameCounts.counted (h : SameCounts s t) : SameCounts s.counted t.counted := by
  obtain ⟨hfailures, hsuccesses⟩ := h
  unfold State.counted
  rw [hfailures, hsuccesses]
  split <;> exact ⟨rfl, rfl⟩

theorem counted_cases (s : State) :
    s.counted.failureCount = s.failureCount ∧
        s.counted.successCount.toNat ≤ s.successCount.toNat + 1 ∨
      3 ≤ s.successCount.toNat + 1 ∧ s.counted.failureCount = 0 ∧ s.counted.successCount = 0 := by
  by_cases hreset : 0 < s.failureCount ∧ 3 ≤ s.successCount + 1
  · right
    have hthree : 3 ≤ (s.successCount.toNat + 1) % 2 ^ 32 := UInt32.le_iff_toNat_le.mp hreset.2
    rw [State.counted, if_pos hreset]
    exact ⟨hthree.trans (Nat.mod_le _ _), rfl, rfl⟩
  · left
    refine ⟨?_, successCount_counted_le s⟩
    rw [State.counted, if_neg hreset]

theorem resetFailureCount_cases (build : Build) (s : State) :
    ((resetFailureCount build).run s).2 = s ∨ ((resetFailureCount build).run s).2 = s.counted := by
  by_cases hfits : build.overflowChecks = true → s.successCount.toNat + 1 < 2 ^ 32
  · right
    rw [run_resetFailureCount hfits]
  · left
    have hadd : (addU32 build s.successCount 1 : Result UInt32) = .panic := by
      rcases addU32_cases (ε := TuyaError) build s.successCount 1 with hok | hpanic
      · exact absurd (addU32_eq_ok hok).2 hfits
      · exact hpanic
    rw [resetFailureCount, Program.run_bind_ok (Program.run_read id s)]
    dsimp only [id]
    rw [hadd]
    rfl

theorem packetRead_counts (w : World) (firstByte : UInt8) (stream : Stream) :
    SameCounts w.shared (packetRead C S build device w firstByte stream).device ∨
      (messageIn C S build device w.shared firstByte stream).isSome = true ∧
        SameCounts w.shared.counted (packetRead C S build device w firstByte stream).device := by
  have hread : SameCounts w.shared _ := steady_counts
    (readAndParseFromStream_steady C S build device firstByte ⟨w.shared, stream, []⟩)
  rw [packetRead, processSocketData_device, messageIn]
  split
  next msg r hrun =>
    rw [hrun] at hread ⊢
    rcases resetFailureCount_cases build r.device with hsame | hcounted
    · rw [hsame]
      exact .inl hread
    · rw [hcounted]
      exact .inr ⟨rfl, hread.counted⟩
  next hrun =>
    rw [hrun] at hread
    exact .inl hread

theorem gain_of_message {w : World} {firstByte : UInt8} {stream : Stream}
    (hclean : misread C S build device w.shared firstByte stream = false)
    (hmsg : (messageIn C S build device w.shared firstByte stream).isSome = true) :
    gain C build device w.shared firstByte stream = 1 := by
  have hdecoded : decoded C build device w.shared firstByte stream = true := by
    rw [misread, hmsg] at hclean
    simpa using hclean
  rw [gain, received, hdecoded, decoded_intact hdecoded]
  rfl

variable {w : World} {firstByte : UInt8} {stream : Stream}

theorem packetRead_successes
    (hclean : misread C S build device w.shared firstByte stream = false) :
    (packetRead C S build device w firstByte stream).device.successCount.toNat
      ≤ w.shared.successCount.toNat + gain C build device w.shared firstByte stream := by
  rcases packetRead_counts (C := C) (S := S) w firstByte stream with
    ⟨-, hsuccesses⟩ | ⟨hmsg, -, hsuccesses⟩
  · rw [hsuccesses]
    exact Nat.le_add_right _ _
  · rw [hsuccesses, gain_of_message hclean hmsg]
    exact successCount_counted_le w.shared

theorem packetRead_resets
    (hclean : misread C S build device w.shared firstByte stream = false)
    (hbefore : w.shared.failureCount ≠ 0)
    (hafter : (packetRead C S build device w firstByte stream).device.failureCount = 0) :
    3 ≤ w.shared.successCount.toNat + gain C build device w.shared firstByte stream := by
  rcases packetRead_counts (C := C) (S := S) w firstByte stream with
    ⟨hfailures, -⟩ | ⟨hmsg, hfailures, -⟩
  · exact absurd (hfailures.symm.trans hafter) hbefore
  · rw [gain_of_message hclean hmsg]
    rcases counted_cases w.shared with ⟨hkept, -⟩ | ⟨hthree, -⟩
    · exact absurd (hkept.symm.trans (hfailures.symm.trans hafter)) hbefore
    · exact hthree

end Counts

section Invariant

/-- What the tally says of the chart: successes are received frames, and only the reader of a
connection in use adds to them. -/
structure Told (ch : Chart) (n : Nat) : Prop where
  unserved : ch.station.Unserved → ch.successCount = 0 ∧ ch.reader = .absent
  leaving : ch.station = .leaving → ch.reader = .absent
  served : ch.reader ≠ .absent → ch.successCount.toNat ≤ n

variable {C : Crates} {S : Codec} {build : Build} {device : Device} {w w' : World} {e : Event}
  {n m : Nat} {ch : Chart}

theorem Told.mono (h : Told ch n) (hle : n ≤ m) : Told ch m where
  unserved := h.unserved
  leaving := h.leaving
  served := fun hreader => (h.served hreader).trans hle

theorem sinceFailure_grows (h : ∀ te, e = .task te → failing w.pc = false) :
    n ≤ sinceFailure C build device n w e := by
  cases e with
  | task te => rw [sinceFailure, h te rfl, if_neg Bool.false_ne_true]
  | drop => exact Nat.le_refl n
  | user u => exact Nat.le_refl n
  | reader r =>
    cases r with
    | packet firstByte stream => exact Nat.le_add_right n _
    | late firstByte stream => exact Nat.le_add_right n _
    | _ => exact Nat.le_refl n

theorem Told.setBack (h : Told ch n) (habsent : ch.reader = .absent) : Told ch 0 where
  unserved := h.unserved
  leaving := h.leaving
  served := fun hreader => absurd habsent hreader

theorem told_counted (habsent : ch.reader = .absent) (failureCount : UInt32) :
    Told { ch with failureCount, successCount := 0, station := .idle false } 0 where
  unserved := fun _ => ⟨rfl, habsent⟩
  leaving := fun hleaving => by cases hleaving
  served := fun _ => Nat.le_refl 0

theorem failures_fit {err : TuyaError}
    (hpc : w.pc = .scheduleRetry err ∨ w.pc = .countFailure err) (hfits : overflows w = false) :
    w.shared.failureCount.toNat + 1 < 2 ^ 32 := by
  rcases hpc with hpc | hpc <;> rw [overflows, hpc] at hfits <;>
    exact Nat.lt_of_not_le (of_decide_eq_false hfits)

theorem counted_chart {te : TaskEvent} {err : TuyaError}
    (hpc : w.pc = .scheduleRetry err ∨ w.pc = .countFailure err) (hfits : overflows w = false)
    (hnext : taskNext C S build device w te = some w') :
    chart w' = { chart w with
      failureCount := w.shared.failureCount + 1, successCount := 0, station := .idle false } := by
  have hadd : (addU32 build w.shared.failureCount 1 : Result UInt32)
      = .ok (w.shared.failureCount + 1) := addU32_of_lt build (failures_fit hpc hfits)
  rcases hpc with hpc | hpc
  · rw [taskNext, hpc] at hnext
    obtain rfl := TaskRefinement.onGo_eq_some hnext
    rw [scheduleRetry, hadd]
    rfl
  · rw [taskNext, hpc] at hnext
    obtain rfl := TaskRefinement.onGo_eq_some hnext
    rw [countFailure, hadd]
    dsimp only
    rw [RequestRefinement.drainRx_eq]
    rfl

theorem Told.absent (h : Told (chart w) n) (hfailing : failing w.pc = true) :
    w.reader = .absent := by
  cases hpc : w.pc with
  | scheduleRetry err | connectFailed a err =>
    refine (h.unserved ?_).2
    rw [chart, hpc]
    trivial
  | countFailure err | handleDisconnect err =>
    apply h.leaving
    rw [chart, hpc]
    rfl
  | _ =>
    rw [hpc] at hfailing
    cases hfailing

theorem failing_step {te : TaskEvent} (hfailing : failing w.pc = true) (hfits : overflows w = false)
    (hnext : taskNext C S build device w te = some w') (h : Told (chart w) n) :
    Told (chart w') (sinceFailure C build device n w (.task te)) := by
  have habsent := h.absent hfailing
  rw [sinceFailure, if_pos hfailing]
  cases hpc : w.pc with
  | scheduleRetry err =>
    rw [counted_chart (.inl hpc) hfits hnext]
    exact told_counted habsent _
  | countFailure err =>
    rw [counted_chart (.inr hpc) hfits hnext]
    exact told_counted habsent _
  | connectFailed a err | handleDisconnect err =>
    have hchart : chart w' = chart w := by
      rw [taskNext, hpc] at hnext
      obtain rfl := TaskRefinement.onGo_eq_some hnext
      rw [chart, chart, hpc]
      rfl
    rw [hchart]
    exact h.setBack habsent
  | _ =>
    rw [hpc] at hfailing
    cases hfailing

theorem Told.moves (h : Told ch n) {ch' : Chart} (hsuccesses : ch'.successCount = ch.successCount)
    (hreader : ch'.reader = ch.reader) (hunserved : ch'.station.Unserved → ch.station.Unserved)
    (hstays : ch'.station ≠ .leaving) : Told ch' n where
  unserved := by
    intro hstation
    rw [hsuccesses, hreader]
    exact h.unserved (hunserved hstation)
  leaving := fun hleaving => absurd hleaving hstays
  served := by
    intro hpresent
    rw [hreader] at hpresent
    rw [hsuccesses]
    exact h.served hpresent

/-- What is done about the next frame changes nothing. -/
theorem Told.linked (h : Told ch n) {ch' : Chart} {serving : Bool} {before after : Doing}
    (hfrom : ch.station = .linked serving before) (hto : ch'.station = .linked serving after)
    (hsuccesses : ch'.successCount = ch.successCount) (hreader : ch'.reader = ch.reader) :
    Told ch' n := by
  refine h.moves hsuccesses hreader ?_ ?_
  · rw [hfrom, hto]
    exact id
  · rw [hto]
    intro hleaving
    cases hleaving

theorem Told.reads (h : Told (chart w) n) {firstByte : UInt8} {stream : Stream}
    (hclean : misread C S build device w.shared firstByte stream = false)
    (hreader : w.reader ≠ .absent) (status : ReaderStatus) :
    Told { (chart w).counts (packetRead C S build device w firstByte stream).device with
        reader := status }
      (n + gain C build device w.shared firstByte stream) where
  unserved := fun hunserved => absurd (h.unserved hunserved).2 hreader
  leaving := fun hleaving => absurd (h.leaving hleaving) hreader
  served := fun _ =>
    (packetRead_successes hclean).trans (Nat.add_le_add_right (h.served hreader) _)

theorem step_told (hsound : Sound C S build device w e)
    (hnext : next C S build device w e = some w') (h : Told (chart w) n) :
    Told (chart w') (sinceFailure C build device n w e) := by
  obtain ⟨hclean, htimely, hfits⟩ := hsound
  by_cases hfailing : ∃ te, e = .task te ∧ failing w.pc = true
  · obtain ⟨te, rfl, hfailing⟩ := hfailing
    exact failing_step hfailing hfits hnext h
  have hmono : Told (chart w) (sinceFailure C build device n w e) := by
    refine h.mono (sinceFailure_grows ?_)
    intro te he
    exact Bool.eq_false_iff.mpr fun hpc => hfailing ⟨te, he, hpc⟩
  cases next_course hnext with
  | stays hch =>
    rw [hch]
    exact hmono
  | rests hfrom hch =>
    rw [hch]
    exact hmono.moves rfl rfl (fun _ => hfrom) (fun h => by cases h)
  | ends hch =>
    rw [hch]
    exact hmono.moves rfl rfl False.elim (fun h => by cases h)
  | resets before after hfrom hch =>
    have hunserved : (chart w).station.Unserved := by rw [chart, hfrom]; trivial
    rw [hch]
    exact hmono.moves rfl rfl (fun _ => hunserved) (fun h => by cases h)
  | opens a addr hpc he hch =>
    have hunserved : (chart w).station.Unserved := by rw [chart, hpc]; trivial
    rw [hch]
    exact hmono.moves rfl rfl (fun _ => hunserved) (fun h => by cases h)
  | agrees key hch =>
    rw [hch]
    exact ⟨hmono.unserved, hmono.leaving, hmono.served⟩
  | builds p cmd payload hpc hfits hch =>
    have hfrom : (chart w).station = .linked (purposeServes p) .nothing := by rw [chart, hpc]; rfl
    rw [hch]
    exact hmono.linked hfrom rfl rfl rfl
  | frames serving f hfrom iv protocol cipher msg hseqno hbytes hwritten hch =>
    rw [hch]
    exact hmono.linked hfrom rfl rfl rfl
  | writes n serving hfrom hch =>
    rw [hch]
    exact ⟨hmono.unserved, hmono.leaving, hmono.served⟩
  | finishes serving f hfrom hcurrent hwhole hch =>
    rw [hch]
    exact hmono.linked hfrom rfl rfl rfl
  | fails serving doing hfrom hfails hch =>
    rw [hch]
    exact hmono.linked hfrom rfl rfl rfl
  | leaves doing hfrom hch =>
    rw [hch]
    exact ⟨False.elim, fun _ => rfl, fun hreader => absurd rfl hreader⟩
  | serves hfrom hch =>
    have hunserved : (chart w).station.Unserved := by rw [chart, hfrom]; trivial
    rw [hch]
    refine ⟨(fun hserving => by cases hserving), (fun hleaving => by cases hleaving), ?_⟩
    intro _
    change (chart w).successCount.toNat ≤ _
    rw [(hmono.unserved hunserved).1]
    exact Nat.zero_le _
  | counts te err he hpc hch =>
    refine absurd ⟨te, he, ?_⟩ hfailing
    rcases hpc with hpc | hpc <;> rw [hpc] <;> rfl
  | reads firstByte stream status he hreader hch =>
    subst he
    rw [hch]
    exact h.reads hclean hreader status
  | hears firstByte stream he hch =>
    subst he
    cases htimely
  | readerEnds hreader hch =>
    rw [hch]
    refine ⟨?_, ?_, fun _ => hmono.served hreader⟩
    · exact fun hunserved => absurd (hmono.unserved hunserved).2 hreader
    · exact fun hleaving => absurd (hmono.leaving hleaving) hreader

end Invariant

section Runs

variable {C : Crates} {S : Codec} {build : Build} {device : Device} {w w' : World} {e : Event}
  {es : List Event} {n : Nat}

theorem told_run (b : DeviceBuilder) : Told (chart b.run) 0 :=
  ⟨fun _ => ⟨rfl, rfl⟩, nofun, fun hreader => absurd rfl hreader⟩

theorem run_told (b : DeviceBuilder)
    (h : Execution (tallied C S build b.device) (fun s e => Sound C S build b.device s.1 e)
      (b.run, 0) es (w, n)) : Told (chart w) n := by
  refine h.invariant (P := fun s => Told (chart s.1) s.2) ?_ (told_run b)
  intro s e s' hsound hnext hs
  obtain ⟨v, hv, rfl⟩ := Option.map_eq_some_iff.mp hnext
  exact step_told hsound hv hs

/-- Only a packet of the reader in use can take the count of failures back to 0. -/
theorem reset_by_packet (hsound : Sound C S build device w e)
    (hnext : next C S build device w e = some w') (hbefore : w.shared.failureCount ≠ 0)
    (hafter : w'.shared.failureCount = 0) :
    ∃ firstByte stream, e = .reader (.packet firstByte stream) ∧ w.reader ≠ .absent ∧
      3 ≤ w.shared.successCount.toNat + gain C build device w.shared firstByte stream := by
  obtain ⟨hclean, htimely, hfits⟩ := hsound
  cases next_course hnext with
  | reads firstByte stream status he hreader hch =>
    subst he
    refine ⟨firstByte, stream, rfl, hreader, packetRead_resets hclean hbefore ?_⟩
    exact (congrArg Chart.failureCount hch).symm.trans hafter
  | hears firstByte stream he hch =>
    subst he
    cases htimely
  | counts te err he hpc hch =>
    have hzero : w.shared.failureCount + 1 = 0 :=
      (congrArg Chart.failureCount hch).symm.trans hafter
    have hnat := congrArg UInt32.toNat hzero
    rw [UInt32.toNat_add] at hnat
    change (w.shared.failureCount.toNat + 1) % 2 ^ 32 = 0 at hnat
    have hlt := failures_fit hpc hfits
    omega
  | stays hch | rests _ hch | ends hch | resets _ _ _ hch | opens _ _ _ _ hch | agrees _ hch
  | builds _ _ _ _ _ hch | frames _ _ _ _ _ _ _ _ _ _ hch | writes _ _ _ hch
  | finishes _ _ _ _ _ hch | fails _ _ _ _ hch | leaves _ _ hch | serves _ hch
  | readerEnds _ hch =>
    have hfailures := congrArg Chart.failureCount hch
    exact absurd (hfailures.symm.trans hafter) hbefore

/-- In every run in which messages are made of decoded frames only, no aborted reader handles a
frame and the count of failures does not overflow: each step that takes `failure_count` back to
0 comes after at least three frames, since the last failure of any kind, that passed their check
and were decoded. -/
theorem reset_after_three_frames (C : Crates) (S : Codec) (build : Build) (b : DeviceBuilder)
    (h : Execution (tallied C S build b.device) (fun s e => Sound C S build b.device s.1 e)
      (b.run, 0) es (w, n))
    (hsound : Sound C S build b.device w e) (hnext : next C S build b.device w e = some w')
    (hbefore : w.shared.failureCount ≠ 0) (hafter : w'.shared.failureCount = 0) :
    3 ≤ sinceFailure C build b.device n w e := by
  obtain ⟨firstByte, stream, rfl, hreader, hthree⟩ :=
    reset_by_packet hsound hnext hbefore hafter
  have hserved : w.shared.successCount.toNat ≤ n := (run_told b h).served hreader
  rw [sinceFailure]
  omega

end Runs

section Sample

def reconnectSteps : List Event :=
  [.task .slept, .task .go, .task .go, .task .go, .task .go, .task .refused, .task .go, .task .go,
    .task .go, .task .go, .task .go, .task .go, .task .slept, .task .go, .task .dialed, .task .go,
    .task .go, .task .go, .task .go]

def heartbeatFrame : Bytes :=
  match packMessage KnownAnswers.crates .release KnownAnswers.sampleIv
    { TuyaMessage.default with seqno := 1, cmd := 9, msgPrefix := prefix55aa } none with
  | .ok frame => frame
  | .err _ | .panic => []

def corruptFrame : Bytes :=
  heartbeatFrame.take 16 ++ writeU32 (readU32 (heartbeatFrame.drop 16) + 1) ++
    heartbeatFrame.drop 20

def packetOf (frame : Bytes) : Event :=
  .reader (.packet (frame.headD 0) ⟨frame.tail, .silent⟩)

def sampleTallied : World × Nat → Event → Option (World × Nat) :=
  tallied KnownAnswers.crates (KnownAnswers.json []) .release (sampleBuilder .v33).device

def sampleSound (s : World × Nat) (e : Event) : Bool :=
  decide (Sound KnownAnswers.crates (KnownAnswers.json []) .release (sampleBuilder .v33).device
    s.1 e)

theorem heartbeats_reset_failures :
    ∃ s s', run (guarded sampleSound sampleTallied) ((sampleBuilder .v33).run, 0)
        (reconnectSteps ++ [packetOf heartbeatFrame, packetOf heartbeatFrame]) = some s ∧
      s.1.shared.failureCount = 1 ∧
      run (guarded sampleSound sampleTallied) s [packetOf heartbeatFrame] = some s' ∧
      s'.1.shared.failureCount = 0 ∧ 3 ≤ s'.2 := by
  obtain ⟨s, s', hrun, hbefore, hlast, hafter⟩ : ∃ s s',
      run (guarded sampleSound sampleTallied) ((sampleBuilder .v33).run, 0)
        (reconnectSteps ++ [packetOf heartbeatFrame, packetOf heartbeatFrame]) = some s ∧
      s.1.shared.failureCount = 1 ∧
      run (guarded sampleSound sampleTallied) s [packetOf heartbeatFrame] = some s' ∧
      s'.1.shared.failureCount = 0 := by
    apply runs_of_observed
    decide +kernel
  refine ⟨s, s', hrun, hbefore, hlast, hafter, ?_⟩
  have hallowed : ∀ s e, sampleSound s e = true → Sound KnownAnswers.crates (KnownAnswers.json [])
      .release (sampleBuilder .v33).device s.1 e := fun _ _ hsound => of_decide_eq_true hsound
  obtain ⟨⟩ | ⟨hsound, hstep, ⟨⟩⟩ := execution_of_guarded_run hallowed hlast
  obtain ⟨w', hnext, rfl⟩ := Option.map_eq_some_iff.mp hstep
  refine reset_after_three_frames KnownAnswers.crates (KnownAnswers.json []) .release
    (sampleBuilder .v33) (execution_of_guarded_run hallowed hrun) hsound hnext ?_ hafter
  rw [hbefore]
  decide

/-- After one failure, three frames that fail their check reset the count of failures, and not
one has been decoded. -/
theorem corrupt_frames_reset_failures :
    ∃ s s', run sampleTallied ((sampleBuilder .v33).run, 0)
        (reconnectSteps ++ [packetOf corruptFrame, packetOf corruptFrame]) = some s ∧
      (s.1.shared.failureCount, s.2) = (1, 0) ∧
      run sampleTallied s [packetOf corruptFrame] = some s' ∧
      (s'.1.shared.failureCount, s'.2) = (0, 0) := by
  apply runs_of_observed
  decide +kernel

end Sample

end FailureCounting
