import Rustuya.FrameAuthenticity
import Rustuya.ThreadPool

/-!
# Detection and explicit settings

The code that detects a device takes the lock of its state several times: it reads the
settings, computes, and writes what it has found. In between, the user can set the version,
the device type or the address. The version is tested and set under one lock, so that an
explicit version is safe. The device type is set without a second look at it.
-/
namespace DetectionRaces

open CheckedExecution StatefulExecution ByteCodec Error Crypto Message Protocol Json DeviceState
open StreamReader TransitionSystem ThreadPool DeviceDetection SettingsOwnership
open ConnectionTask (Discovery ipExplicit detectedVersion)

/-- Where the automatic code is between two of its lock sections: on the packet it decodes,
with the settings it has read, or on the address it resolves. -/
inductive Job where
  | unpack (packet : Bytes) (header : TuyaHeader)
  | unpackCipher (packet : Bytes) (header : TuyaHeader) (version : Version) (devType : DeviceType)
  | unpackSwitch (d : TuyaMessage)
  | decrypt (d : TuyaMessage)
  | decryptCipher (d : TuyaMessage) (version : Version) (originalDevType : DeviceType)
  | decryptSwitch (d : TuyaMessage) (payload : Bytes)
  | decoded (out : Result TuyaMessage)
  | resolve
  | discover (configAddr : String)
  | resolved (out : Result String)

inductive Input where
  | go
  | discovered (found : Option Discovery)

/-- The calls of the user, and every other lock section: those leave the settings as they
are. -/
inductive Outside where
  | setVersion (version : Version)
  | setDevType (devType : DeviceType)
  | setAddress (address : String)
  | elsewhere (s : State)

section Steps

variable (C : Crates) (build : Build) (device : Device)

def proceed {α : Type} (k : α → Job) : Result α → Job
  | .ok a => k a
  | .err e => .decoded (.err e)
  | .panic => .decoded .panic

/-- What a check does after its verdict; `switch` is the point before the device type is
set. -/
def conclude {α : Type} (k switch : α → Job) : Verdict α → Job
  | .accept a => k a
  | .adopt a => switch a
  | .reject e => .decoded (.err e)
  | .panic => .decoded .panic

def unpacked (d : TuyaMessage) : Job :=
  if d.payload.isEmpty then .decoded (.ok d) else .decrypt d

def decrypted (d : TuyaMessage) (payload : Bytes) : Job := .decoded (.ok { d with payload })

def withCipher (s : State) (k : TuyaCipher → Job) : State × Job :=
  let (cipher, s') := (getCipher device).run s
  (s', proceed k cipher)

def resolveAddress (s : State) : Job :=
  if ipExplicit s.configAddress && decide (s.version ≠ .auto) && !s.forceDiscovery then
    .resolved (.ok s.configAddress)
  else .discover s.configAddress

def discovered (s : State) (configAddr : String) : Option Discovery → State × Job
  | some result =>
    let targetIp := if ipExplicit configAddr then configAddr else result.ip
    ({ s with version := detectedVersion s.version result.version, realIp := targetIp,
              forceDiscovery := false }, .resolved (.ok targetIp))
  | none =>
    if ipExplicit configAddr then
      ({ s with realIp := configAddr, forceDiscovery := false }, .resolved (.ok configAddr))
    else (s, .resolved (.err .offline))

def advance (s : State) : Job → Input → Option (State × Job)
  | .unpack packet header, .go => some (s, .unpackCipher packet header s.version s.devType)
  | .unpackCipher packet header version devType, .go =>
    some (withCipher device s fun cipher =>
      conclude unpacked .unpackSwitch
        (unpackVerdict C build packet header version devType cipher))
  | .unpackSwitch d, .go => some ({ s with devType := .device22 }, unpacked d)
  | .decrypt d, .go => some (s, .decryptCipher d s.version s.devType)
  | .decryptCipher d version originalDevType, .go =>
    some (withCipher device s fun cipher =>
      conclude (decrypted d) (.decryptSwitch d)
        (decryptVerdict C d.payload version originalDevType cipher))
  | .decryptSwitch d payload, .go =>
    some ({ s with devType := .device22 }, decrypted d payload)
  | .resolve, .go => some (s, resolveAddress s)
  | .discover configAddr, .discovered found => some (discovered s configAddr found)
  | _, _ => none

def outside (s : State) : Outside → Option State
  | .setVersion version => some { s with version }
  | .setDevType devType => some { s with devType }
  | .setAddress address => some { s with configAddress := address, forceDiscovery := true }
  | .elsewhere s' => if settings s' = settings s then some s' else none

def Job.begins : Job → Bool
  | .unpack _ _ | .resolve => true
  | _ => false

def behaviour : Behaviour State Job Input Outside where
  step s job input := (advance C build device s job input).map fun (s', job') => (s', job', [])
  entry := Job.begins
  outside := outside

end Steps

section Safety

variable {C : Crates} {build : Build} {device : Device} {s : State} {job : Job} {input : Input}
  {after : State × Job}

theorem withCipher_settings (k : TuyaCipher → Job) :
    settings (withCipher device s k).1 = settings s := by
  rw [withCipher, run_getCipher]
  cases TuyaCipher.new (s.activeKey device) <;> rfl

/-- The code has seen a device type that is to be detected, and may still set it. -/
def Job.armed : Job → Bool
  | .unpackCipher _ _ _ devType | .decryptCipher _ _ devType => decide (devType = .auto)
  | .unpackSwitch _ | .decryptSwitch _ _ => true
  | _ => false

theorem unpacked_unarmed (d : TuyaMessage) : (unpacked d).armed = false := by
  unfold unpacked
  split <;> rfl

theorem withCipher_armed {α : Type} {k switch : α → Job} {verdict : TuyaCipher → Verdict α}
    (hk : ∀ a, (k a).armed = false)
    (harmed : (withCipher device s fun cipher => conclude k switch (verdict cipher)).2.armed
      = true) : ∃ cipher a, verdict cipher = .adopt a := by
  rw [withCipher] at harmed
  dsimp only at harmed
  cases hcipher : ((getCipher device).run s).1 with
  | err e =>
    rw [hcipher] at harmed
    cases harmed
  | panic =>
    rw [hcipher] at harmed
    cases harmed
  | ok cipher =>
    rw [hcipher, proceed] at harmed
    cases hverdict : verdict cipher with
    | adopt a => exact ⟨cipher, a, hverdict⟩
    | accept a =>
      rw [hverdict, conclude, hk] at harmed
      cases harmed
    | reject e =>
      rw [hverdict] at harmed
      cases harmed
    | panic =>
      rw [hverdict] at harmed
      cases harmed

inductive Effect (s : State) (job : Job) (s' : State) : Prop where
  | kept (h : settings s' = settings s)
  | version (version : Version) (hauto : s.version = .auto)
      (h : settings s' = { settings s with version })
  | devType (harmed : job.armed = true) (h : settings s' = { settings s with devType := .device22 })

theorem advance_effect (h : advance C build device s job input = some after) :
    Effect s job after.1 := by
  cases job <;> cases input <;> cases h
  case unpack.go => exact .kept rfl
  case unpackCipher.go => exact .kept (withCipher_settings _)
  case unpackSwitch.go => exact .devType rfl rfl
  case decrypt.go => exact .kept rfl
  case decryptCipher.go => exact .kept (withCipher_settings _)
  case decryptSwitch.go => exact .devType rfl rfl
  case resolve.go => exact .kept rfl
  case discover.discovered configAddr found =>
    cases found with
    | none =>
      refine .kept ?_
      rw [discovered]
      split <;> rfl
    | some result =>
      by_cases hauto : s.version = .auto
      · exact .version _ hauto rfl
      · refine .kept ?_
        have hversion : detectedVersion s.version result.version = s.version := if_neg hauto
        simp only [discovered, settings, hversion]

theorem advance_armed (h : advance C build device s job input = some after)
    (harmed : after.2.armed = true) :
    settings after.1 = settings s ∧ (job.armed = true ∨ s.devType = .auto) := by
  cases job <;> cases input <;> cases h
  case unpack.go => exact ⟨rfl, .inr (of_decide_eq_true harmed)⟩
  case unpackCipher.go packet header version devType =>
    obtain ⟨cipher, d, hadopt⟩ := withCipher_armed unpacked_unarmed harmed
    refine ⟨withCipher_settings _, .inl ?_⟩
    exact decide_eq_true (unpack_adopts hadopt).1
  case unpackSwitch.go d =>
    rw [unpacked_unarmed] at harmed
    cases harmed
  case decrypt.go => exact ⟨rfl, .inr (of_decide_eq_true harmed)⟩
  case decryptCipher.go d version devType =>
    obtain ⟨cipher, payload, hadopt⟩ := withCipher_armed (fun _ => rfl) harmed
    refine ⟨withCipher_settings _, .inl ?_⟩
    exact decide_eq_true (decrypt_adopts hadopt)
  case decryptSwitch.go => cases harmed
  case resolve.go =>
    unfold resolveAddress at harmed
    split at harmed <;> cases harmed
  case discover.discovered configAddr found =>
    unfold discovered at harmed
    split at harmed
    · cases harmed
    · split at harmed <;> cases harmed

end Safety

section Runs

variable {C : Crates} {build : Build} {device : Device} {s : State} {p q : Pool State Job}
  {e : Act Job Input Outside} {es : List (Act Job Input Outside)}

theorem step_advance {t : Job} {t' : Job} {a : Input} {s' : State} {new : List Job}
    (h : (behaviour C build device).step s t a = some (s', t', new)) :
    advance C build device s t a = some (s', t') ∧ new = [] := by
  obtain ⟨⟨u, job⟩, hadvance, heq⟩ := Option.map_eq_some_iff.mp h
  cases heq
  exact ⟨hadvance, rfl⟩

/-- The user does not choose the default type while the automatic code may still set it. -/
def Undisputed (p : Pool State Job) (e : Act Job Input Outside) : Prop :=
  e = .outside (.setDevType .default) → ∀ job ∈ p.threads, job.armed = false

def Safe (s : State) (job : Job) : Prop := job.armed = true → s.devType ≠ .default

theorem outside_safe {k : Outside} {s' : State} (h : outside s k = some s')
    (hk : k ≠ .setDevType .default) (hs : s.devType ≠ .default) : s'.devType ≠ .default := by
  cases k with
  | setVersion version =>
    cases h
    exact hs
  | setAddress address =>
    cases h
    exact hs
  | setDevType devType =>
    cases h
    intro hdefault
    exact hk (congrArg Outside.setDevType hdefault)
  | elsewhere t =>
    rw [outside] at h
    split at h
    next hsame =>
      cases h
      rw [show s'.devType = s.devType from congrArg Settings.devType hsame]
      exact hs
    · cases h

theorem step_safe (hallowed : Undisputed p e) (h : (behaviour C build device).next p e = some q)
    (hp : ∀ job ∈ p.threads, Safe p.shared job) : ∀ job ∈ q.threads, Safe q.shared job := by
  refine next_forall h ?_ ?_ ?_
  · intro job hjob harmed
    have hknown := hp job hjob harmed
    cases e with
    | advance i a =>
      obtain ⟨t, s', t', new, -, hstep, rfl⟩ := next_advance h
      cases advance_effect (step_advance hstep).1 with
      | kept hsame =>
        rw [show s'.devType = _ from congrArg Settings.devType hsame]
        exact hknown
      | version version hauto hsame =>
        rw [show s'.devType = _ from congrArg Settings.devType hsame]
        exact hknown
      | devType _ hset =>
        rw [show s'.devType = .device22 from congrArg Settings.devType hset]
        nofun
    | enter t =>
      obtain ⟨-, rfl⟩ := next_enter h
      exact hknown
    | outside k =>
      obtain ⟨s', hs', rfl⟩ := next_outside h
      refine outside_safe hs' ?_ hknown
      rintro rfl
      rw [hallowed rfl job hjob] at harmed
      cases harmed
  · intro i a t s' t' new he ht hstep
    obtain ⟨hadvance, rfl⟩ := step_advance hstep
    refine ⟨?_, List.forall_mem_nil _⟩
    intro harmed
    obtain ⟨hsame, hbefore⟩ := advance_armed hadvance harmed
    rw [show s'.devType = _ from congrArg Settings.devType hsame]
    rcases hbefore with hbefore | hauto
    · exact hp t (List.mem_of_getElem? ht) hbefore
    · rw [show (settings p.shared).devType = _ from hauto]
      nofun
  · intro t hbegins harmed
    cases t with
    | unpack packet header => cases harmed
    | resolve => cases harmed
    | _ => cases hbegins

/-- What the automatic code may do to the settings: fill in what is to be detected. -/
structure Respects (s s' : State) : Prop where
  version : s'.version ≠ s.version → s.version = .auto
  devType : s'.devType ≠ s.devType → s.devType = .auto ∧ s'.devType = .device22
  configAddress : s'.configAddress = s.configAddress

theorem respects_of_effect {s s' : State} {job : Job} (h : Effect s job s') (hsafe : Safe s job) :
    Respects s s' := by
  cases h with
  | kept hsame =>
    refine ⟨?_, ?_, congrArg Settings.configAddress hsame⟩
    · exact fun hne => absurd (congrArg Settings.version hsame) hne
    · exact fun hne => absurd (congrArg Settings.devType hsame) hne
  | version version hauto hsame =>
    refine ⟨fun _ => hauto, ?_, congrArg Settings.configAddress hsame⟩
    exact fun hne => absurd (congrArg Settings.devType hsame) hne
  | devType harmed hset =>
    have h22 : s'.devType = .device22 := congrArg Settings.devType hset
    refine ⟨?_, ?_, congrArg Settings.configAddress hset⟩
    · exact fun hne => absurd (congrArg Settings.version hset) hne
    · intro hne
      refine ⟨?_, h22⟩
      cases hdev : s.devType with
      | auto => rfl
      | default => exact absurd hdev (hsafe harmed)
      | device22 => exact absurd (h22.trans hdev.symm) hne

/-- In every run in which the user does not choose the default type between a check's reading
and setting of the type, the automatic code only fills in what is to be detected. -/
theorem detection_respects_settings (C : Crates) (build : Build) (device : Device) (s : State)
    (hrun : Execution (behaviour C build device).next Undisputed ⟨s, []⟩ es p) {i : Nat}
    {a : Input} (hstep : (behaviour C build device).next p (.advance i a) = some q) :
    Respects p.shared q.shared := by
  have hsafe : ∀ job ∈ p.threads, Safe p.shared job :=
    hrun.invariant (P := fun p => ∀ job ∈ p.threads, Safe p.shared job)
      (fun _ _ _ hallowed h => step_safe hallowed h) (List.forall_mem_nil _)
  obtain ⟨job, s', job', new, hjob, hadvance, rfl⟩ := next_advance hstep
  exact respects_of_effect (advance_effect (step_advance hadvance).1)
    (hsafe job (List.mem_of_getElem? hjob))

end Runs

section Uninterrupted

variable (C : Crates) (build : Build) (device : Device)

abbrev Alone : State × Job → List Input → State × Job → Prop :=
  Execution (behaviour C build device).alone fun _ _ => True

variable {C build device} in
theorem alone_advance {s : State} {job : Job} {a : Input} {after last : State × Job}
    {as : List Input}
    (h : advance C build device s job a = some after) (hrest : Alone C build device after as last) :
    Alone C build device (s, job) (a :: as) last := by
  refine .cons trivial ?_ hrest
  simp only [Behaviour.alone, behaviour, h, Option.map_some]

variable (s : State)

theorem check_alone {α : Type} (job : Job) {k switch : α → Job}
    {verdict : TuyaCipher → Verdict α}
    (hcheck : advance C build device s job .go
      = some (withCipher device s fun cipher => conclude k switch (verdict cipher)))
    (hswitch : ∀ t a, advance C build device t (switch a) .go
      = some ({ t with devType := .device22 }, k a)) :
    ∃ as, Alone C build device (s, job) as
      ((checked device s verdict).2, proceed k (checked device s verdict).1) := by
  rw [withCipher, run_getCipher] at hcheck
  rw [checked]
  cases hcipher : TuyaCipher.new (s.activeKey device) with
  | err e =>
    rw [hcipher] at hcheck
    exact ⟨_, alone_advance hcheck (.nil _)⟩
  | panic =>
    rw [hcipher] at hcheck
    exact ⟨_, alone_advance hcheck (.nil _)⟩
  | ok cipher =>
    rw [hcipher] at hcheck
    dsimp only [proceed] at hcheck
    dsimp only
    cases hverdict : verdict cipher with
    | adopt a =>
      rw [hverdict] at hcheck
      exact ⟨_, alone_advance hcheck (alone_advance (hswitch _ a) (.nil _))⟩
    | _ =>
      rw [hverdict] at hcheck
      exact ⟨_, alone_advance hcheck (.nil _)⟩

theorem unpack_alone (packet : Bytes) (header : TuyaHeader) :
    ∃ as, Alone C build device (s, .unpack packet header) as
      (((unpackAndCheckDev22 C build device packet header).run s).2,
        proceed unpacked ((unpackAndCheckDev22 C build device packet header).run s).1) := by
  rw [run_unpackVerdict]
  obtain ⟨as, hcheck⟩ := check_alone C build device s
    (.unpackCipher packet header s.version s.devType) rfl fun _ _ => rfl
  exact ⟨.go :: as, alone_advance rfl hcheck⟩

theorem decrypt_alone (d : TuyaMessage) :
    ∃ as, Alone C build device (s, .decrypt d) as
      (((decryptAndCleanPayload C device d.payload).run s).2,
        proceed (decrypted d) ((decryptAndCleanPayload C device d.payload).run s).1) := by
  rw [run_decryptVerdict]
  obtain ⟨as, hcheck⟩ := check_alone C build device s
    (.decryptCipher d s.version s.devType) rfl fun _ _ => rfl
  exact ⟨.go :: as, alone_advance rfl hcheck⟩

theorem decode_alone (packet : Bytes) (header : TuyaHeader) :
    ∃ as, Alone C build device (s, .unpack packet header) as
      (((decodePacket C build device packet header).run s).2,
        .decoded ((decodePacket C build device packet header).run s).1) := by
  obtain ⟨as, hunpack⟩ := unpack_alone C build device s packet header
  rcases hrun : (unpackAndCheckDev22 C build device packet header).run s with ⟨out, t⟩
  rw [hrun] at hunpack
  unfold decodePacket
  cases out with
  | err e =>
    rw [Program.run_bind_err hrun]
    exact ⟨as, hunpack⟩
  | panic =>
    rw [Program.run_bind_panic hrun]
    exact ⟨as, hunpack⟩
  | ok d =>
    rw [Program.run_bind_ok hrun]
    dsimp only [proceed, unpacked] at hunpack
    split at hunpack
    next hempty =>
      rw [if_pos hempty]
      exact ⟨as, hunpack⟩
    next hfull =>
      rw [if_neg hfull]
      obtain ⟨bs, hdecrypt⟩ := decrypt_alone C build device t d
      refine ⟨as ++ bs, hunpack.append ?_⟩
      rcases hclean : (decryptAndCleanPayload C device d.payload).run t with ⟨out, u⟩
      rw [hclean] at hdecrypt
      cases out with
      | ok payload =>
        rw [Program.run_bind_ok hclean]
        exact hdecrypt
      | err e =>
        rw [Program.run_bind_err hclean]
        exact hdecrypt
      | panic =>
        rw [Program.run_bind_panic hclean]
        exact hdecrypt

end Uninterrupted

section Refinement

open ConnectionTask (World Event UserEvent next)
open TaskBranches (setting)

variable {C : Crates} {S : Codec} {build : Build} {device : Device} {w w' : World} {e : Event}

variable (C build device) in
/-- The sections can lead from one state to another, whatever else is going on. -/
def Interleaves (s s' : State) : Prop :=
  ∀ jobs, ∃ acts jobs', Execution (behaviour C build device).next (fun _ _ => True) ⟨s, jobs⟩ acts
    ⟨s', jobs'⟩

theorem Interleaves.trans {s t u : State} (h : Interleaves C build device s t)
    (k : Interleaves C build device t u) : Interleaves C build device s u := by
  intro jobs
  obtain ⟨acts, jobs', hst⟩ := h jobs
  obtain ⟨acts', jobs'', htu⟩ := k jobs'
  exact ⟨acts ++ acts', jobs'', hst.append htu⟩

theorem interleaves_outside {s s' : State} {k : Outside} (h : outside s k = some s') :
    Interleaves C build device s s' :=
  fun jobs => ⟨[.outside k], jobs,
    .cons trivial (outside_next (B := behaviour C build device) (p := ⟨s, jobs⟩) h) (.nil _)⟩

theorem interleaves_elsewhere {s s' : State} (h : settings s' = settings s) :
    Interleaves C build device s s' :=
  interleaves_outside (k := .elsewhere s') (if_pos h)

theorem interleaves_job {s : State} {job : Job} {as : List Input} {last : State × Job}
    (hbegins : job.begins = true) (h : Alone C build device (s, job) as last) :
    Interleaves C build device s last.1 := by
  intro jobs
  have hwithin := execution_of_alone (jobs ++ [job]) jobs.length h (by simp)
  exact ⟨_, _, .cons trivial (enter_next (B := behaviour C build device) (p := ⟨s, jobs⟩) hbegins)
    hwithin⟩

variable (C build device) in
theorem interleaves_detected {s : State} (hauto : s.version = .auto) (version : Version) :
    ∃ t, settings t = { settings s with version } ∧ Interleaves C build device s t := by
  have hresolve : advance C build device s .resolve .go = some (s, .discover s.configAddress) := by
    simp [advance, resolveAddress, hauto]
  refine ⟨(discovered s s.configAddress (some ⟨"", some version⟩)).1, ?_, ?_⟩
  · simp [discovered, settings, detectedVersion, hauto]
  · have hdiscover : Alone C build device (s, .discover s.configAddress)
        [.discovered (some ⟨"", some version⟩)] _ := alone_advance rfl (.nil _)
    exact interleaves_job rfl (alone_advance hresolve hdiscover)

theorem interleaves_reading (s : State) (firstByte : UInt8) (stream : Stream) :
    Interleaves C build device s (afterReading C S build device s firstByte stream) := by
  rcases FrameAuthenticity.readAndParse_cases C S build device firstByte s stream with
    ⟨-, hsame, -⟩ | ⟨packet, header, -, -, hdecoded⟩
  · refine interleaves_elsewhere ?_
    rw [afterReading, hsame]
  · rw [afterReading, hdecoded]
    obtain ⟨as, halone⟩ := decode_alone C build device s packet header
    exact interleaves_job rfl halone

theorem interleaves_user {u : UserEvent} {f : State → State} (hf : setting u = some f)
    (s : State) : Interleaves C build device s (f s) := by
  cases u with
  | setDevType devType =>
    cases hf
    exact interleaves_outside (k := .setDevType devType) rfl
  | setVersion version =>
    cases hf
    exact interleaves_outside (k := .setVersion version) rfl
  | setAddress address =>
    cases hf
    exact interleaves_outside (k := .setAddress address) rfl
  | setPersist persist =>
    cases hf
    exact interleaves_elsewhere rfl
  | _ => cases hf

theorem next_interleaves (h : next C S build device w e = some w') :
    Interleaves C build device w.shared w'.shared := by
  cases next_change h with
  | kept hsame => exact interleaves_elsewhere hsame
  | detected version hauto hsame =>
    obtain ⟨t, ht, hdetect⟩ := interleaves_detected C build device hauto version
    exact hdetect.trans (interleaves_elsewhere (hsame.trans ht.symm))
  | read firstByte stream _ hsame =>
    exact (interleaves_reading w.shared firstByte stream).trans (interleaves_elsewhere hsame)
  | user u f he hf hsame =>
    rw [hsame]
    exact interleaves_user hf w.shared

theorem run_interleaves {allowed : World → Event → Prop} {es : List Event}
    (h : Execution (next C S build device) allowed w es w') :
    Interleaves C build device w.shared w'.shared := by
  induction h with
  | nil w => exact interleaves_elsewhere rfl
  | cons _ hnext _ ih => exact (next_interleaves hnext).trans ih

end Refinement

section Sample

open FrameAuthenticity (autoBuilder forgedFrame)

def forgedHeader : TuyaHeader := ⟨prefix55aa, 0, 8, 27, 43⟩

def autoBehaviour : Behaviour State Job Input Outside :=
  behaviour KnownAnswers.crates .release autoBuilder.device

def checkSteps : List (Act Job Input Outside) :=
  [.enter (.unpack forgedFrame forgedHeader), .advance 0 .go, .advance 0 .go]

def settledBefore : Act Job Input Outside → Bool
  | .outside (.setDevType _) => false
  | _ => true

theorem undisturbed_check_detects :
    ∃ p q, run (guarded (fun _ e => settledBefore e) autoBehaviour.next) ⟨autoBuilder.state, []⟩
        checkSteps = some p ∧
      autoBehaviour.next p (.advance 0 .go) = some q ∧ q.shared.devType = .device22 ∧
      Respects p.shared q.shared := by
  obtain ⟨p, hrun, hobserved⟩ : ∃ p, run (guarded (fun _ e => settledBefore e) autoBehaviour.next)
        ⟨autoBuilder.state, []⟩ checkSteps = some p ∧
      (autoBehaviour.next p (.advance 0 .go)).map (fun q => q.shared.devType) = some .device22 :=
    Option.map_eq_some_iff.mp (by decide +kernel)
  obtain ⟨q, hstep, hdev⟩ := Option.map_eq_some_iff.mp hobserved
  refine ⟨p, q, hrun, hstep, hdev, ?_⟩
  refine detection_respects_settings KnownAnswers.crates .release autoBuilder.device
    autoBuilder.state (execution_of_guarded_run ?_ hrun) hstep
  intro p e hkeeps he
  rw [he] at hkeeps
  cases hkeeps

/-- The user chooses the default type between the two sections, and the check overrides it. -/
theorem chosen_type_overridden :
    ∃ p q, run autoBehaviour.next ⟨autoBuilder.state, []⟩
        (checkSteps ++ [.outside (.setDevType .default)]) = some p ∧
      p.shared.devType = .default ∧
      autoBehaviour.next p (.advance 0 .go) = some q ∧ q.shared.devType = .device22 := by
  obtain ⟨p, hrun, hobserved⟩ : ∃ p, run autoBehaviour.next ⟨autoBuilder.state, []⟩
        (checkSteps ++ [.outside (.setDevType .default)]) = some p ∧
      (p.shared.devType, (autoBehaviour.next p (.advance 0 .go)).map fun q => q.shared.devType)
        = (.default, some .device22) :=
    Option.map_eq_some_iff.mp (by decide +kernel)
  obtain ⟨q, hstep, hdev⟩ := Option.map_eq_some_iff.mp (congrArg Prod.snd hobserved)
  exact ⟨p, q, hrun, congrArg Prod.fst hobserved, hstep, hdev⟩

end Sample

end DetectionRaces
