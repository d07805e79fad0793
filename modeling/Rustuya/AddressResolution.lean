import Rustuya.TaskBranches
import Rustuya.WireIntegrity

/-!
# The address that was resolved

The task reads the configured address, may wait for a discovery, and then records the address
that it connects to. The user may set another address in the meantime. The task then records
an address that nobody asked for any more, and no longer looks for the one that was set.
-/
namespace AddressResolution

open CheckedExecution StatefulExecution ByteCodec Error Crypto Message Protocol Json
open SessionKey DeviceState StreamReader ConnectionTask TransitionSystem
open TaskBranches (Branch SendFailure Call taskNext_branch userNext_call)

structure Place where
  configAddress : String
  realIp : String
  forceDiscovery : Bool
  deriving DecidableEq

def place (s : State) : Place := ⟨s.configAddress, s.realIp, s.forceDiscovery⟩

def address (s : State) : String := if s.realIp = "" then s.configAddress else s.realIp

/-- The address a run of `resolve_address` has read and waits with. -/
def discovering : Pc → Option String
  | .connecting _ (.discover configAddr) => some configAddr
  | _ => none

def resolving : Pc → Bool
  | .connecting _ .resolve | .connecting _ (.discover _) => true
  | _ => false

def dialing : Pc → Option String
  | .connecting _ (.dial addr) => some addr
  | _ => none

def returned (w w' : World) : Option String := if resolving w.pc then dialing w'.pc else none

section Updates

theorem returned_of_not_dialing {w w' : World} (h : dialing w'.pc = none) :
    returned w w' = none := by
  rw [returned, h, ite_self]

theorem returned_of_same_pc {w w' : World} (h : w'.pc = w.pc) : returned w w' = none := by
  rw [returned, h]
  cases w.pc with
  | connecting a hs => cases hs <;> rfl
  | _ => rfl

theorem place_of_untouched {s t : State} (h : untouched s = untouched t) : place s = place t := by
  have hplace : place (untouched s) = place (untouched t) := by rw [h]
  exact hplace

end Updates

section Task

variable {C : Crates} {S : Codec} {build : Build} {device : Device} {w w' : World} {e : TaskEvent}
  {a : Attempt}

/-- What a step can do to the address of a device: nothing, a call of `set_address`, a retry
that asks for a discovery, or one of the two sections of `resolve_address`. -/
inductive Move (w : World) (e : Event) (w' : World) : Prop where
  | quiet (hplace : place w'.shared = place w.shared)
      (hpc : discovering w'.pc = none ∨ w'.pc = w.pc) (hreturned : returned w w' = none)
  | set (address : String) (he : e = .user (.setAddress address))
      (hplace : place w'.shared = ⟨address, w.shared.realIp, true⟩) (hpc : w'.pc = w.pc)
  | retry (forced : Bool)
      (hplace : place w'.shared = { place w.shared with
        forceDiscovery := w.shared.forceDiscovery || forced })
      (hpc : discovering w'.pc = none) (hreturned : returned w w' = none)
  | resolve (a : Attempt) (hpc : w.pc = .connecting a .resolve) (h : w' = resolveAddress w a)
  | discover (a : Attempt) (configAddr : String) (found : Option Discovery)
      (hpc : w.pc = .connecting a (.discover configAddr)) (he : e = .task (.discovered found))
      (h : discover w a configAddr (.discovered found) = some w')

theorem Move.still {e : Event} (hplace : AddressResolution.place w'.shared = place w.shared)
    (hpc : w'.pc = w.pc) : Move w e w' := .quiet hplace (.inr hpc) (returned_of_same_pc hpc)

theorem Move.goes {e : Event} (hplace : AddressResolution.place w'.shared = place w.shared)
    (hdiscovering : discovering w'.pc = none) (hdialing : dialing w'.pc = none) : Move w e w' :=
  .quiet hplace (.inl hdiscovering) (returned_of_not_dialing hdialing)

theorem place_cached (s : State) (cipher : Result TuyaCipher) :
    place (s.cached cipher) = place s := by
  cases cipher <;> rfl

theorem taskNext_move (h : taskNext C S build device w e = some w') : Move w (.task e) w' := by
  have hplace : ∀ {firstByte stream out} {r : Reader},
      (readAndParseFromStream C S build device firstByte).run ⟨w.shared, stream, []⟩ = (out, r) →
      place r.device = place w.shared := by
    intro firstByte stream out r hread
    have hkeeps : untouched _ = untouched w.shared :=
      readAndParseFromStream_keeps C S build device firstByte ⟨w.shared, stream, []⟩
    rw [hread] at hkeeps
    exact place_of_untouched hkeeps
  cases taskNext_branch h
  case addressKnown a hpc _ _ _ | addressUnknown a hpc _ =>
    rw [taskNext, hpc] at h
    exact .resolve a hpc (Option.some.inj h).symm
  case discovers a addr result hpc =>
    rw [taskNext, hpc] at h
    exact .discover a addr _ hpc rfl h
  case undiscovered a addr hpc _ | notFound a addr hpc _ =>
    rw [taskNext, hpc] at h
    exact .discover a addr _ hpc rfl h
  case retryScheduled err _ _ =>
    exact .retry (rediscovers w.shared err) rfl rfl (returned_of_not_dialing rfl)
  case responds hread _ _ => exact .goes (hplace hread) rfl rfl
  case responseRefused | responseCrashes => exact .goes (hplace rfl) rfl rfl
  case packCrashes => exact .goes (place_cached _ _) rfl rfl
  case negotiationUnsent hfail | heartbeatUnsent hfail =>
    exact .goes (hfail.keeps (f := place) place_cached) rfl rfl
  case requestUnsent initial _ _ hfail =>
    have hkept := hfail.keeps (f := place) place_cached
    cases initial <;> exact .goes hkept rfl rfl
  case requestDone initial _ _ _ _ _ | lags initial _ _ _ _ _ _ | replies initial _ _ _ _ _ _ _
  | replyTimesOut initial _ _ => cases initial <;> exact .goes rfl rfl rfl
  case disconnectSilent err _ _ | disconnectTold err _ _ => cases err <;> exact .goes rfl rfl rfl
  case backoffRejects | writes | passes | serveConnectNow => exact .still rfl rfl
  all_goals exact .goes rfl rfl rfl

end Task

section System

variable {C : Crates} {S : Codec} {build : Build} {device : Device} {w w' : World} {e : Event}

theorem readerNext_move {r : ReaderEvent} (h : readerNext C S build device w r = some w') :
    Move w (.reader r) w' := by
  cases readerNext_inv h with
  | packet firstByte stream reader readerError =>
    have hkeeps := processSocketData_keeps C S build device firstByte ⟨w.shared, stream, []⟩
    exact .still (place_of_untouched hkeeps) rfl
  | late firstByte stream =>
    have hkeeps := processSocketData_keeps C S build device firstByte ⟨w.shared, stream, []⟩
    exact .still (place_of_untouched hkeeps) rfl
  | ended ending readerError => exact .still rfl rfl
  | cancelled hcancelled => exact .still rfl rfl
  | gone => exact .still rfl rfl

theorem userNext_move {u : UserEvent} (h : userNext w u = some w') : Move w (.user u) w' := by
  cases userNext_call h with
  | sets _ f hf =>
    cases u with
    | setAddress address =>
      cases hf
      exact .set address rfl rfl rfl
    | setPersist | setDevType | setVersion =>
      cases hf
      exact .still rfl rfl
    | _ => cases hf
  | _ => exact .still rfl rfl

theorem next_move (h : next C S build device w e = some w') : Move w e w' := by
  cases e with
  | task e => exact taskNext_move h
  | drop =>
    obtain ⟨-, -, rfl⟩ := dropTask_eq_some h
    exact .quiet rfl (.inl rfl) (returned_of_not_dialing rfl)
  | reader r => exact readerNext_move h
  | user u => exact userNext_move h

end System

section Runs

variable (C : Crates) (S : Codec) (build : Build) (device : Device)

/-- The system with the calls of `set_address` and the runs of `resolve_address` in view:
whether the task has read the address since it was last set, and the address that was
returned last by a run that began since then. -/
structure Resolution where
  world : World
  current : Bool
  latest : Option String

def Resolution.start (b : DeviceBuilder) : Resolution := ⟨b.run, false, none⟩

def reads (w : World) : Event → Bool
  | .task _ =>
    match w.pc with
    | .connecting _ .resolve => true
    | _ => false
  | _ => false

def Resolution.advance (x : Resolution) (w : World) : Event → Resolution
  | .user (.setAddress _) => ⟨w, false, none⟩
  | e =>
    let current := x.current || reads x.world e
    ⟨w, current, if current then (returned x.world w).or x.latest else x.latest⟩

def resolutionNext (x : Resolution) (e : Event) : Option Resolution :=
  (next C S build device x.world e).map fun w => x.advance w e

/-- No `set_address` falls between the reading of the address and the end of the discovery
that the task then waits for. -/
def Uninterrupted (x : Resolution) (e : Event) : Prop :=
  ∀ a configAddr found, x.world.pc = .connecting a (.discover configAddr) →
    e = .task (.discovered found) → x.current = true

structure Recorded (x : Resolution) : Prop where
  latest : ∀ ip, x.latest = some ip → (place x.world.shared).realIp = ip
  explicit : (place x.world.shared).forceDiscovery = false →
    ipExplicit (place x.world.shared).configAddress = true →
    (place x.world.shared).realIp = (place x.world.shared).configAddress
  reading : ∀ configAddr, x.current = true → discovering x.world.pc = some configAddr →
    configAddr = (place x.world.shared).configAddress

variable {C S build device}

theorem start_recorded (b : DeviceBuilder) : Recorded (.start b) := by
  constructor
  · intro ip h
    cases h
  · intro _ hexplicit
    have hname : b.state.configAddress = if decide (b.address = "" ∨ b.address = addrAuto) then
        addrAuto else b.address := rfl
    change ipExplicit b.state.configAddress = true at hexplicit
    by_cases hauto : b.address = "" ∨ b.address = addrAuto
    · rw [hname, if_pos (decide_eq_true hauto)] at hexplicit
      cases hexplicit
    · change (if decide (b.address = "" ∨ b.address = addrAuto) then "" else b.address)
        = b.state.configAddress
      rw [hname, if_neg (by simpa using hauto), if_neg (by simpa using hauto)]
  · intro configAddr h
    cases h

theorem advance_latest {x : Resolution} {w : World} {e : Event} {ip : String}
    (h : (x.advance w e).latest = some ip) :
    returned x.world w = some ip ∨ x.latest = some ip := by
  unfold Resolution.advance at h
  split at h
  · cases h
  · dsimp only at h
    split at h
    · exact (Option.or_eq_some_iff.mp h).imp id And.right
    · exact .inr h

theorem latest_of_not_returned {x : Resolution} {w : World} {e : Event} {ip : String}
    (h : (x.advance w e).latest = some ip) (hreturned : returned x.world w = none) :
    x.latest = some ip := by
  rcases advance_latest h with hnow | hbefore
  · rw [hreturned] at hnow
    cases hnow
  · exact hbefore

theorem advance_current {x : Resolution} {w : World} {e : Event}
    (h : (x.advance w e).current = true) : x.current = true ∨ reads x.world e = true := by
  unfold Resolution.advance at h
  split at h
  · cases h
  · exact Bool.or_eq_true _ _ ▸ h

theorem advance_world (x : Resolution) (w : World) (e : Event) : (x.advance w e).world = w := by
  unfold Resolution.advance
  split <;> rfl

theorem discovering_of_reads {w : World} {e : Event} (h : reads w e = true) :
    discovering w.pc = none := by
  unfold reads at h
  split at h
  · split at h
    next hpc => rw [hpc]; rfl
    · cases h
  · cases h

theorem quiet_recorded {x : Resolution} {w : World} {e : Event}
    (hplace : place w.shared = place x.world.shared)
    (hpc : discovering w.pc = none ∨ w.pc = x.world.pc) (hreturned : returned x.world w = none)
    (hx : Recorded x) : Recorded (x.advance w e) := by
  constructor
  · intro ip hlatest
    rw [advance_world, hplace]
    exact hx.latest ip (latest_of_not_returned hlatest hreturned)
  · rw [advance_world, hplace]
    exact hx.explicit
  · intro configAddr hcurrent hdiscovering
    rw [advance_world] at hdiscovering
    rw [advance_world, hplace]
    rcases hpc with hnone | hsame
    · rw [hnone] at hdiscovering
      cases hdiscovering
    · rw [hsame] at hdiscovering
      rcases advance_current hcurrent with hold | hreads
      · exact hx.reading configAddr hold hdiscovering
      · rw [discovering_of_reads hreads] at hdiscovering
        cases hdiscovering

theorem set_recorded {x : Resolution} {w : World} {address : String}
    (hforce : (place w.shared).forceDiscovery = true) :
    Recorded (x.advance w (.user (.setAddress address))) := by
  constructor
  · intro ip hlatest
    cases hlatest
  · intro hunforced
    have hforced : (place w.shared).forceDiscovery = false := hunforced
    rw [hforce] at hforced
    cases hforced
  · intro configAddr hcurrent
    cases hcurrent

theorem retry_recorded {x : Resolution} {w : World} {e : Event} {forced : Bool}
    (hplace : place w.shared = { place x.world.shared with
      forceDiscovery := x.world.shared.forceDiscovery || forced })
    (hpc : discovering w.pc = none) (hreturned : returned x.world w = none)
    (hx : Recorded x) : Recorded (x.advance w e) := by
  constructor
  · intro ip hlatest
    rw [advance_world, hplace]
    exact hx.latest ip (latest_of_not_returned hlatest hreturned)
  · rw [advance_world, hplace]
    intro hunforced
    exact hx.explicit (Bool.or_eq_false_iff.mp hunforced).1
  · intro configAddr _ hdiscovering
    rw [advance_world, hpc] at hdiscovering
    cases hdiscovering

theorem resolve_recorded {x : Resolution} {a : Attempt} {e : Event}
    (hpc : x.world.pc = .connecting a .resolve) (hx : Recorded x) :
    Recorded (x.advance (resolveAddress x.world a) e) := by
  unfold resolveAddress
  dsimp only
  split
  next hshortcut =>
    simp only [Bool.and_eq_true, Bool.not_eq_true'] at hshortcut
    have hplace := hx.explicit hshortcut.2 hshortcut.1.1
    constructor
    · intro ip hlatest
      rw [advance_world]
      rcases advance_latest hlatest with hnow | hbefore
      · rw [returned, hpc] at hnow
        cases hnow
        exact hplace
      · exact hx.latest ip hbefore
    · rw [advance_world]
      exact hx.explicit
    · intro configAddr _ hdiscovering
      rw [advance_world] at hdiscovering
      cases hdiscovering
  next =>
    constructor
    · intro ip hlatest
      rw [advance_world]
      exact hx.latest ip (latest_of_not_returned hlatest (returned_of_not_dialing rfl))
    · rw [advance_world]
      exact hx.explicit
    · intro configAddr _ hdiscovering
      rw [advance_world] at hdiscovering
      cases hdiscovering
      rw [advance_world]
      rfl

theorem found_recorded {x : Resolution} {w : World} {a : Attempt} {configAddr ip : String}
    {found : Option Discovery} (hpc : x.world.pc = .connecting a (.discover configAddr))
    (hcurrent : x.current = true) (hdial : w.pc = .connecting a (.dial ip))
    (hplace : place w.shared = ⟨x.world.shared.configAddress, ip, false⟩)
    (hexplicit : ipExplicit configAddr = true → ip = configAddr) (hx : Recorded x) :
    Recorded (x.advance w (.task (.discovered found))) := by
  have hread : configAddr = x.world.shared.configAddress :=
    hx.reading configAddr hcurrent (by rw [hpc]; rfl)
  have hreturned : returned x.world w = some ip := by
    rw [returned, hpc, hdial]
    rfl
  have hadvance : x.advance w (.task (.discovered found)) = ⟨w, true, some ip⟩ := by
    simp only [Resolution.advance, hcurrent, Bool.true_or, hreturned, Option.some_or, if_true]
  rw [hadvance]
  constructor
  · intro ip' hlatest
    cases hlatest
    exact congrArg Place.realIp hplace
  · dsimp only
    rw [hplace, ← hread]
    exact fun _ => hexplicit
  · intro configAddr' _ hdiscovering
    dsimp only at hdiscovering
    rw [hdial] at hdiscovering
    cases hdiscovering

theorem discover_recorded {x : Resolution} {w : World} {a : Attempt} {configAddr : String}
    {found : Option Discovery} (hpc : x.world.pc = .connecting a (.discover configAddr))
    (hcurrent : x.current = true)
    (h : discover x.world a configAddr (.discovered found) = some w) (hx : Recorded x) :
    Recorded (x.advance w (.task (.discovered found))) := by
  cases found with
  | some result =>
    cases h
    exact found_recorded hpc hcurrent rfl rfl (fun hexplicit => if_pos hexplicit) hx
  | none =>
    dsimp only [discover] at h
    split at h <;> cases h
    · exact found_recorded hpc hcurrent rfl rfl (fun _ => rfl) hx
    · exact quiet_recorded rfl (.inl rfl) (returned_of_not_dialing rfl) hx

theorem step_recorded {x x' : Resolution} {e : Event} (hallowed : Uninterrupted x e)
    (h : resolutionNext C S build device x e = some x') (hx : Recorded x) : Recorded x' := by
  obtain ⟨w, hnext, rfl⟩ := Option.map_eq_some_iff.mp h
  cases next_move hnext with
  | quiet hplace hpc hreturned => exact quiet_recorded hplace hpc hreturned hx
  | set address he hplace hpc =>
    subst he
    exact set_recorded (congrArg Place.forceDiscovery hplace)
  | retry forced hplace hpc hreturned => exact retry_recorded hplace hpc hreturned hx
  | resolve a hpc hresolve =>
    subst hresolve
    exact resolve_recorded hpc hx
  | discover a configAddr found hpc he hdiscover =>
    subst he
    exact discover_recorded hpc (hallowed a configAddr found hpc rfl) hdiscover hx

variable (C S build)

/-- In every run in which no `set_address` interrupts a discovery, the address that was
resolved last since the address was set is the one on record, and `address` reports it. -/
theorem resolved_address_recorded (b : DeviceBuilder) {x : Resolution} {es : List Event}
    (h : Execution (resolutionNext C S build b.device) Uninterrupted (.start b) es x)
    {ip : String} (hlatest : x.latest = some ip) :
    x.world.shared.realIp = ip ∧ (ip ≠ "" → address x.world.shared = ip) := by
  have hrecorded : Recorded x :=
    h.invariant (fun _ _ _ ha hstep => step_recorded ha hstep) (start_recorded b)
  have hreal : x.world.shared.realIp = ip := hrecorded.latest ip hlatest
  refine ⟨hreal, fun hne => ?_⟩
  rw [address, hreal, if_neg hne]

end Runs

section Sample

def sampleResolution : Resolution → Event → Option Resolution :=
  resolutionNext KnownAnswers.crates (KnownAnswers.json []) .release (sampleBuilder .v33).device

def searchSteps : List Event :=
  [.user (.setAddress "10.0.0.1"), .task .slept, .task .go, .task .go, .task .go, .task .go]

def uninterrupted (x : Resolution) (e : Event) : Bool :=
  match x.world.pc, e with
  | .connecting _ (.discover _), .task (.discovered _) => x.current
  | _, _ => true

theorem uninterrupted_sound {x : Resolution} {e : Event} (h : uninterrupted x e = true) :
    Uninterrupted x e := by
  intro a configAddr found hpc he
  unfold uninterrupted at h
  rw [hpc, he] at h
  exact h

theorem set_address_resolved :
    ∃ x, run (guarded uninterrupted sampleResolution) (.start (sampleBuilder .v33))
        (searchSteps ++ [.task (.discovered none)]) = some x ∧
      x.latest = some "10.0.0.1" ∧ x.world.shared.realIp = "10.0.0.1" ∧
      address x.world.shared = "10.0.0.1" := by
  obtain ⟨x, hrun, hlatest⟩ : ∃ x,
      run (guarded uninterrupted sampleResolution) (.start (sampleBuilder .v33))
        (searchSteps ++ [.task (.discovered none)]) = some x ∧
      x.latest = some "10.0.0.1" := Option.map_eq_some_iff.mp (by decide +kernel)
  obtain ⟨hreal, haddress⟩ := resolved_address_recorded KnownAnswers.crates (KnownAnswers.json [])
    .release (sampleBuilder .v33) (execution_of_guarded_run (fun _ _ => uninterrupted_sound) hrun)
    hlatest
  exact ⟨x, hrun, hlatest, hreal, haddress (by decide)⟩

/-- A second address is set while the task looks for the device. The first one is recorded
all the same, and no discovery is asked for any more. The connection fails, and the next
attempt connects to the second address with the first one still on record. -/
theorem stale_address_recorded :
    ∃ x, run sampleResolution (.start (sampleBuilder .v33))
        (searchSteps ++ [.user (.setAddress "10.0.0.2"), .task (.discovered none),
          .task .refused] ++ List.replicate 6 (.task .go) ++
          [.task .slept, .task .go, .task .dialed, .task .go, .task .go]) = some x ∧
      x.latest = some "10.0.0.2" ∧ x.world.shared.state = .connected ∧
      x.world.shared.realIp = "10.0.0.1" ∧ address x.world.shared = "10.0.0.1" := by
  obtain ⟨x, hrun, hobserved⟩ : ∃ x, run sampleResolution (.start (sampleBuilder .v33))
        (searchSteps ++ [.user (.setAddress "10.0.0.2"), .task (.discovered none),
          .task .refused] ++ List.replicate 6 (.task .go) ++
          [.task .slept, .task .go, .task .dialed, .task .go, .task .go]) = some x ∧
      (x.latest, x.world.shared.state, x.world.shared.realIp, address x.world.shared)
        = (some "10.0.0.2", .connected, "10.0.0.1", "10.0.0.1") :=
    Option.map_eq_some_iff.mp (by decide +kernel)
  simp only [Prod.mk.injEq] at hobserved
  exact ⟨x, hrun, hobserved⟩

end Sample

end AddressResolution
