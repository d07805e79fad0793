import Rustuya.AddressResolution

/-!
# Looking again for a device that has moved

A device without a fixed address is located by discovery, and what was found may have gone out
of date when a connection fails. The retry then asks for a new discovery, but it recognises
only one of the addresses that stand for no address.
-/
namespace Rediscovery

open CheckedExecution Error Crypto Json DeviceState ConnectionTask TransitionSystem
open AddressResolution
open TaskRefinement (onGo_eq_some)

/-- The retry drops what the scanner knows of the device, and the discovery is asked for until
the address is resolved again. -/
structure Rediscovered (C : Crates) (S : Codec) (build : Build) (device : Device) (w w' : World) :
    Prop where
  invalidated : w'.invalidations = w.invalidations + 1
  forced : ∀ fs v, Execution (next C S build device) (fun u _ => resolving u.pc = false) w' fs v →
    v.shared.forceDiscovery = true

variable {C : Crates} {S : Codec} {build : Build} {device : Device} {w w' : World}

theorem step_forced {e : Event} (hpc : resolving w.pc = false)
    (h : next C S build device w e = some w') (hforced : w.shared.forceDiscovery = true) :
    w'.shared.forceDiscovery = true := by
  cases next_move h with
  | quiet hplace hpc hreturned => exact (congrArg Place.forceDiscovery hplace).trans hforced
  | set address he hplace hpc => exact congrArg Place.forceDiscovery hplace
  | retry forced hplace hpc hreturned =>
    refine (congrArg Place.forceDiscovery hplace).trans ?_
    dsimp only
    rw [hforced, Bool.true_or]
  | resolve a hresolve => rw [hresolve] at hpc; cases hpc
  | discover a configAddr found hdiscover => rw [hdiscover] at hpc; cases hpc

theorem run_forced {es : List Event}
    (h : Execution (next C S build device) (fun u _ => resolving u.pc = false) w es w')
    (hforced : w.shared.forceDiscovery = true) : w'.shared.forceDiscovery = true :=
  h.invariant (P := fun w => w.shared.forceDiscovery = true)
    (fun _ _ _ hpc hstep => step_forced hpc hstep) hforced

theorem scheduleRetry_effect {err : TuyaError} (h : (scheduleRetry build w err).pc = .tryHead) :
    (scheduleRetry build w err).invalidations
        = w.invalidations + (if rediscovers w.shared err then 1 else 0) ∧
      (scheduleRetry build w err).shared.forceDiscovery
        = (w.shared.forceDiscovery || rediscovers w.shared err) := by
  unfold scheduleRetry at h ⊢
  split at h
  · exact ⟨rfl, rfl⟩
  · cases h
  · cases h

/-- A connection has failed with an error that may mean that the device has moved, and the
task goes on to the next attempt. The device is looked for again just in case the address on
record is `Auto`. -/
theorem rediscovery_iff (C : Crates) (S : Codec) (build : Build) (device : Device)
    {err : TuyaError} {e : TaskEvent} (hpc : w.pc = .scheduleRetry err)
    (herr : err = .keyOrVersionError ∨ err = .offline)
    (h : next C S build device w (.task e) = some w') (hretries : w'.pc = .tryHead) :
    Rediscovered C S build device w w' ↔ w.shared.configAddress = addrAuto := by
  have hnext : w' = scheduleRetry build w err := by
    change taskNext C S build device w e = some w' at h
    rw [taskNext, hpc] at h
    exact onGo_eq_some h
  subst hnext
  obtain ⟨hinvalidated, hforced⟩ := scheduleRetry_effect hretries
  constructor
  · intro hrediscovered
    have hcount := hinvalidated.symm.trans hrediscovered.invalidated
    by_contra hother
    have hkept : rediscovers w.shared err = false := by
      rw [rediscovers, decide_eq_false hother, Bool.false_and]
    rw [hkept] at hcount
    exact absurd hcount (Nat.ne_of_lt (Nat.lt_succ_self _))
  · intro hauto
    have hasked : rediscovers w.shared err = true := by
      rw [rediscovers, decide_eq_true hauto, decide_eq_true herr, Bool.true_and]
    rw [hasked] at hinvalidated hforced
    exact ⟨hinvalidated, fun fs v hrun => run_forced hrun (hforced.trans (Bool.or_true _))⟩

section Sample

def locatedBuilder (address : String) : DeviceBuilder := { sampleBuilder .v33 with address }

def moved : List Event :=
  [.task .slept, .task .go, .task .go, .task .go, .task .go,
    .task (.discovered (some ⟨"192.168.0.10", none⟩)), .task .elapsed, .task .go, .task .go,
    .task .go]

def retrying : Pc → Option TuyaError
  | .scheduleRetry err => some err
  | _ => none

theorem scheduleRetry_of_retrying {pc : Pc} {err : TuyaError} (h : retrying pc = some err) :
    pc = .scheduleRetry err := by
  cases pc <;> cases h
  rfl

def sampleRun (address : String) : Option World :=
  run (next KnownAnswers.crates (KnownAnswers.json []) .release (locatedBuilder address).device)
    (locatedBuilder address).run moved

theorem auto_address_rediscovered :
    ∃ w, sampleRun "Auto" = some w ∧ w.pc = .scheduleRetry .offline ∧
      Rediscovered KnownAnswers.crates (KnownAnswers.json []) .release
        (locatedBuilder "Auto").device w (scheduleRetry .release w .offline) := by
  obtain ⟨w, hrun, hobserved⟩ : ∃ w, sampleRun "Auto" = some w ∧
      (retrying w.pc, w.shared.configAddress, w.shared.failureCount)
        = (some .offline, addrAuto, 0) := Option.map_eq_some_iff.mp (by decide +kernel)
  simp only [Prod.mk.injEq] at hobserved
  obtain ⟨hretrying, hauto, hcount⟩ := hobserved
  have hpc := scheduleRetry_of_retrying hretrying
  refine ⟨w, hrun, hpc, ?_⟩
  refine (rediscovery_iff _ _ _ _ (e := .go) hpc (.inr rfl) ?_ ?_).mpr hauto
  · change taskNext _ _ _ _ w .go = _
    rw [taskNext, hpc]
    rfl
  · rw [scheduleRetry, hcount]
    rfl

/-- The address `0.0.0.0` stands for no address as well, and was given to the builder. The
device has been found and has moved; the retry keeps what the scanner knows and asks for no
discovery. -/
theorem unspecified_address_not_rediscovered :
    ∃ w w', sampleRun "0.0.0.0" = some w ∧ ipExplicit w.shared.configAddress = false ∧
      w.shared.persist = true ∧ w.pc = .scheduleRetry .offline ∧
      next KnownAnswers.crates (KnownAnswers.json []) .release (locatedBuilder "0.0.0.0").device w
        (.task .go) = some w' ∧
      w'.invalidations = w.invalidations ∧ w'.shared.forceDiscovery = false := by
  obtain ⟨w, hrun, hobserved⟩ : ∃ w, sampleRun "0.0.0.0" = some w ∧
      (retrying w.pc, ipExplicit w.shared.configAddress, w.shared.persist,
          (scheduleRetry .release w .offline).invalidations,
          (scheduleRetry .release w .offline).shared.forceDiscovery, w.invalidations)
        = (some .offline, false, true, 0, false, 0) := Option.map_eq_some_iff.mp (by decide +kernel)
  simp only [Prod.mk.injEq] at hobserved
  obtain ⟨hretrying, hlocated, hpersist, hafter, hforced, hbefore⟩ := hobserved
  have hpc := scheduleRetry_of_retrying hretrying
  refine ⟨w, _, hrun, hlocated, hpersist, hpc, ?_, hafter.trans hbefore.symm, hforced⟩
  change taskNext _ _ _ _ w .go = _
  rw [taskNext, hpc]
  rfl

end Sample

end Rediscovery
