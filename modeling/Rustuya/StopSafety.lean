import Rustuya.TaskRefinement

/-!
# Stopping a device

`stop` sets the state, cancels the task and closes the connection, in three steps that
other threads can come between. All writers of the state respect a stopped device, except
for the two that record a successful connection.
-/
namespace StopSafety

open CheckedExecution Error Crypto Protocol Json DeviceState ConnectionLifecycle
open ConnectionTask TransitionSystem TaskRefinement

variable {C : Crates} {S : Codec} {build : Build} {device : Device} {w w' : World} {e : Event}
  {es : List Event}

def MarksConnected (w : World) (e : Event) : Prop :=
  (∃ a, w.pc = .markConnected a) ∧ e = .task .go

theorem kind_marked_iff (h : next C S build device w e = some w') :
    kind w e = .marked ↔ MarksConnected w e := by
  constructor
  · intro hk
    rcases kind_cases w e with hkind | ⟨-, a, task, hpc, rfl⟩ | ⟨hkind, -⟩ | ⟨hkind, -⟩
    · rw [hk] at hkind
      cases hkind
    · refine ⟨⟨a, hpc⟩, ?_⟩
      rw [next, taskNext, hpc] at h
      cases task with
      | go => rfl
      | _ => cases h
    · rw [hk] at hkind
      cases hkind
    · rw [hk] at hkind
      cases hkind
  · rintro ⟨⟨a, hpc⟩, rfl⟩
    rw [kind, taskKind, hpc]

theorem stopped_step_iff (hw : Placed w) (hstopped : w.shared.state = .stopped)
    (h : next C S build device w e = some w') :
    w'.shared.state = .stopped ↔ ¬ MarksConnected w e := by
  have hstep : Refines (terms C build device fun _ => True) w w.pc (kind w e) w' :=
    next_refines (fun _ _ _ _ _ _ => trivial) hw h
  rw [← kind_marked_iff h]
  exact step_stopped_iff hstep.step hstopped

/-- From a stopped state of any run, a step stays stopped unless it marks the device
connected, and a run without such steps stays stopped to its end. -/
theorem stop_is_final_iff (C : Crates) (S : Codec) (build : Build) (b : DeviceBuilder)
    (hrun : Execution (next C S build b.device) (fun _ _ => True) b.run es w)
    (hstopped : w.stopped = true) :
    (∀ e w', next C S build b.device w e = some w' →
      (w'.stopped = true ↔ ¬ MarksConnected w e)) ∧
    (∀ fs w', Execution (next C S build b.device)
        (fun v e => v.stopped = true → ¬ MarksConnected v e) w fs w' →
      w'.stopped = true ∧ w'.connected = false) := by
  have hplaced : Placed w :=
    hrun.invariant (fun _ _ _ _ hnext hw => next_placed hw hnext) (placed_run b)
  have hstate : ∀ {v : World}, v.stopped = true ↔ v.shared.state = .stopped := decide_eq_true_iff
  constructor
  · intro e w' h
    rw [hstate]
    exact stopped_step_iff hplaced (hstate.mp hstopped) h
  · intro fs w' h
    have hfinal : w'.shared.state = .stopped := by
      refine (run_preserves (P := fun l => l.state = .stopped) (fun _ _ _ _ _ _ => trivial) ?_
        (fun l k l' hstep hk hl => (step_stopped_iff hstep hl).mpr hk) h hplaced
        (hstate.mp hstopped)).2
      intro v e v' hnext hallowed hl hk
      exact hallowed (hstate.mpr hl) ((kind_marked_iff hnext).mp hk)
    refine ⟨hstate.mpr hfinal, ?_⟩
    rw [World.connected, hfinal]
    rfl

section Sample

theorem stop_before_connecting :
    ∃ stopped exited,
      run (sampleNext .v33) (sampleBuilder .v33).run [.task .slept, .user .stop] = some stopped ∧
      stopped.stopped = true ∧
      Execution (sampleNext .v33) (fun v e => v.stopped = true → ¬ MarksConnected v e) stopped
        [.user (.advance 0), .task .go, .user (.advance 0)] exited ∧
      exited.stopped = true ∧ exited.connected = false := by
  have hquiet : ∀ {v : World} {e : Event}, v.pc = .loopHead ∨ v.pc = .exiting →
      v.stopped = true → ¬ MarksConnected v e := by
    rintro v e hpc - ⟨⟨a, hmark⟩, -⟩
    rcases hpc with hpc | hpc <;> rw [hpc] at hmark <;> cases hmark
  obtain ⟨stopped, hstop, hflag, exited, hexec⟩ : ∃ stopped,
      run (sampleNext .v33) (sampleBuilder .v33).run [.task .slept, .user .stop] = some stopped ∧
      stopped.stopped = true ∧
      ∃ exited, Execution (sampleNext .v33) (fun v e => v.stopped = true → ¬ MarksConnected v e)
        stopped [.user (.advance 0), .task .go, .user (.advance 0)] exited :=
    ⟨_, rfl, rfl, _, .cons (hquiet (.inl rfl)) rfl
      (.cons (hquiet (.inl rfl)) rfl (.cons (hquiet (.inr rfl)) rfl (.nil _)))⟩
  refine ⟨stopped, exited, hstop, hflag, hexec, ?_⟩
  exact (stop_is_final_iff KnownAnswers.crates (KnownAnswers.json []) .release (sampleBuilder .v33)
    (execution_of_run (fun _ _ => trivial) hstop) hflag).2 _ _ hexec

def stopWhileConnecting : List Event :=
  [.task .slept, .task .go, .task .go, .task .go, .task .go, .task .dialed, .task .go, .user .stop]

/-- The task overwrites the stopped state, and the rest of `stop` takes the device for
one that was never stopped. -/
theorem stop_is_overwritten :
    ∃ stopped connected closed,
      run (sampleNext .v33) (sampleBuilder .v33).run stopWhileConnecting = some stopped ∧
      stopped.stopped = true ∧
      run (sampleNext .v33) stopped [.task .go] = some connected ∧
      connected.stopped = false ∧ connected.connected = true ∧
      run (sampleNext .v33) connected [.user (.advance 0), .user (.advance 0)] = some closed ∧
      closed.cancelled = true ∧ closed.stopped = false ∧ closed.shared.state = .disconnected :=
  ⟨_, _, _, rfl, rfl, rfl, rfl, rfl, rfl, rfl, rfl, rfl⟩

end Sample

end StopSafety
