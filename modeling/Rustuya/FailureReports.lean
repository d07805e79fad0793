import Rustuya.RequestRefinement
import Rustuya.WireIntegrity

/-!
# Failures of requests that nobody waits for

With `nowait` the caller of a request has gone before the request is answered, and learns of
a failure from the messages that are broadcast. Every failure is broadcast, except for that
of the write itself.
-/
namespace FailureReports

open CheckedExecution Error Crypto Message Json DeviceState ConnectionTask TransitionSystem
open RequestLifecycle RequestRefinement

variable {C : Crates} {S : Codec} {build : Build} {device : Device} {w w' : World} {e : Event}
  {es : List Event}

/-- Requests do not wait for answers, and the device is neither stopped nor cancelled. -/
def Unwaited (w : World) : Prop := w.nowait = true ∧ w.cancelled = false ∧ w.stopped = false

/-- The run `es` to `w` has broadcast the code of `err` when the connection was lost, has
counted the loss since, and is about to answer the queued requests with `err`. -/
def LossReported (C : Crates) (S : Codec) (build : Build) (b : DeviceBuilder) (es : List Event)
    (w : World) (err : TuyaError) : Prop :=
  ∃ fs e gs v v', es = fs ++ e :: gs ∧
    Execution (next C S build b.device) (fun w _ => Unwaited w) b.run fs v ∧
    phaseOf v.pc = .closing (some err) ∧ next C S build b.device v e = some v' ∧
    (∃ s, newMessages v v' = [errorHelper S s err.code none]) ∧
    Execution (next C S build b.device) (fun w _ => w.pc = .countFailure err) v' gs w ∧
    w.pc = .countFailure err

/-- Every error that the step from `w` to `w'` answers is broadcast, in the step or earlier
as the loss of the connection. -/
def FailuresReported (C : Crates) (S : Codec) (build : Build) (b : DeviceBuilder)
    (es : List Event) (w w' : World) : Prop :=
  ∀ id err, (id, .error err) ∈ newReplies w w' →
    (∃ m ∈ newMessages w w', Report S m) ∨ LossReported C S build b es w err

theorem deed_sendFailed_iff : deed C S build device w e = .sendFailed ↔
    sendFails C build device w e = true := by
  cases e with
  | task e => simp [deed]
  | drop => simp [deed, sendFails]
  | reader e => cases e <;> simp [deed, sendFails]
  | user u =>
    rcases userDeed_cases w u with hu | hu | ⟨cmd, hu⟩ <;> simp [deed, sendFails, hu]

def Sendable (C : Crates) (build : Build) (device : Device) (w : World) (e : Event) : Prop :=
  Unwaited w ∧ sendFails C build device w e = false

theorem run_calm (b : DeviceBuilder)
    (h : Execution (next C S build b.device) (fun w _ => Unwaited w) b.run es w) :
    (desk w).phase = .over ∨ Calm (desk w) := by
  refine h.invariant (P := fun w => (desk w).phase = .over ∨ Calm (desk w)) ?_
    (.inr ⟨rfl, rfl, rfl⟩)
  intro v e v' ⟨hnowait, hcancelled, hstopped⟩ hnext hcalm
  exact step_preserves_calm (next_step hnext) hnowait hcancelled hstopped hcalm

theorem loss_reported (b : DeviceBuilder) {err : TuyaError}
    (h : Execution (next C S build b.device) (fun w _ => Unwaited w) b.run es w)
    (hpc : w.pc = .countFailure err) : LossReported C S build b es w err := by
  have hstart : ¬ b.run.pc = .countFailure err := nofun
  obtain ⟨fs, e, gs, v, v', rfl, hfs, hbefore, hv, hnext, hgs⟩ :=
    h.last_entry (P := fun w => w.pc = .countFailure err) hstart hpc
  have hafter : v'.pc = .countFailure err := by
    cases hgs with
    | nil => exact hpc
    | cons ha => exact ha
  obtain ⟨hclosing, s, hnews⟩ := step_counting (next_step hnext) hv.2.2
    (fun hphase => hbefore (phaseOf_counting hphase)) (congrArg phaseOf hafter)
  exact ⟨fs, e, gs, v, v', rfl, hfs, hclosing, hnext, ⟨s, hnews⟩, hgs, hpc⟩

/-- In every run of a device with `nowait` that nobody stops and in which no request fails to
be sent, every error that a request is answered with is broadcast. The condition is exact:
after such a run, a step reports its failures just in case it is not a request that fails
to be sent. -/
theorem failures_reported_iff (C : Crates) (S : Codec) (build : Build) (b : DeviceBuilder)
    (hrun : Execution (next C S build b.device) (Sendable C build b.device) b.run es w)
    (hw : Unwaited w) (h : next C S build b.device w e = some w') :
    FailuresReported C S build b es w w' ↔ sendFails C build b.device w e = false := by
  have hunwaited : Execution (next C S build b.device) (fun w _ => Unwaited w) b.run es w :=
    hrun.mono fun _ _ ha => ha.1
  have hstep := next_step h
  constructor
  · intro hreported
    by_contra hfails
    rw [Bool.not_eq_false] at hfails
    rw [deed_sendFailed_iff.mpr hfails] at hstep
    obtain ⟨req, err, hphase, hreplies, hnews⟩ := step_sendFailed hstep
    have hmem : (req.id, .error err) ∈ newReplies w w' := by
      rw [show newReplies w w' = _ from hreplies]
      exact List.mem_singleton_self _
    rcases hreported req.id err hmem with ⟨m, hm, -⟩ | hloss
    · rw [show newMessages w w' = _ from hnews] at hm
      cases hm
    · obtain ⟨-, -, -, -, -, -, -, -, -, -, -, hpc⟩ := hloss
      change phaseOf w.pc = .dispatching req at hphase
      rw [hpc] at hphase
      cases hphase
  · intro hsent id err hmem
    have hdeed : deed C S build b.device w e ≠ .sendFailed := by
      rw [Ne, deed_sendFailed_iff, hsent]
      exact Bool.false_ne_true
    have hquiet : (desk w).phase.quiet = true := by
      rcases run_calm b hunwaited with hover | hcalm
      · rw [hover]
        rfl
      · exact hcalm.quiet
    rcases step_reports hstep hdeed hw.2.1 hw.2.2 hquiet hmem with hnews | hcounting
    · exact .inl hnews
    · exact .inr (loss_reported b hunwaited (phaseOf_counting hcounting))

section Sample

def nowaitBuilder : DeviceBuilder := { sampleBuilder .v33 with nowait := true }

def unwaited (w : World) : Bool := w.nowait && !w.cancelled && !w.stopped

theorem unwaited_iff : unwaited w = true ↔ Unwaited w := by
  simp [unwaited, Unwaited, and_assoc]

def refusedSteps : List Event :=
  [.task .slept, .task .go, .task .go, .task .go, .task .go,
    .user (.submit ⟨1, .heartBeat, none, none⟩), .task .refused, .task .go]

theorem refused_connection_reported :
    ∃ w w', run (guarded (fun w e => unwaited w && !sendFails KnownAnswers.crates .release
          nowaitBuilder.device w e) (sampleNext .v33)) nowaitBuilder.run refusedSteps = some w ∧
      sampleNext .v33 w (.task .go) = some w' ∧
      newReplies w w' = [(1, .error .connectionFailed)] ∧
      FailuresReported KnownAnswers.crates (KnownAnswers.json []) .release nowaitBuilder
        refusedSteps w w' := by
  obtain ⟨w, hrun, hobserved⟩ : ∃ w, run (guarded (fun w e => unwaited w && !sendFails
        KnownAnswers.crates .release nowaitBuilder.device w e) (sampleNext .v33))
        nowaitBuilder.run refusedSteps = some w ∧
      (unwaited w, (sampleNext .v33 w (.task .go)).map (newReplies w))
        = (true, some [(1, .error .connectionFailed)]) :=
    Option.map_eq_some_iff.mp (by decide +kernel)
  obtain ⟨w', hstep, hreplies⟩ := Option.map_eq_some_iff.mp (congrArg Prod.snd hobserved)
  have hw : Unwaited w := unwaited_iff.mp (congrArg Prod.fst hobserved)
  refine ⟨w, w', hrun, hstep, hreplies, ?_⟩
  refine (failures_reported_iff KnownAnswers.crates (KnownAnswers.json []) .release nowaitBuilder
    (execution_of_guarded_run ?_ hrun) hw hstep).mpr rfl
  intro v e hv
  rw [Bool.and_eq_true, Bool.not_eq_true'] at hv
  exact ⟨unwaited_iff.mp hv.1, hv.2⟩

/-- The write of a request times out. The caller has gone, and no message is broadcast. -/
theorem failed_write_unreported :
    ∃ w w', run (guarded (fun w _ => unwaited w) (sampleNext .v33)) nowaitBuilder.run
        (WireIntegrity.connectSteps ++ WireIntegrity.heartbeatSteps 1 10) = some w ∧
      unwaited w = true ∧
      sampleNext .v33 w (.task (.writeFailed .timeout)) = some w' ∧
      newReplies w w' = [(1, .error .timeout)] ∧ newMessages w w' = [] := by
  obtain ⟨w, hrun, hobserved⟩ : ∃ w, run (guarded (fun w _ => unwaited w) (sampleNext .v33))
        nowaitBuilder.run (WireIntegrity.connectSteps ++ WireIntegrity.heartbeatSteps 1 10)
        = some w ∧
      (unwaited w, (sampleNext .v33 w (.task (.writeFailed .timeout))).map fun w' =>
        (newReplies w w', newMessages w w')) = (true, some ([(1, .error .timeout)], [])) :=
    Option.map_eq_some_iff.mp (by decide +kernel)
  obtain ⟨w', hstep, hnew⟩ := Option.map_eq_some_iff.mp (congrArg Prod.snd hobserved)
  exact ⟨w, w', hrun, congrArg Prod.fst hobserved, hstep, congrArg Prod.fst hnew,
    congrArg Prod.snd hnew⟩

end Sample

end FailureReports
