import Rustuya.RequestRefinement
import Rustuya.WireIntegrity

/-!
# Every request is accounted for

A request that the queue has accepted is queued, in the hands of the task, or answered. The
task takes requests from the queue in five places, and none of them loses one, as long as
the task is not cancelled.
-/
namespace RequestAccounting

open CheckedExecution Error Crypto Json DeviceState ConnectionTask TransitionSystem
open RequestLifecycle RequestRefinement

variable {C : Crates} {S : Codec} {build : Build} {device : Device} {w w' : World} {e : Event}
  {es : List Event}

/-- The request that a step puts into the queue. A step that finds the queue full is not
enabled, and a closed queue takes nothing. -/
def accepted (w : World) : Event → List Nat
  | .user (.submit req) => if w.queueClosed then [] else [req.id]
  | _ => []

def queued (w : World) : List Nat := queuedIds w.queue

/-- The request being processed, or carried along until there is a connection. -/
def held (w : World) : List Nat := heldIds (phaseOf w.pc)

def answered (w : World) : List Nat := answeredIds w.replies

def Exited (w : World) : Prop := w.pc = .exited ∨ w.pc = .crashed

theorem exited_of_over (h : (desk w).phase = .over) : Exited w := phaseOf_over h

theorem deed_ids (C : Crates) (S : Codec) (build : Build) (device : Device) (w : World)
    (e : Event) : (deed C S build device w e).ids = accepted w e := by
  cases e with
  | task e =>
    rw [deed]
    split <;> rfl
  | drop => rfl
  | reader e => cases e <;> rfl
  | user e =>
    cases e with
    | submit req =>
      simp only [deed, userDeed, sentDeed, accepted]
      split <;> rfl
    | connectNow =>
      simp only [deed, userDeed, sentDeed, accepted]
      split <;> rfl
    | advance i =>
      simp only [deed, userDeed, sentDeed, accepted]
      split
      · rfl
      · split <;> rfl
      · rfl
      · rfl
    | _ => rfl

theorem next_conserves (hcancelled : w.cancelled = false)
    (h : next C S build device w e = some w') (hlive : ¬ Exited w') :
    ¬ Exited w ∧ (desk w').ids.Perm ((desk w).ids ++ accepted w e) := by
  have hstep := next_step h
  have hphase : (desk w').phase ≠ .over := fun hover => hlive (exited_of_over hover)
  constructor
  · rintro (hpc | hpc)
    · refine hphase (step_over hstep ?_)
      rw [desk, hpc]
      rfl
    · refine hphase (step_over hstep ?_)
      rw [desk, hpc]
      rfl
  · rw [← deed_ids C S build device]
    exact step_conserves_ids hstep hcancelled hphase

/-- In every run without cancellation, until the task exits, the requests that the queue has
accepted are the queued ones, the one in hand and the answered ones, each as often as it was
accepted. So a request that was accepted once is in one of the three places, and answered
at most once. -/
theorem accepted_requests_located (C : Crates) (S : Codec) (build : Build) (b : DeviceBuilder)
    (hrun : Execution (next C S build b.device) (fun w _ => w.cancelled = false) b.run es w)
    (hlive : ¬ Exited w) :
    (harvest accepted (next C S build b.device) b.run es).Perm
      (queued w ++ held w ++ answered w) ∧
    ∀ id, (harvest accepted (next C S build b.device) b.run es).count id = 1 →
      ((queued w).count id = 1 ∧ id ∉ held w ∧ id ∉ answered w) ∨
      (id ∉ queued w ∧ (held w).count id = 1 ∧ id ∉ answered w) ∨
      (id ∉ queued w ∧ id ∉ held w ∧ (answered w).count id = 1) := by
  obtain ⟨-, hperm⟩ := hrun.conserves (f := accepted) (m := fun w => (desk w).ids)
    (P := fun w => ¬ Exited w)
    (fun _ _ _ hc hnext hw' => (next_conserves hc hnext hw').1)
    (fun _ _ _ hc hnext hw' => (next_conserves hc hnext hw').2) hlive
  -- Nothing is known of any request at the start.
  have hids : (harvest accepted (next C S build b.device) b.run es).Perm
      (queued w ++ held w ++ answered w) := hperm.symm
  refine ⟨hids, ?_⟩
  intro id hone
  have hcount := hids.count_eq id
  rw [hone, List.count_append, List.count_append] at hcount
  have hone_place : ∀ {l k m : List Nat}, l.count id + k.count id + m.count id = 1 →
      l.count id = 1 ∧ id ∉ k ∧ id ∉ m ∨ id ∉ l ∧ k.count id = 1 ∧ id ∉ m ∨
        id ∉ l ∧ id ∉ k ∧ m.count id = 1 := by
    intro l k m hsum
    rw [← List.count_eq_zero, ← List.count_eq_zero, ← List.count_eq_zero]
    omega
  exact hone_place hcount.symm

section Sample

def threeRequests : List Event :=
  WireIntegrity.connectSteps ++ WireIntegrity.heartbeatSteps 1 72 ++ [.task .writeDone] ++
    WireIntegrity.heartbeatSteps 2 10 ++ [.user (.submit ⟨3, .dpQuery, none, none⟩)]

theorem three_requests_located :
    ∃ w, run (guarded (fun w _ => !w.cancelled) (sampleNext .v33)) (sampleBuilder .v33).run
        threeRequests = some w ∧
      queued w = [3] ∧ held w = [2] ∧ answered w = [1] ∧
      (harvest accepted (sampleNext .v33) (sampleBuilder .v33).run threeRequests).Perm
        [3, 2, 1] := by
  obtain ⟨w, hrun, hobserved⟩ : ∃ w, run (guarded (fun w _ => !w.cancelled) (sampleNext .v33))
      (sampleBuilder .v33).run threeRequests = some w ∧
      (phaseOf w.pc matches .over, queued w, held w, answered w) = (false, [3], [2], [1]) :=
    Option.map_eq_some_iff.mp (by decide +kernel)
  simp only [Prod.mk.injEq] at hobserved
  obtain ⟨hphase, hqueued, hheld, hanswered⟩ := hobserved
  have hlive : ¬ Exited w := by
    rintro (hpc | hpc) <;> rw [hpc] at hphase <;> cases hphase
  have hlocated := (accepted_requests_located KnownAnswers.crates (KnownAnswers.json []) .release
    (sampleBuilder .v33) (execution_of_guarded_run (fun _ _ h => by simpa using h) hrun) hlive).1
  rw [hqueued, hheld, hanswered] at hlocated
  exact ⟨w, hrun, hqueued, hheld, hanswered, hlocated⟩

end Sample

end RequestAccounting
